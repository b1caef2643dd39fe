/-
  ExynosHal/AssignmentMoves.lean
  ==============================
  **What an assignment does to the MPPs, move by move.**

  However long an assignment is, it touches the MPPs and the links between them
  and the sources by a dozen moves only.  `MoveRule` lists them: an assertion that
  every move keeps is kept by all operations, up to `assignResource`.
-/
import ExynosHal.AssignmentRun

namespace ExynosHal.AssignmentMoves

open ExynosHal.Assignment ExynosHal.CompositionRange ExynosHal.ResourceManager
open ExynosHal.AssignmentRun ExynosHal.TransitionSystem

/-! ### Moves -/

/-- Neither the MPPs nor the links to them differ. -/
structure SameLinks (s s' : State) : Prop where
  mpp : s'.mpp = s.mpp
  otfMPP : s'.otfMPP = s.otfMPP
  m2mMPP : s'.m2mMPP = s.m2mMPP

theorem SameLinks.rfl' {s : State} : SameLinks s s := ⟨rfl, rfl, rfl⟩

/-- An assigned MPP takes one more source. -/
def HasRoom (d : Display) (s : State) (m : MppId) : Prop :=
  (s.mpp m).assigned = true → (s.mpp m).assignedSources.length < (d.mpp m).maxSrcLayerNum

/-- The layers drop what they are linked to. -/
def forgetLayers (s : State) : State :=
  { s with
    otfMPP := fun x => match x with | .layer _ => none | x => s.otfMPP x
    m2mMPP := fun x => match x with | .layer _ => none | x => s.m2mMPP x }

/-- **What has to be shown of each move** for `I` to be kept by all operations.
    `O` and `M` are what is known of the OTF and the M2M MPPs in use. -/
structure MoveRule (d : Display) (O M : MppId → Prop) (I : State → Prop) : Prop where
  account : ∀ s s', I s → SameLinks s s' → I s'
  reset : ∀ s m, I s → I (s.resetAssignedState m)
  releaseM2m : ∀ s i, I s → I (s.releaseM2m i)
  releaseOtf : ∀ s i, I s → I (s.releaseOtf i)
  client : ∀ s, I s → I s.initializeClient
  exynos : ∀ s, I s → I (s.initializeExynos d)
  forget : ∀ s, I s → I (forgetLayers s)
  disable : ∀ s m, I s → I (disableMpp s m)
  otf : ∀ o ∈ d.otfMPPs, O o
  otfOf : ∀ s x o, I s → s.otfMPP x = some o → O o
  m2m : ∀ m ∈ d.m2mMPPs, M m
  m2mOf : ∀ s x m, I s → s.m2mMPP x = some m → M m
  assignOtf : ∀ s o x, I s → O o → HasRoom d s o → I (s.assignOtf d o x)
  assignM2m : ∀ s m x, I s → M m → I (s.assignM2m d m x)
  retype : ∀ s m l, I s → M m → (∀ h ∈ l, d.isHigh h = true) → isHighInside s l = true →
    I (setLogicalType s m .g2dRGB)

namespace MoveRule

variable {d : Display} {O M : MppId → Prop} {I : State → Prop}

section Ranges

variable (R : MoveRule d O M I) {s : State} {i k : Nat} {m : MppId}
include R

theorem release (h : I s) : I (s.resetAssignedResource i) :=
  R.releaseOtf _ i (R.releaseM2m s i h)

theorem retypeLayer {t : ValidateType} (h : I s) : I (s.setType i t) :=
  R.account s _ h ⟨rfl, rfl, rfl⟩

theorem setClientRange {a b : Int} (h : I s) : I (s.setClientRange a b) :=
  R.account s _ h ⟨rfl, rfl, rfl⟩

theorem setExynosRange {a b : Int} (h : I s) : I (s.setExynosRange a b) :=
  R.account s _ h ⟨rfl, rfl, rfl⟩

theorem decrementWindow {x : Source} (h : I s) : I (s.decrementWindow x) :=
  R.account s _ h ⟨rfl, rfl, rfl⟩

theorem countCheck (h : I s) : I s.countCheck := R.account s _ h ⟨rfl, rfl, rfl⟩

theorem record {e : Event} (h : I s) : I (s.record e) := R.account s _ h ⟨rfl, rfl, rfl⟩

theorem recordTaken {how : Taken} (h : I s) : I (s.recordTaken how i) := R.record h

theorem sandwichClient {p : State × Bool} (h : I p.1) :
    I (CompositionRange.sandwichClient d p i).1 := by
  unfold CompositionRange.sandwichClient
  split
  · exact h
  · split
    · exact h
    · apply R.retypeLayer
      apply R.release
      split
      · exact R.decrementWindow (R.recordTaken h)
      · exact R.recordTaken h

theorem addClientCompositionLayer (h : I s) :
    I (CompositionRange.addClientCompositionLayer d s k).1 := by
  unfold CompositionRange.addClientCompositionLayer
  split
  · exact R.account s _ h ⟨rfl, rfl, rfl⟩
  · dsimp only
    have hrange : I (s.setClientRange (min s.client.firstIndex k) (max s.client.lastIndex k)) :=
      R.setClientRange h
    split
    · exact hrange
    · have hloop := foldl_keeps (P := fun p : State × Bool => I p.1)
        (fun p i hp => R.sandwichClient (i := i) hp)
        (between (min s.client.firstIndex k) (max s.client.lastIndex k))
        (s := (s.setClientRange (min s.client.firstIndex k) (max s.client.lastIndex k), false)) hrange
      split
      · unfold updateExynosRange
        split
        · exact hloop
        · split
          · exact R.exynos _ hloop
          · exact R.setExynosRange hloop
      · exact hloop

theorem removeClientCompositionLayer (h : I s) :
    I (CompositionRange.removeClientCompositionLayer s k).1 := by
  unfold CompositionRange.removeClientCompositionLayer
  split
  · exact h
  · split
    · split
      · exact h
      · next m _ => exact R.decrementWindow (R.client _ (R.reset s m h))
    · split <;> exact R.setClientRange h

theorem giveLayer (h : I s) :
    I (CompositionRange.addClientCompositionLayer d
      ((s.resetAssignedResource i).setType i .client) k).1 :=
  R.addClientCompositionLayer (R.retypeLayer (R.release h))

theorem refuse {a : Sandwich} (h : I a.state) : I (CompositionRange.refuse d a i).state :=
  R.giveLayer (R.recordTaken h)

theorem join (h : I s) (hm : M m) : I (CompositionRange.join d m s i) := by
  unfold CompositionRange.join
  apply R.setExynosRange
  apply R.retypeLayer
  split
  · exact R.decrementWindow (R.assignM2m _ m _ (R.release (R.recordTaken h)) hm)
  · exact R.assignM2m _ m _ (R.release (R.recordTaken h)) hm

theorem sandwichExynos {a : Sandwich} (h : I a.state) (hm : M m) :
    I (CompositionRange.sandwichExynos d m a i).state := by
  unfold CompositionRange.sandwichExynos
  split
  · exact h
  · split
    · exact h
    · split
      · exact h
      · split
        · exact h
        · split
          · exact R.refuse h
          · exact R.join h hm

theorem handleNestedClientCompositionLayer (h : I s) :
    I (CompositionRange.handleNestedClientCompositionLayer d s).1 := by
  have hend : ∀ i (cut : State → State), (∀ s, I s → I (cut s)) → I (giveUpEnd d s i cut).1 := by
    intro i cut hcut
    have hgive : I (CompositionRange.addClientCompositionLayer d
        (((s.recordTaken .nested i).resetAssignedResource i).setType i .client) i).1 :=
      R.giveLayer (R.recordTaken h)
    unfold giveUpEnd
    dsimp only
    split
    · exact hgive
    · split
      · exact hgive
      · exact hcut _ hgive
  unfold CompositionRange.handleNestedClientCompositionLayer
  split
  · exact h
  · split
    · exact hend _ _ fun _ hs => R.setExynosRange hs
    · exact hend _ _ fun _ hs => R.setExynosRange hs

omit R in
/-- The loop over the exynos range collects layers of high priority only. -/
theorem highPriLayers_isHigh {s : State} {h : Nat}
    (hh : h ∈ (handleSandwitchedExynosCompositionLayer d m s).highPriLayers) :
    d.isHigh h = true := by
  refine foldl_keeps (P := fun a : Sandwich => ∀ h ∈ a.highPriLayers, d.isHigh h = true)
    (fun a i ha => ?_) _ (fun _ hmem => absurd hmem List.not_mem_nil) h hh
  unfold CompositionRange.sandwichExynos
  split
  · exact ha
  · split
    · next hi =>
      intro k hk
      rcases List.mem_append.mp hk with hk | hk
      · exact ha k hk
      · exact List.mem_singleton.mp hk ▸ hi
    · split
      · exact ha
      · split
        · exact ha
        · split <;> exact ha

theorem disableExynosComposition {l : List Nat} (h : I s) (hm : M m)
    (hl : ∀ h ∈ l, d.isHigh h = true) (hin : isHighInside s l = true) :
    I (CompositionRange.disableExynosComposition d m s) := by
  have hloop : ∀ l : List Nat,
      I (l.foldl (CompositionRange.disable d) (setLogicalType s m .g2dRGB)) := by
    intro l'
    refine foldl_keeps (P := I) (fun s i hs => ?_) l' (R.retype s m l h hm hl hin)
    unfold CompositionRange.disable
    split
    · exact hs
    · exact R.giveLayer hs
  exact R.exynos _ (hloop _)

theorem settleExynosRange {l : List Nat} {changeFlag : Bool} (h : I s) (hm : M m)
    (hl : ∀ h ∈ l, d.isHigh h = true) :
    I (CompositionRange.settleExynosRange d m s l changeFlag).1 := by
  have htrim : I (if (s.mpp m).logicalType = .g2dRGB then l.foldl trim s else s) := by
    split
    · refine foldl_keeps (P := I) (fun s j hs => ?_) l h
      unfold trim
      split
      · exact R.setExynosRange hs
      · split
        · exact R.setExynosRange hs
        · exact hs
    · exact h
  unfold CompositionRange.settleExynosRange
  dsimp only
  generalize (if (s.mpp m).logicalType = .g2dRGB then l.foldl trim s else s) = s' at htrim
  have hvalid : I (if isIndexValid d s' = false then s'.initializeExynos d else s') := by
    split
    · exact R.exynos _ htrim
    · exact htrim
  generalize (if isIndexValid d s' = false then s'.initializeExynos d else s') = s'' at hvalid
  split
  · next hin => exact R.disableExynosComposition hvalid hm hl hin
  · exact hvalid

theorem addExynosCompositionLayer (h : I s) :
    I (CompositionRange.addExynosCompositionLayer d s k).1 := by
  have hgrown : I (grown d s k) := R.setExynosRange (R.record (R.countCheck h))
  rw [addExynosCompositionLayer_eq]
  split
  · exact R.account s _ h ⟨rfl, rfl, rfl⟩
  split
  · exact hgrown
  next m hlink =>
  split
  · exact hgrown
  have hm : M m := R.m2mOf s .exynos m h hlink
  have ha : I (handleSandwitchedExynosCompositionLayer d m (grown d s k)).state :=
    foldl_keeps (P := fun a : Sandwich => I a.state)
      (fun a i ha => R.sandwichExynos (i := i) ha hm) _ hgrown
  have hl : ∀ h ∈ (handleSandwitchedExynosCompositionLayer d m (grown d s k)).highPriLayers,
      d.isHigh h = true := fun h hh => highPriLayers_isHigh hh
  generalize handleSandwitchedExynosCompositionLayer d m (grown d s k) = a at ha hl
  unfold settleSandwich
  split
  · exact ha
  have hn : I (if a.invalidFlag then
      CompositionRange.handleNestedClientCompositionLayer d a.state else (a.state, .noError)).1 := by
    split
    · exact R.handleNestedClientCompositionLayer ha
    · exact ha
  dsimp only
  generalize (if a.invalidFlag then
    CompositionRange.handleNestedClientCompositionLayer d a.state else (a.state, .noError)) = q at hn
  split
  · exact hn
  · exact R.settleExynosRange hn hm hl

end Ranges

end MoveRule

/-! ### Answers -/

/-- What `assignLayer` answers comes from the MPPs of the device, and an OTF MPP
    among it has room. -/
structure IsOffer (d : Display) (s : State) (a : Assigned) : Prop where
  otf : ∀ o, a.otfMPP = some o → o ∈ d.otfMPPs ∧ HasRoom d s o
  m2m : ∀ m, a.m2mMPP = some m → m ∈ d.m2mMPPs

theorem hasRoom_of_isAssignableState {d : Display} {s : State} {m : MppId}
    (h : s.isAssignableState d m = true) : HasRoom d s m := by
  intro ha
  unfold State.isAssignableState at h
  split at h
  · exact absurd h Bool.false_ne_true
  · rw [Bool.and_eq_true, decide_eq_true_eq] at h
    exact h.2

theorem hasRoom_of_isOtfAssignable {d : Display} {s : State} {m : MppId} {src dst : Image}
    (h : s.isOtfAssignable d m src dst = true) : HasRoom d s m := by
  unfold State.isOtfAssignable State.isAssignable at h
  rw [Bool.and_eq_true, Bool.and_eq_true] at h
  exact hasRoom_of_isAssignableState h.1.1

theorem isOffer_none (d : Display) (s : State) (t : ValidateType) (b : Bool) :
    IsOffer d s ⟨t, none, none, b⟩ :=
  ⟨(fun _ h => nomatch h), (fun _ h => nomatch h)⟩

theorem tryM2mMPP_isOffer {d : Display} {s : State} {i : Nat} {w : Bool} {m : MppId} {a : Assigned}
    (hm : m ∈ d.m2mMPPs) (h : tryM2mMPP d s i w m = some a) : IsOffer d s a := by
  unfold tryM2mMPP at h
  dsimp only at h
  split at h
  · exact nomatch h
  split at h
  · exact nomatch h
  split at h
  · exact nomatch h
  split at h
  · exact nomatch h
  split at h
  · unfold tryScaler at h
    obtain ⟨c, -, hc⟩ := List.exists_of_findSome?_eq_some h
    split at hc
    · obtain ⟨o, ho, rfl⟩ := Option.map_eq_some_iff.mp hc
      unfold findOtfMPPForCandidate at ho
      have hp := List.find?_some ho
      rw [Bool.and_eq_true] at hp
      refine ⟨fun o' heq => ?_, fun m' heq => ?_⟩
      · obtain rfl := Option.some.inj heq
        exact ⟨List.mem_of_find?_eq_some ho, hasRoom_of_isOtfAssignable hp.2⟩
      · obtain rfl := Option.some.inj heq
        exact hm
    · exact nomatch hc
  · split at h
    · obtain rfl := Option.some.inj h
      refine ⟨(fun _ heq => nomatch heq), fun m' heq => ?_⟩
      obtain rfl := Option.some.inj heq
      exact hm
    · exact nomatch h

theorem findResource_isOffer {d : Display} {s : State} {i : Nat} {w : Bool} {a : Assigned}
    (h : findResource d s i w = some a) : IsOffer d s a := by
  unfold findResource at h
  split at h
  · next o ho =>
    obtain rfl := Option.some.inj h
    split at ho
    · unfold findOtfMPP at ho
      have hp := List.find?_some ho
      rw [Bool.and_eq_true, Bool.and_eq_true] at hp
      refine ⟨fun o' heq => ?_, (fun _ heq => nomatch heq)⟩
      obtain rfl := Option.some.inj heq
      exact ⟨List.mem_of_find?_eq_some ho, hasRoom_of_isOtfAssignable hp.1.2⟩
    · exact nomatch ho
  · obtain ⟨m, hm, hc⟩ := List.exists_of_findSome?_eq_some h
    exact tryM2mMPP_isOffer hm hc

/-- `assignLayer` moves nothing. -/
theorem assignLayer_links (d : Display) (s : State) (i : Nat) :
    SameLinks s (assignLayer d s i).1 := by
  obtain ⟨hdr, heq⟩ := assignLayer_state d s i
  rw [heq]
  exact ⟨rfl, rfl, rfl⟩

theorem assignLayer_isOffer (d : Display) (s : State) (i : Nat) :
    IsOffer d (assignLayer d s i).1 (assignLayer d s i).2 := by
  unfold assignLayer
  dsimp only
  split
  · next a ha =>
    split at ha
    · exact findResource_isOffer ha
    · exact nomatch ha
  · unfold failLayer
    split
    · exact isOffer_none _ _ _ _
    · exact isOffer_none _ _ _ _

/-- Removing a client layer makes room only. -/
theorem hasRoom_removeClientCompositionLayer {d : Display} {s : State} {i k : Nat} {o : MppId}
    {how : Taken} (h : HasRoom d s o) :
    HasRoom d (removeClientCompositionLayer (s.recordTaken how i) k).1 o := by
  unfold removeClientCompositionLayer
  split
  · exact h
  · split
    · split
      · exact h
      · next m _ =>
        intro ha
        by_cases hm : o = m
        · subst hm
          simp [State.resetAssignedState, State.initializeClient, State.decrementWindow,
            State.record] at ha
        · have heq : ((((s.recordTaken how i).resetAssignedState m).initializeClient).decrementWindow
              .client).mpp o = s.mpp o := Function.update_of_ne hm _ _
          rw [heq] at ha ⊢
          exact h ha
    · split <;> exact h

/-! ### Whole assignments -/

namespace MoveRule

variable {d : Display} {O M : MppId → Prop} {I : State → Prop}

section Passes

variable (R : MoveRule d O M I) {s : State} {i : Nat}
include R

theorem takeOffer {a : Assigned} (h : I s) (ha : IsOffer d s a) : I (takeWindow d s i a) := by
  have hotf : I (assignOtfOf d s a.otfMPP i) := by
    unfold assignOtfOf
    split
    · next o ho => exact R.assignOtf s o _ h (R.otf o (ha.otf o ho).1) (ha.otf o ho).2
    · exact h
  have hm2m : I (assignM2mOf d (assignOtfOf d s a.otfMPP i) a.m2mMPP i) := by
    generalize assignOtfOf d s a.otfMPP i = s' at hotf
    unfold assignM2mOf
    split
    · next m hm => exact R.assignM2m s' m _ hotf (R.m2m m (ha.m2m m hm))
    · exact hotf
  exact R.account _ _ hm2m ⟨rfl, rfl, rfl⟩

theorem initializeInfos (h : I s) : I (initializeValidateInfos d s) :=
  R.exynos _ (R.client _ (R.account s _ h ⟨rfl, rfl, rfl⟩))

theorem resetOtf {x : Source} (h : I s) : I (resetOtfOf s x) := by
  unfold resetOtfOf
  split
  · exact R.reset s _ h
  · exact h

theorem resetM2m {x : Source} (h : I s) : I (resetM2mOf s x) := by
  unfold resetM2mOf
  split
  · exact R.reset s _ h
  · exact h

theorem startAgain (h : I s) : I (reassign d s) := by
  have hclient : I (if s.client.hasCompositionLayer then resetOtfOf s .client else s) := by
    split
    · exact R.resetOtf h
    · exact h
  unfold reassign
  dsimp only
  generalize (if s.client.hasCompositionLayer then resetOtfOf s .client else s) = s' at hclient
  apply R.initializeInfos
  split
  · exact R.resetM2m (R.resetOtf hclient)
  · exact hclient

theorem assignOneLayer {p : OverlayPriority} (h : I s) :
    I (ResourceManager.assignOneLayer d p s i).1 := by
  have hmet : I (assignLayer d (met d s i) i).1 :=
    R.account _ _ (R.record h) (assignLayer_links d _ i)
  have hoffer := assignLayer_isOffer d (met d s i) i
  have hstep := assignOneLayer_cases d s i p
  generalize ResourceManager.assignOneLayer d p s i = q at hstep
  cases hstep with
  | passed => exact h
  | device => exact R.takeOffer hmet hoffer
  | exynos =>
      apply R.addExynosCompositionLayer
      apply R.retypeLayer
      generalize assignLayer d (met d s i) i = r at hmet hoffer
      unfold assignM2mOf
      split
      · next m hm => exact R.assignM2m _ m _ hmet (R.m2m m (hoffer.m2m m hm))
      · exact hmet
  | reassigned => exact R.startAgain hmet
  | client => exact R.addClientCompositionLayer (R.retypeLayer hmet)

theorem assignLayers {p : OverlayPriority} (h : I s) : I (ResourceManager.assignLayers d s p).1 :=
  (show Ends I (fun _ => True) (ResourceManager.assignLayers d s p) from
    .loop_all (fun _ _ _ hs _ => ⟨R.assignOneLayer hs, fun _ => trivial⟩) h trivial).keeps

theorem assignTarget {x : Source} (h : I s) : I (assignCompositionTarget d s x).1 := by
  have hcount : I s.countCheck := R.countCheck h
  have hstep := assignCompositionTarget_cases d s x
  generalize assignCompositionTarget d s x = q at hstep
  cases hstep with
  | idle => exact hcount
  | noDpu => exact hcount
  | invalid => exact hcount
  | insufficient => exact hcount
  | assigned o _ _ _ ho =>
      have hp := List.find?_some ho
      rw [Bool.and_eq_true] at hp
      have hassigned := R.assignOtf _ o x hcount (R.otf o (List.mem_of_find?_eq_some ho))
        (hasRoom_of_isOtfAssignable hp.2)
      exact R.account _ _ hassigned ⟨rfl, rfl, rfl⟩

theorem resetAll (h : I s) : I (resetAssignedResources d s) := by
  have hotf : I (d.otfMPPs.foldl
      (fun s m => if (s.mpp m).assignedHere then s.resetAssignedState m else s) s) := by
    refine foldl_keeps (P := I) (fun s m hs => ?_) _ h
    split
    · exact R.reset s m hs
    · exact hs
  refine R.account _ _ (foldl_keeps (P := I) (fun s m hs => ?_) d.m2mMPPs hotf) ⟨rfl, rfl, rfl⟩
  split
  · exact R.reset s m hs
  · exact hs

theorem giveUp (h : I s) : I (giveUpExynosComposition d s).1 :=
  giveUpExynosComposition_keeps (fun _ _ hs => R.giveLayer hs) R.exynos h

theorem prioritize (h : I s) : I (setResourcePriority d s).1 := by
  have hcount : I s.countCheck := R.countCheck h
  unfold setResourcePriority
  dsimp only
  split
  · exact hcount
  · next m _ =>
    split
    · exact hcount
    · have hloop : I ((List.range d.layerNum).foldl (prioritizeLayer d) (s.countCheck, false)).1 := by
        refine foldl_keeps (P := fun p : State × Bool => I p.1) (fun p i hp => ?_) _ hcount
        unfold prioritizeLayer
        split
        · exact hp
        · split
          · exact hp
          · split
            · exact R.disable _ _ (R.retypeLayer (R.release hp))
            · exact hp
      generalize (List.range d.layerNum).foldl (prioritizeLayer d) (s.countCheck, false) = p at hloop
      split
      · refine R.disable _ m (R.exynos _ ?_)
        split
        · exact foldl_keeps (P := I) (fun s i hs => R.retypeLayer (R.release hs)) _ hloop
        · exact hloop
      · exact hloop

/-- A pass has no other goal here than to keep the assertion. -/
theorem passRule : PassRule d I ⟨fun _ _ => True, fun _ _ => True, fun _ _ => True⟩ where
  reset _ h := ⟨R.resetAll h, fun _ _ => trivial⟩
  target _ _ h _ := ⟨R.assignTarget h, fun _ =>
    ⟨trivial, fun _ _ _ _ => trivial, fun _ _ _ _ => trivial, fun _ _ => trivial⟩⟩
  layer _ _ _ h _ := ⟨R.assignOneLayer h, fun _ =>
    ⟨trivial, fun _ _ _ _ => trivial, fun _ _ _ _ => trivial, fun _ _ => trivial⟩⟩
  giveUp _ h _ := R.giveUp h
  priority _ h := ⟨R.prioritize h, fun _ =>
    ⟨fun _ _ _ _ => trivial, fun _ _ _ _ => trivial, fun _ _ => trivial⟩⟩

theorem extendExynos {m : MppId} {a : Extension} (h : I a.state) (hm : M m) :
    I (ResourceManager.extendExynos d m a i).state := by
  have hcount : I a.state.countCheck := R.countCheck h
  unfold ResourceManager.extendExynos
  split
  · exact h
  · dsimp only
    split
    · apply R.retypeLayer
      apply R.addExynosCompositionLayer
      exact R.record (R.assignM2m _ m _ (R.release hcount) hm)
    · exact hcount

theorem useSingleLayer (h : I s) : I (ResourceManager.useSingleLayer d s) := by
  unfold ResourceManager.useSingleLayer
  split
  · exact h
  · next o ho =>
    dsimp only
    split
    · have hO : O o := R.otfOf s .exynos o h ho
      refine R.account _ _ (R.assignOtf _ o (.layer s.exynos.firstIndex.toNat)
        (R.reset _ o (R.exynos _ (R.retypeLayer (R.release (R.recordTaken h))))) hO ?_) ⟨rfl, rfl, rfl⟩
      -- `o` has just been reset
      intro ha
      simp [State.resetAssignedState] at ha
    · exact h

theorem updateExynosComposition (h : I s) : I (ResourceManager.updateExynosComposition d s) := by
  refine updateExynosComposition_keeps (fun m hlink _ => ?_) (fun s hs => R.useSingleLayer hs) h
  rw [useMaxSources_eq]
  exact extendAround_keeps (B := fun _ => True)
    (fun a i _ ha => R.extendExynos ha (R.m2mOf s .exynos m h hlink))
    (fun _ _ => trivial) (fun _ _ _ => trivial) h

theorem peel {skip : State → State} (hskip : ∀ s, I s → I (skip s)) {a : Peeling} (h : I a.state) :
    I (ResourceManager.peel d skip a i).state := by
  have hasked : I (assignLayer d a.state i).1 := R.account _ _ h (assignLayer_links d _ i)
  have hoffer := assignLayer_isOffer d a.state i
  unfold ResourceManager.peel
  split
  · exact h
  split
  · exact hskip _ h
  dsimp only
  split
  · unfold changeLayerFromClientToDevice
    dsimp only
    have hremoved : I (CompositionRange.removeClientCompositionLayer
        ((assignLayer d a.state i).1.recordTaken .peeled i) i).1 :=
      R.removeClientCompositionLayer (R.recordTaken hasked)
    split
    · refine R.takeOffer hremoved ⟨fun o ho => ⟨(hoffer.otf o ho).1, ?_⟩, hoffer.m2m⟩
      exact hasRoom_removeClientCompositionLayer (hoffer.otf o ho).2
    · exact hremoved
  · exact hasked

theorem updateClientComposition (h : I s) : I (ResourceManager.updateClientComposition d s).1 :=
  updateClientComposition_keeps
    (fun _ _ ha => R.peel (fun _ hs => R.setClientRange hs) ha)
    (fun _ _ ha => R.peel (fun _ hs => R.setClientRange hs) ha) h

theorem addRequestedLayers (h : I s) : I (ResourceManager.addRequestedLayers d s).1 := by
  refine addRequestedLayers_keeps (fun s i _ hs => ?_) h
  unfold addRequested
  split
  · exact R.addClientCompositionLayer (R.account s _ hs ⟨rfl, rfl, rfl⟩)
  · exact hs

/-- **Every assignment keeps what all moves keep.** -/
theorem assignResource (h : I s) : I (ResourceManager.assignResource d s).1 := by
  have hinit : I (initializeAssignment d s) :=
    R.initializeInfos (R.account _ _ (R.forget s h) ⟨rfl, rfl, rfl⟩)
  rw [assignResource_eq]
  have hpasses : Ends I (fun _ => True) (andThen (ResourceManager.addRequestedLayers d
      (initializeAssignment d s)) (assignPasses d ASSIGN_RESOURCE_TRY_COUNT)) :=
    Ends.andThen (P := fun _ => True) ⟨R.addRequestedLayers hinit, fun _ => trivial⟩
      fun s hs _ => (R.passRule.passes _ hs).mono fun _ _ => trivial
  exact (hpasses.andThen (Q := fun _ => True) fun s hs _ =>
    ⟨R.updateClientComposition (R.updateExynosComposition hs), fun _ => trivial⟩).keeps

end Passes

end MoveRule

end ExynosHal.AssignmentMoves
