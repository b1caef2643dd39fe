/-
  ExynosHal/ShownSources.lean
  ===========================
  **Every layer is shown by somebody.**

  When an assignment has ended without an error, no layer may be forgotten: a device layer
  needs an OTF MPP that can show it and that shows nothing else, a client layer has to lie
  in the range of the client composition, and the target of a composition needs an OTF MPP
  too.  A layer gets its MPP when a pass visits it; from then on all that happens to other
  layers has to leave the link alone, for which `MppLinks` shows that OTF MPPs are exclusive.

  A step that brings a composition into being leaves its target without an MPP.  It says so
  in its status, and the pass starts again.
-/
import ExynosHal.MppLinks

namespace ExynosHal.ShownSources

open Function (update)
open ExynosHal.Assignment ExynosHal.CompositionRange ExynosHal.ResourceManager
open ExynosHal.AssignmentRun ExynosHal.AssignmentMoves ExynosHal.MppLinks
open ExynosHal.TransitionSystem

/-! ### What is to hold of a source -/

/-- An OTF MPP can show a source: by itself, behind an M2M MPP, or as the only layer of a
    composition. -/
inductive CanShow (d : Display) (o : MppId) : Source → Prop where
  | alone {x : Source} : d.isSupported o (.src x) (.dst x) = true → CanShow d o x
  | behind {i c : Nat} {m : MppId} : m ∈ d.m2mMPPs →
      d.isSupported m (.src (.layer i)) (.candidate i c) = true →
      d.isSupported o (.candidate i c) (.otfDst i) = true → CanShow d o (.layer i)
  | single {i : Nat} : d.enableExynosCompositionOptimization = true →
      d.isSupportedCompression o (.src (.layer i)) = true → CanShow d o (.layer i)

def Linked (d : Display) (s : State) (x : Source) : Prop :=
  ∃ o, s.otfMPP x = some o ∧ CanShow d o x

/-- A layer has a type and, as a device layer, its MPP; a target has one on a DPU display
    if there is a composition. -/
def Good (d : Display) (s : State) : Source → Prop
  | .layer i => s.validateType i ≠ .invalid ∧ (s.validateType i = .device → Linked d s (.layer i))
  | x => (s.info x).hasCompositionLayer = true → d.useDpu = true → Linked d s x

def IsTarget (x : Source) : Prop := x = .client ∨ x = .exynos

/-- The client layers lie in the range of the client composition. -/
structure Covered (d : Display) (s : State) : Prop where
  start : s.client.hasCompositionLayer = true → 0 ≤ s.client.firstIndex
  inside : ∀ i < d.layerNum, s.validateType i = .client →
    s.client.hasCompositionLayer = true ∧ s.client.firstIndex ≤ i ∧ (i : Int) ≤ s.client.lastIndex

/-- The source `x` is as it should be, with exclusive MPPs around it. -/
structure Held (d : Display) (x : Source) (s : State) : Prop where
  exclusive : Exclusive d s
  good : Good d s x

/-- A status after which a pass does not go on. -/
def Tells (st : Status) : Prop := st = .changed ∨ st.isError = true

/-- The same after a call, unless `x` is a target and the status tells it. -/
structure HeldAfter (d : Display) (x : Source) (r : State × Status) : Prop where
  exclusive : Exclusive d r.1
  good : Good d r.1 x ∨ IsTarget x ∧ Tells r.2

section Held

variable {d : Display} {x : Source} {s s' : State} {i : Nat}

/-- What is said of `x` is about its MPP, its type and its composition only. -/
theorem Good.frame (h : Good d s x) (hotf : s'.otfMPP x = s.otfMPP x)
    (ht : ∀ j, x = .layer j → s'.validateType j = s.validateType j)
    (hc : s'.client.hasCompositionLayer = s.client.hasCompositionLayer)
    (he : s'.exynos.hasCompositionLayer = s.exynos.hasCompositionLayer) : Good d s' x := by
  cases x with
  | layer j => simpa only [Good, Linked, hotf, ht j rfl] using h
  | client => simpa only [Good, Linked, State.info, hotf, hc] using h
  | exynos => simpa only [Good, Linked, State.info, hotf, he] using h

/-- For what a state says about MPPs the numbers, the history and the ranges are nothing. -/
theorem Held.account (h : Held d x s) (hs : SameLinks s s') (ht : s'.validateType = s.validateType)
    (hc : s'.client.hasCompositionLayer = s.client.hasCompositionLayer)
    (he : s'.exynos.hasCompositionLayer = s.exynos.hasCompositionLayer) : Held d x s' where
  exclusive := h.exclusive.weaken hs.mpp (fun _ _ ho => hs.otfMPP ▸ ho) fun _ _ hm => hs.m2mMPP ▸ hm
  good := h.good.frame (by rw [hs.otfMPP]) (fun _ _ => by rw [ht]) hc he

theorem Held.after (h : Held d x s) (st : Status) : HeldAfter d x (s, st) := ⟨h.exclusive, .inl h.good⟩

theorem HeldAfter.ok {r : State × Status} (h : HeldAfter d x r) (hok : r.2 = .noError) :
    Held d x r.1 :=
  ⟨h.exclusive, h.good.resolve_right fun hc => by
    have htells := hc.2
    rw [hok] at htells
    rcases htells with ht | ht <;> cases ht⟩

theorem HeldAfter.layer {r : State × Status} {j : Nat} (h : HeldAfter d (.layer j) r) :
    Held d (.layer j) r.1 := by
  refine ⟨h.exclusive, h.good.resolve_right fun hc => ?_⟩
  rcases hc.1 with hx | hx <;> cases hx

theorem Good.layer {j : Nat} {t : ValidateType} (ht : s.validateType j = t) (hi : t ≠ .invalid)
    (hd : t ≠ .device) : Good d s (.layer j) :=
  ⟨ht ▸ hi, fun hdev => absurd (ht.symm.trans hdev) hd⟩

/-- A layer that is released takes nobody's MPP with it. -/
theorem Good.release (h : Good d s x) (hx : Exclusive d s) (hne : x ≠ .layer i) :
    Good d (s.resetAssignedResource i) x :=
  h.frame (hx.release_other hne).1 (fun _ _ => by rw [State.resetAssignedResource_validateType])
    (by rw [State.resetAssignedResource_client]) (by rw [State.resetAssignedResource_exynos])

theorem release_exclusive (hd : SingleOtf d) (h : Exclusive d s) (i : Nat) :
    Exclusive d (s.resetAssignedResource i) := (Exclusive.moves hd).release h

/-- A layer gives its MPPs back and gets another type. -/
theorem held_retyped (hd : SingleOtf d) (h : Exclusive d s) (hg : x ≠ .layer i → Good d s x)
    {t : ValidateType} (ht : t ≠ .invalid) (hdev : t ≠ .device) :
    Held d x ((s.resetAssignedResource i).setType i t) := by
  refine ⟨(Exclusive.moves hd).retypeLayer (release_exclusive hd h i), ?_⟩
  by_cases hx : x = .layer i
  · subst hx
    exact .layer (Function.update_self ..) ht hdev
  · refine ((hg hx).release h hx).frame rfl (fun j hj => ?_) rfl rfl
    have hji : j ≠ i := fun hc => hx (hc ▸ hj)
    rw [State.setType_validateType, Function.update_of_ne hji]

theorem Held.retyped (hd : SingleOtf d) (h : Held d x s) {t : ValidateType} (ht : t ≠ .invalid)
    (hdev : t ≠ .device) : Held d x ((s.resetAssignedResource i).setType i t) :=
  held_retyped hd h.exclusive (fun _ => h.good) ht hdev

/-- An MPP that is reset was the one of `y`, so that the others keep theirs. -/
theorem resetAssignedState_other (h : Exclusive d s) {y : Source} {o : MppId}
    (ho : s.otfMPP y = some o) (hne : x ≠ y) : (s.resetAssignedState o).otfMPP x = s.otfMPP x := by
  refine if_neg fun hc => hne ?_
  have hmem := hc.1
  rw [(h.otf y o ho).1] at hmem
  exact List.mem_singleton.mp hmem

/-- An exynos composition that is reset gives back the MPP of its own target only. -/
theorem initializeExynos_other (hne : x ≠ .exynos) :
    (s.initializeExynos d).otfMPP x = s.otfMPP x :=
  Function.update_of_ne hne _ _

theorem Held.initializeExynos (hd : SingleOtf d) (h : Held d x s) : Held d x (s.initializeExynos d) := by
  refine ⟨(Exclusive.moves hd).exynos s h.exclusive, ?_⟩
  cases x with
  | layer j =>
      have hotf : (s.initializeExynos d).otfMPP (.layer j) = s.otfMPP (.layer j) :=
        initializeExynos_other (by simp)
      simpa only [Good, Linked, State.initializeExynos_validateType, hotf] using h.good
  | client =>
      have hotf : (s.initializeExynos d).otfMPP .client = s.otfMPP .client :=
        initializeExynos_other (by simp)
      simpa only [Good, Linked, State.info, State.initializeExynos_client, hotf] using h.good
  | exynos => exact fun hc => absurd hc Bool.false_ne_true

end Held

/-! ### Client composition -/

section Client

variable {d : Display} {x : Source} {s : State}

theorem Held.sandwichClient (hd : SingleOtf d) {p : State × Bool} (h : Held d x p.1) (i : Nat) :
    Held d x (sandwichClient d p i).1 := by
  unfold CompositionRange.sandwichClient
  split
  · exact h
  split
  · exact h
  · refine Held.retyped hd ?_ (by simp) (by simp)
    split
    · exact h.account ⟨rfl, rfl, rfl⟩ rfl rfl rfl
    · exact h.account ⟨rfl, rfl, rfl⟩ rfl rfl rfl

theorem Held.updateExynosRange (hd : SingleOtf d) (h : Held d x s) :
    Held d x (updateExynosRange d s).1 := by
  unfold CompositionRange.updateExynosRange
  split
  · exact h
  · split
    · exact h.initializeExynos hd
    · exact h.account ⟨rfl, rfl, rfl⟩ rfl rfl rfl

/-- A client composition that comes into being is told by the status. -/
theorem Held.addClient (hd : SingleOtf d) (h : Held d x s) (k : Nat) :
    HeldAfter d x ((addClientCompositionLayer d s k).1, (addClientCompositionLayer d s k).2.1) := by
  unfold addClientCompositionLayer
  by_cases hc : s.client.hasCompositionLayer = false
  · rw [if_pos hc]
    refine ⟨(Exclusive.moves hd).account s _ h.exclusive ⟨rfl, rfl, rfl⟩, ?_⟩
    cases x with
    | layer j => exact .inl h.good
    | client => exact .inr ⟨.inl rfl, .inl rfl⟩
    | exynos => exact .inl h.good
  · rw [if_neg hc]
    dsimp only
    have hrange : Held d x (s.setClientRange (min s.client.firstIndex k) (max s.client.lastIndex k)) :=
      h.account ⟨rfl, rfl, rfl⟩ rfl rfl rfl
    split
    · exact hrange.after _
    · have hloop := foldl_keeps (P := fun p : State × Bool => Held d x p.1)
        (fun p i hp => Held.sandwichClient hd hp i)
        (between (min s.client.firstIndex k) (max s.client.lastIndex k))
        (s := (s.setClientRange (min s.client.firstIndex k) (max s.client.lastIndex k), false)) hrange
      split
      · exact (hloop.updateExynosRange hd).after _
      · exact hloop.after _

/-- A layer is given to the client. -/
theorem held_given (hd : SingleOtf d) (h : Exclusive d s) {i : Nat} (hg : x ≠ .layer i → Good d s x) :
    HeldAfter d x
      ((addClientCompositionLayer d ((s.resetAssignedResource i).setType i .client) i).1,
        (addClientCompositionLayer d ((s.resetAssignedResource i).setType i .client) i).2.1) :=
  (held_retyped hd h hg (by simp) (by simp)).addClient hd i

end Client

/-! ### Exynos composition -/

section Exynos

variable {d : Display} {x : Source} {s : State}

/-- What the loop over the sandwiched layers has, with its flags for the status. -/
structure HeldLoop (d : Display) (x : Source) (a : Sandwich) : Prop where
  exclusive : Exclusive d a.state
  status : a.status = .noError ∨ a.status.isError = true
  good : Good d a.state x ∨ IsTarget x ∧ (a.changeFlag = true ∨ a.status.isError = true)

theorem HeldLoop.refuse (hd : SingleOtf d) {a : Sandwich} (h : HeldLoop d x a)
    (hst : a.status = .noError) (i : Nat) : HeldLoop d x (refuse d a i) := by
  refine ⟨(Exclusive.moves hd).refuse h.exclusive, ?_, ?_⟩
  · unfold CompositionRange.refuse
    dsimp only
    split
    · next herror => exact .inr herror
    · exact .inl rfl
  rcases h.good with hg | ⟨hx, hflag⟩
  · have hgiven := held_given (x := x) (s := a.state.recordTaken .refused i) (i := i) hd
      ((Exclusive.moves hd).recordTaken h.exclusive) fun _ => hg.frame rfl (fun _ _ => rfl) rfl rfl
    rcases hgiven.good with hg' | ⟨hx, htells⟩
    · exact .inl hg'
    · refine .inr ⟨hx, ?_⟩
      unfold CompositionRange.refuse
      dsimp only at htells ⊢
      rcases htells with ht | ht
      · exact .inl (by rw [ht]; simp)
      · exact .inr (by rw [if_pos ht]; exact ht)
  · have hchanged := hflag.resolve_right (by simp [hst, Status.isError])
    exact .inr ⟨hx, .inl (by simp [CompositionRange.refuse, hchanged])⟩

theorem Held.join (hd : SingleOtf d) (h : Held d x s) {m : MppId} (hm : m ∉ d.otfMPPs) (i : Nat) :
    Held d x (join d m s i) := by
  refine ⟨(Exclusive.moves hd).join h.exclusive hm, ?_⟩
  by_cases hx : x = .layer i
  · subst hx
    exact .layer (Function.update_self ..) (by simp) (by simp)
  · have hrecord : Good d (s.recordTaken .joined i) x := h.good.frame rfl (fun _ _ => rfl) rfl rfl
    have hrel := hrecord.release ((Exclusive.moves hd).recordTaken h.exclusive) hx
    unfold CompositionRange.join
    dsimp only
    have hother : ∀ j, x = .layer j → j ≠ i := fun j hj hc => hx (hc ▸ hj)
    split
    · exact hrel.frame rfl (fun j hj => Function.update_of_ne (hother j hj) _ _) rfl rfl
    · exact hrel.frame rfl (fun j hj => Function.update_of_ne (hother j hj) _ _) rfl rfl

theorem HeldLoop.sandwich (hd : SingleOtf d) {m : MppId} (hm : m ∉ d.otfMPPs) {a : Sandwich}
    (h : HeldLoop d x a) (i : Nat) : HeldLoop d x (sandwichExynos d m a i) := by
  unfold sandwichExynos
  split
  · exact h
  · next hgo =>
    have hst : a.status = .noError := by
      by_contra hst
      exact hgo (.inl hst)
    split
    · exact ⟨h.exclusive, h.status, h.good⟩
    split
    · exact h
    split
    · exact ⟨h.exclusive, h.status, h.good⟩
    split
    · exact h.refuse hd hst i
    · refine ⟨(Exclusive.moves hd).join h.exclusive hm, h.status, h.good.imp (fun hg => ?_) id⟩
      exact (Held.join hd ⟨h.exclusive, hg⟩ hm i).good

theorem Held.giveUpEnd (hd : SingleOtf d) (h : Held d x s) (i : Nat) {cut : State → State}
    (hcut : ∀ s, Held d x s → Held d x (cut s)) (hcut' : ∀ s, Exclusive d s → Exclusive d (cut s)) :
    HeldAfter d x (giveUpEnd d s i cut) := by
  have hgiven := held_given (x := x) (s := s.recordTaken .nested i) (i := i) hd
    ((Exclusive.moves hd).recordTaken h.exclusive) fun _ => h.good.frame rfl (fun _ _ => rfl) rfl rfl
  unfold CompositionRange.giveUpEnd
  dsimp only
  split
  · exact hgiven
  · split
    · exact hgiven
    · refine ⟨hcut' _ hgiven.exclusive, hgiven.good.imp (fun hg => ?_) id⟩
      exact (hcut _ ⟨hgiven.exclusive, hg⟩).good

theorem Held.nested (hd : SingleOtf d) (h : Held d x s) :
    HeldAfter d x (handleNestedClientCompositionLayer d s) := by
  have hcut : ∀ a b (s : State), Held d x s → Held d x (s.setExynosRange a b) :=
    fun _ _ _ hs => hs.account ⟨rfl, rfl, rfl⟩ rfl rfl rfl
  unfold handleNestedClientCompositionLayer
  split
  · exact h.after _
  split
  · exact h.giveUpEnd hd _ (fun s hs => hcut _ _ s hs) fun _ hs => (Exclusive.moves hd).setExynosRange hs
  · exact h.giveUpEnd hd _ (fun s hs => hcut _ _ s hs) fun _ hs => (Exclusive.moves hd).setExynosRange hs

theorem Held.trim (h : Held d x s) (i : Nat) : Held d x (trim s i) := by
  unfold CompositionRange.trim
  split
  · exact h.account ⟨rfl, rfl, rfl⟩ rfl rfl rfl
  · split
    · exact h.account ⟨rfl, rfl, rfl⟩ rfl rfl rfl
    · exact h

/-- The composition is given up; the status will say so. -/
theorem Held.disable (hd : SingleOtf d) {j : Nat} (h : Held d (.layer j) s) (m : MppId) :
    Held d (.layer j) (disableExynosComposition d m s) := by
  have hretyped : Held d (.layer j) (setLogicalType s m .g2dRGB) :=
    ⟨(h.exclusive.changeMpp rfl rfl), h.good⟩
  have hloop : ∀ l : List Nat,
      Held d (.layer j) (l.foldl (CompositionRange.disable d) (setLogicalType s m .g2dRGB)) := by
    intro l
    refine foldl_keeps (P := Held d (.layer j)) (fun s i hs => ?_) l hretyped
    unfold CompositionRange.disable
    split
    · exact hs
    · exact (held_given hd hs.exclusive fun _ => hs.good).layer
  exact (hloop _).initializeExynos hd

theorem isTarget_or_layer (x : Source) : IsTarget x ∨ ∃ j, x = .layer j := by
  cases x with
  | layer j => exact .inr ⟨j, rfl⟩
  | client => exact .inl (.inl rfl)
  | exynos => exact .inl (.inr rfl)

theorem settleExynosRange_changed (m : MppId) (l : List Nat) :
    (settleExynosRange d m s l true).2 = .changed := by
  simp only [settleExynosRange, true_or, if_true, apply_ite Prod.snd, ite_self]

theorem Held.settle (hd : SingleOtf d) (h : Held d x s) {m : MppId} (hm : m ∉ d.otfMPPs)
    {l : List Nat} (hl : ∀ h ∈ l, d.isHigh h = true) (changeFlag : Bool) :
    HeldAfter d x (settleExynosRange d m s l changeFlag) := by
  have hkept : Exclusive d (settleExynosRange d m s l changeFlag).1 :=
    (Exclusive.moves hd).settleExynosRange h.exclusive hm hl
  refine ⟨hkept, ?_⟩
  have htrim : Held d x (if (s.mpp m).logicalType = .g2dRGB then l.foldl CompositionRange.trim s else s) := by
    split
    · exact foldl_keeps (P := Held d x) (fun s j hs => Held.trim hs j) l h
    · exact h
  unfold settleExynosRange
  dsimp only
  generalize (if (s.mpp m).logicalType = .g2dRGB then l.foldl CompositionRange.trim s else s) = s' at htrim
  have hvalid : Held d x (if isIndexValid d s' = false then s'.initializeExynos d else s') := by
    split
    · exact htrim.initializeExynos hd
    · exact htrim
  generalize (if isIndexValid d s' = false then s'.initializeExynos d else s') = s'' at hvalid
  split
  · rcases isTarget_or_layer x with hx | ⟨j, rfl⟩
    · exact .inr ⟨hx, .inl rfl⟩
    · exact .inl (hvalid.disable hd m).good
  · exact .inl hvalid.good

/-- What follows the loop. -/
theorem HeldLoop.settle (hd : SingleOtf d) {m : MppId} (hm : m ∉ d.otfMPPs) {a : Sandwich}
    (h : HeldLoop d x a) (hl : ∀ h ∈ a.highPriLayers, d.isHigh h = true) :
    HeldAfter d x (settleSandwich d m a) := by
  unfold settleSandwich
  by_cases hst : a.status = .noError
  · rw [if_neg (not_not.mpr hst)]
    have hnested : Exclusive d (if a.invalidFlag then handleNestedClientCompositionLayer d a.state
        else (a.state, .noError)).1 := by
      split
      · exact (Exclusive.moves hd).handleNestedClientCompositionLayer h.exclusive
      · exact h.exclusive
    have hgood : Good d a.state x → HeldAfter d x (if a.invalidFlag then
        handleNestedClientCompositionLayer d a.state else (a.state, .noError)) := by
      intro hg
      split
      · exact Held.nested hd ⟨h.exclusive, hg⟩
      · exact Held.after ⟨h.exclusive, hg⟩ _
    dsimp only
    generalize (if a.invalidFlag then handleNestedClientCompositionLayer d a.state
      else (a.state, .noError)) = q at hnested hgood
    split
    · next herror =>
      exact ⟨hnested, h.good.elim (fun hg => (hgood hg).good) fun hx => .inr ⟨hx.1, .inr herror⟩⟩
    · next herror =>
      have hkept : Exclusive d (settleExynosRange d m q.1 a.highPriLayers
          (a.changeFlag || decide (q.2 = .changed))).1 :=
        (Exclusive.moves hd).settleExynosRange hnested hm hl
      -- a target that was not kept has left its mark in the flag
      have htold : IsTarget x → (a.changeFlag || decide (q.2 = .changed)) = true →
          IsTarget x ∧ Tells (settleExynosRange d m q.1 a.highPriLayers
            (a.changeFlag || decide (q.2 = .changed))).2 := by
        intro hx hflag
        rw [hflag]
        exact ⟨hx, .inl (settleExynosRange_changed m _)⟩
      refine ⟨hkept, ?_⟩
      rcases h.good with hg | ⟨hx, hflag⟩
      · rcases (hgood hg).good with hg' | ⟨hx, ht⟩
        · exact (Held.settle hd ⟨hnested, hg'⟩ hm hl _).good
        · have hchanged := ht.resolve_right herror
          exact .inr (htold hx (by simp [hchanged]))
      · have hchanged := hflag.resolve_right (by simp [hst, Status.isError])
        exact .inr (htold hx (by simp [hchanged]))
  · rw [if_pos hst]
    exact ⟨h.exclusive, h.good.imp id fun hx => ⟨hx.1, .inr (h.status.resolve_left hst)⟩⟩

theorem Held.addExynos (hd : SingleOtf d) (h : Held d x s) (k : Nat) :
    HeldAfter d x (addExynosCompositionLayer d s k) := by
  have hgrown : Held d x (grown d s k) := h.account ⟨rfl, rfl, rfl⟩ rfl rfl rfl
  rw [addExynosCompositionLayer_eq]
  split
  · refine ⟨(Exclusive.moves hd).account s _ h.exclusive ⟨rfl, rfl, rfl⟩, ?_⟩
    cases x with
    | layer j => exact .inl h.good
    | client => exact .inl h.good
    | exynos => exact .inr ⟨.inr rfl, .inl rfl⟩
  split
  · exact hgrown.after _
  next m hlink =>
  split
  · exact hgrown.after _
  have hm : m ∉ d.otfMPPs := h.exclusive.m2m .exynos m hlink
  have hloop : HeldLoop d x (handleSandwitchedExynosCompositionLayer d m (grown d s k)) :=
    foldl_keeps (P := HeldLoop d x) (fun a i ha => HeldLoop.sandwich hd hm ha i) _
      ⟨hgrown.exclusive, .inl rfl, .inl hgrown.good⟩
  exact hloop.settle hd hm fun _ hh => MoveRule.highPriLayers_isHigh hh

end Exynos

/-! ### One layer -/

section Layer

variable {d : Display} {x : Source} {s : State} {i : Nat}

theorem tryM2mMPP_canShow {w : Bool} {m : MppId} {a : Assigned} (hm : m ∈ d.m2mMPPs)
    (h : tryM2mMPP d s i w m = some a) (hdev : a.compositionType = .device) :
    ∃ o, a.otfMPP = some o ∧ CanShow d o (.layer i) := by
  unfold tryM2mMPP at h
  dsimp only at h
  split at h
  · cases h
  split at h
  · cases h
  split at h
  · cases h
  split at h
  · cases h
  split at h
  · unfold tryScaler at h
    obtain ⟨c, -, hc⟩ := List.exists_of_findSome?_eq_some h
    split at hc
    · next hscaler =>
      obtain ⟨o, ho, rfl⟩ := Option.map_eq_some_iff.mp hc
      have hp := List.find?_some ho
      simp only [Bool.and_eq_true] at hscaler hp
      exact ⟨o, rfl, .behind hm hscaler.1 hp.1.2⟩
    · cases hc
  · split at h
    · obtain rfl := Option.some.inj h
      cases hdev
    · cases h

/-- A layer that becomes a device layer is offered an OTF MPP that can show it. -/
theorem assignLayer_canShow (h : (assignLayer d s i).2.compositionType = .device) :
    ∃ o, (assignLayer d s i).2.otfMPP = some o ∧ CanShow d o (.layer i) := by
  unfold assignLayer at h ⊢
  dsimp only at h ⊢
  split at h
  · next a ha =>
    dsimp only at h
    split at ha
    · unfold findResource at ha
      split at ha
      · next o ho =>
        obtain rfl := Option.some.inj ha
        split at ho
        · have hp := List.find?_some ho
          simp only [Bool.and_eq_true] at hp
          exact ⟨o, rfl, .alone hp.2⟩
        · cases ho
      · obtain ⟨m, hm, hc⟩ := List.exists_of_findSome?_eq_some ha
        exact tryM2mMPP_canShow hm hc h
    · cases ha
  · unfold failLayer at h
    split at h <;> cases h

theorem Good.takeWindow_other {a : Assigned} (h : Good d s x) (hx : x ≠ .layer i) :
    Good d (takeWindow d s i a) x := by
  have hotf : (takeWindow d s i a).otfMPP x = s.otfMPP x := by
    unfold takeWindow assignM2mOf assignOtfOf
    split <;> split <;> first | rfl | exact Function.update_of_ne hx _ _
  refine h.frame hotf (fun j hj => ?_) ?_ ?_
  · have hji : j ≠ i := fun hc => hx (hc ▸ hj)
    unfold takeWindow assignM2mOf assignOtfOf
    split <;> split <;> exact Function.update_of_ne hji _ _
  · unfold takeWindow assignM2mOf assignOtfOf
    split <;> split <;> rfl
  · unfold takeWindow assignM2mOf assignOtfOf
    split <;> split <;> rfl

theorem Good.takeWindow_self {a : Assigned} {o : MppId} (ho : a.otfMPP = some o)
    (hshow : CanShow d o (.layer i)) : Good d (takeWindow d s i a) (.layer i) := by
  refine ⟨?_, fun _ => ⟨o, ?_, hshow⟩⟩
  · rw [show (takeWindow d s i a).validateType i = .device from Function.update_self ..]
    exact nofun
  · unfold takeWindow assignM2mOf assignOtfOf
    rw [ho]
    dsimp only
    split <;> exact Function.update_self ..

/-- What was asked for a layer changes no link. -/
theorem Held.asked (h : Held d x s) : Held d x (assignLayer d s i).1 := by
  obtain ⟨hdr, heq⟩ := assignLayer_state d s i
  rw [heq]
  exact h.account ⟨rfl, rfl, rfl⟩ rfl rfl rfl

theorem Held.met (h : Held d x s) : Held d x (AssignmentRun.met d s i) :=
  h.account ⟨rfl, rfl, rfl⟩ rfl rfl rfl

theorem Good.retype (h : Good d s x) (hx : x ≠ .layer i) (t : ValidateType) :
    Good d (s.setType i t) x := by
  refine h.frame rfl (fun j hj => ?_) rfl rfl
  have hji : j ≠ i := fun hc => hx (hc ▸ hj)
  exact Function.update_of_ne hji _ _

theorem held_retype (hd : SingleOtf d) (h : Exclusive d s) (hg : x ≠ .layer i → Good d s x)
    {t : ValidateType} (ht : t ≠ .invalid) (hdev : t ≠ .device) : Held d x (s.setType i t) := by
  refine ⟨(Exclusive.moves hd).retypeLayer h, ?_⟩
  by_cases hx : x = .layer i
  · subst hx
    exact .layer (Function.update_self ..) ht hdev
  · exact (hg hx).retype hx t

theorem assignM2mOf_exclusive (hd : SingleOtf d) (h : Exclusive d s) {a : Assigned}
    (ha : IsOffer d s a) : Exclusive d (assignM2mOf d s a.m2mMPP i) := by
  unfold assignM2mOf
  split
  · next m hm => exact h.assignM2m (hd.m2m m (ha.m2m m hm)) _
  · exact h

theorem assignM2mOf_good {m : Option MppId} (h : Good d s x) : Good d (assignM2mOf d s m i) x := by
  unfold assignM2mOf
  split
  · exact h.frame rfl (fun _ _ => rfl) rfl rfl
  · exact h

/-- **One round of a pass**: what was right of the other sources stays right, and the layer
    is right if it is not passed over. -/
theorem oneLayer_good (hd : SingleOtf d) (h : Exclusive d s) (hg : x ≠ .layer i → Good d s x)
    (hself : x = .layer i → s.validateType i = .client ∨ s.validateType i = .exynos → Good d s x)
    {p : OverlayPriority} (hp : x = .layer i → (d.layer i).overlayPriority = p)
    (hok : (assignOneLayer d p s i).2 = .noError) : Good d (assignOneLayer d p s i).1 x := by
  have hmet : Exclusive d (assignLayer d (AssignmentRun.met d s i) i).1 :=
    (Exclusive.moves hd).account _ _ ((Exclusive.moves hd).record h) (assignLayer_links d _ i)
  have hgood : x ≠ .layer i → Good d (assignLayer d (AssignmentRun.met d s i) i).1 x :=
    fun hx => (Held.met ⟨h, hg hx⟩).asked.good
  have hoffer := assignLayer_isOffer d (AssignmentRun.met d s i) i
  have hshow := assignLayer_canShow (d := d) (s := AssignmentRun.met d s i) (i := i)
  have hstep := assignOneLayer_cases d s i p
  generalize assignOneLayer d p s i = q at hok hstep
  generalize assignLayer d (AssignmentRun.met d s i) i = r at hmet hgood hoffer hshow hstep
  cases hstep with
  | passed hpass =>
      by_cases hx : x = .layer i
      · refine hself hx (hpass.elim .inl fun hc => hc.elim .inr fun hc => ?_)
        exact absurd (hp hx) hc
      · exact hg hx
  | device _ _ hdev =>
      obtain ⟨o, ho, hcan⟩ := hshow hdev
      by_cases hx : x = .layer i
      · exact hx ▸ Good.takeWindow_self ho hcan
      · exact (hgood hx).takeWindow_other hx
  | exynos =>
      have hexynos := held_retype (x := x) hd (assignM2mOf_exclusive (i := i) hd hmet hoffer)
        (fun hx => assignM2mOf_good (hgood hx)) (t := .exynos) (by simp) (by simp)
      exact ((hexynos.addExynos hd i).ok hok).good
  | reassigned => cases hok
  | client =>
      have hclient := held_retype (x := x) hd hmet hgood (t := .client) (by simp) (by simp)
      exact ((hclient.addClient hd i).ok hok).good

end Layer

/-! ### The range of the client composition -/

section Range

variable {d : Display} {s s' : State} {i : Nat}

theorem Covered.frame (h : Covered d s) (hc : s'.client = s.client)
    (ht : ∀ j < d.layerNum, s'.validateType j = .client → s.validateType j = .client) :
    Covered d s' := by
  refine ⟨hc ▸ h.start, fun j hj hcl => ?_⟩
  rw [hc]
  exact h.inside j hj (ht j hj hcl)

/-- Layers of other types do not matter. -/
theorem Covered.retype (h : Covered d s) {t : ValidateType} (ht : t ≠ .client) :
    Covered d (s.setType i t) := by
  refine h.frame rfl fun j _ hcl => ?_
  rw [State.setType_validateType] at hcl
  by_cases hj : j = i
  · rw [hj, Function.update_self] at hcl
    exact absurd hcl ht
  · rwa [Function.update_of_ne hj] at hcl

theorem Covered.released (h : Covered d s) : Covered d (s.resetAssignedResource i) :=
  h.frame (State.resetAssignedResource_client s i) fun j _ hcl => by
    rwa [State.resetAssignedResource_validateType] at hcl

/-- A sandwiched layer lies between the ends. -/
theorem Covered.sandwich {p : State × Bool} (h : Covered d p.1)
    (hc : p.1.client.hasCompositionLayer = true) (hlo : p.1.client.firstIndex ≤ i)
    (hhi : (i : Int) ≤ p.1.client.lastIndex) :
    Covered d (sandwichClient d p i).1 ∧ (sandwichClient d p i).1.client = p.1.client := by
  unfold sandwichClient
  split
  · exact ⟨h, rfl⟩
  split
  · exact ⟨h, rfl⟩
  · have hclient : ((((if p.1.validateType i = .device then
        (p.1.recordTaken .sandwiched i).decrementWindow (.layer i)
        else p.1.recordTaken .sandwiched i).resetAssignedResource i).setType i .client)).client
        = p.1.client := by
      rw [State.setType_client, State.resetAssignedResource_client]
      split <;> rfl
    refine ⟨⟨fun hcomp => ?_, fun j hj hcl => ?_⟩, hclient⟩
    · rw [hclient]; exact h.start hc
    · rw [hclient]
      by_cases hji : j = i
      · exact hji ▸ ⟨hc, hlo, hhi⟩
      · refine h.inside j hj ?_
        rw [State.setType_validateType, Function.update_of_ne hji,
          State.resetAssignedResource_validateType] at hcl
        split at hcl <;> exact hcl

/-- **A layer that becomes a client layer** is added to the range. -/
theorem Covered.addClient {k : Nat}
    (hstart : s.client.hasCompositionLayer = true → 0 ≤ s.client.firstIndex)
    (h : ∀ j < d.layerNum, j ≠ k → s.validateType j = .client →
      s.client.hasCompositionLayer = true ∧ s.client.firstIndex ≤ j ∧ (j : Int) ≤ s.client.lastIndex) :
    Covered d (addClientCompositionLayer d s k).1 := by
  unfold addClientCompositionLayer
  by_cases hc : s.client.hasCompositionLayer = false
  · rw [if_pos hc]
    refine ⟨fun _ => Int.natCast_nonneg k, fun j hj hcl => ?_⟩
    by_cases hjk : j = k
    · subst hjk
      exact ⟨rfl, Int.le_refl _, Int.le_refl _⟩
    · exact absurd (h j hj hjk hcl).1 (by simp [hc])
  rw [if_neg hc]
  have hc : s.client.hasCompositionLayer = true := Bool.not_eq_false _ ▸ hc
  have hpos := hstart hc
  dsimp only
  set s₁ := s.setClientRange (min s.client.firstIndex k) (max s.client.lastIndex k) with hs₁
  have hrange : Covered d s₁ := by
    refine ⟨fun _ => ?_, fun j hj hcl => ?_⟩
    · rw [hs₁, State.setClientRange_client]
      dsimp only
      omega
    · rw [hs₁, State.setClientRange_client]
      dsimp only
      by_cases hjk : j = k
      · subst hjk
        exact ⟨hc, by omega, by omega⟩
      · have hin := h j hj hjk hcl
        exact ⟨hc, by omega, by omega⟩
  split
  · exact hrange
  · next hneg =>
    have hloop : ∀ (l : List Nat) (p : State × Bool),
        (∀ i ∈ l, min s.client.firstIndex k ≤ i ∧ (i : Int) ≤ max s.client.lastIndex k) →
        Covered d p.1 → p.1.client = s₁.client →
        Covered d (l.foldl (sandwichClient d) p).1
          ∧ (l.foldl (sandwichClient d) p).1.client = s₁.client := by
      intro l
      induction l with
      | nil => exact fun p _ hp hclient => ⟨hp, hclient⟩
      | cons i l ih =>
          intro p hl hp hclient
          have hi := hl i List.mem_cons_self
          have hends : p.1.client = ⟨true, min s.client.firstIndex k, max s.client.lastIndex k⟩ := by
            rw [hclient, hs₁, State.setClientRange_client, hc]
          obtain ⟨hcov, hsame⟩ := hp.sandwich (i := i) (by rw [hends]) (by rw [hends]; exact hi.1)
            (by rw [hends]; exact hi.2)
          exact ih _ (fun j hj => hl j (List.mem_cons_of_mem i hj)) hcov (hsame.trans hclient)
    have hbetween : ∀ i ∈ between (min s.client.firstIndex k) (max s.client.lastIndex k),
        min s.client.firstIndex k ≤ i ∧ (i : Int) ≤ max s.client.lastIndex k := by
      intro i hi
      obtain ⟨t, ht, rfl⟩ := List.mem_range'.mp hi
      constructor <;> omega
    obtain ⟨hcov, hsame⟩ := hloop _ (s₁, false) hbetween hrange rfl
    split
    · unfold updateExynosRange
      split
      · exact hcov
      · split
        · exact hcov.frame rfl fun _ _ hcl => hcl
        · exact hcov.frame rfl fun _ _ hcl => hcl
    · exact hcov

/-- A layer that is given to the client. -/
theorem Covered.given (h : Covered d s) :
    Covered d (addClientCompositionLayer d ((s.resetAssignedResource i).setType i .client) i).1 := by
  have hclient : ((s.resetAssignedResource i).setType i .client).client = s.client := by
    rw [State.setType_client, State.resetAssignedResource_client]
  refine .addClient (hclient ▸ h.start) fun j hj hji hcl => ?_
  rw [hclient]
  refine h.inside j hj ?_
  rwa [State.setType_validateType, Function.update_of_ne hji,
    State.resetAssignedResource_validateType] at hcl

theorem Covered.same (h : Covered d s) (hc : s'.client = s.client)
    (ht : s'.validateType = s.validateType) : Covered d s' :=
  h.frame hc fun _ _ hcl => ht ▸ hcl

theorem Covered.join (h : Covered d s) (m : MppId) : Covered d (join d m s i) := by
  have hrel : Covered d ((s.recordTaken .joined i).resetAssignedResource i) :=
    (h.same rfl rfl : Covered d (s.recordTaken .joined i)).released
  have hretyped := hrel.retype (i := i) (t := .exynos) (by simp)
  unfold CompositionRange.join
  dsimp only
  split <;> exact hretyped.same rfl rfl

theorem Covered.sandwichExynos (m : MppId) {a : Sandwich} (h : Covered d a.state) :
    Covered d (sandwichExynos d m a i).state := by
  unfold CompositionRange.sandwichExynos
  split
  · exact h
  split
  · exact h
  split
  · exact h
  split
  · exact h
  split
  · exact Covered.given (h.same rfl rfl : Covered d (a.state.recordTaken .refused i))
  · exact h.join m

theorem Covered.giveUpEnd (h : Covered d s) {cut : State → State}
    (hcut : ∀ s, Covered d s → Covered d (cut s)) : Covered d (giveUpEnd d s i cut).1 := by
  have hgiven := Covered.given (i := i) (h.same rfl rfl : Covered d (s.recordTaken .nested i))
  unfold CompositionRange.giveUpEnd
  dsimp only
  split
  · exact hgiven
  · split
    · exact hgiven
    · exact hcut _ hgiven

theorem Covered.nested (h : Covered d s) : Covered d (handleNestedClientCompositionLayer d s).1 := by
  unfold handleNestedClientCompositionLayer
  split
  · exact h
  split
  · exact h.giveUpEnd fun _ hs => hs.same rfl rfl
  · exact h.giveUpEnd fun _ hs => hs.same rfl rfl

theorem Covered.settle (h : Covered d s) (m : MppId) (l : List Nat) (changeFlag : Bool) :
    Covered d (settleExynosRange d m s l changeFlag).1 := by
  have htrim : Covered d (if (s.mpp m).logicalType = .g2dRGB then l.foldl trim s else s) := by
    split
    · refine foldl_keeps (P := Covered d) (fun s j hs => ?_) l h
      unfold trim
      split
      · exact hs.same rfl rfl
      · split
        · exact hs.same rfl rfl
        · exact hs
    · exact h
  unfold settleExynosRange
  dsimp only
  generalize (if (s.mpp m).logicalType = .g2dRGB then l.foldl trim s else s) = s₁ at htrim
  have hvalid : Covered d (if isIndexValid d s₁ = false then s₁.initializeExynos d else s₁) := by
    split
    · exact htrim.same rfl rfl
    · exact htrim
  generalize (if isIndexValid d s₁ = false then s₁.initializeExynos d else s₁) = s₂ at hvalid
  split
  · have hloop : ∀ l : List Nat, Covered d (l.foldl (disable d) (setLogicalType s₂ m .g2dRGB)) := by
      intro l'
      refine foldl_keeps (P := Covered d) (fun s j hs => ?_) l' (hvalid.same rfl rfl)
      unfold disable
      split
      · exact hs
      · exact hs.given
    exact (hloop _).same rfl rfl
  · exact hvalid

theorem Covered.addExynos (h : Covered d s) (k : Nat) :
    Covered d (addExynosCompositionLayer d s k).1 :=
  addExynosCompositionLayer_keeps (I := Covered d) (h.same rfl rfl) (h.same rfl rfl)
    (fun m _ _ ha => ha.sandwichExynos m) (fun _ hs => hs.nested)
    fun m _ l changeFlag hs => hs.settle m l changeFlag

theorem takeWindow_client (s : State) (i : Nat) (a : Assigned) :
    (takeWindow d s i a).client = s.client := by
  unfold takeWindow assignM2mOf assignOtfOf
  split <;> split <;> rfl

theorem takeWindow_types (s : State) (i : Nat) (a : Assigned) :
    (takeWindow d s i a).validateType = (s.setType i .device).validateType := by
  unfold takeWindow assignM2mOf assignOtfOf
  split <;> split <;> rfl

theorem Covered.takeWindow (h : Covered d s) (a : Assigned) : Covered d (takeWindow d s i a) :=
  (h.retype (i := i) (t := .device) (by simp)).same (takeWindow_client s i a) (takeWindow_types s i a)

theorem Covered.asked (h : Covered d s) : Covered d (assignLayer d s i).1 := by
  obtain ⟨hdr, heq⟩ := assignLayer_state d s i
  rw [heq]
  exact h.same rfl rfl

theorem Covered.initializeInfos : Covered d (initializeValidateInfos d s) where
  start hc := by cases hc
  inside _ _ hcl := by cases hcl

theorem Covered.oneLayer (h : Covered d s) (p : OverlayPriority) :
    Covered d (assignOneLayer d p s i).1 := by
  have hasked := (h.same rfl rfl : Covered d (met d s i)).asked (i := i)
  have hstep := assignOneLayer_cases d s i p
  generalize assignOneLayer d p s i = q at hstep
  generalize assignLayer d (met d s i) i = r at hasked hstep
  cases hstep with
  | passed => exact h
  | device => exact hasked.takeWindow _
  | exynos =>
      have hm2m : Covered d (assignM2mOf d r.1 r.2.m2mMPP i) := by
        unfold assignM2mOf
        split
        · exact hasked.same rfl rfl
        · exact hasked
      exact (hm2m.retype (by simp)).addExynos i
  | reassigned => exact .initializeInfos
  | client =>
      refine .addClient hasked.start fun j hj hji hcl => hasked.inside j hj ?_
      rwa [State.setType_validateType, Function.update_of_ne hji] at hcl

theorem Covered.target (h : Covered d s) (x : Source) : Covered d (assignCompositionTarget d s x).1 := by
  have hstep := assignCompositionTarget_cases d s x
  generalize assignCompositionTarget d s x = q at hstep
  cases hstep with
  | _ => exact h.same rfl rfl

theorem Covered.resetAll (h : Covered d s) : Covered d (resetAssignedResources d s) := by
  unfold resetAssignedResources
  dsimp only
  refine Covered.same (s := List.foldl _ (List.foldl _ s d.otfMPPs) d.m2mMPPs) ?_ rfl rfl
  refine foldl_keeps (P := Covered d) (fun s m hs => ?_) _
    (foldl_keeps (P := Covered d) (fun s m hs => ?_) _ h)
  · split
    · exact hs.same rfl rfl
    · exact hs
  · split
    · exact hs.same rfl rfl
    · exact hs

theorem Covered.giveUp (h : Covered d s) : Covered d (giveUpExynosComposition d s).1 :=
  giveUpExynosComposition_keeps (I := Covered d) (fun _ _ hs => hs.given)
    (fun _ hs => hs.same rfl rfl) h

theorem Covered.prioritizeLayer {p : State × Bool} (h : Covered d p.1) :
    Covered d (prioritizeLayer d p i).1 := by
  unfold ResourceManager.prioritizeLayer
  split
  · exact h
  split
  · exact h
  split
  · exact (h.released.retype (by simp)).same rfl rfl
  · exact h

theorem Covered.priority (h : Covered d s) : Covered d (setResourcePriority d s).1 := by
  have hcount : Covered d s.countCheck := h.same rfl rfl
  unfold setResourcePriority
  dsimp only
  split
  · exact hcount
  next m _ =>
  split
  · exact hcount
  have hloop := foldl_keeps (P := fun p : State × Bool => Covered d p.1)
    (fun p i hp => Covered.prioritizeLayer (i := i) hp) (List.range d.layerNum)
    (s := (s.countCheck, false)) hcount
  generalize (List.range d.layerNum).foldl (ResourceManager.prioritizeLayer d)
    (s.countCheck, false) = p at hloop
  split
  · unfold postponeExynosComposition
    dsimp only
    split
    · refine Covered.same (foldl_keeps (P := Covered d) (fun s j hs => ?_) _ hloop) rfl rfl
      exact hs.released.retype (by simp)
    · exact hloop.same rfl rfl
  · exact hloop

end Range

/-! ### The passes -/

section Passes

variable {d : Display} {x : Source} {s : State} {i : Nat}

theorem Held.target (hd : SingleOtf d) (h : Held d x s) (y : Source) :
    Held d x (assignCompositionTarget d s y).1 := by
  refine ⟨(Exclusive.moves hd).assignTarget h.exclusive, ?_⟩
  have hstep := assignCompositionTarget_cases d s y
  generalize assignCompositionTarget d s y = q at hstep
  cases hstep with
  | assigned o hcomp _ _ ho =>
      by_cases hx : x = y
      · subst hx
        have hp := List.find?_some ho
        simp only [Bool.and_eq_true] at hp
        have hotf : ((s.countCheck.assignOtf d o x).incrementWindow x).otfMPP x = some o :=
          Function.update_self ..
        cases x with
        | layer j => cases hcomp
        | client => exact fun _ _ => ⟨o, hotf, .alone hp.1.2⟩
        | exynos => exact fun _ _ => ⟨o, hotf, .alone hp.1.2⟩
      · exact h.good.frame (Function.update_of_ne hx _ _) (fun _ _ => rfl) rfl rfl
  | _ => exact h.good.frame rfl (fun _ _ => rfl) rfl rfl

/-- A target that is settled has what it needs. -/
theorem target_settled (hx : IsTarget x) (hok : (assignCompositionTarget d s x).2 = .noError) :
    Good d (assignCompositionTarget d s x).1 x := by
  have hstep := assignCompositionTarget_cases d s x
  generalize assignCompositionTarget d s x = q at hok hstep
  cases hstep with
  | idle hcomp =>
      rcases hx with rfl | rfl
      · exact fun hc => absurd (hcomp.symm.trans hc) (by simp)
      · exact fun hc => absurd (hcomp.symm.trans hc) (by simp)
  | noDpu hdpu =>
      rcases hx with rfl | rfl
      · exact fun _ hc => absurd (hdpu.symm.trans hc) (by simp)
      · exact fun _ hc => absurd (hdpu.symm.trans hc) (by simp)
  | invalid => cases hok
  | insufficient => cases hok
  | assigned o hcomp _ _ ho =>
      have hp := List.find?_some ho
      simp only [Bool.and_eq_true] at hp
      have hotf : ((s.countCheck.assignOtf d o x).incrementWindow x).otfMPP x = some o :=
        Function.update_self ..
      rcases hx with rfl | rfl
      · exact fun _ _ => ⟨o, hotf, .alone hp.1.2⟩
      · exact fun _ _ => ⟨o, hotf, .alone hp.1.2⟩

/-- The priorities of the hardware change nothing, or tell so. -/
theorem setResourcePriority_ok (hok : (setResourcePriority d s).2 = .noError) :
    (setResourcePriority d s).1 = s.countCheck := by
  have hloop := foldl_keeps (P := fun p : State × Bool => p.2 = true ∨ p.1 = s.countCheck)
    (fun p i hp => show (prioritizeLayer d p i).2 = true ∨ (prioritizeLayer d p i).1 = _ from by
      unfold prioritizeLayer
      split
      · exact hp
      split
      · exact hp
      split
      · exact .inl rfl
      · exact hp) (List.range d.layerNum) (s := (s.countCheck, false)) (.inr rfl)
  unfold setResourcePriority at hok ⊢
  dsimp only at hok ⊢
  cases hm : s.countCheck.m2mMPP .exynos with
  | none => rfl
  | some m =>
      simp only [hm] at hok ⊢
      generalize (List.range d.layerNum).foldl (prioritizeLayer d) (s.countCheck, false) = p
        at hok hloop
      split
      · rfl
      · next hmsc =>
        rw [if_neg hmsc] at hok
        split
        · next hpost =>
          rw [if_pos hpost] at hok
          cases hok
        · next hpost =>
          rw [if_neg hpost] at hok
          refine hloop.resolve_left fun hflag => ?_
          rw [if_pos hflag] at hok
          cases hok

/-- What the passes establish. -/
def goals (d : Display) : Goals where
  before _ _ := True
  after i s := Good d s (.layer i)
  settled x s := IsTarget x → Good d s x

/-- What is kept whatever happens. -/
structure Kept (d : Display) (s : State) : Prop where
  exclusive : Exclusive d s
  covered : Covered d s

theorem passRule (hd : SingleOtf d) : PassRule d (Kept d) (goals d) where
  reset s h := ⟨⟨(Exclusive.moves hd).resetAll h.exclusive, h.covered.resetAll⟩,
    fun _ _ => trivial⟩
  target s x h _ := by
    have hkept : Kept d (assignCompositionTarget d s x).1 :=
      ⟨(Exclusive.moves hd).assignTarget h.exclusive, h.covered.target x⟩
    refine ⟨hkept, fun hok => ⟨fun hx => target_settled hx hok, fun _ _ _ _ => trivial,
      fun j _ _ hj => ?_, fun y hy hty => ?_⟩⟩
    · have hj : Good d s (.layer j) := hj
      exact (Held.target hd ⟨h.exclusive, hj⟩ x).good
    · exact (Held.target hd ⟨h.exclusive, hy hty⟩ x).good
  layer s i _ h _ := by
    have hkept : Kept d (assignOneLayer d (d.layer i).overlayPriority s i).1 :=
      ⟨(Exclusive.moves hd).assignOneLayer h.exclusive, h.covered.oneLayer _⟩
    refine ⟨hkept, fun hok => ⟨?_, fun _ _ _ _ => trivial, fun j _ hji hj => ?_,
      fun y hy hty => ?_⟩⟩
    · refine oneLayer_good hd h.exclusive (fun hx => absurd rfl hx) (fun _ htype => ?_)
        (fun _ => rfl) hok
      rcases htype with ht | ht
      · exact .layer ht (by simp) (by simp)
      · exact .layer ht (by simp) (by simp)
    · have hj : Good d s (.layer j) := hj
      have hne : Source.layer j ≠ .layer i := fun hc => hji (Source.layer.inj hc)
      exact oneLayer_good hd h.exclusive (fun _ => hj) (fun hx => absurd hx hne)
        (fun hx => absurd hx hne) hok
    · have hne : y ≠ .layer i := by
        rintro rfl
        rcases hty with hc | hc <;> cases hc
      exact oneLayer_good hd h.exclusive (fun _ => hy hty) (fun hx => absurd hx hne)
        (fun hx => absurd hx hne) hok
  giveUp s h _ := ⟨(Exclusive.moves hd).giveUp h.exclusive, h.covered.giveUp⟩
  priority s h := by
    refine ⟨⟨(Exclusive.moves hd).prioritize h.exclusive, h.covered.priority⟩, fun hok => ?_⟩
    rw [setResourcePriority_ok hok]
    refine ⟨fun _ _ _ _ => trivial, fun j _ _ hj => ?_, fun y hy hty => ?_⟩
    · have hj : Good d s (.layer j) := hj
      have hcount : Good d s.countCheck (.layer j) := hj.frame rfl (fun _ _ => rfl) rfl rfl
      exact hcount
    · exact (hy hty).frame rfl (fun _ _ => rfl) rfl rfl

end Passes

/-! ### What is left is used -/

section Exynos

variable {d : Display} {x : Source} {s : State} {i : Nat}

/-- A neighbour that joins the exynos composition takes no other layer's MPP. -/
theorem Held.extend (hd : SingleOtf d) {j : Nat} {a : Extension} (h : Held d (.layer j) a.state)
    {m : MppId} (hm : m ∉ d.otfMPPs) : Held d (.layer j) (extendExynos d m a i).state := by
  refine ⟨(Exclusive.moves hd).extendExynos h.exclusive hm, ?_⟩
  unfold extendExynos
  split
  · exact h.good
  dsimp only
  split
  · by_cases hji : Source.layer j = .layer i
    · rw [hji]
      exact .layer (Function.update_self ..) (by simp) (by simp)
    · refine Good.retype ?_ hji _
      refine (Held.addExynos hd ⟨?_, ?_⟩ i).layer.good
      · refine (Exclusive.moves hd).record (Exclusive.assignM2m ?_ hm _)
        exact release_exclusive hd ((Exclusive.moves hd).countCheck h.exclusive) i
      · have hcount : Good d a.state.countCheck (.layer j) :=
          h.good.frame rfl (fun _ _ => rfl) rfl rfl
        have hrel := hcount.release ((Exclusive.moves hd).countCheck h.exclusive) hji
        exact hrel.frame rfl (fun _ _ => rfl) rfl rfl
  · exact h.good.frame rfl (fun _ _ => rfl) rfl rfl

theorem Covered.extend {a : Extension} (h : Covered d a.state) (m : MppId) :
    Covered d (extendExynos d m a i).state := by
  have hcount : Covered d a.state.countCheck := h.same rfl rfl
  unfold extendExynos
  split
  · exact h
  dsimp only
  split
  · refine Covered.retype (Covered.addExynos ?_ i) (by simp)
    exact hcount.released.same rfl rfl
  · exact hcount

/-- The only layer of the composition takes over the MPP of the target. -/
theorem Held.single (hd : SingleOtf d) (h : Held d x s) : Held d x (useSingleLayer d s) := by
  refine ⟨(Exclusive.moves hd).useSingleLayer h.exclusive, ?_⟩
  unfold useSingleLayer
  cases ho : s.otfMPP .exynos with
  | none => exact h.good
  | some o =>
      dsimp only
      split
      · next hcond =>
        simp only [Bool.and_eq_true, decide_eq_true_eq] at hcond
        set i := s.exynos.firstIndex.toNat with hi
        have hlast : ∀ t : State, Good d (t.assignOtf d o (.layer i)) x →
            Good d { t.assignOtf d o (.layer i) with
              counted := Function.update (Function.update (t.assignOtf d o (.layer i)).counted .exynos
                false) (.layer i) true } x :=
          fun t ht => ht.frame rfl (fun _ _ => rfl) rfl rfl
        refine hlast _ ?_
        by_cases hx : x = .layer i
        · subst hx
          have ht : ∀ t : State, (((t.setType i .device).initializeExynos d).resetAssignedState o
              |>.assignOtf d o (.layer i)).validateType i = .device :=
            fun _ => Function.update_self ..
          refine ⟨?_, fun _ => ⟨o, Function.update_self .., .single hcond.1.1.1.1 hcond.2⟩⟩
          rw [ht]
          simp
        · by_cases hex : x = .exynos
          · subst hex
            exact fun hc => absurd hc (by simp [State.info, State.assignOtf, State.addSource,
              State.resetAssignedState, State.initializeExynos, CompositionInfo.initial])
          · have hrecord : Good d (s.recordTaken .single i) x :=
              h.good.frame rfl (fun _ _ => rfl) rfl rfl
            have hexclusive : Exclusive d (s.recordTaken .single i) :=
              (Exclusive.moves hd).recordTaken h.exclusive
            have hretyped := (hrecord.release hexclusive hx).retype hx .device
            have hinit := Held.initializeExynos hd ⟨(Exclusive.moves hd).retypeLayer
              (release_exclusive hd hexclusive i), hretyped⟩
            have hsame : (((s.recordTaken .single i).resetAssignedResource i).setType i .device
                |>.initializeExynos d).otfMPP x = s.otfMPP x :=
              (initializeExynos_other hex).trans (hexclusive.release_other hx).1
            -- the MPP of the target shows nothing else
            have hother : s.otfMPP x ≠ some o := by
              intro hc
              have h₁ := (h.exclusive.otf x o hc).1
              have h₂ := (h.exclusive.otf .exynos o ho).1
              rw [h₁] at h₂
              exact hex (List.singleton_inj.mp h₂)
            refine hinit.good.frame ?_ (fun _ _ => rfl) rfl rfl
            refine (Function.update_of_ne hx _ _).trans (if_neg fun hc => hother ?_)
            rw [← hsame]
            exact hc.2
      · exact h.good

theorem Covered.single (h : Covered d s) : Covered d (useSingleLayer d s) := by
  unfold useSingleLayer
  split
  · exact h
  · dsimp only
    split
    · set i := s.exynos.firstIndex.toNat
      have hrecord : Covered d (s.recordTaken .single i) := h.same rfl rfl
      have hdevice : Covered d (((s.recordTaken .single i).resetAssignedResource i).setType i .device) :=
        hrecord.released.retype (by simp)
      exact hdevice.same rfl rfl
    · exact h

theorem Held.updateExynos (hd : SingleOtf d) (h : Held d x s)
    (hx : IsTarget x → d.useMaxG2DSrc = false) : Held d x (updateExynosComposition d s) := by
  unfold updateExynosComposition
  split
  · exact h
  next m hlink =>
  split
  · exact h
  refine Held.single hd ?_
  by_cases hmax : d.useMaxG2DSrc = true
  · rw [if_pos hmax]
    rcases isTarget_or_layer x with hx' | ⟨j, rfl⟩
    · exact absurd hmax (by simp [hx hx'])
    · rw [useMaxSources_eq]
      exact extendAround_keeps (B := fun _ => True)
        (fun a i _ ha => Held.extend hd ha (h.exclusive.m2m .exynos m hlink))
        (fun _ _ => trivial) (fun _ _ _ => trivial) h
  · rw [if_neg hmax]
    exact h

theorem Covered.updateExynos (h : Covered d s) : Covered d (updateExynosComposition d s) := by
  refine updateExynosComposition_keeps (I := Covered d) (fun m _ _ => ?_) (fun _ hs => hs.single) h
  rw [useMaxSources_eq]
  exact extendAround_keeps (B := fun _ => True) (fun a i _ ha => Covered.extend ha m)
    (fun _ _ => trivial) (fun _ _ _ => trivial) h

end Exynos

/-! ### The ends of the client range -/

section Peeling

variable {d : Display} {x : Source} {s : State} {i : Nat}

theorem Held.remove (hd : SingleOtf d) (h : Held d x s) :
    Held d x (removeClientCompositionLayer s i).1 := by
  refine ⟨(Exclusive.moves hd).removeClientCompositionLayer h.exclusive, ?_⟩
  unfold removeClientCompositionLayer
  split
  · exact h.good
  split
  · cases hm : s.otfMPP .client with
    | none => exact h.good
    | some m =>
        -- the target of the composition that ends asks for nothing any more
        by_cases hx : x = .client
        · subst hx
          exact fun hc => absurd hc (by simp [State.info, State.decrementWindow,
            State.initializeClient, CompositionInfo.initial])
        · have hotf : (((s.resetAssignedState m).initializeClient).decrementWindow .client).otfMPP x
              = s.otfMPP x :=
            (Function.update_of_ne hx _ _).trans (resetAssignedState_other h.exclusive hm hx)
          have hgood := h.good
          cases x with
          | layer j => exact ⟨hgood.1, fun hdev => by simpa only [Linked, hotf] using hgood.2 hdev⟩
          | client => exact absurd rfl hx
          | exynos => exact fun hc hdpu => by simpa only [Linked, hotf] using hgood hc hdpu
  split
  · exact h.good.frame rfl (fun _ _ => rfl) rfl rfl
  · exact h.good.frame rfl (fun _ _ => rfl) rfl rfl

/-- A round asks for an overlay of the layer, and links the layer if it gets one. -/
theorem Held.peel (hd : SingleOtf d) {a : Peeling} (h : Held d x a.state) {skip : State → State}
    (hexclusive : ∀ t, Exclusive d t → Exclusive d (skip t))
    (hgood : ∀ t, Good d t x → Good d (skip t) x) : Held d x (peel d skip a i).state := by
  have hasked := h.asked (i := i)
  have hshow := assignLayer_canShow (d := d) (s := a.state) (i := i)
  refine ⟨(Exclusive.moves hd).peel hexclusive h.exclusive, ?_⟩
  unfold ResourceManager.peel
  split
  · exact h.good
  split
  · exact hgood _ h.good
  dsimp only
  split
  · next htaken =>
    obtain ⟨o, ho, hcan⟩ := hshow htaken.1
    have hrecorded : Held d x ((assignLayer d a.state i).1.recordTaken .peeled i) :=
      hasked.account ⟨rfl, rfl, rfl⟩ rfl rfl rfl
    unfold changeLayerFromClientToDevice
    dsimp only
    split
    · by_cases hx : x = .layer i
      · exact hx ▸ Good.takeWindow_self ho hcan
      · exact (hrecorded.remove hd).good.takeWindow_other hx
    · exact (hrecorded.remove hd).good
  · exact hasked.good

theorem Held.updateClient (hd : SingleOtf d) (h : Held d x s) :
    Held d x (updateClientComposition d s).1 :=
  updateClientComposition_keeps
    (fun _ _ ha => ha.peel hd (fun _ ht => (Exclusive.moves hd).setClientRange ht)
      fun _ ht => ht.frame rfl (fun _ _ => rfl) rfl rfl)
    (fun _ _ ha => ha.peel hd (fun _ ht => (Exclusive.moves hd).setClientRange ht)
      fun _ ht => ht.frame rfl (fun _ _ => rfl) rfl rfl) h

/-- What a client layer that is removed leaves of the range. -/
inductive Removed (s : State) (i : Nat) (c : CompositionInfo) : Prop where
  | alone : s.client.firstIndex = i → s.client.lastIndex = i → c = .initial → Removed s i c
  | first : s.client.hasCompositionLayer = true → s.client.firstIndex = i →
      s.client.firstIndex ≠ s.client.lastIndex → c = ⟨true, i + 1, s.client.lastIndex⟩ → Removed s i c
  | last : s.client.hasCompositionLayer = true → s.client.firstIndex ≠ i → s.client.lastIndex = i →
      c = ⟨true, s.client.firstIndex, i - 1⟩ → Removed s i c

theorem removed_client (hok : (removeClientCompositionLayer s i).2 = .noError) :
    Removed s i (removeClientCompositionLayer s i).1.client := by
  unfold removeClientCompositionLayer at hok ⊢
  by_cases hout : s.client.hasCompositionLayer = false
      ∨ (s.client.firstIndex ≠ i ∧ s.client.lastIndex ≠ i)
  · rw [if_pos hout] at hok
    cases hok
  rw [if_neg hout] at hok ⊢
  have hcomp : s.client.hasCompositionLayer = true := by
    simpa using fun hc => hout (.inl hc)
  by_cases hone : s.client.firstIndex = s.client.lastIndex
  · have hfirst : s.client.firstIndex = i := by
      by_contra hne
      exact hout (.inr ⟨hne, fun hl => hne (hone.trans hl)⟩)
    rw [if_pos hone] at hok ⊢
    cases hm : s.otfMPP .client with
    | none => rw [hm] at hok; cases hok
    | some m => exact .alone hfirst (hone ▸ hfirst) rfl
  rw [if_neg hone] at hok ⊢
  by_cases hfirst : s.client.firstIndex = i
  · rw [if_pos hfirst]
    refine .first hcomp hfirst hone ?_
    rw [State.setClientRange_client, hcomp, hfirst]
  · rw [if_neg hfirst]
    have hlast : s.client.lastIndex = i := by
      by_contra hne
      exact hout (.inr ⟨hfirst, hne⟩)
    refine .last hcomp hfirst hlast ?_
    rw [State.setClientRange_client, hcomp, hlast]

/-- A call that fails does nothing. -/
theorem removed_failed (hno : (removeClientCompositionLayer s i).2 ≠ .noError) :
    (removeClientCompositionLayer s i).1 = s := by
  unfold removeClientCompositionLayer at hno ⊢
  split
  · rfl
  next hin =>
  rw [if_neg hin] at hno
  split
  · next hone =>
    rw [if_pos hone] at hno
    cases hm : s.otfMPP .client with
    | none => rfl
    | some m => rw [hm] at hno; exact absurd rfl hno
  · next hone =>
    rw [if_neg hone] at hno
    split
    · next hfirst => rw [if_pos hfirst] at hno; exact absurd rfl hno
    · next hfirst => rw [if_neg hfirst] at hno; exact absurd rfl hno

theorem removed_types :
    (removeClientCompositionLayer s i).1.validateType = s.validateType := by
  unfold removeClientCompositionLayer
  split
  · rfl
  split
  · split <;> rfl
  split <;> rfl

/-- A layer that leaves the range for a window of its own leaves no other one behind. -/
theorem Covered.remove (h : Covered d s) {a : Assigned}
    (hok : (removeClientCompositionLayer s i).2 = .noError) :
    Covered d (ResourceManager.takeWindow d (removeClientCompositionLayer s i).1 i a) := by
  have hclient : (ResourceManager.takeWindow d (removeClientCompositionLayer s i).1 i a).client
      = (removeClientCompositionLayer s i).1.client := takeWindow_client ..
  have hold : ∀ j < d.layerNum,
      (ResourceManager.takeWindow d (removeClientCompositionLayer s i).1 i a).validateType j = .client →
      j ≠ i ∧ s.validateType j = .client := by
    intro j _ hcl
    rw [takeWindow_types, State.setType_validateType, removed_types] at hcl
    by_cases hj : j = i
    · rw [hj, Function.update_self] at hcl
      cases hcl
    · exact ⟨hj, by rwa [Function.update_of_ne hj] at hcl⟩
  have hremoved := removed_client hok
  refine ⟨?_, fun j hj hcl => ?_⟩
  · rw [hclient]
    cases hremoved with
    | alone _ _ hc => rw [hc]; exact nofun
    | first _ _ _ hc => rw [hc]; exact fun _ => Int.le_add_one (Int.natCast_nonneg i)
    | last hcomp _ _ hc => rw [hc]; exact fun _ => h.start hcomp
  · obtain ⟨hji, hcl⟩ := hold j hj hcl
    obtain ⟨hcomp, hlo, hhi⟩ := h.inside j hj hcl
    have hne : (j : Int) ≠ i := fun hc => hji (Int.ofNat_inj.mp hc)
    rw [hclient]
    cases hremoved with
    | alone hf hl _ =>
        rw [hf] at hlo
        rw [hl] at hhi
        exact absurd (Int.le_antisymm hhi hlo) hne
    | first _ hf _ hc =>
        rw [hc]
        rw [hf] at hlo
        exact ⟨rfl, Int.add_one_le_of_lt (Int.lt_iff_le_and_ne.mpr ⟨hlo, hne.symm⟩), hhi⟩
    | last _ _ hl hc =>
        rw [hc]
        rw [hl] at hhi
        exact ⟨rfl, hlo, Int.le_sub_one_of_lt (Int.lt_iff_le_and_ne.mpr ⟨hhi, hne⟩)⟩

/-- A loop along the range is at the end of it that `e` says. -/
structure CoveredLoop (d : Display) (e : CompositionInfo → Prop) (a : Peeling) : Prop where
  covered : Covered d a.state
  follows : a.running = true → a.state.client.hasCompositionLayer = true → e a.state.client

theorem CoveredLoop.peel {e e' : CompositionInfo → Prop} {a : Peeling} (h : CoveredLoop d e a)
    {skip : State → State}
    (hskip : ∀ t, Covered d t → t.validateType i = .device →
      (t.client.hasCompositionLayer = true → e t.client) →
      Covered d (skip t) ∧ ((skip t).client.hasCompositionLayer = true → e' (skip t).client))
    (hcut : ∀ t c, (t.client.hasCompositionLayer = true → e t.client) → Removed t i c →
      c.hasCompositionLayer = true → e' c) : CoveredLoop d e' (ResourceManager.peel d skip a i) := by
  unfold ResourceManager.peel
  by_cases hrun : a.running = false
  · rw [if_pos hrun]
    exact ⟨h.covered, fun hr => absurd (hr.symm.trans hrun) (by simp)⟩
  rw [if_neg hrun]
  have hend := h.follows (by simpa using hrun)
  split
  · next hspared =>
    simp only [Bool.and_eq_true, decide_eq_true_eq] at hspared
    exact ⟨(hskip _ h.covered hspared.2 hend).1, fun _ => (hskip _ h.covered hspared.2 hend).2⟩
  have hasked := h.covered.asked (i := i)
  dsimp only
  split
  · have hclient : ((assignLayer d a.state i).1.recordTaken .peeled i).client = a.state.client := by
      obtain ⟨hdr, heq⟩ := assignLayer_state d a.state i
      rw [heq]
      rfl
    have hrecorded : Covered d ((assignLayer d a.state i).1.recordTaken .peeled i) :=
      hasked.same rfl rfl
    rw [← hclient] at hend
    unfold changeLayerFromClientToDevice
    dsimp only
    split
    · next hok =>
      refine ⟨hrecorded.remove hok, fun _ => ?_⟩
      rw [takeWindow_client]
      exact hcut _ _ hend (removed_client hok)
    · next hno =>
      rw [removed_failed hno]
      exact ⟨hrecorded, fun hr => absurd hr (by simpa using hno)⟩
  · exact ⟨hasked, fun hr => absurd hr (by simp)⟩

theorem Covered.peelDown (h : Covered d s) : Covered d (peelDown d s).1 := by
  unfold ResourceManager.peelDown
  split
  · exact h
  -- before the round of a layer the range ends with it
  have hloop : ∀ (n : Nat) (a : Peeling), CoveredLoop d (fun c => c.lastIndex + 1 = n) a →
      Covered d ((List.range n).reverse.foldl (ResourceManager.peel d peelLast) a).state := by
    intro n
    induction n with
    | zero => exact fun _ ha => ha.covered
    | succ n ih =>
        intro a ha
        rw [List.range_succ, List.reverse_append, List.reverse_singleton, List.singleton_append,
          List.foldl_cons]
        refine ih _ (ha.peel (fun t ht hdev hend => ⟨⟨ht.start, fun j hj hcl => ?_⟩, fun hc => ?_⟩)
          fun t c hend hr hc => ?_)
        · obtain ⟨hcomp, hlo, hhi⟩ := ht.inside j hj hcl
          have hjn : j ≠ n := by
            rintro rfl
            exact absurd (hdev.symm.trans hcl) (by simp)
          refine ⟨hcomp, hlo, ?_⟩
          have hlast := hend hcomp
          show (j : Int) ≤ t.client.lastIndex - 1
          push_cast at hlast
          omega
        · have hlast := hend hc
          show t.client.lastIndex - 1 + 1 = n
          push_cast at hlast
          omega
        · cases hr with
          | alone _ _ hinit => rw [hinit] at hc; cases hc
          | first hcomp hf hne hcut =>
              -- the first layer of a longer range is not its last one
              have hlast := hend hcomp
              push_cast at hlast
              omega
          | last _ _ _ hcut => rw [hcut]; exact Int.sub_add_cancel _ _
  dsimp only
  split
  · next hpos =>
    refine hloop _ _ ⟨h, fun _ _ => ?_⟩
    push_cast
    rw [Int.toNat_of_nonneg hpos]
  · exact h

theorem Covered.updateClient (h : Covered d s) : Covered d (updateClientComposition d s).1 := by
  unfold updateClientComposition
  split
  · exact h
  split
  · exact h
  have hup : Covered d ((List.range' s.client.firstIndex.toNat
      (s.client.lastIndex.toNat + 1 - s.client.firstIndex.toNat)).foldl
        (ResourceManager.peel d peelFirst) ⟨s, .noError, true⟩).state := by
    -- before the round of a layer the range starts with it
    refine (foldl_range' (P := fun n a => CoveredLoop d (fun c => c.firstIndex = n) a)
      (fun n a _ _ ha => ?_) ⟨h, fun _ hc => (Int.toNat_of_nonneg (h.start hc)).symm⟩).covered
    refine ha.peel (fun t ht hdev hend => ⟨⟨fun hc => ?_, fun j hj hcl => ?_⟩, fun hc => ?_⟩)
      fun t c hend hr hc => ?_
    · exact Int.le_add_one (ht.start hc)
    · obtain ⟨hcomp, hlo, hhi⟩ := ht.inside j hj hcl
      have hjn : j ≠ n := by
        rintro rfl
        exact absurd (hdev.symm.trans hcl) (by simp)
      refine ⟨hcomp, ?_, hhi⟩
      have hfirst := hend hcomp
      show t.client.firstIndex + 1 ≤ j
      omega
    · show t.client.firstIndex + 1 = _
      rw [hend hc]
      exact (Int.natCast_succ n).symm
    · cases hr with
      | alone _ _ hinit => rw [hinit] at hc; cases hc
      | first _ _ _ hcut => rw [hcut]; exact (Int.natCast_succ n).symm
      | last hcomp hne _ _ => exact absurd (hend hcomp) hne
  dsimp only
  split
  · exact hup.peelDown
  · exact hup

end Peeling

/-! ### All frames -/

section Run

variable {d : Display} {x : Source} {s : State}

/-- What a display shows after an assignment. -/
structure Shown (d : Display) (s : State) : Prop where
  types : ∀ i < d.layerNum, s.validateType i ≠ .invalid
  device : ∀ i < d.layerNum, s.validateType i = .device → Linked d s (.layer i)
  client : ∀ i < d.layerNum, s.validateType i = .client → s.client.hasCompositionLayer = true
    ∧ s.client.firstIndex ≤ i ∧ (i : Int) ≤ s.client.lastIndex
  targets : d.useMaxG2DSrc = false → d.useDpu = true → ∀ x, IsTarget x →
    (s.info x).hasCompositionLayer = true → Linked d s x
  alone : ∀ x y o, s.otfMPP x = some o → s.otfMPP y = some o → x = y

theorem Kept.start (hd : SingleOtf d) (h : Exclusive d s) : Kept d (initializeAssignment d s) where
  exclusive := (Exclusive.moves hd).initializeInfos
    ((Exclusive.moves hd).account _ _ ((Exclusive.moves hd).forget s h) ⟨rfl, rfl, rfl⟩)
  covered := .initializeInfos

theorem Covered.addRequested (h : Covered d s) (i : Nat) : Covered d (addRequested d s i).1 := by
  unfold ResourceManager.addRequested
  split
  · refine Covered.addClient h.start fun j hj hji hcl => h.inside j hj ?_
    rwa [State.setType_validateType, Function.update_of_ne hji] at hcl
  · exact h

theorem Kept.requested (hd : SingleOtf d) (h : Kept d s) : Kept d (addRequestedLayers d s).1 where
  exclusive := (Exclusive.moves hd).addRequestedLayers h.exclusive
  covered := addRequestedLayers_keeps (I := Covered d) (fun _ i _ hs => hs.addRequested i) h.covered

/-- What is left for the last step of an assignment. -/
theorem Held.finish (hd : SingleOtf d) (h : Held d x s) (hx : IsTarget x → d.useMaxG2DSrc = false) :
    Held d x (updateClientComposition d (updateExynosComposition d s)).1 :=
  (h.updateExynos hd hx).updateClient hd

theorem shown (hk : Kept d s) (hl : ∀ i < d.layerNum, Good d s (.layer i))
    (ht : d.useMaxG2DSrc = false → ∀ x, IsTarget x → Good d s x) : Shown d s where
  types i hi := (hl i hi).1
  device i hi := (hl i hi).2
  client := hk.covered.inside
  targets hmax hdpu x hx hc := by
    have hgood := ht hmax x hx
    rcases hx with rfl | rfl
    · exact hgood hc hdpu
    · exact hgood hc hdpu
  alone x y o hxo hyo := by
    have h₁ := (hk.exclusive.otf x o hxo).1
    have h₂ := (hk.exclusive.otf y o hyo).1
    exact List.singleton_inj.mp (h₁.symm.trans h₂)

/-- The same MPPs in front of other layers. -/
theorem Exclusive.display {d' : Display} (h : Exclusive d s) (ho : d'.otfMPPs = d.otfMPPs) :
    Exclusive d' s :=
  ⟨by simpa only [ho] using h.otf, by simpa only [ho] using h.m2m, h.idle⟩

end Run

end ExynosHal.ShownSources
