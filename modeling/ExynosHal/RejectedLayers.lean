/-
  ExynosHal/RejectedLayers.lean
  =============================
  **Layers that are rejected go to the client.**

  `validateLayer` rejects a layer that only the client can compose, and layers
  that are requested as client layers.  With a window left a rejected layer finds
  no MPP.  Three steps of an assignment do not look at the rejection: with all
  windows used `assignLayer` offers the layer to the G2D, the exynos range takes
  the layers between its ends, and the only layer of the exynos composition is
  given the OTF MPP of the target.
-/
import ExynosHal.AssignmentRun

namespace ExynosHal.RejectedLayers

open ExynosHal.Assignment ExynosHal.CompositionRange ExynosHal.ResourceManager
open ExynosHal.AssignmentRun ExynosHal.TransitionSystem

/-- Rejected with another flag than `eDimLayer`. -/
def isRejected (d : Display) (i : Nat) : Bool :=
  decide (validateLayer d i ≠ none) && decide (validateLayer d i ≠ some .dimLayer)

/-- The step is none of the three that give a rejected layer away. -/
def respectsRejection (d : Display) : Event → Bool
  | .met i shortage => !(shortage && isRejected d i)
  | .taken .joined i _ _ => !isRejected d i
  | .taken .single i _ _ => !isRejected d i
  | _ => true

def RespectsRejection (d : Display) (s : State) : Prop :=
  ∀ e ∈ s.history, respectsRejection d e = true

def IsClient (t : ValidateType) : Prop := t = .client

def IsNotExynos (t : ValidateType) : Prop := t ≠ .exynos

theorem IsClient.closed : ∀ t, IsClient t → IsClient .client := fun _ _ => rfl

theorem IsNotExynos.closed : ∀ t, IsNotExynos t → IsNotExynos .client := fun _ _ => nofun

/-- Unless a rejected layer was given away, the type of layer `i` is in `T`. -/
def Stays (d : Display) (i : Nat) (T : ValidateType → Prop) (s : State) : Prop :=
  RespectsRejection d s → T (s.validateType i)

section Stays

variable {d : Display} {i : Nat} {T : ValidateType → Prop} {s s' : State}

theorem Stays.frame (h : Stays d i T s) (ht : s'.validateType = s.validateType)
    (hh : s'.history = s.history) : Stays d i T s' := by
  intro hr
  rw [ht]
  exact h fun e he => hr e (hh ▸ he)

theorem Stays.record (h : Stays d i T s) (e : Event) : Stays d i T (s.record e) :=
  fun hr => h fun e' he' => hr e' (List.mem_cons_of_mem e he')

theorem Stays.setType_other (h : Stays d i T s) {j : Nat} (hj : j ≠ i) (t : ValidateType) :
    Stays d i T (s.setType j t) := by
  intro hr
  show T (Function.update s.validateType j t i)
  rw [Function.update_of_ne hj.symm]
  exact h hr

theorem Stays.setType (h : Stays d i T s) {t : ValidateType} (ht : ∀ t', T t' → T t) (j : Nat) :
    Stays d i T (s.setType j t) := by
  by_cases hj : j = i
  · subst hj
    intro hr
    show T (Function.update s.validateType j t j)
    rw [Function.update_self]
    exact ht _ (h hr)
  · exact h.setType_other hj t

theorem Stays.reset (h : Stays d i T s) (j : Nat) : Stays d i T (s.resetAssignedResource j) :=
  h.frame (State.resetAssignedResource_validateType s j) (State.resetAssignedResource_history s j)

theorem Stays.decrementWindow (h : Stays d i T s) (x : Source) :
    Stays d i T (s.decrementWindow x) :=
  (h.record (.decrement s.windowNumUsed)).frame rfl rfl

/-- A step on record that gives layer `i` away. -/
theorem Stays.of_event {e : Event} (he : e ∈ s.history) (hno : respectsRejection d e = false) :
    Stays d i T s :=
  fun hr => absurd (hr e he) (by rw [hno]; exact Bool.false_ne_true)

end Stays

/-! ### The ranges -/

section Ranges

variable {d : Display} {i : Nat} {T : ValidateType → Prop} {s : State}

theorem Stays.sandwichClient (hT : ∀ t, T t → T .client) {p : State × Bool} (h : Stays d i T p.1) (j : Nat) :
    Stays d i T (sandwichClient d p j).1 := by
  unfold CompositionRange.sandwichClient
  split
  · exact h
  · split
    · exact h
    · dsimp only
      split
      · exact (((h.record _).decrementWindow _).reset j).setType hT j
      · exact ((h.record _).reset j).setType hT j

theorem Stays.updateExynosRange (h : Stays d i T s) : Stays d i T (updateExynosRange d s).1 := by
  unfold CompositionRange.updateExynosRange
  split
  · exact h
  · split
    · exact h.frame rfl rfl
    · exact h.frame rfl rfl

theorem Stays.addClient (hT : ∀ t, T t → T .client) (h : Stays d i T s) (k : Nat) :
    Stays d i T (addClientCompositionLayer d s k).1 := by
  unfold addClientCompositionLayer
  split
  · exact h.frame rfl rfl
  · dsimp only
    split
    · exact h.frame rfl rfl
    · have hloop := foldl_keeps (P := fun p : State × Bool => Stays d i T p.1)
        (fun p j hp => Stays.sandwichClient hT hp j)
        (between (min s.client.firstIndex k) (max s.client.lastIndex k))
        (s := (s.setClientRange (min s.client.firstIndex k) (max s.client.lastIndex k), false))
        (h.frame rfl rfl)
      split
      · exact hloop.updateExynosRange
      · exact hloop

/-- What every function does that makes a layer a client layer. -/
theorem Stays.toClient (hT : ∀ t, T t → T .client) (h : Stays d i T s) (j : Nat) :
    Stays d i T (addClientCompositionLayer d ((s.resetAssignedResource j).setType j .client) j).1 :=
  ((h.reset j).setType hT j).addClient hT j

theorem Stays.join (hi : isRejected d i = true) (h : Stays d i T s) (m : MppId) (j : Nat) :
    Stays d i T (join d m s j) := by
  have hjoined : Event.taken .joined j (s.validateType j) (s.counted (.layer j))
      ∈ (CompositionRange.join d m s j).history := by
    unfold CompositionRange.join
    dsimp only
    split <;> simp [State.recordTaken, State.decrementWindow, State.setExynosRange]
  by_cases hj : j = i
  · subst hj
    exact .of_event hjoined (by simp [respectsRejection, hi])
  · have hassigned : Stays d i T
        (((s.recordTaken .joined j).resetAssignedResource j).assignM2m d m (.layer j)) :=
      ((h.record _).reset j).frame rfl rfl
    unfold CompositionRange.join
    dsimp only
    split
    · exact ((hassigned.decrementWindow _).setType_other hj _).frame rfl rfl
    · exact (hassigned.setType_other hj _).frame rfl rfl

theorem Stays.sandwichExynos (hi : isRejected d i = true) (hT : ∀ t, T t → T .client) {a : Sandwich}
    (h : Stays d i T a.state) (m : MppId) (j : Nat) :
    Stays d i T (sandwichExynos d m a j).state := by
  unfold CompositionRange.sandwichExynos
  repeat' split
  · exact h
  · exact h
  · exact h
  · exact h
  · exact (h.record _).toClient hT j
  · exact h.join hi m j

theorem Stays.giveUpEnd (hT : ∀ t, T t → T .client) (h : Stays d i T s) (j : Nat) {cut : State → State}
    (hcut : ∀ s, Stays d i T s → Stays d i T (cut s)) : Stays d i T (giveUpEnd d s j cut).1 := by
  have hclient := (h.record (.taken .nested j (s.validateType j) (s.counted (.layer j)))).toClient
    hT j
  unfold CompositionRange.giveUpEnd
  dsimp only
  split
  · exact hclient
  · split
    · exact hclient
    · exact hcut _ hclient

theorem Stays.nested (hT : ∀ t, T t → T .client) (h : Stays d i T s) :
    Stays d i T (handleNestedClientCompositionLayer d s).1 := by
  unfold handleNestedClientCompositionLayer
  split
  · exact h
  · split
    · exact h.giveUpEnd hT _ fun _ hs => hs.frame rfl rfl
    · exact h.giveUpEnd hT _ fun _ hs => hs.frame rfl rfl

theorem Stays.trim (h : Stays d i T s) (j : Nat) : Stays d i T (trim s j) := by
  unfold CompositionRange.trim
  split
  · exact h.frame rfl rfl
  · split
    · exact h.frame rfl rfl
    · exact h

theorem Stays.disableExynos (hT : ∀ t, T t → T .client) (h : Stays d i T s) (m : MppId) :
    Stays d i T (disableExynosComposition d m s) := by
  have hround : ∀ s j, Stays d i T s → Stays d i T (disable d s j) := by
    intro s j hs
    unfold disable
    split
    · exact hs
    · exact hs.toClient hT j
  have hstart : Stays d i T (setLogicalType s m .g2dRGB) := h.frame rfl rfl
  unfold disableExynosComposition
  exact (foldl_keeps hround _ hstart).frame rfl rfl

theorem Stays.settle (hT : ∀ t, T t → T .client) (h : Stays d i T s) (m : MppId) (l : List Nat)
    (changeFlag : Bool) : Stays d i T (settleExynosRange d m s l changeFlag).1 := by
  have htrim : Stays d i T (if (s.mpp m).logicalType = .g2dRGB then l.foldl CompositionRange.trim s else s) := by
    split
    · exact foldl_keeps (P := Stays d i T) (fun _ j hs => Stays.trim hs j) l h
    · exact h
  unfold settleExynosRange
  dsimp only
  generalize (if (s.mpp m).logicalType = .g2dRGB then l.foldl CompositionRange.trim s else s) = r
    at htrim
  have hvalid : Stays d i T (if isIndexValid d r = false then r.initializeExynos d else r) := by
    split
    · exact htrim.frame rfl rfl
    · exact htrim
  generalize (if isIndexValid d r = false then r.initializeExynos d else r) = r' at hvalid
  split
  · exact hvalid.disableExynos hT m
  · exact hvalid

theorem Stays.addExynos (hi : isRejected d i = true) (hT : ∀ t, T t → T .client) (h : Stays d i T s)
    (k : Nat) : Stays d i T (addExynosCompositionLayer d s k).1 := by
  refine addExynosCompositionLayer_keeps (Stays.frame (Stays.record (s := s.countCheck) ?_
    (.added k (hasHighExynos d s.countCheck k) (hasHighPair d s.countCheck k))) rfl rfl)
    (h.frame rfl rfl) (fun m a j ha => ha.sandwichExynos hi hT m j) (fun s hs => hs.nested hT)
    fun m s l changeFlag hs => hs.settle hT m l changeFlag
  exact h.frame rfl rfl

end Ranges

/-! ### A layer that is met -/

section Met

variable {d : Display} {s : State} {i : Nat}

/-- With no window left only an MPP of several sources takes a layer. -/
theorem tryM2mMPP_insufficient {m : MppId} {a : Assigned} (h : tryM2mMPP d s i true m = some a) :
    a.compositionType = .exynos := by
  unfold tryM2mMPP at h
  dsimp only at h
  by_cases hm : 1 < (d.mpp m).maxSrcLayerNum
  · simp only [hm, decide_true, Bool.not_true, Bool.and_false] at h
    repeat' split at h
    all_goals first | (cases h; rfl) | cases h
  · simp [hm] at h

theorem findResource_insufficient {a : Assigned} (h : findResource d s i true = some a) :
    a.compositionType = .exynos := by
  have h : d.m2mMPPs.findSome? (tryM2mMPP d s i true) = some a := by
    simpa [findResource] using h
  obtain ⟨m, _, hm⟩ := List.exists_of_findSome?_eq_some h
  exact tryM2mMPP_insufficient hm

theorem failLayer_type : (failLayer s i).2.compositionType = .client := by
  unfold failLayer
  split <;> rfl

/-- A rejected layer finds no window, and the G2D only when the windows are short. -/
theorem assignLayer_rejected (hi : isRejected d i = true) :
    (assignLayer d s i).2.compositionType = .client
      ∨ (assignLayer d s i).2.compositionType = .exynos ∧ hasShortage d s i = true := by
  simp only [isRejected, Bool.and_eq_true, decide_eq_true_eq] at hi
  unfold assignLayer
  dsimp only
  by_cases hw : isWindowInsufficient d s.countCheck = true
  · rw [hw, if_pos (.inr (.inl rfl))]
    split
    · next a ha =>
      have ha' : d.m2mMPPs.findSome? (tryM2mMPP d s.countCheck i true) = some a := by
        simpa [findResource] using ha
      refine .inr ⟨findResource_insufficient ha, ?_⟩
      unfold hasShortage
      rw [ha', show isWindowInsufficient d s = true from hw]
      rfl
    · exact .inl failLayer_type
  · rw [if_neg (by simp [hi.1, hi.2, hw])]
    exact .inl failLayer_type

end Met

/-! ### A pass -/

section Pass

variable {d : Display} {i : Nat} {T : ValidateType → Prop} {s : State}

theorem Stays.assignLayer (h : Stays d i T s) (j : Nat) : Stays d i T (assignLayer d s j).1 := by
  obtain ⟨hdr, heq⟩ := assignLayer_state d s j
  rw [heq]
  exact h.frame rfl rfl

theorem Stays.assignM2mOf (h : Stays d i T s) (m : Option MppId) (j : Nat) :
    Stays d i T (assignM2mOf d s m j) := by
  cases m with
  | none => exact h
  | some m => exact h.frame rfl rfl

theorem Stays.assignOtfOf (h : Stays d i T s) (m : Option MppId) (j : Nat) :
    Stays d i T (assignOtfOf d s m j) := by
  cases m with
  | none => exact h
  | some m => exact h.frame rfl rfl

theorem Stays.takeWindow_other (h : Stays d i T s) {j : Nat} (hj : j ≠ i) (a : Assigned) :
    Stays d i T (takeWindow d s j a) :=
  (((h.assignOtfOf a.otfMPP j).assignM2mOf a.m2mMPP j).setType_other hj .device).frame rfl rfl

/-- The layer goes to the composition only if a rejected one is given away. -/
theorem Stays.met_exynos (hi : isRejected d i = true) (hshort : hasShortage d s i = true)
    {s' : State} (hs' : Event.met i (hasShortage d s i) ∈ s'.history) : Stays d i T s' :=
  .of_event hs' (by simp [respectsRejection, hi, hshort])

theorem assignM2mOf_history (s : State) (m : Option MppId) (j : Nat) :
    (ResourceManager.assignM2mOf d s m j).history = s.history := by
  cases m <;> rfl

theorem assignLayer_history (s : State) (j : Nat) :
    (ResourceManager.assignLayer d s j).1.history = s.history := by
  obtain ⟨hdr, heq⟩ := assignLayer_state d s j
  rw [heq]
  rfl

theorem Stays.reassign (h : RespectsRejection d s → T .invalid) : Stays d i T (reassign d s) := by
  have hh : (ResourceManager.reassign d s).history = s.history := by
    unfold ResourceManager.reassign resetM2mOf resetOtfOf
    dsimp only
    repeat' split
    all_goals rfl
  intro hr
  exact h fun e he => hr e (hh ▸ he)

/-- A round about another layer, or one that changes nothing. -/
theorem Stays.oneLayer (hi : isRejected d i = true) (hT : ∀ t, T t → T .client) (h : Stays d i T s)
    (p : OverlayPriority) (j : Nat)
    (hok : T .invalid ∨ (assignOneLayer d p s j).2 = .noError) :
    Stays d i T (assignOneLayer d p s j).1 := by
  have hmet : Stays d i T (ResourceManager.assignLayer d (met d s j) j).1 :=
    (h.record _).assignLayer j
  have hrej : j = i → _ := fun hj => assignLayer_rejected (s := met d s j) (hj ▸ hi)
  have hhist : Event.met j (hasShortage d s j)
      ∈ (ResourceManager.assignLayer d (met d s j) j).1.history := by
    rw [assignLayer_history]
    exact List.mem_cons_self
  have hstep := assignOneLayer_cases d s j p
  generalize assignOneLayer d p s j = r' at hok hstep
  generalize ResourceManager.assignLayer d (met d s j) j = r at hmet hrej hhist hstep
  cases hstep with
  | passed => exact h
  | device _ _ htype =>
    refine hmet.takeWindow_other (fun hj => ?_) r.2
    rcases hrej hj with hc | ⟨hc, _⟩ <;> rw [htype] at hc <;> cases hc
  | exynos _ _ htype =>
    refine Stays.addExynos hi hT ?_ j
    by_cases hj : j = i
    · subst hj
      rcases hrej rfl with hc | ⟨_, hshort⟩
      · rw [htype] at hc; cases hc
      · refine Stays.met_exynos hi hshort ?_
        rw [State.setType_history, assignM2mOf_history]
        exact hhist
    · exact (hmet.assignM2mOf _ j).setType_other hj _
  | reassigned =>
    rcases hok with hok | hok
    · exact .reassign fun _ => hok
    · cases hok
  | client => exact (hmet.setType hT j).addClient hT j

/-- The round about the layer itself makes it a client layer. -/
theorem Stays.oneLayer_self (hi : isRejected d i = true) (h : Stays d i IsNotExynos s)
    (hok : (assignOneLayer d (d.layer i).overlayPriority s i).2 = .noError) :
    Stays d i IsClient (assignOneLayer d (d.layer i).overlayPriority s i).1 := by
  have hrej := assignLayer_rejected (s := met d s i) hi
  have hhist : Event.met i (hasShortage d s i)
      ∈ (ResourceManager.assignLayer d (met d s i) i).1.history := by
    rw [assignLayer_history]
    exact List.mem_cons_self
  have hstep := assignOneLayer_cases d s i (d.layer i).overlayPriority
  generalize assignOneLayer d (d.layer i).overlayPriority s i = r' at hok hstep
  generalize ResourceManager.assignLayer d (met d s i) i = r at hrej hhist hstep
  cases hstep with
  | passed hpass =>
    intro hr
    rcases hpass with hc | hc | hc
    · exact hc
    · exact absurd hc (h hr)
    · exact absurd rfl hc
  | device _ _ htype => rcases hrej with hc | ⟨hc, _⟩ <;> rw [htype] at hc <;> cases hc
  | exynos _ _ htype =>
    rcases hrej with hc | ⟨_, hshort⟩
    · rw [htype] at hc; cases hc
    · refine Stays.addExynos hi IsClient.closed (Stays.met_exynos hi hshort ?_) i
      rw [State.setType_history, assignM2mOf_history]
      exact hhist
  | reassigned => cases hok
  | client =>
    refine Stays.addClient IsClient.closed (fun _ => ?_) i
    exact Function.update_self ..

theorem Stays.resetAssigned (h : Stays d i T s) : Stays d i T (resetAssignedResources d s) := by
  unfold resetAssignedResources
  dsimp only
  refine Stays.frame (s := List.foldl _ (List.foldl _ s d.otfMPPs) d.m2mMPPs) ?_ rfl rfl
  refine foldl_keeps (P := Stays d i T) (fun s m hs => ?_) _
    (foldl_keeps (P := Stays d i T) (fun s m hs => ?_) _ h)
  · split
    · exact hs.frame rfl rfl
    · exact hs
  · split
    · exact hs.frame rfl rfl
    · exact hs

theorem Stays.target (h : Stays d i T s) (x : Source) :
    Stays d i T (assignCompositionTarget d s x).1 := by
  have hstep := assignCompositionTarget_cases d s x
  generalize assignCompositionTarget d s x = r at hstep
  cases hstep with
  | _ => exact h.frame rfl rfl

theorem Stays.prioritizeLayer {p : State × Bool} (h : Stays d i T p.1) (j : Nat) :
    Stays d i T (prioritizeLayer d p j).1 := by
  unfold ResourceManager.prioritizeLayer
  by_cases hd : p.1.validateType j ≠ .device
  · rw [if_pos hd]
    exact h
  rw [if_neg hd]
  split
  · exact h
  · split
    · refine Stays.frame (h.reset j) ?_ rfl
      funext k
      show Function.update (p.1.resetAssignedResource j).validateType j .device k = _
      rw [← not_ne_iff.mp hd, State.resetAssignedResource_validateType, Function.update_eq_self]
    · exact h

theorem Stays.postpone (hT : ∀ t, T t → T .device) (h : Stays d i T s) (m : MppId) :
    Stays d i T (postponeExynosComposition d s m) := by
  have hloop : ∀ l : List Nat, Stays d i T
      (l.foldl (fun s j => (s.resetAssignedResource j).setType j .device) s) := fun l =>
    foldl_keeps (P := Stays d i T) (fun s j hs => (hs.reset j).setType hT j) l h
  unfold postponeExynosComposition
  dsimp only
  split
  · exact (hloop _).frame rfl rfl
  · exact h.frame rfl rfl

theorem Stays.priority (h : Stays d i T s)
    (hok : (∀ t, T t → T .device) ∨ (setResourcePriority d s).2 = .noError) :
    Stays d i T (setResourcePriority d s).1 := by
  have hcount : Stays d i T s.countCheck := h.frame rfl rfl
  have hloop : Stays d i T
      ((List.range d.layerNum).foldl (ResourceManager.prioritizeLayer d) (s.countCheck, false)).1 :=
    foldl_keeps (P := fun p : State × Bool => Stays d i T p.1)
      (fun p j hp => Stays.prioritizeLayer hp j) _ hcount
  unfold setResourcePriority at hok ⊢
  dsimp only at hok ⊢
  split
  · exact hcount
  · next m hm =>
    rw [hm] at hok
    dsimp only at hok
    by_cases hmsc : (d.mpp m).physicalType = .msc
    · rw [if_pos hmsc]; exact hcount
    rw [if_neg hmsc] at hok ⊢
    generalize (List.range d.layerNum).foldl (ResourceManager.prioritizeLayer d)
      (s.countCheck, false) = p at hloop hok
    split
    · next hp =>
      rw [if_pos hp] at hok
      exact hloop.postpone (hok.resolve_right nofun) m
    · exact hloop

theorem Stays.giveUp (hT : ∀ t, T t → T .client) (h : Stays d i T s) :
    Stays d i T (giveUpExynosComposition d s).1 :=
  giveUpExynosComposition_keeps (I := Stays d i T) (fun _ j hs => Stays.toClient hT hs j)
    (fun _ hs => hs.frame rfl rfl) h

end Pass

/-! ### A whole assignment -/

section Run

variable {d : Display} {i : Nat} {T : ValidateType → Prop} {s : State}

theorem Stays.addRequested (hT : ∀ t, T t → T .client) (h : Stays d i T s) (j : Nat) :
    Stays d i T (addRequested d s j).1 := by
  unfold ResourceManager.addRequested
  split
  · refine Stays.addClient hT (Stays.setType (s := { s with skipLayer := _ }) ?_ hT j) j
    exact h.frame rfl rfl
  · exact h

/-- What the passes establish for one rejected layer. -/
def goals (d : Display) (i : Nat) : Goals where
  before _ _ := True
  after j s := j = i → Stays d i IsClient s
  settled _ _ := True

/-- **The calls of a pass** never make a rejected layer an exynos layer, and the
    visit makes it a client layer. -/
theorem passRule (hi : isRejected d i = true) :
    PassRule d (Stays d i IsNotExynos) (goals d i) where
  reset s h := ⟨h.resetAssigned, fun _ _ => trivial⟩
  target s x h _ := by
    refine ⟨h.target x, fun _ => ⟨trivial, fun _ _ _ _ => trivial, fun j _ _ hj hji => ?_,
      fun _ _ => trivial⟩⟩
    exact (hj hji).target x
  layer s j _ h _ := by
    refine ⟨h.oneLayer hi IsNotExynos.closed _ j (.inl nofun), fun hok => ⟨fun hji => ?_,
      fun _ _ _ _ => trivial, fun k _ _ hk hki => ?_, fun _ _ => trivial⟩⟩
    · subst hji
      exact h.oneLayer_self hi hok
    · exact (hk hki).oneLayer hi IsClient.closed _ j (.inr hok)
  giveUp s h _ := h.giveUp IsNotExynos.closed
  priority s h := by
    refine ⟨h.priority (.inl fun _ _ => nofun), fun hok => ⟨fun _ _ _ _ => trivial, fun j _ _ hj hji => ?_,
      fun _ _ => trivial⟩⟩
    exact (hj hji).priority (.inr hok)

/-- A layer that is a client layer is no neighbour the exynos range can take. -/
theorem Stays.extendExynos (hi : isRejected d i = true) {a : Extension}
    (h : Stays d i IsClient a.state) (m : MppId) (j : Nat) :
    Stays d i IsClient (extendExynos d m a j).state := by
  have hcount : Stays d i IsClient a.state.countCheck := h.frame rfl rfl
  unfold ResourceManager.extendExynos
  split
  · exact h
  dsimp only
  split
  · next hcan =>
    have hassigned : Stays d i IsClient
        ((a.state.countCheck.resetAssignedResource j).assignM2m d m (.layer j)) :=
      (hcount.reset j).frame rfl rfl
    by_cases hj : j = i
    · subst hj
      have hno : a.state.validateType j ≠ .client := by
        simp only [canExtend, Bool.and_eq_true, decide_eq_true_eq] at hcan
        exact hcan.1.1.1
      -- a rejected layer was given away before
      have hbroken : Stays d j (fun _ => False) a.state.countCheck :=
        Stays.frame (s := a.state) (fun hr => hno (h hr)) rfl rfl
      have hassigned' : Stays d j (fun _ => False)
          ((a.state.countCheck.resetAssignedResource j).assignM2m d m (.layer j)) :=
        (hbroken.reset j).frame rfl rfl
      exact fun hr => ((hassigned'.record _).addExynos hi (fun _ hf => hf) j hr).elim
    · exact ((hassigned.record _).addExynos hi IsClient.closed j).setType_other hj _
  · exact hcount

theorem Stays.useMaxSources (hi : isRejected d i = true) (h : Stays d i IsClient s) (m : MppId) :
    Stays d i IsClient (useMaxSources d s m) := by
  rw [useMaxSources_eq]
  exact extendAround_keeps (B := fun _ => True) (fun a j _ ha => Stays.extendExynos hi ha m j)
    (fun _ _ => trivial) (fun _ _ _ => trivial) h

theorem Stays.useSingleLayer (hi : isRejected d i = true) (h : Stays d i IsClient s) :
    Stays d i IsClient (useSingleLayer d s) := by
  unfold ResourceManager.useSingleLayer
  split
  · exact h
  · next o _ =>
    dsimp only
    split
    · by_cases hj : s.exynos.firstIndex.toNat = i
      · refine Stays.of_event (e := .taken .single i (s.validateType i) (s.counted (.layer i))) ?_
          (by simp [respectsRejection, hi])
        rw [hj]
        show _ ∈ ((s.recordTaken .single i).resetAssignedResource i).history
        rw [State.resetAssignedResource_history]
        exact List.mem_cons_self
      · exact (((h.record _).reset _).setType_other hj _).frame rfl rfl
    · exact h

theorem Stays.updateExynos (hi : isRejected d i = true) (h : Stays d i IsClient s) :
    Stays d i IsClient (updateExynosComposition d s) :=
  updateExynosComposition_keeps (I := Stays d i IsClient) (fun m _ _ => h.useMaxSources hi m)
    (fun _ hs => Stays.useSingleLayer hi hs) h

theorem Stays.peel (hi : isRejected d i = true) (skip : State → State)
    (hskip : ∀ s, Stays d i IsClient s → Stays d i IsClient (skip s)) {a : Peeling}
    (h : Stays d i IsClient a.state) (j : Nat) : Stays d i IsClient (peel d skip a j).state := by
  have hasked := h.assignLayer j
  have hrej : j = i → _ := fun hj => assignLayer_rejected (s := a.state) (hj ▸ hi)
  unfold ResourceManager.peel
  generalize ResourceManager.assignLayer d a.state j = r at hasked hrej
  split
  · exact h
  · split
    · exact hskip _ h
    · dsimp only
      split
      · next hdev =>
        have hj : j ≠ i := by
          intro hj
          rcases hrej hj with hc | ⟨hc, _⟩ <;> rw [hdev.1] at hc <;> cases hc
        have hremoved : Stays d i IsClient
            (removeClientCompositionLayer (r.1.recordTaken .peeled j) j).1 := by
          have hrec : Stays d i IsClient (r.1.recordTaken .peeled j) := hasked.record _
          generalize r.1.recordTaken .peeled j = q at hrec
          unfold removeClientCompositionLayer
          split
          · exact hrec
          · split
            · split
              · exact hrec
              · exact Stays.decrementWindow (hrec.frame rfl rfl) .client
            · split
              · exact hrec.frame rfl rfl
              · exact hrec.frame rfl rfl
        unfold changeLayerFromClientToDevice
        dsimp only
        split
        · exact hremoved.takeWindow_other hj _
        · exact hremoved
      · exact hasked

theorem Stays.updateClient (hi : isRejected d i = true) (h : Stays d i IsClient s) :
    Stays d i IsClient (updateClientComposition d s).1 :=
  updateClientComposition_keeps (I := Stays d i IsClient)
    (fun _ j ha => Stays.peel hi peelFirst (fun _ hs => hs.frame rfl rfl) ha j)
    (fun _ j ha => Stays.peel hi peelLast (fun _ hs => hs.frame rfl rfl) ha j) h

end Run

end ExynosHal.RejectedLayers
