/-
  ExynosHal/ClientPeeling.lean
  ============================
  **Peeling layers off the client range.**

  `updateClientComposition` tries to show client layers by overlays, first from the
  bottom of the client range and then from its top.  The second loop goes down to
  layer 0 instead of the end of the range: it works as intended until it has taken
  the last layer that was left.
-/
import ExynosHal.MppLinks

namespace ExynosHal.ClientPeeling

open Function (update)
open ExynosHal.Assignment ExynosHal.CompositionRange ExynosHal.ResourceManager
open ExynosHal.AssignmentRun ExynosHal.AssignmentMoves ExynosHal.MppLinks

/-! ### Rounds -/

/-- Layer `i` lies in the range. -/
def InRange (c : CompositionInfo) (i : Nat) : Prop := c.firstIndex ≤ i ∧ (i : Int) ≤ c.lastIndex

instance (c : CompositionInfo) (i : Nat) : Decidable (InRange c i) :=
  inferInstanceAs (Decidable (_ ∧ _))

/-- The rounds that a loop over the given layers runs, each with the state it finds. -/
def rounds (d : Display) (skip : State → State) : List Nat → Peeling → List (State × Nat)
  | [], _ => []
  | i :: l, a => if a.running then (a.state, i) :: rounds d skip l (peel d skip a i) else []

/-- A round leaves the layer as it is and moves the end of the range past it. -/
def isSkipped (d : Display) (s : State) (i : Nat) : Bool :=
  d.isHigh i && decide (s.validateType i = .device)

/-- A round is offered an overlay for the layer. -/
def isTaken (d : Display) (s : State) (i : Nat) : Bool :=
  !isSkipped d s i
    && decide ((assignLayer d s i).2.compositionType = .device
      ∧ ((assignLayer d s i).2.m2mMPP.map fun m => (d.mpp m).physicalType) ≠ some PhysicalType.g2d)

/-- There is nothing to do. -/
def isPassedBy (d : Display) (s : State) : Bool :=
  decide (d.useDpu = false ∨ d.forceGpu = true ∨ s.client.hasCompositionLayer = false)
    || (isDedicatedTarget d s && decide (s.client.firstIndex = s.client.lastIndex))

/-- The layers of the first loop. -/
def upwards (s : State) : List Nat :=
  List.range' s.client.firstIndex.toNat (s.client.lastIndex.toNat + 1 - s.client.firstIndex.toNat)

/-- The layers of the second loop. -/
def downwards (s : State) : List Nat :=
  (if 0 ≤ s.client.lastIndex then List.range (s.client.lastIndex.toNat + 1) else []).reverse

/-- The first loop. -/
def peelUp (d : Display) (s : State) : Peeling :=
  (upwards s).foldl (peel d peelFirst) ⟨s, .noError, true⟩

def firstRounds (d : Display) (s : State) : List (State × Nat) :=
  if isPassedBy d s then [] else rounds d peelFirst (upwards s) ⟨s, .noError, true⟩

def secondRounds (d : Display) (s : State) : List (State × Nat) :=
  if isPassedBy d s ∨ (peelUp d s).status ≠ .noError ∨ isDedicatedTarget d (peelUp d s).state then []
  else rounds d peelLast (downwards (peelUp d s).state) ⟨(peelUp d s).state, .noError, true⟩

theorem updateClientComposition_eq (d : Display) (s : State) :
    updateClientComposition d s =
      if isPassedBy d s then (s, .noError)
      else if (peelUp d s).status = .noError then peelDown d (peelUp d s).state
      else ((peelUp d s).state, (peelUp d s).status) := by
  unfold updateClientComposition
  by_cases h : d.useDpu = false ∨ d.forceGpu = true ∨ s.client.hasCompositionLayer = false
  · have hpassed : isPassedBy d s = true := by
      unfold isPassedBy
      rw [decide_eq_true h, Bool.true_or]
    rw [if_pos h, if_pos hpassed]
  · have hpassed : isPassedBy d s =
        (isDedicatedTarget d s && decide (s.client.firstIndex = s.client.lastIndex)) := by
      unfold isPassedBy
      rw [decide_eq_false h, Bool.false_or]
    rw [if_neg h, hpassed]
    rfl

section Rounds

variable {d : Display} {skip : State → State} {a : Peeling} {i : Nat} {l : List Nat}

theorem rounds_cons (h : a.running = true) :
    rounds d skip (i :: l) a = (a.state, i) :: rounds d skip l (peel d skip a i) := if_pos h

theorem rounds_stopped (h : a.running = false) : rounds d skip l a = [] := by
  cases l with
  | nil => rfl
  | cons i l => exact if_neg (by simp [h])

theorem foldl_peel_stopped (h : a.running = false) : l.foldl (peel d skip) a = a := by
  induction l with
  | nil => rfl
  | cons i l ih =>
      rw [List.foldl_cons]
      have hp : peel d skip a i = a := if_pos h
      rw [hp, ih]

/-- A round that runs. -/
theorem peel_running (h : a.running = true) :
    peel d skip a i =
      if isSkipped d a.state i = true then { a with state := skip a.state }
      else if (assignLayer d a.state i).2.compositionType = .device
          ∧ ((assignLayer d a.state i).2.m2mMPP.map fun m => (d.mpp m).physicalType)
            ≠ some PhysicalType.g2d then
        let c := changeLayerFromClientToDevice d (assignLayer d a.state i).1 i (assignLayer d a.state i).2
        ⟨c.1, c.2, decide (c.2 = .noError)⟩
      else ⟨(assignLayer d a.state i).1, a.status, false⟩ := by
  unfold peel
  rw [if_neg (by simp [h])]
  rfl

theorem peel_skipped (h : a.running = true) (hs : isSkipped d a.state i = true) :
    peel d skip a i = { a with state := skip a.state } := by
  rw [peel_running h, if_pos hs]

theorem peel_refused (h : a.running = true) (hs : isSkipped d a.state i = false)
    (ht : isTaken d a.state i = false) :
    peel d skip a i = ⟨(assignLayer d a.state i).1, a.status, false⟩ := by
  unfold isTaken at ht
  rw [hs, Bool.not_false, Bool.true_and, decide_eq_false_iff_not] at ht
  rw [peel_running h, if_neg (by simp [hs]), if_neg ht]

theorem isSkipped_of_isTaken {s : State} (ht : isTaken d s i = true) : isSkipped d s i = false := by
  unfold isTaken at ht
  rw [Bool.and_eq_true, Bool.not_eq_true'] at ht
  exact ht.1

theorem peel_taken (h : a.running = true) (ht : isTaken d a.state i = true) :
    peel d skip a i =
      let c := changeLayerFromClientToDevice d (assignLayer d a.state i).1 i (assignLayer d a.state i).2
      ⟨c.1, c.2, decide (c.2 = .noError)⟩ := by
  have hs := isSkipped_of_isTaken ht
  unfold isTaken at ht
  rw [hs, Bool.not_false, Bool.true_and, decide_eq_true_eq] at ht
  rw [peel_running h, if_neg (by simp [hs]), if_pos ht]

end Rounds
/-! ### What the loops keep -/

/-- The device layers. -/
def deviceNum (d : Display) (t : Nat → ValidateType) : Nat :=
  (List.range d.layerNum).countP fun i => decide (t i = .device)

/-- One window for each device layer and one for each composition. -/
def windowsNeeded (d : Display) (s : State) : Nat :=
  deviceNum d s.validateType + s.client.hasCompositionLayer.toNat + s.exynos.hasCompositionLayer.toNat

theorem deviceNum_update {d : Display} {t : Nat → ValidateType} {i : Nat} (hi : i < d.layerNum)
    (ht : t i ≠ .device) : deviceNum d (update t i .device) = deviceNum d t + 1 := by
  unfold deviceNum
  generalize d.layerNum = n at hi
  induction n with
  | zero => exact absurd hi (Nat.not_lt_zero i)
  | succ n ih =>
      rw [List.range_succ, List.countP_append, List.countP_append, List.countP_singleton,
        List.countP_singleton]
      by_cases hin : i = n
      · subst hin
        have hsame : (List.range i).countP (fun j => decide (update t i .device j = .device))
            = (List.range i).countP fun j => decide (t j = .device) := by
          refine List.countP_congr fun j hj => ?_
          rw [Function.update_of_ne (Nat.ne_of_lt (List.mem_range.mp hj))]
        rw [hsame, Function.update_self]
        simp [ht]
      · rw [ih (by omega), Function.update_of_ne (fun h => hin h.symm)]
        omega

/-- The range is empty or lies in the one from `f` to `l`. -/
def IsSubrange (f l : Nat) (c : CompositionInfo) : Prop :=
  c = .initial ∨ ∃ f' l' : Nat, c = ⟨true, f', l'⟩ ∧ f ≤ f' ∧ f' ≤ l' ∧ l' ≤ l

/-- **What is so of a state `t` on the way from `s`**, whose client range goes from `f`
    to `l`. -/
structure Kept (d : Display) (f l : Nat) (s t : State) : Prop where
  exclusive : Exclusive d t
  exynos : t.exynos = s.exynos
  types : ∀ j, t.validateType j ≠ s.validateType j →
    t.validateType j = .device ∧ f ≤ j ∧ j ≤ l ∧ ¬InRange t.client j
  links : ∀ j, ¬(f ≤ j ∧ j ≤ l) →
    t.otfMPP (.layer j) = s.otfMPP (.layer j) ∧ t.m2mMPP (.layer j) = s.m2mMPP (.layer j)
  windows : (t.windowNumUsed + windowsNeeded d s) % 2 ^ 32
    = (s.windowNumUsed + windowsNeeded d t) % 2 ^ 32

namespace Kept

variable {d : Display} {f l : Nat} {s t u : State}

theorem self (h : Exclusive d s) : Kept d f l s s :=
  ⟨h, rfl, fun _ ht => absurd rfl ht, fun _ _ => ⟨rfl, rfl⟩, rfl⟩

/-- A step that is about none of this. -/
theorem account (h : Kept d f l s t) (hl : SameLinks t u) (ht : u.validateType = t.validateType)
    (hc : u.client = t.client) (he : u.exynos = t.exynos) (hw : u.windowNumUsed = t.windowNumUsed) :
    Kept d f l s u where
  exclusive := h.exclusive.weaken hl.mpp (fun _ _ ho => hl.otfMPP ▸ ho) fun _ _ hm => hl.m2mMPP ▸ hm
  exynos := he.trans h.exynos
  types := by
    rw [ht, hc]
    exact h.types
  links := by
    rw [hl.otfMPP, hl.m2mMPP]
    exact h.links
  windows := by
    have hn : windowsNeeded d u = windowsNeeded d t := by
      unfold windowsNeeded
      rw [ht, hc, he]
    rw [hw, hn]
    exact h.windows

/-- An end of the range moves inwards. -/
theorem shrink (h : Kept d f l s t) {a b a' b' : Int} (hc : t.client = ⟨true, a, b⟩) (ha : a ≤ a')
    (hb : b' ≤ b) : Kept d f l s (t.setClientRange a' b') where
  exclusive := h.exclusive.weaken rfl (fun _ _ ho => ho) fun _ _ hm => hm
  exynos := h.exynos
  types j hj := by
    obtain ⟨htype, hf, hl, hout⟩ := h.types j hj
    refine ⟨htype, hf, hl, fun hin => hout ?_⟩
    rw [hc]
    exact ⟨Int.le_trans ha hin.1, Int.le_trans hin.2 hb⟩
  links := h.links
  windows := h.windows

theorem assignLayer (h : Kept d f l s t) (i : Nat) :
    Kept d f l s (ResourceManager.assignLayer d t i).1 := by
  obtain ⟨hdr, heq⟩ := assignLayer_state d t i
  refine h.account (assignLayer_links d t i) ?_ ?_ ?_ ?_ <;> rw [heq] <;> rfl

/-- Layers of the range have kept their type. -/
theorem type_eq (h : Kept d f l s t) {j : Nat} (hj : InRange t.client j) :
    t.validateType j = s.validateType j :=
  Classical.byContradiction fun hne => (h.types j hne).2.2.2 hj

end Kept

/-! ### Taking a layer -/

namespace Kept

variable {d : Display} {f l i : Nat} {s t : State}

theorem takeWindow_client (d : Display) (t : State) (i : Nat) (a : Assigned) :
    (takeWindow d t i a).client = t.client ∧ (takeWindow d t i a).exynos = t.exynos
      ∧ (takeWindow d t i a).validateType = update t.validateType i .device
      ∧ (takeWindow d t i a).windowNumUsed = increment t.windowNumUsed := by
  obtain ⟨_, o, m, _⟩ := a
  cases o <;> cases m <;> exact ⟨rfl, rfl, rfl, rfl⟩

theorem takeWindow_links (d : Display) (t : State) {i : Nat} (a : Assigned) {x : Source}
    (hx : x ≠ .layer i) :
    (takeWindow d t i a).otfMPP x = t.otfMPP x ∧ (takeWindow d t i a).m2mMPP x = t.m2mMPP x := by
  obtain ⟨_, o, m, _⟩ := a
  have hotf : ∀ v : Option MppId, update t.otfMPP (.layer i) v x = t.otfMPP x := by
    intro v
    rw [Function.update_of_ne hx]
  have hm2m : ∀ v : Option MppId, update t.m2mMPP (.layer i) v x = t.m2mMPP x := by
    intro v
    rw [Function.update_of_ne hx]
  cases o <;> cases m
  · exact ⟨rfl, rfl⟩
  · exact ⟨rfl, hm2m _⟩
  · exact ⟨hotf _, rfl⟩
  · exact ⟨hotf _, hm2m _⟩

/-- The layer, which the range has lost, becomes a device layer. -/
theorem takeWindow (h : Kept d f l s t) (hd : SingleOtf d) {a : Assigned} (ha : IsOffer d t a)
    (hfi : f ≤ i) (hil : i ≤ l) (hln : l < d.layerNum) (hout : ¬InRange t.client i)
    (hi : t.validateType i ≠ .device) : Kept d f l s (ResourceManager.takeWindow d t i a) := by
  obtain ⟨hc, he, ht, hw⟩ := takeWindow_client d t i a
  refine ⟨(Exclusive.moves hd).takeOffer h.exclusive ha, he.trans h.exynos, fun j hj => ?_,
    fun j hj => ?_, ?_⟩
  · rw [ht] at hj ⊢
    rw [hc]
    by_cases hji : j = i
    · subst hji
      exact ⟨Function.update_self _ _ _, hfi, hil, hout⟩
    · rw [Function.update_of_ne hji] at hj ⊢
      exact h.types j hj
  · have hji : Source.layer j ≠ .layer i := by
      intro heq
      injection heq with heq
      exact hj (heq ▸ ⟨hfi, hil⟩)
    obtain ⟨hotf, hm2m⟩ := takeWindow_links d t a hji
    rw [hotf, hm2m]
    exact h.links j hj
  · have hn : windowsNeeded d (ResourceManager.takeWindow d t i a) = windowsNeeded d t + 1 := by
      unfold windowsNeeded
      rw [hc, he, ht, deviceNum_update (Nat.lt_of_le_of_lt hil hln) hi]
      omega
    have := h.windows
    rw [hn, hw]
    unfold increment
    omega

/-- The last layer goes: the window of the client target is free again. -/
theorem dropTarget (h : Kept d f l s t) {m : MppId} (ho : t.otfMPP .client = some m)
    (hc : t.client.hasCompositionLayer = true) :
    Kept d f l s (((t.resetAssignedState m).initializeClient).decrementWindow .client) where
  exclusive := (h.exclusive.resetAssignedState m).weaken rfl
    (fun x o hx => by
      simp only [State.initializeClient, State.decrementWindow, State.record] at hx
      by_cases hxc : x = .client
      · rw [hxc, Function.update_self] at hx
        cases hx
      · rwa [Function.update_of_ne hxc] at hx)
    fun _ _ hm => hm
  exynos := h.exynos
  types j hj := by
    obtain ⟨htype, hf, hl, -⟩ := h.types j hj
    refine ⟨htype, hf, hl, fun hin => ?_⟩
    have hle : (j : Int) ≤ -1 := hin.2
    omega
  links j hj := by
    have hsources := (h.exclusive.otf _ m ho).1
    have hout : Source.layer j ∉ (t.mpp m).assignedSources := by
      rw [hsources, List.mem_singleton]
      intro h
      cases h
    have hne : Source.layer j ≠ .client := by
      intro h
      cases h
    obtain ⟨hotf, hm2m⟩ := h.links j hj
    constructor
    · refine (Function.update_of_ne hne none _).trans (Eq.trans ?_ hotf)
      exact if_neg fun hmem => hout hmem.1
    · exact (if_neg fun hmem => hout hmem.1 : (t.resetAssignedState m).m2mMPP (.layer j) = _).trans hm2m
  windows := by
    have hn : windowsNeeded d (((t.resetAssignedState m).initializeClient).decrementWindow .client) + 1
        = windowsNeeded d t := by
      have hzero : windowsNeeded d (((t.resetAssignedState m).initializeClient).decrementWindow .client)
          = deviceNum d t.validateType + 0 + t.exynos.hasCompositionLayer.toNat := rfl
      rw [hzero]
      unfold windowsNeeded
      rw [hc]
      simp only [Bool.toNat_true]
      omega
    have hw : (((t.resetAssignedState m).initializeClient).decrementWindow .client).windowNumUsed
        = decrement t.windowNumUsed := rfl
    have hdec : (decrement t.windowNumUsed + 1) % 2 ^ 32 = t.windowNumUsed % 2 ^ 32 := by
      cases t.windowNumUsed <;> rfl
    have := h.windows
    rw [hw]
    omega

end Kept

section Change

variable {d : Display} {t : State} {i : Nat} {a : Assigned} {b : Int}

theorem removeClient_alone (hc : t.client = ⟨true, (i : Int), (i : Int)⟩) :
    removeClientCompositionLayer t i =
      match t.otfMPP .client with
      | none => (t, .einval)
      | some m => (((t.resetAssignedState m).initializeClient).decrementWindow .client, .noError) := by
  have hlegal : ¬(t.client.hasCompositionLayer = false
      ∨ (t.client.firstIndex ≠ i ∧ t.client.lastIndex ≠ i)) := by
    rw [hc]
    simp
  have hone : t.client.firstIndex = t.client.lastIndex := by rw [hc]
  exact (if_neg hlegal).trans (if_pos hone)

theorem removeClient_first (hc : t.client = ⟨true, (i : Int), b⟩) (hb : (i : Int) < b) :
    removeClientCompositionLayer t i = (t.setClientRange (i + 1) b, .noError) := by
  unfold removeClientCompositionLayer
  rw [hc]
  dsimp only
  rw [if_neg (by simp), if_neg (Int.ne_of_lt hb), if_pos rfl]

theorem removeClient_last (hc : t.client = ⟨true, b, (i : Int)⟩) (hb : b < (i : Int)) :
    removeClientCompositionLayer t i = (t.setClientRange b (i - 1), .noError) := by
  unfold removeClientCompositionLayer
  rw [hc]
  dsimp only
  rw [if_neg (by simp), if_neg (Int.ne_of_lt hb), if_neg (Int.ne_of_lt hb)]

/-- A layer that leaves the range gets its window. -/
theorem changeLayer_removed {u : State}
    (h : removeClientCompositionLayer (t.recordTaken .peeled i) i = (u, .noError)) :
    changeLayerFromClientToDevice d t i a = (takeWindow d u i a, .noError) := by
  unfold changeLayerFromClientToDevice
  rw [h]
  rfl

end Change

/-! ### One round -/

/-- How a round at layer `i` ends that runs with the range of `a`; `cut` is that range
    without the layer. -/
inductive Outcome (d : Display) (a : Peeling) (i : Nat) (cut : CompositionInfo) (r : Peeling) : Prop where
  | stopped : isSkipped d a.state i = false →
      (isTaken d a.state i = true → (a.state.otfMPP .client).isSome = false) → r.running = false →
      r.state.client = a.state.client → Outcome d a i cut r
  | skipped : isSkipped d a.state i = true → r.running = true → r.status = .noError →
      r.state.client = cut → Outcome d a i cut r
  | taken : isTaken d a.state i = true → a.state.client ≠ ⟨true, (i : Int), (i : Int)⟩ →
      r.running = true → r.status = .noError → r.state.client = cut → Outcome d a i cut r
  | last : isTaken d a.state i = true → a.state.client = ⟨true, (i : Int), (i : Int)⟩ →
      (a.state.otfMPP .client).isSome = true → r.running = true → r.status = .noError →
      r.state.client = .initial → Outcome d a i cut r

/-- The range holds client layers and spared layers only. -/
def HoldsClient (d : Display) (s : State) (f l : Nat) : Prop :=
  ∀ i, f ≤ i → i ≤ l → s.validateType i = .client ∨ d.isSpared i = true

/-- **One round.** -/
theorem peel_step {d : Display} (skip : State → State) {s : State} {a : Peeling} {f l i : Nat}
    {f' l' : Nat} {x y : Int} (hd : SingleOtf d) (hln : l < d.layerNum) (hcl : HoldsClient d s f l)
    (hrun : a.running = true) (hst : a.status = .noError) (hk : Kept d f l s a.state)
    (hc : a.state.client = ⟨true, (f' : Int), (l' : Int)⟩) (hfi : f ≤ i) (hil : i ≤ l)
    (hin : f' ≤ i ∧ i ≤ l') (hskip : skip a.state = a.state.setClientRange x y)
    (hx : (f' : Int) ≤ x) (hy : y ≤ l') (hout : ¬(x ≤ i ∧ (i : Int) ≤ y))
    (hremove : ∀ t : State, t.client = a.state.client → t.client ≠ ⟨true, (i : Int), (i : Int)⟩ →
      removeClientCompositionLayer t i = (t.setClientRange x y, .noError)) :
    Kept d f l s (peel d skip a i).state ∧ Outcome d a i ⟨true, x, y⟩ (peel d skip a i) := by
  have hinr : InRange a.state.client i := by
    rw [hc]
    exact ⟨Int.ofNat_le.mpr hin.1, Int.ofNat_le.mpr hin.2⟩
  cases hs : isSkipped d a.state i with
  | true =>
      rw [peel_skipped hrun hs, hskip]
      refine ⟨hk.shrink hc hx hy, .skipped hs hrun hst ?_⟩
      rw [State.setClientRange_client, hc]
  | false =>
  cases ht : isTaken d a.state i with
  | false =>
      rw [peel_refused hrun hs ht]
      refine ⟨hk.assignLayer i, .stopped hs (fun h => nomatch ht.symm.trans h) rfl ?_⟩
      obtain ⟨hdr, heq⟩ := assignLayer_state d a.state i
      show (assignLayer d a.state i).1.client = a.state.client
      rw [heq]
      rfl
  | true =>
      have htype : a.state.validateType i ≠ .device := by
        intro hdev
        rcases hcl i hfi hil with hclient | hspared
        · rw [hk.type_eq hinr, hclient] at hdev
          exact nomatch hdev
        · unfold Display.isSpared at hspared
          rw [Bool.and_eq_true] at hspared
          unfold isSkipped at hs
          rw [hspared.2, hdev] at hs
          exact nomatch hs
      have hasked := hk.assignLayer i
      have hoffer := assignLayer_isOffer d a.state i
      obtain ⟨hdr, heq⟩ := assignLayer_state d a.state i
      have hclient' : (assignLayer d a.state i).1.client = a.state.client := by rw [heq]; rfl
      have htype' : (assignLayer d a.state i).1.validateType = a.state.validateType := by rw [heq]; rfl
      have hotf' : (assignLayer d a.state i).1.otfMPP = a.state.otfMPP := by rw [heq]; rfl
      rw [peel_taken hrun ht]
      generalize assignLayer d a.state i = q at hasked hoffer hclient' htype' hotf'
      have hrec : Kept d f l s (q.1.recordTaken .peeled i) :=
        hasked.account ⟨rfl, rfl, rfl⟩ rfl rfl rfl rfl
      -- what is offered has still room when the layer has left the range
      have hwindow : ∀ u, removeClientCompositionLayer (q.1.recordTaken .peeled i) i = (u, .noError) →
          Kept d f l s u → u.validateType i ≠ .device → ¬InRange u.client i →
          Kept d f l s (takeWindow d u i q.2) := by
        intro u hu hku hui huo
        refine hku.takeWindow hd ⟨fun o ho => ⟨(hoffer.otf o ho).1, ?_⟩, hoffer.m2m⟩ hfi hil hln huo hui
        have hroom : HasRoom d (removeClientCompositionLayer (q.1.recordTaken .peeled i) i).1 o :=
          hasRoom_removeClientCompositionLayer (hoffer.otf o ho).2
        rwa [hu] at hroom
      by_cases halone : a.state.client = ⟨true, (i : Int), (i : Int)⟩
      · have hremoved := removeClient_alone (t := q.1.recordTaken .peeled i) (hclient'.trans halone)
        have hotf : (q.1.recordTaken .peeled i).otfMPP .client = a.state.otfMPP .client := by
          rw [← hotf']
          rfl
        rw [hotf] at hremoved
        cases ho : a.state.otfMPP .client with
        | none =>
            rw [ho] at hremoved
            have hchange : changeLayerFromClientToDevice d q.1 i q.2
                = (q.1.recordTaken .peeled i, .einval) := by
              unfold changeLayerFromClientToDevice
              rw [hremoved]
              rfl
            rw [hchange]
            exact ⟨hrec, .stopped hs (fun _ => by rw [ho]; rfl) rfl hclient'⟩
        | some m =>
            rw [ho] at hremoved
            rw [changeLayer_removed hremoved]
            have hdrop := hrec.dropTarget (hotf.trans ho) (by
              rw [State.recordTaken_client, hclient', halone])
            refine ⟨hwindow _ hremoved hdrop (by rw [← htype'] at htype; exact htype) ?_,
              .last ht halone (by rw [ho]; rfl) rfl rfl ?_⟩
            · intro hbad
              have hle : (i : Int) ≤ -1 := hbad.2
              omega
            · exact (Kept.takeWindow_client d _ i q.2).1
      · have hremoved := hremove (q.1.recordTaken .peeled i) hclient'
          (fun h => halone (hclient'.symm.trans h))
        rw [changeLayer_removed hremoved]
        have hcut := hrec.shrink (hclient'.trans hc) hx hy
        refine ⟨hwindow _ hremoved hcut (by rw [← htype'] at htype; exact htype) hout,
          .taken ht halone rfl rfl ?_⟩
        refine (Kept.takeWindow_client d _ i q.2).1.trans ?_
        rw [State.setClientRange_client, State.recordTaken_client, hclient', hc]

/-! ### The first loop -/

/-- A round that moves an end past the other: it skips the last layer that is left. -/
def Crosses (d : Display) (p : State × Nat) : Prop :=
  isSkipped d p.1 p.2 = true ∧ p.1.client = ⟨true, (p.2 : Int), (p.2 : Int)⟩

/-- A round that takes the last layer that is left. -/
def Empties (d : Display) (p : State × Nat) : Prop :=
  isTaken d p.1 p.2 = true ∧ (p.1.otfMPP .client).isSome = true
    ∧ p.1.client = ⟨true, (p.2 : Int), (p.2 : Int)⟩

instance (d : Display) (p : State × Nat) : Decidable (Crosses d p) :=
  inferInstanceAs (Decidable (_ ∧ _))

instance (d : Display) (p : State × Nat) : Decidable (Empties d p) :=
  inferInstanceAs (Decidable (_ ∧ _))

/-- How the first loop leaves the range. -/
inductive UpEnd (f l : Nat) (r : Peeling) : Prop where
  | stopped {f' : Nat} : f ≤ f' → f' ≤ l → r.state.client = ⟨true, (f' : Int), (l : Int)⟩ → UpEnd f l r
  | empty : r.status = .noError → r.state.client = .initial → UpEnd f l r
  | crossed : r.status = .noError → r.state.client = ⟨true, (l : Int) + 1, (l : Int)⟩ → UpEnd f l r

/-- What the first loop does on the layers `L` when it starts as `a`. -/
structure UpResult (d : Display) (f l : Nat) (s : State) (L : List Nat) (a : Peeling) : Prop where
  kept : Kept d f l s (L.foldl (peel d peelFirst) a).state
  ends : UpEnd f l (L.foldl (peel d peelFirst) a)
  inside : ∀ p ∈ rounds d peelFirst L a, InRange p.1.client p.2
  crosses : (∃ p ∈ rounds d peelFirst L a, Crosses d p) ↔
    (L.foldl (peel d peelFirst) a).state.client = ⟨true, (l : Int) + 1, (l : Int)⟩

section Upwards

variable {d : Display} {s : State} {f l i : Nat} {L : List Nat} {a : Peeling}

/-- One more round in front that does not cross. -/
theorem UpResult.cons (h : UpResult d f l s L (peel d peelFirst a i)) (hrun : a.running = true)
    (hin : InRange a.state.client i) (hcross : ¬Crosses d (a.state, i)) :
    UpResult d f l s (i :: L) a where
  kept := h.kept
  ends := h.ends
  inside := by
    rw [rounds_cons hrun, List.forall_mem_cons]
    exact ⟨hin, h.inside⟩
  crosses := by
    refine Iff.trans ?_ h.crosses
    rw [rounds_cons hrun]
    constructor
    · rintro ⟨p, hp, hc⟩
      rcases List.mem_cons.mp hp with rfl | hp
      · exact absurd hc hcross
      · exact ⟨p, hp, hc⟩
    · rintro ⟨p, hp, hc⟩
      exact ⟨p, List.mem_cons_of_mem _ hp, hc⟩

/-- The loop has stopped. -/
theorem UpResult.stopped (hk : Kept d f l s a.state) (hstop : a.running = false) {f' : Nat}
    (hf : f ≤ f') (hl : f' ≤ l) (hc : a.state.client = ⟨true, (f' : Int), (l : Int)⟩) :
    UpResult d f l s L a where
  kept := by rw [foldl_peel_stopped hstop]; exact hk
  ends := by rw [foldl_peel_stopped hstop]; exact .stopped hf hl hc
  inside := by rw [rounds_stopped hstop]; exact fun _ hp => nomatch hp
  crosses := by
    rw [rounds_stopped hstop, foldl_peel_stopped hstop]
    refine ⟨(fun ⟨_, hp, _⟩ => nomatch hp), fun h => ?_⟩
    rw [hc] at h
    injection h with _ h
    omega

theorem upwards_loop (hd : SingleOtf d) (hln : l < d.layerNum) (hcl : HoldsClient d s f l) (n : Nat) :
    ∀ (i : Nat) (a : Peeling), i + n = l → f ≤ i → a.running = true → a.status = .noError →
      Kept d f l s a.state → a.state.client = ⟨true, (i : Int), (l : Int)⟩ →
      UpResult d f l s (List.range' i (n + 1)) a := by
  induction n with
  | zero =>
      intro i a hi hfi hrun hst hk hc
      obtain rfl : i = l := hi
      obtain ⟨hk', hout⟩ := peel_step peelFirst hd hln hcl hrun hst hk hc hfi (Nat.le_refl i)
        ⟨Nat.le_refl i, Nat.le_refl i⟩ (x := (i : Int) + 1) (y := i)
        (by rw [peelFirst, hc]) (by omega) (Int.le_refl _) (by omega)
        fun t ht hne => absurd (ht.trans hc) hne
      have hrounds : rounds d peelFirst (List.range' i (0 + 1)) a = [(a.state, i)] := rounds_cons hrun
      refine ⟨hk', ?_, ?_, ?_⟩
      · show UpEnd f i (peel d peelFirst a i)
        cases hout with
        | stopped _ _ _ hcl' => exact .stopped hfi (Nat.le_refl i) (hcl'.trans hc)
        | skipped _ _ hst' hcl' => exact .crossed hst' hcl'
        | taken _ hne => exact absurd hc hne
        | last _ _ _ _ hst' hcl' => exact .empty hst' hcl'
      · rw [hrounds]
        intro p hp
        obtain rfl := List.mem_singleton.mp hp
        rw [hc]
        exact ⟨Int.le_refl _, Int.le_refl _⟩
      · show _ ↔ (peel d peelFirst a i).state.client = _
        rw [hrounds]
        cases hout with
        | stopped hs _ _ hcl' =>
            refine ⟨?_, fun h => ?_⟩
            · rintro ⟨p, hp, hskip, -⟩
              obtain rfl := List.mem_singleton.mp hp
              exact nomatch hs.symm.trans hskip
            · rw [hcl', hc] at h
              injection h with _ h
              omega
        | skipped hs _ _ hcl' => exact ⟨fun _ => hcl', fun _ => ⟨_, List.mem_singleton_self _, hs, hc⟩⟩
        | taken _ hne => exact absurd hc hne
        | last ht _ _ _ _ hcl' =>
            refine ⟨?_, fun h => nomatch hcl'.symm.trans h⟩
            rintro ⟨p, hp, hskip, -⟩
            obtain rfl := List.mem_singleton.mp hp
            exact nomatch (isSkipped_of_isTaken ht).symm.trans hskip
  | succ n ih =>
      intro i a hi hfi hrun hst hk hc
      have hne : a.state.client ≠ ⟨true, (i : Int), (i : Int)⟩ := by
        intro h
        rw [hc] at h
        injection h with _ _ h
        omega
      obtain ⟨hk', hout⟩ := peel_step peelFirst hd hln hcl hrun hst hk hc hfi (by omega)
        ⟨Nat.le_refl i, by omega⟩ (x := (i : Int) + 1) (y := l)
        (by rw [peelFirst, hc]) (by omega) (Int.le_refl _) (by omega)
        fun t ht _ => removeClient_first (ht.trans hc) (by omega)
      have hinside : InRange a.state.client i := by
        rw [hc]
        exact ⟨Int.le_refl _, by dsimp only; omega⟩
      refine UpResult.cons (L := List.range' (i + 1) (n + 1)) ?_ hrun hinside fun h => hne h.2
      cases hout with
      | stopped _ _ hstop hcl' => exact .stopped hk' hstop hfi (by omega) (hcl'.trans hc)
      | skipped _ hrun' hst' hcl' =>
          exact ih (i + 1) _ (by omega) (by omega) hrun' hst' hk' (hcl'.trans (by rw [Int.natCast_succ]))
      | taken _ _ hrun' hst' hcl' =>
          exact ih (i + 1) _ (by omega) (by omega) hrun' hst' hk' (hcl'.trans (by rw [Int.natCast_succ]))
      | last _ halone => exact absurd halone hne

end Upwards

/-! ### The second loop -/

/-- A round after which the range still has its ends in order, or is gone for good. -/
def IsOrderly (d : Display) (p : State × Nat) : Prop :=
  ¬Crosses d p ∧ (Empties d p → p.2 = 0)

instance (d : Display) (p : State × Nat) : Decidable (IsOrderly d p) :=
  inferInstanceAs (Decidable (_ ∧ _))

/-- What the second loop does on the layers `L` when it starts as `a`. -/
structure DownResult (d : Display) (f l : Nat) (s : State) (L : List Nat) (a : Peeling) : Prop where
  kept : (∀ p ∈ rounds d peelLast L a, IsOrderly d p) → Kept d f l s (L.foldl (peel d peelLast) a).state
  orderly : (∀ p ∈ rounds d peelLast L a, IsOrderly d p) ↔
    (∀ p ∈ rounds d peelLast L a, InRange p.1.client p.2)
      ∧ IsSubrange f l (L.foldl (peel d peelLast) a).state.client

section Downwards

variable {d : Display} {s : State} {f l i : Nat} {L : List Nat} {a : Peeling}

/-- One more round in front that is orderly. -/
theorem DownResult.cons (h : DownResult d f l s L (peel d peelLast a i)) (hrun : a.running = true)
    (hin : InRange a.state.client i) (hord : IsOrderly d (a.state, i)) :
    DownResult d f l s (i :: L) a where
  kept hall := by
    rw [rounds_cons hrun, List.forall_mem_cons] at hall
    exact h.kept hall.2
  orderly := by
    rw [rounds_cons hrun, List.forall_mem_cons, List.forall_mem_cons, h.orderly]
    constructor
    · rintro ⟨-, hrest, hsub⟩
      exact ⟨⟨hin, hrest⟩, hsub⟩
    · rintro ⟨⟨-, hrest⟩, hsub⟩
      exact ⟨hord, hrest, hsub⟩

/-- A round in front that is not: the next one is outside the range, or the range is
    left with its ends crossed. -/
theorem DownResult.cons_not (hrun : a.running = true) (hord : ¬IsOrderly d (a.state, i))
    (hbad : (∀ p ∈ rounds d peelLast L (peel d peelLast a i), InRange p.1.client p.2) →
      IsSubrange f l (L.foldl (peel d peelLast) (peel d peelLast a i)).state.client → False) :
    DownResult d f l s (i :: L) a where
  kept hall := by
    rw [rounds_cons hrun, List.forall_mem_cons] at hall
    exact absurd hall.1 hord
  orderly := by
    rw [rounds_cons hrun, List.forall_mem_cons, List.forall_mem_cons]
    constructor
    · rintro ⟨h, -⟩
      exact absurd h hord
    · rintro ⟨⟨-, hrest⟩, hsub⟩
      exact (hbad hrest hsub).elim

/-- The loop has stopped, or nothing is left of it. -/
theorem DownResult.done (hk : Kept d f l s a.state) (hstop : a.running = false ∨ L = [])
    (hsub : IsSubrange f l a.state.client) : DownResult d f l s L a := by
  have hrounds : rounds d peelLast L a = [] := by
    rcases hstop with hstop | rfl
    · exact rounds_stopped hstop
    · rfl
  have hfold : L.foldl (peel d peelLast) a = a := by
    rcases hstop with hstop | rfl
    · exact foldl_peel_stopped hstop
    · rfl
  refine ⟨fun _ => hfold.symm ▸ hk, ?_⟩
  rw [hrounds, hfold]
  exact ⟨fun _ => ⟨(fun _ hp => nomatch hp), hsub⟩, fun _ _ hp => nomatch hp⟩

theorem range_succ_reverse (n : Nat) :
    (List.range (n + 1)).reverse = n :: (List.range n).reverse := by
  rw [List.range_succ, List.reverse_append]
  rfl

/-- Below the last layer that was left there is always a round outside the range. -/
theorem not_inside_below (n : Nat) (hrun : a.running = true)
    (hout : ∀ k, n = k + 1 → ¬InRange a.state.client k) (hsub : ¬(n = 0 ∧ IsSubrange f l a.state.client)) :
    (∀ p ∈ rounds d peelLast (List.range n).reverse a, InRange p.1.client p.2) →
      IsSubrange f l ((List.range n).reverse.foldl (peel d peelLast) a).state.client → False := by
  intro hin hsub'
  cases n with
  | zero => exact hsub ⟨rfl, hsub'⟩
  | succ k =>
      rw [range_succ_reverse, rounds_cons hrun, List.forall_mem_cons] at hin
      exact hout k rfl hin.1

theorem downwards_loop (hd : SingleOtf d) (hln : l < d.layerNum) (hcl : HoldsClient d s f l) (n : Nat) :
    ∀ (f' : Nat) (a : Peeling), f ≤ f' → f' ≤ n → n ≤ l → a.running = true → a.status = .noError →
      Kept d f l s a.state → a.state.client = ⟨true, (f' : Int), (n : Int)⟩ →
      DownResult d f l s (List.range (n + 1)).reverse a := by
  induction n with
  | zero =>
      intro f' a hf hfn hnl hrun hst hk hc
      obtain rfl : f' = 0 := Nat.le_zero.mp hfn
      obtain ⟨hk', hout⟩ := peel_step peelLast hd hln hcl hrun hst hk hc hf hnl
        ⟨Nat.le_refl 0, Nat.le_refl 0⟩ (x := 0) (y := -1)
        (by rw [peelLast, hc]; rfl) (Int.le_refl _) (by omega) (by omega)
        fun t ht hne => absurd (ht.trans hc) hne
      have hinside : InRange a.state.client 0 := by
        rw [hc]
        exact ⟨Int.le_refl _, Int.le_refl _⟩
      rw [range_succ_reverse]
      cases hout with
      | stopped hs _ hstop hcl' =>
          refine DownResult.cons (.done hk' (.inl hstop) ?_) hrun hinside
            ⟨(fun h => nomatch hs.symm.trans h.1), fun _ => rfl⟩
          exact .inr ⟨0, 0, hcl'.trans hc, hf, Nat.le_refl 0, hnl⟩
      | skipped hs hrun' _ hcl' =>
          refine DownResult.cons_not hrun (fun h => h.1 ⟨hs, hc⟩) ?_
          refine not_inside_below 0 hrun' (fun k h => nomatch h) fun h => ?_
          rw [hcl'] at h
          rcases h.2 with h | ⟨f', l', h, -⟩
          · exact nomatch h
          · injection h with _ _ h
            omega
      | taken _ hne => exact absurd hc hne
      | last ht _ _ _ _ hcl' =>
          exact DownResult.cons (.done hk' (.inr rfl) (.inl hcl')) hrun hinside
            ⟨(fun h => nomatch (isSkipped_of_isTaken ht).symm.trans h.1), fun _ => rfl⟩
  | succ n ih =>
      intro f' a hf hfn hnl hrun hst hk hc
      obtain ⟨hk', hout⟩ := peel_step peelLast hd hln hcl hrun hst hk hc (Nat.le_trans hf hfn)
        hnl ⟨hfn, Nat.le_refl _⟩ (x := f') (y := n)
        (by rw [peelLast, hc, Int.natCast_succ]; dsimp only; rw [Int.add_sub_cancel])
        (Int.le_refl _) (by omega) (by omega)
        fun t ht hne => by
          have hlt : (f' : Int) < ((n + 1 : Nat) : Int) := by
            refine Int.lt_iff_le_and_ne.mpr ⟨by omega, fun h => hne ?_⟩
            rw [ht, hc, h]
          rw [removeClient_last (ht.trans hc) hlt, Int.natCast_succ, Int.add_sub_cancel]
      have hinside : InRange a.state.client (n + 1) := by
        rw [hc]
        exact ⟨Int.ofNat_le.mpr hfn, Int.le_refl _⟩
      rw [range_succ_reverse]
      cases hout with
      | stopped hs hnone hstop hcl' =>
          refine DownResult.cons (.done hk' (.inl hstop) ?_) hrun hinside
            ⟨(fun h => nomatch hs.symm.trans h.1), (fun h => nomatch (hnone h.1).symm.trans h.2.1)⟩
          exact .inr ⟨f', n + 1, hcl'.trans hc, hf, hfn, hnl⟩
      | skipped hs hrun' hst' hcl' =>
          by_cases halone : f' = n + 1
          · refine DownResult.cons_not hrun (fun h => h.1 ⟨hs, halone ▸ hc⟩) ?_
            refine not_inside_below (n + 1) hrun' (fun k hk' h => ?_) fun h => nomatch h.1
            obtain rfl : n = k := Nat.succ.inj hk'
            rw [hcl'] at h
            have hle : (f' : Int) ≤ n := h.1
            omega
          · refine DownResult.cons (ih f' _ hf (by omega) (by omega) hrun' hst' hk' hcl') hrun hinside
              ⟨fun h => halone ?_, fun h => ?_⟩
            · have heq := hc.symm.trans h.2
              injection heq with _ heq
              omega
            · exact nomatch (isSkipped_of_isTaken h.1).symm.trans hs
      | taken ht hne hrun' hst' hcl' =>
          have halone : f' ≠ n + 1 := fun h => hne (h ▸ hc)
          exact DownResult.cons (ih f' _ hf (by omega) (by omega) hrun' hst' hk' hcl') hrun hinside
            ⟨fun h => hne h.2, fun h => absurd h.2.2 hne⟩
      | last ht halone hsome hrun' _ hcl' =>
          refine DownResult.cons_not hrun (fun h => nomatch h.2 ⟨ht, hsome, halone⟩) ?_
          refine not_inside_below (n + 1) hrun' (fun k _ h => ?_) fun h => nomatch h.1
          rw [hcl'] at h
          have hle : (k : Int) ≤ -1 := h.2
          omega

end Downwards

/-! ### Both loops -/

/-- The client range of a display: nothing, or layers of the display that are client
    layers but for the spared ones. -/
inductive HasRange (d : Display) (s : State) : Prop where
  | none : s.client = .initial → HasRange d s
  | some {f l : Nat} : s.client = ⟨true, (f : Int), (l : Int)⟩ → f ≤ l → l < d.layerNum →
      HoldsClient d s f l → HasRange d s

/-- **What `updateClientComposition` is for**: on the way from `s` to `r` every round
    works on a layer of the range as it is then; the range stays a range; only layers
    that left it have another type, and that is `DEVICE`; the layers outside keep
    their MPPs; and the windows are the ones that are needed. -/
structure OnlyPeels (d : Display) (s r : State) : Prop where
  inside : ∀ p ∈ firstRounds d s ++ secondRounds d s, InRange p.1.client p.2
  range : r.client = .initial ∨ ∃ f l : Nat, r.client = ⟨true, (f : Int), (l : Int)⟩
    ∧ s.client.firstIndex ≤ f ∧ f ≤ l ∧ (l : Int) ≤ s.client.lastIndex
  types : ∀ i, r.validateType i ≠ s.validateType i →
    r.validateType i = .device ∧ InRange s.client i ∧ ¬InRange r.client i
  links : ∀ i, ¬InRange s.client i →
    r.otfMPP (.layer i) = s.otfMPP (.layer i) ∧ r.m2mMPP (.layer i) = s.m2mMPP (.layer i)
  windows : s.windowNumUsed % 2 ^ 32 = windowsNeeded d s % 2 ^ 32 →
    r.windowNumUsed % 2 ^ 32 = windowsNeeded d r % 2 ^ 32

/-- No round leaves the range with its ends crossed, and the second loop does not take
    the last layer that is left, unless that is layer 0. -/
def EndsStayOrdered (d : Display) (s : State) : Prop :=
  (∀ p ∈ firstRounds d s, ¬Crosses d p) ∧ ∀ p ∈ secondRounds d s, IsOrderly d p

instance (d : Display) (s : State) : Decidable (EndsStayOrdered d s) :=
  inferInstanceAs (Decidable (_ ∧ _))

section Both

variable {d : Display} {s r : State} {f l : Nat}

theorem inRange_iff (hc : s.client = ⟨true, (f : Int), (l : Int)⟩) (i : Nat) :
    InRange s.client i ↔ f ≤ i ∧ i ≤ l := by
  rw [hc]
  exact and_congr Int.ofNat_le Int.ofNat_le

theorem Kept.onlyPeels (hk : Kept d f l s r) (hc : s.client = ⟨true, (f : Int), (l : Int)⟩)
    (hin : ∀ p ∈ firstRounds d s ++ secondRounds d s, InRange p.1.client p.2)
    (hsub : IsSubrange f l r.client) : OnlyPeels d s r where
  inside := hin
  range := by
    refine hsub.imp_right fun ⟨f', l', hr, hf, hfl, hl⟩ => ⟨f', l', hr, ?_, hfl, ?_⟩
    · rw [hc]
      exact Int.ofNat_le.mpr hf
    · rw [hc]
      exact Int.ofNat_le.mpr hl
  types i hi := by
    obtain ⟨ht, hf, hl, hout⟩ := hk.types i hi
    exact ⟨ht, (inRange_iff hc i).mpr ⟨hf, hl⟩, hout⟩
  links i hi := hk.links i fun h => hi ((inRange_iff hc i).mpr h)
  windows hw := by
    have := hk.windows
    omega

/-- Nothing to do. -/
theorem onlyPeels_self (hin : ∀ p ∈ firstRounds d s ++ secondRounds d s, InRange p.1.client p.2)
    (hs : HasRange d s) : OnlyPeels d s s where
  inside := hin
  range := by
    cases hs with
    | none hc => exact .inl hc
    | @some f l hc hfl _ _ =>
        refine .inr ⟨f, l, hc, ?_, hfl, ?_⟩
        · exact Int.le_of_eq (by rw [hc])
        · exact Int.le_of_eq (by rw [hc])
  types _ h := absurd rfl h
  links _ _ := ⟨rfl, rfl⟩
  windows hw := hw

theorem OnlyPeels.subrange (h : OnlyPeels d s r) (hc : s.client = ⟨true, (f : Int), (l : Int)⟩) :
    IsSubrange f l r.client := by
  refine h.range.imp_right fun ⟨f', l', hr, hf, hfl, hl⟩ => ⟨f', l', hr, ?_, hfl, ?_⟩
  · rw [hc] at hf
    exact Int.ofNat_le.mp hf
  · rw [hc] at hl
    exact Int.ofNat_le.mp hl

/-- A range with its ends crossed. -/
theorem not_isSubrange_crossed {c : CompositionInfo} (hc : c = ⟨true, (l : Int) + 1, (l : Int)⟩) :
    ¬IsSubrange f l c := by
  rw [hc]
  rintro (h | ⟨f', l', h, -, hle, -⟩)
  · exact nomatch h
  · injection h with _ h1 h2
    omega

/-- **The client range is peeled as intended exactly if its ends stay ordered.** -/
theorem updateClientComposition_iff (hd : SingleOtf d) (hx : Exclusive d s) (hs : HasRange d s) :
    OnlyPeels d s (updateClientComposition d s).1 ↔ EndsStayOrdered d s := by
  rw [updateClientComposition_eq]
  by_cases hpassed : isPassedBy d s = true
  · have hfirst : firstRounds d s = [] := if_pos hpassed
    have hsecond : secondRounds d s = [] := if_pos (.inl hpassed)
    rw [if_pos hpassed]
    unfold EndsStayOrdered
    rw [hfirst, hsecond]
    refine ⟨fun _ => ⟨(fun _ hp => nomatch hp), (fun _ hp => nomatch hp)⟩, fun _ => onlyPeels_self ?_ hs⟩
    rw [hfirst, hsecond]
    exact fun _ hp => nomatch hp
  rw [if_neg hpassed]
  have hfirst : firstRounds d s = rounds d peelFirst (upwards s) ⟨s, .noError, true⟩ := if_neg hpassed
  cases hs with
  | none hc =>
      refine absurd ?_ hpassed
      unfold isPassedBy
      rw [decide_eq_true (.inr (.inr (by rw [hc]; rfl))), Bool.true_or]
  | @some f l hc hfl hln hcl =>
  have hup : UpResult d f l s (upwards s) ⟨s, .noError, true⟩ := by
    have hlist : upwards s = List.range' f (l - f + 1) := by
      unfold upwards
      rw [hc]
      dsimp only
      rw [Int.toNat_natCast, Int.toNat_natCast]
      congr 1
      omega
    rw [hlist]
    exact upwards_loop hd hln hcl (l - f) f _ (by omega) (Nat.le_refl f) rfl rfl (.self hx) hc
  have hkept : Kept d f l s (peelUp d s).state := hup.kept
  have hends : UpEnd f l (peelUp d s) := hup.ends
  have hinside : ∀ p ∈ firstRounds d s, InRange p.1.client p.2 := hfirst ▸ hup.inside
  have hcrosses : (∃ p ∈ firstRounds d s, Crosses d p) ↔
      (peelUp d s).state.client = ⟨true, (l : Int) + 1, (l : Int)⟩ := hfirst ▸ hup.crosses
  have hsecond : secondRounds d s =
      if (peelUp d s).status ≠ .noError ∨ isDedicatedTarget d (peelUp d s).state then []
      else rounds d peelLast (downwards (peelUp d s).state) ⟨(peelUp d s).state, .noError, true⟩ := by
    unfold secondRounds
    exact if_congr (by rw [or_iff_right hpassed]) rfl rfl
  -- without a second loop the state after the first one is the result
  have hwithout : secondRounds d s = [] → IsSubrange f l (peelUp d s).state.client →
      (OnlyPeels d s (peelUp d s).state ↔ EndsStayOrdered d s) := by
    intro hnone hsub
    refine ⟨fun _ => ⟨fun p hp hcross => ?_, by rw [hnone]; exact fun _ hp => nomatch hp⟩, fun _ => ?_⟩
    · exact not_isSubrange_crossed (hcrosses.mp ⟨p, hp, hcross⟩) hsub
    · refine hkept.onlyPeels hc ?_ hsub
      rw [hnone, List.append_nil]
      exact hinside
  by_cases hst : (peelUp d s).status = .noError
  · rw [if_pos hst]
    unfold peelDown
    by_cases hded : isDedicatedTarget d (peelUp d s).state = true
    · rw [if_pos hded]
      have hnone : secondRounds d s = [] := hsecond.trans (if_pos (.inr hded))
      cases hends with
      | stopped hf hl hcl' => exact hwithout hnone (.inr ⟨_, _, hcl', hf, hl, Nat.le_refl l⟩)
      | empty _ hcl' => exact hwithout hnone (.inl hcl')
      | crossed _ hcl' =>
          refine ⟨fun h => absurd (h.subrange hc) (not_isSubrange_crossed hcl'), fun h => ?_⟩
          obtain ⟨p, hp, hcross⟩ := hcrosses.mpr hcl'
          exact absurd hcross (h.1 p hp)
    · rw [if_neg hded]
      have hsome : secondRounds d s =
          rounds d peelLast (downwards (peelUp d s).state) ⟨(peelUp d s).state, .noError, true⟩ :=
        hsecond.trans (if_neg (by simp [hst, hded]))
      show OnlyPeels d s ((downwards (peelUp d s).state).foldl (peel d peelLast)
        ⟨(peelUp d s).state, .noError, true⟩).state ↔ _
      have hlist : ∀ b : Int, (peelUp d s).state.client = ⟨true, b, (l : Int)⟩ →
          downwards (peelUp d s).state = (List.range (l + 1)).reverse := by
        intro b hb
        unfold downwards
        rw [hb]
        dsimp only
        rw [if_pos (Int.natCast_nonneg l), Int.toNat_natCast]
      cases hends with
      | @stopped f' hf hl hcl' =>
          have hdown := downwards_loop hd hln hcl l f' ⟨(peelUp d s).state, .noError, true⟩ hf hl
            (Nat.le_refl l) rfl rfl hkept hcl'
          rw [← hlist _ hcl'] at hdown
          constructor
          · intro h
            refine ⟨fun p hp hcross => ?_, ?_⟩
            · have hcrossed := hcrosses.mp ⟨p, hp, hcross⟩
              rw [hcl'] at hcrossed
              injection hcrossed with _ hcrossed
              omega
            · rw [hsome]
              refine hdown.orderly.mpr ⟨fun p hp => h.inside p ?_, h.subrange hc⟩
              exact List.mem_append_right _ (hsome ▸ hp)
          · intro h
            have hall : ∀ p ∈ rounds d peelLast (downwards (peelUp d s).state)
                ⟨(peelUp d s).state, .noError, true⟩, IsOrderly d p := hsome ▸ h.2
            obtain ⟨hin, hsub⟩ := hdown.orderly.mp hall
            refine (hdown.kept hall).onlyPeels hc (fun p hp => ?_) hsub
            rcases List.mem_append.mp hp with hp | hp
            · exact hinside p hp
            · exact hin p (hsome ▸ hp)
      | empty _ hcl' =>
          have hnil : downwards (peelUp d s).state = [] := by
            unfold downwards
            rw [hcl']
            rfl
          rw [hnil] at hsome ⊢
          exact hwithout hsome (.inl hcl')
      | crossed _ hcl' =>
          constructor
          · intro h
            have hout := h.inside ((peelUp d s).state, l) (List.mem_append_right _ (by
              rw [hsome, hlist _ hcl', range_succ_reverse]
              exact List.mem_cons_self))
            rw [hcl'] at hout
            have hle : (l : Int) + 1 ≤ l := hout.1
            omega
          · intro h
            obtain ⟨p, hp, hcross⟩ := hcrosses.mpr hcl'
            exact absurd hcross (h.1 p hp)
  · rw [if_neg hst]
    have hnone : secondRounds d s = [] := hsecond.trans (if_pos (.inl hst))
    cases hends with
    | stopped hf hl hcl' => exact hwithout hnone (.inr ⟨_, _, hcl', hf, hl, Nat.le_refl l⟩)
    | empty hst' => exact absurd hst' hst
    | crossed hst' => exact absurd hst' hst

end Both

/-! ### A layer that is taken at the second try -/

/-- Above a device layer of high priority is one client layer. -/
def oneClient : State :=
  { (idle.assignOtf (phone [] 3) 0 (.layer 0)).assignOtf (phone [] 3) 1 .client with
    validateType := fun i => if i = 0 then .device else .client
    client := ⟨true, 1, 1⟩
    windowNumUsed := 2 }

def highAndPlain : List Layer := [{ plainLayer with overlayPriority := .high }, plainLayer]

theorem oneClient_exclusive (layers : List Layer) : Exclusive (phone layers 3) oneClient := by
  have hidle : Exclusive (phone layers 3) idle := .initial (fun _ => rfl) (fun _ => rfl) fun _ => rfl
  have hlayer := hidle.assignOtf (phone_singleOtf layers 3) (o := 0) List.mem_cons_self
    (fun h => nomatch h) (.layer 0)
  refine (hlayer.assignOtf (phone_singleOtf layers 3) (o := 1)
    (List.mem_cons_of_mem _ List.mem_cons_self) (fun h => nomatch h) .client).weaken rfl
    (fun _ _ ho => ho) fun _ _ hm => hm

theorem oneClient_hasRange (d : Display) (hd : d.layerNum = 2) : HasRange d oneClient := by
  refine .some (f := 1) (l := 1) rfl (Nat.le_refl 1) (by omega) fun i hi hil => .inl ?_
  obtain rfl : i = 1 := Nat.le_antisymm hil hi
  rfl

/-- An MPP is free at once: the first loop takes the layer, and the range is gone. -/
theorem oneClient_peeled :
    OnlyPeels (phone highAndPlain 3) oneClient
      (updateClientComposition (phone highAndPlain 3) oneClient).1 :=
  (updateClientComposition_iff (phone_singleOtf highAndPlain 3) (oneClient_exclusive highAndPlain)
    (oneClient_hasRange _ rfl)).mpr (by decide +kernel)

/-- The first request for the layer finds no capacity, the second one does. -/
def secondTry : Display :=
  { phone highAndPlain 3 with hasEnoughCapa := fun n _ _ _ => decide (1 < n) }

/-- **The second loop walks on** and moves the end of a range that is gone. -/
theorem secondTry_crosses :
    (updateClientComposition secondTry oneClient).1.client = ⟨false, -1, -2⟩
      ∧ ¬OnlyPeels secondTry oneClient (updateClientComposition secondTry oneClient).1 := by
  have hclient : (updateClientComposition secondTry oneClient).1.client = ⟨false, -1, -2⟩ := by
    decide +kernel
  refine ⟨hclient, fun h => ?_⟩
  rcases h.range with h | ⟨f, l, h, -⟩
  · rw [hclient] at h
    exact absurd h (by decide)
  · rw [hclient] at h
    injection h with h
    exact nomatch h

end ExynosHal.ClientPeeling
