/-
  ExynosHal/ClientAddition.lean
  =============================
  **What adding a client layer converts.**

  `addClientCompositionLayer` in any state whose OTF MPPs are exclusive: whatever
  the two ranges were, a call that succeeds has grown the client range, made client
  layers of what lies inside but for the spared layers, accounted for the windows and
  the exynos range, and left all other layers alone.
-/
import ExynosHal.MppLinks

namespace ExynosHal.ClientAddition

open ExynosHal.Assignment ExynosHal.CompositionRange ExynosHal.ClientRange
open ExynosHal.ResourceManager ExynosHal.AssignmentMoves ExynosHal.MppLinks
open ExynosHal.TransitionSystem

/-! ### Windows -/

/-- An unsigned counter of 32 bits went down by `n`. -/
structure Dropped (before after n : Nat) : Prop where
  modulo : (after + n) % 2 ^ 32 = before % 2 ^ 32
  exact : n ≤ before → after + n = before

theorem Dropped.zero (w : Nat) : Dropped w w 0 := ⟨rfl, fun _ => rfl⟩

theorem Dropped.decrement {w w' n : Nat} (h : Dropped w w' n) :
    Dropped w (decrement w') (n + 1) := by
  cases w' with
  | zero =>
      refine ⟨?_, fun hle => ?_⟩
      · rw [← h.modulo]
        simp only [Assignment.decrement]
        omega
      · have := h.exact (Nat.le_of_succ_le hle)
        omega
  | succ w' =>
      refine ⟨?_, fun hle => ?_⟩
      · rw [← h.modulo]
        simp only [Assignment.decrement]
        congr 1
        omega
      · have := h.exact (Nat.le_of_succ_le hle)
        simp only [Assignment.decrement]
        omega

@[simp] theorem resetAssignedResource_windowNumUsed (s : State) (i : Nat) :
    (s.resetAssignedResource i).windowNumUsed = s.windowNumUsed := by
  unfold State.resetAssignedResource State.releaseOtf State.releaseM2m
  split <;> split <;> rfl

variable {d : Display} {s : State}

/-- A device layer between `a` and `j` that is not spared. -/
def takesWindow (d : Display) (t : Nat → ValidateType) (a i : Nat) : Bool :=
  decide (a < i) && !d.isSpared i && decide (t i = .device)

theorem sandwichClient_windowNumUsed (p : State × Bool) (i : Nat) :
    (sandwichClient d p i).1.windowNumUsed =
      if d.isSpared i = false ∧ p.1.validateType i = .device then decrement p.1.windowNumUsed
      else p.1.windowNumUsed := by
  unfold sandwichClient
  by_cases hspared : d.isSpared i = true
  · rw [if_pos hspared, if_neg fun hc => Bool.false_ne_true (hc.1.symm.trans hspared)]
  · rw [if_neg hspared]
    by_cases hc : p.1.validateType i = .client
    · rw [if_pos hc, if_neg fun h => by rw [hc] at h; exact nomatch h.2]
    · rw [if_neg hc]
      have hspared : d.isSpared i = false := Bool.eq_false_iff.mpr hspared
      by_cases hdev : p.1.validateType i = .device
      · rw [if_pos ⟨hspared, hdev⟩]
        simp [hdev, State.setType, State.decrementWindow, State.record, State.recordTaken]
      · rw [if_neg fun h => hdev h.2]
        simp [hdev, State.setType, State.record, State.recordTaken]

/-- **The loop frees one window for each device layer it converts.** -/
theorem foldl_sandwichClient_windows (d : Display) (a n : Nat) (p : State × Bool) :
    Dropped p.1.windowNumUsed
      ((List.range' (a + 1) n).foldl (sandwichClient d) p).1.windowNumUsed
      ((List.range (a + 1 + n)).countP (takesWindow d p.1.validateType a)) := by
  refine (foldl_range' (P := fun j (q : State × Bool) =>
    q.1.validateType = sandwiched d p.1.validateType a j
      ∧ Dropped p.1.windowNumUsed q.1.windowNumUsed
        ((List.range j).countP (takesWindow d p.1.validateType a))) ?_ ?_).2
  · intro i q hi _ ⟨htype, hdrop⟩
    have hti : q.1.validateType i = p.1.validateType i := by
      rw [htype]
      exact sandwiched_outside fun h => Nat.lt_irrefl i h.2
    refine ⟨?_, ?_⟩
    · rw [(sandwichClient_eq q i).1, htype, sandwiched_succ hi]
    · rw [List.range_succ, List.countP_append, List.countP_singleton,
        sandwichClient_windowNumUsed, hti]
      by_cases hdev : d.isSpared i = false ∧ p.1.validateType i = .device
      · rw [if_pos hdev]
        have ht : takesWindow d p.1.validateType a i = true := by
          simp [takesWindow, hdev.1, hdev.2, Nat.lt_of_succ_le hi]
        rw [if_pos ht]
        exact hdrop.decrement
      · rw [if_neg hdev]
        have ht : takesWindow d p.1.validateType a i = false := by
          rw [Bool.eq_false_iff]
          intro hc
          simp only [takesWindow, Bool.and_eq_true, Bool.not_eq_true', decide_eq_true_eq] at hc
          exact hdev ⟨hc.1.2, hc.2⟩
        rw [ht]
        exact hdrop
  · refine ⟨funext fun i => (sandwiched_outside fun h => by omega).symm, ?_⟩
    have hnone : (List.range (a + 1)).countP (takesWindow d p.1.validateType a) = 0 := by
      rw [List.countP_eq_zero]
      intro i hi hc
      simp only [takesWindow, Bool.and_eq_true, decide_eq_true_eq] at hc
      have := List.mem_range.mp hi
      omega
    rw [hnone]
    exact .zero _

theorem countP_range_eq {p q : Nat → Bool} {n m : Nat} (h : ∀ i, p i = true ↔ i < n ∧ q i = true)
    (hnm : n ≤ m) : (List.range m).countP p = (List.range n).countP q := by
  obtain ⟨c, rfl⟩ := Nat.le.dest hnm
  induction c with
  | zero =>
      refine List.countP_congr fun i hi => ?_
      rw [h]
      exact and_iff_right (List.mem_range.mp hi)
  | succ c ih =>
      have hlast : p (n + c) = false := by
        rw [Bool.eq_false_iff]
        intro hc
        exact absurd ((h _).mp hc).1 (by omega)
      rw [← Nat.add_assoc, List.range_succ, List.countP_append, ih (by omega),
        List.countP_singleton, hlast]
      rfl

/-! ### Links -/

/-- The source is not one of the layers between `a` and `j`. -/
def IsBeyond (a j : Nat) (x : Source) : Prop := ∀ i, a < i → i < j → x ≠ .layer i

theorem sandwichClient_links (h : Exclusive d s) {b : Bool} {i : Nat} {x : Source}
    (hx : x ≠ .layer i) :
    (sandwichClient d (s, b) i).1.otfMPP x = s.otfMPP x
      ∧ (sandwichClient d (s, b) i).1.m2mMPP x = s.m2mMPP x := by
  unfold sandwichClient
  by_cases hspared : d.isSpared i = true
  · rw [if_pos hspared]
    exact ⟨rfl, rfl⟩
  rw [if_neg hspared]
  by_cases hc : s.validateType i = .client
  · rw [if_pos hc]
    exact ⟨rfl, rfl⟩
  rw [if_neg hc]
  dsimp only
  split
  · have hcounted : Exclusive d ((s.recordTaken .sandwiched i).decrementWindow (.layer i)) :=
      h.weaken rfl (fun _ _ ho => ho) fun _ _ hm => hm
    exact hcounted.release_other hx
  · have hrecorded : Exclusive d (s.recordTaken .sandwiched i) :=
      h.weaken rfl (fun _ _ ho => ho) fun _ _ hm => hm
    exact hrecorded.release_other hx

theorem foldl_sandwichClient_links (hd : SingleOtf d) (a n : Nat) {p : State × Bool}
    (h : Exclusive d p.1) {x : Source} (hx : IsBeyond a (a + 1 + n) x) :
    ((List.range' (a + 1) n).foldl (sandwichClient d) p).1.otfMPP x = p.1.otfMPP x
      ∧ ((List.range' (a + 1) n).foldl (sandwichClient d) p).1.m2mMPP x = p.1.m2mMPP x := by
  refine (foldl_range' (P := fun _ (q : State × Bool) => Exclusive d q.1
    ∧ q.1.otfMPP x = p.1.otfMPP x ∧ q.1.m2mMPP x = p.1.m2mMPP x) ?_ ⟨h, rfl, rfl⟩).2
  intro i q hi hin ⟨hq, hotf, hm2m⟩
  obtain ⟨hotf', hm2m'⟩ := sandwichClient_links hq (b := q.2) (hx i hi hin)
  exact ⟨(Exclusive.moves hd).sandwichClient hq, hotf'.trans hotf, hm2m'.trans hm2m⟩

theorem updateExynosRange_frame (d : Display) (s : State) {i : Nat} :
    (updateExynosRange d s).1.validateType = s.validateType
      ∧ (updateExynosRange d s).1.client = s.client
      ∧ (updateExynosRange d s).1.windowNumUsed = s.windowNumUsed
      ∧ (updateExynosRange d s).1.otfMPP (.layer i) = s.otfMPP (.layer i)
      ∧ (updateExynosRange d s).1.m2mMPP (.layer i) = s.m2mMPP (.layer i) := by
  unfold updateExynosRange
  split
  · exact ⟨rfl, rfl, rfl, rfl, rfl⟩
  · split
    · have hne : Source.layer i ≠ .exynos := nofun
      exact ⟨rfl, rfl, rfl, Function.update_of_ne hne none s.otfMPP,
        Function.update_of_ne hne ((s.m2mMPP .exynos).or d.blendingMPP) s.m2mMPP⟩
    · exact ⟨rfl, rfl, rfl, rfl, rfl⟩

/-! ### The call -/

/-- The layers that were device layers and are client layers now. -/
def convertedDevices (s r : State) : Nat → Bool :=
  fun i => decide (s.validateType i = .device) && decide (r.validateType i = .client)

/-- What the call with layer `k` did to get from `s` to `r`. -/
structure Grown (d : Display) (s : State) (k : Nat) (r : State) : Prop where
  covers : r.client.hasCompositionLayer = true ∧ r.client.firstIndex ≤ k ∧ k ≤ r.client.lastIndex
  coversOld : s.client.hasCompositionLayer = true →
    r.client.firstIndex ≤ s.client.firstIndex ∧ s.client.lastIndex ≤ r.client.lastIndex
  inside : ∀ i : Nat, r.client.firstIndex < i → (i : Int) < r.client.lastIndex →
    r.validateType i = .client ∨ d.isSpared i = true
  exynos : (∃ i, s.validateType i = .exynos ∧ r.validateType i ≠ .exynos) →
    (∃ f l : Nat, r.exynos = ⟨s.exynos.hasCompositionLayer, f, l⟩ ∧ IsHull d r.validateType f l)
      ∨ r.exynos = .initial ∧ ∀ i < d.layerNum, r.validateType i ≠ .exynos
  windows : Dropped s.windowNumUsed r.windowNumUsed
    ((List.range (r.client.lastIndex.toNat + 1)).countP (convertedDevices s r))
  outside : ∀ i : Nat, ¬(r.client.firstIndex ≤ i ∧ (i : Int) ≤ r.client.lastIndex) →
    r.validateType i = s.validateType i ∧ r.otfMPP (.layer i) = s.otfMPP (.layer i)
      ∧ r.m2mMPP (.layer i) = s.m2mMPP (.layer i)

theorem countP_convertedDevices_self (s : State) (n : Nat) :
    (List.range n).countP (convertedDevices s s) = 0 := by
  rw [List.countP_eq_zero]
  intro i _ hc
  simp only [convertedDevices, Bool.and_eq_true, decide_eq_true_eq] at hc
  rw [hc.1] at hc
  exact nomatch hc.2

/-- The first layer of the composition converts none. -/
theorem grown_first (h : s.client.hasCompositionLayer = false) (k : Nat) :
    Grown d s k { s with client := ⟨true, k, k⟩ } where
  covers := ⟨rfl, Int.le_refl _, Int.le_refl _⟩
  coversOld ht := by rw [h] at ht; exact nomatch ht
  inside i hi hil := by
    have : (k : Int) < k := Int.lt_trans hi hil
    exact absurd this (Int.lt_irrefl _)
  exynos := by
    rintro ⟨i, hi, hi'⟩
    exact absurd hi hi'
  windows := by
    have hnone := countP_convertedDevices_self s ((k : Int).toNat + 1)
    show Dropped s.windowNumUsed s.windowNumUsed
      ((List.range ((k : Int).toNat + 1)).countP (convertedDevices s s))
    rw [hnone]
    exact .zero _
  outside _ _ := ⟨rfl, rfl, rfl⟩

/-- **Adding a client layer** converts what the range encloses and nothing else. -/
theorem addClientCompositionLayer_grown (hd : SingleOtf d) (h : Exclusive d s) (k : Nat)
    (hok : (addClientCompositionLayer d s k).2.1.isError = false) :
    Grown d s k (addClientCompositionLayer d s k).1 := by
  by_cases hhas : s.client.hasCompositionLayer = false
  · rw [addClientCompositionLayer_first hhas]
    exact grown_first hhas k
  have hhas' : s.client.hasCompositionLayer = true := Bool.not_eq_false _ ▸ hhas
  unfold addClientCompositionLayer at hok ⊢
  rw [if_neg hhas] at hok ⊢
  dsimp only at hok ⊢
  by_cases hneg : min s.client.firstIndex k < 0 ∨ max s.client.lastIndex k < 0
  · rw [if_pos hneg] at hok
    cases hok
  rw [if_neg hneg] at hok ⊢
  obtain ⟨a, ha⟩ : ∃ a : Nat, min s.client.firstIndex k = a := ⟨(min s.client.firstIndex k).toNat, by omega⟩
  obtain ⟨b, hb⟩ : ∃ b : Nat, max s.client.lastIndex k = b := ⟨(max s.client.lastIndex k).toNat, by omega⟩
  rw [ha, hb] at hok ⊢
  have hab : a ≤ b := by omega
  set s₀ := s.setClientRange (a : Int) (b : Int) with hs₀
  have hidx : between (a : Int) (b : Int) = List.range' (a + 1) (b - (a + 1)) := by simp [between]
  rw [hidx] at hok ⊢
  obtain ⟨htype, hclient, hexynos, hflag⟩ := foldl_sandwichClient d a (b - (a + 1)) (s₀, false)
  have hwindows := foldl_sandwichClient_windows d a (b - (a + 1)) (s₀, false)
  have hlinks : ∀ x, IsBeyond a (a + 1 + (b - (a + 1))) x → _ := fun x hx =>
    foldl_sandwichClient_links (p := (s₀, false)) hd a (b - (a + 1))
      (h.weaken rfl (fun _ _ ho => ho) fun _ _ hm => hm) hx
  generalize (List.range' (a + 1) (b - (a + 1))).foldl (sandwichClient d) (s₀, false) = p
    at hok htype hclient hexynos hflag hwindows hlinks ⊢
  -- what is left can only change the exynos range
  have hframe : ∀ r : State, r.validateType = p.1.validateType → r.client = p.1.client →
      r.windowNumUsed = p.1.windowNumUsed →
      (∀ i, r.otfMPP (.layer i) = p.1.otfMPP (.layer i)
        ∧ r.m2mMPP (.layer i) = p.1.m2mMPP (.layer i)) →
      ((∃ i, s.validateType i = .exynos ∧ r.validateType i ≠ .exynos) →
        (∃ f l : Nat, r.exynos = ⟨s.exynos.hasCompositionLayer, f, l⟩ ∧ IsHull d r.validateType f l)
          ∨ r.exynos = .initial ∧ ∀ i < d.layerNum, r.validateType i ≠ .exynos) →
      Grown d s k r := by
    intro r hrt hrc hrw hrl hre
    have hrt' : r.validateType = sandwiched d s.validateType a (a + 1 + (b - (a + 1))) :=
      hrt.trans htype
    have hrc' : r.client = ⟨true, (a : Int), (b : Int)⟩ := by
      rw [hrc, hclient, hs₀, State.setClientRange_client, hhas']
    refine ⟨?_, fun _ => ?_, fun i hi hil => ?_, hre, ?_, fun i hi => ?_⟩
    · rw [hrc']
      refine ⟨rfl, ?_, ?_⟩
      · dsimp only; omega
      · dsimp only; omega
    · rw [hrc']
      refine ⟨?_, ?_⟩
      · dsimp only; omega
      · dsimp only; omega
    · rw [hrc'] at hi hil
      dsimp only at hi hil
      by_cases hspared : d.isSpared i = true
      · exact .inr hspared
      · refine .inl ?_
        rw [hrt']
        exact sandwiched_eq_client.mpr (.inr ⟨by omega, by omega, Bool.eq_false_iff.mpr hspared⟩)
    · rw [hrw]
      have hcount : (List.range (r.client.lastIndex.toNat + 1)).countP (convertedDevices s r)
          = (List.range (a + 1 + (b - (a + 1)))).countP (takesWindow d s.validateType a) := by
        have hsame : ∀ i, convertedDevices s r i = true ↔
            i < a + 1 + (b - (a + 1)) ∧ takesWindow d s.validateType a i = true := by
          intro i
          simp only [convertedDevices, takesWindow, Bool.and_eq_true, Bool.not_eq_true',
            decide_eq_true_eq, hrt', sandwiched_eq_client]
          constructor
          · rintro ⟨hdev, hcl | ⟨h1, h2, h3⟩⟩
            · rw [hdev] at hcl
              cases hcl
            · exact ⟨h2, ⟨h1, h3⟩, hdev⟩
          · rintro ⟨h2, ⟨h1, h3⟩, hdev⟩
            exact ⟨hdev, .inr ⟨h1, h2, h3⟩⟩
        rw [hrc']
        dsimp only
        rw [Int.toNat_natCast]
        exact countP_range_eq hsame (by omega)
      rw [hcount]
      exact hwindows
    · rw [hrc'] at hi
      dsimp only at hi
      have hbeyond : IsBeyond a (a + 1 + (b - (a + 1))) (.layer i) := by
        intro j hj hjb heq
        injection heq with heq
        omega
      obtain ⟨hotf, hm2m⟩ := hlinks _ hbeyond
      refine ⟨?_, (hrl i).1.trans hotf, (hrl i).2.trans hm2m⟩
      rw [hrt']
      exact sandwiched_outside fun hc => by omega
  by_cases hchanged : p.2 = true
  · rw [if_pos hchanged] at hok ⊢
    obtain ⟨hrt, hrc, hrw, -, -⟩ := updateExynosRange_frame d p.1 (i := 0)
    refine hframe _ hrt hrc hrw (fun i => ?_) fun _ => ?_
    · obtain ⟨-, -, -, hotf, hm2m⟩ := updateExynosRange_frame d p.1 (i := i)
      exact ⟨hotf, hm2m⟩
    · rw [hrt]
      unfold updateExynosRange at hok ⊢
      by_cases hbad : p.1.exynos.firstIndex < 0 ∨ p.1.exynos.lastIndex < 0
      · rw [if_pos hbad] at hok
        cases hok
      rw [if_neg hbad]
      rcases exynosHull_cases d p.1 with ⟨hnone, hno⟩ | ⟨f, l, hsome, hhull⟩
      · rw [hnone]
        exact .inr ⟨rfl, hno⟩
      · rw [hsome]
        refine .inl ⟨f, l, ?_, hhull⟩
        rw [State.setExynosRange_exynos, hexynos]
        rfl
  · rw [if_neg hchanged]
    refine hframe _ rfl rfl rfl (fun _ => ⟨rfl, rfl⟩) ?_
    rintro ⟨i, hi, hi'⟩
    rw [htype, Ne, sandwiched_eq_exynos, not_and, not_not] at hi'
    have hin := hi' hi
    exact absurd (hflag.mpr (.inr ⟨i, hin.1, hin.2.1, hin.2.2, hi⟩)) hchanged

/-- A client layer below an exynos layer and a device layer with an OTF MPP. -/
def threeKinds : State :=
  { idle.assignOtf (phone [] 3) 0 (.layer 2) with
    validateType := fun i =>
      match i with
      | 1 => .exynos
      | 2 => .device
      | _ => .client
    client := ⟨true, 0, 0⟩
    exynos := ⟨true, 1, 1⟩
    windowNumUsed := 2 }

theorem threeKinds_exclusive : Exclusive (phone (List.replicate 4 plainLayer) 3) threeKinds := by
  have hidle : Exclusive (phone (List.replicate 4 plainLayer) 3) idle :=
    .initial (fun _ => rfl) (fun _ => rfl) fun _ => rfl
  exact (hidle.assignOtf (phone_singleOtf _ _) (o := 0) (by decide) (fun h => nomatch h)
    (.layer 2)).weaken rfl (fun _ _ ho => ho) fun _ _ hm => hm

theorem threeKinds_grown :
    Grown (phone (List.replicate 4 plainLayer) 3) threeKinds 3
        (addClientCompositionLayer (phone (List.replicate 4 plainLayer) 3) threeKinds 3).1
      ∧ (addClientCompositionLayer (phone (List.replicate 4 plainLayer) 3) threeKinds 3).1.windowNumUsed = 1 :=
  ⟨addClientCompositionLayer_grown (phone_singleOtf _ _) threeKinds_exclusive 3 (by decide),
    by decide⟩

end ExynosHal.ClientAddition
