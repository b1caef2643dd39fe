/-
  ExynosHal/ClientRange.lean
  ==========================
  **What a layer does to the client range.**

  `addClientCompositionLayer` turns everything between the ends of the client
  range into client layers, but for the layers the range spares, and brings the
  exynos range up to date.  `clientAdded` says all of it once; `HasClientRange`
  is the invariant that a resource assignment keeps.
-/
import Mathlib.Tactic.Set
import Mathlib.Tactic.ByContra
import ExynosHal.CompositionRange
import ExynosHal.TransitionSystem

namespace ExynosHal.ClientRange

open Function (update)
open ExynosHal.Assignment ExynosHal.CompositionRange ExynosHal.TransitionSystem

variable {d : Display} {s : State} {t : Nat → ValidateType}

/-! ### The sandwiched layers -/

/-- The validate types once the layers between `a` and `b` are sandwiched. -/
def sandwiched (d : Display) (t : Nat → ValidateType) (a b : Nat) : Nat → ValidateType :=
  fun i => if a < i ∧ i < b ∧ d.isSpared i = false then .client else t i

theorem sandwiched_eq_exynos {a b i : Nat} :
    sandwiched d t a b i = .exynos ↔
      t i = .exynos ∧ ¬(a < i ∧ i < b ∧ d.isSpared i = false) := by
  unfold sandwiched
  split
  · next h => exact ⟨nofun, fun hc => absurd h hc.2⟩
  · next h => exact ⟨fun hc => ⟨hc, h⟩, fun hc => hc.1⟩

theorem sandwiched_eq_client {a b i : Nat} :
    sandwiched d t a b i = .client ↔
      t i = .client ∨ (a < i ∧ i < b ∧ d.isSpared i = false) := by
  unfold sandwiched
  split
  · next h => exact ⟨fun _ => .inr h, fun _ => rfl⟩
  · next h => exact ⟨.inl, fun hc => hc.resolve_right h⟩

theorem sandwiched_outside {a b i : Nat} (h : ¬(a < i ∧ i < b)) : sandwiched d t a b i = t i := by
  unfold sandwiched
  exact if_neg fun hc => h ⟨hc.1, hc.2.1⟩

/-- The layers below `i + 1` are those below `i`, and `i`. -/
theorem sandwiched_succ {a i : Nat} (hi : a < i) :
    (if d.isSpared i then sandwiched d t a i else update (sandwiched d t a i) i .client)
      = sandwiched d t a (i + 1) := by
  funext j
  by_cases hspared : d.isSpared i = true
  · rw [if_pos hspared]
    unfold sandwiched
    by_cases hj : j = i
    · subst hj; simp [hspared]
    · exact if_congr ⟨fun h => ⟨h.1, by omega, h.2.2⟩, fun h => ⟨h.1, by omega, h.2.2⟩⟩ rfl rfl
  · rw [if_neg hspared]
    by_cases hj : j = i
    · subst hj
      rw [Function.update_self]
      exact (sandwiched_eq_client.mpr
        (.inr ⟨hi, Nat.lt_succ_self j, Bool.eq_false_iff.mpr hspared⟩)).symm
    · rw [Function.update_of_ne hj]
      unfold sandwiched
      exact if_congr ⟨fun h => ⟨h.1, by omega, h.2.2⟩, fun h => ⟨h.1, by omega, h.2.2⟩⟩ rfl rfl

/-- One round, on everything the ranges are about. -/
theorem sandwichClient_eq (p : State × Bool) (i : Nat) :
    (sandwichClient d p i).1.validateType
        = (if d.isSpared i then p.1.validateType else update p.1.validateType i .client)
      ∧ (sandwichClient d p i).1.client = p.1.client
      ∧ (sandwichClient d p i).1.exynos = p.1.exynos
      ∧ (sandwichClient d p i).2
        = (p.2 || (!d.isSpared i && decide (p.1.validateType i = .exynos))) := by
  unfold sandwichClient
  split
  · next h => simp [h]
  · next h =>
    split
    · next hc =>
      have : update p.1.validateType i .client = p.1.validateType := by
        rw [← hc, Function.update_eq_self]
      simp [h, this, hc]
    · next hc => dsimp only; split <;> simp [h]

theorem foldl_sandwichClient (d : Display) (a n : Nat) (p : State × Bool) :
    ((List.range' (a + 1) n).foldl (sandwichClient d) p).1.validateType
        = sandwiched d p.1.validateType a (a + 1 + n)
      ∧ ((List.range' (a + 1) n).foldl (sandwichClient d) p).1.client = p.1.client
      ∧ ((List.range' (a + 1) n).foldl (sandwichClient d) p).1.exynos = p.1.exynos
      ∧ (((List.range' (a + 1) n).foldl (sandwichClient d) p).2 = true ↔
          p.2 = true ∨ ∃ i, a < i ∧ i < a + 1 + n ∧ d.isSpared i = false
            ∧ p.1.validateType i = .exynos) := by
  -- the loop has turned the layers below its index
  refine foldl_range' (P := fun j (q : State × Bool) => q.1.validateType = sandwiched d p.1.validateType a j
    ∧ q.1.client = p.1.client ∧ q.1.exynos = p.1.exynos
    ∧ (q.2 = true ↔ p.2 = true ∨ ∃ i, a < i ∧ i < j ∧ d.isSpared i = false
        ∧ p.1.validateType i = .exynos)) ?_ ?_
  · intro i q hi _ ⟨htype, hclient, hexynos, hflag⟩
    obtain ⟨htype', hclient', hexynos', hflag'⟩ := sandwichClient_eq (d := d) q i
    have hti : q.1.validateType i = p.1.validateType i := by
      rw [htype]; exact sandwiched_outside fun h => by omega
    refine ⟨?_, hclient'.trans hclient, hexynos'.trans hexynos, ?_⟩
    · rw [htype', htype, sandwiched_succ hi]
    · rw [hflag', Bool.or_eq_true, hflag, hti]
      constructor
      · rintro ((h | ⟨k, hk⟩) | h)
        · exact .inl h
        · exact .inr ⟨k, hk.1, by omega, hk.2.2⟩
        · simp only [Bool.and_eq_true, Bool.not_eq_true', decide_eq_true_eq] at h
          exact .inr ⟨i, by omega, by omega, h.1, h.2⟩
      · rintro (h | ⟨k, hk1, hk2, hk3, hk4⟩)
        · exact .inl (.inl h)
        · by_cases hki : k = i
          · subst hki; exact .inr (by simp [hk3, hk4])
          · exact .inl (.inr ⟨k, hk1, by omega, hk3, hk4⟩)
  · refine ⟨?_, rfl, rfl, ?_⟩
    · funext j
      exact (sandwiched_outside fun h => by omega).symm
    · exact ⟨.inl, fun h => h.elim id fun ⟨k, hk1, hk2, _⟩ => by omega⟩

/-! ### The hull of the exynos layers -/

/-- `f` and `l` are the first and the last layer of type `EXYNOS`. -/
structure IsHull (d : Display) (t : Nat → ValidateType) (f l : Nat) : Prop where
  first_eq : t f = .exynos
  last_eq : t l = .exynos
  last_lt : l < d.layerNum
  mem : ∀ i < d.layerNum, t i = .exynos → f ≤ i ∧ i ≤ l

theorem IsHull.le {f l : Nat} (h : IsHull d t f l) : f ≤ l := (h.mem l h.last_lt h.last_eq).1

/-- What the search for the ends has found among the first `j` layers. -/
def HullAt (s : State) (j : Nat) : Option (Nat × Nat) → Prop
  | none => ∀ i < j, s.validateType i ≠ .exynos
  | some (f, l) => s.validateType f = .exynos ∧ s.validateType l = .exynos
      ∧ l < j ∧ ∀ i < j, s.validateType i = .exynos → f ≤ i ∧ i ≤ l

theorem exynosHull_cases (d : Display) (s : State) :
    (exynosHull d s = none ∧ ∀ i < d.layerNum, s.validateType i ≠ .exynos)
      ∨ ∃ f l, exynosHull d s = some (f, l) ∧ IsHull d s.validateType f l := by
  have h : HullAt s d.layerNum (exynosHull d s) := by
    unfold exynosHull
    rw [List.range_eq_range']
    have := foldl_range' (f := extendHull s) (a := 0) (n := d.layerNum) (P := HullAt s) ?_
      (s := none) (fun i hi => absurd hi (Nat.not_lt_zero i))
    · rwa [Nat.zero_add] at this
    · intro j r _ _ hr
      unfold extendHull
      by_cases hj : s.validateType j = .exynos
      · rw [if_pos hj]
        cases r with
        | none =>
            refine ⟨hj, hj, Nat.lt_succ_self j, fun i hi ht => ?_⟩
            have : ¬ i < j := fun h => hr i h ht
            omega
        | some p =>
            obtain ⟨hf, hl, hlt, hmem⟩ := hr
            have hfl := hmem _ hlt hl
            refine ⟨?_, ?_, ?_, fun i hi ht => ?_⟩
            · rw [Nat.min_eq_left (by omega)]; exact hf
            · rw [Nat.max_eq_right (by omega)]; exact hj
            · omega
            · by_cases hij : i = j
              · omega
              · have := hmem i (by omega) ht; omega
      · rw [if_neg hj]
        have hcut : ∀ i < j + 1, s.validateType i = .exynos → i < j := by
          intro i hi ht
          have : i ≠ j := fun h => hj (h ▸ ht)
          omega
        cases r with
        | none => exact fun i hi ht => hr i (hcut i hi ht) ht
        | some p =>
            exact ⟨hr.1, hr.2.1, Nat.lt_succ_of_lt hr.2.2.1,
              fun i hi ht => hr.2.2.2 i (hcut i hi ht) ht⟩
  cases hr : exynosHull d s with
  | none => rw [hr] at h; exact .inl ⟨rfl, h⟩
  | some p =>
      rw [hr] at h
      exact .inr ⟨p.1, p.2, rfl, ⟨h.1, h.2.1, h.2.2.1, h.2.2.2⟩⟩

/-- What happens to the exynos range `e` when the types go from `t` to `t'`: the
    new range, the return code and `isExynosCompositionChanged`. -/
inductive RangeUpdate (d : Display) (t t' : Nat → ValidateType) (e : CompositionInfo) :
    CompositionInfo → Status → Bool → Prop where
  | same : (∀ i < d.layerNum, t i = .exynos → t' i = .exynos) →
      RangeUpdate d t t' e e .noError false
  | invalid : (∃ i < d.layerNum, t i = .exynos) → (e.firstIndex < 0 ∨ e.lastIndex < 0) →
      RangeUpdate d t t' e e .einval false
  | gone : (∀ i < d.layerNum, t' i ≠ .exynos) → RangeUpdate d t t' e .initial .changed true
  | shrunk {f l : Nat} : (∃ i < d.layerNum, t i = .exynos) → IsHull d t' f l →
      RangeUpdate d t t' e ⟨e.hasCompositionLayer, f, l⟩ .noError true

/-! ### Adding a layer -/

/-- The first client layer opens the composition. -/
theorem addClientCompositionLayer_first (h : s.client.hasCompositionLayer = false) (k : Nat) :
    addClientCompositionLayer d s k = ({ s with client := ⟨true, k, k⟩ }, .changed, false) :=
  if_pos h

/-- Any further layer grows the range. -/
theorem clientAdded {f l : Nat} (h : s.client = ⟨true, f, l⟩) {k : Nat} (hk : k < d.layerNum)
    (hl : l < d.layerNum) :
    let r := addClientCompositionLayer d s k
    r.1.validateType = sandwiched d s.validateType (min f k) (max l k)
      ∧ r.1.client = ⟨true, (min f k : Nat), (max l k : Nat)⟩
      ∧ RangeUpdate d s.validateType r.1.validateType s.exynos r.1.exynos r.2.1 r.2.2 := by
  have hfirst : min s.client.firstIndex k = (min f k : Nat) := by simp only [h]; omega
  have hlast : max s.client.lastIndex k = (max l k : Nat) := by simp only [h]; omega
  unfold addClientCompositionLayer
  rw [if_neg (by simp [h])]
  dsimp only
  rw [hfirst, hlast, if_neg (by omega)]
  set a := min f k with ha
  set b := max l k with hb
  have hloop := foldl_sandwichClient d a (b - (a + 1))
    (s.setClientRange (a : Int) (b : Int), false)
  have hidx : between (a : Int) (b : Int) = List.range' (a + 1) (b - (a + 1)) := by
    simp [between]
  rw [hidx]
  set p := (List.range' (a + 1) (b - (a + 1))).foldl (sandwichClient d)
    (s.setClientRange (a : Int) (b : Int), false) with hp
  obtain ⟨htype, hclient, hexynos, hflag⟩ := hloop
  have htype : p.1.validateType = sandwiched d s.validateType a b := by
    rw [htype]
    funext i
    unfold sandwiched
    exact if_congr ⟨fun h => ⟨h.1, by omega, h.2.2⟩, fun h => ⟨h.1, by omega, h.2.2⟩⟩ rfl rfl
  have hclient : p.1.client = ⟨true, (a : Int), (b : Int)⟩ := by simp [hclient, h]
  by_cases hchanged : p.2 = true
  · rw [if_pos hchanged]
    obtain ⟨i, hai, hib, _, hti⟩ := (hflag.mp hchanged).resolve_left Bool.false_ne_true
    have hex : ∃ i < d.layerNum, s.validateType i = .exynos := ⟨i, by omega, hti⟩
    have hexynos : p.1.exynos = s.exynos := hexynos
    unfold updateExynosRange
    by_cases hneg : s.exynos.firstIndex < 0 ∨ s.exynos.lastIndex < 0
    · rw [if_pos (hexynos ▸ hneg)]
      exact ⟨htype, hclient, hexynos ▸ .invalid hex (hexynos ▸ hneg)⟩
    · rw [if_neg (hexynos ▸ hneg)]
      rcases exynosHull_cases d p.1 with ⟨hnone, hno⟩ | ⟨f', l', hsome, hhull⟩
      · rw [hnone]
        exact ⟨htype, hclient, .gone hno⟩
      · rw [hsome]
        refine ⟨htype, hclient, ?_⟩
        have : (p.1.setExynosRange (f' : Int) (l' : Int)).exynos
            = ⟨s.exynos.hasCompositionLayer, (f' : Int), (l' : Int)⟩ := by simp [hexynos]
        rw [this]
        exact .shrunk hex hhull
  · rw [if_neg hchanged]
    refine ⟨htype, hclient, ?_⟩
    rw [show p.1.exynos = s.exynos from hexynos]
    refine .same fun i _ ht => ?_
    rw [htype, sandwiched_eq_exynos]
    refine ⟨ht, fun hc => hchanged (hflag.mpr (.inr ⟨i, hc.1, ?_, hc.2.2, ht⟩))⟩
    have := hc.2.1
    omega

theorem addClientCompositionLayer_logicalType (d : Display) (s : State) (k : Nat) :
    (addClientCompositionLayer d s k).1.logicalType = s.logicalType := by
  unfold addClientCompositionLayer
  split
  · rfl
  · dsimp only
    split
    · rfl
    · have hloop := foldl_keeps (P := fun p : State × Bool => p.1.logicalType = s.logicalType)
        (f := sandwichClient d) (fun p i hp => by
          unfold sandwichClient
          split
          · exact hp
          · split
            · exact hp
            · dsimp only
              refine (State.resetAssignedResource_logicalType _ i).trans ?_
              split <;> exact hp)
        (between (min s.client.firstIndex k) (max s.client.lastIndex k))
        (s := (s.setClientRange (min s.client.firstIndex k) (max s.client.lastIndex k), false)) rfl
      split
      · unfold updateExynosRange
        split
        · exact hloop
        · split <;> exact hloop
      · exact hloop

/-! ### The client range of a display -/

/-- The client layers lie between `f` and `l`, which are client layers themselves,
    and only spared layers are between them. -/
structure IsClientRange (d : Display) (t : Nat → ValidateType) (f l : Nat) : Prop where
  le : f ≤ l
  last_lt : l < d.layerNum
  first_eq : t f = .client
  last_eq : t l = .client
  mem : ∀ i < d.layerNum, t i = .client → f ≤ i ∧ i ≤ l
  inside : ∀ i, f < i → i < l → t i = .client ∨ d.isSpared i = true

/-- The client range of the display is the one of the types `t`. -/
inductive HasClientRange (d : Display) (t : Nat → ValidateType) : CompositionInfo → Prop where
  | none {a b : Int} : (∀ i < d.layerNum, t i ≠ .client) → HasClientRange d t ⟨false, a, b⟩
  | some {f l : Nat} : IsClientRange d t f l → HasClientRange d t ⟨true, f, l⟩

/-- Types that agree on which layers are client layers have the same range, as
    long as no layer loses the exemption. -/
theorem HasClientRange.congr {t' : Nat → ValidateType} {c : CompositionInfo}
    (h : HasClientRange d t c) (ht : ∀ i < d.layerNum, t' i = .client ↔ t i = .client) :
    HasClientRange d t' c := by
  cases h with
  | none h => exact .none fun i hi hc => h i hi ((ht i hi).mp hc)
  | some h =>
      have hf : _ < d.layerNum := Nat.lt_of_le_of_lt h.le h.last_lt
      refine .some ⟨h.le, h.last_lt, (ht _ hf).mpr h.first_eq, (ht _ h.last_lt).mpr h.last_eq,
        fun i hi hc => h.mem i hi ((ht i hi).mp hc), fun i hi hil => ?_⟩
      exact (h.inside i hi hil).imp_left (ht i (Nat.lt_trans hil h.last_lt)).mpr

/-- **Adding a client layer keeps the client range.** -/
theorem HasClientRange.add {k : Nat} (hk : k < d.layerNum)
    (h : HasClientRange d s.validateType s.client) {s' : State}
    (ht : s'.validateType = update s.validateType k .client) (hc : s'.client = s.client) :
    HasClientRange d (addClientCompositionLayer d s' k).1.validateType
      (addClientCompositionLayer d s' k).1.client := by
  have hmem : ∀ i, s'.validateType i = .client → i = k ∨ s.validateType i = .client := by
    intro i hi
    rw [ht] at hi
    by_cases hik : i = k
    · exact .inl hik
    · rw [Function.update_of_ne hik] at hi; exact .inr hi
  have hkeep : ∀ i, s.validateType i = .client → s'.validateType i = .client := by
    intro i hi
    rw [ht]
    by_cases hik : i = k
    · rw [hik, Function.update_self]
    · rw [Function.update_of_ne hik]; exact hi
  have hself : s'.validateType k = .client := by rw [ht, Function.update_self]
  generalize hci : s.client = c at h hc
  cases h with
  | none h =>
      rw [addClientCompositionLayer_first (by rw [hc])]
      refine .some ⟨Nat.le_refl k, hk, hself, hself, fun i hi ht' => ?_, fun i _ _ => by omega⟩
      have : i = k := (hmem i ht').resolve_right (h i hi)
      omega
  | @some f l h =>
      obtain ⟨htype, hclient, -⟩ := clientAdded (d := d) (s := s') hc hk h.last_lt
      rw [htype, hclient]
      have hle := h.le
      have hlt := h.last_lt
      have hends : ∀ i, i = f ∨ i = l ∨ i = k → s'.validateType i = .client := by
        rintro i (rfl | rfl | rfl)
        · exact hkeep _ h.first_eq
        · exact hkeep _ h.last_eq
        · exact hself
      refine .some ⟨by omega, by omega, ?_, ?_, fun i hi ht' => ?_, fun i hi hil => ?_⟩
      · exact sandwiched_eq_client.mpr (.inl (hends _ (by omega)))
      · exact sandwiched_eq_client.mpr (.inl (hends _ (by omega)))
      · rcases sandwiched_eq_client.mp ht' with ht' | ht'
        · rcases hmem i ht' with rfl | ht'
          · omega
          · have := h.mem i hi ht'; omega
        · omega
      · by_cases hspared : d.isSpared i = true
        · exact .inr hspared
        · exact .inl (sandwiched_eq_client.mpr
            (.inr ⟨hi, hil, Bool.eq_false_iff.mpr hspared⟩))

/-- Adding a layer makes it a client layer, and others at most. -/
theorem HasClientRange.add_type {k : Nat} (hk : k < d.layerNum)
    (h : HasClientRange d s.validateType s.client) {s' : State}
    (ht : s'.validateType = update s.validateType k .client) (hc : s'.client = s.client) (i : Nat) :
    (addClientCompositionLayer d s' k).1.validateType i = .client
      ∨ i ≠ k ∧ (addClientCompositionLayer d s' k).1.validateType i = s.validateType i := by
  have hmarked : s'.validateType i = .client ∨ i ≠ k ∧ s'.validateType i = s.validateType i := by
    rw [ht]
    by_cases hik : i = k
    · exact .inl (by rw [hik, Function.update_self])
    · exact .inr ⟨hik, Function.update_of_ne hik _ _⟩
  generalize hci : s.client = c at h hc
  cases h with
  | none => rw [addClientCompositionLayer_first (by rw [hc])]; exact hmarked
  | some h =>
      obtain ⟨htype, -, -⟩ := clientAdded (d := d) (s := s') hc hk h.last_lt
      rw [htype]
      unfold sandwiched
      split
      · exact .inl rfl
      · exact hmarked

/-- What happens to the exynos range when `k` is added. -/
theorem HasClientRange.add_exynos {k : Nat} (hk : k < d.layerNum)
    (h : HasClientRange d s.validateType s.client) {s' : State} (hc : s'.client = s.client) :
    (addClientCompositionLayer d s' k).1.exynos = s'.exynos
        ∧ (addClientCompositionLayer d s' k).2.1 = .changed
        ∧ (addClientCompositionLayer d s' k).1.validateType = s'.validateType
      ∨ RangeUpdate d s'.validateType (addClientCompositionLayer d s' k).1.validateType s'.exynos
        (addClientCompositionLayer d s' k).1.exynos (addClientCompositionLayer d s' k).2.1
        (addClientCompositionLayer d s' k).2.2 := by
  generalize hci : s.client = c at h hc
  cases h with
  | none => rw [addClientCompositionLayer_first (by rw [hc])]; exact .inl ⟨rfl, rfl, rfl⟩
  | some h => exact .inr (clientAdded (d := d) (s := s') hc hk h.last_lt).2.2

end ExynosHal.ClientRange
