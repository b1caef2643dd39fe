/-
  ExynosHal/ExynosRange.lean
  ==========================
  **The exynos range is the exact hull of the exynos layers.**

  While a layer is added, the range is only known to reach from the first exynos
  layer to the last one (`HasExynosHull`).  The loop over the sandwiched layers
  leaves exynos layers, client layers and layers of high priority in it; the
  nested client layers and the trimming take the others off the ends, and what
  still has a layer of high priority inside is given up (`settle_exact`).
-/
import ExynosHal.ClientRange
import ExynosHal.ResourceManager

namespace ExynosHal.ExynosRange

open Function (update update_self update_of_ne)
open ExynosHal.Assignment ExynosHal.CompositionRange ExynosHal.ResourceManager
open ExynosHal.TransitionSystem ExynosHal.ClientRange

variable {d : Display} {s : State} {t : Nat → ValidateType}

/-! ### From the first to the last exynos layer -/

inductive HasExynosHull (d : Display) (t : Nat → ValidateType) : CompositionInfo → Prop where
  | none : (∀ i < d.layerNum, t i ≠ .exynos) → HasExynosHull d t .initial
  | some {f l : Nat} : IsHull d t f l → HasExynosHull d t ⟨true, f, l⟩

theorem HasExynosHull.congr {t' : Nat → ValidateType} {e : CompositionInfo}
    (h : HasExynosHull d t e) (ht : ∀ i < d.layerNum, t' i = .exynos ↔ t i = .exynos) :
    HasExynosHull d t' e := by
  cases h with
  | none h => exact .none fun i hi hc => h i hi ((ht i hi).mp hc)
  | some h =>
      exact .some ⟨(ht _ (Nat.lt_of_le_of_lt h.le h.last_lt)).mpr h.first_eq,
        (ht _ h.last_lt).mpr h.last_eq, h.last_lt, fun i hi hc => h.mem i hi ((ht i hi).mp hc)⟩

/-- An update of the range follows the types. -/
theorem HasExynosHull.update {t' : Nat → ValidateType} {e e' : CompositionInfo} {st : Status}
    {b : Bool} (h : HasExynosHull d t e)
    (hsub : ∀ i < d.layerNum, t' i = .exynos → t i = .exynos)
    (u : RangeUpdate d t t' e e' st b) :
    HasExynosHull d t' e' ∧ st.isError = false ∧ e'.lastIndex ≤ e.lastIndex := by
  cases u with
  | same hs => exact ⟨h.congr fun i hi => ⟨hsub i hi, hs i hi⟩, rfl, Int.le_refl _⟩
  | invalid hex hneg =>
      obtain ⟨i, hi, ht⟩ := hex
      cases h with
      | none h => exact absurd ht (h i hi)
      | some h => simp only at hneg; omega
  | gone hno =>
      refine ⟨.none hno, rfl, ?_⟩
      cases h with
      | none => exact Int.le_refl _
      | some h => simp only [CompositionInfo.initial]; omega
  | shrunk hex hhull =>
      obtain ⟨i, hi, ht⟩ := hex
      cases h with
      | none h => exact absurd ht (h i hi)
      | some h =>
          refine ⟨.some hhull, rfl, ?_⟩
          have := h.mem _ hhull.last_lt (hsub _ hhull.last_lt hhull.last_eq)
          simp only
          omega

/-- **A layer that is no exynos layer goes to the client composition.** -/
theorem HasExynosHull.add {k : Nat} (hk : k < d.layerNum)
    (hclient : HasClientRange d s.validateType s.client)
    (hexynos : HasExynosHull d s.validateType s.exynos) (hne : s.validateType k ≠ .exynos)
    {s' : State} (ht : s'.validateType = Function.update s.validateType k .client)
    (hc : s'.client = s.client) (he : s'.exynos = s.exynos) :
    HasExynosHull d (addClientCompositionLayer d s' k).1.validateType
        (addClientCompositionLayer d s' k).1.exynos
      ∧ (addClientCompositionLayer d s' k).2.1.isError = false
      ∧ (addClientCompositionLayer d s' k).1.exynos.lastIndex ≤ s.exynos.lastIndex := by
  have hmarked : HasExynosHull d s'.validateType s'.exynos := by
    rw [he, ht]
    refine hexynos.congr fun i _ => ?_
    by_cases hik : i = k
    · subst hik; rw [Function.update_self]; exact ⟨nofun, fun h => absurd h hne⟩
    · rw [Function.update_of_ne hik]
  rcases hclient.add_exynos hk hc with ⟨hx, hst, hty⟩ | hupd
  · rw [hx, hst, hty]
    exact ⟨hmarked, rfl, he ▸ Int.le_refl _⟩
  · rw [← he]
    refine hmarked.update (fun i hi hi' => ?_) hupd
    rcases hclient.add_type hk ht hc i with h | ⟨hik, h⟩
    · rw [h] at hi'; cases hi'
    · rw [h] at hi'
      rw [ht, Function.update_of_ne hik]; exact hi'

/-! ### The loop over the sandwiched layers -/

/-- The layer may be an end of the client range when the loop is through: it is no
    exynos layer, and the loop does not skip it unless it is a client layer. -/
def IsCandidate (d : Display) (t : Nat → ValidateType) (c : Nat) : Prop :=
  t c ≠ .exynos ∧ (d.isHigh c = false ∨ t c = .client)

/-- What holds when the loop that began with the types `t` and the range from `f`
    to `l` comes to index `j`. -/
structure LoopInv (d : Display) (t : Nat → ValidateType) (f l : Nat) (types : MppId → LogicalType)
    (j : Nat) (a : Sandwich) : Prop where
  status : a.status = .noError
  client : HasClientRange d a.state.validateType a.state.client
  exynos : HasExynosHull d a.state.validateType a.state.exynos
  top : a.state.exynos.lastIndex ≤ l
  low : ∀ i < d.layerNum, a.state.validateType i = .exynos → d.isHigh i = false
  ge : ∀ i < d.layerNum, a.state.validateType i = .exynos → f ≤ i
  stays : ∀ i, t i = .exynos →
    a.state.validateType i = .exynos ∨ a.state.validateType i = .client
  seen : ∀ i, f ≤ i → i < j → (i : Int) ≤ a.state.exynos.lastIndex →
    a.state.validateType i = .exynos ∨ a.state.validateType i = .client ∨ d.isHigh i = true
  high : ∀ i, f ≤ i → i < j → (i : Int) ≤ a.state.exynos.lastIndex → d.isHigh i = true →
    i ∈ a.highPriLayers
  sorted : a.highPriLayers.Pairwise (· < ·)
  below : ∀ h ∈ a.highPriLayers, h < j ∧ d.isHigh h = true
  quiet : a.invalidFlag = false → a.state.exynos = ⟨true, f, l⟩ ∧
    ∀ i, f ≤ i → i < j → i ≤ l → a.state.validateType i = .exynos ∨ d.isHigh i = true
  ends : ∀ a' b' : Nat, a.state.client = ⟨true, a', b'⟩ → IsCandidate d t a' ∧ IsCandidate d t b'
  logical : a.state.logicalType = types

section Loop

variable {f l j : Nat} {types : MppId → LogicalType} {a : Sandwich} {m : MppId}

/-- A round that leaves the state alone. -/
theorem LoopInv.skip (h : LoopInv d t f l types j a)
    (hseen : (j : Int) ≤ a.state.exynos.lastIndex →
      a.state.validateType j = .exynos) : LoopInv d t f l types (j + 1) a where
  status := h.status
  client := h.client
  exynos := h.exynos
  top := h.top
  low := h.low
  ge := h.ge
  stays := h.stays
  seen i hf hj hl := by
    by_cases hij : i = j
    · subst hij; exact .inl (hseen hl)
    · exact h.seen i hf (by omega) hl
  high i hf hj hl hhigh := by
    by_cases hij : i = j
    · subst hij
      have hlt : i < d.layerNum := by
        have := h.exynos
        generalize he : a.state.exynos = e at this hl
        cases this with
        | none => simp only [CompositionInfo.initial] at hl; omega
        | some hh => have := hh.last_lt; simp only at hl; omega
      rw [h.low i hlt (hseen hl)] at hhigh
      cases hhigh
    · exact h.high i hf (by omega) hl hhigh
  sorted := h.sorted
  below i hi := ⟨Nat.lt_succ_of_lt (h.below i hi).1, (h.below i hi).2⟩
  quiet hq := by
    refine ⟨(h.quiet hq).1, fun i hf hj hl => ?_⟩
    by_cases hij : i = j
    · subst hij
      refine .inl (hseen ?_)
      rw [(h.quiet hq).1]
      simp only
      omega
    · exact (h.quiet hq).2 i hf (by omega) hl
  ends := h.ends
  logical := h.logical

/-- A layer of high priority is put aside. -/
theorem LoopInv.putAside (h : LoopInv d t f l types j a) (hhigh : d.isHigh j = true) :
    LoopInv d t f l types (j + 1) { a with highPriLayers := a.highPriLayers ++ [j] } where
  status := h.status
  client := h.client
  exynos := h.exynos
  top := h.top
  low := h.low
  ge := h.ge
  stays := h.stays
  seen i hf hj hl := by
    by_cases hij : i = j
    · subst hij; exact .inr (.inr hhigh)
    · exact h.seen i hf (by omega) hl
  high i hf hj hl hh := by
    by_cases hij : i = j
    · subst hij; exact List.mem_append_right _ (List.mem_singleton_self _)
    · exact List.mem_append_left _ (h.high i hf (by omega) hl hh)
  sorted := by
    refine List.pairwise_append.mpr ⟨h.sorted, List.pairwise_singleton _ _, fun x hx y hy => ?_⟩
    rw [List.mem_singleton.mp hy]
    exact (h.below x hx).1
  below i hi := by
    rcases List.mem_append.mp hi with hi | hi
    · exact ⟨Nat.lt_succ_of_lt (h.below i hi).1, (h.below i hi).2⟩
    · rw [List.mem_singleton.mp hi]; exact ⟨Nat.lt_succ_self j, hhigh⟩
  quiet hq := by
    refine ⟨(h.quiet hq).1, fun i hf hj hl => ?_⟩
    by_cases hij : i = j
    · subst hij; exact .inr hhigh
    · exact (h.quiet hq).2 i hf (by omega) hl
  ends := h.ends
  logical := h.logical

/-- A client layer makes the range invalid. -/
theorem LoopInv.foundClient (h : LoopInv d t f l types j a)
    (hc : a.state.validateType j = .client) (hlow : d.isHigh j = false) :
    LoopInv d t f l types (j + 1) { a with invalidFlag := true } where
  status := h.status
  client := h.client
  exynos := h.exynos
  top := h.top
  low := h.low
  ge := h.ge
  stays := h.stays
  seen i hf hj hl := by
    by_cases hij : i = j
    · subst hij; exact .inr (.inl hc)
    · exact h.seen i hf (by omega) hl
  high i hf hj hl hh := by
    by_cases hij : i = j
    · subst hij; rw [hlow] at hh; cases hh
    · exact h.high i hf (by omega) hl hh
  sorted := h.sorted
  below i hi := ⟨Nat.lt_succ_of_lt (h.below i hi).1, (h.below i hi).2⟩
  quiet hq := by cases hq
  ends := h.ends
  logical := h.logical

/-- The layer joins the composition; the loop is inside the range. -/
theorem LoopInv.join (h : LoopInv d t f l types j a) (hj : j < d.layerNum) (hf : f ≤ j)
    (hlast : (j : Int) ≤ a.state.exynos.lastIndex) (hlow : d.isHigh j = false)
    (hne : a.state.validateType j ≠ .client) :
    LoopInv d t f l types (j + 1) { a with state := join d m a.state j } := by
  have htype : (CompositionRange.join d m a.state j).validateType
      = update a.state.validateType j .exynos := by
    unfold CompositionRange.join
    dsimp only
    split <;> simp
  have hclient : (CompositionRange.join d m a.state j).client = a.state.client := by
    unfold CompositionRange.join
    dsimp only
    split <;> simp
  have hlogical : (CompositionRange.join d m a.state j).logicalType = a.state.logicalType := by
    unfold CompositionRange.join
    dsimp only
    split
    · exact (State.assignM2m_logicalType _ _ _ _).trans
        (State.resetAssignedResource_logicalType _ _)
    · exact (State.assignM2m_logicalType _ _ _ _).trans
        (State.resetAssignedResource_logicalType _ _)
  have hexynos : (CompositionRange.join d m a.state j).exynos
      = ⟨a.state.exynos.hasCompositionLayer, min a.state.exynos.firstIndex j,
          max a.state.exynos.lastIndex j⟩ := by
    unfold CompositionRange.join
    dsimp only
    split <;> simp
  have hmem : ∀ i, update a.state.validateType j .exynos i = .exynos →
      i = j ∨ a.state.validateType i = .exynos := by
    intro i hi
    by_cases hij : i = j
    · exact .inl hij
    · rw [update_of_ne hij] at hi; exact .inr hi
  -- the end of the range stays
  have hrange : (CompositionRange.join d m a.state j).exynos.lastIndex
      = a.state.exynos.lastIndex := by rw [hexynos]; simp only; omega
  refine ⟨h.status, ?_, ?_, hrange ▸ h.top, ?_, ?_, ?_, ?_, ?_, h.sorted, ?_, ?_, ?_, ?_⟩
  · simp only [htype, hclient]
    refine h.client.congr fun i _ => ?_
    by_cases hij : i = j
    · subst hij; rw [update_self]; exact ⟨nofun, fun hc => absurd hc hne⟩
    · rw [update_of_ne hij]
  · simp only [htype, hexynos]
    have hh := h.exynos
    generalize he : a.state.exynos = e at hh hlast
    cases hh with
    | none => simp only [CompositionInfo.initial] at hlast; omega
    | @some f' l' hh =>
        simp only at hlast
        have hmin : min (f' : Int) j = (min f' j : Nat) := by omega
        have hmax : max (l' : Int) j = (l' : Nat) := by omega
        rw [hmin, hmax]
        refine .some ⟨?_, ?_, hh.last_lt, fun i hi ht => ?_⟩
        · by_cases hfj : f' ≤ j
          · rw [Nat.min_eq_left hfj]
            by_cases hfj' : f' = j
            · rw [hfj', update_self]
            · rw [update_of_ne hfj']; exact hh.first_eq
          · rw [Nat.min_eq_right (by omega), update_self]
        · by_cases hlj : l' = j
          · rw [hlj, update_self]
          · rw [update_of_ne hlj]; exact hh.last_eq
        · rcases hmem i ht with rfl | ht
          · omega
          · have := hh.mem i hi ht; omega
  · intro i hi ht
    simp only [htype] at ht
    rcases hmem i ht with rfl | ht
    · exact hlow
    · exact h.low i hi ht
  · intro i hi ht
    simp only [htype] at ht
    rcases hmem i ht with rfl | ht
    · exact hf
    · exact h.ge i hi ht
  · intro i ht
    simp only [htype]
    by_cases hij : i = j
    · subst hij; exact .inl (update_self _ _ _)
    · rw [update_of_ne hij]; exact h.stays i ht
  · intro i hfi hij hl
    simp only [hrange] at hl
    simp only [htype]
    by_cases hij' : i = j
    · subst hij'; exact .inl (update_self _ _ _)
    · rw [update_of_ne hij']; exact h.seen i hfi (by omega) hl
  · intro i hfi hij hl hh
    simp only [hrange] at hl
    by_cases hij' : i = j
    · subst hij'; rw [hlow] at hh; cases hh
    · exact h.high i hfi (by omega) hl hh
  · exact fun i hi => ⟨Nat.lt_succ_of_lt (h.below i hi).1, (h.below i hi).2⟩
  · intro hq
    obtain ⟨heq, hfill⟩ := h.quiet hq
    rw [heq] at hlast
    simp only at hlast
    refine ⟨?_, fun i hfi hij hil => ?_⟩
    · simp only [hexynos, heq]
      congr 1 <;> omega
    · simp only [htype]
      by_cases hij' : i = j
      · subst hij'; exact .inl (update_self _ _ _)
      · rw [update_of_ne hij']; exact hfill i hfi (by omega) hil
  · simp only [hclient]; exact h.ends
  · simp only [hlogical]; exact h.logical

/-- The layer is refused and goes to the client composition. -/
theorem LoopInv.refuse (h : LoopInv d t f l types j a) (hj : j < d.layerNum) (hf : f ≤ j)
    (hlow : d.isHigh j = false) (hne : a.state.validateType j ≠ .exynos)
    (hnc : a.state.validateType j ≠ .client) :
    LoopInv d t f l types (j + 1) (refuse d a j) := by
  unfold CompositionRange.refuse
  dsimp only
  set s' := ((a.state.recordTaken .refused j).resetAssignedResource j).setType j .client with hs'
  have ht : s'.validateType = update a.state.validateType j .client := by simp [hs']
  have hc : s'.client = a.state.client := by simp [hs']
  have he : s'.exynos = a.state.exynos := by simp [hs']
  obtain ⟨hexynos, herr, hlast⟩ := h.exynos.add hj h.client hne ht hc he
  have htype := h.client.add_type hj ht hc
  set r := addClientCompositionLayer d s' j with hr
  have hkept : ∀ i, r.1.validateType i = .exynos → a.state.validateType i = .exynos := by
    intro i hi
    rcases htype i with h' | ⟨_, h'⟩
    · rw [h'] at hi; cases hi
    · rw [← h']; exact hi
  have hself : r.1.validateType j = .client := by
    rcases htype j with h' | ⟨h', _⟩
    · exact h'
    · exact absurd rfl h'
  refine ⟨by simp [herr], h.client.add hj ht hc, hexynos, Int.le_trans hlast h.top, ?_, ?_, ?_,
    ?_, ?_, h.sorted, ?_, nofun, ?_, ?_⟩
  · exact fun i hi ht' => h.low i hi (hkept i ht')
  · exact fun i hi ht' => h.ge i hi (hkept i ht')
  · intro i ht'
    rcases htype i with h' | ⟨_, h'⟩
    · exact .inr h'
    · rw [h']; exact h.stays i ht'
  · intro i hfi hij hl
    simp only at hl
    rcases htype i with h' | ⟨hij', h'⟩
    · exact .inr (.inl h')
    · rw [h']; exact h.seen i hfi (by omega) (by omega)
  · intro i hfi hij hl hh
    simp only at hl
    by_cases hij' : i = j
    · subst hij'; rw [hlow] at hh; cases hh
    · exact h.high i hfi (by omega) (by omega) hh
  · exact fun i hi => ⟨Nat.lt_succ_of_lt (h.below i hi).1, (h.below i hi).2⟩
  · -- the new ends are old ends or the refused layer
    have hcand : IsCandidate d t j :=
      ⟨fun hx => (h.stays j hx).elim hne hnc, .inl hlow⟩
    intro a' b' hab
    have hcl := h.client
    generalize hcc : a.state.client = c at hcl hc
    cases hcl with
    | none =>
        rw [hr, addClientCompositionLayer_first (by rw [hc])] at hab
        simp only [CompositionInfo.mk.injEq, Int.ofNat_inj, true_and] at hab
        rw [← hab.1, ← hab.2]
        exact ⟨hcand, hcand⟩
    | @some cf cl hcl =>
        obtain ⟨-, hclient, -⟩ := clientAdded (d := d) (s := s') hc hj hcl.last_lt
        rw [← hr, hab] at hclient
        simp only [CompositionInfo.mk.injEq, Int.ofNat_inj, true_and] at hclient
        obtain ⟨hcf, hclast⟩ := h.ends cf cl hcc
        rw [hclient.1, hclient.2]
        refine ⟨?_, ?_⟩
        · rcases Nat.le_total cf j with h' | h'
          · rw [Nat.min_eq_left h']; exact hcf
          · rw [Nat.min_eq_right h']; exact hcand
        · rcases Nat.le_total cl j with h' | h'
          · rw [Nat.max_eq_right h']; exact hcand
          · rw [Nat.max_eq_left h']; exact hclast
  · rw [← h.logical]
    exact (addClientCompositionLayer_logicalType d s' j).trans
      (State.resetAssignedResource_logicalType _ _)

/-- **One round of the loop.** -/
theorem LoopInv.step (h : LoopInv d t f l types j a) (hj : j < d.layerNum) (hf : f ≤ j) :
    LoopInv d t f l types (j + 1) (sandwichExynos d m a j) := by
  unfold sandwichExynos
  split
  · next hend =>
    refine h.skip fun hl => ?_
    rcases hend with hend | hend
    · exact absurd h.status hend
    · omega
  · next hin =>
    have hlast : (j : Int) ≤ a.state.exynos.lastIndex := by
      have := fun h' => hin (.inr h'); omega
    split
    · next hhigh => exact h.putAside hhigh
    · next hlow =>
      have hlow := Bool.eq_false_iff.mpr hlow
      split
      · next hx => exact h.skip fun _ => hx
      · next hne =>
        split
        · next hc => exact h.foundClient hc hlow
        · next hnc =>
          split
          · exact h.refuse hj hf hlow hne hnc
          · exact h.join hj hf hlast hlow hnc

end Loop

/-! ### The ends of the range -/

/-- The exynos layers lie between `a` and `b`, with layers of high priority only. -/
structure IsCut (d : Display) (t : Nat → ValidateType) (a b : Nat) : Prop where
  last_lt : b < d.layerNum
  mem : ∀ i < d.layerNum, t i = .exynos → a ≤ i ∧ i ≤ b
  fill : ∀ i, a ≤ i → i ≤ b → t i = .exynos ∨ d.isHigh i = true
  low : ∀ i < d.layerNum, t i = .exynos → d.isHigh i = false
  nonempty : ∃ i < d.layerNum, t i = .exynos

theorem IsCut.le {a b : Nat} (h : IsCut d t a b) : a ≤ b := by
  obtain ⟨i, hi, ht⟩ := h.nonempty
  have := h.mem i hi ht
  omega

/-- What the trimming can take off the ends, if it runs at all. -/
def IsTrimmable (d : Display) (isTrimmed : Bool) (a b : Nat) : Prop :=
  if isTrimmed then ¬(d.isHigh b = true ∧ d.isHigh (b - 1) = true)
  else d.isHigh a = false ∧ d.isHigh b = false

theorem IsTrimmable.of_low {isTrimmed : Bool} {a b : Nat} (ha : d.isHigh a = false)
    (hb : d.isHigh b = false) : IsTrimmable d isTrimmed a b := by
  unfold IsTrimmable
  split
  · rintro ⟨h, -⟩; rw [hb] at h; cases h
  · exact ⟨ha, hb⟩

theorem foldl_trim_frame (l : List Nat) (s : State) :
    (l.foldl trim s).validateType = s.validateType ∧ (l.foldl trim s).client = s.client
      ∧ (l.foldl trim s).exynos.hasCompositionLayer = s.exynos.hasCompositionLayer := by
  refine foldl_keeps (P := fun r : State => r.validateType = s.validateType
    ∧ r.client = s.client ∧ r.exynos.hasCompositionLayer = s.exynos.hasCompositionLayer)
    (fun r h hr => ?_) l ⟨rfl, rfl, rfl⟩
  unfold trim
  split
  · exact hr
  · split <;> exact hr

/-- **The trimming.**  Taken in ascending order, the layers of high priority leave
    the first end one by one, and the last end once. -/
theorem foldl_trim {l : List Nat} {k a b : Nat} (hcut : IsCut d t a b)
    (hs : s.exynos = ⟨true, a, b⟩) (hsorted : l.Pairwise (· < ·))
    (hl : ∀ h ∈ l, k ≤ h ∧ d.isHigh h = true)
    (hall : ∀ g, k ≤ g → a ≤ g → g ≤ b → d.isHigh g = true → g ∈ l)
    (hfirst : d.isHigh a = true → k ≤ a) (hlast : d.isHigh b = true → k ≤ b)
    (htop : ¬(d.isHigh b = true ∧ d.isHigh (b - 1) = true)) :
    ∃ a' b' : Nat, (l.foldl trim s).exynos = ⟨true, a', b'⟩ ∧ IsCut d t a' b'
      ∧ d.isHigh a' = false ∧ d.isHigh b' = false ∧ a ≤ a' ∧ b' ≤ b := by
  induction l generalizing s k a b with
  | nil =>
      have hle := hcut.le
      refine ⟨a, b, hs, hcut, ?_, ?_, Nat.le_refl a, Nat.le_refl b⟩
      · refine Bool.eq_false_iff.mpr fun h => ?_
        exact absurd (hall a (hfirst h) (Nat.le_refl a) hle h) List.not_mem_nil
      · refine Bool.eq_false_iff.mpr fun h => ?_
        exact absurd (hall b (hlast h) hle (Nat.le_refl b) h) List.not_mem_nil
  | cons h l ih =>
      obtain ⟨hlt, hsorted⟩ := List.pairwise_cons.mp hsorted
      obtain ⟨hlo, hh⟩ := hl h List.mem_cons_self
      have hl' : ∀ g ∈ l, h + 1 ≤ g ∧ d.isHigh g = true := fun g hg =>
        ⟨hlt g hg, (hl g (List.mem_cons_of_mem _ hg)).2⟩
      have hle := hcut.le
      -- the list still has the layers of high priority above `h`
      have hall' : ∀ g, h + 1 ≤ g → a ≤ g → g ≤ b → d.isHigh g = true → g ∈ l := by
        intro g hg hag hgb hgh
        rcases List.mem_cons.mp (hall g (by omega) hag hgb hgh) with rfl | hg'
        · omega
        · exact hg'
      have hnx : ∀ i, d.isHigh i = true → i < d.layerNum → t i ≠ .exynos := by
        intro i hi hin ht
        rw [hcut.low i hin ht] at hi
        cases hi
      rw [List.foldl_cons]
      obtain ⟨x, hxn, hxt⟩ := hcut.nonempty
      have hx := hcut.mem x hxn hxt
      have hlt' := hcut.last_lt
      by_cases hha : h = a
      · -- off the first end
        subst hha
        have hne := hnx h hh (by omega)
        have hxh : x ≠ h := fun he => hne (he ▸ hxt)
        obtain ⟨a', b', hr, hcut', hla, hlb, haa', hbb'⟩ :=
          ih (s := trim s h) (k := h + 1) (a := h + 1) (b := b)
            ⟨hcut.last_lt, fun i hi ht => by
                have := hcut.mem i hi ht
                have : i ≠ h := fun he => hne (he ▸ ht)
                omega,
              fun i hi => hcut.fill i (by omega), hcut.low, hcut.nonempty⟩
            (by unfold trim; rw [if_pos (by simp [hs])]; simp [hs]) hsorted hl'
            (fun g hg _ hgb hgh => hall' g hg (by omega) hgb hgh) (fun _ => Nat.le_refl _)
            (fun _ => by omega) htop
        exact ⟨a', b', hr, hcut', hla, hlb, by omega, hbb'⟩
      · by_cases hhb : h = b
        · -- off the last end
          subst hhb
          have hne := hnx h hh hlt'
          have hxh : x ≠ h := fun he => hne (he ▸ hxt)
          have hlow : d.isHigh (h - 1) = false :=
            Bool.eq_false_iff.mpr fun h' => htop ⟨hh, h'⟩
          have hcast : ((h : Int) - 1) = ((h - 1 : Nat) : Int) := by omega
          obtain ⟨a', b', hr, hcut', hla, hlb, haa', hbb'⟩ :=
            ih (s := trim s h) (k := h + 1) (a := a) (b := h - 1)
              ⟨by omega, fun i hi ht => by
                  have := hcut.mem i hi ht
                  have : i ≠ h := fun he => hne (he ▸ ht)
                  omega,
                fun i hi hi' => hcut.fill i hi (by omega), hcut.low, hcut.nonempty⟩
              (by unfold trim
                  rw [if_neg (by simp [hs]; omega), if_pos (by simp [hs])]
                  simp [hs, hcast]) hsorted hl'
              (fun g hg hag hgb hgh => by omega)
              (fun hha' => by
                rcases List.mem_cons.mp (hall a (hfirst hha') (Nat.le_refl a) hle hha') with h' | h'
                · omega
                · exact hlt a h')
              (fun hh' => by rw [hlow] at hh'; cases hh')
              (fun hh' => by rw [hlow] at hh'; cases hh'.1)
          exact ⟨a', b', hr, hcut', hla, hlb, haa', by omega⟩
        · refine ih (s := trim s h) (k := h + 1) hcut ?_ hsorted hl' hall' (fun hha' => ?_)
            (fun hhb' => ?_) htop
          · unfold trim
            rw [if_neg (by simp [hs]; omega), if_neg (by simp [hs]; omega)]
            exact hs
          · rcases List.mem_cons.mp (hall a (hfirst hha') (Nat.le_refl a) hle hha') with h' | h'
            · exact absurd h'.symm hha
            · exact hlt a h'
          · rcases List.mem_cons.mp (hall b (hlast hhb') hle (Nat.le_refl b) hhb') with h' | h'
            · exact absurd h'.symm hhb
            · exact hlt b h'

/-! ### Settling the range -/

/-- The range holds the exynos layers and nothing else. -/
inductive HasExynosRange (d : Display) (t : Nat → ValidateType) : CompositionInfo → Prop where
  | none : (∀ i < d.layerNum, t i ≠ .exynos) → HasExynosRange d t .initial
  | some {f l : Nat} : f ≤ l → l < d.layerNum →
      (∀ i < d.layerNum, t i = .exynos ↔ f ≤ i ∧ i ≤ l) → HasExynosRange d t ⟨true, f, l⟩

/-- What a resource assignment keeps true of the two ranges: a layer of high
    priority can only be the whole exynos composition. -/
structure RangeInv (d : Display) (s : State) : Prop where
  client : HasClientRange d s.validateType s.client
  exynos : HasExynosRange d s.validateType s.exynos
  low : ∀ f l : Nat, s.exynos = ⟨true, f, l⟩ → f < l →
    ∀ i < d.layerNum, s.validateType i = .exynos → d.isHigh i = false

/-- The loop that gives the layers from `a` to `b` to the client composition. -/
theorem foldl_disable {a b : Nat} (hb : b < d.layerNum)
    (hclient : HasClientRange d s.validateType s.client)
    (hmem : ∀ i < d.layerNum, s.validateType i = .exynos →
      a ≤ i ∧ i ≤ b ∧ d.isHigh i = false) :
    HasClientRange d ((List.range' a (b + 1 - a)).foldl (disable d) s).validateType
        ((List.range' a (b + 1 - a)).foldl (disable d) s).client
      ∧ ∀ i < d.layerNum,
        ((List.range' a (b + 1 - a)).foldl (disable d) s).validateType i ≠ .exynos := by
  -- the exynos layers below the index are gone
  have h := foldl_range' (f := disable d) (a := a) (n := b + 1 - a)
    (P := fun j (r : State) => HasClientRange d r.validateType r.client
      ∧ ∀ i < d.layerNum, r.validateType i = .exynos → j ≤ i ∧ i ≤ b ∧ d.isHigh i = false)
    ?_ (s := s) ⟨hclient, hmem⟩
  · refine ⟨h.1, fun i hi ht => ?_⟩
    have := h.2 i hi ht
    omega
  · intro j r _ hjb ⟨hc, hm⟩
    unfold disable
    split
    · next hhigh =>
      refine ⟨hc, fun i hi ht => ?_⟩
      obtain ⟨hji, hib, hlow⟩ := hm i hi ht
      have : i ≠ j := by rintro rfl; rw [hlow] at hhigh; cases hhigh
      exact ⟨by omega, hib, hlow⟩
    · have ht' : ((r.resetAssignedResource j).setType j .client).validateType
          = update r.validateType j .client := by simp
      have hc' : ((r.resetAssignedResource j).setType j .client).client = r.client := by simp
      have hj : j < d.layerNum := by omega
      refine ⟨hc.add hj ht' hc', fun i hi ht => ?_⟩
      rcases hc.add_type hj ht' hc' i with h' | ⟨hij, h'⟩
      · rw [h'] at ht; cases ht
      · rw [h'] at ht
        obtain ⟨hji, hib, hlow⟩ := hm i hi ht
        exact ⟨by omega, hib, hlow⟩

/-- The state from which the range is settled: no exynos layer is left, or the
    range only has to lose layers of high priority at its ends. -/
inductive IsSettling (d : Display) (isTrimmed : Bool) (l : List Nat) (s : State) : Prop where
  | none : s.exynos = .initial → (∀ i < d.layerNum, s.validateType i ≠ .exynos) →
      IsSettling d isTrimmed l s
  | some {a b : Nat} : s.exynos = ⟨true, a, b⟩ → IsCut d s.validateType a b →
      IsTrimmable d isTrimmed a b →
      (∀ g, a ≤ g → g ≤ b → d.isHigh g = true → g ∈ l) → IsSettling d isTrimmed l s

theorem foldl_trim_initial {l : List Nat} (hs : s.exynos = .initial) :
    (l.foldl trim s).exynos = .initial := by
  refine foldl_keeps (P := fun r : State => r.exynos = .initial) (fun r h hr => ?_) l hs
  unfold trim
  rw [if_neg (by rw [hr]; simp only [CompositionInfo.initial]; omega),
    if_neg (by rw [hr]; simp only [CompositionInfo.initial]; omega)]
  exact hr

/-- The trimmed state: the ends have no high priority any more. -/
theorem IsSettling.trimmed {isTrimmed : Bool} {l : List Nat} (h : IsSettling d isTrimmed l s)
    (hsorted : l.Pairwise (· < ·)) (hl : ∀ g ∈ l, d.isHigh g = true) {s' : State}
    (hs' : s' = if isTrimmed then l.foldl trim s else s) :
    s'.validateType = s.validateType ∧ s'.client = s.client ∧
      ((s'.exynos = .initial ∧ ∀ i < d.layerNum, s.validateType i ≠ .exynos) ∨
        ∃ a b : Nat, s'.exynos = ⟨true, a, b⟩ ∧ IsCut d s.validateType a b
          ∧ d.isHigh a = false ∧ d.isHigh b = false
          ∧ ∀ g, a ≤ g → g ≤ b → d.isHigh g = true → g ∈ l) := by
  have hframe : s'.validateType = s.validateType ∧ s'.client = s.client := by
    rw [hs']
    split
    · exact ⟨(foldl_trim_frame l s).1, (foldl_trim_frame l s).2.1⟩
    · exact ⟨rfl, rfl⟩
  refine ⟨hframe.1, hframe.2, ?_⟩
  cases h with
  | none he hno =>
      refine .inl ⟨?_, hno⟩
      rw [hs']
      split
      · exact foldl_trim_initial he
      · exact he
  | @some a b he hcut htrim hhp =>
      refine .inr ?_
      unfold IsTrimmable at htrim
      cases isTrimmed with
      | false => exact ⟨a, b, by rw [hs']; exact he, hcut, htrim.1, htrim.2, hhp⟩
      | true =>
          obtain ⟨a', b', hr, hcut', hla, hlb, haa', hbb'⟩ :=
            foldl_trim (k := 0) hcut he hsorted (fun g hg => ⟨Nat.zero_le g, hl g hg⟩)
              (fun g _ => hhp g) (fun _ => Nat.zero_le a) (fun _ => Nat.zero_le b) htrim
          exact ⟨a', b', by rw [hs']; exact hr, hcut', hla, hlb,
            fun g hg hg' => hhp g (by omega) (by omega)⟩

theorem isIndexValid_initial (hs : s.exynos = .initial) : isIndexValid d s = false := by
  simp [isIndexValid, hs, CompositionInfo.initial]

theorem isIndexValid_range {a b : Nat} (hs : s.exynos = ⟨true, a, b⟩) (hab : a ≤ b)
    (hb : b < d.layerNum) : isIndexValid d s = true := by
  simp [isIndexValid, hs]
  omega

/-- **Settling the range makes it exact.** -/
theorem settle_exact {m : MppId} {l : List Nat} {changeFlag : Bool}
    (hclient : HasClientRange d s.validateType s.client)
    (h : IsSettling d (decide ((s.mpp m).logicalType = .g2dRGB)) l s)
    (hsorted : l.Pairwise (· < ·)) (hl : ∀ g ∈ l, d.isHigh g = true) :
    RangeInv d (settleExynosRange d m s l changeFlag).1 := by
  have htrimmed := h.trimmed hsorted hl rfl
  unfold settleExynosRange
  dsimp only
  simp only [decide_eq_true_eq] at htrimmed
  generalize (if (s.mpp m).logicalType = .g2dRGB then l.foldl trim s else s) = s' at htrimmed ⊢
  obtain ⟨htype, hcl, hrange⟩ := htrimmed
  rw [← hcl, ← htype] at hclient
  rcases hrange with ⟨he, hno⟩ | ⟨a, b, he, hcut, hla, hlb, hhp⟩
  · rw [isIndexValid_initial he, if_pos rfl]
    have : isHighInside (s'.initializeExynos d) l = false := by
      refine List.any_eq_false.mpr fun g _ => ?_
      simp only [Bool.and_eq_true, decide_eq_true_eq]
      simp only [State.initializeExynos_exynos, CompositionInfo.initial]
      omega
    rw [this]
    refine ⟨hclient, .none fun i hi => ?_, fun f l hf => ?_⟩
    · simpa [htype] using hno i hi
    · simp [CompositionInfo.initial] at hf
  · have hle := hcut.le
    rw [isIndexValid_range he hle hcut.last_lt]
    simp only [Bool.true_eq_false, if_false]
    split
    · -- a layer of high priority is inside: the composition is given up
      have hdis := foldl_disable (s := setLogicalType s' m .g2dRGB) hcut.last_lt
        hclient (fun i hi ht => by
          have ht : s.validateType i = .exynos := by rw [← htype]; exact ht
          exact ⟨(hcut.mem i hi ht).1, (hcut.mem i hi ht).2, hcut.low i hi ht⟩)
      have hfirst : s'.exynos.firstIndex.toNat = a := by simp [he]
      have hlast : s'.exynos.lastIndex.toNat = b := by simp [he]
      unfold disableExynosComposition
      dsimp only
      rw [show (setLogicalType s' m .g2dRGB).exynos = s'.exynos from rfl, hfirst, hlast]
      exact ⟨hdis.1, .none hdis.2, fun f l hf => by simp [CompositionInfo.initial] at hf⟩
    · next hinside =>
      have hinside := Bool.eq_false_iff.mpr hinside
      have hall : ∀ i, a ≤ i → i ≤ b → s.validateType i = .exynos := by
        intro i hai hib
        refine (hcut.fill i hai hib).resolve_right fun hh => ?_
        have hia : i ≠ a := by rintro rfl; rw [hla] at hh; cases hh
        have hib' : i ≠ b := by rintro rfl; rw [hlb] at hh; cases hh
        have := List.any_eq_false.mp hinside i (hhp i hai hib hh)
        simp [he] at this
        omega
      refine ⟨hclient, ?_, fun f l hf _ i hi ht => ?_⟩
      · simp only [he]
        refine .some hle hcut.last_lt fun i hi => ?_
        rw [htype]
        exact ⟨hcut.mem i hi, fun h => hall i h.1 h.2⟩
      · rw [htype] at ht
        exact hcut.low i hi ht

/-! ### Adding an exynos layer -/

/-- The range after an end went to the client composition, which leaves the exynos
    layers between `x` and `y`. -/
theorem IsSettling.of_update {isTrimmed : Bool} {l : List Nat} {t' : Nat → ValidateType}
    {e e' : CompositionInfo} {st : Status} {b : Bool} {x y : Nat}
    (u : RangeUpdate d t t' e e' st b) (he : e.hasCompositionLayer = true)
    (hneg : ¬(e.firstIndex < 0 ∨ e.lastIndex < 0)) (hy : y < d.layerNum)
    (hmem : ∀ i < d.layerNum, t' i = .exynos → x ≤ i ∧ i ≤ y)
    (hfill : ∀ i, x ≤ i → i ≤ y → t' i = .exynos ∨ d.isHigh i = true)
    (hlow : ∀ i < d.layerNum, t' i = .exynos → d.isHigh i = false)
    (hnonempty : ∃ i < d.layerNum, t' i = .exynos)
    (htrim : b = false → IsTrimmable d isTrimmed x y)
    (hl : ∀ g, x ≤ g → g ≤ y → d.isHigh g = true → g ∈ l) (hs : s.validateType = t')
    (hse : s.exynos = if b then e' else ⟨true, x, y⟩) :
    IsSettling d isTrimmed l s ∧ st.isError = false := by
  have hcut : IsCut d t' x y := ⟨hy, hmem, hfill, hlow, hnonempty⟩
  cases u with
  | same => exact ⟨.some hse (hs ▸ hcut) (htrim rfl) hl, rfl⟩
  | invalid _ hn => exact absurd hn hneg
  | gone hno =>
      obtain ⟨i, hi, ht⟩ := hnonempty
      exact absurd ht (hno i hi)
  | @shrunk f' l' _ hhull =>
      have hf := hmem f' (Nat.lt_of_le_of_lt hhull.le hhull.last_lt) hhull.first_eq
      have hl' := hmem l' hhull.last_lt hhull.last_eq
      refine ⟨.some (a := f') (b := l') (by rw [hse, if_pos rfl, he])
        ⟨hhull.last_lt, ?_, ?_, ?_, ?_⟩ (.of_low ?_ ?_) fun g hg hg' =>
        hl g (by omega) (by omega), rfl⟩
      · rw [hs]; exact hhull.mem
      · rw [hs]; exact fun i hi hi' => hfill i (by omega) (by omega)
      · rw [hs]; exact hlow
      · rw [hs]; exact hnonempty
      · exact hlow f' (Nat.lt_of_le_of_lt hhull.le hhull.last_lt) hhull.first_eq
      · exact hlow l' hhull.last_lt hhull.last_eq

section Nested

variable {f l n : Nat} {types : MppId → LogicalType} {a : Sandwich}

/-- No layer next to a candidate inside the range is out of reach of the trimming
    (`hasHighPair`). -/
def NoPair (d : Display) (isTrimmed : Bool) (t : Nat → ValidateType) (f l : Nat) : Prop :=
  ∀ c, f < c → c < l → IsCandidate d t c →
    if isTrimmed then ¬(d.isHigh (c - 1) = true ∧ d.isHigh (c - 2) = true)
    else d.isHigh (c - 1) = false ∧ d.isHigh (c + 1) = false

/-- In the end a client layer inside the range means that the range nests the
    client range. -/
theorem LoopInv.nested (h : LoopInv d t f l types d.layerNum a) {f' l' i : Nat}
    (he : a.state.exynos = ⟨true, f', l'⟩) (hi : f' ≤ i) (hil : i ≤ l')
    (hc : a.state.validateType i = .client) : isNested a.state = true := by
  have hhull := h.exynos
  rw [he] at hhull
  cases hhull with
  | some hhull =>
    have hlt := hhull.last_lt
    have hle := hhull.le
    have hfx := hhull.first_eq
    have hlx := hhull.last_eq
    have hcl := h.client
    generalize hcc : a.state.client = c at hcl
    cases hcl with
    | none hno => exact absurd hc (hno i (by omega))
    | @some cf cl hcl =>
      have hmem := hcl.mem i (by omega) hc
      -- an exynos layer is not spared, so it is not inside the client range
      have hout : ∀ e < d.layerNum, a.state.validateType e = .exynos → ¬(cf < e ∧ e < cl) := by
        intro e hen hex ⟨hce, hecl⟩
        rcases hcl.inside e hce hecl with h' | h'
        · rw [hex] at h'; cases h'
        · have := h.low e hen hex
          simp [Display.isSpared, this] at h'
      have hdiff : ∀ e e', a.state.validateType e = .exynos →
          a.state.validateType e' = .client → e ≠ e' := by
        rintro e _ hex hcx rfl
        rw [hex] at hcx
        cases hcx
      have h1 := hout f' (by omega) hfx
      have h2 := hout l' hlt hlx
      have h3 := hdiff f' cf hfx hcl.first_eq
      have h4 := hdiff f' cl hfx hcl.last_eq
      have h5 := hdiff l' cf hlx hcl.first_eq
      have h6 := hdiff l' cl hlx hcl.last_eq
      have h7 := hdiff f' i hfx hc
      have h8 := hdiff l' i hlx hc
      simp [isNested, hcc, he]
      omega

/-- What is left in the range of the loop once no client layer is in it. -/
theorem LoopInv.fill (h : LoopInv d t f l types d.layerNum a) {f' l' i : Nat}
    (he : a.state.exynos = ⟨true, f', l'⟩) (hi : f' ≤ i) (hil : i ≤ l')
    (hc : a.state.validateType i ≠ .client) :
    a.state.validateType i = .exynos ∨ d.isHigh i = true := by
  have hhull := h.exynos
  rw [he] at hhull
  cases hhull with
  | some hhull =>
    have hlt := hhull.last_lt
    have hle := hhull.le
    have hge := h.ge f' (by omega) hhull.first_eq
    have := h.seen i (by omega) (by omega) (by rw [he]; simp only; omega)
    exact this.imp_right fun h' => h'.resolve_left hc

/-- The end at `e` goes to the client composition, and the exynos layers that are
    left lie between `x` and `y`. -/
theorem LoopInv.giveUpEnd (h : LoopInv d t f l types d.layerNum a) {isTrimmed : Bool}
    {f' l' cf cl e x y : Nat} (he : a.state.exynos = ⟨true, f', l'⟩)
    (hc : a.state.client = ⟨true, cf, cl⟩) (hfc : f' < cf) (hcl : cl < l')
    (hside : e = f' ∧ x = cl + 1 ∧ y = l' ∨ e = l' ∧ x = f' ∧ y + 1 = cf)
    (htrim : IsTrimmable d isTrimmed x y) {cut : State → State}
    (hcut : ∀ r : State, r.exynos = ⟨true, f', l'⟩ → r.client = ⟨true, min cf e, max cl e⟩ →
      (cut r).exynos = ⟨true, x, y⟩ ∧ (cut r).validateType = r.validateType
        ∧ (cut r).client = r.client ∧ (cut r).logicalType = r.logicalType) :
    let r := giveUpEnd d a.state e cut
    IsSettling d isTrimmed a.highPriLayers r.1 ∧ r.2.isError = false
      ∧ HasClientRange d r.1.validateType r.1.client ∧ r.1.logicalType = types := by
  have hhull := h.exynos
  rw [he] at hhull
  have hclient := h.client
  cases hhull with
  | some hhull =>
    have hlt := hhull.last_lt
    have hrange : IsClientRange d a.state.validateType cf cl := by
      have := h.client
      rw [hc] at this
      cases this with
      | some this => exact this
    have hcle := hrange.le
    unfold CompositionRange.giveUpEnd
    dsimp only
    set s' := ((a.state.recordTaken .nested e).resetAssignedResource e).setType e .client with hs'
    have ht' : s'.validateType = update a.state.validateType e .client := by simp [hs']
    have hc' : s'.client = a.state.client := by simp [hs']
    have he' : s'.exynos = ⟨true, f', l'⟩ := by simp [hs', he]
    have hen : e < d.layerNum := by omega
    obtain ⟨htype, hrc, hupd⟩ := clientAdded (d := d) (s := s') (hc'.trans hc) hen hrange.last_lt
    have hadd := h.client.add hen ht' hc'
    set r := addClientCompositionLayer d s' e with hr
    have hlogical : r.1.logicalType = types := by
      rw [← h.logical]
      exact (addClientCompositionLayer_logicalType d s' e).trans
        (State.resetAssignedResource_logicalType _ _)
    -- what is an exynos layer now was one before, on the other side of the clients
    have hmem : ∀ i < d.layerNum, r.1.validateType i = .exynos →
        a.state.validateType i = .exynos ∧ x ≤ i ∧ i ≤ y := by
      intro i hi hx
      rw [htype, sandwiched_eq_exynos, ht'] at hx
      obtain ⟨hx, hout⟩ := hx
      have hie : i ≠ e := by rintro rfl; rw [update_self] at hx; cases hx
      rw [update_of_ne hie] at hx
      have hb := hhull.mem i hi hx
      have hns : d.isSpared i = false := by
        simp [Display.isSpared, h.low i hi hx]
      have hicf : i ≠ cf := by rintro rfl; rw [hrange.first_eq] at hx; cases hx
      have hicl : i ≠ cl := by rintro rfl; rw [hrange.last_eq] at hx; cases hx
      have hout : ¬(min cf e < i ∧ i < max cl e) := fun h' => hout ⟨h'.1, h'.2, hns⟩
      exact ⟨hx, by omega⟩
    have hkept : ∀ i, x ≤ i → i ≤ y → r.1.validateType i = a.state.validateType i := by
      intro i hxi hiy
      have hle := hhull.le
      rw [htype, sandwiched_outside (by omega), ht', update_of_ne (by omega)]
    have hfill : ∀ i, x ≤ i → i ≤ y → r.1.validateType i = .exynos ∨ d.isHigh i = true := by
      intro i hxi hiy
      have hle := hhull.le
      rw [hkept i hxi hiy]
      refine h.fill he (by omega) (by omega) fun hcx => ?_
      have := hrange.mem i (by omega) hcx
      omega
    have hnonempty : ∃ i < d.layerNum, r.1.validateType i = .exynos := by
      rcases hside with ⟨rfl, rfl, rfl⟩ | ⟨rfl, rfl, rfl⟩
      · exact ⟨y, hlt, (hkept y (by omega) (Nat.le_refl y)).trans hhull.last_eq⟩
      · exact ⟨x, by omega, (hkept x (Nat.le_refl x) (by omega)).trans hhull.first_eq⟩
    have hhigh : ∀ g, x ≤ g → g ≤ y → d.isHigh g = true → g ∈ a.highPriLayers := by
      intro g hxg hgy hg
      have hle := hhull.le
      have hge := h.ge f' (by omega) hhull.first_eq
      exact h.high g (by omega) (by omega) (by rw [he]; simp only; omega) hg
    have hcast : r.1.client = ⟨true, min (cf : Int) e, max (cl : Int) e⟩ := by
      rw [hrc]
      congr 1 <;> omega
    have key : ∀ r' : State, r'.validateType = r.1.validateType →
        r'.exynos = (if r.2.2 then r.1.exynos else ⟨true, x, y⟩) →
        IsSettling d isTrimmed a.highPriLayers r' ∧ r.2.1.isError = false := by
      intro r' hrt hre
      refine IsSettling.of_update hupd (by rw [he']) (by rw [he']; simp only; omega) (by omega)
        (fun i hi hx => (hmem i hi hx).2) hfill
        (fun i hi hx => h.low i hi (hmem i hi hx).1) hnonempty (fun _ => htrim) hhigh hrt hre
    cases hflag : r.2.2 with
    | true =>
        obtain ⟨hset, herr⟩ := key r.1 rfl (by rw [hflag, if_pos rfl])
        simp only [herr, Bool.false_eq_true, if_false, if_true]
        exact ⟨hset, trivial, hadd, hlogical⟩
    | false =>
        -- the exynos range is the one before the layer was given up
        have hold : r.1.exynos = ⟨true, f', l'⟩ ∧ r.2.1.isError = false := by
          generalize r.1.validateType = t₁ at hupd
          generalize r.1.exynos = e₁ at hupd ⊢
          generalize r.2.1 = st at hupd ⊢
          rw [hflag] at hupd
          cases hupd with
          | same => exact ⟨he', rfl⟩
          | invalid _ hn =>
              rw [he'] at hn
              simp only at hn
              omega
        obtain ⟨hcx, hct, hcc, hcl⟩ := hcut r.1 hold.1 hcast
        obtain ⟨hset, herr⟩ := key (cut r.1) hct (by
          rw [hcx, hflag, if_neg Bool.false_ne_true])
        simp only [herr, Bool.false_eq_true, if_false]
        exact ⟨hset, trivial, by rw [hct, hcc]; exact hadd, hcl.trans hlogical⟩

/-- A loop that met no nested client layers. -/
theorem LoopInv.unnested (h : LoopInv d t f l types d.layerNum a) {isTrimmed : Bool}
    (hn : a.invalidFlag = false ∨ isNested a.state = false) :
    IsSettling d isTrimmed a.highPriLayers a.state := by
  have hhull := h.exynos
  generalize he : a.state.exynos = e at hhull
  cases hhull with
  | none hno => exact .none he hno
  | @some f' l' hhull =>
    have hle := hhull.le
    have hlt := hhull.last_lt
    have hge := h.ge f' (by omega) hhull.first_eq
    refine .some he ⟨hlt, hhull.mem, fun i hi hil => ?_, h.low, ⟨l', hlt, hhull.last_eq⟩⟩
      (.of_low (h.low f' (by omega) hhull.first_eq) (h.low l' hlt hhull.last_eq))
      fun g hg hgl hh => h.high g (by omega) (by omega) (by rw [he]; simp only; omega) hh
    rcases hn with hq | hn
    · obtain ⟨heq, hfill⟩ := h.quiet hq
      rw [he] at heq
      simp only [CompositionInfo.mk.injEq, Int.ofNat_inj, true_and] at heq
      exact hfill i (by omega) (by omega) (by omega)
    · refine h.fill he hi hil fun hc => ?_
      rw [h.nested he hi hil hc] at hn
      cases hn

/-- **After the nested client layers** only the ends and the inside have to be
    looked at. -/
theorem LoopInv.settling (h : LoopInv d t f l types d.layerNum a) {isTrimmed : Bool}
    (hpair : NoPair d isTrimmed t f l) :
    let r := if a.invalidFlag then handleNestedClientCompositionLayer d a.state
      else (a.state, .noError)
    IsSettling d isTrimmed a.highPriLayers r.1 ∧ r.2.isError = false
      ∧ HasClientRange d r.1.validateType r.1.client ∧ r.1.logicalType = types := by
  by_cases hn : a.invalidFlag = false ∨ isNested a.state = false
  · have hr : (if a.invalidFlag then handleNestedClientCompositionLayer d a.state
        else (a.state, .noError)) = (a.state, .noError) := by
      split
      · next hi =>
        rw [handleNestedClientCompositionLayer, if_pos]
        exact hn.resolve_left (by rw [hi]; exact Bool.noConfusion)
      · rfl
    rw [hr]
    exact ⟨h.unnested hn, rfl, h.client, h.logical⟩
  · have hinv : a.invalidFlag = true := by
      cases hi : a.invalidFlag with
      | true => rfl
      | false => exact absurd (.inl hi) hn
    have hnest : ¬isNested a.state = false := fun h' => hn (.inr h')
    rw [if_pos hinv, handleNestedClientCompositionLayer, if_neg hnest]
    rw [Bool.not_eq_false] at hnest
    -- the two ranges, one inside the other
    have hcl := h.client
    have hhull := h.exynos
    generalize hcc : a.state.client = c at hcl
    generalize he : a.state.exynos = e at hhull
    cases hcl with
    | none => simp [isNested, hcc] at hnest
    | @some cf cl hcl =>
      cases hhull with
      | none => simp [isNested, hcc, he, CompositionInfo.initial] at hnest; omega
      | @some f' l' hhull =>
        simp [isNested, hcc, he] at hnest
        have hle := hhull.le
        have hlt := hhull.last_lt
        have hcle := hcl.le
        have hge := h.ge f' (by omega) hhull.first_eq
        have htop := h.top
        rw [he] at htop
        simp only at htop
        have hcand := h.ends cf cl hcc
        have hlf := h.low f' (by omega) hhull.first_eq
        have hll := h.low l' hlt hhull.last_eq
        dsimp only
        split
        · -- the first end is given up
          refine h.giveUpEnd (x := cl + 1) (y := l') he hcc (by omega) (by omega)
            (.inl ⟨by simp, rfl, rfl⟩) ?_ fun r hre hrc => ?_
          · have := hpair cl (by omega) (by omega) hcand.2
            unfold IsTrimmable
            cases isTrimmed with
            | true => rintro ⟨h', -⟩; rw [hll] at h'; cases h'
            | false => exact ⟨this.2, hll⟩
          · refine ⟨?_, rfl, rfl, rfl⟩
            simp only [State.setExynosRange_exynos, hre, hrc]
            congr 1
            simp only [Int.toNat_natCast]
            omega
        · -- the last end is given up
          refine h.giveUpEnd (x := f') (y := cf - 1) he hcc (by omega) (by omega)
            (.inr ⟨by simp, rfl, by omega⟩) ?_ fun r hre hrc => ?_
          · have := hpair cf (by omega) (by omega) hcand.1
            unfold IsTrimmable
            cases isTrimmed with
            | true => exact this
            | false => exact ⟨hlf, this.1⟩
          · refine ⟨?_, rfl, rfl, rfl⟩
            simp only [State.setExynosRange_exynos, hre, hrc]
            congr 1
            simp only [Int.toNat_natCast]
            omega

end Nested

/-- No pair of layers of high priority in the sense of the model. -/
theorem noPair_of_hasHighPair {k : Nat} {m : MppId} {f l : Nat} (hm : s.m2mMPP .exynos = some m)
    (hf : grownFirst s k = f) (hl : grownLast s k = l) (hln : l < d.layerNum)
    (h : hasHighPair d s k = false) :
    NoPair d (decide (s.logicalType m = .g2dRGB)) s.validateType f l := by
  intro c hfc hcl hcand
  have hc := List.any_eq_false.mp h c (List.mem_range.mpr (by omega))
  have hin : grownFirst s k < c ∧ (c : Int) < grownLast s k := by rw [hf, hl]; omega
  have hrest : (!d.isHigh c || decide (s.validateType c = .client)) = true := by
    rcases hcand.2 with h' | h' <;> simp [h']
  simp only [hin, hcand.1, hrest, hm, Option.map_some, Option.some.injEq, decide_true,
    Bool.true_and, ne_eq, not_false_eq_true] at hc
  rw [show (s.mpp m).logicalType = s.logicalType m from rfl] at hc
  by_cases ht : s.logicalType m = .g2dRGB
  · simpa [ht] using hc
  · simpa [ht] using hc

/-- The layers of high priority are no exynos layers. -/
theorem low_of_hasHighExynos {k : Nat} (h : hasHighExynos d s k = false) :
    d.isHigh k = false ∧ ∀ i < d.layerNum, s.validateType i = .exynos → d.isHigh i = false := by
  unfold hasHighExynos at h
  rw [Bool.or_eq_false_iff] at h
  refine ⟨h.1, fun i hi ht => ?_⟩
  have := List.any_eq_false.mp h.2 i (List.mem_range.mpr hi)
  simpa [ht] using this

/-- The loop starts with the range that has the new layer in it. -/
theorem LoopInv.start {f l : Nat} (hclient : HasClientRange d s.validateType s.client)
    (hs : s.exynos = ⟨true, f, l⟩) (hhull : IsHull d s.validateType f l)
    (hlow : ∀ i < d.layerNum, s.validateType i = .exynos → d.isHigh i = false) :
    LoopInv d s.validateType f l s.logicalType f ⟨s, .noError, [], false, false⟩ where
  status := rfl
  client := hclient
  exynos := by rw [hs]; exact .some hhull
  top := Int.le_of_eq (by rw [hs])
  low := hlow
  ge i hi ht := (hhull.mem i hi ht).1
  stays i ht := .inl ht
  seen i hi hif := by omega
  high i hi hif := by omega
  sorted := List.Pairwise.nil
  below := nofun
  quiet _ := ⟨hs, fun i hi hif => by omega⟩
  ends a b hab := by
    simp only at hab
    rw [hab] at hclient
    cases hclient with
    | some h =>
      refine ⟨⟨fun hx => ?_, .inr h.first_eq⟩, ⟨fun hx => ?_, .inr h.last_eq⟩⟩
      · rw [h.first_eq] at hx; cases hx
      · rw [h.last_eq] at hx; cases hx
  logical := rfl

theorem sandwich_inv {f l : Nat} {m : MppId} (hclient : HasClientRange d s.validateType s.client)
    (hs : s.exynos = ⟨true, f, l⟩) (hhull : IsHull d s.validateType f l)
    (hlow : ∀ i < d.layerNum, s.validateType i = .exynos → d.isHigh i = false) :
    LoopInv d s.validateType f l s.logicalType d.layerNum
      (handleSandwitchedExynosCompositionLayer d m s) := by
  have hle := hhull.le
  have hlt := hhull.last_lt
  have h := foldl_range' (f := sandwichExynos d m) (a := f) (n := d.layerNum - f)
    (P := LoopInv d s.validateType f l s.logicalType)
    (fun j a hf hj ha => ha.step (by omega) hf) (.start hclient hs hhull hlow)
  rw [show f + (d.layerNum - f) = d.layerNum by omega] at h
  unfold handleSandwitchedExynosCompositionLayer
  rw [show s.exynos.firstIndex.toNat = f by simp [hs]]
  exact h

/-- **A layer that is marked as an exynos layer and added leaves the range exact**,
    unless the call fails. -/
theorem addExynosCompositionLayer_exact {k : Nat} (hk : k < d.layerNum)
    {t : Nat → ValidateType} (hs : s.validateType = update t k .exynos)
    (hclient : HasClientRange d s.validateType s.client) (hexynos : HasExynosHull d t s.exynos)
    (hmeets : s.exynos.hasCompositionLayer = true →
      hasHighExynos d s k = false ∧ hasHighPair d s k = false)
    (hok : (addExynosCompositionLayer d s k).2.isError = false) :
    RangeInv d (addExynosCompositionLayer d s k).1 := by
  have hmem : ∀ i, s.validateType i = .exynos → i = k ∨ t i = .exynos := by
    intro i hi
    rw [hs] at hi
    by_cases hik : i = k
    · exact .inl hik
    · rw [update_of_ne hik] at hi; exact .inr hi
  have hself : s.validateType k = .exynos := by rw [hs, update_self]
  have hkeep : ∀ i, t i = .exynos → s.validateType i = .exynos := by
    intro i hi
    rw [hs]
    by_cases hik : i = k
    · rw [hik, update_self]
    · rw [update_of_ne hik]; exact hi
  generalize he : s.exynos = e at hexynos
  cases hexynos with
  | none hno =>
    rw [addExynosCompositionLayer, if_pos (by simp [he, CompositionInfo.initial])]
    refine ⟨hclient, .some (Nat.le_refl k) hk fun i hi => ⟨fun ht => ?_, fun hik => ?_⟩,
      fun f l hf hlt => ?_⟩
    · have : i = k := (hmem i ht).resolve_right (hno i hi)
      omega
    · have : i = k := by omega
      subst this
      exact hself
    · simp only [CompositionInfo.mk.injEq, Int.ofNat_inj, true_and] at hf
      omega
  | @some f l hhull =>
    obtain ⟨hhigh, hpair⟩ := hmeets (by rw [he])
    obtain ⟨hklow, hlow⟩ := low_of_hasHighExynos hhigh
    have hle := hhull.le
    have hlt := hhull.last_lt
    have hf' : grownFirst s k = (min f k : Nat) := by
      unfold grownFirst; rw [he]; simp only; omega
    have hl' : grownLast s k = (max l k : Nat) := by
      unfold grownLast; rw [he]; simp only; omega
    have hgrown : IsHull d s.validateType (min f k) (max l k) := by
      refine ⟨?_, ?_, by omega, fun i hi ht => ?_⟩
      · rcases Nat.le_total f k with h | h
        · rw [Nat.min_eq_left h]; exact hkeep _ hhull.first_eq
        · rw [Nat.min_eq_right h]; exact hself
      · rcases Nat.le_total l k with h | h
        · rw [Nat.max_eq_right h]; exact hself
        · rw [Nat.max_eq_left h]; exact hkeep _ hhull.last_eq
      · rcases hmem i ht with rfl | ht
        · omega
        · have := hhull.mem i hi ht; omega
    unfold addExynosCompositionLayer at hok ⊢
    rw [if_neg (by simp [he])] at hok ⊢
    dsimp only at hok ⊢
    set s₁ := (s.countCheck.record (.added k (hasHighExynos d s.countCheck k)
      (hasHighPair d s.countCheck k))).setExynosRange (grownFirst _ k) (grownLast _ k) with hs₁
    have hrange : s₁.exynos = ⟨true, (min f k : Nat), (max l k : Nat)⟩ := by
      rw [hs₁, ← hf', ← hl']
      simp [he]
      exact ⟨rfl, rfl⟩
    have hm₁ : s₁.m2mMPP .exynos = s.m2mMPP .exynos := rfl
    cases hm : s.m2mMPP .exynos with
    | none => rw [hm₁, hm] at hok; cases hok
    | some m =>
      rw [hm₁, hm] at hok
      simp only [hm₁, hm] at hok ⊢
      rw [isIndexValid_range hrange hgrown.le hgrown.last_lt] at hok ⊢
      have hloop := sandwich_inv (m := m) (s := s₁) hclient hrange hgrown hlow
      set a := handleSandwitchedExynosCompositionLayer d m s₁ with ha
      simp only [hloop.status, ne_eq, not_true_eq_false, if_false, Bool.true_eq_false] at hok ⊢
      have hnopair : NoPair d (decide (s₁.logicalType m = .g2dRGB)) s₁.validateType
          (min f k) (max l k) :=
        noPair_of_hasHighPair (s := s) hm hf' hl' hgrown.last_lt hpair
      obtain ⟨hset, herr, hcl, hlog⟩ := hloop.settling hnopair
      rw [herr]
      refine settle_exact hcl ?_ hloop.sorted fun g hg => (hloop.below g hg).2
      rw [show ∀ r : State, (r.mpp m).logicalType = r.logicalType m from fun _ => rfl, hlog]
      exact hset

end ExynosHal.ExynosRange
