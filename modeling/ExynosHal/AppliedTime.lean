/-
  ExynosHal/AppliedTime.lean
  ==========================
  **The time from which a new vsync period applies.**

  `ExynosDisplay::getConfigAppliedTime` of `libhwc2.1/display/ExynosDisplay.cpp`
  in its own machine types.  The caller's times are `int64_t`, the parameters are
  `uint64_t`, the running `appliedTime` is `int64_t` again, and the transient
  duration and the vsync period are `uint32_t`: the loop compares as unsigned
  numbers and adds as signed ones.

  `ActiveConfig` runs the config state machine over times without a bound; where
  this loop stays in range it is the loop used there.
-/
import Mathlib.Order.Bounds.Basic
import ExynosHal.ActiveConfig

namespace ExynosHal.AppliedTime

open ExynosHal.ActiveConfig (toU64)

/-! ### The function -/

/-- The `while` of `getConfigAppliedTime`.  A signed addition that leaves `int64_t`
    has no defined result, and with a zero period the loop does not end: `none`. -/
def appliedTimeLoop (mVsyncPeriod desiredTime : Nat) (appliedTime : Int) : Option Int :=
  if _h : toU64 appliedTime < desiredTime then
    if _hstep : 0 < mVsyncPeriod ∧ appliedTime + mVsyncPeriod < 2 ^ 63 then
      appliedTimeLoop mVsyncPeriod desiredTime (appliedTime + mVsyncPeriod)
    else none
  else some appliedTime
termination_by (2 ^ 63 - appliedTime).toNat
decreasing_by
  have _hlt := _hstep.2
  omega

/-- `getConfigAppliedTime`: `appliedTime` and `refreshTime`. -/
def getConfigAppliedTime (mVsyncPeriod transientDuration : UInt32)
    (desiredTime actualChangeTime : UInt64) : Option (Int × Int) :=
  match appliedTimeLoop mVsyncPeriod.toNat desiredTime.toNat actualChangeTime.toInt64.toInt with
  | some appliedTime =>
      let refreshTime := appliedTime - ((transientDuration * mVsyncPeriod).toNat : Int)
      if -2 ^ 63 ≤ refreshTime then some (appliedTime, refreshTime) else none
  | none => none

/-! ### The grid of possible times -/

/-- The times at which a period can start, counted from the first possible one. -/
def Grid (start : Int) (period : Nat) (t : Int) : Prop := ∃ k : Nat, t = start + k * period

theorem Grid.start (start : Int) (period : Nat) : Grid start period start :=
  ⟨0, by simp⟩

theorem Grid.next {start : Int} {period : Nat} {t : Int} (h : Grid start period t) :
    Grid start period (t + period) := by
  obtain ⟨k, rfl⟩ := h
  refine ⟨k + 1, ?_⟩
  rw [Int.natCast_add, Int.add_mul]
  omega

/-- Every time of the grid is its start or a time of the grid one period later. -/
theorem Grid.cases {start : Int} {period : Nat} {t : Int} (h : Grid start period t) :
    t = start ∨ Grid (start + period) period t := by
  obtain ⟨k, rfl⟩ := h
  cases k with
  | zero => left; simp
  | succ k =>
    right
    refine ⟨k, ?_⟩
    rw [Int.natCast_add, Int.add_mul]
    omega

theorem Grid.later {start : Int} {period : Nat} {t : Int} (h : Grid (start + period) period t) :
    Grid start period t := by
  obtain ⟨k, rfl⟩ := h
  refine ⟨k + 1, ?_⟩
  rw [Int.natCast_add, Int.add_mul]
  omega

theorem Grid.start_le {start : Int} {period : Nat} {t : Int} (h : Grid start period t) :
    start ≤ t := by
  obtain ⟨k, rfl⟩ := h
  have hk : 0 ≤ (k : Int) * period := Int.mul_nonneg (Int.natCast_nonneg k) (Int.natCast_nonneg period)
  omega

/-- The times of the grid that are not before the desired one. -/
def NotBefore (start : Int) (period : Nat) (desired : Int) : Set Int :=
  {t | Grid start period t ∧ desired ≤ t}

/-- What the caller expects of the two times. -/
def Expected (start : Int) (period transient : Nat) (desired : Int) (times : Int × Int) : Prop :=
  IsLeast (NotBefore start period desired) times.1 ∧ times.2 = times.1 - transient * period

/-! ### Signed times read as unsigned ones -/

theorem toU64_nonneg {t : Int} (hlow : 0 ≤ t) (hhigh : t < 2 ^ 63) : (toU64 t : Int) = t := by
  unfold toU64
  omega

theorem toU64_neg {t : Int} (hlow : -2 ^ 63 ≤ t) (hhigh : t < 0) : (toU64 t : Int) = 2 ^ 64 + t := by
  unfold toU64
  omega

theorem toUInt64_toNat (t : Int64) : t.toUInt64.toNat = toU64 t.toInt := by
  have hcond : t.toInt = if 2 * t.toUInt64.toNat < 2 ^ 64 then (t.toUInt64.toNat : Int)
      else (t.toUInt64.toNat : Int) - (2 ^ 64 : Nat) := BitVec.toInt_eq_toNat_cond t.toBitVec
  have hsmall : t.toUInt64.toNat < 2 ^ 64 := UInt64.toNat_lt t.toUInt64
  unfold toU64
  split at hcond <;> omega

/-! ### The loop -/

/-- The loop looks for the first time of the grid that is large enough as an unsigned
    number. -/
theorem appliedTimeLoop_some {period desired : Nat} {start t : Int}
    (h : appliedTimeLoop period desired start = some t) :
    Grid start period t ∧ desired ≤ toU64 t ∧
      (∀ u, Grid start period u → u < t → toU64 u < desired) ∧ (start < 2 ^ 63 → t < 2 ^ 63) := by
  fun_induction appliedTimeLoop period desired start with
  | case1 start hless hstep ih =>
    obtain ⟨hgrid, hreach, hfirst, hrange⟩ := ih h
    refine ⟨hgrid.later, hreach, ?_, fun _ => hrange hstep.2⟩
    intro u hu hlt
    rcases hu.cases with rfl | hlater
    · exact hless
    · exact hfirst u hlater hlt
  | case2 start hless hstop => cases h
  | case3 start hdone =>
    cases h
    refine ⟨Grid.start t period, Nat.le_of_not_lt hdone, ?_, fun hlt => hlt⟩
    intro u hu hlt
    exact absurd hu.start_le (Int.not_le.mpr hlt)

/-- A time of the grid that is large enough and in range is found. -/
theorem appliedTimeLoop_found {period desired : Nat} {start u : Int}
    (hu : Grid start period u) (hlarge : desired ≤ toU64 u) (hrange : u < 2 ^ 63) :
    ∃ t, appliedTimeLoop period desired start = some t ∧ t ≤ u := by
  fun_induction appliedTimeLoop period desired start with
  | case1 start hless hstep ih =>
    rcases hu.cases with rfl | hlater
    · exact absurd hless (Nat.not_lt.mpr hlarge)
    · exact ih hlater
  | case2 start hless hstop =>
    exfalso
    rcases hu.cases with rfl | hlater
    · exact absurd hless (Nat.not_lt.mpr hlarge)
    · have hle := hlater.start_le
      by_cases hperiod : period = 0
      · obtain ⟨k, rfl⟩ := hu
        rw [hperiod] at hlarge
        simp only [Int.natCast_zero, Int.mul_zero, Int.add_zero] at hlarge
        exact absurd hless (Nat.not_lt.mpr hlarge)
      · exact hstop ⟨Nat.pos_of_ne_zero hperiod, by omega⟩
  | case3 start hdone => exact ⟨start, rfl, hu.start_le⟩

/-- Where the machine loop ends, the loop over unbounded times ends with the same time. -/
theorem appliedTimeLoop_unbounded {period desired start : Nat} {t : Int}
    (h : appliedTimeLoop period desired start = some t) :
    ActiveConfig.appliedTimeLoop period desired start = some t.toNat := by
  generalize hs : (start : Int) = s at h
  fun_induction appliedTimeLoop period desired s generalizing start with
  | case1 s hless hstep ih =>
    subst hs
    have hsame := toU64_nonneg (Int.natCast_nonneg start) (by omega)
    unfold ActiveConfig.appliedTimeLoop
    rw [dif_pos (by omega), dif_pos hstep.1]
    exact ih (Int.natCast_add start period) h
  | case2 s hless hstop => cases h
  | case3 s hdone =>
    cases h
    subst hs
    have hle : toU64 start ≤ start := by
      unfold toU64
      omega
    unfold ActiveConfig.appliedTimeLoop
    rw [dif_neg (by omega)]
    rfl

/-! ### When the two times are right -/

/-- Both times lie on the same side of zero, the grid has a time there that is not
    before the desired one, and neither the product nor the subtraction leaves its
    type. -/
structure InRange (period transient : Nat) (desired start : Int) : Prop where
  sameSide : 0 ≤ desired ↔ 0 ≤ start
  reached : ∃ t ∈ NotBefore start period desired, t < 2 ^ 63 ∧ (0 ≤ desired ↔ 0 ≤ t)
  product : transient * period < 2 ^ 32
  room : ∀ t ∈ NotBefore start period desired, -2 ^ 63 + transient * period ≤ t

/-- The order of two times of one sign is the order of the unsigned numbers. -/
theorem toU64_le {s t : Int} (hs : -2 ^ 63 ≤ s) (hs' : s < 2 ^ 63) (ht : -2 ^ 63 ≤ t)
    (ht' : t < 2 ^ 63) (hside : 0 ≤ s ↔ 0 ≤ t) : toU64 s ≤ toU64 t ↔ s ≤ t := by
  by_cases hpos : 0 ≤ s
  · have h1 := toU64_nonneg hpos hs'
    have h2 := toU64_nonneg (hside.mp hpos) ht'
    omega
  · have hneg : t < 0 := Int.not_le.mp (fun h => hpos (hside.mpr h))
    have h1 := toU64_neg hs (Int.not_le.mp hpos)
    have h2 := toU64_neg ht hneg
    omega

/-- The loop ends with the least time wanted exactly if the times are on one side of
    zero and such a time exists there. -/
theorem appliedTimeLoop_least {period : Nat} {desired start : Int} (hd : -2 ^ 63 ≤ desired)
    (hd' : desired < 2 ^ 63) (hs : -2 ^ 63 ≤ start) (hs' : start < 2 ^ 63) :
    (∃ m, appliedTimeLoop period (toU64 desired) start = some m ∧
        IsLeast (NotBefore start period desired) m) ↔
      (0 ≤ desired ↔ 0 ≤ start) ∧
        ∃ t ∈ NotBefore start period desired, t < 2 ^ 63 ∧ (0 ≤ desired ↔ 0 ≤ t) := by
  constructor
  · rintro ⟨m, hloop, ⟨hgrid, hle⟩, hleast⟩
    obtain ⟨-, hreach, hfirst, hrange⟩ := appliedTimeLoop_some hloop
    have hm := hrange hs'
    have hstart := hgrid.start_le
    have hside : 0 ≤ desired ↔ 0 ≤ m := by
      constructor
      · intro hpos
        omega
      · intro hpos
        by_contra hneg
        have h1 := toU64_neg hd (Int.not_le.mp hneg)
        have h2 := toU64_nonneg hpos hm
        omega
    refine ⟨⟨fun hpos => ?_, fun hpos => hside.mpr (Int.le_trans hpos hstart)⟩,
      m, ⟨hgrid, hle⟩, hm, hside⟩
    by_contra hneg
    have hlt := hfirst start (Grid.start start period) (by omega)
    have h1 := toU64_neg hs (Int.not_le.mp hneg)
    have h2 := toU64_nonneg hpos hd'
    omega
  · rintro ⟨hside, u, ⟨hu, hdu⟩, hu', huside⟩
    have hstart := hu.start_le
    obtain ⟨m, hloop, hmu⟩ := appliedTimeLoop_found hu
      ((toU64_le hd hd' (Int.le_trans hs hstart) hu' huside).mpr hdu) hu'
    obtain ⟨hgrid, hreach, hfirst, hrange⟩ := appliedTimeLoop_some hloop
    have hm := hrange hs'
    have hsm := hgrid.start_le
    have hmside : 0 ≤ desired ↔ 0 ≤ m :=
      ⟨fun hpos => Int.le_trans (hside.mp hpos) hsm, fun hpos => huside.mpr (Int.le_trans hpos hmu)⟩
    refine ⟨m, hloop, ⟨hgrid, (toU64_le hd hd' (Int.le_trans hs hsm) hm hmside).mp hreach⟩, ?_⟩
    rintro t ⟨ht, hdt⟩
    by_contra hlt
    have hst := ht.start_le
    have htm : t < m := Int.not_le.mp hlt
    have htside : 0 ≤ desired ↔ 0 ≤ t :=
      ⟨fun hpos => Int.le_trans hpos hdt,
        fun hpos => hmside.mpr (Int.le_trans hpos (Int.le_of_lt htm))⟩
    have hlarge := (toU64_le hd hd' (Int.le_trans hs hst) (Int.lt_trans htm hm) htside).mpr hdt
    exact absurd (hfirst t ht htm) (Nat.not_lt.mpr hlarge)

theorem getConfigAppliedTime_some {mVsyncPeriod transientDuration : UInt32}
    {desiredTime actualChangeTime : Int64} {times : Int × Int}
    (h : getConfigAppliedTime mVsyncPeriod transientDuration desiredTime.toUInt64
      actualChangeTime.toUInt64 = some times) :
    appliedTimeLoop mVsyncPeriod.toNat (toU64 desiredTime.toInt) actualChangeTime.toInt =
        some times.1 ∧
      -2 ^ 63 ≤ times.2 ∧ times.2 = times.1 - ((transientDuration * mVsyncPeriod).toNat : Int) := by
  unfold getConfigAppliedTime at h
  rw [toUInt64_toNat, Int64.toInt64_toUInt64] at h
  split at h
  · rename_i appliedTime hloop
    dsimp only at h
    split at h
    · rename_i hroom
      cases h
      exact ⟨hloop, hroom, rfl⟩
    · cases h
  · cases h

theorem getConfigAppliedTime_of_loop {mVsyncPeriod transientDuration : UInt32}
    {desiredTime actualChangeTime : Int64} {m : Int}
    (hloop : appliedTimeLoop mVsyncPeriod.toNat (toU64 desiredTime.toInt) actualChangeTime.toInt =
      some m)
    (hroom : -2 ^ 63 ≤ m - ((transientDuration * mVsyncPeriod).toNat : Int)) :
    getConfigAppliedTime mVsyncPeriod transientDuration desiredTime.toUInt64
        actualChangeTime.toUInt64 =
      some (m, m - ((transientDuration * mVsyncPeriod).toNat : Int)) := by
  unfold getConfigAppliedTime
  rw [toUInt64_toNat, Int64.toInt64_toUInt64, hloop]
  exact if_pos hroom

/-- **When the applied time is the least one.**  For every period, transient duration,
    desired time and time of the change, the two times are the expected ones if and only
    if everything stays in range. -/
theorem configAppliedTime_expected (mVsyncPeriod transientDuration : UInt32)
    (desiredTime actualChangeTime : Int64) :
    (∃ times, getConfigAppliedTime mVsyncPeriod transientDuration desiredTime.toUInt64
        actualChangeTime.toUInt64 = some times ∧
      Expected actualChangeTime.toInt mVsyncPeriod.toNat transientDuration.toNat
        desiredTime.toInt times) ↔
    InRange mVsyncPeriod.toNat transientDuration.toNat desiredTime.toInt actualChangeTime.toInt := by
  have hleast := @appliedTimeLoop_least mVsyncPeriod.toNat desiredTime.toInt
    actualChangeTime.toInt (Int64.le_toInt desiredTime) (Int64.toInt_lt desiredTime)
    (Int64.le_toInt actualChangeTime) (Int64.toInt_lt actualChangeTime)
  constructor
  · rintro ⟨times, hrun, hmin, hrefresh⟩
    obtain ⟨hloop, hroom, hsub⟩ := getConfigAppliedTime_some hrun
    obtain ⟨hside, hreached⟩ := hleast.mp ⟨times.1, hloop, hmin⟩
    have hproduct : (transientDuration * mVsyncPeriod).toNat =
        transientDuration.toNat * mVsyncPeriod.toNat := by
      have heq := hsub.symm.trans hrefresh
      have hcast : ((transientDuration * mVsyncPeriod).toNat : Int) =
          (transientDuration.toNat * mVsyncPeriod.toNat : Nat) := by
        rw [Int.natCast_mul]
        omega
      exact Int.ofNat.inj hcast
    refine ⟨hside, hreached, ?_, ?_⟩
    · rw [← hproduct]
      exact UInt32.toNat_lt _
    · intro t ht
      have hle := hmin.2 ht
      rw [hrefresh] at hroom
      omega
  · rintro ⟨hside, hreached, hproduct, hroom⟩
    obtain ⟨m, hloop, hmin⟩ := hleast.mpr ⟨hside, hreached⟩
    have hsmall : (transientDuration * mVsyncPeriod).toNat =
        transientDuration.toNat * mVsyncPeriod.toNat := by
      rw [UInt32.toNat_mul]
      exact Nat.mod_eq_of_lt hproduct
    refine ⟨(m, m - ((transientDuration * mVsyncPeriod).toNat : Int)), ?_, hmin, ?_⟩
    · have hm := hroom m hmin.1
      apply getConfigAppliedTime_of_loop hloop
      rw [hsmall, Int.natCast_mul]
      omega
    · rw [hsmall, Int.natCast_mul]

/-- A desired time before the clock's zero is compared as a time far in the future: at
    60 Hz and a change possible after one second the loop runs out of `int64_t`. -/
theorem appliedTime_negative :
    ¬ ∃ times, getConfigAppliedTime 16666666 2 (-1 : Int64).toUInt64
        (1000000000 : Int64).toUInt64 = some times ∧
      Expected 1000000000 16666666 2 (-1) times := by
  rintro ⟨times, hrun, -⟩
  have hloop : appliedTimeLoop 16666666 (toU64 (-1)) 1000000000 = some times.1 :=
    (getConfigAppliedTime_some hrun).1
  obtain ⟨hgrid, hreach, -, hrange⟩ := appliedTimeLoop_some hloop
  have hstart := hgrid.start_le
  have hsmall := toU64_nonneg (by omega) (hrange (by decide))
  have hlarge : toU64 (-1) = 2 ^ 64 - 1 := by decide
  have hlast := hrange (by decide)
  omega

-- At a period of 2.5 s twice the period does not fit into `uint32_t`.
example : getConfigAppliedTime 2500000000 2 (0 : Int64).toUInt64 (10000000000 : Int64).toUInt64 =
    some (10000000000, 9294967296) := by
  have hloop : appliedTimeLoop (2500000000 : UInt32).toNat (toU64 (0 : Int64).toInt)
      (10000000000 : Int64).toInt = some 10000000000 := by
    unfold appliedTimeLoop
    rw [dif_neg (by decide)]
    rfl
  exact getConfigAppliedTime_of_loop hloop (by decide)

end ExynosHal.AppliedTime
