/-
  ExynosHal/Crc.lean
  ==================
  **Cyclic redundancy checks, most significant bit first.**

  A register of `w` bits is shifted to the left for every bit of the message; where the bit
  that leaves differs from the bit that comes, `poly` is added.  Three readings of it meet
  here.

  * One bit after the other (`feedAll`), which is the definition.
  * `k` bits at once from a table (`feedAll_bitsOf`), because a shift is linear.
  * The remainder of a division of polynomials over two elements (`value_feedAll`).

  Where the lowest bit of `poly` is set, a shift loses nothing (`shift_injective`).  Then two
  messages that differ in a window of `w` bits only end in different registers.
-/
import Mathlib.Algebra.Polynomial.Div
import Mathlib.Algebra.Field.ZMod
import Mathlib.Algebra.CharP.Two
import Mathlib.Data.BitVec
import Mathlib.Tactic.LinearCombination

namespace ExynosHal.Crc

open Polynomial

variable {w : Nat}

/-! ### The register -/

section Register

variable (poly : BitVec w)

/-- A bit that does not come from the message. -/
def shift (s : BitVec w) : BitVec w := (s <<< 1) ^^^ if s.msb then poly else 0#w

def shifts : Nat → BitVec w → BitVec w
  | 0, s => s
  | n + 1, s => shifts n (shift poly s)

/-- A bit of the message. -/
def feed (s : BitVec w) (b : Bool) : BitVec w := (s <<< 1) ^^^ if s.msb ^^ b then poly else 0#w

def feedAll (s : BitVec w) (bs : List Bool) : BitVec w := bs.foldl (feed poly) s

/-- The bits of a message, from the most significant bit of a register on. -/
def place (w : Nat) (bs : List Bool) : BitVec w :=
  (BitVec.ofBoolListBE bs).setWidth w <<< (w - bs.length)

/-- The bits of a word as a message. -/
def bitsOf {k : Nat} (x : BitVec k) : List Bool := (List.range k).map x.getMsbD

variable {poly} {s t : BitVec w} {bs cs : List Bool}

@[simp] theorem feedAll_nil : feedAll poly s [] = s := rfl

@[simp] theorem feedAll_cons {b : Bool} :
    feedAll poly s (b :: bs) = feedAll poly (feed poly s b) bs := rfl

@[simp] theorem feedAll_append :
    feedAll poly s (bs ++ cs) = feedAll poly (feedAll poly s bs) cs := List.foldl_append

@[simp] theorem length_bitsOf {k : Nat} (x : BitVec k) : (bitsOf x).length = k := by
  simp [bitsOf]

theorem getMsbD_place (h : bs.length ≤ w) (i : Nat) :
    (place w bs).getMsbD i = bs.getD i false := by
  by_cases hi : i < bs.length
  · simp only [place, BitVec.getMsbD_shiftLeft, BitVec.getMsbD_setWidth,
      BitVec.getMsbD_ofBoolListBE]
    rw [show i + (w - bs.length) + bs.length - w = i by omega]
    simp
  · have hnone : bs.getD i false = false := by simp [not_lt.mp hi]
    simp only [place, BitVec.getMsbD_shiftLeft, BitVec.getMsbD_setWidth,
      BitVec.getMsbD_ofBoolListBE]
    rw [show i + (w - bs.length) + bs.length - w = i by omega, hnone]
    simp

theorem place_bitsOf {k : Nat} (h : k ≤ w) (x : BitVec k) :
    place w (bitsOf x) = x.setWidth w <<< (w - k) := by
  apply BitVec.eq_of_getMsbD_eq
  intro i hi
  rw [getMsbD_place (by simpa using h)]
  simp only [bitsOf, BitVec.getMsbD_shiftLeft, BitVec.getMsbD_setWidth]
  by_cases hik : i < k
  · have hpos : i + (w - k) + k - w = i := by omega
    simp [hik, hpos]
  · have hpos : i + (w - k) + k - w = i := by omega
    simp [hik, hpos, BitVec.getMsbD_of_ge x i (not_lt.mp hik)]

theorem place_injective (h : bs.length ≤ w) (hlen : bs.length = cs.length)
    (heq : place w bs = place w cs) : bs = cs := by
  refine List.ext_getElem hlen fun i hi hi' => ?_
  have hbit : (place w bs).getMsbD i = (place w cs).getMsbD i := by rw [heq]
  rw [getMsbD_place h, getMsbD_place (hlen ▸ h)] at hbit
  simpa [List.getD, hi, hi'] using hbit

/-! ### A shift is linear -/

theorem shift_xor : shift poly (s ^^^ t) = shift poly s ^^^ shift poly t := by
  apply BitVec.eq_of_getMsbD_eq
  intro i _
  cases hs : s.msb <;> cases ht : t.msb <;> simp only [shift, BitVec.msb_xor, hs, ht,
    BitVec.getMsbD_xor, BitVec.getMsbD_shiftLeft] <;>
    cases s.getMsbD (i + 1) <;> cases t.getMsbD (i + 1) <;> cases poly.getMsbD i <;> simp

theorem shifts_xor (n : Nat) : shifts poly n (s ^^^ t) = shifts poly n s ^^^ shifts poly n t := by
  induction n generalizing s t with
  | zero => rfl
  | succ n ih => rw [shifts, shift_xor, ih]; rfl

/-- A register whose upper `n` bits are clear only moves. -/
theorem shifts_of_clear {n : Nat} (h : ∀ i < n, s.getMsbD i = false) :
    shifts poly n s = s <<< n := by
  induction n generalizing s with
  | zero => simp [shifts]
  | succ n ih =>
      have hmsb : s.msb = false := by simpa [BitVec.msb_eq_getMsbD_zero] using h 0 (by simp)
      have hshift : shift poly s = s <<< 1 := by simp [shift, hmsb]
      rw [shifts, hshift, ih]
      · rw [← BitVec.shiftLeft_add, Nat.add_comm]
      · intro i hi
        simpa using h (i + 1) (by omega)

theorem feed_eq (hw : 0 < w) {b : Bool} : feed poly s b = shift poly (s ^^^ place w [b]) := by
  have hmsb : (place w [b]).msb = b := by
    rw [BitVec.msb_eq_getMsbD_zero, getMsbD_place hw]; rfl
  have hmove : place w [b] <<< 1 = 0#w := by
    apply BitVec.eq_of_getMsbD_eq
    intro i _
    rw [BitVec.getMsbD_shiftLeft, getMsbD_place hw]
    simp
  simp [feed, shift, BitVec.shiftLeft_xor_distrib, hmove, hmsb]

/-- Up to `w` bits can be added to the register first and shifted out then. -/
theorem feedAll_eq (h : bs.length ≤ w) :
    feedAll poly s bs = shifts poly bs.length (s ^^^ place w bs) := by
  induction bs generalizing s with
  | nil =>
      have hzero : place w [] = 0#w := by
        apply BitVec.eq_of_getMsbD_eq
        intro i _
        rw [getMsbD_place h]
        simp
      simp [shifts, hzero]
  | cons b bs ih =>
      have hlen : bs.length < w := h
      have hone : [b].length ≤ w := by simp; omega
      have hsplit : place w (b :: bs) = place w [b] ^^^ (place w bs >>> 1) := by
        apply BitVec.eq_of_getMsbD_eq
        intro i hi
        rw [BitVec.getMsbD_xor, BitVec.getMsbD_ushiftRight, getMsbD_place h,
          getMsbD_place hone, getMsbD_place hlen.le]
        cases i <;> simp [hi]
      have hmove : shift poly (place w bs >>> 1) = place w bs := by
        have hmsb : (place w bs >>> 1).msb = false := by
          simp [BitVec.msb_eq_getMsbD_zero, BitVec.getMsbD_ushiftRight]
        apply BitVec.eq_of_getMsbD_eq
        intro i hi
        by_cases hlast : i + 1 < w
        · simp [shift, hmsb, BitVec.getMsbD_ushiftRight, hlast]
        · have hend : bs.length ≤ i := by omega
          have hnone : bs.getD i false = false := by simp [hend]
          rw [getMsbD_place hlen.le, hnone]
          simp [shift, hmsb, BitVec.getMsbD_ushiftRight, hlast]
      rw [feedAll_cons, ih hlen.le, feed_eq (by omega), hsplit, ← BitVec.xor_assoc,
        List.length_cons, shifts, shift_xor (t := place w bs >>> 1), hmove]

/-- **The table.**  `k` bits of the message at once: the upper `k` bits of the register and
    those of the message choose the entry, the others move up. -/
theorem feedAll_bitsOf {k : Nat} (h : k ≤ w) (x : BitVec k) :
    feedAll poly s (bitsOf x) =
      (s <<< k) ^^^ shifts poly k (((s >>> (w - k)) ^^^ x.setWidth w) <<< (w - k)) := by
  have hsplit : s ^^^ x.setWidth w <<< (w - k) =
      (s <<< k) >>> k ^^^ (((s >>> (w - k)) ^^^ x.setWidth w) <<< (w - k)) := by
    apply BitVec.eq_of_getMsbD_eq
    intro i hi
    rw [BitVec.shiftLeft_xor_distrib, ← BitVec.xor_assoc, BitVec.getMsbD_xor,
      BitVec.getMsbD_xor]
    congr 1
    by_cases hik : i < k
    · have hin : i + (w - k) < w := by omega
      simp [BitVec.getMsbD_ushiftRight, hi, hik, hin]
    · have hout : ¬ i + (w - k) < w := by omega
      have hback : i - k + k = i := by omega
      simp [BitVec.getMsbD_ushiftRight, hi, hik, hout, hback]
  have hclear : ∀ i < k, ((s <<< k) >>> k).getMsbD i = false := by
    intro i hik
    simp [BitVec.getMsbD_ushiftRight, hik]
  have hmoves : (s <<< k) >>> k <<< k = s <<< k := by
    apply BitVec.eq_of_getMsbD_eq
    intro i hi
    by_cases hin : i + k < w
    · simp [BitVec.getMsbD_ushiftRight, hin]
    · simp [BitVec.getMsbD_ushiftRight, hin, BitVec.getMsbD_of_ge s (i + k) (not_lt.mp hin)]
  rw [feedAll_eq (by simpa using h), length_bitsOf, place_bitsOf h, hsplit, shifts_xor,
    shifts_of_clear hclear, hmoves]

/-- **The residue.**  A register that is fed its own bits is empty. -/
theorem feedAll_self : feedAll poly s (bitsOf s) = 0#w := by
  have hzero : ∀ n, shifts poly n (0#w) = 0#w := by
    intro n
    rw [shifts_of_clear (by simp), BitVec.zero_shiftLeft]
  rw [feedAll_eq (by simp), length_bitsOf, place_bitsOf le_rfl]
  simp [hzero]

end Register

/-! ### What is detected -/

section Detection

variable {poly s t : BitVec w} {bs cs : List Bool}

/-- A shift loses nothing where the lowest bit of `poly` is set. -/
theorem shift_injective (hodd : poly.getMsbD (w - 1) = true) :
    Function.Injective (shift poly) := by
  intro s t heq
  have hlow : (shift poly s).getMsbD (w - 1) = (shift poly t).getMsbD (w - 1) := by rw [heq]
  have hmsb : s.msb = t.msb := by
    have hout : w ≤ w - 1 + 1 := by omega
    cases hs : s.msb <;> cases ht : t.msb <;>
      simp [shift, hs, ht, hodd, BitVec.getMsbD_of_ge s _ hout,
        BitVec.getMsbD_of_ge t _ hout] at hlow ⊢
  apply BitVec.eq_of_getMsbD_eq
  intro i hi
  cases i with
  | zero => simpa [BitVec.msb_eq_getMsbD_zero] using hmsb
  | succ i =>
      have hbit : (shift poly s).getMsbD i = (shift poly t).getMsbD i := by rw [heq]
      simpa [shift, hmsb] using hbit

theorem shifts_injective (hodd : poly.getMsbD (w - 1) = true) (n : Nat) :
    Function.Injective (shifts poly n) := by
  induction n with
  | zero => exact Function.injective_id
  | succ n ih => exact ih.comp (shift_injective hodd)

/-- The same message does not bring two registers together. -/
theorem feedAll_injective (hw : 0 < w) (hodd : poly.getMsbD (w - 1) = true) (bs : List Bool) :
    Function.Injective fun s => feedAll poly s bs := by
  induction bs with
  | nil => exact Function.injective_id
  | cons b bs ih =>
      intro s t heq
      have hfeed : feed poly s b = feed poly t b := ih heq
      rw [feed_eq hw, feed_eq hw] at hfeed
      exact (BitVec.xor_left_inj _).mp (shift_injective hodd hfeed)

/-- **Bursts are detected.**  Two messages that are different in a window of at most `w`
    bits, and the same before it and after it, end in different registers. -/
theorem feedAll_burst (hw : 0 < w) (hodd : poly.getMsbD (w - 1) = true) {before after : List Bool}
    (hlen : bs.length = cs.length) (hwindow : bs.length ≤ w) (hne : bs ≠ cs) :
    feedAll poly s (before ++ bs ++ after) ≠ feedAll poly s (before ++ cs ++ after) := by
  intro heq
  simp only [feedAll_append] at heq
  have hmid := feedAll_injective hw hodd after heq
  have hwindow' : cs.length ≤ w := hlen ▸ hwindow
  simp only [feedAll_eq hwindow, feedAll_eq hwindow', ← hlen] at hmid
  have hplace := (BitVec.xor_right_inj _).mp (shifts_injective hodd _ hmid)
  exact hne (place_injective hwindow hlen hplace)

end Detection

/-! ### The remainder of a division -/

section Division

/-- A bit as an element of the field of two elements. -/
def bit (b : Bool) : ZMod 2 := if b then 1 else 0

theorem bit_xor (a b : Bool) : bit (a ^^ b) = bit a + bit b := by
  revert a b; decide

/-- The polynomial whose coefficients are the bits of a register. -/
noncomputable def value (s : BitVec w) : (ZMod 2)[X] :=
  ∑ i ∈ Finset.range w, C (bit (s.getLsbD i)) * X ^ i

/-- The polynomial whose coefficients are the bits of a message, the first bit first. -/
noncomputable def message : List Bool → (ZMod 2)[X]
  | [] => 0
  | b :: bs => C (bit b) * X ^ bs.length + message bs

/-- The divisor: `poly` and the power that a register has no bit for. -/
noncomputable def generator (poly : BitVec w) : (ZMod 2)[X] := X ^ w + value poly

variable {poly s t : BitVec w} {bs : List Bool}

theorem coeff_value (i : Nat) : (value s).coeff i = bit (s.getLsbD i) := by
  simp only [value, finsetSum_coeff, coeff_C_mul_X_pow]
  by_cases hi : i < w
  · simp [Finset.sum_ite_eq, hi]
  · simp [Finset.sum_ite_eq, hi, BitVec.getLsbD_of_ge s i (not_lt.mp hi), bit]

theorem degree_value : (value s).degree < w := by
  rw [degree_lt_iff_coeff_zero]
  intro i hi
  simp [coeff_value, BitVec.getLsbD_of_ge s i hi, bit]

theorem monic_generator : (generator poly).Monic := monic_X_pow_add degree_value

theorem degree_generator : (generator poly).degree = w := by
  have hlt : (value poly).degree < (X ^ w : (ZMod 2)[X]).degree := by
    simpa using degree_value
  rw [generator, degree_add_eq_left_of_degree_lt hlt, degree_X_pow]

theorem value_xor : value (s ^^^ t) = value s + value t := by
  ext i
  simp [coeff_value, bit_xor]

theorem value_ite (b : Bool) : value (if b then poly else 0#w) = C (bit b) * value poly := by
  ext i
  cases b <;> simp [coeff_value, bit]

/-- To move up is to multiply by `X`; the bit that leaves is the power `w`. -/
theorem value_shiftLeft (hw : 0 < w) :
    value (s <<< 1) + C (bit s.msb) * X ^ w = X * value s := by
  ext i
  cases i with
  | zero =>
      simp only [coeff_add, coeff_value, coeff_C_mul_X_pow, coeff_X_mul_zero]
      simp [hw.ne, bit]
  | succ i =>
      simp only [coeff_add, coeff_value, coeff_C_mul_X_pow, coeff_X_mul]
      rcases lt_trichotomy (i + 1) w with hlt | heq | hgt
      · simp only [BitVec.getLsbD_shiftLeft, hlt, hlt.ne]
        simp
      · have hlast : w - 1 = i := by omega
        have hmsb : s.msb = s.getLsbD i := by
          rw [BitVec.msb_eq_getLsbD_last, hlast]
        simp [heq, hmsb, bit]
      · have hnone : s.getLsbD i = false := BitVec.getLsbD_of_ge s i (by omega)
        simp [hgt.ne', hnone, BitVec.getLsbD_shiftLeft, bit]

theorem value_feed (hw : 0 < w) (b : Bool) :
    value (feed poly s b) + generator poly * C (bit (s.msb ^^ b)) =
      X * value s + C (bit b) * X ^ w := by
  have htwo : (2 : (ZMod 2)[X]) = 0 := CharTwo.two_eq_zero
  have hmove := value_shiftLeft (s := s) hw
  rw [feed, value_xor, value_ite, generator, bit_xor, C_add]
  linear_combination hmove + (C (bit s.msb) + C (bit b)) * value poly * htwo

/-- **The register is the remainder.**  The message, followed by `w` zeros, with the first
    register over its first bits, divided by the generator. -/
theorem value_feedAll (hw : 0 < w) :
    value (feedAll poly s bs) =
      (value s * X ^ bs.length + message bs * X ^ w) %ₘ generator poly := by
  have hquot : ∃ q, value (feedAll poly s bs) + generator poly * q =
      value s * X ^ bs.length + message bs * X ^ w := by
    induction bs generalizing s with
    | nil => exact ⟨0, by simp [message]⟩
    | cons b bs ih =>
        obtain ⟨q, hq⟩ := ih (s := feed poly s b)
        have hstep : value (feed poly s b) + generator poly * C (bit (s.msb ^^ b)) =
            X * value s + C (bit b) * X ^ w := value_feed hw b
        refine ⟨q + C (bit (s.msb ^^ b)) * X ^ bs.length, ?_⟩
        rw [feedAll_cons, message, List.length_cons, pow_succ]
        linear_combination hq + X ^ bs.length * hstep
  obtain ⟨q, hq⟩ := hquot
  refine (div_modByMonic_unique q _ monic_generator ⟨hq, ?_⟩).2.symm
  rw [degree_generator]
  exact degree_value

end Division

end ExynosHal.Crc
