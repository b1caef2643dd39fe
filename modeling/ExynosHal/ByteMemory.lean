/-
  ExynosHal/ByteMemory.lean
  =========================
  **Bytes at addresses.**

  A memory is a function from addresses to bytes.  Writing stores a list of bytes
  at consecutive addresses, reading returns one.  `Keeps` is the frame of a piece
  of code: it says where the memory may have changed.  Numbers are
  stored in a fixed number of bytes, in either order.
-/
import Mathlib.Algebra.Group.Nat.Defs

namespace ExynosHal.ByteMemory

abbrev Mem := Nat → UInt8

namespace Mem

/-- Store `bs` from address `a` on. -/
def write (m : Mem) (a : Nat) (bs : List UInt8) : Mem := fun x =>
  if x < a then m x else (bs[x - a]?).getD (m x)

/-- The `n` bytes from address `a` on. -/
def read (m : Mem) (a n : Nat) : List UInt8 := (List.range' a n).map m

/-- `memmove`: the source is read before anything is stored. -/
def move (m : Mem) (dst src n : Nat) : Mem := m.write dst (m.read src n)

/-- `memset`. -/
def fill (m : Mem) (a : Nat) (b : UInt8) (n : Nat) : Mem := m.write a (List.replicate n b)

/-! ### Writing -/

variable {m m' : Mem} {a b n : Nat} {bs cs : List UInt8}

theorem write_below {x : Nat} (h : x < a) : m.write a bs x = m x := if_pos h

theorem write_above {x : Nat} (h : a + bs.length ≤ x) : m.write a bs x = m x := by
  unfold write
  rw [if_neg (by omega), List.getElem?_eq_none (by omega)]
  rfl

theorem write_outside {x : Nat} (h : x < a ∨ a + bs.length ≤ x) : m.write a bs x = m x := by
  rcases h with h | h
  · exact write_below h
  · exact write_above h

theorem write_at {i : Nat} (h : i < bs.length) : m.write a bs (a + i) = bs[i] := by
  unfold write
  rw [if_neg (by omega), Nat.add_sub_cancel_left, List.getElem?_eq_getElem h]
  rfl

theorem write_at? {i : Nat} (h : i < bs.length) : some (m.write a bs (a + i)) = bs[i]? := by
  rw [write_at h, List.getElem?_eq_getElem h]

@[simp] theorem write_nil : m.write a [] = m := by
  funext x
  exact write_outside (by simp only [List.length_nil]; omega)

/-- Two writes in a row are one. -/
theorem write_append : m.write a (bs ++ cs) = (m.write a bs).write (a + bs.length) cs := by
  funext x
  by_cases hb : x < a + bs.length
  · rw [write_below hb]
    by_cases ha : x < a
    · rw [write_below ha, write_below ha]
    · obtain ⟨i, rfl⟩ := Nat.exists_eq_add_of_le (Nat.le_of_not_lt ha)
      have hi : i < bs.length := by omega
      rw [write_at hi, write_at (by rw [List.length_append]; omega), List.getElem_append_left hi]
  · by_cases hc : x < a + bs.length + cs.length
    · obtain ⟨i, rfl⟩ := Nat.exists_eq_add_of_le (Nat.le_of_not_lt hb)
      have hi : i < cs.length := by omega
      rw [write_at hi, Nat.add_assoc, write_at (by rw [List.length_append]; omega),
        List.getElem_append_right (by omega)]
      simp only [Nat.add_sub_cancel_left]
    · have hlen : a + (bs ++ cs).length ≤ x := by rw [List.length_append]; omega
      rw [write_above hlen, write_above (by omega), write_above (by omega)]

/-! ### Reading -/

@[simp] theorem read_length : (m.read a n).length = n := by simp [read]

@[simp] theorem read_zero : m.read a 0 = [] := rfl

theorem read_getElem {i : Nat} (h : i < n) : (m.read a n)[i]? = some (m (a + i)) := by
  simp [read, h]

theorem read_congr (h : ∀ x, a ≤ x → x < a + n → m' x = m x) : m'.read a n = m.read a n := by
  apply List.map_congr_left
  intro x hx
  rw [List.mem_range'_1] at hx
  exact h x hx.1 hx.2

/-- A range is what stands at its addresses. -/
theorem read_eq (hlen : bs.length = n) (h : ∀ i, i < n → some (m (a + i)) = bs[i]?) :
    m.read a n = bs := by
  apply List.ext_getElem?
  intro i
  by_cases hi : i < n
  · rw [read_getElem hi, h i hi]
  · rw [List.getElem?_eq_none (by rw [read_length]; omega), List.getElem?_eq_none (by omega)]

theorem read_add {k : Nat} : m.read a (n + k) = m.read a n ++ m.read (a + n) k := by
  simp only [read, ← List.map_append]
  rw [List.range'_append_1]

/-- What was written is read again. -/
@[simp] theorem read_write : (m.write a bs).read a bs.length = bs :=
  read_eq rfl fun _ hi => write_at? hi

theorem read_write_eq (h : bs.length = n) : (m.write a bs).read a n = bs := h ▸ read_write

theorem read_write_of_disjoint (h : b + n ≤ a ∨ a + bs.length ≤ b) :
    (m.write a bs).read b n = m.read b n :=
  read_congr fun x hx hxn => write_outside (by omega)

/-- Writing back what is there. -/
theorem write_read : m.write a (m.read a n) = m := by
  funext x
  by_cases h : x < a ∨ a + n ≤ x
  · exact write_outside (by rw [read_length]; exact h)
  · obtain ⟨i, rfl⟩ := Nat.exists_eq_add_of_le (show a ≤ x by omega)
    have hi : i < n := by omega
    have hat : some (m.write a (m.read a n) (a + i)) = (m.read a n)[i]? :=
      write_at? (by rwa [read_length])
    rw [read_getElem hi] at hat
    exact Option.some.inj hat

/-- A range that stands elsewhere in another memory. -/
theorem read_shift {d : Nat} (h : ∀ x, a ≤ x → x < a + n → m' (x + d) = m x) :
    m'.read (a + d) n = m.read a n := by
  refine read_eq read_length fun i hi => ?_
  rw [read_getElem hi, show a + d + i = a + i + d by omega, h (a + i) (by omega) (by omega)]

/-- What `memmove` leaves at its target. -/
theorem move_at {dst src x : Nat} (hx : src ≤ x) (hn : x < src + n) :
    m.move dst src n (x + dst - src) = m x := by
  obtain ⟨i, rfl⟩ := Nat.exists_eq_add_of_le hx
  have hi : i < (m.read src n).length := by rw [read_length]; omega
  have hat := write_at? (m := m) (a := dst) hi
  rw [read_getElem (by omega), Option.some.injEq] at hat
  rw [show src + i + dst - src = dst + i by omega]
  exact hat

theorem move_outside {dst src x : Nat} (h : x < dst ∨ dst + n ≤ x) : m.move dst src n x = m x :=
  write_outside (by rwa [read_length])

/-! ### Frames -/

/-- The memory `m'` is as `m` was but where it is `touched`. -/
def Keeps (m m' : Mem) (touched : Nat → Prop) : Prop := ∀ x, ¬ touched x → m' x = m x

variable {T T' : Nat → Prop} {m'' : Mem}

theorem Keeps.refl : Keeps m m T := fun _ _ => rfl

theorem Keeps.mono (h : Keeps m m' T) (hsub : ∀ x, T x → T' x) :
    Keeps m m' T' := fun x hx => h x fun ht => hx (hsub x ht)

theorem Keeps.trans (h : Keeps m m' T) (h' : Keeps m' m'' T) : Keeps m m'' T :=
  fun x hx => (h' x hx).trans (h x hx)

theorem keeps_write (h : ∀ x, a ≤ x → x < a + bs.length → T x) :
    Keeps m (m.write a bs) T := by
  intro x hx
  refine write_outside ?_
  by_cases hlo : x < a
  · exact .inl hlo
  · exact .inr (Nat.le_of_not_lt fun hhi => hx (h x (Nat.le_of_not_lt hlo) hhi))

/-- The same write on both sides hides what it covers. -/
theorem Keeps.write (h : Keeps m m' T)
    (hsub : ∀ x, T x → T' x ∨ a ≤ x ∧ x < a + bs.length) :
    Keeps (m.write a bs) (m'.write a bs) T' := by
  intro x hx
  by_cases hin : a ≤ x ∧ x < a + bs.length
  · obtain ⟨i, rfl⟩ := Nat.exists_eq_add_of_le hin.1
    rw [write_at (by omega), write_at (by omega)]
  · rw [write_outside (by omega), write_outside (by omega)]
    refine h x fun ht => ?_
    rcases hsub x ht with ht' | hcov
    · exact hx ht'
    · exact hin hcov

/-- The same `memmove` on both sides takes the difference along. -/
theorem Keeps.move {dst src : Nat} (h : Keeps m m' T)
    (hmoved : ∀ x, src ≤ x → x < src + n → T x → T' (x + dst - src))
    (hrest : ∀ x, x < dst ∨ dst + n ≤ x → T x → T' x) :
    Keeps (m.move dst src n) (m'.move dst src n) T' := by
  intro x hx
  by_cases hin : x < dst ∨ dst + n ≤ x
  · rw [move_outside hin, move_outside hin]
    exact h x fun ht => hx (hrest x hin ht)
  · have hsrc : x = (x + src - dst) + dst - src := by omega
    rw [hsrc, move_at (by omega) (by omega), move_at (by omega) (by omega)]
    refine h _ fun ht => hx ?_
    rw [hsrc]
    exact hmoved _ (by omega) (by omega) ht

theorem Keeps.read (h : Keeps m m' T) (hd : ∀ x, a ≤ x → x < a + n → ¬ T x) :
    m'.read a n = m.read a n := read_congr fun x hx hxn => h x (hd x hx hxn)

end Mem

/-! ### Numbers -/

/-- The `k` bytes of a number, the lowest first. -/
def le : Nat → Nat → List UInt8
  | 0, _ => []
  | k + 1, n => UInt8.ofNat n :: le k (n / 256)

def ofLe : List UInt8 → Nat
  | [] => 0
  | b :: bs => b.toNat + 256 * ofLe bs

/-- The `k` bytes of a number, the highest first. -/
def be (k n : Nat) : List UInt8 := (le k n).reverse

def ofBe (bs : List UInt8) : Nat := ofLe bs.reverse

@[simp] theorem le_length (k n : Nat) : (le k n).length = k := by
  induction k generalizing n with
  | zero => rfl
  | succ k ih => rw [le, List.length_cons, ih]

@[simp] theorem be_length (k n : Nat) : (be k n).length = k := by
  rw [be, List.length_reverse, le_length]

/-- A number that is stored is read again, less what does not fit. -/
theorem ofLe_le (k n : Nat) : ofLe (le k n) = n % 256 ^ k := by
  induction k generalizing n with
  | zero => rw [le, ofLe, Nat.pow_zero, Nat.mod_one]
  | succ k ih =>
    rw [le, ofLe, ih, Nat.pow_succ', Nat.mod_mul, UInt8.toNat_ofNat']

theorem ofBe_be (k n : Nat) : ofBe (be k n) = n % 256 ^ k := by
  rw [ofBe, be, List.reverse_reverse, ofLe_le]

theorem ofLe_lt (bs : List UInt8) : ofLe bs < 256 ^ bs.length := by
  induction bs with
  | nil => decide
  | cons b bs ih =>
    have hb : b.toNat < 256 := b.toNat_lt
    rw [ofLe, List.length_cons, Nat.pow_succ]
    omega

theorem ofBe_lt (bs : List UInt8) : ofBe bs < 256 ^ bs.length := by
  have h := ofLe_lt bs.reverse
  rwa [List.length_reverse] at h

/-- A number that is read is stored as it was. -/
theorem le_ofLe (bs : List UInt8) : le bs.length (ofLe bs) = bs := by
  induction bs with
  | nil => rfl
  | cons b bs ih =>
    have hb : b.toNat < 256 := b.toNat_lt
    rw [List.length_cons, le, ofLe, Nat.add_mul_div_left _ _ (by decide),
      Nat.div_eq_of_lt hb, Nat.zero_add, ih]
    congr 1
    apply UInt8.toNat_inj.mp
    rw [UInt8.toNat_ofNat']
    omega

theorem be_ofBe (bs : List UInt8) : be bs.length (ofBe bs) = bs := by
  have h := le_ofLe bs.reverse
  rw [List.length_reverse] at h
  rw [be, ofBe, h, List.reverse_reverse]

/-- Only what fits is stored. -/
theorem le_mod (k n : Nat) : le k (n % 256 ^ k) = le k n := by
  have h := le_ofLe (le k n)
  rwa [ofLe_le, le_length] at h

end ExynosHal.ByteMemory
