/-
  ExynosHal/TiffDirectory.lean
  ============================
  **Image file directories in memory.**

  A directory is a count, a table of entries of twelve bytes and the offset of the
  next directory.  A value of at most four bytes stands in its entry, a longer one
  behind the table, at an offset from the start of the file.

  `readDirectory` reads a directory.  `DirectoryAt` says where each of its bytes is,
  the longer values one after the other behind the table, so that it survives every
  write elsewhere (`DirectoryAt.keeps`), and what is read follows from it
  (`DirectoryAt.read`).  `Put` is the contract of a writer with one cursor in the
  table and one in the values: pieces that follow each other compose (`Put.append`),
  and a complete table is a directory (`Put.directory`).
-/
import Mathlib.Algebra.GroupWithZero.Nat
import ExynosHal.ByteMemory

namespace ExynosHal.TiffDirectory

open ExynosHal.ByteMemory

/-- The number of bytes of one value of a type. -/
def typeSize : Nat → Nat
  | 1 => 1
  | 2 => 1
  | 3 => 2
  | 4 => 4
  | 5 => 8
  | 6 => 1
  | 7 => 1
  | 8 => 2
  | 9 => 4
  | 10 => 8
  | _ => 0

structure Entry where
  tag : Nat
  type : Nat
  count : Nat
  value : List UInt8
deriving DecidableEq, Repr

/-- The fields fit, and the value has the size that type and count say. -/
structure Entry.WellFormed (e : Entry) : Prop where
  tag : e.tag < 2 ^ 16
  type : e.type < 2 ^ 16
  count : e.count < 2 ^ 32
  value : e.value.length = typeSize e.type * e.count

/-! ### Reading -/

/-- The entry at `a` of the file that starts at `tiff`. -/
def readEntry (m : Mem) (tiff a : Nat) : Entry :=
  let type := ofLe (m.read (a + 2) 2)
  let count := ofLe (m.read (a + 4) 4)
  let size := typeSize type * count
  let pos := if size ≤ 4 then a + 8 else tiff + ofLe (m.read (a + 8) 4)
  ⟨ofLe (m.read a 2), type, count, m.read pos size⟩

/-- The entries of the directory at `p` and the offset of the next one. -/
def readDirectory (m : Mem) (tiff p : Nat) : List Entry × Nat :=
  let n := ofLe (m.read p 2)
  ((List.range n).map fun i => readEntry m tiff (p + 2 + 12 * i),
    ofLe (m.read (p + 2 + 12 * n) 4))

/-! ### Where the bytes are -/

/-- What a value of `n` bytes takes behind the table. -/
def outOfLine (n : Nat) : Nat := if 4 < n then n else 0

/-- What the values of some entries take behind the table. -/
def valuesSize (es : List Entry) : Nat := (es.map fun e => outOfLine e.value.length).sum

/-- What a directory takes. -/
def directorySize (es : List Entry) : Nat := 2 + 12 * es.length + 4 + valuesSize es

/-- Entry `e` stands at `a`, and its value, if it is long, at `v`. -/
structure EntryAt (m : Mem) (tiff v a : Nat) (e : Entry) : Prop where
  tag : m.read a 2 = le 2 e.tag
  type : m.read (a + 2) 2 = le 2 e.type
  count : m.read (a + 4) 4 = le 4 e.count
  short : e.value.length ≤ 4 → m.read (a + 8) e.value.length = e.value
  long : 4 < e.value.length →
    m.read (a + 8) 4 = le 4 (v - tiff) ∧ m.read v e.value.length = e.value

/-- The directory `es` stands at `p`: its table, then the long values in their order. -/
structure DirectoryAt (m : Mem) (tiff p : Nat) (es : List Entry) (next : Nat) : Prop where
  count : m.read p 2 = le 2 es.length
  entry : ∀ i (h : i < es.length),
    EntryAt m tiff (p + 2 + 12 * es.length + 4 + valuesSize (es.take i)) (p + 2 + 12 * i) es[i]
  next : m.read (p + 2 + 12 * es.length) 4 = le 4 next

variable {m m' : Mem} {tiff v a p next : Nat} {e : Entry} {es fs : List Entry}
  {T : Nat → Prop}

theorem outOfLine_long {n : Nat} (h : 4 < n) : outOfLine n = n := if_pos h

theorem outOfLine_short {n : Nat} (h : n ≤ 4) : outOfLine n = 0 := if_neg (Nat.not_lt.mpr h)

@[simp] theorem valuesSize_nil : valuesSize [] = 0 := rfl

theorem valuesSize_cons (e : Entry) (es : List Entry) :
    valuesSize (e :: es) = outOfLine e.value.length + valuesSize es := by
  simp [valuesSize]

theorem valuesSize_append (es fs : List Entry) :
    valuesSize (es ++ fs) = valuesSize es + valuesSize fs := by
  simp [valuesSize]

/-- The value of an entry lies behind those of the entries before it. -/
theorem valuesSize_take (i : Nat) (h : i < es.length) :
    valuesSize (es.take i) + outOfLine es[i].value.length ≤ valuesSize es := by
  have hsplit : es = es.take i ++ es[i] :: es.drop (i + 1) := by simp
  have hsize := congrArg valuesSize hsplit
  rw [valuesSize_append, valuesSize_cons] at hsize
  omega

/-- An entry depends on its own bytes and on its value. -/
theorem EntryAt.keeps (h : EntryAt m tiff v a e) (hk : Mem.Keeps m m' T)
    (htable : ∀ x, a ≤ x → x < a + 12 → ¬ T x)
    (hvalue : ∀ x, v ≤ x → x < v + outOfLine e.value.length → ¬ T x) :
    EntryAt m' tiff v a e where
  tag := (hk.read fun x hx hxn => htable x (by omega) (by omega)).trans h.tag
  type := (hk.read fun x hx hxn => htable x (by omega) (by omega)).trans h.type
  count := (hk.read fun x hx hxn => htable x (by omega) (by omega)).trans h.count
  short hs := (hk.read fun x hx hxn => htable x (by omega) (by omega)).trans (h.short hs)
  long hl := by
    obtain ⟨hoff, hval⟩ := h.long hl
    refine ⟨?_, ?_⟩
    · exact (hk.read fun x hx hxn => htable x (by omega) (by omega)).trans hoff
    · refine (hk.read fun x hx hxn => hvalue x hx ?_).trans hval
      rw [outOfLine_long hl]
      exact hxn

/-- The place of a value does not matter to an entry without one. -/
theorem EntryAt.of_short {v' : Nat} (h : EntryAt m tiff v a e) (hs : e.value.length ≤ 4) :
    EntryAt m tiff v' a e :=
  ⟨h.tag, h.type, h.count, h.short, fun hl => absurd hs (Nat.not_le.mpr hl)⟩

theorem DirectoryAt.keeps (h : DirectoryAt m tiff p es next) (hk : Mem.Keeps m m' T)
    (hout : ∀ x, p ≤ x → x < p + directorySize es → ¬ T x) :
    DirectoryAt m' tiff p es next := by
  unfold directorySize at hout
  refine ⟨?_, fun i hi => ?_, ?_⟩
  · exact (hk.read fun x hx hxn => hout x (by omega) (by omega)).trans h.count
  · have hsize := valuesSize_take i hi
    refine (h.entry i hi).keeps hk (fun x hx hxn => ?_) (fun x hx hxn => ?_)
    · exact hout x (by omega) (by omega)
    · exact hout x (by omega) (by omega)
  · exact (hk.read fun x hx hxn => hout x (by omega) (by omega)).trans h.next

/-- An entry is read as what stands there. -/
theorem EntryAt.read (h : EntryAt m tiff v a e) (hwf : e.WellFormed) (htiff : tiff ≤ v)
    (hv : v < tiff + 2 ^ 32) : readEntry m tiff a = e := by
  have htype : ofLe (m.read (a + 2) 2) = e.type := by
    rw [h.type, ofLe_le]
    exact Nat.mod_eq_of_lt hwf.type
  have hcount : ofLe (m.read (a + 4) 4) = e.count := by
    rw [h.count, ofLe_le]
    exact Nat.mod_eq_of_lt hwf.count
  have htag : ofLe (m.read a 2) = e.tag := by
    rw [h.tag, ofLe_le]
    exact Nat.mod_eq_of_lt hwf.tag
  unfold readEntry
  dsimp only
  rw [htype, hcount, htag, ← hwf.value]
  congr 1
  by_cases hs : e.value.length ≤ 4
  · rw [if_pos hs]
    exact h.short hs
  · rw [if_neg hs]
    obtain ⟨hoff, hval⟩ := h.long (by omega)
    have hlt : v - tiff < 256 ^ 4 := by omega
    rw [hoff, ofLe_le, Nat.mod_eq_of_lt hlt, Nat.add_sub_cancel' (by omega)]
    exact hval

/-- **A directory is read as what stands there.** -/
theorem DirectoryAt.read (h : DirectoryAt m tiff p es next) (hwf : ∀ e ∈ es, e.WellFormed)
    (hlen : es.length < 2 ^ 16) (hnext : next < 2 ^ 32) (htiff : tiff ≤ p)
    (hend : p + directorySize es < tiff + 2 ^ 32) : readDirectory m tiff p = (es, next) := by
  have hcount : ofLe (m.read p 2) = es.length := by
    rw [h.count, ofLe_le]
    exact Nat.mod_eq_of_lt hlen
  rw [directorySize] at hend
  unfold readDirectory
  dsimp only
  rw [hcount]
  refine Prod.ext ?_ ?_
  · apply List.ext_getElem
    · simp
    · intro i hi hi'
      have hes : i < es.length := hi'
      have hsize := valuesSize_take i hes
      simp only [List.getElem_map, List.getElem_range]
      exact (h.entry i hes).read (hwf _ (List.getElem_mem hes)) (by omega) (by omega)
  · show ofLe (m.read (p + 2 + 12 * es.length) 4) = next
    rw [h.next, ofLe_le]
    exact Nat.mod_eq_of_lt hnext

theorem valuesSize_set {v : List UInt8} {i : Nat} (h : i < es.length) (hv : v.length ≤ 4)
    (hs : es[i].value.length ≤ 4) :
    valuesSize (es.set i { es[i] with value := v }) = valuesSize es := by
  induction es generalizing i with
  | nil => exact absurd h (Nat.not_lt_zero i)
  | cons e es ih =>
      cases i with
      | zero =>
          have hs' : e.value.length ≤ 4 := hs
          simp only [List.getElem_cons_zero, List.set_cons_zero]
          rw [valuesSize_cons, valuesSize_cons, outOfLine_short hv, outOfLine_short hs']
      | succ i =>
          simp only [List.getElem_cons_succ, List.set_cons_succ]
          rw [valuesSize_cons, valuesSize_cons, ih (Nat.lt_of_succ_lt_succ h) hs]

/-- A value that stands in its entry is replaced. -/
theorem DirectoryAt.set {v : List UInt8} {i : Nat} (h : DirectoryAt m tiff p es next)
    (hi : i < es.length) (hs : es[i].value.length ≤ 4) (hv : v.length ≤ 4) :
    DirectoryAt (m.write (p + 2 + 12 * i + 8) v) tiff p
      (es.set i { es[i] with value := v }) next := by
  have hlen : (es.set i { es[i] with value := v }).length = es.length := List.length_set
  have hw : Mem.Keeps m (m.write (p + 2 + 12 * i + 8) v)
      fun x => p + 2 + 12 * i + 8 ≤ x ∧ x < p + 2 + 12 * i + 12 :=
    Mem.keeps_write fun x hx hxn => ⟨hx, by omega⟩
  refine ⟨?_, fun j hj => ?_, ?_⟩
  · rw [hlen]
    exact (hw.read fun x hx hxn => by omega).trans h.count
  · rw [hlen] at hj ⊢
    have hsize : valuesSize ((es.set i { es[i] with value := v }).take j) =
        valuesSize (es.take j) := by
      rw [List.take_set]
      by_cases hij : i < j
      · have hlt : i < (es.take j).length := by
          rw [List.length_take]
          omega
        have hget : (es.take j)[i] = es[i] := List.getElem_take
        rw [← hget]
        exact valuesSize_set (by rw [List.length_take]; omega) hv (by rw [hget]; exact hs)
      · rw [List.set_eq_of_length_le (by rw [List.length_take]; omega)]
    have hat := h.entry j hj
    rw [hsize, List.getElem_set]
    by_cases hij : i = j
    · subst hij
      rw [if_pos rfl]
      refine ⟨?_, ?_, ?_, fun _ => Mem.read_write, fun hl => absurd hv (Nat.not_le.mpr hl)⟩
      · exact (hw.read fun x hx hxn => by omega).trans hat.tag
      · exact (hw.read fun x hx hxn => by omega).trans hat.type
      · exact (hw.read fun x hx hxn => by omega).trans hat.count
    · rw [if_neg hij]
      exact hat.keeps hw (fun x hx hxn => by omega) (fun x hx hxn => by omega)
  · rw [hlen]
    exact (hw.read fun x hx hxn => by omega).trans h.next

/-! ### Writing -/

/-- The two positions of a writer. -/
structure Cursor where
  mem : Mem
  table : Nat
  value : Nat

/-- What is written from `c` to `c'`: the entries `es` with their values.  Directories
    that entries point to may follow the values. -/
structure Put (tiff : Nat) (c c' : Cursor) (es : List Entry) : Prop where
  table : c'.table = c.table + 12 * es.length
  value : c.value + valuesSize es ≤ c'.value
  keeps : Mem.Keeps c.mem c'.mem
    fun x => (c.table ≤ x ∧ x < c'.table) ∨ (c.value ≤ x ∧ x < c'.value)
  entry : c'.table ≤ c.value → ∀ i (h : i < es.length),
    EntryAt c'.mem tiff (c.value + valuesSize (es.take i)) (c.table + 12 * i) es[i]

variable {c c' c'' : Cursor}

theorem Put.nil : Put tiff c c [] where
  table := rfl
  value := Nat.le_refl _
  keeps := Mem.Keeps.refl
  entry _ i h := absurd h (Nat.not_lt_zero i)

/-- Pieces that follow each other: the values of the second one stand behind those of
    the first one, or it has none. -/
theorem Put.append (h : Put tiff c c' es) (h' : Put tiff c' c'' fs)
    (hnext : c'.value = c.value + valuesSize es ∨ ∀ e ∈ fs, e.value.length ≤ 4) :
    Put tiff c c'' (es ++ fs) := by
  have ht := h.table
  have ht' := h'.table
  have hv := h.value
  have hv' := h'.value
  refine ⟨?_, ?_, ?_, fun hroom i hi => ?_⟩
  · rw [List.length_append]; omega
  · rw [valuesSize_append]; omega
  · exact (h.keeps.mono fun x hx => by omega).trans (h'.keeps.mono fun x hx => by omega)
  · by_cases hi' : i < es.length
    · have hsize := valuesSize_take i hi'
      rw [List.getElem_append_left hi', List.take_append_of_le_length (Nat.le_of_lt hi')]
      have hat := h.entry (by omega) i hi'
      exact hat.keeps h'.keeps (fun x hx hxn => by omega) (fun x hx hxn => by omega)
    · have hlen : i - es.length < fs.length := by rw [List.length_append] at hi; omega
      have hat := h'.entry (by omega) (i - es.length) hlen
      rw [List.getElem_append_right (by omega), List.take_append,
        List.take_of_length_le (by omega), valuesSize_append,
        show c.table + 12 * i = c'.table + 12 * (i - es.length) by omega]
      rcases hnext with hnext | hshort
      · rw [← Nat.add_assoc, ← hnext]
        exact hat
      · exact hat.of_short (hshort _ (List.getElem_mem hlen))

/-- The head of an entry and what stands in its value field. -/
def head (e : Entry) (field : List UInt8) : List UInt8 :=
  le 2 e.tag ++ le 2 e.type ++ le 4 e.count ++ field

theorem head_length (e : Entry) (field : List UInt8) :
    (head e field).length = 8 + field.length := by
  simp only [head, List.length_append, le_length]

/-- The parts of a head that was written. -/
theorem head_read (e : Entry) (field : List UInt8) :
    (m.write a (head e field)).read a 2 = le 2 e.tag ∧
      (m.write a (head e field)).read (a + 2) 2 = le 2 e.type ∧
      (m.write a (head e field)).read (a + 4) 4 = le 4 e.count ∧
      (m.write a (head e field)).read (a + 8) field.length = field := by
  have hall : (m.write a (head e field)).read a (head e field).length = head e field :=
    Mem.read_write
  rw [head_length, Mem.read_add, show (8 : Nat) = 2 + 2 + 4 from rfl, Mem.read_add,
    Mem.read_add] at hall
  obtain ⟨h, hfield⟩ := List.append_inj hall (by simp)
  obtain ⟨h, hcount⟩ := List.append_inj h (by simp)
  obtain ⟨htag, htype⟩ := List.append_inj h (by simp)
  exact ⟨htag, htype, hcount, hfield⟩

/-- A value that fits stands in its entry; the bytes behind it are left alone. -/
theorem Put.short (hs : e.value.length ≤ 4) :
    Put tiff c ⟨c.mem.write c.table (head e e.value), c.table + 12, c.value⟩ [e] := by
  have hlen := head_length e e.value
  obtain ⟨htag, htype, hcount, hfield⟩ := head_read (m := c.mem) (a := c.table) e e.value
  refine ⟨rfl, ?_, ?_, fun _ i hi => ?_⟩
  · rw [valuesSize_cons, outOfLine_short hs]
    exact Nat.le_refl _
  · exact Mem.keeps_write fun x hx hxn => .inl ⟨hx, by dsimp only; omega⟩
  · have hi0 : i = 0 := by simpa using hi
    subst hi0
    exact ⟨htag, htype, hcount, fun _ => hfield, fun hl => absurd hs (Nat.not_le.mpr hl)⟩

/-- A longer value goes to the end of the values. -/
theorem Put.long (hl : 4 < e.value.length) :
    Put tiff c
      ⟨(c.mem.write c.table (head e (le 4 (c.value - tiff)))).write c.value e.value,
        c.table + 12, c.value + e.value.length⟩ [e] := by
  have hlen := head_length e (le 4 (c.value - tiff))
  rw [le_length] at hlen
  obtain ⟨htag, htype, hcount, hfield⟩ :=
    head_read (m := c.mem) (a := c.table) e (le 4 (c.value - tiff))
  rw [le_length] at hfield
  refine ⟨rfl, ?_, ?_, fun hroom i hi => ?_⟩
  · rw [valuesSize_cons, outOfLine_long hl]
    exact Nat.le_refl _
  · refine (Mem.keeps_write fun x hx hxn => ?_).trans (Mem.keeps_write fun x hx hxn => ?_)
    · exact .inl ⟨hx, by dsimp only; omega⟩
    · exact .inr ⟨hx, hxn⟩
  · have hi0 : i = 0 := by simpa using hi
    subst hi0
    dsimp only at hroom ⊢
    refine ⟨?_, ?_, ?_, fun hs => absurd hs (Nat.not_le.mpr hl), fun _ => ⟨?_, ?_⟩⟩
    · exact (Mem.read_write_of_disjoint (by omega)).trans htag
    · exact (Mem.read_write_of_disjoint (by omega)).trans htype
    · exact (Mem.read_write_of_disjoint (by omega)).trans hcount
    · exact (Mem.read_write_of_disjoint (by omega)).trans hfield
    · exact Mem.read_write

/-- **A table with as many entries as announced is a directory.** -/
theorem Put.directory (hstart : c.mem.read p 2 = le 2 es.length) (htable : c.table = p + 2)
    (hvalue : c.value = p + 2 + 12 * es.length + 4) (h : Put tiff c c' es) :
    DirectoryAt (c'.mem.write c'.table (le 4 next)) tiff p es next := by
  have ht := h.table
  have hv := h.value
  have hw : Mem.Keeps c'.mem (c'.mem.write c'.table (le 4 next))
      fun x => c'.table ≤ x ∧ x < c'.table + 4 :=
    Mem.keeps_write fun x hx hxn => ⟨hx, by rwa [le_length] at hxn⟩
  refine ⟨?_, fun i hi => ?_, ?_⟩
  · have hk := h.keeps.read (a := p) (n := 2) fun x hx hxn => by omega
    exact (hw.read fun x hx hxn => by omega).trans (hk.trans hstart)
  · have hat := h.entry (by omega) i hi
    rw [htable, hvalue] at hat
    exact hat.keeps hw (fun x hx hxn => by omega) (fun x hx hxn => by omega)
  · rw [show p + 2 + 12 * es.length = c'.table by omega]
    exact Mem.read_write_eq (le_length 4 next)

end ExynosHal.TiffDirectory
