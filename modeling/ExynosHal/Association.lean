/-
  ExynosHal/Association.lean
  ==========================
  **An association that is stored on both sides.**

  Owners list the items they have, items name their owner, and the two are
  written by different functions: some write both sides, some only one.  What a
  one-sided operation leaves is a half pair, a link whose owner does not list the
  item (`dangling`) or an entry whose item does not name the owner (`orphaned`).
  `Consistent` says that there are no other half pairs than those on record; an
  item is only attached when it has no owner and is not listed by the new one.
-/
import Mathlib.Data.List.Perm.Basic
import Mathlib.Data.List.Nodup
import Mathlib.Logic.Function.Basic

namespace ExynosHal

open Function (update)

universe u v

/-- Both sides, with the half pairs that one-sided operations have left. -/
structure Association (ι : Type u) (ω : Type v) where
  items : ω → List ι
  link : ι → Option ω
  /-- Links whose owner has dropped the item. -/
  dangling : List (ι × ω)
  /-- Entries whose item has dropped the owner. -/
  orphaned : List (ι × ω)

namespace Association

variable {ι : Type u} {ω : Type v}

def empty : Association ι ω := ⟨fun _ => [], fun _ => none, [], []⟩

/-! ### Consistency -/

/-- The half pairs are those on record. -/
structure Consistent (a : Association ι ω) : Prop where
  nodup : ∀ o, (a.items o).Nodup
  item : ∀ x o, x ∈ a.items o → a.link x = some o ∨ (x, o) ∈ a.orphaned
  link : ∀ x o, a.link x = some o → x ∈ a.items o ∨ (x, o) ∈ a.dangling
  dangling : ∀ x o, (x, o) ∈ a.dangling → a.link x = some o ∧ x ∉ a.items o
  orphaned : ∀ x o, (x, o) ∈ a.orphaned → x ∈ a.items o ∧ a.link x ≠ some o

theorem Consistent.empty : (Association.empty : Association ι ω).Consistent where
  nodup _ := List.nodup_nil
  item _ _ hx := absurd hx List.not_mem_nil
  link _ _ hx := nomatch hx
  dangling _ _ hx := absurd hx List.not_mem_nil
  orphaned _ _ hx := absurd hx List.not_mem_nil

/-- From `a` to `b` no pair is added. -/
structure Shrinks (a b : Association ι ω) : Prop where
  link : ∀ x o, b.link x = some o → a.link x = some o
  items : ∀ x o, x ∈ b.items o → x ∈ a.items o

theorem Shrinks.refl (a : Association ι ω) : Shrinks a a := ⟨fun _ _ => id, fun _ _ => id⟩

theorem Shrinks.trans {a b c : Association ι ω} (hab : Shrinks a b) (hbc : Shrinks b c) :
    Shrinks a c :=
  ⟨fun x o hx => hab.link x o (hbc.link x o hx), fun x o hx => hab.items x o (hbc.items x o hx)⟩

/-! ### Operations -/

variable [DecidableEq ι] [DecidableEq ω]

/-- Both sides are written. -/
def attach (o : ω) (x : ι) (a : Association ι ω) : Association ι ω :=
  { a with
    items := update a.items o (x :: a.items o)
    link := update a.link x (some o) }

/-- The owner gives up one item, which drops the owner. -/
def detach (o : ω) (x : ι) (a : Association ι ω) : Association ι ω :=
  { a with
    items := update a.items o ((a.items o).erase x)
    link := if x ∈ a.items o ∧ a.link x = some o then update a.link x none else a.link
    orphaned := a.orphaned.filter (· ≠ (x, o)) }

/-- The owner gives up all items, which drop the owner. -/
def detachAll (o : ω) (a : Association ι ω) : Association ι ω :=
  { a with
    items := update a.items o []
    link := fun x => if x ∈ a.items o ∧ a.link x = some o then none else a.link x
    orphaned := a.orphaned.filter (·.2 ≠ o) }

/-- The owner drops one item, whose link stays. -/
def forget (o : ω) (x : ι) (a : Association ι ω) : Association ι ω :=
  { a with
    items := update a.items o ((a.items o).erase x)
    dangling :=
      if x ∈ a.items o ∧ (x, o) ∉ a.orphaned then (x, o) :: a.dangling else a.dangling
    orphaned := a.orphaned.filter (· ≠ (x, o)) }

/-- The owner drops all items, whose links stay. -/
def forgetAll (o : ω) (a : Association ι ω) : Association ι ω :=
  { a with
    items := update a.items o []
    dangling := ((a.items o).map (·, o)).filter (· ∉ a.orphaned) ++ a.dangling
    orphaned := a.orphaned.filter (·.2 ≠ o) }

/-- The item drops its owner, which keeps the entry. -/
def clear (x : ι) (a : Association ι ω) : Association ι ω :=
  match a.link x with
  | none => a
  | some o =>
      { a with
        link := update a.link x none
        dangling := a.dangling.filter (· ≠ (x, o))
        orphaned := if x ∈ a.items o then (x, o) :: a.orphaned else a.orphaned }

section Members

variable {a : Association ι ω} {o o' : ω} {x y : ι}

@[simp] theorem mem_attach :
    y ∈ (a.attach o x).items o' ↔ (o' = o ∧ y = x) ∨ y ∈ a.items o' := by
  rcases eq_or_ne o' o with rfl | ho
  · simp [attach]
  · simp [attach, ho]

@[simp] theorem attach_link : (a.attach o x).link y = if y = x then some o else a.link y :=
  Function.update_apply a.link x (some o) y

theorem mem_erase_items (hnodup : (a.items o).Nodup) :
    y ∈ update a.items o ((a.items o).erase x) o' ↔ y ∈ a.items o' ∧ ¬(o' = o ∧ y = x) := by
  rcases eq_or_ne o' o with rfl | ho
  · simp [hnodup.mem_erase_iff, and_comm]
  · simp [ho]

omit [DecidableEq ι] in
theorem mem_no_items : y ∈ update a.items o [] o' ↔ y ∈ a.items o' ∧ o' ≠ o := by
  rcases eq_or_ne o' o with rfl | ho
  · simp
  · simp [ho]

theorem detach_link :
    (a.detach o x).link y =
      if y = x ∧ x ∈ a.items o ∧ a.link x = some o then none else a.link y := by
  unfold detach
  by_cases h : x ∈ a.items o ∧ a.link x = some o
  · simp [h, Function.update_apply]
  · simp [h]

omit [DecidableEq ι] in
theorem nodup_update {l : List ι} (h : ∀ o, (a.items o).Nodup) (hl : l.Nodup) :
    (update a.items o l o').Nodup := by
  rcases eq_or_ne o' o with rfl | ho
  · simpa using hl
  · simpa [ho] using h o'

end Members

/-! ### What is only taken away -/

section Shrinks

variable (a : Association ι ω) (o : ω) (x : ι)

omit [DecidableEq ι] in
theorem mem_of_mem_update {l : List ι} {y : ι} {o' : ω} (hl : ∀ y ∈ l, y ∈ a.items o)
    (hy : y ∈ update a.items o l o') : y ∈ a.items o' := by
  rcases eq_or_ne o' o with rfl | ho
  · exact hl y (by simpa using hy)
  · simpa [ho] using hy

theorem detach_shrinks : Shrinks a (a.detach o x) where
  link y o' hy := by
    rw [detach_link] at hy
    split at hy
    · cases hy
    · exact hy
  items _ _ := a.mem_of_mem_update o fun _ => List.mem_of_mem_erase

theorem detachAll_shrinks : Shrinks a (a.detachAll o) where
  link y o' hy := by
    simp only [detachAll] at hy
    split at hy
    · cases hy
    · exact hy
  items _ _ := a.mem_of_mem_update o fun _ hy => absurd hy List.not_mem_nil

theorem forget_shrinks : Shrinks a (a.forget o x) where
  link _ _ := id
  items _ _ := a.mem_of_mem_update o fun _ => List.mem_of_mem_erase

theorem forgetAll_shrinks : Shrinks a (a.forgetAll o) where
  link _ _ := id
  items _ _ := a.mem_of_mem_update o fun _ hy => absurd hy List.not_mem_nil

theorem clear_items : (a.clear x).items = a.items := by
  unfold clear
  split <;> rfl

theorem clear_link : (a.clear x).link = update a.link x none := by
  unfold clear
  split
  · next h => rw [← h, Function.update_eq_self]
  · rfl

theorem clear_shrinks : Shrinks a (a.clear x) where
  link y o' hy := by
    rw [clear_link, Function.update_apply] at hy
    split at hy
    · cases hy
    · exact hy
  items y o' hy := by rwa [clear_items] at hy

end Shrinks

/-! ### Every operation is consistent -/

namespace Consistent

variable {a : Association ι ω} {o : ω} {x : ι}

theorem attach (h : a.Consistent) (hlink : a.link x = none) (hx : x ∉ a.items o) :
    (a.attach o x).Consistent where
  nodup _ := nodup_update h.nodup (List.nodup_cons.mpr ⟨hx, h.nodup o⟩)
  item y o' hy := by
    have hold := h.item y o'
    have hdangling := h.orphaned y o'
    rw [mem_attach] at hy
    rw [attach_link]
    grind [Association.attach]
  link y o' hy := by
    have hold := h.link y o'
    rw [attach_link] at hy
    rw [mem_attach]
    grind [Association.attach]
  dangling y o' hy := by
    have hold := h.dangling y o' hy
    rw [attach_link, mem_attach]
    grind
  orphaned y o' hy := by
    have hold := h.orphaned y o' hy
    rw [attach_link, mem_attach]
    grind

theorem detach (h : a.Consistent) (o : ω) (x : ι) : (a.detach o x).Consistent where
  nodup _ := nodup_update h.nodup ((h.nodup o).erase x)
  item y o' hy := by
    obtain ⟨hy, hne⟩ := (mem_erase_items (h.nodup o)).mp hy
    have hold := h.item y o' hy
    rw [detach_link]
    simp only [Association.detach, List.mem_filter, decide_eq_true_eq]
    grind
  link y o' hy := by
    rw [detach_link] at hy
    have hold := h.link y o'
    refine (?_ : y ∈ update a.items o ((a.items o).erase x) o' ∨ (y, o') ∈ a.dangling)
    rw [mem_erase_items (h.nodup o)]
    grind
  dangling y o' hy := by
    obtain ⟨hold, hmem⟩ := h.dangling y o' hy
    refine ⟨?_, fun hc => hmem ((mem_erase_items (h.nodup o)).mp hc).1⟩
    rw [detach_link]
    grind
  orphaned y o' hy := by
    obtain ⟨hy, hne⟩ := List.mem_filter.mp hy
    obtain ⟨hmem, hold⟩ := h.orphaned y o' hy
    refine ⟨(mem_erase_items (h.nodup o)).mpr ⟨hmem, ?_⟩, ?_⟩
    · rintro ⟨rfl, rfl⟩
      simp at hne
    · rw [detach_link]
      grind

theorem detachAll (h : a.Consistent) (o : ω) : (a.detachAll o).Consistent where
  nodup _ := nodup_update h.nodup List.nodup_nil
  item y o' hy := by
    obtain ⟨hy, hne⟩ := mem_no_items.mp hy
    have hold := h.item y o' hy
    simp only [Association.detachAll, List.mem_filter, decide_eq_true_eq]
    grind
  link y o' hy := by
    have hold := h.link y o'
    simp only [Association.detachAll] at hy
    refine (?_ : y ∈ update a.items o [] o' ∨ (y, o') ∈ a.dangling)
    rw [mem_no_items]
    grind
  dangling y o' hy := by
    obtain ⟨hold, hmem⟩ := h.dangling y o' hy
    refine ⟨?_, fun hc => hmem (mem_no_items.mp hc).1⟩
    simp only [Association.detachAll]
    grind
  orphaned y o' hy := by
    obtain ⟨hy, hne⟩ := List.mem_filter.mp hy
    obtain ⟨hmem, hold⟩ := h.orphaned y o' hy
    refine ⟨mem_no_items.mpr ⟨hmem, by simpa using hne⟩, ?_⟩
    simp only [Association.detachAll]
    grind

theorem forget (h : a.Consistent) (o : ω) (x : ι) : (a.forget o x).Consistent where
  nodup _ := nodup_update h.nodup ((h.nodup o).erase x)
  item y o' hy := by
    obtain ⟨hy, hne⟩ := (mem_erase_items (h.nodup o)).mp hy
    have hold := h.item y o' hy
    simp only [Association.forget, List.mem_filter, decide_eq_true_eq]
    grind
  link y o' hy := by
    have hold := h.link y o' hy
    refine (?_ : y ∈ update a.items o ((a.items o).erase x) o' ∨ (y, o') ∈ (a.forget o x).dangling)
    have horphaned := h.orphaned y o'
    rw [mem_erase_items (h.nodup o)]
    simp only [Association.forget]
    have hy : a.link y = some o' := hy
    grind
  dangling y o' hy := by
    have hold := h.dangling y o'
    have hitem := h.item y o'
    refine (?_ : a.link y = some o' ∧ y ∉ update a.items o ((a.items o).erase x) o')
    rw [mem_erase_items (h.nodup o)]
    simp only [Association.forget] at hy
    grind
  orphaned y o' hy := by
    obtain ⟨hy, hne⟩ := List.mem_filter.mp hy
    obtain ⟨hmem, hold⟩ := h.orphaned y o' hy
    refine ⟨(mem_erase_items (h.nodup o)).mpr ⟨hmem, ?_⟩, hold⟩
    rintro ⟨rfl, rfl⟩
    simp at hne

theorem forgetAll (h : a.Consistent) (o : ω) : (a.forgetAll o).Consistent where
  nodup _ := nodup_update h.nodup List.nodup_nil
  item y o' hy := by
    obtain ⟨hy, hne⟩ := mem_no_items.mp hy
    have hold := h.item y o' hy
    simp only [Association.forgetAll, List.mem_filter, decide_eq_true_eq]
    grind
  link y o' hy := by
    have hold := h.link y o' hy
    have horphaned := h.orphaned y o'
    have hy : a.link y = some o' := hy
    refine (?_ : y ∈ update a.items o [] o' ∨ (y, o') ∈ (a.forgetAll o).dangling)
    rw [mem_no_items]
    simp only [Association.forgetAll, List.mem_append, List.mem_filter, List.mem_map,
      decide_eq_true_eq]
    grind
  dangling y o' hy := by
    have hold := h.dangling y o'
    have hitem := h.item y o'
    refine (?_ : a.link y = some o' ∧ y ∉ update a.items o [] o')
    rw [mem_no_items]
    simp only [Association.forgetAll, List.mem_append, List.mem_filter, List.mem_map,
      decide_eq_true_eq] at hy
    grind
  orphaned y o' hy := by
    obtain ⟨hy, hne⟩ := List.mem_filter.mp hy
    obtain ⟨hmem, hold⟩ := h.orphaned y o' hy
    exact ⟨mem_no_items.mpr ⟨hmem, by simpa using hne⟩, hold⟩

theorem clear (h : a.Consistent) (x : ι) : (a.clear x).Consistent := by
  unfold Association.clear
  cases hlink : a.link x with
  | none => exact h
  | some o =>
    constructor
    · exact h.nodup
    · intro y o' hy
      have hold := h.item y o' hy
      simp only [Function.update_apply]
      grind
    · intro y o' hy
      have hold := h.link y o'
      simp only [Function.update_apply] at hy
      simp only [List.mem_filter, decide_eq_true_eq]
      grind
    · intro y o' hy
      obtain ⟨hy, hne⟩ := List.mem_filter.mp hy
      obtain ⟨hold, hmem⟩ := h.dangling y o' hy
      refine ⟨?_, hmem⟩
      simp only [Function.update_apply]
      grind
    · intro y o' hy
      have hold := h.orphaned y o'
      simp only [Function.update_apply]
      grind

end Consistent

end Association

end ExynosHal
