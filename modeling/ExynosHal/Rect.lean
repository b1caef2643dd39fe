/-
  ExynosHal/Rect.lean
  ===================
  **Half-open rectangles over a linear order.**

  A rectangle is given by its four edges and holds the points with
  `left ≤ x < right` and `top ≤ y < bottom`; nothing forces the edges to be in
  order, so a rectangle may be empty.  `hull` grows a rectangle to contain
  another one, and `foldlM_keeps` and `mem_foldlM_of_mem` are the rules for a
  loop that accumulates such a bounding box.
-/
import Mathlib.Order.MinMax

namespace ExynosHal

universe u v

structure Rect (α : Type u) where
  left : α
  top : α
  right : α
  bottom : α
deriving DecidableEq, Repr

namespace Rect

variable {α : Type u} [LinearOrder α]

instance : Membership (α × α) (Rect α) where
  mem r p := r.left ≤ p.1 ∧ p.1 < r.right ∧ r.top ≤ p.2 ∧ p.2 < r.bottom

theorem mem_def {r : Rect α} {p : α × α} :
    p ∈ r ↔ r.left ≤ p.1 ∧ p.1 < r.right ∧ r.top ≤ p.2 ∧ p.2 < r.bottom := Iff.rfl

instance (r : Rect α) (p : α × α) : Decidable (p ∈ r) :=
  inferInstanceAs (Decidable (_ ∧ _ ∧ _ ∧ _))

/-- The smallest rectangle that reaches to the edges of both. -/
def hull (r s : Rect α) : Rect α where
  left := min r.left s.left
  top := min r.top s.top
  right := max r.right s.right
  bottom := max r.bottom s.bottom

theorem mem_hull_left {r : Rect α} (s : Rect α) {p : α × α} (h : p ∈ r) : p ∈ hull r s := by
  obtain ⟨hl, hr, ht, hb⟩ := h
  exact ⟨(min_le_left _ _).trans hl, hr.trans_le (le_max_left _ _),
    (min_le_left _ _).trans ht, hb.trans_le (le_max_left _ _)⟩

theorem mem_hull_right (r : Rect α) {s : Rect α} {p : α × α} (h : p ∈ s) : p ∈ hull r s := by
  obtain ⟨hl, hr, ht, hb⟩ := h
  exact ⟨(min_le_right _ _).trans hl, hr.trans_le (le_max_right _ _),
    (min_le_right _ _).trans ht, hb.trans_le (le_max_right _ _)⟩

theorem hull_assoc (r s t : Rect α) : hull (hull r s) t = hull r (hull s t) := by
  simp only [hull, min_assoc, max_assoc]

theorem foldl_hull (r s : Rect α) (l : List (Rect α)) :
    l.foldl hull (hull r s) = hull r (l.foldl hull s) := by
  induction l generalizing s with
  | nil => rfl
  | cons t l ih =>
      rw [List.foldl_cons, List.foldl_cons, hull_assoc, ih]

/-- The lower edges of a bounding box, from one that is a minimum under `hull`. -/
theorem le_foldl_edge {e : Rect α → α} (he : ∀ r s, e (hull r s) = min (e r) (e s))
    {l : List (Rect α)} {r : Rect α} {c : α} :
    c ≤ e (l.foldl hull r) ↔ c ≤ e r ∧ ∀ s ∈ l, c ≤ e s := by
  induction l generalizing r with
  | nil => simp
  | cons t l ih =>
      rw [List.foldl_cons, ih, he, le_min_iff, List.forall_mem_cons, and_assoc]

/-- The upper edges of a bounding box. -/
theorem foldl_edge_le {e : Rect α → α} (he : ∀ r s, e (hull r s) = max (e r) (e s))
    {l : List (Rect α)} {r : Rect α} {c : α} :
    e (l.foldl hull r) ≤ c ↔ e r ≤ c ∧ ∀ s ∈ l, e s ≤ c := by
  induction l generalizing r with
  | nil => simp
  | cons t l ih =>
      rw [List.foldl_cons, ih, he, max_le_iff, List.forall_mem_cons, and_assoc]

/-- A bounding box holds the points of every rectangle that it is taken over. -/
theorem mem_foldl_hull {l : List (Rect α)} {r s : Rect α} {p : α × α}
    (h : p ∈ r ∨ s ∈ l ∧ p ∈ s) : p ∈ l.foldl hull r := by
  induction l generalizing r with
  | nil =>
      rcases h with hr | ⟨hs, -⟩
      · exact hr
      · cases hs
  | cons t l ih =>
      rw [List.foldl_cons]
      apply ih
      rcases h with hr | ⟨hs, hp⟩
      · exact Or.inl (mem_hull_left t hr)
      · rcases List.mem_cons.mp hs with rfl | hs
        · exact Or.inl (mem_hull_right r hp)
        · exact Or.inr ⟨hs, hp⟩

section Loops

variable {β : Type v} {step : Rect α → β → Option (Rect α)} {p : α × α}

omit [LinearOrder α] in
/-- What every step of a loop that may give up keeps holds when it has come to its end. -/
theorem foldlM_keeps {P : Rect α → Prop} {l : List β}
    (hstep : ∀ b ∈ l, ∀ r r', step r b = some r' → P r → P r')
    {r r' : Rect α} (h : l.foldlM step r = some r') (hr : P r) : P r' := by
  induction l generalizing r with
  | nil =>
      cases h
      exact hr
  | cons b l ih =>
      rw [List.foldlM_cons] at h
      obtain ⟨s, hs, hrest⟩ := Option.bind_eq_some_iff.mp h
      refine ih (fun c hc => hstep c (List.mem_cons_of_mem _ hc)) hrest ?_
      exact hstep b List.mem_cons_self r s hs hr

/-- A loop that only grows its rectangle ends with every point that one of its steps adds. -/
theorem mem_foldlM_of_mem (hgrow : ∀ b r r', step r b = some r' → p ∈ r → p ∈ r')
    {l : List β} {b : β} (hb : b ∈ l) (hadd : ∀ r r', step r b = some r' → p ∈ r')
    {r r' : Rect α} (h : l.foldlM step r = some r') : p ∈ r' := by
  induction l generalizing r with
  | nil => cases hb
  | cons c l ih =>
      rw [List.foldlM_cons] at h
      obtain ⟨s, hs, hrest⟩ := Option.bind_eq_some_iff.mp h
      rcases List.mem_cons.mp hb with rfl | hb
      · exact foldlM_keeps (fun c _ => hgrow c) hrest (hadd r s hs)
      · exact ih hb hrest

end Loops

end Rect

end ExynosHal
