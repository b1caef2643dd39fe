/-
  ExynosHal/MarkedItems.lean
  ==========================
  **What may be remembered of items that carry marks.**

  A component remembers data of a list of items and looks at them again only
  when an item is new or marked.  Items come at the end, go and change in
  between; `settled` is what an item is that was not touched.  As long as new
  items are not settled and a change leaves a mark, the settled items stand where
  a part of the record has their data (`Remembers`): with nothing unsettled and as
  many items as before the record is right (`Remembers.eq`).
-/
import Mathlib.Data.List.Basic

namespace ExynosHal.MarkedItems

universe u v

variable {α : Type u} {β : Type v} (settled : α → Bool) (datum : α → β)

/-- Where `items` has a settled item, a part of the record has its datum. -/
def Remembers (record : List β) (items : List α) : Prop :=
  ∃ part : List β, part.Sublist record ∧
    ∀ (i : Nat) (x : α), items[i]? = some x → settled x = true → part[i]? = some (datum x)

section Rules

variable {settled : α → Bool} {datum : α → β} {record : List β} {items : List α}

/-- Data that were just read, whatever is marked or gets marked. -/
theorem remembers_read (items : List α) : Remembers settled datum (items.map datum) items := by
  refine ⟨items.map datum, List.Sublist.refl _, fun i x hx _ => ?_⟩
  rw [List.getElem?_map, hx]
  rfl

/-- Marks are cleared right after the data were read. -/
theorem remembers_cleared {f : α → α} (hf : ∀ x, datum (f x) = datum x) (items : List α) :
    Remembers settled datum (items.map datum) (items.map f) := by
  have hsame : (items.map f).map datum = items.map datum := by
    rw [List.map_map]
    exact List.map_congr_left fun x _ => hf x
  exact hsame ▸ remembers_read (items.map f)

/-- Nothing is remembered of what is not there. -/
theorem remembers_nil : Remembers settled datum record [] :=
  ⟨[], List.nil_sublist record, fun _ _ hx => nomatch hx⟩

/-- A new item. -/
theorem Remembers.create (h : Remembers settled datum record items) {x : α} (hx : settled x = false) :
    Remembers settled datum record (items ++ [x]) := by
  obtain ⟨part, hpart, hitems⟩ := h
  refine ⟨part, hpart, fun i y hy hsettled => ?_⟩
  rw [List.getElem?_append] at hy
  split at hy
  · exact hitems i y hy hsettled
  · have hyx : y = x := List.mem_singleton.mp (List.mem_of_getElem? hy)
    rw [hyx, hx] at hsettled
    cases hsettled

/-- An item that goes. -/
theorem Remembers.remove (h : Remembers settled datum record items) (i : Nat) :
    Remembers settled datum record (items.eraseIdx i) := by
  obtain ⟨part, hpart, hitems⟩ := h
  refine ⟨part.eraseIdx i, (List.eraseIdx_sublist part i).trans hpart, fun j x hx hsettled => ?_⟩
  rw [List.getElem?_eraseIdx] at hx ⊢
  by_cases hj : j < i
  · rw [if_pos hj] at hx ⊢
    exact hitems j x hx hsettled
  · rw [if_neg hj] at hx ⊢
    exact hitems (j + 1) x hx hsettled

/-- **A change that leaves a mark**, or changes nothing. -/
theorem Remembers.update (h : Remembers settled datum record items) {f : α → α}
    (hf : ∀ x, settled (f x) = true → settled x = true ∧ datum (f x) = datum x) (i : Nat) :
    Remembers settled datum record (items.modify i f) := by
  obtain ⟨part, hpart, hitems⟩ := h
  refine ⟨part, hpart, fun j x hx hsettled => ?_⟩
  rw [List.getElem?_modify] at hx
  obtain ⟨y, hy, rfl⟩ := Option.map_eq_some_iff.mp hx
  split at hsettled
  · obtain ⟨hysettled, hdatum⟩ := hf y hsettled
    rw [if_pos ‹i = j›, hdatum]
    exact hitems j y hy hysettled
  · rw [if_neg ‹¬i = j›]
    exact hitems j y hy hsettled

/-! ### As many settled items as remembered data -/

/-- The settled items are among the first ones, as many as there is a part of the record. -/
theorem countP_settled_le (part : List β)
    (hitems : ∀ (i : Nat) (x : α), items[i]? = some x → settled x = true → part[i]? = some (datum x)) :
    items.countP settled ≤ (items.take part.length).countP settled := by
  have hrest : (items.drop part.length).countP settled = 0 := by
    rw [List.countP_eq_zero]
    intro x hx hsettled
    obtain ⟨i, hi⟩ := List.mem_iff_getElem?.mp hx
    rw [List.getElem?_drop] at hi
    have hlt := (List.getElem?_eq_some_iff.mp (hitems _ x hi hsettled)).1
    omega
  conv_lhs => rw [← List.take_append_drop part.length items]
  rw [List.countP_append, hrest]
  exact Nat.le_refl _

/-- No more is settled than remembered. -/
theorem Remembers.countP_le (h : Remembers settled datum record items) :
    items.countP settled ≤ record.length := by
  obtain ⟨part, hpart, hitems⟩ := h
  calc items.countP settled ≤ (items.take part.length).countP settled := countP_settled_le part hitems
    _ ≤ (items.take part.length).length := List.countP_le_length
    _ ≤ part.length := List.length_take_le _ _
    _ ≤ record.length := hpart.length_le

/-- **If as much is settled as remembered**, the first items are settled and the record has their
    data. -/
theorem Remembers.complete (h : Remembers settled datum record items)
    (hcount : record.length ≤ items.countP settled) :
    (items.take record.length).map datum = record ∧ ∀ x ∈ items.take record.length, settled x = true := by
  obtain ⟨part, hpart, hitems⟩ := h
  have hcut := countP_settled_le part hitems
  have hle : (items.take part.length).countP settled ≤ (items.take part.length).length :=
    List.countP_le_length
  have htake : (items.take part.length).length ≤ part.length := List.length_take_le _ _
  have hlen : part.length = record.length := Nat.le_antisymm hpart.length_le (by omega)
  obtain rfl := hpart.eq_of_length hlen
  have hall : ∀ x ∈ items.take part.length, settled x = true :=
    List.countP_eq_length.mp (Nat.le_antisymm hle (by omega))
  refine ⟨?_, hall⟩
  refine List.ext_getElem? fun i => ?_
  rw [List.getElem?_map]
  rcases Nat.lt_or_ge i part.length with hi | hi
  · have hi' : i < (items.take part.length).length := by omega
    have hx : (items.take part.length)[i]? = some (items.take part.length)[i] := List.getElem?_eq_getElem hi'
    rw [hx, Option.map_some]
    have hx' : items[i]? = some (items.take part.length)[i] := by
      rw [List.getElem?_take, if_pos hi] at hx
      exact hx
    exact (hitems i _ hx' (hall _ (List.getElem_mem hi'))).symm
  · rw [List.getElem?_eq_none hi, List.getElem?_eq_none (Nat.le_trans htake hi)]
    rfl

/-- **Nothing unsettled, nothing missing.** -/
theorem Remembers.eq (h : Remembers settled datum record items) (hall : ∀ x ∈ items, settled x = true)
    (hlen : record.length = items.length) : items.map datum = record := by
  have hcount : record.length ≤ items.countP settled := by
    rw [List.countP_eq_length.mpr hall]
    exact Nat.le_of_eq hlen
  have hcomplete := (h.complete hcount).1
  rwa [hlen, List.take_length] at hcomplete

end Rules

end ExynosHal.MarkedItems
