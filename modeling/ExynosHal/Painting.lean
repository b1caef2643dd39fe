/-
  ExynosHal/Painting.lean
  =======================
  **Loops that fill a memory.**

  A piece of code paints a set of cells if it stores there what one function says
  and leaves the other cells alone.  As the function is the same for all of the
  code, it does not matter in which order the cells are painted or how often, and
  nested loops paint the union of what their rounds paint.
-/
import Mathlib.Data.Set.Lattice

namespace ExynosHal.Painting

variable {α β σ : Type*}

/-- What stands in the cells of `C` afterwards is what `v` says. -/
structure Paints (v : α → β) (C : Set α) (m m' : α → β) : Prop where
  inside : ∀ a ∈ C, m' a = v a
  outside : ∀ a ∉ C, m' a = m a

namespace Paints

variable {v : α → β} {C D : Set α} {m m' m'' : α → β}

protected theorem refl (v : α → β) (m : α → β) : Paints v ∅ m m := ⟨fun _ h => absurd h id, fun _ _ => rfl⟩

protected theorem trans (h : Paints v C m m') (h' : Paints v D m' m'') : Paints v (C ∪ D) m m'' where
  inside a ha := by
    by_cases hD : a ∈ D
    · exact h'.inside a hD
    · rw [h'.outside a hD]
      exact h.inside a (ha.resolve_right hD)
  outside a ha := by
    rw [h'.outside a fun hD => ha (.inr hD)]
    exact h.outside a fun hC => ha (.inl hC)

theorem congr (h : Paints v C m m') (hCD : C = D) : Paints v D m m' := hCD ▸ h

/-- One cell. -/
theorem update [DecidableEq α] {a : α} {b : β} (hb : b = v a) :
    Paints v {a} m (Function.update m a b) where
  inside x hx := by
    obtain rfl := Set.mem_singleton_iff.mp hx
    rw [Function.update_self, hb]
  outside x hx := Function.update_of_ne (fun hc => hx (Set.mem_singleton_iff.mpr hc)) _ _

/-- **A loop paints what its rounds paint.**  `P i` is what the loop carries besides the
    memory. -/
theorem loop {body : (α → β) × σ → Nat → (α → β) × σ} {cells : Nat → Set α} {P : Nat → σ → Prop}
    {first n : Nat}
    (hbody : ∀ i m s, first ≤ i → i < first + n → P i s →
      Paints v (cells i) m (body (m, s) i).1 ∧ P (i + 1) (body (m, s) i).2)
    {m : α → β} {s : σ} (hs : P first s) :
    Paints v (⋃ i ∈ Set.Ico first (first + n), cells i) m
        ((List.range' first n).foldl body (m, s)).1
      ∧ P (first + n) ((List.range' first n).foldl body (m, s)).2 := by
  induction n with
  | zero => simpa using ⟨Paints.refl v m, hs⟩
  | succ n ih =>
      obtain ⟨hpaints, hP⟩ := ih fun i m s hi hn => hbody i m s hi (Nat.lt_succ_of_lt hn)
      have hlast := hbody (first + n) ((List.range' first n).foldl body (m, s)).1
        ((List.range' first n).foldl body (m, s)).2 (Nat.le_add_right _ _) (Nat.lt_succ_self _) hP
      rw [List.range'_1_concat, List.foldl_append]
      refine ⟨(hpaints.trans hlast.1).congr ?_, hlast.2⟩
      -- the rounds up to `first + n` and this one
      ext a
      simp only [Set.mem_union, Set.mem_iUnion, Set.mem_Ico, exists_prop]
      constructor
      · rintro (⟨i, hi, ha⟩ | ha)
        · exact ⟨i, ⟨hi.1, Nat.lt_succ_of_lt hi.2⟩, ha⟩
        · exact ⟨first + n, ⟨Nat.le_add_right _ _, Nat.lt_succ_self _⟩, ha⟩
      · rintro ⟨i, hi, ha⟩
        rcases Nat.lt_succ_iff_lt_or_eq.mp hi.2 with hlt | rfl
        · exact .inl ⟨i, ⟨hi.1, hlt⟩, ha⟩
        · exact .inr ha

end Paints

end ExynosHal.Painting
