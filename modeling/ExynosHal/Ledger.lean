/-
  ExynosHal/Ledger.lean
  =====================
  **Who holds what: a ledger of resources that are obtained and released.**

  A resource is named by a value that may be given out again after its release,
  such as a file descriptor.  The ledger keeps the names that are held, as often
  as they are, and the releases of a name that was not held: a second close, or
  the close of something that was never obtained.
-/
import Mathlib.Data.List.Perm.Basic

namespace ExynosHal

universe u

structure Ledger (α : Type u) where
  held : List α
  wrong : List α
deriving DecidableEq, Repr

namespace Ledger

variable {α : Type u}

def empty : Ledger α := ⟨[], []⟩

def obtain (L : Ledger α) (a : α) : Ledger α := { L with held := a :: L.held }

@[simp] theorem obtain_held (L : Ledger α) (a : α) : (L.obtain a).held = a :: L.held := rfl
@[simp] theorem obtain_wrong (L : Ledger α) (a : α) : (L.obtain a).wrong = L.wrong := rfl

/-- Nothing was released that was not held. -/
def IsClean (L : Ledger α) : Prop := L.wrong = []

variable [DecidableEq α]

instance (L : Ledger α) : Decidable L.IsClean := inferInstanceAs (Decidable (L.wrong = []))

def release (L : Ledger α) (a : α) : Ledger α :=
  if a ∈ L.held then { L with held := L.held.erase a } else { L with wrong := a :: L.wrong }

def releaseAll (L : Ledger α) (l : List α) : Ledger α := l.foldl release L

variable {L : Ledger α} {a : α} {l : List α}

theorem release_of_mem (h : a ∈ L.held) : L.release a = { L with held := L.held.erase a } :=
  if_pos h

theorem release_of_not_mem (h : a ∉ L.held) : L.release a = { L with wrong := a :: L.wrong } :=
  if_neg h

@[simp] theorem releaseAll_nil : L.releaseAll [] = L := rfl

@[simp] theorem releaseAll_cons : L.releaseAll (a :: l) = (L.release a).releaseAll l := rfl

/-- **Releasing exactly what is held**, in any order, leaves nothing behind. -/
theorem releaseAll_of_perm (h : l.Perm L.held) : L.releaseAll l = ⟨[], L.wrong⟩ := by
  induction l generalizing L with
  | nil =>
    have : L.held = [] := List.nil_perm.mp h
    rw [releaseAll_nil, ← this]
  | cons a l ih =>
    have hmem : a ∈ L.held := h.subset List.mem_cons_self
    rw [releaseAll_cons, release_of_mem hmem]
    exact ih (L := { L with held := L.held.erase a }) (List.cons_perm_iff_perm_erase.mp h).2

/-! ### Holding exactly a list -/

/-- Exactly `l` is held, and nothing was released that was not held. -/
structure Holds (L : Ledger α) (l : List α) : Prop where
  held : L.held.Perm l
  clean : L.IsClean

omit [DecidableEq α] in
theorem Holds.perm {l' : List α} (h : L.Holds l) (hl : l.Perm l') : L.Holds l' :=
  ⟨h.held.trans hl, h.clean⟩

omit [DecidableEq α] in
theorem Holds.obtain (h : L.Holds l) (a : α) : (L.obtain a).Holds (a :: l) :=
  ⟨h.held.cons a, h.clean⟩

theorem Holds.release (h : L.Holds (a :: l)) : (L.release a).Holds l := by
  have hmem : a ∈ L.held := h.held.symm.subset List.mem_cons_self
  rw [release_of_mem hmem]
  exact ⟨((List.cons_perm_iff_perm_erase.mp h.held.symm).2).symm, h.clean⟩

theorem Holds.release_wrong (h : L.Holds l) (ha : a ∉ l) : ¬(L.release a).IsClean := by
  rw [release_of_not_mem fun hm => ha (h.held.subset hm)]
  exact List.cons_ne_nil _ _

/-- What was released wrongly stays so. -/
theorem release_not_isClean (h : ¬L.IsClean) : ¬(L.release a).IsClean := by
  by_cases hm : a ∈ L.held
  · rw [release_of_mem hm]
    exact h
  · rw [release_of_not_mem hm]
    exact List.cons_ne_nil _ _

end Ledger

end ExynosHal
