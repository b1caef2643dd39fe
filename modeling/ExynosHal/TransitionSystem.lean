/-
  ExynosHal/TransitionSystem.lean
  ===============================
  **Reachable states of a labelled transition system.**

  A component that reacts to calls is a relation `step s a s'`: in state `s` the
  call `a` may lead to `s'`.  The file packages the one induction that every
  run-level result needs (`Reachable.invariant`) and the restriction of a system
  to the calls that meet a condition (`guarded`), which is how "in every run
  whose steps all meet the condition" is written.
-/

namespace ExynosHal.TransitionSystem

universe u v

variable {σ : Type u} {α : Type v}

/-- States reached from an initial state by finitely many steps. -/
inductive Reachable (init : σ → Prop) (step : σ → α → σ → Prop) : σ → Prop where
  | start {s : σ} : init s → Reachable init step s
  | next {s s' : σ} {a : α} : Reachable init step s → step s a s' → Reachable init step s'

/-- The steps of a total transition function. -/
def ofFun (f : σ → α → σ) : σ → α → σ → Prop := fun s a s' => s' = f s a

/-- The steps whose call meets `guard` in the state before the step. -/
def guarded (guard : σ → α → Prop) (step : σ → α → σ → Prop) : σ → α → σ → Prop :=
  fun s a s' => guard s a ∧ step s a s'

section Invariants

variable {init : σ → Prop} {step : σ → α → σ → Prop} {guard : σ → α → Prop}

/-- **Invariant rule.**  What holds initially and is kept by every step holds in
    every reachable state. -/
theorem Reachable.invariant {I : σ → Prop} (hinit : ∀ s, init s → I s)
    (hstep : ∀ s a s', I s → step s a s' → I s') {s : σ}
    (h : Reachable init step s) : I s := by
  induction h with
  | start h0 => exact hinit _ h0
  | next _ hs ih => exact hstep _ _ _ ih hs

/-- Forgetting the guard: a guarded run is a run. -/
theorem Reachable.of_guarded {s : σ} (h : Reachable init (guarded guard step) s) :
    Reachable init step s := by
  induction h with
  | start h0 => exact .start h0
  | next _ hs ih => exact .next ih hs.2

/-- A list of calls to a total transition function. -/
theorem Reachable.run {f : σ → α → σ} {s : σ} (h : Reachable init (ofFun f) s) (l : List α) :
    Reachable init (ofFun f) (l.foldl f s) := by
  induction l generalizing s with
  | nil => exact h
  | cons a l ih => exact ih (h.next rfl)

theorem Reachable.run_guarded {f : σ → α → σ} {s : σ} (h : Reachable init (guarded guard (ofFun f)) s)
    {l : List α} (hl : ∀ a ∈ l, ∀ s, guard s a) : Reachable init (guarded guard (ofFun f)) (l.foldl f s) := by
  induction l generalizing s with
  | nil => exact h
  | cons a l ih =>
      exact ih (h.next ⟨hl a List.mem_cons_self s, rfl⟩) fun b hb => hl b (List.mem_cons_of_mem _ hb)

end Invariants

section Loops

variable {ι : Type v} {f : σ → ι → σ} {Before After : σ → ι → Prop}

/-- **Loop rule.**  A loop that visits every index at most once establishes
    `After` for all of them, if its body does so for the index it visits and
    leaves both assertions about the other indices alone. -/
theorem foldl_each (hbody : ∀ s i, Before s i → After (f s i) i)
    (hbefore : ∀ s i j, j ≠ i → Before s i → Before s j → Before (f s i) j)
    (hafter : ∀ s i j, j ≠ i → Before s i → After s j → After (f s i) j)
    {l : List ι} (hl : l.Nodup) {s : σ} (hin : ∀ i ∈ l, Before s i)
    (hout : ∀ i, i ∉ l → After s i) (i : ι) : After (l.foldl f s) i := by
  induction l generalizing s with
  | nil => exact hout i List.not_mem_nil
  | cons j l ih =>
      obtain ⟨hj, hl⟩ := List.nodup_cons.mp hl
      have hnow : Before s j := hin j List.mem_cons_self
      refine ih hl (fun k hk => ?_) (fun k hk => ?_)
      · exact hbefore s j k (fun h => hj (h ▸ hk)) hnow (hin k (List.mem_cons_of_mem _ hk))
      · by_cases hkj : k = j
        · exact hkj ▸ hbody s j hnow
        · refine hafter s j k hkj hnow (hout k fun hmem => ?_)
          rcases List.mem_cons.mp hmem with h | h
          · exact hkj h
          · exact hk h

/-- A property of the state that the body keeps holds after the loop. -/
theorem foldl_keeps {P : σ → Prop} (hbody : ∀ s i, P s → P (f s i)) (l : List ι) {s : σ}
    (h : P s) : P (l.foldl f s) := by
  induction l generalizing s with
  | nil => exact h
  | cons i l ih => exact ih (hbody s i h)

/-- **Counting loop.**  An assertion that depends on the index goes from the first
    index to the one after the last. -/
theorem foldl_range' {f : σ → Nat → σ} {P : Nat → σ → Prop} {a n : Nat}
    (hbody : ∀ i s, a ≤ i → i < a + n → P i s → P (i + 1) (f s i)) {s : σ} (h : P a s) :
    P (a + n) ((List.range' a n).foldl f s) := by
  induction n with
  | zero => exact h
  | succ n ih =>
      rw [List.range'_concat, List.foldl_append, Nat.one_mul, ← Nat.add_assoc]
      refine hbody _ _ (Nat.le_add_right a n) (by omega) (ih fun i s hi hn hP => ?_)
      exact hbody i s hi (by omega) hP

end Loops

end ExynosHal.TransitionSystem
