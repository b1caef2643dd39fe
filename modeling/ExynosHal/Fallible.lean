/-
  ExynosHal/Fallible.lean
  =======================
  **Steps that may fail half-way.**

  A step gives back the state it leaves and whether it succeeded; a failed step
  leaves a state too, and what has to be said about it differs from what a
  success promises.  `Ends` is a specification with two postconditions, and
  `Ends.andThen` is its rule for a sequence that stops at the first failure; a step
  on a part of the state is lifted by `Ends.within`.
-/
import Mathlib.Init

namespace ExynosHal.Fallible

universe u v

variable {σ : Type u}

/-- The next step, if there was no failure. -/
def andThen (r : σ × Bool) (f : σ → σ × Bool) : σ × Bool := if r.2 then f r.1 else r

/-- What holds after a failure and after a success. -/
structure Ends (r : σ × Bool) (fail ok : σ → Prop) : Prop where
  fail : r.2 = false → fail r.1
  ok : r.2 = true → ok r.1

variable {r : σ × Bool} {f : σ → σ × Bool} {F F' P P' Q : σ → Prop} {s : σ}

theorem ends_success (h : P s) : Ends (s, true) F P := ⟨(fun h' => nomatch h'), fun _ => h⟩

theorem ends_failure (h : F s) : Ends (s, false) F P := ⟨fun _ => h, (fun h' => nomatch h')⟩

theorem Ends.mono (h : Ends r F P) (hF : ∀ s, F s → F' s) (hP : ∀ s, P s → P' s) : Ends r F' P' :=
  ⟨fun hr => hF _ (h.fail hr), fun hr => hP _ (h.ok hr)⟩

/-- **Sequence.** -/
theorem Ends.andThen (h : Ends r F P) (hf : ∀ s, P s → Ends (f s) F Q) : Ends (andThen r f) F Q := by
  obtain ⟨s, ok⟩ := r
  cases ok with
  | false => exact ends_failure (h.fail rfl)
  | true => exact hf s (h.ok rfl)

/-- A step on a part of the state. -/
def within {τ : Type v} (get : τ → σ) (set : σ → τ → τ) (f : σ → σ × Bool) (t : τ) : τ × Bool :=
  let r := f (get t)
  (set r.1 t, r.2)

theorem Ends.within {τ : Type v} {get : τ → σ} {set : σ → τ → τ} {t : τ} {G R : τ → Prop}
    (h : Ends (f (get t)) F P) (hF : ∀ s, F s → G (set s t)) (hP : ∀ s, P s → R (set s t)) :
    Ends (within get set f t) G R := ⟨fun hr => hF _ (h.fail hr), fun hr => hP _ (h.ok hr)⟩

/-- Whatever comes of the step. -/
theorem Ends.keeps (h : Ends r P P) : P r.1 := by
  obtain ⟨s, ok⟩ := r
  cases ok with
  | false => exact h.fail rfl
  | true => exact h.ok rfl

end ExynosHal.Fallible
