/-
  ExynosHal/NonRecursiveLock.lean
  ===============================
  **Programs that share a state under one non-recursive lock.**

  A program runs on a shared state and on whether its own thread holds the lock.
  Another thread's lock is given back some day, so to wait for it is no event; a
  thread that asks for the lock it holds itself waits for ever, and the program
  has no result.  `autolock` is the scope of a lock guard: every way out of its
  body releases.

  Programs compose by `>>=`, and so do the rules: what never asks for the lock is
  `Silent`, a guard around a silent program is safe, and whether a sequence waits
  for itself is decided by its parts.
-/

namespace ExynosHal.NonRecursiveLock

/-- The shared state as one thread sees it. -/
structure Holding (σ : Type) where
  state : σ
  /-- This thread holds the lock. -/
  held : Bool
deriving DecidableEq, Repr

/-- `none`: the thread waits for a lock that it holds itself. -/
abbrev Program (σ α : Type) := StateT (Holding σ) Option α

variable {σ α β : Type}

def lock : Program σ Unit := fun s => if s.held then none else some ((), { s with held := true })

def unlock : Program σ Unit := fun s => some ((), { s with held := false })

/-- A step on the shared state that does not know the lock. -/
def quietly (f : σ → α × σ) : Program σ α :=
  fun s => some ((f s.state).1, { s with state := (f s.state).2 })

/-- The scope of a lock guard. -/
def autolock (body : Program σ α) : Program σ α := do
  lock
  let a ← body
  unlock
  return a

/-- The program never waits for its own thread. -/
def Returns (p : Program σ α) (s : Holding σ) : Prop := ∃ r, p.run s = some r

/-- The program never asks for the lock and never gives it back. -/
def Silent (p : Program σ α) : Prop :=
  ∀ s, ∃ a x, p.run s = some (a, { s with state := x })

/-- Under the lock, a program that returns has kept the lock and what `read` reads. -/
def Frames {γ : Type} (read : σ → γ) (p : Program σ α) : Prop :=
  ∀ x r, p.run ⟨x, true⟩ = some r → read r.2.state = read x ∧ r.2.held = true

@[simp] theorem run_lock_free (x : σ) :
    (lock : Program σ Unit).run ⟨x, false⟩ = some ((), ⟨x, true⟩) := rfl

@[simp] theorem run_lock_held (x : σ) : (lock : Program σ Unit).run ⟨x, true⟩ = none := rfl

@[simp] theorem run_unlock (s : Holding σ) :
    (unlock : Program σ Unit).run s = some ((), ⟨s.state, false⟩) := rfl

/-! ### Silent programs -/

@[simp] theorem run_quietly (f : σ → α × σ) (s : Holding σ) :
    (quietly f).run s = some ((f s.state).1, { s with state := (f s.state).2 }) := rfl

theorem Silent.quietly (f : σ → α × σ) : Silent (quietly f) := by
  intro s
  exact ⟨(f s.state).1, (f s.state).2, rfl⟩

theorem Silent.pure (a : α) : Silent (Pure.pure a : Program σ α) := by
  intro s
  exact ⟨a, s.state, rfl⟩

theorem Silent.bind {p : Program σ α} {f : α → Program σ β} (hp : Silent p)
    (hf : ∀ a, Silent (f a)) : Silent (p >>= f) := by
  intro s
  obtain ⟨a, x, h⟩ := hp s
  obtain ⟨b, y, h'⟩ := hf a { s with state := x }
  refine ⟨b, y, ?_⟩
  simp [h, h']

theorem Silent.returns {p : Program σ α} (hp : Silent p) (s : Holding σ) : Returns p s := by
  obtain ⟨a, x, h⟩ := hp s
  exact ⟨_, h⟩

/-! ### Sequences -/

theorem returns_bind {p : Program σ α} {f : α → Program σ β} {s : Holding σ} :
    Returns (p >>= f) s ↔ ∃ r, p.run s = some r ∧ Returns (f r.1) r.2 := by
  constructor
  · rintro ⟨r, hr⟩
    simp only [StateT.run_bind, Option.bind_eq_bind, Option.bind_eq_some_iff] at hr
    obtain ⟨q, hq, hr⟩ := hr
    exact ⟨q, hq, r, hr⟩
  · rintro ⟨q, hq, r, hr⟩
    refine ⟨r, ?_⟩
    simp [hq, hr]

/-- A silent end of a sequence cannot be what waits. -/
theorem returns_bind_silent {p : Program σ α} {f : α → Program σ β} (hf : ∀ a, Silent (f a))
    {s : Holding σ} : Returns (p >>= f) s ↔ Returns p s := by
  rw [returns_bind]
  constructor
  · rintro ⟨r, hr, -⟩
    exact ⟨r, hr⟩
  · rintro ⟨r, hr⟩
    exact ⟨r, hr, (hf r.1).returns r.2⟩

/-! ### Lock guards -/

theorem run_autolock_free (body : Program σ α) (x : σ) :
    (autolock body).run ⟨x, false⟩ =
      (body.run ⟨x, true⟩).map fun r => (r.1, ⟨r.2.state, false⟩) := by
  cases h : body.run ⟨x, true⟩ with
  | none => simp [autolock, h]
  | some r => simp [autolock, h]

/-- A guard inside the scope of another one waits for its own thread. -/
theorem run_autolock_held (body : Program σ α) (x : σ) : (autolock body).run ⟨x, true⟩ = none := by
  simp [autolock]

theorem not_returns_autolock_held (body : Program σ α) (x : σ) :
    ¬ Returns (autolock body) ⟨x, true⟩ := by
  rintro ⟨r, hr⟩
  rw [run_autolock_held] at hr
  cases hr

theorem returns_autolock_iff (body : Program σ α) (x : σ) :
    Returns (autolock body) ⟨x, false⟩ ↔ Returns body ⟨x, true⟩ := by
  unfold Returns
  rw [run_autolock_free]
  constructor
  · rintro ⟨r, hr⟩
    obtain ⟨q, hq, -⟩ := Option.map_eq_some_iff.mp hr
    exact ⟨q, hq⟩
  · rintro ⟨r, hr⟩
    exact ⟨(r.1, ⟨r.2.state, false⟩), by rw [hr]; rfl⟩

theorem Silent.autolock {body : Program σ α} (h : Silent body) (x : σ) :
    Returns (autolock body) ⟨x, false⟩ := by
  rw [returns_autolock_iff]
  exact h.returns _

/-! ### Frames -/

section Frames

variable {γ : Type} {read : σ → γ}

theorem Frames.quietly {f : σ → α × σ} (h : ∀ x, read (f x).2 = read x) :
    Frames read (quietly f) := by
  rintro x r hr
  cases hr
  exact ⟨h x, rfl⟩

theorem Frames.pure (a : α) : Frames read (Pure.pure a : Program σ α) := by
  rintro x r hr
  cases hr
  exact ⟨rfl, rfl⟩

theorem Frames.bind {p : Program σ α} {f : α → Program σ β} (hp : Frames read p)
    (hf : ∀ a, Frames read (f a)) : Frames read (p >>= f) := by
  rintro x r hr
  simp only [StateT.run_bind, Option.bind_eq_bind, Option.bind_eq_some_iff] at hr
  obtain ⟨⟨a, y, held⟩, hq, hr⟩ := hr
  obtain ⟨hread, rfl⟩ := hp x _ hq
  obtain ⟨hread', hheld⟩ := hf a y r hr
  exact ⟨hread'.trans hread, hheld⟩

/-- A guarded program leaves the lock free, and what its body frames. -/
theorem Frames.autolock {body : Program σ α} (h : Frames read body) {x : σ}
    {r : α × Holding σ} (hr : (autolock body).run ⟨x, false⟩ = some r) :
    read r.2.state = read x ∧ r.2.held = false := by
  rw [run_autolock_free] at hr
  obtain ⟨q, hq, rfl⟩ := Option.map_eq_some_iff.mp hr
  exact ⟨(h x q hq).1, rfl⟩

end Frames

end ExynosHal.NonRecursiveLock
