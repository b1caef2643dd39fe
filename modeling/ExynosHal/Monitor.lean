/-
  ExynosHal/Monitor.lean
  ======================
  **Threads that share a state under a mutex and a condition variable.**

  A program gives each thread an instruction at each of its places.  The steps of the
  threads come in any order; a thread that waits may also wake up for no reason, and has
  to get the mutex back before it goes on.

  Three rules.  `Respects` says at which places a thread is inside, and
  `inside_iff_owner` that at most one thread is.  `Outline` annotates the places with
  assertions about the shared state, and `Outline.sound` says that they hold.
  `NoLostWakeup` is about a thread that waits until a condition fails: as long as
  everybody who makes it fail notifies afterwards, a thread that sleeps has nothing to
  do, or somebody is about to wake it.
-/
import Mathlib.Logic.Function.Basic
import ExynosHal.TransitionSystem

namespace ExynosHal.Monitor

open ExynosHal.TransitionSystem Function

variable {Tid ε σ Pc : Type}

/-! ### Programs -/

/-- What a thread does at one place. -/
inductive Instr (ε σ Pc : Type) where
  | lock (next : Pc)
  | unlock (next : Pc)
  /-- Gives the mutex back, sleeps, and takes it again once woken. -/
  | wait (next : Pc)
  /-- Wakes all that sleep. -/
  | notify (next : Pc)
  /-- Anything else, for an input from outside; `none` while it is blocked. -/
  | act (f : ε → σ → Option (σ × Pc))

/-- A step that needs no input and is never blocked. -/
def always (f : σ → σ × Pc) : Instr ε σ Pc := .act fun _ x => some (f x)

/-- A step that changes nothing. -/
def branch (f : σ → Pc) : Instr ε σ Pc := always fun x => (x, f x)

inductive Phase where
  | running | asleep | woken
  deriving DecidableEq, Repr

structure State (Tid σ Pc : Type) where
  owner : Option Tid
  shared : σ
  pc : Tid → Pc
  phase : Tid → Phase

inductive Event (Tid ε : Type) where
  | run (t : Tid) (e : ε)
  /-- A waiting thread wakes up without having been notified. -/
  | wakeup (t : Tid)

section Semantics

variable [DecidableEq Tid]

def State.goto (s : State Tid σ Pc) (t : Tid) (next : Pc) : State Tid σ Pc :=
  { s with pc := update s.pc t next }

def State.setPhase (s : State Tid σ Pc) (t : Tid) (phase : Phase) : State Tid σ Pc :=
  { s with phase := update s.phase t phase }

omit [DecidableEq Tid] in
/-- All that sleep are woken. -/
def State.wakeAll (s : State Tid σ Pc) : State Tid σ Pc :=
  { s with phase := fun t => if s.phase t = .asleep then .woken else s.phase t }

/-- The thread takes the mutex if it is free. -/
def State.acquire (s : State Tid σ Pc) (t : Tid) (next : Pc) : Option (State Tid σ Pc) :=
  if s.owner = none then some ({ s with owner := some t }.goto t next) else none

/-- A step of a thread that runs. -/
def runInstr (s : State Tid σ Pc) (t : Tid) (e : ε) : Instr ε σ Pc → Option (State Tid σ Pc)
  | .lock next => s.acquire t next
  | .unlock next => some ({ s with owner := none }.goto t next)
  | .wait _ => some ({ s with owner := none }.setPhase t .asleep)
  | .notify next => some (s.wakeAll.goto t next)
  | .act f => (f e s.shared).map fun r => { s with shared := r.1 }.goto t r.2

/-- A woken thread takes the mutex and goes on behind its wait. -/
def resume (s : State Tid σ Pc) (t : Tid) : Instr ε σ Pc → Option (State Tid σ Pc)
  | .wait next => (s.setPhase t .running).acquire t next
  | _ => none

def exec (code : Tid → Pc → Instr ε σ Pc) (s : State Tid σ Pc) :
    Event Tid ε → Option (State Tid σ Pc)
  | .run t e =>
      match s.phase t with
      | .running => runInstr s t e (code t (s.pc t))
      | .asleep => none
      | .woken => resume s t (code t (s.pc t))
  | .wakeup t => if s.phase t = .asleep then some (s.setPhase t .woken) else none

def Step (code : Tid → Pc → Instr ε σ Pc) (s : State Tid σ Pc) (a : Event Tid ε)
    (s' : State Tid σ Pc) : Prop :=
  exec code s a = some s'

/-- The state after a list of events, if each of them can happen. -/
def execAll (code : Tid → Pc → Instr ε σ Pc) :
    State Tid σ Pc → List (Event Tid ε) → Option (State Tid σ Pc)
  | s, [] => some s
  | s, a :: l => (exec code s a).bind fun s => execAll code s l

omit [DecidableEq Tid] in
/-- Steps of one thread. -/
def steps (t : Tid) (e : ε) (n : Nat) : List (Event Tid ε) := List.replicate n (.run t e)

end Semantics

/-! ### What a step can do -/

/-- The ways in which thread `t` can change the state. -/
inductive Cases [DecidableEq Tid] (code : Tid → Pc → Instr ε σ Pc) (s : State Tid σ Pc)
    (t : Tid) : State Tid σ Pc → Prop where
  | lock (next : Pc) : s.phase t = .running → code t (s.pc t) = .lock next → s.owner = none →
      Cases code s t ({ s with owner := some t }.goto t next)
  | unlock (next : Pc) : s.phase t = .running → code t (s.pc t) = .unlock next →
      Cases code s t ({ s with owner := none }.goto t next)
  | sleep (next : Pc) : s.phase t = .running → code t (s.pc t) = .wait next →
      Cases code s t ({ s with owner := none }.setPhase t .asleep)
  | wakeup : s.phase t = .asleep → Cases code s t (s.setPhase t .woken)
  | resume (next : Pc) : s.phase t = .woken → code t (s.pc t) = .wait next → s.owner = none →
      Cases code s t ({ s.setPhase t .running with owner := some t }.goto t next)
  | notify (next : Pc) : s.phase t = .running → code t (s.pc t) = .notify next →
      Cases code s t (s.wakeAll.goto t next)
  | act (f : ε → σ → Option (σ × Pc)) (e : ε) (x : σ) (next : Pc) : s.phase t = .running →
      code t (s.pc t) = .act f → f e s.shared = some (x, next) →
      Cases code s t ({ s with shared := x }.goto t next)

section Rules

variable [DecidableEq Tid] {code : Tid → Pc → Instr ε σ Pc} {s s' : State Tid σ Pc}

theorem State.acquire_some {t : Tid} {next : Pc} (h : s.acquire t next = some s') :
    s.owner = none ∧ s' = { s with owner := some t }.goto t next := by
  unfold State.acquire at h
  split at h
  · next hfree => exact ⟨hfree, (Option.some.inj h).symm⟩
  · cases h

/-- **Inversion of a step.** -/
theorem step_cases {a : Event Tid ε} (h : Step code s a s') : ∃ t, Cases code s t s' := by
  cases a with
  | wakeup t =>
      simp only [Step, exec] at h
      by_cases hphase : s.phase t = .asleep
      · rw [if_pos hphase] at h
        exact ⟨t, Option.some.inj h ▸ .wakeup hphase⟩
      · rw [if_neg hphase] at h
        cases h
  | run t e =>
      refine ⟨t, ?_⟩
      simp only [Step, exec] at h
      cases hphase : s.phase t with
      | running =>
          rw [hphase] at h
          cases hcode : code t (s.pc t) with
          | lock next =>
              rw [hcode] at h
              obtain ⟨hfree, rfl⟩ := State.acquire_some h
              exact .lock next hphase hcode hfree
          | unlock next =>
              rw [hcode] at h
              exact Option.some.inj h ▸ .unlock next hphase hcode
          | wait next =>
              rw [hcode] at h
              exact Option.some.inj h ▸ .sleep next hphase hcode
          | notify next =>
              rw [hcode] at h
              exact Option.some.inj h ▸ .notify next hphase hcode
          | act f =>
              rw [hcode] at h
              obtain ⟨⟨x, next⟩, hf, rfl⟩ := Option.map_eq_some_iff.mp h
              exact .act f e x next hphase hcode hf
      | asleep =>
          rw [hphase] at h
          cases h
      | woken =>
          rw [hphase] at h
          cases hcode : code t (s.pc t) with
          | wait next =>
              rw [hcode] at h
              obtain ⟨hfree, rfl⟩ := State.acquire_some h
              exact .resume next hphase hcode hfree
          | _ =>
              rw [hcode] at h
              cases h

theorem execAll_reachable {init : State Tid σ Pc → Prop} {l : List (Event Tid ε)}
    (h : Reachable init (Step code) s) (hrun : execAll code s l = some s') :
    Reachable init (Step code) s' := by
  induction l generalizing s with
  | nil => exact Option.some.inj hrun ▸ h
  | cons a l ih =>
      obtain ⟨s₁, hstep, hrest⟩ := Option.bind_eq_some_iff.mp hrun
      exact ih (h.next hstep) hrest

/-! ### Mutual exclusion -/

/-- The instruction at `p` takes and gives the mutex as `holds` says. -/
def Instr.Respects (holds : Pc → Bool) (p : Pc) : Instr ε σ Pc → Prop
  | .lock next => holds p = false ∧ holds next = true
  | .unlock next => holds p = true ∧ holds next = false
  | .wait next => holds p = true ∧ holds next = true
  | .notify next => holds next = holds p
  | .act f => ∀ e x x' next, f e x = some (x', next) → holds next = holds p

/-- Thread `t` is inside. -/
def Inside (holds : Tid → Pc → Bool) (s : State Tid σ Pc) (t : Tid) : Prop :=
  s.phase t = .running ∧ holds t (s.pc t) = true

/-- Nobody has done anything yet. -/
structure Start (holds : Tid → Pc → Bool) (s : State Tid σ Pc) : Prop where
  free : s.owner = none
  running : ∀ t, s.phase t = .running
  outside : ∀ t, holds t (s.pc t) = false

/-- Who is inside has the mutex; who does not run is at a wait. -/
structure Owned (code : Tid → Pc → Instr ε σ Pc) (holds : Tid → Pc → Bool)
    (s : State Tid σ Pc) : Prop where
  inside : ∀ t, Inside holds s t ↔ s.owner = some t
  waits : ∀ t, s.phase t ≠ .running → ∃ next, code t (s.pc t) = .wait next

variable {holds : Tid → Pc → Bool}

omit [DecidableEq Tid] in
theorem Start.owned (h : Start holds s) : Owned code holds s where
  inside t := by simp [Inside, h.free, h.outside t]
  waits t hphase := absurd (h.running t) hphase

/-- A step of `t` that changes only the place of `t`. -/
theorem Owned.move (h : Owned code holds s) {t : Tid} {next : Pc} {x : σ}
    (hphase : s.phase t = .running) (hholds : holds t next = holds t (s.pc t)) :
    Owned code holds ({ s with shared := x }.goto t next) where
  inside u := by
    by_cases hu : u = t
    · subst hu
      simpa [Inside, State.goto, hholds] using h.inside u
    · simpa [Inside, State.goto, hu] using h.inside u
  waits u hu := by
    by_cases hut : u = t
    · subst hut
      exact absurd hphase hu
    · simpa [State.goto, hut] using h.waits u hu

/-- Thread `t` is at `next`, running, and is the owner. -/
theorem Owned.enter (h : Owned code holds s) {t : Tid} {next : Pc} (hfree : s.owner = none)
    (hholds : holds t next = true) :
    Owned code holds ({ s.setPhase t .running with owner := some t }.goto t next) where
  inside u := by
    by_cases hu : u = t
    · subst hu
      simp [Inside, State.goto, State.setPhase, hholds]
    · have hout := h.inside u
      rw [hfree] at hout
      simpa [Inside, State.goto, State.setPhase, hu, Ne.symm hu] using hout
  waits u hu := by
    by_cases hut : u = t
    · subst hut
      simp [State.goto, State.setPhase] at hu
    · simp only [State.goto, State.setPhase, update_of_ne hut] at hu ⊢
      exact h.waits u hu

theorem Owned.step (hcode : ∀ t p, (code t p).Respects (holds t) p) (h : Owned code holds s)
    {a : Event Tid ε} (hstep : Step code s a s') : Owned code holds s' := by
  obtain ⟨t, hcases⟩ := step_cases hstep
  cases hcases with
  | lock next hphase hinstr hfree =>
      have hresp := hcode t (s.pc t)
      rw [hinstr] at hresp
      have henter := h.enter (t := t) hfree hresp.2
      rwa [show s.setPhase t .running = s by simp [State.setPhase, ← hphase]] at henter
  | unlock next hphase hinstr =>
      have hresp := hcode t (s.pc t)
      rw [hinstr] at hresp
      have howner := (h.inside t).mp ⟨hphase, hresp.1⟩
      refine ⟨fun u => ?_, fun u hu => ?_⟩
      · by_cases hut : u = t
        · subst hut
          simp [Inside, State.goto, hresp.2]
        · have hout := h.inside u
          rw [howner] at hout
          simpa [Inside, State.goto, hut, Ne.symm hut] using hout
      · by_cases hut : u = t
        · subst hut
          exact absurd hphase hu
        · simpa [State.goto, hut] using h.waits u hu
  | sleep next hphase hinstr =>
      have hresp := hcode t (s.pc t)
      rw [hinstr] at hresp
      have howner := (h.inside t).mp ⟨hphase, hresp.1⟩
      refine ⟨fun u => ?_, fun u hu => ?_⟩
      · by_cases hut : u = t
        · subst hut
          simp [Inside, State.setPhase]
        · have hout := h.inside u
          rw [howner] at hout
          simpa [Inside, State.setPhase, hut, Ne.symm hut] using hout
      · by_cases hut : u = t
        · subst hut
          exact ⟨next, hinstr⟩
        · simp only [State.setPhase, update_of_ne hut] at hu ⊢
          exact h.waits u hu
  | wakeup hphase =>
      refine ⟨fun u => ?_, fun u hu => ?_⟩
      · by_cases hut : u = t
        · subst hut
          have hout := h.inside u
          simpa [Inside, State.setPhase, hphase] using hout
        · simpa [Inside, State.setPhase, hut] using h.inside u
      · by_cases hut : u = t
        · subst hut
          exact h.waits u (by simp [hphase])
        · simp only [State.setPhase, update_of_ne hut] at hu ⊢
          exact h.waits u hu
  | resume next hphase hinstr hfree =>
      have hresp := hcode t (s.pc t)
      rw [hinstr] at hresp
      exact h.enter hfree hresp.2
  | notify next hphase hinstr =>
      have hresp := hcode t (s.pc t)
      rw [hinstr] at hresp
      have hwoken : Owned code holds s.wakeAll := by
        refine ⟨fun u => ?_, fun u hu => h.waits u fun hrun => hu ?_⟩
        · have hiff : s.wakeAll.phase u = .running ↔ s.phase u = .running := by
            cases hu : s.phase u <;> simp [State.wakeAll, hu]
          rw [Inside, hiff]
          exact h.inside u
        · simp [State.wakeAll, hrun]
      have hrun : s.wakeAll.phase t = .running := by simp [State.wakeAll, hphase]
      exact hwoken.move (x := s.shared) hrun hresp
  | act f e x next hphase hinstr hf =>
      have hresp := hcode t (s.pc t)
      rw [hinstr] at hresp
      exact h.move hphase (hresp e s.shared x next hf)

/-- **Mutual exclusion.**  The thread that is inside is the owner of the mutex. -/
theorem inside_iff_owner (hcode : ∀ t p, (code t p).Respects (holds t) p)
    {init : State Tid σ Pc → Prop} (hinit : ∀ s, init s → Start holds s)
    (h : Reachable init (Step code) s) : Owned code holds s :=
  h.invariant (fun _ h0 => (hinit _ h0).owned) fun _ _ _ ho hs => ho.step hcode hs

/-! ### Assertions -/

/-- What holds of the shared state, at any time (`global`), while a thread is at a
    `place` of its program, and while it waits. -/
structure Assertions (Tid σ Pc : Type) where
  global : σ → Prop
  place : Tid → Pc → σ → Prop
  waiting : Tid → σ → Prop

variable {A : Assertions Tid σ Pc}

/-- The instruction at `p` leads from one assertion to the next. -/
def Instr.Annotated (A : Assertions Tid σ Pc) (t : Tid) (p : Pc) : Instr ε σ Pc → Prop
  | .lock next | .unlock next | .notify next => ∀ x, A.global x → A.place t p x → A.place t next x
  | .wait next => ∀ x, A.global x →
      (A.place t p x → A.waiting t x) ∧ (A.waiting t x → A.place t next x)
  | .act f => ∀ e x x' next, f e x = some (x', next) → A.global x → A.place t p x →
      A.global x' ∧ A.place t next x'

section Annotated

omit [DecidableEq Tid]

variable {t : Tid} {p : Pc}

theorem annotated_always {f : σ → σ × Pc}
    (h : ∀ x, A.global x → A.place t p x → A.global (f x).1 ∧ A.place t (f x).2 (f x).1) :
    (always f : Instr ε σ Pc).Annotated A t p := by
  intro e x x' next hact hglobal hplace
  have hf : f x = (x', next) := Option.some.inj hact
  have hnext := h x hglobal hplace
  rwa [hf] at hnext

theorem annotated_branch {f : σ → Pc}
    (h : ∀ x, A.global x → A.place t p x → A.place t (f x) x) :
    (branch f : Instr ε σ Pc).Annotated A t p :=
  annotated_always fun x hglobal hplace => ⟨hglobal, h x hglobal hplace⟩

/-- The thread never comes to this place. -/
theorem annotated_elsewhere {i : Instr ε σ Pc} (h : ∀ x, ¬A.place t p x)
    (hwait : ∀ next, i = .wait next → ∀ x, ¬A.waiting t x) : i.Annotated A t p := by
  cases i with
  | wait next =>
      exact fun x _ => ⟨fun hplace => absurd hplace (h x), fun hw => absurd hw (hwait next rfl x)⟩
  | act f => exact fun _ x _ _ _ _ hplace => absurd hplace (h x)
  | _ => exact fun x _ hplace => absurd hplace (h x)

end Annotated

/-- **An annotation of all places.**  Each thread establishes what it relies on, and no
    other thread takes it away; two threads are never inside at once. -/
structure Outline (code : Tid → Pc → Instr ε σ Pc) (holds : Tid → Pc → Bool)
    (A : Assertions Tid σ Pc) : Prop where
  respects : ∀ t p, (code t p).Respects (holds t) p
  sequential : ∀ t p, (code t p).Annotated A t p
  stable : ∀ t p f e x x' next, code t p = .act f → f e x = some (x', next) → A.global x →
    A.place t p x → ∀ u, u ≠ t →
      (∀ q, ¬(holds t p = true ∧ holds u q = true) → A.place u q x → A.place u q x') ∧
      (A.waiting u x → A.waiting u x')

/-- The assertions hold. -/
structure Annotates (A : Assertions Tid σ Pc) (s : State Tid σ Pc) : Prop where
  global : A.global s.shared
  running : ∀ t, s.phase t = .running → A.place t (s.pc t) s.shared
  waiting : ∀ t, s.phase t ≠ .running → A.waiting t s.shared

/-- The thread goes on, and nothing else changes. -/
theorem Annotates.goto (h : Annotates A s) {t : Tid} {next : Pc} (owner : Option Tid)
    (hphase : s.phase t = .running) (hnext : A.place t next s.shared) :
    Annotates A ({ s with owner := owner }.goto t next) where
  global := h.global
  running u hu := by
    by_cases hut : u = t
    · subst hut
      simpa [State.goto] using hnext
    · simpa [State.goto, hut] using h.running u hu
  waiting := h.waiting

theorem Outline.step (O : Outline code holds A) (ho : Owned code holds s)
    (h : Annotates A s) {a : Event Tid ε} (hstep : Step code s a s') : Annotates A s' := by
  obtain ⟨t, hcases⟩ := step_cases hstep
  have hseq := O.sequential t (s.pc t)
  cases hcases with
  | lock next hphase hinstr hfree =>
      rw [hinstr] at hseq
      exact h.goto _ hphase (hseq _ h.global (h.running t hphase))
  | unlock next hphase hinstr =>
      rw [hinstr] at hseq
      exact h.goto _ hphase (hseq _ h.global (h.running t hphase))
  | sleep next hphase hinstr =>
      rw [hinstr] at hseq
      refine ⟨h.global, fun u hu => h.running u ?_, fun u hu => ?_⟩
      · by_cases hut : u = t
        · subst hut
          exact hphase
        · simpa [State.setPhase, hut] using hu
      · by_cases hut : u = t
        · subst hut
          exact (hseq _ h.global).1 (h.running u hphase)
        · simp only [State.setPhase, update_of_ne hut] at hu
          exact h.waiting u hu
  | wakeup hphase =>
      refine ⟨h.global, fun u hu => h.running u ?_, fun u hu => h.waiting u ?_⟩
      · by_cases hut : u = t
        · subst hut
          simp [State.setPhase] at hu
        · simpa [State.setPhase, hut] using hu
      · by_cases hut : u = t
        · subst hut
          simp [hphase]
        · simpa [State.setPhase, hut] using hu
  | resume next hphase hinstr hfree =>
      rw [hinstr] at hseq
      have hwaits := h.waiting t (by simp [hphase])
      refine ⟨h.global, fun u hu => ?_, fun u hu => h.waiting u ?_⟩
      · by_cases hut : u = t
        · subst hut
          simpa [State.goto, State.setPhase] using (hseq _ h.global).2 hwaits
        · simp only [State.goto, State.setPhase, update_of_ne hut] at hu ⊢
          exact h.running u hu
      · by_cases hut : u = t
        · subst hut
          simp [hphase]
        · simpa [State.goto, State.setPhase, hut] using hu
  | notify next hphase hinstr =>
      rw [hinstr] at hseq
      have hwoken : Annotates A s.wakeAll := by
        refine ⟨h.global, fun u hu => h.running u ?_, fun u hu => h.waiting u ?_⟩
        · cases hp : s.phase u <;> simp [State.wakeAll, hp] at hu ⊢
        · cases hp : s.phase u <;> simp [State.wakeAll, hp] at hu ⊢
      have hrun : s.wakeAll.phase t = .running := by simp [State.wakeAll, hphase]
      exact hwoken.goto s.owner hrun (hseq _ h.global (h.running t hphase))
  | act f e x next hphase hinstr hf =>
      rw [hinstr] at hseq
      obtain ⟨hglobal, hnext⟩ := hseq e _ _ _ hf h.global (h.running t hphase)
      have hstable := O.stable t _ f e _ _ _ hinstr hf h.global (h.running t hphase)
      refine ⟨hglobal, fun u hu => ?_, fun u hu => ?_⟩
      · have hu : s.phase u = .running := hu
        by_cases hut : u = t
        · subst hut
          simpa [State.goto] using hnext
        · simp only [State.goto, update_of_ne hut]
          refine (hstable u hut).1 _ (fun hin => ?_) (h.running u hu)
          have ht := (ho.inside t).mp ⟨hphase, hin.1⟩
          have hu' := (ho.inside u).mp ⟨hu, hin.2⟩
          exact hut (Option.some.inj (hu'.symm.trans ht))
      · have hu : s.phase u ≠ .running := hu
        refine (hstable u ?_).2 (h.waiting u hu)
        rintro rfl
        exact hu hphase

/-- **The assertions hold in every reachable state.** -/
theorem Outline.sound (O : Outline code holds A) {init : State Tid σ Pc → Prop}
    (hinit : ∀ s, init s → Start holds s ∧ Annotates A s) (h : Reachable init (Step code) s) :
    Owned code holds s ∧ Annotates A s :=
  h.invariant (I := fun s => Owned code holds s ∧ Annotates A s)
    (fun _ h0 => ⟨(hinit _ h0).1.owned, (hinit _ h0).2⟩)
    fun _ _ _ hI hs => ⟨hI.1.step O.respects hs, O.step hI.1 hI.2 hs⟩

/-! ### Waiting -/

/-- The instruction at `p` does not forget a notification that is owed. -/
def Instr.KeepsDebt (owes : Pc → Bool) (p : Pc) : Instr ε σ Pc → Prop
  | .lock next => owes p = true → owes next = true
  | .unlock next => owes p = true → owes next = true
  | .wait _ => owes p = false
  | .notify _ => True
  | .act _ => True

/-- **The discipline behind a wait of thread `t`.**  It waits only if it has nothing to
    do, and who gives it something to do owes a notification. -/
structure NoLostWakeup (code : Tid → Pc → Instr ε σ Pc) (A : Assertions Tid σ Pc) (t : Tid)
    (idle : σ → Prop) (owes : Tid → Pc → Bool) : Prop where
  wait : ∀ p next x, code t p = .wait next → A.place t p x → idle x
  debt : ∀ u p, (code u p).KeepsDebt (owes u) p
  act : ∀ u p f e x x' next, u ≠ t → code u p = .act f → f e x = some (x', next) →
    A.place u p x → A.waiting t x → idle x ∨ owes u p = true → idle x' ∨ owes u next = true

/-- Thread `t` sleeps only if it has nothing to do or somebody is about to wake it. -/
def Attended (t : Tid) (idle : σ → Prop) (owes : Tid → Pc → Bool) (s : State Tid σ Pc) : Prop :=
  s.phase t = .asleep →
    idle s.shared ∨ ∃ u, s.phase u = .running ∧ owes u (s.pc u) = true

variable {t : Tid} {idle : σ → Prop} {owes : Tid → Pc → Bool}

theorem NoLostWakeup.step (N : NoLostWakeup code A t idle owes) (ha : Annotates A s)
    (h : Attended t idle owes s) {a : Event Tid ε} (hstep : Step code s a s') :
    Attended t idle owes s' := by
  obtain ⟨u, hcases⟩ := step_cases hstep
  have hdebt := N.debt u (s.pc u)
  intro hasleep
  cases hcases with
  | lock next hphase hinstr hfree =>
      rw [hinstr] at hdebt
      refine (h hasleep).imp id ?_
      rintro ⟨v, hrun, howes⟩
      refine ⟨v, hrun, ?_⟩
      by_cases hvu : v = u
      · subst hvu
        simpa [State.goto] using hdebt howes
      · simpa [State.goto, hvu] using howes
  | unlock next hphase hinstr =>
      rw [hinstr] at hdebt
      refine (h hasleep).imp id ?_
      rintro ⟨v, hrun, howes⟩
      refine ⟨v, hrun, ?_⟩
      by_cases hvu : v = u
      · subst hvu
        simpa [State.goto] using hdebt howes
      · simpa [State.goto, hvu] using howes
  | sleep next hphase hinstr =>
      rw [hinstr] at hdebt
      by_cases htu : t = u
      · subst htu
        exact .inl (N.wait _ _ _ hinstr (ha.running t hphase))
      · simp only [State.setPhase, update_of_ne htu] at hasleep
        refine (h hasleep).imp id ?_
        rintro ⟨v, hrun, howes⟩
        have hvu : v ≠ u := by
          rintro rfl
          exact absurd howes (by simp [show owes v (s.pc v) = false from hdebt])
        exact ⟨v, by simpa [State.setPhase, hvu] using hrun, howes⟩
  | wakeup hphase =>
      have htu : t ≠ u := by
        rintro rfl
        simp [State.setPhase] at hasleep
      simp only [State.setPhase, update_of_ne htu] at hasleep
      refine (h hasleep).imp id ?_
      rintro ⟨v, hrun, howes⟩
      have hvu : v ≠ u := by
        rintro rfl
        exact absurd (hphase.symm.trans hrun) nofun
      exact ⟨v, by simpa [State.setPhase, hvu] using hrun, howes⟩
  | resume next hphase hinstr hfree =>
      have htu : t ≠ u := by
        rintro rfl
        simp [State.setPhase, State.goto] at hasleep
      simp only [State.goto, State.setPhase, update_of_ne htu] at hasleep
      refine (h hasleep).imp id ?_
      rintro ⟨v, hrun, howes⟩
      have hvu : v ≠ u := by
        rintro rfl
        exact absurd (hphase.symm.trans hrun) nofun
      exact ⟨v, by simpa [State.goto, State.setPhase, hvu] using hrun,
        by simpa [State.goto, State.setPhase, hvu] using howes⟩
  | notify next hphase hinstr =>
      cases hp : s.phase t <;> simp [State.wakeAll, State.goto, hp] at hasleep
  | act f e x next hphase hinstr hf =>
      have hasleep : s.phase t = .asleep := hasleep
      have hut : u ≠ t := by
        rintro rfl
        exact absurd (hphase.symm.trans hasleep) nofun
      have hact := N.act u _ f e _ _ _ hut hinstr hf (ha.running u hphase)
        (ha.waiting t (by simp [hasleep]))
      have hnow : owes u next = true →
          ∃ v, s.phase v = .running ∧ owes v (update s.pc u next v) = true :=
        fun howes => ⟨u, hphase, by simpa using howes⟩
      rcases h hasleep with hidle | ⟨v, hrun, howes⟩
      · exact (hact (.inl hidle)).imp id hnow
      · by_cases hvu : v = u
        · subst hvu
          exact (hact (.inr howes)).imp id hnow
        · exact .inr ⟨v, hrun, by simpa [State.goto, hvu] using howes⟩

/-- **No wake-up is lost.** -/
theorem NoLostWakeup.attended (N : NoLostWakeup code A t idle owes) (O : Outline code holds A)
    {init : State Tid σ Pc → Prop} (hinit : ∀ s, init s → Start holds s ∧ Annotates A s)
    (h : Reachable init (Step code) s) : Attended t idle owes s := by
  have hboth : (Owned code holds s ∧ Annotates A s) ∧ Attended t idle owes s := by
    refine h.invariant
      (I := fun s => (Owned code holds s ∧ Annotates A s) ∧ Attended t idle owes s) ?_ ?_
    · intro s h0
      obtain ⟨hstart, ha⟩ := hinit s h0
      exact ⟨⟨hstart.owned, ha⟩, fun hasleep => absurd ((hstart.running t).symm.trans hasleep) nofun⟩
    · rintro s a s' ⟨⟨ho, ha⟩, hatt⟩ hstep
      exact ⟨⟨ho.step O.respects hstep, O.step ho ha hstep⟩, N.step ha hatt hstep⟩
  exact hboth.2

end Rules

end ExynosHal.Monitor
