/-
  ExynosHal/VsyncWorker.lean
  ==========================
  **The thread that delivers vsync events.**

  `Worker` of `libdrmresource/worker.cpp` runs `Routine()` on a thread of its own until
  `Exit()`; `VSyncWorker` waits there for the next vblank and calls back, unless vsync is
  disabled.  `VSyncControl` and `RegisterCallback` may come from any thread; the thread is
  created and ended by one owner.  The places of all functions are instructions of the
  `Monitor` library, so their steps come in any order.

  `enabled_` and `last_timestamp_` are used outside the mutex too: their loads and stores
  are steps of their own.

  `worker_sound` collects what holds in every reachable state: nobody has to wait for
  another call to be noticed, disabled vsync means at most one more event, and the thread
  is gone when `Exit()` returns.
-/
import Mathlib.Algebra.Ring.Int.Defs
import ExynosHal.Monitor

namespace ExynosHal.VsyncWorker

open ExynosHal.TransitionSystem ExynosHal.Monitor Function

/-! ### The phase of synthetic events -/

/-- Whole frames since `last`, up to the end of the current one. -/
def framesUntilNext (last frame current : Int) : Int := frame * ((current - last).tdiv frame + 1)

def getPhasedVSync (last frame current : Int) : Int :=
  if last < 0 then current + frame else framesUntilNext last frame current + last

/-- The next event comes within a frame, and in phase with the last one. -/
theorem getPhasedVSync_spec {last frame current : Int} (hframe : 0 < frame)
    (hlast : last ≤ current) :
    current < getPhasedVSync last frame current ∧
      getPhasedVSync last frame current ≤ current + frame ∧
      (0 ≤ last → frame ∣ getPhasedVSync last frame current - last) := by
  unfold getPhasedVSync framesUntilNext
  by_cases hneg : last < 0
  · rw [if_pos hneg]
    refine ⟨by omega, Int.le_refl _, fun hpos => ?_⟩
    exact absurd hneg (Int.not_lt.mpr hpos)
  · rw [if_neg hneg]
    have hdiv := Int.emod_add_mul_ediv (current - last) frame
    have hlow := Int.emod_nonneg (current - last) (Int.ne_of_gt hframe)
    have hhigh := Int.emod_lt_of_pos (current - last) hframe
    rw [Int.tdiv_eq_ediv_of_nonneg (by omega), Int.mul_add, Int.mul_one]
    refine ⟨by omega, by omega, fun _ => ?_⟩
    rw [Int.add_sub_cancel]
    exact Int.dvd_add (Int.dvd_mul_right _ _) (Int.dvd_refl _)

/-! ### The threads -/

inductive Thread where
  | worker
  /-- Who calls `Init` and `Exit`. -/
  | owner
  | caller (i : Nat)
  deriving DecidableEq, Repr

/-- What `Routine` reads before it unlocks. -/
structure Locals where
  display : Int
  callback : Option Nat
  deriving DecidableEq, Repr

inductive Pc where
  /-- There is no thread. -/
  | absent
  -- InternalRoutine
  | loopLock | loopExit | loopUnlock | leave | ended
  -- Routine
  | lock | checkEnabled | interrupted | readLocals
  | unlock (l : Locals)
  | waitVBlank (l : Locals)
  | recheck (l : Locals) (timestamp : Int)
  | callback (l : Locals) (timestamp : Int)
  | store (timestamp : Int)
  -- WaitForSignalOrExitLocked
  | checkExit | wait | checkExitAgain
  -- SyntheticWaitVBlank
  | phase (l : Locals) (frame current : Int)
  | phaseSince (l : Locals) (frame current : Int)
  | phaseSum (l : Locals) (frames : Int)
  | sleep (l : Locals) (timestamp : Int)
  -- Init and InitWorker
  | idle | initLock | initStart | initUnlock
  -- Exit
  | exitLock | exitSet | exitReturn | exitUnlock | exitNotify | exitJoin
  -- VSyncControl
  | out | controlLock (enabled : Bool) | controlEnable (enabled : Bool) | controlReset
  | controlUnlock | signal
  -- RegisterCallback
  | registerLock (callback : Option Nat) | registerSet (callback : Option Nat) | registerUnlock
  deriving DecidableEq, Repr

/-- What a thread is told. -/
inductive Input where
  | init (display : Int)
  | exit
  | control (enabled : Bool)
  | register (callback : Option Nat)
  /-- The display has no crtc. -/
  | noCrtc
  /-- The reply of `drmWaitVBlank`. -/
  | vblank (timestamp : Int)
  | interrupted
  /-- `drmWaitVBlank` failed, and what the clock and the connector say then. -/
  | synthetic (frame current : Int)
  /-- The end of `clock_nanosleep`. -/
  | slept (ok : Bool)

/-- What happened, oldest first. -/
inductive Entry where
  | control (enabled : Bool)
  | register (callback : Option Nat)
  | event (callback : Nat) (display timestamp : Int)
  deriving DecidableEq, Repr

structure Worker where
  enabled : Bool
  lastTimestamp : Int
  callback : Option Nat
  display : Int
  exit : Bool
  initialized : Bool
  /-- The thread has been created and has not returned. -/
  running : Bool
  log : List Entry
  deriving DecidableEq, Repr

def Worker.record (x : Worker) (e : Entry) : Worker := { x with log := x.log ++ [e] }

/-! ### The code -/

def instr : Pc → Instr Input Worker Pc
  | .absent => .act fun _ x => if x.running then some (x, .loopLock) else none
  | .loopLock => .lock .loopExit
  | .loopExit => branch fun x => if x.exit then .leave else .loopUnlock
  | .loopUnlock => .unlock .lock
  | .leave => .unlock .ended
  | .ended => always fun x => ({ x with running := false }, .absent)
  | .lock => .lock .checkEnabled
  | .checkEnabled => branch fun x => if x.enabled then .readLocals else .checkExit
  | .interrupted => .unlock .loopLock
  | .readLocals => branch fun x => .unlock ⟨x.display, x.callback⟩
  | .unlock l => .unlock (.waitVBlank l)
  | .waitVBlank l => .act fun e x =>
      match e with
      | .noCrtc => some (x, .loopLock)
      | .vblank timestamp => some (x, .recheck l timestamp)
      | .interrupted => some (x, .loopLock)
      | .synthetic frame current => some (x, .phase l frame current)
      | _ => none
  | .recheck l timestamp => branch fun x => if x.enabled then .callback l timestamp else .loopLock
  | .callback l timestamp => always fun x =>
      match l.callback with
      | some c => (x.record (.event c l.display timestamp), .store timestamp)
      | none => (x, .store timestamp)
  | .store timestamp => always fun x => ({ x with lastTimestamp := timestamp }, .loopLock)
  | .checkExit => branch fun x => if x.exit then .interrupted else .wait
  | .wait => .wait .checkExitAgain
  | .checkExitAgain => branch fun x => if x.exit then .interrupted else .readLocals
  | .phase l frame current => branch fun x =>
      if x.lastTimestamp < 0 then .sleep l (current + frame) else .phaseSince l frame current
  | .phaseSince l frame current => branch fun x =>
      .phaseSum l (framesUntilNext x.lastTimestamp frame current)
  | .phaseSum l frames => branch fun x => .sleep l (frames + x.lastTimestamp)
  | .sleep l timestamp => .act fun e x =>
      match e with
      | .slept true => some (x, .recheck l timestamp)
      | .slept false => some (x, .loopLock)
      | _ => none
  | .idle => .act fun e x =>
      match e with
      | .init display => some ({ x with display := display }, .initLock)
      | .exit => some (x, .exitLock)
      | _ => none
  | .initLock => .lock .initStart
  | .initStart => always fun x =>
      if x.initialized then (x, .initUnlock)
      else ({ x with running := true, initialized := true, exit := false }, .initUnlock)
  | .initUnlock => .unlock .idle
  | .exitLock => .lock .exitSet
  | .exitSet => always fun x =>
      ({ x with exit := true }, if x.initialized then .exitUnlock else .exitReturn)
  | .exitReturn => .unlock .idle
  | .exitUnlock => .unlock .exitNotify
  | .exitNotify => .notify .exitJoin
  | .exitJoin => .act fun _ x =>
      if x.running then none else some ({ x with initialized := false }, .idle)
  | .out => .act fun e x =>
      match e with
      | .control enabled => some (x, .controlLock enabled)
      | .register callback => some (x, .registerLock callback)
      | _ => none
  | .controlLock enabled => .lock (.controlEnable enabled)
  | .controlEnable enabled => always fun x =>
      ({ x with enabled := enabled }.record (.control enabled), .controlReset)
  | .controlReset => always fun x => ({ x with lastTimestamp := -1 }, .controlUnlock)
  | .controlUnlock => .unlock .signal
  | .signal => .notify .out
  | .registerLock callback => .lock (.registerSet callback)
  | .registerSet callback => always fun x =>
      ({ x with callback := callback }.record (.register callback), .registerUnlock)
  | .registerUnlock => .unlock .out

abbrev System := State Thread Worker Pc

def code (_ : Thread) (p : Pc) : Instr Input Worker Pc := instr p

/-- Without a store in between, the loads of `last_timestamp_` make `GetPhasedVSync`. -/
theorem phase_alone (s : System) (e : Input) {l : Locals} {frame current : Int}
    (hphase : s.phase .worker = .running) (hpc : s.pc .worker = .phase l frame current) :
    ∃ n s', execAll code s (List.replicate n (.run .worker e)) = some s' ∧
      s'.shared = s.shared ∧
      s'.pc .worker = .sleep l (getPhasedVSync s.shared.lastTimestamp frame current) := by
  unfold getPhasedVSync
  by_cases hneg : s.shared.lastTimestamp < 0
  · refine ⟨1, s.goto .worker (.sleep l (current + frame)), ?_, rfl, ?_⟩
    · simp [execAll, exec, hphase, hpc, runInstr, code, instr, branch, always, hneg]
    · simp [State.goto, hneg]
  · refine ⟨3, ((s.goto .worker (.phaseSince l frame current)).goto .worker
      (.phaseSum l (framesUntilNext s.shared.lastTimestamp frame current))).goto .worker
      (.sleep l (framesUntilNext s.shared.lastTimestamp frame current + s.shared.lastTimestamp)),
      ?_, rfl, ?_⟩
    · simp [execAll, List.replicate, exec, hphase, hpc, runInstr, code, instr, branch, always, hneg,
        State.goto]
    · simp [State.goto, hneg]

/-- The constructors have run. -/
structure Constructed (s : System) : Prop where
  free : s.owner = none
  phase : ∀ t, s.phase t = .running
  worker : s.pc .worker = .absent
  owner : s.pc .owner = .idle
  caller : ∀ i, s.pc (.caller i) = .out
  enabled : s.shared.enabled = false
  callback : s.shared.callback = none
  initialized : s.shared.initialized = false
  running : s.shared.running = false
  log : s.shared.log = []

/-! ### Who is where -/

def Pc.thread : Pc → Option Thread
  | .idle | .initLock | .initStart | .initUnlock | .exitLock | .exitSet | .exitReturn
  | .exitUnlock | .exitNotify | .exitJoin => some .owner
  | .out | .controlLock _ | .controlEnable _ | .controlReset | .controlUnlock | .signal
  | .registerLock _ | .registerSet _ | .registerUnlock => none
  | _ => some .worker

/-- The place is one of the functions that thread `t` runs. -/
def Pc.isOf (p : Pc) : Thread → Prop
  | .worker => p.thread = some .worker
  | .owner => p.thread = some .owner
  | .caller _ => p.thread = none

/-- Between a lock and the unlock. -/
def Pc.holds : Pc → Bool
  | .loopExit | .loopUnlock | .leave | .checkEnabled | .interrupted | .readLocals | .unlock _
  | .checkExit | .wait | .checkExitAgain => true
  | .initStart | .initUnlock | .exitSet | .exitReturn | .exitUnlock => true
  | .controlEnable _ | .controlReset | .controlUnlock | .registerSet _ | .registerUnlock => true
  | _ => false

def holds (_ : Thread) (p : Pc) : Bool := p.holds

/-- In `VSyncControl`, before the signal. -/
def Pc.controls : Pc → Bool
  | .controlReset | .controlUnlock | .signal => true
  | _ => false

/-- In `Exit`, before the signal. -/
def Pc.exits : Pc → Bool
  | .exitUnlock | .exitNotify => true
  | _ => false

/-- What every act has in common. -/
structure Acted (p next : Pc) (x x' : Worker) : Prop where
  holds : next.holds = p.holds
  /-- Who changes `enabled_` will signal. -/
  enabled : next.controls = true ∨ p.controls = false ∧ x'.enabled = x.enabled
  /-- Only `Exit` raises `exit_`. -/
  exit : p = .exitSet ∨ p.exits = false ∧ (x.exit = false → x'.exit = false)

theorem acted {p : Pc} {f : Input → Worker → Option (Worker × Pc)} {e : Input} {x x' : Worker}
    {next : Pc} (hcode : instr p = .act f) (hact : f e x = some (x', next)) :
    Acted p next x x' := by
  cases p <;> cases hcode
  case absent | exitJoin =>
    dsimp only at hact
    split at hact <;> cases hact
    exact ⟨rfl, .inr ⟨rfl, rfl⟩, .inr ⟨rfl, id⟩⟩
  case loopExit | checkEnabled | recheck | checkExit | checkExitAgain | phase =>
    cases hact
    dsimp only
    split <;> exact ⟨rfl, .inr ⟨rfl, rfl⟩, .inr ⟨rfl, id⟩⟩
  case waitVBlank | idle | out =>
    cases e <;> cases hact <;> exact ⟨rfl, .inr ⟨rfl, rfl⟩, .inr ⟨rfl, id⟩⟩
  case sleep =>
    dsimp only at hact
    split at hact <;> cases hact <;> exact ⟨rfl, .inr ⟨rfl, rfl⟩, .inr ⟨rfl, id⟩⟩
  case callback l timestamp =>
    cases hl : l.callback <;>
      (simp only [hl] at hact; cases hact; exact ⟨rfl, .inr ⟨rfl, rfl⟩, .inr ⟨rfl, id⟩⟩)
  case initStart =>
    cases hinit : x.initialized <;> simp only [hinit] at hact <;> cases hact
    · exact ⟨rfl, .inr ⟨rfl, rfl⟩, .inr ⟨rfl, fun _ => rfl⟩⟩
    · exact ⟨rfl, .inr ⟨rfl, rfl⟩, .inr ⟨rfl, id⟩⟩
  case exitSet =>
    cases hact
    split <;> exact ⟨rfl, .inr ⟨rfl, rfl⟩, .inl rfl⟩
  case controlEnable | controlReset =>
    cases hact
    exact ⟨rfl, .inl rfl, .inr ⟨rfl, id⟩⟩
  all_goals
    cases hact
    exact ⟨rfl, .inr ⟨rfl, rfl⟩, .inr ⟨rfl, id⟩⟩

theorem respects (t : Thread) (p : Pc) : (code t p).Respects (holds t) p := by
  cases hinstr : code t p with
  | act f => exact fun e x x' next hact => (acted hinstr hact).holds
  | lock next | unlock next | wait next | notify next =>
      cases p <;> cases hinstr <;> first | exact rfl | exact ⟨rfl, rfl⟩

/-! ### The log -/

/-- Vsync has been enabled since it was last disabled. -/
def On (log : List Entry) : Prop :=
  ∀ before after, log = before ++ .control false :: after → .control true ∈ after

def events (log : List Entry) : Nat :=
  log.countP fun e => match e with
    | .event .. => true
    | _ => false

/-- At most `k` events after vsync was disabled, until it is enabled again. -/
def AtMost (k : Nat) (log : List Entry) : Prop :=
  ∀ before after, log = before ++ .control false :: after → .control true ∉ after →
    events after ≤ k

/-- Each event goes to a callback registered before, after vsync was enabled. -/
def Asked (log : List Entry) : Prop :=
  ∀ before after c display timestamp, log = before ++ .event c display timestamp :: after →
    .control true ∈ before ∧ .register (some c) ∈ before

/-- A log that ends with `e`, split at an entry. -/
theorem split_concat {log before after : List Entry} {e a : Entry}
    (h : log ++ [e] = before ++ a :: after) :
    (after = [] ∧ before = log ∧ a = e) ∨
      ∃ after', after = after' ++ [e] ∧ log = before ++ a :: after' := by
  rcases List.eq_nil_or_concat after with rfl | ⟨after', b, rfl⟩
  · obtain ⟨h, hb⟩ := List.append_inj' h rfl
    exact .inl ⟨rfl, h.symm, (List.cons.inj hb).1.symm⟩
  · rw [List.concat_eq_append, ← List.cons_append, ← List.append_assoc] at h
    obtain ⟨h, hb⟩ := List.append_inj' h rfl
    exact .inr ⟨after', by rw [List.concat_eq_append, (List.cons.inj hb).1], h⟩

theorem On.concat {log : List Entry} {e : Entry} (h : On log) (he : e ≠ .control false) :
    On (log ++ [e]) := by
  intro before after hsplit
  rcases split_concat hsplit with ⟨-, -, rfl⟩ | ⟨after', rfl, hlog⟩
  · exact absurd rfl he
  · exact List.mem_append_left _ (h before after' hlog)

theorem On.enable (log : List Entry) : On (log ++ [.control true]) := by
  intro before after hsplit
  rcases split_concat hsplit with ⟨-, -, he⟩ | ⟨after', rfl, -⟩
  · cases he
  · simp

theorem On.atMost {log : List Entry} (h : On log) (k : Nat) : AtMost k log :=
  fun before after hsplit hoff => absurd (h before after hsplit) hoff

theorem AtMost.control {k : Nat} {log : List Entry} (h : AtMost k log) (enabled : Bool) :
    AtMost k (log ++ [.control enabled]) := by
  intro before after hsplit hoff
  rcases split_concat hsplit with ⟨rfl, -, -⟩ | ⟨after', rfl, hlog⟩
  · exact Nat.zero_le k
  · have hcount := h before after' hlog fun hmem => hoff (List.mem_append_left _ hmem)
    simpa [events] using hcount

theorem AtMost.register {k : Nat} {log : List Entry} (h : AtMost k log) (c : Option Nat) :
    AtMost k (log ++ [.register c]) := by
  intro before after hsplit hoff
  rcases split_concat hsplit with ⟨rfl, -, -⟩ | ⟨after', rfl, hlog⟩
  · exact Nat.zero_le k
  · have hcount := h before after' hlog fun hmem => hoff (List.mem_append_left _ hmem)
    simpa [events] using hcount

theorem AtMost.event {k : Nat} {log : List Entry} (h : AtMost k log) (c : Nat)
    (display timestamp : Int) : AtMost (k + 1) (log ++ [.event c display timestamp]) := by
  intro before after hsplit hoff
  rcases split_concat hsplit with ⟨rfl, -, -⟩ | ⟨after', rfl, hlog⟩
  · exact Nat.zero_le _
  · have hcount := h before after' hlog fun hmem => hoff (List.mem_append_left _ hmem)
    simpa [events] using hcount

theorem Asked.concat {log : List Entry} {e : Entry} (h : Asked log)
    (he : ∀ c display timestamp, e = .event c display timestamp →
      .control true ∈ log ∧ .register (some c) ∈ log) : Asked (log ++ [e]) := by
  intro before after c display timestamp hsplit
  rcases split_concat hsplit with ⟨-, rfl, hevent⟩ | ⟨after', -, hlog⟩
  · exact he c display timestamp hevent.symm
  · exact h before after' c display timestamp hlog

/-! ### What holds at each place -/

/-- What the log says about the members. -/
structure Logged (x : Worker) : Prop where
  since : x.enabled = true → On x.log
  enabled : x.enabled = true → .control true ∈ x.log
  registered : ∀ c, x.callback = some c → .register (some c) ∈ x.log
  atMost : AtMost 1 x.log
  asked : Asked x.log

/-- The callback that the thread has read was registered. -/
def Known (l : Locals) (x : Worker) : Prop := ∀ c, l.callback = some c → .register (some c) ∈ x.log

/-- What the thread relies on at each place. -/
def Pc.relies : Pc → Worker → Prop
  | .absent, _ => True
  | .leave, x | .ended, x => x.running = true ∧ x.exit = true
  | .checkExit, x => x.running = true ∧ x.enabled = false
  | .wait, x => x.running = true ∧ x.enabled = false ∧ x.exit = false
  | .callback l _, x => x.running = true ∧ Known l x ∧ AtMost 0 x.log ∧ .control true ∈ x.log
  | .unlock l, x | .waitVBlank l, x | .recheck l _, x | .phase l _ _, x | .phaseSince l _ _, x
  | .phaseSum l _, x | .sleep l _, x => x.running = true ∧ Known l x
  | _, x => x.running = true

/-- What the owner relies on. -/
def Pc.owns : Pc → Worker → Prop
  | .exitReturn, x => x.initialized = false
  | .exitUnlock, x | .exitNotify, x | .exitJoin, x => x.initialized = true ∧ x.exit = true
  | _, x => x.initialized = true → x.exit = false ∧ x.running = true

structure WorkerAt (p : Pc) (x : Worker) : Prop where
  place : p.thread = some .worker
  relies : p.relies x

structure OwnerAt (p : Pc) (x : Worker) : Prop where
  place : p.thread = some .owner
  gone : x.initialized = false → x.running = false
  owns : p.owns x

def assertions : Assertions Thread Worker Pc where
  global := Logged
  place
    | .worker => WorkerAt
    | .owner => OwnerAt
    | .caller _ => fun p _ => p.thread = none
  waiting
    | .worker => fun x => x.running = true
    | _ => fun _ => False

theorem Pc.relies_running {p : Pc} {x : Worker} (h : p.relies x) (hp : p ≠ .absent) :
    x.running = true := by
  cases p with
  | absent => exact absurd rfl hp
  | leave | ended | checkExit | wait | callback | unlock | waitVBlank | recheck | phase
  | phaseSince | phaseSum | sleep => exact h.1
  | _ => exact h

/-! ### Each thread by itself -/

theorem wait_only {P : Worker → Prop} {p next : Pc} (hp : p ≠ .wait) (h : instr p = .wait next)
    (x : Worker) : P x := by
  refine absurd ?_ hp
  cases p <;> simp only [instr, branch, always, reduceCtorEq] at h ⊢

/-- The event that is due does no harm to the log. -/
theorem Logged.event {x : Worker} (h : Logged x) {l : Locals} {c : Nat} (timestamp : Int)
    (hl : l.callback = some c) (hknown : Known l x) (hfirst : AtMost 0 x.log)
    (hon : .control true ∈ x.log) : Logged (x.record (.event c l.display timestamp)) where
  since henabled := (h.since henabled).concat nofun
  enabled henabled := List.mem_append_left _ (h.enabled henabled)
  registered c hc := List.mem_append_left _ (h.registered c hc)
  atMost := hfirst.event c l.display timestamp
  asked := h.asked.concat fun _ _ _ hevent => by
    cases hevent
    exact ⟨hon, hknown c hl⟩

theorem Logged.control {x : Worker} (h : Logged x) (enabled : Bool) :
    Logged ({ x with enabled := enabled }.record (.control enabled)) where
  since henabled := by
    subst henabled
    exact .enable x.log
  enabled henabled := by
    subst henabled
    exact List.mem_append_right _ (List.mem_singleton_self _)
  registered c hc := List.mem_append_left _ (h.registered c hc)
  atMost := h.atMost.control enabled
  asked := h.asked.concat nofun

theorem Logged.register {x : Worker} (h : Logged x) (callback : Option Nat) :
    Logged ({ x with callback := callback }.record (.register callback)) where
  since henabled := (h.since henabled).concat nofun
  enabled henabled := List.mem_append_left _ (h.enabled henabled)
  registered c hc := List.mem_append_right _ (by rw [show callback = some c from hc]; simp)
  atMost := h.atMost.register callback
  asked := h.asked.concat nofun

/-- What the log is not about. -/
theorem Logged.of_eq {x x' : Worker} (h : Logged x) (henabled : x'.enabled = x.enabled)
    (hcallback : x'.callback = x.callback) (hlog : x'.log = x.log) : Logged x' where
  since := by rw [henabled, hlog]; exact h.since
  enabled := by rw [henabled, hlog]; exact h.enabled
  registered := by rw [hcallback, hlog]; exact h.registered
  atMost := by rw [hlog]; exact h.atMost
  asked := by rw [hlog]; exact h.asked

theorem sequential_worker (p : Pc) : (code .worker p).Annotated assertions .worker p := by
  cases p with
  | absent =>
      intro e x x' next hact hlogged h
      dsimp only at hact
      split at hact
      · next hrun =>
        cases hact
        exact ⟨hlogged, rfl, hrun⟩
      · cases hact
  | loopLock => exact fun x _ h => ⟨rfl, h.relies⟩
  | loopExit =>
      refine annotated_branch fun x _ h => ?_
      split
      · next hexit => exact ⟨rfl, h.relies, hexit⟩
      · exact ⟨rfl, h.relies⟩
  | loopUnlock => exact fun x _ h => ⟨rfl, h.relies⟩
  | leave => exact fun x _ h => ⟨rfl, h.relies⟩
  | ended => exact annotated_always fun x hlogged _ => ⟨hlogged.of_eq rfl rfl rfl, rfl, trivial⟩
  | lock => exact fun x _ h => ⟨rfl, h.relies⟩
  | checkEnabled =>
      refine annotated_branch fun x _ h => ?_
      split
      · exact ⟨rfl, h.relies⟩
      · next hoff => exact ⟨rfl, h.relies, Bool.eq_false_iff.mpr hoff⟩
  | interrupted => exact fun x _ h => ⟨rfl, h.relies⟩
  | readLocals => exact annotated_branch fun x hlogged h => ⟨rfl, h.relies, hlogged.registered⟩
  | unlock l => exact fun x _ h => ⟨rfl, h.relies⟩
  | waitVBlank l =>
      intro e x x' next hact hlogged h
      cases e <;> cases hact <;> refine ⟨hlogged, rfl, ?_⟩ <;>
        first | exact h.relies | exact h.relies.1
  | recheck l timestamp =>
      refine annotated_branch fun x hlogged h => ?_
      split
      · next hon =>
        exact ⟨rfl, h.relies.1, h.relies.2, (hlogged.since hon).atMost 0, hlogged.enabled hon⟩
      · exact ⟨rfl, h.relies.1⟩
  | callback l timestamp =>
      refine annotated_always fun x hlogged h => ?_
      obtain ⟨hrun, hknown, hfirst, hon⟩ := h.relies
      split
      · next c hc => exact ⟨hlogged.event timestamp hc hknown hfirst hon, rfl, hrun⟩
      · exact ⟨hlogged, rfl, hrun⟩
  | store timestamp =>
      exact annotated_always fun x hlogged h => ⟨hlogged.of_eq rfl rfl rfl, rfl, h.relies⟩
  | checkExit =>
      refine annotated_branch fun x _ h => ?_
      split
      · exact ⟨rfl, h.relies.1⟩
      · next hstay => exact ⟨rfl, h.relies.1, h.relies.2, Bool.eq_false_iff.mpr hstay⟩
  | wait => exact fun x _ => ⟨fun h => h.relies.1, fun hrun => ⟨rfl, hrun⟩⟩
  | checkExitAgain =>
      refine annotated_branch fun x _ h => ?_
      split <;> exact ⟨rfl, h.relies⟩
  | phase l frame current =>
      refine annotated_branch fun x _ h => ?_
      split <;> exact ⟨rfl, h.relies⟩
  | phaseSince l frame current => exact annotated_branch fun x _ h => ⟨rfl, h.relies⟩
  | phaseSum l frames => exact annotated_branch fun x _ h => ⟨rfl, h.relies⟩
  | sleep l timestamp =>
      intro e x x' next hact hlogged h
      dsimp only at hact
      split at hact <;> cases hact
      · exact ⟨hlogged, rfl, h.relies⟩
      · exact ⟨hlogged, rfl, h.relies.1⟩
  | _ => exact annotated_elsewhere (fun x h => by cases h.place) fun _ => wait_only nofun

theorem sequential_owner (p : Pc) : (code .owner p).Annotated assertions .owner p := by
  cases p with
  | idle =>
      intro e x x' next hact hlogged h
      cases e <;> cases hact
      · exact ⟨hlogged.of_eq rfl rfl rfl, rfl, h.gone, h.owns⟩
      · exact ⟨hlogged, rfl, h.gone, h.owns⟩
  | initLock => exact fun x _ h => ⟨rfl, h.gone, h.owns⟩
  | initStart =>
      refine annotated_always fun x hlogged h => ?_
      split
      · exact ⟨hlogged, rfl, h.gone, h.owns⟩
      · exact ⟨hlogged.of_eq rfl rfl rfl, rfl, nofun, fun _ => ⟨rfl, rfl⟩⟩
  | initUnlock => exact fun x _ h => ⟨rfl, h.gone, h.owns⟩
  | exitLock => exact fun x _ h => ⟨rfl, h.gone, h.owns⟩
  | exitSet =>
      refine annotated_always fun x hlogged h => ⟨hlogged.of_eq rfl rfl rfl, ?_⟩
      dsimp only
      split
      · next hinit => exact ⟨rfl, h.gone, hinit, rfl⟩
      · next hinit => exact ⟨rfl, h.gone, Bool.eq_false_iff.mpr hinit⟩
  | exitReturn =>
      exact fun x _ h => ⟨rfl, h.gone, fun hinit => absurd (h.owns.symm.trans hinit) nofun⟩
  | exitUnlock => exact fun x _ h => ⟨rfl, h.gone, h.owns⟩
  | exitNotify => exact fun x _ h => ⟨rfl, h.gone, h.owns⟩
  | exitJoin =>
      intro e x x' next hact hlogged h
      dsimp only at hact
      split at hact
      · cases hact
      · next hrun =>
        cases hact
        exact ⟨hlogged.of_eq rfl rfl rfl, rfl, fun _ => Bool.eq_false_iff.mpr hrun, nofun⟩
  | _ => exact annotated_elsewhere (fun x h => by cases h.place) fun _ _ _ => id

theorem sequential_caller (i : Nat) (p : Pc) :
    (code (.caller i) p).Annotated assertions (.caller i) p := by
  cases p with
  | out =>
      intro e x x' next hact hlogged h
      cases e <;> cases hact <;> exact ⟨hlogged, rfl⟩
  | controlLock enabled => exact fun _ _ _ => rfl
  | controlEnable enabled => exact annotated_always fun x hlogged _ => ⟨hlogged.control enabled, rfl⟩
  | controlReset => exact annotated_always fun x hlogged _ => ⟨hlogged.of_eq rfl rfl rfl, rfl⟩
  | controlUnlock => exact fun _ _ _ => rfl
  | signal => exact fun _ _ _ => rfl
  | registerLock callback => exact fun _ _ _ => rfl
  | registerSet callback => exact annotated_always fun x hlogged _ => ⟨hlogged.register callback, rfl⟩
  | registerUnlock => exact fun _ _ _ => rfl
  | _ => exact annotated_elsewhere (fun x h => by cases h) fun _ _ _ => id

/-! ### The threads among each other -/

/-- What others may do while the worker is at `q`. -/
theorem Pc.relies_keep {q : Pc} {x x' : Worker} (h : q.relies x)
    (running : x.running = true → x'.running = true)
    (exit : q = .leave ∨ q = .ended → x.running = true → x.exit = true → x'.exit = true)
    (disabled : q = .checkExit ∨ q = .wait → x'.enabled = x.enabled)
    (staying : q = .wait → x'.exit = x.exit) (log : ∀ e ∈ x.log, e ∈ x'.log)
    (first : AtMost 0 x.log → AtMost 0 x'.log) : q.relies x' := by
  have hknown : ∀ l, Known l x → Known l x' := fun l hl c hc => log _ (hl c hc)
  cases q with
  | absent => exact trivial
  | leave => exact ⟨running h.1, exit (.inl rfl) h.1 h.2⟩
  | ended => exact ⟨running h.1, exit (.inr rfl) h.1 h.2⟩
  | checkExit => exact ⟨running h.1, (disabled (.inl rfl)).trans h.2⟩
  | wait => exact ⟨running h.1, (disabled (.inr rfl)).trans h.2.1, (staying rfl).trans h.2.2⟩
  | callback l timestamp => exact ⟨running h.1, hknown l h.2.1, first h.2.2.1, log _ h.2.2.2⟩
  | unlock l | waitVBlank l | recheck l _ | phase l _ _ | phaseSince l _ _ | phaseSum l _
  | sleep l _ => exact ⟨running h.1, hknown l h.2⟩
  | _ => exact running h

/-- The flags that the owner relies on are as they were. -/
theorem OwnerAt.keep {q : Pc} {x x' : Worker} (h : OwnerAt q x)
    (hinitialized : x'.initialized = x.initialized) (hexit : x'.exit = x.exit)
    (hrunning : x'.running = x.running) : OwnerAt q x' := by
  refine ⟨h.place, by rw [hinitialized, hrunning]; exact h.gone, ?_⟩
  have howns := h.owns
  cases q <;> simpa only [Pc.owns, hinitialized, hexit, hrunning] using howns

/-- What an act at `p` leaves to the other threads. -/
def Stable (t : Thread) (p : Pc) (x x' : Worker) : Prop :=
  ∀ u, u ≠ t →
    (∀ q, ¬(p.holds = true ∧ q.holds = true) → assertions.place u q x → assertions.place u q x') ∧
    (assertions.waiting u x → assertions.waiting u x')

theorem stable_refl (t : Thread) (p : Pc) (x : Worker) : Stable t p x x :=
  fun _ _ => ⟨fun _ _ h => h, id⟩

/-- The worker takes nothing away. -/
theorem stable_worker {p : Pc} {x x' : Worker} (hinitialized : x'.initialized = x.initialized)
    (hexit : x'.exit = x.exit)
    (hrunning : x'.running = x.running ∨ (x'.running = false ∧ x.running = true ∧ x.exit = true)) :
    Stable .worker p x x' := by
  intro u hu
  cases u with
  | worker => exact absurd rfl hu
  | caller i => exact ⟨fun _ _ h => h, id⟩
  | owner =>
      refine ⟨fun q _ h => ?_, id⟩
      rcases hrunning with hrunning | ⟨hnow, hrun, hexits⟩
      · exact h.keep hinitialized hexit hrunning
      · refine ⟨h.place, fun _ => hnow, ?_⟩
        have hinit : x.initialized = true := by
          rcases Bool.eq_false_or_eq_true x.initialized with hinit | hinit
          · exact hinit
          · exact absurd (hrun.symm.trans (h.gone hinit)) nofun
        have howns := h.owns
        cases q with
        | exitReturn => exact absurd (hinit.symm.trans howns) nofun
        | exitUnlock | exitNotify | exitJoin => exact ⟨hinitialized.trans howns.1, hexit.trans howns.2⟩
        | _ => exact absurd (hexits.symm.trans (howns hinit).1) nofun

/-- The owner and the callers leave the worker what it relies on. -/
theorem stable_other {t : Thread} {p : Pc} {x x' : Worker}
    (howner : t ≠ .owner → x'.initialized = x.initialized ∧ x'.exit = x.exit ∧ x'.running = x.running)
    (running : x.running = true → x'.running = true)
    (exit : x.running = true → x.exit = true → x'.exit = true)
    (inside : p.holds = true ∨ x'.enabled = x.enabled ∧ x'.exit = x.exit)
    (log : ∀ e ∈ x.log, e ∈ x'.log) (first : AtMost 0 x.log → AtMost 0 x'.log) :
    Stable t p x x' := by
  intro u hu
  cases u with
  | worker =>
      refine ⟨fun q hq h => ⟨h.place, ?_⟩, running⟩
      have hboth : q.holds = true → x'.enabled = x.enabled ∧ x'.exit = x.exit :=
        fun hholds => inside.resolve_left fun hp => hq ⟨hp, hholds⟩
      refine Pc.relies_keep h.relies running (fun _ => exit) (fun hat => ?_) (fun hat => ?_) log first
      · rcases hat with rfl | rfl
        · exact (hboth rfl).1
        · exact (hboth rfl).1
      · subst hat
        exact (hboth rfl).2
  | owner =>
      obtain ⟨hinitialized, hexit, hrunning⟩ := howner (Ne.symm hu)
      exact ⟨fun q _ h => h.keep hinitialized hexit hrunning, id⟩
  | caller i => exact ⟨fun _ _ h => h, id⟩

theorem stable_act_worker {p : Pc} {f : Input → Worker → Option (Worker × Pc)} {e : Input}
    {x x' : Worker} {next : Pc} (hcode : instr p = .act f) (hact : f e x = some (x', next))
    (h : WorkerAt p x) : Stable .worker p x x' := by
  cases p <;> cases hcode
  case absent =>
    dsimp only at hact
    split at hact <;> cases hact
    exact stable_refl _ _ x
  case ended =>
    cases hact
    exact stable_worker rfl rfl (.inr ⟨rfl, h.relies⟩)
  case waitVBlank l =>
    cases e <;> cases hact <;> exact stable_refl _ _ x
  case sleep l timestamp =>
    dsimp only at hact
    split at hact <;> cases hact <;> exact stable_refl _ _ x
  case callback l timestamp =>
    cases hl : l.callback <;> simp only [hl] at hact <;> cases hact
    · exact stable_refl _ _ x
    · exact stable_worker rfl rfl (.inl rfl)
  case store timestamp =>
    cases hact
    exact stable_worker rfl rfl (.inl rfl)
  case loopExit | checkEnabled | readLocals | recheck | checkExit | checkExitAgain | phase
      | phaseSince | phaseSum =>
    cases hact
    exact stable_refl _ _ x
  all_goals cases h.place

theorem stable_act_owner {p : Pc} {f : Input → Worker → Option (Worker × Pc)} {e : Input}
    {x x' : Worker} {next : Pc} (hcode : instr p = .act f) (hact : f e x = some (x', next))
    (h : OwnerAt p x) : Stable .owner p x x' := by
  cases p <;> cases hcode
  case idle =>
    cases e <;> cases hact
    · exact stable_other (fun hne => absurd rfl hne) id (fun _ => id) (.inr ⟨rfl, rfl⟩)
        (fun _ => id) id
    · exact stable_refl _ _ x
  case initStart =>
    by_cases hinit : x.initialized = true
    · simp only [if_pos hinit] at hact
      cases hact
      exact stable_refl _ _ x
    · simp only [if_neg hinit] at hact
      cases hact
      refine stable_other (fun hne => absurd rfl hne) (fun _ => rfl) (fun hrun _ => ?_) (.inl rfl)
        (fun _ => id) id
      exact absurd (hrun.symm.trans (h.gone (Bool.eq_false_iff.mpr hinit))) nofun
  case exitSet =>
    cases hact
    exact stable_other (fun hne => absurd rfl hne) id (fun _ _ => rfl) (.inl rfl) (fun _ => id) id
  case exitJoin =>
    dsimp only at hact
    split at hact <;> cases hact
    exact stable_other (fun hne => absurd rfl hne) id (fun _ => id) (.inr ⟨rfl, rfl⟩)
      (fun _ => id) id
  all_goals cases h.place

theorem stable_act_caller {i : Nat} {p : Pc} {f : Input → Worker → Option (Worker × Pc)} {e : Input}
    {x x' : Worker} {next : Pc} (hcode : instr p = .act f) (hact : f e x = some (x', next))
    (h : p.thread = none) : Stable (.caller i) p x x' := by
  cases p <;> cases hcode
  case out =>
    cases e <;> cases hact <;> exact stable_refl _ _ x
  case controlEnable enabled =>
    cases hact
    exact stable_other (fun _ => ⟨rfl, rfl, rfl⟩) id (fun _ => id) (.inl rfl)
      (fun _ he => List.mem_append_left _ he) fun hfirst => hfirst.control enabled
  case controlReset =>
    cases hact
    exact stable_other (fun _ => ⟨rfl, rfl, rfl⟩) id (fun _ => id) (.inr ⟨rfl, rfl⟩)
      (fun _ => id) id
  case registerSet callback =>
    cases hact
    exact stable_other (fun _ => ⟨rfl, rfl, rfl⟩) id (fun _ => id) (.inr ⟨rfl, rfl⟩)
      (fun _ he => List.mem_append_left _ he) fun hfirst => hfirst.register callback
  all_goals cases h

theorem outline : Outline code holds assertions where
  respects := respects
  sequential t p := by
    cases t with
    | worker => exact sequential_worker p
    | owner => exact sequential_owner p
    | caller i => exact sequential_caller i p
  stable t p f e x x' next hcode hact hlogged h := by
    cases t with
    | worker => exact stable_act_worker hcode hact h
    | owner => exact stable_act_owner hcode hact h
    | caller i => exact stable_act_caller hcode hact h

theorem Constructed.annotates {s : System} (h : Constructed s) :
    Start holds s ∧ Annotates assertions s := by
  have hplace : ∀ t, (s.pc t).holds = false ∧ assertions.place t (s.pc t) s.shared := by
    intro t
    cases t with
    | worker =>
        rw [h.worker]
        exact ⟨rfl, rfl, trivial⟩
    | owner =>
        rw [h.owner]
        refine ⟨rfl, rfl, fun _ => h.running, fun hinit => ?_⟩
        exact absurd (h.initialized.symm.trans hinit) nofun
    | caller i =>
        rw [h.caller i]
        exact ⟨rfl, rfl⟩
  have hlogged : Logged s.shared := by
    refine ⟨?_, ?_, ?_, ?_, ?_⟩
    · simp [h.enabled]
    · simp [h.enabled]
    · simp [h.callback]
    · intro before after hsplit
      simp [h.log] at hsplit
    · intro before after c display timestamp hsplit
      simp [h.log] at hsplit
  exact ⟨⟨h.free, h.phase, fun t => (hplace t).1⟩, hlogged, fun t _ => (hplace t).2,
    fun t ht => absurd (h.phase t) ht⟩

/-! ### Nobody is forgotten -/

/-- The thread sleeps for want of vsync. -/
theorem enabling : NoLostWakeup code assertions .worker (fun x => x.enabled = false)
    fun _ p => p.controls where
  wait p next x hcode h := by
    cases p <;> cases hcode
    exact h.relies.2.1
  debt t p := by
    cases p <;> simp [code, instr, branch, always, Instr.KeepsDebt, Pc.controls]
  act t p f e x x' next ht hcode hact h hrun hbefore := by
    rcases (acted hcode hact).enabled with howes | ⟨hno, hsame⟩
    · exact .inr howes
    · refine .inl (hsame.trans (hbefore.resolve_right fun howes => ?_))
      exact absurd (hno.symm.trans howes) nofun

/-- The thread sleeps as long as it need not end. -/
theorem exiting : NoLostWakeup code assertions .worker (fun x => x.exit = false)
    fun _ p => p.exits where
  wait p next x hcode h := by
    cases p <;> cases hcode
    exact h.relies.2.2
  debt t p := by
    cases p <;> simp [code, instr, branch, always, Instr.KeepsDebt, Pc.exits]
  act t p f e x x' next ht hcode hact h hrun hbefore := by
    rcases (acted hcode hact).exit with rfl | ⟨hno, hkeeps⟩
    · cases hcode
      cases hact
      cases t with
      | worker => exact absurd rfl ht
      | caller i => cases h
      | owner =>
          have hinit : x.initialized = true := by
            rcases Bool.eq_false_or_eq_true x.initialized with hinit | hinit
            · exact hinit
            · exact absurd (Eq.trans (Eq.symm hrun) (h.gone hinit)) nofun
          exact .inr (by rw [if_pos hinit]; rfl)
    · refine .inl (hkeeps (hbefore.resolve_right fun howes => ?_))
      exact absurd (hno.symm.trans howes) nofun

/-! ### The worker -/

structure Sound (s : System) : Prop where
  /-- Two threads are never inside at once. -/
  exclusion : ∀ t u, Inside holds s t → Inside holds s u → t = u
  /-- Vsync is disabled while the thread sleeps, or a `VSyncControl` is about to wake it. -/
  enabling : s.phase .worker = .asleep →
    s.shared.enabled = false ∨ ∃ i, (s.pc (.caller i)).controls = true
  /-- The thread need not end while it sleeps, or `Exit` is about to wake it. -/
  exiting : s.phase .worker = .asleep → s.shared.exit = false ∨ (s.pc .owner).exits = true
  /-- `Exit` does not wait for a thread that sleeps. -/
  joining : s.pc .owner = .exitJoin → s.phase .worker ≠ .asleep
  /-- After `Exit` there is no thread. -/
  stopped : s.pc .owner = .idle → s.shared.initialized = false → s.pc .worker = .absent
  /-- Once vsync is disabled, one more event at most comes until it is enabled again. -/
  disabled : AtMost 1 s.shared.log
  /-- Every event goes to a registered callback, after vsync was enabled. -/
  asked : Asked s.shared.log

/-- **The worker at any time.**  However the steps of the thread, of its owner and of any
    number of callers interleave. -/
theorem worker_sound {s : System} (h : Reachable Constructed (Step code) s) : Sound s := by
  obtain ⟨howned, ha⟩ := outline.sound (fun _ => Constructed.annotates) h
  have henabling := enabling.attended outline (fun _ => Constructed.annotates) h
  have hexiting := exiting.attended outline (fun _ => Constructed.annotates) h
  have hplaces : ∀ t, s.phase t = .running → assertions.place t (s.pc t) s.shared := ha.running
  have hruns : ∀ t, t ≠ .worker → s.phase t = .running := by
    intro t ht
    by_contra hno
    have hwaits := ha.waiting t hno
    cases t with
    | worker => exact ht rfl
    | owner => exact hwaits
    | caller i => exact hwaits
  have howner : OwnerAt (s.pc .owner) s.shared := ha.running .owner (hruns .owner nofun)
  have hexit : s.phase .worker = .asleep → s.shared.exit = false ∨ (s.pc .owner).exits = true := by
    intro hasleep
    rcases hexiting hasleep with hstay | ⟨t, hrun, hexits⟩
    · exact .inl hstay
    · have hplace := ha.running t hrun
      cases t with
      | owner => exact .inr hexits
      | worker => exact absurd (hasleep.symm.trans hrun) nofun
      | caller i =>
          have hnone : (s.pc (.caller i)).thread = none := hplace
          cases hpc : s.pc (.caller i) <;> simp [hpc, Pc.exits, Pc.thread] at hexits hnone
  refine ⟨fun t u ht hu => ?_, fun hasleep => ?_, hexit, fun hjoin hasleep => ?_,
    fun hidle hinit => ?_, ha.global.atMost, ha.global.asked⟩
  · have ht := (howned.inside t).mp ht
    have hu := (howned.inside u).mp hu
    exact Option.some.inj (ht.symm.trans hu)
  · refine (henabling hasleep).imp id ?_
    rintro ⟨t, hrun, hcontrols⟩
    cases t with
    | caller i => exact ⟨i, hcontrols⟩
    | worker => exact absurd (hasleep.symm.trans hrun) nofun
    | owner =>
        have hplace := howner.place
        cases hpc : s.pc .owner <;> simp [hpc, Pc.controls, Pc.thread] at hcontrols hplace
  · have howns := howner.owns
    rw [hjoin] at howns
    rcases hexit hasleep with hstay | hexits
    · exact absurd (hstay.symm.trans howns.2) nofun
    · rw [hjoin] at hexits
      cases hexits
  · have hrun := howner.gone hinit
    by_cases hphase : s.phase .worker = .running
    · have hworker : WorkerAt (s.pc .worker) s.shared := ha.running .worker hphase
      by_contra hpc
      exact absurd (hrun.symm.trans (Pc.relies_running hworker.relies hpc)) nofun
    · have hwaits : s.shared.running = true := ha.waiting .worker hphase
      exact absurd (hrun.symm.trans hwaits) nofun

/-- A display whose vsync is disabled. -/
def fresh : System where
  owner := none
  shared := ⟨false, -1, none, 0, false, false, false, []⟩
  pc
    | .worker => .absent
    | .owner => .idle
    | .caller _ => .out
  phase _ := .running

/-- The thread goes to sleep; a callback is registered and vsync enabled.  It is disabled
    again while the second event is on its way, and the thread is ended. -/
def twoEvents : List (Event Thread Input) :=
  steps .owner (.init 0) 4 ++ steps .worker .exit 8 ++
    steps (.caller 0) (.register (some 7)) 4 ++ steps (.caller 1) (.control true) 6 ++
    steps .worker (.vblank 137) 15 ++ steps .worker (.vblank 187) 2 ++
    steps (.caller 1) (.control false) 6 ++ steps .worker .exit 2 ++ steps .owner .exit 5 ++
    steps .worker .exit 4 ++ steps .owner .exit 1

theorem twoEvents_sound :
    ∃ s, execAll code fresh twoEvents = some s ∧
      s.shared.log = [.register (some 7), .control true, .event 7 0 137, .control false,
        .event 7 0 187] ∧ s.pc .worker = .absent ∧ Sound s := by
  have hfresh : Constructed fresh :=
    ⟨rfl, fun _ => rfl, rfl, rfl, fun _ => rfl, rfl, rfl, rfl, rfl, rfl⟩
  obtain ⟨s, hrun, hlog, hworker⟩ : ∃ s, execAll code fresh twoEvents = some s ∧
      s.shared.log = [.register (some 7), .control true, .event 7 0 137, .control false,
        .event 7 0 187] ∧ s.pc .worker = .absent := ⟨_, rfl, rfl, rfl⟩
  exact ⟨s, hrun, hlog, hworker, worker_sound (execAll_reachable (.start hfresh) hrun)⟩

end ExynosHal.VsyncWorker
