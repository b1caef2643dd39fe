/-
  ExynosHal/OneShotTimer.lean
  ===========================
  **The timer thread and those who reset it.**

  `OneShotTimer` runs its callbacks on a thread of its own.  `reset()` may be called
  from any thread; it stores the time, raises a flag and posts the semaphore, but only
  if `mWaiting` is down: a thread that waits for a timeout looks at the flag by itself.
  There is no lock, so each access to an atomic member, each semaphore call and each
  reading of the clock is a step of its own here, and the steps of the timer thread, of
  any number of callers of `reset()` and of the caller of `stop()` come in any order.

  `timer_sound` says that no reset and no stop is lost, in the sense of the comment in
  `reset()`: whenever the thread sleeps without a timeout, a raised flag means that
  somebody is about to post.

  One life of the thread is modelled, from `start()` to the join in `stop()`.  A second
  `start()` while the thread runs initialises a live semaphore, which POSIX leaves open.
-/
import Mathlib.Logic.Function.Basic
import Mathlib.Algebra.Group.Nat.Defs
import Mathlib.Algebra.Ring.Int.Defs
import ExynosHal.TransitionSystem

namespace ExynosHal.OneShotTimer

open ExynosHal.TransitionSystem Function

/-! ### The threads -/

inductive TimerState where
  | stopped | reset | waiting | idle
  deriving DecidableEq, Repr

/-- Where `loop()` calls `checkForResetAndStop`. -/
inductive Site where
  | head | started | waiting
  deriving DecidableEq, Repr

/-- What the timer thread does next. -/
inductive Pc where
  /-- `mStopTriggered.exchange(false)` for the check at the site. -/
  | exchangeStop (site : Site) (state : TimerState)
  /-- `mResetTriggered.exchange(false)`. -/
  | exchangeReset (site : Site) (state : TimerState)
  | semWait
  | resetCallback
  /-- `triggerTime = now + mInterval`. -/
  | setTrigger
  /-- `triggerInterval = triggerTime - now`. -/
  | waitInterval
  | raiseWaiting (triggerInterval : Int)
  | calculateTimeout (triggerInterval : Int)
  | semClockwait (timeout : Int)
  | lowerWaiting
  | checkTime
  /-- `triggerTime = mLastResetTime + mInterval`. -/
  | loadReset
  | timeoutCallback
  | exited
  deriving DecidableEq, Repr

inductive Callback where
  | reset | timeout
  deriving DecidableEq, Repr

/-- What a caller of `reset()` does next. -/
inductive ResetPc where
  | out
  | store (time : Int)
  | trigger
  | readWaiting
  | post
  deriving DecidableEq, Repr

/-- What the caller of `stop()` does next. -/
inductive StopPc where
  | out | post | join | joined
  deriving DecidableEq, Repr

structure Timer where
  resetTriggered : Bool
  stopTriggered : Bool
  waiting : Bool
  lastResetTime : Int
  semaphore : Nat
  now : Int
  pc : Pc
  triggerTime : Int
  resetter : Nat → ResetPc
  stopper : StopPc
  /-- The callbacks so far. -/
  callbacks : List Callback

/-- Where the check at the site leads to. -/
def Site.next : Site → TimerState → Pc
  | .head, .stopped => .exited
  | .head, .idle => .semWait
  | .head, .reset => .resetCallback
  | .head, .waiting => .exchangeStop .started .waiting
  | .started, .stopped => .exited
  | .started, _ => .setTrigger
  | .waiting, .stopped => .exchangeStop .head .stopped
  | .waiting, .waiting => .checkTime
  | .waiting, .reset => .loadReset
  | .waiting, .idle => .waitInterval

/-- A step of the timer thread, `none` while it is blocked.  A wait may also end by a
    signal (`interrupted`). -/
def loop (interval : Int) (s : Timer) (interrupted : Bool) : Option Timer :=
  match s.pc with
  | .exchangeStop site state =>
      if s.stopTriggered then some { s with stopTriggered := false, pc := site.next .stopped }
      else if state = .stopped then some { s with pc := site.next .stopped }
      else some { s with pc := .exchangeReset site state }
  | .exchangeReset site state =>
      if s.resetTriggered then some { s with resetTriggered := false, pc := site.next .reset }
      else some { s with pc := site.next state }
  | .semWait =>
      if interrupted then some { s with pc := .exchangeStop .head .idle }
      else if 0 < s.semaphore then
        some { s with semaphore := s.semaphore - 1, pc := .exchangeStop .head .idle }
      else none
  | .resetCallback =>
      some { s with callbacks := s.callbacks ++ [.reset], pc := .exchangeStop .started .reset }
  | .setTrigger => some { s with triggerTime := s.now + interval, pc := .waitInterval }
  | .waitInterval =>
      if 0 < s.triggerTime - s.now then some { s with pc := .raiseWaiting (s.triggerTime - s.now) }
      else some { s with pc := .lowerWaiting }
  | .raiseWaiting triggerInterval =>
      some { s with waiting := true, pc := .calculateTimeout triggerInterval }
  | .calculateTimeout triggerInterval => some { s with pc := .semClockwait (s.now + triggerInterval) }
  | .semClockwait timeout =>
      if interrupted then some { s with pc := .lowerWaiting }
      else if 0 < s.semaphore then
        some { s with semaphore := s.semaphore - 1, pc := .lowerWaiting }
      else if timeout ≤ s.now then some { s with pc := .lowerWaiting }
      else none
  | .lowerWaiting => some { s with waiting := false, pc := .exchangeStop .waiting .waiting }
  | .checkTime =>
      if s.triggerTime - s.now ≤ 0 then some { s with pc := .timeoutCallback }
      else some { s with pc := .waitInterval }
  | .loadReset => some { s with triggerTime := s.lastResetTime + interval, pc := .waitInterval }
  | .timeoutCallback =>
      some { s with callbacks := s.callbacks ++ [.timeout], pc := .exchangeStop .head .idle }
  | .exited => none

/-- A step of caller `i` of `reset()`; the first one calls it. -/
def reset (s : Timer) (i : Nat) : Timer :=
  match s.resetter i with
  | .out => { s with resetter := update s.resetter i (.store s.now) }
  | .store time => { s with lastResetTime := time, resetter := update s.resetter i .trigger }
  | .trigger => { s with resetTriggered := true, resetter := update s.resetter i .readWaiting }
  | .readWaiting =>
      if s.waiting then { s with resetter := update s.resetter i .out }
      else { s with resetter := update s.resetter i .post }
  | .post => { s with semaphore := s.semaphore + 1, resetter := update s.resetter i .out }

/-- A step of the caller of `stop()`, `none` while it joins the thread. -/
def stop (s : Timer) : Option Timer :=
  match s.stopper with
  | .out => some { s with stopTriggered := true, stopper := .post }
  | .post => some { s with semaphore := s.semaphore + 1, stopper := .join }
  | .join => if s.pc = .exited then some { s with stopper := .joined } else none
  | .joined => none

inductive Event where
  | loop (interrupted : Bool)
  | reset (i : Nat)
  | stop
  /-- Time goes by. -/
  | tick (d : Nat)

def exec (interval : Int) (s : Timer) : Event → Option Timer
  | .loop interrupted => loop interval s interrupted
  | .reset i => some (reset s i)
  | .stop => stop s
  | .tick d => some { s with now := s.now + d }

def Step (interval : Int) (s : Timer) (e : Event) (s' : Timer) : Prop :=
  exec interval s e = some s'

/-- After `start()`; an earlier life may have left a reset. -/
structure Started (s : Timer) : Prop where
  stopTriggered : s.stopTriggered = false
  waiting : s.waiting = false
  semaphore : s.semaphore = 0
  pc : s.pc = .exchangeStop .head .reset
  resetter : ∀ i, s.resetter i = .out
  stopper : s.stopper = .out
  callbacks : s.callbacks = []
  time : s.lastResetTime ≤ s.now

/-! ### What holds at any time -/

/-- Caller `i` has raised the flag and has not decided yet, or is about to post. -/
def WillPost (s : Timer) (i : Nat) : Prop := s.resetter i = .readWaiting ∨ s.resetter i = .post

/-- The thread waits for a timeout: `mWaiting` may be up. -/
def Pc.timed : Pc → Bool
  | .calculateTimeout _ | .semClockwait _ | .lowerWaiting => true
  | _ => false

/-- The thread comes to a check for a stop before it may block. -/
def Pc.checksStop : Pc → Bool
  | .exchangeStop .. | .lowerWaiting => true
  | _ => false

/-- `triggerTime` is in use. -/
def Pc.triggers : Pc → Bool
  | .waitInterval | .raiseWaiting _ | .calculateTimeout _ | .semClockwait _ | .lowerWaiting => true
  | .exchangeStop .waiting _ | .exchangeReset .waiting _ | .checkTime | .timeoutCallback => true
  | _ => false

/-- The state that the check starts from. -/
def Pc.wellFormed : Pc → Bool
  | .exchangeStop .head state => state ≠ .waiting
  | .exchangeReset .head state => state = .reset ∨ state = .idle
  | .exchangeStop .started state | .exchangeReset .started state => state = .reset
  | .exchangeStop .waiting state | .exchangeReset .waiting state => state = .waiting
  | _ => true

/-- The callback that comes next if there is one. -/
def Pc.callback : Pc → Option Callback
  | .exchangeStop .head state => if state = .stopped then none else some .reset
  | .exchangeReset .head _ | .semWait | .resetCallback => some .reset
  | .exited => none
  | _ => some .timeout

/-- The thread has seen a stop. -/
def Pc.stopping : Pc → Bool
  | .exchangeStop .head .stopped | .exited => true
  | _ => false

/-- Reset, timeout, reset and so on. -/
def alternating (n : Nat) : List Callback :=
  (List.range n).map fun k => if k % 2 = 0 then .reset else .timeout

/-- The recorded reset is not newer than `triggerTime` allows, or the thread has yet to
    take it in. -/
def Covered (interval : Int) (s : Timer) : Prop :=
  s.lastResetTime + interval ≤ s.triggerTime ∨ s.resetTriggered = true ∨
    ∃ i, s.resetter i = .trigger

structure Invariant (interval : Int) (s : Timer) : Prop where
  wellFormed : s.pc.wellFormed = true
  waiting : s.waiting = true → s.pc.timed = true
  reset : s.pc = .semWait → s.resetTriggered = true → 0 < s.semaphore ∨ ∃ i, WillPost s i
  stop : s.stopTriggered = true → s.stopper = .post ∨ 0 < s.semaphore ∨ s.pc.checksStop = true
  lastReset : s.lastResetTime ≤ s.now
  stored : ∀ i time, s.resetter i = .store time → time ≤ s.now
  covered : s.pc.triggers = true → Covered interval s
  due : s.pc = .timeoutCallback → s.triggerTime ≤ s.now
  callbacks : s.callbacks = alternating s.callbacks.length
  next : ∀ c, s.pc.callback = some c →
    c = if s.callbacks.length % 2 = 0 then .reset else .timeout
  running : s.stopper = .out → s.stopTriggered = false ∧ s.pc.stopping = false
  joined : s.stopper = .joined → s.pc = .exited

theorem alternating_succ (n : Nat) :
    alternating (n + 1) = alternating n ++ [if n % 2 = 0 then .reset else .timeout] := by
  simp [alternating, List.range_succ]

/-- What a step of the timer thread leaves to the others. -/
structure Own (s s' : Timer) : Prop where
  lastResetTime : s'.lastResetTime = s.lastResetTime
  now : s'.now = s.now
  resetter : s'.resetter = s.resetter
  stopper : s'.stopper = s.stopper

/-- The other callback. -/
def Callback.other : Callback → Callback
  | .reset => .timeout
  | .timeout => .reset

/-- The step makes no callback, or the one that is due. -/
inductive Calls (due due' : Option Callback) (log log' : List Callback) : Prop where
  | none (same : log' = log) (next : ∀ c, due' = some c → due = some c)
  | one (c : Callback) (now : due = some c) (called : log' = log ++ [c])
      (next : ∀ c', due' = some c' → c' = c.other)

/-- **The rule for a step of the timer thread.** -/
theorem Invariant.goto {interval : Int} {s s' : Timer} (h : Invariant interval s) (own : Own s s')
    (running : s.pc ≠ .exited) (wellFormed : s'.pc.wellFormed = true)
    (waiting : s'.waiting = true → s'.pc.timed = true)
    (sleep : s'.pc = .semWait → s'.resetTriggered = false)
    (stop : s'.stopTriggered = true → s.stopTriggered = true ∧
      (s'.pc.checksStop = true ∨ s.pc.checksStop = false ∧ s'.semaphore = s.semaphore))
    (covered : s'.pc.triggers = true → Covered interval s')
    (due : s'.pc = .timeoutCallback → s'.triggerTime ≤ s'.now)
    (calls : Calls s.pc.callback s'.pc.callback s.callbacks s'.callbacks)
    (stopping : s'.pc.stopping = true → s.pc.stopping = true ∨ s.stopTriggered = true) :
    Invariant interval s' := by
  have hparity : ∀ c, c = (if s.callbacks.length % 2 = 0 then Callback.reset else .timeout) →
      c.other = if (s.callbacks.length + 1) % 2 = 0 then .reset else .timeout := by
    rintro c rfl
    rcases Nat.mod_two_eq_zero_or_one s.callbacks.length with hn | hn
    · rw [if_pos hn, if_neg (by omega)]
      rfl
    · rw [if_neg (by omega), if_pos (by omega)]
      rfl
  refine ⟨wellFormed, waiting, ?_, ?_, ?_, ?_, covered, due, ?_, ?_, ?_, ?_⟩
  · intro hpc hreset
    rw [sleep hpc] at hreset
    cases hreset
  · intro hstop
    obtain ⟨hstop, hchecks | ⟨hchecks, hsemaphore⟩⟩ := stop hstop
    · exact .inr (.inr hchecks)
    · rw [own.stopper, hsemaphore]
      rcases h.stop hstop with hpost | hpos | hpc
      · exact .inl hpost
      · exact .inr (.inl hpos)
      · rw [hchecks] at hpc
        cases hpc
  · rw [own.lastResetTime, own.now]
    exact h.lastReset
  · rw [own.resetter, own.now]
    exact h.stored
  · rcases calls with ⟨hsame, -⟩ | ⟨c, hdue, hlog, -⟩
    · rw [hsame]
      exact h.callbacks
    · rw [hlog, List.length_append, List.length_singleton, alternating_succ, ← h.callbacks,
        ← h.next c hdue]
  · intro c hc
    rcases calls with ⟨hsame, hnext⟩ | ⟨c', hdue, hlog, hnext⟩
    · rw [hsame]
      exact h.next c (hnext c hc)
    · rw [hnext c hc, hlog, List.length_append, List.length_singleton]
      exact hparity c' (h.next c' hdue)
  · intro hout
    rw [own.stopper] at hout
    obtain ⟨hno, hnot⟩ := h.running hout
    constructor
    · by_contra hstop
      rw [(stop (by simpa using hstop)).1] at hno
      cases hno
    · by_contra hpc
      rcases stopping (by simpa using hpc) with hpc | hstop
      · rw [hnot] at hpc
        cases hpc
      · rw [hno] at hstop
        cases hstop
  · intro hjoined
    rw [own.stopper] at hjoined
    exact absurd (h.joined hjoined) running

section Loop

variable {interval : Int} {s s' : Timer} {interrupted : Bool}

theorem Covered.keep (h : Covered interval s) (hlast : s'.lastResetTime = s.lastResetTime)
    (htime : s'.triggerTime = s.triggerTime) (hreset : s'.resetTriggered = s.resetTriggered)
    (hresetter : s'.resetter = s.resetter) : Covered interval s' := by
  unfold Covered
  rw [hlast, htime, hreset, hresetter]
  exact h

/-- **The check for a stop.** -/
theorem Invariant.exchangeStop (h : Invariant interval s) {site : Site} {state : TimerState}
    (hpc : s.pc = .exchangeStop site state) (hstep : loop interval s interrupted = some s') :
    Invariant interval s' := by
  have hwf := h.wellFormed
  have hwaiting : s.waiting = false := by
    by_contra hw
    have htimed := h.waiting (by simpa using hw)
    rw [hpc] at htimed
    cases htimed
  have hcovered : s.pc.triggers = true → Covered interval s := h.covered
  simp only [loop, hpc] at hstep
  rw [hpc] at hwf hcovered
  split at hstep
  · next hstop =>
    obtain rfl := Option.some.inj hstep
    apply h.goto
    · exact ⟨rfl, rfl, rfl, rfl⟩
    · rw [hpc]
      exact nofun
    · cases site <;> rfl
    · simp [hwaiting]
    · cases site <;> simp [Site.next]
    · simp
    · cases site <;> simp [Site.next, Pc.triggers]
    · cases site <;> simp [Site.next]
    · refine .none rfl ?_
      cases site <;> simp [Site.next, Pc.callback]
    · exact fun _ => .inr hstop
  · next hstop =>
    split at hstep
    · next hstate =>
      obtain rfl := Option.some.inj hstep
      subst hstate
      cases site with
      | started => cases hwf
      | waiting => cases hwf
      | head =>
        apply h.goto
        · exact ⟨rfl, rfl, rfl, rfl⟩
        · rw [hpc]
          exact nofun
        · rfl
        · simp [hwaiting]
        · simp [Site.next]
        · simp [hstop]
        · simp [Site.next, Pc.triggers]
        · simp [Site.next]
        · exact .none rfl nofun
        · rw [hpc]
          exact fun _ => .inl rfl
    · next hstate =>
      obtain rfl := Option.some.inj hstep
      apply h.goto
      · exact ⟨rfl, rfl, rfl, rfl⟩
      · rw [hpc]
        exact nofun
      · cases site <;> cases state <;> simp_all [Pc.wellFormed]
      · simp [hwaiting]
      · simp
      · simp [hstop]
      · cases site
        · simp [Pc.triggers]
        · simp [Pc.triggers]
        · exact fun _ => hcovered rfl
      · simp
      · refine .none rfl ?_
        rw [hpc]
        cases site <;> simp [Pc.callback, hstate]
      · simp [Pc.stopping]

/-- **The check for a reset.** -/
theorem Invariant.exchangeReset (h : Invariant interval s) {site : Site} {state : TimerState}
    (hpc : s.pc = .exchangeReset site state) (hstep : loop interval s interrupted = some s') :
    Invariant interval s' := by
  have hwf := h.wellFormed
  have hwaiting : s.waiting = false := by
    by_contra hw
    have htimed := h.waiting (by simpa using hw)
    rw [hpc] at htimed
    cases htimed
  have hcovered : s.pc.triggers = true → Covered interval s := h.covered
  simp only [loop, hpc] at hstep
  rw [hpc] at hwf hcovered
  split at hstep
  · obtain rfl := Option.some.inj hstep
    apply h.goto
    · exact ⟨rfl, rfl, rfl, rfl⟩
    · rw [hpc]
      exact nofun
    · cases site <;> rfl
    · simp [hwaiting]
    · simp
    · exact fun hstop => ⟨hstop, .inr ⟨by rw [hpc]; rfl, rfl⟩⟩
    · cases site <;> simp [Site.next, Pc.triggers]
    · cases site <;> simp [Site.next]
    · refine .none rfl ?_
      rw [hpc]
      cases site <;> simp [Site.next, Pc.callback]
    · cases site <;> simp [Site.next, Pc.stopping]
  · next hreset =>
    obtain rfl := Option.some.inj hstep
    apply h.goto
    · exact ⟨rfl, rfl, rfl, rfl⟩
    · rw [hpc]
      exact nofun
    · cases site <;> cases state <;> simp_all [Pc.wellFormed, Site.next]
    · simp [hwaiting]
    · exact fun _ => by simpa using hreset
    · exact fun hstop => ⟨hstop, .inr ⟨by rw [hpc]; rfl, rfl⟩⟩
    · cases site with
      | waiting => exact fun _ => hcovered rfl
      | head => cases state <;> simp_all [Site.next, Pc.triggers, Pc.wellFormed]
      | started => cases state <;> simp_all [Site.next, Pc.triggers, Pc.wellFormed]
    · cases site <;> cases state <;> simp [Site.next]
    · refine .none rfl ?_
      rw [hpc]
      cases site <;> cases state <;> simp_all [Site.next, Pc.callback, Pc.wellFormed]
    · cases site <;> cases state <;> simp_all [Site.next, Pc.stopping, Pc.wellFormed]

/-- A wait that is over. -/
theorem Invariant.wake (h : Invariant interval s) {pc : Pc} {semaphore : Nat}
    (hpc : s.pc = .semWait ∧ pc = .exchangeStop .head .idle ∨
      ∃ timeout, s.pc = .semClockwait timeout ∧ pc = .lowerWaiting) :
    Invariant interval { s with semaphore := semaphore, pc } := by
  have hcovered := h.covered
  have hwaiting := h.waiting
  have hstop : ∀ hstop : s.stopTriggered = true, pc.checksStop = true := by
    rcases hpc with ⟨-, rfl⟩ | ⟨timeout, -, rfl⟩ <;> exact fun _ => rfl
  apply h.goto
  · exact ⟨rfl, rfl, rfl, rfl⟩
  · rcases hpc with ⟨hpc, -⟩ | ⟨timeout, hpc, -⟩ <;> rw [hpc] <;> exact nofun
  · rcases hpc with ⟨-, rfl⟩ | ⟨timeout, -, rfl⟩ <;> rfl
  · intro hw
    rcases hpc with ⟨hpc, -⟩ | ⟨timeout, -, rfl⟩
    · have htimed := hwaiting hw
      rw [hpc] at htimed
      cases htimed
    · rfl
  · rcases hpc with ⟨-, rfl⟩ | ⟨timeout, -, rfl⟩ <;> exact nofun
  · exact fun hs => ⟨hs, .inl (hstop hs)⟩
  · rcases hpc with ⟨-, rfl⟩ | ⟨timeout, hpc, rfl⟩
    · exact nofun
    · intro
      exact (hcovered (by rw [hpc]; rfl)).keep rfl rfl rfl rfl
  · rcases hpc with ⟨-, rfl⟩ | ⟨timeout, -, rfl⟩ <;> exact nofun
  · refine .none rfl ?_
    rcases hpc with ⟨hpc, rfl⟩ | ⟨timeout, hpc, rfl⟩ <;> rw [hpc] <;> exact fun _ => id
  · rcases hpc with ⟨-, rfl⟩ | ⟨timeout, -, rfl⟩ <;> exact nofun

/-- A step from `pc` that neither waits nor looks at a flag. -/
theorem Invariant.advance (h : Invariant interval s) {pc : Pc} (hpc : s.pc = pc) (own : Own s s')
    (hstop : s'.stopTriggered = s.stopTriggered) (hsemaphore : s'.semaphore = s.semaphore)
    (hchecks : pc.checksStop = false) (running : pc ≠ .exited) (wellFormed : s'.pc.wellFormed = true)
    (waiting : s'.waiting = true → s'.pc.timed = true) (sleep : s'.pc ≠ .semWait)
    (covered : s'.pc.triggers = true → Covered interval s')
    (due : s'.pc = .timeoutCallback → s'.triggerTime ≤ s'.now)
    (calls : Calls pc.callback s'.pc.callback s.callbacks s'.callbacks)
    (stopping : s'.pc.stopping = false) : Invariant interval s' := by
  subst hpc
  refine h.goto own running wellFormed waiting (fun hs => absurd hs sleep) ?_ covered due calls ?_
  · rw [hstop]
    exact fun hs => ⟨hs, .inr ⟨hchecks, hsemaphore⟩⟩
  · rw [stopping]
    exact nofun

theorem Invariant.not_waiting (h : Invariant interval s) {pc : Pc} (hpc : s.pc = pc)
    (htimed : pc.timed = false) : s.waiting ≠ true := by
  intro hw
  have hpc' := h.waiting hw
  rw [hpc, htimed] at hpc'
  cases hpc'

/-- **A step of the timer thread.** -/
theorem Invariant.loop (h : Invariant interval s)
    (hstep : OneShotTimer.loop interval s interrupted = some s') : Invariant interval s' := by
  have hcovered : ∀ {pc : Pc}, s.pc = pc → pc.triggers = true → Covered interval s :=
    fun hpc htriggers => h.covered (hpc ▸ htriggers)
  cases hpc : s.pc with
  | exchangeStop site state => exact h.exchangeStop hpc hstep
  | exchangeReset site state => exact h.exchangeReset hpc hstep
  | semWait =>
    simp only [OneShotTimer.loop, hpc] at hstep
    split at hstep
    · obtain rfl := Option.some.inj hstep
      exact h.wake (.inl ⟨hpc, rfl⟩)
    · split at hstep
      · obtain rfl := Option.some.inj hstep
        exact h.wake (.inl ⟨hpc, rfl⟩)
      · cases hstep
  | resetCallback =>
    have hw := h.not_waiting hpc rfl
    simp only [OneShotTimer.loop, hpc] at hstep
    obtain rfl := Option.some.inj hstep
    exact h.advance hpc ⟨rfl, rfl, rfl, rfl⟩ rfl rfl rfl nofun rfl (fun hs => absurd hs hw) nofun nofun
      nofun (.one .reset rfl rfl fun _ hc => (Option.some.inj hc).symm) rfl
  | setTrigger =>
    have hw := h.not_waiting hpc rfl
    simp only [OneShotTimer.loop, hpc] at hstep
    obtain rfl := Option.some.inj hstep
    exact h.advance hpc ⟨rfl, rfl, rfl, rfl⟩ rfl rfl rfl nofun rfl (fun hs => absurd hs hw) nofun
      (fun _ => .inl (Int.add_le_add_right h.lastReset interval)) nofun (.none rfl fun _ => id) rfl
  | waitInterval =>
    have hw := h.not_waiting hpc rfl
    simp only [OneShotTimer.loop, hpc] at hstep
    split at hstep
    · obtain rfl := Option.some.inj hstep
      exact h.advance hpc ⟨rfl, rfl, rfl, rfl⟩ rfl rfl rfl nofun rfl (fun hs => absurd hs hw) nofun
        (fun _ => (hcovered hpc rfl).keep rfl rfl rfl rfl) nofun (.none rfl fun _ => id) rfl
    · obtain rfl := Option.some.inj hstep
      exact h.advance hpc ⟨rfl, rfl, rfl, rfl⟩ rfl rfl rfl nofun rfl (fun _ => rfl) nofun
        (fun _ => (hcovered hpc rfl).keep rfl rfl rfl rfl) nofun (.none rfl fun _ => id) rfl
  | raiseWaiting triggerInterval =>
    simp only [OneShotTimer.loop, hpc] at hstep
    obtain rfl := Option.some.inj hstep
    exact h.advance hpc ⟨rfl, rfl, rfl, rfl⟩ rfl rfl rfl nofun rfl (fun _ => rfl) nofun
      (fun _ => (hcovered hpc rfl).keep rfl rfl rfl rfl) nofun (.none rfl fun _ => id) rfl
  | calculateTimeout triggerInterval =>
    simp only [OneShotTimer.loop, hpc] at hstep
    obtain rfl := Option.some.inj hstep
    exact h.advance hpc ⟨rfl, rfl, rfl, rfl⟩ rfl rfl rfl nofun rfl (fun _ => rfl) nofun
      (fun _ => (hcovered hpc rfl).keep rfl rfl rfl rfl) nofun (.none rfl fun _ => id) rfl
  | semClockwait timeout =>
    simp only [OneShotTimer.loop, hpc] at hstep
    split at hstep
    · obtain rfl := Option.some.inj hstep
      exact h.wake (.inr ⟨timeout, hpc, rfl⟩)
    · split at hstep
      · obtain rfl := Option.some.inj hstep
        exact h.wake (.inr ⟨timeout, hpc, rfl⟩)
      · split at hstep
        · obtain rfl := Option.some.inj hstep
          exact h.wake (.inr ⟨timeout, hpc, rfl⟩)
        · cases hstep
  | lowerWaiting =>
    simp only [OneShotTimer.loop, hpc] at hstep
    obtain rfl := Option.some.inj hstep
    refine h.goto ⟨rfl, rfl, rfl, rfl⟩ (hpc ▸ nofun) rfl nofun nofun
      (fun hstop => ⟨hstop, .inl rfl⟩) (fun _ => (hcovered hpc rfl).keep rfl rfl rfl rfl) nofun
      (.none rfl ?_) nofun
    rw [hpc]
    exact fun _ => id
  | checkTime =>
    have hw := h.not_waiting hpc rfl
    simp only [OneShotTimer.loop, hpc] at hstep
    split at hstep
    · next hdue =>
      obtain rfl := Option.some.inj hstep
      exact h.advance hpc ⟨rfl, rfl, rfl, rfl⟩ rfl rfl rfl nofun rfl (fun hs => absurd hs hw) nofun
        (fun _ => (hcovered hpc rfl).keep rfl rfl rfl rfl) (fun _ => Int.le_of_sub_nonpos hdue)
        (.none rfl fun _ => id) rfl
    · obtain rfl := Option.some.inj hstep
      exact h.advance hpc ⟨rfl, rfl, rfl, rfl⟩ rfl rfl rfl nofun rfl (fun hs => absurd hs hw) nofun
        (fun _ => (hcovered hpc rfl).keep rfl rfl rfl rfl) nofun (.none rfl fun _ => id) rfl
  | loadReset =>
    have hw := h.not_waiting hpc rfl
    simp only [OneShotTimer.loop, hpc] at hstep
    obtain rfl := Option.some.inj hstep
    exact h.advance hpc ⟨rfl, rfl, rfl, rfl⟩ rfl rfl rfl nofun rfl (fun hs => absurd hs hw) nofun
      (fun _ => .inl (Int.le_refl _)) nofun (.none rfl fun _ => id) rfl
  | timeoutCallback =>
    have hw := h.not_waiting hpc rfl
    simp only [OneShotTimer.loop, hpc] at hstep
    obtain rfl := Option.some.inj hstep
    exact h.advance hpc ⟨rfl, rfl, rfl, rfl⟩ rfl rfl rfl nofun rfl (fun hs => absurd hs hw) nofun nofun
      nofun (.one .timeout rfl rfl fun _ hc => (Option.some.inj hc).symm) rfl
  | exited => simp [OneShotTimer.loop, hpc] at hstep

end Loop

/-! ### The callers -/

section Callers

variable {interval : Int} {s s' : Timer}

/-- Another caller stays where it is. -/
theorem update_resetter {i j : Nat} {pc : ResetPc} (h : j ≠ i) :
    update s.resetter i pc j = s.resetter j := update_of_ne h pc s.resetter

/-- **A step of a caller of `reset()`.** -/
theorem Invariant.resetStep (h : Invariant interval s) (i : Nat) :
    Invariant interval (OneShotTimer.reset s i) := by
  have hother : ∀ {p : ResetPc → Prop} {pc : ResetPc}, ¬ p (s.resetter i) →
      (∃ j, p (s.resetter j)) → ∃ j, p (update s.resetter i pc j) := by
    rintro p pc hi ⟨j, hj⟩
    have hne : j ≠ i := fun heq => hi (heq ▸ hj)
    exact ⟨j, by rwa [update_resetter hne]⟩
  have hstored : ∀ {pc : ResetPc}, (∀ time, pc = .store time → time ≤ s.now) →
      ∀ j time, update s.resetter i pc j = .store time → time ≤ s.now := by
    intro pc hpc j time hj
    rcases eq_or_ne j i with rfl | hne
    · rw [update_self] at hj
      exact hpc time hj
    · rw [update_resetter hne] at hj
      exact h.stored j time hj
  unfold OneShotTimer.reset
  split
  · next hpc =>
    refine ⟨h.wellFormed, h.waiting, ?_, h.stop, h.lastReset, ?_, ?_, h.due, h.callbacks, h.next,
      h.running, h.joined⟩
    · intro hsleep htriggered
      refine (h.reset hsleep htriggered).imp id (hother (p := fun p => p = .readWaiting ∨ p = .post) ?_)
      simp [hpc]
    · refine hstored fun time htime => ?_
      obtain rfl := ResetPc.store.inj htime
      exact Int.le_refl _
    · intro htriggers
      refine (h.covered htriggers).imp id (Or.imp id (hother (p := (· = .trigger)) ?_))
      simp [hpc]
  · next time hpc =>
    refine ⟨h.wellFormed, h.waiting, ?_, h.stop, h.stored i time hpc, hstored nofun, ?_, h.due,
      h.callbacks, h.next, h.running, h.joined⟩
    · intro hsleep htriggered
      refine (h.reset hsleep htriggered).imp id (hother (p := fun p => p = .readWaiting ∨ p = .post) ?_)
      simp [hpc]
    · exact fun _ => .inr (.inr ⟨i, update_self i _ _⟩)
  · refine ⟨h.wellFormed, h.waiting, ?_, h.stop, h.lastReset, hstored nofun, ?_, h.due,
      h.callbacks, h.next, h.running, h.joined⟩
    · exact fun _ _ => .inr ⟨i, .inl (update_self i _ _)⟩
    · exact fun _ => .inr (.inl rfl)
  · next hpc =>
    have hcovered : ∀ {pc : ResetPc}, s.pc.triggers = true →
        Covered interval { s with resetter := update s.resetter i pc } := by
      intro pc htriggers
      refine (h.covered htriggers).imp id (Or.imp id (hother (p := (· = .trigger)) ?_))
      simp [hpc]
    split
    · next hwaiting =>
      refine ⟨h.wellFormed, h.waiting, ?_, h.stop, h.lastReset, hstored nofun, hcovered, h.due,
        h.callbacks, h.next, h.running, h.joined⟩
      -- The flag is up, so the thread does not sleep without a timeout.
      intro hsleep
      have htimed := h.waiting hwaiting
      rw [show s.pc = .semWait from hsleep] at htimed
      cases htimed
    · refine ⟨h.wellFormed, h.waiting, ?_, h.stop, h.lastReset, hstored nofun, hcovered, h.due,
        h.callbacks, h.next, h.running, h.joined⟩
      exact fun _ _ => .inr ⟨i, .inr (update_self i _ _)⟩
  · next hpc =>
    refine ⟨h.wellFormed, h.waiting, ?_, ?_, h.lastReset, hstored nofun, ?_, h.due, h.callbacks,
      h.next, h.running, h.joined⟩
    · exact fun _ _ => .inl (Nat.succ_pos _)
    · exact fun _ => .inr (.inl (Nat.succ_pos _))
    · intro htriggers
      refine (h.covered htriggers).imp id (Or.imp id (hother (p := (· = .trigger)) ?_))
      simp [hpc]

/-- **A step of the caller of `stop()`.** -/
theorem Invariant.stopStep (h : Invariant interval s) (hstep : OneShotTimer.stop s = some s') :
    Invariant interval s' := by
  unfold OneShotTimer.stop at hstep
  split at hstep
  · obtain rfl := Option.some.inj hstep
    exact ⟨h.wellFormed, h.waiting, h.reset, fun _ => .inl rfl, h.lastReset, h.stored, h.covered,
      h.due, h.callbacks, h.next, nofun, nofun⟩
  · obtain rfl := Option.some.inj hstep
    exact ⟨h.wellFormed, h.waiting, fun _ _ => .inl (Nat.succ_pos _),
      fun _ => .inr (.inl (Nat.succ_pos _)), h.lastReset, h.stored, h.covered, h.due, h.callbacks,
      h.next, nofun, nofun⟩
  · next hpc =>
    split at hstep
    · next hexited =>
      obtain rfl := Option.some.inj hstep
      refine ⟨h.wellFormed, h.waiting, h.reset, fun hstop => ?_, h.lastReset, h.stored, h.covered,
        h.due, h.callbacks, h.next, nofun, fun _ => hexited⟩
      exact (h.stop hstop).imp (fun hpost => by rw [hpc] at hpost; cases hpost) id
    · cases hstep
  · cases hstep

theorem Invariant.tick (h : Invariant interval s) (d : Nat) :
    Invariant interval { s with now := s.now + d } := by
  have hlater : s.now ≤ s.now + (d : Int) := Int.le_add_of_nonneg_right (Int.natCast_nonneg d)
  exact ⟨h.wellFormed, h.waiting, h.reset, h.stop, Int.le_trans h.lastReset hlater,
    fun i time hi => Int.le_trans (h.stored i time hi) hlater, h.covered,
    fun hpc => Int.le_trans (h.due hpc) hlater, h.callbacks, h.next, h.running, h.joined⟩

theorem Started.invariant (h : Started s) : Invariant interval s := by
  have hpc := h.pc
  refine ⟨?_, ?_, ?_, ?_, h.time, ?_, ?_, ?_, ?_, ?_, ?_, ?_⟩
  · rw [hpc]
    rfl
  · rw [h.waiting]
    exact nofun
  · rw [hpc]
    exact nofun
  · rw [h.stopTriggered]
    exact nofun
  · intro i time hi
    rw [h.resetter] at hi
    cases hi
  · rw [hpc]
    exact nofun
  · rw [hpc]
    exact nofun
  · rw [h.callbacks]
    rfl
  · rw [hpc, h.callbacks]
    exact fun _ hc => (Option.some.inj hc).symm
  · rw [hpc, h.stopTriggered]
    exact fun _ => ⟨rfl, rfl⟩
  · rw [h.stopper]
    exact nofun

end Callers

/-- The thread sleeps until somebody posts. -/
def Asleep (s : Timer) : Prop := s.pc = .semWait ∧ s.semaphore = 0

/-- The thread sleeps until somebody posts or the timeout comes. -/
def Waits (s : Timer) : Prop :=
  s.semaphore = 0 ∧ ∃ timeout, s.pc = .semClockwait timeout ∧ s.now < timeout

/-- **What the timer promises.** -/
structure Sound (interval : Int) (s : Timer) : Prop where
  /-- No reset is lost: its caller posts if the thread sleeps. -/
  reset : Asleep s → s.resetTriggered = true → ∃ i, WillPost s i
  /-- `mWaiting` is up only while the thread waits with a timeout. -/
  waiting : s.waiting = true → s.pc.timed = true
  stop : Asleep s ∨ Waits s → s.stopTriggered = true → s.stopper = .post
  /-- The timeout is not early: the interval has gone by since the reset on record, or a
      reset has come that the thread has yet to see. -/
  timeout : s.pc = .timeoutCallback →
    s.lastResetTime + interval ≤ s.now ∨ s.resetTriggered = true ∨ ∃ i, s.resetter i = .trigger
  callbacks : s.callbacks = alternating s.callbacks.length
  exited : s.pc = .exited → s.stopper ≠ .out
  joined : s.stopper = .joined → s.pc = .exited

theorem Invariant.sound {interval : Int} {s : Timer} (h : Invariant interval s) :
    Sound interval s where
  reset hasleep htriggered :=
    (h.reset hasleep.1 htriggered).resolve_left (Nat.not_lt.mpr (Nat.le_of_eq hasleep.2))
  waiting := h.waiting
  stop hblocked hstop := by
    have hblocked : s.semaphore = 0 ∧ s.pc.checksStop = false := by
      rcases hblocked with ⟨hpc, hsemaphore⟩ | ⟨hsemaphore, timeout, hpc, -⟩
      · exact ⟨hsemaphore, by rw [hpc]; rfl⟩
      · exact ⟨hsemaphore, by rw [hpc]; rfl⟩
    rcases h.stop hstop with hpost | hpos | hchecks
    · exact hpost
    · rw [hblocked.1] at hpos
      cases hpos
    · rw [hblocked.2] at hchecks
      cases hchecks
  timeout hpc := by
    have hcovered : Covered interval s := h.covered (by rw [hpc]; rfl)
    exact hcovered.imp (fun hle => Int.le_trans hle (h.due hpc)) id
  callbacks := h.callbacks
  exited hpc hout := by
    have hstopping := (h.running hout).2
    rw [hpc] at hstopping
    cases hstopping
  joined := h.joined

/-- **The timer keeps its promises** in every order of the steps of its thread and its
    callers. -/
theorem timer_sound {interval : Int} {s : Timer} (h : Reachable Started (Step interval) s) :
    Sound interval s := by
  refine (h.invariant (I := Invariant interval) (fun _ => Started.invariant) ?_).sound
  intro s e s' hs hstep
  cases e with
  | loop interrupted => exact hs.loop hstep
  | reset i =>
    obtain rfl := Option.some.inj hstep
    exact hs.resetStep i
  | stop => exact hs.stopStep hstep
  | tick d =>
    obtain rfl := Option.some.inj hstep
    exact hs.tick d

/-- A thread that has just been started. -/
def fresh : Timer where
  resetTriggered := false
  stopTriggered := false
  waiting := false
  lastResetTime := 0
  semaphore := 0
  now := 0
  pc := .exchangeStop .head .reset
  triggerTime := 0
  resetter _ := .out
  stopper := .out
  callbacks := []

/-- The events in turn. -/
def run (interval : Int) (s : Timer) (l : List Event) : Option Timer :=
  l.foldlM (exec interval) s

theorem Reachable.exec {interval : Int} {s s' : Timer} (h : Reachable Started (Step interval) s)
    {l : List Event} (hrun : run interval s l = some s') : Reachable Started (Step interval) s' := by
  induction l generalizing s with
  | nil =>
    obtain rfl := Option.some.inj hrun
    exact h
  | cons e l ih =>
    obtain ⟨s₁, hstep, hrest⟩ := Option.bind_eq_some_iff.mp hrun
    exact ih (h.next hstep) hrest

/-- A timeout, and then the first steps of a reset. -/
def lateReset : List Event :=
  List.replicate 9 (.loop false) ++ [.tick 5] ++ List.replicate 8 (.loop false) ++
    List.replicate 3 (.reset 0)

/-- The thread sleeps; a caller has raised the flag and is about to look at `mWaiting`. -/
theorem fresh_sound : ∃ s, run 5 fresh lateReset = some s ∧ s.callbacks = [.reset, .timeout] ∧
    Asleep s ∧ s.resetTriggered = true ∧ Sound 5 s := by
  have hstart : Started fresh := ⟨rfl, rfl, rfl, rfl, fun _ => rfl, rfl, rfl, Int.le_refl 0⟩
  have hrun : ∃ s, run 5 fresh lateReset = some s ∧ s.callbacks = [.reset, .timeout] ∧
      Asleep s ∧ s.resetTriggered = true := ⟨_, rfl, rfl, ⟨rfl, rfl⟩, rfl⟩
  obtain ⟨s, hrun, hcallbacks, hasleep, hreset⟩ := hrun
  exact ⟨s, hrun, hcallbacks, hasleep, hreset, timer_sound (Reachable.exec (.start hstart) hrun)⟩

end ExynosHal.OneShotTimer
