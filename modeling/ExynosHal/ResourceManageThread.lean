/-
  ExynosHal/ResourceManageThread.lean
  ===================================
  **The thread that frees the output buffers of an MPP.**

  `ExynosMPP::ResourceManageThread` of `libhwc2.1/resources/ExynosMPP.cpp`.  Whoever
  changes an M2M MPP hands its old output buffers and the fence of its last job to a
  thread, which frees the ones and waits for the other, and then reports the hardware
  idle.  The two lists are under a mutex; the state of the hardware and `mRunning` are
  not.

  `thread_sound`: what was handed over is done once and in order, the thread never
  sleeps over work, and it reports an idle MPP only when it has waited for every fence.
  The destructor clears `mRunning` without the mutex, so that no such statement holds
  of it.
-/
import ExynosHal.FenceTracer
import ExynosHal.Monitor

namespace ExynosHal.ResourceManageThread

open ExynosHal.TransitionSystem ExynosHal.Monitor ExynosHal.FenceTracer Function

/-! ### The threads -/

inductive Thread where
  | worker
  /-- Who destroys the thread. -/
  | owner
  | caller (i : Nat)
  deriving DecidableEq, Repr

/-- `exynos_mpp_img_info`, as far as it is freed. -/
structure Buffer where
  bufferHandle : Nat
  acrylicAcquireFenceFd : Int
  acrylicReleaseFenceFd : Int
  deriving DecidableEq, Repr

inductive Pc where
  -- threadLoop
  | loop | lock | check | wait | unlock | leave | ended
  /-- `mHWState` is read once for each of the two conditions. -/
  | running | notRunning
  /-- `setIdle` follows if no `sync_wait` fails. -/
  | checkStateFences (reports ret : Bool)
  | setIdle
  | freeBuffers
  -- the destructor
  | idle | notify | join | joined
  -- addFreedBuffer, addStateFence and the stores of mHWState
  | out
  | bufferLock (b : Buffer) | bufferPush (b : Buffer)
  | fenceLock (fence : Int) | fencePush (fence : Int)
  | signal | callerUnlock
  deriving DecidableEq, Repr

/-- What a thread is told. -/
inductive Input where
  | addFreedBuffer (b : Buffer)
  | addStateFence (fence : Int)
  /-- `requestHWStateChange` stores `mHWState`. -/
  | setState (running : Bool)
  /-- The result of `sync_wait`. -/
  | waited (ok : Bool)

/-- What the thread did. -/
inductive Action where
  | wait (fence : Int)
  | close (fence : Int)
  | free (bufferHandle : Nat)
  deriving DecidableEq, Repr

structure Shared where
  mFreedBuffers : List Buffer
  mStateFences : List Int
  mRunning : Bool
  /-- `mHWState` is `MPP_HW_STATE_RUNNING`. -/
  hwRunning : Bool
  /-- The thread has returned. -/
  finished : Bool
  /-- What the thread has done, oldest first. -/
  actions : List Action
  /-- All that was handed over, and how much of it is done. -/
  addedBuffers : List Buffer
  addedFences : List Int
  freed : List Buffer
  waited : List Int
  deriving DecidableEq, Repr

/-- The fences of a buffer that are open. -/
def Buffer.fences (b : Buffer) : List Int :=
  [b.acrylicAcquireFenceFd, b.acrylicReleaseFenceFd].filter fence_valid

/-- What becomes of a freed buffer. -/
def Buffer.release (b : Buffer) : List Action := b.fences.map .close ++ [.free b.bufferHandle]

/-- What becomes of a state fence. -/
def finish (fence : Int) : List Action :=
  if fence_valid fence then [.wait fence, .close fence] else []

def frees (l : List Action) : List Nat :=
  l.filterMap fun a => match a with
    | .free bufferHandle => some bufferHandle
    | _ => none

def waits (l : List Action) : List Int :=
  l.filterMap fun a => match a with
    | .wait fence => some fence
    | _ => none

def closes (l : List Action) : List Int :=
  l.filterMap fun a => match a with
    | .close fence => some fence
    | _ => none

section Actions

variable (b : Buffer) (fence : Int) (l l' : List Action)

@[simp] theorem frees_append : frees (l ++ l') = frees l ++ frees l' := List.filterMap_append
@[simp] theorem waits_append : waits (l ++ l') = waits l ++ waits l' := List.filterMap_append
@[simp] theorem closes_append : closes (l ++ l') = closes l ++ closes l' := List.filterMap_append

@[simp] theorem frees_release : frees b.release = [b.bufferHandle] := by
  simp [Buffer.release, frees, List.filterMap_map]

@[simp] theorem waits_release : waits b.release = [] := by
  simp [Buffer.release, waits, List.filterMap_map]

@[simp] theorem closes_release : closes b.release = b.fences := by
  simp [Buffer.release, closes, List.filterMap_map]

@[simp] theorem frees_finish : frees (finish fence) = [] := by
  unfold finish
  split <;> rfl

@[simp] theorem waits_finish : waits (finish fence) = [fence].filter fence_valid := by
  unfold finish
  cases hvalid : fence_valid fence <;> simp [waits, hvalid]

@[simp] theorem closes_finish : closes (finish fence) = [fence].filter fence_valid := by
  unfold finish
  cases hvalid : fence_valid fence <;> simp [closes, hvalid]

end Actions

/-! ### The code -/

/-- A round of `checkStateFences`. -/
def checkStateFence (reports ret : Bool) (e : Input) (x : Shared) : Option (Shared × Pc) :=
  match x.mStateFences with
  | [] => some (x, if reports && ret then .setIdle else .freeBuffers)
  | fence :: rest =>
      let x' := { x with
        mStateFences := rest
        waited := x.waited ++ [fence]
        actions := x.actions ++ finish fence }
      if fence_valid fence then
        match e with
        | .waited ok => some (x', .checkStateFences reports (ret && ok))
        | _ => none
      else some (x', .checkStateFences reports ret)

/-- A round of `freeBuffers`. -/
def freeBuffer (x : Shared) : Shared × Pc :=
  match x.mFreedBuffers with
  | [] => (x, .unlock)
  | b :: rest =>
      ({ x with
        mFreedBuffers := rest
        freed := x.freed ++ [b]
        actions := x.actions ++ b.release }, .freeBuffers)

def instr : Pc → Instr Input Shared Pc
  | .loop => branch fun x => if x.mRunning then .lock else .leave
  | .lock => .lock .check
  | .check => branch fun x =>
      if x.mFreedBuffers = [] ∧ x.mStateFences = [] ∧ x.mRunning then .wait else .running
  | .wait => .wait .check
  | .running => branch fun x =>
      if x.hwRunning ∧ x.mStateFences ≠ [] then .checkStateFences true true else .notRunning
  | .notRunning => branch fun x =>
      if x.mStateFences ≠ [] ∧ x.hwRunning = false then .checkStateFences false true
      else .freeBuffers
  | .checkStateFences reports ret => .act (checkStateFence reports ret)
  | .setIdle => always fun x => ({ x with hwRunning := false }, .freeBuffers)
  | .freeBuffers => always freeBuffer
  | .unlock => .unlock .loop
  | .leave => always fun x => ({ x with finished := true }, .ended)
  | .ended => .act fun _ _ => none
  | .idle => always fun x => ({ x with mRunning := false }, .notify)
  | .notify => .notify .join
  | .join => .act fun _ x => if x.finished then some (x, .joined) else none
  | .joined => .act fun _ _ => none
  | .out => .act fun e x =>
      match e with
      | .addFreedBuffer b => some (x, .bufferLock b)
      | .addStateFence fence => some (x, .fenceLock fence)
      | .setState running => some ({ x with hwRunning := running }, .out)
      | .waited _ => none
  | .bufferLock b => .lock (.bufferPush b)
  | .bufferPush b => always fun x =>
      ({ x with mFreedBuffers := x.mFreedBuffers ++ [b], addedBuffers := x.addedBuffers ++ [b] },
        .signal)
  | .fenceLock fence => .lock (.fencePush fence)
  | .fencePush fence => always fun x =>
      ({ x with mStateFences := x.mStateFences ++ [fence], addedFences := x.addedFences ++ [fence] },
        .signal)
  | .signal => .notify .callerUnlock
  | .callerUnlock => .unlock .out

abbrev System := State Thread Shared Pc

def code (_ : Thread) (p : Pc) : Instr Input Shared Pc := instr p

/-- The constructor of the MPP has started the thread. -/
structure Started (s : System) : Prop where
  free : s.owner = none
  phase : ∀ t, s.phase t = .running
  worker : s.pc .worker = .loop
  owner : s.pc .owner = .idle
  caller : ∀ i, s.pc (.caller i) = .out
  buffers : s.shared.mFreedBuffers = [] ∧ s.shared.freed = [] ∧ s.shared.addedBuffers = []
  fences : s.shared.mStateFences = [] ∧ s.shared.waited = [] ∧ s.shared.addedFences = []
  actions : s.shared.actions = []

/-! ### Who is where -/

def Pc.thread : Pc → Option Thread
  | .idle | .notify | .join | .joined => some .owner
  | .out | .bufferLock _ | .bufferPush _ | .fenceLock _ | .fencePush _ | .signal
  | .callerUnlock => none
  | _ => some .worker

/-- Between a lock and the unlock. -/
def Pc.holds : Pc → Bool
  | .check | .wait | .running | .notRunning | .checkStateFences .. | .setIdle | .freeBuffers
  | .unlock => true
  | .bufferPush _ | .fencePush _ | .signal | .callerUnlock => true
  | _ => false

def holds (_ : Thread) (p : Pc) : Bool := p.holds

/-- In `addFreedBuffer` or `addStateFence`, before the signal. -/
def Pc.signals : Pc → Bool
  | .signal => true
  | _ => false

/-- Nothing to do. -/
def Drained (x : Shared) : Prop := x.mFreedBuffers = [] ∧ x.mStateFences = []

/-- What was handed over is done or waits, in order. -/
structure InOrder (x : Shared) : Prop where
  buffers : x.freed ++ x.mFreedBuffers = x.addedBuffers
  fences : x.waited ++ x.mStateFences = x.addedFences
  frees : frees x.actions = x.freed.map Buffer.bufferHandle
  waits : waits x.actions = x.waited.filter fence_valid
  closes : (closes x.actions).Perm (x.freed.flatMap Buffer.fences ++ x.waited.filter fence_valid)

/-- What the thread relies on inside. -/
def Pc.relies : Pc → Shared → Prop
  | .wait, x => Drained x
  | .setIdle, x => x.mStateFences = []
  | _, _ => True

def assertions : Assertions Thread Shared Pc where
  global := InOrder
  place
    | .worker => fun p x => p.thread = some .worker ∧ p.relies x
    | .owner => fun p _ => p.thread = some .owner
    | .caller _ => fun p _ => p.thread = none
  waiting
    | .worker => fun _ => True
    | _ => fun _ => False

/-! ### The steps -/

/-- What every act has in common. -/
structure Acted (p next : Pc) (x x' : Shared) : Prop where
  holds : next.holds = p.holds
  thread : next.thread = p.thread
  relies : next.relies x'
  inOrder : InOrder x → InOrder x'
  /-- Only a call gives the thread something to do, inside and with a signal to come. -/
  drained : next.signals = true ∨ (Drained x → Drained x') ∧
    (x.mStateFences = [] → x'.mStateFences = [])
  signals : p.signals = false
  outside : p.holds = false → x'.mFreedBuffers = x.mFreedBuffers ∧ x'.mStateFences = x.mStateFences

/-- The lists are as they were. -/
theorem Acted.same {p next : Pc} {x x' : Shared} (hholds : next.holds = p.holds)
    (hthread : next.thread = p.thread) (hrelies : next.relies x') (hsignals : p.signals = false) (hbuffers : x'.mFreedBuffers = x.mFreedBuffers)
    (hfences : x'.mStateFences = x.mStateFences) (hinOrder : InOrder x → InOrder x') :
    Acted p next x x' :=
  ⟨hholds, hthread, hrelies, hinOrder, .inr ⟨fun h => ⟨hbuffers.trans h.1, hfences.trans h.2⟩, hfences.trans⟩,
    hsignals, fun _ => ⟨hbuffers, hfences⟩⟩

theorem Acted.id {p next : Pc} {x : Shared} (hholds : next.holds = p.holds)
    (hthread : next.thread = p.thread) (hrelies : next.relies x) (hsignals : p.signals = false) :
    Acted p next x x :=
  .same hholds hthread hrelies hsignals rfl rfl fun h => h

theorem acted_checkStateFence {reports ret : Bool} {e : Input} {x x' : Shared} {next : Pc}
    (hact : checkStateFence reports ret e x = some (x', next)) :
    Acted (.checkStateFences reports ret) next x x' := by
  unfold checkStateFence at hact
  split at hact
  · next hnil =>
    cases hact
    split
    · exact .id rfl rfl hnil rfl
    · exact .id rfl rfl trivial rfl
  · next fence rest hlist =>
    have hx' : x' = { x with
        mStateFences := rest
        waited := x.waited ++ [fence]
        actions := x.actions ++ finish fence } ∧ ∃ ret', next = .checkStateFences reports ret' := by
      dsimp only at hact
      split at hact
      · split at hact <;> cases hact
        exact ⟨rfl, _, rfl⟩
      · cases hact
        exact ⟨rfl, _, rfl⟩
    obtain ⟨rfl, ret', rfl⟩ := hx'
    refine ⟨rfl, rfl, trivial, fun h => ⟨h.buffers, ?_, ?_, ?_, ?_⟩,
      .inr ⟨fun h => ?_, fun h => ?_⟩, rfl, nofun⟩
    · rw [← h.fences, hlist, List.append_assoc, List.singleton_append]
    · simpa using h.frees
    · rw [waits_append, waits_finish, List.filter_append, h.waits]
    · rw [closes_append, closes_finish, List.filter_append, ← List.append_assoc]
      exact h.closes.append_right _
    · exact absurd (hlist.symm.trans h.2) (List.cons_ne_nil _ _)
    · exact absurd (hlist.symm.trans h) (List.cons_ne_nil _ _)

theorem acted_freeBuffer {x x' : Shared} {next : Pc} (hact : freeBuffer x = (x', next)) :
    Acted .freeBuffers next x x' := by
  unfold freeBuffer at hact
  split at hact
  · cases hact
    exact .id rfl rfl trivial rfl
  · next b rest hlist =>
    cases hact
    refine ⟨rfl, rfl, trivial, fun h => ⟨?_, h.fences, ?_, ?_, ?_⟩,
      .inr ⟨fun h => ?_, fun h => h⟩, rfl, nofun⟩
    · rw [← h.buffers, hlist, List.append_assoc, List.singleton_append]
    · simp [h.frees]
    · simpa using h.waits
    · have hswap : (x.freed.flatMap Buffer.fences ++ x.waited.filter fence_valid ++ b.fences).Perm
          (x.freed.flatMap Buffer.fences ++ b.fences ++ x.waited.filter fence_valid) := by
        rw [List.append_assoc, List.append_assoc]
        exact List.perm_append_comm.append_left _
      rw [closes_append, closes_release, List.flatMap_append, List.flatMap_singleton]
      exact (h.closes.append_right _).trans hswap
    · exact absurd (hlist.symm.trans h.1) (List.cons_ne_nil _ _)

theorem acted {p : Pc} {f : Input → Shared → Option (Shared × Pc)} {e : Input} {x x' : Shared}
    {next : Pc} (hcode : instr p = .act f) (hact : f e x = some (x', next)) :
    Acted p next x x' := by
  cases p <;> cases hcode
  case loop | running | notRunning =>
    cases hact
    dsimp only
    split <;> exact .id rfl rfl trivial rfl
  case check =>
    cases hact
    dsimp only
    split
    · next hidle => exact .id rfl rfl ⟨hidle.1, hidle.2.1⟩ rfl
    · exact .id rfl rfl trivial rfl
  case checkStateFences reports ret => exact acted_checkStateFence hact
  case freeBuffers => exact acted_freeBuffer (Option.some.inj hact)
  case setIdle | leave | idle =>
    cases hact
    exact .same rfl rfl trivial rfl rfl rfl fun h => ⟨h.buffers, h.fences, h.frees, h.waits, h.closes⟩
  case ended | joined => cases hact
  case join =>
    dsimp only at hact
    split at hact <;> cases hact
    exact .id rfl rfl trivial rfl
  case out =>
    cases e <;> cases hact
    · exact .id rfl rfl trivial rfl
    · exact .id rfl rfl trivial rfl
    · exact .same rfl rfl trivial rfl rfl rfl fun h => ⟨h.buffers, h.fences, h.frees, h.waits, h.closes⟩
  case bufferPush b =>
    cases hact
    refine ⟨rfl, rfl, trivial, fun h => ⟨?_, h.fences, h.frees, h.waits, h.closes⟩, .inl rfl, rfl,
      nofun⟩
    rw [← h.buffers, List.append_assoc]
  case fencePush fence =>
    cases hact
    refine ⟨rfl, rfl, trivial, fun h => ⟨h.buffers, ?_, h.frees, h.waits, h.closes⟩, .inl rfl, rfl,
      nofun⟩
    rw [← h.fences, List.append_assoc]

theorem respects (t : Thread) (p : Pc) : (code t p).Respects (holds t) p := by
  cases hinstr : code t p with
  | act f => exact fun e x x' next hact => (acted hinstr hact).holds
  | lock next | unlock next | wait next | notify next =>
      cases p <;> cases hinstr <;> first | exact rfl | exact ⟨rfl, rfl⟩

/-- A step inside keeps what the others rely on: they are not inside. -/
theorem relies_keep {p q next : Pc} {x x' : Shared} (h : Acted p next x x')
    (hboth : ¬(p.holds = true ∧ q.holds = true)) (hq : q.relies x) : q.relies x' := by
  have hsame : q.holds = true → x'.mFreedBuffers = x.mFreedBuffers ∧ x'.mStateFences = x.mStateFences :=
    fun hq => h.outside (Bool.eq_false_iff.mpr fun hp => hboth ⟨hp, hq⟩)
  cases q with
  | wait =>
      obtain ⟨hbuffers, hfences⟩ := hsame rfl
      exact ⟨hbuffers.trans hq.1, hfences.trans hq.2⟩
  | setIdle => exact (hsame rfl).2.trans hq
  | _ => exact trivial

/-- The thread goes on to another of its places. -/
theorem place_next {t : Thread} {p next : Pc} {x x' : Shared} (h : assertions.place t p x)
    (hthread : next.thread = p.thread) (hrelies : next.relies x') :
    assertions.place t next x' := by
  cases t with
  | worker => exact ⟨hthread.trans h.1, hrelies⟩
  | owner => exact hthread.trans h
  | caller i => exact hthread.trans h

theorem sequential (t : Thread) (p : Pc) : (code t p).Annotated assertions t p := by
  cases hinstr : code t p with
  | act f =>
      intro e x x' next hact hinOrder hplace
      have h := acted hinstr hact
      exact ⟨h.inOrder hinOrder, place_next hplace h.thread h.relies⟩
  | wait next =>
      cases p <;> cases hinstr
      cases t with
      | worker => exact fun x _ => ⟨fun _ => trivial, fun _ => ⟨rfl, trivial⟩⟩
      | owner => exact fun x _ => ⟨fun h => (by cases h), False.elim⟩
      | caller i => exact fun x _ => ⟨fun h => (by cases h), False.elim⟩
  | lock next | unlock next | notify next =>
      cases p <;> cases hinstr <;> exact fun x _ hplace => place_next hplace rfl trivial

theorem outline : Outline code holds assertions where
  respects := respects
  sequential := sequential
  stable t p f e x x' next hcode hact _ _ u _ := by
    have h := acted hcode hact
    cases u with
    | worker => exact ⟨fun q hboth hplace => ⟨hplace.1, relies_keep h hboth hplace.2⟩, fun hw => hw⟩
    | owner => exact ⟨fun _ _ hplace => hplace, fun hw => hw⟩
    | caller i => exact ⟨fun _ _ hplace => hplace, fun hw => hw⟩

theorem Started.annotates {s : System} (h : Started s) :
    Start holds s ∧ Annotates assertions s := by
  obtain ⟨hwaiting, hfreed, hadded⟩ := h.buffers
  obtain ⟨hfences, hwaited, hgiven⟩ := h.fences
  have hplace : ∀ t, (s.pc t).holds = false ∧ assertions.place t (s.pc t) s.shared := by
    intro t
    cases t with
    | worker =>
        rw [h.worker]
        exact ⟨rfl, rfl, trivial⟩
    | owner =>
        rw [h.owner]
        exact ⟨rfl, rfl⟩
    | caller i =>
        rw [h.caller i]
        exact ⟨rfl, rfl⟩
  refine ⟨⟨h.free, h.phase, fun t => (hplace t).1⟩, ⟨?_, ?_, ?_, ?_, ?_⟩, fun t _ => (hplace t).2,
    fun t ht => absurd (h.phase t) ht⟩
  · rw [hwaiting, hfreed, hadded, List.append_nil]
  · rw [hfences, hwaited, hgiven, List.append_nil]
  · rw [h.actions, hfreed]
    rfl
  · rw [h.actions, hwaited]
    rfl
  · rw [h.actions, hfreed, hwaited]
    exact .refl _

/-- The thread sleeps only over empty lists. -/
theorem draining : NoLostWakeup code assertions .worker Drained fun _ p => p.signals where
  wait p next x hcode h := by
    cases p <;> cases hcode
    exact h.2
  debt t p := by
    cases p <;> simp [code, instr, branch, always, Instr.KeepsDebt, Pc.signals]
  act t p f e x x' next _ hcode hact _ _ hbefore := by
    have h := acted hcode hact
    refine h.drained.symm.imp (fun hkeeps => hkeeps.1 (hbefore.resolve_right fun howes => ?_)) id
    exact absurd (h.signals.symm.trans howes) nofun

/-! ### The thread -/

structure Sound (s : System) : Prop where
  /-- Two threads are never inside at once. -/
  exclusion : ∀ t u, Inside holds s t → Inside holds s u → t = u
  /-- With the mutex free, the thread does not sleep over work. -/
  drained : s.phase .worker = .asleep → s.owner = none → Drained s.shared
  /-- Otherwise the one who has the mutex is about to wake it. -/
  waking : s.phase .worker = .asleep → ¬Drained s.shared →
    ∃ i, s.owner = some (.caller i) ∧ s.pc (.caller i) = .signal
  /-- What was handed over is done or waits, in order; a buffer is freed once, a fence is
      waited for once, and each descriptor is closed once. -/
  inOrder : InOrder s.shared
  /-- The thread reports an idle MPP when it has waited for all the fences. -/
  idle : s.pc .worker = .setIdle → s.shared.waited = s.shared.addedFences

/-- **The thread at any time.**  However its steps interleave with those of any number of
    callers and of the destructor. -/
theorem thread_sound {s : System} (h : Reachable Started (Step code) s) : Sound s := by
  obtain ⟨howned, ha⟩ := outline.sound (fun _ => Started.annotates) h
  have hattended := draining.attended outline (fun _ => Started.annotates) h
  have hglobal : InOrder s.shared := ha.global
  have hwaking : s.phase .worker = .asleep → ¬Drained s.shared →
      ∃ i, s.owner = some (.caller i) ∧ s.pc (.caller i) = .signal := by
    intro hasleep hwork
    obtain ⟨t, hrun, hsignals⟩ := (hattended hasleep).resolve_left hwork
    have hplace := ha.running t hrun
    have hpc : s.pc t = .signal := by
      cases hpc : s.pc t <;> rw [hpc] at hsignals <;> first | rfl | cases hsignals
    rw [hpc] at hplace
    have howner := (howned.inside t).mp ⟨hrun, by rw [hpc]; rfl⟩
    cases t with
    | worker => cases hplace.1
    | owner => cases hplace
    | caller i => exact ⟨i, howner, hpc⟩
  refine ⟨fun t u ht hu => ?_, fun hasleep hfree => ?_, hwaking, hglobal,
    fun hidle => ?_⟩
  · have ht := (howned.inside t).mp ht
    have hu := (howned.inside u).mp hu
    exact Option.some.inj (ht.symm.trans hu)
  · by_contra hwork
    obtain ⟨i, howner, -⟩ := hwaking hasleep hwork
    rw [hfree] at howner
    cases howner
  · have hrun : s.phase .worker = .running := by
      by_contra hno
      obtain ⟨next, hwait⟩ := howned.waits .worker hno
      rw [hidle] at hwait
      cases hwait
    have hplace := ha.running .worker hrun
    rw [hidle] at hplace
    have hempty : s.shared.mStateFences = [] := hplace.2
    have hall := hglobal.fences
    rwa [hempty, List.append_nil] at hall

/-- The thread of an MPP whose hardware runs. -/
def fresh : System where
  owner := none
  shared := ⟨[], [], true, true, false, [], [], [], [], []⟩
  pc
    | .worker => .loop
    | .owner => .idle
    | .caller _ => .out
  phase _ := .running

/-- The thread goes to sleep; a buffer and a state fence are handed over. -/
def oneJob : List (Event Thread Input) :=
  steps .worker (.waited true) 4 ++ steps (.caller 0) (.addFreedBuffer ⟨7, 10, -1⟩) 5 ++
    steps (.caller 1) (.addStateFence 12) 5 ++ steps .worker (.waited true) 9

theorem oneJob_sound :
    ∃ s, execAll code fresh oneJob = some s ∧ s.pc .worker = .loop ∧ s.shared.hwRunning = false ∧
      s.shared.actions = [.wait 12, .close 12, .close 10, .free 7] ∧ Sound s := by
  have hfresh : Started fresh :=
    ⟨rfl, fun _ => rfl, rfl, rfl, fun _ => rfl, ⟨rfl, rfl, rfl⟩, ⟨rfl, rfl, rfl⟩, rfl⟩
  obtain ⟨s, hrun, hworker, hidle, hactions⟩ : ∃ s, execAll code fresh oneJob = some s ∧
      s.pc .worker = .loop ∧ s.shared.hwRunning = false ∧
      s.shared.actions = [.wait 12, .close 12, .close 10, .free 7] := ⟨_, rfl, rfl, rfl, rfl⟩
  exact ⟨s, hrun, hworker, hidle, hactions,
    thread_sound (execAll_reachable (.start hfresh) hrun)⟩

end ExynosHal.ResourceManageThread
