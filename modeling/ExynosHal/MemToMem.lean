/-
  ExynosHal/MemToMem.lean
  =======================
  **The protocol of a memory-to-memory device.**

  A device has a queue for each of two sides.  A client sets the formats, requests
  buffers, starts the streams, queues a buffer on each side and takes them back
  when the device has worked on them.  The device does its work at a time of its
  own; it needs a buffer on both sides and both streams.  An `ioctl` may be refused
  for a reason of the device's own (`Answers`); otherwise it is refused if the
  protocol does not allow it.  A queue holds one buffer.

  Only turning off a stream is never refused.  It gives the buffer of the queue
  back to the client.
-/
import ExynosHal.Fallible
import Mathlib.Logic.Function.Basic

namespace ExynosHal.MemToMem

open Function (update)
open ExynosHal.Fallible

universe u

inductive Side where
  | source | target
deriving DecidableEq, Repr

/-- The buffer of a queue. -/
inductive Slot (β : Type u) where
  | idle
  | queued (b : β)
  | done (b : β) (good : Bool)

structure Queue (φ μ β : Type u) where
  format : Option φ
  /-- of the buffers that were requested -/
  memory : Option μ
  streaming : Bool
  slot : Slot β

/-- What the device has worked on. -/
structure Job (φ β κ : Type u) where
  controls : κ
  format : Side → Option φ
  buffer : Side → β
  good : Bool

structure Device (φ μ β κ : Type u) where
  queue : Side → Queue φ μ β
  controls : κ
  jobs : List (Job φ β κ)
  /-- the client waits for a buffer that never comes -/
  stuck : Bool
  /-- how many requests there were -/
  time : Nat

/-- The kinds of requests. -/
inductive Request where
  | setControl | setFormat | setCrop | free | allocate | streamOn | enqueue | dequeue
deriving DecidableEq, Repr

/-- What the device does at each time. -/
structure Answers where
  accepts : Request → Nat → Bool
  works : Nat → Bool
  succeeds : Nat → Bool

variable {φ μ β κ : Type u}

namespace Device

def change (x : Side) (g : Queue φ μ β → Queue φ μ β) (d : Device φ μ β κ) : Device φ μ β κ :=
  { d with queue := update d.queue x (g (d.queue x)) }

/-- Works on the two buffers, if it can. -/
def work (a : Answers) (d : Device φ μ β κ) : Device φ μ β κ :=
  match (d.queue .source).slot, (d.queue .target).slot with
  | .queued b, .queued c =>
      if (d.queue .source).streaming && (d.queue .target).streaming then
        { d with
          queue := fun
            | .source => { d.queue .source with slot := .done b (a.succeeds d.time) }
            | .target => { d.queue .target with slot := .done c (a.succeeds d.time) }
          jobs := ⟨d.controls, fun x => (d.queue x).format,
            fun | .source => b | .target => c, a.succeeds d.time⟩ :: d.jobs }
      else d
  | _, _ => d

/-- The device as a request finds it. -/
def meet (a : Answers) (d : Device φ μ β κ) : Device φ μ β κ :=
  { (if a.works d.time then d.work a else d) with time := d.time + 1 }

/-- A request that `f` carries out if the protocol allows it. -/
def ioctl (a : Answers) (r : Request) (f : Device φ μ β κ → Option (Device φ μ β κ))
    (d : Device φ μ β κ) : Device φ μ β κ × Bool :=
  if a.accepts r d.time then
    match f (d.meet a) with
    | some d' => (d', true)
    | none => (d.meet a, false)
  else (d.meet a, false)

def setControls (a : Answers) (g : κ → κ) : Device φ μ β κ → Device φ μ β κ × Bool :=
  ioctl a .setControl fun d => some { d with controls := g d.controls }

/-- Not while there are buffers. -/
def setFormat (a : Answers) (x : Side) (f : φ) : Device φ μ β κ → Device φ μ β κ × Bool :=
  ioctl a .setFormat fun d =>
    if (d.queue x).memory.isSome then none
    else some (d.change x fun q => { q with format := some f })

def setCrop (a : Answers) (x : Side) (g : φ → φ) : Device φ μ β κ → Device φ μ β κ × Bool :=
  ioctl a .setCrop fun d =>
    some (d.change x fun q => { q with format := q.format.map g })

/-- Request no buffers.  Not while the stream is on. -/
def free (a : Answers) (x : Side) : Device φ μ β κ → Device φ μ β κ × Bool :=
  ioctl a .free fun d =>
    if (d.queue x).streaming then none
    else some (d.change x fun q => { q with memory := none, slot := .idle })

/-- Request buffers, in the place of those there are. -/
def allocate (a : Answers) (x : Side) (m : μ) : Device φ μ β κ → Device φ μ β κ × Bool :=
  ioctl a .allocate fun d =>
    if (d.queue x).streaming then none
    else some (d.change x fun q => { q with memory := some m, slot := .idle })

/-- Not without buffers. -/
def streamOn (a : Answers) (x : Side) : Device φ μ β κ → Device φ μ β κ × Bool :=
  ioctl a .streamOn fun d =>
    if (d.queue x).memory.isSome then some (d.change x fun q => { q with streaming := true }) else none

def streamOff (a : Answers) (x : Side) (d : Device φ μ β κ) : Device φ μ β κ :=
  (d.meet a).change x fun q => { q with streaming := false, slot := .idle }

section

variable [DecidableEq μ]

/-- Only a buffer of the memory that was requested, and only if the queue does not hold one. -/
def enqueue (a : Answers) (x : Side) (m : μ) (b : β) : Device φ μ β κ → Device φ μ β κ × Bool :=
  ioctl a .enqueue fun d =>
    match (d.queue x).slot with
    | .idle =>
        if (d.queue x).memory = some m then some (d.change x fun q => { q with slot := .queued b })
        else none
    | _ => none

/-- Waits for the buffer.  `check` says whether the client takes it for a success. -/
def dequeue (a : Answers) (check : Bool → Bool) (x : Side) (m : μ) (d : Device φ μ β κ) :
    Device φ μ β κ × Bool :=
  let d' := d.meet a
  if a.accepts .dequeue d.time && (d'.queue x).streaming && (d'.queue x).memory = some m then
    let d' := d'.work a
    match (d'.queue x).slot with
    | .done _ good => (d'.change x fun q => { q with slot := .idle }, check good)
    | _ => ({ d' with stuck := true }, false)
  else (d', false)

end

/-! ### One request -/

variable {a : Answers} {d d' : Device φ μ β κ} {x y : Side} {m : μ}

/-- Time passes. -/
def tick (d : Device φ μ β κ) : Device φ μ β κ := { d with time := d.time + 1 }

@[simp] theorem tick_queue : d.tick.queue = d.queue := rfl

@[simp] theorem change_queue_self {g : Queue φ μ β → Queue φ μ β} :
    (d.change x g).queue x = g (d.queue x) := Function.update_self ..

theorem change_queue_other {g : Queue φ μ β → Queue φ μ β} (h : y ≠ x) :
    (d.change x g).queue y = d.queue y := Function.update_of_ne h ..

/-- There is nothing to work on. -/
def Quiet (d : Device φ μ β κ) : Prop := ∃ x, ∀ b, (d.queue x).slot ≠ .queued b

theorem Quiet.work (h : d.Quiet) : d.work a = d := by
  obtain ⟨x, hx⟩ := h
  unfold Device.work
  split
  · next b c hb hc =>
    cases x with
    | source => exact absurd hb (hx b)
    | target => exact absurd hc (hx c)
  · rfl

theorem Quiet.meet (h : d.Quiet) : d.meet a = d.tick := by
  unfold Device.meet
  rw [h.work, ite_self]
  rfl

theorem quiet_of_idle (h : (d.queue x).slot = .idle) : d.Quiet := ⟨x, fun b hb => by simp [h] at hb⟩

/-- A request fails only if the device refuses it or the protocol does. -/
theorem ioctl_ends {r : Request} {f : Device φ μ β κ → Option (Device φ μ β κ)} (hd : d.Quiet)
    {F P : Device φ μ β κ → Prop} (hfail : (a.accepts r d.time = true → f d.tick = none) → F d.tick)
    (hok : ∀ d', f d.tick = some d' → P d') : Ends (ioctl a r f d) F P := by
  unfold ioctl
  rw [hd.meet]
  split
  · split
    · next d' hf => exact ends_success (hok d' hf)
    · next hf => exact ends_failure (hfail fun _ => hf)
  · next hr => exact ends_failure (hfail fun h => absurd h hr)

theorem setFormat_ends {f : φ} (hd : d.Quiet) :
    Ends (setFormat a x f d) (· = d.tick) fun d' =>
      (d.queue x).memory = none ∧ d' = d.tick.change x fun q => { q with format := some f } := by
  refine ioctl_ends hd (fun _ => rfl) fun d' h => ?_
  split at h
  · cases h
  · next hm =>
    obtain rfl := Option.some.inj h
    exact ⟨by simpa using hm, rfl⟩

theorem setCrop_ends {g : φ → φ} (hd : d.Quiet) :
    Ends (setCrop a x g d) (· = d.tick) fun d' =>
      d' = d.tick.change x fun q => { q with format := q.format.map g } :=
  ioctl_ends hd (fun _ => rfl) fun _ h => (Option.some.inj h).symm

theorem setControls_ends {g : κ → κ} (hd : d.Quiet) :
    Ends (setControls a g d) (· = d.tick) fun d' => d' = { d.tick with controls := g d.controls } :=
  ioctl_ends hd (fun _ => rfl) fun _ h => (Option.some.inj h).symm

theorem free_ends (hd : d.Quiet) :
    Ends (free a x d)
      (fun d' => (a.accepts .free d.time = true → (d.queue x).streaming = true) ∧ d' = d.tick)
      fun d' => (d.queue x).streaming = false
        ∧ d' = d.tick.change x fun q => { q with memory := none, slot := .idle } := by
  apply ioctl_ends hd
  · intro h
    refine ⟨fun hr => ?_, rfl⟩
    have hnone := h hr
    split at hnone
    · next hs => exact hs
    · cases hnone
  · intro d' h
    split at h
    · cases h
    · next hs =>
      obtain rfl := Option.some.inj h
      exact ⟨by simpa using hs, rfl⟩

theorem allocate_ends (hd : d.Quiet) :
    Ends (allocate a x m d) (· = d.tick) fun d' => (d.queue x).streaming = false
      ∧ d' = d.tick.change x fun q => { q with memory := some m, slot := .idle } := by
  refine ioctl_ends hd (fun _ => rfl) fun d' h => ?_
  split at h
  · cases h
  · next hs =>
    obtain rfl := Option.some.inj h
    exact ⟨by simpa using hs, rfl⟩

theorem streamOn_ends (hd : d.Quiet) :
    Ends (streamOn a x d)
      (fun d' => (a.accepts .streamOn d.time = true → (d.queue x).memory = none) ∧ d' = d.tick)
      fun d' => (d.queue x).memory.isSome
        ∧ d' = d.tick.change x fun q => { q with streaming := true } := by
  apply ioctl_ends hd
  · intro h
    refine ⟨fun hr => ?_, rfl⟩
    have hnone := h hr
    split at hnone
    · cases hnone
    · next hm => simpa using hm
  · intro d' h
    split at h
    · next hm =>
      obtain rfl := Option.some.inj h
      exact ⟨hm, rfl⟩
    · cases h

theorem enqueue_ends [DecidableEq μ] {b : β} (hd : d.Quiet) :
    Ends (enqueue a x m b d) (· = d.tick) fun d' => (d.queue x).slot = .idle
      ∧ (d.queue x).memory = some m ∧ d' = d.tick.change x fun q => { q with slot := .queued b } := by
  refine ioctl_ends hd (fun _ => rfl) fun d' h => ?_
  split at h
  · next hs =>
    split at h
    · next hm =>
      obtain rfl := Option.some.inj h
      exact ⟨hs, hm, rfl⟩
    · cases h
  · cases h

/-! ### What the device's own work leaves alone -/

/-- All but the buffers of the queues and the finished work. -/
structure Alike (d d' : Device φ μ β κ) : Prop where
  format : ∀ x, (d'.queue x).format = (d.queue x).format
  memory : ∀ x, (d'.queue x).memory = (d.queue x).memory
  streaming : ∀ x, (d'.queue x).streaming = (d.queue x).streaming
  controls : d'.controls = d.controls

theorem Alike.refl (d : Device φ μ β κ) : Alike d d := ⟨fun _ => rfl, fun _ => rfl, fun _ => rfl, rfl⟩

theorem Alike.trans {d'' : Device φ μ β κ} (h : Alike d d') (h' : Alike d' d'') : Alike d d'' where
  format x := (h'.format x).trans (h.format x)
  memory x := (h'.memory x).trans (h.memory x)
  streaming x := (h'.streaming x).trans (h.streaming x)
  controls := h'.controls.trans h.controls

theorem alike_slot {t : Slot β} (d : Device φ μ β κ) (x : Side) :
    Alike d (d.change x fun q => { q with slot := t }) where
  format y := by by_cases h : y = x <;> simp [h, change_queue_other]
  memory y := by by_cases h : y = x <;> simp [h, change_queue_other]
  streaming y := by by_cases h : y = x <;> simp [h, change_queue_other]
  controls := rfl

theorem work_alike (d : Device φ μ β κ) : Alike d (d.work a) := by
  unfold work
  split
  · split
    · refine ⟨fun x => ?_, fun x => ?_, fun x => ?_, rfl⟩ <;> cases x <;> rfl
    · exact .refl d
  · exact .refl d

theorem meet_alike (d : Device φ μ β κ) : Alike d (d.meet a) := by
  have hwork := work_alike (a := a) d
  unfold meet
  split
  · exact ⟨hwork.format, hwork.memory, hwork.streaming, hwork.controls⟩
  · exact ⟨fun _ => rfl, fun _ => rfl, fun _ => rfl, rfl⟩

@[simp] theorem work_stuck : (d.work a).stuck = d.stuck := by
  unfold work
  split
  · split <;> rfl
  · rfl

@[simp] theorem meet_stuck : (d.meet a).stuck = d.stuck := by
  unfold meet
  split <;> simp

/-- Whatever was in the queue. -/
theorem streamOff_slot : ((d.streamOff a x).queue x).slot = .idle := by simp [streamOff]

theorem streamOff_streaming : ((d.streamOff a x).queue x).streaming = false := by simp [streamOff]

/-! ### Taking both buffers back -/

/-- Both sides hold a buffer that was queued. -/
def Loaded (b : Side → β) (d : Device φ μ β κ) : Prop := ∀ x, (d.queue x).slot = .queued (b x)

/-- Both buffers were worked on. -/
structure Worked (b : Side → β) (good : Bool) (d d' : Device φ μ β κ) : Prop where
  alike : Alike d d'
  streams : ∀ x, (d.queue x).streaming = true
  slot : ∀ x, (d'.queue x).slot = .done (b x) good
  jobs : d'.jobs = ⟨d.controls, fun x => (d.queue x).format, b, good⟩ :: d.jobs

theorem Loaded.work {b : Side → β} (h : d.Loaded b) :
    (∃ good, Worked b good d (d.work a))
      ∨ (∃ x, (d.queue x).streaming = false) ∧ d.work a = d := by
  unfold Device.work
  rw [h .source, h .target]
  by_cases hs : ((d.queue .source).streaming && (d.queue .target).streaming) = true
  · refine .inl ⟨a.succeeds d.time, ?_⟩
    simp only [hs, if_true]
    rw [Bool.and_eq_true] at hs
    refine ⟨⟨fun x => ?_, fun x => ?_, fun x => ?_, rfl⟩, fun x => ?_, fun x => ?_, ?_⟩
    · cases x <;> rfl
    · cases x <;> rfl
    · cases x <;> rfl
    · cases x
      · exact hs.1
      · exact hs.2
    · cases x <;> rfl
    · have hb : (fun | Side.source => b .source | Side.target => b .target : Side → β) = b := by
        funext x
        cases x <;> rfl
      rw [hb]
  · refine .inr ⟨?_, by simp only [hs]; rfl⟩
    rcases Bool.eq_false_or_eq_true (d.queue .source).streaming with hsource | hsource
    · refine ⟨.target, ?_⟩
      simpa [hsource] using hs
    · exact ⟨.source, hsource⟩

end Device

end ExynosHal.MemToMem
