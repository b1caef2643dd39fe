/-
  ExynosHal/ScalerQueue.lean
  ==========================
  **One queue of a memory-to-memory scaler and what the compositor keeps about it.**

  The compositors `AcrylicCompositorMSCL9810` and `AcrylicCompositorMSCL3830` of
  `libacryl` drive the two queues of the scaler in the same way: what they do for
  one direction is a function on a `Side`, which holds their own record of the
  queue beside the queue as the driver has it.  A failed `ioctl` leaves the driver
  as it was.  The specifications follow the phases of an execute: a queue is
  `Kept` or freed, `Configured`, `Prepared` and `Queued`.
-/
import ExynosHal.AcrylSettings
import ExynosHal.Fallible

namespace ExynosHal.ScalerQueue

open ExynosHal ExynosHal.AcrylSettings ExynosHal.Fallible

/-! ### The driver -/

/-- `V4L2_MEMORY_`. -/
inductive Memory where
  | DMABUF | USERPTR
deriving DecidableEq, Repr

def memoryOf (type : Option MemoryType) : Memory := if type = some .MT_DMABUF then .DMABUF else .USERPTR

/-- A call of `VIDIOC_QBUF`: the memory type it names, that of the last successful
    `VIDIOC_REQBUFS`, and whether the queue holds a buffer already. -/
structure Qbuf where
  memory : Memory
  requested : Option Memory
  held : Bool
deriving DecidableEq, Repr

/-- A queue of the driver, with the calls of `VIDIOC_QBUF` that were made. -/
structure Queue (F : Type) where
  format : Option F := none
  crop : Option Hw2dRect := none
  requested : Option Memory := none
  streaming : Bool := false
  queued : Nat := 0
  calls : List Qbuf := []
deriving DecidableEq, Repr

variable {F : Type}

namespace Queue

/-- `VIDIOC_STREAMOFF` gives back what is queued. -/
def streamOff (q : Queue F) : Queue F := { q with streaming := false, queued := 0 }

/-- `VIDIOC_REQBUFS`, with a count of 0 for `none`. -/
def request (q : Queue F) (memory : Option Memory) : Queue F := { q with requested := memory, queued := 0 }

/-- `VIDIOC_S_FMT` sets the crop to the whole image. -/
def setFormat (q : Queue F) (format : F) (size : Hw2dCoord) : Queue F :=
  { q with format := some format, crop := some ⟨⟨0, 0⟩, size⟩ }

def setCrop (q : Queue F) (rect : Hw2dRect) : Queue F := { q with crop := some rect }

end Queue

/-! ### One direction -/

/-- What is kept for a direction; the two flags are the bits of `mDeviceState`. -/
structure Side (F : Type) where
  mCurrentCrop : Hw2dRect
  mCurrentTypeMem : Option MemoryType
  /-- `STATE_REQBUFS`. -/
  reqbufs : Bool
  /-- `STATE_QBUF`. -/
  qbuf : Bool
  queue : Queue F
deriving DecidableEq, Repr

def Side.created : Side F := ⟨⟨⟨0, 0⟩, ⟨0, 0⟩⟩, none, false, false, {}⟩

/-- The settings of the image of a direction. -/
structure Want (F : Type) where
  format : F
  size : Hw2dCoord
  rect : Hw2dRect
  memory : MemoryType

namespace Side

def resetMode (streamoff reqbufs : Bool) (s : Side F) : Side F × Bool :=
  if s.reqbufs then
    let queue := if streamoff then s.queue.streamOff else s.queue
    if reqbufs then ({ s with queue := queue.request none, reqbufs := false }, true)
    else ({ s with queue }, false)
  else (s, true)

def changeMode (w : Want F) (sFmt sCrop : Bool) (s : Side F) : Side F × Bool :=
  if s.reqbufs then (s, true)
  else if !sFmt then (s, false)
  else
    let queue := s.queue.setFormat w.format w.size
    if sCrop then ({ s with mCurrentCrop := w.rect, queue := queue.setCrop w.rect }, true)
    else ({ s with mCurrentCrop := ⟨⟨0, 0⟩, w.size⟩, queue }, false)

/-- `cancel` is what comes of the second `VIDIOC_REQBUFS`, which is made when the stream does not
    start. -/
def prepareExecute (w : Want F) (reqbufs streamon cancel : Bool) (s : Side F) : Side F × Bool :=
  if s.reqbufs then (s, true)
  else if !reqbufs then (s, false)
  else
    let queue := s.queue.request (some (memoryOf (some w.memory)))
    if streamon then
      ({ s with
          mCurrentTypeMem := some w.memory, reqbufs := true
          queue := { queue with streaming := true } }, true)
    else ({ s with queue := if cancel then queue.request none else queue }, false)

def queueBuffer (w : Want F) (ok : Bool) (s : Side F) : Side F × Bool :=
  let call := ⟨memoryOf (some w.memory), s.queue.requested, 0 < s.queue.queued⟩
  let queue := { s.queue with calls := s.queue.calls ++ [call] }
  if ok then ({ s with queue := { queue with queued := queue.queued + 1 } }, true)
  else ({ s with queue }, false)

def setQbuf (s : Side F) : Side F := { s with qbuf := true }

def dequeueBuffer (ok : Bool) (s : Side F) : Side F × Bool :=
  if s.qbuf then
    if ok then ({ s with qbuf := false, queue := { s.queue with queued := s.queue.queued - 1 } }, true)
    else (s, false)
  else (s, true)

/-! ### What holds of a direction -/

/-- **The record agrees with the driver**, and every call of `VIDIOC_QBUF` was in order. -/
structure Agrees (s : Side F) : Prop where
  requested : s.queue.requested = if s.reqbufs then some (memoryOf s.mCurrentTypeMem) else none
  queued : s.queue.queued = if s.qbuf then 1 else 0
  idle : s.reqbufs = false → s.qbuf = false
  crop : s.reqbufs = true → s.queue.crop = some s.mCurrentCrop
  calls : ∀ c ∈ s.queue.calls, c.held = false ∧ c.requested = some c.memory

/-- What is known of the format of a queue that keeps its buffers. -/
def Tracks (P : F → Prop) (s : Side F) : Prop :=
  s.reqbufs = true → ∃ format, s.queue.format = some format ∧ P format

/-- Between two executes. -/
structure Sound (P : F → Prop) (s : Side F) : Prop where
  agrees : s.Agrees
  tracks : s.Tracks P

/-- The queue is set up as it is wanted. -/
structure Fits (w : Want F) (s : Side F) : Prop where
  format : s.queue.format = some w.format
  rect : s.mCurrentCrop = w.rect
  memory : memoryOf s.mCurrentTypeMem = memoryOf (some w.memory)

/-- What `Fits` looks at. -/
def setup (s : Side F) : Bool × Option F × Hw2dRect × Option MemoryType :=
  (s.reqbufs, s.queue.format, s.mCurrentCrop, s.mCurrentTypeMem)

/-- Nothing is queued, and a queue that keeps its buffers is as it is wanted. -/
structure Kept (w : Want F) (s : Side F) : Prop where
  agrees : s.Agrees
  free : s.qbuf = false
  fits : s.reqbufs = true → s.Fits w

structure Configured (w : Want F) (s : Side F) : Prop where
  kept : s.Kept w
  format : s.queue.format = some w.format
  crop : s.queue.crop = some w.rect
  rect : s.mCurrentCrop = w.rect

structure Prepared (w : Want F) (s : Side F) : Prop where
  configured : s.Configured w
  reqbufs : s.reqbufs = true

/-- The driver has what is wanted, and the next buffer. -/
structure Queued (w : Want F) (s : Side F) : Prop where
  agrees : s.setQbuf.Agrees
  free : s.qbuf = false
  reqbufs : s.reqbufs = true
  fits : s.Fits w

variable {s t : Side F} {w : Want F} {P : F → Prop}

theorem created_sound : (created : Side F).Sound P where
  agrees := ⟨rfl, rfl, fun _ => rfl, (fun h => nomatch h), fun _ hc => nomatch hc⟩
  tracks h := nomatch h

theorem Sound.mono {Q : F → Prop} (h : s.Sound P) (hPQ : ∀ f, P f → Q f) : s.Sound Q where
  agrees := h.agrees
  tracks hreq := (h.tracks hreq).imp fun f hf => ⟨hf.1, hPQ f hf.2⟩

theorem Fits.of_setup (h : s.Fits w) (hsetup : t.setup = s.setup) : t.Fits w := by
  simp only [setup, Prod.mk.injEq] at hsetup
  obtain ⟨-, hformat, hcrop, hmem⟩ := hsetup
  exact ⟨hformat.trans h.format, hcrop.trans h.rect, hmem ▸ h.memory⟩

theorem Kept.sound (h : s.Kept w) (hP : P w.format) : s.Sound P :=
  ⟨h.agrees, fun hreq => ⟨w.format, (h.fits hreq).format, hP⟩⟩

/-! ### The phases -/

theorem dequeueBuffer_ends (ok : Bool) (h : s.Sound P) :
    Ends (s.dequeueBuffer ok) (fun t => t.Sound P ∧ t.setup = s.setup)
      (fun t => (t.Sound P ∧ t.qbuf = false ∧ t.setup = s.setup) ∧ (s.qbuf = true → ok = true)) := by
  unfold dequeueBuffer
  cases hq : s.qbuf with
  | false => exact ends_success ⟨⟨h, hq, rfl⟩, fun h => nomatch h⟩
  | true =>
    cases ok with
    | false => exact ends_failure ⟨h, rfl⟩
    | true =>
      obtain ⟨hrequested, hqueued, hidle, hcrop, hcalls⟩ := h.agrees
      rw [hq] at hqueued
      refine ends_success ⟨⟨⟨⟨hrequested, ?_, fun _ => rfl, hcrop, hcalls⟩, h.tracks⟩, rfl, rfl⟩, fun _ => rfl⟩
      dsimp only
      rw [hqueued]
      rfl

/-- The buffers are freed, or their queue is as it is wanted. -/
theorem resetMode_kept (streamoff reqbufs : Bool) (h : s.Agrees) (hfree : s.qbuf = false)
    (hfits : s.reqbufs = true → reqbufs = true ∨ s.Fits w) : (s.resetMode streamoff reqbufs).1.Kept w := by
  unfold resetMode
  by_cases hreq : s.reqbufs = true
  · rw [if_pos hreq]
    obtain ⟨hrequested, hqueued, hidle, hcrop, hcalls⟩ := h
    have hempty : 0 = if s.qbuf = true then 1 else 0 := by
      rw [hfree]
      rfl
    cases reqbufs with
    | true =>
      refine ⟨⟨rfl, hempty, fun _ => hfree, (fun h' => nomatch h'), ?_⟩, hfree, (fun h' => nomatch h')⟩
      cases streamoff <;> exact hcalls
    | false =>
      have hw : s.Fits w := (hfits hreq).resolve_left Bool.false_ne_true
      cases streamoff with
      | false => exact ⟨⟨hrequested, hqueued, hidle, hcrop, hcalls⟩, hfree, fun _ => hw⟩
      | true => exact ⟨⟨hrequested, hempty, hidle, hcrop, hcalls⟩, hfree,
          fun _ => ⟨hw.format, hw.rect, hw.memory⟩⟩
  · rw [if_neg hreq]
    exact ⟨h, hfree, fun h' => absurd h' hreq⟩

theorem Kept.configured (h : s.Kept w) (hreq : s.reqbufs = true) : s.Configured w :=
  ⟨h, (h.fits hreq).format, (h.agrees.crop hreq).trans (congrArg some (h.fits hreq).rect), (h.fits hreq).rect⟩

theorem changeMode_reqbufs (w : Want F) (sFmt sCrop : Bool) (s : Side F) :
    (s.changeMode w sFmt sCrop).1.reqbufs = s.reqbufs := by
  unfold changeMode
  split
  · rfl
  · cases sFmt <;> cases sCrop <;> rfl

theorem changeMode_ends (sFmt sCrop : Bool) (h : s.Kept w) :
    Ends (s.changeMode w sFmt sCrop) (Kept w) (Configured w) := by
  unfold changeMode
  by_cases hreq : s.reqbufs = true
  · rw [if_pos hreq]
    exact ends_success (h.configured hreq)
  · rw [if_neg hreq]
    obtain ⟨⟨hrequested, hqueued, hidle, -, hcalls⟩, hfree, -⟩ := h
    -- Without buffers nothing is said about the crop.
    have hagrees : ∀ (rect : Hw2dRect) (format : Option F) (crop : Option Hw2dRect),
        Kept w { s with mCurrentCrop := rect, queue := { s.queue with format := format, crop := crop } } :=
      fun _ _ _ => ⟨⟨hrequested, hqueued, hidle, fun h' => absurd h' hreq, hcalls⟩, hfree,
        fun h' => absurd h' hreq⟩
    cases sFmt with
    | false => exact ends_failure (hagrees s.mCurrentCrop s.queue.format s.queue.crop)
    | true =>
      cases sCrop with
      | false => exact ends_failure (hagrees _ _ _)
      | true => exact ends_success ⟨hagrees _ _ _, rfl, rfl, rfl⟩

theorem prepareExecute_ends (reqbufs streamon cancel : Bool) (hcancel : streamon = false → cancel = true)
    (h : s.Configured w) :
    Ends (s.prepareExecute w reqbufs streamon cancel) (Configured w) (Prepared w) := by
  unfold prepareExecute
  by_cases hreq : s.reqbufs = true
  · rw [if_pos hreq]
    exact ends_success ⟨h, hreq⟩
  · rw [if_neg hreq]
    cases reqbufs with
    | false => exact ends_failure h
    | true =>
      obtain ⟨⟨⟨hrequested, hqueued, hidle, -, hcalls⟩, hfree, -⟩, hformat, hcrop, hrect⟩ := h
      have hempty : 0 = if s.qbuf = true then 1 else 0 := by
        rw [hfree]
        rfl
      cases streamon with
      | true =>
        refine ends_success ⟨⟨⟨⟨rfl, hempty, (fun h' => nomatch h'), fun _ => ?_, hcalls⟩, hfree,
          fun _ => ⟨hformat, hrect, rfl⟩⟩, hformat, hcrop, hrect⟩, rfl⟩
        exact hcrop.trans (congrArg some hrect.symm)
      | false =>
        rw [hcancel rfl]
        refine ends_failure ⟨⟨⟨?_, hempty, fun _ => hfree, fun h' => absurd h' hreq, hcalls⟩, hfree,
          fun h' => absurd h' hreq⟩, hformat, hcrop, hrect⟩
        rw [if_neg hreq]
        rfl

theorem queueBuffer_ends (ok : Bool) (h : s.Prepared w) :
    Ends (s.queueBuffer w ok) (fun t => t.Prepared w ∧ ok = false) (fun t => t.Queued w ∧ ok = true) := by
  obtain ⟨⟨⟨⟨hrequested, hqueued, hidle, hcrops, hcalls⟩, hfree, hfits⟩, hformat, hcrop, hrect⟩, hreq⟩ := h
  have hmem := (hfits hreq).memory
  have hnone : s.queue.queued = 0 := by
    rw [hqueued, hfree]
    rfl
  have hsame : s.queue.requested = some (memoryOf (some w.memory)) := by
    rw [hrequested, hreq, if_pos rfl, hmem]
  have hcalls' : ∀ c ∈ s.queue.calls ++
      [(⟨memoryOf (some w.memory), s.queue.requested, 0 < s.queue.queued⟩ : Qbuf)],
      c.held = false ∧ c.requested = some c.memory := by
    intro c hc
    rcases List.mem_append.mp hc with hc | hc
    · exact hcalls c hc
    · rw [List.mem_singleton.mp hc, hnone]
      exact ⟨rfl, hsame⟩
  unfold queueBuffer
  cases ok with
  | true =>
    refine ends_success ⟨⟨⟨hrequested, ?_, (fun h' => nomatch hreq.symm.trans h'), hcrops, hcalls'⟩, hfree,
      hreq, ⟨hformat, hrect, hmem⟩⟩, rfl⟩
    dsimp only [setQbuf]
    rw [hnone]
    rfl
  | false =>
    refine ends_failure ⟨⟨⟨⟨⟨hrequested, ?_, hidle, hcrops, hcalls'⟩, hfree,
      fun _ => ⟨hformat, hrect, hmem⟩⟩, hformat, hcrop, hrect⟩, hreq⟩, rfl⟩
    dsimp only
    rw [hfree]
    exact hnone

/-- A buffer that was queued in vain is given back. -/
theorem resetMode_queued (streamoff reqbufs : Bool) (h : s.Queued w)
    (hback : streamoff = true ∨ reqbufs = true) : (s.resetMode streamoff reqbufs).1.Kept w := by
  obtain ⟨⟨hrequested, hqueued, hidle, hcrop, hcalls⟩, hfree, hreq, hfits⟩ := h
  have hempty : 0 = if s.qbuf = true then 1 else 0 := by
    rw [hfree]
    rfl
  unfold resetMode
  rw [if_pos hreq]
  cases reqbufs with
  | true =>
    refine ⟨⟨rfl, hempty, fun _ => hfree, (fun h' => nomatch h'), ?_⟩, hfree, (fun h' => nomatch h')⟩
    cases streamoff <;> exact hcalls
  | false =>
    cases streamoff with
    | true => exact ⟨⟨hrequested, hempty, fun _ => hfree, hcrop, hcalls⟩, hfree,
        fun _ => ⟨hfits.format, hfits.rect, hfits.memory⟩⟩
    | false =>
      rcases hback with h' | h'
      · cases h'
      · cases h'

theorem resetMode_crop (streamoff reqbufs : Bool) (s : Side F) :
    (s.resetMode streamoff reqbufs).1.mCurrentCrop = s.mCurrentCrop := by
  unfold resetMode
  split
  · cases reqbufs <;> rfl
  · rfl

theorem resetMode_freed (streamoff : Bool) {reqbufs : Bool} (h : s.reqbufs = true → reqbufs = true) :
    (s.resetMode streamoff reqbufs).1.reqbufs = false := by
  unfold resetMode
  split
  · rename_i hreq
    rw [h hreq]
    rfl
  · exact Bool.not_eq_true _ ▸ ‹¬s.reqbufs = true›

/-- If the crop is not refused, a failure leaves everything as it was. -/
theorem changeMode_unchanged (sFmt : Bool) (h : (s.changeMode w sFmt true).2 = false) :
    (s.changeMode w sFmt true).1 = s := by
  revert h
  unfold changeMode
  split
  · exact fun h => nomatch h
  · cases sFmt with
    | false => exact fun _ => rfl
    | true => exact fun h => nomatch h

/-- A job was queued with what was wanted. -/
structure Done (w : Want F) (s : Side F) : Prop where
  agrees : s.Agrees
  format : s.queue.format = some w.format
  crop : s.queue.crop = some w.rect
  rect : s.mCurrentCrop = w.rect
  memory : s.queue.requested = some (memoryOf (some w.memory))

theorem Queued.done (h : s.Queued w) : s.setQbuf.Done w where
  agrees := h.agrees
  format := h.fits.format
  crop := (h.agrees.crop h.reqbufs).trans (congrArg some h.fits.rect)
  rect := h.fits.rect
  memory := by
    refine h.agrees.requested.trans ?_
    rw [if_pos (show s.setQbuf.reqbufs = true from h.reqbufs)]
    exact congrArg some h.fits.memory

theorem Done.sound (h : s.Done w) (hP : P w.format) : s.Sound P := ⟨h.agrees, fun _ => ⟨w.format, h.format, hP⟩⟩

theorem Prepared.fits (h : s.Prepared w) : s.Fits w := h.configured.kept.fits h.reqbufs

/-! ### When a queue may keep its buffers -/

/-- **The buffers are taken back** by the reset, if there is one; or they are of the type of memory
    that is wanted, and a reset finds the queue set up as it is wanted. -/
def Spared (w : Want F) (due freed : Bool) (s : Side F) : Prop :=
  s.reqbufs = true → due = true ∧ freed = true ∨
    memoryOf s.mCurrentTypeMem = memoryOf (some w.memory) ∧
      (due = true → s.queue.format = some w.format ∧ s.mCurrentCrop = w.rect)

theorem Spared.of_setup {due freed : Bool} (h : s.Spared w due freed) (hsetup : t.setup = s.setup) :
    t.Spared w due freed := by
  simp only [setup, Prod.mk.injEq] at hsetup
  obtain ⟨hreq, hformat, hcrop, hmem⟩ := hsetup
  intro ht
  rw [hformat, hcrop, hmem]
  exact h (hreq ▸ ht)

/-- A reset. -/
theorem Spared.reset (streamoff : Bool) {freed : Bool} (h : s.Spared w true freed) (hagrees : s.Agrees)
    (hfree : s.qbuf = false) : (s.resetMode streamoff freed).1.Kept w := by
  refine resetMode_kept streamoff freed hagrees hfree fun hreq => ?_
  rcases h hreq with ⟨-, hfreed⟩ | ⟨hmem, hsame⟩
  · exact .inl hfreed
  · exact .inr ⟨(hsame rfl).1, (hsame rfl).2, hmem⟩

/-- No reset: what is known of the format has to be enough. -/
theorem Spared.keep {freed : Bool} (h : s.Spared w false freed) (hsound : s.Sound P) (hfree : s.qbuf = false)
    (hformat : ∀ f, P f → f = w.format) (hrect : s.mCurrentCrop = w.rect) : s.Kept w := by
  refine ⟨hsound.agrees, hfree, fun hreq => ?_⟩
  obtain ⟨f, hf, hPf⟩ := hsound.tracks hreq
  rcases h hreq with ⟨hdue, -⟩ | ⟨hmem, -⟩
  · cases hdue
  · exact ⟨hf.trans (congrArg some (hformat f hPf)), hrect, hmem⟩

end Side

end ExynosHal.ScalerQueue
