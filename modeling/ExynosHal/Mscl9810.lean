/-
  ExynosHal/Mscl9810.lean
  =======================
  **The compositor of the 9810 scaler and the state of its driver.**

  `AcrylicCompositorMSCL9810` sets the driver up anew only when a comparison of
  settings and marks asks for it (`resetRequired`).  The comparison leaves the
  type of the memory out, the outcome of taking buffers back is ignored, and
  controls that were set before a failure are not recorded.  As long as an
  execute stays clear of this (`Meets`), the state bits and the buffers are right
  after every call, and whatever an execute queues is done with the settings of
  the moment (`queues_follow`).
-/
import ExynosHal.MsclDevice
import ExynosHal.TransitionSystem

namespace ExynosHal.Mscl9810

open ExynosHal ExynosHal.HW2DCapability ExynosHal.MarkedItems ExynosHal.AcrylSettings ExynosHal.AcrylFormats
open ExynosHal.HalTransform ExynosHal.Fallible ExynosHal.ScalerQueue ExynosHal.ScalerQueue.Side
open ExynosHal.MsclDevice ExynosHal.TransitionSystem

/-! ### The program -/

/-- What `VIDIOC_S_FMT` is given. -/
structure Format where
  width : Int
  height : Int
  pixelformat : BitVec 32
  flags : BitVec 8
  colorspace : Colorspace
  bytesperline : Strides
deriving DecidableEq, Repr

/-- The frame rate that is asked for and the one of the driver. -/
structure Framerate where
  mFramerate : BitVec 32 := 0
  mFramerateChanged : Bool := false
  framerate : BitVec 32 := 0
deriving DecidableEq, Repr

abbrev Device := Scaler Format Framerate

/-- What comes of setting the frame rate. -/
inductive FramerateReply where
  | okay | EINVAL | error
deriving DecidableEq, Repr

/-- What comes of the calls to the driver. -/
structure Replies where
  /-- The capability of the device has no objection. -/
  supported : Bool := true
  dqbuf : Both Bool := .all true
  transform : TransformReplies := {}
  reset : ResetReplies := {}
  sFmt : Both Bool := .all true
  sCrop : Both Bool := .all true
  protection : Bool := true
  framerate : FramerateReply := .okay
  prepare : Both PrepareReplies := .all {}
  qbuf : Both Bool := .all true
  /-- The reset after the target was not queued. -/
  again : ResetReplies := {}
deriving DecidableEq, Repr

section Program

variable (tables : FormatTables)

def format (c : AcrylicCanvas) : Format where
  width := c.mImageDimension.hori
  height := c.mImageDimension.vert
  pixelformat := tables.halfmt_to_v4l2_deprecated c.mPixFormat
  flags := tables.get_block_size_from_halfmt c.mPixFormat
  colorspace := imageColorspace c.imageType
  bytesperline := c.getStride

/-- The target area, which is the whole image if there is none. -/
def targetArea (layer : AcrylicLayer) (canvas : AcrylicCanvas) : Hw2dRect :=
  if area_is_zero layer.mTargetRect then ⟨layer.mTargetRect.pos, canvas.mImageDimension⟩
  else layer.mTargetRect

def wanted (layer : AcrylicLayer) (canvas : AcrylicCanvas) : Both (Want Format) where
  source := ⟨format tables layer.toAcrylicCanvas, layer.mImageDimension, layer.mImageRect, layer.mMemoryType⟩
  target := ⟨format tables canvas, canvas.mImageDimension, targetArea layer canvas, canvas.mMemoryType⟩

/-- The comparison of `resetMode`. -/
def resetRequired (layer : AcrylicLayer) (canvas : AcrylicCanvas) (sourceCrop targetCrop : Hw2dRect)
    (mProtectedContent mTransformChanged : Bool) : Bool :=
  targetArea layer canvas ≠ targetCrop || layer.mImageRect ≠ sourceCrop ||
    (layer.marked || canvas.marked) || canvas.isProtected ≠ mProtectedContent || mTransformChanged

def configureCSC (layer : AcrylicLayer) (canvas : AcrylicCanvas) (ok : Bool × Bool) (d : Device) :
    Device × Bool :=
  match tables.cscCanvas layer.imageType canvas.imageType with
  | some image => d.configureCSC (imageColorspace image).matrix (imageRange image) ok
  | none => (d, true)

def resetMode (layer : AcrylicLayer) (canvas : AcrylicCanvas) (r : ResetReplies) (d : Device) : Device × Bool :=
  if resetRequired layer canvas d.source.mCurrentCrop d.target.mCurrentCrop d.mProtectedContent
      d.orientation.mTransformChanged then
    configureCSC tables layer canvas r.csc
      ({ d with orientation := { d.orientation with mTransformChanged := false } }.resetModes r)
  else (d, true)

def setFramerate (r : FramerateReply) (d : Device) : Device × Bool :=
  if d.rest.mFramerateChanged then
    match r with
    | .okay => ({ d with rest := ⟨d.rest.mFramerate, false, d.rest.mFramerate⟩ }, true)
    -- Some chips have no such control.
    | .EINVAL => ({ d with rest := { d.rest with mFramerateChanged := false } }, true)
    | .error => (d, false)
  else (d, true)

/-- `execute` up to the buffers. -/
def prepare (layer : AcrylicLayer) (canvas : AcrylicCanvas) (r : Replies) (d : Device) : Device × Bool :=
  let w := wanted tables layer canvas
  andThen (d.dequeueBuffer r.dqbuf) fun d =>
  andThen (d.setTransform layer.mTransform r.transform) fun d =>
  andThen (resetMode tables layer canvas r.reset d) fun d =>
  andThen (andThen (d.onSource (changeMode w.source r.sFmt.source r.sCrop.source))
    (Scaler.onTarget (changeMode w.target r.sFmt.target r.sCrop.target))) fun d =>
  andThen (d.protect canvas.isProtected r.protection) fun d =>
  andThen (setFramerate r.framerate d) fun d =>
  d.prepareBuffers w r.prepare

/-- The target is not queued at all if it is to be connected and cannot. -/
def queueTarget (mVotfSupported : Bool) (layer : AcrylicLayer) (canvas : AcrylicCanvas) (r : Replies)
    (d : Device) : Device × Bool :=
  if !mVotfSupported && layer.votf then (d, false)
  else d.onTarget (Side.queueBuffer (wanted tables layer canvas).target r.qbuf.target)

def queueBuffer (mVotfSupported : Bool) (layer : AcrylicLayer) (canvas : AcrylicCanvas) (r : Replies)
    (d : Device) : Device × Bool :=
  let source := d.onSource (Side.queueBuffer (wanted tables layer canvas).source r.qbuf.source)
  if !source.2 then source
  else
    let target := queueTarget tables mVotfSupported layer canvas r source.1
    if !target.2 then ((resetMode tables layer canvas r.again target.1).1, false)
    else (target.1.setQbuf, true)

/-- The compositor with its driver. -/
structure AcrylicCompositorMSCL9810 where
  acrylic : Acrylic
  device : Device
deriving DecidableEq, Repr

namespace AcrylicCompositorMSCL9810

/-- Without a layer there is nothing to execute. -/
def execute (mVotfSupported : Bool) (r : Replies) (s : AcrylicCompositorMSCL9810) :
    AcrylicCompositorMSCL9810 × Bool :=
  match s.acrylic.mLayers with
  | [] => (s, false)
  | layer :: _ =>
    if !s.acrylic.validateAllLayers r.supported then (s, false)
    else
      let prepared := prepare tables layer s.acrylic.mCanvas r s.device
      if !prepared.2 then ({ s with device := prepared.1 }, false)
      else
        let queued := queueBuffer tables mVotfSupported layer s.acrylic.mCanvas r prepared.1
        ({ acrylic := s.acrylic.clearSettingModified, device := queued.1 }, queued.2)

def waitExecution (ok : Both Bool) (s : AcrylicCompositorMSCL9810) : AcrylicCompositorMSCL9810 × Bool :=
  let r := s.device.dequeueBuffer ok
  ({ s with device := r.1 }, r.2)

def requestPerformanceQoS (framerate : BitVec 32) (s : AcrylicCompositorMSCL9810) :
    AcrylicCompositorMSCL9810 :=
  if s.device.rest.mFramerate ≠ framerate then
    { s with device.rest := { s.device.rest with mFramerate := framerate, mFramerateChanged := true } }
  else s

end AcrylicCompositorMSCL9810

inductive Op where
  | user (call : Call)
  | execute (r : Replies)
  | waitExecution (ok : Both Bool)
  | requestPerformanceQoS (framerate : BitVec 32)
deriving DecidableEq, Repr

/-- The scaler takes one layer; `min` is the smallest size it reads. -/
def perform (mVotfSupported : Bool) (min : Hw2dCoord) (s : AcrylicCompositorMSCL9810) :
    Op → AcrylicCompositorMSCL9810
  | .user call => { s with acrylic := call.perform 1 min s.acrylic }
  | .execute r => (s.execute tables mVotfSupported r).1
  | .waitExecution ok => (s.waitExecution ok).1
  | .requestPerformanceQoS framerate => s.requestPerformanceQoS framerate

/-- A compositor as it is constructed; nothing is set of the canvas. -/
def Created (s : AcrylicCompositorMSCL9810) : Prop :=
  s.acrylic.mCanvas.mSettingFlags = {} ∧ s.acrylic.mLayers = [] ∧ s.device = { rest := {} }

end Program

/-! ### When the driver follows the settings -/

section Follows

variable (tables : FormatTables) (mVotfSupported : Bool)

/-- An execute gets as far as the transform. -/
structure Starts (s : AcrylicCompositorMSCL9810) (r : Replies) : Prop where
  valid : s.acrylic.validateAllLayers r.supported = true
  source : s.device.source.qbuf = true → r.dqbuf.source = true
  target : s.device.target.qbuf = true → r.dqbuf.target = true

/-- The settings ask for a reset. -/
def resetDue (layer : AcrylicLayer) (canvas : AcrylicCanvas) (d : Device) : Bool :=
  resetRequired layer canvas d.source.mCurrentCrop d.target.mCurrentCrop d.mProtectedContent
    (d.orientation.mCurrentTransform ^^^ layer.mTransform ≠ 0)

/-- **An execute that stays clear of the defects.**  Controls of the transform that are left alone,
    as the record has their value, have that value in the driver.  The buffers of a queue are taken
    back by a reset, or are of the type of memory of the image, and a reset finds their queue set up
    as it is wanted.  Buffers are given up again when the stream does not start.  And when only the
    source was queued, a mark is left for the second reset, which empties the queue. -/
structure Meets (layer : AcrylicLayer) (canvas : AcrylicCanvas) (d : Device) (r : Replies) : Prop where
  transform : d.orientation.Agrees layer.mTransform
  source : r.transform.Pass (d.orientation.mCurrentTransform ^^^ layer.mTransform) →
    d.source.Spared (wanted tables layer canvas).source (resetDue layer canvas d) r.reset.reqbufs.source
  target : r.transform.Pass (d.orientation.mCurrentTransform ^^^ layer.mTransform) →
    d.target.Spared (wanted tables layer canvas).target (resetDue layer canvas d) r.reset.reqbufs.target
  cancelSource : r.prepare.source.streamon = false → r.prepare.source.cancel = true
  cancelTarget : r.prepare.target.streamon = false → r.prepare.target.cancel = true
  again : r.qbuf.source = true → (mVotfSupported = false ∧ layer.votf = true) ∨ r.qbuf.target = false →
    (layer.marked = true ∨ canvas.marked = true) ∧
      (r.again.streamoff.source = true ∨ r.again.reqbufs.source = true)

/-- The condition of a step. -/
def Clear (s : AcrylicCompositorMSCL9810) : Op → Prop
  | .execute r => Starts s r → ∀ layer ∈ s.acrylic.mLayers,
      Meets tables mVotfSupported layer s.acrylic.mCanvas s.device r
  | _ => True

/-- **The driver has the settings of a layer and of the canvas.** -/
structure Applied (layer : AcrylicLayer) (canvas : AcrylicCanvas) (d : Device) : Prop where
  sourceFormat : d.source.queue.format = some (format tables layer.toAcrylicCanvas)
  targetFormat : d.target.queue.format = some (format tables canvas)
  sourceCrop : d.source.queue.crop = some layer.mImageRect
  targetCrop : d.target.queue.crop = some (targetArea layer canvas)
  transform : d.orientation.Shows layer.mTransform
  protection : d.protection = canvas.isProtected

/-- What is known of the format of the source, and of that of the target. -/
def SourceFormat (layers : List AcrylicLayer) (f : Format) : Prop :=
  Remembers (fun l : AcrylicLayer => l.settled) (fun l => format tables l.toAcrylicCanvas) [f] layers

def TargetFormat (canvas : AcrylicCanvas) (f : Format) : Prop :=
  canvas.settled = true → f = format tables canvas

/-- What holds of the device between two calls. -/
def Between (layers : List AcrylicLayer) (canvas : AcrylicCanvas) (d : Device) : Prop :=
  ∃ p, Scaler.Holds (Sound (SourceFormat tables layers)) (Sound (TargetFormat tables canvas)) (fun _ => True)
    p (fun _ _ => True) d

structure Invariant (s : AcrylicCompositorMSCL9810) : Prop where
  layers : s.acrylic.mLayers.length ≤ 1
  device : Between tables s.acrylic.mLayers s.acrylic.mCanvas s.device

/-! ### Formats and marks -/

variable {tables mVotfSupported}
variable {layer : AcrylicLayer} {canvas c : AcrylicCanvas} {d : Device} {r : Replies} {p : Bool}

theorem format_eq {c' : AcrylicCanvas} (himage : c'.imageType = c.imageType) (hstride : c'.getStride = c.getStride) :
    format tables c' = format tables c := by
  have hfields := himage
  rw [AcrylicCanvas.imageType, AcrylicCanvas.imageType, ImageType.mk.injEq] at hfields
  unfold format
  rw [himage, hfields.1, hfields.2.1, hstride]

theorem settled_of_unmarked (hokay : c.isSettingOkay = true) (hmarked : c.marked = false) : c.settled = true := by
  rw [AcrylicCanvas.settled, typeSet_of_okay hokay, hmarked]
  rfl

theorem unsettled_of_unset (h : c.typeSet = false) : c.settled = false := by
  rw [AcrylicCanvas.settled, h]
  rfl

theorem sourceFormat_read (layer : AcrylicLayer) :
    SourceFormat tables [layer] (format tables layer.toAcrylicCanvas) := remembers_read [layer]

theorem SourceFormat.eq {f : Format} (h : SourceFormat tables [layer] f) (hsettled : layer.settled = true) :
    f = format tables layer.toAcrylicCanvas := by
  have hlist := Remembers.eq h (fun l hl => List.mem_singleton.mp hl ▸ hsettled) rfl
  exact (List.cons.inj hlist).1.symm

theorem Call.sourceFormat {a : Acrylic} {f : Format} (min : Hw2dCoord) (call : Call)
    (h : SourceFormat tables a.mLayers f) : SourceFormat tables (call.perform 1 min a).mLayers f := by
  refine call.perform_remembers 1 min (fun _ => unsettled_of_unset) (fun call l hl => ?_) h
  obtain ⟨hsettled, himage, hstride⟩ := call.perform_settled l hl
  exact ⟨hsettled, format_eq himage hstride⟩

theorem Call.targetFormat {a : Acrylic} {f : Format} (min : Hw2dCoord) (call : Call)
    (h : TargetFormat tables a.mCanvas f) : TargetFormat tables (call.perform 1 min a).mCanvas f := by
  cases call with
  | canvas call =>
    intro hsettled
    obtain ⟨hbefore, himage, hstride⟩ := call.perform_settled hsettled
    exact (h hbefore).trans (format_eq himage hstride).symm
  | layer i call => exact h
  | createLayer memory =>
    simp only [Call.perform]
    split <;> exact h
  | removeLayer i => exact h

theorem Call.layers_le {a : Acrylic} (min : Hw2dCoord) (call : Call) (h : a.mLayers.length ≤ 1) :
    (call.perform 1 min a).mLayers.length ≤ 1 := by
  cases call with
  | canvas call => exact h
  | layer i call =>
    simp only [Call.perform, List.length_modify]
    exact h
  | createLayer memory =>
    simp only [Call.perform]
    split
    · exact h
    · rename_i hfull
      rw [List.length_append, List.length_singleton]
      omega
  | removeLayer i => exact (List.eraseIdx_sublist a.mLayers i).length_le.trans h

/-! ### The steps of an execute -/

theorem resetRequired_marked {sourceCrop targetCrop : Hw2dRect} {isProtected changed : Bool}
    (h : layer.marked = true ∨ canvas.marked = true) :
    resetRequired layer canvas sourceCrop targetCrop isProtected changed = true := by
  have hmarked : (layer.marked || canvas.marked) = true := by
    rw [Bool.or_eq_true]
    exact h
  rw [resetRequired, hmarked, Bool.or_true, Bool.true_or, Bool.true_or]

/-- **No reset** means that the crops are the same and nothing is marked. -/
theorem resetRequired_false {sourceCrop targetCrop : Hw2dRect} {isProtected changed : Bool}
    (h : resetRequired layer canvas sourceCrop targetCrop isProtected changed = false) :
    targetCrop = targetArea layer canvas ∧ sourceCrop = layer.mImageRect ∧
      layer.marked = false ∧ canvas.marked = false := by
  simp only [resetRequired, Bool.or_eq_false_iff, decide_eq_false_iff_not, not_not] at h
  exact ⟨h.1.1.1.1.symm, h.1.1.1.2.symm, h.1.1.2.1, h.1.1.2.2⟩

variable {A B A' B' : Side Format → Prop} {O : Orientation → Prop}

theorem resetMode_due {r : ResetReplies} (h : Scaler.Holds A B O p (fun _ _ => True) d)
    (hO : ∀ o : Orientation, O o → O { o with mTransformChanged := false })
    (hdue : resetRequired layer canvas d.source.mCurrentCrop d.target.mCurrentCrop d.mProtectedContent
      d.orientation.mTransformChanged = true)
    (hsource : A' (d.source.resetMode r.streamoff.source r.reqbufs.source).1)
    (htarget : B' (d.target.resetMode r.streamoff.target r.reqbufs.target).1) :
    Ends (resetMode tables layer canvas r d) (Scaler.Holds A' B' O p (fun _ _ => True))
      (Scaler.Holds A' B' O p (fun _ _ => True)) := by
  rw [resetMode, if_pos hdue]
  have hreset : Scaler.Holds A' B' O p (fun _ _ => True)
      ({ d with orientation := { d.orientation with mTransformChanged := false } }.resetModes r) :=
    ⟨hsource, htarget, hO _ h.orientation, h.recorded, h.protection, trivial⟩
  unfold configureCSC
  split
  · exact hreset.configureCSC r.csc (fun _ => trivial) trivial
  · exact ends_success hreset

theorem setFramerate_ends (r : FramerateReply) (h : Scaler.Holds A B O p (fun _ _ => True) d) :
    Ends (setFramerate r d) (Scaler.Holds A B O p (fun _ _ => True))
      (Scaler.Holds A B O p (fun _ _ => True)) := by
  have hrest : ∀ x, Scaler.Holds A B O p (fun _ _ => True) ({ d with rest := x } : Device) := fun _ =>
    ⟨h.source, h.target, h.orientation, h.recorded, h.protection, trivial⟩
  unfold setFramerate
  split
  · cases r with
    | okay => exact ends_success (hrest _)
    | EINVAL => exact ends_success (hrest _)
    | error => exact ends_failure h
  · exact ends_success h

/-- The middle of an execute, with `A` and `B` at the queues and the transform in the driver. -/
abbrev Midway (layer : AcrylicLayer) (p : Bool) (A B : Side Format → Prop) : Device → Prop :=
  Scaler.Holds A B (fun o => o.Shows layer.mTransform) p (fun _ _ => True)

theorem Midway.between (h : Midway layer p A B d) (hA : ∀ q, A q → q.Sound (SourceFormat tables [layer]))
    (hB : ∀ q, B q → q.Sound (TargetFormat tables canvas)) : Between tables [layer] canvas d :=
  ⟨p, h.mono hA hB (fun _ _ => trivial) fun _ _ _ => trivial⟩

theorem kept_source {q : Side Format} (h : q.Kept (wanted tables layer canvas).source) :
    q.Sound (SourceFormat tables [layer]) := h.sound (sourceFormat_read layer)

theorem kept_target {q : Side Format} (h : q.Kept (wanted tables layer canvas).target) :
    q.Sound (TargetFormat tables canvas) := h.sound fun _ => rfl

/-- **The first reset** leaves queues without buffers, or as they are wanted. -/
theorem resetMode_ends {d₀ : Device} (hlayer : layer.isSettingOkay = true) (hcanvas : canvas.isSettingOkay = true)
    (hrecorded : d₀.mProtectedContent = p)
    (hsource : d₀.source.Spared (wanted tables layer canvas).source (resetDue layer canvas d₀)
      r.reset.reqbufs.source)
    (htarget : d₀.target.Spared (wanted tables layer canvas).target (resetDue layer canvas d₀)
      r.reset.reqbufs.target)
    (hchanged : d.orientation.mTransformChanged =
      decide (d₀.orientation.mCurrentTransform ^^^ layer.mTransform ≠ 0))
    (h : Midway layer p
      (fun q => q.Sound (SourceFormat tables [layer]) ∧ q.qbuf = false ∧ q.setup = d₀.source.setup)
      (fun q => q.Sound (TargetFormat tables canvas) ∧ q.qbuf = false ∧ q.setup = d₀.target.setup) d) :
    Ends (resetMode tables layer canvas r.reset d) (Between tables [layer] canvas)
      (Midway layer p (Kept (wanted tables layer canvas).source) (Kept (wanted tables layer canvas).target)) := by
  obtain ⟨hss, hsfree, hssetup⟩ := h.source
  obtain ⟨hts, htfree, htsetup⟩ := h.target
  have hdue : resetRequired layer canvas d.source.mCurrentCrop d.target.mCurrentCrop d.mProtectedContent
      d.orientation.mTransformChanged = resetDue layer canvas d₀ := by
    simp only [setup, Prod.mk.injEq] at hssetup htsetup
    rw [resetDue, hssetup.2.2.1, htsetup.2.2.1, h.recorded, hrecorded, hchanged]
  replace hsource := hsource.of_setup hssetup
  replace htarget := htarget.of_setup htsetup
  cases hd₀ : resetDue layer canvas d₀ with
  | true =>
    rw [hd₀] at hsource htarget hdue
    refine (resetMode_due h (fun o ho => ⟨ho.hflip, ho.vflip, ho.rotate⟩) hdue
      (hsource.reset _ hss.agrees hsfree) (htarget.reset _ hts.agrees htfree)).mono ?_ fun _ h' => h'
    exact fun _ h' => Midway.between h' (fun _ => kept_source) fun _ => kept_target
  | false =>
    rw [hd₀] at hsource htarget hdue
    obtain ⟨htcrop, hscrop, hlmarked, hcmarked⟩ := resetRequired_false hdue
    rw [resetMode, hdue, if_neg Bool.false_ne_true]
    have hskept := hsource.keep hss hsfree
      (fun f hf => SourceFormat.eq hf (settled_of_unmarked hlayer hlmarked)) hscrop
    have htkept := htarget.keep hts htfree (fun f hf => hf (settled_of_unmarked hcanvas hcmarked)) htcrop
    exact ends_success ⟨hskept, htkept, h.orientation, h.recorded, h.protection, trivial⟩

/-- **Up to the buffers.** -/
theorem prepare_ends (hlayer : layer.isSettingOkay = true) (hcanvas : canvas.isSettingOkay = true)
    (h : Between tables [layer] canvas d)
    (hmeets : (d.source.qbuf = true → r.dqbuf.source = true) → (d.target.qbuf = true → r.dqbuf.target = true) →
      Meets tables mVotfSupported layer canvas d r) :
    Ends (prepare tables layer canvas r d) (Between tables [layer] canvas)
      (fun d' => Midway layer canvas.isProtected (Prepared (wanted tables layer canvas).source)
        (Prepared (wanted tables layer canvas).target) d' ∧ Meets tables mVotfSupported layer canvas d r) := by
  obtain ⟨p, hp⟩ := h
  -- The transform is compared with what was recorded before the buffers came back.
  have hd : Scaler.Holds (Sound (SourceFormat tables [layer])) (Sound (TargetFormat tables canvas))
      (fun o => o = d.orientation) p (fun _ _ => True) d :=
    ⟨hp.source, hp.target, rfl, hp.recorded, hp.protection, trivial⟩
  unfold prepare
  refine Ends.andThen ((hd.dequeueBuffer r.dqbuf).mono (fun d' h' => ⟨p, h'.mono (fun _ hq => hq.1)
    (fun _ hq => hq.1) (fun _ _ => trivial) fun _ _ _ => trivial⟩) fun _ h' => h') fun d₁ h₁ => ?_
  have hm := hmeets h₁.source.2 h₁.target.2
  refine Ends.andThen ((h₁.setTransform r.transform (h₁.orientation ▸ hm.transform)).mono
    (fun d' h' => ⟨p, h'.mono (fun _ hq => hq.1.1) (fun _ hq => hq.1.1) (fun _ ho => ho)
      fun _ _ hr => hr⟩) fun _ h' => h') fun d₂ h₂ => ?_
  obtain ⟨hshows, hchanged, hpass⟩ := h₂.orientation
  rw [h₁.orientation] at hchanged hpass
  refine Ends.andThen (resetMode_ends hlayer hcanvas hp.recorded (hm.source hpass) (hm.target hpass) hchanged
    ⟨h₂.source.1, h₂.target.1, hshows, h₂.recorded, h₂.protection, trivial⟩) fun d₃ h₃ => ?_
  refine Ends.andThen ((h₃.onBoth (changeMode_ends r.sFmt.source r.sCrop.source h₃.source)
    (fun q hq => changeMode_ends r.sFmt.target r.sCrop.target hq) fun _ hq => hq.kept).mono
    (fun d' h' => Midway.between h' (fun _ => kept_source) fun _ => kept_target) fun _ h' => h') fun d₄ h₄ => ?_
  have hbetween : ∀ (p : Bool) (d' : Device), Midway layer p (Configured (wanted tables layer canvas).source)
      (Configured (wanted tables layer canvas).target) d' → Between tables [layer] canvas d' :=
    fun _ _ h' => Midway.between h' (fun _ hq => kept_source hq.kept) fun _ hq => kept_target hq.kept
  refine Ends.andThen ((h₄.protect r.protection).mono (hbetween p) fun _ h' => h') fun d₅ h₅ => ?_
  refine Ends.andThen ((setFramerate_ends r.framerate h₅).mono (hbetween _) fun _ h' => h') fun d₆ h₆ => ?_
  exact (h₆.prepareBuffers hm.cancelSource hm.cancelTarget).mono (hbetween _) fun _ h' => ⟨h', hm⟩

theorem queueTarget_ends (mVotfSupported : Bool) (r : Replies) {A : Side Format → Prop}
    (h : Midway layer p A (Prepared (wanted tables layer canvas).target) d) :
    Ends (queueTarget tables mVotfSupported layer canvas r d)
      (fun d' => Midway layer p A (Prepared (wanted tables layer canvas).target) d' ∧
        ((mVotfSupported = false ∧ layer.votf = true) ∨ r.qbuf.target = false))
      (Midway layer p A (Queued (wanted tables layer canvas).target)) := by
  unfold queueTarget
  split
  · rename_i hrefused
    rw [Bool.and_eq_true, Bool.not_eq_true'] at hrefused
    exact ends_failure ⟨h, .inl hrefused⟩
  · refine (h.onTarget (Side.queueBuffer_ends r.qbuf.target h.target)).mono (fun d' h' => ⟨?_, .inr h'.target.2⟩)
      fun d' h' => ?_
    · exact h'.mono (fun _ hq => hq) (fun _ hq => hq.1) (fun _ ho => ho) fun _ _ hr => hr
    · exact h'.mono (fun _ hq => hq) (fun _ hq => hq.1) (fun _ ho => ho) fun _ _ hr => hr

/-- **The second reset** gives the buffer of the source back. -/
theorem resetMode_again (hmarked : layer.marked = true ∨ canvas.marked = true)
    (hback : r.again.streamoff.source = true ∨ r.again.reqbufs.source = true)
    (h : Midway layer p (Queued (wanted tables layer canvas).source)
      (Prepared (wanted tables layer canvas).target) d) :
    Midway layer p (Kept (wanted tables layer canvas).source) (Kept (wanted tables layer canvas).target)
      (resetMode tables layer canvas r.again d).1 := by
  refine (resetMode_due h (fun o ho => ⟨ho.hflip, ho.vflip, ho.rotate⟩) (resetRequired_marked hmarked)
    (resetMode_queued _ _ h.source hback) ?_).keeps
  exact resetMode_kept _ _ h.target.configured.kept.agrees h.target.configured.kept.free fun _ =>
    .inr h.target.fits

/-- The queues after a failure, and those of a job. -/
theorem queueBuffer_ends
    (hagain : r.qbuf.source = true → (mVotfSupported = false ∧ layer.votf = true) ∨ r.qbuf.target = false →
      (layer.marked = true ∨ canvas.marked = true) ∧
        (r.again.streamoff.source = true ∨ r.again.reqbufs.source = true))
    (h : Midway layer p (Prepared (wanted tables layer canvas).source)
      (Prepared (wanted tables layer canvas).target) d) :
    Ends (queueBuffer tables mVotfSupported layer canvas r d)
      (Midway layer p (Kept (wanted tables layer canvas).source) (Kept (wanted tables layer canvas).target))
      (Midway layer p (Done (wanted tables layer canvas).source) (Done (wanted tables layer canvas).target)) := by
  have hsource := h.onSource (Side.queueBuffer_ends r.qbuf.source h.source)
  unfold queueBuffer
  generalize Scaler.onSource (Side.queueBuffer (wanted tables layer canvas).source r.qbuf.source) d = source
    at hsource ⊢
  obtain ⟨d₁, ok₁⟩ := source
  cases ok₁ with
  | false =>
    refine ends_failure ((hsource.fail rfl).mono (fun _ hq => ?_) (fun _ hq => ?_) (fun _ ho => ho) fun _ _ hr => hr)
    · exact hq.1.configured.kept
    · exact hq.configured.kept
  | true =>
    have h₁ := hsource.ok rfl
    have hqbuf := h₁.source.2
    replace h₁ : Midway layer p (Queued (wanted tables layer canvas).source)
        (Prepared (wanted tables layer canvas).target) d₁ :=
      h₁.mono (fun _ hq => hq.1) (fun _ hq => hq) (fun _ ho => ho) fun _ _ hr => hr
    have htarget := queueTarget_ends mVotfSupported r h₁
    simp only [Bool.not_true, if_neg Bool.false_ne_true]
    generalize queueTarget tables mVotfSupported layer canvas r d₁ = target at htarget ⊢
    obtain ⟨d₂, ok₂⟩ := target
    cases ok₂ with
    | false =>
      obtain ⟨h₂, hfailed⟩ := htarget.fail rfl
      obtain ⟨hmarked, hback⟩ := hagain hqbuf hfailed
      exact ends_failure (resetMode_again hmarked hback h₂)
    | true =>
      have h₂ := htarget.ok rfl
      exact ends_success ⟨h₂.source.done, h₂.target.done, h₂.orientation, h₂.recorded, h₂.protection, trivial⟩

end Follows

/-! ### Runs -/

section Runs

variable {tables : FormatTables} {mVotfSupported : Bool} {min : Hw2dCoord}
variable {s : AcrylicCompositorMSCL9810}

theorem created_invariant (h : Created s) : Invariant tables s := by
  obtain ⟨hcanvas, hlayers, hdevice⟩ := h
  refine ⟨by rw [hlayers]; exact Nat.zero_le 1, false, ?_⟩
  rw [hdevice]
  exact ⟨created_sound, created_sound, trivial, rfl, rfl, trivial⟩

theorem Between.mono {layers layers' : List AcrylicLayer} {canvas canvas' : AcrylicCanvas} {d : Device}
    (h : Between tables layers canvas d) (hsource : ∀ f, SourceFormat tables layers f → SourceFormat tables layers' f)
    (htarget : ∀ f, TargetFormat tables canvas f → TargetFormat tables canvas' f) :
    Between tables layers' canvas' d := by
  obtain ⟨p, hp⟩ := h
  exact ⟨p, hp.mono (fun _ hq => hq.mono hsource) (fun _ hq => hq.mono htarget) (fun _ ho => ho) fun _ _ hr => hr⟩

theorem Call.perform_invariant (call : Call) (h : Invariant tables s) :
    Invariant tables { s with acrylic := call.perform 1 min s.acrylic } :=
  ⟨Call.layers_le min call h.layers, h.device.mono (fun _ => Call.sourceFormat min call)
    fun _ => Call.targetFormat min call⟩

theorem dequeueBuffer_between {layers : List AcrylicLayer} {canvas : AcrylicCanvas} {d : Device}
    (ok : Both Bool) (h : Between tables layers canvas d) :
    Between tables layers canvas (d.dequeueBuffer ok).1 := by
  obtain ⟨p, hp⟩ := h
  refine ((hp.dequeueBuffer ok).mono (fun d' h' => ?_) fun d' h' => ?_).keeps
  · exact ⟨p, h'.mono (fun _ hq => hq.1) (fun _ hq => hq.1) (fun _ ho => ho) fun _ _ hr => hr⟩
  · exact ⟨p, h'.mono (fun _ hq => hq.1.1) (fun _ hq => hq.1.1) (fun _ ho => ho) fun _ _ hr => hr⟩

theorem cleared_between {layer : AcrylicLayer} {canvas : AcrylicCanvas} {d : Device} {p : Bool}
    {A B : Side Format → Prop} (h : Midway layer p A B d)
    (hA : ∀ q, A q → ∀ P : Format → Prop, P (format tables layer.toAcrylicCanvas) → q.Sound P)
    (hB : ∀ q, B q → ∀ P : Format → Prop, P (format tables canvas) → q.Sound P) :
    Between tables [{ layer with toAcrylicCanvas := layer.clearSettingModified }] canvas.clearSettingModified d :=
  ⟨p, h.mono (fun _ hq => hA _ hq _ (sourceFormat_read _)) (fun _ hq => hB _ hq _ fun _ => rfl)
    (fun _ _ => trivial) fun _ _ hr => hr⟩

/-- **One execute.** -/
theorem execute_invariant {r : Replies} (h : Invariant tables s)
    (hclear : Clear tables mVotfSupported s (.execute r)) :
    Invariant tables (s.execute tables mVotfSupported r).1 ∧
      ((s.execute tables mVotfSupported r).2 = true → ∀ layer ∈ s.acrylic.mLayers,
        Applied tables layer s.acrylic.mCanvas (s.execute tables mVotfSupported r).1.device) := by
  obtain ⟨⟨canvas, layers⟩, d⟩ := s
  obtain ⟨hlayers, hdevice⟩ := h
  match layers with
  | [] => exact ⟨⟨hlayers, hdevice⟩, fun h' => nomatch h'⟩
  | layer :: [] =>
    simp only [AcrylicCompositorMSCL9810.execute]
    cases hvalid : Acrylic.validateAllLayers ⟨canvas, [layer]⟩ r.supported with
    | false => exact ⟨⟨hlayers, hdevice⟩, fun h' => nomatch h'⟩
    | true =>
      have hokay := hvalid
      simp only [Acrylic.validateAllLayers, Bool.and_eq_true, List.all_cons, List.all_nil] at hokay
      have hmeets : (d.source.qbuf = true → r.dqbuf.source = true) →
          (d.target.qbuf = true → r.dqbuf.target = true) → Meets tables mVotfSupported layer canvas d r :=
        fun hs ht => hclear ⟨hvalid, hs, ht⟩ layer List.mem_cons_self
      have hprepare := prepare_ends hokay.1.1.2.1 hokay.1.1.1 hdevice hmeets
      generalize prepare tables layer canvas r d = prepared at hprepare ⊢
      obtain ⟨d₁, ok₁⟩ := prepared
      cases ok₁ with
      | false => exact ⟨⟨hlayers, hprepare.fail rfl⟩, fun h' => nomatch h'⟩
      | true =>
        obtain ⟨h₁, hm⟩ := hprepare.ok rfl
        have hqueue := queueBuffer_ends hm.again h₁
        simp only [Bool.not_true, if_neg Bool.false_ne_true]
        generalize queueBuffer tables mVotfSupported layer canvas r d₁ = queued at hqueue ⊢
        obtain ⟨d₂, ok₂⟩ := queued
        cases ok₂ with
        | false => exact ⟨⟨hlayers, cleared_between (hqueue.fail rfl) (fun _ hq _ => hq.sound)
            fun _ hq _ => hq.sound⟩, fun h' => nomatch h'⟩
        | true =>
          have h₂ := hqueue.ok rfl
          refine ⟨⟨hlayers, cleared_between h₂ (fun _ hq _ => hq.sound) fun _ hq _ => hq.sound⟩,
            fun _ l hl => ?_⟩
          obtain rfl := List.mem_singleton.mp hl
          exact ⟨h₂.source.format, h₂.target.format, h₂.source.crop, h₂.target.crop, h₂.orientation,
            h₂.protection⟩
  | _ :: _ :: _ => exact absurd hlayers (by simp)

theorem perform_invariant {op : Op} (h : Invariant tables s) (hclear : Clear tables mVotfSupported s op) :
    Invariant tables (perform tables mVotfSupported min s op) := by
  cases op with
  | user call => exact Call.perform_invariant call h
  | execute r => exact (execute_invariant h hclear).1
  | waitExecution ok => exact ⟨h.layers, dequeueBuffer_between ok h.device⟩
  | requestPerformanceQoS framerate =>
    simp only [perform, AcrylicCompositorMSCL9810.requestPerformanceQoS]
    split
    · obtain ⟨hlayers, p, hp⟩ := h
      exact ⟨hlayers, p, hp.source, hp.target, trivial, hp.recorded, hp.protection, trivial⟩
    · exact h

/-- **The queues follow the settings.**  In a run of executes that stay clear, the state bits agree
    with the driver after every call, no buffer was queued where one was, nor with another type of
    memory, and a job is done with the settings of the canvas and the layer. -/
theorem queues_follow (tables : FormatTables) (mVotfSupported : Bool) (min : Hw2dCoord)
    {s : AcrylicCompositorMSCL9810}
    (h : Reachable Created (guarded (Clear tables mVotfSupported)
      (ofFun (perform tables mVotfSupported min))) s) :
    (s.device.source.Agrees ∧ s.device.target.Agrees) ∧
      ∀ r, Clear tables mVotfSupported s (.execute r) → (s.execute tables mVotfSupported r).2 = true →
        ∀ layer ∈ s.acrylic.mLayers,
          Applied tables layer s.acrylic.mCanvas (s.execute tables mVotfSupported r).1.device := by
  have hinvariant : Invariant tables s := by
    refine h.invariant (fun s hs => created_invariant hs) fun s op s' hs hstep => ?_
    obtain ⟨hclear, rfl⟩ := hstep
    exact perform_invariant hs hclear
  obtain ⟨p, hp⟩ := hinvariant.device
  exact ⟨⟨hp.source.agrees, hp.target.agrees⟩, fun r hr => (execute_invariant hinvariant hr).2⟩

end Runs

/-! ### Two runs -/

section Examples

def rgbTables : FormatTables := ⟨id, fun _ => 0, fun format _ => format, fun _ => 0x11⟩

def unsetCanvas : AcrylicCanvas := ⟨⟨16, 16⟩, 0, 0, (0, 0, 0, 0), .MT_EMPTY, false, {}⟩

def newCompositor : AcrylicCompositorMSCL9810 := ⟨⟨unsetCanvas, []⟩, { rest := {} }⟩

def unsetLayer : AcrylicLayer :=
  { unsetCanvas with
    mImageRect := ⟨⟨0, 0⟩, ⟨0, 0⟩⟩, mTargetRect := ⟨⟨0, 0⟩, ⟨0, 0⟩⟩, mTransform := 0, mBlendingMode := .NONE
    mPlaneAlpha := 255, votf := false }

/-- Half of a layer of 64x64 is turned and shown on a target of 32x64. -/
def settingOps : List Op :=
  [.user (.createLayer unsetLayer), .user (.layer 0 (.image (.setImageDimension 64 64 true))),
    .user (.layer 0 (.image (.setImageType 1 0 true))),
    .user (.layer 0 (.image (.setImageBuffer .MT_DMABUF false true))),
    .user (.layer 0 (.setCompositArea ⟨⟨0, 0⟩, ⟨64, 32⟩⟩ ⟨⟨0, 0⟩, ⟨0, 0⟩⟩ HAL_TRANSFORM_ROT_90 true)),
    .user (.canvas (.setImageDimension 32 64 true)), .user (.canvas (.setImageType 1 0 true)),
    .user (.canvas (.setImageBuffer .MT_DMABUF false true))]

def configured : AcrylicCompositorMSCL9810 :=
  settingOps.foldl (perform rgbTables false ⟨16, 16⟩) newCompositor

def configuredLayer : AcrylicLayer := configured.acrylic.mLayers.headD unsetLayer

theorem configured_reachable :
    Reachable Created (guarded (Clear rgbTables false) (ofFun (perform rgbTables false ⟨16, 16⟩))) configured := by
  have hclear : ∀ op ∈ settingOps, ∀ s, Clear rgbTables false s op := by
    intro op hop s
    simp only [settingOps, List.mem_cons, List.not_mem_nil, or_false] at hop
    rcases hop with rfl | rfl | rfl | rfl | rfl | rfl | rfl | rfl <;> exact trivial
  exact Reachable.run_guarded (.start ⟨rfl, rfl, rfl⟩) hclear

/-- The first job. -/
theorem configured_applied :
    (configured.execute rgbTables false {}).2 = true ∧
      Applied rgbTables configuredLayer configured.acrylic.mCanvas
        (configured.execute rgbTables false {}).1.device := by
  have hclear : Clear rgbTables false configured (.execute {}) := by
    intro _ layer hlayer
    obtain rfl : layer = configuredLayer := List.mem_singleton.mp hlayer
    exact ⟨⟨fun _ => by decide, fun _ => by decide, fun h => absurd h (by decide)⟩,
      fun _ h => absurd h (by decide), fun _ h => absurd h (by decide), fun _ => rfl, fun _ => rfl,
      fun _ h => absurd h (by decide)⟩
  have hdone : (configured.execute rgbTables false {}).2 = true := by decide +kernel
  exact ⟨hdone, (queues_follow rgbTables false ⟨16, 16⟩ configured_reachable).2 {} hclear hdone
    configuredLayer (List.mem_singleton.mpr rfl)⟩

/-- After a job, the layer gets a buffer of the user, and nothing else. -/
def pointerOps : List Op :=
  settingOps ++ [.execute {}, .waitExecution (.all true),
    .user (.layer 0 (.image (.setImageBuffer .MT_USERPTR false true))), .execute {}]

def pointerRun : AcrylicCompositorMSCL9810 :=
  pointerOps.foldl (perform rgbTables false ⟨16, 16⟩) newCompositor

/-- The buffer of the user is queued where DMA buffers were requested. -/
theorem pointer_among_dmabufs :
    Reachable Created (ofFun (perform rgbTables false ⟨16, 16⟩)) pointerRun ∧ ¬pointerRun.device.source.Agrees := by
  refine ⟨Reachable.run (.start ⟨rfl, rfl, rfl⟩) pointerOps, fun h => ?_⟩
  have hcall : (⟨.USERPTR, some .DMABUF, false⟩ : Qbuf) ∈ pointerRun.device.source.queue.calls := by
    decide +kernel
  exact absurd (h.calls _ hcall).2 (by decide)

end Examples

end ExynosHal.Mscl9810
