/-
  ExynosHal/Mscl3830.lean
  =======================
  **The compositor of the 3830 scaler, which blends a second layer.**

  `AcrylicCompositorMSCL3830` drives its queues as the compositor of the 9810 does
  and sets the blending up with the format of the source.  The comparison before
  a frame sees the size, the type and the area of the second layer, but neither
  the modes of blending nor the alpha of the plane, which are read when the source
  is set up and at no other time.  As long as the executes stay clear of this, a
  job is done with the settings of the moment (`jobs_follow`).
-/
import ExynosHal.MsclDevice
import ExynosHal.TransitionSystem

namespace ExynosHal.Mscl3830

open ExynosHal ExynosHal.HW2DCapability ExynosHal.MarkedItems ExynosHal.AcrylSettings ExynosHal.AcrylFormats
open ExynosHal.HalTransform ExynosHal.Fallible ExynosHal.ScalerQueue ExynosHal.ScalerQueue.Side
open ExynosHal.MsclDevice ExynosHal.TransitionSystem

/-! ### The program -/

/-- What `VIDIOC_S_FMT` is given. -/
structure Format where
  width : Int
  height : Int
  pixelformat : BitVec 32
  colorspace : Colorspace
deriving DecidableEq, Repr

/-- `BL_OP_`; `NONE` is the 0 without a second layer. -/
inductive BlendOp where
  | NONE | DST | DST_OVER
deriving DecidableEq, Repr

/-- What is recorded of the blending, and the controls of the driver. -/
structure Blend where
  mBlendingBefore : Bool := true
  mCurrentCropBlend : Hw2dRect := ⟨⟨0, 0⟩, ⟨0, 0⟩⟩
  op : Option BlendOp := none
  pos : Hw2dCoord := ⟨0, 0⟩
  premulti : Bool := false
  size : Hw2dCoord := ⟨0, 0⟩
  alpha : BitVec 8 := 255
deriving DecidableEq, Repr

abbrev Device := Scaler Format Blend

/-- What comes of the calls to the driver and to the other compositor. -/
structure Replies where
  /-- `mPreCompositor` has copied the second layer. -/
  pre : Bool := true
  /-- The capability of the device has no objection. -/
  supported : Bool := true
  dqbuf : Both Bool := .all true
  transform : TransformReplies := {}
  reset : ResetReplies := {}
  blendOp : Bool := true
  /-- `VIDIOC_S_EXT_CTRLS`. -/
  blend : Bool := true
  alpha : Bool := true
  sFmt : Both Bool := .all true
  sCrop : Both Bool := .all true
  protection : Bool := true
  prepare : Both PrepareReplies := .all {}
  /-- Not more fences are asked for than there are images. -/
  fences : Bool := true
  /-- Both layers bring a fence. -/
  twoFences : Bool := false
  qbuf : Both Bool := .all true
  /-- The reset after the target was not queued. -/
  again : ResetReplies := {}
deriving DecidableEq, Repr

section Program

variable (tables : FormatTables)

def format (image : ImageType) : Format where
  width := image.mImageDimension.hori
  height := image.mImageDimension.vert
  pixelformat := tables.halfmt_to_v4l2_deprecated image.mPixFormat
  colorspace := imageColorspace image

/-- The format of the source, with the one of the second layer in it. -/
def sourceFormat (image : ImageType) : Option ImageType → Format
  | none => format tables image
  | some upper => { format tables image with
      pixelformat := tables.v4l2_fmt_with_blend (tables.halfmt_to_v4l2_deprecated image.mPixFormat)
        upper.mPixFormat }

/-- The target area, which is the whole image if there is none. -/
def targetArea (layer : AcrylicLayer) (canvas : AcrylicCanvas) : Hw2dRect :=
  if area_is_zero layer.mTargetRect then ⟨layer.mTargetRect.pos, canvas.mImageDimension⟩
  else layer.mTargetRect

/-- The first layer, the second one and the canvas. -/
structure Images where
  layer : AcrylicLayer
  upper : Option AcrylicLayer
  canvas : AcrylicCanvas

def Images.layers (i : Images) : List AcrylicLayer := i.layer :: i.upper.toList

def Images.upperType (i : Images) : Option ImageType := i.upper.map (·.imageType)

def wanted (i : Images) : Both (Want Format) where
  source := ⟨sourceFormat tables i.layer.imageType i.upperType, i.layer.mImageDimension, i.layer.mImageRect,
    i.layer.mMemoryType⟩
  target := ⟨format tables i.canvas.imageType, i.canvas.mImageDimension, targetArea i.layer i.canvas,
    i.canvas.mMemoryType⟩

def isBlendingChanged (upper : Option AcrylicLayer) (b : Blend) : Bool :=
  (match upper with
    | some l => l.typeMarked || l.mTargetRect ≠ b.mCurrentCropBlend
    | none => false) ||
  upper.isSome ≠ b.mBlendingBefore

/-- The comparison of `resetMode`. -/
def resetRequired (i : Images) (sourceCrop targetCrop : Hw2dRect) (b : Blend) (mTransformChanged : Bool) : Bool :=
  targetArea i.layer i.canvas ≠ targetCrop || i.layer.mImageRect ≠ sourceCrop ||
    (i.layer.typeMarked || i.canvas.typeMarked) || isBlendingChanged i.upper b || mTransformChanged

def configureCSC (i : Images) (ok : Bool × Bool) (d : Device) : Device × Bool :=
  match tables.cscCanvas i.layer.imageType i.canvas.imageType with
  | some image => d.configureCSC (imageColorspace image).matrix (imageColorspace image).fullSwing ok
  | none => (d, true)

def resetMode (i : Images) (r : ResetReplies) (d : Device) : Device × Bool :=
  if resetRequired i d.source.mCurrentCrop d.target.mCurrentCrop d.rest d.orientation.mTransformChanged then
    configureCSC tables i r.csc
      ({ d with orientation := { d.orientation with mTransformChanged := false } }.resetModes r)
  else (d, true)

def blendOp : Option AcrylicLayer → BlendOp
  | none => .NONE
  | some l => match l.mBlendingMode with
    | .NONE => .DST
    | .PREMULT => .DST_OVER
    | .COVERAGE => .DST_OVER

def onBlend : (Blend → Blend × Bool) → Device → Device × Bool :=
  within Scaler.rest fun b d => { d with rest := b }

def setBlendOp (i : Images) (ok : Bool) : Device → Device × Bool :=
  onBlend (setCtrl true ok fun b => { b with op := some (blendOp i.upper) })

/-- `RdPos`. -/
def readPos (target upper : Hw2dCoord) : Hw2dCoord := ⟨int16 (target.hori - upper.hori), int16 (target.vert - upper.vert)⟩

def isPremulti (l : AcrylicLayer) : Bool := l.mBlendingMode = .PREMULT

def setBlend (i : Images) (ok alpha : Bool) (b : Blend) : Blend × Bool :=
  match i.upper with
  | none => (b, true)
  | some l =>
    andThen (setCtrl true ok (fun b => { b with
        pos := readPos i.layer.mTargetRect.pos l.mTargetRect.pos
        premulti := isPremulti l
        size := l.mImageDimension }) b) fun b =>
    setCtrl true alpha (fun b => { b with alpha := i.layer.mPlaneAlpha }) b

/-- What is recorded before the format of the source is set. -/
def recordBlend (i : Images) (b : Blend) : Blend :=
  { b with
      mBlendingBefore := i.upper.isSome
      mCurrentCropBlend := match i.upper with
        | some l => l.mTargetRect
        | none => ⟨⟨0, 0⟩, ⟨0, 0⟩⟩ }

/-- `changeMode` for the source. -/
def changeSource (i : Images) (r : Replies) (d : Device) : Device × Bool :=
  if d.source.reqbufs then (d, true)
  else
    andThen (onBlend (setBlend i r.blend r.alpha) d) fun d =>
    -- There is no format for this blending.
    if i.upper.isSome && (wanted tables i).source.format.pixelformat = 0 then (d, false)
    else Scaler.onSource (changeMode (wanted tables i).source r.sFmt.source r.sCrop.source)
      { d with rest := recordBlend i d.rest }

/-- `changeMode` for the target; the driver checks the crop of the second layer with it. -/
def changeTarget (i : Images) (r : Replies) (d : Device) : Device × Bool :=
  let q := d.onTarget (changeMode (wanted tables i).target r.sFmt.target r.sCrop.target)
  if !d.target.reqbufs && r.sFmt.target && !r.sCrop.target && i.upper.isSome then
    ({ q.1 with rest := { q.1.rest with mCurrentCropBlend := ⟨⟨0, 0⟩, ⟨0, 0⟩⟩ } }, q.2)
  else q

/-- `execute` up to the buffers. -/
def prepare (i : Images) (r : Replies) (d : Device) : Device × Bool :=
  andThen (d.dequeueBuffer r.dqbuf) fun d =>
  andThen (d.setTransform i.layer.mTransform r.transform) fun d =>
  andThen (resetMode tables i r.reset d) fun d =>
  andThen (setBlendOp i r.blendOp d) fun d =>
  andThen (changeSource tables i r d) fun d =>
  andThen (changeTarget tables i r d) fun d =>
  andThen (d.protect i.canvas.isProtected r.protection) fun d =>
  d.prepareBuffers (wanted tables i) r.prepare

def queueSource (i : Images) (r : Replies) (d : Device) : Device × Bool :=
  if i.upper.isSome && r.twoFences then (d, false)
  else d.onSource (Side.queueBuffer (wanted tables i).source r.qbuf.source)

def queueBuffer (i : Images) (r : Replies) (d : Device) : Device × Bool :=
  let source := queueSource tables i r d
  if !source.2 then source
  else
    let target := source.1.onTarget (Side.queueBuffer (wanted tables i).target r.qbuf.target)
    if !target.2 then ((resetMode tables i r.again target.1).1, false)
    else (target.1.setQbuf, true)

/-- The compositor with its driver. -/
structure AcrylicCompositorMSCL3830 where
  acrylic : Acrylic
  device : Device
deriving DecidableEq, Repr

namespace AcrylicCompositorMSCL3830

/-- Without a layer there is nothing to execute. -/
def execute (r : Replies) (s : AcrylicCompositorMSCL3830) : AcrylicCompositorMSCL3830 × Bool :=
  match s.acrylic.mLayers with
  | [] => (s, false)
  | layer :: layers =>
    let i : Images := ⟨layer, layers.head?, s.acrylic.mCanvas⟩
    if (i.upper.any fun l => layer.mTargetRect ≠ l.mTargetRect) && !r.pre then (s, false)
    else if !s.acrylic.validateAllLayers r.supported then (s, false)
    else
      let prepared := prepare tables i r s.device
      -- The marks stay when too many fences are asked for.
      if !prepared.2 || !r.fences then ({ s with device := prepared.1 }, false)
      else
        let queued := queueBuffer tables i r prepared.1
        ({ acrylic := s.acrylic.clearSettingModified, device := queued.1 }, queued.2)

def waitExecution (ok : Both Bool) (s : AcrylicCompositorMSCL3830) : AcrylicCompositorMSCL3830 × Bool :=
  let r := s.device.dequeueBuffer ok
  ({ s with device := r.1 }, r.2)

end AcrylicCompositorMSCL3830

inductive Op where
  | user (call : Call)
  | execute (r : Replies)
  | waitExecution (ok : Both Bool)
deriving DecidableEq, Repr

/-- The scaler takes two layers; `min` is the smallest size it reads. -/
def perform (min : Hw2dCoord) (s : AcrylicCompositorMSCL3830) : Op → AcrylicCompositorMSCL3830
  | .user call => { s with acrylic := call.perform 2 min s.acrylic }
  | .execute r => (s.execute tables r).1
  | .waitExecution ok => (s.waitExecution ok).1

/-- A compositor as it is constructed; nothing is set of the canvas. -/
def Created (s : AcrylicCompositorMSCL3830) : Prop :=
  s.acrylic.mCanvas.mSettingFlags = {} ∧ s.acrylic.mLayers = [] ∧ s.device = { rest := {} }

end Program

/-! ### When the driver follows the settings -/

section Follows

variable (tables : FormatTables)

/-- An execute gets as far as the transform. -/
structure Starts (s : AcrylicCompositorMSCL3830) (r : Replies) : Prop where
  valid : s.acrylic.validateAllLayers r.supported = true
  source : s.device.source.qbuf = true → r.dqbuf.source = true
  target : s.device.target.qbuf = true → r.dqbuf.target = true

/-- The settings ask for a reset. -/
def resetDue (i : Images) (d : Device) : Bool :=
  resetRequired i d.source.mCurrentCrop d.target.mCurrentCrop d.rest
    (d.orientation.mCurrentTransform ^^^ i.layer.mTransform ≠ 0)

/-- **The source may stay as it is**, with its blending, if it keeps its buffers. -/
structure SourceStays (i : Images) (d : Device) (r : Replies) : Prop where
  memory : memoryOf d.source.mCurrentTypeMem = memoryOf (some i.layer.mMemoryType)
  blend : ∀ l ∈ i.upper, d.rest.premulti = isPremulti l ∧ d.rest.alpha = i.layer.mPlaneAlpha
  /-- The crop of the target is not refused. -/
  crop : i.upper.isSome = true → r.sCrop.target = true

/-- **An execute that stays clear of the defects.**  Controls of the transform that are left alone,
    as the record has their value, have that value in the driver.  A reset takes the buffers of the
    source back; without one the source has to stay as it is.  The buffers of the target are taken
    back, or are of the type of memory of the image in a queue that is set up as it is wanted.
    Buffers are given up again when the stream does not start.  When only the source was queued, a
    mark is left for the second reset, which empties the queue.  The colour space that is converted
    is not BT.2020 of the full range, and both layers are in one type of memory. -/
structure Meets (i : Images) (d : Device) (r : Replies) : Prop where
  transform : d.orientation.Agrees i.layer.mTransform
  source : r.transform.Pass (d.orientation.mCurrentTransform ^^^ i.layer.mTransform) →
    d.source.reqbufs = true →
      if resetDue i d then r.reset.reqbufs.source = true else SourceStays i d r
  target : r.transform.Pass (d.orientation.mCurrentTransform ^^^ i.layer.mTransform) →
    d.target.Spared (wanted tables i).target (resetDue i d) r.reset.reqbufs.target
  cancelSource : r.prepare.source.streamon = false → r.prepare.source.cancel = true
  cancelTarget : r.prepare.target.streamon = false → r.prepare.target.cancel = true
  again : r.qbuf.source = true → r.qbuf.target = false →
    ((i.layer.typeMarked = true ∨ i.canvas.typeMarked = true) ∨ ∃ l ∈ i.upper, l.typeMarked = true) ∧
      (r.again.streamoff.source = true ∨ r.again.reqbufs.source = true)
  range : ∀ image, tables.cscCanvas i.layer.imageType i.canvas.imageType = some image →
    imageColorspace image = .BT2020 → imageRange image = false
  memory : ∀ l ∈ i.upper, memoryOf (some l.mMemoryType) = memoryOf (some i.layer.mMemoryType)

def images (s : AcrylicCompositorMSCL3830) : Option Images :=
  s.acrylic.mLayers.head?.map fun layer => ⟨layer, s.acrylic.mLayers.tail.head?, s.acrylic.mCanvas⟩

/-- The condition of a step. -/
def Clear (s : AcrylicCompositorMSCL3830) : Op → Prop
  | .execute r => Starts s r → ∀ i ∈ images s, Meets tables i s.device r
  | _ => True

/-- **The driver has the settings of the images.** -/
structure Applied (i : Images) (d : Device) : Prop where
  sourceFormat : d.source.queue.format = some (sourceFormat tables i.layer.imageType i.upperType)
  targetFormat : d.target.queue.format = some (format tables i.canvas.imageType)
  sourceCrop : d.source.queue.crop = some i.layer.mImageRect
  targetCrop : d.target.queue.crop = some (targetArea i.layer i.canvas)
  transform : d.orientation.Shows i.layer.mTransform
  csc : ∀ image, tables.cscCanvas i.layer.imageType i.canvas.imageType = some image →
    d.csc = ⟨some (imageColorspace image).matrix, some (imageRange image)⟩
  op : d.rest.op = some (blendOp i.upper)
  blend : ∀ l ∈ i.upper, d.rest.premulti = isPremulti l ∧ d.rest.size = l.mImageDimension ∧
    d.rest.pos = readPos i.layer.mTargetRect.pos l.mTargetRect.pos
  alpha : i.upper.isSome = true → d.rest.alpha = i.layer.mPlaneAlpha
  sourceMemory : d.source.queue.requested = some (memoryOf (some i.layer.mMemoryType))
  upperMemory : ∀ l ∈ i.upper, d.source.queue.requested = some (memoryOf (some l.mMemoryType))
  targetMemory : d.target.queue.requested = some (memoryOf (some i.canvas.mMemoryType))

/-! ### What holds between two calls -/

/-- The conversion that two images need is set. -/
def Converts (layer canvas : ImageType) (c : Csc) : Prop :=
  ∀ image, tables.cscCanvas layer canvas = some image →
    c = ⟨some (imageColorspace image).matrix, some (imageColorspace image).fullSwing⟩

/-- The types of the layers that the source was set up with, the position of the target that goes
    with it, and whether the source has buffers and blends. -/
structure Record where
  first : ImageType
  second : Option ImageType
  target : Hw2dCoord
  live : Bool

def Record.types (k : Record) : List ImageType := k.first :: k.second.toList

def Record.Shown (k : Record) (layers : List AcrylicLayer) : Prop :=
  Remembers (fun l : AcrylicLayer => l.typeSettled) (fun l => l.imageType) k.types layers

/-- The source. -/
structure SourceKnown (k : Record) (q : Side Format) : Prop where
  sound : q.Sound fun f => f = sourceFormat tables k.first k.second
  live : q.reqbufs = true → k.second.isSome = true → k.live = true

/-- The target. -/
structure TargetKnown (canvas : AcrylicCanvas) (k : Record) (q : Side Format) : Prop where
  sound : q.Sound fun f => canvas.typeSettled = true → f = format tables canvas.imageType
  pos : k.live = true → q.mCurrentCrop.pos = k.target

theorem SourceKnown.of_setup {tables : FormatTables} {k : Record} {q q' : Side Format}
    (h : SourceKnown tables k q)
    (hsound : q'.Sound fun f => f = sourceFormat tables k.first k.second) (hsetup : q'.setup = q.setup) :
    SourceKnown tables k q' := by
  simp only [setup, Prod.mk.injEq] at hsetup
  exact ⟨hsound, fun hreq => h.live (hsetup.1 ▸ hreq)⟩

theorem TargetKnown.of_setup {tables : FormatTables} {canvas : AcrylicCanvas} {k : Record} {q q' : Side Format}
    (h : TargetKnown tables canvas k q)
    (hsound : q'.Sound fun f => canvas.typeSettled = true → f = format tables canvas.imageType)
    (hsetup : q'.setup = q.setup) : TargetKnown tables canvas k q' := by
  simp only [setup, Prod.mk.injEq] at hsetup
  refine ⟨hsound, fun hlive => ?_⟩
  rw [hsetup.2.2.1]
  exact h.pos hlive

/-- The conversion and the blending. -/
structure RestKnown (layers : List AcrylicLayer) (canvas : AcrylicCanvas) (k : Record) (c : Csc) (b : Blend) :
    Prop where
  before : b.mBlendingBefore = k.second.isSome
  csc : k.types.length ≤ layers.countP (fun l => l.typeSettled) → canvas.typeSettled = true →
    Converts tables k.first canvas.imageType c
  blend : k.live = true → ∀ upper ∈ k.second,
    b.pos = readPos k.target b.mCurrentCropBlend.pos ∧ b.size = upper.mImageDimension

/-- What holds of the device between two calls. -/
def Between (layers : List AcrylicLayer) (canvas : AcrylicCanvas) (d : Device) : Prop :=
  ∃ k : Record, k.Shown layers ∧ ∃ p,
    Scaler.Holds (SourceKnown tables k) (TargetKnown tables canvas k) (fun _ => True) p
      (RestKnown tables layers canvas k) d

/-- The record is that of the images. -/
structure Current (i : Images) (k : Record) : Prop where
  first : k.first = i.layer.imageType
  second : k.second = i.upperType
  target : k.target = i.layer.mTargetRect.pos

/-- The blending is that of the images. -/
structure Blended (i : Images) (b : Blend) : Prop where
  before : b.mBlendingBefore = i.upper.isSome
  blend : ∀ l ∈ i.upper, b.premulti = isPremulti l ∧ b.size = l.mImageDimension ∧
    b.pos = readPos i.layer.mTargetRect.pos l.mTargetRect.pos
  alpha : i.upper.isSome = true → b.alpha = i.layer.mPlaneAlpha
  crop : ∀ l ∈ i.upper, b.mCurrentCropBlend = l.mTargetRect

structure Invariant (s : AcrylicCompositorMSCL3830) : Prop where
  layers : s.acrylic.mLayers.length ≤ 2
  device : Between tables s.acrylic.mLayers s.acrylic.mCanvas s.device

/-! ### Records -/

variable {tables}
variable {i : Images} {k : Record} {d : Device} {r : Replies} {p : Bool} {c : Csc} {b : Blend}

theorem Record.shown_read (hk : Current i k) : k.Shown i.layers := by
  have htypes : k.types = i.layers.map fun l => l.imageType := by
    rw [Record.types, hk.first, hk.second, Images.upperType]
    cases i with
    | mk layer upper canvas => cases upper <;> rfl
  rw [Record.Shown, htypes]
  exact remembers_read i.layers

/-- As much settled as recorded: the first layer is settled, and the first of the record. -/
theorem Record.Shown.first (h : k.Shown i.layers)
    (hcount : k.types.length ≤ i.layers.countP fun l => l.typeSettled) : k.first = i.layer.imageType := by
  have hfirst := (h.complete hcount).1
  exact (List.cons.inj hfirst).1.symm

/-- **Nothing marked and as many layers as before**: the record is current. -/
theorem Record.Shown.eq (h : k.Shown i.layers) (hlayer : i.layer.typeSettled = true)
    (hover : ∀ l ∈ i.upper, l.typeSettled = true) (hsame : k.second.isSome = i.upper.isSome) :
    k.first = i.layer.imageType ∧ k.second = i.upperType ∧
      k.types.length ≤ i.layers.countP (fun l => l.typeSettled) := by
  have hall : ∀ l ∈ i.layers, l.typeSettled = true := by
    intro l hl
    rcases List.mem_cons.mp hl with rfl | hl
    · exact hlayer
    · exact hover l (Option.mem_toList.mp hl)
  have hlen : k.types.length = i.layers.length := by
    rw [Record.types, Images.layers, List.length_cons, List.length_cons]
    cases hk : k.second <;> cases hi : i.upper <;> rw [hk, hi] at hsame <;> first | rfl | cases hsame
  have htypes := Remembers.eq h hall hlen
  obtain ⟨hfirst, hrest⟩ := List.cons.inj htypes
  refine ⟨hfirst.symm, ?_, ?_⟩
  · rw [Images.upperType]
    cases hk : k.second <;> cases hi : i.upper <;> rw [hk, hi] at hsame hrest
    · rfl
    · cases hsame
    · cases hsame
    · exact congrArg some (List.cons.inj hrest).1.symm
  · rw [List.countP_eq_length.mpr hall]
    exact hlen.le

/-! ### Up to the reset -/

/-- The source after the first reset. -/
structure SourceReset (tables : FormatTables) (i : Images) (k : Record) (q : Side Format) : Prop where
  kept : q.Kept (wanted tables i).source
  stays : q.reqbufs = true →
    k.first = i.layer.imageType ∧ k.second = i.upperType ∧ (i.upper.isSome = true → k.live = true)

structure TargetReset (tables : FormatTables) (i : Images) (k : Record) (q : Side Format) : Prop where
  kept : q.Kept (wanted tables i).target
  pos : k.live = true → q.mCurrentCrop.pos = k.target

structure RestReset (tables : FormatTables) (i : Images) (r : Replies) (k : Record) (c : Csc) (b : Blend) :
    Prop where
  before : b.mBlendingBefore = k.second.isSome
  csc : Converts tables i.layer.imageType i.canvas.imageType c
  live : k.live = true → Current i k ∧ Blended i b ∧ r.sCrop.target = true

/-- After the first reset. -/
def Reset (tables : FormatTables) (i : Images) (r : Replies) (p : Bool) (d : Device) : Prop :=
  ∃ k : Record, k.Shown i.layers ∧
    Scaler.Holds (SourceReset tables i k) (TargetReset tables i k) (fun o => o.Shows i.layer.mTransform) p
      (RestReset tables i r k) d

theorem SourceReset.known {q : Side Format} (h : SourceReset tables i k q) : SourceKnown tables k q where
  sound := by
    refine ⟨h.kept.agrees, fun hreq => ⟨_, (h.kept.fits hreq).format, ?_⟩⟩
    obtain ⟨hfirst, hsecond, -⟩ := h.stays hreq
    rw [hfirst, hsecond]
    rfl
  live hreq hsecond := by
    obtain ⟨-, hover, hlive⟩ := h.stays hreq
    rw [hover, Images.upperType, Option.isSome_map] at hsecond
    exact hlive hsecond

theorem TargetReset.known {q : Side Format} (h : TargetReset tables i k q) : TargetKnown tables i.canvas k q :=
  ⟨h.kept.sound fun _ => rfl, h.pos⟩

theorem RestReset.known (h : RestReset tables i r k c b) (hshown : k.Shown i.layers) :
    RestKnown tables i.layers i.canvas k c b where
  before := h.before
  csc hcount _ := hshown.first hcount ▸ h.csc
  blend hlive upper hover := by
    obtain ⟨hcurrent, hblended, -⟩ := h.live hlive
    rw [hcurrent.second, Images.upperType] at hover
    obtain ⟨l, hl, rfl⟩ := Option.map_eq_some_iff.mp hover
    obtain ⟨-, hsize, hpos⟩ := hblended.blend l hl
    rw [hblended.crop l hl, hcurrent.target]
    exact ⟨hpos, hsize⟩

theorem Reset.between (h : Reset tables i r p d) : Between tables i.layers i.canvas d := by
  obtain ⟨k, hshown, h⟩ := h
  exact ⟨k, hshown, p, h.mono (fun _ hq => hq.known) (fun _ hq => hq.known) (fun _ _ => trivial)
    fun _ _ hr => hr.known hshown⟩

/-- Before the first reset. -/
def Found (tables : FormatTables) (i : Images) (k : Record) (p : Bool) (d₀ d : Device) : Prop :=
  Scaler.Holds
    (fun q => SourceKnown tables k q ∧ q.qbuf = false ∧ q.setup = d₀.source.setup)
    (fun q => TargetKnown tables i.canvas k q ∧ q.qbuf = false ∧ q.setup = d₀.target.setup)
    (fun o => o.Shows i.layer.mTransform) p
    (fun c b => RestKnown tables i.layers i.canvas k c b ∧ b = d₀.rest) d

theorem typeSettled_of_unmarked {c : AcrylicCanvas} (hokay : c.isSettingOkay = true) (hmarked : c.typeMarked = false) :
    c.typeSettled = true := typeSettled_iff.mpr ⟨typeSet_of_okay hokay, hmarked⟩

/-- **No reset**: the crops and the blending are as they were, and nothing is marked. -/
theorem resetRequired_false {sourceCrop targetCrop : Hw2dRect} {changed : Bool}
    (h : resetRequired i sourceCrop targetCrop b changed = false) :
    targetCrop = targetArea i.layer i.canvas ∧ sourceCrop = i.layer.mImageRect ∧
      (i.layer.typeMarked = false ∧ i.canvas.typeMarked = false) ∧ b.mBlendingBefore = i.upper.isSome ∧
      ∀ l ∈ i.upper, l.typeMarked = false ∧ b.mCurrentCropBlend = l.mTargetRect := by
  simp only [resetRequired, isBlendingChanged, Bool.or_eq_false_iff, decide_eq_false_iff_not, not_not] at h
  obtain ⟨⟨⟨⟨htarget, hsource⟩, hmarked⟩, hover, hbefore⟩, -⟩ := h
  refine ⟨htarget.symm, hsource.symm, hmarked, hbefore.symm, fun l hl => ?_⟩
  rw [Option.mem_def.mp hl] at hover
  simp only [Bool.or_eq_false_iff, decide_eq_false_iff_not, not_not] at hover
  exact ⟨hover.1, hover.2.symm⟩

theorem targetArea_pos (layer : AcrylicLayer) (canvas : AcrylicCanvas) :
    (targetArea layer canvas).pos = layer.mTargetRect.pos := by
  unfold targetArea
  split <;> rfl

theorem reset_stays {d₀ : Device} (hlayer : i.layer.isSettingOkay = true) (hcanvas : i.canvas.isSettingOkay = true)
    (hover : ∀ l ∈ i.upper, l.isSettingOkay = true) (hshown : k.Shown i.layers)
    (hsource : d₀.source.reqbufs = true → SourceStays i d₀ r) {freed : Bool}
    (htarget : d₀.target.Spared (wanted tables i).target false freed)
    (hdue : resetRequired i d.source.mCurrentCrop d.target.mCurrentCrop d.rest
      d.orientation.mTransformChanged = false)
    (h : Found tables i k p d₀ d) : Reset tables i r p d := by
  obtain ⟨⟨hsknown, hsfree, hssetup⟩, ⟨htknown, htfree, htsetup⟩, horient, hrecorded, hprotection, hrest, hrest₀⟩ := h
  obtain ⟨htcrop, hscrop, ⟨hlmarked, hcmarked⟩, hbefore, hovers⟩ := resetRequired_false hdue
  have hcsettled := typeSettled_of_unmarked hcanvas hcmarked
  obtain ⟨hfirst, hsecond, hcount⟩ := hshown.eq (typeSettled_of_unmarked hlayer hlmarked)
    (fun l hl => typeSettled_of_unmarked (hover l hl) (hovers l hl).1) (hrest.before.symm.trans hbefore)
  have hkept : d.target.Kept (wanted tables i).target :=
    (htarget.of_setup htsetup).keep htknown.sound htfree (fun f hf => hf hcsettled) htcrop
  simp only [setup, Prod.mk.injEq] at hssetup
  obtain ⟨hsreq, -, -, hsmem⟩ := hssetup
  have hlive : (d.source.reqbufs && i.upper.isSome) = true →
      d.source.reqbufs = true ∧ i.upper.isSome = true ∧ k.live = true := by
    intro h
    obtain ⟨hreq, hsome⟩ := Bool.and_eq_true_iff.mp h
    refine ⟨hreq, hsome, hsknown.live hreq ?_⟩
    rw [hsecond, Images.upperType, Option.isSome_map]
    exact hsome
  refine ⟨⟨k.first, k.second, i.layer.mTargetRect.pos, d.source.reqbufs && i.upper.isSome⟩, hshown,
    ⟨?_, fun hreq => ⟨hfirst, hsecond, fun hsome => ?_⟩⟩, ⟨hkept, fun _ => ?_⟩, horient, hrecorded, hprotection,
    ⟨hrest.before, ?_, fun hl => ?_⟩⟩
  · refine ⟨hsknown.sound.agrees, hsfree, fun hreq => ⟨?_, hscrop, ?_⟩⟩
    · obtain ⟨f, hf, rfl⟩ := hsknown.sound.tracks hreq
      rw [hf, hfirst, hsecond]
      rfl
    · rw [hsmem]
      exact (hsource (hsreq ▸ hreq)).memory
  · rw [hreq, hsome]
    rfl
  · rw [htcrop, targetArea_pos]
  · exact hfirst ▸ hrest.csc hcount hcsettled
  · obtain ⟨hreq, hsome, hklive⟩ := hlive hl
    have hstays := hsource (hsreq ▸ hreq)
    refine ⟨⟨hfirst, hsecond, rfl⟩, ⟨hbefore, fun l hl => ?_, fun _ => ?_, fun l hl => (hovers l hl).2⟩,
      hstays.crop hsome⟩
    · have hmem : l.imageType ∈ k.second := by
        rw [hsecond, Images.upperType, Option.mem_def.mp hl]
        rfl
      obtain ⟨hpos, hsize⟩ := hrest.blend hklive _ hmem
      refine ⟨hrest₀ ▸ (hstays.blend l hl).1, hsize, ?_⟩
      rw [hpos, ← htknown.pos hklive, htcrop, targetArea_pos, (hovers l hl).2]
    · obtain ⟨l, hl⟩ := Option.isSome_iff_exists.mp hsome
      exact hrest₀ ▸ (hstays.blend l hl).2

/-- Controls that a failed conversion leaves are right if they were. -/
theorem configureCSC_ends {A B : Side Format → Prop} {O : Orientation → Prop} {R : Csc → Blend → Prop}
    (ok : Bool × Bool) (h : Scaler.Holds A B O p R d) :
    Ends (configureCSC tables i ok d)
      (Scaler.Holds A B O p fun c b => b = d.rest ∧
        (Converts tables i.layer.imageType i.canvas.imageType d.csc →
          Converts tables i.layer.imageType i.canvas.imageType c))
      (Scaler.Holds A B O p fun c b => b = d.rest ∧
        Converts tables i.layer.imageType i.canvas.imageType c) := by
  have hbare : ∀ c, (Converts tables i.layer.imageType i.canvas.imageType d.csc →
      Converts tables i.layer.imageType i.canvas.imageType c) →
      Scaler.Holds A B O p (fun c b => b = d.rest ∧
        (Converts tables i.layer.imageType i.canvas.imageType d.csc →
          Converts tables i.layer.imageType i.canvas.imageType c)) { d with csc := c } :=
    fun c hc => ⟨h.source, h.target, h.orientation, h.recorded, h.protection, rfl, hc⟩
  unfold configureCSC
  split
  · rename_i image himage
    refine ⟨fun _ => hbare _ fun hd => ?_, fun hr => ⟨h.source, h.target, h.orientation, h.recorded,
      h.protection, rfl, fun image' himage' => ?_⟩⟩
    · intro image' himage'
      obtain rfl := Option.some.inj (himage.symm.trans himage')
      rw [hd image himage]
      exact Csc.configure_keeps _ _ _ _
    · obtain rfl := Option.some.inj (himage.symm.trans himage')
      exact (Csc.configure_ends _ _ _ _ d.csc).ok hr
  · rename_i hnone
    refine ends_success ⟨h.source, h.target, h.orientation, h.recorded, h.protection, rfl, fun image himage => ?_⟩
    rw [hnone] at himage
    cases himage

/-- A reset takes the buffers of the source back. -/
theorem reset_due {d₀ : Device} (hshown : k.Shown i.layers)
    (hsource : d₀.source.reqbufs = true → r.reset.reqbufs.source = true)
    (htarget : d₀.target.Spared (wanted tables i).target true r.reset.reqbufs.target)
    (hdue : resetRequired i d.source.mCurrentCrop d.target.mCurrentCrop d.rest
      d.orientation.mTransformChanged = true)
    (h : Found tables i k p d₀ d) :
    Ends (resetMode tables i r.reset d) (Between tables i.layers i.canvas) (Reset tables i r p) := by
  obtain ⟨⟨hsknown, hsfree, hssetup⟩, ⟨htknown, htfree, htsetup⟩, horient, hrecorded, hprotection, hrest, hrest₀⟩ := h
  have hsreq : d.source.reqbufs = true → r.reset.reqbufs.source = true := by
    simp only [setup, Prod.mk.injEq] at hssetup
    rw [hssetup.1]
    exact hsource
  -- Nothing of the source is kept, so that the record is not alive.
  have hskept : SourceReset tables i { k with live := false }
      (d.source.resetMode r.reset.streamoff.source r.reset.reqbufs.source).1 := by
    refine ⟨resetMode_kept _ _ hsknown.sound.agrees hsfree fun hreq => .inl (hsreq hreq), fun hreq => ?_⟩
    rw [resetMode_freed _ hsreq] at hreq
    cases hreq
  have htkept : TargetReset tables i { k with live := false }
      (d.target.resetMode r.reset.streamoff.target r.reset.reqbufs.target).1 :=
    ⟨(htarget.of_setup htsetup).reset _ htknown.sound.agrees htfree, fun hl => absurd hl Bool.false_ne_true⟩
  have hheld : Scaler.Holds (SourceReset tables i { k with live := false })
      (TargetReset tables i { k with live := false }) (fun o => o.Shows i.layer.mTransform) p
      (fun c b => c = d.csc ∧ b = d.rest)
      (({ d with orientation := { d.orientation with mTransformChanged := false } } : Device).resetModes
        r.reset) :=
    ⟨hskept, htkept, ⟨horient.hflip, horient.vflip, horient.rotate⟩, hrecorded, hprotection, rfl, rfl⟩
  rw [resetMode, if_pos hdue]
  refine (configureCSC_ends r.reset.csc hheld).mono (fun d' h' => ?_) fun d' h' => ?_
  · refine ⟨{ k with live := false }, hshown, p, h'.mono (fun _ hq => hq.known) (fun _ hq => hq.known)
      (fun _ _ => trivial) fun c b hr => ?_⟩
    obtain ⟨rfl, hkeeps⟩ := hr
    refine ⟨hrest.before, fun hcount hcsettled => ?_, fun hl => absurd hl Bool.false_ne_true⟩
    have hfirst := hshown.first hcount
    have hbefore := hrest.csc hcount hcsettled
    rw [hfirst] at hbefore
    exact hfirst ▸ hkeeps hbefore
  · refine ⟨{ k with live := false }, hshown, h'.mono (fun _ hq => hq) (fun _ hq => hq) (fun _ ho => ho)
      fun c b hr => ?_⟩
    obtain ⟨rfl, hconverts⟩ := hr
    exact ⟨hrest.before, hconverts, fun hl => absurd hl Bool.false_ne_true⟩

/-- **The first reset.** -/
theorem resetMode_ends {d₀ : Device} (hlayer : i.layer.isSettingOkay = true) (hcanvas : i.canvas.isSettingOkay = true)
    (hover : ∀ l ∈ i.upper, l.isSettingOkay = true) (hshown : k.Shown i.layers)
    (hsource : d₀.source.reqbufs = true →
      if resetDue i d₀ then r.reset.reqbufs.source = true else SourceStays i d₀ r)
    (htarget : d₀.target.Spared (wanted tables i).target (resetDue i d₀) r.reset.reqbufs.target)
    (hchanged : d.orientation.mTransformChanged =
      decide (d₀.orientation.mCurrentTransform ^^^ i.layer.mTransform ≠ 0))
    (h : Found tables i k p d₀ d) :
    Ends (resetMode tables i r.reset d) (Between tables i.layers i.canvas) (Reset tables i r p) := by
  have hdue : resetRequired i d.source.mCurrentCrop d.target.mCurrentCrop d.rest
      d.orientation.mTransformChanged = resetDue i d₀ := by
    have hssetup := h.source.2.2
    have htsetup := h.target.2.2
    simp only [setup, Prod.mk.injEq] at hssetup htsetup
    rw [resetDue, hssetup.2.2.1, htsetup.2.2.1, h.rest.2, hchanged]
  cases hd₀ : resetDue i d₀ with
  | true =>
    rw [hd₀] at hsource htarget hdue
    exact reset_due hshown (fun hreq => by simpa using hsource hreq) htarget hdue h
  | false =>
    rw [hd₀] at hsource htarget hdue
    rw [resetMode, hdue, if_neg Bool.false_ne_true]
    exact ends_success (reset_stays hlayer hcanvas hover hshown (fun hreq => by simpa using hsource hreq)
      htarget hdue h)

/-! ### From the reset to the buffers -/

/-- The conversion and the blending once the source is set up. -/
structure RestSet (tables : FormatTables) (i : Images) (c : Csc) (b : Blend) : Prop where
  csc : Converts tables i.layer.imageType i.canvas.imageType c
  blended : Blended i b
  op : b.op = some (blendOp i.upper)

/-- The middle of an execute, once the source is set up. -/
abbrev Midway (tables : FormatTables) (i : Images) (p : Bool) (A B : Side Format → Prop) : Device → Prop :=
  Scaler.Holds A B (fun o => o.Shows i.layer.mTransform) p (RestSet tables i)

/-- The record of the images. -/
def Images.record (i : Images) : Record := ⟨i.layer.imageType, i.upperType, i.layer.mTargetRect.pos, i.upper.isSome⟩

theorem RestSet.known {canvas : AcrylicCanvas} (h : RestSet tables i c b) (live : Bool)
    (layers : List AcrylicLayer) (hcanvas : canvas.imageType = i.canvas.imageType) :
    RestKnown tables layers canvas { i.record with live := live } c b where
  before := by
    rw [h.blended.before]
    exact Option.isSome_map.symm
  csc _ _ := hcanvas ▸ h.csc
  blend _ upper hover := by
    obtain ⟨l, hl, rfl⟩ := Option.map_eq_some_iff.mp hover
    obtain ⟨-, hsize, hpos⟩ := h.blended.blend l hl
    rw [h.blended.crop l hl]
    exact ⟨hpos, hsize⟩

theorem setBlendOp_ends (ok : Bool) (h : Reset tables i r p d) :
    Ends (setBlendOp i ok d) (Between tables i.layers i.canvas)
      (fun d' => Reset tables i r p d' ∧ d'.rest.op = some (blendOp i.upper)) := by
  cases ok with
  | false => exact ends_failure h.between
  | true =>
    obtain ⟨k, hshown, h⟩ := h
    refine ends_success ⟨⟨k, hshown, h.source, h.target, h.orientation, h.recorded, h.protection, h.rest.before,
      h.rest.csc, fun hl => ?_⟩, rfl⟩
    obtain ⟨hcurrent, hblended, hcrop⟩ := h.rest.live hl
    exact ⟨hcurrent, ⟨hblended.before, hblended.blend, hblended.alpha, hblended.crop⟩, hcrop⟩

/-- What setting the blending up changes, and what it is for. -/
theorem setBlend_ends (i : Images) (ok alpha : Bool) (b : Blend) :
    Ends (setBlend i ok alpha b) (fun b' => b'.mBlendingBefore = b.mBlendingBefore ∧ b'.op = b.op)
      (fun b' => (b'.mBlendingBefore = b.mBlendingBefore ∧ b'.op = b.op) ∧ Blended i (recordBlend i b')) := by
  unfold setBlend
  split
  · rename_i hnone
    refine ends_success ⟨⟨rfl, rfl⟩, rfl, fun l hl => ?_, fun hsome => ?_, fun l hl => ?_⟩
    · rw [hnone] at hl
      cases hl
    · rw [hnone] at hsome
      cases hsome
    · rw [hnone] at hl
      cases hl
  · rename_i upper hover
    cases ok with
    | false => exact ends_failure ⟨rfl, rfl⟩
    | true =>
      cases alpha with
      | false => exact ends_failure ⟨rfl, rfl⟩
      | true =>
        refine ends_success ⟨⟨rfl, rfl⟩, rfl, fun l hl => ?_, fun _ => rfl, fun l hl => ?_⟩
        · obtain rfl := Option.some.inj (hover.symm.trans hl)
          exact ⟨rfl, rfl, rfl⟩
        · obtain rfl := Option.some.inj (hover.symm.trans hl)
          simp only [recordBlend, hover]

/-- After the source was set up: it has no buffers, or what was recorded for it is still right. -/
def SourceSet (tables : FormatTables) (i : Images) (r : Replies) (p : Bool) (d : Device) : Prop :=
  ∃ live : Bool, (live = true → r.sCrop.target = true) ∧
    Midway tables i p
      (fun q => q.Configured (wanted tables i).source ∧
        (q.reqbufs = true → i.upper.isSome = true → live = true))
      (fun q => q.Kept (wanted tables i).target ∧
        (live = true → q.mCurrentCrop.pos = i.layer.mTargetRect.pos)) d

theorem changeSource_ends (h : Reset tables i r p d) (hop : d.rest.op = some (blendOp i.upper)) :
    Ends (changeSource tables i r d) (Between tables i.layers i.canvas) (SourceSet tables i r p) := by
  obtain ⟨k, hshown, h⟩ := h
  unfold changeSource
  by_cases hreq : d.source.reqbufs = true
  · rw [if_pos hreq]
    obtain ⟨hfirst, hsecond, hlive⟩ := h.source.stays hreq
    have hblended : Blended i d.rest := by
      refine ⟨?_, fun l hl => ?_, fun hsome => ?_, fun l hl => ?_⟩
      · rw [h.rest.before, hsecond, Images.upperType, Option.isSome_map]
      · exact (h.rest.live (hlive (Option.isSome_of_mem hl))).2.1.blend l hl
      · exact (h.rest.live (hlive hsome)).2.1.alpha hsome
      · exact (h.rest.live (hlive (Option.isSome_of_mem hl))).2.1.crop l hl
    refine ends_success ⟨k.live, fun hl => (h.rest.live hl).2.2, ⟨h.source.kept.configured hreq, fun _ => hlive⟩,
      ⟨h.target.kept, fun hl => ?_⟩, h.orientation, h.recorded, h.protection, h.rest.csc, hblended, hop⟩
    exact (h.target.pos hl).trans (h.rest.live hl).1.target
  · rw [if_neg hreq]
    have hfreed : ∀ q : Side Format, q.Kept (wanted tables i).source → q.reqbufs = false →
        ∀ k : Record, SourceKnown tables k q := fun q hq hq' k =>
      ⟨⟨hq.agrees, fun h' => nomatch hq'.symm.trans h'⟩, fun h' => nomatch hq'.symm.trans h'⟩
    have hreq' : d.source.reqbufs = false := Bool.not_eq_true _ ▸ hreq
    -- Until the blending is recorded, the record is the old one.
    have hold : ∀ b : Blend, b.mBlendingBefore = d.rest.mBlendingBefore →
        Between tables i.layers i.canvas ({ d with rest := b } : Device) := fun b hb =>
      ⟨{ k with live := false }, hshown, p, hfreed _ h.source.kept hreq' _,
        ⟨h.target.known.sound, fun hl => nomatch hl⟩, trivial, h.recorded, h.protection,
        ⟨hb.trans h.rest.before, fun hcount _ => hshown.first hcount ▸ h.rest.csc, fun hl => nomatch hl⟩⟩
    refine Ends.andThen (P := fun d' : Device => ∃ b : Blend, d' = { d with rest := b } ∧
      (b.mBlendingBefore = d.rest.mBlendingBefore ∧ b.op = d.rest.op) ∧ Blended i (recordBlend i b))
      ((setBlend_ends i r.blend r.alpha d.rest).within (fun b hb => hold b hb.1)
        fun b hb => ⟨b, rfl, hb⟩) fun d₁ h₁ => ?_
    obtain ⟨b, rfl, ⟨hbefore, hbop⟩, hblended⟩ := h₁
    split
    · exact ends_failure (hold b hbefore)
    · have hset : Midway tables i p
          (fun q => q.Kept (wanted tables i).source ∧ q.reqbufs = false)
          (fun q => q.Kept (wanted tables i).target)
          ({ d with rest := recordBlend i b } : Device) :=
        ⟨⟨h.source.kept, hreq'⟩, h.target.kept, h.orientation, h.recorded, h.protection, h.rest.csc, hblended,
          hbop.trans hop⟩
      have hchange := changeMode_ends r.sFmt.source r.sCrop.source h.source.kept
      have hsame := (changeMode_reqbufs (wanted tables i).source r.sFmt.source r.sCrop.source d.source).trans hreq'
      have hends : Ends (d.source.changeMode (wanted tables i).source r.sFmt.source r.sCrop.source)
          (fun q => q.Kept (wanted tables i).source ∧ q.reqbufs = false)
          (fun q => q.Configured (wanted tables i).source ∧ q.reqbufs = false) :=
        ⟨fun hr => ⟨hchange.fail hr, hsame⟩, fun hr => ⟨hchange.ok hr, hsame⟩⟩
      refine (hset.onSource hends).mono (fun d' h' => ?_) fun d' h' => ?_
      · exact ⟨{ i.record with live := false }, Record.shown_read ⟨rfl, rfl, rfl⟩, p,
          h'.mono (fun q hq => hfreed q hq.1 hq.2 _)
            (fun q hq => ⟨hq.sound fun _ => rfl, fun hl => nomatch hl⟩) (fun _ _ => trivial)
            fun c b hr => hr.known false _ rfl⟩
      · exact ⟨false, (fun hl => nomatch hl), h'.mono
          (fun q hq => ⟨hq.1, fun hq' => nomatch hq.2.symm.trans hq'⟩)
          (fun q hq => ⟨hq, fun hl => nomatch hl⟩) (fun _ ho => ho) fun _ _ hr => hr⟩

/-- Whatever is known of the images is known of the record, for all layers that show it. -/
theorem Midway.between_of {A B : Side Format → Prop} {layers : List AcrylicLayer} {canvas : AcrylicCanvas}
    (live : Bool) (h : Midway tables i p A B d) (hshown : i.record.Shown layers)
    (hcanvas : canvas.imageType = i.canvas.imageType)
    (hA : ∀ q, A q → q.Sound (fun f => f = (wanted tables i).source.format) ∧
      (q.reqbufs = true → i.upper.isSome = true → live = true))
    (hB : ∀ q, B q → q.Sound (fun f => f = (wanted tables i).target.format) ∧
      (live = true → q.mCurrentCrop.pos = i.layer.mTargetRect.pos)) :
    Between tables layers canvas d := by
  refine ⟨{ i.record with live := live }, hshown, p, h.mono (fun q hq => ?_)
    (fun q hq => ?_) (fun _ _ => trivial) fun c b hr => hr.known live _ hcanvas⟩
  · refine ⟨(hA q hq).1, fun hreq hover => (hA q hq).2 hreq ?_⟩
    exact (Option.isSome_map (x := i.upper)).symm.trans hover
  · refine ⟨(hB q hq).1.mono fun f hf _ => ?_, (hB q hq).2⟩
    rw [hcanvas]
    exact hf

theorem Midway.between {A B : Side Format → Prop} (live : Bool) (h : Midway tables i p A B d)
    (hA : ∀ q, A q → q.Sound (fun f => f = (wanted tables i).source.format) ∧
      (q.reqbufs = true → i.upper.isSome = true → live = true))
    (hB : ∀ q, B q → q.Sound (fun f => f = (wanted tables i).target.format) ∧
      (live = true → q.mCurrentCrop.pos = i.layer.mTargetRect.pos)) :
    Between tables i.layers i.canvas d :=
  h.between_of live (Record.shown_read ⟨rfl, rfl, rfl⟩) rfl hA hB

theorem changeTarget_ends (h : SourceSet tables i r p d) :
    Ends (changeTarget tables i r d) (Between tables i.layers i.canvas)
      (Midway tables i p (Configured (wanted tables i).source) (Configured (wanted tables i).target)) := by
  obtain ⟨live, hcrop, h⟩ := h
  have hchange := changeMode_ends r.sFmt.target r.sCrop.target h.target.1
  have hsource : ∀ q : Side Format, (q.Configured (wanted tables i).source ∧
      (q.reqbufs = true → i.upper.isSome = true → live = true)) →
      q.Sound (fun f => f = (wanted tables i).source.format) ∧
        (q.reqbufs = true → i.upper.isSome = true → live = true) :=
    fun q hq => ⟨hq.1.kept.sound rfl, hq.2⟩
  -- If what was recorded for the source is to stay right, only the format can be refused.
  have hpos : live = true →
      (d.target.changeMode (wanted tables i).target r.sFmt.target r.sCrop.target).2 = false →
      (d.target.changeMode (wanted tables i).target r.sFmt.target r.sCrop.target).1.mCurrentCrop.pos =
        i.layer.mTargetRect.pos := by
    intro hl hfail
    rw [hcrop hl] at hfail ⊢
    rw [changeMode_unchanged r.sFmt.target hfail]
    exact h.target.2 hl
  unfold changeTarget
  by_cases hcond : (!d.target.reqbufs && r.sFmt.target && !r.sCrop.target && i.upper.isSome) = true
  · rw [if_pos hcond]
    simp only [Bool.and_eq_true, Bool.not_eq_true'] at hcond
    obtain ⟨⟨⟨hreq, hfmt⟩, hrefused⟩, -⟩ := hcond
    have hlive : live = false := by
      cases live with
      | false => rfl
      | true => exact nomatch hrefused.symm.trans (hcrop rfl)
    have hfail : (d.target.changeMode (wanted tables i).target r.sFmt.target r.sCrop.target).2 = false := by
      rw [changeMode, hreq, hfmt, hrefused]
      rfl
    refine ⟨fun _ => ?_, fun hr => nomatch hfail.symm.trans hr⟩
    refine ⟨{ i.record with live := false }, Record.shown_read ⟨rfl, rfl, rfl⟩, p,
      ⟨(hsource _ h.source).1, fun hq hover => ?_⟩, ⟨(hchange.fail hfail).sound fun _ => rfl,
        fun hl => nomatch hl⟩, trivial, h.recorded, h.protection, ⟨(h.rest.known false i.layers rfl).before,
        (h.rest.known false i.layers rfl).csc, fun hl => nomatch hl⟩⟩
    exact hlive ▸ h.source.2 hq ((Option.isSome_map (x := i.upper)).symm.trans hover)
  · rw [if_neg hcond]
    have hends : Ends (d.target.changeMode (wanted tables i).target r.sFmt.target r.sCrop.target)
        (fun q => q.Kept (wanted tables i).target ∧
          (live = true → q.mCurrentCrop.pos = i.layer.mTargetRect.pos))
        (Configured (wanted tables i).target) :=
      ⟨fun hr => ⟨hchange.fail hr, fun hl => hpos hl hr⟩, hchange.ok⟩
    refine (h.onTarget hends).mono (fun d' h' => ?_) fun d' h' => ?_
    · exact Midway.between live h' hsource fun q hq => ⟨hq.1.sound rfl, hq.2⟩
    · exact h'.mono (fun q hq => hq.1) (fun q hq => hq) (fun _ ho => ho) fun _ _ hr => hr

theorem known_source {q : Side Format} (h : q.Sound fun f => f = (wanted tables i).source.format) :
    q.Sound (fun f => f = (wanted tables i).source.format) ∧
      (q.reqbufs = true → i.upper.isSome = true → i.upper.isSome = true) := ⟨h, fun _ hover => hover⟩

theorem known_target {q : Side Format} (h : q.Sound fun f => f = (wanted tables i).target.format)
    (hrect : q.mCurrentCrop = (wanted tables i).target.rect) :
    q.Sound (fun f => f = (wanted tables i).target.format) ∧
      (i.upper.isSome = true → q.mCurrentCrop.pos = i.layer.mTargetRect.pos) := by
  refine ⟨h, fun _ => ?_⟩
  rw [hrect]
  exact targetArea_pos i.layer i.canvas

/-- **Up to the buffers.** -/
theorem prepare_ends (hlayer : i.layer.isSettingOkay = true) (hcanvas : i.canvas.isSettingOkay = true)
    (hover : ∀ l ∈ i.upper, l.isSettingOkay = true) (h : Between tables i.layers i.canvas d)
    (hmeets : (d.source.qbuf = true → r.dqbuf.source = true) → (d.target.qbuf = true → r.dqbuf.target = true) →
      Meets tables i d r) :
    Ends (prepare tables i r d) (Between tables i.layers i.canvas)
      (fun d' => Midway tables i i.canvas.isProtected (Prepared (wanted tables i).source)
        (Prepared (wanted tables i).target) d' ∧ Meets tables i d r) := by
  obtain ⟨k, hshown, p, hp⟩ := h
  -- The record of the device is compared with what was there before the buffers came back.
  have hd : Scaler.Holds (Sound fun f => f = sourceFormat tables k.first k.second)
      (Sound fun f => i.canvas.typeSettled = true → f = format tables i.canvas.imageType)
      (fun o => o = d.orientation) p
      (fun c b => RestKnown tables i.layers i.canvas k c b ∧ b = d.rest) d :=
    ⟨hp.source.sound, hp.target.sound, rfl, hp.recorded, hp.protection, hp.rest, rfl⟩
  unfold prepare
  refine Ends.andThen ((hd.dequeueBuffer r.dqbuf).mono (fun d' h' => ⟨k, hshown, p,
    h'.mono (fun q hq => hp.source.of_setup hq.1 hq.2) (fun q hq => hp.target.of_setup hq.1 hq.2)
      (fun _ _ => trivial) fun _ _ hr => hr.1⟩) fun _ h' => h') fun d₁ h₁ => ?_
  have hm := hmeets h₁.source.2 h₁.target.2
  have h₁' : Scaler.Holds
      (fun q => SourceKnown tables k q ∧ q.qbuf = false ∧ q.setup = d.source.setup)
      (fun q => TargetKnown tables i.canvas k q ∧ q.qbuf = false ∧ q.setup = d.target.setup)
      (fun o => o = d.orientation) p
      (fun c b => RestKnown tables i.layers i.canvas k c b ∧ b = d.rest) d₁ :=
    h₁.mono (fun q hq => ⟨hp.source.of_setup hq.1.1 hq.1.2.2, hq.1.2⟩)
      (fun q hq => ⟨hp.target.of_setup hq.1.1 hq.1.2.2, hq.1.2⟩) (fun _ ho => ho) fun _ _ hr => hr
  refine Ends.andThen ((h₁'.setTransform r.transform (h₁.orientation ▸ hm.transform)).mono
    (fun d' h' => ⟨k, hshown, p, h'.mono (fun _ hq => hq.1) (fun _ hq => hq.1) (fun _ ho => ho)
      fun _ _ hr => hr.1⟩) fun _ h' => h') fun d₂ h₂ => ?_
  obtain ⟨hshows, hchanged, hpass⟩ := h₂.orientation
  rw [h₁.orientation] at hchanged hpass
  refine Ends.andThen (resetMode_ends hlayer hcanvas hover hshown (hm.source hpass) (hm.target hpass) hchanged
    ⟨h₂.source, h₂.target, hshows, h₂.recorded, h₂.protection, h₂.rest⟩) fun d₃ h₃ => ?_
  refine Ends.andThen (setBlendOp_ends r.blendOp h₃) fun d₄ h₄ => ?_
  refine Ends.andThen (changeSource_ends h₄.1 h₄.2) fun d₅ h₅ => ?_
  refine Ends.andThen (changeTarget_ends h₅) fun d₆ h₆ => ?_
  have hbetween : ∀ (p : Bool) (d' : Device), Midway tables i p (Configured (wanted tables i).source)
      (Configured (wanted tables i).target) d' → Between tables i.layers i.canvas d' :=
    fun _ _ h' => Midway.between i.upper.isSome h' (fun _ hq => known_source (hq.kept.sound rfl))
      fun _ hq => known_target (hq.kept.sound rfl) hq.rect
  refine Ends.andThen ((h₆.protect r.protection).mono (hbetween p) fun _ h' => h') fun d₇ h₇ => ?_
  exact (h₇.prepareBuffers hm.cancelSource hm.cancelTarget).mono (hbetween _) fun _ h' => ⟨h', hm⟩

/-! ### The job -/

theorem queueSource_ends (r : Replies) {B : Side Format → Prop}
    (h : Midway tables i p (Prepared (wanted tables i).source) B d) :
    Ends (queueSource tables i r d) (Midway tables i p (Prepared (wanted tables i).source) B)
      (fun d' => Midway tables i p (Queued (wanted tables i).source) B d' ∧ r.qbuf.source = true) := by
  unfold queueSource
  split
  · exact ends_failure h
  · refine (h.onSource (Side.queueBuffer_ends r.qbuf.source h.source)).mono (fun d' h' => ?_)
      fun d' h' => ⟨?_, h'.source.2⟩
    · exact h'.mono (fun _ hq => hq.1) (fun _ hq => hq) (fun _ ho => ho) fun _ _ hr => hr
    · exact h'.mono (fun _ hq => hq.1) (fun _ hq => hq) (fun _ ho => ho) fun _ _ hr => hr

theorem resetRequired_marked {sourceCrop targetCrop : Hw2dRect} {changed : Bool}
    (h : (i.layer.typeMarked = true ∨ i.canvas.typeMarked = true) ∨ ∃ l ∈ i.upper, l.typeMarked = true) :
    resetRequired i sourceCrop targetCrop b changed = true := by
  rcases h with h | ⟨l, hl, hmarked⟩
  · have hmarked : (i.layer.typeMarked || i.canvas.typeMarked) = true := by
      rw [Bool.or_eq_true]
      exact h
    rw [resetRequired, hmarked, Bool.or_true, Bool.true_or, Bool.true_or]
  · have hchanged : isBlendingChanged i.upper b = true := by
      rw [Option.mem_def.mp hl, isBlendingChanged, hmarked, Bool.true_or, Bool.true_or]
    rw [resetRequired, hchanged, Bool.or_true, Bool.true_or]

/-- **The second reset** gives the buffer of the source back. -/
theorem resetMode_again
    (hmarked : (i.layer.typeMarked = true ∨ i.canvas.typeMarked = true) ∨ ∃ l ∈ i.upper, l.typeMarked = true)
    (hback : r.again.streamoff.source = true ∨ r.again.reqbufs.source = true)
    (h : Midway tables i p (Queued (wanted tables i).source) (Prepared (wanted tables i).target) d) :
    Midway tables i p (Kept (wanted tables i).source)
      (fun q => q.Kept (wanted tables i).target ∧ q.mCurrentCrop = (wanted tables i).target.rect)
      (resetMode tables i r.again d).1 := by
  have hreset : Midway tables i p (Kept (wanted tables i).source)
      (fun q => q.Kept (wanted tables i).target ∧ q.mCurrentCrop = (wanted tables i).target.rect)
      (({ d with orientation := { d.orientation with mTransformChanged := false } } : Device).resetModes
        r.again) := by
    refine ⟨resetMode_queued _ _ h.source hback, ⟨?_, ?_⟩, ⟨h.orientation.hflip, h.orientation.vflip,
      h.orientation.rotate⟩, h.recorded, h.protection, h.rest⟩
    · exact resetMode_kept _ _ h.target.configured.kept.agrees h.target.configured.kept.free fun _ =>
        .inr h.target.fits
    · exact (resetMode_crop _ _ d.target).trans h.target.configured.rect
  rw [resetMode, if_pos (resetRequired_marked hmarked)]
  refine ((configureCSC_ends r.again.csc hreset).mono (fun d' h' => ?_) fun d' h' => ?_).keeps
  · exact h'.mono (fun _ hq => hq) (fun _ hq => hq) (fun _ ho => ho) fun c b hr =>
      hr.1 ▸ ⟨hr.2 h.rest.csc, h.rest.blended, h.rest.op⟩
  · exact h'.mono (fun _ hq => hq) (fun _ hq => hq) (fun _ ho => ho) fun c b hr =>
      hr.1 ▸ ⟨hr.2, h.rest.blended, h.rest.op⟩

/-- The queues after a failure, and those of a job. -/
theorem queueBuffer_ends
    (hagain : r.qbuf.source = true → r.qbuf.target = false →
      ((i.layer.typeMarked = true ∨ i.canvas.typeMarked = true) ∨ ∃ l ∈ i.upper, l.typeMarked = true) ∧
        (r.again.streamoff.source = true ∨ r.again.reqbufs.source = true))
    (h : Midway tables i p (Prepared (wanted tables i).source) (Prepared (wanted tables i).target) d) :
    Ends (queueBuffer tables i r d)
      (Midway tables i p (Kept (wanted tables i).source)
        (fun q => q.Kept (wanted tables i).target ∧ q.mCurrentCrop = (wanted tables i).target.rect))
      (Midway tables i p (Done (wanted tables i).source) (Done (wanted tables i).target)) := by
  have hsource := queueSource_ends r h
  unfold queueBuffer
  generalize queueSource tables i r d = source at hsource ⊢
  obtain ⟨d₁, ok₁⟩ := source
  cases ok₁ with
  | false =>
    exact ends_failure ((hsource.fail rfl).mono (fun _ hq => hq.configured.kept)
      (fun _ hq => ⟨hq.configured.kept, hq.configured.rect⟩) (fun _ ho => ho) fun _ _ hr => hr)
  | true =>
    obtain ⟨h₁, hqbuf⟩ := hsource.ok rfl
    have htarget := h₁.onTarget (Side.queueBuffer_ends r.qbuf.target h₁.target)
    simp only [Bool.not_true, if_neg Bool.false_ne_true]
    generalize Scaler.onTarget (Side.queueBuffer (wanted tables i).target r.qbuf.target) d₁ = target
      at htarget ⊢
    obtain ⟨d₂, ok₂⟩ := target
    cases ok₂ with
    | false =>
      have h₂ := htarget.fail rfl
      obtain ⟨hmarked, hback⟩ := hagain hqbuf h₂.target.2
      exact ends_failure (resetMode_again hmarked hback
        (h₂.mono (fun _ hq => hq) (fun _ hq => hq.1) (fun _ ho => ho) fun _ _ hr => hr))
    | true =>
      have h₂ := htarget.ok rfl
      exact ends_success ⟨h₂.source.done, h₂.target.1.done, h₂.orientation, h₂.recorded, h₂.protection, h₂.rest⟩

end Follows

/-! ### Runs -/

section Runs

variable {tables : FormatTables} {min : Hw2dCoord} {s : AcrylicCompositorMSCL3830}
variable {i : Images} {d : Device} {p : Bool}

theorem created_invariant (h : Created s) : Invariant tables s := by
  obtain ⟨-, hlayers, hdevice⟩ := h
  refine ⟨by rw [hlayers]; exact Nat.zero_le 2, ?_⟩
  rw [hlayers, hdevice]
  -- Nothing is settled, so that any record of two layers does.
  refine ⟨⟨⟨⟨0, 0⟩, 0, 0⟩, some ⟨⟨0, 0⟩, 0, 0⟩, ⟨0, 0⟩, false⟩, remembers_nil, false, ?_⟩
  exact ⟨⟨created_sound, fun h => nomatch h⟩, ⟨created_sound, fun h => nomatch h⟩, trivial, rfl, rfl, rfl,
    (fun hcount => absurd hcount (by decide)), fun h => nomatch h⟩

theorem typeSettled_of_unset {c : AcrylicCanvas} (h : c.typeSet = false) : c.typeSettled = false := by
  rw [AcrylicCanvas.typeSettled, h]
  rfl

/-- A call to a setter settles nothing. -/
theorem countP_modify_le (call : LayerCall) (n : Nat) (layers : List AcrylicLayer) :
    (layers.modify n fun l => (call.perform l).1).countP (fun l => l.typeSettled) ≤
      layers.countP fun l => l.typeSettled := by
  induction layers generalizing n with
  | nil => rw [List.modify_nil]
  | cons l layers ih =>
    cases n with
    | zero =>
      rw [List.modify_zero_cons, List.countP_cons, List.countP_cons]
      refine Nat.add_le_add_left ?_ _
      split
      · rw [if_pos (call.perform_typeSettled l ‹_›).1]
      · exact Nat.zero_le _
    | succ n =>
      rw [List.modify_succ_cons, List.countP_cons, List.countP_cons]
      exact Nat.add_le_add_right (ih n) _

theorem Call.countP_le {a : Acrylic} (call : Call) :
    (call.perform 2 min a).mLayers.countP (fun l => l.typeSettled) ≤
      a.mLayers.countP fun l => l.typeSettled := by
  cases call with
  | canvas call => exact Nat.le_refl _
  | layer n call => exact countP_modify_le call n a.mLayers
  | createLayer memory =>
    simp only [Call.perform]
    split
    · exact Nat.le_refl _
    · rw [List.countP_append, List.countP_singleton, typeSettled_of_unset (newLayer_unset min memory)]
      exact Nat.le_refl _
  | removeLayer n => exact (List.eraseIdx_sublist a.mLayers n).countP_le

theorem Call.canvas_settled {a : Acrylic} (call : Call)
    (h : (call.perform 2 min a).mCanvas.typeSettled = true) :
    a.mCanvas.typeSettled = true ∧ (call.perform 2 min a).mCanvas.imageType = a.mCanvas.imageType := by
  cases call with
  | canvas call => exact call.perform_typeSettled h
  | layer n call => exact ⟨h, rfl⟩
  | createLayer memory =>
    revert h
    simp only [Call.perform]
    split <;> exact fun h => ⟨h, rfl⟩
  | removeLayer n => exact ⟨h, rfl⟩

theorem Call.layers_le {a : Acrylic} (call : Call) (h : a.mLayers.length ≤ 2) :
    (call.perform 2 min a).mLayers.length ≤ 2 := by
  cases call with
  | canvas call => exact h
  | layer n call =>
    simp only [Call.perform, List.length_modify]
    exact h
  | createLayer memory =>
    simp only [Call.perform]
    split
    · exact h
    · rename_i hfull
      rw [List.length_append, List.length_singleton]
      omega
  | removeLayer n => exact (List.eraseIdx_sublist a.mLayers n).length_le.trans h

theorem Call.perform_invariant (call : Call) (h : Invariant tables s) :
    Invariant tables { s with acrylic := call.perform 2 min s.acrylic } := by
  obtain ⟨hlayers, k, hshown, p, hp⟩ := h
  have hshown' : k.Shown (call.perform 2 min s.acrylic).mLayers := by
    refine call.perform_remembers 2 min (fun _ => typeSettled_of_unset) (fun call l hl => ?_) hshown
    exact call.perform_typeSettled l hl
  refine ⟨Call.layers_le call hlayers, k, hshown', p, hp.mono (fun _ hq => hq) (fun q hq => ?_)
    (fun _ ho => ho) fun c b hr => ?_⟩
  · refine ⟨hq.sound.mono fun f hf hsettled => ?_, hq.pos⟩
    obtain ⟨hbefore, himage⟩ := Call.canvas_settled call hsettled
    exact himage ▸ hf hbefore
  · refine ⟨hr.before, fun hcount hsettled => ?_, hr.blend⟩
    obtain ⟨hbefore, himage⟩ := Call.canvas_settled call hsettled
    exact himage ▸ hr.csc (hcount.trans (Call.countP_le call)) hbefore

theorem dequeueBuffer_between {layers : List AcrylicLayer} {canvas : AcrylicCanvas} (ok : Both Bool)
    (h : Between tables layers canvas d) : Between tables layers canvas (d.dequeueBuffer ok).1 := by
  obtain ⟨k, hshown, p, hp⟩ := h
  have hd : Scaler.Holds (Sound fun f => f = sourceFormat tables k.first k.second)
      (Sound fun f => canvas.typeSettled = true → f = format tables canvas.imageType)
      (fun _ => True) p (RestKnown tables layers canvas k) d :=
    ⟨hp.source.sound, hp.target.sound, trivial, hp.recorded, hp.protection, hp.rest⟩
  refine ((hd.dequeueBuffer ok).mono (fun d' h' => ?_) fun d' h' => ?_).keeps
  · exact ⟨k, hshown, p, h'.mono (fun q hq => hp.source.of_setup hq.1 hq.2)
      (fun q hq => hp.target.of_setup hq.1 hq.2) (fun _ ho => ho) fun _ _ hr => hr⟩
  · exact ⟨k, hshown, p, h'.mono (fun q hq => hp.source.of_setup hq.1.1 hq.1.2.2)
      (fun q hq => hp.target.of_setup hq.1.1 hq.1.2.2) (fun _ ho => ho) fun _ _ hr => hr⟩

/-- The marks are cleared when the record is that of the images. -/
theorem cleared_shown (i : Images) :
    i.record.Shown (i.layers.map fun l => { l with toAcrylicCanvas := l.clearSettingModified }) := by
  have htypes : i.record.types = i.layers.map fun l => l.imageType := by
    cases i with
    | mk layer upper canvas => cases upper <;> rfl
  rw [Record.Shown, htypes]
  exact remembers_cleared (f := fun l : AcrylicLayer => { l with toAcrylicCanvas := l.clearSettingModified })
    (fun _ => rfl) i.layers

theorem images_layers {a : Acrylic} {layer : AcrylicLayer} {layers : List AcrylicLayer}
    (ha : a.mLayers = layer :: layers) (hle : a.mLayers.length ≤ 2) :
    (Images.mk layer layers.head? a.mCanvas).layers = a.mLayers := by
  match layers with
  | [] => exact ha.symm
  | [upper] => exact ha.symm
  | _ :: _ :: _ =>
    rw [ha] at hle
    exact absurd hle (by simp)

/-- An execute of valid images. -/
theorem frame_invariant {r : Replies} {a : Acrylic} (hle : a.mLayers.length ≤ 2) (hlayers : i.layers = a.mLayers)
    (hcanvas : i.canvas = a.mCanvas) (hvalid : a.validateAllLayers r.supported = true)
    (hdevice : Between tables a.mLayers a.mCanvas d)
    (hmeets : (d.source.qbuf = true → r.dqbuf.source = true) → (d.target.qbuf = true → r.dqbuf.target = true) →
      Meets tables i d r) {result : AcrylicCompositorMSCL3830 × Bool}
    (hresult : result =
      if !(prepare tables i r d).2 || !r.fences then (⟨a, (prepare tables i r d).1⟩, false)
      else (⟨a.clearSettingModified, (queueBuffer tables i r (prepare tables i r d).1).1⟩,
        (queueBuffer tables i r (prepare tables i r d).1).2)) :
    Invariant tables result.1 ∧ (result.2 = true → Applied tables i result.1.device) := by
  have hokay := hvalid
  simp only [Acrylic.validateAllLayers, Bool.and_eq_true, List.all_eq_true] at hokay
  have hokays : ∀ l ∈ i.layers, l.isSettingOkay = true := fun l hl => hokay.1.1.2 l (hlayers ▸ hl)
  have hprepare := prepare_ends (hokays _ List.mem_cons_self) (hcanvas ▸ hokay.1.1.1)
    (fun l hl => hokays l (List.mem_cons_of_mem _ (Option.mem_toList.mpr hl)))
    (hlayers.symm ▸ hcanvas.symm ▸ hdevice) hmeets
  rw [hlayers, hcanvas] at hprepare
  subst hresult
  generalize prepare tables i r d = prepared at hprepare ⊢
  obtain ⟨d₁, ok₁⟩ := prepared
  cases ok₁ with
  | false => exact ⟨⟨hle, hprepare.fail rfl⟩, fun h => nomatch h⟩
  | true =>
    obtain ⟨h₁, hm⟩ := hprepare.ok rfl
    cases hfences : r.fences with
    | false =>
      refine ⟨⟨hle, ?_⟩, fun h => nomatch h⟩
      have hbetween := Midway.between i.upper.isSome h₁
        (fun _ hq => known_source (hq.configured.kept.sound rfl))
        fun _ hq => known_target (hq.configured.kept.sound rfl) hq.configured.rect
      rw [hlayers, hcanvas] at hbetween
      exact hbetween
    | true =>
      have hshown : i.record.Shown a.clearSettingModified.mLayers := by
        rw [Acrylic.clearSettingModified, ← hlayers]
        exact cleared_shown i
      have himage : a.clearSettingModified.mCanvas.imageType = i.canvas.imageType := by
        rw [hcanvas]
        rfl
      have hle' : a.clearSettingModified.mLayers.length ≤ 2 := by
        rw [Acrylic.clearSettingModified, List.length_map]
        exact hle
      have hqueue := queueBuffer_ends hm.again h₁
      simp only [Bool.not_true, Bool.or_self, if_neg Bool.false_ne_true]
      generalize queueBuffer tables i r d₁ = queued at hqueue ⊢
      obtain ⟨d₂, ok₂⟩ := queued
      cases ok₂ with
      | false =>
        refine ⟨⟨hle', ?_⟩, fun h => nomatch h⟩
        exact (hqueue.fail rfl).between_of i.upper.isSome hshown himage
          (fun _ hq => known_source (hq.sound rfl)) fun _ hq => known_target (hq.1.sound rfl) hq.2
      | true =>
        have h₂ := hqueue.ok rfl
        refine ⟨⟨hle', h₂.between_of i.upper.isSome hshown himage (fun _ hq => known_source (hq.sound rfl))
          fun _ hq => known_target (hq.sound rfl) hq.rect⟩, fun _ => ?_⟩
        exact {
          sourceFormat := h₂.source.format
          targetFormat := h₂.target.format
          sourceCrop := h₂.source.crop
          targetCrop := h₂.target.crop
          transform := h₂.orientation
          csc := fun image himage => by
            rw [h₂.rest.csc image himage, imageRange_eq (hm.range image himage)]
          op := h₂.rest.op
          blend := h₂.rest.blended.blend
          alpha := h₂.rest.blended.alpha
          sourceMemory := h₂.source.memory
          upperMemory := fun l hl => h₂.source.memory.trans (congrArg some (hm.memory l hl).symm)
          targetMemory := h₂.target.memory }

/-- **One execute.** -/
theorem execute_invariant {r : Replies} (h : Invariant tables s) (hclear : Clear tables s (.execute r)) :
    Invariant tables (s.execute tables r).1 ∧
      ((s.execute tables r).2 = true → ∀ i ∈ images s, Applied tables i (s.execute tables r).1.device) := by
  obtain ⟨a, d⟩ := s
  obtain ⟨hle, hdevice⟩ := h
  rw [AcrylicCompositorMSCL3830.execute]
  split
  · exact ⟨⟨hle, hdevice⟩, fun h => nomatch h⟩
  · rename_i layer layers hlayers
    dsimp only at hlayers hle hdevice ⊢
    have hi : images ⟨a, d⟩ = some ⟨layer, layers.head?, a.mCanvas⟩ := by
      rw [images, hlayers]
      rfl
    split
    · exact ⟨⟨hle, hdevice⟩, fun h => nomatch h⟩
    split
    · exact ⟨⟨hle, hdevice⟩, fun h => nomatch h⟩
    · rename_i hvalid
      replace hvalid : a.validateAllLayers r.supported = true := by simpa using hvalid
      obtain ⟨hinvariant, happlied⟩ := frame_invariant hle (images_layers hlayers hle) rfl hvalid hdevice
        (fun hs ht => hclear ⟨hvalid, hs, ht⟩ _ hi) rfl
      refine ⟨hinvariant, fun hok i hi' => ?_⟩
      obtain rfl := Option.some.inj (hi.symm.trans hi')
      exact happlied hok

theorem perform_invariant {op : Op} (h : Invariant tables s) (hclear : Clear tables s op) :
    Invariant tables (perform tables min s op) := by
  cases op with
  | user call => exact Call.perform_invariant call h
  | execute r => exact (execute_invariant h hclear).1
  | waitExecution ok => exact ⟨h.layers, dequeueBuffer_between ok h.device⟩

/-- **The jobs follow the settings.**  In a run of executes that stay clear, a job is done with the
    formats, areas, transform, conversion and blending of the images of the moment, and every buffer
    was queued with the type of memory that was requested for it. -/
theorem jobs_follow (tables : FormatTables) (min : Hw2dCoord) {s : AcrylicCompositorMSCL3830}
    (h : Reachable Created (guarded (Clear tables) (ofFun (perform tables min))) s) :
    (s.device.source.Agrees ∧ s.device.target.Agrees) ∧
      ∀ r, Clear tables s (.execute r) → (s.execute tables r).2 = true →
        ∀ i ∈ images s, Applied tables i (s.execute tables r).1.device := by
  have hinvariant : Invariant tables s := by
    refine h.invariant (fun s hs => created_invariant hs) fun s op s' hs hstep => ?_
    obtain ⟨hclear, rfl⟩ := hstep
    exact perform_invariant hs hclear
  obtain ⟨k, -, p, hp⟩ := hinvariant.device
  exact ⟨⟨hp.source.sound.agrees, hp.target.sound.agrees⟩, fun r hr => (execute_invariant hinvariant hr).2⟩

end Runs

/-! ### Two runs -/

section Examples

def rgbTables : FormatTables := ⟨id, fun _ => 0, fun format _ => format, fun _ => 0x11⟩

def unsetCanvas : AcrylicCanvas := ⟨⟨16, 16⟩, 0, 0, (0, 0, 0, 0), .MT_EMPTY, false, {}⟩

def unsetLayer : AcrylicLayer :=
  { unsetCanvas with
    mImageRect := ⟨⟨0, 0⟩, ⟨0, 0⟩⟩, mTargetRect := ⟨⟨0, 0⟩, ⟨0, 0⟩⟩, mTransform := 0, mBlendingMode := .NONE
    mPlaneAlpha := 255, votf := false }

def newCompositor : AcrylicCompositorMSCL3830 := ⟨⟨unsetCanvas, []⟩, { rest := {} }⟩

/-- An image of 64x64, for a layer or for the canvas. -/
def imageCalls : List ImageCall :=
  [.setImageDimension 64 64 true, .setImageType 1 0 true, .setImageBuffer .MT_DMABUF false true]

/-- A picture and what is blended over it, both over all of the target. -/
def settingOps : List Op :=
  [.user (.createLayer unsetLayer), .user (.createLayer unsetLayer)] ++
    imageCalls.map (fun c => .user (.layer 0 (.image c))) ++
    imageCalls.map (fun c => .user (.layer 1 (.image c))) ++
    imageCalls.map (fun c => .user (.canvas c)) ++ [.user (.layer 1 (.setCompositMode .PREMULT 255 true))]

def configured : AcrylicCompositorMSCL3830 := settingOps.foldl (perform rgbTables ⟨16, 16⟩) newCompositor

def configuredLayer (n : Nat) : AcrylicLayer := configured.acrylic.mLayers.getD n unsetLayer

def configuredImages : Images := ⟨configuredLayer 0, some (configuredLayer 1), configured.acrylic.mCanvas⟩

theorem configured_reachable :
    Reachable Created (guarded (Clear rgbTables) (ofFun (perform rgbTables ⟨16, 16⟩))) configured := by
  have hclear : ∀ op ∈ settingOps, ∀ s, Clear rgbTables s op := by
    intro op hop s
    have huser : ∃ call, op = .user call := by
      simp only [settingOps, imageCalls, List.map_cons, List.map_nil, List.mem_append, List.mem_cons,
        List.not_mem_nil, or_false] at hop
      rcases hop with ((((h | h) | h | h | h) | h | h | h) | h | h | h) | h <;> exact ⟨_, h⟩
    obtain ⟨call, rfl⟩ := huser
    trivial
  exact Reachable.run_guarded (.start ⟨rfl, rfl, rfl⟩) hclear

/-- The first job. -/
theorem configured_jobs_applied :
    (configured.execute rgbTables {}).2 = true ∧
      Applied rgbTables configuredImages (configured.execute rgbTables {}).1.device := by
  have himages : images configured = some configuredImages := rfl
  have hclear : Clear rgbTables configured (.execute {}) := by
    intro _ i hi
    obtain rfl := Option.some.inj (himages.symm.trans hi)
    exact ⟨⟨fun _ => by decide, fun _ => by decide, fun _ => by decide⟩, fun _ h => absurd h (by decide),
      fun _ h => absurd h (by decide), fun _ => rfl, fun _ => rfl, fun _ h => absurd h (by decide),
      fun image himage => absurd himage (by simp [FormatTables.cscCanvas, rgbTables]),
      fun l hl => Option.some.inj hl ▸ rfl⟩
  have hdone : (configured.execute rgbTables {}).2 = true := by decide +kernel
  exact ⟨hdone, (jobs_follow rgbTables ⟨16, 16⟩ configured_reachable).2 {} hclear hdone configuredImages rfl⟩

/-- After a job, the picture is to be half transparent. -/
def fadedOps : List Op :=
  settingOps ++ [.execute {}, .waitExecution (.all true), .user (.layer 0 (.setCompositMode .NONE 128 true))]

def fadedRun : AcrylicCompositorMSCL3830 := fadedOps.foldl (perform rgbTables ⟨16, 16⟩) newCompositor

/-- The next job is done with the alpha of the job before. -/
theorem faded_stays_opaque :
    Reachable Created (ofFun (perform rgbTables ⟨16, 16⟩)) fadedRun ∧ (fadedRun.execute rgbTables {}).2 = true ∧
      ¬∀ i ∈ images fadedRun, Applied rgbTables i (fadedRun.execute rgbTables {}).1.device := by
  refine ⟨Reachable.run (.start ⟨rfl, rfl, rfl⟩) fadedOps, by decide +kernel, fun h => ?_⟩
  have himages : (images fadedRun).isSome = true := by decide +kernel
  obtain ⟨i, hi⟩ := Option.isSome_iff_exists.mp himages
  have halpha := (h i hi).alpha
  have hseen : (images fadedRun).map (fun i => (i.upper.isSome, i.layer.mPlaneAlpha)) = some (true, 128) := by
    decide +kernel
  rw [hi] at hseen
  obtain ⟨hover, hwanted⟩ := Prod.mk.inj (Option.some.inj hseen)
  have hdriver : (fadedRun.execute rgbTables {}).1.device.rest.alpha = 255 := by decide +kernel
  rw [halpha hover, hwanted] at hdriver
  exact absurd hdriver (by decide)

end Examples

end ExynosHal.Mscl3830
