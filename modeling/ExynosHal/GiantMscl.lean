/-
  ExynosHal/GiantMscl.lean
  ========================
  **The giant scaler: how a job is cut into tasks for the hardware.**

  `GiantMsclImpl` of `giantmscl/giant_mscl_impl.cpp` and its `Buffer`.  The
  hardware takes images of up to 8K pixels a side and scales by a factor
  between 1/4 and 8, so a job is a chain of scaling stages, and a stage over a
  larger image is split in two along the axis.  The sizes stay far below 2^32
  and are natural numbers.
-/
import Mathlib.Algebra.Group.Nat.Defs
import ExynosHal.HalTransform

namespace ExynosHal.GiantMscl

open ExynosHal ExynosHal.HalTransform

/-! ### Images -/

def NR_PIXELS_8K : Nat := 8192
def NR_PIXELS_16K : Nat := 16384

/-- The values of `HAL_PIXEL_FORMAT_` that the scaler knows. -/
inductive PixelFormat where
  | YCBCR_422_I | YCRCB_420_SP | EXYNOS_YCbCr_420_SP_M | EXYNOS_YCrCb_420_SP_M | other (code : Nat)
deriving DecidableEq, Repr

def MSCL_FMT_NV12 : BitVec 32 := 0
def MSCL_FMT_NV21 : BitVec 32 := 16
def MSCL_FMT_YUYV : BitVec 32 := 10

def hal_to_dev_format_table : List (PixelFormat × BitVec 32) :=
  [(.YCBCR_422_I, MSCL_FMT_YUYV), (.YCRCB_420_SP, MSCL_FMT_NV21),
    (.EXYNOS_YCbCr_420_SP_M, MSCL_FMT_NV12), (.EXYNOS_YCrCb_420_SP_M, MSCL_FMT_NV21)]

def getDeviceFormat (halfmt : PixelFormat) : BitVec 32 :=
  ((hal_to_dev_format_table.find? (·.1 == halfmt)).map (·.2)).getD (~~~0)

structure Image where
  width : Nat
  height : Nat
  format : PixelFormat
deriving DecidableEq, Repr

def checkImageType (width height minw minh : Nat) (format : PixelFormat) : Bool :=
  if width &&& 1 ≠ 0 then false
  else if format ≠ .YCBCR_422_I ∧ height &&& 1 ≠ 0 then false
  else if width > NR_PIXELS_16K ∨ height > NR_PIXELS_16K then false
  else if width < minw ∨ height < minh then false
  else if width > NR_PIXELS_8K ∧ width % 4 ≠ 0 then false
  else if height > NR_PIXELS_8K ∧
      (if format ≠ .YCBCR_422_I then height % 4 ≠ 0 else height % 2 ≠ 0) then false
  else hal_to_dev_format_table.any (format == ·.1)

/-- The object between two calls; it stores only what `setSrc` and `setDst` have accepted. -/
structure GiantMsclImpl where
  mSrcImage : Image
  mDstImage : Image
  mTransform : BitVec 32
  src_ok : checkImageType mSrcImage.width mSrcImage.height 16 16 mSrcImage.format = true
  dst_ok : checkImageType mDstImage.width mDstImage.height 4 4 mDstImage.format = true
  transform_ok : mTransform &&& ~~~HAL_TRANSFORM_ROT_270 = 0

theorem zero_transform_ok : (0 : BitVec 32) &&& ~~~HAL_TRANSFORM_ROT_270 = 0 := by decide

/-- The constructor. -/
def GiantMsclImpl.new : GiantMsclImpl where
  mSrcImage := ⟨16, 16, .YCRCB_420_SP⟩
  mDstImage := ⟨4, 4, .YCRCB_420_SP⟩
  mTransform := 0
  src_ok := by decide
  dst_ok := by decide
  transform_ok := zero_transform_ok

def setSrc (g : GiantMsclImpl) (srcw srch : Nat) (fmt : PixelFormat) (transform : BitVec 32) :
    Bool × GiantMsclImpl :=
  if h : checkImageType srcw srch 16 16 fmt = true then
    if ht : transform &&& ~~~HAL_TRANSFORM_ROT_270 = 0 then
      (true, { g with
        mSrcImage := ⟨srcw, srch, fmt⟩, mTransform := transform, src_ok := h, transform_ok := ht })
    else (false, g)
  else (false, g)

def setDst (g : GiantMsclImpl) (dstw dsth : Nat) (fmt : PixelFormat) : Bool × GiantMsclImpl :=
  if h : checkImageType dstw dsth 4 4 fmt = true then
    (true, { g with mDstImage := ⟨dstw, dsth, fmt⟩, dst_ok := h })
  else (false, g)

/-! ### Buffers -/

structure Buffer where
  mBuffer : Int × Int := (-1, -1)
  mOffset : Nat × Nat := (0, 0)
  mHBitPP : Nat × Nat := (8, 8)
  mVBitPP : Nat × Nat := (8, 4)
  mCount : Nat := 0
deriving DecidableEq, Repr

/-- Plane `idx` of an array of two. -/
def plane {α : Type} (a : α × α) (idx : Nat) : α := if idx = 0 then a.1 else a.2

def Buffer.init (buffer : Int × Int) (count : Nat) (fmt : PixelFormat) (width height : Nat) : Buffer :=
  if fmt ≠ .YCBCR_422_I then
    { mBuffer := (buffer.1, if count > 1 then buffer.2 else buffer.1)
      mOffset := (0, if count > 1 then 0 else width * height)
      mCount := 2 }
  else
    { mBuffer := (buffer.1, -1), mHBitPP := (16, 0), mVBitPP := (8, 0), mCount := 1 }

/-- The constructor over the caller's buffers. -/
def Buffer.given (buffer : Int × Int) (img : Image) : Buffer :=
  let count := if img.format = .EXYNOS_YCbCr_420_SP_M ∨ img.format = .EXYNOS_YCrCb_420_SP_M then 2 else 1
  .init buffer count img.format img.width img.height

/-- The constructor that allocates; `fd` is the answer of the allocator. -/
def Buffer.bounce (fd : Int) (img : Image) : Buffer :=
  if fd ≥ 0 then .init (fd, -1) 1 img.format img.width img.height else {}

def Buffer.get (b : Buffer) (idx : Nat) : Int := if idx > 1 then -1 else plane b.mBuffer idx

def Buffer.getByteOffset (b : Buffer) (idx x_offset y_offset pixel_stride : Nat) : Nat :=
  if idx < b.mCount then
    let byte_stride := pixel_stride * plane b.mHBitPP idx / 8
    plane b.mOffset idx +
      (y_offset * plane b.mVBitPP idx * byte_stride + x_offset * plane b.mHBitPP idx) / 8
  else 0

/-! ### Stages -/

/-- `val & ~mask`. -/
def clearBits (val mask : Nat) : Nat := val - (val &&& mask)

def makeEven (val : Nat) : Nat := clearBits (val + 1) 1
def round_up (val factor : Nat) : Nat := clearBits (val + factor - 1) (factor - 1)
def is_aligned (val factor : Nat) : Bool := val &&& (factor - 1) == 0

/-- The next size along one axis, with the alignment of a split image and the one that `src`
    has to have when it is split. -/
def nextSize (src dst align factor : Nat) : Nat :=
  if src > dst then
    let target := max (makeEven (round_up src 4 / 4)) dst
    if src > NR_PIXELS_8K then round_up target align else target
  else
    let target := min (src * 8) dst
    -- An upscaling without a split comes first when `src` cannot be split.
    if target > NR_PIXELS_8K ∧ ¬is_aligned src factor then NR_PIXELS_8K else target

/-- The size of the image after the rotation. -/
def turnedSize (transform : BitVec 32) (img : Image) : Nat × Nat :=
  if rotates transform then (img.height, img.width) else (img.width, img.height)

/-- The target of the stage that starts with `source`. -/
def nextTarget (transform : BitVec 32) (source dst : Image) : Image :=
  let (srcWidth, srcHeight) := turnedSize transform source
  { width := nextSize srcWidth dst.width 4
      (if rotates transform ∧ source.format = .YCBCR_422_I then 2 else 4)
    height := nextSize srcHeight dst.height (if dst.format = .YCBCR_422_I then 2 else 4)
      (if ¬rotates transform ∧ source.format = .YCBCR_422_I then 2 else 4)
    format := dst.format }

/-! ### Tasks -/

/-- A corner of the plane, in signs with y upwards or as the place of a tile with y downwards. -/
abbrev TransformCoord := Int × Int

def denormalize (coord : TransformCoord) : TransformCoord :=
  ((coord.1 + 1).tdiv 2, (1 - coord.2).tdiv 2)

structure SquareMatrix where
  m0 : Int
  m1 : Int
  m2 : Int
  m3 : Int
deriving DecidableEq, Repr

namespace SquareMatrix

def identity : SquareMatrix := ⟨1, 0, 0, 1⟩

def invertY (m : SquareMatrix) : SquareMatrix :=
  { m with m1 := if m.m1 > 0 then -m.m1 else m.m1, m3 := if m.m3 < 0 then -m.m3 else m.m3 }

def invertX (m : SquareMatrix) : SquareMatrix :=
  { m with m0 := if m.m0 < 0 then -m.m0 else m.m0, m2 := if m.m2 > 0 then -m.m2 else m.m2 }

def multiplyAndDenormalize (m : SquareMatrix) (coord : TransformCoord) : TransformCoord :=
  denormalize (m.m0 * coord.1 + m.m1 * coord.2, m.m2 * coord.1 + m.m3 * coord.2)

end SquareMatrix

def mTransformMatrix : List SquareMatrix :=
  [⟨1, 0, 0, 1⟩, ⟨-1, 0, 0, 1⟩, ⟨1, 0, 0, -1⟩, ⟨-1, 0, 0, -1⟩,
    ⟨0, 1, -1, 0⟩, ⟨0, 1, 1, 0⟩, ⟨0, -1, -1, 0⟩, ⟨0, -1, 1, 0⟩]

/-- `setSrc` has seen to it that the index is below 8. -/
def TransformMatrix.get (transform : BitVec 32) : SquareMatrix :=
  mTransformMatrix.getD transform.toNat .identity

structure Task where
  mSource : Image
  mTarget : Image
  mTransform : BitVec 32
  mSrcBuffer : Buffer
  mDstBuffer : Buffer
  mSrcWidth : Nat
  mSrcHeight : Nat
  mDstWidth : Nat
  mDstHeight : Nat
  mSrcPlaneCoord : List TransformCoord
  mDstPlaneCoord : List TransformCoord
deriving DecidableEq, Repr

/-- The corners of the tiles that are cut, and the matrix for them. -/
def planes (transform : BitVec 32) (horizontal vertical : Bool) : List TransformCoord × SquareMatrix :=
  let transformMatrix := TransformMatrix.get transform
  if horizontal then
    if vertical then ([(-1, 1), (1, 1), (-1, -1), (1, -1)], transformMatrix)
    else ([(-1, 1), (1, 1)], transformMatrix.invertY)
  else if vertical then ([(-1, 1), (-1, -1)], transformMatrix.invertX)
  else ([(-1, 1)], .identity)

/-- Which axes of the source a stage splits: horizontally and vertically. -/
def splits (source target : Image) (transform : BitVec 32) : Bool × Bool :=
  let (dstWidth, dstHeight) := turnedSize transform target
  (source.width > NR_PIXELS_8K ∨ dstWidth > NR_PIXELS_8K,
    source.height > NR_PIXELS_8K ∨ dstHeight > NR_PIXELS_8K)

/-- The constructor `Task::Task`. -/
def Task.new (source target : Image) (srcbuf dstbuf : Buffer) (transform : BitVec 32) : Task :=
  let (horizontal, vertical) := splits source target transform
  let horizontal_div := if horizontal then 2 else 1
  let vertical_div := if vertical then 2 else 1
  let (dstWidth, dstHeight) := turnedSize transform target
  let (dstWidth, dstHeight) := (dstWidth / horizontal_div, dstHeight / vertical_div)
  let (coords, transformMatrix) := planes transform horizontal vertical
  { mSource := source
    mTarget := target
    mTransform := transform
    mSrcBuffer := srcbuf
    mDstBuffer := dstbuf
    mSrcWidth := source.width / horizontal_div
    mSrcHeight := source.height / vertical_div
    mDstWidth := if rotates transform then dstHeight else dstWidth
    mDstHeight := if rotates transform then dstWidth else dstHeight
    mSrcPlaneCoord := coords.map denormalize
    mDstPlaneCoord := coords.map transformMatrix.multiplyAndDenormalize }

def FRACTION_BITS : Nat := 20
def SCALE_FACTOR_1TO1 : Nat := 2 ^ FRACTION_BITS
def MSCL_ROTATE_270CCW : BitVec 32 := 3
def MSCL_FLIP_SHIFT : Nat := 2
def N_HTAPS : Nat := 8
def N_VTAPS : Nat := 4

def CMD_WH (width height : Nat) : BitVec 32 := BitVec.ofNat 32 width <<< 16 ||| BitVec.ofNat 32 height

structure mscl_buffer where
  count : Nat := 0
  dmabuf : List Int := []
  offset : List Nat := []
deriving DecidableEq, Repr

/-- `mscl_task`, the registers by their names in `mscl_cmd`. -/
structure mscl_task where
  MSCL_SRC_CFG : BitVec 32 := 0
  MSCL_SRC_WH : BitVec 32 := 0
  MSCL_SRC_SPAN : BitVec 32 := 0
  MSCL_SRC_YPOS : BitVec 32 := 0
  MSCL_SRC_CPOS : BitVec 32 := 0
  MSCL_DST_CFG : BitVec 32 := 0
  MSCL_DST_WH : BitVec 32 := 0
  MSCL_DST_SPAN : BitVec 32 := 0
  MSCL_DST_POS : BitVec 32 := 0
  MSCL_V_RATIO : BitVec 32 := 0
  MSCL_H_RATIO : BitVec 32 := 0
  MSCL_ROT_CFG : BitVec 32 := 0
  MSCL_SRC_YH_IPHASE : BitVec 32 := 0
  MSCL_SRC_YV_IPHASE : BitVec 32 := 0
  MSCL_SRC_CH_IPHASE : BitVec 32 := 0
  MSCL_SRC_CV_IPHASE : BitVec 32 := 0
  src : mscl_buffer
  dst : mscl_buffer
deriving DecidableEq, Repr

namespace Task

def scaleFactor (t : Task) (source to_base to_perpendicular : Nat) : Nat :=
  (source <<< FRACTION_BITS / (if rotates t.mTransform then to_perpendicular else to_base)) % 2 ^ 32

/-- The offset of a tile in pixels, from its place. -/
def srcOffset (t : Task) (coord : TransformCoord) : Int × Int :=
  (coord.1 * t.mSrcWidth, coord.2 * t.mSrcHeight)

def dstOffset (t : Task) (coord : TransformCoord) : Int × Int :=
  (coord.1 * t.mDstWidth, coord.2 * t.mDstHeight)

/-- `fill`, for the places of the tile in the source and in the target. -/
def fill (t : Task) (coord : TransformCoord × TransformCoord) : mscl_task :=
  let hScaleFactor := t.scaleFactor t.mSource.width t.mTarget.width t.mTarget.height
  let vScaleFactor := t.scaleFactor t.mSource.height t.mTarget.height t.mTarget.width
  let (srcHOffset, srcVOffset) := t.srcOffset coord.1
  let (dstHOffset, dstVOffset) := t.dstOffset coord.2
  let needHorizontalInterpolation := hScaleFactor ≠ SCALE_FACTOR_1TO1
  let needVerticalInterpolation := vScaleFactor ≠ SCALE_FACTOR_1TO1
  let horizontalDisplacement := if needHorizontalInterpolation ∧ srcHOffset > 0 then N_HTAPS / 2 else 0
  let verticalDisplacement := if needVerticalInterpolation ∧ srcVOffset > 0 then N_VTAPS / 2 else 0
  let yuyv := getDeviceFormat t.mSource.format = MSCL_FMT_YUYV
  let nv12 := getDeviceFormat t.mSource.format = MSCL_FMT_NV12
  let hPhase := if needHorizontalInterpolation ∧ srcHOffset > 0 then (N_HTAPS / 2) <<< FRACTION_BITS else 0
  let vPhase := if needVerticalInterpolation ∧ srcVOffset > 0 then (N_VTAPS / 2) <<< FRACTION_BITS else 0
  let horizontalInterpolationMargin :=
    if needHorizontalInterpolation ∧ t.mSrcWidth < t.mSource.width then
      N_HTAPS / 2 + (if srcHOffset = 0 then N_HTAPS / 2 else 0)
    else 0
  let verticalInterpolationMargin :=
    if needVerticalInterpolation ∧ t.mSrcHeight < t.mSource.height then
      N_VTAPS / 2 + (if srcVOffset = 0 then N_VTAPS / 2 else 0)
    else 0
  let flipflag := t.mTransform &&& ~~~HAL_TRANSFORM_ROT_90
  { MSCL_SRC_CFG := getDeviceFormat t.mSource.format
    MSCL_SRC_WH := CMD_WH (t.mSrcWidth + horizontalInterpolationMargin)
      (t.mSrcHeight + verticalInterpolationMargin)
    MSCL_SRC_SPAN := BitVec.ofNat 32 t.mSource.width |||
      (if ¬yuyv then BitVec.ofNat 32 t.mSource.width <<< 16 else 0)
    MSCL_DST_CFG := getDeviceFormat t.mTarget.format
    MSCL_DST_WH := CMD_WH t.mDstWidth t.mDstHeight
    MSCL_DST_SPAN := BitVec.ofNat 32 t.mTarget.width |||
      (if getDeviceFormat t.mTarget.format ≠ MSCL_FMT_YUYV then BitVec.ofNat 32 t.mTarget.width <<< 16 else 0)
    MSCL_V_RATIO := BitVec.ofNat 32 (if rotates t.mTransform then hScaleFactor else vScaleFactor)
    MSCL_H_RATIO := BitVec.ofNat 32 (if rotates t.mTransform then vScaleFactor else hScaleFactor)
    MSCL_ROT_CFG := flipflag <<< MSCL_FLIP_SHIFT |||
      (if rotates t.mTransform then MSCL_ROTATE_270CCW else 0)
    MSCL_SRC_YH_IPHASE := BitVec.ofNat 32 hPhase
    MSCL_SRC_CH_IPHASE := BitVec.ofNat 32 (if yuyv then hPhase / 2 else hPhase)
    MSCL_SRC_YV_IPHASE := BitVec.ofNat 32 vPhase
    MSCL_SRC_CV_IPHASE := BitVec.ofNat 32 (if nv12 then vPhase / 2 else vPhase)
    src := {
      count := t.mSrcBuffer.mCount
      dmabuf := (List.range t.mSrcBuffer.mCount).map t.mSrcBuffer.get
      -- The vertical displacement is halved from one plane to the next.
      offset := (List.range t.mSrcBuffer.mCount).map fun i =>
        t.mSrcBuffer.getByteOffset i (srcHOffset.toNat - horizontalDisplacement)
          (srcVOffset.toNat - verticalDisplacement / 2 ^ i) t.mSource.width }
    dst := {
      count := t.mDstBuffer.mCount
      dmabuf := (List.range t.mDstBuffer.mCount).map t.mDstBuffer.get
      offset := (List.range t.mDstBuffer.mCount).map fun i =>
        t.mDstBuffer.getByteOffset i dstHOffset.toNat dstVOffset.toNat t.mTarget.width } }

/-- The tasks of a stage while there is room for them. -/
def tasks (t : Task) : List (TransformCoord × TransformCoord) → Nat → Option (List mscl_task)
  | [], _ => some []
  | _ :: _, 0 => none
  | coord :: rest, count + 1 => (t.tasks rest count).map (t.fill coord :: ·)

end Task

/-! ### A job -/

/-- Where the loop of `generate` stands: the image reached, the transform that is still to be
    done, the buffers (the destination last), and the tasks written. -/
structure Progress where
  target : Image
  mTransform : BitVec 32
  mBufferStore : List Buffer
  srcBufferIdx : Nat
  tasks : List mscl_task
deriving DecidableEq, Repr

section Generate

variable (g : GiantMsclImpl) (alloc : Nat → Int) (count : Nat)

/-- Both buffers of the caller are stored before the loop. -/
def Progress.start (src_buffer dst_buffer : Int × Int) : Progress where
  target := g.mSrcImage
  mTransform := g.mTransform
  mBufferStore := [.given src_buffer g.mSrcImage, .given dst_buffer g.mDstImage]
  srcBufferIdx := 0
  tasks := []

/-- `generateTask`: the tasks of one stage, or 0 when the room runs out. -/
def generateTask (s : Progress) (source target : Image) (src_buf_idx dst_buf_idx : Nat) :
    Option Int × Progress :=
  let task := Task.new source target (s.mBufferStore.getD src_buf_idx {})
    (s.mBufferStore.getD dst_buf_idx {}) s.mTransform
  match task.tasks (task.mSrcPlaneCoord.zip task.mDstPlaneCoord) (count - s.tasks.length) with
  | none => (some 0, s)
  | some l =>
    (none, { s with
      target := target, mTransform := 0, srcBufferIdx := s.srcBufferIdx + 1, tasks := s.tasks ++ l })

/-- One round of the loop; `some` is what `generate` returns at once.  The buffer between two
    stages is allocated with the answer `alloc` gives for its place. -/
def generateStep (s : Progress) : Option Int × Progress :=
  let source := s.target
  let target := nextTarget s.mTransform source g.mDstImage
  if target ≠ g.mDstImage then
    let targetBufferIdx := s.srcBufferIdx + 1
    let buffer := Buffer.bounce (alloc targetBufferIdx) target
    let s := { s with mBufferStore := s.mBufferStore.insertIdx targetBufferIdx buffer }
    if buffer.get 0 < 0 then (some (-1), s)
    else generateTask count s source target s.srcBufferIdx targetBufferIdx
  else generateTask count s source target s.srcBufferIdx (s.mBufferStore.length - 1)

/-- The loop of `generate`; `none` when the fuel runs out. -/
def generateLoop : Nat → Progress → Option (Int × Progress)
  | 0, _ => none
  | fuel + 1, s =>
    match generateStep g alloc count s with
    | (some ret, s') => some (ret, s')
    | (none, s') =>
      if s'.target ≠ g.mDstImage then generateLoop fuel s' else some (s'.tasks.length, s')

def generate (fuel : Nat) (src_buffer dst_buffer : Int × Int) : Option (Int × Progress) :=
  generateLoop g alloc count fuel (.start g src_buffer dst_buffer)

/-- `run` up to the call of the kernel: the job for it, `none` when there is none. -/
def job (fuel : Nat) (src_buffer dst_buffer : Int × Int) : Option (Option (List mscl_task)) :=
  (generate g alloc 6 fuel src_buffer dst_buffer).map fun r =>
    if r.1 < 1 then none else some r.2.tasks

end Generate

end ExynosHal.GiantMscl
