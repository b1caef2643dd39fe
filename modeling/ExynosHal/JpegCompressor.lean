/-
  ExynosHal/JpegCompressor.lean
  =============================
  **The settings of the JPEG compressor and what the driver has of them.**

  `CHWJpegV4L2Compressor` of `libhwjpeg/hwjpeg-v4l2.cpp`.  The setters write to a
  cache; `Compress` pushes to the driver what is marked as not yet applied.  The
  driver answers every ioctl with success or failure, and the answers to one call
  are an argument of the call.

  `Settings` says what the successful calls asked for.  `Agrees` compares it with
  what the driver has, and `used` is what a compression started now would use.
-/
import Mathlib.Algebra.Group.Int.Defs
import Mathlib.Algebra.Group.Nat.Defs
import ExynosHal.TransitionSystem
import Mathlib.Logic.Function.Basic
import Mathlib.Tactic.Set

namespace ExynosHal.JpegCompressor

open ExynosHal.TransitionSystem
open Function (update)

/-! ### Data -/

/-- `v4l2_memory`, or none chosen yet. -/
inductive Memory where
  | unset
  | userptr
  | dmabuf
deriving DecidableEq, Repr

/-- The union `v4l2_plane::m` by the member that was written last. -/
inductive PlaneM where
  | userptr (p : Nat)
  | fd (n : Int)
deriving DecidableEq, Repr

structure Plane where
  m : PlaneM
  bytesused : Nat
  length : Nat
  data_offset : Nat
deriving DecidableEq, Repr

/-- `v4l2_pix_format_mplane`; there are as many planes as `sizeimage` fields. -/
structure PixFormat where
  pixelformat : Nat
  width : Nat
  height : Nat
  sizeimage : List Nat
deriving DecidableEq, Repr

def PixFormat.num_planes (f : PixFormat) : Nat := f.sizeimage.length

/-- The index of a control in `m_v4l2Controls`. -/
inductive Control where
  | chromFactor
  | qFactor
  | qFactor2
deriving DecidableEq, Repr

/-- The order in which `UpdateControls` looks at the bits. -/
def Control.all : List Control := [.chromFactor, .qFactor, .qFactor2]

def V4L2_JPEG_CHROMA_SUBSAMPLING_444 : Int := 0
def V4L2_JPEG_CHROMA_SUBSAMPLING_422 : Int := 1
def V4L2_JPEG_CHROMA_SUBSAMPLING_420 : Int := 2
def V4L2_JPEG_CHROMA_SUBSAMPLING_411 : Int := 3
def V4L2_JPEG_CHROMA_SUBSAMPLING_GRAY : Int := 5

def V4L2_PIX_FMT_RGB24 : Nat := 0x33424752

def EXYNOS_HWJPEG_AUXOPT_ENABLE_HWFC : BitVec 32 := 1#32 <<< 4
def EXYNOS_HWJPEG_AUXOPT_SRC_NOCACHECLEAN : BitVec 32 := 1#32 <<< 8
def EXYNOS_HWJPEG_AUXOPT_DST_NOCACHECLEAN : BitVec 32 := 1#32 <<< 9

def TO_MAIN_SIZE (val : Nat) : Nat := val &&& 0xFFFF
def TO_THUMB_SIZE (val : Nat) : Nat := (val &&& 0xFFFF) <<< 16
def TO_IMAGE_SIZE (main thumb : Nat) : Nat := TO_MAIN_SIZE main ||| TO_THUMB_SIZE thumb

def TO_SEC_IMG_SIZE (val : Nat) : Nat := (val >>> 16) &&& 0xFFFF

/-! ### The driver -/

/-- A buffer that was handed to the driver. -/
structure Queued where
  memory : Memory
  planes : List Plane
  noCacheClean : Bool
deriving DecidableEq, Repr

structure Driver where
  format : Option PixFormat
  /-- Width and height of the JPEG format of the capture queue. -/
  jpegSize : Option (Nat × Nat)
  control : Control → Option Int
  qtables : Option (List Nat)
  hwfc : Bool
  /-- The memory type for which buffers are requested. -/
  srcRequested : Option Memory
  dstRequested : Option Memory
  /-- The buffers queued last. -/
  src : Option Queued
  dst : Option Queued

/-- What the driver says about a format that it accepts: the sizes of the planes. -/
structure Device where
  sizeimage : Nat → Nat → Nat → List Nat

/-- The answer to `VIDIOC_TRY_FMT` and `VIDIOC_S_FMT`. -/
def Device.fill (dev : Device) (f : PixFormat) : PixFormat :=
  { f with sizeimage := dev.sizeimage f.pixelformat f.width f.height }

/-- Whether the ioctls of `ReqBufs` succeed. -/
structure ReqAnswers where
  src : Bool
  dst : Bool
  rollback : Bool
deriving DecidableEq, Repr

/-- Whether the ioctls of a call succeed, by the place they are made at.  The
    answers to `VIDIOC_STREAMOFF` are not looked at by the code. -/
structure Answers where
  tryFmt : Bool
  extCtrls : Bool
  stop : ReqAnswers
  sFmt : Bool
  sFmtJpeg : Bool
  request : ReqAnswers
  streamOnSrc : Bool
  streamOnDst : Bool
  qbufSrc : Bool
  qbufDst : Bool
  cancel : ReqAnswers
  dqbufSrc : Bool
  dqbufDst : Bool
  /-- `V4L2_BUF_FLAG_ERROR` of a dequeued buffer. -/
  bufError : Bool
deriving DecidableEq, Repr

/-! ### The compressor -/

structure State where
  format : PixFormat
  /-- `HWJPEG_FLAG_PIX_FMT`: set if an unapplied image format exists. -/
  pixFmt : Bool
  reqbufs : Bool
  streaming : Bool
  qbufOut : Bool
  qbufCap : Bool
  srcBuffer : Bool
  srcBuffer2 : Bool
  dstBuffer : Bool
  dstBuffer2 : Bool
  controls : Control → Int
  /-- `m_uiControlsToSet`. -/
  controlsToSet : Control → Bool
  auxFlags : BitVec 32
  enableHWFC : Bool
  srcPlanes : Nat → Plane
  srcMemory : Memory
  srcLength : Nat
  srcNoCacheClean : Bool
  /-- `m_v4l2DstPlanes[0]`. -/
  dstPlane : Plane
  dstMemory : Memory
  dstNoCacheClean : Bool
  driver : Driver

namespace State

/-- `GetAuxFlags() & EXYNOS_HWJPEG_AUXOPT_ENABLE_HWFC`. -/
def hwfcRequested (s : State) : Bool := s.auxFlags &&& EXYNOS_HWJPEG_AUXOPT_ENABLE_HWFC != 0#32

def isB2BCompression (s : State) : Bool :=
  TO_SEC_IMG_SIZE s.format.width + TO_SEC_IMG_SIZE s.format.height != 0

end State

def emptyPlane : Plane := ⟨.userptr 0, 0, 0, 0⟩

def initialDriver : Driver where
  format := none
  jpegSize := none
  control _ := none
  qtables := none
  hwfc := false
  srcRequested := none
  dstRequested := none
  src := none
  dst := none

/-- The constructor. -/
def State.initial : State where
  format := ⟨V4L2_PIX_FMT_RGB24, TO_IMAGE_SIZE 16 0, TO_IMAGE_SIZE 16 0, []⟩
  pixFmt := true
  reqbufs := false
  streaming := false
  qbufOut := false
  qbufCap := false
  srcBuffer := false
  srcBuffer2 := false
  dstBuffer := false
  dstBuffer2 := false
  controls _ := 0
  controlsToSet _ := false
  auxFlags := 0#32
  enableHWFC := false
  srcPlanes _ := emptyPlane
  srcMemory := .unset
  srcLength := 0
  srcNoCacheClean := false
  dstPlane := emptyPlane
  dstMemory := .unset
  dstNoCacheClean := false
  driver := initialDriver

/-! ### Setters -/

/-- The `switch` of `SetChromaSampFactor`. -/
def chromaSubsampling (horizontal vertical : Nat) : Option Int :=
  match (horizontal <<< 4) % 2 ^ 32 ||| vertical with
  | 0x00 => some V4L2_JPEG_CHROMA_SUBSAMPLING_GRAY
  | 0x11 => some V4L2_JPEG_CHROMA_SUBSAMPLING_444
  | 0x21 => some V4L2_JPEG_CHROMA_SUBSAMPLING_422
  | 0x22 => some V4L2_JPEG_CHROMA_SUBSAMPLING_420
  | 0x41 => some V4L2_JPEG_CHROMA_SUBSAMPLING_411
  | _ => none

def setControl (s : State) (c : Control) (value : Int) : State :=
  { s with
    controls := update s.controls c value
    controlsToSet := update s.controlsToSet c true }

def setChromaSampFactor (s : State) (horizontal vertical : Nat) : State × Bool :=
  match chromaSubsampling horizontal vertical with
  | some value => (setControl s .chromFactor value, true)
  | none => (s, false)

def setQuality (s : State) (quality_factor quality_factor2 : Nat) : State × Bool :=
  if 100 < quality_factor then (s, false)
  else if 100 < quality_factor2 then (s, false)
  else
    let s := if 0 < quality_factor then setControl s .qFactor quality_factor else s
    let s := if 0 < quality_factor2 then setControl s .qFactor2 quality_factor2 else s
    (s, true)

/-- `SetQuality` with quantization tables. -/
def setQtable (s : State) (a : Answers) (qtable : List Nat) : State × Bool :=
  if a.extCtrls then ({ s with driver := { s.driver with qtables := some qtable } }, true)
  else (s, false)

def setAuxFlags (s : State) (auxflags : BitVec 32) : State × Bool :=
  ({ s with auxFlags := s.auxFlags ||| auxflags }, true)

def clearAuxFlags (s : State) (auxflags : BitVec 32) : State × Bool :=
  ({ s with auxFlags := s.auxFlags &&& ~~~auxflags }, true)

def isCachedFormat (s : State) (v4l2_fmt width height width2 height2 : Nat) : Bool :=
  s.format.pixelformat == v4l2_fmt && s.format.width == TO_IMAGE_SIZE width width2
    && s.format.height == TO_IMAGE_SIZE height height2

def setImageFormat (dev : Device) (s : State) (a : Answers)
    (v4l2_fmt width height width2 height2 : Nat) : State × Bool :=
  if isCachedFormat s v4l2_fmt width height width2 height2 then (s, true)
  else
    let s := { s with
      format := ⟨v4l2_fmt, TO_IMAGE_SIZE width width2, TO_IMAGE_SIZE height height2,
        s.format.sizeimage⟩
      pixFmt := true }
    if a.tryFmt then ({ s with format := dev.fill s.format }, true) else (s, false)

/-- The loop over the planes from plane `i` on.  The address is written before
    the size is checked. -/
def setPlanes : Nat → List Nat → List (PlaneM × Nat) → (Nat → Plane) → (Nat → Plane) × Bool
  | i, size :: sizes, (m, len) :: buffers, planes =>
      let planes := update planes i { planes i with m := m }
      if len < size then (planes, false)
      else
        setPlanes (i + 1) sizes buffers
          (update planes i { planes i with bytesused := size, length := len % 2 ^ 32 })
  | _, _, _, planes => (planes, true)

def setImageBuffer (s : State) (memory : Memory) (buffers : List (PlaneM × Nat)) : State × Bool :=
  if buffers.length < s.format.num_planes then (s, false)
  else
    let r := setPlanes 0 s.format.sizeimage buffers s.srcPlanes
    if r.2 then ({ s with srcPlanes := r.1, srcMemory := memory, srcBuffer := true }, true)
    else ({ s with srcPlanes := r.1 }, false)

/-- `SetImageBuffer(char *[], ..)`. -/
def userptrBuffers (buffers : List (Nat × Nat)) : List (PlaneM × Nat) :=
  buffers.map fun b => (.userptr b.1, b.2)

/-- `SetImageBuffer(int [], ..)`. -/
def dmabufBuffers (buffers : List (Int × Nat)) : List (PlaneM × Nat) :=
  buffers.map fun b => (.fd b.1, b.2)

/-- `SetJpegBuffer(char *, ..)`. -/
def setJpegUserptr (s : State) (buffer len_buffer : Nat) : State × Bool :=
  ({ s with
    dstPlane := { s.dstPlane with m := .userptr buffer, length := len_buffer % 2 ^ 32 }
    dstMemory := .userptr
    dstBuffer := true }, true)

def toU32 (n : Int) : Nat := (n % 2 ^ 32).toNat

/-- `SetJpegBuffer(int, ..)`. -/
def setJpegDmabuf (s : State) (buffer : Int) (len_buffer : Nat) (offset : Int) : State × Bool :=
  ({ s with
    dstPlane :=
      { s.dstPlane with m := .fd buffer, length := len_buffer % 2 ^ 32, data_offset := toU32 offset }
    dstMemory := .dmabuf
    dstBuffer := true }, true)

/-! ### Compress -/

/-- `next`, unless something failed before. -/
def andThen (r : State × Bool) (next : State → State × Bool) : State × Bool :=
  if r.2 then next r.1 else r

/-- `ReqBufs`; `request` is `count > 0`. -/
def reqBufs (s : State) (a : ReqAnswers) (request : Bool) : State × Bool :=
  if request = s.reqbufs then (s, true)
  else if a.src = false then (s, false)
  else
    let s := { s with
      driver.srcRequested := if request then some s.srcMemory else none }
    if a.dst = false then
      -- the request for the source image is rolled back, whether that fails or not
      (if a.rollback then { s with driver.srcRequested := none } else s, false)
    else
      ({ s with
        driver.dstRequested := if request then some s.dstMemory else none
        reqbufs := request }, true)

/-- `StopStreaming`; `StreamOff` does not fail. -/
def stopStreaming (s : State) (a : ReqAnswers) : State × Bool :=
  let s := { s with streaming := false, qbufOut := false, qbufCap := false }
  if s.reqbufs then reqBufs s a false else (s, true)

def setFormat (dev : Device) (a : Answers) (s : State) : State × Bool :=
  if a.sFmt = false then (s, false)
  else
    let format := dev.fill s.format
    let s := { s with format := format, driver.format := some format }
    if a.sFmtJpeg = false then (s, false)
    else
      ({ s with
        driver.jpegSize := some (s.format.width, s.format.height)
        pixFmt := false }, true)

def streamOn (a : Answers) (s : State) : State × Bool :=
  if s.streaming then (s, true)
  else if s.reqbufs = false then (s, false)
  else if a.streamOnSrc = false then (s, false)
  else if a.streamOnDst = false then (s, false)
  else ({ s with streaming := true }, true)

/-- The controls that `UpdateControls` collects. -/
def ctrls (s : State) : List (Control × Int) :=
  (Control.all.filter s.controlsToSet).map fun c => (c, s.controls c)

/-- `VIDIOC_S_EXT_CTRLS`. -/
def Driver.setExtCtrls (d : Driver) (ctrls : List (Control × Int)) (hwfc : Option Bool) : Driver :=
  { d with
    control := ctrls.foldl (fun m c => update m c.1 (some c.2)) d.control
    hwfc := hwfc.getD d.hwfc }

def isControlPending (s : State) : Bool :=
  Control.all.any s.controlsToSet || s.hwfcRequested != s.enableHWFC

def updateControls (a : Answers) (s : State) : State × Bool :=
  if isControlPending s = false then (s, true)
  else
    let hwfc := if s.enableHWFC = s.hwfcRequested then none else some s.hwfcRequested
    let ctrls := ctrls s
    let s := { s with controlsToSet := fun _ => false, enableHWFC := s.hwfcRequested }
    if a.extCtrls then ({ s with driver := s.driver.setExtCtrls ctrls hwfc }, true) else (s, false)

/-- `VIDIOC_QBUF` fails for another memory type than the requested one. -/
def qBuf (a : Answers) (s : State) : State × Bool :=
  if s.reqbufs = false then (s, false)
  else if a.qbufSrc = false ∨ s.driver.srcRequested ≠ some s.srcMemory then (s, false)
  else
    let s := { s with
      driver.src :=
        some ⟨s.srcMemory, (List.range s.srcLength).map s.srcPlanes, s.srcNoCacheClean⟩ }
    if a.qbufDst = false ∨ s.driver.dstRequested ≠ some s.dstMemory then
      ((stopStreaming s a.cancel).1, false)
    else
      ({ s with
        driver.dst := some ⟨s.dstMemory, [s.dstPlane], s.dstNoCacheClean⟩
        qbufOut := true
        qbufCap := true }, true)

def dqBuf (a : Answers) (s : State) : State × Bool :=
  let failed := (s.qbufOut && !a.dqbufSrc) || (s.qbufCap && !a.dqbufDst)
  ({ s with qbufOut := false, qbufCap := false }, !failed && !a.bufError)

def applyFormat (dev : Device) (a : Answers) (s : State) : State × Bool :=
  if s.pixFmt then andThen (stopStreaming s a.stop) (setFormat dev a) else (s, true)

/-- The checks and the preparation of the buffers.  The buffers of a secondary
    image are not part of the model, so a back-to-back compression ends here
    unless both flags are set. -/
def prepareBuffers (s : State) : State × Bool :=
  if s.srcBuffer = false then (s, false)
  else if s.dstBuffer = false then (s, false)
  else
    let s := { s with srcLength := s.format.num_planes }
    if s.isB2BCompression && !(s.srcBuffer2 && s.dstBuffer2) then (s, false)
    else
      ({ s with
        srcLength := if s.isB2BCompression then s.srcLength * 2 else s.srcLength
        srcNoCacheClean :=
          s.srcNoCacheClean || s.auxFlags &&& EXYNOS_HWJPEG_AUXOPT_SRC_NOCACHECLEAN != 0#32
        dstNoCacheClean :=
          s.dstNoCacheClean || s.auxFlags &&& EXYNOS_HWJPEG_AUXOPT_DST_NOCACHECLEAN != 0#32 }, true)

/-- `Compress`, with `true` for a result that is not negative. -/
def compress (dev : Device) (s : State) (a : Answers) (block_mode : Bool) : State × Bool :=
  let r := andThen (applyFormat dev a s) prepareBuffers
  let r := andThen r fun s => reqBufs s a.request true
  let r := andThen r (streamOn a)
  let r := andThen r (updateControls a)
  let r := andThen r (qBuf a)
  if block_mode then andThen r (dqBuf a) else r

/-! ### Runs -/

inductive Call where
  | setImageFormat (v4l2_fmt width height width2 height2 : Nat)
  | setQuality (quality_factor quality_factor2 : Nat)
  | setQtable (qtable : List Nat)
  | setChromaSampFactor (horizontal vertical : Nat)
  | setAuxFlags (auxflags : BitVec 32)
  | clearAuxFlags (auxflags : BitVec 32)
  | setImageUserptr (buffers : List (Nat × Nat))
  | setImageDmabuf (buffers : List (Int × Nat))
  | setJpegUserptr (buffer len_buffer : Nat)
  | setJpegDmabuf (buffer : Int) (len_buffer : Nat) (offset : Int)
  | compress (block_mode : Bool)
deriving DecidableEq, Repr

def exec (dev : Device) (s : State) (a : Answers) : Call → State × Bool
  | .setImageFormat f w h w2 h2 => setImageFormat dev s a f w h w2 h2
  | .setQuality q q2 => setQuality s q q2
  | .setQtable t => setQtable s a t
  | .setChromaSampFactor h v => setChromaSampFactor s h v
  | .setAuxFlags f => setAuxFlags s f
  | .clearAuxFlags f => clearAuxFlags s f
  | .setImageUserptr b => setImageBuffer s .userptr (userptrBuffers b)
  | .setImageDmabuf b => setImageBuffer s .dmabuf (dmabufBuffers b)
  | .setJpegUserptr b l => setJpegUserptr s b l
  | .setJpegDmabuf b l o => setJpegDmabuf s b l o
  | .compress b => compress dev s a b

/-! ### What the successful calls asked for -/

structure ImageFormat where
  v4l2_fmt : Nat
  width : Nat
  height : Nat
  width2 : Nat
  height2 : Nat
deriving DecidableEq, Repr

/-- Both sizes in one field, the secondary one in the upper half. -/
def ImageFormat.packed (f : ImageFormat) : Nat × Nat × Nat :=
  (f.v4l2_fmt, f.width + f.width2 * 2 ^ 16, f.height + f.height2 * 2 ^ 16)

structure ImageBuffer where
  memory : Memory
  addresses : List PlaneM
  /-- The number of planes of the format when the buffer was set. -/
  planeNum : Nat
deriving DecidableEq, Repr

/-- The offset is given for a dma-buf only. -/
structure JpegBuffer where
  memory : Memory
  address : PlaneM
  offset : Option Nat
deriving DecidableEq, Repr

structure Settings where
  format : ImageFormat
  control : Control → Option Int
  qtables : Option (List Nat)
  hwfc : Bool
  image : Option ImageBuffer
  jpeg : Option JpegBuffer

def Settings.initial : Settings where
  format := ⟨V4L2_PIX_FMT_RGB24, 16, 16, 0, 0⟩
  control _ := none
  qtables := none
  hwfc := false
  image := none
  jpeg := none

def hasHWFC (auxflags : BitVec 32) : Bool := auxflags &&& EXYNOS_HWJPEG_AUXOPT_ENABLE_HWFC != 0#32

/-- A quality factor of 0 leaves the quality as it is. -/
def Settings.setQuality (r : Settings) (c : Control) (quality_factor : Nat) : Settings :=
  if 0 < quality_factor then { r with control := update r.control c (some (quality_factor : Int)) }
  else r

/-- The settings after a successful call. -/
def Settings.after (r : Settings) (s : State) : Call → Settings
  | .setImageFormat f w h w2 h2 => { r with format := ⟨f, w, h, w2, h2⟩ }
  | .setQuality q q2 => (r.setQuality .qFactor q).setQuality .qFactor2 q2
  | .setQtable t => { r with qtables := some t }
  | .setChromaSampFactor h v =>
      { r with control := update r.control .chromFactor (chromaSubsampling h v) }
  | .setAuxFlags f => { r with hwfc := r.hwfc || hasHWFC f }
  | .clearAuxFlags f => { r with hwfc := r.hwfc && !hasHWFC f }
  | .setImageUserptr b =>
      { r with image := some ⟨.userptr, b.map fun x => .userptr x.1, s.format.num_planes⟩ }
  | .setImageDmabuf b =>
      { r with image := some ⟨.dmabuf, b.map fun x => .fd x.1, s.format.num_planes⟩ }
  | .setJpegUserptr b _ => { r with jpeg := some ⟨.userptr, .userptr b, none⟩ }
  | .setJpegDmabuf b _ o => { r with jpeg := some ⟨.dmabuf, .fd b, some (toU32 o)⟩ }
  | .compress _ => r

/-- The compressor with the record of its successful calls. -/
structure Run where
  state : State
  settings : Settings

def Run.initial : Run := ⟨.initial, .initial⟩

def Run.exec (dev : Device) (r : Run) (l : Call × Answers) : Run × Bool :=
  let e := JpegCompressor.exec dev r.state l.2 l.1
  (⟨e.1, if e.2 then r.settings.after r.state l.1 else r.settings⟩, e.2)

def Run.step (dev : Device) : Run → Call × Answers → Run → Prop :=
  ofFun fun r l => (r.exec dev l).1

/-! ### What the driver has -/

/-- The planes of the image that the driver has are those of the last call. -/
def ImageAgrees (q : Queued) (planeNum : Nat) (im : ImageBuffer) : Prop :=
  q.memory = im.memory ∧ planeNum ≤ q.planes.length ∧
    ∀ i < planeNum, (q.planes[i]?).map Plane.m = im.addresses[i]?

def JpegAgrees (q : Queued) (j : JpegBuffer) : Prop :=
  q.memory = j.memory ∧ q.planes.map Plane.m = [j.address] ∧
    ∀ o, j.offset = some o → q.planes.map Plane.data_offset = [o]

/-- **The driver has the settings of the last successful calls.** -/
structure Agrees (d : Driver) (r : Settings) : Prop where
  format : ∃ f, d.format = some f ∧ (f.pixelformat, f.width, f.height) = r.format.packed ∧
    ∃ q im, d.src = some q ∧ r.image = some im ∧ ImageAgrees q f.num_planes im
  jpeg : ∃ q j, d.dst = some q ∧ r.jpeg = some j ∧ JpegAgrees q j
  control : ∀ c v, r.control c = some v → d.control c = some v
  qtables : ∀ t, r.qtables = some t → d.qtables = some t
  hwfc : d.hwfc = r.hwfc

/-- What a compression started now would use. -/
@[ext]
structure Used where
  format : Option (Nat × Nat × Nat)
  control : Control → Option Int
  qtables : Option (List Nat)
  hwfc : Bool
  srcMemory : Memory
  srcPlanes : Nat → PlaneM
  dstMemory : Memory
  dstPlane : PlaneM × Nat

def used (s : State) : Used where
  format :=
    if s.pixFmt then some (s.format.pixelformat, s.format.width, s.format.height)
    else s.driver.format.map fun f => (f.pixelformat, f.width, f.height)
  control c := if s.controlsToSet c then some (s.controls c) else s.driver.control c
  qtables := s.driver.qtables
  hwfc := if s.enableHWFC = s.hwfcRequested then s.driver.hwfc else s.hwfcRequested
  srcMemory := s.srcMemory
  srcPlanes i := (s.srcPlanes i).m
  dstMemory := s.dstMemory
  dstPlane := (s.dstPlane.m, s.dstPlane.data_offset)

/-- A compression that succeeds agrees with the settings, a call that fails leaves
    them as they were. -/
def SettingsHold (dev : Device) (r : Run) (l : Call × Answers) : Prop :=
  match r.exec dev l with
  | (r', true) => ∀ b, l.1 = .compress b → Agrees r'.state.driver r.settings
  | (r', false) => used r'.state = used r.state

/-! ### Stages of a compression -/

/-- `P` holds after a stage, and `Q` if it succeeded. -/
def Ends (P Q : State → Prop) (r : State × Bool) : Prop := P r.1 ∧ (r.2 = true → Q r.1)

theorem Ends.andThen {P Q Q' : State → Prop} {r : State × Bool} {next : State → State × Bool}
    (h : Ends P Q r) (hnext : ∀ s, P s → Q s → Ends P Q' (next s)) :
    Ends P Q' (andThen r next) := by
  unfold JpegCompressor.andThen
  split
  · next hr => exact hnext r.1 h.1 (h.2 hr)
  · next hr => exact ⟨h.1, fun h' => absurd h' hr⟩

/-- The state without what concerns the queues of the driver only. -/
def State.forget (s : State) : State :=
  { s with
    reqbufs := false
    streaming := false
    qbufOut := false
    qbufCap := false
    srcLength := 0
    srcNoCacheClean := false
    dstNoCacheClean := false
    driver :=
      { s.driver with
        jpegSize := none, srcRequested := none, dstRequested := none, src := none, dst := none } }

theorem used_congr {s t : State} (h : s.forget = t.forget) : used s = used t := by
  show used s.forget = used t.forget
  rw [h]

/-- A stage about the queues keeps everything else, and the length of the source
    buffer with it. -/
structure Kept (s t : State) : Prop where
  forget : t.forget = s.forget
  srcLength : t.srcLength = s.srcLength

theorem Kept.refl (s : State) : Kept s s := ⟨rfl, rfl⟩

theorem Kept.trans {s t u : State} (h : Kept s t) (h' : Kept t u) : Kept s u :=
  ⟨h'.forget.trans h.forget, h'.srcLength.trans h.srcLength⟩

theorem Kept.format {s t : State} (h : Kept s t) : t.format = s.format := by
  have hf := congrArg State.format h.forget
  exact hf

/-- The settings that the driver has. -/
theorem Kept.driver {s t : State} (h : Kept s t) :
    t.driver.format = s.driver.format ∧ t.driver.control = s.driver.control ∧
      t.driver.qtables = s.driver.qtables ∧ t.driver.hwfc = s.driver.hwfc := by
  have hd := congrArg State.driver h.forget
  have hf := congrArg Driver.format hd
  have hc := congrArg Driver.control hd
  have hq := congrArg Driver.qtables hd
  have hh := congrArg Driver.hwfc hd
  exact ⟨hf, hc, hq, hh⟩

theorem isControlPending_congr {s t : State} (h : t.forget = s.forget) :
    isControlPending t = isControlPending s := by
  have hp := congrArg isControlPending h
  exact hp

theorem reqBufs_kept (s : State) (a : ReqAnswers) (request : Bool) :
    Kept s (reqBufs s a request).1 := by
  unfold reqBufs
  split
  · exact .refl s
  · split
    · exact .refl s
    · dsimp only
      split
      · dsimp only
        split <;> exact ⟨rfl, rfl⟩
      · exact ⟨rfl, rfl⟩

theorem stopStreaming_kept (s : State) (a : ReqAnswers) : Kept s (stopStreaming s a).1 := by
  unfold stopStreaming
  dsimp only
  split
  · refine Kept.trans ?_ (reqBufs_kept _ a false)
    exact ⟨rfl, rfl⟩
  · exact ⟨rfl, rfl⟩

theorem streamOn_kept (a : Answers) (s : State) : Kept s (streamOn a s).1 := by
  unfold streamOn
  split
  · exact .refl s
  · split
    · exact .refl s
    · split
      · exact .refl s
      · split
        · exact .refl s
        · exact ⟨rfl, rfl⟩

theorem qBuf_kept (a : Answers) (s : State) : Kept s (qBuf a s).1 := by
  unfold qBuf
  split
  · exact .refl s
  · split
    · exact .refl s
    · dsimp only
      split
      · refine Kept.trans ?_ (stopStreaming_kept _ a.cancel)
        exact ⟨rfl, rfl⟩
      · exact ⟨rfl, rfl⟩

/-- What a successful `QBuf` hands over. -/
theorem qBuf_queued {a : Answers} {s : State} (h : (qBuf a s).2 = true) :
    (qBuf a s).1.driver.src =
        some ⟨s.srcMemory, (List.range s.srcLength).map s.srcPlanes, s.srcNoCacheClean⟩ ∧
      (qBuf a s).1.driver.dst = some ⟨s.dstMemory, [s.dstPlane], s.dstNoCacheClean⟩ := by
  unfold qBuf at h ⊢
  by_cases hreq : s.reqbufs = false
  · simp [hreq] at h
  · rw [if_neg hreq] at h ⊢
    by_cases hsrc : a.qbufSrc = false ∨ s.driver.srcRequested ≠ some s.srcMemory
    · rw [if_pos hsrc] at h; cases h
    · rw [if_neg hsrc] at h ⊢
      dsimp only at h ⊢
      split at h
      · cases h
      · next hdst =>
        rw [if_neg hdst]
        exact ⟨rfl, rfl⟩

theorem prepareBuffers_forget (s : State) : (prepareBuffers s).1.forget = s.forget := by
  unfold prepareBuffers
  split
  · rfl
  · split
    · rfl
    · dsimp only
      split <;> rfl

theorem prepareBuffers_ok {s : State} (h : (prepareBuffers s).2 = true) :
    s.srcBuffer = true ∧ s.dstBuffer = true ∧
      s.format.num_planes ≤ (prepareBuffers s).1.srcLength := by
  unfold prepareBuffers at h ⊢
  by_cases hsrc : s.srcBuffer = false
  · simp [hsrc] at h
  · by_cases hdst : s.dstBuffer = false
    · simp [hsrc, hdst] at h
    · rw [if_neg hsrc, if_neg hdst] at h ⊢
      dsimp only at h ⊢
      split at h
      · cases h
      · next hb =>
        rw [if_neg hb]
        refine ⟨by simpa using hsrc, by simpa using hdst, ?_⟩
        dsimp only
        split <;> omega

/-! ### The invariant of a run -/

/-- The cache stands for the settings, and what is not marked as pending the
    driver has. -/
structure Inv (dev : Device) (s : State) (r : Settings) : Prop where
  format : (s.format.pixelformat, s.format.width, s.format.height) = r.format.packed
  applied : s.pixFmt = false → s.driver.format = some s.format ∧ dev.fill s.format = s.format
  image : s.srcBuffer = r.image.isSome
  planes : ∀ im, r.image = some im → s.srcMemory = im.memory ∧
    ∀ i < im.planeNum, some (s.srcPlanes i).m = im.addresses[i]?
  dst : s.dstBuffer = r.jpeg.isSome
  jpeg : ∀ j, r.jpeg = some j → s.dstMemory = j.memory ∧ s.dstPlane.m = j.address ∧
    ∀ o, j.offset = some o → s.dstPlane.data_offset = o
  control : ∀ c v, r.control c = some v → (used s).control c = some v
  qtables : ∀ t, r.qtables = some t → s.driver.qtables = some t
  hwfc : s.hwfcRequested = r.hwfc
  enabled : s.driver.hwfc = s.enableHWFC

theorem Inv.congr {dev : Device} {s t : State} {r : Settings} (h : t.forget = s.forget)
    (hs : Inv dev s r) : Inv dev t r := by
  have hs' : Inv dev s.forget r :=
    ⟨hs.format, hs.applied, hs.image, hs.planes, hs.dst, hs.jpeg, hs.control, hs.qtables,
      hs.hwfc, hs.enabled⟩
  rw [← h] at hs'
  exact ⟨hs'.format, hs'.applied, hs'.image, hs'.planes, hs'.dst, hs'.jpeg, hs'.control,
    hs'.qtables, hs'.hwfc, hs'.enabled⟩

theorem Inv.initial (dev : Device) : Inv dev .initial .initial where
  format := by decide
  applied := nofun
  image := rfl
  planes := nofun
  dst := rfl
  jpeg := nofun
  control := nofun
  qtables := nofun
  hwfc := by decide
  enabled := rfl

section Compress

variable {dev : Device} {a : Answers} {r : Settings}

/-- What every stage keeps: the invariant and the settings in use. -/
structure Holds (dev : Device) (r : Settings) (u : Used) (s : State) : Prop where
  inv : Inv dev s r
  used : used s = u

theorem Holds.congr {u : Used} {s t : State} (h : t.forget = s.forget) (hs : Holds dev r u s) :
    Holds dev r u t :=
  ⟨hs.inv.congr h, (used_congr h).trans hs.used⟩

/-- The format is applied, and the controls are as pending as before. -/
structure Applied (f : PixFormat) (p : Bool) (s : State) : Prop where
  pixFmt : s.pixFmt = false
  format : s.format = f
  pending : isControlPending s = p

theorem setFormat_ends {u : Used} {s : State} (hs : Holds dev r u s) (hp : s.pixFmt = true) :
    Ends (Holds dev r u) (Applied (dev.fill s.format) (isControlPending s))
      (setFormat dev a s) := by
  have hinv := hs.inv
  unfold setFormat
  by_cases hf : a.sFmt = false
  · rw [if_pos hf]
    exact ⟨hs, nofun⟩
  · rw [if_neg hf]
    dsimp only
    by_cases hj : a.sFmtJpeg = false
    · -- the driver has the new format, and it is still marked as pending
      rw [if_pos hj]
      refine ⟨⟨⟨hinv.format, fun h => ?_, hinv.image, hinv.planes, hinv.dst, hinv.jpeg,
        hinv.control, hinv.qtables, hinv.hwfc, hinv.enabled⟩, ?_⟩, nofun⟩
      · simp only [hp] at h; cases h
      · rw [← hs.used]
        simp only [used, hp, if_true, Device.fill]
        rfl
    · rw [if_neg hj]
      refine ⟨⟨⟨hinv.format, fun _ => ⟨rfl, rfl⟩, hinv.image, hinv.planes, hinv.dst, hinv.jpeg,
        hinv.control, hinv.qtables, hinv.hwfc, hinv.enabled⟩, ?_⟩, fun _ => ⟨rfl, rfl, rfl⟩⟩
      rw [← hs.used]
      simp only [used, hp, if_true, Device.fill]
      rfl

theorem applyFormat_ends {u : Used} {s : State} (hs : Holds dev r u s) :
    Ends (Holds dev r u) (Applied (dev.fill s.format) (isControlPending s))
      (applyFormat dev a s) := by
  unfold applyFormat
  by_cases hp : s.pixFmt = true
  · rw [if_pos hp]
    have hk := stopStreaming_kept s a.stop
    have hstop : Ends (Holds dev r u) (fun t => t.pixFmt = true ∧ t.format = s.format ∧
        isControlPending t = isControlPending s) (stopStreaming s a.stop) := by
      refine ⟨hs.congr hk.forget, fun _ => ⟨?_, hk.format, isControlPending_congr hk.forget⟩⟩
      exact (congrArg State.pixFmt hk.forget).trans hp
    refine hstop.andThen fun t ht hq => ?_
    obtain ⟨hpt, hft, hct⟩ := hq
    rw [← hft, ← hct]
    exact setFormat_ends ht hpt
  · rw [if_neg hp]
    have hp' : s.pixFmt = false := by simpa using hp
    exact ⟨hs, fun _ => ⟨hp', (hs.inv.applied hp').2.symm, rfl⟩⟩

/-- The buffers are set for the format. -/
structure Prepared (f : PixFormat) (s : State) : Prop where
  pixFmt : s.pixFmt = false
  format : s.format = f
  srcBuffer : s.srcBuffer = true
  dstBuffer : s.dstBuffer = true
  srcLength : f.num_planes ≤ s.srcLength

theorem Prepared.kept {f : PixFormat} {s t : State} (h : Kept s t) (hs : Prepared f s) :
    Prepared f t where
  pixFmt := (congrArg State.pixFmt h.forget).trans hs.pixFmt
  format := h.format.trans hs.format
  srcBuffer := (congrArg State.srcBuffer h.forget).trans hs.srcBuffer
  dstBuffer := (congrArg State.dstBuffer h.forget).trans hs.dstBuffer
  srcLength := h.srcLength ▸ hs.srcLength

/-- The controls that are collected are the pending ones. -/
theorem setExtCtrls_ctrls (s : State) (d : Driver) (hwfc : Option Bool) (c : Control) :
    (d.setExtCtrls (ctrls s) hwfc).control c =
      if s.controlsToSet c then some (s.controls c) else d.control c := by
  unfold Driver.setExtCtrls ctrls Control.all
  cases c <;> cases h0 : s.controlsToSet .chromFactor <;> cases h1 : s.controlsToSet .qFactor <;>
    cases h2 : s.controlsToSet .qFactor2 <;> simp [h0, h1, h2, update]

theorem not_pending {s : State} (h : isControlPending s = false) :
    (∀ c, s.controlsToSet c = false) ∧ s.hwfcRequested = s.enableHWFC := by
  unfold isControlPending Control.all at h
  simp only [List.any_cons, List.any_nil, Bool.or_false, Bool.or_eq_false_iff, bne_eq_false_iff_eq]
    at h
  refine ⟨fun c => ?_, h.2⟩
  cases c with
  | chromFactor => exact h.1.1
  | qFactor => exact h.1.2.1
  | qFactor2 => exact h.1.2.2

/-- Controls and flow control are pushed, unless the driver refuses. -/
theorem updateControls_ends {u : Used} {f : PixFormat} {s : State} (hs : Holds dev r u s)
    (hf : Prepared f s) (hmeets : isControlPending s = false ∨ a.extCtrls = true) :
    Ends (Holds dev r u)
      (fun t => Prepared f t ∧ (∀ c, t.controlsToSet c = false) ∧ t.hwfcRequested = t.enableHWFC)
      (updateControls a s) := by
  have hinv := hs.inv
  unfold updateControls
  by_cases hp : isControlPending s = false
  · rw [if_pos hp]
    exact ⟨hs, fun _ => ⟨hf, not_pending hp⟩⟩
  · rw [if_neg hp]
    dsimp only
    rw [if_pos (hmeets.resolve_left hp)]
    have hwfc : ((if s.enableHWFC = s.hwfcRequested then none
        else some s.hwfcRequested).getD s.driver.hwfc) = s.hwfcRequested := by
      by_cases he : s.enableHWFC = s.hwfcRequested
      · rw [if_pos he]; exact hinv.enabled.trans he
      · rw [if_neg he]; rfl
    have hused : ∀ c, ((s.driver.setExtCtrls (ctrls s) (if s.enableHWFC = s.hwfcRequested then none
        else some s.hwfcRequested)).control c) = (used s).control c :=
      fun c => setExtCtrls_ctrls s s.driver _ c
    refine ⟨⟨⟨hinv.format, hinv.applied, hinv.image, hinv.planes, hinv.dst, hinv.jpeg,
      fun c v hv => ?_, hinv.qtables, hinv.hwfc, hwfc⟩, ?_⟩, fun _ => ⟨⟨hf.pixFmt, hf.format,
        hf.srcBuffer, hf.dstBuffer, hf.srcLength⟩, fun _ => rfl, rfl⟩⟩
    · exact (hused c).trans (hinv.control c v hv)
    · rw [← hs.used]
      refine Used.ext rfl (funext hused) rfl ?_ rfl rfl rfl rfl
      refine (if_pos rfl).trans (hwfc.trans ?_)
      unfold used
      dsimp only
      by_cases he : s.enableHWFC = s.hwfcRequested
      · rw [if_pos he, hinv.enabled, he]
      · rw [if_neg he]

/-- The image that is queued is the one of the settings. -/
theorem imageAgrees {s : State} {f : PixFormat} (hinv : Inv dev s r) (hp : Prepared f s)
    (hnum : ∀ im, r.image = some im → f.num_planes ≤ im.planeNum) :
    ∃ im, r.image = some im ∧ ImageAgrees
      ⟨s.srcMemory, (List.range s.srcLength).map s.srcPlanes, s.srcNoCacheClean⟩ f.num_planes im := by
  obtain ⟨im, him⟩ := Option.isSome_iff_exists.mp (hinv.image.symm.trans hp.srcBuffer)
  obtain ⟨hmem, haddr⟩ := hinv.planes im him
  refine ⟨im, him, hmem, ?_, fun i hi => ?_⟩
  · simpa using hp.srcLength
  · rw [← haddr i (Nat.lt_of_lt_of_le hi (hnum im him))]
    have hlt : i < s.srcLength := Nat.lt_of_lt_of_le hi hp.srcLength
    simp [hlt]

theorem jpegAgrees {s : State} {f : PixFormat} (hinv : Inv dev s r) (hp : Prepared f s) :
    ∃ j, r.jpeg = some j ∧ JpegAgrees ⟨s.dstMemory, [s.dstPlane], s.dstNoCacheClean⟩ j := by
  obtain ⟨j, hj⟩ := Option.isSome_iff_exists.mp (hinv.dst.symm.trans hp.dstBuffer)
  obtain ⟨hmem, haddr, hoff⟩ := hinv.jpeg j hj
  refine ⟨j, hj, hmem, congrArg (fun m => [m]) haddr, fun o ho => ?_⟩
  exact congrArg (fun m => [m]) (hoff o ho)

theorem qBuf_ends {u : Used} {f : PixFormat} {s : State} (hs : Holds dev r u s)
    (hp : Prepared f s) (hc : ∀ c, s.controlsToSet c = false)
    (hw : s.hwfcRequested = s.enableHWFC)
    (hnum : ∀ im, r.image = some im → f.num_planes ≤ im.planeNum) :
    Ends (Holds dev r u) (fun t => Agrees t.driver r) (qBuf a s) := by
  have hk := qBuf_kept a s
  refine ⟨hs.congr hk.forget, fun hok => ?_⟩
  obtain ⟨hsrc, hdst⟩ := qBuf_queued hok
  have hinv := hs.inv
  obtain ⟨hform, hctrl, hqt, hhw⟩ := hk.driver
  obtain ⟨im, him, himg⟩ := imageAgrees hinv hp hnum
  obtain ⟨j, hj, hjpeg⟩ := jpegAgrees hinv hp
  refine ⟨⟨f, ?_, ?_, _, im, hsrc, him, himg⟩, ⟨_, j, hdst, hj, hjpeg⟩, fun c v hv => ?_,
    fun t ht => ?_, ?_⟩
  · rw [hform, (hinv.applied hp.pixFmt).1, hp.format]
  · rw [← hp.format]; exact hinv.format
  · have h := hinv.control c v hv
    rw [hctrl]
    simpa [used, hc c] using h
  · rw [hqt]; exact hinv.qtables t ht
  · rw [hhw, hinv.enabled, ← hw]; exact hinv.hwfc

theorem dqBuf_ends {u : Used} {s : State} (hs : Holds dev r u s) (h : Agrees s.driver r) :
    Ends (Holds dev r u) (fun t => Agrees t.driver r) (dqBuf a s) := by
  have hk : (dqBuf a s).1.forget = s.forget := rfl
  exact ⟨hs.congr hk, fun _ => h⟩

theorem prepareBuffers_ends {u : Used} {f : PixFormat} {p : Bool} {s : State}
    (hs : Holds dev r u s) (ha : Applied f p s) :
    Ends (Holds dev r u) (fun t => Prepared f t ∧ isControlPending t = p) (prepareBuffers s) := by
  have hforget := prepareBuffers_forget s
  refine ⟨hs.congr hforget, fun hok => ⟨⟨?_, ?_, ?_, ?_, ?_⟩, ?_⟩⟩
  · exact (congrArg State.pixFmt hforget).trans ha.pixFmt
  · have h := congrArg State.format hforget
    exact Eq.trans h ha.format
  · exact (congrArg State.srcBuffer hforget).trans (prepareBuffers_ok hok).1
  · exact (congrArg State.dstBuffer hforget).trans (prepareBuffers_ok hok).2.1
  · rw [← ha.format]; exact (prepareBuffers_ok hok).2.2
  · exact (isControlPending_congr hforget).trans ha.pending

/-- A stage about the queues only. -/
theorem kept_ends {u : Used} {f : PixFormat} {p : Bool} {s : State} {e : State × Bool}
    (hk : Kept s e.1) (hs : Holds dev r u s) (hp : Prepared f s ∧ isControlPending s = p) :
    Ends (Holds dev r u) (fun t => Prepared f t ∧ isControlPending t = p) e :=
  ⟨hs.congr hk.forget, fun _ =>
    ⟨hp.1.kept hk, (isControlPending_congr hk.forget).trans hp.2⟩⟩

/-- **A compression keeps the settings in use, and the driver has them if it
    succeeds.** -/
theorem compress_ends {s : State} {b : Bool} (hs : Inv dev s r)
    (hctrl : isControlPending s = false ∨ a.extCtrls = true)
    (hnum : ∀ im, r.image = some im → (dev.fill s.format).num_planes ≤ im.planeNum) :
    Ends (Holds dev r (used s)) (fun t => Agrees t.driver r) (compress dev s a b) := by
  have happly := applyFormat_ends (a := a) ⟨hs, rfl⟩
  have hprep := happly.andThen fun t ht ha => prepareBuffers_ends ht ha
  have hreq := hprep.andThen fun t ht ha => kept_ends (reqBufs_kept t a.request true) ht ha
  have hon := hreq.andThen fun t ht ha => kept_ends (streamOn_kept a t) ht ha
  have hctrls := hon.andThen fun t ht ha =>
    updateControls_ends ht ha.1 (ha.2.symm ▸ hctrl)
  have hqueue := hctrls.andThen fun t ht ha => qBuf_ends (a := a) ht ha.1 ha.2.1 ha.2.2 hnum
  unfold compress
  dsimp only
  split
  · exact hqueue.andThen fun t ht ha => dqBuf_ends ht ha
  · exact hqueue

end Compress

/-! ### The setters -/

section Setters

variable {dev : Device} {s : State} {r : Settings}

/-- A control that is set is pending, whatever the driver has. -/
theorem setControl_inv {c : Control} {value : Int} (h : Inv dev s r) :
    Inv dev (setControl s c value) { r with control := update r.control c (some value) } where
  format := h.format
  applied := h.applied
  image := h.image
  planes := h.planes
  dst := h.dst
  jpeg := h.jpeg
  control := by
    intro c' v hv
    by_cases hc : c' = c
    · subst hc
      simpa [used, setControl] using hv
    · simp only [Function.update_of_ne hc] at hv
      have hold := h.control c' v hv
      simpa [used, setControl, Function.update_of_ne hc] using hold
  qtables := h.qtables
  hwfc := h.hwfc
  enabled := h.enabled

theorem setQuality_inv {q : Nat} {c : Control} (h : Inv dev s r) :
    Inv dev (if 0 < q then setControl s c q else s) (r.setQuality c q) := by
  unfold Settings.setQuality
  by_cases hq : 0 < q
  · rw [if_pos hq, if_pos hq]
    exact setControl_inv h
  · rw [if_neg hq, if_neg hq]
    exact h

theorem hasHWFC_eq (x : BitVec 32) : hasHWFC x = x.getLsbD 4 := by
  have hE : EXYNOS_HWJPEG_AUXOPT_ENABLE_HWFC = BitVec.twoPow 32 4 := by decide
  unfold hasHWFC
  rw [hE, BitVec.and_twoPow]
  cases x.getLsbD 4 <;> decide

theorem hasHWFC_or (x y : BitVec 32) : hasHWFC (x ||| y) = (hasHWFC x || hasHWFC y) := by
  simp only [hasHWFC_eq, BitVec.getLsbD_or]

theorem hasHWFC_and_not (x y : BitVec 32) : hasHWFC (x &&& ~~~y) = (hasHWFC x && !hasHWFC y) := by
  simp [hasHWFC_eq]

/-- Two sizes of 16 bits are told apart in one field. -/
theorem TO_IMAGE_SIZE_eq {main thumb : Nat} (hm : main < 2 ^ 16) (ht : thumb < 2 ^ 16) :
    TO_IMAGE_SIZE main thumb = main + thumb * 2 ^ 16 := by
  unfold TO_IMAGE_SIZE TO_MAIN_SIZE TO_THUMB_SIZE
  have hmask : ∀ n < 2 ^ 16, n &&& 0xFFFF = n := by
    intro n hn
    exact (Nat.and_two_pow_sub_one_eq_mod n 16).trans (Nat.mod_eq_of_lt hn)
  rw [hmask main hm, hmask thumb ht, Nat.or_comm, ← Nat.shiftLeft_add_eq_or_of_lt hm,
    Nat.shiftLeft_eq, Nat.add_comm]

/-- A loop that reaches its end has written all addresses. -/
theorem setPlanes_ok {i : Nat} {sizes : List Nat} {buffers : List (PlaneM × Nat)}
    {planes : Nat → Plane} (hlen : sizes.length ≤ buffers.length)
    (hok : (setPlanes i sizes buffers planes).2 = true) :
    (∀ j < i, (setPlanes i sizes buffers planes).1 j = planes j) ∧
      ∀ k < sizes.length, some ((setPlanes i sizes buffers planes).1 (i + k)).m =
        (buffers.map Prod.fst)[k]? := by
  induction sizes generalizing i buffers planes with
  | nil => exact ⟨fun _ _ => rfl, fun k hk => absurd hk (Nat.not_lt_zero k)⟩
  | cons size sizes ih =>
    cases buffers with
    | nil => simp at hlen
    | cons b buffers =>
      obtain ⟨m, len⟩ := b
      rw [setPlanes] at hok ⊢
      dsimp only at hok ⊢
      by_cases hs : len < size
      · rw [if_pos hs] at hok; cases hok
      · rw [if_neg hs] at hok ⊢
        obtain ⟨hbelow, habove⟩ := ih (Nat.le_of_succ_le_succ hlen) hok
        refine ⟨fun j hj => ?_, fun k hk => ?_⟩
        · have hji : j ≠ i := Nat.ne_of_lt hj
          rw [hbelow j (Nat.lt_succ_of_lt hj), Function.update_of_ne hji,
            Function.update_of_ne hji]
        · cases k with
          | zero =>
            show some (Prod.fst (setPlanes _ _ _ _) i).m = _
            rw [hbelow i (Nat.lt_succ_self i)]
            simp
          | succ k =>
            have h := habove k (Nat.lt_of_succ_lt_succ hk)
            rw [Nat.add_right_comm] at h
            exact h

/-- No buffer is too short for its plane. -/
def isLongEnough (sizes : List Nat) (lens : List Nat) : Bool :=
  (sizes.zip lens).all fun p => decide (p.1 ≤ p.2)

theorem setPlanes_isOk {i : Nat} {sizes : List Nat} {buffers : List (PlaneM × Nat)}
    (planes : Nat → Plane) (h : isLongEnough sizes (buffers.map Prod.snd) = true) :
    (setPlanes i sizes buffers planes).2 = true := by
  induction sizes generalizing i buffers planes with
  | nil => rfl
  | cons size sizes ih =>
    cases buffers with
    | nil => rfl
    | cons b buffers =>
      obtain ⟨m, len⟩ := b
      simp only [isLongEnough, List.map_cons, List.zip_cons_cons, List.all_cons, Bool.and_eq_true,
        decide_eq_true_eq] at h
      rw [setPlanes]
      dsimp only
      rw [if_neg (Nat.not_lt.mpr h.1)]
      exact ih _ h.2

end Setters

/-! ### The law of a run -/

/-- The image buffers are not refused for the length of one of them. -/
def IsLengthRight (s : State) (lens : List Nat) : Prop :=
  lens.length < s.format.num_planes ∨ isLongEnough s.format.sizeimage lens = true

/-- No ioctl fails behind whose back the cache was updated, sizes fit into their
    16 bits, and the planes of the image were set for the format they are used with. -/
def Meets (dev : Device) (r : Run) (l : Call × Answers) : Prop :=
  match l.1 with
  | .setImageFormat f w h w2 h2 =>
      (w < 2 ^ 16 ∧ h < 2 ^ 16 ∧ w2 < 2 ^ 16 ∧ h2 < 2 ^ 16) ∧
        (isCachedFormat r.state f w h w2 h2 = true ∨ l.2.tryFmt = true)
  | .setImageUserptr b => IsLengthRight r.state (b.map Prod.snd)
  | .setImageDmabuf b => IsLengthRight r.state (b.map Prod.snd)
  | .compress _ =>
      (isControlPending r.state = false ∨ l.2.extCtrls = true) ∧
        ∀ im, r.settings.image = some im →
          (dev.fill r.state.format).num_planes ≤ im.planeNum
  | _ => True

section Law

variable {dev : Device} {a : Answers} {s : State} {r : Settings}

/-- What a call leaves: the invariant with the settings it asked for, or the
    settings in use as they were. -/
def Leaves (dev : Device) (r : Settings) (s : State) (after : Settings) (e : State × Bool) : Prop :=
  Inv dev e.1 (if e.2 then after else r) ∧ (e.2 = false → used e.1 = used s)

theorem setImageFormat_leaves {f w h w2 h2 : Nat} (hs : Inv dev s r)
    (hsize : w < 2 ^ 16 ∧ h < 2 ^ 16 ∧ w2 < 2 ^ 16 ∧ h2 < 2 ^ 16)
    (hok : isCachedFormat s f w h w2 h2 = true ∨ a.tryFmt = true) :
    Leaves dev r s { r with format := ⟨f, w, h, w2, h2⟩ } (setImageFormat dev s a f w h w2 h2) := by
  obtain ⟨hw, hh, hw2, hh2⟩ := hsize
  have hpack : (f, TO_IMAGE_SIZE w w2, TO_IMAGE_SIZE h h2) =
      ImageFormat.packed ⟨f, w, h, w2, h2⟩ := by
    rw [TO_IMAGE_SIZE_eq hw hw2, TO_IMAGE_SIZE_eq hh hh2]
    rfl
  unfold setImageFormat
  by_cases hc : isCachedFormat s f w h w2 h2 = true
  · rw [if_pos hc]
    refine ⟨⟨?_, hs.applied, hs.image, hs.planes, hs.dst, hs.jpeg, hs.control, hs.qtables,
      hs.hwfc, hs.enabled⟩, nofun⟩
    simp only [isCachedFormat, Bool.and_eq_true, beq_iff_eq] at hc
    rw [hc.1.1, hc.1.2, hc.2]
    exact hpack
  · rw [if_neg hc]
    dsimp only
    rw [if_pos (hok.resolve_left hc)]
    exact ⟨⟨hpack, nofun, hs.image, hs.planes, hs.dst, hs.jpeg, hs.control, hs.qtables,
      hs.hwfc, hs.enabled⟩, nofun⟩

theorem setImageBuffer_leaves (memory : Memory) {buffers : List (PlaneM × Nat)}
    (hs : Inv dev s r) (hlen : IsLengthRight s (buffers.map Prod.snd)) :
    Leaves dev r s
      { r with image := some ⟨memory, buffers.map Prod.fst, s.format.num_planes⟩ }
      (setImageBuffer s memory buffers) := by
  unfold setImageBuffer
  by_cases hn : buffers.length < s.format.num_planes
  · rw [if_pos hn]
    exact ⟨hs, fun _ => rfl⟩
  · rw [if_neg hn]
    have hlong := hlen.resolve_left (by rwa [List.length_map])
    have hok := setPlanes_isOk (i := 0) s.srcPlanes hlong
    have haddr := (setPlanes_ok (Nat.not_lt.mp hn) hok).2
    dsimp only
    rw [if_pos hok]
    refine ⟨⟨hs.format, hs.applied, rfl, ?_, hs.dst, hs.jpeg, hs.control, hs.qtables,
      hs.hwfc, hs.enabled⟩, nofun⟩
    intro im him
    cases him
    refine ⟨rfl, fun i hi => ?_⟩
    have h := haddr i hi
    rw [Nat.zero_add] at h
    exact h

theorem setQuality_leaves {q q2 : Nat} (hs : Inv dev s r) :
    Leaves dev r s ((r.setQuality .qFactor q).setQuality .qFactor2 q2) (setQuality s q q2) := by
  unfold setQuality
  split
  · exact ⟨hs, fun _ => rfl⟩
  · split
    · exact ⟨hs, fun _ => rfl⟩
    · exact ⟨setQuality_inv (setQuality_inv hs), nofun⟩

theorem setChromaSampFactor_leaves {h v : Nat} (hs : Inv dev s r) :
    Leaves dev r s { r with control := update r.control .chromFactor (chromaSubsampling h v) }
      (setChromaSampFactor s h v) := by
  unfold setChromaSampFactor
  cases hc : chromaSubsampling h v with
  | some value => exact ⟨setControl_inv hs, nofun⟩
  | none => exact ⟨hs, fun _ => rfl⟩

theorem setQtable_leaves {t : List Nat} (hs : Inv dev s r) :
    Leaves dev r s { r with qtables := some t } (setQtable s a t) := by
  unfold setQtable
  split
  · exact ⟨⟨hs.format, hs.applied, hs.image, hs.planes, hs.dst, hs.jpeg, hs.control,
      fun t' ht => ht, hs.hwfc, hs.enabled⟩, nofun⟩
  · exact ⟨hs, fun _ => rfl⟩

/-- A change of the auxiliary flags that `hwfc` follows. -/
theorem auxFlags_leaves {flags : BitVec 32} {hwfc : Bool} (hs : Inv dev s r)
    (h : hasHWFC flags = hwfc) :
    Leaves dev r s { r with hwfc := hwfc } ({ s with auxFlags := flags }, true) :=
  ⟨⟨hs.format, hs.applied, hs.image, hs.planes, hs.dst, hs.jpeg, hs.control, hs.qtables,
    h, hs.enabled⟩, nofun⟩

theorem setJpegUserptr_leaves {b l : Nat} (hs : Inv dev s r) :
    Leaves dev r s { r with jpeg := some ⟨.userptr, .userptr b, none⟩ } (setJpegUserptr s b l) := by
  refine ⟨⟨hs.format, hs.applied, hs.image, hs.planes, rfl, fun j hj => ?_, hs.control,
    hs.qtables, hs.hwfc, hs.enabled⟩, nofun⟩
  cases hj
  exact ⟨rfl, rfl, nofun⟩

theorem setJpegDmabuf_leaves {b o : Int} {l : Nat} (hs : Inv dev s r) :
    Leaves dev r s { r with jpeg := some ⟨.dmabuf, .fd b, some (toU32 o)⟩ }
      (setJpegDmabuf s b l o) := by
  refine ⟨⟨hs.format, hs.applied, hs.image, hs.planes, rfl, fun j hj => ?_, hs.control,
    hs.qtables, hs.hwfc, hs.enabled⟩, nofun⟩
  cases hj
  exact ⟨rfl, rfl, fun o' ho => by cases ho; rfl⟩

theorem exec_leaves {r : Run} {l : Call × Answers} (hs : Inv dev r.state r.settings)
    (hm : Meets dev r l) :
    Leaves dev r.settings r.state (r.settings.after r.state l.1) (exec dev r.state l.2 l.1) := by
  obtain ⟨c, a⟩ := l
  cases c with
  | setImageFormat f w h w2 h2 => exact setImageFormat_leaves hs hm.1 hm.2
  | setQuality q q2 => exact setQuality_leaves hs
  | setQtable t => exact setQtable_leaves hs
  | setChromaSampFactor h v => exact setChromaSampFactor_leaves hs
  | setAuxFlags f =>
    refine auxFlags_leaves hs ?_
    rw [hasHWFC_or, ← hs.hwfc]
    rfl
  | clearAuxFlags f =>
    refine auxFlags_leaves hs ?_
    rw [hasHWFC_and_not, ← hs.hwfc]
    rfl
  | setImageUserptr b =>
    have hright : IsLengthRight r.state (b.map Prod.snd) := hm
    have hlen : IsLengthRight r.state ((userptrBuffers b).map Prod.snd) := by
      simpa [userptrBuffers, Function.comp_def] using hright
    simpa [userptrBuffers, Function.comp_def, exec, Settings.after]
      using setImageBuffer_leaves .userptr hs hlen
  | setImageDmabuf b =>
    have hright : IsLengthRight r.state (b.map Prod.snd) := hm
    have hlen : IsLengthRight r.state ((dmabufBuffers b).map Prod.snd) := by
      simpa [dmabufBuffers, Function.comp_def] using hright
    simpa [dmabufBuffers, Function.comp_def, exec, Settings.after]
      using setImageBuffer_leaves .dmabuf hs hlen
  | setJpegUserptr b l => exact setJpegUserptr_leaves hs
  | setJpegDmabuf b l o => exact setJpegDmabuf_leaves hs
  | compress b =>
    have hends := (compress_ends (b := b) hs hm.1 hm.2).1
    refine ⟨?_, fun _ => hends.used⟩
    simp only [Settings.after, ite_self]
    exact hends.inv

/-- **In a run whose calls all meet the condition the driver has the settings of the
    last successful calls whenever a compression succeeds, and a call that fails
    leaves the settings as they were.** -/
theorem settings_hold {r : Run} {l : Call × Answers}
    (h : Reachable (· = Run.initial) (guarded (Meets dev) (Run.step dev)) r) (hm : Meets dev r l) :
    SettingsHold dev r l := by
  have hinv : Inv dev r.state r.settings := by
    refine h.invariant (I := fun r => Inv dev r.state r.settings) ?_ ?_
    · rintro _ rfl
      exact Inv.initial dev
    · rintro r l _ hr ⟨hmeets, rfl⟩
      exact (exec_leaves hr hmeets).1
  have hleaves := exec_leaves hinv hm
  unfold SettingsHold Run.exec
  obtain ⟨c, a⟩ := l
  cases hok : (exec dev r.state a c).2 with
  | false =>
    simp only [hok]
    exact hleaves.2 hok
  | true =>
    simp only [hok]
    rintro b rfl
    exact (compress_ends hinv hm.1 hm.2).2 hok

end Law

/-- The run of some calls. -/
def Run.ofCalls (dev : Device) (ls : List (Call × Answers)) : Run :=
  ls.foldl (fun r l => (r.exec dev l).1) .initial

theorem Run.ofCalls_reachable (dev : Device) (ls : List (Call × Answers)) :
    Reachable (· = Run.initial) (Run.step dev) (Run.ofCalls dev ls) := by
  unfold Run.ofCalls
  refine foldl_keeps (P := Reachable (· = Run.initial) (Run.step dev)) ?_ ls (.start rfl)
  intro r l hr
  exact .next hr rfl

/-- A device with one plane for every format, and all ioctls successful. -/
def rgbDevice : Device := ⟨fun _ w h => [w * h * 3]⟩

def allOk : Answers :=
  ⟨true, true, ⟨true, true, true⟩, true, true, ⟨true, true, true⟩, true, true, true, true,
    ⟨true, true, true⟩, true, true, false⟩

/-- Buffers and quality are set, and the controls fail in the first compression. -/
def lostQuality : List (Call × Answers) :=
  [(.setImageFormat V4L2_PIX_FMT_RGB24 64 64 0 0, allOk), (.setQuality 90 0, allOk),
    (.setImageUserptr [(4096, 12288)], allOk), (.setJpegUserptr 65536 12288, allOk),
    (.compress true, { allOk with extCtrls := false })]

/-- The quality that a failed compression could not set is lost for the next one,
    which succeeds; a format that the driver refuses stays in the cache; the address
    of an image that is too short stays too; and an image that is set before any
    format is not used at all. -/
theorem settings_lost :
    (∃ r l, Reachable (· = Run.initial) (Run.step rgbDevice) r ∧ ¬ SettingsHold rgbDevice r l) ∧
    ¬ SettingsHold rgbDevice (.ofCalls rgbDevice lostQuality) (.compress true, allOk) ∧
    ¬ SettingsHold rgbDevice .initial
      (.setImageFormat V4L2_PIX_FMT_RGB24 64 64 0 0, { allOk with tryFmt := false }) ∧
    ¬ SettingsHold rgbDevice (.ofCalls rgbDevice (lostQuality.take 3))
      (.setImageUserptr [(8192, 100)], allOk) ∧
    ¬ SettingsHold rgbDevice (.ofCalls rgbDevice
        [(.setImageUserptr [(4096, 768)], allOk), (.setJpegUserptr 65536 768, allOk)])
      (.compress true, allOk) := by
  have hquality : ¬ SettingsHold rgbDevice (.ofCalls rgbDevice lostQuality)
      (.compress true, allOk) := by
    intro h
    have hc := (h true rfl).control .qFactor 90 rfl
    exact absurd hc (by decide)
  refine ⟨⟨_, _, Run.ofCalls_reachable _ lostQuality, hquality⟩, hquality, ?_, ?_, ?_⟩
  · intro h
    have hf := congrArg Used.format h
    exact absurd hf (by decide)
  · intro h
    have hp := congrFun (congrArg Used.srcPlanes h) 0
    exact absurd hp (by decide)
  · intro h
    obtain ⟨f, hf, -, q, im, hq, him, -, -, haddr⟩ := (h true rfl).format
    cases hf
    cases hq
    cases him
    exact absurd (haddr 0 (by decide)) (by decide)

theorem settings_hold_compressed :
    SettingsHold rgbDevice (.ofCalls rgbDevice (lostQuality.take 4)) (.compress true, allOk) := by
  refine settings_hold (.next (.next (.next (.next (.start rfl) ⟨?_, rfl⟩) ⟨?_, rfl⟩) ⟨?_, rfl⟩)
    ⟨?_, rfl⟩) ?_
  · exact ⟨by decide, .inr rfl⟩
  · trivial
  · exact .inr (by decide)
  · trivial
  · refine ⟨.inr rfl, fun im him => ?_⟩
    cases him
    decide

end ExynosHal.JpegCompressor
