/-
  ExynosHal/GscalerRun.lean
  =========================
  **The run state of a Gscaler handle in memory-to-memory mode.**

  `m_gsc_m2m_run_core`, `m_gsc_m2m_wait_frame_done` and `m_gsc_m2m_stop` of
  `legacy_libgscaler/libgscaler_obj.cpp` with the setters of `libgscaler.cpp`.
  Both sides keep three flags about the driver: `stream_on`, `buffer_queued` and
  `dirty`.  A run is a long row of ioctls with two kinds of error exit, `return -1`
  and `goto done`, and only the second one stops the device.

  The answers of the driver are open: an ioctl of a call succeeds if `io` says so,
  and each is made at most once in a call.  What the driver holds (`Channel`) is
  what the ioctls that succeeded asked of it.  Addresses, plane sizes and fences
  are passed on to the driver and do not come back to the flags; they are left out.
-/
import ExynosHal.TransitionSystem

namespace ExynosHal.GscalerRun

open ExynosHal.TransitionSystem

/-! ### Data -/

inductive Side where
  | src
  | dst
deriving DecidableEq, Repr

/-- `V4L2_PIX_FMT_`. -/
inductive PixFmt where
  | RGB32 | BGR32 | RGB24 | RGB565 | RGB555X | RGB444 | YUYV | UYVY | NV16 | NV61
  | YVU420 | YUV420 | NV12 | NV21 | YUV422P | NV12M | NV12MT_16X16 | NV21M
  | YVU420M | YUV420M
  | other (fourcc : Nat)
deriving DecidableEq, Repr

structure Format where
  width : Nat
  height : Nat
  pixelformat : PixFmt
deriving DecidableEq, Repr

structure Crop where
  left : Nat
  top : Nat
  width : Nat
  height : Nat
deriving DecidableEq, Repr

/-- `GscInfo`. -/
structure GscInfo where
  width : Nat
  height : Nat
  crop_left : Nat
  crop_top : Nat
  crop_width : Nat
  crop_height : Nat
  v4l2_colorformat : PixFmt
  mode_drm : Nat
  cacheable : Nat
  rotation : Int
  flip_horizontal : Int
  flip_vertical : Int
  mem_type : Nat
  stream_on : Bool
  dirty : Bool
  buffer_queued : Bool
  /-- A format was ever set. -/
  configured : Bool
deriving DecidableEq, Repr

def GscInfo.format (info : GscInfo) : Format := ⟨info.width, info.height, info.v4l2_colorformat⟩

def GscInfo.crop (info : GscInfo) : Crop :=
  ⟨info.crop_left, info.crop_top, info.crop_width, info.crop_height⟩

/-- What the driver holds for one side. -/
structure Channel where
  format : Option Format
  crop : Option Crop
  /-- The requested buffer, with its kind of memory. -/
  buffer : Option Nat
  queued : Bool
  streaming : Bool
deriving DecidableEq, Repr

structure Port where
  info : GscInfo
  driver : Channel
deriving DecidableEq, Repr

/-- `CGscaler`; `src` and `dst` are `src_info` and `dst_info` with the driver's side. -/
structure Gscaler where
  src : Port
  dst : Port
  /-- `dst_img.rot`. -/
  rot : Nat
  allow_drm : Bool
  eq_auto : Nat
  range_full : Nat
  v4l2_colorspace : Nat
  /-- The content protection of the driver. -/
  protection : Bool
  /-- The colour space properties of the driver: mode, equation and range. -/
  csc : Nat × Nat × Nat
  /-- The last call was a run that failed. -/
  runFailed : Bool
deriving DecidableEq, Repr

/-- The ioctls, each by the place of its call. -/
inductive Ioctl where
  | DQBUF (side : Side)
  | protect
  | rotate (side : Side)
  | vflip (side : Side)
  | hflip (side : Side)
  | S_FMT (side : Side)
  | S_CROP (side : Side)
  | cacheable (side : Side)
  | REQBUFS (side : Side)
  | CSC_EQ_MODE
  | CSC_EQ
  | CSC_RANGE
  | QBUF (side : Side)
  | STREAMON (side : Side)
  | STREAMOFF (side : Side)
  | unprotect
  | clear (side : Side)
deriving DecidableEq, Repr

/-- Which ioctls of one call succeed. -/
abbrev Answers := Ioctl → Bool

/-! ### Checks -/

def GSC_MIN_SRC_W_SIZE : Nat := 64
def GSC_MIN_SRC_H_SIZE : Nat := 32
def GSC_MIN_DST_W_SIZE : Nat := 32
def GSC_MIN_DST_H_SIZE : Nat := 16

def m_gsc_check_src_size (info : GscInfo) (rotation : Bool) : Bool :=
  let shift := if info.v4l2_colorformat = .RGB32 ∨ info.v4l2_colorformat = .RGB565 then 1 else 0
  let minWidth := (if rotation then GSC_MIN_SRC_H_SIZE else GSC_MIN_SRC_W_SIZE) >>> shift
  let minHeight := (if rotation then GSC_MIN_SRC_W_SIZE else GSC_MIN_SRC_H_SIZE) >>> shift
  if info.width < minWidth ∨ info.height < minHeight then false
  else if info.crop_width < minWidth ∨ info.crop_height < minHeight then false
  else true

def m_gsc_check_dst_size (info : GscInfo) : Bool :=
  if info.width < GSC_MIN_DST_W_SIZE ∨ info.height < GSC_MIN_DST_H_SIZE then false
  else if info.crop_width < GSC_MIN_DST_W_SIZE ∨ info.crop_height < GSC_MIN_DST_H_SIZE then false
  else true

def m_gsc_get_plane_count : PixFmt → Int
  | .NV12M | .NV12MT_16X16 | .NV21M => 2
  | .YVU420M | .YUV420M => 3
  | .other _ => -1
  | _ => 1

/-- The rotation of `rotateValueHAL2GSC`, and its two flips. -/
def rotateValueHAL2GSC (transform : Nat) : Nat × Nat × Nat :=
  match transform % 8 with
  | 4 => (90, 0, 0)
  | 3 => (180, 0, 0)
  | 7 => (270, 0, 0)
  | 5 => (90, 0, 1)
  | 6 => (90, 1, 0)
  | 1 => (0, 1, 0)
  | 2 => (0, 0, 1)
  | _ => (0, 0, 0)

/-! ### One side -/

namespace Port

/-- `VIDIOC_DQBUF` where a buffer is queued; `none` when it fails. -/
def dequeue (io : Answers) (side : Side) (p : Port) : Option Port :=
  if p.info.buffer_queued then
    if io (.DQBUF side) then
      some ⟨{ p.info with buffer_queued := false }, { p.driver with queued := false }⟩
    else none
  else some p

def m_gsc_set_format (io : Answers) (side : Side) (p : Port) : Bool × Port :=
  if m_gsc_get_plane_count p.info.v4l2_colorformat < 0 then (false, p)
  else if !io (.rotate side) then (false, p)
  else if !io (.vflip side) then (false, p)
  else if !io (.hflip side) then (false, p)
  else if !io (.S_FMT side) then (false, p)
  else
    let p := { p with driver := { p.driver with format := some p.info.format } }
    if !io (.S_CROP side) then (false, p)
    else
      let p := { p with driver := { p.driver with crop := some p.info.crop } }
      if !io (.cacheable side) then (false, p)
      else if !io (.REQBUFS side) then (false, p)
      else
        (true, { p with driver :=
          { p.driver with buffer := some p.info.mem_type, queued := false } })

/-- The part of a run for one side that is dirty. -/
def configure (io : Answers) (side : Side) (p : Port) : Bool × Port :=
  if p.info.dirty then
    let set := p.m_gsc_set_format io side
    if set.1 then (true, { set.2 with info := { set.2.info with dirty := false } })
    else (false, set.2)
  else (true, p)

def m_gsc_set_addr (io : Answers) (side : Side) (p : Port) : Bool × Port :=
  if io (.QBUF side) then
    (true, ⟨{ p.info with buffer_queued := true }, { p.driver with queued := true }⟩)
  else (false, p)

def streamOn (io : Answers) (side : Side) (p : Port) : Bool × Port :=
  if p.info.stream_on then (true, p)
  else if io (.STREAMON side) then
    (true, ⟨{ p.info with stream_on := true }, { p.driver with streaming := true }⟩)
  else (false, p)

/-- `VIDIOC_STREAMOFF`, which gives the queued buffer back. -/
def streamOff (io : Answers) (side : Side) (p : Port) : Bool × Port :=
  if p.info.stream_on then
    (io (.STREAMOFF side), ⟨{ p.info with stream_on := false },
      if io (.STREAMOFF side) then { p.driver with streaming := false, queued := false }
      else p.driver⟩)
  else (true, p)

/-- `VIDIOC_REQBUFS` for no buffer. -/
def clearBuf (io : Answers) (side : Side) (p : Port) : Bool × Port :=
  (io (.clear side),
    if io (.clear side) then { p with driver := { p.driver with buffer := none, queued := false } }
    else p)

/-- `exynos_gsc_set_src_format` and `exynos_gsc_set_dst_format`. -/
def setFormat (format : Format) (crop : Crop) (cacheable mode_drm : Nat) (p : Port) : Port :=
  { p with info := { p.info with
      width := format.width, height := format.height
      crop_left := crop.left, crop_top := crop.top
      crop_width := crop.width, crop_height := crop.height
      v4l2_colorformat := format.pixelformat
      cacheable, mode_drm, dirty := true, configured := true } }

end Port

/-! ### The handle -/

namespace Gscaler

def m_gsc_m2m_stop (io : Answers) (g : Gscaler) : Int × Gscaler :=
  if !g.src.info.stream_on && !g.dst.info.stream_on then (0, g)
  else
    let mismatch := g.src.info.stream_on != g.dst.info.stream_on
    let src := g.src.streamOff io .src
    let dst := g.dst.streamOff io .dst
    let src' := src.2.clearBuf io .src
    let dst' := dst.2.clearBuf io .dst
    (if mismatch || !src.1 || !dst.1 || !io .unprotect || !src'.1 || !dst'.1 then -1 else 0,
      { g with
        src := src'.2
        dst := dst'.2
        protection := if io .unprotect then false else g.protection })

def m_gsc_m2m_wait_frame_done (io : Answers) (g : Gscaler) : Int × Gscaler :=
  if !g.src.info.stream_on || !g.dst.info.stream_on then (-1, g)
  else
    match g.src.dequeue io .src with
    | none => (-1, g)
    | some src =>
        match g.dst.dequeue io .dst with
        | none => (-1, { g with src })
        | some dst => (0, { g with src, dst })

/-- Where a part of a run leads: on, to `return -1`, or to `goto done`. -/
inductive Outcome where
  | next (g : Gscaler)
  | leave (g : Gscaler)
  | done (g : Gscaler)

def Outcome.andThen : Outcome → (Gscaler → Outcome) → Outcome
  | .next g, f => f g
  | o, _ => o

def is_dirty (g : Gscaler) : Bool := g.src.info.dirty || g.dst.info.dirty
def is_drm (g : Gscaler) : Bool := g.src.info.mode_drm != 0

/-- The tests at the start of a run. -/
def accepted (g : Gscaler) : Bool :=
  let rotate := (rotateValueHAL2GSC g.rot).1
  if g.is_dirty && g.src.info.mode_drm != g.dst.info.mode_drm then false
  else if g.is_drm && !g.allow_drm then false
  else if !m_gsc_check_src_size g.src.info (rotate == 90 || rotate == 270) then false
  else if !m_gsc_check_dst_size g.dst.info then false
  else true

/-- The buffers of the work before. -/
def dequeuePrevious (io : Answers) (g : Gscaler) : Outcome :=
  if g.src.info.stream_on then
    let waited := g.m_gsc_m2m_wait_frame_done io
    if waited.1 < 0 then .leave waited.2 else .next waited.2
  else .next g

def protect (io : Answers) (is_dirty is_drm : Bool) (g : Gscaler) : Outcome :=
  if is_dirty && g.allow_drm && is_drm then
    if io .protect then .next { g with protection := is_drm } else .leave g
  else .next g

def onSrc (f : Port → Bool × Port) (g : Gscaler) : Outcome :=
  if (f g.src).1 then .next { g with src := (f g.src).2 } else .done { g with src := (f g.src).2 }

def onDst (f : Port → Bool × Port) (g : Gscaler) : Outcome :=
  if (f g.dst).1 then .next { g with dst := (f g.dst).2 } else .done { g with dst := (f g.dst).2 }

/-- The colour space properties; a failure does not stop the device. -/
def setCsc (io : Answers) (is_dirty : Bool) (g : Gscaler) : Outcome :=
  if is_dirty then
    if !io .CSC_EQ_MODE then .leave g
    else
      let g := { g with csc := (g.eq_auto, g.csc.2) }
      if !io .CSC_EQ then .leave g
      else
        let g := { g with csc := (g.csc.1, g.v4l2_colorspace, g.csc.2.2) }
        if !io .CSC_RANGE then .leave g
        else .next { g with csc := (g.csc.1, g.csc.2.1, g.range_full) }
  else .next g

/-- The run behind its tests. -/
def runSteps (io : Answers) (is_dirty is_drm : Bool) (g : Gscaler) : Outcome :=
  (dequeuePrevious io g).andThen fun g =>
  (protect io is_dirty is_drm g).andThen fun g =>
  (onSrc (·.configure io .src) g).andThen fun g =>
  (onDst (·.configure io .dst) g).andThen fun g =>
  (setCsc io is_dirty g).andThen fun g =>
  (onSrc (·.m_gsc_set_addr io .src) g).andThen fun g =>
  (onDst (·.m_gsc_set_addr io .dst) g).andThen fun g =>
  (onSrc (·.streamOn io .src) g).andThen fun g =>
  onDst (·.streamOn io .dst) g

def m_gsc_m2m_run_core (io : Answers) (g : Gscaler) : Int × Gscaler :=
  if !g.accepted then (-1, g)
  else
    match runSteps io g.is_dirty g.is_drm g with
    | .next g => (0, g)
    | .leave g => (-1, g)
    | .done g => (-1, (g.m_gsc_m2m_stop io).2)

/-- An image of `m_gsc_m2m_config`, in the pixel formats of the driver. -/
structure Img where
  format : Format
  crop : Crop
  rot : Nat
  cacheable : Nat
  drmMode : Nat
deriving DecidableEq, Repr

def exynos_gsc_set_rotation (rotation flip_horizontal flip_vertical : Int) (g : Gscaler) :
    Int × Gscaler :=
  let new_rotation := rotation.tmod 360
  if new_rotation.tmod 90 ≠ 0 then (-1, g)
  else
    let new_rotation := if new_rotation < 0 then -new_rotation else new_rotation
    (0, { g with dst := { g.dst with info := { g.dst.info with
      rotation := new_rotation, flip_horizontal, flip_vertical } } })

def m_gsc_m2m_config (src_img dst_img : Img) (g : Gscaler) : Int × Gscaler :=
  if (src_img.drmMode ≠ 0 ∧ g.allow_drm = false) ∨ src_img.drmMode ≠ dst_img.drmMode then (-1, g)
  else
    let turned := rotateValueHAL2GSC dst_img.rot
    let g := (g.exynos_gsc_set_rotation turned.1 turned.2.1 turned.2.2).2
    (0, { g with
      src := g.src.setFormat src_img.format src_img.crop src_img.cacheable src_img.drmMode
      dst := g.dst.setFormat dst_img.format dst_img.crop dst_img.cacheable dst_img.drmMode })

end Gscaler

/-- The calls on one handle. -/
inductive Call where
  | config (src_img dst_img : Gscaler.Img)
  | setFormat (side : Side) (format : Format) (crop : Crop) (cacheable mode_drm : Nat)
  | setRotation (rotation flip_horizontal flip_vertical : Int)
  | setCscProperty (eq_auto range_full v4l2_colorspace : Nat)
  | setAddr (side : Side) (mem_type : Nat)
  | run (io : Answers)
  | waitFrameDone (io : Answers)
  | stop (io : Answers)

/-- A change of one side of the handle. -/
def Gscaler.atSide (side : Side) (f : Port → Port) (g : Gscaler) : Gscaler :=
  match side with
  | .src => { g with src := f g.src }
  | .dst => { g with dst := f g.dst }

def step (g : Gscaler) : Call → Gscaler
  | .config src_img dst_img => { (g.m_gsc_m2m_config src_img dst_img).2 with runFailed := false }
  | .setFormat side format crop cacheable mode_drm =>
      { g.atSide side (·.setFormat format crop cacheable mode_drm) with runFailed := false }
  | .setRotation rotation flip_horizontal flip_vertical =>
      { (g.exynos_gsc_set_rotation rotation flip_horizontal flip_vertical).2 with
        runFailed := false }
  | .setCscProperty eq_auto range_full v4l2_colorspace =>
      { g with eq_auto, range_full, v4l2_colorspace, runFailed := false }
  | .setAddr side mem_type =>
      { g.atSide side (fun p => { p with info := { p.info with mem_type } }) with
        runFailed := false }
  | .run io =>
      { (g.m_gsc_m2m_run_core io).2 with runFailed := decide ((g.m_gsc_m2m_run_core io).1 < 0) }
  | .waitFrameDone io => { (g.m_gsc_m2m_wait_frame_done io).2 with runFailed := false }
  | .stop io => { (g.m_gsc_m2m_stop io).2 with runFailed := false }

/-! ### The property -/

/-- The flags of one side agree with the driver. -/
def Port.Agrees (p : Port) : Prop :=
  p.info.stream_on = p.driver.streaming ∧
  (p.info.buffer_queued = true → p.driver.queued = true) ∧
  (p.info.configured = true → p.info.dirty = false →
    p.driver.format = some p.info.format ∧ p.driver.crop = some p.info.crop ∧
      p.driver.buffer.isSome = true)

/-- The driver is stopped without a buffer, and the next run configures the side. -/
def Port.Released (p : Port) : Prop :=
  p.driver.streaming = false ∧ p.driver.buffer = none ∧
  (p.info.configured = true → p.info.dirty = true)

def Gscaler.Released (g : Gscaler) : Prop :=
  g.src.Released ∧ g.dst.Released ∧ g.protection = false

/-- The flags agree with the driver, and a run that failed has released everything. -/
def Gscaler.Agrees (g : Gscaler) : Prop :=
  g.src.Agrees ∧ g.dst.Agrees ∧ (g.runFailed = true → g.Released)

instance (p : Port) : Decidable p.Agrees := inferInstanceAs (Decidable (_ ∧ _ ∧ (_ → _ → _)))
instance (p : Port) : Decidable p.Released := inferInstanceAs (Decidable (_ ∧ _ ∧ (_ → _)))
instance (g : Gscaler) : Decidable g.Released := inferInstanceAs (Decidable (_ ∧ _ ∧ _))
instance (g : Gscaler) : Decidable g.Agrees := inferInstanceAs (Decidable (_ ∧ _ ∧ (_ → _)))

/-! ### The condition -/

/-- Every ioctl of `m_gsc_set_format` succeeds. -/
def FormatTaken (io : Answers) (side : Side) (p : Port) : Prop :=
  0 ≤ m_gsc_get_plane_count p.info.v4l2_colorformat ∧ io (.rotate side) = true ∧
  io (.vflip side) = true ∧ io (.hflip side) = true ∧ io (.S_FMT side) = true ∧
  io (.S_CROP side) = true ∧ io (.cacheable side) = true ∧ io (.REQBUFS side) = true

/-- The buffers of the work before come back. -/
def Waits (io : Answers) (g : Gscaler) : Prop :=
  g.src.info.stream_on = true → g.dst.info.stream_on = true ∧
    (g.src.info.buffer_queued = true → io (.DQBUF .src) = true) ∧
    (g.dst.info.buffer_queued = true → io (.DQBUF .dst) = true)

/-- The run asks for content protection. -/
def AsksProtection (g : Gscaler) : Prop :=
  g.is_dirty = true ∧ g.allow_drm = true ∧ g.is_drm = true

/-- Nothing of a run fails. -/
def Succeeds (io : Answers) (g : Gscaler) : Prop :=
  g.accepted = true ∧ Waits io g ∧ (AsksProtection g → io .protect = true) ∧
  (g.src.info.dirty = true → FormatTaken io .src g.src) ∧
  (g.dst.info.dirty = true → FormatTaken io .dst g.dst) ∧
  (g.is_dirty = true → io .CSC_EQ_MODE = true ∧ io .CSC_EQ = true ∧ io .CSC_RANGE = true) ∧
  io (.QBUF .src) = true ∧ io (.QBUF .dst) = true ∧
  (g.src.info.stream_on = false → io (.STREAMON .src) = true) ∧
  (g.dst.info.stream_on = false → io (.STREAMON .dst) = true)

/-- A run fails before the driver holds anything of it: in its tests, in the
    protection, or in the format of the source where no protection was asked for. -/
def FailsEarly (io : Answers) (g : Gscaler) : Prop :=
  g.accepted = false ∨ (AsksProtection g ∧ io .protect = false) ∨
  (¬ AsksProtection g ∧ g.src.info.dirty = true ∧ ¬ FormatTaken io .src g.src)

/-- A run on a streaming device fails in the format of the source, with the
    destination dirty as well, and the stop gives everything back. -/
def CleansUp (io : Answers) (g : Gscaler) : Prop :=
  g.accepted = true ∧ g.src.info.stream_on = true ∧ Waits io g ∧
  (AsksProtection g → io .protect = true) ∧
  g.src.info.dirty = true ∧ g.dst.info.dirty = true ∧ ¬ FormatTaken io .src g.src ∧
  io (.STREAMOFF .src) = true ∧ io (.STREAMOFF .dst) = true ∧
  io (.clear .src) = true ∧ io (.clear .dst) = true ∧
  (io .unprotect = true ∨ (¬ AsksProtection g ∧ g.protection = false))

/-- A stop of a streaming device leaves this side right: it stops, nothing was
    queued, and it keeps its buffer or is dirty. -/
def StopKeeps (io : Answers) (side : Side) (p : Port) : Prop :=
  (p.info.stream_on = true → io (.STREAMOFF side) = true) ∧
  (p.info.buffer_queued = true → p.info.stream_on = false ∧ io (.clear side) = false) ∧
  (p.info.configured = true → p.info.dirty = false → io (.clear side) = false)

/-- The condition on a call and on the state before it. -/
def Keeps (g : Gscaler) : Call → Prop
  | .run io => Succeeds io g ∨ (g.Released ∧ FailsEarly io g) ∨ CleansUp io g
  | .stop io => (g.src.info.stream_on = false ∧ g.dst.info.stream_on = false) ∨
      (StopKeeps io .src g.src ∧ StopKeeps io .dst g.dst)
  | _ => True

instance (io : Answers) (side : Side) (p : Port) : Decidable (FormatTaken io side p) :=
  inferInstanceAs (Decidable (_ ∧ _ ∧ _ ∧ _ ∧ _ ∧ _ ∧ _ ∧ _))
instance (io : Answers) (g : Gscaler) : Decidable (Waits io g) :=
  inferInstanceAs (Decidable (_ → _ ∧ (_ → _) ∧ (_ → _)))
instance (g : Gscaler) : Decidable (AsksProtection g) := inferInstanceAs (Decidable (_ ∧ _ ∧ _))
instance (io : Answers) (g : Gscaler) : Decidable (Succeeds io g) :=
  inferInstanceAs (Decidable (_ ∧ _ ∧ (_ → _) ∧ (_ → _) ∧ (_ → _) ∧ (_ → _) ∧ _ ∧ _ ∧
    (_ → _) ∧ (_ → _)))
instance (io : Answers) (g : Gscaler) : Decidable (FailsEarly io g) :=
  inferInstanceAs (Decidable (_ ∨ (_ ∧ _) ∨ (¬ _ ∧ _ ∧ ¬ _)))
instance (io : Answers) (g : Gscaler) : Decidable (CleansUp io g) :=
  inferInstanceAs (Decidable (_ ∧ _ ∧ _ ∧ (_ → _) ∧ _ ∧ _ ∧ ¬ _ ∧ _ ∧ _ ∧ _ ∧ _ ∧
    (_ ∨ (¬ _ ∧ _))))
instance (io : Answers) (side : Side) (p : Port) : Decidable (StopKeeps io side p) :=
  inferInstanceAs (Decidable ((_ → _) ∧ (_ → _) ∧ (_ → _ → _)))
instance (g : Gscaler) : (call : Call) → Decidable (Keeps g call)
  | .run _ => inferInstanceAs (Decidable (_ ∨ (_ ∧ _) ∨ _))
  | .stop _ => inferInstanceAs (Decidable ((_ ∧ _) ∨ (_ ∧ _)))
  | .config _ _ | .setFormat _ _ _ _ _ | .setRotation _ _ _ | .setCscProperty _ _ _
  | .setAddr _ _ | .waitFrameDone _ => .isTrue trivial

/-! ### The setters -/

namespace Port

theorem Agrees.setFormat {p : Port} (h : p.Agrees) (format : Format) (crop : Crop)
    (cacheable mode_drm : Nat) : (p.setFormat format crop cacheable mode_drm).Agrees := by
  obtain ⟨hstream, hqueued, -⟩ := h
  refine ⟨hstream, hqueued, ?_⟩
  intro _ hdirty
  cases hdirty

theorem Agrees.memType {p : Port} (h : p.Agrees) (mem_type : Nat) :
    Agrees { p with info := { p.info with mem_type } } := h

theorem Agrees.rotation {p : Port} (h : p.Agrees) (rotation flip_horizontal flip_vertical : Int) :
    Agrees { p with info := { p.info with rotation, flip_horizontal, flip_vertical } } := h

end Port

theorem exynos_gsc_set_rotation_agrees {g : Gscaler} (hsrc : g.src.Agrees) (hdst : g.dst.Agrees)
    (rotation flip_horizontal flip_vertical : Int) :
    (g.exynos_gsc_set_rotation rotation flip_horizontal flip_vertical).2.src.Agrees ∧
      (g.exynos_gsc_set_rotation rotation flip_horizontal flip_vertical).2.dst.Agrees := by
  unfold Gscaler.exynos_gsc_set_rotation
  dsimp only
  split
  · exact ⟨hsrc, hdst⟩
  · exact ⟨hsrc, hdst.rotation _ _ _⟩

theorem m_gsc_m2m_config_agrees {g : Gscaler} (hsrc : g.src.Agrees) (hdst : g.dst.Agrees)
    (src_img dst_img : Gscaler.Img) :
    (g.m_gsc_m2m_config src_img dst_img).2.src.Agrees ∧
      (g.m_gsc_m2m_config src_img dst_img).2.dst.Agrees := by
  unfold Gscaler.m_gsc_m2m_config
  dsimp only
  split
  · exact ⟨hsrc, hdst⟩
  · obtain ⟨hsrc', hdst'⟩ := exynos_gsc_set_rotation_agrees hsrc hdst
      (rotateValueHAL2GSC dst_img.rot).1 (rotateValueHAL2GSC dst_img.rot).2.1
      (rotateValueHAL2GSC dst_img.rot).2.2
    exact ⟨hsrc'.setFormat _ _ _ _, hdst'.setFormat _ _ _ _⟩

/-! ### Waiting -/

namespace Port

/-- A side whose buffer came back. -/
def dequeued (p : Port) : Port :=
  if p.info.buffer_queued then
    ⟨{ p.info with buffer_queued := false }, { p.driver with queued := false }⟩
  else p

theorem dequeue_eq_some_iff {io : Answers} {side : Side} {p p' : Port} :
    p.dequeue io side = some p' ↔
      (p.info.buffer_queued = true → io (.DQBUF side) = true) ∧ p' = p.dequeued := by
  unfold dequeue dequeued
  by_cases hqueued : p.info.buffer_queued = true
  · by_cases hio : io (.DQBUF side) = true
    · simp only [hqueued, hio, if_true, Option.some.injEq, implies_true, true_and]
      exact eq_comm
    · simp [hqueued, hio]
  · simp only [hqueued, Bool.false_eq_true, if_false, Option.some.injEq, false_implies, true_and]
    exact eq_comm

@[simp] theorem dequeued_stream_on (p : Port) : p.dequeued.info.stream_on = p.info.stream_on := by
  unfold dequeued
  split <;> rfl

@[simp] theorem dequeued_dirty (p : Port) : p.dequeued.info.dirty = p.info.dirty := by
  unfold dequeued
  split <;> rfl

@[simp] theorem dequeued_colorformat (p : Port) :
    p.dequeued.info.v4l2_colorformat = p.info.v4l2_colorformat := by
  unfold dequeued
  split <;> rfl

@[simp] theorem dequeued_buffer_queued (p : Port) : p.dequeued.info.buffer_queued = false := by
  unfold dequeued
  cases h : p.info.buffer_queued with
  | false => exact h
  | true => rfl

theorem Agrees.dequeued {p : Port} (h : p.Agrees) : p.dequeued.Agrees := by
  obtain ⟨hstream, hqueued, hheld⟩ := h
  unfold Port.dequeued
  split
  · refine ⟨hstream, ?_, hheld⟩
    intro h
    cases h
  · exact ⟨hstream, hqueued, hheld⟩

end Port

theorem m_gsc_m2m_wait_frame_done_agrees {g : Gscaler} (hsrc : g.src.Agrees)
    (hdst : g.dst.Agrees) (io : Answers) :
    (g.m_gsc_m2m_wait_frame_done io).2.src.Agrees ∧
      (g.m_gsc_m2m_wait_frame_done io).2.dst.Agrees := by
  unfold Gscaler.m_gsc_m2m_wait_frame_done
  split
  · exact ⟨hsrc, hdst⟩
  · split
    · exact ⟨hsrc, hdst⟩
    · rename_i src hdequeue
      obtain ⟨-, rfl⟩ := Port.dequeue_eq_some_iff.mp hdequeue
      split
      · exact ⟨hsrc.dequeued, hdst⟩
      · rename_i dst hdequeue'
        obtain ⟨-, rfl⟩ := Port.dequeue_eq_some_iff.mp hdequeue'
        exact ⟨hsrc.dequeued, hdst.dequeued⟩

/-! ### Stopping -/

/-- One side of a stop. -/
def Port.stopped (io : Answers) (side : Side) (p : Port) : Port :=
  ((p.streamOff io side).2.clearBuf io side).2

namespace Port

section Stopped

variable (io : Answers) (side : Side) (p : Port)

@[simp] theorem stopped_info :
    (p.stopped io side).info = { p.info with stream_on := false } := by
  obtain ⟨info, driver⟩ := p
  cases hon : info.stream_on with
  | true => cases hclear : io (.clear side) <;> simp [stopped, streamOff, clearBuf, hon, hclear]
  | false =>
    cases info
    cases hclear : io (.clear side) <;> simp_all [stopped, streamOff, clearBuf]

@[simp] theorem stopped_format : (p.stopped io side).driver.format = p.driver.format := by
  simp only [stopped, streamOff, clearBuf]
  split <;> split <;> (try split) <;> rfl

@[simp] theorem stopped_crop : (p.stopped io side).driver.crop = p.driver.crop := by
  simp only [stopped, streamOff, clearBuf]
  split <;> split <;> (try split) <;> rfl

theorem stopped_streaming : (p.stopped io side).driver.streaming =
    if p.info.stream_on && io (.STREAMOFF side) then false else p.driver.streaming := by
  cases hon : p.info.stream_on <;> cases hoff : io (.STREAMOFF side) <;>
    cases hclear : io (.clear side) <;> simp [stopped, streamOff, clearBuf, hon, hoff, hclear]

theorem stopped_buffer : (p.stopped io side).driver.buffer =
    if io (.clear side) then none else p.driver.buffer := by
  cases hon : p.info.stream_on <;> cases hoff : io (.STREAMOFF side) <;>
    cases hclear : io (.clear side) <;> simp [stopped, streamOff, clearBuf, hon, hoff, hclear]

theorem stopped_queued : (p.stopped io side).driver.queued =
    if io (.clear side) || (p.info.stream_on && io (.STREAMOFF side)) then false
    else p.driver.queued := by
  cases hon : p.info.stream_on <;> cases hoff : io (.STREAMOFF side) <;>
    cases hclear : io (.clear side) <;> simp [stopped, streamOff, clearBuf, hon, hoff, hclear]

end Stopped

theorem stopped_agrees {io : Answers} {side : Side} {p : Port} (h : p.Agrees)
    (hkeeps : StopKeeps io side p) : (p.stopped io side).Agrees := by
  obtain ⟨hstream, hqueued, hheld⟩ := h
  obtain ⟨hoff, hback, hbuffer⟩ := hkeeps
  refine ⟨?_, ?_, ?_⟩
  · rw [stopped_info, stopped_streaming]
    cases hon : p.info.stream_on with
    | true => simp [hoff hon]
    | false => simpa [hon] using hstream
  · rw [stopped_info, stopped_queued]
    intro hq
    obtain ⟨hon, hclear⟩ := hback hq
    simpa [hon, hclear] using hqueued hq
  · rw [stopped_info, stopped_format, stopped_crop, stopped_buffer]
    intro hconf hdirty
    rw [hbuffer hconf hdirty, if_neg (by decide)]
    exact hheld hconf hdirty

end Port

theorem m_gsc_m2m_stop_idle {g : Gscaler} (hsrc : g.src.info.stream_on = false)
    (hdst : g.dst.info.stream_on = false) (io : Answers) : g.m_gsc_m2m_stop io = (0, g) := by
  simp [Gscaler.m_gsc_m2m_stop, hsrc, hdst]

theorem m_gsc_m2m_stop_streaming {g : Gscaler}
    (hon : ¬ (g.src.info.stream_on = false ∧ g.dst.info.stream_on = false)) (io : Answers) :
    (g.m_gsc_m2m_stop io).2 = { g with
      src := g.src.stopped io .src
      dst := g.dst.stopped io .dst
      protection := if io .unprotect then false else g.protection } := by
  unfold Gscaler.m_gsc_m2m_stop
  rw [if_neg (by simpa using hon)]
  rfl

theorem m_gsc_m2m_stop_agrees {g : Gscaler} (hsrc : g.src.Agrees) (hdst : g.dst.Agrees)
    {io : Answers} (hkeeps : Keeps g (.stop io)) :
    (g.m_gsc_m2m_stop io).2.src.Agrees ∧ (g.m_gsc_m2m_stop io).2.dst.Agrees := by
  by_cases hon : g.src.info.stream_on = false ∧ g.dst.info.stream_on = false
  · rw [m_gsc_m2m_stop_idle hon.1 hon.2]
    exact ⟨hsrc, hdst⟩
  · rw [m_gsc_m2m_stop_streaming hon]
    rcases hkeeps with hoff | ⟨hksrc, hkdst⟩
    · exact absurd hoff hon
    · exact ⟨Port.stopped_agrees hsrc hksrc, Port.stopped_agrees hdst hkdst⟩

/-! ### A run that succeeds -/

namespace Port

/-- A side after `m_gsc_set_format`, where it was dirty. -/
def configured (p : Port) : Port :=
  if p.info.dirty then
    ⟨{ p.info with dirty := false },
      { p.driver with
        format := some p.info.format
        crop := some p.info.crop
        buffer := some p.info.mem_type
        queued := false }⟩
  else p

/-- A side whose buffer is queued and whose stream is on. -/
def running (p : Port) : Port :=
  ⟨{ p.info with buffer_queued := true, stream_on := true },
    { p.driver with
      queued := true
      streaming := if p.info.stream_on then p.driver.streaming else true }⟩

theorem m_gsc_set_format_taken {io : Answers} {side : Side} {p : Port}
    (h : FormatTaken io side p) : p.m_gsc_set_format io side =
      (true, { p with driver := { p.driver with
        format := some p.info.format
        crop := some p.info.crop
        buffer := some p.info.mem_type
        queued := false } }) := by
  obtain ⟨hplanes, hrotate, hvflip, hhflip, hfmt, hcrop, hcache, hreq⟩ := h
  simp [m_gsc_set_format, Int.not_lt.mpr hplanes, hrotate, hvflip, hhflip, hfmt, hcrop, hcache,
    hreq]

/-- A format that is not taken leaves the buffer, the queue and the stream alone. -/
theorem m_gsc_set_format_refused {io : Answers} {side : Side} {p : Port}
    (h : ¬ FormatTaken io side p) :
    (p.m_gsc_set_format io side).1 = false ∧
      (p.m_gsc_set_format io side).2.info = p.info ∧
      (p.m_gsc_set_format io side).2.driver.buffer = p.driver.buffer ∧
      (p.m_gsc_set_format io side).2.driver.queued = p.driver.queued ∧
      (p.m_gsc_set_format io side).2.driver.streaming = p.driver.streaming := by
  unfold m_gsc_set_format
  dsimp only
  split
  · exact ⟨rfl, rfl, rfl, rfl, rfl⟩
  · rename_i hplanes
    split
    · exact ⟨rfl, rfl, rfl, rfl, rfl⟩
    · rename_i hrotate
      split
      · exact ⟨rfl, rfl, rfl, rfl, rfl⟩
      · rename_i hvflip
        split
        · exact ⟨rfl, rfl, rfl, rfl, rfl⟩
        · rename_i hhflip
          split
          · exact ⟨rfl, rfl, rfl, rfl, rfl⟩
          · rename_i hfmt
            split
            · exact ⟨rfl, rfl, rfl, rfl, rfl⟩
            · rename_i hcrop
              split
              · exact ⟨rfl, rfl, rfl, rfl, rfl⟩
              · rename_i hcache
                split
                · exact ⟨rfl, rfl, rfl, rfl, rfl⟩
                · rename_i hreq
                  simp only [Bool.not_eq_true', Bool.not_eq_false] at *
                  exact absurd ⟨Int.not_lt.mp hplanes, hrotate, hvflip, hhflip, hfmt, hcrop,
                    hcache, hreq⟩ h

theorem configure_taken {io : Answers} {side : Side} {p : Port}
    (h : p.info.dirty = true → FormatTaken io side p) :
    p.configure io side = (true, p.configured) := by
  unfold configure configured
  cases hdirty : p.info.dirty with
  | false => rfl
  | true => simp [m_gsc_set_format_taken (h hdirty)]

end Port

namespace Port

/-- A side behind the part of a run that waits for the work before. -/
def waited (waits : Bool) (p : Port) : Port := if waits then p.dequeued else p

@[simp] theorem waited_stream_on (waits : Bool) (p : Port) :
    (p.waited waits).info.stream_on = p.info.stream_on := by
  cases waits with
  | false => rfl
  | true => exact p.dequeued_stream_on

@[simp] theorem waited_dirty (waits : Bool) (p : Port) :
    (p.waited waits).info.dirty = p.info.dirty := by
  cases waits with
  | false => rfl
  | true => exact p.dequeued_dirty

theorem formatTaken_waited {io : Answers} {side : Side} {waits : Bool} {p : Port} :
    FormatTaken io side (p.waited waits) ↔ FormatTaken io side p := by
  unfold FormatTaken
  cases waits with
  | false => rfl
  | true =>
    simp only [waited, if_true]
    rw [dequeued_colorformat]

theorem Agrees.waited {p : Port} (h : p.Agrees) (waits : Bool) : (p.waited waits).Agrees := by
  cases waits with
  | false => exact h
  | true => exact h.dequeued

@[simp] theorem configured_stream_on (p : Port) :
    p.configured.info.stream_on = p.info.stream_on := by
  unfold configured
  split <;> rfl

end Port

/-- What a run that succeeds makes of a side. -/
def Port.ran (waits : Bool) (p : Port) : Port := (p.waited waits).configured.running

/-- The flags of a side agree after a run that succeeded. -/
theorem Port.ran_agrees {p : Port} (h : p.Agrees) (waits : Bool) : (p.ran waits).Agrees := by
  have hwaited := h.waited waits
  unfold Port.ran
  generalize p.waited waits = q at hwaited ⊢
  obtain ⟨hstream, hqueued, hheld⟩ := hwaited
  refine ⟨?_, fun _ => rfl, ?_⟩
  · unfold Port.running Port.configured
    cases q.info.dirty <;> cases hon : q.info.stream_on <;> simp_all
  intro hconf hdirty
  unfold Port.running Port.configured at *
  cases hq : q.info.dirty with
  | true => simp [GscInfo.format, GscInfo.crop]
  | false =>
    simp only [hq, Bool.false_eq_true, if_false] at hconf ⊢
    exact hheld hconf hq

namespace Gscaler

theorem dequeuePrevious_waits {io : Answers} {g : Gscaler} (h : Waits io g) :
    dequeuePrevious io g = .next { g with
      src := g.src.waited g.src.info.stream_on
      dst := g.dst.waited g.src.info.stream_on } := by
  unfold dequeuePrevious
  cases hon : g.src.info.stream_on with
  | false => rfl
  | true =>
    obtain ⟨hdst, hbsrc, hbdst⟩ := h hon
    have hsrc := Port.dequeue_eq_some_iff.mpr ⟨hbsrc, rfl⟩
    have hdst' := Port.dequeue_eq_some_iff.mpr ⟨hbdst, rfl⟩
    simp [m_gsc_m2m_wait_frame_done, hon, hdst, hsrc, hdst', Port.waited]

theorem protect_next {io : Answers} {is_dirty is_drm : Bool} {g : Gscaler}
    (h : (is_dirty && g.allow_drm && is_drm) = true → io .protect = true) :
    ∃ protection, protect io is_dirty is_drm g = .next { g with protection } ∧
      ((is_dirty && g.allow_drm && is_drm) = false → protection = g.protection) := by
  unfold protect
  cases hask : is_dirty && g.allow_drm && is_drm with
  | false => exact ⟨g.protection, by simp⟩
  | true => exact ⟨is_drm, by simp [h hask]⟩

theorem onSrc_done {f : Port → Bool × Port} {g : Gscaler} {p : Port} (h : f g.src = (false, p)) :
    onSrc f g = .done { g with src := p } := by
  simp [onSrc, h]

theorem setCsc_next {io : Answers} {is_dirty : Bool} {g : Gscaler}
    (h : is_dirty = true → io .CSC_EQ_MODE = true ∧ io .CSC_EQ = true ∧ io .CSC_RANGE = true) :
    ∃ csc, setCsc io is_dirty g = .next { g with csc } := by
  unfold setCsc
  cases hdirty : is_dirty with
  | false => exact ⟨g.csc, by simp⟩
  | true =>
    obtain ⟨hmode, heq, hrange⟩ := h hdirty
    refine ⟨(g.eq_auto, g.v4l2_colorspace, g.range_full), ?_⟩
    simp only [hmode, heq, hrange, if_true, Bool.not_true, Bool.false_eq_true, if_false]

/-- Queueing and turning the stream on makes a side run. -/
theorem streamOn_queued {io : Answers} {side : Side} {p : Port}
    (hon : p.info.stream_on = false → io (.STREAMON side) = true) :
    Port.streamOn io side
      ⟨{ p.info with buffer_queued := true }, { p.driver with queued := true }⟩ =
        (true, p.running) := by
  unfold Port.streamOn Port.running
  cases h : p.info.stream_on with
  | false => simp [hon h]
  | true => simp [h]

theorem m_gsc_set_addr_queued {io : Answers} {side : Side} {p : Port}
    (h : io (.QBUF side) = true) : p.m_gsc_set_addr io side =
      (true, ⟨{ p.info with buffer_queued := true }, { p.driver with queued := true }⟩) := by
  simp [Port.m_gsc_set_addr, h]

/-- **A run in which nothing fails** returns success, and both sides run. -/
theorem m_gsc_m2m_run_core_succeeds {io : Answers} {g : Gscaler} (h : Succeeds io g) :
    ∃ g', g.m_gsc_m2m_run_core io = (0, g') ∧ g'.src = g.src.ran g.src.info.stream_on ∧
      g'.dst = g.dst.ran g.src.info.stream_on := by
  obtain ⟨haccepted, hwaits, hprotect, hsrc, hdst, hcsc, hqsrc, hqdst, honsrc, hondst⟩ := h
  have hask : (g.is_dirty && g.allow_drm && g.is_drm) = true → io .protect = true := by
    intro hask
    simp only [Bool.and_eq_true] at hask
    exact hprotect ⟨hask.1.1, hask.1.2, hask.2⟩
  have hsrc' : (g.src.waited g.src.info.stream_on).configure io .src =
      (true, (g.src.waited g.src.info.stream_on).configured) := by
    refine Port.configure_taken ?_
    rw [Port.waited_dirty, Port.formatTaken_waited]
    exact hsrc
  have hdst' : (g.dst.waited g.src.info.stream_on).configure io .dst =
      (true, (g.dst.waited g.src.info.stream_on).configured) := by
    refine Port.configure_taken ?_
    rw [Port.waited_dirty, Port.formatTaken_waited]
    exact hdst
  have hrun : ∃ g', runSteps io g.is_dirty g.is_drm g = .next g' ∧
      g'.src = g.src.ran g.src.info.stream_on ∧ g'.dst = g.dst.ran g.src.info.stream_on := by
    have honsrc' := @streamOn_queued io .src (g.src.waited g.src.info.stream_on).configured
      (by simpa using honsrc)
    have hondst' := @streamOn_queued io .dst (g.dst.waited g.src.info.stream_on).configured
      (by simpa using hondst)
    unfold runSteps
    rw [dequeuePrevious_waits hwaits]
    simp only [Outcome.andThen]
    obtain ⟨protection, hprotected, -⟩ := protect_next (g := { g with
      src := g.src.waited g.src.info.stream_on
      dst := g.dst.waited g.src.info.stream_on }) hask
    rw [hprotected]
    simp only [onSrc, onDst, hsrc', hdst', if_true]
    obtain ⟨csc, hcsc'⟩ := setCsc_next (g := { g with
      src := (g.src.waited g.src.info.stream_on).configured
      dst := (g.dst.waited g.src.info.stream_on).configured
      protection }) hcsc
    rw [hcsc']
    simp only [m_gsc_set_addr_queued hqsrc, m_gsc_set_addr_queued hqdst, honsrc', hondst', if_true]
    exact ⟨_, rfl, rfl, rfl⟩
  obtain ⟨g', hnext, hports⟩ := hrun
  refine ⟨g', ?_, hports⟩
  simp [m_gsc_m2m_run_core, haccepted, hnext]

end Gscaler

/-! ### A run that fails -/

namespace Port

theorem Agrees.refused {p : Port} (h : p.Agrees) (hdirty : p.info.dirty = true) {io : Answers}
    {side : Side} (hrefused : ¬ FormatTaken io side p) :
    (p.m_gsc_set_format io side).2.Agrees := by
  obtain ⟨hstream, hqueued, -⟩ := h
  obtain ⟨-, hinfo, -, hq, hs⟩ := m_gsc_set_format_refused hrefused
  refine ⟨?_, ?_, ?_⟩
  · rw [hinfo, hs]
    exact hstream
  · rw [hinfo, hq]
    exact hqueued
  · rw [hinfo, hdirty]
    intro _ hclean
    cases hclean

theorem Released.refused {p : Port} (h : p.Released) {io : Answers} {side : Side}
    (hrefused : ¬ FormatTaken io side p) : (p.m_gsc_set_format io side).2.Released := by
  obtain ⟨hstream, hbuffer, hdirty⟩ := h
  obtain ⟨-, hinfo, hb, -, hs⟩ := m_gsc_set_format_refused hrefused
  refine ⟨hs.trans hstream, hb.trans hbuffer, ?_⟩
  rw [hinfo]
  exact hdirty

theorem configure_refused {p : Port} (hdirty : p.info.dirty = true) {io : Answers} {side : Side}
    (hrefused : ¬ FormatTaken io side p) :
    p.configure io side = (false, (p.m_gsc_set_format io side).2) := by
  simp [configure, hdirty, (m_gsc_set_format_refused hrefused).1]

/-- A dirty side that streams without a queued buffer is released by a stop whose
    ioctls succeed. -/
theorem stopped_released {io : Answers} {side : Side} {p : Port} (h : p.Agrees)
    (hon : p.info.stream_on = true) (hqueued : p.info.buffer_queued = false)
    (hdirty : p.info.dirty = true) (hoff : io (.STREAMOFF side) = true)
    (hclear : io (.clear side) = true) :
    (p.stopped io side).Agrees ∧ (p.stopped io side).Released := by
  constructor
  · refine stopped_agrees h ⟨fun _ => hoff, ?_, ?_⟩
    · rw [hqueued]
      intro hq
      cases hq
    · rw [hdirty]
      intro _ hd
      cases hd
  · refine ⟨?_, ?_, ?_⟩
    · rw [stopped_streaming, hon, hoff]
      rfl
    · rw [stopped_buffer, hclear]
      rfl
    · rw [stopped_info]
      intro _
      exact hdirty

end Port

namespace Gscaler

theorem asksProtection_eq (g : Gscaler) :
    AsksProtection g ↔ (g.is_dirty && g.allow_drm && g.is_drm) = true := by
  simp [AsksProtection, and_assoc]

/-- **A run that fails early** on a released device leaves it released. -/
theorem m_gsc_m2m_run_core_early {io : Answers} {g : Gscaler} (hsrc : g.src.Agrees)
    (hdst : g.dst.Agrees) (hreleased : g.Released) (h : FailsEarly io g) :
    (g.m_gsc_m2m_run_core io).2.src.Agrees ∧ (g.m_gsc_m2m_run_core io).2.dst.Agrees ∧
      (g.m_gsc_m2m_run_core io).2.Released := by
  obtain ⟨hrsrc, hrdst, hprotection⟩ := hreleased
  have honsrc : g.src.info.stream_on = false := hsrc.1.trans hrsrc.1
  have hondst : g.dst.info.stream_on = false := hdst.1.trans hrdst.1
  cases haccepted : g.accepted with
  | false =>
    simp only [m_gsc_m2m_run_core, haccepted, Bool.not_false, if_true]
    exact ⟨hsrc, hdst, hrsrc, hrdst, hprotection⟩
  | true =>
    have hprevious : dequeuePrevious io g = .next g := by simp [dequeuePrevious, honsrc]
    rcases h with h | ⟨hasks, hfails⟩ | ⟨hasks, hdirty, hrefused⟩
    · rw [h] at haccepted
      cases haccepted
    · have hprotect : protect io g.is_dirty g.is_drm g = .leave g := by
        unfold protect
        rw [if_pos ((asksProtection_eq g).mp hasks), if_neg (by simp [hfails])]
      have hsteps : runSteps io g.is_dirty g.is_drm g = .leave g := by
        simp only [runSteps, hprevious, hprotect, Outcome.andThen]
      simp only [m_gsc_m2m_run_core, haccepted, hsteps, Bool.not_true, Bool.false_eq_true, if_false]
      exact ⟨hsrc, hdst, hrsrc, hrdst, hprotection⟩
    · have hprotect : protect io g.is_dirty g.is_drm g = .next g := by
        unfold protect
        rw [if_neg (mt (asksProtection_eq g).mpr hasks)]
      have hsteps : runSteps io g.is_dirty g.is_drm g =
          .done { g with src := (g.src.m_gsc_set_format io .src).2 } := by
        simp only [runSteps, hprevious, hprotect, Outcome.andThen,
          onSrc_done (Port.configure_refused hdirty hrefused)]
      have hinfo := (Port.m_gsc_set_format_refused hrefused).2.1
      have hidle := m_gsc_m2m_stop_idle (g := { g with src := (g.src.m_gsc_set_format io .src).2 })
        (by rw [hinfo]; exact honsrc) hondst io
      simp only [m_gsc_m2m_run_core, haccepted, hsteps, hidle, Bool.not_true, Bool.false_eq_true,
        if_false]
      exact ⟨hsrc.refused hdirty hrefused, hdst, hrsrc.refused hrefused, hrdst, hprotection⟩

/-- **A run that fails in the format of the source** on a streaming device stops
    and releases it, with the destination to be configured again as well. -/
theorem m_gsc_m2m_run_core_cleans {io : Answers} {g : Gscaler} (hsrc : g.src.Agrees)
    (hdst : g.dst.Agrees) (h : CleansUp io g) :
    (g.m_gsc_m2m_run_core io).2.src.Agrees ∧ (g.m_gsc_m2m_run_core io).2.dst.Agrees ∧
      (g.m_gsc_m2m_run_core io).2.Released := by
  obtain ⟨haccepted, hon, hwaits, hprotect, hdsrc, hddst, hrefused, hoffsrc, hoffdst, hclearsrc,
    hcleardst, hunprotect⟩ := h
  have hondst : g.dst.info.stream_on = true := (hwaits hon).1
  have hrefused' : ¬ FormatTaken io .src (g.src.waited true) := by
    rwa [Port.formatTaken_waited]
  have hdsrc' : (g.src.waited true).info.dirty = true := by simpa using hdsrc
  obtain ⟨protection, hprotected, hkept⟩ := protect_next (g := { g with
    src := g.src.waited true
    dst := g.dst.waited true }) (fun hasks => hprotect ((asksProtection_eq g).mpr hasks))
  have hfailed := @onSrc_done (·.configure io .src)
    { g with src := g.src.waited true, dst := g.dst.waited true, protection } _
    (Port.configure_refused hdsrc' hrefused')
  have hsteps : runSteps io g.is_dirty g.is_drm g = .done { g with
      src := ((g.src.waited true).m_gsc_set_format io .src).2
      dst := g.dst.waited true
      protection } := by
    simp only [runSteps, dequeuePrevious_waits hwaits, hon, hprotected, Outcome.andThen, hfailed]
  obtain ⟨-, hinfo, -⟩ := Port.m_gsc_set_format_refused hrefused'
  have hstop := m_gsc_m2m_stop_streaming (g := { g with
      src := ((g.src.waited true).m_gsc_set_format io .src).2
      dst := g.dst.waited true
      protection }) (by simp [hondst]) io
  have hsrc' := Port.stopped_released ((hsrc.waited true).refused hdsrc' hrefused')
    (by rw [hinfo]; simpa using hon) (by rw [hinfo]; exact g.src.dequeued_buffer_queued)
    (by rw [hinfo]; exact hdsrc') hoffsrc hclearsrc
  have hdst' := Port.stopped_released (hdst.waited true) (by simpa using hondst)
    g.dst.dequeued_buffer_queued (by simpa using hddst) hoffdst hcleardst
  have hoff : (if io .unprotect then false else protection) = false := by
    rcases hunprotect with hunprotect | ⟨hasks, hnone⟩
    · rw [if_pos hunprotect]
    · rw [asksProtection_eq, Bool.not_eq_true] at hasks
      rw [hkept hasks, hnone, ite_self]
  simp only [m_gsc_m2m_run_core, haccepted, hsteps, hstop, Bool.not_true, Bool.false_eq_true,
    if_false]
  exact ⟨hsrc'.1, hdst'.1, hsrc'.2, hdst'.2, hoff⟩

end Gscaler

/-! ### Runs -/

/-- Every call keeps the agreement under its condition. -/
theorem step_agrees {g : Gscaler} (h : g.Agrees) {call : Call} (hkeeps : Keeps g call) :
    (step g call).Agrees := by
  obtain ⟨hsrc, hdst, -⟩ := h
  cases call with
  | config src_img dst_img =>
    obtain ⟨hsrc', hdst'⟩ := m_gsc_m2m_config_agrees hsrc hdst src_img dst_img
    exact ⟨hsrc', hdst', nofun⟩
  | setFormat side format crop cacheable mode_drm =>
    cases side with
    | src => exact ⟨hsrc.setFormat format crop cacheable mode_drm, hdst, nofun⟩
    | dst => exact ⟨hsrc, hdst.setFormat format crop cacheable mode_drm, nofun⟩
  | setRotation rotation flip_horizontal flip_vertical =>
    obtain ⟨hsrc', hdst'⟩ :=
      exynos_gsc_set_rotation_agrees hsrc hdst rotation flip_horizontal flip_vertical
    exact ⟨hsrc', hdst', nofun⟩
  | setCscProperty eq_auto range_full v4l2_colorspace => exact ⟨hsrc, hdst, nofun⟩
  | setAddr side mem_type =>
    cases side with
    | src => exact ⟨hsrc.memType mem_type, hdst, nofun⟩
    | dst => exact ⟨hsrc, hdst.memType mem_type, nofun⟩
  | run io =>
    rcases hkeeps with hok | ⟨hreleased, hearly⟩ | hclean
    · obtain ⟨g', hrun, hsrc', hdst'⟩ := Gscaler.m_gsc_m2m_run_core_succeeds hok
      simp only [step, hrun]
      refine ⟨?_, ?_, nofun⟩
      · rw [hsrc']
        exact Port.ran_agrees hsrc _
      · rw [hdst']
        exact Port.ran_agrees hdst _
    · obtain ⟨hsrc', hdst', hreleased'⟩ :=
        Gscaler.m_gsc_m2m_run_core_early hsrc hdst hreleased hearly
      exact ⟨hsrc', hdst', fun _ => hreleased'⟩
    · obtain ⟨hsrc', hdst', hreleased'⟩ := Gscaler.m_gsc_m2m_run_core_cleans hsrc hdst hclean
      exact ⟨hsrc', hdst', fun _ => hreleased'⟩
  | waitFrameDone io =>
    obtain ⟨hsrc', hdst'⟩ := m_gsc_m2m_wait_frame_done_agrees hsrc hdst io
    exact ⟨hsrc', hdst', nofun⟩
  | stop io =>
    obtain ⟨hsrc', hdst'⟩ := m_gsc_m2m_stop_agrees hsrc hdst hkeeps
    exact ⟨hsrc', hdst', nofun⟩

/-- `memset` of `src_info` and `dst_info`. -/
def GscInfo.zero : GscInfo where
  width := 0
  height := 0
  crop_left := 0
  crop_top := 0
  crop_width := 0
  crop_height := 0
  v4l2_colorformat := .other 0
  mode_drm := 0
  cacheable := 0
  rotation := 0
  flip_horizontal := 0
  flip_vertical := 0
  mem_type := 0
  stream_on := false
  dirty := false
  buffer_queued := false
  configured := false

/-- A side of a handle that was just opened. -/
def Port.opened : Port := ⟨.zero, ⟨none, none, none, false, false⟩⟩

/-- A new handle of the m2m mode. -/
def created (allow_drm : Bool) : Gscaler where
  src := .opened
  dst := .opened
  rot := 0
  allow_drm
  eq_auto := 0
  range_full := 0
  v4l2_colorspace := 1
  protection := false
  csc := (0, 0, 0)
  runFailed := false

/-- The handles after calls that meet their condition. -/
abbrev Reached (allow_drm : Bool) : Gscaler → Prop :=
  Reachable (· = created allow_drm) (guarded Keeps (ofFun step))

theorem Reached.agrees {allow_drm : Bool} {g : Gscaler} (h : Reached allow_drm g) : g.Agrees := by
  refine h.invariant ?_ ?_
  · rintro g rfl
    cases allow_drm <;> decide
  · rintro g call g' hg ⟨hkeeps, rfl⟩
    exact step_agrees hg hkeeps

/-- Every ioctl succeeds. -/
def allSucceed : Answers := fun _ => true

theorem formatTaken_allSucceed {side : Side} {p : Port}
    (hplanes : 0 ≤ m_gsc_get_plane_count p.info.v4l2_colorformat) :
    FormatTaken allSucceed side p := ⟨hplanes, rfl, rfl, rfl, rfl, rfl, rfl, rfl⟩

/-- Both sides stream their own format into a queued buffer. -/
def Port.Runs (p : Port) : Prop :=
  p.driver.streaming = true ∧ p.driver.queued = true ∧
  (p.info.configured = true →
    p.driver.format = some p.info.format ∧ p.driver.crop = some p.info.crop ∧
      p.driver.buffer.isSome = true)

/-- A side that ran is clean. -/
theorem Port.ran_dirty (waits : Bool) (p : Port) : (p.ran waits).info.dirty = false := by
  unfold Port.ran Port.running Port.configured
  cases hdirty : (p.waited waits).info.dirty with
  | true => rfl
  | false => simpa using hdirty

theorem Port.ran_runs {p : Port} (h : p.Agrees) (waits : Bool) : (p.ran waits).Runs := by
  obtain ⟨hstream, hqueued, hheld⟩ := Port.ran_agrees h waits
  refine ⟨hstream.symm, hqueued rfl, fun hconf => ?_⟩
  exact hheld hconf (p.ran_dirty waits)

/-- **A released device can run again** with the settings it has: if they pass the
    tests of a run and the driver takes them, both sides stream their format. -/
theorem released_runs_again {g : Gscaler} (hsrc : g.src.Agrees) (hdst : g.dst.Agrees)
    (hreleased : g.Released) (haccepted : g.accepted = true)
    (hpsrc : 0 ≤ m_gsc_get_plane_count g.src.info.v4l2_colorformat)
    (hpdst : 0 ≤ m_gsc_get_plane_count g.dst.info.v4l2_colorformat) :
    (g.m_gsc_m2m_run_core allSucceed).1 = 0 ∧
      (g.m_gsc_m2m_run_core allSucceed).2.src.Runs ∧
      (g.m_gsc_m2m_run_core allSucceed).2.dst.Runs := by
  have hoff : g.src.info.stream_on = false := hsrc.1.trans hreleased.1.1
  have hok : Succeeds allSucceed g := by
    refine ⟨haccepted, ?_, fun _ => rfl, fun _ => formatTaken_allSucceed hpsrc,
      fun _ => formatTaken_allSucceed hpdst, fun _ => ⟨rfl, rfl, rfl⟩, rfl, rfl, fun _ => rfl,
      fun _ => rfl⟩
    intro hon
    rw [hoff] at hon
    cases hon
  obtain ⟨g', hrun, hsrc', hdst'⟩ := Gscaler.m_gsc_m2m_run_core_succeeds hok
  rw [hrun]
  refine ⟨rfl, ?_, ?_⟩
  · dsimp only
    rw [hsrc']
    exact Port.ran_runs hsrc _
  · dsimp only
    rw [hdst']
    exact Port.ran_runs hdst _

/-- **The flags agree with the driver** after every run of calls that meet their
    condition; a run that failed released the device, and the same settings run
    again where they can. -/
theorem flags_agree_on_runs {allow_drm : Bool} {g : Gscaler}
    (h : Reachable (· = created allow_drm) (guarded Keeps (ofFun step)) g) :
    g.Agrees ∧ (g.runFailed = true → g.accepted = true →
      0 ≤ m_gsc_get_plane_count g.src.info.v4l2_colorformat →
      0 ≤ m_gsc_get_plane_count g.dst.info.v4l2_colorformat →
      (g.m_gsc_m2m_run_core allSucceed).1 = 0 ∧
        (g.m_gsc_m2m_run_core allSucceed).2.src.Runs ∧
        (g.m_gsc_m2m_run_core allSucceed).2.dst.Runs) := by
  have hagrees := Reached.agrees h
  refine ⟨hagrees, ?_⟩
  intro hfailed haccepted hpsrc hpdst
  exact released_runs_again hagrees.1 hagrees.2.1 (hagrees.2.2 hfailed) haccepted hpsrc hpdst

/-- Plain images that every test of a run accepts. -/
def plainImg (pixelformat : PixFmt) (drmMode : Nat) : Gscaler.Img :=
  ⟨⟨128, 64, pixelformat⟩, ⟨0, 0, 128, 64⟩, 0, 1, drmMode⟩

def plainConfig (drmMode : Nat) : Call :=
  .config (plainImg .NV12M drmMode) (plainImg .RGB32 drmMode)

/-- Every ioctl but one succeeds. -/
def failing (ioctl : Ioctl) : Answers := fun i => i != ioctl

/-- A handle that ran and was configured again. -/
def configuredAgain : Gscaler :=
  [plainConfig 0, .run allSucceed, plainConfig 0].foldl step (created false)

/-- The run on it fails in the crop of the source. -/
def failedAgain : Gscaler := step configuredAgain (.run (failing (.S_CROP .src)))

theorem failedAgain_runs :
    failedAgain.Agrees ∧ failedAgain.runFailed = true ∧
      (failedAgain.m_gsc_m2m_run_core allSucceed).1 = 0 := by
  have hconfig : Reached false (step (created false) (plainConfig 0)) :=
    Reachable.next (a := plainConfig 0) (.start rfl) ⟨trivial, rfl⟩
  have hran : Reached false (step (step (created false) (plainConfig 0)) (.run allSucceed)) :=
    hconfig.next ⟨by decide, rfl⟩
  have hagain : Reached false configuredAgain :=
    Reachable.next (a := plainConfig 0) hran ⟨trivial, rfl⟩
  have hfailed : Reached false failedAgain := hagain.next ⟨by decide, rfl⟩
  have hmain := flags_agree_on_runs hfailed
  exact ⟨hmain.1, by decide, (hmain.2 (by decide) (by decide) (by decide) (by decide)).1⟩

/-- A stop keeps the clean flag although it gave the buffers back, and the flag of a
    buffer that nothing queues any more; runs that fail leave buffers, the protection
    or the stream behind.  The run after a stop streams without a buffer. -/
theorem stop_and_failed_runs_slip :
    ¬ ([plainConfig 0, .run allSucceed, .waitFrameDone allSucceed, .stop allSucceed].foldl
      step (created false)).Agrees ∧
    ¬ ([plainConfig 0, .run allSucceed, .stop allSucceed].foldl step (created false)).Agrees ∧
    ¬ ([plainConfig 0, .run (failing (.QBUF .src))].foldl step (created false)).Agrees ∧
    ¬ ([plainConfig 0, .run (failing .CSC_EQ)].foldl step (created false)).Agrees ∧
    ¬ ([plainConfig 1, .run (failing (.S_FMT .src))].foldl step (created true)).Agrees ∧
    ¬ ([plainConfig 0, .run allSucceed, .run (failing (.DQBUF .src))].foldl
      step (created false)).Agrees ∧
    ([plainConfig 0, .run allSucceed, .waitFrameDone allSucceed, .stop allSucceed,
      .run allSucceed].foldl step (created false)).src.driver.buffer = none := by
  decide

end ExynosHal.GscalerRun
