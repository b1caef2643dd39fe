/-
  ExynosHal/DrmModes.lean
  =======================
  **The mode of a DRM display, and the blobs it is told in.**

  The mode requests of `display/ExynosDisplayDrmInterface.cpp` (tested, deferred,
  immediate and cleared ones) and the delivery of a frame, which carries a
  deferred mode to the driver in a commit of its own.  The kernel is a list of
  property blobs, the destroy calls that it accepted and the log of the commits;
  each call of it is answered by an input, so that a run ranges over all
  failures.

  Of an atomic request the properties of the CRTC and of the connector are kept.
  Planes, framebuffers and fences change neither modes nor blobs.
-/
import Mathlib.Algebra.Group.Int.Defs
import Mathlib.Algebra.GroupWithZero.Nat
import Mathlib.Algebra.Group.Nat.Defs
import ExynosHal.TransitionSystem
import ExynosHal.WindowConfig
import Mathlib.Tactic.SplitIfs

namespace ExynosHal.DrmModes

open ExynosHal.TransitionSystem ExynosHal.WindowConfig

/-! ### Return codes -/

def NO_ERROR : Int := 0
def HWC2_ERROR_NONE : Int := 0
def HWC2_ERROR_BAD_CONFIG : Int := 1

/-- `UNKNOWN_ERROR + 1`. -/
def BAD_TYPE : Int := -2147483648 + 1

/-- The kernel's answer to a call: 0, or the number of an error. -/
abbrev Errno := Fin 4096

instance neZeroErrno : NeZero 4096 := ⟨by decide⟩

def ret (e : Errno) : Int := -(e.val : Int)

@[simp] theorem ret_zero : ret 0 = 0 := rfl

theorem ret_eq_zero {e : Errno} : ret e = 0 ↔ e = 0 := by
  unfold ret
  rw [Fin.ext_iff]
  simp

theorem ret_neg {e : Errno} : ret e < 0 ↔ e ≠ 0 := by
  rw [Ne, ← ret_eq_zero]
  unfold ret
  omega

theorem ret_ne_BAD_TYPE (e : Errno) : ret e ≠ BAD_TYPE := by
  have := e.isLt
  unfold ret BAD_TYPE
  omega

/-! ### Modes and blobs -/

def DRM_DISPLAY_MODE_LEN : Nat := 32

/-- `struct drm_mode_modeinfo`. -/
structure DrmModeModeInfo where
  clock : Nat := 0
  hdisplay : Nat := 0
  hsync_start : Nat := 0
  hsync_end : Nat := 0
  htotal : Nat := 0
  hskew : Nat := 0
  vdisplay : Nat := 0
  vsync_start : Nat := 0
  vsync_end : Nat := 0
  vtotal : Nat := 0
  vscan : Nat := 0
  vrefresh : Nat := 0
  flags : Nat := 0
  type : Nat := 0
  name : List Char := []
deriving DecidableEq, Repr

/-- A mode of the connector: its number, and the timing that the driver gave. -/
structure DrmMode where
  id : Nat := 0
  timing : DrmModeModeInfo := {}
deriving DecidableEq, Repr

def ToDrmModeModeInfo (m : DrmMode) : DrmModeModeInfo :=
  { m.timing with name := m.timing.name.take (DRM_DISPLAY_MODE_LEN - 1) }

/-- The `sType1` of the static HDR info. -/
structure HdrStaticInfo where
  mR : Nat × Nat
  mG : Nat × Nat
  mB : Nat × Nat
  mMaxDisplayLuminance : Nat
  mMinDisplayLuminance : Nat
  mMaxContentLightLevel : Nat
  mMaxFrameAverageLightLevel : Nat
deriving DecidableEq, Repr

/-- The `hdmi_metadata_type1` of `hdr_output_metadata`. -/
structure HdrOutputMetadata where
  display_primaries : List (Nat × Nat)
  max_display_mastering_luminance : Nat
  min_display_mastering_luminance : Nat
  max_cll : Nat
  max_fall : Nat
deriving DecidableEq, Repr

structure DrmClipRect where
  x1 : Nat := 0
  y1 : Nat := 0
  x2 : Nat := 0
  y2 : Nat := 0
deriving DecidableEq, Repr

inductive BlobData where
  | mode (info : DrmModeModeInfo)
  | hdr_output_meta (metadata : HdrOutputMetadata)
  | partial_region (rect : DrmClipRect)
deriving DecidableEq, Repr

/-! ### The kernel -/

/-- A commit that reached the driver: the mode blob among its properties, and the answer. -/
structure Commit where
  testOnly : Bool
  mode : Option Nat
  errno : Errno
deriving DecidableEq, Repr

/-- The mode blob that the commit makes the current one. -/
def Commit.applied (k : Commit) : Option Nat :=
  if k.testOnly ∨ k.errno ≠ 0 then none else k.mode

/-- Blob `n` is the `n`-th that was created; the commits are the newest first. -/
structure Device where
  blobs : List BlobData := []
  destroyed : List Nat := []
  commits : List Commit := []
deriving DecidableEq, Repr

/-- The mode blob of the last commit that set a mode; 0 is none. -/
def Device.modeBlob (d : Device) : Nat :=
  (d.commits.filterMap Commit.applied).headD 0

/-- The mode in a blob; no blob is the mode of zeros. -/
def Device.modeInfo (d : Device) : Nat → DrmModeModeInfo
  | 0 => {}
  | n + 1 => match d.blobs[n]? with
    | some (.mode info) => info
    | _ => {}

/-- The mode that was last committed. -/
def Device.driverMode (d : Device) : DrmModeModeInfo :=
  d.modeInfo d.modeBlob

/-- The device, the blob's id and the return code. -/
def CreatePropertyBlob (d : Device) (data : BlobData) (e : Errno) : Device × Nat × Int :=
  if e = 0 then ({ d with blobs := d.blobs ++ [data] }, d.blobs.length + 1, NO_ERROR)
  else (d, 0, ret e)

def DestroyPropertyBlob (d : Device) (blob : Nat) (e : Errno) : Device × Int :=
  if blob = 0 then (d, NO_ERROR)
  else if e = 0 then ({ d with destroyed := blob :: d.destroyed }, NO_ERROR)
  else (d, ret e)

/-! ### `DrmModeAtomicReq` -/

inductive Property where
  | mode_property
  | modeset_only_property
  | crtc_id_property
  | partial_region_property
  | hdr_output_meta
deriving DecidableEq, Repr

structure DrmModeAtomicReq where
  mPset : List (Property × Nat) := []
  mOldBlobs : List Nat := []
deriving DecidableEq, Repr

def DrmModeAtomicReq.addOldBlob (req : DrmModeAtomicReq) (blob : Nat) : DrmModeAtomicReq :=
  { req with mOldBlobs := req.mOldBlobs ++ [blob] }

/-- A property that is missing and one that libdrm does not take are both an error. -/
def DrmModeAtomicReq.atomicAddProperty (req : DrmModeAtomicReq) (property : Property) (value : Nat)
    (e : Errno) : DrmModeAtomicReq × Int :=
  if e = 0 then ({ req with mPset := req.mPset ++ [(property, value)] }, NO_ERROR) else (req, ret e)

/-- The mode blob of the request: the kernel takes the properties in their order. -/
def DrmModeAtomicReq.mode (req : DrmModeAtomicReq) : Option Nat :=
  ((req.mPset.filter fun item => item.1 = .mode_property).map Prod.snd).getLast?

def DrmModeAtomicReq.commit (req : DrmModeAtomicReq) (d : Device) (testOnly : Bool) (e : Errno) :
    Device × Int :=
  ({ d with commits := ⟨testOnly, req.mode, e⟩ :: d.commits }, ret e)

/-- The loop of `destroyOldBlobs`; `answers` are those of the kernel to the destroy calls. -/
def destroyEach (d : Device) (answers : Nat → Errno) : List Nat → Device × Int
  | [] => (d, NO_ERROR)
  | blob :: blobs =>
    let r := DestroyPropertyBlob d blob (answers blob)
    if r.2 ≠ 0 then r else destroyEach r.1 answers blobs

/-- The first failure leaves the whole list. -/
def DrmModeAtomicReq.destroyOldBlobs (req : DrmModeAtomicReq) (d : Device) (answers : Nat → Errno) :
    Device × DrmModeAtomicReq × Int :=
  let r := destroyEach d answers req.mOldBlobs
  if r.2 ≠ 0 then (r.1, req, r.2) else (r.1, { req with mOldBlobs := [] }, NO_ERROR)

def DrmModeAtomicReq.reset (req : DrmModeAtomicReq) (d : Device) (answers : Nat → Errno) :
    Device × DrmModeAtomicReq :=
  let r := req.destroyOldBlobs d answers
  (r.1, { r.2.1 with mPset := [] })

/-- The destructor of a request: what is left in its list is gone with it. -/
def DrmModeAtomicReq.close (req : DrmModeAtomicReq) (d : Device) (answers : Nat → Errno) : Device :=
  (req.reset d answers).1

/-! ### The mode states -/

structure ModeState where
  needs_modeset : Bool := false
  mode : DrmMode := {}
  blob_id : Nat := 0
  old_blob_id : Nat := 0
deriving DecidableEq, Repr

def ModeState.setMode (st : ModeState) (newMode : DrmMode) (modeBlob : Nat)
    (drmReq : DrmModeAtomicReq) : ModeState × DrmModeAtomicReq :=
  ({ st with mode := newMode, old_blob_id := st.blob_id, blob_id := modeBlob },
    drmReq.addOldBlob st.old_blob_id)

/-- The state after the reset, the state it was applied to, and the request. -/
def ModeState.apply (st toModeState : ModeState) (drmReq : DrmModeAtomicReq) :
    ModeState × ModeState × DrmModeAtomicReq :=
  let r := toModeState.setMode st.mode st.blob_id drmReq
  ({}, r.1, r.2.addOldBlob st.old_blob_id)

structure PartialRegionState where
  partial_rect : DrmClipRect := {}
  blob_id : Nat := 0
deriving DecidableEq, Repr

def PartialRegionState.isUpdated (st : PartialRegionState) (rect : DrmClipRect) : Bool :=
  st.partial_rect ≠ rect

/-- The fields of `ExynosDisplayDrmInterface` that the mode and the blobs are in, and the
    kernel's side of them. -/
structure Interface where
  device : Device := {}
  crtcId : Nat := 0
  mActiveModeState : ModeState := {}
  mDesiredModeState : ModeState := {}
  mPartialRegionState : PartialRegionState := {}
  mDrmReq : DrmModeAtomicReq := {}
deriving DecidableEq, Repr

/-! ### Mode requests -/

/-- The kernel's answers to a mode request. -/
structure ModeAnswers where
  create : Errno := 0
  addMode : Errno := 0
  addModesetOnly : Errno := 0
  addCrtc : Errno := 0
  commit : Errno := 0
  destroys : Nat → Errno := fun _ => 0

def createModeBlob (d : Device) (mode : DrmMode) (e : Errno) : Device × Nat × Int :=
  CreatePropertyBlob d (.mode (ToDrmModeModeInfo mode)) e

/-- `BAD_TYPE`, for a failure of the second property, is overwritten by the third. -/
def setDisplayMode (crtcId : Nat) (drmReq : DrmModeAtomicReq) (modeBlob : Nat) (a : ModeAnswers) :
    DrmModeAtomicReq × Int :=
  let m := drmReq.atomicAddProperty .mode_property modeBlob a.addMode
  if m.2 < 0 then m
  else
    let o := m.1.atomicAddProperty .modeset_only_property 1 a.addModesetOnly
    o.1.atomicAddProperty .crtc_id_property crtcId a.addCrtc

/-- The first mode with the id. -/
def findMode (modes : List DrmMode) (config : Nat) : Option DrmMode :=
  modes.find? fun m => m.id == config

/-- The guard "same mode". -/
def sameMode (s : Interface) (config : Nat) : Bool :=
  s.mActiveModeState.blob_id ≠ 0 && s.mActiveModeState.mode.id = config

/-- The blob of a request, and 0 for the mode that is desired already. -/
def requestBlob (s : Interface) (mode : DrmMode) (config : Nat) (e : Errno) : Device × Nat × Int :=
  if s.mDesiredModeState.mode.id ≠ config then createModeBlob s.device mode e
  else (s.device, 0, NO_ERROR)

/-- The end of `setActiveConfigWithConstraints`: a new blob goes into the desired state. -/
def storeDesired (s : Interface) (mode : DrmMode) (modeBlob : Nat) (drmReq : DrmModeAtomicReq)
    (a : ModeAnswers) : Interface :=
  if modeBlob ≠ 0 then
    let r := s.mDesiredModeState.setMode mode modeBlob drmReq
    { s with device := r.2.close s.device a.destroys, mDesiredModeState := r.1 }
  else { s with device := drmReq.close s.device a.destroys }

def setActiveConfigWithConstraints (modes : List DrmMode) (s : Interface) (config : Nat)
    (test : Bool) (a : ModeAnswers) : Interface × Int :=
  match findMode modes config with
  | none => (s, HWC2_ERROR_BAD_CONFIG)
  | some mode =>
    if sameMode s config then (s, HWC2_ERROR_NONE)
    else
      let b := requestBlob s mode config a.create
      if b.2.2 ≠ NO_ERROR then ({ s with device := b.1 }, HWC2_ERROR_BAD_CONFIG)
      else if test then
        let m := setDisplayMode s.crtcId {}
          (if b.2.1 ≠ 0 then b.2.1 else s.mDesiredModeState.blob_id) a
        if m.2 < 0 then ({ s with device := m.1.close b.1 a.destroys }, m.2)
        else
          let c := m.1.commit b.1 true a.commit
          if c.2 ≠ 0 then ({ s with device := (m.1.addOldBlob b.2.1).close c.1 a.destroys }, c.2)
          else (storeDesired { s with device := c.1 } mode b.2.1 m.1 a, HWC2_ERROR_NONE)
      else
        (storeDesired { s with
            device := b.1
            mDesiredModeState := { s.mDesiredModeState with needs_modeset := true } }
          mode b.2.1 {} a, HWC2_ERROR_NONE)

def setActiveDrmMode (s : Interface) (mode : DrmMode) (a : ModeAnswers) : Interface × Int :=
  if sameMode s mode.id then (s, HWC2_ERROR_NONE)
  else
    let b := createModeBlob s.device mode a.create
    if b.2.2 ≠ NO_ERROR then ({ s with device := b.1 }, HWC2_ERROR_BAD_CONFIG)
    else
      let m := setDisplayMode s.crtcId {} b.2.1 a
      if m.2 ≠ NO_ERROR then
        ({ s with device := (m.1.addOldBlob b.2.1).close b.1 a.destroys }, m.2)
      else
        let c := m.1.commit b.1 false a.commit
        if c.2 ≠ 0 then ({ s with device := (m.1.addOldBlob b.2.1).close c.1 a.destroys }, c.2)
        else
          let r := s.mActiveModeState.setMode mode b.2.1 m.1
          ({ s with
              device := r.2.close c.1 a.destroys
              mActiveModeState := { r.1 with needs_modeset := false } }, HWC2_ERROR_NONE)

def resetConfigRequestState (s : Interface) : Interface :=
  { s with mDesiredModeState := { s.mDesiredModeState with needs_modeset := false } }

/-- What `setActiveDrmMode` returns is only logged. -/
def setActiveConfig (modes : List DrmMode) (s : Interface) (config : Nat) (a : ModeAnswers) :
    Interface × Int :=
  match findMode modes config with
  | none => (s, HWC2_ERROR_BAD_CONFIG)
  | some mode => (resetConfigRequestState (setActiveDrmMode s mode a).1, 0)

def clearActiveDrmMode (s : Interface) (a : ModeAnswers) : Interface × Int :=
  let s' := if s.mActiveModeState.blob_id ≠ 0 then
      { s with
        device := (DestroyPropertyBlob s.device s.mActiveModeState.blob_id
          (a.destroys s.mActiveModeState.blob_id)).1
        mActiveModeState := {} }
    else s
  let i := DrmModeAtomicReq.atomicAddProperty {} .crtc_id_property 0 a.addCrtc
  if i.2 < 0 then (s', i.2)
  else
    let o := i.1.atomicAddProperty .modeset_only_property 0 a.addModesetOnly
    let m := o.1.atomicAddProperty .mode_property 0 a.addMode
    if m.2 < 0 then (s', m.2)
    else
      let c := m.1.commit s'.device false a.commit
      ({ s' with device := m.1.close c.1 a.destroys }, c.2)

/-! ### The delivery of a frame -/

/-- What the delivery reads of a window that it sets up. -/
structure Window where
  /-- What the setup returns before it comes to the static metadata; a positive value ends it
      without an error. -/
  before : Int := 0
  /-- `hasHdrInfo(dataspace)` and the window has a meta parcel. -/
  metaParcel : Option HdrStaticInfo := none
  create : Errno := 0
  add : Errno := 0
  after : Int := 0
deriving DecidableEq, Repr

/-- A frame, with the kernel's answers to its delivery. -/
structure Frame where
  modeset : ModeAnswers := {}
  /-- The write-back setups, which come first. -/
  writeback : Errno := 0
  /-- The CRTC has the partial-region property. -/
  partial_region_property : Bool := false
  /-- The connector has the metadata property. -/
  hdr_output_meta : Bool := false
  win_update_region : DeconFrame := ⟨0, 0, 0, 0, 0, 0⟩
  createRegion : Errno := 0
  addRegion : Errno := 0
  out_fence_ptr : Errno := 0
  /-- The windows in the order of their setup; both halves of a virtual 8K window count. -/
  windows : List Window := []
  commit : Errno := 0
  destroys : Nat → Errno := fun _ => 0

/-- The next step, unless there was an error. -/
def proceed (r : Interface × Int) (next : Interface → Interface × Int) : Interface × Int :=
  if r.2 < 0 then r else next r.1

/-- The commit of the desired mode, with a request of its own. -/
def deliverModeSet (s : Interface) (a : ModeAnswers) : Interface × Int :=
  let m := setDisplayMode s.crtcId {} s.mDesiredModeState.blob_id a
  if m.2 ≠ BAD_TYPE ∧ m.2 < 0 then ({ s with device := m.1.close s.device a.destroys }, m.2)
  else
    let c := m.1.commit s.device false a.commit
    ({ s with device := m.1.close c.1 a.destroys }, c.2)

def clipRect (region : DeconFrame) : DrmClipRect where
  x1 := (region.x % 65536).toNat
  y1 := (region.y % 65536).toNat
  x2 := ((region.x + region.w) % 65536).toNat
  y2 := ((region.y + region.h) % 65536).toNat

/-- The part of `setupPartialRegion` that makes a new blob. -/
def renewRegion (s : Interface) (rect : DrmClipRect) (e : Errno) : Interface × Int :=
  let b := CreatePropertyBlob s.device (.partial_region rect) e
  if b.2.2 ≠ 0 ∨ b.2.1 = 0 then ({ s with device := b.1 }, b.2.2)
  else
    ({ s with
        device := b.1
        mDrmReq := if s.mPartialRegionState.blob_id ≠ 0 then
          s.mDrmReq.addOldBlob s.mPartialRegionState.blob_id else s.mDrmReq
        mPartialRegionState := ⟨rect, b.2.1⟩ }, NO_ERROR)

/-- The region needs a new blob. -/
def regionChanges (s : Interface) (rect : DrmClipRect) : Bool :=
  s.mPartialRegionState.blob_id = 0 || s.mPartialRegionState.isUpdated rect

def setupPartialRegion (s : Interface) (f : Frame) : Interface × Int :=
  if !f.partial_region_property then (s, NO_ERROR)
  else
    proceed
      (if regionChanges s (clipRect f.win_update_region) then
        renewRegion s (clipRect f.win_update_region) f.createRegion else (s, NO_ERROR))
      fun s =>
        let p := s.mDrmReq.atomicAddProperty .partial_region_property s.mPartialRegionState.blob_id
          f.addRegion
        ({ s with mDrmReq := p.1 }, p.2)

def hdrOutputMetadata (info : HdrStaticInfo) : HdrOutputMetadata where
  display_primaries := [info.mR, info.mG, info.mB].map fun p => (p.1 % 65536, p.2 % 65536)
  max_display_mastering_luminance := info.mMaxDisplayLuminance / 10000 % 65536
  min_display_mastering_luminance := info.mMinDisplayLuminance / 10000 % 65536
  max_cll := info.mMaxContentLightLevel % 65536
  max_fall := info.mMaxFrameAverageLightLevel % 65536

/-- The blob is named by the request alone. -/
def setFrameStaticMeta (s : Interface) (w : Window) : Interface × Int :=
  match w.metaParcel with
  | none => (s, NO_ERROR)
  | some info =>
    let b := CreatePropertyBlob s.device (.hdr_output_meta (hdrOutputMetadata info)) w.create
    if b.2.2 ≠ 0 ∨ b.2.1 = 0 then ({ s with device := b.1 }, b.2.2)
    else
      let p := s.mDrmReq.atomicAddProperty .hdr_output_meta b.2.1 w.add
      ({ s with device := b.1, mDrmReq := p.1 }, p.2)

/-- `setupCommitFromDisplayConfig`, which does not look at what `setFrameStaticMeta` returns. -/
def setupWindow (s : Interface) (f : Frame) (w : Window) : Interface × Int :=
  if w.before ≠ 0 then (s, w.before)
  else if f.hdr_output_meta then ((setFrameStaticMeta s w).1, w.after)
  else (s, w.after)

def setupWindows (s : Interface) (f : Frame) : List Window → Interface × Int
  | [] => (s, NO_ERROR)
  | w :: ws => proceed (setupWindow s f w) fun s => setupWindows s f ws

/-- The end of a frame that went to the driver. -/
def applyDesired (s : Interface) : Interface :=
  if s.mDesiredModeState.needs_modeset then
    let r := s.mDesiredModeState.apply s.mActiveModeState s.mDrmReq
    { s with mDesiredModeState := r.1, mActiveModeState := r.2.1, mDrmReq := r.2.2 }
  else s

def commitFrame (s : Interface) (f : Frame) : Interface × Int :=
  let c := s.mDrmReq.commit s.device false f.commit
  ({ s with device := c.1 }, c.2)

/-- `deliverWinConfigData` without its return callback. -/
def deliverFrame (s : Interface) (f : Frame) : Interface × Int :=
  proceed (if s.mDesiredModeState.needs_modeset then deliverModeSet s f.modeset else (s, NO_ERROR))
    fun s => proceed (s, ret f.writeback)
    fun s => proceed (setupPartialRegion s f)
    fun s => proceed (s, ret f.out_fence_ptr)
    fun s => proceed (setupWindows s f f.windows)
    fun s => proceed (commitFrame s f)
    fun s => (applyDesired s, NO_ERROR)

/-- `mDrmReq.reset()` in the return callback. -/
def resetDrmReq (s : Interface) (answers : Nat → Errno) : Interface :=
  let r := s.mDrmReq.reset s.device answers
  { s with device := r.1, mDrmReq := r.2 }

def deliverWinConfigData (s : Interface) (f : Frame) : Interface × Int :=
  let r := deliverFrame s f
  (resetDrmReq r.1 f.destroys, r.2)

/-! ### Calls -/

/-- The calls that come to the interface; `setActiveDrmMode` by itself is `setLowPowerMode`. -/
inductive Call where
  | setActiveConfigWithConstraints (config : Nat) (test : Bool) (a : ModeAnswers)
  | setActiveConfig (config : Nat) (a : ModeAnswers)
  | setActiveDrmMode (mode : DrmMode) (a : ModeAnswers)
  | clearActiveDrmMode (a : ModeAnswers)
  | resetConfigRequestState
  | deliverWinConfigData (f : Frame)

def exec (modes : List DrmMode) (s : Interface) : Call → Interface × Int
  | .setActiveConfigWithConstraints config test a =>
    setActiveConfigWithConstraints modes s config test a
  | .setActiveConfig config a => setActiveConfig modes s config a
  | .setActiveDrmMode mode a => setActiveDrmMode s mode a
  | .clearActiveDrmMode a => clearActiveDrmMode s a
  | .resetConfigRequestState => (resetConfigRequestState s, NO_ERROR)
  | .deliverWinConfigData f => deliverWinConfigData s f

/-! ### What the calls of the kernel do -/

section Kernel

variable {d : Device} {req : DrmModeAtomicReq} {answers : Nat → Errno}

theorem destroyEach_frame (blobs : List Nat) :
    (destroyEach d answers blobs).1.blobs = d.blobs ∧
      (destroyEach d answers blobs).1.commits = d.commits := by
  induction blobs generalizing d with
  | nil => exact ⟨rfl, rfl⟩
  | cons blob blobs ih =>
    have hone : (DestroyPropertyBlob d blob (answers blob)).1.blobs = d.blobs ∧
        (DestroyPropertyBlob d blob (answers blob)).1.commits = d.commits := by
      unfold DestroyPropertyBlob
      split_ifs <;> exact ⟨rfl, rfl⟩
    unfold destroyEach
    simp only
    split
    · exact hone
    · exact ⟨ih.1.trans hone.1, ih.2.trans hone.2⟩

theorem reset_device : (req.reset d answers).1 = (destroyEach d answers req.mOldBlobs).1 := by
  simp only [DrmModeAtomicReq.reset, DrmModeAtomicReq.destroyOldBlobs]
  split <;> rfl

theorem close_eq : req.close d answers = (destroyEach d answers req.mOldBlobs).1 := reset_device

@[simp] theorem close_blobs : (req.close d answers).blobs = d.blobs := by
  rw [close_eq]
  exact (destroyEach_frame _).1

@[simp] theorem close_commits : (req.close d answers).commits = d.commits := by
  rw [close_eq]
  exact (destroyEach_frame _).2

theorem close_of_nil (h : req.mOldBlobs = []) : req.close d answers = d := by
  rw [close_eq, h]
  rfl

/-- A blob is made, or nothing changes. -/
theorem CreatePropertyBlob_cases (d : Device) (data : BlobData) (e : Errno) :
    e = 0 ∧ CreatePropertyBlob d data e =
        ({ d with blobs := d.blobs ++ [data] }, d.blobs.length + 1, NO_ERROR) ∨
      e ≠ 0 ∧ CreatePropertyBlob d data e = (d, 0, ret e) := by
  unfold CreatePropertyBlob
  split
  · exact Or.inl ⟨‹_›, rfl⟩
  · exact Or.inr ⟨‹_›, rfl⟩

theorem atomicAddProperty_cases (req : DrmModeAtomicReq) (property : Property) (value : Nat)
    (e : Errno) :
    e = 0 ∧ req.atomicAddProperty property value e =
        ({ req with mPset := req.mPset ++ [(property, value)] }, NO_ERROR) ∨
      e ≠ 0 ∧ req.atomicAddProperty property value e = (req, ret e) := by
  unfold DrmModeAtomicReq.atomicAddProperty
  split
  · exact Or.inl ⟨‹_›, rfl⟩
  · exact Or.inr ⟨‹_›, rfl⟩

/-- A property other than the mode leaves the mode of the request. -/
theorem mode_atomicAddProperty {property : Property} (h : property ≠ .mode_property) (value : Nat)
    (e : Errno) : (req.atomicAddProperty property value e).1.mode = req.mode := by
  rcases atomicAddProperty_cases req property value e with ⟨-, heq⟩ | ⟨-, heq⟩
  · simp [heq, DrmModeAtomicReq.mode, h]
  · rw [heq]

theorem mOldBlobs_atomicAddProperty (property : Property) (value : Nat) (e : Errno) :
    (req.atomicAddProperty property value e).1.mOldBlobs = req.mOldBlobs := by
  rcases atomicAddProperty_cases req property value e with ⟨-, heq⟩ | ⟨-, heq⟩ <;> rw [heq]

theorem atomicAddProperty_ret (property : Property) (value : Nat) (e : Errno) :
    (req.atomicAddProperty property value e).2 = ret e := by
  rcases atomicAddProperty_cases req property value e with ⟨he, heq⟩ | ⟨-, heq⟩
  · rw [heq, he]
    rfl
  · rw [heq]

/-- The properties that a mode needs are taken. -/
def ModeAnswers.addsOk (a : ModeAnswers) : Prop := a.addMode = 0 ∧ a.addCrtc = 0

instance (a : ModeAnswers) : Decidable a.addsOk := inferInstanceAs (Decidable (_ ∧ _))

/-- A request for a mode names its blob and queues nothing. -/
theorem setDisplayMode_spec (crtcId modeBlob : Nat) (a : ModeAnswers) :
    (setDisplayMode crtcId {} modeBlob a).1.mOldBlobs = [] ∧
      (setDisplayMode crtcId {} modeBlob a).2 ≠ BAD_TYPE ∧
      (a.addsOk → (setDisplayMode crtcId {} modeBlob a).2 = NO_ERROR ∧
        (setDisplayMode crtcId {} modeBlob a).1.mode = some modeBlob) ∧
      (¬a.addsOk → (setDisplayMode crtcId {} modeBlob a).2 < 0) := by
  unfold setDisplayMode ModeAnswers.addsOk
  rcases atomicAddProperty_cases {} .mode_property modeBlob a.addMode with
    ⟨hmode, heq⟩ | ⟨hmode, heq⟩
  · simp only [heq, NO_ERROR, Int.lt_irrefl, if_false, mOldBlobs_atomicAddProperty,
      atomicAddProperty_ret, mode_atomicAddProperty (show Property.crtc_id_property ≠ _ by decide),
      mode_atomicAddProperty (show Property.modeset_only_property ≠ _ by decide)]
    refine ⟨trivial, ret_ne_BAD_TYPE _, ?_, ?_⟩
    · rintro ⟨-, hcrtc⟩
      rw [hcrtc]
      exact ⟨rfl, rfl⟩
    · intro hcrtc
      exact ret_neg.mpr fun h => hcrtc ⟨hmode, h⟩
  · simp only [heq, if_pos (ret_neg.mpr hmode)]
    exact ⟨trivial, ret_ne_BAD_TYPE _, fun h => absurd h.1 hmode, fun _ => ret_neg.mpr hmode⟩

end Kernel

/-! ### What a request does -/

section Requests

variable {modes : List DrmMode} {s : Interface} {config : Nat} {mode : DrmMode} {a : ModeAnswers}

/-- The commit log after one more commit. -/
def Device.logged (d : Device) (testOnly : Bool) (blob : Nat) (e : Errno) : Device :=
  { d with commits := ⟨testOnly, some blob, e⟩ :: d.commits }

/-- The device after a request that queued one blob is gone. -/
def Device.dropped (d : Device) (blob : Nat) (answers : Nat → Errno) : Device :=
  (DestroyPropertyBlob d blob (answers blob)).1

theorem dropped_eq (d : Device) (blob : Nat) (answers : Nat → Errno) :
    d.dropped blob answers = (destroyEach d answers [blob]).1 := by
  unfold Device.dropped
  simp only [destroyEach]
  split <;> rfl

@[simp] theorem dropped_blobs (d : Device) (blob : Nat) (answers : Nat → Errno) :
    (d.dropped blob answers).blobs = d.blobs := by
  rw [dropped_eq]
  exact (destroyEach_frame _).1

@[simp] theorem dropped_commits (d : Device) (blob : Nat) (answers : Nat → Errno) :
    (d.dropped blob answers).commits = d.commits := by
  rw [dropped_eq]
  exact (destroyEach_frame _).2

theorem close_addOldBlob {req : DrmModeAtomicReq} (h : req.mOldBlobs = []) (d : Device) (blob : Nat)
    (answers : Nat → Errno) : (req.addOldBlob blob).close d answers = d.dropped blob answers := by
  rw [close_eq, dropped_eq]
  simp only [DrmModeAtomicReq.addOldBlob, h, List.nil_append]

theorem requestBlob_cases (s : Interface) (mode : DrmMode) (config : Nat) (e : Errno) :
    s.mDesiredModeState.mode.id ≠ config ∧ e = 0 ∧ requestBlob s mode config e =
        ({ s.device with blobs := s.device.blobs ++ [.mode (ToDrmModeModeInfo mode)] },
          s.device.blobs.length + 1, NO_ERROR) ∨
      s.mDesiredModeState.mode.id ≠ config ∧ e ≠ 0 ∧
        requestBlob s mode config e = (s.device, 0, ret e) ∨
      s.mDesiredModeState.mode.id = config ∧
        requestBlob s mode config e = (s.device, 0, NO_ERROR) := by
  unfold requestBlob createModeBlob
  by_cases hid : s.mDesiredModeState.mode.id = config
  · exact Or.inr (Or.inr ⟨hid, if_neg (fun h => h hid)⟩)
  · rw [if_pos hid]
    rcases CreatePropertyBlob_cases s.device (.mode (ToDrmModeModeInfo mode)) e with
      ⟨he, heq⟩ | ⟨he, heq⟩
    · exact Or.inl ⟨hid, he, heq⟩
    · exact Or.inr (Or.inl ⟨hid, he, heq⟩)

/-- The desired state after a request, and the device that its blob came to. -/
def stored (s : Interface) (d : Device) (needs : Bool) (mode : DrmMode) (blob : Nat)
    (answers : Nat → Errno) : Interface :=
  if blob ≠ 0 then
    { s with
      device := d.dropped s.mDesiredModeState.old_blob_id answers
      mDesiredModeState := ⟨needs, mode, blob, s.mDesiredModeState.blob_id⟩ }
  else
    { s with device := d, mDesiredModeState := { s.mDesiredModeState with needs_modeset := needs } }

theorem storeDesired_eq {req : DrmModeAtomicReq} (h : req.mOldBlobs = []) (d : Device)
    (needs : Bool) (blob : Nat) :
    storeDesired { s with
        device := d
        mDesiredModeState := { s.mDesiredModeState with needs_modeset := needs } } mode blob req a =
      stored s d needs mode blob a.destroys := by
  unfold storeDesired stored ModeState.setMode
  split
  · simp only [close_addOldBlob h]
  · simp only [close_of_nil h]

/-- **What a deferred or tested request does**: nothing; or a test whose properties are not taken
    keeps the blob that was made, a test that the driver rejects drops it, and an accepted request
    stores it. -/
theorem setActiveConfigWithConstraints_cases (modes : List DrmMode) (s : Interface) (config : Nat)
    (test : Bool) (a : ModeAnswers) :
    (∃ r, setActiveConfigWithConstraints modes s config test a = (s, r) ∧
        (r = HWC2_ERROR_BAD_CONFIG ∨
          r = HWC2_ERROR_NONE ∧ (findMode modes config).isSome ∧ sameMode s config = true)) ∨
      ∃ mode d blob used, findMode modes config = some mode ∧ sameMode s config = false ∧
        requestBlob s mode config a.create = (d, blob, NO_ERROR) ∧
        used = (if blob ≠ 0 then blob else s.mDesiredModeState.blob_id) ∧
        ((test = true ∧ ¬a.addsOk ∧ ∃ r, r < 0 ∧
            setActiveConfigWithConstraints modes s config test a = ({ s with device := d }, r)) ∨
          (test = true ∧ a.addsOk ∧ a.commit ≠ 0 ∧
            setActiveConfigWithConstraints modes s config test a =
              ({ s with device := (d.logged true used a.commit).dropped blob a.destroys },
                ret a.commit)) ∨
          (test = true ∧ a.addsOk ∧ a.commit = 0 ∧
            setActiveConfigWithConstraints modes s config test a =
              (stored s (d.logged true used a.commit) s.mDesiredModeState.needs_modeset mode blob
                a.destroys, HWC2_ERROR_NONE)) ∨
          (test = false ∧ setActiveConfigWithConstraints modes s config test a =
            (stored s d true mode blob a.destroys, HWC2_ERROR_NONE))) := by
  unfold setActiveConfigWithConstraints
  cases hfind : findMode modes config with
  | none => exact Or.inl ⟨_, rfl, Or.inl rfl⟩
  | some mode =>
    by_cases hsame : sameMode s config = true
    · simp only [hsame, if_true]
      exact Or.inl ⟨_, rfl, Or.inr ⟨rfl, rfl, trivial⟩⟩
    · rw [Bool.not_eq_true] at hsame
      simp only [hsame, Bool.false_eq_true, if_false]
      obtain ⟨b, hb⟩ : ∃ b, requestBlob s mode config a.create = b := ⟨_, rfl⟩
      obtain ⟨d, blob, r⟩ := b
      by_cases hr : r = NO_ERROR
      · subst hr
        right
        refine ⟨mode, d, blob, _, rfl, trivial, hb, rfl, ?_⟩
        obtain ⟨hold, -, hok, hbad⟩ := setDisplayMode_spec s.crtcId
          (if blob ≠ 0 then blob else s.mDesiredModeState.blob_id) a
        cases test with
        | false =>
          refine Or.inr (Or.inr (Or.inr ⟨rfl, ?_⟩))
          simp only [hb, ne_eq, not_true_eq_false, if_false, Bool.false_eq_true, Prod.mk.injEq,
            and_true]
          exact storeDesired_eq rfl d true blob
        | true =>
          by_cases hadds : a.addsOk
          · obtain ⟨hret, hmode⟩ := hok hadds
            have hneg : ¬(NO_ERROR < 0) := by decide
            by_cases hcommit : a.commit = 0
            · refine Or.inr (Or.inr (Or.inl ⟨rfl, hadds, hcommit, ?_⟩))
              simp only [hb, hret, DrmModeAtomicReq.commit, hcommit, ret_zero, ne_eq,
                not_true_eq_false, if_false, if_true, hneg, hmode, Prod.mk.injEq, and_true]
              exact storeDesired_eq hold _ s.mDesiredModeState.needs_modeset blob
            · refine Or.inr (Or.inl ⟨rfl, hadds, hcommit, ?_⟩)
              simp only [hb, hret, DrmModeAtomicReq.commit, ret_eq_zero, hcommit, ne_eq,
                not_true_eq_false, not_false_eq_true, if_false, if_true, hneg, hmode,
                close_addOldBlob hold]
              rfl
          · refine Or.inl ⟨rfl, hadds, _, hbad hadds, ?_⟩
            simp only [hb, ne_eq, not_true_eq_false, if_false, if_true, hbad hadds,
              close_of_nil hold]
      · left
        have hd : d = s.device := by
          rcases requestBlob_cases s mode config a.create with ⟨-, -, h⟩ | ⟨-, -, h⟩ | ⟨-, h⟩
          · rw [hb] at h
            cases h
            exact absurd rfl hr
          · rw [hb] at h
            cases h
            rfl
          · rw [hb] at h
            cases h
            rfl
        simp only [hb, ne_eq, hr, not_false_eq_true, if_true, hd]
        exact ⟨_, rfl, Or.inl rfl⟩

/-- The device with one more mode blob. -/
def Device.withMode (d : Device) (mode : DrmMode) : Device :=
  { d with blobs := d.blobs ++ [.mode (ToDrmModeModeInfo mode)] }

/-- **What an immediate request does**: nothing; or a new blob that is dropped when the properties
    or the commit fail, and becomes that of the active state otherwise. -/
theorem setActiveDrmMode_cases (s : Interface) (mode : DrmMode) (a : ModeAnswers) :
    (sameMode s mode.id = true ∧ setActiveDrmMode s mode a = (s, HWC2_ERROR_NONE)) ∨
      sameMode s mode.id = false ∧
        ((a.create ≠ 0 ∧ setActiveDrmMode s mode a = (s, HWC2_ERROR_BAD_CONFIG)) ∨
          (a.create = 0 ∧ ¬a.addsOk ∧ ∃ r, setActiveDrmMode s mode a =
            ({ s with
                device := (s.device.withMode mode).dropped (s.device.blobs.length + 1)
                  a.destroys }, r)) ∨
          (a.create = 0 ∧ a.addsOk ∧ a.commit ≠ 0 ∧ setActiveDrmMode s mode a =
            ({ s with
                device := ((s.device.withMode mode).logged false (s.device.blobs.length + 1)
                  a.commit).dropped (s.device.blobs.length + 1) a.destroys }, ret a.commit)) ∨
          (a.create = 0 ∧ a.addsOk ∧ a.commit = 0 ∧ setActiveDrmMode s mode a =
            ({ s with
                device := ((s.device.withMode mode).logged false (s.device.blobs.length + 1)
                  a.commit).dropped s.mActiveModeState.old_blob_id a.destroys
                mActiveModeState := ⟨false, mode, s.device.blobs.length + 1,
                  s.mActiveModeState.blob_id⟩ }, HWC2_ERROR_NONE))) := by
  unfold setActiveDrmMode
  by_cases hsame : sameMode s mode.id = true
  · exact Or.inl ⟨hsame, by simp only [hsame, if_true]⟩
  · rw [Bool.not_eq_true] at hsame
    refine Or.inr ⟨hsame, ?_⟩
    simp only [hsame, Bool.false_eq_true, if_false, createModeBlob]
    rcases CreatePropertyBlob_cases s.device (.mode (ToDrmModeModeInfo mode)) a.create with
      ⟨hcreate, heq⟩ | ⟨hcreate, heq⟩
    · obtain ⟨hold, -, hok, hbad⟩ := setDisplayMode_spec s.crtcId (s.device.blobs.length + 1) a
      by_cases hadds : a.addsOk
      · obtain ⟨hret, hmode⟩ := hok hadds
        by_cases hcommit : a.commit = 0
        · refine Or.inr (Or.inr (Or.inr ⟨hcreate, hadds, hcommit, ?_⟩))
          simp only [heq, hret, DrmModeAtomicReq.commit, hcommit, ret_zero, ne_eq,
            not_true_eq_false, if_false, hmode, ModeState.setMode, close_addOldBlob hold]
          rfl
        · refine Or.inr (Or.inr (Or.inl ⟨hcreate, hadds, hcommit, ?_⟩))
          simp only [heq, hret, DrmModeAtomicReq.commit, ret_eq_zero, hcommit, ne_eq,
            not_true_eq_false, not_false_eq_true, if_false, if_true, hmode,
            close_addOldBlob hold]
          rfl
      · have hret : (setDisplayMode s.crtcId {} (s.device.blobs.length + 1) a).2 ≠ NO_ERROR :=
          Int.ne_of_lt (hbad hadds)
        refine Or.inr (Or.inl ⟨hcreate, hadds,
          (setDisplayMode s.crtcId {} (s.device.blobs.length + 1) a).2, ?_⟩)
        simp only [heq, ne_eq, not_true_eq_false, if_false, hret, not_false_eq_true, if_true,
          close_addOldBlob hold]
        rfl
    · refine Or.inl ⟨hcreate, ?_⟩
      have hret : ret a.create ≠ NO_ERROR := fun h => hcreate (ret_eq_zero.mp h)
      simp only [heq, ne_eq, hret, not_false_eq_true, if_true]

end Requests

/-! ### What a frame does -/

section Frames

/-- A new blob replaces that of the region, or nothing changes. -/
theorem renewRegion_cases (s : Interface) (rect : DrmClipRect) (e : Errno) :
    e = 0 ∧ renewRegion s rect e =
        ({ s with
            device := { s.device with blobs := s.device.blobs ++ [.partial_region rect] }
            mDrmReq := if s.mPartialRegionState.blob_id ≠ 0 then
              s.mDrmReq.addOldBlob s.mPartialRegionState.blob_id else s.mDrmReq
            mPartialRegionState := ⟨rect, s.device.blobs.length + 1⟩ }, NO_ERROR) ∨
      e ≠ 0 ∧ renewRegion s rect e = (s, ret e) := by
  unfold renewRegion
  rcases CreatePropertyBlob_cases s.device (.partial_region rect) e with ⟨he, heq⟩ | ⟨he, heq⟩
  · refine Or.inl ⟨he, ?_⟩
    have hblob : ¬((NO_ERROR : Int) ≠ 0 ∨ s.device.blobs.length + 1 = 0) := by simp [NO_ERROR]
    simp only [heq, if_neg hblob]
  · refine Or.inr ⟨he, ?_⟩
    simp only [heq, or_true, if_true]

/-- A blob that the request alone names, or nothing. -/
theorem setFrameStaticMeta_cases (s : Interface) (w : Window) :
    (w.metaParcel = none ∨ w.create ≠ 0) ∧ (setFrameStaticMeta s w).1 = s ∨
      ∃ info, w.metaParcel = some info ∧ w.create = 0 ∧ (setFrameStaticMeta s w).1 =
        { s with
          device := { s.device with
            blobs := s.device.blobs ++ [.hdr_output_meta (hdrOutputMetadata info)] }
          mDrmReq := (s.mDrmReq.atomicAddProperty .hdr_output_meta (s.device.blobs.length + 1)
            w.add).1 } := by
  unfold setFrameStaticMeta
  cases hinfo : w.metaParcel with
  | none => exact Or.inl ⟨Or.inl rfl, rfl⟩
  | some info =>
    rcases CreatePropertyBlob_cases s.device (.hdr_output_meta (hdrOutputMetadata info)) w.create
      with ⟨he, heq⟩ | ⟨he, heq⟩
    · refine Or.inr ⟨info, rfl, he, ?_⟩
      have hblob : ¬((NO_ERROR : Int) ≠ 0 ∨ s.device.blobs.length + 1 = 0) := by simp [NO_ERROR]
      simp only [heq, if_neg hblob]
    · refine Or.inl ⟨Or.inr he, ?_⟩
      simp only [heq, or_true, if_true]

/-- The mode goes to the driver, unless its properties are not taken. -/
theorem deliverModeSet_cases (s : Interface) (a : ModeAnswers) :
    (¬a.addsOk ∧ ∃ r, r < 0 ∧ deliverModeSet s a = (s, r)) ∨
      (a.addsOk ∧ deliverModeSet s a =
        ({ s with device := s.device.logged false s.mDesiredModeState.blob_id a.commit },
          ret a.commit)) := by
  obtain ⟨hold, hbad, hok, hneg⟩ :=
    setDisplayMode_spec s.crtcId s.mDesiredModeState.blob_id a
  unfold deliverModeSet
  by_cases hadds : a.addsOk
  · obtain ⟨hret, hmode⟩ := hok hadds
    have hgo : ¬((NO_ERROR : Int) ≠ BAD_TYPE ∧ (NO_ERROR : Int) < 0) := by decide
    refine Or.inr ⟨hadds, ?_⟩
    simp only [hret, if_neg hgo, close_of_nil hold, DrmModeAtomicReq.commit, hmode,
      Device.logged]
  · refine Or.inl ⟨hadds, _, hneg hadds, ?_⟩
    simp only [if_pos (And.intro hbad (hneg hadds)), close_of_nil hold]

/-- What comes before the commit of the frame. -/
def setupFrame (s : Interface) (f : Frame) : Interface × Int :=
  proceed (s, ret f.writeback)
    fun s => proceed (setupPartialRegion s f)
    fun s => proceed (s, ret f.out_fence_ptr)
    fun s => setupWindows s f f.windows

theorem proceed_cases (r : Interface × Int) (next : Interface → Interface × Int) :
    r.2 < 0 ∧ proceed r next = r ∨ ¬r.2 < 0 ∧ proceed r next = next r.1 := by
  unfold proceed
  split
  · exact Or.inl ⟨‹_›, rfl⟩
  · exact Or.inr ⟨‹_›, rfl⟩

theorem proceed_assoc (r : Interface × Int) (f g : Interface → Interface × Int) :
    proceed (proceed r f) g = proceed r fun s => proceed (f s) g := by
  unfold proceed
  split
  · rfl
  · rfl

theorem deliverFrame_eq (s : Interface) (f : Frame) :
    deliverFrame s f =
      proceed (if s.mDesiredModeState.needs_modeset then deliverModeSet s f.modeset
          else (s, NO_ERROR)) fun s => proceed (setupFrame s f) fun s => proceed (commitFrame s f)
        fun s => (applyDesired s, NO_ERROR) := by
  unfold deliverFrame setupFrame
  simp only [proceed_assoc]

end Frames

end ExynosHal.DrmModes
