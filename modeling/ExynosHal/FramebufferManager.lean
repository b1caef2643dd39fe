/-
  ExynosHal/FramebufferManager.lean
  =================================
  **The framebuffers that all displays share.**

  `FramebufferManager` of `libhwc2.1/display/ExynosDrmFramebufferManager.cpp`
  keeps the framebuffers of every display in three lists: those of the frame
  being made, the cached ones, and those to be removed.  A framebuffer without
  caching stays with its display, which removes it in
  `ExynosDisplayDrmInterface::flipFBs`.

  A framebuffer is in one place at a time, whatever the calls and their order
  (`Reachable.placed`), so that it is removed once.
-/
import Mathlib.Algebra.Group.Nat.Defs
import ExynosHal.TransitionSystem
import ExynosHal.WindowConfig
import Mathlib.Data.List.Perm.Basic
import Mathlib.Data.List.Nodup

namespace ExynosHal.FramebufferManager

open ExynosHal.WindowConfig

/-! ### What a framebuffer is made of -/

/-- `FORMAT_SBWC_MASK`. -/
inductive SbwcType where
  | none | LOSSLESS | LOSSY_40 | LOSSY_50 | LOSSY_60 | LOSSY_75 | LOSSY_80
deriving DecidableEq, Repr

/-- `BIT_MASK`. -/
inductive BitType where
  | BIT8 | BIT10 | BIT8_2 | BIT16 | none
deriving DecidableEq, Repr

/-- A row of `exynos_format_desc`, with `getBytePerPixelOfPrimaryPlane` of its HAL format;
    `isSBWCDecomp` holds of the two `_SBWC_DECOMP` formats. -/
structure FormatDesc where
  isImplementationDefined : Bool
  isSBWCDecomp : Bool
  drmFormat : Nat
  planeNum : Nat
  bufferNum : Nat
  bytePerPixel : Nat
  sbwcType : SbwcType
  bitType : BitType
deriving DecidableEq, Repr

abbrev Modifier := BitVec 64

def fourcc_mod_code (vendor val : BitVec 64) : Modifier :=
  (vendor <<< 56) ||| (val &&& 0x00ffffffffffffff)

def VENDOR_NONE : BitVec 64 := 0
def VENDOR_SAMSUNG : BitVec 64 := 4
def VENDOR_ARM : BitVec 64 := 8

def DRM_FORMAT_MOD_PROTECTION : Modifier := fourcc_mod_code VENDOR_NONE (1 <<< 51)
def DRM_FORMAT_MOD_SAMSUNG_COLORMAP : Modifier := fourcc_mod_code VENDOR_SAMSUNG 4

def DRM_FORMAT_MOD_SAMSUNG_VOTF (buf_idx : Nat) : Modifier :=
  fourcc_mod_code VENDOR_SAMSUNG ((BitVec.ofNat 64 buf_idx <<< 10) &&& (0xf <<< 10) ||| (1 <<< 9))

def DRM_FORMAT_MOD_SAMSUNG_SBWC (type ratio : BitVec 64) : Modifier :=
  fourcc_mod_code VENDOR_SAMSUNG
    ((1 <<< 4) ||| ((type <<< 5) &&& (0x3 <<< 5)) ||| ((ratio <<< 7) &&& (0x3 <<< 7)))

def DRM_FORMAT_MOD_SAMSUNG_SAJC (blk_size : Nat) : Modifier :=
  fourcc_mod_code VENDOR_SAMSUNG ((BitVec.ofNat 64 blk_size <<< 15) &&& (0x3 <<< 15) ||| (1 <<< 14))

def DRM_FORMAT_MOD_ARM_AFBC (mode : BitVec 64) : Modifier := fourcc_mod_code VENDOR_ARM mode

def AFBC_FORMAT_MOD_BLOCK_SIZE_16x16 : BitVec 64 := 1
def AFBC_FORMAT_MOD_SOURCE_GPU : BitVec 64 := 1 <<< 52
def AFBC_FORMAT_MOD_SOURCE_G2D : BitVec 64 := 2 <<< 52

def SBWC_MOD_NONE : BitVec 64 := 0
def SBWC_MOD_LOSSLESS : BitVec 64 := 1
def SBWC_MOD_LOSSY : BitVec 64 := 2
def SBWCL_8B_50 : BitVec 64 := 1
def SBWCL_8B_75 : BitVec 64 := 2
def SBWCL_10B_40 : BitVec 64 := 1
def SBWCL_10B_60 : BitVec 64 := 2
def SBWCL_10B_80 : BitVec 64 := 3

def getSBWCModifierBits (d : FormatDesc) : Modifier :=
  match d.sbwcType with
  | .none => if d.isSBWCDecomp then DRM_FORMAT_MOD_SAMSUNG_SBWC SBWC_MOD_NONE 0 else 0
  | .LOSSLESS => DRM_FORMAT_MOD_SAMSUNG_SBWC SBWC_MOD_LOSSLESS 0
  | lossy =>
    match d.bitType, lossy with
    | .BIT10, .LOSSY_40 => DRM_FORMAT_MOD_SAMSUNG_SBWC SBWC_MOD_LOSSY SBWCL_10B_40
    | .BIT10, .LOSSY_60 => DRM_FORMAT_MOD_SAMSUNG_SBWC SBWC_MOD_LOSSY SBWCL_10B_60
    | .BIT10, .LOSSY_80 => DRM_FORMAT_MOD_SAMSUNG_SBWC SBWC_MOD_LOSSY SBWCL_10B_80
    | .BIT8, .LOSSY_50 => DRM_FORMAT_MOD_SAMSUNG_SBWC SBWC_MOD_LOSSY SBWCL_8B_50
    | .BIT8, .LOSSY_75 => DRM_FORMAT_MOD_SAMSUNG_SBWC SBWC_MOD_LOSSY SBWCL_8B_75
    | _, _ => 0

def COMP_TYPE_AFBC : Nat := 0x00100000
def COMP_TYPE_SAJC : Nat := 0x00400000
def DPP_COMP_SRC_G2D : Nat := 1
def DPP_COMP_SRC_GPU : Nat := 2
def DRM_FORMAT_UNDEFINED : Nat := 0
def DRM_FORMAT_BGRA8888 : Nat := 0x34324142
def MAX_PLANE_NUM : Nat := 3
def HWC_DRM_BO_MAX_PLANES : Nat := 4
def SAJC_KEY_INDEX : Nat := 1

/-- What `getBuffer` knows of a framebuffer before it looks into the cache; the lists have
    `HWC_DRM_BO_MAX_PLANES` entries.  `bufferNum` is the number of buffers whose handles are
    fetched, and `planes` says of which further planes the first handle is used. -/
structure Layout where
  width : Nat
  height : Nat
  drmFormat : Nat
  pitches : List Nat
  offsets : List Nat
  modifiers : List Modifier
  bufferNum : Nat
  planes : Nat
deriving DecidableEq, Repr

def bufferModifier (c : WinConfig) (d : FormatDesc) : Modifier :=
  (if c.protection then DRM_FORMAT_MOD_PROTECTION else 0) |||
  (if c.compressionInfo.type = COMP_TYPE_AFBC then
    DRM_FORMAT_MOD_ARM_AFBC (AFBC_FORMAT_MOD_BLOCK_SIZE_16x16 |||
      (if c.compSrc = DPP_COMP_SRC_G2D then AFBC_FORMAT_MOD_SOURCE_G2D
        else if c.compSrc = DPP_COMP_SRC_GPU then AFBC_FORMAT_MOD_SOURCE_GPU else 0))
  else if c.compressionInfo.type = COMP_TYPE_SAJC then
    DRM_FORMAT_MOD_SAMSUNG_SAJC c.compressionInfo.sajcMaxBlockSize
  else getSBWCModifierBits d) |||
  (if c.vOtfEnable then DRM_FORMAT_MOD_SAMSUNG_VOTF c.vOtfBufIndex else 0)

/-- The planes of a buffer: a SAJC buffer has one more than its format. -/
def planeCount (c : WinConfig) (d : FormatDesc) : Nat :=
  if c.compressionInfo.type = COMP_TYPE_SAJC then d.planeNum + 1 else d.planeNum

/-- The planes that are filled: one for each buffer, or all planes of a single buffer. -/
def filledPlanes (bufferNum planeNum : Nat) : Nat :=
  if bufferNum = 1 ∧ planeNum > bufferNum then planeNum else bufferNum

def fill {α : Type} (n : Nat) (a z : α) : List α :=
  (List.range HWC_DRM_BO_MAX_PLANES).map fun i => if i < n then a else z

def bufferLayout (c : WinConfig) (d : FormatDesc) : Option Layout :=
  if d.isImplementationDefined then none
  else if d.drmFormat = DRM_FORMAT_UNDEFINED then none
  else if d.bufferNum = 0 then none
  else if d.planeNum = 0 ∨ d.planeNum > MAX_PLANE_NUM then none
  else
    let planes := filledPlanes d.bufferNum (planeCount c d)
    let header :=
      if d.bufferNum = 1 ∧ planeCount c d > d.bufferNum ∧ c.compressionInfo.type = COMP_TYPE_SAJC
      then c.compressionInfo.sajcHeaderOffset else 0
    some
      { width := c.src.f_w
        height := c.src.f_h
        drmFormat := d.drmFormat
        pitches := fill planes (c.src.f_w * d.bytePerPixel % 2 ^ 32) 0
        offsets := (fill 0 0 0).set SAJC_KEY_INDEX header
        modifiers := fill planes (bufferModifier c d) 0
        bufferNum := d.bufferNum
        planes := planes }

def colorLayout (c : WinConfig) : Layout where
  width := c.dst.w
  height := c.dst.h
  drmFormat := DRM_FORMAT_BGRA8888
  pitches := fill 1 (c.dst.w * 4 % 2 ^ 32) 0
  offsets := fill 0 0 0
  modifiers :=
    fill 1 ((if c.protection then DRM_FORMAT_MOD_PROTECTION else 0) |||
      DRM_FORMAT_MOD_SAMSUNG_COLORMAP) 0
  bufferNum := 0
  planes := 0

def layout (desc : Nat → FormatDesc) (c : WinConfig) : Option Layout :=
  match c.state with
  | .buffer => bufferLayout c (desc c.format)
  | .cursor => bufferLayout c (desc c.format)
  | .color => some (colorLayout c)
  | .disabled => none
  | .update => none

/-- The descriptor of a buffer of a window; `fd_idma` has three. -/
def fdOf (c : WinConfig) : Nat → Int
  | 0 => c.fd_idma.1
  | 1 => c.fd_idma.2.1
  | _ => c.fd_idma.2.2

/-- The handles of a framebuffer, where `prime` is `getBufHandleFromFd`, which gives 0 when it
    fails. -/
def handles (prime : Int → Nat) (c : WinConfig) (l : Layout) : Option (List Nat) :=
  if c.state = .color then some [0xff000000, 0, 0, 0]
  else
    let got := (List.range l.bufferNum).map fun i => prime (fdOf c i)
    if got.any (· == 0) then none
    else
      some ((List.range HWC_DRM_BO_MAX_PLANES).map fun i =>
        if i < l.bufferNum then got.getD i 0 else if i < l.planes then got.getD 0 0 else 0)

/-- The arguments of `drmModeAddFB2WithModifiers`. -/
structure Creation where
  layout : Layout
  handles : List Nat
deriving DecidableEq, Repr

/-- What a creation for the present config would use. -/
def creation (desc : Nat → FormatDesc) (prime : Int → Nat) (c : WinConfig) : Option Creation :=
  (layout desc c).bind fun l => (handles prime c l).map fun h => ⟨l, h⟩

/-! ### The manager -/

/-- The display types, `HWC_NUM_DISPLAY_TYPES` of them. -/
inductive DisplayType where
  | PRIMARY | EXTERNAL | VIRTUAL
deriving DecidableEq, Repr

/-- The comparison of the lookup is one of these. -/
structure Key where
  bufferId : Nat
  format : Nat
  width : Nat
  height : Nat
  modifier : Modifier
deriving DecidableEq, Repr

/-- `Framebuffer`, with the config it was made for and the arguments it was made with. -/
structure Framebuffer where
  fbId : Nat
  key : Key
  displayType : DisplayType
  owner : Option Nat
  lastActiveTime : DisplayType → Nat
  removePending : Bool
  config : WinConfig
  made : Creation

/-- The manager and its surroundings: the list of the removing thread, the framebuffers that
    each display got without caching, and the framebuffers that the driver removed.  Of each
    display, `pending` are the framebuffers it got since its last flip, and `shown` those of its
    last successful commit; `committed` is that there was one since its last flip. -/
structure World (D : Type) where
  mStagingBuffers : List Framebuffer
  mCachedBuffers : List Framebuffer
  mCleanupBuffers : List Framebuffer
  mLastActiveCommitTime : DisplayType → Nat
  cleanupBuffers : List Framebuffer
  mFbIds : D → List Nat
  mOldFbIds : D → List Nat
  nextFb : Nat
  removed : List Nat
  pending : D → List Nat
  committed : D → Bool
  shown : D → List Nat

def MAX_CACHED_BUFFERS : Nat := 32

def keyOf (c : WinConfig) (l : Layout) : Key where
  bufferId := c.bufferId
  format := l.drmFormat
  width := l.width
  height := l.height
  modifier := l.modifiers.headD 0

/-- The first element that meets `q`, and the others. -/
def takeFirst {α : Type} (q : α → Bool) : List α → Option (α × List α)
  | [] => none
  | a :: l => if q a then some (a, l) else (takeFirst q l).map fun r => (r.1, a :: r.2)

def displayTypes : List DisplayType := [.PRIMARY, .EXTERNAL, .VIRTUAL]

section Operations

variable {D : Type} [DecidableEq D] (desc : Nat → FormatDesc) (type : D → DisplayType)

/-- What the kernel answers to a request. -/
structure Answers where
  prime : Int → Nat
  addFB : Bool

def World.got (w : World D) (d : D) (fbId : Nat) : World D :=
  { w with pending := Function.update w.pending d (w.pending d ++ [fbId]) }

def canRemoveBuffer (w : World D) (fb : Framebuffer) : Bool :=
  displayTypes.all fun i =>
    !(w.mLastActiveCommitTime i != 0 && w.mLastActiveCommitTime i == fb.lastActiveTime i)

def newFramebuffer (w : World D) (d : D) (c : WinConfig) (k : Creation) : Framebuffer where
  fbId := w.nextFb
  key := keyOf c k.layout
  displayType := type d
  owner := c.owner
  lastActiveTime _ := 0
  removePending := false
  config := c
  made := k

/-- `getBuffer` of a framebuffer that is not in the cache. -/
def createBuffer (w : World D) (d : D) (c : WinConfig) (caching : Bool) (a : Answers) :
    World D × Option Nat :=
  match creation desc a.prime c with
  | none => (w, none)
  | some k =>
    if a.addFB = false then (w, none)
    else
      let w' := { w with nextFb := w.nextFb + 1 }
      if caching then
        (({ w' with
            mStagingBuffers := w.mStagingBuffers ++ [newFramebuffer type w d c k] } : World D).got d
          w.nextFb, some w.nextFb)
      else
        (({ w' with
            mFbIds := Function.update w.mFbIds d (w.mFbIds d ++ [w.nextFb]) } : World D).got d
          w.nextFb, some w.nextFb)

/-- The cached framebuffer that `getBuffer` takes, and the rest of the cache. -/
def lookup (w : World D) (c : WinConfig) : Option (Framebuffer × List Framebuffer) :=
  (layout desc c).bind fun l => takeFirst (fun fb => fb.key == keyOf c l) w.mCachedBuffers

def getBuffer (w : World D) (d : D) (c : WinConfig) (caching : Bool) (a : Answers) :
    World D × Option Nat :=
  match if caching then lookup desc w c else none with
  | some (fb, rest) =>
    (({ w with mStagingBuffers := w.mStagingBuffers ++ [fb], mCachedBuffers := rest } : World D).got d
      fb.fbId, some fb.fbId)
  | none => createBuffer desc type w d c caching a

/-- A successful commit of the framebuffers that the display got for its frame. -/
def commit (w : World D) (d : D) : World D :=
  { w with
    shown := Function.update w.shown d (w.pending d)
    committed := Function.update w.committed d true }

def Framebuffer.updateLastActiveTime (fb : Framebuffer) (t : DisplayType) (time : Nat) : Framebuffer :=
  { fb with lastActiveTime := Function.update fb.lastActiveTime t time }

/-- `FramebufferManager::flip`. -/
def flip (w : World D) (t : DisplayType) (isActiveCommit : Bool) (time : Nat) : World D :=
  { w with
    mLastActiveCommitTime :=
      if isActiveCommit then Function.update w.mLastActiveCommitTime t time
      else w.mLastActiveCommitTime
    mStagingBuffers := []
    mCachedBuffers :=
      (if isActiveCommit then w.mStagingBuffers.map fun fb => fb.updateLastActiveTime t time
        else w.mStagingBuffers) ++ w.mCachedBuffers }

/-- The part of `flipFBs` for the framebuffers without caching. -/
def flipUncached (w : World D) (d : D) (isActiveCommit : Bool) : World D :=
  if w.mFbIds d = [] then w
  else if isActiveCommit then
    { w with
      removed := w.removed ++ w.mOldFbIds d
      mOldFbIds := Function.update w.mOldFbIds d (w.mFbIds d)
      mFbIds := Function.update w.mFbIds d [] }
  else
    { w with
      removed := w.removed ++ w.mFbIds d
      mFbIds := Function.update w.mFbIds d [] }

/-- `ExynosDisplayDrmInterface::flipFBs`, which ends a frame of the display. -/
def flipFBs (w : World D) (d : D) (isActiveCommit : Bool) (time : Nat) : World D :=
  let w' := flip (flipUncached w d isActiveCommit) (type d) isActiveCommit time
  { w' with
    pending := Function.update w'.pending d []
    committed := Function.update w'.committed d false }

/-- The framebuffers that `removeBufferInternal` would remove. -/
def chosen (compareFunc : Framebuffer → Bool) (fb : Framebuffer) : Bool :=
  fb.removePending || compareFunc fb

def removeBufferInternal (w : World D) (compareFunc : Framebuffer → Bool) : World D :=
  let leaves := fun fb => chosen compareFunc fb && canRemoveBuffer w fb
  { w with
    mCleanupBuffers := w.mCleanupBuffers ++ w.mCachedBuffers.filter leaves
    mCachedBuffers := (w.mCachedBuffers.filter fun fb => !leaves fb).map fun fb =>
      if chosen compareFunc fb then { fb with removePending := true } else fb }

def removeBuffer (w : World D) (bufferId : Nat) : World D :=
  removeBufferInternal w fun fb => fb.key.bufferId == bufferId

def removeBuffersForDisplay (w : World D) (t : DisplayType) : World D :=
  removeBufferInternal w fun fb => fb.displayType == t

def removeBuffersForOwner (w : World D) (owner : Option Nat) : World D :=
  removeBufferInternal w fun fb => fb.owner == owner

/-- A removed display shows nothing more. -/
def onDisplayRemoved (w : World D) (d : D) : World D :=
  removeBuffersForDisplay
    { w with
      mLastActiveCommitTime := Function.update w.mLastActiveCommitTime (type d) 0
      shown := Function.update w.shown d [] } (type d)

/-- Walk over the cache, last framebuffer first, and take out those that can be removed until
    `n` are taken: the framebuffers that are kept, and those taken. -/
def evict (canRemove : Framebuffer → Bool) : Nat → List Framebuffer →
    List Framebuffer × List Framebuffer
  | 0, l => (l, [])
  | _ + 1, [] => ([], [])
  | n + 1, fb :: l =>
    if canRemove fb then ((evict canRemove n l).1, fb :: (evict canRemove n l).2)
    else (fb :: (evict canRemove (n + 1) l).1, (evict canRemove (n + 1) l).2)

def fillCleanupBuffer (w : World D) : World D :=
  let r := evict (canRemoveBuffer w) (w.mCachedBuffers.length - MAX_CACHED_BUFFERS)
    w.mCachedBuffers.reverse
  { w with mCachedBuffers := r.1.reverse, mCleanupBuffers := w.mCleanupBuffers ++ r.2 }

/-- The removing thread wakes up and takes the framebuffers to be removed. -/
def collect (w : World D) : World D :=
  let w' := fillCleanupBuffer w
  { w' with cleanupBuffers := w'.cleanupBuffers ++ w'.mCleanupBuffers, mCleanupBuffers := [] }

/-- `cleanupBuffers.clear()`: the driver removes the framebuffers. -/
def clear (w : World D) : World D :=
  { w with
    removed := w.removed ++ w.cleanupBuffers.map Framebuffer.fbId
    cleanupBuffers := [] }

inductive Op (D : Type) where
  | getBuffer (d : D) (c : WinConfig) (caching : Bool) (a : Answers)
  | commit (d : D)
  | flipFBs (d : D) (isActiveCommit : Bool) (time : Nat)
  | removeBuffer (bufferId : Nat)
  | removeBuffersForDisplay (t : DisplayType)
  | removeBuffersForOwner (owner : Option Nat)
  | onDisplayRemoved (d : D)
  | collect
  | clear

def step (w : World D) : Op D → World D
  | .getBuffer d c caching a => (getBuffer desc type w d c caching a).1
  | .commit d => FramebufferManager.commit w d
  | .flipFBs d isActiveCommit time => FramebufferManager.flipFBs type w d isActiveCommit time
  | .removeBuffer bufferId => FramebufferManager.removeBuffer w bufferId
  | .removeBuffersForDisplay t => FramebufferManager.removeBuffersForDisplay w t
  | .removeBuffersForOwner owner => FramebufferManager.removeBuffersForOwner w owner
  | .onDisplayRemoved d => FramebufferManager.onDisplayRemoved type w d
  | .collect => FramebufferManager.collect w
  | .clear => FramebufferManager.clear w

def World.empty : World D where
  mStagingBuffers := []
  mCachedBuffers := []
  mCleanupBuffers := []
  mLastActiveCommitTime _ := 0
  cleanupBuffers := []
  mFbIds _ := []
  mOldFbIds _ := []
  nextFb := 1
  removed := []
  pending _ := []
  committed _ := false
  shown _ := []

end Operations

/-! ### Where a framebuffer is -/

theorem takeFirst_spec {α : Type} {q : α → Bool} {l rest : List α} {a : α}
    (h : takeFirst q l = some (a, rest)) : q a = true ∧ l.Perm (a :: rest) := by
  induction l generalizing rest with
  | nil => cases h
  | cons b l ih =>
    unfold takeFirst at h
    split at h
    · rename_i hq
      cases h
      exact ⟨hq, List.Perm.refl _⟩
    · obtain ⟨⟨b', l'⟩, hl, heq⟩ := Option.map_eq_some_iff.mp h
      cases heq
      obtain ⟨hq, hperm⟩ := ih hl
      exact ⟨hq, (hperm.cons b).trans (List.Perm.swap ..)⟩

theorem takeFirst_none {α : Type} {q : α → Bool} {l : List α} (h : takeFirst q l = none) :
    ∀ a ∈ l, q a = false := by
  induction l with
  | nil => simp
  | cons b l ih =>
    unfold takeFirst at h
    split at h
    · cases h
    · rename_i hq
      intro a ha
      rcases List.mem_cons.mp ha with rfl | ha
      · simpa using hq
      · exact ih (Option.map_eq_none_iff.mp h) a ha

theorem evict_perm (canRemove : Framebuffer → Bool) (n : Nat) (l : List Framebuffer) :
    ((evict canRemove n l).1 ++ (evict canRemove n l).2).Perm l := by
  fun_induction evict canRemove n l with
  | case1 l => simp
  | case2 n => simp
  | case3 n fb l hremove ih => exact List.perm_middle.trans (ih.cons fb)
  | case4 n fb l hremove ih => exact ih.cons fb

theorem evict_removable (canRemove : Framebuffer → Bool) (n : Nat) (l : List Framebuffer) :
    ∀ fb ∈ (evict canRemove n l).2, canRemove fb = true := by
  fun_induction evict canRemove n l with
  | case1 l => simp
  | case2 n => simp
  | case3 n fb l hremove ih =>
    intro fb' h
    rcases List.mem_cons.mp h with rfl | h
    · exact hremove
    · exact ih fb' h
  | case4 n fb l hremove ih => exact ih

section Places

variable {D : Type}

def ids (l : List Framebuffer) : List Nat := l.map Framebuffer.fbId

@[simp] theorem ids_nil : ids [] = [] := rfl

@[simp] theorem ids_append (l l' : List Framebuffer) : ids (l ++ l') = ids l ++ ids l' :=
  List.map_append

/-- The framebuffers that went through the manager, and those the driver removed. -/
def World.tracked (w : World D) : List Nat :=
  ids (w.mStagingBuffers ++ w.mCachedBuffers ++ w.mCleanupBuffers ++ w.cleanupBuffers) ++ w.removed

/-- The framebuffers without caching that a display has. -/
def World.uncached (w : World D) (d : D) : List Nat :=
  w.mFbIds d ++ w.mOldFbIds d

/-- Every framebuffer that was made is in one place. -/
structure Placed (w : World D) : Prop where
  next : 1 ≤ w.nextFb
  tracked : w.tracked.Nodup
  uncached : ∀ d, (w.uncached d).Nodup
  apart : ∀ d, ∀ x ∈ w.uncached d, x ∉ w.tracked
  displays : ∀ d d', d ≠ d' → ∀ x ∈ w.uncached d, x ∉ w.uncached d'
  made : ∀ x, (x ∈ w.tracked ∨ ∃ d, x ∈ w.uncached d) ↔ 1 ≤ x ∧ x < w.nextFb

theorem Placed.start : Placed (World.empty : World D) := by
  refine ⟨Nat.le_refl 1, List.nodup_nil, fun _ => List.nodup_nil, ?_, ?_, ?_⟩
  · intro d x hx
    simp [World.uncached, World.empty] at hx
  · intro d d' _ x hx
    simp [World.uncached, World.empty] at hx
  · intro x
    simp [World.tracked, World.uncached, World.empty]
    omega

/-- Framebuffers that only go from list to list stay placed. -/
theorem Placed.move {w w' : World D} (h : Placed w) (hperm : w'.tracked.Perm w.tracked)
    (hun : w'.uncached = w.uncached) (hnext : w'.nextFb = w.nextFb) : Placed w' := by
  have hmem : ∀ x, x ∈ w'.tracked ↔ x ∈ w.tracked := fun x => hperm.mem_iff
  refine ⟨hnext ▸ h.next, hperm.nodup_iff.mpr h.tracked, ?_, ?_, ?_, ?_⟩
  · intro d
    rw [hun]
    exact h.uncached d
  · intro d x hx
    rw [hmem]
    exact h.apart d x (hun ▸ hx)
  · intro d d' hne x hx
    rw [hun] at hx ⊢
    exact h.displays d d' hne x hx
  · intro x
    rw [hmem, hun, hnext]
    exact h.made x

variable [DecidableEq D] {desc : Nat → FormatDesc} {type : D → DisplayType}

end Places

section Steps

variable {D : Type} {w w' : World D}

theorem tracked_count (w : World D) (x : Nat) :
    w.tracked.count x = (ids w.mStagingBuffers).count x + (ids w.mCachedBuffers).count x +
      (ids w.mCleanupBuffers).count x + (ids w.cleanupBuffers).count x + w.removed.count x := by
  simp only [World.tracked, ids_append, List.count_append]

/-- Moves between the lists, counted framebuffer by framebuffer. -/
theorem tracked_perm (h : ∀ x, (ids w'.mStagingBuffers).count x + (ids w'.mCachedBuffers).count x +
      (ids w'.mCleanupBuffers).count x + (ids w'.cleanupBuffers).count x + w'.removed.count x =
    (ids w.mStagingBuffers).count x + (ids w.mCachedBuffers).count x +
      (ids w.mCleanupBuffers).count x + (ids w.cleanupBuffers).count x + w.removed.count x) :
    w'.tracked.Perm w.tracked := by
  rw [List.perm_iff_count]
  intro x
  rw [tracked_count, tracked_count]
  exact h x

theorem count_ids_of_perm {l l' : List Framebuffer} (h : l.Perm l') (x : Nat) :
    (ids l).count x = (ids l').count x :=
  (h.map _).count_eq x

theorem removeBufferInternal_tracked (w : World D) (compareFunc : Framebuffer → Bool) :
    (removeBufferInternal w compareFunc).tracked.Perm w.tracked := by
  apply tracked_perm
  intro x
  have hids : ∀ l : List Framebuffer,
      ids (l.map fun fb => if chosen compareFunc fb then { fb with removePending := true } else fb) =
        ids l := by
    intro l
    simp only [ids, List.map_map]
    apply List.map_congr_left
    intro fb _
    simp only [Function.comp_apply]
    split <;> rfl
  have hsplit := count_ids_of_perm
    (List.filter_append_perm (fun fb => chosen compareFunc fb && canRemoveBuffer w fb)
      w.mCachedBuffers) x
  simp only [ids_append, List.count_append] at hsplit
  simp only [removeBufferInternal, hids, ids_append, List.count_append]
  omega

theorem fillCleanupBuffer_tracked (w : World D) : (fillCleanupBuffer w).tracked.Perm w.tracked := by
  apply tracked_perm
  intro x
  have hevict := count_ids_of_perm
    (evict_perm (canRemoveBuffer w) (w.mCachedBuffers.length - MAX_CACHED_BUFFERS)
      w.mCachedBuffers.reverse) x
  have hkept := count_ids_of_perm (List.reverse_perm
    (evict (canRemoveBuffer w) (w.mCachedBuffers.length - MAX_CACHED_BUFFERS)
      w.mCachedBuffers.reverse).1) x
  have hcached := count_ids_of_perm (List.reverse_perm w.mCachedBuffers) x
  simp only [ids_append, List.count_append] at hevict
  simp only [fillCleanupBuffer, ids_append, List.count_append]
  omega

theorem collect_tracked (w : World D) : (collect w).tracked.Perm w.tracked := by
  refine List.Perm.trans ?_ (fillCleanupBuffer_tracked w)
  apply tracked_perm
  intro x
  simp only [collect, ids_append, ids_nil, List.count_append, List.count_nil]
  omega

theorem clear_tracked (w : World D) : (clear w).tracked.Perm w.tracked := by
  apply tracked_perm
  intro x
  have hids : w.cleanupBuffers.map Framebuffer.fbId = ids w.cleanupBuffers := rfl
  simp only [clear, hids, ids_nil, List.count_append, List.count_nil]
  omega

theorem flip_tracked (w : World D) (t : DisplayType) (isActiveCommit : Bool) (time : Nat) :
    (flip w t isActiveCommit time).tracked.Perm w.tracked := by
  apply tracked_perm
  intro x
  have hids : ids (if isActiveCommit then
        w.mStagingBuffers.map fun fb => fb.updateLastActiveTime t time
      else w.mStagingBuffers) = ids w.mStagingBuffers := by
    split
    · simp only [ids, List.map_map]
      rfl
    · rfl
  simp only [flip, hids, ids_append, ids_nil, List.count_append, List.count_nil]
  omega

variable [DecidableEq D] {desc : Nat → FormatDesc} {type : D → DisplayType}

theorem lookup_tracked {c : WinConfig} {fb : Framebuffer} {rest : List Framebuffer}
    (h : lookup desc w c = some (fb, rest)) (d : D) :
    (({ w with mStagingBuffers := w.mStagingBuffers ++ [fb], mCachedBuffers := rest } : World D).got d
      fb.fbId).tracked.Perm w.tracked := by
  apply tracked_perm
  intro x
  obtain ⟨l, -, htake⟩ := Option.bind_eq_some_iff.mp h
  have hcached := count_ids_of_perm (takeFirst_spec htake).2 x
  have hcons : ids (fb :: rest) = ids [fb] ++ ids rest := rfl
  rw [hcons, List.count_append] at hcached
  simp only [World.got, ids_append, List.count_append]
  omega

omit [DecidableEq D] in
theorem Placed.not_next (h : Placed w) : w.nextFb ∉ w.tracked ∧ ∀ d, w.nextFb ∉ w.uncached d := by
  have hlt : ¬ (1 ≤ w.nextFb ∧ w.nextFb < w.nextFb) := by omega
  rw [← h.made] at hlt
  exact ⟨fun hx => hlt (Or.inl hx), fun d hx => hlt (Or.inr ⟨d, hx⟩)⟩

omit [DecidableEq D] in
/-- A new framebuffer of the manager. -/
theorem Placed.add_tracked (h : Placed w)
    (htracked : w'.tracked.Perm (w.nextFb :: w.tracked)) (hun : w'.uncached = w.uncached)
    (hnext : w'.nextFb = w.nextFb + 1) : Placed w' := by
  have hmem : ∀ x, x ∈ w'.tracked ↔ x = w.nextFb ∨ x ∈ w.tracked := by
    intro x
    rw [htracked.mem_iff, List.mem_cons]
  have hpos := h.next
  refine ⟨by omega, ?_, ?_, ?_, ?_, ?_⟩
  · rw [htracked.nodup_iff, List.nodup_cons]
    exact ⟨h.not_next.1, h.tracked⟩
  · intro d
    rw [hun]
    exact h.uncached d
  · intro d x hx
    rw [hun] at hx
    rw [hmem]
    rintro (rfl | hin)
    · exact h.not_next.2 d hx
    · exact h.apart d x hx hin
  · intro d d' hne x hx
    rw [hun] at hx ⊢
    exact h.displays d d' hne x hx
  · intro x
    rw [hmem, hun, hnext, or_assoc, h.made x]
    omega

/-- A new framebuffer of a display. -/
theorem Placed.add_uncached (h : Placed w) (d : D)
    (htracked : w'.tracked = w.tracked) (hd : (w'.uncached d).Perm (w.nextFb :: w.uncached d))
    (hothers : ∀ d', d' ≠ d → w'.uncached d' = w.uncached d') (hnext : w'.nextFb = w.nextFb + 1) :
    Placed w' := by
  have hmem : ∀ d' x, x ∈ w'.uncached d' ↔ (d' = d ∧ x = w.nextFb) ∨ x ∈ w.uncached d' := by
    intro d' x
    by_cases hd' : d' = d
    · subst hd'
      rw [hd.mem_iff, List.mem_cons]
      tauto
    · rw [hothers d' hd']
      tauto
  have hpos := h.next
  refine ⟨by omega, htracked ▸ h.tracked, ?_, ?_, ?_, ?_⟩
  · intro d'
    by_cases hd' : d' = d
    · subst hd'
      rw [hd.nodup_iff, List.nodup_cons]
      exact ⟨h.not_next.2 d', h.uncached d'⟩
    · rw [hothers d' hd']
      exact h.uncached d'
  · intro d' x hx
    rw [htracked]
    rcases (hmem d' x).mp hx with ⟨-, rfl⟩ | hx
    · exact h.not_next.1
    · exact h.apart d' x hx
  · intro d₁ d₂ hne x hx hx'
    rcases (hmem d₁ x).mp hx with ⟨rfl, rfl⟩ | hx
    · rcases (hmem d₂ _).mp hx' with ⟨rfl, -⟩ | hx'
      · exact hne rfl
      · exact h.not_next.2 d₂ hx'
    · rcases (hmem d₂ x).mp hx' with ⟨rfl, rfl⟩ | hx'
      · exact h.not_next.2 d₁ hx
      · exact h.displays d₁ d₂ hne x hx hx'
  · intro x
    have hmade := h.made x
    rw [htracked, hnext]
    constructor
    · rintro (hx | ⟨d', hx⟩)
      · have := hmade.mp (Or.inl hx)
        omega
      · rcases (hmem d' x).mp hx with ⟨-, rfl⟩ | hx
        · omega
        · have := hmade.mp (Or.inr ⟨d', hx⟩)
          omega
    · intro hx
      by_cases hxn : x = w.nextFb
      · exact Or.inr ⟨d, (hmem d x).mpr (Or.inl ⟨rfl, hxn⟩)⟩
      · rcases hmade.mpr (by omega) with hin | ⟨d', hin⟩
        · exact Or.inl hin
        · exact Or.inr ⟨d', (hmem d' x).mpr (Or.inr hin)⟩

/-- A display has the driver remove framebuffers `l` of its own. -/
theorem Placed.drop (h : Placed w) (d : D) (l : List Nat)
    (htracked : w'.tracked.Perm (l ++ w.tracked)) (hd : (w.uncached d).Perm (l ++ w'.uncached d))
    (hothers : ∀ d', d' ≠ d → w'.uncached d' = w.uncached d') (hnext : w'.nextFb = w.nextFb) :
    Placed w' := by
  have hnodup := hd.nodup_iff.mp (h.uncached d)
  have hmem : ∀ d' x, x ∈ w'.uncached d' → x ∈ w.uncached d' := by
    intro d' x hx
    by_cases hd' : d' = d
    · subst hd'
      exact hd.mem_iff.mpr (List.mem_append_right _ hx)
    · exact hothers d' hd' ▸ hx
  have hl : ∀ x ∈ l, x ∈ w.uncached d := fun x hx => hd.mem_iff.mpr (List.mem_append_left _ hx)
  refine ⟨hnext ▸ h.next, ?_, ?_, ?_, ?_, ?_⟩
  · rw [htracked.nodup_iff, List.nodup_append]
    refine ⟨(List.nodup_append.mp hnodup).1, h.tracked, ?_⟩
    intro x hx y hy heq
    subst heq
    exact h.apart d x (hl x hx) hy
  · intro d'
    by_cases hd' : d' = d
    · subst hd'
      exact (List.nodup_append.mp hnodup).2.1
    · rw [hothers d' hd']
      exact h.uncached d'
  · intro d' x hx hin
    rcases List.mem_append.mp (htracked.mem_iff.mp hin) with hin | hin
    · by_cases hd' : d' = d
      · subst hd'
        exact (List.nodup_append.mp hnodup).2.2 x hin x hx rfl
      · exact h.displays d d' (Ne.symm hd') x (hl x hin) (hmem d' x hx)
    · exact h.apart d' x (hmem d' x hx) hin
  · intro d₁ d₂ hne x hx hx'
    exact h.displays d₁ d₂ hne x (hmem d₁ x hx) (hmem d₂ x hx')
  · intro x
    rw [hnext, ← h.made x, htracked.mem_iff, List.mem_append]
    constructor
    · rintro ((hx | hx) | ⟨d', hx⟩)
      · exact Or.inr ⟨d, hl x hx⟩
      · exact Or.inl hx
      · exact Or.inr ⟨d', hmem d' x hx⟩
    · rintro (hx | ⟨d', hx⟩)
      · exact Or.inl (Or.inr hx)
      · by_cases hd' : d' = d
        · subst hd'
          rcases List.mem_append.mp (hd.mem_iff.mp hx) with hx | hx
          · exact Or.inl (Or.inl hx)
          · exact Or.inr ⟨d', hx⟩
        · exact Or.inr ⟨d', (hothers d' hd').symm ▸ hx⟩

theorem Placed.create (h : Placed w) (d : D) (c : WinConfig) (caching : Bool) (a : Answers) :
    Placed (createBuffer desc type w d c caching a).1 := by
  unfold createBuffer
  split
  · exact h
  · rename_i k hk
    split_ifs with hadd hcache
    · exact h
    · refine h.add_tracked ?_ rfl rfl
      rw [List.perm_iff_count]
      intro x
      have hcons : ∀ l : List Nat, w.nextFb :: l = [w.nextFb] ++ l := fun _ => rfl
      have hnew : ids [newFramebuffer type w d c k] = [w.nextFb] := rfl
      rw [hcons, List.count_append, tracked_count, tracked_count]
      simp only [World.got, ids_append, List.count_append, hnew]
      omega
    · refine h.add_uncached d rfl ?_ ?_ rfl
      · simp only [World.uncached, World.got, Function.update_self, List.append_assoc]
        exact List.perm_middle
      · intro d' hd'
        simp only [World.uncached, World.got, Function.update_of_ne hd']

theorem Placed.getBuffer (h : Placed w) (d : D) (c : WinConfig) (caching : Bool) (a : Answers) :
    Placed (getBuffer desc type w d c caching a).1 := by
  unfold FramebufferManager.getBuffer
  split
  · rename_i fb rest hlook
    split_ifs at hlook
    · exact h.move (lookup_tracked hlook d) rfl rfl
  · exact h.create d c caching a

theorem Placed.flipUncached (h : Placed w) (d : D) (isActiveCommit : Bool) :
    Placed (flipUncached w d isActiveCommit) := by
  unfold FramebufferManager.flipUncached
  split_ifs with hempty hactive
  · exact h
  · refine h.drop d (w.mOldFbIds d) ?_ ?_ ?_ rfl
    · rw [List.perm_iff_count]
      intro x
      rw [List.count_append, tracked_count, tracked_count, List.count_append]
      dsimp only
      omega
    · simp only [World.uncached, Function.update_self, List.nil_append]
      exact List.perm_append_comm
    · intro d' hd'
      simp only [World.uncached, Function.update_of_ne hd']
  · refine h.drop d (w.mFbIds d) ?_ ?_ ?_ rfl
    · rw [List.perm_iff_count]
      intro x
      rw [List.count_append, tracked_count, tracked_count, List.count_append]
      dsimp only
      omega
    · simp only [World.uncached, Function.update_self, List.nil_append]
      exact List.Perm.refl _
    · intro d' hd'
      simp only [World.uncached, Function.update_of_ne hd']

theorem Placed.step (h : Placed w) (op : Op D) : Placed (step desc type w op) := by
  cases op with
  | getBuffer d c caching a => exact h.getBuffer d c caching a
  | commit d => exact h.move (List.Perm.refl _) rfl rfl
  | flipFBs d isActiveCommit time =>
    exact (h.flipUncached d isActiveCommit).move (flip_tracked _ (type d) isActiveCommit time) rfl rfl
  | removeBuffer bufferId => exact h.move (removeBufferInternal_tracked w _) rfl rfl
  | removeBuffersForDisplay t => exact h.move (removeBufferInternal_tracked w _) rfl rfl
  | removeBuffersForOwner owner => exact h.move (removeBufferInternal_tracked w _) rfl rfl
  | onDisplayRemoved d => exact h.move (removeBufferInternal_tracked _ _) rfl rfl
  | collect => exact h.move (collect_tracked w) rfl rfl
  | clear => exact h.move (clear_tracked w) rfl rfl

/-- The worlds that any displays reach by any calls. -/
def Reached (desc : Nat → FormatDesc) (type : D → DisplayType) : World D → Prop :=
  TransitionSystem.Reachable (· = World.empty) (TransitionSystem.ofFun (step desc type))

/-- **One place for each framebuffer.** After any calls of any displays, a framebuffer that was
    made is staged, cached, to be removed, with its display, or removed, and removed once. -/
theorem Reached.placed (h : Reached desc type w) : Placed w := by
  refine TransitionSystem.Reachable.invariant ?_ ?_ h
  · rintro s rfl
    exact Placed.start
  · rintro s op s' hs rfl
    exact hs.step op

/-- After a flip no framebuffer is staged. -/
theorem step_flipFBs_staging (w : World D) (d : D) (isActiveCommit : Bool) (time : Nat) :
    (step desc type w (.flipFBs d isActiveCommit time)).mStagingBuffers = [] := rfl

end Steps

end ExynosHal.FramebufferManager
