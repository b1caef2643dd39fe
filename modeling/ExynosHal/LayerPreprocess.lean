/-
  ExynosHal/LayerPreprocess.lean
  ==============================
  **Source crop and display frame of a layer before the assignment.**

  `doPreProcess`, `alignSourceCrop`, `alignDisplayFrame` and `resizeDisplayFrame` of
  `libhwc2.1/display/ExynosLayer.cpp`, with what `handleMetaData` does to the crop.  The
  crop of a YUV layer is rounded to whole pixels and aligned; the frame of a protected or an
  HDR layer is enlarged, and moved back where it would leave the screen.

  Both axes of a rectangle go through the same steps, so there is one definition for an
  axis.  Floats are rational numbers.
-/
import ExynosHal.HandleConfig

namespace ExynosHal.LayerPreprocess

open ExynosHal.MppSupport (RestrictionSize)
open ExynosHal.OverlayCrop (pixelAlign pixelAlignDown toInt32 roundUp Aligned NO_ERROR
  toInt32_of_range roundUp_bounds aligned_roundUp aligned_pixelAlignDown pixelAlignDown_of_nonneg)
open ExynosHal.HandleConfig (trunc IsInt toUInt32_of_lt roundUp_least trunc_of_nonneg)
open ExynosHal.WindowUpdate (INT_MAX toUInt32)

/-! ### Data -/

inductive InterlacedType where
  | NONE
  | TB
  | BT
deriving DecidableEq, Repr

/-- The answer of `get_video_metadata`, as far as the crop goes.  `privateFormat` is
    `VIDEO_INFO_TYPE_CHECK_PIXEL_FORMAT`. -/
inductive VideoMeta where
  | mapFailed
  | null
  | data (interlaced : Option InterlacedType) (privateFormat : Bool)
deriving DecidableEq, Repr

/-- A buffer with what is read of it: `drm` is `getDrmMode` other than `NO_DRM`, `is8K` the
    answer of `is8KVideo`. -/
structure LayerBuffer where
  drm : Bool
  is8K : Bool
  isFormatYUV : Bool
  stride : Int
  videoMeta : VideoMeta
deriving DecidableEq, Repr

/-- A display; four times a side of it is an `int`. -/
structure DisplayInfo where
  xres : Nat
  yres : Nat
  adjustDisplayFrame : Bool
  cursorSupport : Bool
  xres_le : xres ≤ 2 ^ 29
  yres_le : yres ≤ 2 ^ 29

structure DeviceValidateInfo where
  srcSizeRestriction : RestrictionSize
  dstSizeRestriction : RestrictionSize
deriving Repr

inductive OverlayPriority where
  | ePriorityLow
  | ePriorityMid
  | ePriorityHigh
  | ePriorityMax
deriving DecidableEq, Repr

structure PreprocessedInfo where
  sourceCrop : Rect Rat
  displayFrame : Rect Int
  interlacedType : InterlacedType
  mUsePrivateFormat : Bool

structure Layer where
  mSourceCrop : Rect Rat
  mDisplayFrame : Rect Int
  mLayerBuffer : Option LayerBuffer
  /-- `mLayerFormat.isYUV()`. -/
  isYUV : Bool
  /-- `hasHdrInfo(mDataSpace)`. -/
  hasHdrInfo : Bool
  isSolidColor : Bool
  isCursor : Bool
  mDisplayInfo : DisplayInfo
  mIsHdrLayer : Bool
  isDimLayer : Bool
  mOverlayPriority : OverlayPriority
  mPreprocessedInfo : PreprocessedInfo

/-! ### One axis -/

/-- `alignSourceCrop`: the first edge goes up, the length down. -/
def alignCropSide (offsetAlign sizeAlign : UInt32) (first last : Rat) : Rat × Rat :=
  let first : Rat := pixelAlign (trunc first) (toInt32 offsetAlign.toNat)
  (first, first + pixelAlignDown (trunc (last - first)) (toInt32 sizeAlign.toNat))

/-- One axis of an enlargement to the length that `round` gives.  `frame` is the original
    one and `pre` the one so far; `back` gives the length for a frame at the edge. -/
def enlargeSide (round back : Int → Int) (res : Nat) (frame pre : Int × Int) : Int × Int :=
  let last := toInt32 (frame.1 + round (frame.2 - frame.1))
  if last > toInt32 res then (toInt32 (res - back (last - pre.1)), toInt32 res) else (pre.1, last)

/-- `alignDisplayFrame`; the height at the edge is rounded down, the width up. -/
def alignFrameX (align : UInt32) : Nat → Int × Int → Int × Int → Int × Int :=
  enlargeSide (pixelAlign · (toInt32 align.toNat)) (pixelAlign · (toInt32 align.toNat))

def alignFrameY (align : UInt32) : Nat → Int × Int → Int × Int → Int × Int :=
  enlargeSide (pixelAlign · (toInt32 align.toNat)) (pixelAlignDown · (toInt32 align.toNat))

/-- `resizeDisplayFrame`. -/
def resizeFrame (min : UInt32) (res : Nat) (frame pre : Int × Int) : Int × Int :=
  if toUInt32 (frame.2 - frame.1) < min.toNat then
    enlargeSide (pixelAlign · (toInt32 min.toNat)) (pixelAlign · (toInt32 min.toNat)) res frame pre
  else pre

/-! ### The layer -/

def sidesX {α : Type} (r : Rect α) : α × α := (r.left, r.right)
def sidesY {α : Type} (r : Rect α) : α × α := (r.top, r.bottom)

def ofSides {α : Type} (x y : α × α) : Rect α := ⟨x.1, y.1, x.2, y.2⟩

namespace Layer

variable (l : Layer) (info : DeviceValidateInfo)

def alignSourceCrop (crop : Rect Rat) : Rect Rat :=
  ofSides
    (alignCropSide info.srcSizeRestriction.cropXAlign info.srcSizeRestriction.cropWidthAlign
      crop.left crop.right)
    (alignCropSide info.srcSizeRestriction.cropYAlign info.srcSizeRestriction.cropHeightAlign
      crop.top crop.bottom)

def alignDisplayFrame (pre : Rect Int) : Rect Int :=
  ofSides
    (alignFrameX info.srcSizeRestriction.cropWidthAlign l.mDisplayInfo.xres
      (sidesX l.mDisplayFrame) (sidesX pre))
    (alignFrameY info.srcSizeRestriction.cropHeightAlign l.mDisplayInfo.yres
      (sidesY l.mDisplayFrame) (sidesY pre))

def resizeDisplayFrame (pre : Rect Int) : Rect Int :=
  ofSides
    (resizeFrame info.dstSizeRestriction.minCropWidth l.mDisplayInfo.xres
      (sidesX l.mDisplayFrame) (sidesX pre))
    (resizeFrame info.dstSizeRestriction.minCropHeight l.mDisplayInfo.yres
      (sidesY l.mDisplayFrame) (sidesY pre))

/-- The crop of a YUV layer in whole pixels. -/
def wholeCrop : Rect Rat :=
  ⟨trunc l.mSourceCrop.left, trunc l.mSourceCrop.top, trunc (l.mSourceCrop.right + 9 / 10),
    trunc (l.mSourceCrop.bottom + 9 / 10)⟩

/-- The fields of an interlaced picture lie side by side. -/
def fieldCrop (field : InterlacedType) (stride : Int) (crop : Rect Rat) : Rect Rat :=
  let crop : Rect Rat :=
    if field = .BT ∧ trunc l.mSourceCrop.left < stride then
      { crop with
        left := ((trunc l.mSourceCrop.left + stride : Int) : Rat)
        right := ((trunc l.mSourceCrop.right + stride : Int) : Rat) }
    else crop
  if field = .TB ∨ field = .BT then
    { crop with
      top := (((trunc l.mSourceCrop.top).tdiv 2 : Int) : Rat)
      bottom := (((trunc l.mSourceCrop.bottom).tdiv 2 : Int) : Rat) }
  else crop

def handleMetaData (buffer : LayerBuffer) (pre : PreprocessedInfo) : PreprocessedInfo :=
  match buffer.videoMeta with
  | .mapFailed => pre
  | .null => pre
  | .data none privateFormat =>
      { pre with mUsePrivateFormat := buffer.isFormatYUV && privateFormat }
  | .data (some field) privateFormat =>
      { pre with
        interlacedType := field
        sourceCrop := l.fieldCrop field buffer.stride pre.sourceCrop
        mUsePrivateFormat := buffer.isFormatYUV && privateFormat }

/-- The crop that is aligned: in whole pixels, of the field that is read. -/
def fieldInfo (buffer : LayerBuffer) : PreprocessedInfo :=
  l.handleMetaData buffer
    { sourceCrop := l.wholeCrop
      displayFrame := l.mDisplayFrame
      interlacedType := .NONE
      mUsePrivateFormat := l.mPreprocessedInfo.mUsePrivateFormat }

def preprocessedFrame (buffer : LayerBuffer) : Rect Int :=
  if buffer.drm ∨ l.hasHdrInfo then
    let frame :=
      if l.mDisplayInfo.adjustDisplayFrame then l.alignDisplayFrame info l.mDisplayFrame
      else l.mDisplayFrame
    if buffer.drm then l.resizeDisplayFrame info frame else frame
  else l.mDisplayFrame

def priority (buffer : LayerBuffer) : OverlayPriority :=
  if buffer.drm then .ePriorityMax
  else if buffer.is8K then .ePriorityMax
  else if l.isYUV ∨ l.hasHdrInfo then .ePriorityHigh
  else if l.mDisplayInfo.cursorSupport ∧ l.isCursor then .ePriorityMid
  else .ePriorityLow

/-- `doPreProcess`; the flag says that the priority changed. -/
def doPreProcess : Int × Layer × Bool :=
  match l.mLayerBuffer with
  | none =>
      (NO_ERROR,
        { l with
          mIsHdrLayer := false
          isDimLayer := l.isSolidColor
          mOverlayPriority := .ePriorityLow
          mPreprocessedInfo :=
            ⟨l.mSourceCrop, l.mDisplayFrame, .NONE, l.mPreprocessedInfo.mUsePrivateFormat⟩ },
        decide (l.mOverlayPriority ≠ .ePriorityLow))
  | some buffer =>
      (NO_ERROR,
        { l with
          mIsHdrLayer := l.hasHdrInfo
          isDimLayer := l.isSolidColor
          mOverlayPriority := l.priority buffer
          mPreprocessedInfo :=
            if l.isYUV then
              { l.fieldInfo buffer with
                sourceCrop := alignSourceCrop info (l.fieldInfo buffer).sourceCrop
                displayFrame := l.preprocessedFrame info buffer }
            else
              ⟨l.mSourceCrop, l.preprocessedFrame info buffer, .NONE, false⟩ },
        decide (l.mOverlayPriority ≠ l.priority buffer))

end Layer

/-! ### What is kept -/

/-- What is asked of one axis of a frame: an alignment, if the display adjusts frames, and a
    smallest length, if the layer is protected. -/
structure SideRules where
  align : Option Nat
  min : Option Nat
deriving DecidableEq, Repr

namespace SideRules

variable (r : SideRules)

/-- The frame is too short for the channel. -/
def Resizes (w : Int) : Prop := ∃ m, r.min = some m ∧ w < m

/-- The length a frame is to get. -/
def length (w : Int) : Int :=
  match r.min, r.align with
  | some m, some a => if w < m then m else roundUp w a
  | some m, none => if w < m then m else w
  | none, some a => roundUp w a
  | none, none => w

/-- Every length that is asked for fits on the screen. -/
def Fits (res : Nat) (w : Int) : Prop :=
  (∀ a, r.align = some a → roundUp w a ≤ res) ∧ ∀ m, r.min = some m → w < m → m ≤ res

end SideRules

/-- One axis of an enlarged frame.  Where the frame is both aligned and resized, the second
    step starts from the original frame again, and less is kept. -/
structure SideKept (r : SideRules) (res : Nat) (frame new : Int × Int) : Prop where
  contains : new.1 ≤ frame.1 ∧ frame.2 ≤ new.2
  min : ∀ m, r.min = some m → (m : Int) ≤ new.2 - new.1
  aligned : ∀ a, r.align = some a → ¬ r.Resizes (frame.2 - frame.1) → Aligned a (new.2 - new.1)
  inside : r.align = none ∨ ¬ r.Resizes (frame.2 - frame.1) → 0 ≤ new.1 ∧ new.2 ≤ res
  length : r.align = none ∨ ¬ r.Resizes (frame.2 - frame.1) →
    new.2 - new.1 = r.length (frame.2 - frame.1)

/-- One axis of an aligned crop: the most of the crop that is aligned, in whole pixels. -/
def CropSideKept (offsetAlign sizeAlign : UInt32) (first last : Int) (new : Rat × Rat) : Prop :=
  ∃ x w : Int, new = ((x : Rat), (x : Rat) + (w : Rat)) ∧ 0 ≤ w ∧ first ≤ x ∧ x + w ≤ last ∧
    Aligned offsetAlign.toNat x ∧ Aligned sizeAlign.toNat w ∧
    (∀ y, Aligned offsetAlign.toNat y → first ≤ y → x ≤ y) ∧
    ∀ m, Aligned sizeAlign.toNat m → x + m ≤ last → m ≤ w

/-- A crop with a pixel that is aligned. -/
structure CropRoom (offsetAlign : UInt32) (first last : Int) : Prop where
  nonneg : 0 ≤ first
  room : roundUp first offsetAlign.toNat ≤ last
  last : last ≤ INT_MAX

/-! ### One axis of a frame -/

section Rounding

variable {x : Int} {a : Nat}

theorem tmod_of_aligned (ha : (a : Int) ≠ 0) (h : Aligned a x) : x.tmod a = 0 := by
  obtain ⟨k, rfl⟩ := h (Int.natCast_ne_zero.mp ha)
  exact Int.mul_tmod_right _ _

theorem roundUp_of_aligned (h : Aligned a x) : roundUp x a = x := by
  unfold roundUp
  apply if_neg
  rintro ⟨ha, hne⟩
  exact hne (tmod_of_aligned ha h)

theorem pixelAlignDown_of_aligned (h : Aligned a x) : pixelAlignDown x a = x := by
  unfold pixelAlignDown
  apply if_neg
  rintro ⟨ha, hne⟩
  exact hne (tmod_of_aligned ha h)

theorem pixelAlign_eq (h : IsInt (roundUp x a)) : pixelAlign x a = roundUp x a := by
  unfold roundUp at h
  unfold pixelAlign roundUp
  split
  · rename_i hne
    rw [if_pos hne] at h
    exact toInt32_of_range h.1 h.2
  · rfl

/-- A short length goes up to the alignment itself. -/
theorem roundUp_of_lt (h0 : 0 < x) (h : x < a) : roundUp x a = a := by
  have hmod : x.tmod a = x := by
    rw [Int.tmod_eq_emod_of_nonneg h0.le]
    exact Int.emod_eq_of_lt h0.le h
  unfold roundUp
  rw [hmod, if_pos ⟨by omega, by omega⟩]
  omega

/-- An alignment of a length that is asked for is an `int`. -/
theorem align_le_of_roundUp_le {n : Nat} (h0 : 0 < x) (hx : x ≤ n) (h : roundUp x a ≤ n) :
    a ≤ n ∨ a = 0 := by
  rcases Nat.lt_or_ge n a with hlt | hge
  · rw [roundUp_of_lt h0 (by omega)] at h
    omega
  · exact Or.inl hge

end Rounding

section Frames

variable {round back : Int → Int} {res : Nat} {frame pre : Int × Int}

theorem enlargeSide_eq (hres : res ≤ 2 ^ 29) {n b : Int} (hround : round (frame.2 - frame.1) = n)
    (hlast : IsInt (frame.1 + n)) (hback : back (frame.1 + n - pre.1) = b)
    (hfirst : IsInt (res - b)) :
    enlargeSide round back res frame pre =
      if frame.1 + n > res then (res - b, (res : Int)) else (pre.1, frame.1 + n) := by
  have hres' : toInt32 res = res := toInt32_of_range (by omega) (by unfold INT_MAX; omega)
  have hlast' : toInt32 (frame.1 + n) = frame.1 + n := toInt32_of_range hlast.1 hlast.2
  have hfirst' : toInt32 (res - b) = res - b := toInt32_of_range hfirst.1 hfirst.2
  unfold enlargeSide
  dsimp only
  rw [hround, hlast', hres', hback, hfirst']

/-- A frame on the screen, with a pixel. -/
structure OnSide (res : Nat) (frame : Int × Int) : Prop where
  first : 0 ≤ frame.1
  lt : frame.1 < frame.2
  last : frame.2 ≤ res

/-- The frame with the aligned length, moved back where it would leave the screen. -/
def alignedSide (a : Nat) (res : Nat) (frame : Int × Int) : Int × Int :=
  if frame.1 + roundUp (frame.2 - frame.1) a > res then
    (res - roundUp (frame.2 - frame.1) a, (res : Int))
  else (frame.1, frame.1 + roundUp (frame.2 - frame.1) a)

theorem alignFrame_eq (hres : res ≤ 2 ^ 29) (h : OnSide res frame) (align : UInt32)
    (hfits : roundUp (frame.2 - frame.1) align.toNat ≤ res) :
    alignFrameX align res frame frame = alignedSide align.toNat res frame ∧
      alignFrameY align res frame frame = alignedSide align.toNat res frame := by
  obtain ⟨h0, hlt, hlast⟩ := h
  have hup := (roundUp_bounds (x := frame.2 - frame.1) (Int.natCast_nonneg align.toNat)).left
  have hale := align_le_of_roundUp_le (n := res) (by omega) (by omega) hfits
  have halign : toInt32 (align.toNat : Int) = align.toNat :=
    toInt32_of_range (by omega) (by unfold INT_MAX; omega)
  have haligned : Aligned align.toNat (roundUp (frame.2 - frame.1) align.toNat) := aligned_roundUp
  have hint : IsInt (roundUp (frame.2 - frame.1) align.toNat) := by
    unfold IsInt INT_MAX
    omega
  have hsub : frame.1 + roundUp (frame.2 - frame.1) align.toNat - frame.1 =
      roundUp (frame.2 - frame.1) align.toNat := by omega
  have hround : pixelAlign (frame.2 - frame.1) (toInt32 align.toNat) =
      roundUp (frame.2 - frame.1) align.toNat := by
    rw [halign]
    exact pixelAlign_eq hint
  have hback : pixelAlign (roundUp (frame.2 - frame.1) align.toNat) (toInt32 align.toNat) =
      roundUp (frame.2 - frame.1) align.toNat := by
    have hself := roundUp_of_aligned haligned
    rw [halign, pixelAlign_eq (by rw [hself]; exact hint), hself]
  have hdown : pixelAlignDown (roundUp (frame.2 - frame.1) align.toNat) (toInt32 align.toNat) =
      roundUp (frame.2 - frame.1) align.toNat := by
    rw [halign]
    exact pixelAlignDown_of_aligned haligned
  have hlast' : IsInt (frame.1 + roundUp (frame.2 - frame.1) align.toNat) := by
    unfold IsInt INT_MAX
    omega
  have hfirst' : IsInt (res - roundUp (frame.2 - frame.1) align.toNat) := by
    unfold IsInt INT_MAX
    omega
  constructor
  · exact enlargeSide_eq hres hround hlast' (by rw [hsub]; exact hback) hfirst'
  · exact enlargeSide_eq hres hround hlast' (by rw [hsub]; exact hdown) hfirst'

theorem alignedSide_kept (h : OnSide res frame) (a : Nat)
    (hfits : roundUp (frame.2 - frame.1) a ≤ res) :
    0 ≤ (alignedSide a res frame).1 ∧ (alignedSide a res frame).1 ≤ frame.1 ∧
      frame.2 ≤ (alignedSide a res frame).2 ∧ (alignedSide a res frame).2 ≤ res ∧
      (alignedSide a res frame).2 - (alignedSide a res frame).1 = roundUp (frame.2 - frame.1) a := by
  obtain ⟨h0, hlt, hlast⟩ := h
  have hup := (roundUp_bounds (x := frame.2 - frame.1) (Int.natCast_nonneg a)).left
  unfold alignedSide
  split
  · refine ⟨?_, ?_, ?_, ?_, ?_⟩ <;> dsimp only <;> omega
  · refine ⟨?_, ?_, ?_, ?_, ?_⟩ <;> dsimp only <;> omega

theorem resizeFrame_of_le (min : UInt32) (h : OnSide res frame) (hres : res ≤ 2 ^ 29)
    (hle : (min.toNat : Int) ≤ frame.2 - frame.1) : resizeFrame min res frame pre = pre := by
  obtain ⟨h0, hlt, hlast⟩ := h
  have hw : (toUInt32 (frame.2 - frame.1) : Int) = frame.2 - frame.1 :=
    toUInt32_of_lt (by omega) (by omega)
  unfold resizeFrame
  apply if_neg
  omega

/-- A short frame gets the smallest length, or more of it than once where it was moved
    before. -/
theorem resizeFrame_of_lt (min : UInt32) (h : OnSide res frame) (hres : res ≤ 2 ^ 29)
    (hlt : frame.2 - frame.1 < min.toNat) (hfits : min.toNat ≤ res) (hpre0 : 0 ≤ pre.1)
    (hpre : pre.1 ≤ frame.1) :
    resizeFrame min res frame pre =
      if frame.1 + min.toNat > res then
        (res - roundUp (frame.1 + min.toNat - pre.1) min.toNat, (res : Int))
      else (pre.1, frame.1 + min.toNat) := by
  obtain ⟨h0, hpos, hlast⟩ := h
  have hw : (toUInt32 (frame.2 - frame.1) : Int) = frame.2 - frame.1 :=
    toUInt32_of_lt (by omega) (by omega)
  have hmin : toInt32 (min.toNat : Int) = min.toNat :=
    toInt32_of_range (by omega) (by unfold INT_MAX; omega)
  have hself := roundUp_of_lt (x := frame.2 - frame.1) (a := min.toNat) (by omega) hlt
  obtain ⟨hup, hupper⟩ := roundUp_bounds (x := frame.1 + min.toNat - pre.1)
    (Int.natCast_nonneg min.toNat)
  unfold resizeFrame
  rw [if_pos (by omega), hmin]
  apply enlargeSide_eq hres
  · rw [pixelAlign_eq (by rw [hself]; unfold IsInt INT_MAX; omega), hself]
  · unfold IsInt INT_MAX
    omega
  · apply pixelAlign_eq
    unfold IsInt INT_MAX
    omega
  · unfold IsInt INT_MAX
    omega

theorem resizeFrame_kept (min : UInt32) (h : OnSide res frame) (hres : res ≤ 2 ^ 29)
    (hlt : frame.2 - frame.1 < min.toNat) (hfits : min.toNat ≤ res) (hpre0 : 0 ≤ pre.1)
    (hpre : pre.1 ≤ frame.1) :
    (resizeFrame min res frame pre).1 ≤ frame.1 ∧ frame.2 ≤ (resizeFrame min res frame pre).2 ∧
      (min.toNat : Int) ≤ (resizeFrame min res frame pre).2 - (resizeFrame min res frame pre).1 := by
  have hup := (roundUp_bounds (x := frame.1 + min.toNat - pre.1)
    (Int.natCast_nonneg min.toNat)).left
  have hlast := h.last
  rw [resizeFrame_of_lt min h hres hlt hfits hpre0 hpre]
  split
  · refine ⟨?_, ?_, ?_⟩ <;> dsimp only <;> omega
  · refine ⟨?_, ?_, ?_⟩ <;> dsimp only <;> omega

/-- Without a step before it, the frame gets just the smallest length, on the screen. -/
theorem resizeFrame_inside (min : UInt32) (h : OnSide res frame) (hres : res ≤ 2 ^ 29)
    (hlt : frame.2 - frame.1 < min.toNat) (hfits : min.toNat ≤ res) :
    0 ≤ (resizeFrame min res frame frame).1 ∧ (resizeFrame min res frame frame).2 ≤ res ∧
      (resizeFrame min res frame frame).2 - (resizeFrame min res frame frame).1 = min.toNat := by
  have h0 := h.first
  have hsub : frame.1 + (min.toNat : Int) - frame.1 = min.toNat := by omega
  have hself : roundUp (min.toNat : Int) min.toNat = min.toNat :=
    roundUp_of_aligned fun _ => Int.dvd_refl _
  rw [resizeFrame_of_lt min h hres hlt hfits h0 (Int.le_refl _), hsub, hself]
  split
  · refine ⟨?_, ?_, ?_⟩ <;> dsimp only <;> omega
  · refine ⟨?_, ?_, ?_⟩ <;> dsimp only <;> omega

/-- The two steps on one axis. -/
def frameSide (align : Nat → Int × Int → Int × Int → Int × Int) (min : UInt32)
    (adjust drm : Bool) (res : Nat) (frame : Int × Int) : Int × Int :=
  let pre := if adjust then align res frame frame else frame
  if drm then resizeFrame min res frame pre else pre

def rulesOf (align min : UInt32) (adjust drm : Bool) : SideRules :=
  ⟨if adjust then some align.toNat else none, if drm then some min.toNat else none⟩

/-- A frame that only the first step, or none, changes. -/
theorem frameSide_long (align : Nat → Int × Int → Int × Int → Int × Int) {min : UInt32}
    {adjust drm : Bool} (hres : res ≤ 2 ^ 29) (h : OnSide res frame)
    (hlong : drm = true → (min.toNat : Int) ≤ frame.2 - frame.1) :
    frameSide align min adjust drm res frame =
      if adjust then align res frame frame else frame := by
  unfold frameSide
  cases drm
  · simp
  · rw [if_pos rfl]
    exact resizeFrame_of_le min h hres (hlong rfl)

theorem rulesOf_resizes {a min : UInt32} {adjust drm : Bool} {w : Int} :
    (rulesOf a min adjust drm).Resizes w ↔ drm = true ∧ w < min.toNat := by
  unfold SideRules.Resizes rulesOf
  cases drm <;> simp

/-- **One axis of a frame.** -/
theorem frameSide_kept {align : Nat → Int × Int → Int × Int → Int × Int} {a min : UInt32}
    {adjust drm : Bool} (hres : res ≤ 2 ^ 29) (h : OnSide res frame)
    (hfits : (rulesOf a min adjust drm).Fits res (frame.2 - frame.1))
    (halign : roundUp (frame.2 - frame.1) a.toNat ≤ res →
      align res frame frame = alignedSide a.toNat res frame) :
    SideKept (rulesOf a min adjust drm) res frame (frameSide align min adjust drm res frame) := by
  obtain ⟨hfitsAlign, hfitsMin⟩ := hfits
  have h0 := h.first
  have hlast := h.last
  by_cases hshort : drm = true ∧ frame.2 - frame.1 < min.toNat
  · obtain ⟨rfl, hlt⟩ := hshort
    have hmin : min.toNat ≤ res := hfitsMin min.toNat rfl hlt
    have hre : (rulesOf a min adjust true).Resizes (frame.2 - frame.1) :=
      rulesOf_resizes.mpr ⟨rfl, hlt⟩
    cases adjust with
    | false =>
        -- the frame is resized from itself
        obtain ⟨hfirst, hsecond, hlength⟩ := resizeFrame_kept min h hres hlt hmin h0 (Int.le_refl _)
        obtain ⟨hin0, hin1, heq⟩ := resizeFrame_inside min h hres hlt hmin
        refine ⟨⟨hfirst, hsecond⟩, ?_, ?_, ?_, ?_⟩
        · rintro m ⟨⟩
          exact hlength
        · intro b hb
          exact absurd hb (by simp [rulesOf])
        · intro _
          exact ⟨hin0, hin1⟩
        · intro _
          simp only [rulesOf, SideRules.length, if_true, Bool.false_eq_true, if_false, if_pos hlt]
          exact heq
    | true =>
        -- the resizing starts from the frame that was aligned
        have hup : roundUp (frame.2 - frame.1) a.toNat ≤ res := hfitsAlign a.toNat rfl
        obtain ⟨hpre0, hpre, -⟩ := alignedSide_kept h a.toNat hup
        have hpair : frameSide align min true true res frame =
            resizeFrame min res frame (alignedSide a.toNat res frame) := by
          unfold frameSide
          rw [if_pos rfl, if_pos rfl, halign hup]
        obtain ⟨hfirst, hsecond, hlength⟩ := resizeFrame_kept min h hres hlt hmin hpre0 hpre
        rw [hpair]
        refine ⟨⟨hfirst, hsecond⟩, ?_, ?_, ?_, ?_⟩
        · rintro m ⟨⟩
          exact hlength
        · intro b _ hnot
          exact absurd hre hnot
        · rintro (hnone | hnot)
          · exact absurd hnone (by simp [rulesOf])
          · exact absurd hre hnot
        · rintro (hnone | hnot)
          · exact absurd hnone (by simp [rulesOf])
          · exact absurd hre hnot
  · have hlong : drm = true → (min.toNat : Int) ≤ frame.2 - frame.1 := by
      intro hdrm
      by_cases hlt : frame.2 - frame.1 < min.toNat
      · exact absurd ⟨hdrm, hlt⟩ hshort
      · omega
    have hminOf : ∀ m, (rulesOf a min adjust drm).min = some m → (m : Int) ≤ frame.2 - frame.1 := by
      intro m hm
      cases drm with
      | false => exact absurd hm (by simp [rulesOf])
      | true =>
          obtain rfl : min.toNat = m := by simpa [rulesOf] using hm
          exact hlong rfl
    have hlength : ∀ n, (rulesOf a min adjust drm).align = n →
        (rulesOf a min adjust drm).length (frame.2 - frame.1) =
          n.elim (frame.2 - frame.1) fun b => roundUp (frame.2 - frame.1) b := by
      intro n hn
      unfold SideRules.length
      rw [hn]
      cases hm : (rulesOf a min adjust drm).min with
      | none => cases n <;> rfl
      | some m =>
          have hle := hminOf m hm
          cases n with
          | none =>
              apply if_neg
              omega
          | some b =>
              apply if_neg
              omega
    rw [frameSide_long align hres h hlong]
    cases adjust with
    | false =>
        refine ⟨⟨Int.le_refl _, Int.le_refl _⟩, hminOf, ?_, ?_, ?_⟩
        · intro b hb
          exact absurd hb (by simp [rulesOf])
        · intro _
          exact ⟨h0, hlast⟩
        · intro _
          exact (hlength none rfl).symm
    | true =>
        have hup : roundUp (frame.2 - frame.1) a.toNat ≤ res := hfitsAlign a.toNat rfl
        obtain ⟨hfirst0, hfirst, hsecond, hsecond1, heq⟩ := alignedSide_kept h a.toNat hup
        rw [if_pos rfl, halign hup]
        refine ⟨⟨hfirst, hsecond⟩, ?_, ?_, ?_, ?_⟩
        · intro m hm
          have hle := hminOf m hm
          have hwide := (roundUp_bounds (x := frame.2 - frame.1) (Int.natCast_nonneg a.toNat)).left
          omega
        · rintro b ⟨⟩ -
          rw [heq]
          exact aligned_roundUp
        · intro _
          exact ⟨hfirst0, hsecond1⟩
        · intro _
          rw [heq]
          exact (hlength (some a.toNat) rfl).symm

end Frames

/-! ### One axis of a crop -/

section Crops

theorem trunc_intCast (i : Int) : trunc (i : Rat) = i := by
  unfold trunc
  rw [Rat.num_intCast, Rat.den_intCast]
  exact Int.tdiv_one i

theorem pixelAlign_of_room {off : UInt32} {first last : Int} (h : CropRoom off first last) :
    pixelAlign first (toInt32 off.toNat) = roundUp first off.toNat := by
  obtain ⟨h0, hroom, hlast⟩ := h
  have hup := (roundUp_bounds (x := first) (Int.natCast_nonneg off.toNat)).left
  have hmax : INT_MAX = 2 ^ 31 - 1 := rfl
  rcases Int.lt_or_eq_of_le h0 with hpos | rfl
  · have hle : off.toNat ≤ 2 ^ 31 - 1 ∨ off.toNat = 0 := by
      apply align_le_of_roundUp_le hpos
      · omega
      · omega
    have halign : toInt32 (off.toNat : Int) = off.toNat :=
      toInt32_of_range (by omega) (by omega)
    rw [halign]
    apply pixelAlign_eq
    unfold IsInt
    omega
  · -- zero is aligned to everything
    unfold pixelAlign roundUp
    rw [Int.zero_tmod, Int.zero_tmod, if_neg (by simp), if_neg (by simp)]

theorem pixelAlignDown_greatest {w m : Int} {a : Nat} (hw : 0 ≤ w) (h : Aligned a m) (hm : m ≤ w) :
    m ≤ pixelAlignDown w a := by
  unfold pixelAlignDown
  split
  · rename_i hne
    obtain ⟨ha, -⟩ := hne
    obtain ⟨k, rfl⟩ := h (Int.natCast_ne_zero.mp ha)
    have hpos : 0 < (a : Int) := by omega
    have hk : k ≤ w / a := Int.le_ediv_of_mul_le hpos (by rw [Int.mul_comm]; exact hm)
    have hmul := Int.mul_le_mul_of_nonneg_left hk hpos.le
    have hdiv := Int.mul_ediv_add_emod w a
    rw [Int.tmod_eq_emod_of_nonneg hw]
    omega
  · exact hm

/-- A length that the largest alignment does not fit in is dropped. -/
theorem pixelAlignDown_two_pow {w : Int} (h0 : 0 ≤ w) (hw : w < 2 ^ 31) :
    pixelAlignDown w (toInt32 (2 ^ 31 : Nat)) = 0 := by
  have halign : toInt32 (2 ^ 31 : Nat) = -2 ^ 31 := by decide
  have hmod : w.tmod (-2 ^ 31) = w := by
    rw [Int.tmod_neg, Int.tmod_eq_emod_of_nonneg h0]
    exact Int.emod_eq_of_lt h0 hw
  rw [halign]
  unfold pixelAlignDown
  rw [hmod]
  split
  · omega
  · rename_i hnot
    exact Decidable.byContradiction fun hne => hnot ⟨by decide, hne⟩

theorem pixelAlignDown_kept {w : Int} {size : UInt32} (h0 : 0 ≤ w) (hw : w < 2 ^ 31)
    (hsize : size.toNat ≤ 2 ^ 31) :
    0 ≤ pixelAlignDown w (toInt32 size.toNat) ∧ pixelAlignDown w (toInt32 size.toNat) ≤ w ∧
      Aligned size.toNat (pixelAlignDown w (toInt32 size.toNat)) ∧
      ∀ m, Aligned size.toNat m → m ≤ w → m ≤ pixelAlignDown w (toInt32 size.toNat) := by
  rcases Nat.lt_or_eq_of_le hsize with hlt | heq
  · have halign : toInt32 (size.toNat : Int) = size.toNat :=
      toInt32_of_range (by omega) (by unfold INT_MAX; omega)
    rw [halign]
    obtain ⟨hnonneg, hle⟩ := pixelAlignDown_of_nonneg (Int.natCast_nonneg size.toNat) h0
    refine ⟨hnonneg, hle, aligned_pixelAlignDown, ?_⟩
    intro m hm hmw
    exact pixelAlignDown_greatest h0 hm hmw
  · rw [heq, pixelAlignDown_two_pow h0 hw]
    refine ⟨Int.le_refl _, h0, fun _ => Int.dvd_zero _, ?_⟩
    intro m hm hmw
    obtain ⟨k, rfl⟩ := hm (by decide)
    omega

/-- **One axis of a crop.** -/
theorem alignCropSide_kept {off size : UInt32} {first last : Int} (h : CropRoom off first last)
    (hsize : size.toNat ≤ 2 ^ 31) :
    CropSideKept off size first last (alignCropSide off size first last) := by
  obtain ⟨h0, hroom, hlast⟩ := id h
  have hup := (roundUp_bounds (x := first) (Int.natCast_nonneg off.toNat)).left
  have hx : pixelAlign (trunc first) (toInt32 off.toNat) = roundUp first off.toNat := by
    rw [trunc_intCast]
    exact pixelAlign_of_room h
  have hw : trunc ((last : Rat) - (roundUp first off.toNat : Int)) =
      last - roundUp first off.toNat := by
    rw [← Int.cast_sub]
    exact trunc_intCast _
  obtain ⟨hnonneg, hle, haligned, hmost⟩ :=
    pixelAlignDown_kept (w := last - roundUp first off.toNat) (by omega)
      (by unfold INT_MAX at hlast; omega) hsize
  refine ⟨roundUp first off.toNat,
    pixelAlignDown (last - roundUp first off.toNat) (toInt32 size.toNat), ?_, hnonneg, hup, by omega,
    aligned_roundUp, haligned, ?_, ?_⟩
  · unfold alignCropSide
    dsimp only
    rw [hx, hw]
  · intro y hy hfirst
    exact roundUp_least h0 hy hfirst
  · intro m hm hlast
    exact hmost m hm (by omega)

end Crops

/-! ### The layer -/

namespace Layer

variable {l : Layer} {info : DeviceValidateInfo} {buffer : LayerBuffer}

def rulesX (l : Layer) (info : DeviceValidateInfo) (buffer : LayerBuffer) : SideRules :=
  rulesOf info.srcSizeRestriction.cropWidthAlign info.dstSizeRestriction.minCropWidth
    l.mDisplayInfo.adjustDisplayFrame buffer.drm

def rulesY (l : Layer) (info : DeviceValidateInfo) (buffer : LayerBuffer) : SideRules :=
  rulesOf info.srcSizeRestriction.cropHeightAlign info.dstSizeRestriction.minCropHeight
    l.mDisplayInfo.adjustDisplayFrame buffer.drm

/-- A layer of protected or HDR content on the screen, with enough room for what is asked
    of its frame. -/
structure Video (l : Layer) (info : DeviceValidateInfo) (buffer : LayerBuffer) : Prop where
  hasBuffer : l.mLayerBuffer = some buffer
  video : buffer.drm = true ∨ l.hasHdrInfo = true
  onX : OnSide l.mDisplayInfo.xres (sidesX l.mDisplayFrame)
  onY : OnSide l.mDisplayInfo.yres (sidesY l.mDisplayFrame)
  fitsX : (l.rulesX info buffer).Fits l.mDisplayInfo.xres
    (l.mDisplayFrame.right - l.mDisplayFrame.left)
  fitsY : (l.rulesY info buffer).Fits l.mDisplayInfo.yres
    (l.mDisplayFrame.bottom - l.mDisplayFrame.top)

theorem preprocessedFrame_eq (info : DeviceValidateInfo)
    (hvideo : buffer.drm = true ∨ l.hasHdrInfo = true) :
    sidesX (l.preprocessedFrame info buffer) =
        frameSide (alignFrameX info.srcSizeRestriction.cropWidthAlign)
          info.dstSizeRestriction.minCropWidth l.mDisplayInfo.adjustDisplayFrame buffer.drm
          l.mDisplayInfo.xres (sidesX l.mDisplayFrame) ∧
      sidesY (l.preprocessedFrame info buffer) =
        frameSide (alignFrameY info.srcSizeRestriction.cropHeightAlign)
          info.dstSizeRestriction.minCropHeight l.mDisplayInfo.adjustDisplayFrame buffer.drm
          l.mDisplayInfo.yres (sidesY l.mDisplayFrame) := by
  unfold preprocessedFrame frameSide
  rw [if_pos hvideo]
  cases l.mDisplayInfo.adjustDisplayFrame <;> cases buffer.drm <;> exact ⟨rfl, rfl⟩

theorem preprocessedFrame_kept (h : Video l info buffer) :
    SideKept (l.rulesX info buffer) l.mDisplayInfo.xres (sidesX l.mDisplayFrame)
        (sidesX (l.preprocessedFrame info buffer)) ∧
      SideKept (l.rulesY info buffer) l.mDisplayInfo.yres (sidesY l.mDisplayFrame)
        (sidesY (l.preprocessedFrame info buffer)) := by
  obtain ⟨-, hvideo, honX, honY, hfitsX, hfitsY⟩ := h
  obtain ⟨hx, hy⟩ := preprocessedFrame_eq info hvideo
  rw [hx, hy]
  constructor
  · apply frameSide_kept l.mDisplayInfo.xres_le honX hfitsX
    intro hfits
    exact (alignFrame_eq l.mDisplayInfo.xres_le honX _ hfits).left
  · apply frameSide_kept l.mDisplayInfo.yres_le honY hfitsY
    intro hfits
    exact (alignFrame_eq l.mDisplayInfo.yres_le honY _ hfits).right

theorem doPreProcess_frame (hbuffer : l.mLayerBuffer = some buffer) :
    (l.doPreProcess info).2.1.mPreprocessedInfo.displayFrame = l.preprocessedFrame info buffer := by
  unfold doPreProcess
  rw [hbuffer]
  dsimp only
  split <;> rfl

theorem doPreProcess_crop (hbuffer : l.mLayerBuffer = some buffer) :
    (l.doPreProcess info).2.1.mPreprocessedInfo.sourceCrop =
      if l.isYUV then alignSourceCrop info (l.fieldInfo buffer).sourceCrop else l.mSourceCrop := by
  unfold doPreProcess
  rw [hbuffer]
  dsimp only
  split <;> rfl

end Layer

/-- A crop in whole pixels. -/
def ofPixels (c : Rect Int) : Rect Rat := ⟨c.left, c.top, c.right, c.bottom⟩

namespace Layer

variable {l : Layer} {info : DeviceValidateInfo} {buffer : LayerBuffer}

theorem fieldCrop_ofPixels (l : Layer) (field : InterlacedType) (stride : Int) (c : Rect Int) :
    ∃ c', l.fieldCrop field stride (ofPixels c) = ofPixels c' := by
  have hshift : ∃ d, (if field = .BT ∧ trunc l.mSourceCrop.left < stride then
      ({ ofPixels c with
        left := ((trunc l.mSourceCrop.left + stride : Int) : Rat)
        right := ((trunc l.mSourceCrop.right + stride : Int) : Rat) } : Rect Rat)
      else ofPixels c) = ofPixels d := by
    split
    · exact ⟨⟨_, c.top, _, c.bottom⟩, rfl⟩
    · exact ⟨c, rfl⟩
  obtain ⟨d, hd⟩ := hshift
  unfold fieldCrop
  dsimp only at hd ⊢
  rw [hd]
  split
  · exact ⟨⟨d.left, (trunc l.mSourceCrop.top).tdiv 2, d.right,
      (trunc l.mSourceCrop.bottom).tdiv 2⟩, rfl⟩
  · exact ⟨d, rfl⟩

/-- The original crop with its edges taken to whole pixels, outward. -/
def wholePixels (l : Layer) : Rect Int :=
  ⟨trunc l.mSourceCrop.left, trunc l.mSourceCrop.top, trunc (l.mSourceCrop.right + 9 / 10),
    trunc (l.mSourceCrop.bottom + 9 / 10)⟩

theorem wholeCrop_eq (l : Layer) : l.wholeCrop = ofPixels l.wholePixels := rfl

/-- A whole picture and not its fields. -/
def Progressive (buffer : LayerBuffer) : Prop :=
  ∀ field privateFormat, buffer.videoMeta ≠ .data (some field) privateFormat

theorem fieldInfo_of_progressive (l : Layer) (hbuffer : Progressive buffer) :
    (l.fieldInfo buffer).sourceCrop = ofPixels l.wholePixels := by
  unfold fieldInfo handleMetaData
  cases hcase : buffer.videoMeta with
  | mapFailed => exact l.wholeCrop_eq
  | null => exact l.wholeCrop_eq
  | data interlaced privateFormat =>
      cases interlaced with
      | none => exact l.wholeCrop_eq
      | some field => exact absurd hcase (hbuffer field privateFormat)

/-- The pixels that are read, before the alignment. -/
theorem fieldInfo_pixels (l : Layer) (buffer : LayerBuffer) :
    ∃ c, (l.fieldInfo buffer).sourceCrop = ofPixels c := by
  cases hcase : buffer.videoMeta with
  | mapFailed =>
      exact ⟨_, l.fieldInfo_of_progressive (by intro f p h; rw [hcase] at h; cases h)⟩
  | null => exact ⟨_, l.fieldInfo_of_progressive (by intro f p h; rw [hcase] at h; cases h)⟩
  | data interlaced privateFormat =>
      cases interlaced with
      | none => exact ⟨_, l.fieldInfo_of_progressive (by intro f p h; rw [hcase] at h; cases h)⟩
      | some field =>
          unfold fieldInfo handleMetaData
          rw [hcase]
          dsimp only
          rw [wholeCrop_eq]
          exact l.fieldCrop_ofPixels field buffer.stride _

/-- A crop in whole pixels already stays as it is. -/
theorem wholePixels_of_pixels {c : Rect Int} (hcrop : l.mSourceCrop = ofPixels c)
    (h0 : 0 ≤ c.right) (h1 : 0 ≤ c.bottom) : l.wholePixels = c := by
  have hedge : ∀ x : Int, 0 ≤ x → trunc ((x : Rat) + 9 / 10) = x := by
    intro x hx
    have hq : (0 : Rat) ≤ x := Int.cast_nonneg hx
    have hle : x ≤ ((x : Rat) + 9 / 10).floor := Rat.le_floor_iff.mpr (by linarith)
    have hlt : ((x : Rat) + 9 / 10).floor < x + 1 := by
      apply Rat.floor_lt_iff.mpr
      push_cast
      linarith
    rw [trunc_of_nonneg (by linarith)]
    omega
  unfold wholePixels
  rw [hcrop]
  unfold ofPixels
  dsimp only
  rw [trunc_intCast, trunc_intCast, hedge _ h0, hedge _ h1]

/-- **A protected or an HDR layer after `doPreProcess`.** -/
theorem doPreProcess_kept (h : Video l info buffer) :
    SideKept (l.rulesX info buffer) l.mDisplayInfo.xres (sidesX l.mDisplayFrame)
        (sidesX (l.doPreProcess info).2.1.mPreprocessedInfo.displayFrame) ∧
      SideKept (l.rulesY info buffer) l.mDisplayInfo.yres (sidesY l.mDisplayFrame)
        (sidesY (l.doPreProcess info).2.1.mPreprocessedInfo.displayFrame) ∧
      (l.isYUV = false →
        (l.doPreProcess info).2.1.mPreprocessedInfo.sourceCrop = l.mSourceCrop) ∧
      (l.isYUV = true →
        ∃ c, (l.fieldInfo buffer).sourceCrop = ofPixels c ∧
          (Progressive buffer → c = l.wholePixels) ∧
          (CropRoom info.srcSizeRestriction.cropXAlign c.left c.right →
            info.srcSizeRestriction.cropWidthAlign.toNat ≤ 2 ^ 31 →
            CropSideKept info.srcSizeRestriction.cropXAlign info.srcSizeRestriction.cropWidthAlign
              c.left c.right (sidesX (l.doPreProcess info).2.1.mPreprocessedInfo.sourceCrop)) ∧
          (CropRoom info.srcSizeRestriction.cropYAlign c.top c.bottom →
            info.srcSizeRestriction.cropHeightAlign.toNat ≤ 2 ^ 31 →
            CropSideKept info.srcSizeRestriction.cropYAlign info.srcSizeRestriction.cropHeightAlign
              c.top c.bottom (sidesY (l.doPreProcess info).2.1.mPreprocessedInfo.sourceCrop))) := by
  rw [doPreProcess_frame h.hasBuffer, doPreProcess_crop h.hasBuffer]
  obtain ⟨hx, hy⟩ := preprocessedFrame_kept h
  refine ⟨hx, hy, ?_, ?_⟩
  · intro hyuv
    rw [hyuv]
    rfl
  · intro hyuv
    obtain ⟨c, hc, hprogressive⟩ : ∃ c, (l.fieldInfo buffer).sourceCrop = ofPixels c ∧
        (Progressive buffer → c = l.wholePixels) := by
      by_cases hbuffer : Progressive buffer
      · exact ⟨_, l.fieldInfo_of_progressive hbuffer, fun _ => rfl⟩
      · obtain ⟨c, hc⟩ := l.fieldInfo_pixels buffer
        exact ⟨c, hc, fun h => absurd h hbuffer⟩
    rw [if_pos hyuv, hc]
    refine ⟨c, rfl, hprogressive, ?_, ?_⟩
    · intro hroom hsize
      exact alignCropSide_kept hroom hsize
    · intro hroom hsize
      exact alignCropSide_kept hroom hsize

end Layer

/-! ### Layers at the edge of the screen -/

/-- All that could be asked of one axis of a frame. -/
def SideAsked (align min res : Nat) (frame new : Int × Int) : Prop :=
  0 ≤ new.1 ∧ new.2 ≤ res ∧ (min : Int) ≤ new.2 - new.1 ∧ Aligned align (new.2 - new.1) ∧
    new.1 ≤ frame.1 ∧ frame.2 ≤ new.2

instance (align min res : Nat) (frame new : Int × Int) :
    Decidable (SideAsked align min res frame new) :=
  inferInstanceAs (Decidable (_ ∧ _))

/-- All that could be asked of one axis of a crop. -/
def CropSideAsked (offsetAlign sizeAlign min : Nat) (crop new : Rat × Rat) : Prop :=
  crop.1 ≤ new.1 ∧ new.2 ≤ crop.2 ∧ (min : Rat) ≤ new.2 - new.1 ∧
    Aligned offsetAlign (trunc new.1) ∧ Aligned sizeAlign (trunc (new.2 - new.1))

instance (offsetAlign sizeAlign min : Nat) (crop new : Rat × Rat) :
    Decidable (CropSideAsked offsetAlign sizeAlign min crop new) :=
  inferInstanceAs (Decidable (_ ∧ _))

/-- A channel with this alignment of widths and this smallest width. -/
def widthRestriction (align min : UInt32) : DeviceValidateInfo :=
  let restriction : RestrictionSize :=
    { maxDownScale := 4, maxUpScale := 8, maxFullWidth := 4096, maxFullHeight := 4096,
      minFullWidth := 16, minFullHeight := 16, fullWidthAlign := 1, fullHeightAlign := 1,
      maxCropWidth := 4096, maxCropHeight := 4096, minCropWidth := min, minCropHeight := 1,
      cropXAlign := 2, cropYAlign := 2, cropWidthAlign := align, cropHeightAlign := 1 }
  ⟨restriction, restriction⟩

/-- A video from one column of the screen to another. -/
def videoAt (left right : Int) (cropLeft cropRight : Rat) (xres : Nat) (hx : xres ≤ 2 ^ 29)
    (adjust drm : Bool) : Layer :=
  { mSourceCrop := ⟨cropLeft, 0, cropRight, 720⟩
    mDisplayFrame := ⟨left, 0, right, 50⟩
    mLayerBuffer := some ⟨drm, false, true, 1280, .null⟩
    isYUV := true
    hasHdrInfo := true
    isSolidColor := false
    isCursor := false
    mDisplayInfo := ⟨xres, 2400, adjust, false, hx, by decide⟩
    mIsHdrLayer := false
    isDimLayer := false
    mOverlayPriority := .ePriorityLow
    mPreprocessedInfo := ⟨⟨0, 0, 0, 0⟩, ⟨0, 0, 0, 0⟩, .NONE, false⟩ }

theorem doPreProcess_kept_at_edge :
    SideKept ⟨some 64, some 16⟩ 1080 (1020, 1070)
      (sidesX ((videoAt 1020 1070 1 641 1080 (by decide) true true).doPreProcess
        (widthRestriction 64 16)).2.1.mPreprocessedInfo.displayFrame) ∧
      (sidesX ((videoAt 1020 1070 1 641 1080 (by decide) true true).doPreProcess
        (widthRestriction 64 16)).2.1.mPreprocessedInfo.displayFrame) = (1016, 1080) := by
  have hvideo : Layer.Video (videoAt 1020 1070 1 641 1080 (by decide) true true)
      (widthRestriction 64 16) ⟨true, false, true, 1280, .null⟩ := by
    refine ⟨rfl, Or.inl rfl, ⟨by decide, by decide, by decide⟩, ⟨by decide, by decide, by decide⟩,
      ⟨?_, ?_⟩, ⟨?_, ?_⟩⟩
    · rintro a ⟨⟩
      decide
    · rintro m ⟨⟩
      decide
    · rintro a ⟨⟩
      decide
    · rintro m ⟨⟩
      decide
  exact ⟨(Layer.doPreProcess_kept hvideo).left, by decide +kernel⟩

/-- Without the adjustment an HDR video stays short; a protected one is not aligned; one that
    is aligned and resized leaves the screen, as does one that cannot fit.  A crop grows to
    whole pixels, and may end up smaller than the channel reads. -/
theorem sides_not_asked :
    ¬ SideAsked 4 16 1080 (10, 20)
        (sidesX ((videoAt 10 20 0 640 1080 (by decide) false false).doPreProcess
          (widthRestriction 4 16)).2.1.mPreprocessedInfo.displayFrame) ∧
      ¬ SideAsked 4 16 1080 (10, 31)
        (sidesX ((videoAt 10 31 0 640 1080 (by decide) false true).doPreProcess
          (widthRestriction 4 16)).2.1.mPreprocessedInfo.displayFrame) ∧
      ¬ SideAsked 64 60 100 (45, 95)
        (sidesX ((videoAt 45 95 0 640 100 (by decide) true true).doPreProcess
          (widthRestriction 64 60)).2.1.mPreprocessedInfo.displayFrame) ∧
      ¬ SideAsked 4 200 100 (0, 52)
        (sidesX ((videoAt 0 52 0 640 100 (by decide) true true).doPreProcess
          (widthRestriction 4 200)).2.1.mPreprocessedInfo.displayFrame) ∧
      ¬ CropSideAsked 2 4 16 (1 / 2, 640)
        (sidesX ((videoAt 0 52 (1 / 2) 640 1080 (by decide) true true).doPreProcess
          (widthRestriction 4 16)).2.1.mPreprocessedInfo.sourceCrop) ∧
      ¬ CropSideAsked 2 4 16 (0, 15)
        (sidesX ((videoAt 0 52 0 15 1080 (by decide) true true).doPreProcess
          (widthRestriction 4 16)).2.1.mPreprocessedInfo.sourceCrop) := by
  decide +kernel

end ExynosHal.LayerPreprocess
