/-
  ExynosHal/OverlayCrop.lean
  ==========================
  **The window of a composition target.**

  `ExynosDisplay::configureOverlay(ExynosCompositionInfo &)` of
  `libhwc2.1/display/ExynosDisplay.cpp`, which fills the window of the client or of
  the exynos composition.  The window shows the bounding box of the composed layers,
  changed to something the hardware can crop, or the whole screen.

  The box goes through the same steps on both axes (`cropAxis`), in a mixture of `int`
  and `uint32_t`.  `Axis.start` and `Axis.length` are the same steps over the integers.
-/
import ExynosHal.MppSupport
import ExynosHal.WindowUpdate

namespace ExynosHal.OverlayCrop

open ExynosHal.WindowConfig
open ExynosHal.MppSupport (RestrictionClass RestrictionSize)
open ExynosHal.WindowUpdate (INT_MAX Bounded area expand toUInt32)

def NO_ERROR : Int := 0
def EINVAL : Int := 22
def HWC2_BLEND_MODE_PREMULTIPLIED : Int := 2
def HAL_PIXEL_FORMAT_RGB_565 : Nat := 4
def COMP_TYPE_NONE : Nat := 0x08000000
def DPP_COMP_SRC_G2D : Nat := 1
def DPP_COMP_SRC_GPU : Nat := 2

/-! ### Arithmetic -/

/-- The conversion to `int`. -/
def toInt32 (i : Int) : Int := (i + 2 ^ 31) % 2 ^ 32 - 2 ^ 31

def pixelAlign (x a : Int) : Int :=
  if a ≠ 0 ∧ x.tmod a ≠ 0 then toInt32 (x - x.tmod a + a) else x

def pixelAlignDown (x a : Int) : Int :=
  if a ≠ 0 ∧ x.tmod a ≠ 0 then max (x - x.tmod a) 0 else x

/-- What the hardware asks of one side of a crop. -/
structure Axis where
  offsetAlign : Nat
  sizeAlign : Nat
  minSize : Nat
deriving DecidableEq, Repr

def axisX (size : RestrictionSize) : Axis where
  offsetAlign := size.cropXAlign.toNat
  sizeAlign := size.cropWidthAlign.toNat
  minSize := size.minFullWidth.toNat

def axisY (size : RestrictionSize) : Axis where
  offsetAlign := size.cropYAlign.toNat
  sizeAlign := size.cropHeightAlign.toNat
  minSize := size.minFullHeight.toNat

/-- A side that is too short grows to the left. -/
def growSide (minSize : Nat) (x : Int) (w : Nat) : Int × Nat :=
  if w < minSize then (max (toInt32 (x - (minSize - w : Nat))) 0, minSize) else (x, w)

def alignSide (a : Axis) (x : Int) (w : Nat) : Int × Nat :=
  let alignedSrc := pixelAlignDown x (toInt32 a.offsetAlign)
  let w := toUInt32 (w + (x - alignedSrc))
  (alignedSrc, toUInt32 (pixelAlign (toInt32 w) (toInt32 a.sizeAlign)))

/-- Offset and size of the crop on one axis, from the two edges of the box. -/
def cropAxis (a : Axis) (first last : Int) : Int × Nat :=
  let side := growSide a.minSize first (toUInt32 (last - first))
  alignSide a side.1 side.2

/-! ### The display -/

/-- The target buffer with its metadata; `secure` is `getDrmMode` of its usage, and
    `compressionType` the type that `getCompressionInfo` finds. -/
structure Buffer where
  fd : Int
  fd1 : Int
  fd2 : Int
  bufferId : Nat
  secure : Bool
  stride : Nat
  vstride : Nat
  size : Nat
  format : Nat
  compressionType : Nat
deriving DecidableEq, Repr

structure OtfMPP where
  id : Nat
  mSrcSizeRestrictions : RestrictionClass → RestrictionSize
  mLutParcelFd : Int

inductive CompositionType where
  | CLIENT
  | EXYNOS
  | other
deriving DecidableEq, Repr

structure CompositionInfo where
  id : Nat
  mType : CompositionType
  mHasCompositionLayer : Bool
  mFirstIndex : Int
  mLastIndex : Int
  mTargetBuffer : Option Buffer
  mAcquireFence : Int
  mSkipFlag : Bool
  mWindowIndex : Int
  mCompressionInfo : CompressionInfo
  mFormat : Nat
  dataSpace : Nat
  mOtfMPP : Option OtfMPP

/-- The format descriptions, the alignment of the chip, the colour conversion and the
    fence tracer. -/
structure Platform where
  M2M_JUSTIFIED_DST_ALIGN : Nat
  isRgb : Nat → Bool
  bpp : Nat → Nat
  formatToBpp : Nat → Nat
  isFormatLossy : Nat → Bool
  setColorConversionInfo : OtfMPP → Int
  checkFenceDebug : Int → Int

structure Display (n : Nat) where
  mXres : Nat
  mYres : Nat
  /-- `mDisplayFrame` of the layers. -/
  displayFrames : List (Rect Int)
  dpuData : DpuData n
  closedFences : List Int

def Platform.getRestrictionIndex (p : Platform) (format : Nat) : RestrictionClass :=
  if p.isRgb format then .RGB else .YUV

def Platform.getM2mDstAlign (p : Platform) (format : Nat) : Nat :=
  if format = HAL_PIXEL_FORMAT_RGB_565 then p.M2M_JUSTIFIED_DST_ALIGN * 2
  else p.M2M_JUSTIFIED_DST_ALIGN

/-- The restrictions for the target on its MPP. -/
def Platform.limits (p : Platform) (info : CompositionInfo) (mpp : OtfMPP) : RestrictionSize :=
  mpp.mSrcSizeRestrictions (p.getRestrictionIndex info.mFormat)

namespace Display

variable {n : Nat} (d : Display n)

def setConfig (i : Fin n) (config : WinConfig) : Display n :=
  { d with dpuData := { d.dpuData with
      configs := fun j => if j = i then config else d.dpuData.configs j } }

/-- The layers from the first to the last index. -/
def composedFrames (info : CompositionInfo) : List (Rect Int) :=
  (d.displayFrames.drop info.mFirstIndex.toNat).take (info.mLastIndex + 1 - info.mFirstIndex).toNat

def mergedRect (info : CompositionInfo) : Rect Int :=
  (d.composedFrames info).foldl expand ⟨toInt32 d.mXres, toInt32 d.mYres, 0, 0⟩

/-- The crop, where one is used: offset and size. -/
def compositionCrop (p : Platform) (info : CompositionInfo) : Option ((Int × Int) × Nat × Nat) :=
  if info.mHasCompositionLayer ∧ 0 ≤ info.mFirstIndex ∧ 0 ≤ info.mLastIndex then
    info.mOtfMPP.bind fun exynosMPP =>
      let size := p.limits info exynosMPP
      let (x, w) := cropAxis (axisX size) (d.mergedRect info).left (d.mergedRect info).right
      let (y, h) := cropAxis (axisY size) (d.mergedRect info).top (d.mergedRect info).bottom
      if x < 0 ∨ y < 0 ∨ toUInt32 (x + w) > d.mXres ∨ toUInt32 (y + h) > d.mYres then none
      else some ((x, y), w, h)
  else none

/-- The buffer's part of the config. -/
def configureTarget (p : Platform) (info : CompositionInfo) (gmeta : Buffer) (config : WinConfig) :
    WinConfig :=
  let align := p.getM2mDstAlign gmeta.format
  let fullSize : Nat × Nat :=
    if info.mType = .EXYNOS then
      (toUInt32 (pixelAlign (toInt32 d.mXres) align), toUInt32 (pixelAlign (toInt32 d.mYres) align))
    else (gmeta.stride, gmeta.vstride)
  { config with
    fd_idma := (gmeta.fd, gmeta.fd1, gmeta.fd2)
    bufferId := gmeta.bufferId
    protection := gmeta.secure
    state := .buffer
    assignedMPP := info.mOtfMPP.map OtfMPP.id
    dst := { config.dst with f_w := d.mXres, f_h := d.mYres }
    src := { config.src with f_w := fullSize.1, f_h := fullSize.2 }
    compressionInfo :=
      if info.mCompressionInfo.type = gmeta.compressionType then info.mCompressionInfo
      else { config.compressionInfo with type := COMP_TYPE_NONE }
    format := info.mFormat
    compSrc :=
      if info.mCompressionInfo.type = 0 then config.compSrc
      else
        match info.mType with
        | .EXYNOS => DPP_COMP_SRC_G2D
        | .CLIENT => DPP_COMP_SRC_GPU
        | .other => config.compSrc }

/-- The crop, or the whole screen, as source and destination. -/
def configureCrop (p : Platform) (info : CompositionInfo) (config : WinConfig) : WinConfig :=
  let crop := (d.compositionCrop p info).getD ((0, 0), d.mXres, d.mYres)
  { config with
    src := { config.src with x := crop.1.1, y := crop.1.2, w := crop.2.1, h := crop.2.2 }
    dst := { config.dst with x := crop.1.1, y := crop.1.2, w := crop.2.1, h := crop.2.2 } }

def configurePlane (p : Platform) (info : CompositionInfo) (config : WinConfig) : WinConfig :=
  { config with
    blending := HWC2_BLEND_MODE_PREMULTIPLIED
    acq_fence := p.checkFenceDebug info.mAcquireFence
    planeAlpha := 1
    dataspace := info.dataSpace
    hdrEnable := true }

/-- The whole image, in 64 bits, does not fit into the buffer. -/
def bufferTooSmall (p : Platform) (gmeta : Buffer) (config : WinConfig) : Bool :=
  !p.isFormatLossy gmeta.format &&
    decide (gmeta.size * p.formatToBpp gmeta.format % 2 ^ 64 <
      config.src.f_w * config.src.f_h * p.bpp config.format % 2 ^ 64)

/-- The look-up table, if the colour conversion has one. -/
def configureLut (p : Platform) (info : CompositionInfo) (config : WinConfig) : WinConfig :=
  match info.mOtfMPP with
  | some mpp =>
      if p.setColorConversionInfo mpp = NO_ERROR then { config with fd_lut := mpp.mLutParcelFd }
      else config
  | none => config

/-- `configureOverlay` of a composition target. -/
def configureOverlay (p : Platform) (info : CompositionInfo) : Int × CompositionInfo × Display n :=
  if h : 0 ≤ info.mWindowIndex ∧ info.mWindowIndex.toNat < n then
    let i : Fin n := ⟨info.mWindowIndex.toNat, h.2⟩
    let config := { d.dpuData.configs i with owner := some info.id }
    match info.mTargetBuffer with
    | none =>
        if info.mSkipFlag then (NO_ERROR, info, d.setConfig i config)
        else if info.mType = .CLIENT then
          let closed := if info.mAcquireFence ≥ 0 then [info.mAcquireFence] else []
          (NO_ERROR,
            { info with mAcquireFence := if info.mAcquireFence ≥ 0 then -1 else info.mAcquireFence },
            { d.setConfig i { config with state := .disabled } with
              closedFences := d.closedFences ++ closed })
        else (-EINVAL, info, d.setConfig i config)
    | some handle =>
        let config := d.configureTarget p info handle config
        let config := d.configureCrop p info config
        let config := configurePlane p info config
        let info' := { info with mAcquireFence := -1 }
        if bufferTooSmall p handle config then (-EINVAL, info', d.setConfig i config)
        else (NO_ERROR, info', d.setConfig i (configureLut p info config))
  else (-EINVAL, info, d)

end Display

/-! ### The steps over the integers -/

def roundUp (x a : Int) : Int := if a ≠ 0 ∧ x.tmod a ≠ 0 then x - x.tmod a + a else x

/-- An alignment of zero asks for nothing. -/
def Aligned (a : Nat) (x : Int) : Prop := a ≠ 0 → (a : Int) ∣ x

instance (a : Nat) (x : Int) : Decidable (Aligned a x) := inferInstanceAs (Decidable (_ → _))

section Rounding

variable {x a : Int}

theorem tmod_le_self (ha : 0 ≤ a) (hx : 0 ≤ x) : x.tmod a ≤ x := by
  obtain ⟨n, rfl⟩ := Int.eq_ofNat_of_zero_le hx
  obtain ⟨m, rfl⟩ := Int.eq_ofNat_of_zero_le ha
  exact Int.ofNat_le.mpr (Nat.mod_le n m)

theorem tmod_bounds (ha : 0 < a) :
    (0 ≤ x → 0 ≤ x.tmod a ∧ x.tmod a < a ∧ x.tmod a ≤ x) ∧
      (x ≤ 0 → x.tmod a ≤ 0 ∧ -a < x.tmod a ∧ x ≤ x.tmod a) := by
  have hlt := Int.tmod_lt_of_pos x ha
  have hgt := Int.lt_tmod_of_pos x ha
  constructor
  · intro hx
    exact ⟨Int.tmod_nonneg a hx, hlt, tmod_le_self ha.le hx⟩
  · intro hx
    have hneg : (-x).tmod a = -(x.tmod a) := Int.neg_tmod x a
    have hpos := Int.tmod_nonneg a (Int.neg_nonneg_of_nonpos hx)
    have hle : (-x).tmod a ≤ -x := tmod_le_self ha.le (Int.neg_nonneg_of_nonpos hx)
    rw [hneg] at hpos hle
    exact ⟨Int.nonpos_of_neg_nonneg hpos, hgt, Int.neg_le_neg_iff.mp hle⟩

theorem roundUp_bounds (ha : 0 ≤ a) : x ≤ roundUp x a ∧ roundUp x a ≤ max x 0 + a := by
  unfold roundUp
  split
  · rename_i h
    have ha' : 0 < a := by omega
    obtain ⟨hpos, hneg⟩ := tmod_bounds (x := x) ha'
    rcases Int.le_total 0 x with hx | hx
    · obtain ⟨h0, h1, h2⟩ := hpos hx
      omega
    · obtain ⟨h0, h1, h2⟩ := hneg hx
      omega
  · omega

theorem aligned_roundUp {a : Nat} : Aligned a (roundUp x a) := by
  intro ha
  unfold roundUp
  split
  · have hsub : x - x.tmod a = a * x.tdiv a := by
      have := Int.tmod_add_mul_tdiv x a
      omega
    rw [hsub]
    exact Int.dvd_add (Int.dvd_mul_right _ _) (Int.dvd_refl _)
  · rename_i h
    apply Int.dvd_of_tmod_eq_zero
    exact Decidable.byContradiction fun hne => h ⟨Int.natCast_ne_zero.mpr ha, hne⟩

theorem pixelAlignDown_of_nonneg (ha : 0 ≤ a) (hx : 0 ≤ x) :
    0 ≤ pixelAlignDown x a ∧ pixelAlignDown x a ≤ x := by
  unfold pixelAlignDown
  split
  · obtain ⟨h0, h1, h2⟩ := (tmod_bounds (x := x) (a := a) (by omega)).1 hx
    omega
  · omega

theorem pixelAlignDown_of_neg (ha : 0 ≤ a) (hx : x < 0) :
    pixelAlignDown x a = x ∨ pixelAlignDown x a = 0 := by
  unfold pixelAlignDown
  split
  · right
    obtain ⟨h0, h1, h2⟩ := (tmod_bounds (x := x) (a := a) (by omega)).2 hx.le
    omega
  · exact Or.inl rfl

theorem pixelAlignDown_le (ha : 0 ≤ a) : pixelAlignDown x a ≤ max x 0 := by
  rcases Int.le_total 0 x with hx | hx
  · have := (pixelAlignDown_of_nonneg ha hx).2
    omega
  · unfold pixelAlignDown
    split
    · obtain ⟨h0, h1, h2⟩ := (tmod_bounds (x := x) (a := a) (by omega)).2 hx
      omega
    · omega

theorem aligned_pixelAlignDown {a : Nat} : Aligned a (pixelAlignDown x a) := by
  intro ha
  unfold pixelAlignDown
  split
  · have hsub : x - x.tmod a = a * x.tdiv a := by
      have := Int.tmod_add_mul_tdiv x a
      omega
    rw [hsub]
    rcases Int.le_total 0 (a * x.tdiv a) with h | h
    · rw [max_eq_left h]
      exact Int.dvd_mul_right _ _
    · rw [max_eq_right h]
      exact Int.dvd_zero _
  · rename_i h
    apply Int.dvd_of_tmod_eq_zero
    exact Decidable.byContradiction fun hne => h ⟨Int.natCast_ne_zero.mpr ha, hne⟩

end Rounding

namespace Axis

variable (a : Axis) (first last : Int)

/-- The edges of the box, with one moved where the box is too short. -/
def grown : Int × Int :=
  if first ≤ last ∧ last - first < a.minSize then
    (max (last - a.minSize) 0, max (last - a.minSize) 0 + a.minSize)
  else (first, last)

def start : Int := pixelAlignDown (a.grown first last).1 a.offsetAlign

def length : Int := roundUp ((a.grown first last).2 - a.start first last) a.sizeAlign

def stop : Int := a.start first last + a.length first last

/-- The crop of this side stays on a screen with `res` pixels. -/
def OnScreen (res : Nat) : Prop := 0 ≤ a.start first last ∧ a.stop first last ≤ res

instance (res : Nat) : Decidable (a.OnScreen first last res) :=
  inferInstanceAs (Decidable (_ ∧ _))

/-- The box begins on the screen or is grown to the least size, or what the alignment
    leaves of it still has that size. -/
def LongEnough : Prop :=
  (first ≤ last ∧ (0 ≤ first ∨ last - first < a.minSize)) ∨
    (a.minSize : Int) ≤ roundUp (last - pixelAlignDown first a.offsetAlign) a.sizeAlign

instance : Decidable (a.LongEnough first last) := inferInstanceAs (Decidable (_ ∨ _))

/-- The numbers are `int`s. -/
structure Fits : Prop where
  offsetAlign : (a.offsetAlign : Int) ≤ INT_MAX
  sizeAlign : (a.sizeAlign : Int) ≤ INT_MAX
  minSize : (a.minSize : Int) ≤ INT_MAX

end Axis

/-- The edges of a box that was hulled with the last and the first edge of the screen. -/
structure Edges (first last : Int) : Prop where
  first_ge : -2 ^ 31 ≤ first
  first_le : first ≤ INT_MAX
  last_ge : 0 ≤ last
  last_le : last ≤ INT_MAX

section Sides

variable {a : Axis} {first last : Int} {res : Nat}

theorem toInt32_of_range {i : Int} (h1 : -2 ^ 31 ≤ i) (h2 : i ≤ INT_MAX) : toInt32 i = i := by
  unfold toInt32
  unfold INT_MAX at h2
  omega

theorem toInt32_toUInt32 {i : Int} (h1 : -2 ^ 31 ≤ i) (h2 : i ≤ INT_MAX) :
    toInt32 (toUInt32 i) = i := by
  unfold toInt32 toUInt32
  unfold INT_MAX at h2
  omega

theorem toUInt32_pixelAlign {x b : Int} : toUInt32 (pixelAlign x b) = toUInt32 (roundUp x b) := by
  unfold pixelAlign roundUp
  split
  · unfold toUInt32 toInt32
    omega
  · rfl

/-- The first step in integers: the side is `grown`. -/
theorem growSide_eq (ha : a.Fits) (h : Edges first last) :
    growSide a.minSize first (toUInt32 (last - first)) =
      ((a.grown first last).1, toUInt32 ((a.grown first last).2 - (a.grown first last).1)) := by
  obtain ⟨h1, h2, h3, h4⟩ := h
  have hmin := ha.minSize
  unfold INT_MAX at h2 h4 hmin
  have hshort : toUInt32 (last - first) < a.minSize ↔ first ≤ last ∧ last - first < a.minSize := by
    unfold toUInt32
    omega
  unfold growSide Axis.grown
  split
  · rename_i hlt
    obtain ⟨hle, hlt'⟩ := hshort.mp hlt
    rw [if_pos ⟨hle, hlt'⟩]
    have hshift : toInt32 (first - (a.minSize - toUInt32 (last - first) : Nat)) =
        last - a.minSize := by
      unfold toInt32 toUInt32
      omega
    rw [hshift]
    apply Prod.ext
    · rfl
    · show a.minSize = toUInt32 _
      unfold toUInt32
      omega
  · rename_i hlt
    rw [if_neg (fun hs => hlt (hshort.mpr hs))]

end Sides

section Crop

variable {a : Axis} {first last : Int} {res : Nat}

theorem grown_range (ha : a.Fits) (h : Edges first last) :
    -2 ^ 31 ≤ (a.grown first last).1 ∧ (a.grown first last).1 ≤ INT_MAX ∧
      0 ≤ (a.grown first last).2 ∧ (a.grown first last).2 ≤ INT_MAX := by
  obtain ⟨h1, h2, h3, h4⟩ := h
  have hmin := ha.minSize
  unfold Axis.grown
  split
  · dsimp only
    omega
  · exact ⟨h1, h2, h3, h4⟩

theorem start_le (ha : a.Fits) (h : Edges first last) : a.start first last ≤ INT_MAX := by
  have hle := pixelAlignDown_le (x := (a.grown first last).1) (Int.natCast_nonneg a.offsetAlign)
  have hg := grown_range ha h
  unfold Axis.start
  unfold INT_MAX at *
  omega

theorem cropAxis_fst (ha : a.Fits) (h : Edges first last) :
    (cropAxis a first last).1 = a.start first last := by
  have hoff : toInt32 a.offsetAlign = a.offsetAlign :=
    toInt32_of_range (by omega) ha.offsetAlign
  unfold cropAxis
  rw [growSide_eq ha h]
  unfold alignSide Axis.start
  rw [hoff]

theorem cropAxis_snd (ha : a.Fits) (h : Edges first last) (h0 : 0 ≤ a.start first last) :
    (cropAxis a first last).2 = toUInt32 (a.length first last) := by
  have hoff : toInt32 a.offsetAlign = a.offsetAlign :=
    toInt32_of_range (by omega) ha.offsetAlign
  have hsize : toInt32 a.sizeAlign = a.sizeAlign := toInt32_of_range (by omega) ha.sizeAlign
  have hs : pixelAlignDown (a.grown first last).1 a.offsetAlign = a.start first last := rfl
  have hle := start_le ha h
  obtain ⟨h1, h2, h3, h4⟩ := grown_range ha h
  unfold cropAxis
  rw [growSide_eq ha h]
  unfold alignSide
  dsimp only
  rw [hoff, hsize, hs]
  have hsum : toUInt32 (toUInt32 ((a.grown first last).2 - (a.grown first last).1) +
      ((a.grown first last).1 - a.start first last)) =
        toUInt32 ((a.grown first last).2 - a.start first last) := by
    unfold toUInt32
    omega
  have hint : toInt32 (toUInt32 ((a.grown first last).2 - a.start first last)) =
      (a.grown first last).2 - a.start first last :=
    toInt32_toUInt32 (by unfold INT_MAX at *; omega) (by omega)
  rw [hsum, hint, toUInt32_pixelAlign]
  rfl

/-- How far the side can reach. -/
theorem stop_range (ha : a.Fits) (h : Edges first last) (h0 : 0 ≤ a.start first last) :
    (a.grown first last).2 ≤ a.stop first last ∧ a.stop first last < 2 ^ 32 := by
  obtain ⟨hge, hle⟩ := roundUp_bounds (x := (a.grown first last).2 - a.start first last)
    (Int.natCast_nonneg a.sizeAlign)
  have hsize := ha.sizeAlign
  have hs := start_le ha h
  obtain ⟨h1, h2, h3, h4⟩ := grown_range ha h
  unfold Axis.stop Axis.length
  unfold INT_MAX at *
  omega

/-- The width as an unsigned number: the length itself, or something too large for any
    screen. -/
theorem width_cases (ha : a.Fits) (h : Edges first last) (h0 : 0 ≤ a.start first last) :
    (0 ≤ a.length first last ∧ ((cropAxis a first last).2 : Int) = a.length first last) ∨
      (a.length first last < 0 ∧ (2 ^ 31 : Int) ≤ (cropAxis a first last).2) := by
  obtain ⟨hge, hlt⟩ := stop_range ha h h0
  obtain ⟨-, -, h3, -⟩ := grown_range ha h
  have hs := start_le ha h
  rw [cropAxis_snd ha h h0]
  unfold Axis.stop INT_MAX toUInt32 at *
  rcases Int.lt_or_le (a.length first last) 0 with hneg | hpos
  · right
    constructor
    · exact hneg
    · omega
  · left
    constructor
    · exact hpos
    · omega

/-- The test of a side against the screen. -/
theorem onScreen_iff (ha : a.Fits) (h : Edges first last) :
    a.OnScreen first last res ↔
      ¬ ((cropAxis a first last).1 < 0 ∨
        toUInt32 ((cropAxis a first last).1 + (cropAxis a first last).2) > res) := by
  rw [cropAxis_fst ha h]
  unfold Axis.OnScreen
  rcases Int.lt_or_le (a.start first last) 0 with hneg | h0
  · constructor
    · rintro ⟨hs, -⟩
      omega
    · intro hno
      exact absurd (Or.inl hneg) hno
  · obtain ⟨hge, hlt⟩ := stop_range ha h h0
    obtain ⟨-, -, h3, -⟩ := grown_range ha h
    have hsum : toUInt32 (a.start first last + (cropAxis a first last).2) =
        (a.stop first last).toNat := by
      rw [cropAxis_snd ha h h0]
      unfold Axis.stop toUInt32 at *
      omega
    rw [hsum]
    omega

/-- The box is inside the crop. -/
theorem start_le_of_mem (h : Edges first last) {q : Int} (hq0 : 0 ≤ q)
    (hq1 : first ≤ q) (hq2 : q < last) (h0 : 0 ≤ a.start first last)
    (hs : a.Fits) : a.start first last ≤ q ∧ q < a.stop first last := by
  obtain ⟨hge, -⟩ := stop_range hs h h0
  have hdown := pixelAlignDown_le (x := (a.grown first last).1) (Int.natCast_nonneg a.offsetAlign)
  have hstart : pixelAlignDown (a.grown first last).1 a.offsetAlign = a.start first last := rfl
  rw [hstart] at hdown
  unfold Axis.grown at hge hdown
  split at hge
  · rename_i hshort
    rw [if_pos hshort] at hdown
    dsimp only at hge hdown
    omega
  · rename_i hlong
    rw [if_neg hlong] at hdown
    dsimp only at hge hdown
    omega

/-- The least size in terms of the box. -/
theorem minSize_le_length_iff :
    (a.minSize : Int) ≤ a.length first last ↔ a.LongEnough first last := by
  have hround := roundUp_bounds (x := (a.grown first last).2 - a.start first last)
    (Int.natCast_nonneg a.sizeAlign)
  have hdown := pixelAlignDown_le (x := (a.grown first last).1) (Int.natCast_nonneg a.offsetAlign)
  have hlen : a.length first last =
    roundUp ((a.grown first last).2 - a.start first last) a.sizeAlign := rfl
  have hstart : pixelAlignDown (a.grown first last).1 a.offsetAlign = a.start first last := rfl
  rw [hstart] at hdown
  by_cases hshort : first ≤ last ∧ last - first < a.minSize
  · apply iff_of_true
    · unfold Axis.grown at hdown
      rw [if_pos hshort] at hdown
      have hg2 : (a.grown first last).2 = max (last - a.minSize) 0 + a.minSize := by
        unfold Axis.grown
        rw [if_pos hshort]
      dsimp only at hdown
      omega
    · exact Or.inl ⟨hshort.1, Or.inr hshort.2⟩
  · have hg : a.grown first last = (first, last) := if_neg hshort
    have hsame : a.length first last =
        roundUp (last - pixelAlignDown first a.offsetAlign) a.sizeAlign := by
      rw [hlen, ← hstart, hg]
    constructor
    · intro hmin
      right
      rw [← hsame]
      exact hmin
    · rintro (⟨hle, hpos | hlt⟩ | hmin)
      · rw [hlen]
        rw [hg] at hround hdown ⊢
        dsimp only at hround hdown ⊢
        omega
      · exact absurd ⟨hle, hlt⟩ hshort
      · rw [hsame]
        exact hmin

end Crop

/-! ### The crop of a target -/

namespace Display

variable {n : Nat} (p : Platform) (d : Display n) (info : CompositionInfo)

def screen : Rect Int := ⟨0, 0, d.mXres, d.mYres⟩

def FullScreen (crop : DeconFrame) : Prop :=
  crop.x = 0 ∧ crop.y = 0 ∧ crop.w = d.mXres ∧ crop.h = d.mYres

/-- A crop that the hardware can do and that misses nothing. -/
structure GoodCrop (size : RestrictionSize) (frames : List (Rect Int)) (crop : DeconFrame) :
    Prop where
  minWidth : size.minFullWidth.toNat ≤ crop.w
  minHeight : size.minFullHeight.toNat ≤ crop.h
  alignedX : Aligned size.cropXAlign.toNat crop.x
  alignedY : Aligned size.cropYAlign.toNat crop.y
  alignedW : Aligned size.cropWidthAlign.toNat crop.w
  alignedH : Aligned size.cropHeightAlign.toNat crop.h
  insideX : 0 ≤ crop.x ∧ crop.x + crop.w ≤ d.mXres
  insideY : 0 ≤ crop.y ∧ crop.y + crop.h ≤ d.mYres
  covers : ∀ frame ∈ frames, ∀ q ∈ d.screen, q ∈ frame → q ∈ area crop

/-- The window of a target is right. -/
structure CropRight (config : WinConfig) : Prop where
  same : (config.src.x, config.src.y, config.src.w, config.src.h) =
    (config.dst.x, config.dst.y, config.dst.w, config.dst.h)
  crop : d.FullScreen config.dst ∨ ∃ mpp, info.mOtfMPP = some mpp ∧
    d.GoodCrop (p.limits info mpp) (d.composedFrames info) config.dst

/-- The values are those of C integers.  The sizes are passed on as `int`s. -/
structure InRange : Prop where
  screen : (d.mXres : Int) ≤ INT_MAX ∧ (d.mYres : Int) ≤ INT_MAX
  frames : ∀ frame ∈ d.displayFrames, Bounded frame
  limits : ∀ mpp, info.mOtfMPP = some mpp →
    (axisX (p.limits info mpp)).Fits ∧ (axisY (p.limits info mpp)).Fits

/-- The changed box is on the screen. -/
structure BoxOnScreen (mpp : OtfMPP) : Prop where
  composed : info.mHasCompositionLayer = true ∧ 0 ≤ info.mFirstIndex ∧ 0 ≤ info.mLastIndex
  assigned : info.mOtfMPP = some mpp
  horizontal : (axisX (p.limits info mpp)).OnScreen (d.mergedRect info).left
    (d.mergedRect info).right d.mXres
  vertical : (axisY (p.limits info mpp)).OnScreen (d.mergedRect info).top
    (d.mergedRect info).bottom d.mYres

/-- The changed box is the screen. -/
def BoxIsScreen (mpp : OtfMPP) : Prop :=
  ((axisX (p.limits info mpp)).start (d.mergedRect info).left (d.mergedRect info).right = 0 ∧
    (axisX (p.limits info mpp)).stop (d.mergedRect info).left (d.mergedRect info).right =
      d.mXres) ∧
  ((axisY (p.limits info mpp)).start (d.mergedRect info).top (d.mergedRect info).bottom = 0 ∧
    (axisY (p.limits info mpp)).stop (d.mergedRect info).top (d.mergedRect info).bottom =
      d.mYres)

/-- A box that becomes a crop is long enough on both axes. -/
def BoxLongEnough : Prop :=
  ∀ mpp, BoxOnScreen p d info mpp → ¬ BoxIsScreen p d info mpp →
    (axisX (p.limits info mpp)).LongEnough (d.mergedRect info).left (d.mergedRect info).right ∧
      (axisY (p.limits info mpp)).LongEnough (d.mergedRect info).top (d.mergedRect info).bottom

variable {p d info}

theorem mem_composedFrames {frame : Rect Int} (h : frame ∈ d.composedFrames info) :
    frame ∈ d.displayFrames :=
  List.mem_of_mem_drop (List.mem_of_mem_take h)

/-- The edges of a box that was hulled with the turned-around screen. -/
theorem foldl_edges {l : List (Rect Int)} (hl : ∀ frame ∈ l, Bounded frame) {r : Rect Int}
    (hx : Edges r.left r.right) (hy : Edges r.top r.bottom) :
    Edges (l.foldl expand r).left (l.foldl expand r).right ∧
      Edges (l.foldl expand r).top (l.foldl expand r).bottom := by
  induction l generalizing r with
  | nil => exact ⟨hx, hy⟩
  | cons frame l ih =>
      obtain ⟨hleft, htop, hright, hbottom⟩ := hl frame List.mem_cons_self
      apply ih (fun f hf => hl f (List.mem_cons_of_mem _ hf))
      · constructor
        · exact le_min hx.first_ge hleft
        · exact (min_le_left _ _).trans hx.first_le
        · exact hx.last_ge.trans (le_max_left _ _)
        · exact max_le hx.last_le hright
      · constructor
        · exact le_min hy.first_ge htop
        · exact (min_le_left _ _).trans hy.first_le
        · exact hy.last_ge.trans (le_max_left _ _)
        · exact max_le hy.last_le hbottom

theorem edges_of_screen {res : Nat} (h : (res : Int) ≤ INT_MAX) : Edges (toInt32 res) 0 := by
  rw [toInt32_of_range (by omega) h]
  exact ⟨by omega, h, by decide, by decide⟩

theorem mergedRect_edges (hd : InRange p d info) :
    Edges (d.mergedRect info).left (d.mergedRect info).right ∧
      Edges (d.mergedRect info).top (d.mergedRect info).bottom := by
  apply foldl_edges (fun frame hframe => hd.frames frame (mem_composedFrames hframe))
  · exact edges_of_screen hd.screen.1
  · exact edges_of_screen hd.screen.2

theorem compositionCrop_of_onScreen (hd : InRange p d info) {mpp : OtfMPP}
    (h : BoxOnScreen p d info mpp) :
    d.compositionCrop p info =
      some (((cropAxis (axisX (p.limits info mpp)) (d.mergedRect info).left
            (d.mergedRect info).right).1,
          (cropAxis (axisY (p.limits info mpp)) (d.mergedRect info).top
            (d.mergedRect info).bottom).1),
        (cropAxis (axisX (p.limits info mpp)) (d.mergedRect info).left
          (d.mergedRect info).right).2,
        (cropAxis (axisY (p.limits info mpp)) (d.mergedRect info).top
          (d.mergedRect info).bottom).2) := by
  obtain ⟨hedgesX, hedgesY⟩ := mergedRect_edges hd
  obtain ⟨hfitsX, hfitsY⟩ := hd.limits mpp h.assigned
  have hx := (onScreen_iff hfitsX hedgesX).mp h.horizontal
  have hy := (onScreen_iff hfitsY hedgesY).mp h.vertical
  unfold compositionCrop
  rw [if_pos h.composed, h.assigned, Option.bind_some]
  dsimp only
  rw [if_neg]
  rintro (hneg | hneg | hgt | hgt)
  · exact hx (Or.inl hneg)
  · exact hy (Or.inl hneg)
  · exact hx (Or.inr hgt)
  · exact hy (Or.inr hgt)

theorem compositionCrop_of_offScreen (hd : InRange p d info)
    (h : ∀ mpp, ¬ BoxOnScreen p d info mpp) : d.compositionCrop p info = none := by
  unfold compositionCrop
  by_cases hcomposed : info.mHasCompositionLayer = true ∧ 0 ≤ info.mFirstIndex ∧
      0 ≤ info.mLastIndex
  · rw [if_pos hcomposed]
    cases hmpp : info.mOtfMPP with
    | none => rfl
    | some mpp =>
        obtain ⟨hedgesX, hedgesY⟩ := mergedRect_edges hd
        obtain ⟨hfitsX, hfitsY⟩ := hd.limits mpp hmpp
        rw [Option.bind_some]
        dsimp only
        rw [if_pos]
        apply Decidable.byContradiction
        intro hno
        simp only [not_or] at hno
        obtain ⟨h1, h2, h3, h4⟩ := hno
        refine h mpp ⟨hcomposed, hmpp, ?_, ?_⟩
        · exact (onScreen_iff hfitsX hedgesX).mpr (not_or.mpr ⟨h1, h3⟩)
        · exact (onScreen_iff hfitsY hedgesY).mpr (not_or.mpr ⟨h2, h4⟩)
  · rw [if_neg hcomposed]

/-! ### The written window -/

@[simp] theorem configureLut_src (config : WinConfig) : (configureLut p info config).src = config.src := by
  unfold configureLut
  split
  · split <;> rfl
  · rfl

@[simp] theorem configureLut_dst (config : WinConfig) : (configureLut p info config).dst = config.dst := by
  unfold configureLut
  split
  · split <;> rfl
  · rfl

/-- Source and destination of the window, whatever the function returns. -/
theorem configureOverlay_window (hwin : 0 ≤ info.mWindowIndex ∧ info.mWindowIndex.toNat < n)
    {handle : Buffer} (hbuf : info.mTargetBuffer = some handle) :
    let config := (d.configureOverlay p info).2.2.dpuData.configs ⟨info.mWindowIndex.toNat, hwin.2⟩
    let crop := (d.compositionCrop p info).getD ((0, 0), d.mXres, d.mYres)
    (config.src.x, config.src.y, config.src.w, config.src.h) =
        (crop.1.1, crop.1.2, crop.2.1, crop.2.2) ∧
      (config.dst.x, config.dst.y, config.dst.w, config.dst.h) =
        (crop.1.1, crop.1.2, crop.2.1, crop.2.2) := by
  unfold configureOverlay
  rw [dif_pos hwin, hbuf]
  dsimp only
  split
  · simp [setConfig, configurePlane, configureCrop]
  · simp [setConfig, configurePlane, configureCrop]

end Display

/-! ### When the window is right -/

section Window

variable {a : Axis} {first last : Int} {res : Nat}

/-- A side on the screen that keeps to the restrictions is one that is long enough. -/
theorem side_good_iff (ha : a.Fits) (h : Edges first last) (hres : (res : Int) ≤ INT_MAX)
    (hon : a.OnScreen first last res) :
    (a.minSize ≤ (cropAxis a first last).2 ∧
        (cropAxis a first last).1 + (cropAxis a first last).2 ≤ res) ↔
      a.LongEnough first last := by
  rw [← minSize_le_length_iff, cropAxis_fst ha h]
  obtain ⟨h0, hstop⟩ := hon
  unfold Axis.stop at hstop
  unfold INT_MAX at hres
  rcases width_cases ha h h0 with ⟨hpos, hw⟩ | ⟨hneg, hw⟩
  · rw [hw]
    omega
  · omega

/-- A side that fills the screen is one whose changed box does. -/
theorem side_full_iff (ha : a.Fits) (h : Edges first last) (hres : (res : Int) ≤ INT_MAX)
    (hon : a.OnScreen first last res) :
    ((cropAxis a first last).1 = 0 ∧ (cropAxis a first last).2 = res) ↔
      (a.start first last = 0 ∧ a.stop first last = res) := by
  rw [cropAxis_fst ha h]
  unfold Axis.stop
  unfold INT_MAX at hres
  rcases width_cases ha h hon.1 with ⟨hpos, hw⟩ | ⟨hneg, hw⟩
  · omega
  · omega

theorem side_aligned (ha : a.Fits) (h : Edges first last) (hon : a.OnScreen first last res)
    (hlong : a.LongEnough first last) :
    Aligned a.offsetAlign (cropAxis a first last).1 ∧
      Aligned a.sizeAlign (cropAxis a first last).2 := by
  rw [cropAxis_fst ha h]
  have hmin := minSize_le_length_iff.mpr hlong
  constructor
  · exact aligned_pixelAlignDown
  · rcases width_cases ha h hon.1 with ⟨hpos, hw⟩ | ⟨hneg, -⟩
    · rw [hw]
      exact aligned_roundUp
    · omega

theorem side_covers (ha : a.Fits) (h : Edges first last) (hon : a.OnScreen first last res)
    (hlong : a.LongEnough first last) {q : Int} (hq0 : 0 ≤ q) (hq1 : first ≤ q) (hq2 : q < last) :
    (cropAxis a first last).1 ≤ q ∧ q < (cropAxis a first last).1 + (cropAxis a first last).2 := by
  have hmin := minSize_le_length_iff.mpr hlong
  have hmem := start_le_of_mem h hq0 hq1 hq2 hon.1 ha
  rw [cropAxis_fst ha h]
  unfold Axis.stop at hmem
  rcases width_cases ha h hon.1 with ⟨hpos, hw⟩ | ⟨hneg, -⟩
  · rw [hw]
    exact hmem
  · omega

end Window

namespace Display

variable {n : Nat} {p : Platform} {d : Display n} {info : CompositionInfo} {config : WinConfig}

/-- The whole screen is right. -/
theorem cropRight_of_fullScreen
    (hsrc : (config.src.x, config.src.y, config.src.w, config.src.h) = (0, 0, d.mXres, d.mYres))
    (hdst : (config.dst.x, config.dst.y, config.dst.w, config.dst.h) = (0, 0, d.mXres, d.mYres)) :
    CropRight p d info config where
  same := hsrc.trans hdst.symm
  crop := by
    simp only [Prod.mk.injEq] at hdst
    exact Or.inl hdst

/-- A box on the screen that is long enough becomes a good crop. -/
theorem goodCrop_of_longEnough (hd : InRange p d info) {mpp : OtfMPP}
    (hbox : BoxOnScreen p d info mpp)
    (hlongX : (axisX (p.limits info mpp)).LongEnough (d.mergedRect info).left
      (d.mergedRect info).right)
    (hlongY : (axisY (p.limits info mpp)).LongEnough (d.mergedRect info).top
      (d.mergedRect info).bottom)
    {crop : DeconFrame}
    (hx : crop.x = (cropAxis (axisX (p.limits info mpp)) (d.mergedRect info).left
      (d.mergedRect info).right).1)
    (hy : crop.y = (cropAxis (axisY (p.limits info mpp)) (d.mergedRect info).top
      (d.mergedRect info).bottom).1)
    (hw : crop.w = (cropAxis (axisX (p.limits info mpp)) (d.mergedRect info).left
      (d.mergedRect info).right).2)
    (hh : crop.h = (cropAxis (axisY (p.limits info mpp)) (d.mergedRect info).top
      (d.mergedRect info).bottom).2) :
    d.GoodCrop (p.limits info mpp) (d.composedFrames info) crop := by
  obtain ⟨hedgesX, hedgesY⟩ := mergedRect_edges hd
  obtain ⟨hfitsX, hfitsY⟩ := hd.limits mpp hbox.assigned
  obtain ⟨hminW, hinX⟩ :=
    (side_good_iff hfitsX hedgesX hd.screen.1 hbox.horizontal).mpr hlongX
  obtain ⟨hminH, hinY⟩ := (side_good_iff hfitsY hedgesY hd.screen.2 hbox.vertical).mpr hlongY
  obtain ⟨halignX, halignW⟩ := side_aligned hfitsX hedgesX hbox.horizontal hlongX
  obtain ⟨halignY, halignH⟩ := side_aligned hfitsY hedgesY hbox.vertical hlongY
  have h0X := hbox.horizontal.1
  have h0Y := hbox.vertical.1
  have hcovX := fun q => side_covers (q := q) hfitsX hedgesX hbox.horizontal hlongX
  have hcovY := fun q => side_covers (q := q) hfitsY hedgesY hbox.vertical hlongY
  rw [← cropAxis_fst hfitsX hedgesX] at h0X
  rw [← cropAxis_fst hfitsY hedgesY] at h0Y
  rw [← hx] at hinX halignX h0X hcovX
  rw [← hw] at hminW hinX halignW hcovX
  rw [← hy] at hinY halignY h0Y hcovY
  rw [← hh] at hminH hinY halignH hcovY
  constructor
  · exact hminW
  · exact hminH
  · exact halignX
  · exact halignY
  · exact halignW
  · exact halignH
  · exact ⟨h0X, hinX⟩
  · exact ⟨h0Y, hinY⟩
  · intro frame hframe q hq hqf
    obtain ⟨hq0, -, hq1, -⟩ := hq
    have hmerged : q ∈ d.mergedRect info := Rect.mem_foldl_hull (Or.inr ⟨hframe, hqf⟩)
    obtain ⟨hl, hr, ht, hb⟩ := hmerged
    obtain ⟨hl', hr'⟩ := hcovX q.1 hq0 hl hr
    obtain ⟨ht', hb'⟩ := hcovY q.2 hq1 ht hb
    exact ⟨hl', hr', ht', hb'⟩

/-- **The window of a composition target.**  When the target has a buffer and a window, the
    window shows the whole screen, or a crop that keeps to the restrictions and covers the
    composed layers, if and only if a box that becomes a crop is long enough. -/
theorem overlayCrop_right (hd : InRange p d info)
    (hwin : 0 ≤ info.mWindowIndex ∧ info.mWindowIndex.toNat < n)
    (handle : Buffer) (hbuf : info.mTargetBuffer = some handle) :
    CropRight p d info
        ((d.configureOverlay p info).2.2.dpuData.configs ⟨info.mWindowIndex.toNat, hwin.2⟩) ↔
      BoxLongEnough p d info := by
  obtain ⟨hsrc, hdst⟩ := configureOverlay_window (p := p) (d := d) hwin hbuf
  by_cases hex : ∃ mpp, BoxOnScreen p d info mpp
  · obtain ⟨mpp, hbox⟩ := hex
    obtain ⟨hedgesX, hedgesY⟩ := mergedRect_edges hd
    obtain ⟨hfitsX, hfitsY⟩ := hd.limits mpp hbox.assigned
    rw [compositionCrop_of_onScreen hd hbox, Option.getD_some] at hsrc hdst
    dsimp only at hsrc hdst
    have hfullX := side_full_iff hfitsX hedgesX hd.screen.1 hbox.horizontal
    have hfullY := side_full_iff hfitsY hedgesY hd.screen.2 hbox.vertical
    have hsame := hsrc.trans hdst.symm
    simp only [Prod.mk.injEq] at hdst
    obtain ⟨hx, hy, hw, hh⟩ := hdst
    rw [← hx, ← hw] at hfullX
    rw [← hy, ← hh] at hfullY
    constructor
    · rintro ⟨-, hfull | ⟨mpp', hmpp', hgood⟩⟩ mpp'' hbox'' hnot
      · obtain rfl := Option.some.inj (hbox''.assigned.symm.trans hbox.assigned)
        obtain ⟨hx0, hy0, hwres, hhres⟩ := hfull
        exact absurd ⟨hfullX.mp ⟨hx0, hwres⟩, hfullY.mp ⟨hy0, hhres⟩⟩ hnot
      · obtain rfl := Option.some.inj (hbox''.assigned.symm.trans hbox.assigned)
        obtain rfl := Option.some.inj (hmpp'.symm.trans hbox.assigned)
        have hgoodX := side_good_iff hfitsX hedgesX hd.screen.1 hbox.horizontal
        have hgoodY := side_good_iff hfitsY hedgesY hd.screen.2 hbox.vertical
        rw [← hx, ← hw] at hgoodX
        rw [← hy, ← hh] at hgoodY
        exact ⟨hgoodX.mp ⟨hgood.minWidth, hgood.insideX.2⟩,
          hgoodY.mp ⟨hgood.minHeight, hgood.insideY.2⟩⟩
    · intro hlong
      refine ⟨hsame, ?_⟩
      by_cases hscreen : BoxIsScreen p d info mpp
      · left
        obtain ⟨hx0, hwres⟩ := hfullX.mpr hscreen.1
        obtain ⟨hy0, hhres⟩ := hfullY.mpr hscreen.2
        exact ⟨hx0, hy0, hwres, hhres⟩
      · right
        obtain ⟨hlongX, hlongY⟩ := hlong mpp hbox hscreen
        exact ⟨mpp, hbox.assigned, goodCrop_of_longEnough hd hbox hlongX hlongY hx hy hw hh⟩
  · have hoff : ∀ mpp, ¬ BoxOnScreen p d info mpp := not_exists.mp hex
    rw [compositionCrop_of_offScreen hd hoff] at hsrc hdst
    exact iff_of_true (cropRight_of_fullScreen hsrc hdst) (fun mpp h => absurd h (hoff mpp))

end Display

/-! ### A target of one layer -/

/-- A row of the size tables, for RGB with `side = 16` and `align = 1`, for YUV with 32 and 2. -/
def sizeRow (side align : UInt32) : RestrictionSize where
  maxDownScale := 1
  maxUpScale := 1
  maxFullWidth := 65534
  maxFullHeight := 8190
  minFullWidth := side
  minFullHeight := side
  fullWidthAlign := align
  fullHeightAlign := align
  maxCropWidth := 4096
  maxCropHeight := 4096
  minCropWidth := side
  minCropHeight := side
  cropXAlign := align
  cropYAlign := align
  cropWidthAlign := align
  cropHeightAlign := align

/-- Format 1 is an RGB format and format 2 a YUV format. -/
def twoFormats : Platform where
  M2M_JUSTIFIED_DST_ALIGN := 16
  isRgb f := f == 1
  bpp _ := 32
  formatToBpp _ := 32
  isFormatLossy _ := false
  setColorConversionInfo _ := NO_ERROR
  checkFenceDebug fd := fd

def screenBuffer : Buffer where
  fd := 5
  fd1 := -1
  fd2 := -1
  bufferId := 1
  secure := false
  stride := 1920
  vstride := 1080
  size := 2073600
  format := 1
  compressionType := COMP_TYPE_NONE

def clientTarget (format : Nat) : CompositionInfo where
  id := 1
  mType := .CLIENT
  mHasCompositionLayer := true
  mFirstIndex := 0
  mLastIndex := 0
  mTargetBuffer := some screenBuffer
  mAcquireFence := -1
  mSkipFlag := false
  mWindowIndex := 0
  mCompressionInfo := ⟨COMP_TYPE_NONE, 0, 0⟩
  mFormat := format
  dataSpace := 0
  mOtfMPP := some
    { id := 0
      mSrcSizeRestrictions := fun
        | .RGB => sizeRow 16 1
        | .YUV => sizeRow 32 2
      mLutParcelFd := -1 }

def resetConfig : WinConfig where
  state := .disabled
  color := 0
  fd_idma := (-1, -1, -1)
  bufferId := 0
  owner := none
  fd_lut := -1
  metaParcel := none
  acq_fence := -1
  rel_fence := -1
  planeAlpha := 1
  blending := 0
  assignedMPP := none
  format := 0
  transform := 0
  dataspace := 0
  hdrEnable := false
  compSrc := 0
  src := default
  dst := default
  protection := false
  compressionInfo := default
  vOtfEnable := false
  vOtfBufIndex := 0
  split := 0

/-- A display of 1920x1080 pixels with one layer and one window. -/
def oneLayer (displayFrame : Rect Int) : Display 1 where
  mXres := 1920
  mYres := 1080
  displayFrames := [displayFrame]
  dpuData := ⟨-1, fun _ => resetConfig, false, false, default⟩
  closedFences := []

def targetWindow (displayFrame : Rect Int) (format : Nat) : WinConfig :=
  ((oneLayer displayFrame).configureOverlay twoFormats (clientTarget format)).2.2.dpuData.configs 0

theorem overlayCrop_right_inner :
    Display.CropRight twoFormats (oneLayer ⟨100, 100, 500, 400⟩) (clientTarget 1)
        (targetWindow ⟨100, 100, 500, 400⟩ 1) ↔
      Display.BoxLongEnough twoFormats (oneLayer ⟨100, 100, 500, 400⟩) (clientTarget 1) :=
  Display.overlayCrop_right
    { screen := by decide
      frames := by
        intro frame hframe
        obtain rfl := List.mem_singleton.mp hframe
        exact ⟨by decide, by decide, by decide, by decide⟩
      limits := by
        intro mpp hmpp
        obtain rfl := Option.some.inj hmpp
        exact ⟨⟨by decide, by decide, by decide⟩, ⟨by decide, by decide, by decide⟩⟩ }
    (by decide) screenBuffer rfl

/-- A layer that sticks out on the left by 31 pixels leaves a crop of 6 columns where 32 are
    required, and a turned-around display frame one of nearly 2^32 columns. -/
theorem narrow_and_wrapped_crop :
    ((targetWindow ⟨-31, 100, 5, 400⟩ 2).dst.x, (targetWindow ⟨-31, 100, 5, 400⟩ 2).dst.w) =
        (0, 6) ∧
      ¬ Display.CropRight twoFormats (oneLayer ⟨-31, 100, 5, 400⟩) (clientTarget 2)
        (targetWindow ⟨-31, 100, 5, 400⟩ 2) ∧
      ((targetWindow ⟨100, 100, 50, 400⟩ 1).dst.x, (targetWindow ⟨100, 100, 50, 400⟩ 1).dst.w) =
        (100, 4294967246) ∧
      ¬ Display.CropRight twoFormats (oneLayer ⟨100, 100, 50, 400⟩) (clientTarget 1)
        (targetWindow ⟨100, 100, 50, 400⟩ 1) := by
  refine ⟨by decide +kernel, ?_, by decide +kernel, ?_⟩
  · rintro ⟨-, hfull | ⟨mpp, hmpp, hgood⟩⟩
    · exact absurd hfull.2.2.1 (by decide +kernel)
    · obtain rfl := Option.some.inj hmpp
      exact absurd hgood.minWidth (by decide +kernel)
  · rintro ⟨-, hfull | ⟨mpp, hmpp, hgood⟩⟩
    · exact absurd hfull.2.2.1 (by decide +kernel)
    · obtain rfl := Option.some.inj hmpp
      exact absurd hgood.insideX.2 (by decide +kernel)

end ExynosHal.OverlayCrop
