/-
  ExynosHal/HW2DCapability.lean
  =============================
  **What a 2D accelerator can scale.**

  `HW2DCapability` of `libacryl/include/hardware/exynos/acryl.h` with the tables
  of `libacryl/acrylic_factory.cpp`.  Sizes are compared in a fixed point format
  of 20 fraction bits, after they and the factors were cut to 16 bits; for every
  table this accepts what `Scales` says of the exact numbers, and nothing more
  (`supportedScaling_scales`).
-/
import Mathlib.Data.Int.Basic
import Mathlib.Tactic.Linarith
import Mathlib.Tactic.Ring

namespace ExynosHal

/-! ### 16-bit coordinates -/

/-- `static_cast<int16_t>(x)`. -/
def int16 (x : Int) : Int := x.bmod (2 ^ 16)

theorem int16_eq_self {x : Int} (h0 : 0 ≤ x) (h : x ≤ 32767) : int16 x = x :=
  Int.bmod_eq_of_le (by omega) (by omega)

/-- `hw2d_coord_t`. -/
structure Hw2dCoord where
  hori : Int
  vert : Int
deriving DecidableEq, Repr

/-- `hw2d_rect_t`. -/
structure Hw2dRect where
  pos : Hw2dCoord
  size : Hw2dCoord
deriving DecidableEq, Repr

def Hw2dCoord.swap (c : Hw2dCoord) : Hw2dCoord := ⟨c.vert, c.hori⟩

def area_is_zero (rect : Hw2dRect) : Bool := rect.size.hori = 0 && rect.size.vert = 0

/-- `operator>`: the rectangle reaches beyond the right or the lower border. -/
def Hw2dRect.exceeds (rect : Hw2dRect) (xy : Hw2dCoord) : Bool :=
  xy.hori < rect.pos.hori + rect.size.hori || xy.vert < rect.pos.vert + rect.size.vert

def HAL_TRANSFORM_FLIP_H : BitVec 32 := 1
def HAL_TRANSFORM_FLIP_V : BitVec 32 := 2
def HAL_TRANSFORM_ROT_90 : BitVec 32 := 4
def HAL_TRANSFORM_ROT_180 : BitVec 32 := 3
def HAL_TRANSFORM_ROT_270 : BitVec 32 := 7

/-- `!!(transform & HAL_TRANSFORM_ROT_90)`. -/
def rotates (transform : BitVec 32) : Bool := transform &&& HAL_TRANSFORM_ROT_90 != 0

/-! ### Capabilities -/

/-- `stHW2DCapability`, as far as sizes, transforms and features go. -/
structure HW2DCapability where
  max_upsampling_num : Hw2dCoord
  max_downsampling_factor : Hw2dCoord
  max_upsizing_num : Hw2dCoord
  max_downsizing_factor : Hw2dCoord
  min_src_dimension : Hw2dCoord
  max_src_dimension : Hw2dCoord
  min_dst_dimension : Hw2dCoord
  max_dst_dimension : Hw2dCoord
  min_pix_align : Hw2dCoord
  rescaling_count : Int
  transform_type : BitVec 32
  auxiliary_feature : BitVec 32
  max_layers : Nat
deriving DecidableEq, Repr

def TRANSFORM_ALL : BitVec 32 := 31

def FEATURE_PLANE_ALPHA : BitVec 32 := 1
def FEATURE_AFBC_ENCODE : BitVec 32 := 16
def FEATURE_AFBC_DECODE : BitVec 32 := 32
def FEATURE_UORDER_READ : BitVec 32 := 64
def FEATURE_UORDER_WRITE : BitVec 32 := 128
def FEATURE_OTF_WRITE : BitVec 32 := 512
def FEATURE_SOLIDCOLOR : BitVec 32 := 1024

def RESAMPLING_FRACTION_BITS : Nat := 20

/-- Both conditions; the second is not evaluated if the first one does not hold. -/
def both (a b : Option Bool) : Option Bool := a.bind fun ok => if ok then b else some false

/-- `supportedResampling(from, to, upfactor, downfactor)`; `none` is a division by zero. -/
def supportedRatio (src dst upfactor downfactor : Int) : Option Bool :=
  if dst = 0 then none
  else
    let factor := (src * 2 ^ RESAMPLING_FRACTION_BITS).tdiv dst
    if downfactor * 2 ^ RESAMPLING_FRACTION_BITS < factor then some false
    else if upfactor = 0 then none
    else some (!decide (factor < (2 ^ RESAMPLING_FRACTION_BITS : Int).tdiv upfactor))

/-- `supportedResizing(from, to, upfactor, downfactor)`: a factor `0` sets no limit. -/
def supportedSize (src dst upfactor downfactor : Int) : Option Bool :=
  if src < dst ∧ upfactor = 0 then some true
  else if dst < src ∧ downfactor = 0 then some true
  else supportedRatio src dst upfactor downfactor

namespace HW2DCapability

variable (cap : HW2DCapability)

def getHWCTransformMask : BitVec 32 :=
  let bit (type mask : BitVec 32) : BitVec 32 := if cap.transform_type &&& type != 0 then mask else 0
  bit 1 HAL_TRANSFORM_FLIP_H ||| bit 2 HAL_TRANSFORM_FLIP_V ||| bit 4 HAL_TRANSFORM_ROT_90 |||
    bit 8 HAL_TRANSFORM_ROT_180 ||| bit 16 HAL_TRANSFORM_ROT_270

def isFeatureSupported (feature : BitVec 32) : Bool := cap.auxiliary_feature &&& feature != 0

def supportedRescalingCount : Int := cap.rescaling_count + 1

def supportedHResampling (src dst count : Int) : Option Bool :=
  supportedRatio src dst (int16 (cap.max_upsampling_num.hori * count))
    (int16 (cap.max_downsampling_factor.hori * count))

def supportedVResampling (src dst count : Int) : Option Bool :=
  supportedRatio src dst (int16 (cap.max_upsampling_num.vert * count))
    (int16 (cap.max_downsampling_factor.vert * count))

def supportedResampling (src dst : Hw2dCoord) (transform : BitVec 32) : Option Bool :=
  let count := int16 cap.supportedRescalingCount
  let dst := if rotates transform then dst.swap else dst
  both (cap.supportedHResampling src.hori dst.hori count)
    (cap.supportedVResampling src.vert dst.vert count)

def supportedHResizing (src dst : Int) : Option Bool :=
  supportedSize src dst cap.max_upsizing_num.hori cap.max_downsizing_factor.hori

def supportedVResizing (src dst : Int) : Option Bool :=
  supportedSize src dst cap.max_upsizing_num.vert cap.max_downsizing_factor.vert

def supportedResizing (src dst : Hw2dCoord) (transform : BitVec 32) : Option Bool :=
  let dst := if rotates transform then dst.swap else dst
  both (cap.supportedHResizing src.hori dst.hori) (cap.supportedVResizing src.vert dst.vert)

/-- The test that `setCompositArea` and `validateAllLayers` make. -/
def supportedScaling (noResampling : Bool) (src dst : Hw2dCoord) (transform : BitVec 32) :
    Option Bool :=
  if noResampling then cap.supportedResizing src dst transform
  else cap.supportedResampling src dst transform

end HW2DCapability

/-! ### The devices -/

/-- The accelerators with a G2D, which differ in few numbers. -/
def fimg2d (downsampling : Hw2dCoord) (smallest largest rescaling_count : Int)
    (feature : BitVec 32) (max_layers : Nat) : HW2DCapability where
  max_upsampling_num := ⟨32767, 32767⟩
  max_downsampling_factor := downsampling
  max_upsizing_num := ⟨32767, 32767⟩
  max_downsizing_factor := ⟨32767, 32767⟩
  min_src_dimension := ⟨smallest, smallest⟩
  max_src_dimension := ⟨largest, largest⟩
  min_dst_dimension := ⟨smallest, smallest⟩
  max_dst_dimension := ⟨largest, largest⟩
  min_pix_align := ⟨1, 1⟩
  rescaling_count := rescaling_count
  transform_type := TRANSFORM_ALL
  auxiliary_feature := feature
  max_layers := max_layers

def capability_fimg2d_8895 : HW2DCapability :=
  fimg2d ⟨2, 2⟩ 1 8192 1 (FEATURE_PLANE_ALPHA ||| FEATURE_UORDER_WRITE ||| FEATURE_AFBC_ENCODE |||
    FEATURE_AFBC_DECODE) 8

def capability_fimg2d_9610 : HW2DCapability :=
  fimg2d ⟨31767, 32767⟩ 1 8192 0 (FEATURE_PLANE_ALPHA ||| FEATURE_UORDER_WRITE |||
    FEATURE_AFBC_ENCODE ||| FEATURE_AFBC_DECODE ||| FEATURE_OTF_WRITE ||| FEATURE_SOLIDCOLOR) 8

def capability_fimg2d_9810 : HW2DCapability :=
  fimg2d ⟨31767, 32767⟩ 1 8192 0 (FEATURE_PLANE_ALPHA ||| FEATURE_UORDER_WRITE |||
    FEATURE_AFBC_ENCODE ||| FEATURE_AFBC_DECODE ||| FEATURE_OTF_WRITE) 16

def capability_fimg2d_9810_blter : HW2DCapability :=
  fimg2d ⟨31767, 32767⟩ 1 16384 0 (FEATURE_PLANE_ALPHA ||| FEATURE_UORDER_WRITE) 2

def capability_fimg2d_L16FSBWC : HW2DCapability :=
  fimg2d ⟨31767, 32767⟩ 1 8192 0 (FEATURE_PLANE_ALPHA ||| FEATURE_UORDER_WRITE |||
    FEATURE_AFBC_ENCODE ||| FEATURE_AFBC_DECODE ||| FEATURE_OTF_WRITE ||| FEATURE_SOLIDCOLOR) 16

def capability_fimg2d_L8FSBWCL : HW2DCapability :=
  fimg2d ⟨31767, 32767⟩ 1 8192 0 (FEATURE_PLANE_ALPHA ||| FEATURE_UORDER_WRITE |||
    FEATURE_AFBC_ENCODE ||| FEATURE_AFBC_DECODE ||| FEATURE_OTF_WRITE ||| FEATURE_SOLIDCOLOR) 8

def capability_fimg2d_8890 : HW2DCapability :=
  fimg2d ⟨2, 2⟩ 4 8192 1 (FEATURE_PLANE_ALPHA ||| FEATURE_AFBC_DECODE) 3

/-- The scalers. -/
def mscl (up down largest : Int) (feature : BitVec 32) (max_layers : Nat) : HW2DCapability where
  max_upsampling_num := ⟨up, up⟩
  max_downsampling_factor := ⟨down, down⟩
  max_upsizing_num := ⟨up, up⟩
  max_downsizing_factor := ⟨down, down⟩
  min_src_dimension := ⟨16, 16⟩
  max_src_dimension := ⟨largest, largest⟩
  min_dst_dimension := ⟨4, 4⟩
  max_dst_dimension := ⟨largest, largest⟩
  min_pix_align := ⟨1, 1⟩
  rescaling_count := 0
  transform_type := TRANSFORM_ALL
  auxiliary_feature := feature
  max_layers := max_layers

def capability_mscl_9810 : HW2DCapability := mscl 64 16 8192 0 1
def capability_mscl_sbwc : HW2DCapability := mscl 64 16 8192 0 1
def capability_mscl_sbwcl : HW2DCapability := mscl 64 16 8192 0 1
def capability_mscl_3830 : HW2DCapability := mscl 64 16 8192 FEATURE_PLANE_ALPHA 2
def capability_mscl_votf : HW2DCapability := mscl 64 16 16384 0 1
def capability_mscl_sbwc_v2_7 : HW2DCapability := mscl 4096 256 16384 0 1

/-- The capabilities that `Acrylic::createInstance` gives to a compositor. -/
def capabilities : List HW2DCapability :=
  [capability_fimg2d_8895, capability_fimg2d_8890, capability_fimg2d_9610, capability_fimg2d_9810,
    capability_fimg2d_L16FSBWC, capability_fimg2d_L8FSBWCL, capability_fimg2d_9810_blter,
    capability_mscl_9810, capability_mscl_sbwc, capability_mscl_sbwcl, capability_mscl_3830,
    capability_mscl_votf, capability_mscl_sbwc_v2_7]

/-! ### The ratios in exact integers -/

/-- `to` is at most `up` times `src`, and `src` at most `down` times `to`. -/
structure Ratio (up down src dst : Int) : Prop where
  up : dst ≤ src * up
  down : src ≤ dst * down

instance (up down src dst : Int) : Decidable (Ratio up down src dst) :=
  decidable_of_iff (dst ≤ src * up ∧ src ≤ dst * down)
    ⟨fun h => ⟨h.1, h.2⟩, fun h => ⟨h.up, h.down⟩⟩

namespace HW2DCapability

variable (cap : HW2DCapability)

/-- How far the compositor enlarges with and without resampling. -/
def upLimit (noResampling : Bool) : Hw2dCoord :=
  if noResampling then cap.max_upsizing_num
  else ⟨cap.max_upsampling_num.hori * cap.supportedRescalingCount,
    cap.max_upsampling_num.vert * cap.supportedRescalingCount⟩

def downLimit (noResampling : Bool) : Hw2dCoord :=
  if noResampling then cap.max_downsizing_factor
  else ⟨cap.max_downsampling_factor.hori * cap.supportedRescalingCount,
    cap.max_downsampling_factor.vert * cap.supportedRescalingCount⟩

/-- Both ratios are within the capability. -/
structure Scales (noResampling : Bool) (src dst : Hw2dCoord) (transform : BitVec 32) : Prop where
  hori : Ratio (cap.upLimit noResampling).hori (cap.downLimit noResampling).hori src.hori
    (if rotates transform then dst.swap else dst).hori
  vert : Ratio (cap.upLimit noResampling).vert (cap.downLimit noResampling).vert src.vert
    (if rotates transform then dst.swap else dst).vert

end HW2DCapability

/-! ### The test against the exact ratios -/

/-- The factors `up` and `down` of the test stand for the exact limits, for 16-bit sizes. -/
structure StandFor (up down upLimit downLimit : Int) : Prop where
  cut : down = downLimit
  nonzero : up ≠ 0 ∧ down ≠ 0
  /-- A power of two loses nothing in the fixed point format, and no 16-bit size is beyond
      a limit that is larger than all of them. -/
  enlarge : (up = upLimit ∧ 0 < upLimit ∧ upLimit ∣ 2 ^ RESAMPLING_FRACTION_BITS) ∨ 32767 ≤ upLimit

instance (up down upLimit downLimit : Int) : Decidable (StandFor up down upLimit downLimit) :=
  decidable_of_iff (down = downLimit ∧ (up ≠ 0 ∧ down ≠ 0) ∧
      ((up = upLimit ∧ 0 < upLimit ∧ upLimit ∣ 2 ^ RESAMPLING_FRACTION_BITS) ∨ 32767 ≤ upLimit))
    ⟨fun h => ⟨h.1, h.2.1, h.2.2⟩, fun h => ⟨h.cut, h.nonzero, h.enlarge⟩⟩

variable {up down upLimit downLimit src dst : Int}

theorem supportedRatio_ne_none (hdst : dst ≠ 0) (hup : up ≠ 0) :
    supportedRatio src dst up down ≠ none := by
  unfold supportedRatio
  rw [if_neg hdst]
  dsimp only
  rw [if_neg hup]
  split
  · exact Option.some_ne_none _
  · exact Option.some_ne_none _

theorem supportedSize_ne_none (hdst : dst ≠ 0) (hup : up ≠ 0) :
    supportedSize src dst up down ≠ none := by
  unfold supportedSize
  split
  · exact Option.some_ne_none _
  split
  · exact Option.some_ne_none _
  · exact supportedRatio_ne_none hdst hup

/-- **The fixed point test is exact.** -/
theorem supportedRatio_ratio (hf : StandFor up down upLimit downLimit) (hsrc : 0 < src)
    (hdst : 0 < dst) (hsize : dst ≤ 32767) (h : supportedRatio src dst up down = some true) :
    Ratio upLimit downLimit src dst := by
  unfold supportedRatio at h
  rw [if_neg hdst.ne'] at h
  dsimp only at h
  split at h
  · exact nomatch h
  next hdown =>
  rw [if_neg hf.nonzero.1, Option.some_inj, Bool.not_eq_true', decide_eq_false_iff_not,
    Int.not_lt] at h
  rw [Int.not_lt] at hdown
  have hpos : (0 : Int) ≤ src * 2 ^ RESAMPLING_FRACTION_BITS :=
    Int.mul_nonneg hsrc.le (by decide)
  rw [Int.tdiv_eq_ediv_of_nonneg hpos] at h hdown
  constructor
  · rcases hf.enlarge with ⟨rfl, hlim, k, hk⟩ | hlarge
    · rw [hk, Int.tdiv_eq_ediv_of_nonneg (by rw [← hk]; decide), Int.mul_ediv_cancel_left _ hlim.ne']
        at h
      have hk0 : 0 < k := by
        by_contra hle
        have : up * k ≤ 0 := Int.mul_nonpos_of_nonneg_of_nonpos hlim.le (Int.not_lt.mp hle)
        rw [← hk] at this
        exact absurd this (by decide)
      have hmul : k * dst ≤ src * (up * k) := Int.mul_le_of_le_ediv hdst h
      have : dst * k ≤ src * up * k := by linarith
      exact le_of_mul_le_mul_right this hk0
    · calc dst ≤ 1 * upLimit := by omega
        _ ≤ src * upLimit := Int.mul_le_mul_of_nonneg_right hsrc (by omega)
  · have hlt : src * 2 ^ RESAMPLING_FRACTION_BITS <
        (down * 2 ^ RESAMPLING_FRACTION_BITS + 1) * dst :=
      Int.lt_mul_of_ediv_lt hdst (by omega)
    rw [← hf.cut]
    have hring : (down * 2 ^ RESAMPLING_FRACTION_BITS + 1) * dst =
        dst * down * 2 ^ RESAMPLING_FRACTION_BITS + dst := by ring
    rw [hring] at hlt
    have hbits : (2 : Int) ^ RESAMPLING_FRACTION_BITS = 1048576 := by decide
    rw [hbits] at hlt
    omega

theorem supportedSize_ratio (hf : StandFor up down upLimit downLimit) (hsrc : 0 < src)
    (hdst : 0 < dst) (hsize : dst ≤ 32767) (h : supportedSize src dst up down = some true) :
    Ratio upLimit downLimit src dst := by
  unfold supportedSize at h
  rw [if_neg fun hz => hf.nonzero.1 hz.2, if_neg fun hz => hf.nonzero.2 hz.2] at h
  exact supportedRatio_ratio hf hsrc hdst hsize h

namespace HW2DCapability

/-- The limits are within what the tests can tell apart, and sizes are positive 16-bit numbers. -/
structure IsExact (cap : HW2DCapability) : Prop where
  hresampling : StandFor (int16 (cap.max_upsampling_num.hori * int16 cap.supportedRescalingCount))
    (int16 (cap.max_downsampling_factor.hori * int16 cap.supportedRescalingCount))
    (cap.upLimit false).hori (cap.downLimit false).hori
  vresampling : StandFor (int16 (cap.max_upsampling_num.vert * int16 cap.supportedRescalingCount))
    (int16 (cap.max_downsampling_factor.vert * int16 cap.supportedRescalingCount))
    (cap.upLimit false).vert (cap.downLimit false).vert
  hresizing : StandFor cap.max_upsizing_num.hori cap.max_downsizing_factor.hori
    (cap.upLimit true).hori (cap.downLimit true).hori
  vresizing : StandFor cap.max_upsizing_num.vert cap.max_downsizing_factor.vert
    (cap.upLimit true).vert (cap.downLimit true).vert
  src : 0 < cap.min_src_dimension.hori ∧ 0 < cap.min_src_dimension.vert ∧
    cap.min_src_dimension.hori ≤ 32767 ∧ cap.min_src_dimension.vert ≤ 32767 ∧
    cap.max_src_dimension.hori ≤ 32767 ∧ cap.max_src_dimension.vert ≤ 32767
  dst : 0 < cap.min_dst_dimension.hori ∧ 0 < cap.min_dst_dimension.vert ∧
    cap.max_dst_dimension.hori ≤ 32767 ∧ cap.max_dst_dimension.vert ≤ 32767

theorem isExact_of_mem {cap : HW2DCapability} (h : cap ∈ capabilities) : cap.IsExact := by
  have hall : ∀ cap ∈ capabilities,
      StandFor (int16 (cap.max_upsampling_num.hori * int16 cap.supportedRescalingCount))
        (int16 (cap.max_downsampling_factor.hori * int16 cap.supportedRescalingCount))
        (cap.upLimit false).hori (cap.downLimit false).hori ∧
      StandFor (int16 (cap.max_upsampling_num.vert * int16 cap.supportedRescalingCount))
        (int16 (cap.max_downsampling_factor.vert * int16 cap.supportedRescalingCount))
        (cap.upLimit false).vert (cap.downLimit false).vert ∧
      StandFor cap.max_upsizing_num.hori cap.max_downsizing_factor.hori
        (cap.upLimit true).hori (cap.downLimit true).hori ∧
      StandFor cap.max_upsizing_num.vert cap.max_downsizing_factor.vert
        (cap.upLimit true).vert (cap.downLimit true).vert := by decide +kernel
  have hsizes : ∀ cap ∈ capabilities,
      (0 < cap.min_src_dimension.hori ∧ 0 < cap.min_src_dimension.vert ∧
        cap.min_src_dimension.hori ≤ 32767 ∧ cap.min_src_dimension.vert ≤ 32767 ∧
        cap.max_src_dimension.hori ≤ 32767 ∧ cap.max_src_dimension.vert ≤ 32767) ∧
      (0 < cap.min_dst_dimension.hori ∧ 0 < cap.min_dst_dimension.vert ∧
        cap.max_dst_dimension.hori ≤ 32767 ∧ cap.max_dst_dimension.vert ≤ 32767) := by decide
  obtain ⟨hh, hv, hhs, hvs⟩ := hall cap h
  obtain ⟨hsrc, hdst⟩ := hsizes cap h
  exact ⟨hh, hv, hhs, hvs, hsrc, hdst⟩

variable {cap : HW2DCapability} {noResampling : Bool} {src dst : Hw2dCoord} {transform : BitVec 32}

/-- Positive 16-bit sizes. -/
structure Fits (c : Hw2dCoord) : Prop where
  hori : 0 < c.hori ∧ c.hori ≤ 32767
  vert : 0 < c.vert ∧ c.vert ≤ 32767

theorem Fits.turned (h : Fits dst) (transform : BitVec 32) : Fits (if rotates transform then dst.swap else dst) := by
  split
  · exact ⟨h.vert, h.hori⟩
  · exact h

theorem both_eq_some_true {a b : Option Bool} (h : both a b = some true) :
    a = some true ∧ b = some true := by
  cases a with
  | none => exact nomatch h
  | some ok =>
    cases ok with
    | false => exact nomatch h
    | true => exact ⟨rfl, h⟩

theorem both_ne_none {a b : Option Bool} (ha : a ≠ none) (hb : b ≠ none) : both a b ≠ none := by
  cases a with
  | none => exact absurd rfl ha
  | some ok =>
    cases ok with
    | false => exact Option.some_ne_none _
    | true => exact hb

/-- **No division by zero** for sizes that are not zero. -/
theorem supportedScaling_ne_none (noResampling : Bool) (src : Hw2dCoord) (transform : BitVec 32)
    (hcap : cap.IsExact) (hdst : dst.hori ≠ 0 ∧ dst.vert ≠ 0) :
    cap.supportedScaling noResampling src dst transform ≠ none := by
  have hturned : (if rotates transform then dst.swap else dst).hori ≠ 0 ∧
      (if rotates transform then dst.swap else dst).vert ≠ 0 := by
    split
    · exact hdst.symm
    · exact hdst
  unfold supportedScaling
  split
  · exact both_ne_none (supportedSize_ne_none hturned.1 hcap.hresizing.nonzero.1)
      (supportedSize_ne_none hturned.2 hcap.vresizing.nonzero.1)
  · exact both_ne_none (supportedRatio_ne_none hturned.1 hcap.hresampling.nonzero.1)
      (supportedRatio_ne_none hturned.2 hcap.vresampling.nonzero.1)

/-- **What is accepted is within the capability.** -/
theorem supportedScaling_scales (hcap : cap.IsExact) (hsrc : Fits src) (hdst : Fits dst)
    (h : cap.supportedScaling noResampling src dst transform = some true) :
    cap.Scales noResampling src dst transform := by
  have hturned := hdst.turned transform
  unfold supportedScaling at h
  cases noResampling with
  | true =>
    obtain ⟨hh, hv⟩ := both_eq_some_true h
    exact ⟨supportedSize_ratio hcap.hresizing hsrc.hori.1 hturned.hori.1 hturned.hori.2 hh,
      supportedSize_ratio hcap.vresizing hsrc.vert.1 hturned.vert.1 hturned.vert.2 hv⟩
  | false =>
    obtain ⟨hh, hv⟩ := both_eq_some_true h
    exact ⟨supportedRatio_ratio hcap.hresampling hsrc.hori.1 hturned.hori.1 hturned.hori.2 hh,
      supportedRatio_ratio hcap.vresampling hsrc.vert.1 hturned.vert.1 hturned.vert.2 hv⟩

end HW2DCapability

end ExynosHal
