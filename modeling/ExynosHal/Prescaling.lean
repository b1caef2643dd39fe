/-
  ExynosHal/Prescaling.lean
  =========================
  **Scaling a layer in two stages on the G2D.**

  `AcrylicCompositorM2M1SHOT2_G2D::prescaleSource` and `prepareSource` of
  `libacryl/acrylic_g2d.cpp`, with the table of formats of `libacryl/acrylic_formats.cpp`.
  A layer that the hardware cannot scale at once goes through a transit image.  On an axis
  that is reduced too much the transit image has about half of the pixels, rounded up to
  the chroma subsampling of its format; on any other axis it has those of the target.

  With the two capabilities that the compositor is made with, each stage is one that the
  hardware can do and the layer's transform is applied once.  The chroma subsampling is met
  exactly when the target does on the axes that are not reduced (`prescale_meets_iff`).
-/
import ExynosHal.HW2DCapability

namespace ExynosHal.Prescaling

open ExynosHal

/-! ### Formats -/

/-- The formats that the two capabilities list. -/
inductive HalFormat where
  | RGBA_8888 | BGRA_8888 | RGBX_8888 | RGB_888 | RGB_565
  | YCrCb_420_SP | EXYNOS_YCrCb_420_SP_M | EXYNOS_YCrCb_420_SP_M_FULL
  | EXYNOS_YCbCr_420_SP | EXYNOS_YCbCr_420_SPN | EXYNOS_YCbCr_420_SP_M
  | EXYNOS_YCbCr_420_SP_M_PRIV | EXYNOS_YCbCr_420_SPN_S10B | EXYNOS_YCbCr_420_SP_M_S10B
  | YCbCr_422_I | EXYNOS_YCrCb_422_I | YCbCr_422_SP
deriving DecidableEq, Repr

/-- `halfmt_chroma_subsampling`: the horizontal factor in the upper four bits, the vertical
one in the lower four. -/
def halfmt_chroma_subsampling : HalFormat → Nat
  | .RGBA_8888 | .BGRA_8888 | .RGBX_8888 | .RGB_888 | .RGB_565 => 0x11
  | .YCbCr_422_I | .EXYNOS_YCrCb_422_I | .YCbCr_422_SP => 0x21
  | _ => 0x22

def find_format_equivalent : HalFormat → HalFormat
  | .EXYNOS_YCrCb_420_SP_M | .EXYNOS_YCrCb_420_SP_M_FULL => .YCrCb_420_SP
  | .EXYNOS_YCbCr_420_SPN | .EXYNOS_YCbCr_420_SP_M | .EXYNOS_YCbCr_420_SP_M_PRIV =>
    .EXYNOS_YCbCr_420_SP
  | .EXYNOS_YCbCr_420_SP_M_S10B => .EXYNOS_YCbCr_420_SPN_S10B
  | fmt => fmt

/-- `(factor >> 4) & 0xF` and `factor & 0xF`. -/
def HalFormat.factors (fmt : HalFormat) : Hw2dCoord :=
  ⟨(halfmt_chroma_subsampling fmt / 16 % 16 : Nat), (halfmt_chroma_subsampling fmt % 16 : Nat)⟩

/-! ### The layer -/

/-- A layer as `prepareSource` finds it, with the canvas of its compositor.  `allocated` and
`executed` tell whether what the prescaler allocates and executes succeeds. -/
structure Request where
  image : Hw2dCoord
  target_rect : Hw2dRect
  transform : BitVec 32
  format : HalFormat
  noResampling : Bool
  canvas : Hw2dCoord
  canvasFormat : HalFormat
  allocated : Bool
  executed : Bool

/-- The size of the target: without a target rectangle it is the canvas. -/
def Request.target (r : Request) : Hw2dCoord :=
  if area_is_zero r.target_rect then r.canvas else r.target_rect.size

/-- The size of the target as the layer lies. -/
def Request.turnedTarget (r : Request) : Hw2dCoord :=
  if rotates r.transform then r.target.swap else r.target

/-- The format with the smaller subsampling. -/
def Request.transitFormat (r : Request) : HalFormat :=
  if halfmt_chroma_subsampling r.canvasFormat < halfmt_chroma_subsampling r.format then
    r.canvasFormat
  else r.format

def supportedHWResampling (cap : HW2DCapability) (src dst : Hw2dCoord) (transform : BitVec 32) :
    Option Bool :=
  let dst := if rotates transform then dst.swap else dst
  both (cap.supportedHResampling src.hori dst.hori 1) (cap.supportedVResampling src.vert dst.vert 1)

/-- `setCanvasDimension`. -/
def takesCanvas (cap : HW2DCapability) (size : Hw2dCoord) : Bool :=
  decide (cap.min_dst_dimension.hori ≤ size.hori) &&
    decide (cap.min_dst_dimension.vert ≤ size.vert) &&
    decide (size.hori ≤ cap.max_dst_dimension.hori) &&
    decide (size.vert ≤ cap.max_dst_dimension.vert) &&
    decide (size.hori % cap.min_pix_align.hori = 0) &&
    decide (size.vert % cap.min_pix_align.vert = 0)

/-! ### The transit image -/

/-- `div_align`, for a power of two; `cut` is the conversion to the type of the result. -/
def div_align (cut : Int → Int) (opr div align : Int) : Int :=
  let opr := cut ((opr + div - 1).tdiv div)
  cut ((opr + align - 1) / align * align)

/-- One axis of the transit image, and whether the first stage enlarges it. -/
def transitAxis (cut : Int → Int) (size up down align target : Int) : Bool × Int :=
  if size * up < target then (true, cut (size * up))
  else if target * down < size then (false, div_align cut size down align)
  else (false, target)

/-- Whether the first stage enlarges, and the size of the transit image. -/
def transitSize (cut : Int → Int) (cap : HW2DCapability) (r : Request) : Bool × Hw2dCoord :=
  let hori := transitAxis cut r.image.hori cap.max_upsampling_num.hori
    cap.max_downsampling_factor.hori r.transitFormat.factors.hori r.turnedTarget.hori
  let vert := transitAxis cut r.image.vert cap.max_upsampling_num.vert
    cap.max_downsampling_factor.vert r.transitFormat.factors.vert r.turnedTarget.vert
  let upscaling := hori.1 || vert.1
  let size : Hw2dCoord := ⟨hori.2, vert.2⟩
  (upscaling, if upscaling && rotates r.transform then size.swap else size)

/-- The transit image and the transform of the layer that is scaled into it. -/
structure Transit where
  size : Hw2dCoord
  format : HalFormat
  transform : BitVec 32
deriving DecidableEq, Repr

/-- `prescaleSource`; the transform of the transit layer, `before` and after, stays with the
layer from one frame to the next. -/
def prescaleSource (cap : HW2DCapability) (r : Request) (before : BitVec 32) :
    Option Transit × BitVec 32 :=
  let s := transitSize int16 cap r
  if !r.allocated || !takesCanvas cap s.2 then (none, before)
  else
    let transform := if s.1 then r.transform else before
    (if r.executed then some ⟨s.2, find_format_equivalent r.transitFormat, transform⟩ else none,
      transform)

/-- What the compositor is given for the layer: the transit image, if there is one, and the
transform that is left to do. -/
structure Prepared where
  transit : Option Transit
  trf : BitVec 32
deriving DecidableEq, Repr

/-- `prepareSource`. -/
def prepareSource (cap : HW2DCapability) (r : Request) (before : BitVec 32) :
    Option Prepared × BitVec 32 :=
  if !r.noResampling && supportedHWResampling cap r.image r.target r.transform == some false then
    let p := prescaleSource cap r before
    match p.1 with
    | none => (none, p.2)
    | some transit =>
      (some ⟨some transit, if transit.transform ≠ 0 then 0 else r.transform⟩, p.2)
  else (some ⟨none, r.transform⟩, before)

/-- The transform of the transit layer after earlier frames; a new one has none. -/
def transformAfter (cap : HW2DCapability) (earlier : List Request) : BitVec 32 :=
  earlier.foldl (fun before r => (prepareSource cap r before).2) 0

/-! ### What the two stages have to do -/

/-- A transform on points around the centre of the image: the flips, then the rotation. -/
def turn (transform : BitVec 32) (p : Int × Int) : Int × Int :=
  let p := if transform &&& HAL_TRANSFORM_FLIP_H != 0 then (-p.1, p.2) else p
  let p := if transform &&& HAL_TRANSFORM_FLIP_V != 0 then (p.1, -p.2) else p
  if rotates transform then (-p.2, p.1) else p

/-- **Two stages that do what the layer asks for.** -/
structure Staged (cap : HW2DCapability) (r : Request) (transit : Transit) (trf : BitVec 32) :
    Prop where
  first : supportedHWResampling cap r.image transit.size transit.transform = some true
  second : supportedHWResampling cap transit.size r.target trf = some true
  composed : ∀ p, turn trf (turn transit.transform p) = turn r.transform p
  positive : 0 < transit.size.hori ∧ 0 < transit.size.vert
  chroma : transit.format.factors.hori ∣ transit.size.hori ∧
    transit.format.factors.vert ∣ transit.size.vert
  unwrapped : transit.size = (transitSize id cap r).2

/-- The sizes are those that `setImageDimension` and `setCompositArea` let pass. -/
structure InRange (cap : HW2DCapability) (r : Request) : Prop where
  imageHori : cap.min_src_dimension.hori ≤ r.image.hori ∧
    r.image.hori ≤ cap.max_src_dimension.hori
  imageVert : cap.min_src_dimension.vert ≤ r.image.vert ∧
    r.image.vert ≤ cap.max_src_dimension.vert
  targetHori : cap.min_dst_dimension.hori ≤ r.target.hori ∧
    r.target.hori ≤ cap.max_dst_dimension.hori
  targetVert : cap.min_dst_dimension.vert ≤ r.target.vert ∧
    r.target.vert ≤ cap.max_dst_dimension.vert

/-- Both ratios are within the limits taken twice. -/
structure TwoStage (cap : HW2DCapability) (r : Request) : Prop where
  hori : Ratio (cap.max_upsampling_num.hori * cap.max_upsampling_num.hori)
    (cap.max_downsampling_factor.hori * cap.max_downsampling_factor.hori)
    r.image.hori r.turnedTarget.hori
  vert : Ratio (cap.max_upsampling_num.vert * cap.max_upsampling_num.vert)
    (cap.max_downsampling_factor.vert * cap.max_downsampling_factor.vert)
    r.image.vert r.turnedTarget.vert

/-- The layer is prescaled: it may be resampled, not at once but in two stages, and the
prescaler's allocations and execution succeed. -/
structure IsPrescaled (cap : HW2DCapability) (r : Request) : Prop where
  resampling : r.noResampling = false
  range : InRange cap r
  direct : supportedHWResampling cap r.image r.target r.transform = some false
  twoStage : TwoStage cap r
  resources : r.allocated = true ∧ r.executed = true

/-- **The condition**: an axis is reduced, or its target meets the subsampling. -/
def Aligned (cap : HW2DCapability) (r : Request) : Prop :=
  (r.turnedTarget.hori * cap.max_downsampling_factor.hori < r.image.hori ∨
    r.transitFormat.factors.hori ∣ r.turnedTarget.hori) ∧
  (r.turnedTarget.vert * cap.max_downsampling_factor.vert < r.image.vert ∨
    r.transitFormat.factors.vert ∣ r.turnedTarget.vert)

/-- The capabilities of the compositor in `Acrylic::createInstance`. -/
def g2dCapabilities : List HW2DCapability := [capability_fimg2d_8890, capability_fimg2d_8895]

/-! ### The two capabilities -/

/-- What the two capabilities have in common. -/
structure IsG2d (cap : HW2DCapability) : Prop where
  up : cap.max_upsampling_num = ⟨32767, 32767⟩
  down : cap.max_downsampling_factor = ⟨2, 2⟩
  smallest : 0 < cap.min_dst_dimension.hori ∧ 0 < cap.min_dst_dimension.vert
  square : cap.min_dst_dimension.hori = cap.min_dst_dimension.vert
  source : 0 < cap.min_src_dimension.hori ∧ 0 < cap.min_src_dimension.vert
  largest : cap.max_src_dimension = ⟨8192, 8192⟩ ∧ cap.max_dst_dimension = ⟨8192, 8192⟩
  pixels : cap.min_pix_align = ⟨1, 1⟩

theorem isG2d_of_mem {cap : HW2DCapability} (h : cap ∈ g2dCapabilities) : IsG2d cap := by
  rcases List.mem_cons.mp h with rfl | h
  · exact ⟨rfl, rfl, by decide, rfl, by decide, by decide, rfl⟩
  · obtain rfl := List.mem_singleton.mp h
    exact ⟨rfl, rfl, by decide, rfl, by decide, by decide, rfl⟩

/-- **The ratio test on the G2D** is exact on positive 16-bit sizes. -/
theorem supportedRatio_g2d (src dst : Int) (hsrc : 0 < src) (hdst : 0 < dst)
    (hsize : dst ≤ 32767) :
    supportedRatio src dst (int16 (32767 * 1)) (int16 (2 * 1)) = some (decide (src ≤ 2 * dst)) := by
  have hup : int16 (32767 * 1) = 32767 := by decide
  have hdown : int16 (2 * 1) = 2 := by decide
  have hbits : (2 : Int) ^ RESAMPLING_FRACTION_BITS = 1048576 := by decide
  have hpos : (0 : Int) ≤ src * 1048576 := by omega
  have hratio : 2 * 1048576 < src * 1048576 / dst ↔ ¬ src ≤ 2 * dst := by
    rw [← Int.add_one_le_iff, Int.le_ediv_iff_mul_le hdst]
    omega
  have hlimit : ¬ src * 1048576 / dst < (1048576 : Int).tdiv 32767 := by
    have hlow : (1048576 : Int).tdiv 32767 = 32 := by decide
    rw [hlow, Int.not_lt, Int.le_ediv_iff_mul_le hdst]
    omega
  unfold supportedRatio
  rw [if_neg (Int.ne_of_gt hdst), hup, hdown, hbits, Int.tdiv_eq_ediv_of_nonneg hpos]
  by_cases h : src ≤ 2 * dst
  · rw [if_neg (fun hlt => hratio.mp hlt h), if_neg (by decide)]
    rw [decide_eq_false hlimit, decide_eq_true h]
    rfl
  · rw [if_pos (hratio.mpr h)]
    simp [h]

/-- Sizes that are positive and have 16 bits. -/
def Sized (size : Hw2dCoord) : Prop :=
  (0 < size.hori ∧ size.hori ≤ 32767) ∧ (0 < size.vert ∧ size.vert ≤ 32767)

theorem Sized.turned {size : Hw2dCoord} (h : Sized size) (transform : BitVec 32) :
    Sized (if rotates transform then size.swap else size) := by
  split
  · exact ⟨h.2, h.1⟩
  · exact h

theorem supportedHWResampling_g2d {cap : HW2DCapability} (hcap : IsG2d cap) {src dst : Hw2dCoord}
    (hsrc : Sized src) (hdst : Sized dst) (transform : BitVec 32) :
    supportedHWResampling cap src dst transform =
      some (decide (src.hori ≤ 2 * (if rotates transform then dst.swap else dst).hori) &&
        decide (src.vert ≤ 2 * (if rotates transform then dst.swap else dst).vert)) := by
  have hturned := hdst.turned transform
  unfold supportedHWResampling HW2DCapability.supportedHResampling
    HW2DCapability.supportedVResampling
  simp only [hcap.up, hcap.down]
  generalize (if rotates transform then dst.swap else dst) = turned at hturned
  rw [supportedRatio_g2d _ _ hsrc.1.1 hturned.1.1 hturned.1.2,
    supportedRatio_g2d _ _ hsrc.2.1 hturned.2.1 hturned.2.2]
  cases decide (src.hori ≤ 2 * turned.hori) <;> rfl

/-! ### One axis -/

/-- The subsampling factors are 1 and 2, and the equivalent format has the same. -/
theorem factors_eq (fmt : HalFormat) :
    (fmt.factors.hori = 1 ∨ fmt.factors.hori = 2) ∧
      (fmt.factors.vert = 1 ∨ fmt.factors.vert = 2) ∧
      (find_format_equivalent fmt).factors = fmt.factors := by
  cases fmt <;> decide

/-- What the transit image has on an axis, in exact numbers. -/
def axisSize (size align target : Int) : Int :=
  if target * 2 < size then ((size + 1) / 2 + align - 1) / align * align else target

/-- **One axis of the transit image**: never enlarged, never wrapped, and within both
ratios. -/
theorem transitAxis_spec (size align target : Int) (halign : align = 1 ∨ align = 2)
    (hsize : 0 < size ∧ size ≤ 8192) (htarget : 0 < target ∧ target ≤ 8192) :
    transitAxis int16 size 32767 2 align target = (false, axisSize size align target) ∧
      transitAxis id size 32767 2 align target = (false, axisSize size align target) := by
  have hup : ¬ size * 32767 < target := by omega
  have hhalf : (size + 2 - 1).tdiv 2 = (size + 1) / 2 := by
    rw [Int.tdiv_eq_ediv_of_nonneg (by omega)]
    omega
  have hcut : int16 ((size + 1) / 2) = (size + 1) / 2 := int16_eq_self (by omega) (by omega)
  have hround : 0 ≤ ((size + 1) / 2 + align - 1) / align * align ∧
      ((size + 1) / 2 + align - 1) / align * align ≤ 32767 := by
    rcases halign with rfl | rfl <;> omega
  unfold transitAxis axisSize div_align
  rw [if_neg hup, if_neg hup, hhalf]
  by_cases hreduced : target * 2 < size
  · rw [if_pos hreduced, if_pos hreduced, if_pos hreduced]
    simp only [hcut, int16_eq_self hround.1 hround.2, id]
    exact ⟨trivial, trivial⟩
  · rw [if_neg hreduced, if_neg hreduced, if_neg hreduced]
    exact ⟨rfl, rfl⟩

theorem axisSize_bounds (size align target : Int) (halign : align = 1 ∨ align = 2)
    (hsize : size ≤ 8192) (htarget : 0 < target ∧ target ≤ 8192)
    (htwice : size ≤ target * (2 * 2)) :
    target ≤ axisSize size align target ∧ axisSize size align target ≤ 8192 ∧
      size ≤ 2 * axisSize size align target ∧ axisSize size align target ≤ 2 * target := by
  unfold axisSize
  rcases halign with rfl | rfl
  · split <;> omega
  · split <;> omega

/-- The axis meets the subsampling when it is reduced, else when its target does. -/
theorem dvd_axisSize_iff (size align target : Int) :
    align ∣ axisSize size align target ↔ target * 2 < size ∨ align ∣ target := by
  unfold axisSize
  split
  · next h => simp [h]
  · next h => simp [h]

/-! ### Prescaling -/

section Prescale

variable {cap : HW2DCapability} {r : Request}

theorem InRange.image_sized (hcap : IsG2d cap) (h : InRange cap r) :
    (0 < r.image.hori ∧ r.image.hori ≤ 8192) ∧ (0 < r.image.vert ∧ r.image.vert ≤ 8192) := by
  obtain ⟨hhori, hvert⟩ := hcap.source
  have hmax := hcap.largest.1
  have hh := h.imageHori
  have hv := h.imageVert
  rw [hmax] at hh hv
  exact ⟨⟨Int.lt_of_lt_of_le hhori hh.1, hh.2⟩, ⟨Int.lt_of_lt_of_le hvert hv.1, hv.2⟩⟩

/-- The target as the layer lies: its sizes are positive, and at least the smallest one when
the capability has one for both axes. -/
theorem InRange.turned_sized (hcap : IsG2d cap) (h : InRange cap r) :
    (0 < r.turnedTarget.hori ∧ r.turnedTarget.hori ≤ 8192) ∧
      (0 < r.turnedTarget.vert ∧ r.turnedTarget.vert ≤ 8192) := by
  obtain ⟨hhori, hvert⟩ := hcap.smallest
  have hh := h.targetHori
  have hv := h.targetVert
  rw [hcap.largest.2] at hh hv
  unfold Request.turnedTarget
  split
  · exact ⟨⟨Int.lt_of_lt_of_le hvert hv.1, hv.2⟩, ⟨Int.lt_of_lt_of_le hhori hh.1, hh.2⟩⟩
  · exact ⟨⟨Int.lt_of_lt_of_le hhori hh.1, hh.2⟩, ⟨Int.lt_of_lt_of_le hvert hv.1, hv.2⟩⟩

/-- The transit image lies as the layer does, and the first stage enlarges nothing. -/
theorem transitSize_g2d (hcap : IsG2d cap) (h : InRange cap r) :
    transitSize int16 cap r = (false,
        ⟨axisSize r.image.hori r.transitFormat.factors.hori r.turnedTarget.hori,
          axisSize r.image.vert r.transitFormat.factors.vert r.turnedTarget.vert⟩) ∧
      transitSize id cap r = transitSize int16 cap r := by
  obtain ⟨hfh, hfv, -⟩ := factors_eq r.transitFormat
  obtain ⟨hih, hiv⟩ := h.image_sized hcap
  obtain ⟨hth, htv⟩ := h.turned_sized hcap
  obtain ⟨hhori, hhori'⟩ := transitAxis_spec _ _ _ hfh hih hth
  obtain ⟨hvert, hvert'⟩ := transitAxis_spec _ _ _ hfv hiv htv
  unfold transitSize
  simp only [hcap.up, hcap.down, hhori, hvert, hhori', hvert']
  exact ⟨rfl, trivial⟩

/-- A frame leaves the transit layer without a transform. -/
theorem prepareSource_transform (hcap : IsG2d cap) (h : InRange cap r) (before : BitVec 32) :
    (prepareSource cap r before).2 = before := by
  have hsize := (transitSize_g2d hcap h).1
  unfold prepareSource
  split
  · have hprescale : (prescaleSource cap r before).2 = before := by
      unfold prescaleSource
      simp only [hsize, Bool.false_eq_true, if_false]
      split <;> rfl
    simp only
    split <;> exact hprescale
  · rfl

theorem transformAfter_eq (hcap : IsG2d cap) (earlier : List Request)
    (h : ∀ r ∈ earlier, InRange cap r) : transformAfter cap earlier = 0 := by
  have hkeep : ∀ before, earlier.foldl (fun before r => (prepareSource cap r before).2) before =
      before := by
    induction earlier with
    | nil => exact fun _ => rfl
    | cons r rest ih =>
        intro before
        rw [List.foldl_cons, prepareSource_transform hcap (h r List.mem_cons_self)]
        apply ih
        intro other hother
        exact h other (List.mem_cons_of_mem _ hother)
  exact hkeep 0

@[simp] theorem turn_zero (p : Int × Int) : turn 0 p = p := by
  have hh : (0 : BitVec 32) &&& HAL_TRANSFORM_FLIP_H = 0 := by decide
  have hv : (0 : BitVec 32) &&& HAL_TRANSFORM_FLIP_V = 0 := by decide
  have hr : rotates 0 = false := by decide
  unfold turn
  simp only [hh, hv, hr]
  rfl

/-- The transit image of a layer that is prescaled. -/
def Request.chosen (r : Request) : Transit where
  size := ⟨axisSize r.image.hori r.transitFormat.factors.hori r.turnedTarget.hori,
    axisSize r.image.vert r.transitFormat.factors.vert r.turnedTarget.vert⟩
  format := find_format_equivalent r.transitFormat
  transform := 0

/-- Where the transit image of a prescaled layer lies between the image and the target. -/
theorem chosen_bounds (hcap : IsG2d cap) (h : IsPrescaled cap r) :
    (r.turnedTarget.hori ≤ r.chosen.size.hori ∧ r.chosen.size.hori ≤ 8192 ∧
        r.image.hori ≤ 2 * r.chosen.size.hori ∧
        r.chosen.size.hori ≤ 2 * r.turnedTarget.hori) ∧
      (r.turnedTarget.vert ≤ r.chosen.size.vert ∧ r.chosen.size.vert ≤ 8192 ∧
        r.image.vert ≤ 2 * r.chosen.size.vert ∧
        r.chosen.size.vert ≤ 2 * r.turnedTarget.vert) := by
  obtain ⟨hfh, hfv, -⟩ := factors_eq r.transitFormat
  obtain ⟨hih, hiv⟩ := h.range.image_sized hcap
  obtain ⟨hth, htv⟩ := h.range.turned_sized hcap
  have hhori := h.twoStage.hori.down
  have hvert := h.twoStage.vert.down
  simp only [hcap.down] at hhori hvert
  exact ⟨axisSize_bounds _ _ _ hfh hih.2 hth hhori, axisSize_bounds _ _ _ hfv hiv.2 htv hvert⟩

/-- The prescaler's canvas takes the size of the transit image. -/
theorem chosen_taken (hcap : IsG2d cap) (h : IsPrescaled cap r) :
    takesCanvas cap r.chosen.size = true := by
  obtain ⟨⟨hh, hh', -⟩, ⟨hv, hv', -⟩⟩ := chosen_bounds hcap h
  have hth := h.range.targetHori
  have htv := h.range.targetVert
  have hmin : cap.min_dst_dimension.hori ≤ r.turnedTarget.hori ∧
      cap.min_dst_dimension.vert ≤ r.turnedTarget.vert := by
    unfold Request.turnedTarget
    split
    · exact ⟨hcap.square ▸ htv.1, hcap.square ▸ hth.1⟩
    · exact ⟨hth.1, htv.1⟩
  unfold takesCanvas
  simp only [hcap.largest.2, hcap.pixels, Int.emod_one, decide_true, Bool.and_true]
  simp only [Bool.and_eq_true, decide_eq_true_eq]
  exact ⟨⟨⟨Int.le_trans hmin.1 hh, Int.le_trans hmin.2 hv⟩, hh'⟩, hv'⟩

/-- **The transit image**, and the whole transform left to the second stage. -/
theorem prepareSource_prescaled (hcap : IsG2d cap) (h : IsPrescaled cap r) :
    prepareSource cap r 0 = (some ⟨some r.chosen, r.transform⟩, 0) := by
  have hsize : transitSize int16 cap r = (false, r.chosen.size) :=
    (transitSize_g2d hcap h.range).1
  have htaken := chosen_taken hcap h
  obtain ⟨hallocated, hexecuted⟩ := h.resources
  have hprescale : prescaleSource cap r 0 = (some r.chosen, 0) := by
    unfold prescaleSource
    simp only [hsize, htaken, hallocated, hexecuted, Bool.not_true, Bool.or_self,
      Bool.false_eq_true, if_false, if_true]
    rfl
  have hzero : r.chosen.transform = 0 := rfl
  unfold prepareSource
  rw [hprescale, h.resampling, h.direct]
  simp [hzero]

theorem chosen_sized (hcap : IsG2d cap) (h : IsPrescaled cap r) : Sized r.chosen.size := by
  obtain ⟨hth, htv⟩ := h.range.turned_sized hcap
  obtain ⟨⟨hh, hh', -⟩, ⟨hv, hv', -⟩⟩ := chosen_bounds hcap h
  exact ⟨⟨Int.lt_of_lt_of_le hth.1 hh, by omega⟩, ⟨Int.lt_of_lt_of_le htv.1 hv, by omega⟩⟩

theorem chosen_first (hcap : IsG2d cap) (h : IsPrescaled cap r) :
    supportedHWResampling cap r.image r.chosen.size r.chosen.transform = some true := by
  obtain ⟨hih, hiv⟩ := h.range.image_sized hcap
  have himage : Sized r.image := ⟨⟨hih.1, by omega⟩, ⟨hiv.1, by omega⟩⟩
  have hzero : rotates r.chosen.transform = false := by
    show rotates 0 = false
    decide
  obtain ⟨⟨-, -, hh, -⟩, ⟨-, -, hv, -⟩⟩ := chosen_bounds hcap h
  rw [supportedHWResampling_g2d hcap himage (chosen_sized hcap h), hzero]
  simp [hh, hv]

theorem chosen_second (hcap : IsG2d cap) (h : IsPrescaled cap r) :
    supportedHWResampling cap r.chosen.size r.target r.transform = some true := by
  have hth := h.range.targetHori
  have htv := h.range.targetVert
  rw [hcap.largest.2] at hth htv
  have htarget : Sized r.target :=
    ⟨⟨Int.lt_of_lt_of_le hcap.smallest.1 hth.1, Int.le_trans hth.2 (by decide)⟩,
      ⟨Int.lt_of_lt_of_le hcap.smallest.2 htv.1, Int.le_trans htv.2 (by decide)⟩⟩
  obtain ⟨⟨-, -, -, hh⟩, ⟨-, -, -, hv⟩⟩ := chosen_bounds hcap h
  rw [supportedHWResampling_g2d hcap (chosen_sized hcap h) htarget]
  unfold Request.turnedTarget at hh hv
  simp [hh, hv]

/-- The stages of a prescaled layer are right but for the subsampling. -/
theorem chosen_staged_iff (hcap : IsG2d cap) (h : IsPrescaled cap r) :
    Staged cap r r.chosen r.transform ↔ Aligned cap r := by
  obtain ⟨-, -, hequivalent⟩ := factors_eq r.transitFormat
  have hhori := dvd_axisSize_iff r.image.hori r.transitFormat.factors.hori r.turnedTarget.hori
  have hvert := dvd_axisSize_iff r.image.vert r.transitFormat.factors.vert r.turnedTarget.vert
  have hchroma : (r.chosen.format.factors.hori ∣ r.chosen.size.hori ∧
      r.chosen.format.factors.vert ∣ r.chosen.size.vert) ↔ Aligned cap r := by
    unfold Aligned Request.chosen
    simp only [hcap.down, hequivalent]
    exact and_congr hhori hvert
  constructor
  · intro hstaged
    exact hchroma.mp hstaged.chroma
  · intro haligned
    have hsized := chosen_sized hcap h
    obtain ⟨hsize, hid⟩ := transitSize_g2d hcap h.range
    refine ⟨chosen_first hcap h, chosen_second hcap h, ?_, ⟨hsized.1.1, hsized.2.1⟩,
      hchroma.mpr haligned, ?_⟩
    · intro p
      have hzero : r.chosen.transform = 0 := rfl
      rw [hzero, turn_zero]
    · rw [hid, hsize]
      rfl

end Prescale

/-- **Exactly when a prescaled layer gets two stages that do what it asks for**, after any
earlier frames. -/
theorem prescale_meets_iff {cap : HW2DCapability} (hcap : cap ∈ g2dCapabilities)
    (earlier : List Request) (hearlier : ∀ e ∈ earlier, InRange cap e) (r : Request)
    (h : IsPrescaled cap r) :
    (∃ transit trf, (prepareSource cap r (transformAfter cap earlier)).1 =
        some ⟨some transit, trf⟩ ∧ Staged cap r transit trf) ↔ Aligned cap r := by
  have hg2d := isG2d_of_mem hcap
  rw [transformAfter_eq hg2d earlier hearlier, prepareSource_prescaled hg2d h,
    ← chosen_staged_iff hg2d h]
  constructor
  · rintro ⟨transit, trf, heq, hstaged⟩
    obtain ⟨rfl, rfl⟩ : r.chosen = transit ∧ r.transform = trf := by simpa using heq
    exact hstaged
  · intro hstaged
    exact ⟨r.chosen, r.transform, rfl, hstaged⟩

/-! ### The axis that is kept -/

/-- A picture of 1920 by 1080 in NV12, for a target of the given size in the same format. -/
def nv12Layer (target : Hw2dCoord) : Request where
  image := ⟨1920, 1080⟩
  target_rect := ⟨⟨0, 0⟩, target⟩
  transform := 0
  format := .EXYNOS_YCbCr_420_SP_M
  noResampling := false
  canvas := ⟨1024, 1024⟩
  canvasFormat := .EXYNOS_YCbCr_420_SP_M
  allocated := true
  executed := true

theorem nv12Layer_prescaled :
    IsPrescaled capability_fimg2d_8895 (nv12Layer ⟨641, 541⟩) ∧
      IsPrescaled capability_fimg2d_8895 (nv12Layer ⟨641, 542⟩) := by
  refine ⟨⟨rfl, ⟨?_, ?_, ?_, ?_⟩, rfl, ⟨?_, ?_⟩, rfl, rfl⟩,
    ⟨rfl, ⟨?_, ?_, ?_, ?_⟩, rfl, ⟨?_, ?_⟩, rfl, rfl⟩⟩ <;> decide

/-- The width is reduced, the height is not, and the transit image in NV12 has an odd one. -/
theorem kept_axis_odd :
    (prepareSource capability_fimg2d_8895 (nv12Layer ⟨641, 541⟩) 0).1 =
        some ⟨some ⟨⟨960, 541⟩, .EXYNOS_YCbCr_420_SP, 0⟩, 0⟩ ∧
      ¬ (2 : Int) ∣ 541 ∧ ¬ ∃ transit trf,
        (prepareSource capability_fimg2d_8895 (nv12Layer ⟨641, 541⟩)
          (transformAfter capability_fimg2d_8895 [])).1 = some ⟨some transit, trf⟩ ∧
        Staged capability_fimg2d_8895 (nv12Layer ⟨641, 541⟩) transit trf := by
  have hprepared : (prepareSource capability_fimg2d_8895 (nv12Layer ⟨641, 541⟩) 0).1 =
      some ⟨some ⟨⟨960, 541⟩, .EXYNOS_YCbCr_420_SP, 0⟩, 0⟩ := by decide
  refine ⟨hprepared, by decide, ?_⟩
  rintro ⟨transit, trf, heq, hstaged⟩
  have hsome := hprepared.symm.trans heq
  obtain ⟨rfl, rfl⟩ : (⟨⟨960, 541⟩, .EXYNOS_YCbCr_420_SP, 0⟩ : Transit) = transit ∧ 0 = trf := by
    simpa using hsome
  exact absurd hstaged.chroma.2 (by decide)

/-- A target with an even height. -/
theorem prescale_meets_iff_even :
    (∃ transit trf, (prepareSource capability_fimg2d_8895 (nv12Layer ⟨641, 542⟩)
        (transformAfter capability_fimg2d_8895 [nv12Layer ⟨641, 541⟩])).1 =
          some ⟨some transit, trf⟩ ∧
        Staged capability_fimg2d_8895 (nv12Layer ⟨641, 542⟩) transit trf) ↔
      Aligned capability_fimg2d_8895 (nv12Layer ⟨641, 542⟩) :=
  prescale_meets_iff (by decide) [nv12Layer ⟨641, 541⟩] (by
    intro e he
    obtain rfl := List.mem_singleton.mp he
    exact nv12Layer_prescaled.1.range) (nv12Layer ⟨641, 542⟩) nv12Layer_prescaled.2

end ExynosHal.Prescaling
