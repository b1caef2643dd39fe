/-
  ExynosHal/PerformanceRequest.lean
  =================================
  **What the blitter's driver is told about the frames to come.**

  `requestPerformanceQoS` reports for every layer whether it is scaled and for
  every frame the bandwidths that it takes.  The test for scaling adds two
  differences of sizes, so that a layer that gets wider by as much as it gets
  lower is taken for an unscaled one.  As long as no layer is like that, the
  report has room for all layers and the totals fit into the registers, the
  report is exact (`frames_meet_iff`).
-/
import Mathlib.Data.BitVec
import Mathlib.Algebra.GroupWithZero.Nat
import Mathlib.Algebra.Group.Nat.Defs
import ExynosHal.HW2DCapability
import Mathlib.Algebra.BigOperators.Group.List.Basic
import Mathlib.Tactic.SplitIfs

namespace ExynosHal.PerformanceRequest

open ExynosHal ExynosHal.HW2DCapability

/-! ### The request -/

/-- `hw2d_coord_t`, of two signed 16-bit values. -/
structure Coord where
  hori : BitVec 16
  vert : BitVec 16
deriving DecidableEq, Repr

/-- The formats of `__halfmt_plane_bpp`. -/
inductive HalFormat where
  | RGBA_8888 | BGRA_8888 | RGBA_1010102 | RGBX_8888 | RGB_888 | RGB_565
  | YCbCr_422_I | EXYNOS_YCrCb_422_I | YCbCr_422_SP | EXYNOS_YCbCr_422_P
  | YV12 | EXYNOS_YV12_M | EXYNOS_YCbCr_420_P | EXYNOS_YCbCr_420_PN | EXYNOS_YCbCr_420_P_M
  | YCrCb_420_SP | EXYNOS_YCrCb_420_SP_M | EXYNOS_YCrCb_420_SP_M_FULL
  | EXYNOS_YCbCr_420_SP | EXYNOS_YCbCr_420_SPN | EXYNOS_YCbCr_420_SPN_TILED
  | EXYNOS_YCbCr_420_SP_M | EXYNOS_YCbCr_420_SP_M_PRIV | EXYNOS_YCbCr_420_SP_M_TILED
  | EXYNOS_YCbCr_420_SPN_S10B | EXYNOS_YCbCr_420_SP_M_S10B | YCBCR_P010 | EXYNOS_YCbCr_P010_M
  | other (code : Nat)
deriving DecidableEq, Repr

/-- The bits of a pixel in each of the first three planes. -/
def planeBpp : HalFormat → Nat × Nat × Nat
  | .RGBA_8888 | .BGRA_8888 | .RGBA_1010102 | .RGBX_8888 => (32, 0, 0)
  | .RGB_888 => (24, 0, 0)
  | .RGB_565 | .YCbCr_422_I | .EXYNOS_YCrCb_422_I | .YCbCr_422_SP | .EXYNOS_YCbCr_422_P => (16, 0, 0)
  | .EXYNOS_YV12_M | .EXYNOS_YCbCr_420_P_M => (8, 2, 2)
  | .YV12 | .EXYNOS_YCbCr_420_P | .EXYNOS_YCbCr_420_PN | .YCrCb_420_SP | .EXYNOS_YCbCr_420_SP
  | .EXYNOS_YCbCr_420_SPN | .EXYNOS_YCbCr_420_SPN_TILED => (12, 0, 0)
  | .EXYNOS_YCrCb_420_SP_M | .EXYNOS_YCrCb_420_SP_M_FULL | .EXYNOS_YCbCr_420_SP_M
  | .EXYNOS_YCbCr_420_SP_M_PRIV | .EXYNOS_YCbCr_420_SP_M_TILED => (8, 4, 0)
  | .EXYNOS_YCbCr_420_SPN_S10B => (15, 0, 0)
  | .EXYNOS_YCbCr_420_SP_M_S10B => (10, 5, 0)
  | .YCBCR_P010 => (24, 0, 0)
  | .EXYNOS_YCbCr_P010_M => (16, 8, 0)
  | .other _ => (0, 0, 0)

def halfmt_bpp (fmt : HalFormat) : Nat := (planeBpp fmt).1 + (planeBpp fmt).2.1 + (planeBpp fmt).2.2

/-- What is read of an `AcrylicPerformanceRequestLayer`. -/
structure Layer where
  mPixFormat : HalFormat
  /-- The size of `mSourceRect`. -/
  source : Coord
  /-- The size of `mTargetRect`. -/
  target : Coord
  mTransform : BitVec 32
  mAttribute : BitVec 32
deriving DecidableEq, Repr

structure RequestFrame where
  mFrameRate : BitVec 32
  mTargetPixFormat : HalFormat
  mTargetDimension : Coord
  mHasBackgroundLayer : Bool
  mLayers : List Layer
deriving DecidableEq, Repr

/-! ### The report -/

def G2D_PERF_LAYER_ROTATE : BitVec 32 := 1
def G2D_PERF_LAYER_SCALING : BitVec 32 := 2
def G2D_PERF_LAYER_YUV2P : BitVec 32 := 16
def G2D_PERF_LAYER_YUV2P_82 : BitVec 32 := 32
def G2D_PERF_LAYER_COMPRESSED : BitVec 32 := 64
def G2D_PERF_FRAME_SOLIDCOLORFILL : BitVec 32 := 1
def G2D_PERF_FRAME_YUV2P : BitVec 32 := 2
def G2D_MAX_IMAGES : Nat := 16
def G2D_PERF_MAX_FRAMES : Nat := 4
def ATTR_COMPRESSED : BitVec 32 := 2

structure PerformanceLayer where
  crop_width : BitVec 16
  crop_height : BitVec 16
  window_width : BitVec 16
  window_height : BitVec 16
  layer_attr : BitVec 32
deriving DecidableEq, Repr

structure PerformanceFrame where
  layer : List PerformanceLayer
  bandwidth_read : BitVec 32
  bandwidth_write : BitVec 32
  target_pixelcount : BitVec 32
  frame_rate : BitVec 32
  frame_attr : BitVec 32
  num_layers : BitVec 32
deriving DecidableEq, Repr

structure Performance where
  frame : List PerformanceFrame
  num_frame : BitVec 32
deriving DecidableEq, Repr

/-- `std::max` of two unsigned values. -/
def stdMax (a b : BitVec 32) : BitVec 32 := if a < b then b else a

def setIf (cond : Bool) (attr : BitVec 32) : BitVec 32 := if cond then attr else 0

section Layer

variable (layer : Layer)

/-- A signed size as the unsigned value that it is assigned to. -/
def src_hori : BitVec 32 := layer.source.hori.signExtend 32
def src_vert : BitVec 32 := layer.source.vert.signExtend 32
def dst_hori : BitVec 32 := layer.target.hori.signExtend 32
def dst_vert : BitVec 32 := layer.target.vert.signExtend 32

/-- The product is one of 32-bit values and only then assigned to a 64-bit one. -/
def pixelcount : BitVec 64 :=
  (stdMax (src_hori layer * src_vert layer) (dst_hori layer * dst_vert layer)).setWidth 64

def is_scaling : BitVec 32 :=
  if rotates layer.mTransform then
    src_hori layer - dst_vert layer + (src_vert layer - dst_hori layer)
  else src_hori layer - dst_hori layer + (src_vert layer - dst_vert layer)

def layer_bw : BitVec 64 :=
  let layer_bw := pixelcount layer * BitVec.ofNat 64 (halfmt_bpp layer.mPixFormat)
  if is_scaling layer = 0 then layer_bw <<< 4 else (layer_bw <<< 4) + (layer_bw <<< 1)

def performanceLayer : PerformanceLayer where
  crop_width := (src_hori layer).setWidth 16
  crop_height := (src_vert layer).setWidth 16
  window_width := (dst_hori layer).setWidth 16
  window_height := (dst_vert layer).setWidth 16
  layer_attr :=
    (if halfmt_bpp layer.mPixFormat = 12 then G2D_PERF_LAYER_YUV2P
      else if halfmt_bpp layer.mPixFormat = 15 then G2D_PERF_LAYER_YUV2P_82 else 0) |||
    setIf (rotates layer.mTransform) G2D_PERF_LAYER_ROTATE |||
    setIf (is_scaling layer != 0) G2D_PERF_LAYER_SCALING |||
    setIf (layer.mAttribute &&& ATTR_COMPRESSED != 0) G2D_PERF_LAYER_COMPRESSED

end Layer

/-- The variables of the loop over the layers of a frame. -/
structure Loop where
  layer : List PerformanceLayer := []
  bandwidth : BitVec 64 := 0
  src_yuv420 : Bool := false
  src_rotate : Bool := false

def Loop.step (s : Loop) (layer : Layer) : Loop where
  layer := s.layer ++ [performanceLayer layer]
  bandwidth := s.bandwidth + layer_bw layer
  src_yuv420 := s.src_yuv420 || halfmt_bpp layer.mPixFormat = 12 || halfmt_bpp layer.mPixFormat = 15
  src_rotate := s.src_rotate || rotates layer.mTransform

/-- The report on a frame; nothing if its layers overrun the array. -/
def performanceFrame (frame : RequestFrame) : Option PerformanceFrame :=
  if G2D_MAX_IMAGES < frame.mLayers.length then none
  else
    let s := frame.mLayers.foldl Loop.step {}
    let rate := frame.mFrameRate.signExtend 64
    let bpp := halfmt_bpp frame.mTargetPixFormat
    let pixels := frame.mTargetDimension.hori.signExtend 32 * frame.mTargetDimension.vert.signExtend 32
    some {
      layer := s.layer
      bandwidth_read := ((s.bandwidth * rate) >>> 17).setWidth 32
      bandwidth_write := ((pixels.signExtend 64 * (rate * BitVec.ofNat 64 bpp)) >>>
        (if bpp = 12 && s.src_yuv420 && s.src_rotate then 12 else 13)).setWidth 32
      target_pixelcount := pixels
      frame_rate := frame.mFrameRate
      frame_attr := setIf (bpp = 12) G2D_PERF_FRAME_YUV2P |||
        setIf frame.mHasBackgroundLayer G2D_PERF_FRAME_SOLIDCOLORFILL
      num_layers := BitVec.ofNat 32 frame.mLayers.length }

/-- What the driver is told; nothing if the frames or their layers overrun the arrays.  No request
    and one without frames are told alike. -/
def performanceData (request : Option (List RequestFrame)) : Option Performance :=
  let frames := request.getD []
  if G2D_PERF_MAX_FRAMES < frames.length then none
  else (frames.mapM performanceFrame).map fun data => ⟨data, BitVec.ofNat 32 frames.length⟩

/-- The report and the outcome, which is that of the driver. -/
def requestPerformanceQoS (ioctl : Performance → Bool) (request : Option (List RequestFrame)) :
    Option (Performance × Bool) :=
  (performanceData request).map fun data => (data, ioctl data)

/-! ### What the report should say -/

/-- The size of the source after rotation differs from that of the target. -/
def Scales (layer : Layer) : Prop :=
  if rotates layer.mTransform then
    layer.source.hori ≠ layer.target.vert ∨ layer.source.vert ≠ layer.target.hori
  else layer.source.hori ≠ layer.target.hori ∨ layer.source.vert ≠ layer.target.vert

instance (layer : Layer) : Decidable (Scales layer) := by unfold Scales; infer_instance

def area (c : Coord) : Int := c.hori.toInt * c.vert.toInt

/-- The bits that a layer takes, in sixteenths. -/
def exactLayer (layer : Layer) : Int :=
  max (area layer.source) (area layer.target) * halfmt_bpp layer.mPixFormat * (if Scales layer then 18 else 16)

/-- Kilobytes a second: a sixteenth is 2^4, a byte 2^3 and a kilobyte 2^10. -/
def exactRead (frame : RequestFrame) : Int :=
  (frame.mLayers.map exactLayer).sum * frame.mFrameRate.toInt / 2 ^ 17

/-- A 4:2:0 source in a rotated frame makes a 4:2:0 target twice as expensive. -/
def writeWeight (frame : RequestFrame) : Int :=
  if halfmt_bpp frame.mTargetPixFormat = 12 ∧
      (∃ layer ∈ frame.mLayers, halfmt_bpp layer.mPixFormat = 12 ∨ halfmt_bpp layer.mPixFormat = 15) ∧
      ∃ layer ∈ frame.mLayers, rotates layer.mTransform = true then 2
  else 1

def exactWrite (frame : RequestFrame) : Int :=
  area frame.mTargetDimension * halfmt_bpp frame.mTargetPixFormat * frame.mFrameRate.toInt * writeWeight frame / 2 ^ 13

/-- No size is negative; the sizes that the hardware takes are up to 16384. -/
structure Coord.IsSize (c : Coord) : Prop where
  hori : 0 ≤ c.hori.toInt
  vert : 0 ≤ c.vert.toInt

structure InLimits (frame : RequestFrame) : Prop where
  source : ∀ layer ∈ frame.mLayers, layer.source.IsSize
  target : ∀ layer ∈ frame.mLayers, layer.target.IsSize
  dimension : frame.mTargetDimension.IsSize

/-- The report on a frame says which layers are scaled, and the totals if the sizes are in the
    limits. -/
structure Meets (frame : RequestFrame) (report : PerformanceFrame) : Prop where
  length : report.layer.length = frame.mLayers.length
  scaling : ∀ (i : Nat) (layer : Layer) (entry : PerformanceLayer), frame.mLayers[i]? = some layer →
    report.layer[i]? = some entry → (entry.layer_attr &&& G2D_PERF_LAYER_SCALING ≠ 0 ↔ Scales layer)
  read : InLimits frame → report.bandwidth_read.toNat = exactRead frame
  write : InLimits frame → report.bandwidth_write.toNat = exactWrite frame

/-- The report on all frames is there and right. -/
def Reported (ioctl : Performance → Bool) (frames : List RequestFrame) : Prop :=
  ∃ data, requestPerformanceQoS ioctl (some frames) = some (data, ioctl data) ∧
    data.num_frame.toNat = frames.length ∧ List.Forall₂ Meets frames data.frame

/-- A frame whose layers have room in the report, whose scaled layers do not get wider by as much
    as they get lower, and whose totals have room in 32 bits. -/
structure Regular (frame : RequestFrame) : Prop where
  room : frame.mLayers.length ≤ G2D_MAX_IMAGES
  visible : ∀ layer ∈ frame.mLayers, Scales layer →
    layer.source.hori.toInt + layer.source.vert.toInt ≠ layer.target.hori.toInt + layer.target.vert.toInt
  read : InLimits frame → 0 ≤ exactRead frame ∧ exactRead frame < 2 ^ 32
  write : InLimits frame → 0 ≤ exactWrite frame ∧ exactWrite frame < 2 ^ 32

/-! ### A layer -/

section OneLayer

variable {layer : Layer}

theorem signExtend_toInt (x : BitVec 16) : (x.signExtend 32).toInt = x.toInt :=
  BitVec.toInt_signExtend_of_le (by decide)

/-- A sum of two differences of 16-bit values does not wrap. -/
theorem difference_eq_zero (a b c d : BitVec 16) :
    a.signExtend 32 - b.signExtend 32 + (c.signExtend 32 - d.signExtend 32) = 0 ↔
      a.toInt + c.toInt = b.toInt + d.toInt := by
  have ha := a.toInt_lt
  have ha' := a.le_toInt
  have hb := b.toInt_lt
  have hb' := b.le_toInt
  have hc := c.toInt_lt
  have hc' := c.le_toInt
  have hd := d.toInt_lt
  have hd' := d.le_toInt
  rw [← BitVec.toInt_inj, BitVec.toInt_add, BitVec.toInt_sub, BitVec.toInt_sub]
  simp only [signExtend_toInt, Int.bmod_add_bmod, Int.add_bmod_bmod]
  have hsmall : ((a.toInt - b.toInt) + (c.toInt - d.toInt)).bmod (2 ^ 32) =
      (a.toInt - b.toInt) + (c.toInt - d.toInt) := by
    apply Int.bmod_eq_of_le <;> omega
  have hzero : (0 : BitVec 32).toInt = 0 := rfl
  rw [hsmall, hzero]
  omega

/-- The test compares the halves of the perimeters. -/
theorem is_scaling_eq_zero : is_scaling layer = 0 ↔
    layer.source.hori.toInt + layer.source.vert.toInt = layer.target.hori.toInt + layer.target.vert.toInt := by
  unfold is_scaling src_hori src_vert dst_hori dst_vert
  split_ifs with hrot
  · rw [difference_eq_zero]
    omega
  · exact difference_eq_zero ..

/-- An unscaled layer is never taken for a scaled one. -/
theorem is_scaling_of_not_scales (h : ¬Scales layer) : is_scaling layer = 0 := by
  rw [is_scaling_eq_zero]
  unfold Scales at h
  split_ifs at h with hrot
  · rw [not_or, not_not, not_not] at h
    rw [h.1, h.2]
    omega
  · rw [not_or, not_not, not_not] at h
    rw [h.1, h.2]

theorem scaling_attr : (performanceLayer layer).layer_attr &&& G2D_PERF_LAYER_SCALING ≠ 0 ↔
    is_scaling layer ≠ 0 := by
  unfold performanceLayer
  simp only
  by_cases hzero : is_scaling layer = 0
  · rw [hzero]
    split_ifs <;> cases rotates layer.mTransform <;>
      cases (layer.mAttribute &&& ATTR_COMPRESSED != 0) <;> decide
  · have hbne : (is_scaling layer != 0) = true := bne_iff_ne.mpr hzero
    rw [hbne]
    simp only [ne_eq, hzero, not_false_eq_true, iff_true]
    split_ifs <;> cases rotates layer.mTransform <;>
      cases (layer.mAttribute &&& ATTR_COMPRESSED != 0) <;> decide

/-- The attribute is right exactly when a scaled layer changes the sum of its sizes. -/
theorem scaling_attr_iff :
    ((performanceLayer layer).layer_attr &&& G2D_PERF_LAYER_SCALING ≠ 0 ↔ Scales layer) ↔
      (Scales layer → layer.source.hori.toInt + layer.source.vert.toInt ≠
        layer.target.hori.toInt + layer.target.vert.toInt) := by
  rw [scaling_attr, ne_eq, ne_eq, is_scaling_eq_zero]
  constructor
  · intro h hscales
    exact h.mpr hscales
  · intro h
    refine ⟨fun hne => ?_, h⟩
    by_contra hnot
    exact hne (is_scaling_eq_zero.mp (is_scaling_of_not_scales hnot))

end OneLayer

/-! ### The bandwidths -/

section Bandwidth

variable {layer : Layer} {layers : List Layer} {frame : RequestFrame}

theorem size_toNat {x : BitVec 16} (h : 0 ≤ x.toInt) :
    ((x.signExtend 32).toNat : Int) = x.toInt ∧ (x.signExtend 32).toNat < 2 ^ 15 := by
  have hlt := x.toInt_lt
  have hext := signExtend_toInt x
  rw [BitVec.toInt_eq_toNat_cond] at hext
  have hbound := (x.signExtend 32).isLt
  split_ifs at hext <;> omega

/-- The product of two sizes fits into 32 bits. -/
theorem product_toNat {c : Coord} (h : c.IsSize) :
    ((c.hori.signExtend 32 * c.vert.signExtend 32).toNat : Int) = area c ∧ area c ≤ 2 ^ 30 := by
  obtain ⟨hhori, hhoriLt⟩ := size_toNat h.hori
  obtain ⟨hvert, hvertLt⟩ := size_toNat h.vert
  have hle : (c.hori.signExtend 32).toNat * (c.vert.signExtend 32).toNat ≤ 2 ^ 15 * 2 ^ 15 :=
    Nat.mul_le_mul (by omega) (by omega)
  have harea : area c = ((c.hori.signExtend 32).toNat * (c.vert.signExtend 32).toNat : Nat) := by
    rw [area, ← hhori, ← hvert, Int.natCast_mul]
  rw [harea, BitVec.toNat_mul, Nat.mod_eq_of_lt (by omega)]
  exact ⟨rfl, by omega⟩

theorem stdMax_toNat (a b : BitVec 32) : (stdMax a b).toNat = max a.toNat b.toNat := by
  unfold stdMax
  split_ifs with h
  · rw [Nat.max_eq_right (Nat.le_of_lt h)]
  · rw [Nat.max_eq_left (Nat.le_of_not_lt h)]

theorem pixelcount_eq (hsource : layer.source.IsSize) (htarget : layer.target.IsSize) :
    pixelcount layer = BitVec.ofInt 64 (max (area layer.source) (area layer.target)) := by
  obtain ⟨hs, hsLe⟩ := product_toNat hsource
  obtain ⟨ht, htLe⟩ := product_toNat htarget
  have hmax : (pixelcount layer).toNat = max (src_hori layer * src_vert layer).toNat
      (dst_hori layer * dst_vert layer).toNat := by
    unfold pixelcount
    rw [BitVec.toNat_setWidth, stdMax_toNat]
    have hlt := (src_hori layer * src_vert layer).isLt
    have hlt' := (dst_hori layer * dst_vert layer).isLt
    apply Nat.mod_eq_of_lt
    omega
  have hcast : ((pixelcount layer).toNat : Int) = max (area layer.source) (area layer.target) := by
    rw [hmax, ← hs, ← ht]
    unfold src_hori src_vert dst_hori dst_vert
    omega
  rw [← hcast, BitVec.ofInt_natCast, BitVec.ofNat_toNat, BitVec.setWidth_eq]

theorem shiftLeft_eq_ofInt (x : BitVec 64) (k : Nat) : x <<< k = x * BitVec.ofInt 64 (2 ^ k) := by
  rw [BitVec.shiftLeft_eq_mul_twoPow]
  congr 1
  apply BitVec.eq_of_toNat_eq
  rw [BitVec.toNat_twoPow, BitVec.toNat_ofInt]
  norm_cast

/-- The bandwidth of a layer with the right attribute is exact. -/
theorem layer_bw_eq (hsource : layer.source.IsSize) (htarget : layer.target.IsSize)
    (hvisible : is_scaling layer = 0 ↔ ¬Scales layer) :
    layer_bw layer = BitVec.ofInt 64 (exactLayer layer) := by
  unfold layer_bw exactLayer
  simp only
  rw [pixelcount_eq hsource htarget, shiftLeft_eq_ofInt, shiftLeft_eq_ofInt, ← BitVec.ofInt_natCast]
  by_cases hscales : Scales layer
  · have hne : is_scaling layer ≠ 0 := fun hzero => hvisible.mp hzero hscales
    rw [if_neg hne, if_pos hscales, ← BitVec.ofInt_mul, ← BitVec.ofInt_mul, ← BitVec.ofInt_mul,
      ← BitVec.ofInt_add]
    congr 1
    omega
  · rw [if_pos (hvisible.mpr hscales), if_neg hscales, ← BitVec.ofInt_mul, ← BitVec.ofInt_mul]
    rfl

/-- What the loop has collected after the layers. -/
theorem foldl_step (layers : List Layer) (s : Loop) : layers.foldl Loop.step s =
    { layer := s.layer ++ layers.map performanceLayer
      bandwidth := s.bandwidth + (layers.map layer_bw).sum
      src_yuv420 := s.src_yuv420 || layers.any fun layer =>
        halfmt_bpp layer.mPixFormat = 12 || halfmt_bpp layer.mPixFormat = 15
      src_rotate := s.src_rotate || layers.any fun layer => rotates layer.mTransform } := by
  induction layers generalizing s with
  | nil => simp
  | cons layer layers ih =>
    rw [List.foldl_cons, ih]
    simp only [Loop.step, List.map_cons, List.sum_cons, List.any_cons, List.append_assoc,
      List.singleton_append, Bool.or_assoc, BitVec.add_assoc]

theorem sum_layer_bw (h : ∀ layer ∈ layers, layer_bw layer = BitVec.ofInt 64 (exactLayer layer)) :
    (layers.map layer_bw).sum = BitVec.ofInt 64 (layers.map exactLayer).sum := by
  induction layers with
  | nil => rfl
  | cons layer layers ih =>
    rw [List.map_cons, List.sum_cons, List.map_cons, List.sum_cons, BitVec.ofInt_add,
      h layer (List.mem_cons_self ..), ih fun l hl => h l (List.mem_cons_of_mem _ hl)]

/-- A 64-bit total shifted into 32 bits is exact as far as it fits. -/
theorem shifted_eq_iff (x : Int) (k : Nat) (hk : k = 12 ∨ k = 13 ∨ k = 17) :
    ((((BitVec.ofInt 64 x) >>> k).setWidth 32).toNat : Int) = x / 2 ^ k ↔
      0 ≤ x / 2 ^ k ∧ x / 2 ^ k < 2 ^ 32 := by
  have hnat : (((BitVec.ofInt 64 x) >>> k).setWidth 32).toNat = (x % 2 ^ 64).toNat / 2 ^ k % 2 ^ 32 := by
    rw [BitVec.toNat_setWidth, BitVec.toNat_ushiftRight, Nat.shiftRight_eq_div_pow, BitVec.toNat_ofInt]
    rfl
  rw [hnat]
  rcases hk with rfl | rfl | rfl <;> omega

end Bandwidth

/-! ### A frame and a request -/

section Report

variable {frame : RequestFrame} {report : PerformanceFrame}

theorem is_scaling_iff {layer : Layer} (h : Scales layer →
    layer.source.hori.toInt + layer.source.vert.toInt ≠ layer.target.hori.toInt + layer.target.vert.toInt) :
    is_scaling layer = 0 ↔ ¬Scales layer := by
  constructor
  · intro hzero hscales
    exact h hscales (is_scaling_eq_zero.mp hzero)
  · exact is_scaling_of_not_scales

theorem performanceFrame_isSome : (performanceFrame frame).isSome = true ↔
    frame.mLayers.length ≤ G2D_MAX_IMAGES := by
  unfold performanceFrame
  split_ifs with h
  · simp only [Option.isSome_none, Bool.false_eq_true, false_iff]
    omega
  · simp only [Option.isSome_some, true_iff]
    omega

theorem writeWeight_eq_two : writeWeight frame = 2 ↔ (halfmt_bpp frame.mTargetPixFormat = 12 &&
    (frame.mLayers.any fun layer => halfmt_bpp layer.mPixFormat = 12 || halfmt_bpp layer.mPixFormat = 15) &&
    (frame.mLayers.any fun layer => rotates layer.mTransform)) = true := by
  simp only [writeWeight, Bool.and_eq_true, decide_eq_true_eq, List.any_eq_true, Bool.or_eq_true, and_assoc]
  constructor
  · intro h
    by_contra hnot
    rw [if_neg hnot] at h
    exact absurd h (by decide)
  · exact fun h => if_pos h

/-- The parts of a report that its correctness is about. -/
theorem performanceFrame_eq (h : performanceFrame frame = some report) :
    report.layer = frame.mLayers.map performanceLayer ∧
      report.bandwidth_read = (((frame.mLayers.map layer_bw).sum *
        BitVec.ofInt 64 frame.mFrameRate.toInt) >>> 17).setWidth 32 ∧
      report.bandwidth_write = (((frame.mTargetDimension.hori.signExtend 32 *
          frame.mTargetDimension.vert.signExtend 32).signExtend 64 *
        (BitVec.ofInt 64 frame.mFrameRate.toInt * BitVec.ofNat 64 (halfmt_bpp frame.mTargetPixFormat))) >>>
          (if writeWeight frame = 2 then 12 else 13)).setWidth 32 := by
  unfold performanceFrame at h
  split_ifs at h with hroom
  have hreport := Option.some.inj h
  rw [foldl_step] at hreport
  have hshift : (if halfmt_bpp frame.mTargetPixFormat = 12 &&
      (frame.mLayers.any fun layer => halfmt_bpp layer.mPixFormat = 12 || halfmt_bpp layer.mPixFormat = 15) &&
      (frame.mLayers.any fun layer => rotates layer.mTransform) then 12 else 13) =
        if writeWeight frame = 2 then 12 else 13 :=
    if_congr writeWeight_eq_two.symm rfl rfl
  subst hreport
  refine ⟨?_, ?_, ?_⟩
  · exact List.nil_append _
  · change (((0#64 + _) * _) >>> 17).setWidth 32 = _
    rw [BitVec.zero_add]
    rfl
  · simp only [Bool.false_or, hshift]
    rfl

theorem exactRead_iff (hlimits : InLimits frame) (h : performanceFrame frame = some report)
    (hvisible : ∀ layer ∈ frame.mLayers, Scales layer → layer.source.hori.toInt + layer.source.vert.toInt ≠
      layer.target.hori.toInt + layer.target.vert.toInt) :
    report.bandwidth_read.toNat = exactRead frame ↔ 0 ≤ exactRead frame ∧ exactRead frame < 2 ^ 32 := by
  have hsum := sum_layer_bw fun layer hlayer => layer_bw_eq (hlimits.source layer hlayer)
    (hlimits.target layer hlayer) (is_scaling_iff (hvisible layer hlayer))
  rw [(performanceFrame_eq h).2.1, hsum, ← BitVec.ofInt_mul]
  exact shifted_eq_iff _ 17 (Or.inr (Or.inr rfl))

theorem exactWrite_iff (hlimits : InLimits frame) (h : performanceFrame frame = some report) :
    report.bandwidth_write.toNat = exactWrite frame ↔ 0 ≤ exactWrite frame ∧ exactWrite frame < 2 ^ 32 := by
  obtain ⟨hpixels, hle⟩ := product_toNat hlimits.dimension
  have hpixelsInt : (frame.mTargetDimension.hori.signExtend 32 *
      frame.mTargetDimension.vert.signExtend 32).toInt = area frame.mTargetDimension := by
    rw [BitVec.toInt_eq_toNat_of_lt (by omega), hpixels]
  rw [(performanceFrame_eq h).2.2, BitVec.signExtend, hpixelsInt, ← BitVec.ofInt_natCast,
    ← BitVec.ofInt_mul, ← BitVec.ofInt_mul]
  have hproduct : area frame.mTargetDimension *
      (frame.mFrameRate.toInt * (halfmt_bpp frame.mTargetPixFormat : Int)) =
        area frame.mTargetDimension * halfmt_bpp frame.mTargetPixFormat * frame.mFrameRate.toInt := by
    rw [Int.mul_comm frame.mFrameRate.toInt, Int.mul_assoc]
  rw [hproduct]
  unfold exactWrite
  generalize area frame.mTargetDimension * (halfmt_bpp frame.mTargetPixFormat : Int) *
    frame.mFrameRate.toInt = x
  have hweight : writeWeight frame = 2 ∨ writeWeight frame = 1 := by
    unfold writeWeight
    split_ifs
    · exact Or.inl rfl
    · exact Or.inr rfl
  rcases hweight with hweight | hweight
  · rw [if_pos hweight, hweight]
    have hdouble : x * 2 / 2 ^ 13 = x / 2 ^ 12 := by omega
    rw [hdouble]
    exact shifted_eq_iff x 12 (Or.inl rfl)
  · rw [if_neg (by omega), hweight, Int.mul_one]
    exact shifted_eq_iff x 13 (Or.inr (Or.inl rfl))

/-- The report on a frame is right exactly when the frame is regular. -/
theorem frame_meets_iff (h : performanceFrame frame = some report) :
    Meets frame report ↔ Regular frame := by
  have hroom := performanceFrame_isSome.mp (Option.isSome_iff_exists.mpr ⟨report, h⟩)
  have hlayer := (performanceFrame_eq h).1
  have hentry : ∀ (i : Nat) (layer : Layer), frame.mLayers[i]? = some layer →
      report.layer[i]? = some (performanceLayer layer) := by
    intro i layer hl
    rw [hlayer, List.getElem?_map, hl]
    rfl
  constructor
  · intro hmeets
    have hvisible : ∀ layer ∈ frame.mLayers, Scales layer →
        layer.source.hori.toInt + layer.source.vert.toInt ≠
          layer.target.hori.toInt + layer.target.vert.toInt := by
      intro layer hmem
      obtain ⟨i, hl⟩ := List.mem_iff_getElem?.mp hmem
      exact scaling_attr_iff.mp (hmeets.scaling i layer _ hl (hentry i layer hl))
    constructor
    · exact hroom
    · exact hvisible
    · intro hlimits
      exact (exactRead_iff hlimits h hvisible).mp (hmeets.read hlimits)
    · intro hlimits
      exact (exactWrite_iff hlimits h).mp (hmeets.write hlimits)
  · intro hregular
    constructor
    · rw [hlayer, List.length_map]
    · intro i layer entry hl he
      cases (hentry i layer hl).symm.trans he
      exact scaling_attr_iff.mpr (hregular.visible layer (List.mem_of_getElem? hl))
    · intro hlimits
      exact (exactRead_iff hlimits h hregular.visible).mpr (hregular.read hlimits)
    · intro hlimits
      exact (exactWrite_iff hlimits h).mpr (hregular.write hlimits)

theorem mapM_meets_iff (frames : List RequestFrame) :
    (∃ data, frames.mapM performanceFrame = some data ∧ List.Forall₂ Meets frames data) ↔
      ∀ frame ∈ frames, Regular frame := by
  induction frames with
  | nil => simp
  | cons frame frames ih =>
    rw [List.forall_mem_cons, ← ih]
    constructor
    · rintro ⟨data, hdata, hall⟩
      rw [List.mapM_cons, Option.bind_eq_bind, Option.bind_eq_some_iff] at hdata
      obtain ⟨report, hreport, hdata⟩ := hdata
      rw [Option.bind_eq_bind, Option.bind_eq_some_iff] at hdata
      obtain ⟨rest, hrest, hdata⟩ := hdata
      cases hdata
      cases hall with
      | cons hone hall => exact ⟨(frame_meets_iff hreport).mp hone, rest, hrest, hall⟩
    · rintro ⟨hone, rest, hrest, hall⟩
      obtain ⟨report, hreport⟩ := Option.isSome_iff_exists.mp (performanceFrame_isSome.mpr hone.room)
      refine ⟨report :: rest, ?_, List.Forall₂.cons ((frame_meets_iff hreport).mpr hone) hall⟩
      rw [List.mapM_cons, hreport, hrest]
      rfl

end Report

/-- **The report on a request is exact exactly when there is room for its frames and all of them
    are regular.** -/
theorem frames_meet_iff (ioctl : Performance → Bool) (frames : List RequestFrame) :
    Reported ioctl frames ↔ frames.length ≤ G2D_PERF_MAX_FRAMES ∧ ∀ frame ∈ frames, Regular frame := by
  rw [← mapM_meets_iff]
  unfold Reported requestPerformanceQoS performanceData
  simp only [Option.getD_some]
  constructor
  · rintro ⟨data, hdata, -, hall⟩
    obtain ⟨data', hdata', hpair⟩ := Option.map_eq_some_iff.mp hdata
    cases hpair
    split_ifs at hdata' with hroom
    obtain ⟨reports, hreports, rfl⟩ := Option.map_eq_some_iff.mp hdata'
    exact ⟨Nat.le_of_not_lt hroom, reports, hreports, hall⟩
  · rintro ⟨hroom, reports, hreports, hall⟩
    refine ⟨⟨reports, BitVec.ofNat 32 frames.length⟩, ?_, ?_, hall⟩
    · rw [if_neg (Nat.not_lt_of_le hroom), hreports]
      rfl
    · unfold G2D_PERF_MAX_FRAMES at hroom
      rw [BitVec.toNat_ofNat]
      omega

/-- A layer of 100 by 200 shown as 200 by 100 without a rotation. -/
def turned : Layer := ⟨.RGBA_8888, ⟨100, 200⟩, ⟨200, 100⟩, 0, 0⟩

/-- It is scaled in both directions and reported as unscaled. -/
theorem turned_unreported :
    ¬Reported (fun _ => true) [⟨60, .RGBA_8888, ⟨200, 200⟩, false, [turned]⟩] := by
  rintro ⟨data, hdata, -, hall⟩
  cases hdata
  cases hall with
  | cons hmeets _ =>
    have hscaling := hmeets.scaling 0 turned _ rfl rfl
    exact absurd (hscaling.mpr (by decide)) (by decide)

end ExynosHal.PerformanceRequest
