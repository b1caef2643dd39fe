/-
  ExynosHal/ScalerFormats.lean
  ============================
  **Formats of the scaler library and the lengths of their planes.**

  The format tables and `CScalerAcryl::SetFormat` of `libscaler/libscaler.cpp`.
  What `SetFormat` computes does not depend on the format that was set before
  (`SetFormat_lengths`), if it computes anything.
-/
import ExynosHal.AcrylGeometry
import Mathlib.Logic.Function.Basic

namespace ExynosHal.ScalerFormats

open ExynosHal ExynosHal.AcrylGeometry

/-! ### The tables -/

/-- The values of `V4L2_PIX_FMT_` that the tables name. -/
inductive PixFmt where
  | RGB32 | RGB24 | RGB565 | BGR32 | ABGR2101010 | YVU420M | YUV420M | YVU420 | YUV420 | YUV420N
  | NV16 | NV12 | NV12N | NV12M | NV12N_10B | YUYV | UYVY | NV61 | NV21M | NV21 | NV12MT_16X16
  | NV12NT | YVYU | VYUY | NV12M_P010 | NV12_P010 | YUV422P | NV12M_SBWC_8B | NV12N_SBWC_8B
  | NV12M_SBWC_10B | NV12N_SBWC_10B | NV21M_SBWC_8B | NV21M_SBWC_10B | NV12M_SBWCL_8B_L50
  | NV12M_SBWCL_8B_L75 | NV12M_SBWCL_10B_L40 | NV12M_SBWCL_10B_L60 | NV12M_SBWCL_10B_L80
  | NV12M_SBWCL_32_8B | NV12M_SBWCL_64_8B | NV12N_SBWCL_32_8B | NV12N_SBWCL_64_8B
  | NV12M_SBWCL_32_10B | NV12M_SBWCL_64_10B | NV12N_SBWCL_32_10B | NV12N_SBWCL_64_10B
  | NV12N_SBWC_256_8B | NV12N_SBWC_256_10B | RGB555X | RGB444 | NV24 | NV42 | other (code : Nat)
deriving DecidableEq, Repr

/-- The values of `HAL_PIXEL_FORMAT_`. -/
inductive HalFormat where
  | RGBA_8888 | RGB_888 | RGB_565 | BGRA_8888 | RGBA_1010102 | EXYNOS_YV12_M
  | EXYNOS_YCbCr_420_P_M | YV12 | EXYNOS_YCbCr_420_P | EXYNOS_YCbCr_420_PN | YCbCr_422_SP
  | EXYNOS_YCbCr_420_SP | EXYNOS_YCbCr_420_SPN | EXYNOS_YCbCr_420_SP_M
  | EXYNOS_YCbCr_420_SPN_S10B | YCbCr_422_I | EXYNOS_CbYCrY_422_I | EXYNOS_YCrCb_422_SP
  | EXYNOS_YCrCb_420_SP_M | YCrCb_420_SP | EXYNOS_YCbCr_420_SP_M_TILED
  | EXYNOS_YCbCr_420_SPN_TILED | EXYNOS_YCrCb_422_I | EXYNOS_CrYCbY_422_I | EXYNOS_YCbCr_P010_M
  | YCBCR_P010 | EXYNOS_YCbCr_422_P | EXYNOS_YCbCr_420_SP_M_SBWC | EXYNOS_YCbCr_420_SPN_SBWC
  | EXYNOS_YCbCr_420_SP_M_10B_SBWC | EXYNOS_YCbCr_420_SPN_10B_SBWC | EXYNOS_YCrCb_420_SP_M_SBWC
  | EXYNOS_YCrCb_420_SP_M_10B_SBWC | EXYNOS_YCbCr_420_SP_M_SBWC_L50
  | EXYNOS_YCbCr_420_SP_M_SBWC_L75 | EXYNOS_YCbCr_420_SP_M_10B_SBWC_L40
  | EXYNOS_YCbCr_420_SP_M_10B_SBWC_L60 | EXYNOS_YCbCr_420_SP_M_10B_SBWC_L80
  | EXYNOS_420_SP_M_32_SBWC_L | EXYNOS_420_SP_M_64_SBWC_L | EXYNOS_420_SPN_32_SBWC_L
  | EXYNOS_420_SPN_64_SBWC_L | EXYNOS_420_SP_M_10B_32_SBWC_L | EXYNOS_420_SP_M_10B_64_SBWC_L
  | EXYNOS_420_SPN_10B_32_SBWC_L | EXYNOS_420_SPN_10B_64_SBWC_L | EXYNOS_YCbCr_420_SPN_256_SBWC
  | EXYNOS_YCbCr_420_SPN_10B_256_SBWC
deriving DecidableEq, Repr

/-- `none` stands for the format 0. -/
def v4l2_pixfmt_to_hal : PixFmt → Option HalFormat
  | .RGB32 => some .RGBA_8888
  | .RGB24 => some .RGB_888
  | .RGB565 => some .RGB_565
  | .BGR32 => some .BGRA_8888
  | .ABGR2101010 => some .RGBA_1010102
  | .YVU420M => some .EXYNOS_YV12_M
  | .YUV420M => some .EXYNOS_YCbCr_420_P_M
  | .YVU420 => some .YV12
  | .YUV420 => some .EXYNOS_YCbCr_420_P
  | .YUV420N => some .EXYNOS_YCbCr_420_PN
  | .NV16 => some .YCbCr_422_SP
  | .NV12 => some .EXYNOS_YCbCr_420_SP
  | .NV12N => some .EXYNOS_YCbCr_420_SPN
  | .NV12M => some .EXYNOS_YCbCr_420_SP_M
  | .NV12N_10B => some .EXYNOS_YCbCr_420_SPN_S10B
  | .YUYV => some .YCbCr_422_I
  | .UYVY => some .EXYNOS_CbYCrY_422_I
  | .NV61 => some .EXYNOS_YCrCb_422_SP
  | .NV21M => some .EXYNOS_YCrCb_420_SP_M
  | .NV21 => some .YCrCb_420_SP
  | .NV12MT_16X16 => some .EXYNOS_YCbCr_420_SP_M_TILED
  | .NV12NT => some .EXYNOS_YCbCr_420_SPN_TILED
  | .YVYU => some .EXYNOS_YCrCb_422_I
  | .VYUY => some .EXYNOS_CrYCbY_422_I
  | .NV12M_P010 => some .EXYNOS_YCbCr_P010_M
  | .NV12_P010 => some .YCBCR_P010
  | .YUV422P => some .EXYNOS_YCbCr_422_P
  | .NV12M_SBWC_8B => some .EXYNOS_YCbCr_420_SP_M_SBWC
  | .NV12N_SBWC_8B => some .EXYNOS_YCbCr_420_SPN_SBWC
  | .NV12M_SBWC_10B => some .EXYNOS_YCbCr_420_SP_M_10B_SBWC
  | .NV12N_SBWC_10B => some .EXYNOS_YCbCr_420_SPN_10B_SBWC
  | .NV21M_SBWC_8B => some .EXYNOS_YCrCb_420_SP_M_SBWC
  | .NV21M_SBWC_10B => some .EXYNOS_YCrCb_420_SP_M_10B_SBWC
  | .NV12M_SBWCL_8B_L50 => some .EXYNOS_YCbCr_420_SP_M_SBWC_L50
  | .NV12M_SBWCL_8B_L75 => some .EXYNOS_YCbCr_420_SP_M_SBWC_L75
  | .NV12M_SBWCL_10B_L40 => some .EXYNOS_YCbCr_420_SP_M_10B_SBWC_L40
  | .NV12M_SBWCL_10B_L60 => some .EXYNOS_YCbCr_420_SP_M_10B_SBWC_L60
  | .NV12M_SBWCL_10B_L80 => some .EXYNOS_YCbCr_420_SP_M_10B_SBWC_L80
  | .NV12M_SBWCL_32_8B => some .EXYNOS_420_SP_M_32_SBWC_L
  | .NV12M_SBWCL_64_8B => some .EXYNOS_420_SP_M_64_SBWC_L
  | .NV12N_SBWCL_32_8B => some .EXYNOS_420_SPN_32_SBWC_L
  | .NV12N_SBWCL_64_8B => some .EXYNOS_420_SPN_64_SBWC_L
  | .NV12M_SBWCL_32_10B => some .EXYNOS_420_SP_M_10B_32_SBWC_L
  | .NV12M_SBWCL_64_10B => some .EXYNOS_420_SP_M_10B_64_SBWC_L
  | .NV12N_SBWCL_32_10B => some .EXYNOS_420_SPN_10B_32_SBWC_L
  | .NV12N_SBWCL_64_10B => some .EXYNOS_420_SPN_10B_64_SBWC_L
  | .NV12N_SBWC_256_8B => some .EXYNOS_YCbCr_420_SPN_256_SBWC
  | .NV12N_SBWC_256_10B => some .EXYNOS_YCbCr_420_SPN_10B_256_SBWC
  | _ => none

structure PixFormat where
  planes : Nat
  /-- Bits per pixel.  In a SBWC format: 0, or 27 for version 2.7; 8 or 10 bits; the block size
      of the lossy formats, or the alignment in version 2.7. -/
  bit_pp : List Nat
deriving DecidableEq, Repr

/-- The row of a format. -/
def g_pixfmt_table : PixFmt → Option PixFormat
  | .RGB32 => some ⟨1, [32, 0, 0]⟩
  | .BGR32 => some ⟨1, [32, 0, 0]⟩
  | .RGB565 => some ⟨1, [16, 0, 0]⟩
  | .RGB555X => some ⟨1, [16, 0, 0]⟩
  | .RGB444 => some ⟨1, [16, 0, 0]⟩
  | .ABGR2101010 => some ⟨1, [32, 0, 0]⟩
  | .YUYV => some ⟨1, [16, 0, 0]⟩
  | .YVYU => some ⟨1, [16, 0, 0]⟩
  | .UYVY => some ⟨1, [16, 0, 0]⟩
  | .NV16 => some ⟨1, [16, 0, 0]⟩
  | .NV61 => some ⟨1, [16, 0, 0]⟩
  | .YUV420 => some ⟨1, [12, 0, 0]⟩
  | .YVU420 => some ⟨1, [12, 0, 0]⟩
  | .NV12M => some ⟨2, [8, 4, 0]⟩
  | .NV21M => some ⟨2, [8, 4, 0]⟩
  | .NV12MT_16X16 => some ⟨2, [8, 4, 0]⟩
  | .NV12 => some ⟨1, [12, 0, 0]⟩
  | .NV21 => some ⟨1, [12, 0, 0]⟩
  | .YUV420M => some ⟨3, [8, 2, 2]⟩
  | .YVU420M => some ⟨3, [8, 2, 2]⟩
  | .NV12M_P010 => some ⟨2, [16, 8, 0]⟩
  | .NV12_P010 => some ⟨1, [24, 0, 0]⟩
  | .NV24 => some ⟨1, [24, 0, 0]⟩
  | .NV42 => some ⟨1, [24, 0, 0]⟩
  | .YUV422P => some ⟨1, [16, 0, 0]⟩
  | .NV12M_SBWC_8B => some ⟨2, [0, 8, 0]⟩
  | .NV21M_SBWC_8B => some ⟨2, [0, 8, 0]⟩
  | .NV12N_SBWC_8B => some ⟨1, [0, 8, 0]⟩
  | .NV12M_SBWC_10B => some ⟨2, [0, 10, 0]⟩
  | .NV21M_SBWC_10B => some ⟨2, [0, 10, 0]⟩
  | .NV12N_SBWC_10B => some ⟨1, [0, 10, 0]⟩
  | .NV12M_SBWCL_8B_L50 => some ⟨2, [0, 8, 64]⟩
  | .NV12M_SBWCL_8B_L75 => some ⟨2, [0, 8, 96]⟩
  | .NV12M_SBWCL_10B_L40 => some ⟨2, [0, 10, 64]⟩
  | .NV12M_SBWCL_10B_L60 => some ⟨2, [0, 10, 96]⟩
  | .NV12M_SBWCL_10B_L80 => some ⟨2, [0, 10, 128]⟩
  | .NV12M_SBWCL_32_8B => some ⟨2, [27, 8, 32]⟩
  | .NV12M_SBWCL_64_8B => some ⟨2, [27, 8, 64]⟩
  | .NV12N_SBWCL_32_8B => some ⟨1, [27, 8, 32]⟩
  | .NV12N_SBWCL_64_8B => some ⟨1, [27, 8, 64]⟩
  | .NV12M_SBWCL_32_10B => some ⟨2, [27, 10, 32]⟩
  | .NV12M_SBWCL_64_10B => some ⟨2, [27, 10, 64]⟩
  | .NV12N_SBWCL_32_10B => some ⟨1, [27, 10, 32]⟩
  | .NV12N_SBWCL_64_10B => some ⟨1, [27, 10, 64]⟩
  | .NV12N_SBWC_256_8B => some ⟨1, [27, 8, 256]⟩
  | .NV12N_SBWC_256_10B => some ⟨1, [27, 10, 256]⟩
  | _ => none

/-- `V4L2_COLORSPACE_`. -/
inductive Colorspace where
  | SRGB | REC709 | JPEG | SMPTE170M | BT2020 | other (code : Nat)
deriving DecidableEq, Repr

/-- The standard and the range of a `HAL_DATASPACE_`. -/
inductive Dataspace where
  | unknown | BT709_FULL | BT709_LIMITED | BT601_625_FULL | BT601_625_LIMITED | BT2020_LIMITED
deriving DecidableEq, Repr

/-- The first row of `v4l2_to_hal_dataspace_table` with the colour space. -/
def v4l2_dataspace_to_hal : Colorspace → Option Dataspace
  | .SRGB => some .BT709_FULL
  | .REC709 => some .BT709_LIMITED
  | .JPEG => some .BT601_625_FULL
  | .SMPTE170M => some .BT601_625_LIMITED
  | .BT2020 => some .BT2020_LIMITED
  | .other _ => none

/-! ### SBWC sizes

The macros of the source, in 32 bits as there. -/

def ALIGN_UP (x a : BitVec 32) : BitVec 32 := (x + (a - 1)) &&& ~~~(a - 1)

def SBWC_STRIDE (w b a : BitVec 32) : BitVec 32 := ALIGN_UP (b * ((w + 31) / 32)) a
def SBWC_HEADER_STRIDE (w : BitVec 32) : BitVec 32 := ((w + 63) / 64 + 15) / 16 * 16
def SBWC_Y_SIZE (s h : BitVec 32) : BitVec 32 := s * ((ALIGN_UP h 16 + 3) / 4) + 64
def SBWC_CBCR_SIZE (s h : BitVec 32) : BitVec 32 := s * ((ALIGN_UP h 16 / 2 + 3) / 4) + 64
def SBWC_Y_HEADER_SIZE (w h : BitVec 32) : BitVec 32 :=
  ALIGN_UP (SBWC_HEADER_STRIDE w * ((ALIGN_UP h 16 + 3) / 4) + 256) 32
def SBWC_CBCR_HEADER_SIZE (w h : BitVec 32) : BitVec 32 :=
  SBWC_HEADER_STRIDE w * ((ALIGN_UP h 16 / 2 + 3) / 4) + 128

def SBWC_10B_Y_SIZE (w h : BitVec 32) : BitVec 32 := SBWC_Y_SIZE (SBWC_STRIDE w 160 1) h
def SBWC_10B_Y_HEADER_SIZE (w h : BitVec 32) : BitVec 32 :=
  ALIGN_UP (ALIGN_UP w 32 * ALIGN_UP h 16 * 2 + 256 - SBWC_10B_Y_SIZE w h) 32
def SBWC_10B_CBCR_SIZE (w h : BitVec 32) : BitVec 32 := SBWC_CBCR_SIZE (SBWC_STRIDE w 160 1) h
def SBWC_10B_CBCR_HEADER_SIZE (w h : BitVec 32) : BitVec 32 :=
  ALIGN_UP w 32 * ALIGN_UP h 16 + 256 - SBWC_10B_CBCR_SIZE w h

/-- Both sizes with the header, for a stride. -/
def SBWC_SIZES (s w h : BitVec 32) : BitVec 32 × BitVec 32 :=
  (SBWC_Y_SIZE s h + SBWC_Y_HEADER_SIZE w h, SBWC_CBCR_SIZE s h + SBWC_CBCR_HEADER_SIZE w h)

def SBWCL_STRIDE (w r : BitVec 32) : BitVec 32 := ALIGN_UP w 32 * r
def SBWCL_Y_SIZE (w h r : BitVec 32) : BitVec 32 :=
  SBWCL_STRIDE w r * ((ALIGN_UP h 16 + 3) / 4) + 64
def SBWCL_CBCR_SIZE (w h r : BitVec 32) : BitVec 32 :=
  SBWCL_STRIDE w r * ((ALIGN_UP h 16 / 2 + 3) / 4) + 64

/-- The lossy sizes of version 2.7 with the header, for a stride per 32 columns. -/
def SBWCL_SIZES (b w h : BitVec 32) : BitVec 32 × BitVec 32 :=
  let s := b * ((w + 31) / 32)
  (s * ((h + 3) / 4) + (SBWC_HEADER_STRIDE w * ((h + 3) / 4) + 64),
    s * ((h / 2 + 3) / 4) + (SBWC_HEADER_STRIDE w * ((h / 2 + 3) / 4) + 64))

/-- `info.len[0]` and `info.len[1]` of a SBWC format; `none` where nothing is assigned. -/
def sbwcLengths (pixfmt : PixFormat) (w h : BitVec 32) : Option (BitVec 32 × BitVec 32) :=
  match pixfmt.bit_pp with
  | [0, bits, 0] =>
      if bits = 8 then some (SBWC_SIZES (SBWC_STRIDE w 128 1) w h)
      else some (SBWC_10B_Y_SIZE w h + SBWC_10B_Y_HEADER_SIZE w h,
        SBWC_10B_CBCR_SIZE w h + SBWC_10B_CBCR_HEADER_SIZE w h)
  | [0, _, block] =>
      let r := BitVec.ofNat 32 (block / 32)
      some (SBWCL_Y_SIZE w h r, SBWCL_CBCR_SIZE w h r)
  | [_, bits, align] =>
      if align = 32 then some (SBWCL_SIZES 96 w h)
      else if align = 64 then some (SBWCL_SIZES 128 w h)
      else if align = 256 then
        if bits = 8 then some (SBWC_SIZES (SBWC_STRIDE w 128 256) w h)
        else some (SBWC_SIZES (SBWC_STRIDE w 256 1) w h)
      else none
  | _ => none

/-! ### `SetFormat` -/

/-- `frameInfo`. -/
structure FrameInfo where
  rect : HwcRect
  len : Nat → Nat
  num_buffers : Nat

def FrameInfo.zero : FrameInfo := ⟨⟨0, 0, 0, 0⟩, fun _ => 0, 0⟩

/-- The lengths that are passed on with a buffer. -/
def FrameInfo.lengths (info : FrameInfo) : List Nat := (List.range info.num_buffers).map info.len

def isSbwc (pixfmt : PixFormat) : Bool :=
  pixfmt.bit_pp.head? = some 0 || pixfmt.bit_pp.head? = some 27

/-- The loop over the planes from plane `i` on; it stops at a plane that is not whole bytes. -/
def setPlanes (width height : BitVec 32) : List Nat → Nat → (Nat → Nat) → (Nat → Nat) × Bool
  | [], _, len => (len, true)
  | bits :: rest, i, len =>
      if BitVec.ofNat 32 bits * width % 8 ≠ 0 then (len, false)
      else setPlanes width height rest (i + 1)
        (Function.update len i (BitVec.ofNat 32 bits * width * height / 8).toNat)

def YVU420_SIZE (width height : BitVec 32) : BitVec 32 :=
  let c_span := ALIGN_UP (width / 2) 16
  width * height + c_span * height / 2 * 2

/-- The longer planes of a source under `SCALER_ALIGN_RESTRICTION`. -/
def restrictPlanes (planes : Nat) (len : Nat → Nat) : Nat → Nat :=
  fun i => if i < planes then len i + if i = 0 then 512 else 256 else len i

/-- `SetFormat(info, width, height, v4l2_fmt, isSrc)`; `restriction` tells whether the library is
    built with `SCALER_ALIGN_RESTRICTION`. -/
def SetFormat (restriction : Bool) (info : FrameInfo) (width height : BitVec 32) (v4l2_fmt : PixFmt)
    (isSrc : Bool) : FrameInfo × Bool :=
  match g_pixfmt_table v4l2_fmt with
  | none => (info, false)
  | some pixfmt =>
      if isSbwc pixfmt then
        let len := match sbwcLengths pixfmt width height with
          | some (y, cbcr) => Function.update (Function.update info.len 0 y.toNat) 1 cbcr.toNat
          | none => info.len
        let len := if pixfmt.planes = 1
          then Function.update (Function.update len 0 (len 0 + len 1)) 1 0 else len
        ({ info with len, num_buffers := pixfmt.planes }, true)
      else
        let r := setPlanes width height (pixfmt.bit_pp.take pixfmt.planes) 0 info.len
        if !r.2 then ({ info with len := r.1 }, false)
        else
          let len := if v4l2_fmt = .YVU420
            then Function.update r.1 0 (YVU420_SIZE width height).toNat else r.1
          let len := if restriction && isSrc && width % 128 != 0
            then restrictPlanes pixfmt.planes len else len
          ({ info with len, num_buffers := pixfmt.planes }, true)

/-- The plane lengths of a format; `none` if `SetFormat` does not compute them. -/
def planeLengths (restriction : Bool) (width height : BitVec 32) (v4l2_fmt : PixFmt) (isSrc : Bool) :
    Option (List Nat) :=
  let r := SetFormat restriction .zero width height v4l2_fmt isSrc
  if r.2 then some r.1.lengths else none

/-! ### Nothing of an earlier format remains -/

theorem planes_le {fmt : PixFmt} {pixfmt : PixFormat} (h : g_pixfmt_table fmt = some pixfmt) :
    (pixfmt.bit_pp.take pixfmt.planes).length = pixfmt.planes := by
  cases fmt <;> simp only [g_pixfmt_table, Option.some.injEq, reduceCtorEq] at h <;> subst h <;> rfl

theorem sbwc_planes_le {fmt : PixFmt} {pixfmt : PixFormat} (h : g_pixfmt_table fmt = some pixfmt)
    (hsbwc : isSbwc pixfmt = true) : pixfmt.planes ≤ 2 := by
  cases fmt <;> simp only [g_pixfmt_table, Option.some.injEq, reduceCtorEq] at h <;> subst h <;>
    first | decide | exact absurd hsbwc (by decide)

theorem sbwcLengths_isSome {fmt : PixFmt} {pixfmt : PixFormat} (w height : BitVec 32)
    (h : g_pixfmt_table fmt = some pixfmt) (hsbwc : isSbwc pixfmt = true) :
    (sbwcLengths pixfmt w height).isSome := by
  cases fmt <;> simp only [g_pixfmt_table, Option.some.injEq, reduceCtorEq] at h <;> subst h <;>
    first | rfl | exact absurd hsbwc (by decide)

section Agreement

variable (width height : BitVec 32)

theorem setPlanes_agree (bits : List Nat) {i : Nat} {a b : Nat → Nat} (h : ∀ j < i, a j = b j) :
    (setPlanes width height bits i a).2 = (setPlanes width height bits i b).2 ∧
      ((setPlanes width height bits i a).2 = true → ∀ j < i + bits.length,
        (setPlanes width height bits i a).1 j = (setPlanes width height bits i b).1 j) := by
  induction bits generalizing i a b with
  | nil => exact ⟨rfl, fun _ => h⟩
  | cons bit rest ih =>
    unfold setPlanes
    split
    · exact ⟨rfl, fun hok => nomatch hok⟩
    · have hnext := ih (i := i + 1)
        (a := Function.update a i (BitVec.ofNat 32 bit * width * height / 8).toNat)
        (b := Function.update b i (BitVec.ofNat 32 bit * width * height / 8).toNat) fun j hj => by
          rcases Nat.lt_succ_iff_lt_or_eq.mp hj with hj | rfl
          · rw [Function.update_of_ne hj.ne, Function.update_of_ne hj.ne]
            exact h j hj
          · rw [Function.update_self, Function.update_self]
      refine ⟨hnext.1, fun hok j hj => hnext.2 hok j ?_⟩
      rw [List.length_cons] at hj
      omega

/-- **`SetFormat`** ends the same way, with the same lengths, whatever was set before. -/
theorem SetFormat_agree (restriction : Bool) (a b : FrameInfo) (fmt : PixFmt) (isSrc : Bool) :
    (SetFormat restriction a width height fmt isSrc).2 =
        (SetFormat restriction b width height fmt isSrc).2 ∧
      ((SetFormat restriction a width height fmt isSrc).2 = true →
        (SetFormat restriction a width height fmt isSrc).1.lengths =
          (SetFormat restriction b width height fmt isSrc).1.lengths) := by
  unfold SetFormat
  cases hrow : g_pixfmt_table fmt with
  | none => exact ⟨rfl, fun h => nomatch h⟩
  | some pixfmt =>
    dsimp only
    by_cases hsbwc : isSbwc pixfmt = true
    · rw [if_pos hsbwc, if_pos hsbwc]
      obtain ⟨⟨y, cbcr⟩, hlen⟩ := Option.isSome_iff_exists.mp (sbwcLengths_isSome width height hrow hsbwc)
      have hplanes := sbwc_planes_le hrow hsbwc
      rw [hlen]
      refine ⟨rfl, fun _ => List.map_congr_left fun i hi => ?_⟩
      have hi : i < pixfmt.planes := List.mem_range.mp hi
      obtain rfl | rfl : i = 0 ∨ i = 1 := by omega
      · dsimp only
        split <;> simp [Function.update]
      · dsimp only
        split <;> simp [Function.update]
    · rw [if_neg hsbwc, if_neg hsbwc]
      have hagree := setPlanes_agree width height
        (pixfmt.bit_pp.take pixfmt.planes) (i := 0) (a := a.len) (b := b.len)
        fun j hj => absurd hj (Nat.not_lt_zero j)
      rw [planes_le hrow, Nat.zero_add] at hagree
      generalize setPlanes width height (pixfmt.bit_pp.take pixfmt.planes) 0 a.len = ra at hagree
      generalize setPlanes width height (pixfmt.bit_pp.take pixfmt.planes) 0 b.len = rb at hagree
      obtain ⟨hok, hlen⟩ := hagree
      rw [← hok]
      cases hra : ra.2 with
      | false => exact ⟨rfl, fun h => nomatch h⟩
      | true =>
        refine ⟨rfl, fun _ => List.map_congr_left fun i hi => ?_⟩
        have hi : i < pixfmt.planes := List.mem_range.mp hi
        have hsame := hlen hra i hi
        have hyvu : ∀ n : Nat, (if fmt = .YVU420 then Function.update ra.1 0 n else ra.1) i =
            (if fmt = .YVU420 then Function.update rb.1 0 n else rb.1) i := by
          intro n
          split
          · simp only [Function.update]
            split
            · rfl
            · exact hsame
          · exact hsame
        simp only [Bool.not_true, Bool.false_eq_true, if_false]
        split
        · unfold restrictPlanes
          rw [if_pos hi, if_pos hi, hyvu]
        · exact hyvu _

end Agreement

theorem SetFormat_rect (restriction : Bool) (info : FrameInfo) (width height : BitVec 32)
    (fmt : PixFmt) (isSrc : Bool) :
    (SetFormat restriction info width height fmt isSrc).1.rect = info.rect := by
  unfold SetFormat
  cases g_pixfmt_table fmt with
  | none => rfl
  | some pixfmt =>
    dsimp only
    split
    · rfl
    split <;> rfl

/-- What `SetFormat` leaves in `info` are the plane lengths of the format. -/
theorem SetFormat_lengths (restriction : Bool) (info : FrameInfo) (width height : BitVec 32)
    (fmt : PixFmt) (isSrc : Bool) :
    planeLengths restriction width height fmt isSrc =
      if (SetFormat restriction info width height fmt isSrc).2
      then some (SetFormat restriction info width height fmt isSrc).1.lengths else none := by
  obtain ⟨hok, hlen⟩ := SetFormat_agree width height restriction .zero info fmt isSrc
  unfold planeLengths
  dsimp only
  rw [← hok]
  split
  next h => rw [hlen h]
  next => rfl

end ExynosHal.ScalerFormats
