/-
  ExynosHal/AcrylFormats.lean
  ===========================
  **Data spaces and formats of `libacryl/acrylic_formats.cpp`.**

  A data space has a colour space and a range.  The colour space alone tells the
  range for every data space but those of BT.2020 (`haldataspace_to_range_eq`).
-/
import ExynosHal.AcrylSettings

namespace ExynosHal.AcrylFormats

open ExynosHal ExynosHal.AcrylSettings

/-- `V4L2_COLORSPACE_`. -/
inductive Colorspace where
  | DEFAULT | SMPTE170M | REC709 | JPEG | SRGB | BT2020
deriving DecidableEq, Repr

def HAL_DATASPACE_STANDARD_MASK : BitVec 32 := 0x3f0000
def HAL_DATASPACE_STANDARD_BT709 : BitVec 32 := 0x10000
def HAL_DATASPACE_STANDARD_BT601_625 : BitVec 32 := 0x20000
def HAL_DATASPACE_STANDARD_BT601_525 : BitVec 32 := 0x40000
def HAL_DATASPACE_STANDARD_BT2020 : BitVec 32 := 0x60000
def HAL_DATASPACE_STANDARD_FILM : BitVec 32 := 0x90000
def HAL_DATASPACE_TRANSFER_MASK : BitVec 32 := 0x7c00000
def HAL_DATASPACE_RANGE_MASK : BitVec 32 := 0x38000000
def HAL_DATASPACE_RANGE_FULL : BitVec 32 := 0x8000000
def HAL_DATASPACE_RANGE_LIMITED : BitVec 32 := 0x10000000
def HAL_DATASPACE_LEGACY_TYPE_MASK : BitVec 32 := 0xffff
def HAL_DATASPACE_JFIF : BitVec 32 := 0x101
def HAL_DATASPACE_BT601_625 : BitVec 32 := 0x102
def HAL_DATASPACE_BT601_525 : BitVec 32 := 0x103
def HAL_DATASPACE_BT709 : BitVec 32 := 0x104
def HAL_DATASPACE_SRGB_LINEAR : BitVec 32 := 0x200
def HAL_DATASPACE_SRGB : BitVec 32 := 0x201

/-- `__haldataspace_to_v4l2`; the last entry of a row is whether the range is the full one. -/
def haldataspaces : List (BitVec 32 × Colorspace × Bool) :=
  [(HAL_DATASPACE_STANDARD_BT709 ||| HAL_DATASPACE_RANGE_FULL, .SRGB, true),
   (HAL_DATASPACE_STANDARD_BT709 ||| HAL_DATASPACE_RANGE_LIMITED, .REC709, false),
   (HAL_DATASPACE_STANDARD_BT601_625 ||| HAL_DATASPACE_RANGE_FULL, .JPEG, true),
   (HAL_DATASPACE_STANDARD_BT601_525 ||| HAL_DATASPACE_RANGE_FULL, .JPEG, true),
   (HAL_DATASPACE_STANDARD_BT601_625 ||| HAL_DATASPACE_RANGE_LIMITED, .SMPTE170M, false),
   (HAL_DATASPACE_STANDARD_BT601_525 ||| HAL_DATASPACE_RANGE_LIMITED, .SMPTE170M, false),
   (HAL_DATASPACE_STANDARD_BT2020 ||| HAL_DATASPACE_RANGE_FULL, .BT2020, true),
   (HAL_DATASPACE_STANDARD_BT2020 ||| HAL_DATASPACE_RANGE_LIMITED, .BT2020, false),
   (HAL_DATASPACE_STANDARD_FILM ||| HAL_DATASPACE_RANGE_FULL, .SRGB, true),
   (HAL_DATASPACE_STANDARD_FILM ||| HAL_DATASPACE_RANGE_LIMITED, .REC709, false),
   (HAL_DATASPACE_SRGB, .SRGB, true),
   (HAL_DATASPACE_SRGB_LINEAR, .SRGB, true),
   (HAL_DATASPACE_JFIF, .JPEG, true),
   (HAL_DATASPACE_BT601_525, .SMPTE170M, false),
   (HAL_DATASPACE_BT601_625, .SMPTE170M, false),
   (HAL_DATASPACE_BT709, .REC709, false)]

/-- The data space that is looked for. -/
def lookedFor (dataspace width height : BitVec 32) : BitVec 32 :=
  if dataspace &&& HAL_DATASPACE_LEGACY_TYPE_MASK ≠ 0 then dataspace &&& HAL_DATASPACE_LEGACY_TYPE_MASK
  else
    let dataspace := dataspace &&& ~~~HAL_DATASPACE_LEGACY_TYPE_MASK
    let dataspace :=
      if dataspace &&& HAL_DATASPACE_RANGE_MASK = 0 then dataspace ||| HAL_DATASPACE_RANGE_LIMITED
      else dataspace
    let dataspace :=
      if dataspace &&& HAL_DATASPACE_STANDARD_MASK = 0 then
        dataspace ||| (if (width * height).toNat < 1280 * 720 then HAL_DATASPACE_STANDARD_BT601_625
          else HAL_DATASPACE_STANDARD_BT709)
      else dataspace
    dataspace &&& ~~~HAL_DATASPACE_TRANSFER_MASK

/-- The row of `getIndex_haldataspace_to_v4l2`, if there is one. -/
def findHaldataspace (dataspace width height : BitVec 32) : Option (BitVec 32 × Colorspace × Bool) :=
  haldataspaces.find? fun row => row.1 = lookedFor dataspace width height

def haldataspace_to_v4l2 (dataspace width height : BitVec 32) : Colorspace :=
  match findHaldataspace dataspace width height with
  | some row => row.2.1
  | none => .DEFAULT

/-- Whether the range is `DATASPACE_RANGE_FULL`. -/
def haldataspace_to_range (dataspace width height : BitVec 32) : Bool :=
  match findHaldataspace dataspace width height with
  | some row => row.2.2
  | none => false

def Colorspace.fullSwing : Colorspace → Bool
  | SRGB | JPEG => true
  | _ => false

/-- **The colour space tells the range**, except for BT.2020. -/
theorem haldataspace_to_range_eq {dataspace width height : BitVec 32}
    (h : haldataspace_to_v4l2 dataspace width height ≠ .BT2020) :
    haldataspace_to_range dataspace width height =
      (haldataspace_to_v4l2 dataspace width height).fullSwing := by
  have hrows : ∀ row ∈ haldataspaces, row.2.1 ≠ .BT2020 → row.2.2 = row.2.1.fullSwing := by decide
  unfold haldataspace_to_v4l2 haldataspace_to_range at *
  cases hrow : findHaldataspace dataspace width height with
  | none => rfl
  | some row =>
    rw [hrow] at h
    exact hrows row (List.mem_of_find?_eq_some hrow) h

/-- The tables of formats; 0 is for a format that is not there. -/
structure FormatTables where
  halfmt_to_v4l2_deprecated : BitVec 32 → BitVec 32
  get_block_size_from_halfmt : BitVec 32 → BitVec 8
  v4l2_fmt_with_blend : BitVec 32 → BitVec 32 → BitVec 32
  halfmt_chroma_subsampling : BitVec 32 → BitVec 8

/-- The data space of an image at its size. -/
def imageColorspace (c : ImageType) : Colorspace :=
  haldataspace_to_v4l2 c.mDataSpace (BitVec.ofInt 32 c.mImageDimension.hori)
    (BitVec.ofInt 32 c.mImageDimension.vert)

def imageRange (c : ImageType) : Bool :=
  haldataspace_to_range c.mDataSpace (BitVec.ofInt 32 c.mImageDimension.hori)
    (BitVec.ofInt 32 c.mImageDimension.vert)

theorem imageRange_eq {c : ImageType} (h : imageColorspace c = .BT2020 → imageRange c = false) :
    imageRange c = (imageColorspace c).fullSwing := by
  by_cases hspace : imageColorspace c = .BT2020
  · rw [h hspace, hspace]
    rfl
  · exact haldataspace_to_range_eq hspace

/-- The image whose data space decides on the conversion, if one side is RGB and the other is not. -/
def FormatTables.cscCanvas (tables : FormatTables) (layer canvas : ImageType) : Option ImageType :=
  if tables.halfmt_chroma_subsampling layer.mPixFormat = 0x11 ∧
    tables.halfmt_chroma_subsampling canvas.mPixFormat ≠ 0x11 then some canvas
  else if tables.halfmt_chroma_subsampling layer.mPixFormat ≠ 0x11 ∧
    tables.halfmt_chroma_subsampling canvas.mPixFormat = 0x11 then some layer
  else none

/-- The matrix of a colour space; there are three. -/
def Colorspace.matrix : Colorspace → Colorspace
  | SRGB | REC709 => REC709
  | JPEG | SMPTE170M => SMPTE170M
  | c => c

end ExynosHal.AcrylFormats
