/-
  ExynosHal/SoftwareScaler.lean
  =============================
  **The scaler that runs when the hardware cannot shrink an image enough.**

  `CScalerV4L2::RunSWScaling` of `legacy_libscaler/libscaler-v4l2.cpp` and the two
  scalers of `libscaler-swscaler.cpp`.  Their loops go over the rows and columns of the
  target and carry the position in the source as a number with 16 fractional bits, in
  `unsigned int` arithmetic.  All three loops are one (`scan`), which paints the target.

  The source buffer and the target buffer are two memories, so that they do not overlap.
-/
import ExynosHal.ByteMemory
import ExynosHal.Painting
import Mathlib.Algebra.Group.Nat.Defs

namespace ExynosHal.SoftwareScaler

open Function (update)
open ExynosHal.ByteMemory ExynosHal.Painting

/-! ### The two scalers -/

/-- `unsigned int`. -/
def u32 (n : Nat) : Nat := n % 2 ^ 32

/-- A rectangle of an image and the stride of the image, in pixels. -/
structure Area where
  left : Nat
  top : Nat
  width : Nat
  height : Nat
  stride : Nat
deriving DecidableEq, Repr

/-- What is scaled, and where the planes of the two buffers begin. -/
structure CScalerSW where
  src : Area
  dst : Area
  pSrc : Nat → Nat
  pDst : Nat → Nat

/-- `LibScaler::min(pos + ratio, end << 16)`. -/
def advance (ratio stop pos : Nat) : Nat := min (u32 (pos + ratio)) (u32 (stop <<< 16))

/-- The columns or the rows that a loop goes over, with where it starts and has to stop in the
    source. -/
structure Axis where
  first : Nat
  count : Nat
  start : Nat
  stop : Nat
  ratio : Nat

/-- The loops over `y` and `x`; `put y src_y x src_x` is the body of the inner one. -/
def scan (put : Nat → Nat → Nat → Nat → Mem → Mem) (v h : Axis) (m : Mem) : Mem :=
  ((List.range' v.first v.count).foldl (fun (p : Mem × Nat) y =>
    (((List.range' h.first h.count).foldl (fun (q : Mem × Nat) x =>
        (put y p.2 x q.2 q.1, advance h.ratio h.stop q.2)) (p.1, u32 (h.start <<< 16))).1,
      advance v.ratio v.stop p.2)) (m, u32 (v.start <<< 16))).1

namespace CScalerSW

def h_ratio (c : CScalerSW) : Nat := u32 (c.src.width <<< 16) / c.dst.width

def v_ratio (c : CScalerSW) : Nat := u32 (c.src.height <<< 16) / c.dst.height

def columns (c : CScalerSW) : Axis :=
  ⟨c.dst.left, c.dst.width, c.src.left, c.src.left + c.src.width, c.h_ratio⟩

def rows (c : CScalerSW) : Axis :=
  ⟨c.dst.top, c.dst.height, c.src.top, c.src.top + c.src.height, c.v_ratio⟩

/-- Byte `k` of a pixel of a packed image. -/
def packed (stride y x k : Nat) : Nat := u32 (y * (stride * 2) + x * 2 + k)

def planar (stride y x : Nat) : Nat := u32 (y * stride + x)

end CScalerSW

/-! ### The choice of the scaler -/

inductive ColorFormat where
  | YUYV | YVYU | NV12M | NV21M | NV12 | NV21
  | other
deriving DecidableEq, Repr

/-- A frame; `addr` is where its buffers are mapped, and whether they can be. -/
structure FrameInfo where
  width : Nat
  height : Nat
  crop : Nat × Nat × Nat × Nat
  color_format : ColorFormat
  addr : Nat → Nat
  mapped : Bool

def FrameInfo.area (f : FrameInfo) : Area :=
  ⟨f.crop.1, f.crop.2.1, f.crop.2.2.1, f.crop.2.2.2, f.width⟩

/-- The second plane of a frame in one buffer. -/
def FrameInfo.plane (f : FrameInfo) (i : Nat) : Nat :=
  if (f.color_format = .NV12 ∨ f.color_format = .NV21) ∧ i = 1 then
    f.addr 0 + u32 (f.width * f.height)
  else f.addr i

def scaler (src dst : FrameInfo) : CScalerSW := ⟨src.area, dst.area, src.plane, dst.plane⟩

namespace Axis

variable {a : Axis} {i : Nat}

/-- The position at column or row `i`, with its fraction. -/
def position (a : Axis) (i : Nat) : Nat := a.start * 65536 + (i - a.first) * a.ratio

/-- The column or row of the source that `i` is taken from. -/
def place (a : Axis) (i : Nat) : Nat := a.start + (i - a.first) * a.ratio / 65536

/-- The loop runs over these. -/
def Holds (a : Axis) (i : Nat) : Prop := a.first ≤ i ∧ i < a.first + a.count

/-- The loop does not leave its part of the source. -/
structure Fits (a : Axis) : Prop where
  ordered : a.start ≤ a.stop
  small : a.stop < 65536
  ratio_le : a.count * a.ratio ≤ (a.stop - a.start) * 65536

end Axis

namespace CScalerSW

variable {c : CScalerSW}

end CScalerSW

/-! ### Images -/

/-- One byte of an image: the luminance of a pixel, or one of the two chrominances of a group of
    pixels.  `x` and `y` are the column and row in the grid of its kind. -/
inductive Sample where
  | luma (x y : Nat)
  | chroma (x y : Nat) (second : Bool)

namespace Sample

def row : Sample → Nat
  | .luma _ y => y
  | .chroma _ y _ => y

/-- The byte in the row of a packed image. -/
def inRow : Sample → Nat
  | .luma x _ => x * 2
  | .chroma x _ second => x * 4 + 1 + second.toNat * 2

end Sample

/-- The formats whose luminance and chrominance alternate in one plane. -/
def ColorFormat.packed : ColorFormat → Bool
  | .YUYV | .YVYU => true
  | _ => false

/-- The formats with a plane for each, one buffer or two. -/
def ColorFormat.planar : ColorFormat → Bool
  | .NV12M | .NV21M | .NV12 | .NV21 => true
  | _ => false

namespace FrameInfo

variable {f : FrameInfo} {p q : Sample} {x y : Nat}

/-- How many rows share their chrominance; always two columns do. -/
def shared (f : FrameInfo) : Nat := if f.color_format.packed then 1 else 2

/-- The pixel that a sample belongs to, the first one if it is shared. -/
def site (f : FrameInfo) : Sample → Nat × Nat
  | .luma x y => (x, y)
  | .chroma x y _ => (2 * x, f.shared * y)

/-- The sample of the same kind that serves pixel `(x, y)`. -/
def like (f : FrameInfo) (x y : Nat) : Sample → Sample
  | .luma _ _ => .luma x y
  | .chroma _ _ second => .chroma (x / 2) (y / f.shared) second

/-- Where it is stored. -/
def address (f : FrameInfo) (p : Sample) : Nat :=
  if f.color_format.packed then f.addr 0 + (p.row * (f.width * 2) + p.inRow)
  else
    match p with
    | .luma x y => f.addr 0 + (y * f.width + x)
    | .chroma x y second => f.plane 1 + ((y * (f.width / 2) + x) * 2 + second.toNat)

/-- The pixel is in the crop. -/
def Crops (f : FrameInfo) (x y : Nat) : Prop :=
  (f.area.left ≤ x ∧ x < f.area.left + f.area.width)
    ∧ f.area.top ≤ y ∧ y < f.area.top + f.area.height

/-- The sample is in the crop. -/
def Holds (f : FrameInfo) (p : Sample) : Prop := f.Crops (f.site p).1 (f.site p).2

/-- The crop is a part of the image, the image is stored in buffers of a size that `unsigned int`
    can say, and two buffers do not overlap. -/
structure Fits (f : FrameInfo) : Prop where
  width_lt : f.width < 65536
  height_lt : f.height < 65536
  right : f.area.left + f.area.width ≤ f.width
  bottom : f.area.top + f.area.height ≤ f.height
  nonempty : 0 < f.area.width ∧ 0 < f.area.height
  size : f.color_format.packed → f.height * (f.width * 2) ≤ 2 ^ 32
  pairs : f.color_format.packed → f.width % 2 = 0
  apart : f.color_format = .NV12M ∨ f.color_format = .NV21M →
    f.addr 0 + f.height * f.width ≤ f.addr 1 ∨ f.addr 1 + f.height * f.width / 2 ≤ f.addr 0

section

variable (hf : f.Fits)
include hf

end

end FrameInfo

/-! ### The picture in the target -/

section

variable {src dst : FrameInfo} {s : Mem} {p : Sample}

/-- The sample of the source that a sample of the target shows. -/
def origin (src dst : FrameInfo) (p : Sample) : Sample :=
  src.like ((scaler src dst).columns.place (dst.site p).1)
    ((scaler src dst).rows.place (dst.site p).2) p

end

/-- A thumbnail of 2 by 2 pixels in an image of 4 by 4. -/
def thumbnail : FrameInfo := ⟨4, 4, (2, 2, 2, 2), .NV12, fun _ => 512, true⟩

end ExynosHal.SoftwareScaler
