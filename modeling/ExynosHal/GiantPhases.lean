/-
  ExynosHal/GiantPhases.lean
  ==========================
  **Where a task of the giant scaler starts to read.**

  A tile that does not lie at the edge of the image is read from a few pixels before
  its start, and the initial phase makes up for them.  `SamePosition` says that the
  address and the phase of either plane come to the start of the tile, and that the
  region read stays in the image.  Luma and the packed format are always right.  For
  the chroma plane of a 4:2:0 image the vertical displacement is halved twice, once by
  `fill` and once by the bits per pixel of the plane, so that the address of a lower
  tile that is interpolated is half a row off (`fill_position_iff`).  The horizontal
  phase of that plane is not halved, since the comment in `fill` counts it in columns
  of luma; its unit is left open here.
-/
import ExynosHal.GiantTiles

namespace ExynosHal.GiantMscl

open ExynosHal ExynosHal.HalTransform ExynosHal.Tiling

/-! ### What `fill` computes -/

namespace Task

variable (t : Task) (c : TransformCoord)

def needsHorizontal : Prop :=
  t.scaleFactor t.mSource.width t.mTarget.width t.mTarget.height ≠ SCALE_FACTOR_1TO1

def needsVertical : Prop :=
  t.scaleFactor t.mSource.height t.mTarget.height t.mTarget.width ≠ SCALE_FACTOR_1TO1

instance : Decidable t.needsHorizontal := inferInstanceAs (Decidable (_ ≠ _))
instance : Decidable t.needsVertical := inferInstanceAs (Decidable (_ ≠ _))

/-- The start of a tile. -/
def startX : Nat := (t.srcOffset c).1.toNat
def startY : Nat := (t.srcOffset c).2.toNat

/-- How far before its start it is read. -/
def shiftX : Nat := if t.needsHorizontal ∧ (t.srcOffset c).1 > 0 then N_HTAPS / 2 else 0
def shiftY : Nat := if t.needsVertical ∧ (t.srcOffset c).2 > 0 then N_VTAPS / 2 else 0

def marginX : Nat :=
  if t.needsHorizontal ∧ t.mSrcWidth < t.mSource.width then
    N_HTAPS / 2 + (if (t.srcOffset c).1 = 0 then N_HTAPS / 2 else 0)
  else 0

def marginY : Nat :=
  if t.needsVertical ∧ t.mSrcHeight < t.mSource.height then
    N_VTAPS / 2 + (if (t.srcOffset c).2 = 0 then N_VTAPS / 2 else 0)
  else 0

variable {t}

theorem fill_offset (coord : TransformCoord × TransformCoord) :
    (t.fill coord).src.offset = (List.range t.mSrcBuffer.mCount).map fun i =>
      t.mSrcBuffer.getByteOffset i (t.startX coord.1 - t.shiftX coord.1)
        (t.startY coord.1 - t.shiftY coord.1 / 2 ^ i) t.mSource.width := rfl

theorem fill_size (coord : TransformCoord × TransformCoord) : (t.fill coord).MSCL_SRC_WH =
    CMD_WH (t.mSrcWidth + t.marginX coord.1) (t.mSrcHeight + t.marginY coord.1) := rfl

/-- A phase is the displacement in the fixed point of the register. -/
theorem phase_toNat {p : Prop} [Decidable p] {taps : Nat} (h : taps ≤ 4) :
    (BitVec.ofNat 32 (if p then taps <<< FRACTION_BITS else 0)).toNat =
      (if p then taps else 0) * 2 ^ FRACTION_BITS := by
  unfold FRACTION_BITS
  split
  · rw [Nat.shiftLeft_eq, BitVec.toNat_ofNat]
    omega
  · rfl

theorem half_phase_toNat {p : Prop} [Decidable p] {taps : Nat} (h : taps ≤ 4)
    (heven : taps % 2 = 0) :
    (BitVec.ofNat 32 ((if p then taps <<< FRACTION_BITS else 0) / 2)).toNat =
      (if p then taps else 0) / 2 * 2 ^ FRACTION_BITS := by
  unfold FRACTION_BITS
  split
  · rw [Nat.shiftLeft_eq, BitVec.toNat_ofNat]
    omega
  · rfl

theorem fill_lumaPhases (coord : TransformCoord × TransformCoord) :
    (t.fill coord).MSCL_SRC_YH_IPHASE.toNat = t.shiftX coord.1 * 2 ^ FRACTION_BITS ∧
      (t.fill coord).MSCL_SRC_YV_IPHASE.toNat = t.shiftY coord.1 * 2 ^ FRACTION_BITS :=
  ⟨phase_toNat (by decide), phase_toNat (by decide)⟩

/-- The horizontal phase of chroma is halved for the packed format. -/
theorem fill_chromaH (coord : TransformCoord × TransformCoord) :
    (t.fill coord).MSCL_SRC_CH_IPHASE.toNat =
      (if getDeviceFormat t.mSource.format = MSCL_FMT_YUYV then t.shiftX coord.1 / 2
        else t.shiftX coord.1) * 2 ^ FRACTION_BITS := by
  have hfull : (t.fill coord).MSCL_SRC_CH_IPHASE = BitVec.ofNat 32
      (if getDeviceFormat t.mSource.format = MSCL_FMT_YUYV then
        (if t.needsHorizontal ∧ (t.srcOffset coord.1).1 > 0 then (N_HTAPS / 2) <<< FRACTION_BITS
          else 0) / 2
      else (if t.needsHorizontal ∧ (t.srcOffset coord.1).1 > 0 then
        (N_HTAPS / 2) <<< FRACTION_BITS else 0)) := rfl
  rw [hfull]
  split
  · exact half_phase_toNat (by decide) (by decide)
  · exact phase_toNat (by decide)

/-- The vertical one for NV12 alone. -/
theorem fill_chromaV (coord : TransformCoord × TransformCoord) :
    (t.fill coord).MSCL_SRC_CV_IPHASE.toNat =
      (if getDeviceFormat t.mSource.format = MSCL_FMT_NV12 then t.shiftY coord.1 / 2
        else t.shiftY coord.1) * 2 ^ FRACTION_BITS := by
  have hfull : (t.fill coord).MSCL_SRC_CV_IPHASE = BitVec.ofNat 32
      (if getDeviceFormat t.mSource.format = MSCL_FMT_NV12 then
        (if t.needsVertical ∧ (t.srcOffset coord.1).2 > 0 then (N_VTAPS / 2) <<< FRACTION_BITS
          else 0) / 2
      else (if t.needsVertical ∧ (t.srcOffset coord.1).2 > 0 then
        (N_VTAPS / 2) <<< FRACTION_BITS else 0)) := rfl
  rw [hfull]
  split
  · exact half_phase_toNat (by decide) (by decide)
  · exact phase_toNat (by decide)

end Task

/-- The size that a register says. -/
def mscl_task.regionWidth (d : mscl_task) : Nat := d.MSCL_SRC_WH.toNat / 2 ^ 16
def mscl_task.regionHeight (d : mscl_task) : Nat := d.MSCL_SRC_WH.toNat % 2 ^ 16

theorem CMD_WH_toNat {width height : Nat} (hw : width < 2 ^ 16) (hh : height < 2 ^ 16) :
    (CMD_WH width height).toNat = width * 2 ^ 16 + height := by
  have hwide : width % 2 ^ 32 = width := Nat.mod_eq_of_lt (by omega)
  have hhigh : height % 2 ^ 32 = height := Nat.mod_eq_of_lt (by omega)
  have hshift : width <<< 16 % 2 ^ 32 = width <<< 16 := by
    rw [Nat.shiftLeft_eq]
    exact Nat.mod_eq_of_lt (by omega)
  unfold CMD_WH
  rw [BitVec.toNat_or, BitVec.toNat_shiftLeft, BitVec.toNat_ofNat, BitVec.toNat_ofNat, hwide,
    hhigh, hshift, ← Nat.shiftLeft_add_eq_or_of_lt hh, Nat.shiftLeft_eq]

/-! ### Positions -/

/-- Luma and chroma share a plane. -/
def Image.packed (img : Image) : Bool := img.format == .YCBCR_422_I

/-- The bytes of a line, which are the same for both planes. -/
def Image.lineBytes (img : Image) : Nat := if img.packed then 2 * img.width else img.width

/-- The bytes of a luma pixel, and those of a pair of chroma values for two columns. -/
def Image.lumaBytes (img : Image) : Nat := if img.packed then 2 else 1
def Image.pairBytes (img : Image) : Nat := if img.packed then 4 else 2

def Image.chromaPlane (img : Image) : Nat := if img.packed then 0 else 1

/-- The luma rows of a chroma row. -/
def Image.chromaRows (img : Image) : Nat := if img.packed then 1 else 2

/-- The offset of a task inside a plane of its source. -/
def planeOffset (b : Buffer) (d : mscl_task) (i : Nat) : Nat :=
  d.src.offset.getD i 0 - plane b.mOffset i

/-- Address and initial phase come to `(x, y)` for luma and for chroma, in luma units of
    the fixed point, and the region read from there is in the image.  `columns` is the
    unit of the horizontal chroma phase in luma columns. -/
structure SamePosition (img : Image) (b : Buffer) (d : mscl_task) (columns x y : Nat) : Prop where
  luma_row : planeOffset b d 0 / img.lineBytes * 2 ^ FRACTION_BITS + d.MSCL_SRC_YV_IPHASE.toNat =
    y * 2 ^ FRACTION_BITS
  luma_column : planeOffset b d 0 % img.lineBytes / img.lumaBytes * 2 ^ FRACTION_BITS +
    d.MSCL_SRC_YH_IPHASE.toNat = x * 2 ^ FRACTION_BITS
  chroma_row : (planeOffset b d img.chromaPlane / img.lineBytes * 2 ^ FRACTION_BITS +
    d.MSCL_SRC_CV_IPHASE.toNat) * img.chromaRows = y * 2 ^ FRACTION_BITS
  chroma_column : planeOffset b d img.chromaPlane % img.lineBytes / img.pairBytes * 2 *
    2 ^ FRACTION_BITS + d.MSCL_SRC_CH_IPHASE.toNat * columns = x * 2 ^ FRACTION_BITS
  luma_whole : planeOffset b d 0 % img.lineBytes % img.lumaBytes = 0
  chroma_pair : planeOffset b d img.chromaPlane % img.lineBytes % img.pairBytes = 0
  inside_width : planeOffset b d 0 % img.lineBytes / img.lumaBytes + d.regionWidth ≤ img.width
  inside_height : planeOffset b d 0 / img.lineBytes + d.regionHeight ≤ img.height

/-! ### Tiles of a job -/

/-- A buffer for an image, from the caller or from the allocator. -/
def Buffer.Holds (b : Buffer) (img : Image) : Prop :=
  (∃ buffer, b = .given buffer img) ∨ ∃ fd, 0 ≤ fd ∧ b = .bounce fd img

/-- A tile of a stage of a job, with the buffers of the stage. -/
structure Tile where
  g : GiantMsclImpl
  stages : List Stage
  chain : Chain g.mDstImage g.mTransform g.mSrcImage stages
  stage : Stage
  mem : stage ∈ stages
  srcbuf : Buffer
  dstbuf : Buffer
  holds : srcbuf.Holds stage.source
  coord : TransformCoord × TransformCoord
  coord_mem : coord ∈ ((stage.task srcbuf dstbuf).mSrcPlaneCoord.zip
    (stage.task srcbuf dstbuf).mDstPlaneCoord)

namespace Tile

def task (u : Tile) : Task := u.stage.task u.srcbuf u.dstbuf

/-- Its task for the hardware. -/
def desc (u : Tile) : mscl_task := u.task.fill u.coord

/-- Its start in the source. -/
def x (u : Tile) : Nat := u.task.startX u.coord.1
def y (u : Tile) : Nat := u.task.startY u.coord.1

/-- The unit of the horizontal chroma phase: pairs for the packed format, and `planar`
    luma columns for a plane of its own, whose stride is that of luma. -/
def phaseColumns (u : Tile) (planar : Nat) : Nat := if u.stage.source.packed then 2 else planar

/-- What `fill` is to do for it. -/
def Placed (u : Tile) (planar : Nat) : Prop :=
  SamePosition u.stage.source u.srcbuf u.desc (u.phaseColumns planar) u.x u.y

end Tile

/-! ### One axis of a tile -/

/-- An image of `total` pixels in tiles of `size`, with the displacement and the margin of
    the tile that starts at `start`. -/
structure TileAxis (total size start shift margin taps : Nat) : Prop where
  start_cases : start = 0 ∨ start = size ∧ total = 2 * size ∧ 2 * taps ≤ size
  shift_cases : shift = 0 ∨ shift = taps ∧ 0 < start
  shift_le : shift ≤ start
  region : start - shift + (size + margin) ≤ total

theorem tileAxis {total pieces size taps : Nat} {need : Prop} [Decidable need] {cell : Int}
    (hexact : pieces * size = total) (hpieces : pieces = 1 ∨ pieces = 2)
    (hroom : pieces = 2 → 2 * taps ≤ size) (hlo : 0 ≤ cell) (hhi : cell < pieces) :
    TileAxis total size (cell * size).toNat (if need ∧ cell * size > 0 then taps else 0)
      (if need ∧ size < total then taps + (if cell * size = 0 then taps else 0) else 0) taps := by
  rcases hpieces with rfl | rfl
  · obtain rfl : cell = 0 := by omega
    have hzero : (0 : Int) * size = 0 := Int.zero_mul _
    rw [hzero, if_neg (fun h => absurd h.2 (Int.lt_irrefl 0)), if_neg (fun h => by omega)]
    exact ⟨.inl rfl, .inl rfl, Nat.le_refl 0, by omega⟩
  · have hsize := hroom rfl
    obtain rfl | rfl : cell = 0 ∨ cell = 1 := by omega
    · have hzero : (0 : Int) * size = 0 := Int.zero_mul _
      rw [hzero, if_neg (fun h => absurd h.2 (Int.lt_irrefl 0)), if_pos rfl]
      refine ⟨.inl rfl, .inl rfl, Nat.le_refl 0, ?_⟩
      split
      · show 0 - 0 + (size + (taps + taps)) ≤ total
        omega
      · show 0 - 0 + (size + 0) ≤ total
        omega
    · have hone : (1 : Int) * size = size := Int.one_mul _
      have hstart : size = size ∧ total = 2 * size ∧ 2 * taps ≤ size := ⟨rfl, hexact.symm, hsize⟩
      rw [hone, Int.toNat_natCast]
      by_cases hneed : need
      · by_cases hpos : 0 < size
        · have hcast : (0 : Int) < size := Int.natCast_pos.mpr hpos
          rw [if_pos ⟨hneed, hcast⟩, if_pos ⟨hneed, by omega⟩, if_neg (by omega)]
          exact ⟨.inr hstart, .inr ⟨rfl, hpos⟩, by omega, by omega⟩
        · obtain rfl : size = 0 := Nat.eq_zero_of_not_pos hpos
          rw [if_neg (fun h => absurd h.2 (Int.lt_irrefl 0)), if_neg (fun h => by omega)]
          exact ⟨.inl rfl, .inl rfl, Nat.le_refl 0, by omega⟩
      · rw [if_neg (fun h => hneed h.1), if_neg (fun h => hneed h.1)]
        exact ⟨.inr hstart, .inl rfl, Nat.zero_le _, by omega⟩

namespace Stage

variable {s : Stage}

/-- What is split is large. -/
theorem Scales.split_large (h : s.Scales) :
    (s.pieces.1 = 2 → 1024 < s.source.width) ∧ (s.pieces.2 = 2 → 1024 ≤ s.source.height) := by
  obtain ⟨-, hwidth, -, hheight⟩ := h
  cases hr : rotates s.transform with
  | false =>
    simp only [turnedSize, hr, Bool.false_eq_true, if_false] at hwidth hheight
    simp only [pieces, splits, turnedSize, hr, Bool.false_eq_true, if_false, decide_eq_true_eq,
      pieces_eq_two, NR_PIXELS_8K]
    constructor <;> intro hsplit <;> omega
  | true =>
    simp only [turnedSize, hr, if_true] at hwidth hheight
    simp only [pieces, splits, turnedSize, hr, if_true, decide_eq_true_eq, pieces_eq_two,
      NR_PIXELS_8K]
    constructor <;> intro hsplit <;> omega

end Stage

namespace Tile

variable (u : Tile)

theorem stage_spec : u.stage.source.Accepted ∧ u.stage.Scales ∧ u.stage.SplitsEvenly := by
  obtain ⟨hsrc, -, heq⟩ :=
    u.chain.mem u.g.dst_accepted u.g.src_accepted u.g.transform_ok u.stage u.mem
  rw [heq]
  exact ⟨hsrc, nextStage_scales _ hsrc u.g.dst_accepted, nextStage_splitsEvenly u.g.dst_accepted hsrc⟩

/-- The tile is a cell of the grid. -/
theorem in_grid : InGrid u.stage.columns u.stage.rows u.coord.1 :=
  ((u.stage.mem_srcPlane u.srcbuf u.dstbuf).2 _).mp (List.of_mem_zip u.coord_mem).1

/-- **Both axes of a tile.** -/
theorem axes :
    TileAxis u.stage.source.width u.task.mSrcWidth u.x (u.task.shiftX u.coord.1)
        (u.task.marginX u.coord.1) (N_HTAPS / 2) ∧
      TileAxis u.stage.source.height u.task.mSrcHeight u.y (u.task.shiftY u.coord.1)
        (u.task.marginY u.coord.1) (N_VTAPS / 2) := by
  obtain ⟨hsrc, hscales, heven⟩ := u.stage_spec
  obtain ⟨hwide, hhigh⟩ := hscales.split_large
  obtain ⟨hcolumns, hrows⟩ := u.stage.pieces_cast
  obtain ⟨hcolumn, hcolumn_lt, hrow, hrow_lt⟩ := u.in_grid
  rw [hcolumns] at hcolumn_lt
  rw [hrows] at hrow_lt
  have hw := heven.srcWidth u.srcbuf u.dstbuf
  have hh := heven.srcHeight u.srcbuf u.dstbuf
  constructor
  · refine tileAxis hw Stage.pieces_cases.1 (fun htwo => ?_) hcolumn hcolumn_lt
    have hlarge := hwide htwo
    rw [htwo] at hw
    show 2 * 4 ≤ (u.stage.task u.srcbuf u.dstbuf).mSrcWidth
    omega
  · refine tileAxis hh Stage.pieces_cases.2 (fun htwo => ?_) hrow hrow_lt
    have hlarge := hhigh htwo
    rw [htwo] at hh
    show 2 * 2 ≤ (u.stage.task u.srcbuf u.dstbuf).mSrcHeight
    omega

/-- The region that the registers say. -/
theorem region_eq : u.desc.regionWidth = u.task.mSrcWidth + u.task.marginX u.coord.1 ∧
    u.desc.regionHeight = u.task.mSrcHeight + u.task.marginY u.coord.1 := by
  obtain ⟨hsrc, -⟩ := u.stage_spec
  obtain ⟨haxis, haxis'⟩ := u.axes
  have hwide := hsrc.width_most
  have hhigh := hsrc.height_most
  have hregion := haxis.region
  have hregion' := haxis'.region
  unfold NR_PIXELS_16K at hwide hhigh
  have hw : u.task.mSrcWidth + u.task.marginX u.coord.1 < 2 ^ 16 := by omega
  have hh : u.task.mSrcHeight + u.task.marginY u.coord.1 < 2 ^ 16 := by omega
  have hsize : u.desc.MSCL_SRC_WH.toNat = (u.task.mSrcWidth + u.task.marginX u.coord.1) * 2 ^ 16 +
      (u.task.mSrcHeight + u.task.marginY u.coord.1) := by
    rw [desc, Task.fill_size, CMD_WH_toNat hw hh]
  unfold mscl_task.regionWidth mscl_task.regionHeight
  rw [hsize]
  omega

/-- Tiles start at whole pairs, and at whole chroma rows of a plane of its own. -/
theorem start_even : u.x % 2 = 0 ∧ (u.stage.source.format ≠ .YCBCR_422_I → u.y % 2 = 0) := by
  obtain ⟨-, -, heven⟩ := u.stage_spec
  obtain ⟨haxis, haxis'⟩ := u.axes
  obtain ⟨hw, hh⟩ := heven.src_fits u.srcbuf u.dstbuf
  constructor
  · rcases haxis.start_cases with hstart | ⟨hstart, -⟩
    · rw [hstart]
    · rw [hstart]
      exact hw
  · intro hf
    rcases haxis'.start_cases with hstart | ⟨hstart, -⟩
    · rw [hstart]
    · rw [hstart]
      exact hh hf

end Tile

/-! ### Offsets -/

section Buffers

variable {b : Buffer} {img : Image}

theorem Buffer.Holds.packed (h : b.Holds img) (hf : img.format = .YCBCR_422_I) :
    b.mCount = 1 ∧ b.mHBitPP.1 = 16 ∧ b.mVBitPP.1 = 8 := by
  rcases h with ⟨buffer, rfl⟩ | ⟨fd, hfd, rfl⟩
  · simp [Buffer.given, Buffer.init, hf]
  · simp [Buffer.bounce, Buffer.init, hf, hfd]

theorem Buffer.Holds.planar (h : b.Holds img) (hf : img.format ≠ .YCBCR_422_I) :
    b.mCount = 2 ∧ b.mHBitPP = (8, 8) ∧ b.mVBitPP = (8, 4) := by
  rcases h with ⟨buffer, rfl⟩ | ⟨fd, hfd, rfl⟩
  · simp [Buffer.given, Buffer.init, hf]
  · simp [Buffer.bounce, Buffer.init, hf, hfd]

end Buffers

namespace Tile

variable (u : Tile)

/-- Where a tile is read from. -/
def readX (u : Tile) : Nat := u.x - u.task.shiftX u.coord.1
def readY (u : Tile) : Nat := u.y - u.task.shiftY u.coord.1

theorem planeOffset_eq {i : Nat} (hi : i < u.srcbuf.mCount) : planeOffset u.srcbuf u.desc i =
    ((u.y - u.task.shiftY u.coord.1 / 2 ^ i) * plane u.srcbuf.mVBitPP i *
      (u.stage.source.width * plane u.srcbuf.mHBitPP i / 8) +
        u.readX * plane u.srcbuf.mHBitPP i) / 8 := by
  have hbuf : u.task.mSrcBuffer = u.srcbuf := rfl
  have hwidth : u.task.mSource.width = u.stage.source.width := rfl
  have hoffset : u.desc.src.offset.getD i 0 =
      u.srcbuf.getByteOffset i u.readX (u.y - u.task.shiftY u.coord.1 / 2 ^ i)
        u.stage.source.width := by
    rw [desc, Task.fill_offset, hbuf, hwidth]
    simp [List.getD, hi]
    rfl
  rw [planeOffset, hoffset, Buffer.getByteOffset, if_pos hi]
  exact Nat.add_sub_cancel_left ..

theorem packed_offset (hf : u.stage.source.format = .YCBCR_422_I) :
    planeOffset u.srcbuf u.desc 0 = u.readY * (2 * u.stage.source.width) + 2 * u.readX := by
  obtain ⟨hcount, hh, hv⟩ := u.holds.packed hf
  have hstride : u.stage.source.width * 16 / 8 = 2 * u.stage.source.width := by omega
  rw [u.planeOffset_eq (by omega), plane, plane, if_pos rfl, if_pos rfl, hh, hv, hstride, pow_zero,
    Nat.div_one, Nat.mul_right_comm]
  show (u.readY * (2 * u.stage.source.width) * 8 + u.readX * 16) / 8 = _
  omega

theorem luma_offset (hf : u.stage.source.format ≠ .YCBCR_422_I) :
    planeOffset u.srcbuf u.desc 0 = u.readY * u.stage.source.width + u.readX := by
  obtain ⟨hcount, hh, hv⟩ := u.holds.planar hf
  have hstride : u.stage.source.width * 8 / 8 = u.stage.source.width := by omega
  rw [u.planeOffset_eq (by omega), plane, plane, if_pos rfl, if_pos rfl, hh, hv, hstride, pow_zero,
    Nat.div_one, Nat.mul_right_comm]
  show (u.readY * u.stage.source.width * 8 + u.readX * 8) / 8 = _
  omega

/-- Both `fill` and the bits per pixel halve the displacement of the chroma plane. -/
theorem chroma_offset (hf : u.stage.source.format ≠ .YCBCR_422_I) :
    planeOffset u.srcbuf u.desc 1 =
      (u.y - u.task.shiftY u.coord.1 / 2) * u.stage.source.width / 2 + u.readX := by
  obtain ⟨hcount, hh, hv⟩ := u.holds.planar hf
  have hstride : u.stage.source.width * 8 / 8 = u.stage.source.width := by omega
  rw [u.planeOffset_eq (by omega), hh, hv]
  show ((u.y - u.task.shiftY u.coord.1 / 2) * 4 * (u.stage.source.width * 8 / 8) + u.readX * 8) / 8 = _
  rw [hstride, Nat.mul_right_comm]
  omega

end Tile

/-! ### Lines and columns -/

namespace Tile

variable (u : Tile)

theorem task_size_pos : 0 < u.task.mSrcWidth ∧ 0 < u.task.mSrcHeight := by
  obtain ⟨hsrc, -, heven⟩ := u.stage_spec
  have hwide := hsrc.width_least
  have hhigh := hsrc.height_least
  rw [← heven.srcWidth u.srcbuf u.dstbuf] at hwide
  rw [← heven.srcHeight u.srcbuf u.dstbuf] at hhigh
  constructor
  · exact Nat.pos_of_mul_pos_left (Nat.lt_of_lt_of_le (by decide) hwide)
  · exact Nat.pos_of_mul_pos_left (Nat.lt_of_lt_of_le (by decide) hhigh)

/-- A tile is not empty, so it is read from inside a line. -/
theorem read_inside : u.readX < u.stage.source.width ∧ u.readX + u.task.shiftX u.coord.1 = u.x ∧
    u.readY + u.task.shiftY u.coord.1 = u.y := by
  obtain ⟨haxis, haxis'⟩ := u.axes
  refine ⟨?_, Nat.sub_add_cancel haxis.shift_le, Nat.sub_add_cancel haxis'.shift_le⟩
  have hregion := haxis.region
  have hpos := u.task_size_pos.1
  show u.x - u.task.shiftX u.coord.1 < _
  omega

theorem shift_cases : (u.task.shiftX u.coord.1 = 0 ∨ u.task.shiftX u.coord.1 = 4) ∧
    (u.task.shiftY u.coord.1 = 0 ∨ u.task.shiftY u.coord.1 = 2) := by
  obtain ⟨haxis, haxis'⟩ := u.axes
  exact ⟨haxis.shift_cases.imp_right And.left, haxis'.shift_cases.imp_right And.left⟩

theorem inside : u.readX + u.desc.regionWidth ≤ u.stage.source.width ∧
    u.readY + u.desc.regionHeight ≤ u.stage.source.height := by
  obtain ⟨haxis, haxis'⟩ := u.axes
  rw [u.region_eq.1, u.region_eq.2]
  exact ⟨haxis.region, haxis'.region⟩

end Tile

theorem getDeviceFormat_packed (format : PixelFormat) :
    getDeviceFormat format = MSCL_FMT_YUYV ↔ format = .YCBCR_422_I := by
  cases format with
  | other code => exact iff_of_false (show (~~~0 : BitVec 32) ≠ 10#32 by decide) (fun h => nomatch h)
  | _ => decide

theorem line_div {r c l : Nat} (h : c < l) : (r * l + c) / l = r := by
  rw [Nat.mul_comm, Nat.mul_add_div (Nat.zero_lt_of_lt h), Nat.div_eq_of_lt h, Nat.add_zero]

theorem line_mod {r c l : Nat} (h : c < l) : (r * l + c) % l = c := by
  rw [Nat.mul_comm, Nat.mul_add_mod, Nat.mod_eq_of_lt h]

namespace Tile

variable (u : Tile)

/-- **The packed format.**  One plane of pairs, in which no displacement is halved. -/
theorem placed_of_packed (hf : u.stage.source.format = .YCBCR_422_I) (planar : Nat) :
    u.Placed planar := by
  obtain ⟨hread, hx, hy⟩ := u.read_inside
  obtain ⟨hcasesX, hcasesY⟩ := u.shift_cases
  obtain ⟨hinsideX, hinsideY⟩ := u.inside
  have hevenX := u.start_even.1
  have hpacked : u.stage.source.packed = true := by simp [Image.packed, hf]
  have hdevice : getDeviceFormat u.task.mSource.format = MSCL_FMT_YUYV :=
    (getDeviceFormat_packed _).mpr hf
  have hline : 2 * u.readX < 2 * u.stage.source.width := Nat.mul_lt_mul_of_pos_left hread (by decide)
  obtain ⟨hYH, hYV⟩ := Task.fill_lumaPhases (t := u.task) u.coord
  have hCH := Task.fill_chromaH (t := u.task) u.coord
  have hCV := Task.fill_chromaV (t := u.task) u.coord
  rw [if_pos hdevice] at hCH
  rw [hdevice, if_neg (by decide)] at hCV
  unfold Placed phaseColumns
  constructor <;>
    simp only [Image.lineBytes, Image.lumaBytes, Image.pairBytes, Image.chromaPlane, Image.chromaRows,
      hpacked, if_true, u.packed_offset hf, line_div hline, line_mod hline]
  · rw [desc, hYV, ← Nat.add_mul, hy]
  · rw [desc, hYH, ← Nat.add_mul, Nat.mul_div_cancel_left _ (by decide), hx]
  · rw [desc, hCV, ← Nat.add_mul, hy, Nat.mul_one]
  · rw [desc, hCH, Nat.mul_right_comm (u.task.shiftX u.coord.1 / 2), ← Nat.add_mul]
    congr 1
    omega
  · omega
  · omega
  · omega
  · omega

/-- A tile whose displacement is not vertical. -/
theorem placed_of_unshifted (hf : u.stage.source.format ≠ .YCBCR_422_I)
    (hzero : u.task.shiftY u.coord.1 = 0) (planar : Nat) :
    u.Placed planar ↔ planar = 1 ∨ u.task.shiftX u.coord.1 = 0 := by
  obtain ⟨hread, hx, hy⟩ := u.read_inside
  obtain ⟨hcasesX, -⟩ := u.shift_cases
  obtain ⟨hinsideX, hinsideY⟩ := u.inside
  obtain ⟨hevenX, hevenY⟩ := u.start_even
  have hevenY := hevenY hf
  have hpacked : u.stage.source.packed = false := by simp [Image.packed, hf]
  have hchroma : planeOffset u.srcbuf u.desc 1 =
      u.y / 2 * u.stage.source.width + u.readX := by
    have hhalf : u.y * u.stage.source.width / 2 = u.y / 2 * u.stage.source.width := by
      rw [Nat.div_mul_right_comm (Nat.dvd_of_mod_eq_zero hevenY)]
    rw [u.chroma_offset hf, hzero, Nat.zero_div, Nat.sub_zero, hhalf]
  obtain ⟨hYH, hYV⟩ := Task.fill_lumaPhases (t := u.task) u.coord
  have hCH := Task.fill_chromaH (t := u.task) u.coord
  have hCV := Task.fill_chromaV (t := u.task) u.coord
  have hdevice : getDeviceFormat u.task.mSource.format ≠ MSCL_FMT_YUYV :=
    fun h => hf ((getDeviceFormat_packed _).mp h)
  rw [if_neg hdevice] at hCH
  rw [hzero, Nat.zero_div, ite_self, Nat.zero_mul] at hCV
  constructor
  · intro h
    have hcolumn := h.chroma_column
    simp only [phaseColumns, Image.lineBytes, Image.pairBytes, Image.chromaPlane, hpacked, Bool.false_eq_true,
      if_false, hchroma, line_mod hread] at hcolumn
    rw [desc, hCH, ← hx] at hcolumn
    unfold FRACTION_BITS at hcolumn
    rcases hcasesX with hshift | hshift
    · exact .inr hshift
    · rw [hshift] at hcolumn hx
      left
      omega
  · intro h
    unfold Placed phaseColumns
    constructor <;>
      simp only [Image.lineBytes, Image.lumaBytes, Image.pairBytes, Image.chromaPlane, Image.chromaRows,
        hpacked, Bool.false_eq_true, if_false, u.luma_offset hf, hchroma, line_div hread,
        line_mod hread]
    · rw [desc, hYV, ← Nat.add_mul, hy]
    · rw [desc, hYH, ← Nat.add_mul, Nat.div_one, hx]
    · rw [desc, hCV, Nat.add_zero, Nat.mul_right_comm, Nat.div_mul_cancel (Nat.dvd_of_mod_eq_zero hevenY)]
    · have hmul : u.task.shiftX u.coord.1 * 2 ^ FRACTION_BITS * planar =
          u.task.shiftX u.coord.1 * 2 ^ FRACTION_BITS := by
        rcases h with rfl | hshift
        · exact Nat.mul_one _
        · rw [hshift, Nat.zero_mul, Nat.zero_mul]
      rw [desc, hCH, hmul, ← Nat.add_mul]
      congr 1
      omega
    · omega
    · omega
    · omega
    · omega

/-- A tile below the first that is interpolated: its chroma starts in the middle of a row. -/
theorem not_placed_of_shifted (hf : u.stage.source.format ≠ .YCBCR_422_I)
    (hshift : u.task.shiftY u.coord.1 = 2) (planar : Nat) : ¬u.Placed planar := by
  obtain ⟨hsrc, -⟩ := u.stage_spec
  obtain ⟨haxis, haxis'⟩ := u.axes
  obtain ⟨hread, hx, -⟩ := u.read_inside
  have hevenX := u.start_even.1
  have hevenY := u.start_even.2 hf
  have hleast := hsrc.width_least
  have hpacked : u.stage.source.packed = false := by simp [Image.packed, hf]
  have hdevice : getDeviceFormat u.task.mSource.format ≠ MSCL_FMT_YUYV :=
    fun h => hf ((getDeviceFormat_packed _).mp h)
  have hCH := Task.fill_chromaH (t := u.task) u.coord
  rw [if_neg hdevice] at hCH
  obtain ⟨m, hm⟩ : ∃ m, u.stage.source.width = 2 * m := ⟨_, (Nat.mul_div_cancel' (Nat.dvd_of_mod_eq_zero hsrc.width_even)).symm⟩
  obtain ⟨k, hk⟩ : ∃ k, u.y = 2 * (k + 1) := by
    refine ⟨u.y / 2 - 1, ?_⟩
    have hle := haxis'.shift_le
    omega
  have hchroma : planeOffset u.srcbuf u.desc 1 = k * u.stage.source.width + (m + u.readX) := by
    have hrow : (u.y - u.task.shiftY u.coord.1 / 2) * u.stage.source.width =
        2 * (k * (2 * m) + m) := by
      rw [hshift, hk, hm, show 2 * (k + 1) - 2 / 2 = 2 * k + 1 by omega]
      ring
    rw [u.chroma_offset hf, hrow, Nat.mul_div_cancel_left _ (by decide), hm, Nat.add_assoc]
  intro h
  have hcolumn := h.chroma_column
  simp only [phaseColumns, Image.lineBytes, Image.pairBytes, Image.chromaPlane, hpacked, Bool.false_eq_true,
    if_false, hchroma] at hcolumn
  rw [desc, hCH] at hcolumn
  rcases haxis.start_cases with hstart | ⟨hstart, htotal, hroom⟩
  · -- On the left it starts half a line to the right.
    rw [hstart] at hx hcolumn
    have hshiftX : u.task.shiftX u.coord.1 = 0 := by omega
    rw [hshiftX, line_mod (by omega)] at hcolumn
    unfold FRACTION_BITS at hcolumn
    omega
  · rcases u.shift_cases.1 with hshiftX | hshiftX
    · -- On the right without a shift it starts with the next line.
      have hnext : k * u.stage.source.width + (m + u.readX) = (k + 1) * u.stage.source.width + 0 := by
        rw [Nat.succ_mul]
        omega
      rw [hshiftX, hnext, line_mod (by omega)] at hcolumn
      unfold FRACTION_BITS at hcolumn
      omega
    · rw [hshiftX, line_mod (by omega)] at hcolumn
      unfold FRACTION_BITS at hcolumn
      have hpos : 2 * 4 ≤ u.task.mSrcWidth := hroom
      omega

end Tile

/-! ### When a displacement is needed -/

theorem displacement_zero {need : Prop} [Decidable need] {cell : Int} {size taps n m : Nat}
    (hneed : need ↔ n ≠ m) (hcell : 0 ≤ cell) (hsize : 0 < size) (htaps : 0 < taps) :
    (if need ∧ cell * size > 0 then taps else 0) = 0 ↔ n = m ∨ cell = 0 := by
  have hpos : cell * size > 0 ↔ cell ≠ 0 := by
    constructor
    · rintro h rfl
      rw [Int.zero_mul] at h
      exact absurd h (Int.lt_irrefl 0)
    · intro h
      exact Int.mul_pos (by omega) (Int.natCast_pos.mpr hsize)
  have hzero : (if need ∧ cell * size > 0 then taps else 0) = 0 ↔ ¬(need ∧ cell * size > 0) := by
    by_cases h : need ∧ cell * size > 0
    · rw [if_pos h]
      exact iff_of_false (Nat.ne_of_gt htaps) (not_not_intro h)
    · rw [if_neg h]
      exact iff_of_true rfl h
  rw [hzero, hpos, hneed]
  omega

theorem scale_one {n base : Nat} (hbase : 0 < base) (hmost : base < 2 ^ 20) (hdown : n ≤ 4 * base) :
    (n <<< FRACTION_BITS / base) % 2 ^ 32 = SCALE_FACTOR_1TO1 ↔ n = base := by
  have hlt : n * 2 ^ 20 / base < 2 ^ 32 := by
    refine (Nat.div_lt_iff_lt_mul hbase).mpr ?_
    omega
  unfold FRACTION_BITS SCALE_FACTOR_1TO1 FRACTION_BITS
  rw [Nat.shiftLeft_eq, Nat.mod_eq_of_lt hlt, Nat.div_eq_iff hbase]
  omega

namespace Tile

variable (u : Tile)

theorem target_accepted : u.stage.target.Accepted := by
  obtain ⟨hsrc, -, heq⟩ :=
    u.chain.mem u.g.dst_accepted u.g.src_accepted u.g.transform_ok u.stage u.mem
  rw [heq]
  exact nextTarget_accepted _ hsrc u.g.dst_accepted

/-- An axis is interpolated when its size changes. -/
theorem needs_iff :
    (u.task.needsHorizontal ↔
      u.stage.source.width ≠ (turnedSize u.stage.transform u.stage.target).1) ∧
    (u.task.needsVertical ↔
      u.stage.source.height ≠ (turnedSize u.stage.transform u.stage.target).2) := by
  obtain ⟨-, hscales, -⟩ := u.stage_spec
  obtain ⟨-, -, hwl, hhl, hwm, hhm, -, -⟩ := u.target_accepted
  obtain ⟨hwidth, -, hheight, -⟩ := hscales
  unfold NR_PIXELS_16K at hwm hhm
  have hH : u.task.needsHorizontal ↔ (u.stage.source.width <<< FRACTION_BITS /
      (if rotates u.stage.transform then u.stage.target.height else u.stage.target.width)) % 2 ^ 32 ≠
        SCALE_FACTOR_1TO1 := Iff.rfl
  have hV : u.task.needsVertical ↔ (u.stage.source.height <<< FRACTION_BITS /
      (if rotates u.stage.transform then u.stage.target.width else u.stage.target.height)) % 2 ^ 32 ≠
        SCALE_FACTOR_1TO1 := Iff.rfl
  rw [hH, hV]
  cases hr : rotates u.stage.transform with
  | false =>
    simp only [turnedSize, hr, Bool.false_eq_true, if_false] at hwidth hheight ⊢
    exact ⟨not_congr (scale_one (by omega) (by omega) hwidth),
      not_congr (scale_one (by omega) (by omega) hheight)⟩
  | true =>
    simp only [turnedSize, hr, if_true] at hwidth hheight ⊢
    exact ⟨not_congr (scale_one (by omega) (by omega) hheight),
      not_congr (scale_one (by omega) (by omega) hwidth)⟩

/-- The start is shifted when the axis is interpolated and the tile is not the first of it. -/
theorem shift_zero_iff :
    (u.task.shiftX u.coord.1 = 0 ↔
      u.stage.source.width = (turnedSize u.stage.transform u.stage.target).1 ∨ u.coord.1.1 = 0) ∧
    (u.task.shiftY u.coord.1 = 0 ↔
      u.stage.source.height = (turnedSize u.stage.transform u.stage.target).2 ∨ u.coord.1.2 = 0) := by
  obtain ⟨hneedX, hneedY⟩ := u.needs_iff
  obtain ⟨hposX, hposY⟩ := u.task_size_pos
  obtain ⟨hcolumn, -, hrow, -⟩ := u.in_grid
  exact ⟨displacement_zero hneedX hcolumn hposX (by decide), displacement_zero hneedY hrow hposY (by decide)⟩

end Tile

/-! ### Results -/

/-- **Where a tile is read from.**  `fill` is right for the packed format, and for planes of
    their own it is as long as the tile is not shifted vertically; the horizontal phase of
    their chroma asks for a unit of one luma column. -/
theorem fill_position_iff (u : Tile) (planar : Nat) :
    u.Placed planar ↔ u.stage.source.format = .YCBCR_422_I ∨
      ((u.stage.source.height = (turnedSize u.stage.transform u.stage.target).2 ∨ u.coord.1.2 = 0) ∧
        (planar = 1 ∨ u.stage.source.width = (turnedSize u.stage.transform u.stage.target).1 ∨
          u.coord.1.1 = 0)) := by
  obtain ⟨hshiftX, hshiftY⟩ := u.shift_zero_iff
  rw [← hshiftX, ← hshiftY]
  by_cases hf : u.stage.source.format = .YCBCR_422_I
  · exact iff_of_true (u.placed_of_packed hf planar) (.inl hf)
  · rcases u.shift_cases.2 with hzero | htwo
    · rw [u.placed_of_unshifted hf hzero planar]
      constructor
      · intro h
        exact .inr ⟨hzero, h⟩
      · rintro (h | ⟨-, h⟩)
        · exact absurd h hf
        · exact h
    · refine iff_of_false (u.not_placed_of_shifted hf htwo planar) ?_
      rintro (h | ⟨hzero, -⟩)
      · exact hf h
      · rw [htwo] at hzero
        contradiction

/-- The lower half of 64 by 16384, scaled to half its height. -/
def lowerHalf : Tile where
  g := { GiantMsclImpl.new with
    mSrcImage := ⟨64, 16384, .EXYNOS_YCbCr_420_SP_M⟩
    mDstImage := ⟨64, 8192, .EXYNOS_YCbCr_420_SP_M⟩
    src_ok := by decide
    dst_ok := by decide }
  stages := [nextStage 0 ⟨64, 16384, .EXYNOS_YCbCr_420_SP_M⟩ ⟨64, 8192, .EXYNOS_YCbCr_420_SP_M⟩]
  chain := .last (by decide)
  stage := nextStage 0 ⟨64, 16384, .EXYNOS_YCbCr_420_SP_M⟩ ⟨64, 8192, .EXYNOS_YCbCr_420_SP_M⟩
  mem := List.mem_cons_self
  srcbuf := .given (1, 2) ⟨64, 16384, .EXYNOS_YCbCr_420_SP_M⟩
  dstbuf := .given (3, 4) ⟨64, 8192, .EXYNOS_YCbCr_420_SP_M⟩
  holds := .inl ⟨(1, 2), rfl⟩
  coord := ((0, 1), (0, 1))
  coord_mem := by decide

/-- Its chroma is read from the middle of row 4095, whatever the phase counts in. -/
theorem lower_half_misplaced : ¬∃ planar, ∀ u : Tile, u.Placed planar := by
  rintro ⟨planar, h⟩
  exact lowerHalf.not_placed_of_shifted (by decide) (by decide +kernel) planar (h lowerHalf)

example : planeOffset lowerHalf.srcbuf lowerHalf.desc 1 = 4095 * 64 + 32 := by decide +kernel

/-! ### The tasks of a job -/

section Jobs

variable {g : GiantMsclImpl} {alloc : Nat → Int}

theorem mem_chainTasks {dst source : Image} {transform : BitVec 32} {stages : List Stage}
    (h : Chain dst transform source stages) (halloc : ∀ n, 0 ≤ alloc n) {b last : Buffer}
    (hb : b.Holds source) (idx : Nat) {d : mscl_task}
    (hd : d ∈ chainTasks stages (b :: chainBuffers alloc last idx stages)) :
    ∃ s ∈ stages, ∃ srcbuf dstbuf, srcbuf.Holds s.source ∧ d ∈ s.tasks srcbuf dstbuf := by
  induction h generalizing b idx with
  | last hlast =>
    simp only [chainBuffers, chainTasks, List.append_nil] at hd
    exact ⟨_, List.mem_cons_self, b, last, hb, hd⟩
  | @more transform source rest hne tail ih =>
    have hbuffers : chainBuffers alloc last idx (nextStage transform source dst :: rest) =
        .bounce (alloc (idx + 1)) (nextTarget transform source dst) ::
          chainBuffers alloc last (idx + 1) rest := by
      cases tail with
      | last => rfl
      | more => rfl
    rw [hbuffers, chainTasks] at hd
    rcases List.mem_append.mp hd with hhere | hthere
    · exact ⟨_, List.mem_cons_self, b, _, hb, hhere⟩
    · obtain ⟨s, hs, hrest⟩ := ih (.inr ⟨_, halloc _, rfl⟩) (idx + 1) hthere
      exact ⟨s, List.mem_cons_of_mem _ hs, hrest⟩

/-- **Tasks are tiles.**  What a job hands to the kernel is filled for tiles of its stages. -/
theorem job_tiles (halloc : ∀ n, 0 ≤ alloc n) (src_buffer dst_buffer : Int × Int) {stages : List Stage}
    (h : Chain g.mDstImage g.mTransform g.mSrcImage stages) {fuel : Nat} (hfuel : stages.length ≤ fuel)
    {tasks : List mscl_task} (hjob : job g alloc fuel src_buffer dst_buffer = some (some tasks)) :
    ∀ d ∈ tasks, ∃ u : Tile, u.g = g ∧ u.desc = d := by
  rw [job_of_chain src_buffer dst_buffer h halloc hfuel] at hjob
  split at hjob
  · cases hjob
    intro d hd
    obtain ⟨s, hs, srcbuf, dstbuf, hholds, hmem⟩ := mem_chainTasks h halloc (.inl ⟨_, rfl⟩) 0 hd
    obtain ⟨coord, hcoord, hfill⟩ := List.mem_map.mp hmem
    exact ⟨⟨g, stages, h, s, hs, srcbuf, dstbuf, hholds, coord, hcoord⟩, rfl, hfill⟩
  · cases hjob

end Jobs

end ExynosHal.GiantMscl
