/-
  ExynosHal/GiantTiles.lean
  =========================
  **The tiles of a stage of the giant scaler.**

  The signs and matrices of `Task::Task` stand for the cells of a grid of one
  or two columns and rows, and for where the transform takes a cell
  (`planes_eq`).  So the tiles of a stage partition its images, and each is
  scaled to the place of its own image (`stage_tiles`).
-/
import ExynosHal.GiantChain
import ExynosHal.Tiling
import Mathlib.Data.List.Nodup

namespace ExynosHal.GiantMscl

open ExynosHal ExynosHal.HalTransform ExynosHal.Tiling

/-! ### The transform of an image -/

/-- To place an image is to move it about its centre, all lengths doubled. -/
theorem place_centre (transform : BitVec 32) (w h : Int) (p : Int × Int) :
    let q := place (hFlip transform) (vFlip transform) (rotates transform) w h p
    act transform (2 * p.1 - w, 2 * p.2 - h) =
      if rotates transform then (2 * q.1 - h, 2 * q.2 - w) else (2 * q.1 - w, 2 * q.2 - h) := by
  cases hr : rotates transform <;> cases hh : hFlip transform <;> cases hv : vFlip transform <;>
    simp [act, HalTransform.flip, quarter, place, flipIn, quarterIn, hr, hh, hv] <;> omega

theorem transform_cases {transform : BitVec 32} (h : transform &&& ~~~HAL_TRANSFORM_ROT_270 = 0) :
    ∃ k : Fin 8, transform = BitVec.ofNat 32 k := by
  have hself : transform = transform &&& HAL_TRANSFORM_ROT_270 := by
    ext i hi
    have hbit := congrArg (·.getLsbD i) h
    simp only [BitVec.getLsbD_and, BitVec.getLsbD_not] at hbit
    grind
  have hlt : transform.toNat < 8 := by
    rw [hself, BitVec.toNat_and]
    exact Nat.lt_succ_of_le Nat.and_le_right
  refine ⟨⟨transform.toNat, hlt⟩, ?_⟩
  exact ((BitVec.ofNat_toNat 32 transform).trans (BitVec.setWidth_eq transform)).symm

/-! ### Planes -/

def pieceCount (split : Bool) : Int := if split then 2 else 1

/-- The corners in signs are the cells of the grid. -/
theorem planes_cells (transform : BitVec 32) (h v : Bool) :
    let cells := (planes transform h v).1.map denormalize
    cells.Nodup ∧ ∀ c, c ∈ cells ↔ InGrid (pieceCount h) (pieceCount v) c := by
  have hcells : (planes transform h v).1.map denormalize =
      if h then if v then [(0, 0), (1, 0), (0, 1), (1, 1)] else [(0, 0), (1, 0)]
      else if v then [(0, 0), (0, 1)] else [(0, 0)] := by
    cases h <;> cases v <;> rfl
  dsimp only
  rw [hcells]
  cases h <;> cases v <;> refine ⟨by decide, fun c => ?_⟩ <;>
    simp [pieceCount, InGrid, Prod.ext_iff] <;> omega

/-- **The patched matrices** take a cell to where the transform takes it. -/
theorem planes_moved {transform : BitVec 32} (h : transform &&& ~~~HAL_TRANSFORM_ROT_270 = 0)
    (horizontal vertical : Bool) :
    (planes transform horizontal vertical).1.map
        (planes transform horizontal vertical).2.multiplyAndDenormalize =
      ((planes transform horizontal vertical).1.map denormalize).map
        (moveCell (hFlip transform) (vFlip transform) (rotates transform) (pieceCount horizontal)
          (pieceCount vertical)) := by
  obtain ⟨k, rfl⟩ := transform_cases h
  revert k horizontal vertical
  decide

/-! ### Tiles -/

def tile (offset : Int × Int) (width height : Nat) : Rect Int :=
  ⟨offset.1, offset.2, offset.1 + width, offset.2 + height⟩

namespace Task

def srcTiles (t : Task) : List (Rect Int) :=
  t.mSrcPlaneCoord.map fun coord => tile (t.srcOffset coord) t.mSrcWidth t.mSrcHeight

def dstTiles (t : Task) : List (Rect Int) :=
  t.mDstPlaneCoord.map fun coord => tile (t.dstOffset coord) t.mDstWidth t.mDstHeight

end Task

theorem tile_eq_cell (coord : TransformCoord) (width height : Nat) :
    tile (coord.1 * width, coord.2 * height) width height = cell width height coord := by
  simp only [tile, cell, Rect.mk.injEq, true_and]
  constructor <;> ring

namespace Stage

/-- The transform of the source image, then the scaling to the size of the target. -/
def motion (s : Stage) : ℚ × ℚ → ℚ × ℚ :=
  let (width, height) := turnedSize s.transform s.source
  stretch (s.target.width / width) (s.target.height / height) ∘
    place (hFlip s.transform) (vFlip s.transform) (rotates s.transform) s.source.width s.source.height

variable {s : Stage} (b b' : Buffer)

/-- Both axes of the grid, and the place of a cell after the transform. -/
def columns (s : Stage) : Int := pieceCount (splits s.source s.target s.transform).1
def rows (s : Stage) : Int := pieceCount (splits s.source s.target s.transform).2

def moved (s : Stage) : Int × Int → Int × Int :=
  moveCell (hFlip s.transform) (vFlip s.transform) (rotates s.transform) s.columns s.rows

theorem srcTiles_eq : (s.task b b').srcTiles =
    (s.task b b').mSrcPlaneCoord.map (cell (s.task b b').mSrcWidth (s.task b b').mSrcHeight) :=
  List.map_congr_left fun coord _ => tile_eq_cell coord _ _

theorem dstTiles_eq : (s.task b b').dstTiles =
    (s.task b b').mDstPlaneCoord.map (cell (s.task b b').mDstWidth (s.task b b').mDstHeight) :=
  List.map_congr_left fun coord _ => tile_eq_cell coord _ _

theorem mem_srcPlane : (s.task b b').mSrcPlaneCoord.Nodup ∧
    ∀ c, c ∈ (s.task b b').mSrcPlaneCoord ↔ InGrid s.columns s.rows c :=
  planes_cells s.transform (splits s.source s.target s.transform).1
    (splits s.source s.target s.transform).2

theorem dstPlane_eq (h : s.transform &&& ~~~HAL_TRANSFORM_ROT_270 = 0) :
    (s.task b b').mDstPlaneCoord = (s.task b b').mSrcPlaneCoord.map s.moved :=
  planes_moved h (splits s.source s.target s.transform).1 (splits s.source s.target s.transform).2

theorem pieces_cast : s.columns = (s.pieces.1 : Int) ∧ s.rows = (s.pieces.2 : Int) := by
  unfold columns rows pieces pieceCount
  rcases splits s.source s.target s.transform with ⟨horizontal, vertical⟩
  cases horizontal <;> cases vertical <;> exact ⟨rfl, rfl⟩

theorem targetPieces_cast :
    (if rotates s.transform then s.rows else s.columns) = (s.targetPieces.1 : Int) ∧
      (if rotates s.transform then s.columns else s.rows) = (s.targetPieces.2 : Int) := by
  obtain ⟨hcolumns, hrows⟩ := s.pieces_cast
  unfold targetPieces
  split
  · exact ⟨hrows, hcolumns⟩
  · exact ⟨hcolumns, hrows⟩

end Stage

namespace Stage

variable {s : Stage} {b b' : Buffer}

/-- What the tiling rests on. -/
structure Tiled (s : Stage) : Prop where
  even : s.SplitsEvenly
  source_pos : 0 < s.source.width ∧ 0 < s.source.height
  target_pos : 0 < s.target.width ∧ 0 < s.target.height
  transform_ok : s.transform &&& ~~~HAL_TRANSFORM_ROT_270 = 0

theorem Tiled.src_pos (h : s.Tiled) (b b' : Buffer) :
    0 < ((s.task b b').mSrcWidth : Int) ∧ 0 < ((s.task b b').mSrcHeight : Int) := by
  have hwidth := h.even.srcWidth b b'
  have hheight := h.even.srcHeight b b'
  have hpos := h.source_pos
  rw [← hwidth, ← hheight] at hpos
  exact ⟨Int.natCast_pos.mpr (Nat.pos_of_mul_pos_left hpos.1), Int.natCast_pos.mpr (Nat.pos_of_mul_pos_left hpos.2)⟩

theorem Tiled.dst_pos (h : s.Tiled) (b b' : Buffer) :
    0 < ((s.task b b').mDstWidth : Int) ∧ 0 < ((s.task b b').mDstHeight : Int) := by
  have hwidth := h.even.dstWidth b b'
  have hheight := h.even.dstHeight b b'
  have hpos := h.target_pos
  rw [← hwidth, ← hheight] at hpos
  exact ⟨Int.natCast_pos.mpr (Nat.pos_of_mul_pos_left hpos.1), Int.natCast_pos.mpr (Nat.pos_of_mul_pos_left hpos.2)⟩

theorem Tiled.source_size (h : s.Tiled) (b b' : Buffer) :
    (s.source.width : Int) = s.columns * (s.task b b').mSrcWidth ∧
      (s.source.height : Int) = s.rows * (s.task b b').mSrcHeight := by
  rw [s.pieces_cast.1, s.pieces_cast.2, ← h.even.srcWidth b b', ← h.even.srcHeight b b']
  exact ⟨Int.natCast_mul _ _, Int.natCast_mul _ _⟩

theorem Tiled.target_size (h : s.Tiled) (b b' : Buffer) :
    (s.target.width : Int) =
        (if rotates s.transform then s.rows else s.columns) * (s.task b b').mDstWidth ∧
      (s.target.height : Int) =
        (if rotates s.transform then s.columns else s.rows) * (s.task b b').mDstHeight := by
  rw [s.targetPieces_cast.1, s.targetPieces_cast.2, ← h.even.dstWidth b b', ← h.even.dstHeight b b']
  exact ⟨Int.natCast_mul _ _, Int.natCast_mul _ _⟩

theorem Tiled.srcTiles_partition (h : s.Tiled) (b b' : Buffer) :
    Partitions (s.task b b').srcTiles (sheet s.source.width s.source.height) := by
  obtain ⟨hnodup, hcells⟩ := s.mem_srcPlane b b'
  obtain ⟨hw, hh⟩ := h.src_pos b b'
  rw [srcTiles_eq, (h.source_size b b').1, (h.source_size b b').2]
  exact partitions_cells hw hh hnodup hcells

theorem Tiled.dstTiles_partition (h : s.Tiled) (b b' : Buffer) :
    Partitions (s.task b b').dstTiles (sheet s.target.width s.target.height) := by
  obtain ⟨hnodup, hcells⟩ := s.mem_srcPlane b b'
  obtain ⟨hw, hh⟩ := h.dst_pos b b'
  rw [dstTiles_eq, (h.target_size b b').1, (h.target_size b b').2, dstPlane_eq b b' h.transform_ok]
  exact partitions_cells hw hh (List.Nodup.map moveCell_injective hnodup) (mem_map_moveCell hcells)

theorem pieceCount_ne (split : Bool) : (pieceCount split : ℚ) ≠ 0 := by
  cases split <;> norm_num [pieceCount]

/-- The motion of the stage is that of its grid. -/
theorem Tiled.motion_eq (h : s.Tiled) (b b' : Buffer) :
    let w : Int := (s.task b b').mSrcWidth
    let h : Int := (s.task b b').mSrcHeight
    let tw : Int := (s.task b b').mDstWidth
    let th : Int := (s.task b b').mDstHeight
    s.motion = stretch ((tw : ℚ) / (if rotates s.transform then h else w : Int))
        ((th : ℚ) / (if rotates s.transform then w else h : Int)) ∘
      place (hFlip s.transform) (vFlip s.transform) (rotates s.transform) ((s.columns : ℚ) * w)
        ((s.rows : ℚ) * h) := by
  intro w h' tw th
  obtain ⟨hw, hh⟩ := h.source_size b b'
  obtain ⟨htw, hth⟩ := h.target_size b b'
  have hw : (s.source.width : ℚ) = s.columns * w := by exact_mod_cast hw
  have hh : (s.source.height : ℚ) = s.rows * h' := by exact_mod_cast hh
  have hcolumns : (s.columns : ℚ) ≠ 0 := pieceCount_ne _
  have hrows : (s.rows : ℚ) ≠ 0 := pieceCount_ne _
  unfold motion turnedSize
  cases hr : rotates s.transform with
  | false =>
    rw [hr] at htw hth
    have htw : (s.target.width : ℚ) = s.columns * tw := by exact_mod_cast htw
    have hth : (s.target.height : ℚ) = s.rows * th := by exact_mod_cast hth
    simp only [Bool.false_eq_true, if_false]
    rw [htw, hth, hw, hh, mul_div_mul_left _ _ hcolumns, mul_div_mul_left _ _ hrows]
  | true =>
    rw [hr] at htw hth
    have htw : (s.target.width : ℚ) = s.rows * tw := by exact_mod_cast htw
    have hth : (s.target.height : ℚ) = s.columns * th := by exact_mod_cast hth
    simp only [if_true]
    rw [htw, hth, hw, hh, mul_div_mul_left _ _ hcolumns, mul_div_mul_left _ _ hrows]

/-- Each tile is placed where its own part of the image goes. -/
theorem Tiled.motion_tiles (h : s.Tiled) (b b' : Buffer) :
    List.Forall₂ (fun src dst => s.motion '' region src = region dst) (s.task b b').srcTiles
      (s.task b b').dstTiles := by
  obtain ⟨hw, hh⟩ := h.src_pos b b'
  obtain ⟨htw, hth⟩ := h.dst_pos b b'
  rw [srcTiles_eq, dstTiles_eq, dstPlane_eq b b' h.transform_ok, List.map_map,
    List.forall₂_map_left_iff, List.forall₂_map_right_iff, List.forall₂_same]
  intro c _
  rw [h.motion_eq b b']
  exact move_cell _ _ _ s.columns s.rows hw hh htw hth c

end Stage

section Results

variable {g : GiantMsclImpl} {stages : List Stage}

theorem stage_tiled (hchain : Chain g.mDstImage g.mTransform g.mSrcImage stages) {s : Stage}
    (hs : s ∈ stages) : s.Tiled := by
  obtain ⟨hsrc, htransform, heq⟩ := hchain.mem g.dst_accepted g.src_accepted g.transform_ok s hs
  have htarget : s.target.Accepted := by
    rw [heq]
    exact nextTarget_accepted _ hsrc g.dst_accepted
  refine ⟨?_, ?_, ?_, htransform⟩
  · rw [heq]
    exact nextStage_splitsEvenly g.dst_accepted hsrc
  · exact ⟨Nat.lt_of_lt_of_le (by decide) hsrc.width_least, Nat.lt_of_lt_of_le (by decide) hsrc.height_least⟩
  · exact ⟨Nat.lt_of_lt_of_le (by decide) htarget.width_least, Nat.lt_of_lt_of_le (by decide) htarget.height_least⟩

/-- **Tiles of a stage.**  They partition both images, and each tile of the source is turned,
    flipped and scaled to its tile of the target. -/
theorem stage_tiles (hchain : Chain g.mDstImage g.mTransform g.mSrcImage stages) {s : Stage}
    (hs : s ∈ stages) (b b' : Buffer) :
    Partitions (s.task b b').srcTiles (sheet s.source.width s.source.height) ∧
      Partitions (s.task b b').dstTiles (sheet s.target.width s.target.height) ∧
      List.Forall₂ (fun src dst => s.motion '' region src = region dst) (s.task b b').srcTiles
        (s.task b b').dstTiles := by
  have htiled := stage_tiled hchain hs
  refine ⟨htiled.srcTiles_partition b b', htiled.dstTiles_partition b b', ?_⟩
  exact htiled.motion_tiles b b'

/-- A landscape of 16K, turned upright. -/
def landscape : GiantMsclImpl :=
  { GiantMsclImpl.new with
    mSrcImage := ⟨16384, 4096, .YCRCB_420_SP⟩
    mDstImage := ⟨4096, 16384, .YCBCR_422_I⟩
    mTransform := HAL_TRANSFORM_ROT_90
    src_ok := by decide
    dst_ok := by decide
    transform_ok := by decide }

theorem landscape_tiles :
    let b := Buffer.given (1, 2) landscape.mSrcImage
    let b' := Buffer.given (3, 4) landscape.mDstImage
    let s := nextStage landscape.mTransform landscape.mSrcImage landscape.mDstImage
    Partitions (s.task b b').srcTiles (sheet 16384 4096) ∧
      Partitions (s.task b b').dstTiles (sheet 4096 16384) ∧
      List.Forall₂ (fun src dst => s.motion '' region src = region dst) (s.task b b').srcTiles
        (s.task b b').dstTiles :=
  stage_tiles (.last (by decide)) List.mem_cons_self _ _

end Results

end ExynosHal.GiantMscl
