/-
  ExynosHal/Tiling.lean
  =====================
  **Equal tiles of a sheet, and where they go when the sheet is moved.**

  A sheet of `n × m` equal cells is partitioned by them (`partitions_cells`).
  When the sheet is flipped, turned by a quarter and stretched to another size,
  every cell goes to a cell of the new sheet, and its place there depends on
  its place in the grid alone (`move_cell`).
-/
import ExynosHal.Rect
import Mathlib.Algebra.Order.Group.Pointwise.Interval
import Mathlib.Data.Set.Prod
import Mathlib.Tactic.FieldSimp
import Mathlib.Tactic.Ring

namespace ExynosHal.Tiling

open ExynosHal

/-! ### Partitions -/

/-- No gap and no overlap. -/
structure Partitions (tiles : List (Rect Int)) (r : Rect Int) : Prop where
  inside : ∀ t ∈ tiles, ∀ p ∈ t, p ∈ r
  covered : ∀ p ∈ r, ∃ t ∈ tiles, p ∈ t
  disjoint : tiles.Pairwise fun s t => ∀ p ∈ s, p ∉ t

def sheet (w h : Int) : Rect Int := ⟨0, 0, w, h⟩

/-- The cell in column `c.1` and row `c.2` of a grid of cells of one size. -/
def cell (w h : Int) (c : Int × Int) : Rect Int :=
  ⟨c.1 * w, c.2 * h, (c.1 + 1) * w, (c.2 + 1) * h⟩

def InGrid (n m : Int) (c : Int × Int) : Prop := 0 ≤ c.1 ∧ c.1 < n ∧ 0 ≤ c.2 ∧ c.2 < m

instance (n m : Int) (c : Int × Int) : Decidable (InGrid n m c) :=
  inferInstanceAs (Decidable (_ ∧ _ ∧ _ ∧ _))

section Cells

variable {w h : Int}

theorem mem_cell_iff (hw : 0 < w) (hh : 0 < h) {c p : Int × Int} :
    p ∈ cell w h c ↔ (p.1 / w, p.2 / h) = c := by
  rw [Rect.mem_def, Prod.ext_iff]
  simp only [cell, ← Int.le_ediv_iff_mul_le hw, ← Int.le_ediv_iff_mul_le hh,
    ← Int.ediv_lt_iff_lt_mul hw, ← Int.ediv_lt_iff_lt_mul hh]
  omega

theorem mem_sheet_iff (hw : 0 < w) (hh : 0 < h) {n m : Int} {p : Int × Int} :
    p ∈ sheet (n * w) (m * h) ↔ InGrid n m (p.1 / w, p.2 / h) := by
  rw [Rect.mem_def]
  simp only [sheet, InGrid, ← Int.ediv_lt_iff_lt_mul hw, ← Int.ediv_lt_iff_lt_mul hh,
    Int.ediv_nonneg_iff_of_pos hw, Int.ediv_nonneg_iff_of_pos hh]

/-- **Cells partition their sheet.** -/
theorem partitions_cells (hw : 0 < w) (hh : 0 < h) {n m : Int} {cs : List (Int × Int)}
    (hnodup : cs.Nodup) (hcs : ∀ c, c ∈ cs ↔ InGrid n m c) :
    Partitions (cs.map (cell w h)) (sheet (n * w) (m * h)) where
  inside := by
    intro t ht p hp
    obtain ⟨c, hc, rfl⟩ := List.mem_map.mp ht
    rw [mem_sheet_iff hw hh, (mem_cell_iff hw hh).mp hp]
    exact (hcs c).mp hc
  covered := by
    intro p hp
    refine ⟨cell w h (p.1 / w, p.2 / h), List.mem_map_of_mem ?_, (mem_cell_iff hw hh).mpr rfl⟩
    exact (hcs _).mpr ((mem_sheet_iff hw hh).mp hp)
  disjoint := by
    rw [List.pairwise_map]
    refine hnodup.imp ?_
    intro c d hne p hc hd
    rw [mem_cell_iff hw hh] at hc hd
    exact hne (hc.symm.trans hd)

end Cells

/-! ### Motions of a sheet -/

section Motions

variable {α : Type*}

/-- The points of a rectangle, its edges included. -/
def region [IntCast α] [Preorder α] (r : Rect Int) : Set (α × α) :=
  Set.Icc (r.left : α) r.right ×ˢ Set.Icc (r.top : α) r.bottom

/-- Flips a sheet of the given size in place. -/
def flipIn [Sub α] (fh fv : Bool) (w h : α) : α × α → α × α :=
  Prod.map (if fh then (w - ·) else id) (if fv then (h - ·) else id)

/-- Turns a sheet of the given height by a quarter, clockwise with y downwards. -/
def quarterIn [Sub α] (h : α) (p : α × α) : α × α := (h - p.2, p.1)

def place [Sub α] (fh fv r : Bool) (w h : α) (p : α × α) : α × α :=
  if r then quarterIn h (flipIn fh fv w h p) else flipIn fh fv w h p

def stretch [Mul α] (a b : α) : α × α → α × α := Prod.map (· * a) (· * b)

/-- Where the motion takes a cell of a grid of `n × m`. -/
def moveCell (fh fv r : Bool) (n m : Int) (c : Int × Int) : Int × Int :=
  let c := (if fh then n - 1 - c.1 else c.1, if fv then m - 1 - c.2 else c.2)
  if r then (m - 1 - c.2, c.1) else c

variable [Field α] [LinearOrder α] [IsStrictOrderedRing α]

theorem flip_image (f : Bool) (n w c : Int) :
    (if f then ((n : α) * w - ·) else id) '' Set.Icc ((c * w : Int) : α) ((c + 1) * w : Int) =
      Set.Icc (((if f then n - 1 - c else c) * w : Int) : α) (((if f then n - 1 - c else c) + 1) * w : Int) := by
  cases f with
  | false => exact Set.image_id _
  | true =>
    simp only [if_true]
    rw [Set.image_const_sub_Icc]
    congr 1 <;> push_cast <;> ring

theorem flipIn_cell (fh fv : Bool) (n m w h : Int) (c : Int × Int) :
    flipIn fh fv ((n : α) * w) ((m : α) * h) '' region (cell w h c) =
      region (cell w h (if fh then n - 1 - c.1 else c.1, if fv then m - 1 - c.2 else c.2)) := by
  rw [flipIn, region, Set.prodMap_image_prod]
  exact congrArg₂ _ (flip_image fh n w c.1) (flip_image fv m h c.2)

theorem quarterIn_cell (m w h : Int) (c : Int × Int) :
    quarterIn ((m : α) * h) '' region (cell w h c) = region (cell h w (m - 1 - c.2, c.1)) := by
  have hsplit : quarterIn ((m : α) * h) = Prod.map ((m : α) * h - ·) id ∘ Prod.swap := rfl
  rw [hsplit, Set.image_comp, region, Set.image_swap_prod, Set.prodMap_image_prod]
  exact congrArg₂ _ (flip_image true m h c.2) (flip_image false m w c.1)

theorem stretch_image {w : Int} (hw : 0 < w) {tw : Int} (htw : 0 < tw) (c : Int) :
    (· * ((tw : α) / w)) '' Set.Icc ((c * w : Int) : α) ((c + 1) * w : Int) =
      Set.Icc ((c * tw : Int) : α) ((c + 1) * tw : Int) := by
  have hw' : (0 : α) < w := Int.cast_pos.mpr hw
  have htw' : (0 : α) < tw := Int.cast_pos.mpr htw
  rw [Set.image_mul_right_Icc' _ _ (div_pos htw' hw')]
  congr 1 <;> push_cast <;> field_simp

theorem stretch_cell {w h tw th : Int} (hw : 0 < w) (hh : 0 < h) (htw : 0 < tw) (hth : 0 < th)
    (c : Int × Int) :
    stretch ((tw : α) / w) ((th : α) / h) '' region (cell w h c) = region (cell tw th c) := by
  rw [stretch, region, Set.prodMap_image_prod]
  exact congrArg₂ _ (stretch_image hw htw c.1) (stretch_image hh hth c.2)

/-- **A cell of the moved sheet.**  The cell at `c` is turned and stretched into the cell at
    `moveCell c`, whatever the size of the cells of the two sheets. -/
theorem move_cell (fh fv r : Bool) (n m : Int) {w h tw th : Int} (hw : 0 < w) (hh : 0 < h)
    (htw : 0 < tw) (hth : 0 < th) (c : Int × Int) :
    (stretch ((tw : α) / (if r then h else w : Int)) ((th : α) / (if r then w else h : Int)) ∘
        place fh fv r ((n : α) * w) ((m : α) * h)) '' region (cell w h c) =
      region (cell tw th (moveCell fh fv r n m c)) := by
  rw [Set.image_comp]
  cases r with
  | false =>
    have hplace : place fh fv false ((n : α) * w) ((m : α) * h) =
      flipIn fh fv ((n : α) * w) ((m : α) * h) := rfl
    rw [hplace, flipIn_cell]
    exact stretch_cell hw hh htw hth _
  | true =>
    have hplace : place fh fv true ((n : α) * w) ((m : α) * h) =
      quarterIn ((m : α) * h) ∘ flipIn fh fv ((n : α) * w) ((m : α) * h) := rfl
    rw [hplace, Set.image_comp, flipIn_cell, quarterIn_cell]
    exact stretch_cell hh hw htw hth _

end Motions

/-! ### Grids -/

section Grids

variable {fh fv r : Bool} {n m : Int}

theorem moveCell_injective : Function.Injective (moveCell fh fv r n m) := by
  intro c d h
  rw [Prod.ext_iff] at h ⊢
  cases fh <;> cases fv <;> cases r <;> simp only [moveCell] at h <;> grind

theorem moveCell_inGrid {c : Int × Int} (h : InGrid n m c) :
    InGrid (if r then m else n) (if r then n else m) (moveCell fh fv r n m c) := by
  unfold InGrid at h ⊢
  cases fh <;> cases fv <;> cases r <;> simp only [moveCell] <;> grind

theorem exists_moveCell (fh fv : Bool) {d : Int × Int} (h : InGrid (if r then m else n) (if r then n else m) d) :
    ∃ c, InGrid n m c ∧ moveCell fh fv r n m c = d := by
  let e := if r then (d.2, m - 1 - d.1) else d
  refine ⟨(if fh then n - 1 - e.1 else e.1, if fv then m - 1 - e.2 else e.2), ?_, ?_⟩
  · unfold InGrid at h ⊢
    cases fh <;> cases fv <;> cases r <;> grind
  · rw [Prod.ext_iff]
    cases fh <;> cases fv <;> cases r <;> simp only [moveCell] <;> grind

/-- The cells of the moved sheet are those that the cells are moved to. -/
theorem mem_map_moveCell {cs : List (Int × Int)} (hcs : ∀ c, c ∈ cs ↔ InGrid n m c) (d : Int × Int) :
    d ∈ cs.map (moveCell fh fv r n m) ↔ InGrid (if r then m else n) (if r then n else m) d := by
  rw [List.mem_map]
  constructor
  · rintro ⟨c, hc, rfl⟩
    exact moveCell_inGrid ((hcs c).mp hc)
  · intro hd
    obtain ⟨c, hc, rfl⟩ := exists_moveCell fh fv hd
    exact ⟨c, (hcs c).mpr hc, rfl⟩

end Grids

end ExynosHal.Tiling
