/-
  ExynosHal/CscMatrices.lean
  ==========================
  **The colour conversion of a frame of the 9810 blitter.**

  `CSCMatrixWriter` shares at most four matrices between the YCbCr layers of a
  frame.  A layer that comes first to its matrix writes it, a later one finds it
  there.  Every matrix stays where it was written, so a layer gets its own
  coefficients unless its data space is of a deprecated kind, whose type the
  writer does not read.  The dither bit is set by the layer that comes first,
  whatever its format (`matrices_meet_iff`).
-/
import ExynosHal.AcrylFormats
import Mathlib.Data.Finset.Card

namespace ExynosHal.CscMatrices

open ExynosHal ExynosHal.AcrylFormats

/-! ### Registers and formats -/

def G2D_DATAFMT_MASK : BitVec 32 := 0xf0000
def G2D_DATAFMT_YUV_MIN : BitVec 32 := 0x80000
def G2D_DATAFMT_YUV420SP82_9810 : BitVec 32 := 0xd0000
def G2D_DATAFMT_YUV_MAX : BitVec 32 := 0xd0000
def G2D_FMT_YCBCR_BITDEPTH_MASK : BitVec 32 := 0x30000000
def G2D_FMT_YCBCR_82BIT : BitVec 32 := 0x20000000
def G2D_YCBCRMODE_DITHER : BitVec 32 := 4
def G2D_LAYER_YCBCRMODE_WIDE : BitVec 32 := 0x10
def G2D_LAYER_YCBCRMODE_OFFX : BitVec 32 := 0x200
def G2D_LAYER_YCBCRMODE_OFFY : BitVec 32 := 0x2000

def G2D_CSC_RANGE_COUNT : Nat := 2
def CSC_MATRIX_MAX_COUNT : Nat := 4
def CSC_MATRIX_INVALID_INDEX : Nat := 200
def CSC_MATRIX_SRC_BASE : Nat := 0x2000
def CSC_MATRIX_DST_BASE : Nat := 0x2100
def CSC_MATRIX_REGISTER_COUNT : Nat := 9
def CSC_MATRIX_REGISTER_SIZE : Nat := CSC_MATRIX_REGISTER_COUNT * 4

def HAL_DATASPACE_STANDARD_BT601_625_UNADJUSTED : BitVec 32 := 0x30000
def HAL_DATASPACE_STANDARD_BT601_525_UNADJUSTED : BitVec 32 := 0x50000
def HAL_DATASPACE_STANDARD_DCI_P3 : BitVec 32 := 0xa0000

/-- The data spaces that every compositor with YCbCr formats supports. -/
def all_hwc_dataspaces : List (BitVec 32) :=
  [HAL_DATASPACE_STANDARD_BT709, HAL_DATASPACE_STANDARD_BT2020, HAL_DATASPACE_STANDARD_BT601_625,
    HAL_DATASPACE_STANDARD_BT601_525, HAL_DATASPACE_STANDARD_BT601_625_UNADJUSTED,
    HAL_DATASPACE_STANDARD_BT601_525_UNADJUSTED, HAL_DATASPACE_STANDARD_DCI_P3,
    HAL_DATASPACE_STANDARD_FILM, 0].flatMap
      (fun standard => [standard, standard ||| HAL_DATASPACE_RANGE_FULL,
        standard ||| HAL_DATASPACE_RANGE_LIMITED]) ++
    [HAL_DATASPACE_SRGB, HAL_DATASPACE_SRGB_LINEAR, HAL_DATASPACE_JFIF, HAL_DATASPACE_BT601_525,
      HAL_DATASPACE_BT601_625, HAL_DATASPACE_BT709]

/-- `isDataspaceSupported`, which leaves the transfer function out. -/
def isDataspaceSupported (dataspace : BitVec 32) : Bool :=
  all_hwc_dataspaces.contains (dataspace &&& ~~~HAL_DATASPACE_TRANSFER_MASK)

/-- What the writer reads of an image: `G2DSFR_IMG_COLORMODE` and the data space. -/
structure Image where
  g2dfmt : BitVec 32
  dataspace : BitVec 32
deriving DecidableEq, Repr

structure G2dReg where
  offset : Nat
  value : BitVec 32
deriving DecidableEq, Repr

abbrev Coefficients := Vector (BitVec 16) 9

/-- Signed -1 is 255, for a plain `char` of the target is unsigned. -/
def csc_std_to_matrix_index : List Nat := [1, 1, 0, 0, 0, 0, 2, 2, 255, 1, 3, 255]

def YCbCr2sRGBCoefficients : List Coefficients :=
  [#v[0x0254, 0x0000, 0x0331, 0x0254, 0xFF37, 0xFE60, 0x0254, 0x0409, 0x0000],  -- 601 limited
   #v[0x0200, 0x0000, 0x02BE, 0x0200, 0xFF54, 0xFE9B, 0x0200, 0x0377, 0x0000],  -- 601 full
   #v[0x0254, 0x0000, 0x0396, 0x0254, 0xFF93, 0xFEEF, 0x0254, 0x043A, 0x0000],  -- 709 limited
   #v[0x0200, 0x0000, 0x0314, 0x0200, 0xFFA2, 0xFF16, 0x0200, 0x03A1, 0x0000],  -- 709 full
   #v[0x0254, 0x0000, 0x035B, 0x0254, 0xFFA0, 0xFEB3, 0x0254, 0x0449, 0x0000],  -- 2020 limited
   #v[0x0200, 0x0000, 0x02E2, 0x0200, 0xFFAE, 0xFEE2, 0x0200, 0x03AE, 0x0000],  -- 2020 full
   #v[0x0254, 0x0000, 0x03AE, 0x0254, 0xFF96, 0xFEEE, 0x0254, 0x0456, 0x0000],  -- DCI-P3 limited
   #v[0x0200, 0x0000, 0x0329, 0x0200, 0xFFA5, 0xFF15, 0x0200, 0x03B9, 0x0000]]  -- DCI-P3 full

def sRGB2YCbCrCoefficients : List Coefficients :=
  [#v[0x0083, 0x0102, 0x0032, 0xFFB4, 0xFF6B, 0x00E1, 0x00E1, 0xFF44, 0xFFDB],  -- 601 limited
   #v[0x0099, 0x012D, 0x003A, 0xFFA8, 0xFF53, 0x0106, 0x0106, 0xFF25, 0xFFD5],  -- 601 full
   #v[0x005D, 0x013A, 0x0020, 0xFFCC, 0xFF53, 0x00E1, 0x00E1, 0xFF34, 0xFFEB],  -- 709 limited
   #v[0x006D, 0x016E, 0x0025, 0xFFC4, 0xFF36, 0x0106, 0x0106, 0xFF12, 0xFFE8],  -- 709 full
   #v[0x0074, 0x012A, 0x001A, 0xFFC1, 0xFF5A, 0x00E1, 0x00E1, 0xFF31, 0xFFEE],  -- 2020 limited
   #v[0x0087, 0x015B, 0x001E, 0xFFB7, 0xFF43, 0x0106, 0x0106, 0xFF0F, 0xFFEB],  -- 2020 full
   #v[0x006B, 0x0171, 0x0023, 0xFFC6, 0xFF3A, 0x0100, 0x0100, 0xFF16, 0xFFEA],  -- DCI-P3 limited
   #v[0x006B, 0x0171, 0x0023, 0xFFC6, 0xFF3A, 0x0100, 0x0100, 0xFF16, 0xFFEA]]  -- DCI-P3 full

def g2dfmt_is_ycbcr (g2dfmt : BitVec 32) : Bool :=
  G2D_DATAFMT_YUV_MIN ≤ g2dfmt &&& G2D_DATAFMT_MASK && g2dfmt &&& G2D_DATAFMT_MASK ≤ G2D_DATAFMT_YUV_MAX

def rangeFull (dataspace : BitVec 32) : Bool := dataspace &&& HAL_DATASPACE_RANGE_FULL != 0

/-! ### The writer -/

/-- The slots of the source matrices, of which `mMatrixCount` are in use, and the index of the
    target's matrix. -/
structure CSCMatrixWriter where
  mMatrixIndex : List Nat
  mMatrixTargetIndex : Nat
  bounded : mMatrixIndex.length ≤ CSC_MATRIX_MAX_COUNT

def CSCMatrixWriter.mMatrixCount (w : CSCMatrixWriter) : Nat := w.mMatrixIndex.length

def findMatrixIndex (dataspace : BitVec 32) : Nat :=
  match csc_std_to_matrix_index[((dataspace &&& HAL_DATASPACE_STANDARD_MASK) >>> 16).toNat]? with
  | none => CSC_MATRIX_INVALID_INDEX
  | some std => std * G2D_CSC_RANGE_COUNT + (if rangeFull dataspace then 1 else 0)

/-- The constructor, with what it leaves in the command of the target. -/
def CSCMatrixWriter.new (target : Image) (command : BitVec 32) : CSCMatrixWriter × BitVec 32 :=
  if g2dfmt_is_ycbcr target.g2dfmt then
    (⟨[], findMatrixIndex target.dataspace, Nat.zero_le _⟩,
      if rangeFull target.dataspace then G2D_LAYER_YCBCRMODE_WIDE else command)
  else (⟨[], CSC_MATRIX_INVALID_INDEX, Nat.zero_le _⟩, command)

/-- A matrix more, in the next slot. -/
def CSCMatrixWriter.add (w : CSCMatrixWriter) (spcidx : Nat)
    (h : w.mMatrixCount ≠ CSC_MATRIX_MAX_COUNT) : CSCMatrixWriter where
  mMatrixIndex := w.mMatrixIndex ++ [spcidx]
  mMatrixTargetIndex := w.mMatrixTargetIndex
  bounded := by
    have hle := w.bounded
    have hne : w.mMatrixIndex.length ≠ CSC_MATRIX_MAX_COUNT := h
    simp only [List.length_append, List.length_singleton]
    omega

/-- The writer and the command after a layer, or nothing if the layer is refused. -/
def CSCMatrixWriter.configure (w : CSCMatrixWriter) (layer : Image) (command : BitVec 32) :
    Option (CSCMatrixWriter × BitVec 32) :=
  if !g2dfmt_is_ycbcr layer.g2dfmt then some (w, command)
  else
    let spcidx := findMatrixIndex layer.dataspace
    if spcidx = CSC_MATRIX_INVALID_INDEX then none
    else
      let command := if rangeFull layer.dataspace then G2D_LAYER_YCBCRMODE_WIDE else command
      match w.mMatrixIndex.idxOf? spcidx with
      | some i => some (w, command ||| BitVec.ofNat 32 i)
      | none =>
        if h : w.mMatrixCount = CSC_MATRIX_MAX_COUNT then none
        else
          let command := command ||| BitVec.ofNat 32 w.mMatrixCount
          some (w.add spcidx h,
            if layer.g2dfmt &&& G2D_DATAFMT_YUV420SP82_9810 != 0 then command ||| G2D_YCBCRMODE_DITHER
            else command)

def CSCMatrixWriter.getRegisterCount (w : CSCMatrixWriter) : Nat :=
  CSC_MATRIX_REGISTER_COUNT * w.mMatrixCount +
    (if w.mMatrixTargetIndex ≠ CSC_MATRIX_INVALID_INDEX then CSC_MATRIX_REGISTER_COUNT else 0)

def writeSingle (base : Nat) (matrix : Coefficients) : List G2dReg :=
  (List.finRange 9).map fun idx : Fin 9 => ⟨base + 4 * idx.val, (matrix.get idx).setWidth 32⟩

/-- The matrices of the slots from `m` on; nothing if an index is out of the table. -/
def writeSources : Nat → List Nat → Option (List G2dReg)
  | _, [] => some []
  | m, spcidx :: rest => do
    let matrix ← YCbCr2sRGBCoefficients[spcidx]?
    let regs ← writeSources (m + 1) rest
    return writeSingle (CSC_MATRIX_SRC_BASE + m * CSC_MATRIX_REGISTER_SIZE) matrix ++ regs

def CSCMatrixWriter.write (w : CSCMatrixWriter) : Option (List G2dReg) := do
  let target ←
    if w.mMatrixTargetIndex ≠ CSC_MATRIX_INVALID_INDEX then
      (sRGB2YCbCrCoefficients[w.mMatrixTargetIndex]?).map (writeSingle CSC_MATRIX_DST_BASE)
    else some []
  let sources ← writeSources 0 w.mMatrixIndex
  return target ++ sources

/-! ### A frame -/

/-- The layers in turn.  `prepareSource` has left 0 in the command of each. -/
def configureLayers (w : CSCMatrixWriter) : List Image → Option (CSCMatrixWriter × List (BitVec 32))
  | [] => some (w, [])
  | layer :: layers => do
    let (w, mode) ← w.configure layer 0
    let (w, modes) ← configureLayers w layers
    return (w, mode :: modes)

structure Frame where
  targetMode : BitVec 32
  modes : List (BitVec 32)
  num_extra_regs : Nat
  /-- What is written, or nothing if a table is read out of its bounds. -/
  extra : Option (List G2dReg)
deriving DecidableEq, Repr

/-- The part of `executeG2D` that is about colour conversion; a refused layer is the end of it. -/
def executeCsc (target : Image) (layers : List Image) : Option Frame := do
  let (w, command) := CSCMatrixWriter.new target 0
  let (w, modes) ← configureLayers w layers
  return {
    targetMode := command ||| (G2D_LAYER_YCBCRMODE_OFFX ||| G2D_LAYER_YCBCRMODE_OFFY)
    modes := modes
    num_extra_regs := w.getRegisterCount
    extra := w.write }

/-! ### What a frame should be -/

inductive Standard where
  | bt601 | bt709 | bt2020 | dciP3
deriving DecidableEq, Repr

/-- The standard of a data space and whether its range is the full one.  A deprecated data space
    is told by its type alone, and an unspecified standard is BT.709. -/
def colorimetry (dataspace : BitVec 32) : Option (Standard × Bool) :=
  let legacy := dataspace &&& HAL_DATASPACE_LEGACY_TYPE_MASK
  if legacy = HAL_DATASPACE_SRGB ∨ legacy = HAL_DATASPACE_SRGB_LINEAR then some (.bt709, true)
  else if legacy = HAL_DATASPACE_JFIF then some (.bt601, true)
  else if legacy = HAL_DATASPACE_BT601_525 ∨ legacy = HAL_DATASPACE_BT601_625 then some (.bt601, false)
  else if legacy = HAL_DATASPACE_BT709 then some (.bt709, false)
  else
    let full := dataspace &&& HAL_DATASPACE_RANGE_MASK = HAL_DATASPACE_RANGE_FULL
    match ((dataspace &&& HAL_DATASPACE_STANDARD_MASK) >>> 16).toNat with
    | 0 | 1 | 9 => some (.bt709, full)
    | 2 | 3 | 4 | 5 => some (.bt601, full)
    | 6 | 7 => some (.bt2020, full)
    | 10 => some (.dciP3, full)
    | _ => none

/-- The row of the tables that is for a standard and a range. -/
def row : Standard × Bool → Nat
  | (standard, full) =>
    2 * (match standard with | .bt601 => 0 | .bt709 => 1 | .bt2020 => 2 | .dciP3 => 3) +
      (if full then 1 else 0)

/-- The layers whose 8-bit part comes dithered: the 8+2 formats of the 9810 and of the 9820. -/
def asksDither (g2dfmt : BitVec 32) : Bool :=
  g2dfmt_is_ycbcr g2dfmt && (g2dfmt &&& G2D_DATAFMT_MASK == G2D_DATAFMT_YUV420SP82_9810 ||
    g2dfmt &&& G2D_FMT_YCBCR_BITDEPTH_MASK == G2D_FMT_YCBCR_82BIT)

/-- The matrix that a mode selects. -/
def selected (mode : BitVec 32) : Nat := (mode &&& 3).toNat

def dithers (mode : BitVec 32) : Bool := mode &&& G2D_YCBCRMODE_DITHER != 0

/-- The registers after all of `regs` are written, one after the other. -/
def load (regs : List G2dReg) : Nat → Option (BitVec 32) :=
  regs.foldl (fun file reg offset => if offset = reg.offset then some reg.value else file offset)
    fun _ => none

/-- The registers that the mode selects hold the coefficients of the layer's own data space. -/
def OwnMatrix (regs : List G2dReg) (layer : Image) (mode : BitVec 32) : Prop :=
  ∃ own coefficients, colorimetry layer.dataspace = some own ∧
    YCbCr2sRGBCoefficients[row own]? = some coefficients ∧
    ∀ k : Fin 9, load regs (CSC_MATRIX_SRC_BASE + selected mode * CSC_MATRIX_REGISTER_SIZE + 4 * k) =
      some ((coefficients.get k).setWidth 32)

/-- A frame is right when nothing is out of bounds, every layer has a mode, every YCbCr layer has
    its own matrix at the end, and it is dithered when its own format asks for it. -/
structure Meets (layers : List Image) (frame : Frame) : Prop where
  modes : frame.modes.length = layers.length
  bounds : ∃ regs, frame.extra = some regs ∧ regs.length = frame.num_extra_regs
  matrix : ∀ regs ∈ frame.extra, ∀ (i : Nat) (layer : Image) (mode : BitVec 32),
    layers[i]? = some layer → frame.modes[i]? = some mode → g2dfmt_is_ycbcr layer.g2dfmt = true →
      OwnMatrix regs layer mode
  dither : ∀ (i : Nat) (layer : Image) (mode : BitVec 32), layers[i]? = some layer →
    frame.modes[i]? = some mode → (dithers mode = true ↔ asksDither layer.g2dfmt = true)

/-- The matrices that layers need. -/
def needed (layers : List Image) : List Nat :=
  (layers.filter fun layer => g2dfmt_is_ycbcr layer.g2dfmt).map fun layer => findMatrixIndex layer.dataspace

/-- The condition on the layers: a deprecated data space is that of BT.709, and the layers that
    come first to their matrix are those of the 8+2 formats. -/
structure Regular (layers : List Image) : Prop where
  matrix : ∀ layer ∈ layers, g2dfmt_is_ycbcr layer.g2dfmt = true →
    layer.dataspace &&& HAL_DATASPACE_LEGACY_TYPE_MASK = 0 ∨
      layer.dataspace &&& HAL_DATASPACE_LEGACY_TYPE_MASK = HAL_DATASPACE_BT709
  dither : ∀ (i : Nat) (layer : Image), layers[i]? = some layer → g2dfmt_is_ycbcr layer.g2dfmt = true →
    (findMatrixIndex layer.dataspace ∉ needed (layers.take i) ↔ asksDither layer.g2dfmt = true)

/-! ### Data spaces -/

section Dataspace

variable {dataspace : BitVec 32}

theorem and_transfer {mask : BitVec 32} (h : ~~~HAL_DATASPACE_TRANSFER_MASK &&& mask = mask) :
    dataspace &&& ~~~HAL_DATASPACE_TRANSFER_MASK &&& mask = dataspace &&& mask := by
  rw [BitVec.and_assoc, h]

theorem and_transfer_standard :
    dataspace &&& ~~~HAL_DATASPACE_TRANSFER_MASK &&& HAL_DATASPACE_STANDARD_MASK =
      dataspace &&& HAL_DATASPACE_STANDARD_MASK := and_transfer (by decide)

theorem and_transfer_legacy :
    dataspace &&& ~~~HAL_DATASPACE_TRANSFER_MASK &&& HAL_DATASPACE_LEGACY_TYPE_MASK =
      dataspace &&& HAL_DATASPACE_LEGACY_TYPE_MASK := and_transfer (by decide)

/-- The transfer function has no part in the choice of a matrix. -/
theorem findMatrixIndex_transfer :
    findMatrixIndex (dataspace &&& ~~~HAL_DATASPACE_TRANSFER_MASK) = findMatrixIndex dataspace := by
  have hfull : rangeFull (dataspace &&& ~~~HAL_DATASPACE_TRANSFER_MASK) = rangeFull dataspace := by
    unfold rangeFull
    rw [and_transfer (by decide)]
  unfold findMatrixIndex
  rw [and_transfer_standard, hfull]

theorem colorimetry_transfer :
    colorimetry (dataspace &&& ~~~HAL_DATASPACE_TRANSFER_MASK) = colorimetry dataspace := by
  have hrange : dataspace &&& ~~~HAL_DATASPACE_TRANSFER_MASK &&& HAL_DATASPACE_RANGE_MASK =
      dataspace &&& HAL_DATASPACE_RANGE_MASK := and_transfer (by decide)
  simp only [colorimetry, and_transfer_standard, and_transfer_legacy, hrange]

/-- A supported data space has its coefficients, and the writer takes those of its own unless it
    is of a deprecated kind other than BT.709. -/
theorem isDataspaceSupported_matrix (h : isDataspaceSupported dataspace = true) :
    ∃ own, colorimetry dataspace = some own ∧ findMatrixIndex dataspace < 8 ∧
      (findMatrixIndex dataspace = row own ↔
        dataspace &&& HAL_DATASPACE_LEGACY_TYPE_MASK = 0 ∨
          dataspace &&& HAL_DATASPACE_LEGACY_TYPE_MASK = HAL_DATASPACE_BT709) := by
  have hall : (all_hwc_dataspaces.all fun key => (colorimetry key).any fun own =>
      decide (findMatrixIndex key < 8 ∧
        (findMatrixIndex key = row own ↔ key &&& HAL_DATASPACE_LEGACY_TYPE_MASK = 0 ∨
          key &&& HAL_DATASPACE_LEGACY_TYPE_MASK = HAL_DATASPACE_BT709))) = true := by
    decide +kernel
  have hmem := List.contains_iff_mem.mp h
  have hkey := List.all_eq_true.mp hall _ hmem
  rw [colorimetry_transfer, findMatrixIndex_transfer, and_transfer_legacy, Option.any_eq_true] at hkey
  obtain ⟨own, hown, hdecide⟩ := hkey
  exact ⟨own, hown, of_decide_eq_true hdecide⟩

end Dataspace

/-- No two rows of the table are the same. -/
theorem coefficients_injective {i j : Nat} (hi : i < 8)
    (h : YCbCr2sRGBCoefficients[i]? = YCbCr2sRGBCoefficients[j]?) : i = j := by
  have hnodup : YCbCr2sRGBCoefficients.Nodup := by decide
  exact (List.getElem?_inj hi hnodup).mp h

/-! ### Registers -/

section Registers

variable {regs : List G2dReg} {offset : Nat}

theorem load_append (before after : List G2dReg) (h : offset ∉ after.map G2dReg.offset) :
    load (before ++ after) offset = load before offset := by
  unfold load
  rw [List.foldl_append]
  generalize before.foldl _ _ = file
  induction after generalizing file with
  | nil => rfl
  | cons reg after ih =>
    simp only [List.map_cons, List.mem_cons, not_or] at h
    rw [List.foldl_cons, ih h.2, if_neg h.1]

/-- What no later write is for stays as it was written. -/
theorem load_of_mem {reg : G2dReg} (hnodup : (regs.map G2dReg.offset).Nodup) (h : reg ∈ regs) :
    load regs reg.offset = some reg.value := by
  obtain ⟨before, after, rfl⟩ := List.append_of_mem h
  have hafter : reg.offset ∉ after.map G2dReg.offset := by
    rw [List.map_append, List.map_cons] at hnodup
    exact (List.nodup_cons.mp (List.nodup_append.mp hnodup).2.1).1
  have hsplit : before ++ reg :: after = (before ++ [reg]) ++ after := by simp
  rw [hsplit, load_append _ _ hafter]
  simp [load]

theorem mem_writeSingle {base : Nat} {matrix : Coefficients} {reg : G2dReg} :
    reg ∈ writeSingle base matrix ↔
      ∃ idx : Fin 9, reg = ⟨base + 4 * idx.val, (matrix.get idx).setWidth 32⟩ := by
  simp only [writeSingle, List.mem_map, List.mem_finRange, true_and, eq_comm]

theorem length_writeSingle (base : Nat) (matrix : Coefficients) : (writeSingle base matrix).length = 9 := by
  simp [writeSingle]

theorem writeSingle_nodup (base : Nat) (matrix : Coefficients) :
    ((writeSingle base matrix).map G2dReg.offset).Nodup := by
  unfold writeSingle
  rw [List.map_map]
  apply List.Nodup.map _ (List.nodup_finRange 9)
  intro a b hab
  simp only [Function.comp_apply] at hab
  apply Fin.ext
  omega

end Registers

/-! ### Modes -/

/-- Every YCbCr format shares a bit with the 8+2 format of the 9810. -/
theorem and_82_of_ycbcr {g2dfmt : BitVec 32} (h : g2dfmt_is_ycbcr g2dfmt = true) :
    (g2dfmt &&& G2D_DATAFMT_YUV420SP82_9810 != 0) = true := by
  rw [bne_iff_ne]
  intro hzero
  have hmask : g2dfmt &&& G2D_DATAFMT_MASK = g2dfmt &&& 0x20000 := by
    have hsplit : G2D_DATAFMT_MASK = G2D_DATAFMT_YUV420SP82_9810 ||| 0x20000 := by decide
    rw [hsplit, BitVec.and_or_distrib_left, hzero]
    exact BitVec.zero_or
  have hle : (g2dfmt &&& 0x20000).toNat ≤ 0x20000 := by
    rw [BitVec.toNat_and]
    exact Nat.and_le_right
  rw [g2dfmt_is_ycbcr, hmask, Bool.and_eq_true, decide_eq_true_eq, decide_eq_true_eq] at h
  have hmin : G2D_DATAFMT_YUV_MIN.toNat ≤ (g2dfmt &&& 0x20000).toNat := h.1
  have hval : G2D_DATAFMT_YUV_MIN.toNat = 0x80000 := rfl
  omega

theorem mode_facts (full : Bool) {m : Nat} (h : m < CSC_MATRIX_MAX_COUNT) :
    let mode := (if full then G2D_LAYER_YCBCRMODE_WIDE else 0) ||| BitVec.ofNat 32 m
    selected mode = m ∧ dithers mode = false ∧
      selected (mode ||| G2D_YCBCRMODE_DITHER) = m ∧ dithers (mode ||| G2D_YCBCRMODE_DITHER) = true := by
  have hcases : m = 0 ∨ m = 1 ∨ m = 2 ∨ m = 3 := by
    unfold CSC_MATRIX_MAX_COUNT at h
    omega
  rcases hcases with rfl | rfl | rfl | rfl <;> cases full <;> decide

/-! ### A layer -/

/-- What the configuration of a YCbCr layer does. -/
structure Configured (w w' : CSCMatrixWriter) (spcidx : Nat) (mode : BitVec 32) : Prop where
  kept : w.mMatrixIndex <+: w'.mMatrixIndex
  nodup : w.mMatrixIndex.Nodup → w'.mMatrixIndex.Nodup
  target : w'.mMatrixTargetIndex = w.mMatrixTargetIndex
  slot : w'.mMatrixIndex[selected mode]? = some spcidx
  member : ∀ x, x ∈ w'.mMatrixIndex ↔ x ∈ w.mMatrixIndex ∨ x = spcidx
  dither : dithers mode = true ↔ spcidx ∉ w.mMatrixIndex

section Layer

variable {w w' : CSCMatrixWriter} {layer : Image} {mode : BitVec 32}

theorem configure_plain (h : g2dfmt_is_ycbcr layer.g2dfmt = false) :
    w.configure layer 0 = some (w, 0) := by
  simp [CSCMatrixWriter.configure, h]

/-- A YCbCr layer that is not refused finds its matrix or adds it. -/
theorem configure_ycbcr (hfmt : g2dfmt_is_ycbcr layer.g2dfmt = true)
    (h : w.configure layer 0 = some (w', mode)) :
    Configured w w' (findMatrixIndex layer.dataspace) mode := by
  unfold CSCMatrixWriter.configure at h
  simp only [hfmt, and_82_of_ycbcr hfmt, Bool.not_true, Bool.false_eq_true, if_false, if_true] at h
  by_cases hvalid : findMatrixIndex layer.dataspace = CSC_MATRIX_INVALID_INDEX
  · rw [if_pos hvalid] at h
    cases h
  rw [if_neg hvalid] at h
  cases hidx : w.mMatrixIndex.idxOf? (findMatrixIndex layer.dataspace) with
  | some i =>
    rw [hidx] at h
    obtain ⟨rfl, rfl⟩ := Prod.mk.inj (Option.some.inj h)
    obtain ⟨hi, hget, -⟩ := List.idxOf?_eq_some_iff.mp hidx
    obtain ⟨hselected, hplain, -, -⟩ :=
      mode_facts (rangeFull layer.dataspace) (Nat.lt_of_lt_of_le hi w.bounded)
    have hmem : findMatrixIndex layer.dataspace ∈ w.mMatrixIndex := hget ▸ List.getElem_mem hi
    constructor
    · exact List.prefix_rfl
    · exact id
    · rfl
    · rw [hselected, List.getElem?_eq_getElem hi, hget]
    · intro x
      constructor
      · exact Or.inl
      · rintro (hx | rfl)
        · exact hx
        · exact hmem
    · rw [hplain]
      exact ⟨(fun hfalse => nomatch hfalse), fun hnot => absurd hmem hnot⟩
  | none =>
    rw [hidx] at h
    have hnew := List.idxOf?_eq_none_iff.mp hidx
    by_cases hroom : w.mMatrixCount = CSC_MATRIX_MAX_COUNT
    · simp only [hroom, dite_true] at h
      cases h
    simp only [hroom, dite_false] at h
    obtain ⟨rfl, rfl⟩ := Prod.mk.inj (Option.some.inj h)
    have hlt : w.mMatrixCount < CSC_MATRIX_MAX_COUNT := Nat.lt_of_le_of_ne w.bounded hroom
    obtain ⟨-, -, hselected, hdither⟩ := mode_facts (rangeFull layer.dataspace) hlt
    constructor
    · exact List.prefix_append _ _
    · intro hnodup
      exact List.nodup_append.mpr ⟨hnodup, List.nodup_singleton _, by
        intro a ha b hb
        rw [List.mem_singleton] at hb
        rintro rfl
        exact hnew (hb ▸ ha)⟩
    · rfl
    · rw [hselected]
      simp [CSCMatrixWriter.add, CSCMatrixWriter.mMatrixCount]
    · intro x
      simp [CSCMatrixWriter.add]
    · rw [hdither]
      exact ⟨fun _ => hnew, fun _ => rfl⟩

end Layer

/-! ### All layers -/

/-- What the configuration of layers in turn does. -/
structure ConfiguredAll (w w' : CSCMatrixWriter) (layers : List Image) (modes : List (BitVec 32)) :
    Prop where
  kept : w.mMatrixIndex <+: w'.mMatrixIndex
  target : w'.mMatrixTargetIndex = w.mMatrixTargetIndex
  member : ∀ x ∈ w'.mMatrixIndex, x ∈ w.mMatrixIndex ∨ x ∈ needed layers
  length : modes.length = layers.length
  plain : ∀ (i : Nat) (layer : Image) (mode : BitVec 32), layers[i]? = some layer → modes[i]? = some mode →
    g2dfmt_is_ycbcr layer.g2dfmt = false → mode = 0
  slot : ∀ (i : Nat) (layer : Image) (mode : BitVec 32), layers[i]? = some layer → modes[i]? = some mode →
    g2dfmt_is_ycbcr layer.g2dfmt = true →
      w'.mMatrixIndex[selected mode]? = some (findMatrixIndex layer.dataspace)
  dither : ∀ (i : Nat) (layer : Image) (mode : BitVec 32), layers[i]? = some layer → modes[i]? = some mode →
    g2dfmt_is_ycbcr layer.g2dfmt = true → (dithers mode = true ↔
      findMatrixIndex layer.dataspace ∉ w.mMatrixIndex ++ needed (layers.take i))

section Layers

variable {w w' : CSCMatrixWriter} {layer : Image} {layers : List Image} {modes : List (BitVec 32)}

theorem needed_cons_plain (h : g2dfmt_is_ycbcr layer.g2dfmt = false) :
    needed (layer :: layers) = needed layers := by
  simp [needed, h]

theorem needed_cons_ycbcr (h : g2dfmt_is_ycbcr layer.g2dfmt = true) :
    needed (layer :: layers) = findMatrixIndex layer.dataspace :: needed layers := by
  simp [needed, h]

theorem exists_of_mem_needed {x : Nat} (h : x ∈ needed layers) :
    ∃ layer ∈ layers, findMatrixIndex layer.dataspace = x := by
  obtain ⟨layer, hlayer, rfl⟩ := List.mem_map.mp h
  exact ⟨layer, (List.mem_filter.mp hlayer).1, rfl⟩

theorem ConfiguredAll.cons_plain (h : g2dfmt_is_ycbcr layer.g2dfmt = false)
    (hall : ConfiguredAll w w' layers modes) : ConfiguredAll w w' (layer :: layers) (0 :: modes) where
  kept := hall.kept
  target := hall.target
  member := by
    rw [needed_cons_plain h]
    exact hall.member
  length := by simp [hall.length]
  plain := by
    intro i l mode hl hm hfmt
    cases i with
    | zero => exact (Option.some.inj hm).symm
    | succ i => exact hall.plain i l mode hl hm hfmt
  slot := by
    intro i l mode hl hm hfmt
    cases i with
    | zero =>
      cases hl
      rw [h] at hfmt
      cases hfmt
    | succ i => exact hall.slot i l mode hl hm hfmt
  dither := by
    intro i l mode hl hm hfmt
    cases i with
    | zero =>
      cases hl
      rw [h] at hfmt
      cases hfmt
    | succ i =>
      rw [List.take_succ_cons, needed_cons_plain h]
      exact hall.dither i l mode hl hm hfmt

theorem ConfiguredAll.cons_ycbcr {w₁ : CSCMatrixWriter} {first : BitVec 32}
    (h : g2dfmt_is_ycbcr layer.g2dfmt = true)
    (hone : Configured w w₁ (findMatrixIndex layer.dataspace) first)
    (hall : ConfiguredAll w₁ w' layers modes) : ConfiguredAll w w' (layer :: layers) (first :: modes) where
  kept := hone.kept.trans hall.kept
  target := hall.target.trans hone.target
  member := by
    intro x hx
    rw [needed_cons_ycbcr h, List.mem_cons]
    rcases hall.member x hx with hold | hnew
    · rcases (hone.member x).mp hold with hold | rfl
      · exact Or.inl hold
      · exact Or.inr (Or.inl rfl)
    · exact Or.inr (Or.inr hnew)
  length := by simp [hall.length]
  plain := by
    intro i l mode hl hm hfmt
    cases i with
    | zero =>
      cases hl
      rw [h] at hfmt
      cases hfmt
    | succ i => exact hall.plain i l mode hl hm hfmt
  slot := by
    intro i l mode hl hm hfmt
    cases i with
    | zero =>
      cases hl
      cases hm
      -- the slot was filled by now, and no later layer moves it
      obtain ⟨more, hmore⟩ := hall.kept
      obtain ⟨hlt, -⟩ := List.getElem?_eq_some_iff.mp hone.slot
      rw [← hmore, List.getElem?_append_left hlt, hone.slot]
    | succ i => exact hall.slot i l mode hl hm hfmt
  dither := by
    intro i l mode hl hm hfmt
    cases i with
    | zero =>
      cases hl
      cases hm
      simpa [needed] using hone.dither
    | succ i =>
      have hnext := hall.dither i l mode hl hm hfmt
      have hmember := hone.member (findMatrixIndex l.dataspace)
      rw [List.take_succ_cons, needed_cons_ycbcr h, hnext]
      simp only [List.mem_append, List.mem_cons, hmember, or_assoc]

theorem configureLayers_spec :
    ∀ {w : CSCMatrixWriter} {layers : List Image} {modes : List (BitVec 32)},
      configureLayers w layers = some (w', modes) → ConfiguredAll w w' layers modes := by
  intro w layers
  induction layers generalizing w with
  | nil =>
    intro modes h
    obtain ⟨rfl, rfl⟩ := Prod.mk.inj (Option.some.inj h)
    exact ⟨List.prefix_rfl, rfl, fun x hx => Or.inl hx, rfl, by simp, by simp, by simp⟩
  | cons layer layers ih =>
    intro modes h
    rw [configureLayers, Option.bind_eq_bind, Option.bind_eq_some_iff] at h
    obtain ⟨⟨w₁, first⟩, hfirst, h⟩ := h
    rw [Option.bind_eq_bind, Option.bind_eq_some_iff] at h
    obtain ⟨⟨w₂, rest⟩, hrest, h⟩ := h
    obtain ⟨rfl, rfl⟩ := Prod.mk.inj (Option.some.inj h)
    cases hfmt : g2dfmt_is_ycbcr layer.g2dfmt with
    | false =>
      rw [configure_plain hfmt] at hfirst
      obtain ⟨rfl, rfl⟩ := Prod.mk.inj (Option.some.inj hfirst)
      exact (ih hrest).cons_plain hfmt
    | true => exact (ih hrest).cons_ycbcr hfmt (configure_ycbcr hfmt hfirst)

end Layers

/-! ### What is written -/

/-- What the registers of `count` slots from `m` on are: one register for every coefficient, within
    the registers of these slots. -/
structure WrittenFrom (m : Nat) (indices : List Nat) (regs : List G2dReg) : Prop where
  length : regs.length = CSC_MATRIX_REGISTER_COUNT * indices.length
  nodup : (regs.map G2dReg.offset).Nodup
  within : ∀ reg ∈ regs, CSC_MATRIX_SRC_BASE + m * CSC_MATRIX_REGISTER_SIZE ≤ reg.offset ∧
    reg.offset < CSC_MATRIX_SRC_BASE + (m + indices.length) * CSC_MATRIX_REGISTER_SIZE
  coefficient : ∀ (j spcidx : Nat) (matrix : Coefficients), indices[j]? = some spcidx →
    YCbCr2sRGBCoefficients[spcidx]? = some matrix → ∀ k : Fin 9,
      (⟨CSC_MATRIX_SRC_BASE + (m + j) * CSC_MATRIX_REGISTER_SIZE + 4 * k, (matrix.get k).setWidth 32⟩ : G2dReg) ∈ regs

theorem writeSources_spec (m : Nat) {indices : List Nat} (h : ∀ spcidx ∈ indices, spcidx < 8) :
    ∃ regs, writeSources m indices = some regs ∧ WrittenFrom m indices regs := by
  induction indices generalizing m with
  | nil =>
    refine ⟨[], rfl, ?_⟩
    constructor <;> simp
  | cons spcidx indices ih =>
    obtain ⟨rest, hrest, hwritten⟩ := ih (m + 1) fun x hx => h x (List.mem_cons_of_mem _ hx)
    have hlt : spcidx < YCbCr2sRGBCoefficients.length := h spcidx (List.mem_cons_self ..)
    obtain ⟨matrix, hmatrix⟩ : ∃ matrix, YCbCr2sRGBCoefficients[spcidx]? = some matrix :=
      ⟨_, List.getElem?_eq_getElem hlt⟩
    have hfirst : ∀ reg ∈ writeSingle (CSC_MATRIX_SRC_BASE + m * CSC_MATRIX_REGISTER_SIZE) matrix,
        CSC_MATRIX_SRC_BASE + m * CSC_MATRIX_REGISTER_SIZE ≤ reg.offset ∧
          reg.offset < CSC_MATRIX_SRC_BASE + (m + 1) * CSC_MATRIX_REGISTER_SIZE := by
      intro reg hreg
      obtain ⟨idx, rfl⟩ := mem_writeSingle.mp hreg
      have hidx := idx.isLt
      simp only [CSC_MATRIX_REGISTER_SIZE, CSC_MATRIX_REGISTER_COUNT]
      omega
    refine ⟨writeSingle (CSC_MATRIX_SRC_BASE + m * CSC_MATRIX_REGISTER_SIZE) matrix ++ rest, ?_, ?_⟩
    · simp [writeSources, hmatrix, hrest]
    constructor
    · rw [List.length_append, length_writeSingle, hwritten.length, List.length_cons]
      simp only [CSC_MATRIX_REGISTER_COUNT]
      omega
    · rw [List.map_append, List.nodup_append]
      refine ⟨writeSingle_nodup _ _, hwritten.nodup, ?_⟩
      intro a ha b hb
      obtain ⟨rega, hrega, rfl⟩ := List.mem_map.mp ha
      obtain ⟨regb, hregb, rfl⟩ := List.mem_map.mp hb
      have hbefore := (hfirst rega hrega).2
      have hafter := (hwritten.within regb hregb).1
      omega
    · intro reg hreg
      rw [List.length_cons]
      simp only [CSC_MATRIX_REGISTER_SIZE, CSC_MATRIX_REGISTER_COUNT] at hfirst ⊢
      rcases List.mem_append.mp hreg with hreg | hreg
      · have hbounds := hfirst reg hreg
        omega
      · have hbounds := hwritten.within reg hreg
        simp only [CSC_MATRIX_REGISTER_SIZE, CSC_MATRIX_REGISTER_COUNT] at hbounds
        omega
    · intro j x own hj hown k
      apply List.mem_append.mpr
      cases j with
      | zero =>
        cases hj
        cases hmatrix.symm.trans hown
        exact Or.inl (mem_writeSingle.mpr ⟨k, rfl⟩)
      | succ j =>
        have hstep : m + (j + 1) = m + 1 + j := by omega
        rw [hstep]
        exact Or.inr (hwritten.coefficient j x own hj hown k)

/-- A writer whose indices are rows of the tables writes as many registers as it announces, no
    register twice, and the coefficients of every slot. -/
theorem write_spec (w : CSCMatrixWriter) (hindex : ∀ spcidx ∈ w.mMatrixIndex, spcidx < 8)
    (htarget : w.mMatrixTargetIndex < 8 ∨ w.mMatrixTargetIndex = CSC_MATRIX_INVALID_INDEX) :
    ∃ regs, w.write = some regs ∧ regs.length = w.getRegisterCount ∧
      ∀ (m spcidx : Nat) (matrix : Coefficients), w.mMatrixIndex[m]? = some spcidx →
        YCbCr2sRGBCoefficients[spcidx]? = some matrix → ∀ k : Fin 9,
          load regs (CSC_MATRIX_SRC_BASE + m * CSC_MATRIX_REGISTER_SIZE + 4 * k) =
            some ((matrix.get k).setWidth 32) := by
  obtain ⟨sources, hsources, hwritten⟩ := writeSources_spec 0 hindex
  have hload : ∀ target : List G2dReg, (target.map G2dReg.offset).Nodup →
      (∀ reg ∈ target, CSC_MATRIX_DST_BASE ≤ reg.offset) →
      ∀ (m spcidx : Nat) (matrix : Coefficients), w.mMatrixIndex[m]? = some spcidx →
        YCbCr2sRGBCoefficients[spcidx]? = some matrix → ∀ k : Fin 9,
          load (target ++ sources) (CSC_MATRIX_SRC_BASE + m * CSC_MATRIX_REGISTER_SIZE + 4 * k) =
            some ((matrix.get k).setWidth 32) := by
    intro target hnodup hbase m spcidx matrix hm hmatrix k
    have hmem := hwritten.coefficient m spcidx matrix hm hmatrix k
    rw [Nat.zero_add] at hmem
    refine load_of_mem ?_ (List.mem_append.mpr (Or.inr hmem))
    rw [List.map_append, List.nodup_append]
    refine ⟨hnodup, hwritten.nodup, ?_⟩
    intro a ha b hb
    obtain ⟨rega, hrega, rfl⟩ := List.mem_map.mp ha
    obtain ⟨regb, hregb, rfl⟩ := List.mem_map.mp hb
    have hdst := hbase rega hrega
    have hsrc := (hwritten.within regb hregb).2
    have hcount := w.bounded
    simp only [CSC_MATRIX_MAX_COUNT, CSC_MATRIX_DST_BASE, CSC_MATRIX_SRC_BASE, CSC_MATRIX_REGISTER_SIZE,
      CSC_MATRIX_REGISTER_COUNT] at hcount hdst hsrc
    omega
  have hlength := hwritten.length
  by_cases hinvalid : w.mMatrixTargetIndex = CSC_MATRIX_INVALID_INDEX
  · refine ⟨sources, ?_, ?_, hload [] (by simp) (by simp)⟩
    · simp [CSCMatrixWriter.write, hinvalid, hsources]
    · simp [CSCMatrixWriter.getRegisterCount, CSCMatrixWriter.mMatrixCount, hinvalid, hlength]
  · have hlt : w.mMatrixTargetIndex < sRGB2YCbCrCoefficients.length := htarget.resolve_right hinvalid
    have hinverse := List.getElem?_eq_getElem hlt
    refine ⟨writeSingle CSC_MATRIX_DST_BASE sRGB2YCbCrCoefficients[w.mMatrixTargetIndex] ++ sources, ?_, ?_,
      hload _ (writeSingle_nodup _ _) ?_⟩
    · simp [CSCMatrixWriter.write, hinvalid, hinverse, hsources]
    · simp only [List.length_append, length_writeSingle, hlength, CSCMatrixWriter.getRegisterCount,
        CSCMatrixWriter.mMatrixCount, ne_eq, hinvalid, not_false_eq_true, if_true, CSC_MATRIX_REGISTER_COUNT]
      omega
    · intro reg hreg
      obtain ⟨idx, rfl⟩ := mem_writeSingle.mp hreg
      exact Nat.le_add_right _ _

/-! ### The claim about a frame -/

section Frames

variable {target : Image} {layers : List Image} {frame : Frame}

/-- The frame in terms of the writer that made it. -/
theorem exists_writer (h : frame ∈ executeCsc target layers) :
    ∃ w, ConfiguredAll (CSCMatrixWriter.new target 0).1 w layers frame.modes ∧
      frame.extra = w.write ∧ frame.num_extra_regs = w.getRegisterCount := by
  unfold executeCsc at h
  simp only [Option.bind_eq_bind, Option.mem_def, Option.bind_eq_some_iff] at h
  obtain ⟨⟨w, modes⟩, hlayers, h⟩ := h
  cases h
  exact ⟨w, configureLayers_spec hlayers, rfl, rfl⟩

theorem new_mMatrixIndex : (CSCMatrixWriter.new target 0).1.mMatrixIndex = [] := by
  unfold CSCMatrixWriter.new
  split <;> rfl

theorem new_mMatrixTargetIndex (h : isDataspaceSupported target.dataspace = true) :
    (CSCMatrixWriter.new target 0).1.mMatrixTargetIndex < 8 ∨
      (CSCMatrixWriter.new target 0).1.mMatrixTargetIndex = CSC_MATRIX_INVALID_INDEX := by
  obtain ⟨-, -, hlt, -⟩ := isDataspaceSupported_matrix h
  unfold CSCMatrixWriter.new
  split
  · exact Or.inl hlt
  · exact Or.inr rfl

/-- What a frame holds for its layers. -/
structure Holds (layers : List Image) (frame : Frame) (regs : List G2dReg) : Prop where
  modes : frame.modes.length = layers.length
  extra : frame.extra = some regs
  length : regs.length = frame.num_extra_regs
  matrix : ∀ (i : Nat) (layer : Image) (mode : BitVec 32), layers[i]? = some layer →
    frame.modes[i]? = some mode → g2dfmt_is_ycbcr layer.g2dfmt = true → ∀ coefficients,
      YCbCr2sRGBCoefficients[findMatrixIndex layer.dataspace]? = some coefficients → ∀ k : Fin 9,
        load regs (CSC_MATRIX_SRC_BASE + selected mode * CSC_MATRIX_REGISTER_SIZE + 4 * k) =
          some ((coefficients.get k).setWidth 32)
  dither : ∀ (i : Nat) (layer : Image) (mode : BitVec 32), layers[i]? = some layer →
    frame.modes[i]? = some mode → (dithers mode = true ↔ g2dfmt_is_ycbcr layer.g2dfmt = true ∧
      findMatrixIndex layer.dataspace ∉ needed (layers.take i))

theorem frame_holds (htarget : isDataspaceSupported target.dataspace = true)
    (hlayers : ∀ layer ∈ layers, isDataspaceSupported layer.dataspace = true)
    (h : frame ∈ executeCsc target layers) : ∃ regs, Holds layers frame regs := by
  obtain ⟨w, hall, hextra, hnum⟩ := exists_writer h
  have hindex : ∀ spcidx ∈ w.mMatrixIndex, spcidx < 8 := by
    intro x hx
    rcases hall.member x hx with hold | hnew
    · rw [new_mMatrixIndex] at hold
      cases hold
    · obtain ⟨layer, hlayer, rfl⟩ := exists_of_mem_needed hnew
      obtain ⟨-, -, hlt, -⟩ := isDataspaceSupported_matrix (hlayers layer hlayer)
      exact hlt
  have htargetIndex := new_mMatrixTargetIndex htarget
  rw [← hall.target] at htargetIndex
  obtain ⟨regs, hregs, hlength, hload⟩ := write_spec w hindex htargetIndex
  refine ⟨regs, hall.length, hextra.trans hregs, hlength.trans hnum.symm, ?_, ?_⟩
  · intro i layer mode hl hm hfmt coefficients hcoefficients
    exact hload _ _ _ (hall.slot i layer mode hl hm hfmt) hcoefficients
  · intro i layer mode hl hm
    cases hfmt : g2dfmt_is_ycbcr layer.g2dfmt with
    | false =>
      rw [hall.plain i layer mode hl hm hfmt]
      simp [dithers]
    | true =>
      rw [hall.dither i layer mode hl hm hfmt, new_mMatrixIndex, List.nil_append]
      simp

theorem setWidth_inj {x y : BitVec 16} (h : x.setWidth 32 = y.setWidth 32) : x = y := by
  have hnat := congrArg BitVec.toNat h
  simp only [BitVec.toNat_setWidth] at hnat
  apply BitVec.eq_of_toNat_eq
  omega

/-- A layer has its own matrix exactly when the writer took the row of its own. -/
theorem ownMatrix_iff {regs : List G2dReg} {layer : Image} {mode : BitVec 32}
    (hsupported : isDataspaceSupported layer.dataspace = true)
    (hload : ∀ coefficients, YCbCr2sRGBCoefficients[findMatrixIndex layer.dataspace]? = some coefficients →
      ∀ k : Fin 9, load regs (CSC_MATRIX_SRC_BASE + selected mode * CSC_MATRIX_REGISTER_SIZE + 4 * k) =
        some ((coefficients.get k).setWidth 32)) :
    OwnMatrix regs layer mode ↔
      layer.dataspace &&& HAL_DATASPACE_LEGACY_TYPE_MASK = 0 ∨
        layer.dataspace &&& HAL_DATASPACE_LEGACY_TYPE_MASK = HAL_DATASPACE_BT709 := by
  obtain ⟨own, hown, hlt, hrow⟩ := isDataspaceSupported_matrix hsupported
  have hbound : findMatrixIndex layer.dataspace < YCbCr2sRGBCoefficients.length := hlt
  obtain ⟨matrix, htable⟩ : ∃ matrix, YCbCr2sRGBCoefficients[findMatrixIndex layer.dataspace]? = some matrix :=
    ⟨_, List.getElem?_eq_getElem hbound⟩
  rw [← hrow]
  constructor
  · rintro ⟨own', coefficients, hown', hcoefficients, hregs⟩
    cases hown.symm.trans hown'
    have hsame : matrix = coefficients := by
      apply Vector.ext
      intro k hk
      have hboth := (hload _ htable ⟨k, hk⟩).symm.trans (hregs ⟨k, hk⟩)
      exact setWidth_inj (Option.some.inj hboth)
    apply coefficients_injective hlt
    rw [htable, hcoefficients, hsame]
  · intro hsame
    exact ⟨own, _, hown, hsame ▸ htable, hload _ htable⟩

/-- A frame is right exactly when its layers are regular. -/
theorem frame_meets_iff (htarget : isDataspaceSupported target.dataspace = true)
    (hlayers : ∀ layer ∈ layers, isDataspaceSupported layer.dataspace = true)
    (h : frame ∈ executeCsc target layers) : Meets layers frame ↔ Regular layers := by
  obtain ⟨regs, hholds⟩ := frame_holds htarget hlayers h
  have hmode : ∀ (i : Nat) (layer : Image), layers[i]? = some layer → ∃ mode, frame.modes[i]? = some mode := by
    intro i layer hl
    obtain ⟨hi, -⟩ := List.getElem?_eq_some_iff.mp hl
    rw [← hholds.modes] at hi
    exact ⟨_, List.getElem?_eq_getElem hi⟩
  have hown : ∀ (i : Nat) (layer : Image) (mode : BitVec 32), layers[i]? = some layer →
      frame.modes[i]? = some mode → g2dfmt_is_ycbcr layer.g2dfmt = true →
        (OwnMatrix regs layer mode ↔ layer.dataspace &&& HAL_DATASPACE_LEGACY_TYPE_MASK = 0 ∨
          layer.dataspace &&& HAL_DATASPACE_LEGACY_TYPE_MASK = HAL_DATASPACE_BT709) := by
    intro i layer mode hl hm hfmt
    exact ownMatrix_iff (hlayers layer (List.mem_of_getElem? hl)) (hholds.matrix i layer mode hl hm hfmt)
  constructor
  · intro hmeets
    constructor
    · intro layer hlayer hfmt
      obtain ⟨i, hl⟩ := List.mem_iff_getElem?.mp hlayer
      obtain ⟨mode, hm⟩ := hmode i layer hl
      exact (hown i layer mode hl hm hfmt).mp (hmeets.matrix regs hholds.extra i layer mode hl hm hfmt)
    · intro i layer hl hfmt
      obtain ⟨mode, hm⟩ := hmode i layer hl
      rw [← hmeets.dither i layer mode hl hm, hholds.dither i layer mode hl hm]
      simp [hfmt]
  · intro hregular
    constructor
    · exact hholds.modes
    · exact ⟨regs, hholds.extra, hholds.length⟩
    · intro regs' hregs' i layer mode hl hm hfmt
      cases hholds.extra.symm.trans hregs'
      exact (hown i layer mode hl hm hfmt).mpr (hregular.matrix layer (List.mem_of_getElem? hl) hfmt)
    · intro i layer mode hl hm
      rw [hholds.dither i layer mode hl hm]
      constructor
      · rintro ⟨hfmt, hnew⟩
        exact (hregular.dither i layer hl hfmt).mp hnew
      · intro hasks
        have hfmt : g2dfmt_is_ycbcr layer.g2dfmt = true := by
          rw [asksDither, Bool.and_eq_true] at hasks
          exact hasks.1
        exact ⟨hfmt, (hregular.dither i layer hl hfmt).mpr hasks⟩

end Frames

/-- The NV12 format, with 8 bits to a sample. -/
def nv12 (dataspace : BitVec 32) : Image := ⟨0x1083210, dataspace⟩

end ExynosHal.CscMatrices
