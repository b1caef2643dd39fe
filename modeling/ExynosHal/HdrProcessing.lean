/-
  ExynosHal/HdrProcessing.lean
  ============================
  **When a layer has to go through the HDR engine.**

  `needHdrProcessingInternal` and `refineTransfer` of
  `libhwc2.1/device/ExynosResourceManager.cpp`, with `getRefinedDataspace` of
  `libhwc2.1/utils/ExynosHWCHelper.cpp`.  A data space is a word of bit fields;
  the two images are compared in the standard and the transfer field.
-/
import ExynosHal.AcrylFormats

namespace ExynosHal.HdrProcessing

open ExynosHal.AcrylFormats (HAL_DATASPACE_STANDARD_MASK HAL_DATASPACE_STANDARD_BT709
  HAL_DATASPACE_STANDARD_BT2020 HAL_DATASPACE_TRANSFER_MASK)

/-! ### Data spaces -/

def HAL_DATASPACE_UNKNOWN : BitVec 32 := 0
def HAL_DATASPACE_STANDARD_BT2020_CONSTANT_LUMINANCE : BitVec 32 := 0x70000
def HAL_DATASPACE_TRANSFER_LINEAR : BitVec 32 := 0x400000
def HAL_DATASPACE_TRANSFER_SRGB : BitVec 32 := 0x800000
def HAL_DATASPACE_TRANSFER_ST2084 : BitVec 32 := 0x1c00000
def HAL_DATASPACE_TRANSFER_HLG : BitVec 32 := 0x2000000
def HAL_DATASPACE_V0_SRGB : BitVec 32 := 0x8810000
def HAL_DATASPACE_V0_BT709 : BitVec 32 := 0x10c10000
def HAL_DATASPACE_DISPLAY_P3 : BitVec 32 := 0x88a0000

def standard (dataSpace : BitVec 32) : BitVec 32 := dataSpace &&& HAL_DATASPACE_STANDARD_MASK

def transfer (dataSpace : BitVec 32) : BitVec 32 := dataSpace &&& HAL_DATASPACE_TRANSFER_MASK

/-- The transfers that the display controller tells apart. -/
def Distinguished (t : BitVec 32) : Prop :=
  t = HAL_DATASPACE_TRANSFER_SRGB ∨ t = HAL_DATASPACE_TRANSFER_LINEAR ∨
    t = HAL_DATASPACE_TRANSFER_ST2084 ∨ t = HAL_DATASPACE_TRANSFER_HLG

instance (t : BitVec 32) : Decidable (Distinguished t) :=
  inferInstanceAs (Decidable (_ ∨ _ ∨ _ ∨ _))

/-- `refineTransfer`. -/
def refineTransfer (ids : BitVec 32) : BitVec 32 :=
  if Distinguished (transfer ids) then ids
  else (ids &&& ~~~HAL_DATASPACE_TRANSFER_MASK) ||| HAL_DATASPACE_TRANSFER_SRGB

/-- The part of `exynos_image` that is read here. -/
structure ExynosImage where
  halFormat : Nat
  dataSpace : BitVec 32
deriving DecidableEq, Repr

section
-- `isFormatRgb` is a look-up in the format table.
variable (isFormatRgb : Nat → Bool)

def getRefinedDataspace (halFormat : Nat) (dataspace : BitVec 32) : BitVec 32 :=
  if dataspace ≠ HAL_DATASPACE_UNKNOWN then dataspace
  else if isFormatRgb halFormat then HAL_DATASPACE_V0_SRGB
  else HAL_DATASPACE_V0_BT709

/-- The test of the source's own fields with which `needHdrProcessingInternal` begins. -/
def isHdr (srcStandard srcTransfer : BitVec 32) : Bool :=
  (srcStandard == HAL_DATASPACE_STANDARD_BT2020 ||
      srcStandard == HAL_DATASPACE_STANDARD_BT2020_CONSTANT_LUMINANCE) &&
    (srcTransfer == HAL_DATASPACE_TRANSFER_ST2084 || srcTransfer == HAL_DATASPACE_TRANSFER_HLG)

/-- `needHdrProcessingInternal`.  The destination's data space is read and then
    overwritten by the refined one of the source. -/
def needHdrProcessingInternal (srcImg _dstImg : ExynosImage) : Bool :=
  let srcDataSpace := refineTransfer srcImg.dataSpace
  let dstDataSpace := getRefinedDataspace isFormatRgb srcImg.halFormat srcImg.dataSpace
  if isHdr (standard srcDataSpace) (transfer srcDataSpace) then true
  else if standard srcDataSpace = standard dstDataSpace ∧
      transfer srcDataSpace = transfer dstDataSpace then false
  else true

/-! ### What the answer should be -/

def SameColour (a b : BitVec 32) : Prop := standard a = standard b ∧ transfer a = transfer b

/-- The source is an HDR source. -/
def Hdr (srcImg : ExynosImage) : Prop :=
  (standard srcImg.dataSpace = HAL_DATASPACE_STANDARD_BT2020 ∨
      standard srcImg.dataSpace = HAL_DATASPACE_STANDARD_BT2020_CONSTANT_LUMINANCE) ∧
    (transfer srcImg.dataSpace = HAL_DATASPACE_TRANSFER_ST2084 ∨
      transfer srcImg.dataSpace = HAL_DATASPACE_TRANSFER_HLG)

/-- The source is an HDR source or its refined data space is not the one of the
    destination. -/
def NeedsProcessing (srcImg dstImg : ExynosImage) : Prop :=
  Hdr srcImg ∨ ¬ SameColour (refineTransfer srcImg.dataSpace)
    (getRefinedDataspace isFormatRgb dstImg.halFormat dstImg.dataSpace)

end

/-! ### The fields of a refined data space -/

/-- Writing the transfer field leaves the standard field alone. -/
@[simp] theorem standard_refineTransfer (ids : BitVec 32) :
    standard (refineTransfer ids) = standard ids := by
  unfold refineTransfer
  split
  · rfl
  · have hother : ~~~HAL_DATASPACE_TRANSFER_MASK &&& HAL_DATASPACE_STANDARD_MASK =
        HAL_DATASPACE_STANDARD_MASK := by decide
    have hnone : HAL_DATASPACE_TRANSFER_SRGB &&& HAL_DATASPACE_STANDARD_MASK = 0#32 := by decide
    unfold standard
    rw [BitVec.and_or_distrib_right, BitVec.and_assoc, hother, hnone, BitVec.or_zero]

theorem transfer_refineTransfer (ids : BitVec 32) :
    transfer (refineTransfer ids) =
      if Distinguished (transfer ids) then transfer ids else HAL_DATASPACE_TRANSFER_SRGB := by
  unfold refineTransfer
  split
  · rfl
  · have hcleared : ~~~HAL_DATASPACE_TRANSFER_MASK &&& HAL_DATASPACE_TRANSFER_MASK = 0#32 := by
      decide
    have hwritten : HAL_DATASPACE_TRANSFER_SRGB &&& HAL_DATASPACE_TRANSFER_MASK =
        HAL_DATASPACE_TRANSFER_SRGB := by decide
    unfold transfer
    rw [BitVec.and_or_distrib_right, BitVec.and_assoc, hcleared, hwritten, BitVec.and_zero,
      BitVec.zero_or]

theorem distinguished_srgb : Distinguished HAL_DATASPACE_TRANSFER_SRGB := Or.inl rfl

/-- Refining twice changes nothing more. -/
theorem refineTransfer_idem (ids : BitVec 32) :
    refineTransfer (refineTransfer ids) = refineTransfer ids := by
  have hdone : Distinguished (transfer (refineTransfer ids)) := by
    rw [transfer_refineTransfer]
    split
    · assumption
    · exact distinguished_srgb
  conv_lhs => unfold refineTransfer
  exact if_pos hdone

/-- A source that is compared with its own data space is found equal exactly when its
    transfer is one of the four. -/
theorem sameColour_self (isFormatRgb : Nat → Bool) (srcImg : ExynosImage) :
    SameColour (refineTransfer srcImg.dataSpace)
        (getRefinedDataspace isFormatRgb srcImg.halFormat srcImg.dataSpace) ↔
      Distinguished (transfer srcImg.dataSpace) := by
  unfold SameColour getRefinedDataspace
  rw [standard_refineTransfer, transfer_refineTransfer]
  by_cases hknown : srcImg.dataSpace ≠ HAL_DATASPACE_UNKNOWN
  · rw [if_pos hknown]
    constructor
    · rintro ⟨-, hsame⟩
      by_cases hd : Distinguished (transfer srcImg.dataSpace)
      · exact hd
      · rw [if_neg hd] at hsame
        exact hsame ▸ distinguished_srgb
    · intro hd
      exact ⟨rfl, if_pos hd⟩
  · have hzero : srcImg.dataSpace = HAL_DATASPACE_UNKNOWN := Decidable.not_not.mp hknown
    have hplain : ¬ Distinguished (transfer HAL_DATASPACE_UNKNOWN) := by decide
    rw [if_neg hknown, hzero]
    constructor
    · rintro ⟨hstandard, -⟩
      cases hrgb : isFormatRgb srcImg.halFormat <;> rw [hrgb] at hstandard <;>
        exact absurd hstandard (by decide)
    · intro hd
      exact absurd hd hplain

/-- The first test of the code is the one on the source's unrefined data space. -/
theorem isHdr_iff (srcImg : ExynosImage) :
    isHdr (standard (refineTransfer srcImg.dataSpace)) (transfer (refineTransfer srcImg.dataSpace)) =
      true ↔ Hdr srcImg := by
  have hsrgb : ¬ (HAL_DATASPACE_TRANSFER_SRGB = HAL_DATASPACE_TRANSFER_ST2084 ∨
      HAL_DATASPACE_TRANSFER_SRGB = HAL_DATASPACE_TRANSFER_HLG) := by decide
  have htransfer : (transfer (refineTransfer srcImg.dataSpace) = HAL_DATASPACE_TRANSFER_ST2084 ∨
      transfer (refineTransfer srcImg.dataSpace) = HAL_DATASPACE_TRANSFER_HLG) ↔
      (transfer srcImg.dataSpace = HAL_DATASPACE_TRANSFER_ST2084 ∨
        transfer srcImg.dataSpace = HAL_DATASPACE_TRANSFER_HLG) := by
    rw [transfer_refineTransfer]
    by_cases hd : Distinguished (transfer srcImg.dataSpace)
    · rw [if_pos hd]
    · rw [if_neg hd]
      constructor
      · intro h
        exact absurd h hsrgb
      · intro h
        exact absurd (Or.inr (Or.inr h)) hd
  simp only [isHdr, Hdr, Bool.and_eq_true, Bool.or_eq_true, beq_iff_eq, htransfer,
    standard_refineTransfer]

/-- What the code computes: it never looks at the destination. -/
theorem needHdrProcessingInternal_iff (isFormatRgb : Nat → Bool) (srcImg dstImg : ExynosImage) :
    needHdrProcessingInternal isFormatRgb srcImg dstImg = true ↔
      Hdr srcImg ∨ ¬ Distinguished (transfer srcImg.dataSpace) := by
  have hcompare : ∀ b : Prop, [Decidable b] → ((if b then false else true) = true ↔ ¬ b) := by
    intro b _
    by_cases hb : b <;> simp [hb]
  unfold needHdrProcessingInternal
  dsimp only
  rw [← sameColour_self isFormatRgb, ← isHdr_iff]
  by_cases hhdr : isHdr (standard (refineTransfer srcImg.dataSpace))
      (transfer (refineTransfer srcImg.dataSpace)) = true
  · rw [if_pos hhdr]
    exact ⟨fun _ => Or.inl hhdr, fun _ => rfl⟩
  · rw [if_neg hhdr, hcompare]
    exact ⟨Or.inr, fun h => h.resolve_left hhdr⟩

/-- **When the answer is right.**  For an HDR source always; for another source whose
    transfer is one of the four if and only if the destination has the source's standard
    and transfer; for the remaining sources if and only if the destination's standard or
    transfer is not the refined one of the source. -/
theorem hdrProcessing_right (isFormatRgb : Nat → Bool) (srcImg dstImg : ExynosImage) :
    (needHdrProcessingInternal isFormatRgb srcImg dstImg = true ↔
        NeedsProcessing isFormatRgb srcImg dstImg) ↔
      Hdr srcImg ∨
        (Distinguished (transfer srcImg.dataSpace) ↔
          SameColour (refineTransfer srcImg.dataSpace)
            (getRefinedDataspace isFormatRgb dstImg.halFormat dstImg.dataSpace)) := by
  rw [needHdrProcessingInternal_iff]
  unfold NeedsProcessing
  by_cases hhdr : Hdr srcImg
  · simp [hhdr]
  · simp only [hhdr, false_or]
    exact not_iff_not

/-- A Display P3 layer on an sRGB output: the code says that it needs no processing. -/
theorem displayP3_unprocessed :
    let srcImg : ExynosImage := ⟨1, HAL_DATASPACE_DISPLAY_P3⟩
    let dstImg : ExynosImage := ⟨1, HAL_DATASPACE_V0_SRGB⟩
    needHdrProcessingInternal (fun _ => true) srcImg dstImg = false ∧
      NeedsProcessing (fun _ => true) srcImg dstImg := by
  refine ⟨by decide, Or.inr ?_⟩
  rintro ⟨hstandard, -⟩
  exact absurd hstandard (by decide)

end ExynosHal.HdrProcessing
