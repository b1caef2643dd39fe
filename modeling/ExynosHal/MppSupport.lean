/-
  ExynosHal/MppSupport.lean
  =========================
  **The capability check of a hardware processing block (MPP).**

  `ExynosMPP::isSupported` of `libhwc2.1/resources/ExynosMPP.cpp` with the size
  checks it makes and the accessors that read the restriction table.  The sides of
  an image and the entries of the table are `uint32_t`, and so are the products
  that are compared.

  An accessor gives the table's entry except for a few fixed numbers it puts in
  its place; `effectiveLimits` collects what the accessors say and `tableLimits`
  what the table says.
-/
import Mathlib.Tactic.SplitIfs
import ExynosHal.HW2DCapability

namespace ExynosHal.MppSupport


/-! ### Error codes -/

def NO_ERROR : Int := 0
def eMPPSaveCapability : Int := 2 ^ 0
def eMPPStrideCrop : Int := 2 ^ 1
def eMPPUnsupportedRotation : Int := 2 ^ 2
def eMPPExeedSrcCropMax : Int := 2 ^ 4
def eMPPUnsupportedColorTransform : Int := 2 ^ 5
def eMPPUnsupportedBlending : Int := 2 ^ 6
def eMPPUnsupportedFormat : Int := 2 ^ 7
def eMPPNotAlignedDstSize : Int := 2 ^ 8
def eMPPNotAlignedHStride : Int := 2 ^ 10
def eMPPNotAlignedVStride : Int := 2 ^ 11
def eMPPExceedHStrideMaximum : Int := 2 ^ 12
def eMPPExceedVStrideMaximum : Int := 2 ^ 13
def eMPPExeedMaxDownScale : Int := 2 ^ 14
def eMPPExeedMaxDstWidth : Int := 2 ^ 15
def eMPPExeedMaxDstHeight : Int := 2 ^ 16
def eMPPExeedMinSrcWidth : Int := 2 ^ 17
def eMPPExeedMinSrcHeight : Int := 2 ^ 18
def eMPPExeedMaxUpScale : Int := 2 ^ 19
def eMPPExeedSrcWCropMax : Int := 2 ^ 20
def eMPPExeedSrcHCropMax : Int := 2 ^ 21
def eMPPExeedSrcWCropMin : Int := 2 ^ 22
def eMPPExeedSrcHCropMin : Int := 2 ^ 23
def eMPPNotAlignedCrop : Int := 2 ^ 24
def eMPPNotAlignedOffset : Int := 2 ^ 25
def eMPPExeedMinDstWidth : Int := 2 ^ 26
def eMPPExeedMinDstHeight : Int := 2 ^ 27
def eMPPUnsupportedCompression : Int := 2 ^ 28
def eMPPUnsupportedCSC : Int := 2 ^ 29
def eMPPUnsupportedDIMLayer : Int := 2 ^ 30
def eMPPUnsupportedDRM : Int := 2 ^ 31
def eMPPUnsupportedDynamicMeta : Int := 2 ^ 32
def eMPPConflictSharedMPP : Int := 2 ^ 33

/-! ### Images and tables -/

inductive RestrictionClass where
  | RGB
  | YUV
deriving DecidableEq, Repr

/-- `restriction_size`. -/
structure RestrictionSize where
  maxDownScale : UInt32
  maxUpScale : UInt32
  maxFullWidth : UInt32
  maxFullHeight : UInt32
  minFullWidth : UInt32
  minFullHeight : UInt32
  fullWidthAlign : UInt32
  fullHeightAlign : UInt32
  maxCropWidth : UInt32
  maxCropHeight : UInt32
  minCropWidth : UInt32
  minCropHeight : UInt32
  cropXAlign : UInt32
  cropYAlign : UInt32
  cropWidthAlign : UInt32
  cropHeightAlign : UInt32
deriving DecidableEq, Repr

/-- What is asked of an `ExynosFormat`.  `is420SpS10B` is the comparison with the two
    formats `YCbCr_420_SPN_S10B` and `YCbCr_420_SP_M_S10B`. -/
structure ExynosFormat where
  halFormat : Nat
  isRgb : Bool
  isSBWC : Bool
  is420SpS10B : Bool
deriving DecidableEq, Repr

inductive DrmMode where
  | NO_DRM
  | NORMAL_DRM
  | SECURE_DRM
deriving DecidableEq, Repr

/-- The part of `exynos_image` that the check reads; `drmMode` is the answer of
    `getDrmMode` for its usage flags. -/
structure ExynosImage where
  fullWidth : UInt32
  fullHeight : UInt32
  x : UInt32
  y : UInt32
  w : UInt32
  h : UInt32
  exynosFormat : ExynosFormat
  drmMode : DrmMode
  isDimLayer : Bool
  transform : BitVec 32
  needColorTransform : Bool
deriving DecidableEq, Repr

inductive NodeType where
  | NONE
  | SRC
  | DST
deriving DecidableEq, Repr

inductive LogicalType where
  | G2D_YUV
  | G2D_RGB
  | MSC_YUV
  | other
deriving DecidableEq, Repr

inductive PhysicalType where
  | G2D
  | MSC
  | DPP
deriving DecidableEq, Repr

/-- The checks that look at something else than sizes, and the clock computation of
    `scaleAllowedByDPPPerformance`.  They are virtual functions of the chip. -/
structure Checks where
  isSharedMPPUsed : Bool
  isSupportedCapability : ExynosImage → Bool
  hasHdrInfo : ExynosImage → Bool
  isDataspaceSupportedByMPP : ExynosImage → ExynosImage → Bool
  isSupportedHDR10Plus : ExynosImage → ExynosImage → Bool
  isSupportedBlend : ExynosImage → Bool
  isSupportedTransform : ExynosImage → Bool
  isSupportedDRM : ExynosImage → Bool
  isSupportedHStrideCrop : ExynosImage → Bool
  isSupportedCompression : ExynosImage → Bool
  isSupportLayerColorTransform : ExynosImage → ExynosImage → Bool
  scaleAllowedByDPPPerformance : ExynosImage → ExynosImage → Bool

structure ExynosMPP where
  isOtf : Bool
  mPhysicalType : PhysicalType
  mLogicalType : LogicalType
  attrDim : Bool
  mNeedSolidColorLayer : Bool
  targetAfbc : Bool
  mSrcSizeRestrictions : RestrictionClass → RestrictionSize
  mDstSizeRestrictions : RestrictionClass → RestrictionSize
  mFormatRestrictions : List (NodeType × Nat)
  checks : Checks

def getRestrictionClassification (img : ExynosImage) : RestrictionClass :=
  if img.exynosFormat.isRgb then .RGB else .YUV

/-- The destination's sides as the source sees them. -/
def rotDst (src dst : ExynosImage) : UInt32 × UInt32 :=
  if rotates src.transform then (dst.h, dst.w) else (dst.w, dst.h)

namespace ExynosMPP

variable (m : ExynosMPP)

/-! ### The accessors -/

/-- The table entry for the class of a source image. -/
def srcEntry (src : ExynosImage) : RestrictionSize :=
  m.mSrcSizeRestrictions (getRestrictionClassification src)

def dstEntry (dst : ExynosImage) : RestrictionSize :=
  m.mDstSizeRestrictions (getRestrictionClassification dst)

/-- The two 10 bit formats on the G2D. -/
def isS10BOnG2D (img : ExynosImage) : Bool :=
  img.exynosFormat.is420SpS10B && m.mPhysicalType == .G2D

/-- A destination written in AFBC. -/
def writesAfbc : Bool := !m.mNeedSolidColorLayer && m.targetAfbc

/-- A destination of the G2D written in SBWC. -/
def writesSbwc (dst : ExynosImage) : Bool :=
  m.mPhysicalType == .G2D && !m.mNeedSolidColorLayer && dst.exynosFormat.isSBWC

def getSrcXOffsetAlign (src : ExynosImage) : UInt32 := (m.srcEntry src).cropXAlign
def getSrcYOffsetAlign (src : ExynosImage) : UInt32 := (m.srcEntry src).cropYAlign
def getSrcWidthAlign (src : ExynosImage) : UInt32 := (m.srcEntry src).fullWidthAlign
def getSrcHeightAlign (src : ExynosImage) : UInt32 := (m.srcEntry src).fullHeightAlign
def getSrcMaxWidth (src : ExynosImage) : UInt32 := (m.srcEntry src).maxFullWidth
def getSrcMaxHeight (src : ExynosImage) : UInt32 := (m.srcEntry src).maxFullHeight
def getSrcMinWidth (src : ExynosImage) : UInt32 := (m.srcEntry src).minFullWidth
def getSrcMinHeight (src : ExynosImage) : UInt32 := (m.srcEntry src).minFullHeight
def getSrcMaxCropWidth (src : ExynosImage) : UInt32 := (m.srcEntry src).maxCropWidth

def getSrcMaxCropHeight (src : ExynosImage) : UInt32 :=
  if m.isOtf && rotates src.transform then 2160 else (m.srcEntry src).maxCropHeight

def getSrcMaxCropSize (src : ExynosImage) : UInt32 :=
  m.getSrcMaxCropWidth src * m.getSrcMaxCropHeight src

def getSrcMinCropWidth (src : ExynosImage) : UInt32 :=
  if m.isS10BOnG2D src then 2 else (m.srcEntry src).minCropWidth

def getSrcMinCropHeight (src : ExynosImage) : UInt32 :=
  if m.isS10BOnG2D src then 2 else (m.srcEntry src).minCropHeight

def getSrcCropWidthAlign (src : ExynosImage) : UInt32 :=
  if m.isS10BOnG2D src then 2 else (m.srcEntry src).cropWidthAlign

def getSrcCropHeightAlign (src : ExynosImage) : UInt32 :=
  if m.isS10BOnG2D src then 2 else (m.srcEntry src).cropHeightAlign

def getDstMaxWidth (dst : ExynosImage) : UInt32 := (m.dstEntry dst).maxCropWidth
def getDstMaxHeight (dst : ExynosImage) : UInt32 := (m.dstEntry dst).maxCropHeight

def getDstMinWidth (dst : ExynosImage) : UInt32 :=
  if m.isS10BOnG2D dst then 64
  else if m.writesAfbc then 16
  else if m.writesSbwc dst then 32
  else (m.dstEntry dst).minCropWidth

def getDstMinHeight (dst : ExynosImage) : UInt32 :=
  if m.writesAfbc then 16
  else if m.writesSbwc dst then 8
  else (m.dstEntry dst).minCropHeight

def getDstWidthAlign (dst : ExynosImage) : UInt32 :=
  if m.isS10BOnG2D dst then 64
  else if m.writesAfbc then 16
  else if m.writesSbwc dst then 32
  else (m.dstEntry dst).cropWidthAlign

def getDstHeightAlign (dst : ExynosImage) : UInt32 :=
  if m.writesAfbc then 16
  else if m.writesSbwc dst then 8
  else (m.dstEntry dst).cropHeightAlign

def getDstXOffsetAlign (dst : ExynosImage) : UInt32 :=
  if m.writesAfbc then 16
  else if m.writesSbwc dst then 32
  else (m.dstEntry dst).cropXAlign

def getDstYOffsetAlign (dst : ExynosImage) : UInt32 :=
  if m.writesAfbc then 16
  else if m.writesSbwc dst then 8
  else (m.dstEntry dst).cropYAlign

def getMaxUpscale (src : ExynosImage) : UInt32 := (m.srcEntry src).maxUpScale

/-- The down-scale limit stands in the destination table, under the class of the source. -/
def getMaxDownscale (src dst : ExynosImage) : UInt32 :=
  if m.isOtf && !m.checks.scaleAllowedByDPPPerformance src dst then 1
  else (m.dstEntry src).maxDownScale

/-! ### The size checks -/

/-- `(a % aAlign != 0) || (b % bAlign != 0)`; a remainder by zero stops the program. -/
def notAligned (a aAlign b bAlign : UInt32) : Option Bool :=
  if aAlign = 0 then none
  else if a % aAlign ≠ 0 then some true
  else if bAlign = 0 then none
  else some (b % bAlign != 0)

def checkDstSize (dst : ExynosImage) : Option Int :=
  if dst.w > m.getDstMaxWidth dst then some (-eMPPExeedMaxDstWidth)
  else if dst.h > m.getDstMaxHeight dst then some (-eMPPExeedMaxDstHeight)
  else if dst.w < m.getDstMinWidth dst then some (-eMPPExeedMinDstWidth)
  else if dst.h < m.getDstMinHeight dst then some (-eMPPExeedMinDstHeight)
  else (notAligned dst.w (m.getDstWidthAlign dst) dst.h (m.getDstHeightAlign dst)).bind fun bad =>
    if bad then some (-eMPPNotAlignedDstSize)
    else (notAligned dst.x (m.getDstXOffsetAlign dst) dst.y (m.getDstYOffsetAlign dst)).bind
      fun bad => if bad then some (-eMPPNotAlignedOffset) else some NO_ERROR

def checkUnResizableSrcSize (src : ExynosImage) : Option Int :=
  if src.fullWidth < m.getSrcMinWidth src then some (-eMPPExeedMinSrcWidth)
  else if src.fullHeight < m.getSrcMinHeight src then some (-eMPPExeedMinSrcHeight)
  else if src.fullWidth > m.getSrcMaxWidth src then some (-eMPPExceedHStrideMaximum)
  else if src.w < m.getSrcMinCropWidth src then some (-eMPPExeedSrcWCropMin)
  else if src.h < m.getSrcMinCropHeight src then some (-eMPPExeedSrcHCropMin)
  else if src.w * src.h > m.getSrcMaxCropSize src then some (-eMPPExeedSrcCropMax)
  else if m.getSrcWidthAlign src = 0 then none
  else if src.fullWidth % m.getSrcWidthAlign src ≠ 0 then some (-eMPPNotAlignedHStride)
  else some NO_ERROR

def checkResizableSrcSize (src : ExynosImage) : Option Int :=
  if src.fullHeight > m.getSrcMaxHeight src then some (-eMPPExceedVStrideMaximum)
  else if m.getSrcHeightAlign src = 0 then none
  else if src.fullHeight % m.getSrcHeightAlign src ≠ 0 then some (-eMPPNotAlignedVStride)
  else if src.w > m.getSrcMaxCropWidth src then some (-eMPPExeedSrcWCropMax)
  else if src.h > m.getSrcMaxCropHeight src then some (-eMPPExeedSrcHCropMax)
  else (notAligned src.w (m.getSrcCropWidthAlign src) src.h (m.getSrcCropHeightAlign src)).bind
    fun bad =>
      if bad then some (-eMPPNotAlignedCrop)
      else (notAligned src.x (m.getSrcXOffsetAlign src) src.y (m.getSrcYOffsetAlign src)).bind
        fun bad => if bad then some (-eMPPNotAlignedOffset) else some NO_ERROR

def checkScaleRatio (src dst : ExynosImage) : Int :=
  if src.w > (rotDst src dst).1 * m.getMaxDownscale src dst then -eMPPExeedMaxDownScale
  else if (rotDst src dst).1 > src.w * m.getMaxUpscale src then -eMPPExeedMaxUpScale
  else if src.h > (rotDst src dst).2 * m.getMaxDownscale src dst then -eMPPExeedMaxDownScale
  else if (rotDst src dst).2 > src.h * m.getMaxUpscale src then -eMPPExeedMaxUpScale
  else NO_ERROR

/-! ### The whole check -/

def isDimLayerSupported : Int :=
  if m.attrDim then
    if m.mLogicalType = .G2D_YUV then -eMPPUnsupportedDIMLayer else NO_ERROR
  else -eMPPUnsupportedDIMLayer

def isSrcFormatSupported (src : ExynosImage) : Bool :=
  if m.mLogicalType = .G2D_YUV ∧ src.exynosFormat.isRgb ∧ ¬ m.checks.hasHdrInfo src then false
  else if m.mLogicalType = .G2D_RGB ∧ ¬ src.exynosFormat.isRgb then false
  else if m.mLogicalType = .MSC_YUV ∧ src.exynosFormat.isRgb then false
  else m.mFormatRestrictions.any fun r =>
    (r.1 = .NONE ∨ r.1 = .SRC) ∧ r.2 = src.exynosFormat.halFormat

def isDstFormatSupported (dst : ExynosImage) : Bool :=
  m.mFormatRestrictions.any fun r => (r.1 = .NONE ∨ r.1 = .DST) ∧ r.2 = dst.exynosFormat.halFormat

/-- The conversion to `int32_t ret`. -/
def toInt32 (r : Int) : Int := r.bmod (2 ^ 32)

/-- `if ((ret = check) < 0) return ret;`: what follows is reached with the check passed. -/
def andThen (check : Option Int) (next : Option Int) : Option Int :=
  check.bind fun r => if toInt32 r < 0 then some (toInt32 r) else next

def isSupported (src dst : ExynosImage) : Option Int :=
  andThen (m.checkDstSize dst) <|
  if m.checks.isSharedMPPUsed then some (-eMPPConflictSharedMPP)
  else if src.isDimLayer then some m.isDimLayerSupported
  else if !m.checks.isSupportedCapability src then some (-eMPPSaveCapability)
  else if !m.isSrcFormatSupported src then some (-eMPPUnsupportedFormat)
  else if !m.isDstFormatSupported dst then some (-eMPPUnsupportedFormat)
  else if !m.checks.isDataspaceSupportedByMPP src dst then some (-eMPPUnsupportedCSC)
  else if !m.checks.isSupportedHDR10Plus src dst then some (-eMPPUnsupportedDynamicMeta)
  else if !m.checks.isSupportedBlend src then some (-eMPPUnsupportedBlending)
  else if !m.checks.isSupportedTransform src then some (-eMPPUnsupportedRotation)
  else
    andThen (m.checkUnResizableSrcSize src) <|
    if !m.checks.isSupportedDRM src then some (-eMPPUnsupportedDRM)
    else
      andThen (if src.drmMode = .NO_DRM then m.checkResizableSrcSize src else some NO_ERROR) <|
      andThen (some (m.checkScaleRatio src dst)) <|
      if !m.checks.isSupportedHStrideCrop src then some (-eMPPStrideCrop)
      else if !m.checks.isSupportedCompression src then some (-eMPPUnsupportedCompression)
      else if !m.checks.isSupportLayerColorTransform src dst then
        some (-eMPPUnsupportedColorTransform)
      else some NO_ERROR

end ExynosMPP

/-! ### The limits over the integers -/

/-- The limits of a pair of images, as numbers. -/
structure Limits where
  minSrcWidth : Nat
  maxSrcWidth : Nat
  minSrcHeight : Nat
  maxSrcHeight : Nat
  srcWidthAlign : Nat
  srcHeightAlign : Nat
  minCropWidth : Nat
  maxCropWidth : Nat
  minCropHeight : Nat
  maxCropHeight : Nat
  cropWidthAlign : Nat
  cropHeightAlign : Nat
  srcXAlign : Nat
  srcYAlign : Nat
  minDstWidth : Nat
  maxDstWidth : Nat
  minDstHeight : Nat
  maxDstHeight : Nat
  dstWidthAlign : Nat
  dstHeightAlign : Nat
  dstXAlign : Nat
  dstYAlign : Nat
  maxDownscale : Nat
  maxUpscale : Nat
deriving DecidableEq, Repr

/-- The destination keeps the limits. -/
structure Limits.Dst (l : Limits) (dst : ExynosImage) : Prop where
  width : l.minDstWidth ≤ dst.w.toNat ∧ dst.w.toNat ≤ l.maxDstWidth
  height : l.minDstHeight ≤ dst.h.toNat ∧ dst.h.toNat ≤ l.maxDstHeight
  size : l.dstWidthAlign ∣ dst.w.toNat ∧ l.dstHeightAlign ∣ dst.h.toNat
  offset : l.dstXAlign ∣ dst.x.toNat ∧ l.dstYAlign ∣ dst.y.toNat

/-- The source's buffer keeps the limits. -/
structure Limits.Buffer (l : Limits) (src : ExynosImage) : Prop where
  width : l.minSrcWidth ≤ src.fullWidth.toNat ∧ src.fullWidth.toNat ≤ l.maxSrcWidth
  height : l.minSrcHeight ≤ src.fullHeight.toNat ∧ src.fullHeight.toNat ≤ l.maxSrcHeight
  align : l.srcWidthAlign ∣ src.fullWidth.toNat ∧ l.srcHeightAlign ∣ src.fullHeight.toNat

/-- The source's crop keeps the limits, its area included. -/
structure Limits.Crop (l : Limits) (src : ExynosImage) : Prop where
  width : l.minCropWidth ≤ src.w.toNat ∧ src.w.toNat ≤ l.maxCropWidth
  height : l.minCropHeight ≤ src.h.toNat ∧ src.h.toNat ≤ l.maxCropHeight
  area : src.w.toNat * src.h.toNat ≤ l.maxCropWidth * l.maxCropHeight
  size : l.cropWidthAlign ∣ src.w.toNat ∧ l.cropHeightAlign ∣ src.h.toNat
  offset : l.srcXAlign ∣ src.x.toNat ∧ l.srcYAlign ∣ src.y.toNat

/-- Neither axis is scaled beyond the limits. -/
structure Limits.Scale (l : Limits) (src dst : ExynosImage) : Prop where
  downWidth : src.w.toNat ≤ (rotDst src dst).1.toNat * l.maxDownscale
  upWidth : (rotDst src dst).1.toNat ≤ src.w.toNat * l.maxUpscale
  downHeight : src.h.toNat ≤ (rotDst src dst).2.toNat * l.maxDownscale
  upHeight : (rotDst src dst).2.toNat ≤ src.h.toNat * l.maxUpscale

namespace ExynosMPP

variable (m : ExynosMPP)

/-- What the accessors say. -/
def effectiveLimits (src dst : ExynosImage) : Limits where
  minSrcWidth := (m.getSrcMinWidth src).toNat
  maxSrcWidth := (m.getSrcMaxWidth src).toNat
  minSrcHeight := (m.getSrcMinHeight src).toNat
  maxSrcHeight := (m.getSrcMaxHeight src).toNat
  srcWidthAlign := (m.getSrcWidthAlign src).toNat
  srcHeightAlign := (m.getSrcHeightAlign src).toNat
  minCropWidth := (m.getSrcMinCropWidth src).toNat
  maxCropWidth := (m.getSrcMaxCropWidth src).toNat
  minCropHeight := (m.getSrcMinCropHeight src).toNat
  maxCropHeight := (m.getSrcMaxCropHeight src).toNat
  cropWidthAlign := (m.getSrcCropWidthAlign src).toNat
  cropHeightAlign := (m.getSrcCropHeightAlign src).toNat
  srcXAlign := (m.getSrcXOffsetAlign src).toNat
  srcYAlign := (m.getSrcYOffsetAlign src).toNat
  minDstWidth := (m.getDstMinWidth dst).toNat
  maxDstWidth := (m.getDstMaxWidth dst).toNat
  minDstHeight := (m.getDstMinHeight dst).toNat
  maxDstHeight := (m.getDstMaxHeight dst).toNat
  dstWidthAlign := (m.getDstWidthAlign dst).toNat
  dstHeightAlign := (m.getDstHeightAlign dst).toNat
  dstXAlign := (m.getDstXOffsetAlign dst).toNat
  dstYAlign := (m.getDstYOffsetAlign dst).toNat
  maxDownscale := (m.getMaxDownscale src dst).toNat
  maxUpscale := (m.getMaxUpscale src).toNat

/-- What the table says. -/
def tableLimits (src dst : ExynosImage) : Limits where
  minSrcWidth := (m.srcEntry src).minFullWidth.toNat
  maxSrcWidth := (m.srcEntry src).maxFullWidth.toNat
  minSrcHeight := (m.srcEntry src).minFullHeight.toNat
  maxSrcHeight := (m.srcEntry src).maxFullHeight.toNat
  srcWidthAlign := (m.srcEntry src).fullWidthAlign.toNat
  srcHeightAlign := (m.srcEntry src).fullHeightAlign.toNat
  minCropWidth := (m.srcEntry src).minCropWidth.toNat
  maxCropWidth := (m.srcEntry src).maxCropWidth.toNat
  minCropHeight := (m.srcEntry src).minCropHeight.toNat
  maxCropHeight := (m.srcEntry src).maxCropHeight.toNat
  cropWidthAlign := (m.srcEntry src).cropWidthAlign.toNat
  cropHeightAlign := (m.srcEntry src).cropHeightAlign.toNat
  srcXAlign := (m.srcEntry src).cropXAlign.toNat
  srcYAlign := (m.srcEntry src).cropYAlign.toNat
  minDstWidth := (m.dstEntry dst).minCropWidth.toNat
  maxDstWidth := (m.dstEntry dst).maxCropWidth.toNat
  minDstHeight := (m.dstEntry dst).minCropHeight.toNat
  maxDstHeight := (m.dstEntry dst).maxCropHeight.toNat
  dstWidthAlign := (m.dstEntry dst).cropWidthAlign.toNat
  dstHeightAlign := (m.dstEntry dst).cropHeightAlign.toNat
  dstXAlign := (m.dstEntry dst).cropXAlign.toNat
  dstYAlign := (m.dstEntry dst).cropYAlign.toNat
  maxDownscale := (m.dstEntry src).maxDownScale.toNat
  maxUpscale := (m.srcEntry src).maxUpScale.toNat

/-- No accessor puts a fixed number in the place of a table entry. -/
structure Plain (src dst : ExynosImage) : Prop where
  source : m.isS10BOnG2D src = false
  destination : m.isS10BOnG2D dst = false
  uncompressed : m.writesAfbc = false ∧ m.writesSbwc dst = false
  upright : (m.isOtf && rotates src.transform) = false
  fast : (m.isOtf && !m.checks.scaleAllowedByDPPPerformance src dst) = false

theorem effectiveLimits_plain {src dst : ExynosImage} (h : m.Plain src dst) :
    m.effectiveLimits src dst = m.tableLimits src dst := by
  obtain ⟨hsource, hdestination, ⟨hafbc, hsbwc⟩, hupright, hfast⟩ := h
  unfold effectiveLimits tableLimits getSrcMinWidth getSrcMaxWidth getSrcMinHeight getSrcMaxHeight
    getSrcWidthAlign getSrcHeightAlign getSrcMinCropWidth getSrcMaxCropWidth getSrcMinCropHeight
    getSrcMaxCropHeight getSrcCropWidthAlign getSrcCropHeightAlign getSrcXOffsetAlign
    getSrcYOffsetAlign getDstMinWidth getDstMaxWidth getDstMinHeight getDstMaxHeight getDstWidthAlign
    getDstHeightAlign getDstXOffsetAlign getDstYOffsetAlign getMaxDownscale getMaxUpscale
  simp only [hsource, hdestination, hafbc, hsbwc, hupright, hfast, Bool.false_eq_true, if_false]

/-! ### What a passed check says -/

theorem notAligned_false {a aAlign b bAlign : UInt32}
    (h : notAligned a aAlign b bAlign = some false) :
    aAlign.toNat ∣ a.toNat ∧ bAlign.toNat ∣ b.toNat := by
  unfold notAligned at h
  split at h
  · cases h
  · split at h
    · cases h
    · rename_i ha
      split at h
      · cases h
      · have hb : b % bAlign = 0 := by simpa using h
        have ha' : a % aAlign = 0 := Decidable.not_not.mp ha
        refine ⟨Nat.dvd_of_mod_eq_zero ?_, Nat.dvd_of_mod_eq_zero ?_⟩
        · simpa using congrArg UInt32.toNat ha'
        · simpa using congrArg UInt32.toNat hb

/-- The result of a size check: passed, or an error that `int32_t` can hold. -/
def Fits (r : Int) : Prop := r = NO_ERROR ∨ (-2 ^ 31 ≤ r ∧ r < 0)

theorem toInt32_fits {r : Int} (h : Fits r) : toInt32 r = r := by
  unfold toInt32
  rcases h with rfl | ⟨hlow, hhigh⟩
  · rfl
  · exact Int.bmod_eq_of_le (by omega) (by omega)

/-- A check whose errors fit into `int32_t` was passed if the rest was reached. -/
theorem andThen_noError {check next : Option Int} (hfits : ∀ r, check = some r → Fits r)
    (h : andThen check next = some NO_ERROR) : check = some NO_ERROR ∧ next = some NO_ERROR := by
  cases hr : check with
  | none =>
    rw [hr] at h
    cases h
  | some r =>
    have hfit := hfits r hr
    rw [hr] at h
    simp only [andThen, Option.bind_some, toInt32_fits hfit] at h
    rcases hfit with hzero | ⟨-, hneg⟩
    · rw [if_neg (by rw [hzero]; decide)] at h
      exact ⟨congrArg some hzero, h⟩
    · rw [if_pos hneg] at h
      have hr0 : r = NO_ERROR := Option.some.inj h
      rw [hr0] at hneg
      exact absurd hneg (by decide)

end ExynosMPP

/-! ### Peeling the checks one by one -/

open ExynosMPP

instance (r : Int) : Decidable (Fits r) := inferInstanceAs (Decidable (_ ∨ _))

/-- Every result of a check fits into `int32_t`. -/
def AllFit (check : Option Int) : Prop := ∀ r, check = some r → Fits r

theorem AllFit.result {r : Int} (h : Fits r) : AllFit (some r) := by
  intro r' heq
  cases heq
  exact h

theorem AllFit.guard {c : Prop} [Decidable c] {e : Int} {next : Option Int} (he : Fits e)
    (hnext : AllFit next) : AllFit (if c then some e else next) := by
  by_cases hc : c
  · rw [if_pos hc]
    exact AllFit.result he
  · rw [if_neg hc]
    exact hnext

theorem AllFit.stop {c : Prop} [Decidable c] {next : Option Int} (hnext : AllFit next) :
    AllFit (if c then none else next) := by
  by_cases hc : c
  · rw [if_pos hc]
    intro r h
    cases h
  · rw [if_neg hc]
    exact hnext

theorem AllFit.aligned {align : Option Bool} {e : Int} {next : Option Int} (he : Fits e)
    (hnext : AllFit next) : AllFit (align.bind fun bad => if bad then some e else next) := by
  cases align with
  | none =>
    intro r h
    cases h
  | some bad => exact AllFit.guard he hnext

theorem guard_passed {c : Prop} [Decidable c] {e : Int} {next : Option Int} (he : e ≠ NO_ERROR)
    (h : (if c then some e else next) = some NO_ERROR) : ¬ c ∧ next = some NO_ERROR := by
  by_cases hc : c
  · rw [if_pos hc] at h
    exact absurd (Option.some.inj h) he
  · rw [if_neg hc] at h
    exact ⟨hc, h⟩

theorem stop_passed {c : Prop} [Decidable c] {next : Option Int}
    (h : (if c then none else next) = some NO_ERROR) : next = some NO_ERROR := by
  by_cases hc : c
  · rw [if_pos hc] at h
    cases h
  · rwa [if_neg hc] at h

theorem aligned_passed {align : Option Bool} {e : Int} {next : Option Int} (he : e ≠ NO_ERROR)
    (h : (align.bind fun bad => if bad then some e else next) = some NO_ERROR) :
    align = some false ∧ next = some NO_ERROR := by
  cases align with
  | none => cases h
  | some bad =>
    have hpassed := guard_passed he h
    cases bad with
    | false => exact ⟨rfl, hpassed.2⟩
    | true => exact absurd rfl hpassed.1

theorem toNat_le {a b : UInt32} (h : ¬ a < b) : b.toNat ≤ a.toNat :=
  Nat.le_of_not_lt fun hlt => h (UInt32.lt_iff_toNat_lt.mpr hlt)

/-- A product that wraps is smaller than the product of the numbers. -/
theorem toNat_le_mul {a b k : UInt32} (h : ¬ a > b * k) : a.toNat ≤ b.toNat * k.toNat := by
  have hle := toNat_le h
  rw [UInt32.toNat_mul] at hle
  exact Nat.le_trans hle (Nat.mod_le _ _)

theorem toNat_dvd {a align : UInt32} (h : ¬ a % align ≠ 0) : align.toNat ∣ a.toNat := by
  apply Nat.dvd_of_mod_eq_zero
  have hmod := congrArg UInt32.toNat (Decidable.not_not.mp h)
  simpa using hmod

namespace ExynosMPP

variable (m : ExynosMPP)

theorem checkDstSize_fits (dst : ExynosImage) : AllFit (m.checkDstSize dst) := by
  unfold checkDstSize
  apply AllFit.guard (by decide)
  apply AllFit.guard (by decide)
  apply AllFit.guard (by decide)
  apply AllFit.guard (by decide)
  apply AllFit.aligned (by decide)
  apply AllFit.aligned (by decide)
  exact AllFit.result (by decide)

theorem checkUnResizableSrcSize_fits (src : ExynosImage) :
    AllFit (m.checkUnResizableSrcSize src) := by
  unfold checkUnResizableSrcSize
  apply AllFit.guard (by decide)
  apply AllFit.guard (by decide)
  apply AllFit.guard (by decide)
  apply AllFit.guard (by decide)
  apply AllFit.guard (by decide)
  apply AllFit.guard (by decide)
  apply AllFit.stop
  apply AllFit.guard (by decide)
  exact AllFit.result (by decide)

theorem checkResizableSrcSize_fits (src : ExynosImage) : AllFit (m.checkResizableSrcSize src) := by
  unfold checkResizableSrcSize
  apply AllFit.guard (by decide)
  apply AllFit.stop
  apply AllFit.guard (by decide)
  apply AllFit.guard (by decide)
  apply AllFit.guard (by decide)
  apply AllFit.aligned (by decide)
  apply AllFit.aligned (by decide)
  exact AllFit.result (by decide)

theorem checkScaleRatio_fits (src dst : ExynosImage) : Fits (m.checkScaleRatio src dst) := by
  unfold checkScaleRatio
  split
  · decide
  split
  · decide
  split
  · decide
  split
  · decide
  · decide

theorem checkDstSize_sound {src dst : ExynosImage} (h : m.checkDstSize dst = some NO_ERROR) :
    (m.effectiveLimits src dst).Dst dst := by
  unfold checkDstSize at h
  obtain ⟨hmaxW, h⟩ := guard_passed (by decide) h
  obtain ⟨hmaxH, h⟩ := guard_passed (by decide) h
  obtain ⟨hminW, h⟩ := guard_passed (by decide) h
  obtain ⟨hminH, h⟩ := guard_passed (by decide) h
  obtain ⟨hsize, h⟩ := aligned_passed (by decide) h
  obtain ⟨hoffset, -⟩ := aligned_passed (by decide) h
  exact ⟨⟨toNat_le hminW, toNat_le hmaxW⟩, ⟨toNat_le hminH, toNat_le hmaxH⟩,
    notAligned_false hsize, notAligned_false hoffset⟩

/-- What the first half of the source's checks says. -/
theorem checkUnResizableSrcSize_sound {src : ExynosImage}
    (h : m.checkUnResizableSrcSize src = some NO_ERROR) :
    (m.getSrcMinWidth src).toNat ≤ src.fullWidth.toNat ∧
      src.fullWidth.toNat ≤ (m.getSrcMaxWidth src).toNat ∧
      (m.getSrcMinHeight src).toNat ≤ src.fullHeight.toNat ∧
      (m.getSrcWidthAlign src).toNat ∣ src.fullWidth.toNat ∧
      (m.getSrcMinCropWidth src).toNat ≤ src.w.toNat ∧
      (m.getSrcMinCropHeight src).toNat ≤ src.h.toNat := by
  unfold checkUnResizableSrcSize at h
  obtain ⟨hminW, h⟩ := guard_passed (by decide) h
  obtain ⟨hminH, h⟩ := guard_passed (by decide) h
  obtain ⟨hmaxW, h⟩ := guard_passed (by decide) h
  obtain ⟨hcropW, h⟩ := guard_passed (by decide) h
  obtain ⟨hcropH, h⟩ := guard_passed (by decide) h
  obtain ⟨-, h⟩ := guard_passed (by decide) h
  obtain ⟨halign, -⟩ := guard_passed (by decide) (stop_passed h)
  exact ⟨toNat_le hminW, toNat_le hmaxW, toNat_le hminH, toNat_dvd halign, toNat_le hcropW,
    toNat_le hcropH⟩

/-- What the second half says, which is skipped for protected buffers. -/
theorem checkResizableSrcSize_sound {src : ExynosImage}
    (h : m.checkResizableSrcSize src = some NO_ERROR) :
    src.fullHeight.toNat ≤ (m.getSrcMaxHeight src).toNat ∧
      (m.getSrcHeightAlign src).toNat ∣ src.fullHeight.toNat ∧
      src.w.toNat ≤ (m.getSrcMaxCropWidth src).toNat ∧
      src.h.toNat ≤ (m.getSrcMaxCropHeight src).toNat ∧
      ((m.getSrcCropWidthAlign src).toNat ∣ src.w.toNat ∧
        (m.getSrcCropHeightAlign src).toNat ∣ src.h.toNat) ∧
      (m.getSrcXOffsetAlign src).toNat ∣ src.x.toNat ∧
        (m.getSrcYOffsetAlign src).toNat ∣ src.y.toNat := by
  unfold checkResizableSrcSize at h
  obtain ⟨hmaxH, h⟩ := guard_passed (by decide) h
  obtain ⟨halign, h⟩ := guard_passed (by decide) (stop_passed h)
  obtain ⟨hcropW, h⟩ := guard_passed (by decide) h
  obtain ⟨hcropH, h⟩ := guard_passed (by decide) h
  obtain ⟨hsize, h⟩ := aligned_passed (by decide) h
  obtain ⟨hoffset, -⟩ := aligned_passed (by decide) h
  exact ⟨toNat_le hmaxH, toNat_dvd halign, toNat_le hcropW, toNat_le hcropH,
    notAligned_false hsize, notAligned_false hoffset⟩

/-- The wrapping products of the scale check can only refuse. -/
theorem checkScaleRatio_sound {src dst : ExynosImage} (h : m.checkScaleRatio src dst = NO_ERROR) :
    (m.effectiveLimits src dst).Scale src dst := by
  have hsome : (if src.w > (rotDst src dst).1 * m.getMaxDownscale src dst then
        some (-eMPPExeedMaxDownScale)
      else if (rotDst src dst).1 > src.w * m.getMaxUpscale src then some (-eMPPExeedMaxUpScale)
      else if src.h > (rotDst src dst).2 * m.getMaxDownscale src dst then
        some (-eMPPExeedMaxDownScale)
      else if (rotDst src dst).2 > src.h * m.getMaxUpscale src then some (-eMPPExeedMaxUpScale)
      else some NO_ERROR) = some NO_ERROR := by
    rw [← h]
    unfold checkScaleRatio
    split_ifs <;> rfl
  obtain ⟨hdownW, hsome⟩ := guard_passed (by decide) hsome
  obtain ⟨hupW, hsome⟩ := guard_passed (by decide) hsome
  obtain ⟨hdownH, hsome⟩ := guard_passed (by decide) hsome
  obtain ⟨hupH, -⟩ := guard_passed (by decide) hsome
  exact ⟨toNat_le_mul hdownW, toNat_le_mul hupW, toNat_le_mul hdownH, toNat_le_mul hupH⟩

/-! ### Soundness -/

/-- All limits together. -/
structure Within (l : Limits) (src dst : ExynosImage) : Prop where
  destination : l.Dst dst
  buffer : l.Buffer src
  crop : l.Crop src
  scale : l.Scale src dst

/-- The checks that an accepted pair has passed. -/
theorem isSupported_passed {src dst : ExynosImage} (hdim : src.isDimLayer = false)
    (hdrm : src.drmMode = .NO_DRM) (h : m.isSupported src dst = some NO_ERROR) :
    m.checkDstSize dst = some NO_ERROR ∧ m.checkUnResizableSrcSize src = some NO_ERROR ∧
      m.checkResizableSrcSize src = some NO_ERROR ∧ m.checkScaleRatio src dst = NO_ERROR := by
  unfold isSupported at h
  obtain ⟨hdst, h⟩ := andThen_noError (m.checkDstSize_fits dst) h
  obtain ⟨-, h⟩ := guard_passed (by decide) h
  rw [hdim, if_neg Bool.false_ne_true] at h
  obtain ⟨-, h⟩ := guard_passed (by decide) h
  obtain ⟨-, h⟩ := guard_passed (by decide) h
  obtain ⟨-, h⟩ := guard_passed (by decide) h
  obtain ⟨-, h⟩ := guard_passed (by decide) h
  obtain ⟨-, h⟩ := guard_passed (by decide) h
  obtain ⟨-, h⟩ := guard_passed (by decide) h
  obtain ⟨-, h⟩ := guard_passed (by decide) h
  obtain ⟨hunresizable, h⟩ := andThen_noError (m.checkUnResizableSrcSize_fits src) h
  obtain ⟨-, h⟩ := guard_passed (by decide) h
  rw [if_pos hdrm] at h
  obtain ⟨hresizable, h⟩ := andThen_noError (m.checkResizableSrcSize_fits src) h
  obtain ⟨hscale, -⟩ := andThen_noError (AllFit.result (m.checkScaleRatio_fits src dst)) h
  exact ⟨hdst, hunresizable, hresizable, Option.some.inj hscale⟩

/-- The side limits bound the crop area although the code's product may wrap. -/
theorem isSupported_within {src dst : ExynosImage} (hdim : src.isDimLayer = false)
    (hdrm : src.drmMode = .NO_DRM) (h : m.isSupported src dst = some NO_ERROR) :
    Within (m.effectiveLimits src dst) src dst := by
  obtain ⟨hdst, hunresizable, hresizable, hscale⟩ := m.isSupported_passed hdim hdrm h
  obtain ⟨hminW, hmaxW, hminH, halignW, hcropMinW, hcropMinH⟩ :=
    m.checkUnResizableSrcSize_sound hunresizable
  obtain ⟨hmaxH, halignH, hcropMaxW, hcropMaxH, hsize, hoffset⟩ :=
    m.checkResizableSrcSize_sound hresizable
  have harea : src.w.toNat * src.h.toNat ≤
      (m.getSrcMaxCropWidth src).toNat * (m.getSrcMaxCropHeight src).toNat :=
    Nat.mul_le_mul hcropMaxW hcropMaxH
  exact ⟨m.checkDstSize_sound hdst, ⟨⟨hminW, hmaxW⟩, ⟨hminH, hmaxH⟩, halignW, halignH⟩,
    ⟨⟨hcropMinW, hcropMaxW⟩, ⟨hcropMinH, hcropMaxH⟩, harea, hsize, hoffset⟩,
    m.checkScaleRatio_sound hscale⟩

/-- **The check is sound.**  An accepted pair that is neither a dim layer nor protected
    keeps every limit the accessors give, over the integers; where no accessor puts a
    fixed number in the place of an entry, these are the limits of the table. -/
theorem isSupported_sound (src dst : ExynosImage) (hdim : src.isDimLayer = false)
    (hdrm : src.drmMode = .NO_DRM) (h : m.isSupported src dst = some NO_ERROR) :
    Within (m.effectiveLimits src dst) src dst ∧
      (m.Plain src dst → Within (m.tableLimits src dst) src dst) := by
  have hwithin := m.isSupported_within hdim hdrm h
  refine ⟨hwithin, ?_⟩
  intro hplain
  rw [← m.effectiveLimits_plain hplain]
  exact hwithin

end ExynosMPP

/-! ### A display channel -/

/-- Checks that refuse nothing. -/
def lenientChecks : Checks where
  isSharedMPPUsed := false
  isSupportedCapability := fun _ => true
  hasHdrInfo := fun _ => false
  isDataspaceSupportedByMPP := fun _ _ => true
  isSupportedHDR10Plus := fun _ _ => true
  isSupportedBlend := fun _ => true
  isSupportedTransform := fun _ => true
  isSupportedDRM := fun _ => true
  isSupportedHStrideCrop := fun _ => true
  isSupportedCompression := fun _ => true
  isSupportLayerColorTransform := fun _ _ => true
  scaleAllowedByDPPPerformance := fun _ _ => true

/-- A row of a table with the given largest crop height. -/
def channelRow (maxCropHeight : UInt32) : RestrictionSize :=
  ⟨2, 8, 65535, 8191, 16, 16, 1, 1, 4096, maxCropHeight, 16, 16, 1, 1, 1, 1⟩

/-- A display channel whose sources may be 1080 lines high. -/
def channel : ExynosMPP where
  isOtf := true
  mPhysicalType := .DPP
  mLogicalType := .other
  attrDim := false
  mNeedSolidColorLayer := false
  targetAfbc := false
  mSrcSizeRestrictions := fun _ => channelRow 1080
  mDstSizeRestrictions := fun _ => channelRow 4096
  mFormatRestrictions := [(.NONE, 1)]
  checks := lenientChecks

def rgbImage (w h : UInt32) (transform : BitVec 32) : ExynosImage :=
  ⟨2048, 2048, 0, 0, w, h, ⟨1, true, false, false⟩, .NO_DRM, false, transform, false⟩

theorem isSupported_sound_channel :
    Within (channel.effectiveLimits (rgbImage 1000 1000 0) (rgbImage 1000 1000 0))
        (rgbImage 1000 1000 0) (rgbImage 1000 1000 0) ∧
      (channel.Plain (rgbImage 1000 1000 0) (rgbImage 1000 1000 0) →
        Within (channel.tableLimits (rgbImage 1000 1000 0) (rgbImage 1000 1000 0))
          (rgbImage 1000 1000 0) (rgbImage 1000 1000 0)) :=
  channel.isSupported_sound (rgbImage 1000 1000 0) (rgbImage 1000 1000 0) rfl rfl (by decide)

/-- Rotated by 90 degrees, a source of 2000 lines is accepted: the accessor's own 2160
    stands in the place of the table's 1080. -/
theorem rotated_above_table :
    channel.isSupported (rgbImage 1000 2000 4) (rgbImage 2000 1000 0) = some NO_ERROR ∧
      ¬ Within (channel.tableLimits (rgbImage 1000 2000 4) (rgbImage 2000 1000 0))
        (rgbImage 1000 2000 4) (rgbImage 2000 1000 0) := by
  refine ⟨by decide, ?_⟩
  intro hwithin
  exact absurd hwithin.crop.height.2 (by decide)

end ExynosHal.MppSupport
