/-
  ExynosHal/MppCapacity.lean
  ==========================
  **The capacity account of a multi-pixel processor.**

  `assignMPP`, `resetAssignedState` and the accounting behind them
  (`addCapacity`, `removeCapacity`, `updateUsedCapacity`, `getPPC`) of
  `libhwc2.1/resources/ExynosMPP.cpp`.  An MPP keeps running totals of the
  bandwidth and the cycles of the sources assigned to it; `recompute` is what a
  from-scratch computation over these sources gives.

  Floats are exact rationals, `uint32_t` totals are naturals below `2 ^ 32`.
  The clocks, the colour-fill rate and the pixel-per-clock table differ from one
  SoC to the next and are collected in `Soc`.
-/
import Mathlib.Algebra.BigOperators.Group.List.Basic
import Mathlib.Data.List.Sort
import Mathlib.Data.Rat.Defs
import Mathlib.Algebra.Order.Ring.Rat
import Mathlib.Tactic.Ring
import Mathlib.Tactic.Linarith
import ExynosHal.TransitionSystem

namespace ExynosHal.MppCapacity

open ExynosHal.TransitionSystem

/-! ### Data -/

def NO_ERROR : Int := 0
def EINVAL : Int := 22
def UINT32_MAX : Nat := 2 ^ 32 - 1
def HAL_TRANSFORM_ROT_90 : Nat := 4
def EXYNOS_HWC_DIM_LAYER : Nat := 1
def COMP_TYPE_AFBC : Nat := 0x00100000
def MPP_LOGICAL_MSC_COMBO : Nat := 0x400

inductive MPPType where
  | none
  | otf
  | m2m
deriving DecidableEq, Repr

inductive MPPPhysicalType where
  | dppG
  | dppGF
  | dppVG
  | dppVGS
  | dppVGF
  | dppVGFS
  | dppVGRS
  | dppVGRFS
  | msc
  | g2d
deriving DecidableEq, Repr

inductive PPCFormat where
  | yuv420
  | yuv422
  | rgb32
  | yuv8_2
  | p010
  | sbwc
  | afbc
deriving DecidableEq, Repr

inductive PPCRot where
  | no
  | rot
deriving DecidableEq, Repr

inductive PPCScale where
  | no
  | down_1_4
  | down_4_9
  | down_9_16
  | down_16
  | up_1_4
  | up_4
deriving DecidableEq, Repr

/-- What `ExynosFormat` answers about a pixel format. -/
structure ExynosFormat where
  isSBWC : Bool
  isP010 : Bool
  isYUV8_2 : Bool
  isYUV420 : Bool
  isYUV422 : Bool
deriving DecidableEq, Repr

/-- The part of `exynos_image` that the accounting reads. -/
structure Image where
  w : Nat
  h : Nat
  zOrder : Nat
  transform : Nat
  layerFlags : Nat
  compressionType : Nat
  exynosFormat : ExynosFormat
deriving DecidableEq, Repr

/-- `ExynosMPPSource`; an MPP is named by its number. -/
structure Source where
  srcImg : Image
  midImg : Image
  dstImg : Image
  otfMPP : Option Nat
  m2mMPP : Option Nat
deriving DecidableEq, Repr

structure DisplayInfo where
  id : Nat
  xres : Nat
  yres : Nat
deriving DecidableEq, Repr

/-- `DisplayInfo::reset`. -/
def DisplayInfo.initial : DisplayInfo := ⟨UINT32_MAX, 0, 0⟩

structure Soc where
  ppcTable : MPPPhysicalType → PPCFormat → PPCRot → Option (PPCScale → Rat)
  G2D_BASE_PPC_COLORFILL : Rat
  G2D_CLOCK : Nat
  MSC_CLOCK : Nat
  colorfill_pos : 0 < G2D_BASE_PPC_COLORFILL
  g2dClock_pos : 0 < G2D_CLOCK
  mscClock_pos : 0 < MSC_CLOCK

/-- The attributes of an `ExynosMPP` that do not change during the calls. -/
structure MPP where
  soc : Soc
  number : Nat
  mppType : MPPType
  physicalType : MPPPhysicalType
  logicalType : Nat
  maxSrcLayerNum : Nat
  capacity : Rat

structure State where
  /-- The source objects; an assigned source is named by its address. -/
  source : Nat → Source
  reserved : Bool
  assigned : Bool
  assignedDisplayInfo : DisplayInfo
  assignedSources : List Nat
  usedCapacity : Rat
  usedBaseCycles : Rat
  rotatedSrcCropBW : Nat
  noRotatedSrcCropBW : Nat

/-! ### Images -/

/-- `w * h` of a crop, a product of two `uint32_t`. -/
def Image.resolution (i : Image) : Nat := i.w * i.h % 2 ^ 32

def Image.rotated (i : Image) : Bool := i.transform &&& HAL_TRANSFORM_ROT_90 != 0

def Image.dim (i : Image) : Bool := i.layerFlags &&& EXYNOS_HWC_DIM_LAYER != 0

def addU32 (a b : Nat) : Nat := (a + b) % 2 ^ 32

def subU32 (a b : Nat) : Nat := (a + 2 ^ 32 - b) % 2 ^ 32

/-- The test with which `addCapacity` and `getRequiredCapacity` find out that the
    cycles of all sources change: `src` is the first rotated one. -/
def State.firstRotated (s : State) (src : Image) : Bool :=
  !(s.assignedSources.length == 0 || s.rotatedSrcCropBW != 0 ||
    (s.rotatedSrcCropBW == 0 && !src.rotated))

/-- The crop of a source is counted, as in `addCapacity` and in the first loop of
    `updateUsedCapacity`. -/
def State.countCropBW (s : State) (id : Nat) : State :=
  let src := (s.source id).srcImg
  if !src.rotated then
    { s with noRotatedSrcCropBW := addU32 s.noRotatedSrcCropBW src.resolution }
  else { s with rotatedSrcCropBW := addU32 s.rotatedSrcCropBW src.resolution }

/-- The crop of a source is taken off again, as in `removeCapacity`.  The test is
    not the one of `countCropBW`. -/
def State.removeCropBW (s : State) (id : Nat) : State :=
  let src := (s.source id).srcImg
  if src.transform = 0 then
    { s with noRotatedSrcCropBW := subU32 s.noRotatedSrcCropBW src.resolution }
  else { s with rotatedSrcCropBW := subU32 s.rotatedSrcCropBW src.resolution }

/-! ### Pixels per clock -/

namespace MPP

variable (m : MPP)

def hasPPC (format : PPCFormat) (rotIndex : PPCRot) : Bool :=
  (m.soc.ppcTable m.physicalType format rotIndex).isSome

def formatIndex (src criteria : Image) : PPCFormat :=
  if criteria.exynosFormat.isSBWC && m.hasPPC .sbwc .no then .sbwc
  else if criteria.exynosFormat.isP010 && m.hasPPC .p010 .no then .p010
  else if criteria.exynosFormat.isYUV8_2 && m.hasPPC .yuv8_2 .no then .yuv8_2
  else if criteria.exynosFormat.isYUV420 && m.hasPPC .yuv420 .no then .yuv420
  else if criteria.exynosFormat.isYUV422 && m.hasPPC .yuv422 .no then .yuv422
  else if src.compressionType == COMP_TYPE_AFBC && m.hasPPC .afbc .no then .afbc
  else .rgb32

def scaleIndex (src dst : Image) : PPCScale :=
  let srcResolution := src.resolution
  let dstResolution := dst.resolution
  if m.physicalType = .g2d then
    if srcResolution = dstResolution then .no
    else if dstResolution > srcResolution then
      if dstResolution ≥ srcResolution * 4 % 2 ^ 32 then .up_4 else .up_1_4
    else if dstResolution * 16 % 2 ^ 32 ≤ srcResolution then .down_16
    else if dstResolution * 9 % 2 ^ 32 ≤ srcResolution ∧
        srcResolution < dstResolution * 16 % 2 ^ 32 then .down_9_16
    else if dstResolution * 4 % 2 ^ 32 ≤ srcResolution ∧
        srcResolution < dstResolution * 9 % 2 ^ 32 then .down_4_9
    else .down_1_4
  else .no

def getPPCIndex (rotatedSrcCropBW : Nat) (src dst criteria : Image) :
    PPCFormat × PPCRot × PPCScale :=
  (m.formatIndex src criteria,
    if criteria.rotated || decide (rotatedSrcCropBW > 0) then .rot else .no,
    m.scaleIndex src dst)

/-- `getPPC`.  Of the state it reads `mRotatedSrcCropBW` only;
    `assignCheckSrc` is a source about to be assigned. -/
def getPPC (rotatedSrcCropBW : Nat) (src dst criteria : Image)
    (assignCheckSrc : Option Image) : Rat :=
  if m.physicalType = .g2d ∧ src.dim = true then m.soc.G2D_BASE_PPC_COLORFILL
  else
    let (formatIndex, rotIndex, scaleIndex) := m.getPPCIndex rotatedSrcCropBW src dst criteria
    let rotIndex :=
      if rotIndex = .no ∧ (assignCheckSrc.map (·.rotated)).getD false = true then .rot
      else rotIndex
    let ppc :=
      if m.physicalType = .g2d ∨ m.physicalType = .msc then
        match m.soc.ppcTable m.physicalType formatIndex rotIndex with
        | some ppcList => ppcList scaleIndex
        | none => 0
      else 0
    -- it means that the hardware cannot be used
    if ppc = 0 then 1 / 1000000 else ppc

def getMPPClock : Nat :=
  match m.physicalType with
  | .g2d => m.soc.G2D_CLOCK
  | .msc => m.soc.MSC_CLOCK
  | _ => 0

/-! ### Accounting -/

/-- Cycles of the background of a blending MPP. -/
def colorfillCycles (display : DisplayInfo) : Rat :=
  ((display.xres * display.yres % 2 ^ 32 : Nat) : Rat) / m.soc.G2D_BASE_PPC_COLORFILL

/-- Cycles of one source under a given rotated bandwidth. -/
def srcCycles (rotatedSrcCropBW : Nat) (src dst : Image) (assignCheckSrc : Option Image) : Rat :=
  ((max src.resolution dst.resolution : Nat) : Rat) /
    m.getPPC rotatedSrcCropBW src dst src assignCheckSrc

def getRequiredBaseCycles (rotatedSrcCropBW : Nat) (src dst : Image) : Rat :=
  if m.physicalType ≠ .g2d then 0 else m.srcCycles rotatedSrcCropBW src dst none

/-- `ExynosMPP::is2StepBlendingRequired`. -/
def is2StepBlendingRequired (_src : Image) : Bool := false

def getRequiredCapacity (s : State) (display : DisplayInfo) (src dst : Image) : Rat :=
  match m.physicalType with
  | .g2d =>
      let baseCycles :=
        if !s.firstRotated src then
          let curBaseCycles :=
            if s.assignedSources.length = 0 ∧ display.id ≠ UINT32_MAX ∧ m.maxSrcLayerNum > 1 then
              m.colorfillCycles display
            else 0
          s.usedBaseCycles + (curBaseCycles + m.getRequiredBaseCycles s.rotatedSrcCropBW src dst)
        else
          let baseCycles :=
            if display.id ≠ UINT32_MAX ∧ m.maxSrcLayerNum > 1 then m.colorfillCycles display
            else 0
          s.assignedSources.foldl (fun cycles id => cycles +
              m.srcCycles s.rotatedSrcCropBW (s.source id).srcImg (s.source id).midImg (some src))
            baseCycles +
            m.srcCycles s.rotatedSrcCropBW src dst (some src)
      baseCycles / m.getMPPClock
  | .msc =>
      let srcPPC := m.getPPC s.rotatedSrcCropBW src dst src none
      let dstPPC := m.getPPC s.rotatedSrcCropBW src dst dst none
      let srcCapacity := (src.resolution : Rat) / (m.getMPPClock * srcPPC)
      let dstCapacity := (dst.resolution : Rat) / (m.getMPPClock * dstPPC)
      let capacity := s.usedCapacity + max srcCapacity dstCapacity
      let again :=
        m.logicalType = MPP_LOGICAL_MSC_COMBO ∧ m.maxSrcLayerNum > 1 ∧
          ((s.assignedSources.head?).map
            fun id => is2StepBlendingRequired (s.source id).srcImg) = some true
      if again then capacity + max srcCapacity dstCapacity else capacity
  | _ => 0

/-- `addCapacity`: whether everything has to be computed again, and the state. -/
def addCapacity (s : State) (id : Nat) : Bool × State :=
  let src := (s.source id).srcImg
  let mid := (s.source id).midImg
  if m.capacity = -1 then (false, s)
  else
    match m.physicalType with
    | .g2d =>
        if s.firstRotated src then (true, s)
        else
          let baseCycles :=
            if m.maxSrcLayerNum > 1 ∧ s.assignedSources.length = 0 ∧
                s.assignedDisplayInfo.id ≠ UINT32_MAX then
              s.usedBaseCycles + m.colorfillCycles s.assignedDisplayInfo
            else s.usedBaseCycles
          let baseCycles := baseCycles + m.getRequiredBaseCycles s.rotatedSrcCropBW src mid
          (false, { s.countCropBW id with
            usedBaseCycles := baseCycles
            usedCapacity := baseCycles / m.getMPPClock })
    | .msc => (false, { s with
        usedCapacity := m.getRequiredCapacity s s.assignedDisplayInfo src mid })
    | _ => (false, s)

/-- `removeCapacity`: whether everything has to be computed again, and the state. -/
def removeCapacity (s : State) (id : Nat) : Bool × State :=
  let src := (s.source id).srcImg
  let mid := (s.source id).midImg
  let dst := (s.source id).dstImg
  if m.capacity = -1 then (false, s)
  else
    match m.physicalType with
    | .g2d =>
        let prevRotatedSrcCropBW := s.rotatedSrcCropBW
        let s := s.removeCropBW id
        if prevRotatedSrcCropBW > 0 ∧ s.rotatedSrcCropBW = 0 then (true, s)
        else
          let baseCycles :=
            s.usedBaseCycles - m.getRequiredBaseCycles s.rotatedSrcCropBW src mid
          (false, { s with
            usedBaseCycles := baseCycles
            usedCapacity := baseCycles / m.getMPPClock })
    | .msc =>
        let srcCapacity := (src.resolution : Rat) / m.getPPC s.rotatedSrcCropBW src dst src none
        let dstCapacity := (dst.resolution : Rat) / m.getPPC s.rotatedSrcCropBW src dst dst none
        (false, { s with usedCapacity := s.usedCapacity - max srcCapacity dstCapacity })
    | _ => (false, s)

end MPP

def State.resetUsedCapacity (s : State) : State :=
  { s with
    usedCapacity := 0
    usedBaseCycles := 0
    rotatedSrcCropBW := 0
    noRotatedSrcCropBW := 0 }

namespace MPP

variable (m : MPP)

def updateUsedCapacity (s : State) : State :=
  if m.capacity = -1 then s
  else
    let s := { s with usedCapacity := 0, rotatedSrcCropBW := 0, noRotatedSrcCropBW := 0 }
    if m.physicalType = .g2d ∧ s.assignedDisplayInfo.id ≠ UINT32_MAX ∧
        s.assignedSources.length > 0 then
      let cycles : Rat :=
        if m.maxSrcLayerNum > 1 then m.colorfillCycles s.assignedDisplayInfo else 0
      let s := s.assignedSources.foldl State.countCropBW s
      let cycles := s.assignedSources.foldl (fun cycles id => cycles +
          m.srcCycles s.rotatedSrcCropBW (s.source id).srcImg (s.source id).midImg none) cycles
      { s with usedBaseCycles := cycles, usedCapacity := cycles / m.getMPPClock }
    else s

/-! ### Assignment -/

/-- `std::sort` with `exynosMPPSourceComp`. -/
def sortSources (s : State) : State :=
  { s with
    assignedSources := s.assignedSources.insertionSort fun l r =>
      (s.source l).srcImg.zOrder ≤ (s.source r).srcImg.zOrder }

/-- Writes one source object. -/
def setSource (s : State) (id : Nat) (src : Source) : State :=
  { s with source := fun i => if i = id then src else s.source i }

/-- The assignment of `mOtfMPP` or `mM2mMPP` to a source that is being assigned. -/
def linkSource (s : State) (id : Nat) : State :=
  match m.mppType with
  | .otf => setSource s id { s.source id with otfMPP := some m.number }
  | .m2m => setSource s id { s.source id with m2mMPP := some m.number }
  | .none => s

def assignMPP (s : State) (display : DisplayInfo) (id : Nat) : Int × State :=
  let s := { s with assigned := true }
  if m.mppType = .none then (-EINVAL, s)
  else
    let s := m.linkSource s id
    let s := { s with assignedDisplayInfo := display }
    let added := m.addCapacity s id
    let s := { added.2 with assignedSources := added.2.assignedSources ++ [id] }
    let s := if added.1 then m.updateUsedCapacity s else s
    (NO_ERROR, if m.maxSrcLayerNum > 1 then sortSources s else s)

/-- The state kept while nothing is assigned. -/
def releaseDisplay (s : State) : State :=
  if s.assigned ∧ s.assignedSources.length = 0 then
    { s with assigned := false, assignedDisplayInfo := .initial }
  else s

/-- The last occurrence of `id` is dropped, as by the descending loop. -/
def removeLast (l : List Nat) (id : Nat) : List Nat := (l.reverse.erase id).reverse

/-- `resetAssignedState(mppSource)`. -/
def resetAssignedSource (s : State) (id : Nat) : State :=
  let s :=
    if id ∈ s.assignedSources then
      let s :=
        if (s.source id).m2mMPP = some m.number then
          setSource s id { s.source id with m2mMPP := none }
        else s
      let removed := m.removeCapacity s id
      let s := { removed.2 with assignedSources := removeLast removed.2.assignedSources id }
      if removed.1 then m.updateUsedCapacity s else s
    else s
  releaseDisplay s

/-- The round of the loop of `resetAssignedState()` for one source. -/
def unlinkSource (s : State) (id : Nat) : State :=
  let src := s.source id
  setSource s id { src with
    otfMPP := if src.otfMPP = some m.number then none else src.otfMPP
    m2mMPP := if src.m2mMPP = some m.number then none else src.m2mMPP }

/-- `resetAssignedState()`. -/
def resetAssignedState (s : State) : State :=
  let s := s.assignedSources.reverse.foldl m.unlinkSource s
  let s := { s with assignedSources := [] }
  (releaseDisplay s).resetUsedCapacity

end MPP

/-! ### Recomputation over the assigned sources -/

structure Totals where
  usedCapacity : Rat
  usedBaseCycles : Rat
  rotatedSrcCropBW : Nat
  noRotatedSrcCropBW : Nat
deriving DecidableEq

def Totals.zero : Totals := ⟨0, 0, 0, 0⟩

def State.totals (s : State) : Totals :=
  ⟨s.usedCapacity, s.usedBaseCycles, s.rotatedSrcCropBW, s.noRotatedSrcCropBW⟩

/-- The source and the mid image, which the accounting of a source depends on. -/
def Source.images (x : Source) : Image × Image := (x.srcImg, x.midImg)

def State.images (s : State) : List (Image × Image) :=
  s.assignedSources.map fun id => (s.source id).images

/-- What an image counts in the rotated total. -/
def Image.rotatedArea (i : Image) : Nat := if i.rotated then i.resolution else 0

/-- What an image counts in the other total. -/
def Image.noRotatedArea (i : Image) : Nat := if i.rotated then 0 else i.resolution

theorem Image.rotatedArea_of_rotated {i : Image} (h : i.rotated = true) :
    i.rotatedArea = i.resolution := if_pos h

theorem Image.rotatedArea_of_not {i : Image} (h : ¬ i.rotated = true) : i.rotatedArea = 0 :=
  if_neg h

theorem Image.rotatedArea_add (i : Image) : i.rotatedArea + i.noRotatedArea = i.resolution := by
  by_cases h : i.rotated <;> simp [rotatedArea, noRotatedArea, h]

def rotatedBW (l : List (Image × Image)) : Nat :=
  ((l.filter (·.1.rotated)).map (·.1.resolution)).sum

def noRotatedBW (l : List (Image × Image)) : Nat :=
  ((l.filter (!·.1.rotated)).map (·.1.resolution)).sum

namespace MPP

variable (m : MPP)

/-- An MPP that blends several sources fills the background once. -/
def background (display : DisplayInfo) : Rat :=
  if m.maxSrcLayerNum > 1 then m.colorfillCycles display else 0

def totalCycles (display : DisplayInfo) (l : List (Image × Image)) : Rat :=
  if l = [] then 0
  else m.background display + (l.map fun x => m.srcCycles (rotatedBW l) x.1 x.2 none).sum

/-- The time a scaler needs for one source. -/
def mscCapacity (x : Image × Image) : Rat :=
  max ((x.1.resolution : Rat) / (m.getMPPClock * m.getPPC 0 x.1 x.2 x.1 none))
    ((x.2.resolution : Rat) / (m.getMPPClock * m.getPPC 0 x.1 x.2 x.2 none))

/-- The totals of a from-scratch computation.  An MPP without a capacity limit
    keeps no account, and a scaler accounts for time only. -/
def recompute (display : DisplayInfo) (l : List (Image × Image)) : Totals :=
  if m.capacity = -1 then .zero
  else
    match m.physicalType with
    | .g2d => ⟨m.totalCycles display l / m.getMPPClock, m.totalCycles display l,
        rotatedBW l, noRotatedBW l⟩
    | .msc => ⟨(l.map m.mscCapacity).sum, 0, 0, 0⟩
    | _ => .zero

end MPP

/-! ### Laws of the recomputation -/

section Recomputation

variable {m : MPP} {display : DisplayInfo} {l l' : List (Image × Image)} {x : Image × Image}

theorem rotatedBW_cons : rotatedBW (x :: l) = rotatedBW l + x.1.rotatedArea := by
  by_cases h : x.1.rotated <;> simp [rotatedBW, Image.rotatedArea, h, add_comm]

theorem noRotatedBW_cons : noRotatedBW (x :: l) = noRotatedBW l + x.1.noRotatedArea := by
  by_cases h : x.1.rotated <;> simp [noRotatedBW, Image.noRotatedArea, h, add_comm]

theorem rotatedBW_perm (h : l.Perm l') : rotatedBW l = rotatedBW l' :=
  ((h.filter _).map _).sum_eq

theorem noRotatedBW_perm (h : l.Perm l') : noRotatedBW l = noRotatedBW l' :=
  ((h.filter _).map _).sum_eq

theorem totalCycles_perm (h : l.Perm l') : m.totalCycles display l = m.totalCycles display l' := by
  have hnil : l = [] ↔ l' = [] := by
    constructor
    · rintro rfl; exact h.nil_eq.symm
    · rintro rfl; exact h.eq_nil
  simp only [MPP.totalCycles, hnil, rotatedBW_perm h]
  rw [(h.map _).sum_eq]

/-- The order of the assigned sources does not matter. -/
theorem recompute_perm (h : l.Perm l') : m.recompute display l = m.recompute display l' := by
  simp only [MPP.recompute, totalCycles_perm h, rotatedBW_perm h, noRotatedBW_perm h,
    (h.map _).sum_eq]

@[simp] theorem recompute_nil : m.recompute display [] = .zero := by
  unfold MPP.recompute
  split
  · rfl
  · split <;> simp [MPP.totalCycles, rotatedBW, noRotatedBW, Totals.zero]

/-- The cycles of a source depend on the rotated bandwidth through its sign only. -/
theorem srcCycles_congr {a b : Nat} (h : 0 < a ↔ 0 < b) (src dst : Image) :
    m.srcCycles a src dst none = m.srcCycles b src dst none := by
  simp [MPP.srcCycles, MPP.getPPC, MPP.getPPCIndex, h]

/-- The cycles of a rotated source do not depend on the other sources. -/
theorem srcCycles_rotated {src : Image} (h : src.rotated = true) (a b : Nat) (dst : Image) :
    m.srcCycles a src dst none = m.srcCycles b src dst none := by
  simp [MPP.srcCycles, MPP.getPPC, MPP.getPPCIndex, h]

theorem totalCycles_singleton (a : Nat) (h : x.1.rotated = true ∨ a = 0) :
    m.totalCycles display [x] = m.background display + m.srcCycles a x.1 x.2 none := by
  have hx : m.srcCycles (rotatedBW [x]) x.1 x.2 none = m.srcCycles a x.1 x.2 none := by
    by_cases hr : x.1.rotated = true
    · exact srcCycles_rotated hr _ _ _
    · obtain rfl : a = 0 := h.resolve_left hr
      simp [rotatedBW, hr]
  simp [MPP.totalCycles, hx]

/-- One more source adds its own cycles, as long as it does not change whether
    the rotated rates apply to the others. -/
theorem totalCycles_cons (hl : l ≠ []) (hrot : 0 < rotatedBW (x :: l) ↔ 0 < rotatedBW l) :
    m.totalCycles display (x :: l) =
      m.srcCycles (rotatedBW l) x.1 x.2 none + m.totalCycles display l := by
  have hsum : (l.map fun y => m.srcCycles (rotatedBW (x :: l)) y.1 y.2 none) =
      l.map fun y => m.srcCycles (rotatedBW l) y.1 y.2 none :=
    List.map_congr_left fun y _ => srcCycles_congr hrot _ _
  simp only [MPP.totalCycles, hl, if_false, List.map_cons, List.sum_cons, hsum, reduceCtorEq,
    srcCycles_congr hrot x.1 x.2]
  ring

end Recomputation

/-! ### What the accounting functions leave alone -/

/-- Everything but the totals is the same. -/
structure SameAssignment (s s' : State) : Prop where
  source : s'.source = s.source
  assigned : s'.assigned = s.assigned
  display : s'.assignedDisplayInfo = s.assignedDisplayInfo
  sources : s'.assignedSources = s.assignedSources

section Frame

variable (m : MPP) (s : State) (id : Nat)

theorem SameAssignment.images {s s' : State} (h : SameAssignment s s') :
    s'.images = s.images := by
  simp [State.images, h.source, h.sources]

theorem countCropBW_frame : SameAssignment s (s.countCropBW id) := by
  simp only [State.countCropBW]
  split <;> constructor <;> rfl

theorem removeCropBW_frame : SameAssignment s (s.removeCropBW id) := by
  simp only [State.removeCropBW]
  split <;> constructor <;> rfl

theorem addCapacity_frame : SameAssignment s (m.addCapacity s id).2 := by
  have h := countCropBW_frame s id
  simp only [MPP.addCapacity]
  split
  · constructor <;> rfl
  · split
    · split
      · constructor <;> rfl
      · exact ⟨h.source, h.assigned, h.display, h.sources⟩
    · constructor <;> rfl
    · constructor <;> rfl

theorem removeCapacity_frame : SameAssignment s (m.removeCapacity s id).2 := by
  have h := removeCropBW_frame s id
  simp only [MPP.removeCapacity]
  split
  · constructor <;> rfl
  · split
    · split <;> exact ⟨h.source, h.assigned, h.display, h.sources⟩
    · constructor <;> rfl
    · constructor <;> rfl

theorem foldl_countCropBW_frame (l : List Nat) :
    SameAssignment s (l.foldl State.countCropBW s) := by
  induction l generalizing s with
  | nil => constructor <;> rfl
  | cons id l ih =>
      have hstep := countCropBW_frame s id
      have hrest := ih (s.countCropBW id)
      exact ⟨hrest.source.trans hstep.source, hrest.assigned.trans hstep.assigned,
        hrest.display.trans hstep.display, hrest.sources.trans hstep.sources⟩

theorem updateUsedCapacity_frame : SameAssignment s (m.updateUsedCapacity s) := by
  simp only [MPP.updateUsedCapacity]
  split
  · constructor <;> rfl
  · split
    · have h := foldl_countCropBW_frame
        { s with usedCapacity := 0, rotatedSrcCropBW := 0, noRotatedSrcCropBW := 0 }
        s.assignedSources
      exact ⟨h.source, h.assigned, h.display, h.sources⟩
    · constructor <;> rfl

end Frame

/-! ### The loops of `updateUsedCapacity` -/

section Loops

theorem foldl_add_eq {α : Type} (f : α → Rat) (l : List α) (c : Rat) :
    l.foldl (fun c x => c + f x) c = c + (l.map f).sum := by
  induction l generalizing c with
  | nil => simp
  | cons x l ih => rw [List.foldl_cons, ih, List.map_cons, List.sum_cons, add_assoc]

theorem countCropBW_bw (s : State) (id : Nat)
    (h : s.rotatedSrcCropBW + s.noRotatedSrcCropBW + (s.source id).srcImg.resolution < 2 ^ 32) :
    (s.countCropBW id).rotatedSrcCropBW =
        s.rotatedSrcCropBW + (s.source id).srcImg.rotatedArea ∧
      (s.countCropBW id).noRotatedSrcCropBW =
        s.noRotatedSrcCropBW + (s.source id).srcImg.noRotatedArea := by
  simp only [State.countCropBW, Image.rotatedArea, Image.noRotatedArea, addU32]
  by_cases hr : (s.source id).srcImg.rotated = true
  · simp only [hr, Bool.not_true, Bool.false_eq_true, if_false, if_true]
    exact ⟨Nat.mod_eq_of_lt (by omega), rfl⟩
  · simp only [hr, Bool.not_false, Bool.false_eq_true, if_false, if_true]
    exact ⟨rfl, Nat.mod_eq_of_lt (by omega)⟩

/-- The bandwidth loop adds up the crop areas of the sources it visits. -/
theorem foldl_countCropBW (s : State) (l : List Nat)
    (h : s.rotatedSrcCropBW + s.noRotatedSrcCropBW +
      (rotatedBW (l.map fun id => (s.source id).images) +
        noRotatedBW (l.map fun id => (s.source id).images)) < 2 ^ 32) :
    (l.foldl State.countCropBW s).rotatedSrcCropBW =
        s.rotatedSrcCropBW + rotatedBW (l.map fun id => (s.source id).images) ∧
      (l.foldl State.countCropBW s).noRotatedSrcCropBW =
        s.noRotatedSrcCropBW + noRotatedBW (l.map fun id => (s.source id).images) := by
  induction l generalizing s with
  | nil => exact ⟨rfl, rfl⟩
  | cons id l ih =>
      simp only [List.map_cons, rotatedBW_cons, noRotatedBW_cons, List.foldl_cons] at h ⊢
      have harea := Image.rotatedArea_add (s.source id).srcImg
      have hstep := countCropBW_bw s id (by simp only [Source.images] at h; omega)
      have hsource := (countCropBW_frame s id).source
      have hrest := ih (s.countCropBW id) (by
        rw [hsource, hstep.1, hstep.2]
        simp only [Source.images] at h ⊢
        omega)
      rw [hsource, hstep.1, hstep.2] at hrest
      simp only [Source.images] at hrest ⊢
      omega

end Loops

/-! ### The invariant -/

/-- The MPP keeps an account of cycles. -/
def MPP.AccountsCycles (m : MPP) : Prop := m.capacity ≠ -1 ∧ m.physicalType = .g2d

structure Inv (m : MPP) (s : State) : Prop where
  totals : s.totals = m.recompute s.assignedDisplayInfo s.images
  display : m.AccountsCycles → s.assignedSources ≠ [] →
    s.assignedDisplayInfo.id ≠ UINT32_MAX
  bandwidth : m.AccountsCycles → rotatedBW s.images + noRotatedBW s.images < 2 ^ 32

section Steps

variable {m : MPP} {s : State}

theorem recompute_of_accountsCycles (h : m.AccountsCycles) (display : DisplayInfo)
    (l : List (Image × Image)) :
    m.recompute display l = ⟨m.totalCycles display l / m.getMPPClock, m.totalCycles display l,
      rotatedBW l, noRotatedBW l⟩ := by
  simp [MPP.recompute, h.1, h.2]

/-- `updateUsedCapacity` is the from-scratch computation as long as a source is
    left; it forgets the cycles otherwise. -/
theorem updateUsedCapacity_totals (h : m.AccountsCycles) (hne : s.assignedSources ≠ [])
    (hdisplay : s.assignedDisplayInfo.id ≠ UINT32_MAX)
    (hbw : rotatedBW s.images + noRotatedBW s.images < 2 ^ 32) :
    (m.updateUsedCapacity s).totals = m.recompute s.assignedDisplayInfo s.images := by
  have hlen : s.assignedSources.length > 0 := List.length_pos_of_ne_nil hne
  have himg : s.images ≠ [] := by simpa [State.images] using hne
  have hcount := foldl_countCropBW
    { s with usedCapacity := 0, rotatedSrcCropBW := 0, noRotatedSrcCropBW := 0 }
    s.assignedSources (by simpa only [Nat.zero_add, State.images] using hbw)
  have hframe := foldl_countCropBW_frame
    { s with usedCapacity := 0, rotatedSrcCropBW := 0, noRotatedSrcCropBW := 0 }
    s.assignedSources
  have hcycles : m.totalCycles s.assignedDisplayInfo s.images =
      (if m.maxSrcLayerNum > 1 then m.colorfillCycles s.assignedDisplayInfo else 0) +
        (s.assignedSources.map fun id => m.srcCycles (rotatedBW s.images)
          (s.source id).srcImg (s.source id).midImg none).sum := by
    simp only [MPP.totalCycles, himg, if_false, MPP.background]
    simp only [State.images, List.map_map, Function.comp_def, Source.images]
  rw [recompute_of_accountsCycles h, hcycles]
  simp only [MPP.updateUsedCapacity, h.1, h.2, if_false, hdisplay, hlen, true_and, ne_eq,
    not_false_eq_true, if_true, State.totals, foldl_add_eq, hcount.1, hcount.2,
    hframe.source, hframe.sources, Nat.zero_add, State.images]

theorem recompute_display_congr {display display' : DisplayInfo} {l : List (Image × Image)}
    (h : l = [] ∨ m.background display = m.background display') :
    m.recompute display l = m.recompute display' l := by
  rcases h with rfl | h
  · simp
  · simp only [MPP.recompute, MPP.totalCycles, h]

theorem totals_of_accountsCycles (h : m.AccountsCycles) {display : DisplayInfo}
    {l : List (Image × Image)} (hT : s.totals = m.recompute display l) :
    s.usedBaseCycles = m.totalCycles display l ∧ s.rotatedSrcCropBW = rotatedBW l ∧
      s.noRotatedSrcCropBW = noRotatedBW l := by
  rw [recompute_of_accountsCycles h] at hT
  simp only [State.totals, Totals.mk.injEq] at hT
  exact ⟨hT.2.1, hT.2.2⟩

/-- Adding a source keeps the totals right, unless all cycles change. -/
theorem addCapacity_totals (h : m.AccountsCycles) {id : Nat}
    (hT : s.totals = m.recompute s.assignedDisplayInfo s.images)
    (hdisplay : s.assignedDisplayInfo.id ≠ UINT32_MAX)
    (hbw : rotatedBW s.images + noRotatedBW s.images + (s.source id).srcImg.resolution < 2 ^ 32)
    (hfirst : s.firstRotated (s.source id).srcImg = false) :
    (m.addCapacity s id).2.totals =
      m.recompute s.assignedDisplayInfo ((s.source id).images :: s.images) := by
  obtain ⟨hcyc, hrot, hno⟩ := totals_of_accountsCycles h hT
  have hcount := countCropBW_bw s id (by rw [hrot, hno]; exact hbw)
  have hbase (a : Nat) (src dst : Image) :
      m.getRequiredBaseCycles a src dst = m.srcCycles a src dst none := by
    simp [MPP.getRequiredBaseCycles, h.2]
  have hnew : (if m.maxSrcLayerNum > 1 ∧ s.assignedSources.length = 0 ∧
        s.assignedDisplayInfo.id ≠ UINT32_MAX then
        s.usedBaseCycles + m.colorfillCycles s.assignedDisplayInfo else s.usedBaseCycles) +
      m.srcCycles s.rotatedSrcCropBW (s.source id).srcImg (s.source id).midImg none =
        m.totalCycles s.assignedDisplayInfo ((s.source id).images :: s.images) := by
    by_cases hl : s.assignedSources = []
    · -- the first source brings the background along
      have himg : s.images = [] := by simp [State.images, hl]
      have hr0 : s.rotatedSrcCropBW = 0 := by simp [hrot, himg, rotatedBW]
      rw [himg, totalCycles_singleton s.rotatedSrcCropBW (.inr hr0), hcyc, himg]
      simp only [hl, MPP.background, MPP.totalCycles, Source.images]
      by_cases hmax : m.maxSrcLayerNum > 1 <;> simp [hmax, hdisplay]
    · have himg : s.images ≠ [] := by simpa [State.images] using hl
      have hlen : s.assignedSources.length ≠ 0 := by simpa using hl
      rw [totalCycles_cons himg, hcyc, hrot]
      · simp [hlen, Source.images, add_comm]
      · rw [rotatedBW_cons, ← hrot]
        simp only [State.firstRotated, Bool.not_eq_false', Bool.or_eq_true, beq_iff_eq,
          bne_iff_ne, Bool.and_eq_true, Bool.not_eq_true', hlen, false_or] at hfirst
        simp only [Source.images, Image.rotatedArea]
        rcases hfirst with hpos | ⟨-, hsrc⟩
        · omega
        · simp [hsrc]
  rw [recompute_of_accountsCycles h, rotatedBW_cons, noRotatedBW_cons, ← hnew, ← hrot, ← hno]
  simp only [MPP.addCapacity, h.1, h.2, hfirst, hbase, State.totals, hcount.1, hcount.2, if_false,
    Bool.false_eq_true, Source.images]

theorem subU32_of_le {a b : Nat} (hb : b ≤ a) (ha : a < 2 ^ 32) : subU32 a b = a - b := by
  have hsum : a + 2 ^ 32 - b = a - b + 2 ^ 32 := by omega
  rw [subU32, hsum, Nat.add_mod_right, Nat.mod_eq_of_lt (by omega)]

/-- The test `transform == 0` and the test of the ROT_90 bit agree on this source,
    or the difference does not show. -/
def State.SameTest (s : State) (src : Image) : Prop :=
  src.transform = 0 ∨ src.rotated = true ∨ src.resolution = 0 ∨
    src.resolution = s.rotatedSrcCropBW

instance (s : State) (src : Image) : Decidable (s.SameTest src) :=
  inferInstanceAs (Decidable (_ ∨ _))

/-- Taking the last source off leaves nothing behind. -/
def MPP.NothingLeft (m : MPP) (s : State) (src : Image) : Prop :=
  m.background s.assignedDisplayInfo = 0 ∧ (src.rotated = true → src.resolution = 0)

instance (m : MPP) (s : State) (src : Image) : Decidable (m.NothingLeft s src) :=
  inferInstanceAs (Decidable (_ ∧ _))

theorem not_rotated_of_transform_zero {i : Image} (h : i.transform = 0) : i.rotated = false := by
  simp [Image.rotated, h]

/-- The bandwidths after a removal: those of the remaining sources, or the rotated
    one has dropped to zero by accident and everything is computed again. -/
theorem removeCropBW_bw (s : State) (id : Nat) {R N : Nat}
    (hrot : s.rotatedSrcCropBW = R + (s.source id).srcImg.rotatedArea)
    (hno : s.noRotatedSrcCropBW = N + (s.source id).srcImg.noRotatedArea)
    (hbw : s.rotatedSrcCropBW + s.noRotatedSrcCropBW < 2 ^ 32)
    (hsame : s.SameTest (s.source id).srcImg) :
    ((s.removeCropBW id).rotatedSrcCropBW = R ∧ (s.removeCropBW id).noRotatedSrcCropBW = N) ∨
      (0 < R ∧ R = s.rotatedSrcCropBW ∧ (s.removeCropBW id).rotatedSrcCropBW = 0) := by
  have harea := Image.rotatedArea_add (s.source id).srcImg
  by_cases ht : (s.source id).srcImg.transform = 0
  · have hr := Image.rotatedArea_of_not (Bool.eq_false_iff.mp (not_rotated_of_transform_zero ht))
    left
    simp only [State.removeCropBW, ht, if_true]
    rw [subU32_of_le (by omega) (by omega)]
    omega
  · simp only [State.removeCropBW, ht, if_false]
    by_cases hr : (s.source id).srcImg.rotated = true
    · have hr := Image.rotatedArea_of_rotated hr
      rw [subU32_of_le (by omega) (by omega)]
      omega
    · have hr0 := Image.rotatedArea_of_not hr
      rcases hsame with h | h | h | h
      · exact absurd h ht
      · exact absurd h hr
      · rw [subU32_of_le (by omega) (by omega)]
        omega
      · rw [subU32_of_le (by omega) (by omega)]
        omega

theorem removeCropBW_usedBaseCycles (s : State) (id : Nat) :
    (s.removeCropBW id).usedBaseCycles = s.usedBaseCycles := by
  simp only [State.removeCropBW]
  split <;> rfl

/-- Removing a source keeps the totals right, or everything is computed again for
    the sources that are left. -/
theorem removeCapacity_totals (h : m.AccountsCycles) {id : Nat} {l : List (Image × Image)}
    (hT : s.totals = m.recompute s.assignedDisplayInfo s.images)
    (hperm : s.images.Perm ((s.source id).images :: l))
    (hbw : rotatedBW s.images + noRotatedBW s.images < 2 ^ 32)
    (hsame : s.SameTest (s.source id).srcImg)
    (hlast : l = [] → m.NothingLeft s (s.source id).srcImg) :
    ((m.removeCapacity s id).1 = true ∧ l ≠ []) ∨
      ((m.removeCapacity s id).1 = false ∧
        (m.removeCapacity s id).2.totals = m.recompute s.assignedDisplayInfo l) := by
  obtain ⟨hcyc, hrot, hno⟩ := totals_of_accountsCycles h hT
  rw [← hrot, ← hno] at hbw
  rw [totalCycles_perm hperm] at hcyc
  rw [rotatedBW_perm hperm, rotatedBW_cons] at hrot
  rw [noRotatedBW_perm hperm, noRotatedBW_cons] at hno
  have hbase (a : Nat) (src dst : Image) :
      m.getRequiredBaseCycles a src dst = m.srcCycles a src dst none := by
    simp [MPP.getRequiredBaseCycles, h.2]
  have hnil : l = [] → rotatedBW l = 0 := by rintro rfl; rfl
  rcases removeCropBW_bw s id hrot hno hbw hsame with ⟨hR, hN⟩ | ⟨hpos, hR, hzero⟩
  · by_cases hagain : s.rotatedSrcCropBW > 0 ∧ rotatedBW l = 0
    · -- the last rotated source goes
      left
      refine ⟨by simp [MPP.removeCapacity, h.1, h.2, hR, hagain], fun hl => ?_⟩
      have hleft := (hlast hl).2
      by_cases hsrc : (s.source id).srcImg.rotated = true
      · have harea := Image.rotatedArea_of_rotated hsrc
        have hzero := hleft hsrc
        simp only [Source.images] at hrot
        omega
      · have harea := Image.rotatedArea_of_not hsrc
        simp only [Source.images] at hrot
        omega
    · right
      have hcycles : s.usedBaseCycles -
          m.srcCycles (rotatedBW l) (s.source id).srcImg (s.source id).midImg none =
          m.totalCycles s.assignedDisplayInfo l := by
        rw [hcyc]
        by_cases hl : l = []
        · subst hl
          rw [totalCycles_singleton (rotatedBW []) (.inr rfl), (hlast rfl).1]
          simp [MPP.totalCycles, Source.images]
        · rw [totalCycles_cons hl (by rw [rotatedBW_cons]; omega)]
          simp [Source.images]
      rw [recompute_of_accountsCycles h]
      simp only [MPP.removeCapacity, h.1, h.2, if_false, hR, hagain, hbase, State.totals, hN,
        removeCropBW_usedBaseCycles, hcycles, true_and]
  · left
    refine ⟨?_, fun hl => by have := hnil hl; omega⟩
    have hprev : s.rotatedSrcCropBW > 0 := by omega
    simp [MPP.removeCapacity, h.1, h.2, hprev, hzero]

/-- The MPP keeps no account of cycles: nothing is computed again, and the account
    of a scaler grows by the time of the new source. -/
theorem addCapacity_other (h : ¬ m.AccountsCycles) (id : Nat) {display : DisplayInfo}
    {l : List (Image × Image)} (hT : s.totals = m.recompute display l) :
    (m.addCapacity s id).1 = false ∧
      (m.addCapacity s id).2.totals = m.recompute display ((s.source id).images :: l) := by
  by_cases hcap : m.capacity = -1
  · simp only [MPP.addCapacity, MPP.recompute, hcap, if_true] at hT ⊢
    exact ⟨trivial, hT⟩
  · rcases hp : m.physicalType with _ | _ | _ | _ | _ | _ | _ | _ | _ | _
    case msc =>
      simp only [MPP.recompute, hcap, if_false, hp, State.totals, Totals.mk.injEq] at hT
      obtain ⟨hused, hcyc, hrot, hno⟩ := hT
      have hnone (o : Option Nat) :
          (o.map fun i => MPP.is2StepBlendingRequired (s.source i).srcImg) ≠ some true := by
        cases o <;> simp [MPP.is2StepBlendingRequired]
      simp only [MPP.addCapacity, hcap, if_false, hp, MPP.getRequiredCapacity, hnone, and_false,
        State.totals, MPP.recompute, hused, hrot, hcyc, hno, List.map_cons, List.sum_cons,
        true_and]
      simp only [MPP.mscCapacity, Source.images, add_comm]
    case g2d => exact absurd ⟨hcap, hp⟩ h
    all_goals
      simp only [MPP.addCapacity, MPP.recompute, hcap, if_false, hp] at hT ⊢
      exact ⟨trivial, hT⟩

/-- An image that is not there. -/
def Source.Empty (x : Source) : Prop :=
  x.srcImg.resolution = 0 ∧ x.midImg.resolution = 0 ∧ x.dstImg.resolution = 0

instance (x : Source) : Decidable x.Empty := inferInstanceAs (Decidable (_ ∧ _))

theorem removeCapacity_other (h : ¬ m.AccountsCycles) {id : Nat} {display : DisplayInfo}
    {l : List (Image × Image)} (hT : s.totals = m.recompute display ((s.source id).images :: l))
    (hmsc : m.capacity ≠ -1 → m.physicalType = .msc → (s.source id).Empty) :
    (m.removeCapacity s id).1 = false ∧
      (m.removeCapacity s id).2.totals = m.recompute display l := by
  by_cases hcap : m.capacity = -1
  · simp only [MPP.removeCapacity, MPP.recompute, hcap, if_true] at hT ⊢
    exact ⟨trivial, hT⟩
  · rcases hp : m.physicalType with _ | _ | _ | _ | _ | _ | _ | _ | _ | _
    case msc =>
      obtain ⟨hsrc, hmid, hdst⟩ := hmsc hcap hp
      have hzero : m.mscCapacity (s.source id).images = 0 := by
        simp [MPP.mscCapacity, Source.images, hsrc, hmid]
      simp only [MPP.recompute, hcap, if_false, hp, List.map_cons, List.sum_cons, hzero,
        zero_add] at hT ⊢
      simp only [State.totals, Totals.mk.injEq] at hT
      simp [MPP.removeCapacity, hcap, hp, hsrc, hdst, State.totals, hT]
    case g2d => exact absurd ⟨hcap, hp⟩ h
    all_goals
      simp only [MPP.removeCapacity, MPP.recompute, hcap, if_false, hp] at hT ⊢
      exact ⟨trivial, hT⟩

end Steps

/-! ### Runs -/

inductive Op where
  | assignMPP (display : DisplayInfo) (id : Nat)
  | resetAssignedSource (id : Nat)
  | resetAssignedState
  /-- The owner of a source writes its images. -/
  | setImages (id : Nat) (srcImg midImg dstImg : Image)

def MPP.exec (m : MPP) (s : State) : Op → State
  | .assignMPP display id => (m.assignMPP s display id).2
  | .resetAssignedSource id => m.resetAssignedSource s id
  | .resetAssignedState => m.resetAssignedState s
  | .setImages id srcImg midImg dstImg =>
      MPP.setSource s id { s.source id with srcImg := srcImg, midImg := midImg, dstImg := dstImg }

/-- The source and the mid image of an assigned source do not change. -/
def ImagesFixed (s : State) : Op → Prop
  | .setImages id srcImg midImg _ =>
      id ∈ s.assignedSources → (srcImg, midImg) = (s.source id).images
  | _ => True

/-- An MPP as the constructor leaves it. -/
def Init (s : State) : Prop :=
  s.assignedSources = [] ∧ s.totals = .zero

/-- The steps that the accounting is right about. -/
def MPP.Accounted (m : MPP) (s : State) : Op → Prop
  | .assignMPP display id => m.AccountsCycles →
      display.id ≠ UINT32_MAX ∧
      rotatedBW s.images + noRotatedBW s.images + (s.source id).srcImg.resolution < 2 ^ 32 ∧
      (s.assignedSources = [] ∨ s.firstRotated (s.source id).srcImg = true ∨
        m.background s.assignedDisplayInfo = m.background display)
  | .resetAssignedSource id => id ∈ s.assignedSources →
      (m.AccountsCycles → s.SameTest (s.source id).srcImg ∧
        (s.assignedSources = [id] → m.NothingLeft s (s.source id).srcImg)) ∧
      (m.capacity ≠ -1 → m.physicalType = .msc → (s.source id).Empty)
  | _ => True

section Runs

variable {m : MPP} {s : State}

theorem linkSource_images (i id : Nat) :
    ((m.linkSource s id).source i).images = (s.source i).images := by
  simp only [MPP.linkSource]
  split
  all_goals
    simp only [MPP.setSource]
    try split
  all_goals
    try subst_vars
    rfl

theorem linkSource_frame (id : Nat) :
    (m.linkSource s id).assignedSources = s.assignedSources ∧
      (m.linkSource s id).assignedDisplayInfo = s.assignedDisplayInfo ∧
      (m.linkSource s id).totals = s.totals := by
  simp only [MPP.linkSource]
  split <;> exact ⟨rfl, rfl, rfl⟩

theorem sortSources_perm : (MPP.sortSources s).images.Perm s.images :=
  (List.perm_insertionSort _ _).map _

theorem init_inv (h : Init s) : Inv m s where
  totals := by simp [State.images, h.1, h.2]
  display := fun _ hne => absurd h.1 hne
  bandwidth := fun _ => by simp [State.images, h.1, rotatedBW, noRotatedBW]

/-- The totals after the accounting part of an assignment. -/
theorem addCapacity_step (hI : Inv m s) {id : Nat} {display : DisplayInfo}
    (hguard : m.Accounted s (.assignMPP display id)) {s' : State}
    (hs' : s'.totals = s.totals) (hdisplay : s'.assignedDisplayInfo = display)
    (himages : ∀ i, (s'.source i).images = (s.source i).images)
    (hsources : s'.assignedSources = s.assignedSources) :
    let added := m.addCapacity s' id
    let s2 := { added.2 with assignedSources := added.2.assignedSources ++ [id] }
    (if added.1 then m.updateUsedCapacity s2 else s2).totals =
      m.recompute display ((s.source id).images :: s.images) := by
  intro added s2
  have hframe : SameAssignment s' added.2 := addCapacity_frame m s' id
  have himg' : s'.images = s.images := by
    simp only [State.images, hsources, himages]
  have hsrc : (s'.source id).srcImg = (s.source id).srcImg := congrArg Prod.fst (himages id)
  have hperm : s2.images.Perm ((s.source id).images :: s.images) := by
    have hs2 : s2.images = s.images ++ [(s.source id).images] := by
      simp only [s2, State.images, hframe.sources, hframe.source, hsources, List.map_append,
        List.map_cons, List.map_nil, himages]
    rw [hs2]
    exact List.perm_append_singleton _ _
  have hT : m.recompute s.assignedDisplayInfo s.images = s'.totals := by rw [hs', hI.totals]
  by_cases h : m.AccountsCycles
  · obtain ⟨hvalid, hbw, hbg⟩ := hguard h
    have hfirst' : s'.firstRotated (s'.source id).srcImg =
        s.firstRotated (s.source id).srcImg := by
      have hrot : s'.rotatedSrcCropBW = s.rotatedSrcCropBW := congrArg Totals.rotatedSrcCropBW hs'
      simp only [State.firstRotated, hsources, hrot, hsrc]
    by_cases hfirst : s.firstRotated (s.source id).srcImg = true
    · have hagain : added.1 = true := by
        simp [added, MPP.addCapacity, h.1, h.2, hfirst', hfirst]
      have harea := Image.rotatedArea_add (s.source id).srcImg
      rw [if_pos hagain, ← recompute_perm hperm, updateUsedCapacity_totals h]
      · rw [← hdisplay, ← hframe.display]
      · simp [s2]
      · simpa only [s2, hframe.display, hdisplay] using hvalid
      · rw [rotatedBW_perm hperm, noRotatedBW_perm hperm, rotatedBW_cons, noRotatedBW_cons]
        simp only [Source.images]
        omega
    · have hdone : added.1 = false := by
        simp [added, MPP.addCapacity, h.1, h.2, hfirst', hfirst]
      have hsame : m.recompute s.assignedDisplayInfo s.images = m.recompute display s.images := by
        refine recompute_display_congr ?_
        rcases hbg with hnil | hf | hbg
        · exact .inl (by simp [State.images, hnil])
        · exact absurd hf hfirst
        · exact .inr hbg
      have hadd : added.2.totals = _ :=
        addCapacity_totals h (by rw [hdisplay, himg', ← hsame, hT]) (by rw [hdisplay]; exact hvalid)
          (by rw [himg', hsrc]; exact hbw) (by rw [hfirst']; simpa using hfirst)
      rw [hdone, if_neg Bool.false_ne_true, ← himages id, ← himg', ← hdisplay, ← hadd]
      rfl
  · have hother := addCapacity_other h id hT.symm
    have hdone : added.1 = false := hother.1
    rw [hdone, if_neg Bool.false_ne_true]
    have hkind : m.recompute display ((s.source id).images :: s.images) =
        m.recompute s.assignedDisplayInfo ((s.source id).images :: s.images) := by
      simp only [MPP.recompute]
      split
      · rfl
      · rename_i hcap
        split
        · rename_i hp
          exact absurd ⟨hcap, hp⟩ h
        · rfl
        · rfl
    rw [hkind, ← himages id, ← hother.2]
    rfl

theorem assignMPP_inv (hI : Inv m s) {display : DisplayInfo} {id : Nat}
    (hguard : m.Accounted s (.assignMPP display id)) : Inv m (m.assignMPP s display id).2 := by
  by_cases htype : m.mppType = .none
  · simp only [MPP.assignMPP, htype, if_true]
    exact ⟨hI.totals, hI.display, hI.bandwidth⟩
  -- the state in which the accounting starts
  let s' : State := { m.linkSource { s with assigned := true } id with
    assignedDisplayInfo := display }
  have hlink := linkSource_frame (m := m) (s := { s with assigned := true }) id
  have himages (i : Nat) : (s'.source i).images = (s.source i).images :=
    linkSource_images i id
  have hsources : s'.assignedSources = s.assignedSources := hlink.1
  have hs' : s'.totals = s.totals := hlink.2.2
  have hd' : s'.assignedDisplayInfo = display := rfl
  have htotals := addCapacity_step hI hguard hs' hd' himages hsources
  have hadd := addCapacity_frame m s' id
  let s2 : State := { (m.addCapacity s' id).2 with
    assignedSources := (m.addCapacity s' id).2.assignedSources ++ [id] }
  let s3 : State := if (m.addCapacity s' id).1 then m.updateUsedCapacity s2 else s2
  have hupd : SameAssignment s2 s3 := by
    simp only [s3]
    split
    · exact updateUsedCapacity_frame m s2
    · exact ⟨rfl, rfl, rfl, rfl⟩
  have hresult : (m.assignMPP s display id).2 =
      if m.maxSrcLayerNum > 1 then MPP.sortSources s3 else s3 := by
    simp only [MPP.assignMPP, htype, if_false, s3, s2, s']
  have hperm : (m.assignMPP s display id).2.images.Perm ((s.source id).images :: s.images) := by
    have hs3 : s3.images = s.images ++ [(s.source id).images] := by
      rw [hupd.images]
      simp only [s2, State.images, hadd.sources, hadd.source, hsources, List.map_append,
        List.map_cons, List.map_nil, himages]
    have happ : s3.images.Perm ((s.source id).images :: s.images) := by
      rw [hs3]
      exact List.perm_append_singleton _ _
    rw [hresult]
    split
    · exact sortSources_perm.trans happ
    · exact happ
  have hdisplay : (m.assignMPP s display id).2.assignedDisplayInfo = display := by
    rw [hresult]
    split <;> exact hupd.display.trans hadd.display
  constructor
  · rw [recompute_perm hperm, hdisplay, ← htotals, hresult]
    split <;> rfl
  · intro h _
    rw [hdisplay]
    exact (hguard h).1
  · intro h
    have harea := Image.rotatedArea_add (s.source id).srcImg
    have hbw := (hguard h).2.1
    rw [rotatedBW_perm hperm, noRotatedBW_perm hperm, rotatedBW_cons, noRotatedBW_cons]
    simp only [Source.images]
    omega

theorem removeLast_perm {l : List Nat} {id : Nat} (h : id ∈ l) :
    l.Perm (id :: MPP.removeLast l id) := by
  have hrev : l.reverse.Perm (id :: l.reverse.erase id) :=
    List.perm_cons_erase (List.mem_reverse.mpr h)
  exact (List.reverse_perm l).symm.trans
    (hrev.trans ((List.reverse_perm (l.reverse.erase id)).symm.cons id))

theorem releaseDisplay_inv (hI : Inv m s) : Inv m (MPP.releaseDisplay s) := by
  simp only [MPP.releaseDisplay]
  split
  · rename_i hrel
    have hnil : s.assignedSources = [] := List.length_eq_zero_iff.mp hrel.2
    constructor
    · have htotals := hI.totals
      simp only [State.images, hnil, List.map_nil, recompute_nil] at htotals ⊢
      exact htotals
    · intro _ hne
      exact absurd hnil hne
    · exact hI.bandwidth
  · exact hI

/-- The part of `resetAssignedState(source)` behind the search for the source. -/
theorem removeCapacity_step (hI : Inv m s) {id : Nat} (hmem : id ∈ s.assignedSources)
    (hguard : m.Accounted s (.resetAssignedSource id)) :
    let removed := m.removeCapacity s id
    let s2 := { removed.2 with
      assignedSources := MPP.removeLast removed.2.assignedSources id }
    Inv m (if removed.1 then m.updateUsedCapacity s2 else s2) := by
  intro removed s2
  obtain ⟨hcycles, hmsc⟩ := hguard hmem
  have hframe : SameAssignment s removed.2 := removeCapacity_frame m s id
  have hd2 : s2.assignedDisplayInfo = s.assignedDisplayInfo := hframe.display
  have hs2 : s2.images = (MPP.removeLast s.assignedSources id).map
      fun i => (s.source i).images := by
    simp only [s2, State.images, hframe.sources, hframe.source]
  have hperm : s.images.Perm ((s.source id).images :: s2.images) := by
    rw [hs2]
    exact (removeLast_perm hmem).map _
  have hvalid (h : m.AccountsCycles) : s2.assignedDisplayInfo.id ≠ UINT32_MAX := by
    rw [hd2]
    exact hI.display h (List.ne_nil_of_mem hmem)
  have hbw (h : m.AccountsCycles) : rotatedBW s2.images + noRotatedBW s2.images < 2 ^ 32 := by
    have hall := hI.bandwidth h
    rw [rotatedBW_perm hperm, noRotatedBW_perm hperm, rotatedBW_cons, noRotatedBW_cons] at hall
    omega
  have hdone (htot : s2.totals = m.recompute s.assignedDisplayInfo s2.images) : Inv m s2 :=
    ⟨by rw [htot, hd2], fun h _ => hvalid h, hbw⟩
  by_cases h : m.AccountsCycles
  · have hlast : s2.images = [] → m.NothingLeft s (s.source id).srcImg := by
      intro hnil
      have hrest : MPP.removeLast s.assignedSources id = [] := by
        rw [hs2] at hnil
        exact List.map_eq_nil_iff.mp hnil
      have hp := removeLast_perm hmem
      rw [hrest] at hp
      exact (hcycles h).2 (List.perm_singleton.mp hp)
    have hremove := removeCapacity_totals h hI.totals hperm (hI.bandwidth h) (hcycles h).1 hlast
    rcases hremove with ⟨hagain, hne⟩ | ⟨hno, htot⟩
    · have hagain : removed.1 = true := hagain
      have hupd := updateUsedCapacity_frame m s2
      have hne2 : s2.assignedSources ≠ [] := fun hnil => hne (by rw [State.images, hnil]; rfl)
      rw [if_pos hagain]
      constructor
      · rw [updateUsedCapacity_totals h hne2 (hvalid h) (hbw h), hupd.display, hupd.images]
      · intro _ _
        rw [hupd.display]
        exact hvalid h
      · intro _
        rw [hupd.images]
        exact hbw h
    · have hno : removed.1 = false := hno
      rw [hno, if_neg Bool.false_ne_true]
      exact hdone htot
  · have hT : s.totals =
        m.recompute s.assignedDisplayInfo ((s.source id).images :: s2.images) :=
      hI.totals.trans (recompute_perm hperm)
    have hother := removeCapacity_other h hT hmsc
    have hno : removed.1 = false := hother.1
    rw [hno, if_neg Bool.false_ne_true]
    exact hdone hother.2

/-- A source object changed in its links, or an unassigned one in its images. -/
theorem setSource_inv (hI : Inv m s) {id : Nat} {x : Source}
    (hx : id ∈ s.assignedSources → x.images = (s.source id).images) :
    Inv m (MPP.setSource s id x) := by
  have himg : (MPP.setSource s id x).images = s.images := by
    refine List.map_congr_left fun i hi => ?_
    simp only [MPP.setSource]
    split
    · rename_i heq
      rw [heq, hx (heq ▸ hi)]
    · rfl
  exact ⟨by rw [himg]; exact hI.totals, hI.display, by rw [himg]; exact hI.bandwidth⟩

theorem resetAssignedSource_inv (hI : Inv m s) {id : Nat}
    (hguard : m.Accounted s (.resetAssignedSource id)) : Inv m (m.resetAssignedSource s id) := by
  simp only [MPP.resetAssignedSource]
  apply releaseDisplay_inv
  by_cases hmem : id ∈ s.assignedSources
  · rw [if_pos hmem]
    by_cases hlink : (s.source id).m2mMPP = some m.number
    · rw [if_pos hlink]
      let s' : State := MPP.setSource s id { s.source id with m2mMPP := none }
      have hI' : Inv m s' := setSource_inv hI fun _ => rfl
      have hguard' : m.Accounted s' (.resetAssignedSource id) := by
        simp only [MPP.Accounted, s', MPP.setSource, if_true, State.SameTest, MPP.NothingLeft,
          Source.Empty] at hguard ⊢
        exact hguard
      exact removeCapacity_step hI' hmem hguard'
    · rw [if_neg hlink]
      exact removeCapacity_step hI hmem hguard
  · rw [if_neg hmem]
    exact hI

theorem resetAssignedState_inv : Inv m (m.resetAssignedState s) := by
  have hnil (s : State) : (MPP.releaseDisplay { s with assignedSources := [] }).assignedSources
      = [] := by
    simp only [MPP.releaseDisplay]
    split <;> rfl
  exact init_inv ⟨hnil _, rfl⟩

theorem exec_inv (hI : Inv m s) {op : Op} (hfixed : ImagesFixed s op)
    (hguard : m.Accounted s op) : Inv m (m.exec s op) := by
  cases op with
  | assignMPP display id => exact assignMPP_inv hI hguard
  | resetAssignedSource id => exact resetAssignedSource_inv hI hguard
  | resetAssignedState => exact resetAssignedState_inv
  | setImages id srcImg midImg dstImg => exact setSource_inv hI hfixed

/-- The subtraction of a removal goes below zero. -/
def MPP.RemovalWraps (m : MPP) (s : State) (id : Nat) : Prop :=
  m.AccountsCycles ∧
    if (s.source id).srcImg.transform = 0 then
      s.noRotatedSrcCropBW < (s.source id).srcImg.resolution
    else s.rotatedSrcCropBW < (s.source id).srcImg.resolution

theorem not_removalWraps (hI : Inv m s) {id : Nat} (hmem : id ∈ s.assignedSources)
    (hguard : m.Accounted s (.resetAssignedSource id)) : ¬ m.RemovalWraps s id := by
  rintro ⟨h, hwraps⟩
  obtain ⟨-, hrot, hno⟩ := totals_of_accountsCycles h hI.totals
  have hperm : s.images.Perm ((s.source id).images ::
      (MPP.removeLast s.assignedSources id).map fun i => (s.source i).images) :=
    (removeLast_perm hmem).map _
  rw [rotatedBW_perm hperm, rotatedBW_cons] at hrot
  rw [noRotatedBW_perm hperm, noRotatedBW_cons] at hno
  simp only [Source.images] at hrot hno
  have harea := Image.rotatedArea_add (s.source id).srcImg
  split at hwraps
  · rename_i ht
    have hr := Image.rotatedArea_of_not (Bool.eq_false_iff.mp (not_rotated_of_transform_zero ht))
    omega
  · rename_i ht
    rcases ((hguard hmem).1 h).1 with hz | hr | hz | heq
    · exact ht hz
    · have hr := Image.rotatedArea_of_rotated hr
      omega
    · omega
    · omega

/-- The calls on one MPP whose assigned sources keep their images. -/
def MPP.step (m : MPP) : State → Op → State → Prop := guarded ImagesFixed (ofFun m.exec)

/-! ### The main result -/

def g2dSoc : Soc where
  ppcTable := fun _ _ _ => some fun _ => 2
  G2D_BASE_PPC_COLORFILL := 19 / 5
  G2D_CLOCK := 711000
  MSC_CLOCK := 534000
  colorfill_pos := by norm_num
  g2dClock_pos := by decide
  mscClock_pos := by decide

def g2d : MPP := ⟨g2dSoc, 0, .m2m, .g2d, 0x2000, 15, 8⟩

def rgbImage (w h transform : Nat) : Image :=
  ⟨w, h, 0, transform, 0, 0, ⟨false, false, false, false, false⟩⟩

/-- Source 0 is mirrored, every other one is upright. -/
def bootState : State where
  source := fun id =>
    if id = 0 then ⟨rgbImage 100 100 1, rgbImage 100 100 0, rgbImage 100 100 0, none, none⟩
    else ⟨rgbImage 1440 2960 0, rgbImage 1440 2960 0, rgbImage 1440 2960 0, none, none⟩
  reserved := false
  assigned := false
  assignedDisplayInfo := .initial
  assignedSources := []
  usedCapacity := 0
  usedBaseCycles := 0
  rotatedSrcCropBW := 0
  noRotatedSrcCropBW := 0

def panel : DisplayInfo := ⟨0, 1440, 2960⟩

/-- **The totals of an MPP.**  In every state reached by calls the accounting is
    right about, the totals are those of a from-scratch computation over the
    assigned sources, they are zero when no source is assigned, and the next such
    removal does not wrap a bandwidth. -/
theorem capacity_run (h : Reachable Init (guarded m.Accounted m.step) s) :
    s.totals = m.recompute s.assignedDisplayInfo s.images ∧
      (s.assignedSources = [] → s.totals = .zero) ∧
      ∀ id ∈ s.assignedSources, m.Accounted s (.resetAssignedSource id) →
        ¬ m.RemovalWraps s id := by
  have hI : Inv m s := by
    refine h.invariant (fun _ h0 => init_inv h0) ?_
    rintro s op s' hI ⟨hguard, hfixed, rfl⟩
    exact exec_inv hI hfixed hguard
  refine ⟨hI.totals, fun hnil => ?_, fun id hmem hguard => not_removalWraps hI hmem hguard⟩
  rw [hI.totals, State.images, hnil, List.map_nil, recompute_nil]

/-- Two upright sources come and the first one goes. -/
theorem capacity_run_upright :
    (g2d.exec (g2d.exec (g2d.exec bootState (.assignMPP panel 1)) (.assignMPP panel 2))
      (.resetAssignedSource 1)).noRotatedSrcCropBW = 1440 * 2960 := by
  have h0 : Reachable Init (guarded g2d.Accounted g2d.step) bootState := .start ⟨rfl, rfl⟩
  have h1 : Reachable Init (guarded g2d.Accounted g2d.step)
      (g2d.exec bootState (.assignMPP panel 1)) :=
    .next (a := .assignMPP panel 1) h0
      ⟨fun _ => ⟨by decide, by decide +kernel, .inl rfl⟩, trivial, rfl⟩
  have h2 : Reachable Init (guarded g2d.Accounted g2d.step)
      (g2d.exec (g2d.exec bootState (.assignMPP panel 1)) (.assignMPP panel 2)) :=
    .next (a := .assignMPP panel 2) h1
      ⟨fun _ => ⟨by decide, by decide +kernel, .inr (.inr (by decide +kernel))⟩, trivial, rfl⟩
  have h3 := capacity_run (.next (a := .resetAssignedSource 1) h2
    ⟨fun _ => ⟨fun _ => ⟨.inl rfl, fun h => absurd h (by decide +kernel)⟩,
      fun _ h => absurd h (by decide)⟩, trivial, rfl⟩)
  refine (congrArg Totals.noRotatedSrcCropBW h3.1).trans ?_
  decide +kernel

end Runs

/-! ### A run the accounting is wrong about -/

def twoSources : State := g2d.exec (g2d.exec bootState (.assignMPP panel 0)) (.assignMPP panel 1)

theorem twoSources_reachable : Reachable Init g2d.step twoSources :=
  have h0 : Reachable Init g2d.step bootState := .start ⟨rfl, rfl⟩
  have h1 : Reachable Init g2d.step (g2d.exec bootState (.assignMPP panel 0)) :=
    .next (a := .assignMPP panel 0) h0 ⟨trivial, rfl⟩
  .next (a := .assignMPP panel 1) h1 ⟨trivial, rfl⟩

def mirroredRun : State := g2d.exec twoSources (.resetAssignedSource 0)

/-- **A mirrored source wraps the rotated total.**  It was counted as not rotated
    and is taken off the rotated bandwidth. -/
theorem mirroredRun_wraps :
    Reachable Init g2d.step mirroredRun ∧ mirroredRun.assignedSources = [1] ∧
      mirroredRun.rotatedSrcCropBW = 2 ^ 32 - 10000 ∧
      mirroredRun.totals ≠ g2d.recompute mirroredRun.assignedDisplayInfo mirroredRun.images := by
  refine ⟨?_, by decide +kernel, by decide +kernel, fun h => ?_⟩
  · exact .next (a := .resetAssignedSource 0) twoSources_reachable ⟨trivial, rfl⟩
  · have hrot := congrArg Totals.rotatedSrcCropBW h
    revert hrot
    decide +kernel

/-- The background stays behind when the last source goes. -/
example : (g2d.exec (g2d.exec bootState (.assignMPP panel 1)) (.resetAssignedSource 1)).usedBaseCycles
    ≠ 0 := by decide +kernel

end ExynosHal.MppCapacity
