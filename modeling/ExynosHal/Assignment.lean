/-
  ExynosHal/Assignment.lean
  =========================
  **What a resource assignment works on.**

  The layers of a display, its client and exynos compositions and the MPPs of
  `libhwc2.1/resources/ExynosMPP.cpp`, with the three operations that link a
  source to an MPP: `assignMPP` and the two `resetAssignedState`, and
  `ExynosLayer::resetAssignedResource` on top of them.

  What stays fixed during an assignment is a `Display`, what it changes a
  `State`.  The answers of the resource checks are fields of the display that
  are read at the number of the check, so that every pattern of answers is some
  display.
-/
import Mathlib.Algebra.Group.Nat.Defs
import Mathlib.Logic.Function.Basic

namespace ExynosHal.Assignment

open Function (update)

abbrev MppId := Nat

/-- An unsigned counter of 32 bits, one up and one down. -/
def increment (n : Nat) : Nat := (n + 1) % 2 ^ 32

def decrement : Nat → Nat
  | 0 => 2 ^ 32 - 1
  | n + 1 => n

/-! ### Types of the source -/

/-- `hwc2_composition_t`, what is requested for a layer. -/
inductive CompositionType where
  | invalid
  | client
  | device
  | solidColor
  | cursor
  | sideband
deriving DecidableEq, Repr

/-- The values of `mValidateCompositionType`. -/
inductive ValidateType where
  | invalid
  | client
  | device
  | exynos
deriving DecidableEq, Repr

inductive OverlayPriority where
  | low
  | mid
  | high
  | max
deriving DecidableEq, Repr

/-- `priority >= ePriorityHigh`. -/
def OverlayPriority.isHigh : OverlayPriority → Bool
  | .high => true
  | .max => true
  | _ => false

inductive PhysicalType where
  | dpp
  | msc
  | g2d
deriving DecidableEq, Repr

inductive LogicalType where
  | dppG | dppGF | dppVG | dppVGS | dppVGF | dppVGFS | dppVGRS | dppVGRFS
  | msc | mscYUV | mscCombo | g2dYUV | g2dRGB | g2dCombo
  | dppVGS8K | dppVGFS8K | dppVGRFS8K
deriving DecidableEq, Repr

/-- The return codes, by their names. -/
inductive Status where
  | noError
  | changed
  | insufficientMPP
  | unknown
  | einval
deriving DecidableEq, Repr

/-- `ret < 0`. -/
def Status.isError : Status → Bool
  | .einval => true
  | .unknown => true
  | _ => false

/-- What an MPP can be assigned to (`ExynosMPPSource`). -/
inductive Source where
  | layer (i : Nat)
  | client
  | exynos
deriving DecidableEq, Repr

/-- The images the checks are asked about. -/
inductive Image where
  | src (x : Source)
  | dst (x : Source)
  /-- Candidate `c` for the output of the M2M MPP that serves layer `i`. -/
  | candidate (i c : Nat)
  /-- The destination of layer `i` in the default output format. -/
  | otfDst (i : Nat)
deriving DecidableEq, Repr

/-! ### What an assignment reads -/

structure Layer where
  compositionType : CompositionType
  overlayPriority : OverlayPriority
  /-- `mPlaneAlpha == 1.0f`. -/
  planeAlphaIsOne : Bool
  supportedMPPFlag : LogicalType → Bool
  forceClientWFD : Bool
  hdrMetaError : Bool
  isDimLayer : Bool
  hasBuffer : Bool
  srcCropIsFloat : Bool
  outsideScreen : Bool
  /-- Number of images `getCandidateM2mMPPOutImages` returns. -/
  candidateNum : Nat

structure Mpp where
  physicalType : PhysicalType
  maxSrcLayerNum : Nat
  /-- `MPP_ASSIGN_STATE_RESERVED`, and whether for this display. -/
  reserved : Option Bool
  /-- The channel of the dedicated top window. -/
  dedicated : Bool

structure Display where
  layerNum : Nat
  layer : Nat → Layer
  useDpu : Bool
  maxWindowNum : Nat
  forceGpu : Bool
  /-- `mUseDynamicRecomp` with mode `DEVICE_TO_CLIENT`. -/
  deviceToClient : Bool
  supportColorTransform : Bool
  colorTransformHint : Int
  cursorSupport : Bool
  useMaxG2DSrc : Bool
  enableExynosCompositionOptimization : Bool
  blendingMPP : Option MppId
  otfMPPs : List MppId
  m2mMPPs : List MppId
  mpp : MppId → Mpp
  isSupported : MppId → Image → Image → Bool
  isSupportedCompression : MppId → Image → Bool
  /-- Whether an idle MPP can be taken (`mHWState`, `mPrevAssignedDisplayType`). -/
  isFree : Nat → MppId → Bool
  hasEnoughCapa : Nat → MppId → Image → Image → Bool
  isHWResourceAvailable : Nat → MppId → Image → Bool
  prioritize : Nat → MppId → Source → Int

/-- High or max priority: the layer keeps out of the exynos composition. -/
def Display.isHigh (d : Display) (i : Nat) : Bool := (d.layer i).overlayPriority.isHigh

/-- The layers a client range spares: high or max priority and not translucent. -/
def Display.isSpared (d : Display) (i : Nat) : Bool :=
  (d.layer i).planeAlphaIsOne && d.isHigh i

/-! ### What an assignment changes -/

structure CompositionInfo where
  hasCompositionLayer : Bool
  firstIndex : Int
  lastIndex : Int
deriving DecidableEq, Repr

def CompositionInfo.initial : CompositionInfo := ⟨false, -1, -1⟩

structure MppState where
  logicalType : LogicalType
  /-- `MPP_ASSIGN_STATE_ASSIGNED`. -/
  assigned : Bool
  /-- `mAssignedDisplayInfo` is the one of this display. -/
  assignedHere : Bool
  disableByUserScenario : Bool
  assignedSources : List Source
deriving DecidableEq, Repr

/-- On which way a layer leaves its validate type. -/
inductive Taken where
  /-- Sandwiched between client layers. -/
  | sandwiched
  /-- Sandwiched between exynos layers, but refused by the MPP. -/
  | refused
  /-- Sandwiched between exynos layers and assigned to the MPP. -/
  | joined
  /-- At the end of an exynos range that nests the client range. -/
  | nested
  /-- The only layer of the exynos composition. -/
  | single
  /-- At an end of the client range. -/
  | peeled
deriving DecidableEq, Repr

/-- What happened in a run, with what the state was at that time.  No function
    reads it; the statements about whole runs do. -/
inductive Event where
  | decrement (before : Nat)
  /-- `assignLayers` comes to layer `i`; with a `shortage` all windows are used and
      an MPP of several sources takes the layer. -/
  | met (i : Nat) (shortage : Bool)
  /-- A layer of type `was`, with or without a window counted in this pass. -/
  | taken (how : Taken) (i : Nat) (was : ValidateType) (counted : Bool)
  /-- Layer `k` is added to an exynos composition that exists. -/
  | added (k : Nat) (highExynos highPair : Bool)
  /-- The exynos range is extended by a neighbour, which the MPP accepts `again`
      while it has it; `clean` if all layers are exynos layers of low priority. -/
  | extended (i : Nat) (again clean : Bool)
deriving DecidableEq, Repr

structure State where
  validateType : Nat → ValidateType
  otfMPP : Source → Option MppId
  m2mMPP : Source → Option MppId
  client : CompositionInfo
  exynos : CompositionInfo
  windowNumUsed : Nat
  mpp : MppId → MppState
  /-- `hasHdr10Plus` of the layer. -/
  hdrDynamic : Nat → Bool
  /-- `mOverlayInfo & eSkipLayer`. -/
  skipLayer : Nat → Bool
  /-- Number of the next resource check. -/
  checks : Nat
  /-- The layers and targets that `windowNumUsed` stands for. -/
  counted : Source → Bool
  history : List Event

namespace State

def setType (s : State) (i : Nat) (t : ValidateType) : State :=
  { s with validateType := update s.validateType i t }

def record (s : State) (e : Event) : State := { s with history := e :: s.history }

/-- `mWindowNumUsed--` on an unsigned counter, for the window of `x`. -/
def decrementWindow (s : State) (x : Source) : State :=
  { s.record (.decrement s.windowNumUsed) with
    windowNumUsed := decrement s.windowNumUsed
    counted := update s.counted x false }

/-- `mWindowNumUsed++`, for a window of `x`. -/
def incrementWindow (s : State) (x : Source) : State :=
  { s with
    windowNumUsed := increment s.windowNumUsed
    counted := update s.counted x true }

def recordTaken (s : State) (how : Taken) (i : Nat) : State :=
  s.record (.taken how i (s.validateType i) (s.counted (.layer i)))

/-- The composition info of a target. -/
def info (s : State) : Source → CompositionInfo
  | .client => s.client
  | .exynos => s.exynos
  | .layer _ => .initial

def setClientRange (s : State) (first last : Int) : State :=
  { s with client := { s.client with firstIndex := first, lastIndex := last } }

def setExynosRange (s : State) (first last : Int) : State :=
  { s with exynos := { s.exynos with firstIndex := first, lastIndex := last } }

/-- `initializeInfos` of the client composition. -/
def initializeClient (s : State) : State :=
  { s with client := .initial, otfMPP := update s.otfMPP .client none }

/-- `initializeInfos` of the exynos composition. -/
def initializeExynos (d : Display) (s : State) : State :=
  { s with
    exynos := .initial
    otfMPP := update s.otfMPP .exynos none
    m2mMPP := update s.m2mMPP .exynos ((s.m2mMPP .exynos).or d.blendingMPP) }

/-! ### Linking sources and MPPs -/

/-- `ExynosMPP::resetAssignedState()`. -/
def resetAssignedState (s : State) (m : MppId) : State :=
  { s with
    otfMPP := fun x =>
      if x ∈ (s.mpp m).assignedSources ∧ s.otfMPP x = some m then none else s.otfMPP x
    m2mMPP := fun x =>
      if x ∈ (s.mpp m).assignedSources ∧ s.m2mMPP x = some m then none else s.m2mMPP x
    mpp := update s.mpp m
      { s.mpp m with assigned := false, assignedHere := false, assignedSources := [] } }

/-- `ExynosMPP::resetAssignedState(mppSource)`: the sources are searched from the
    end, and the MPP is free again with the last one gone. -/
def resetAssignedStateOf (s : State) (m : MppId) (x : Source) : State :=
  let sources := ((s.mpp m).assignedSources.reverse.erase x).reverse
  { s with
    m2mMPP :=
      if x ∈ (s.mpp m).assignedSources ∧ s.m2mMPP x = some m then update s.m2mMPP x none
      else s.m2mMPP
    mpp := update s.mpp m
      (if sources = [] then
        { s.mpp m with assigned := false, assignedHere := false, assignedSources := [] }
      else { s.mpp m with assignedSources := sources }) }

/-- `mZOrder` orders the layers as their indices do; a composition target comes last. -/
def sourceComp : Source → Source → Bool
  | .layer i, .layer j => i ≤ j
  | .layer _, _ => true
  | _, .layer _ => false
  | _, _ => true

/-- `ExynosMPP::assignMPP` on the side of the MPP. -/
def addSource (d : Display) (s : State) (m : MppId) (x : Source) : State :=
  let sources := (s.mpp m).assignedSources ++ [x]
  { s with
    mpp := update s.mpp m
      { s.mpp m with
        assigned := true
        assignedHere := true
        assignedSources :=
          if 1 < (d.mpp m).maxSrcLayerNum then sources.mergeSort sourceComp else sources } }

/-- `assignMPP` of an MPP of type `MPP_TYPE_OTF`. -/
def assignOtf (d : Display) (s : State) (m : MppId) (x : Source) : State :=
  { s.addSource d m x with otfMPP := update s.otfMPP x (some m) }

/-- `assignMPP` of an MPP of type `MPP_TYPE_M2M`. -/
def assignM2m (d : Display) (s : State) (m : MppId) (x : Source) : State :=
  { s.addSource d m x with m2mMPP := update s.m2mMPP x (some m) }

/-- The first half of `ExynosLayer::resetAssignedResource`. -/
def releaseM2m (s : State) (i : Nat) : State :=
  match s.m2mMPP (.layer i) with
  | none => s
  | some m =>
      let s := s.resetAssignedStateOf m (.layer i)
      { s with m2mMPP := update s.m2mMPP (.layer i) none }

/-- The second half; an OTF MPP is reset as a whole. -/
def releaseOtf (s : State) (i : Nat) : State :=
  match s.otfMPP (.layer i) with
  | none => s
  | some m =>
      let s := s.resetAssignedState m
      { s with otfMPP := update s.otfMPP (.layer i) none }

/-- `ExynosLayer::resetAssignedResource`. -/
def resetAssignedResource (s : State) (i : Nat) : State := (s.releaseM2m i).releaseOtf i

/-! ### Availability of an MPP -/

/-- `ExynosMPP::isAssignableState`. -/
def isAssignableState (d : Display) (s : State) (m : MppId) : Bool :=
  if (s.mpp m).disableByUserScenario then false
  else if (s.mpp m).assigned then
    (d.mpp m).reserved.getD true
      && decide ((s.mpp m).assignedSources.length < (d.mpp m).maxSrcLayerNum)
  else (d.mpp m).reserved.getD (d.isFree s.checks m)

/-- `ExynosMPP::isAssignable`. -/
def isAssignable (d : Display) (s : State) (m : MppId) (src dst : Image) : Bool :=
  s.isAssignableState d m && d.hasEnoughCapa s.checks m src dst

/-- `ExynosResourceManager::isAssignable` of an OTF MPP. -/
def isOtfAssignable (d : Display) (s : State) (m : MppId) (src dst : Image) : Bool :=
  s.isAssignable d m src dst && d.isHWResourceAvailable s.checks m src

def countCheck (s : State) : State := { s with checks := s.checks + 1 }

/-! ### What an operation leaves alone -/

section Frame

variable (d : Display) (s : State) (m : MppId) (x : Source) (i : Nat)

@[simp] theorem setType_validateType (t : ValidateType) :
    (s.setType i t).validateType = update s.validateType i t := rfl
@[simp] theorem setType_client (t : ValidateType) : (s.setType i t).client = s.client := rfl
@[simp] theorem setType_exynos (t : ValidateType) : (s.setType i t).exynos = s.exynos := rfl
@[simp] theorem record_validateType (e : Event) : (s.record e).validateType = s.validateType := rfl
@[simp] theorem record_client (e : Event) : (s.record e).client = s.client := rfl
@[simp] theorem record_exynos (e : Event) : (s.record e).exynos = s.exynos := rfl
@[simp] theorem recordTaken_validateType (how : Taken) :
    (s.recordTaken how i).validateType = s.validateType := rfl
@[simp] theorem recordTaken_client (how : Taken) : (s.recordTaken how i).client = s.client := rfl
@[simp] theorem recordTaken_exynos (how : Taken) : (s.recordTaken how i).exynos = s.exynos := rfl
@[simp] theorem decrementWindow_validateType :
    (s.decrementWindow x).validateType = s.validateType := rfl
@[simp] theorem decrementWindow_client : (s.decrementWindow x).client = s.client := rfl
@[simp] theorem decrementWindow_exynos : (s.decrementWindow x).exynos = s.exynos := rfl
@[simp] theorem incrementWindow_validateType :
    (s.incrementWindow x).validateType = s.validateType := rfl
@[simp] theorem incrementWindow_client : (s.incrementWindow x).client = s.client := rfl
@[simp] theorem incrementWindow_exynos : (s.incrementWindow x).exynos = s.exynos := rfl
@[simp] theorem countCheck_validateType : s.countCheck.validateType = s.validateType := rfl
@[simp] theorem countCheck_client : s.countCheck.client = s.client := rfl
@[simp] theorem countCheck_exynos : s.countCheck.exynos = s.exynos := rfl
@[simp] theorem setClientRange_validateType (a b : Int) :
    (s.setClientRange a b).validateType = s.validateType := rfl
@[simp] theorem setClientRange_client (a b : Int) :
    (s.setClientRange a b).client = ⟨s.client.hasCompositionLayer, a, b⟩ := rfl
@[simp] theorem setClientRange_exynos (a b : Int) : (s.setClientRange a b).exynos = s.exynos := rfl
@[simp] theorem setExynosRange_validateType (a b : Int) :
    (s.setExynosRange a b).validateType = s.validateType := rfl
@[simp] theorem setExynosRange_client (a b : Int) : (s.setExynosRange a b).client = s.client := rfl
@[simp] theorem setExynosRange_exynos (a b : Int) :
    (s.setExynosRange a b).exynos = ⟨s.exynos.hasCompositionLayer, a, b⟩ := rfl
@[simp] theorem initializeClient_validateType :
    s.initializeClient.validateType = s.validateType := rfl
@[simp] theorem initializeClient_client : s.initializeClient.client = .initial := rfl
@[simp] theorem initializeClient_exynos : s.initializeClient.exynos = s.exynos := rfl
@[simp] theorem initializeExynos_validateType :
    (s.initializeExynos d).validateType = s.validateType := rfl
@[simp] theorem initializeExynos_client : (s.initializeExynos d).client = s.client := rfl
@[simp] theorem initializeExynos_exynos : (s.initializeExynos d).exynos = .initial := rfl
@[simp] theorem resetAssignedState_validateType :
    (s.resetAssignedState m).validateType = s.validateType := rfl
@[simp] theorem resetAssignedState_client : (s.resetAssignedState m).client = s.client := rfl
@[simp] theorem resetAssignedState_exynos : (s.resetAssignedState m).exynos = s.exynos := rfl
@[simp] theorem assignOtf_validateType : (s.assignOtf d m x).validateType = s.validateType := rfl
@[simp] theorem assignOtf_client : (s.assignOtf d m x).client = s.client := rfl
@[simp] theorem assignOtf_exynos : (s.assignOtf d m x).exynos = s.exynos := rfl
@[simp] theorem assignM2m_validateType : (s.assignM2m d m x).validateType = s.validateType := rfl
@[simp] theorem assignM2m_client : (s.assignM2m d m x).client = s.client := rfl
@[simp] theorem assignM2m_exynos : (s.assignM2m d m x).exynos = s.exynos := rfl

@[simp] theorem resetAssignedResource_validateType :
    (s.resetAssignedResource i).validateType = s.validateType := by
  unfold resetAssignedResource releaseOtf releaseM2m
  split <;> split <;> rfl

@[simp] theorem resetAssignedResource_client :
    (s.resetAssignedResource i).client = s.client := by
  unfold resetAssignedResource releaseOtf releaseM2m
  split <;> split <;> rfl

@[simp] theorem resetAssignedResource_exynos :
    (s.resetAssignedResource i).exynos = s.exynos := by
  unfold resetAssignedResource releaseOtf releaseM2m
  split <;> split <;> rfl

@[simp] theorem setType_history (t : ValidateType) : (s.setType i t).history = s.history := rfl
@[simp] theorem record_history (e : Event) : (s.record e).history = e :: s.history := rfl
@[simp] theorem assignM2m_history : (s.assignM2m d m x).history = s.history := rfl

@[simp] theorem resetAssignedResource_history :
    (s.resetAssignedResource i).history = s.history := by
  unfold resetAssignedResource releaseOtf releaseM2m
  split <;> split <;> rfl

/-- The logical types of the MPPs. -/
def logicalType (s : State) : MppId → LogicalType := fun m => (s.mpp m).logicalType

@[simp] theorem resetAssignedState_logicalType :
    (s.resetAssignedState m).logicalType = s.logicalType := by
  funext m'
  by_cases h : m' = m
  · subst h; simp [logicalType, resetAssignedState]
  · simp [logicalType, resetAssignedState, Function.update_of_ne h]

@[simp] theorem resetAssignedStateOf_logicalType :
    (s.resetAssignedStateOf m x).logicalType = s.logicalType := by
  funext m'
  by_cases h : m' = m
  · subst h
    simp only [logicalType, resetAssignedStateOf, Function.update_self]
    split <;> rfl
  · simp [logicalType, resetAssignedStateOf, Function.update_of_ne h]

@[simp] theorem assignM2m_logicalType : (s.assignM2m d m x).logicalType = s.logicalType := by
  funext m'
  by_cases h : m' = m
  · subst h; simp [logicalType, assignM2m, addSource]
  · simp [logicalType, assignM2m, addSource, Function.update_of_ne h]

@[simp] theorem resetAssignedResource_logicalType :
    (s.resetAssignedResource i).logicalType = s.logicalType := by
  have hm : (s.releaseM2m i).logicalType = s.logicalType := by
    unfold releaseM2m
    split
    · rfl
    · exact resetAssignedStateOf_logicalType s _ _
  unfold resetAssignedResource releaseOtf
  split
  · exact hm
  · exact (resetAssignedState_logicalType _ _).trans hm

end Frame

end State

end ExynosHal.Assignment
