/-
  ExynosHal/ResourceManager.lean
  ==============================
  **The assignment of resources to the layers of one display.**

  `assignResourceInternal` of `libhwc2.1/device/ExynosResourceManager.cpp` and
  what it is made of.
-/
import ExynosHal.CompositionRange

namespace ExynosHal.ResourceManager

open ExynosHal.Assignment ExynosHal.CompositionRange

def ASSIGN_RESOURCE_TRY_COUNT : Nat := 100
def MAX_OVERLAY_LAYER_NUM : Nat := 30
def HAL_COLOR_TRANSFORM_IDENTITY : Int := 0

/-! ### One layer -/

/-- What `validateLayer` answers for a layer that it rejects. -/
inductive Rejection where
  | forceFbEnabled
  | froceClientLayer
  | invalidVideoMetaData
  | exceedMaxLayerNum
  | dynamicRecomposition
  | skipLayer
  | unSupportedColorTransform
  | dimLayer
  | invalidHandle
  | hasFloatSrcCrop
  | invalidDispFrame
deriving DecidableEq, Repr

def isColorTransformUnsupported (d : Display) (i : Nat) : Bool :=
  if d.supportColorTransform then decide (d.colorTransformHint < 0) && !d.isHigh i
  else decide (d.colorTransformHint ≠ HAL_COLOR_TRANSFORM_IDENTITY)

def validateLayer (d : Display) (i : Nat) : Option Rejection :=
  let layer := d.layer i
  if d.forceGpu then some .forceFbEnabled
  else if layer.forceClientWFD then some .froceClientLayer
  else if layer.hdrMetaError then some .invalidVideoMetaData
  else if decide (MAX_OVERLAY_LAYER_NUM ≤ d.layerNum) && !d.isHigh i then some .exceedMaxLayerNum
  else if d.deviceToClient then some .dynamicRecomposition
  else if layer.compositionType = .client then some .skipLayer
  else if isColorTransformUnsupported d i then some .unSupportedColorTransform
  else if layer.isDimLayer then some .dimLayer
  else if layer.hasBuffer = false then some .invalidHandle
  else if layer.srcCropIsFloat then some .hasFloatSrcCrop
  else if layer.outsideScreen then some .invalidDispFrame
  else none

/-- The dedicated top window takes the top layer only. -/
def isKeptForTop (d : Display) (m : MppId) (i : Nat) : Bool :=
  (d.mpp m).dedicated && decide (i ≠ d.layerNum - 1)

/-- What `assignLayer` found for a layer. -/
structure Assigned where
  compositionType : ValidateType
  otfMPP : Option MppId
  m2mMPP : Option MppId
  /-- `eRemoveDynamicMetadata`. -/
  removeDynamicMetadata : Bool
deriving DecidableEq, Repr

/-- 1. An OTF MPP that takes the layer as it is. -/
def findOtfMPP (d : Display) (s : State) (i : Nat) : Option MppId :=
  d.otfMPPs.find? fun m =>
    !isKeptForTop d m i
      && (d.layer i).supportedMPPFlag (s.mpp m).logicalType
      && s.isOtfAssignable d m (.src (.layer i)) (.dst (.layer i))
      && d.isSupported m (.src (.layer i)) (.dst (.layer i))

/-- 3. An OTF MPP for candidate `c` of the output of the M2M MPP. -/
def findOtfMPPForCandidate (d : Display) (s : State) (i c : Nat) : Option MppId :=
  d.otfMPPs.find? fun m =>
    !isKeptForTop d m i
      && d.isSupported m (.candidate i c) (.otfDst i)
      && s.isOtfAssignable d m (.candidate i c) (.otfDst i)

/-- An M2M MPP with one source, which needs an OTF MPP behind it. -/
def tryScaler (d : Display) (s : State) (i : Nat) (m : MppId) : Option Assigned :=
  (List.range (d.layer i).candidateNum).findSome? fun c =>
    if d.isSupported m (.src (.layer i)) (.candidate i c)
        && d.hasEnoughCapa s.checks m (.src (.layer i)) (.candidate i c) then
      (findOtfMPPForCandidate d s i c).map fun o => ⟨.device, some o, some m, false⟩
    else none

/-- 2. An M2M MPP. -/
def tryM2mMPP (d : Display) (s : State) (i : Nat) (insufficientWindow : Bool) (m : MppId) :
    Option Assigned :=
  let t := (s.mpp m).logicalType
  if d.useDpu && (decide (t = .g2dCombo) || decide (t = .mscCombo)) then none
  else if !d.useDpu && decide (t = .g2dRGB) then none
  else if insufficientWindow && !decide (1 < (d.mpp m).maxSrcLayerNum) then none
  else if !s.isAssignableState d m then none
  else if !decide (1 < (d.mpp m).maxSrcLayerNum) then tryScaler d s i m
  else if (d.layer i).supportedMPPFlag t
      && d.hasEnoughCapa s.checks m (.src (.layer i)) (.dst (.layer i)) then
    some ⟨.exynos, none, some m, false⟩
  else none

/-- `mWindowNumUsed >= mMaxWindowNum` on a DPU display. -/
def isWindowInsufficient (d : Display) (s : State) : Bool :=
  d.useDpu && decide (d.maxWindowNum ≤ s.windowNumUsed)

/-- The MPPs for a layer that is not rejected. -/
def findResource (d : Display) (s : State) (i : Nat) (insufficientWindow : Bool) :
    Option Assigned :=
  match if d.useDpu && !insufficientWindow then findOtfMPP d s i else none with
  | some o => some ⟨.device, some o, none, false⟩
  | none => d.m2mMPPs.findSome? (tryM2mMPP d s i insufficientWindow)

/-- No resource: a HDR10+ layer that is no client layer by request gives up its
    dynamic metadata and asks again. -/
def failLayer (s : State) (i : Nat) : State × Assigned :=
  if s.hdrDynamic i && !s.skipLayer i then
    ({ s with hdrDynamic := Function.update s.hdrDynamic i false }, ⟨.client, none, none, true⟩)
  else (s, ⟨.client, none, none, false⟩)

def assignLayer (d : Display) (s : State) (i : Nat) : State × Assigned :=
  let s := s.countCheck
  let rejection := validateLayer d i
  let insufficientWindow := isWindowInsufficient d s
  let found :=
    if rejection = none ∨ insufficientWindow ∨ rejection = some .dimLayer then
      findResource d s i insufficientWindow
    else none
  match found with
  | some a => (s, a)
  | none => failLayer s i

/-! ### All layers of a priority -/

def assignOtfOf (d : Display) (s : State) (o : Option MppId) (i : Nat) : State :=
  match o with
  | some o => s.assignOtf d o (.layer i)
  | none => s

def assignM2mOf (d : Display) (s : State) (m : Option MppId) (i : Nat) : State :=
  match m with
  | some m => s.assignM2m d m (.layer i)
  | none => s

/-- The layer becomes a device layer with a window. -/
def takeWindow (d : Display) (s : State) (i : Nat) (a : Assigned) : State :=
  let s := assignM2mOf d (assignOtfOf d s a.otfMPP i) a.m2mMPP i
  (s.setType i .device).incrementWindow (.layer i)

def resetOtfOf (s : State) (x : Source) : State :=
  match s.otfMPP x with
  | some o => s.resetAssignedState o
  | none => s

def resetM2mOf (s : State) (x : Source) : State :=
  match s.m2mMPP x with
  | some m => s.resetAssignedState m
  | none => s

def initializeValidateInfos (d : Display) (s : State) : State :=
  (({ s with validateType := fun _ => .invalid, skipLayer := fun _ => false }).initializeClient
    ).initializeExynos d

/-- The HDR information of a layer changed: start over. -/
def reassign (d : Display) (s : State) : State :=
  let s := if s.client.hasCompositionLayer then resetOtfOf s .client else s
  let s := if s.exynos.hasCompositionLayer then resetM2mOf (resetOtfOf s .exynos) .exynos else s
  initializeValidateInfos d s

/-- All windows are used, and an M2M MPP of several sources takes the layer. -/
def hasShortage (d : Display) (s : State) (i : Nat) : Bool :=
  isWindowInsufficient d s && (d.m2mMPPs.findSome? (tryM2mMPP d s.countCheck i true)).isSome

/-- One round of `assignLayers`.  `noError` goes on with the next layer. -/
def assignOneLayer (d : Display) (priority : OverlayPriority) (s : State) (i : Nat) :
    State × Status :=
  if s.validateType i = .client ∨ s.validateType i = .exynos then (s, .noError)
  else if (d.layer i).overlayPriority ≠ priority then (s, .noError)
  else
    let (s, a) := assignLayer d (s.record (.met i (hasShortage d s i))) i
    match a.compositionType with
    | .device => (takeWindow d s i a, .noError)
    | .exynos =>
        addExynosCompositionLayer d ((assignM2mOf d s a.m2mMPP i).setType i .exynos) i
    | _ =>
        if a.removeDynamicMetadata then (reassign d s, .changed)
        else
          let r := addClientCompositionLayer d (s.setType i .client) i
          (r.1, r.2.1)

/-- A loop that ends with the first round that does not return `NO_ERROR`. -/
def untilStatus {ι : Type} (body : State → ι → State × Status) (p : State × Status) (i : ι) :
    State × Status :=
  if p.2 = .noError then body p.1 i else p

def assignLayers (d : Display) (s : State) (priority : OverlayPriority) : State × Status :=
  (List.range d.layerNum).foldl (untilStatus (assignOneLayer d priority)) (s, .noError)

/-! ### Composition targets -/

def findOtfMPPForTarget (d : Display) (s : State) (x : Source) : Option MppId :=
  d.otfMPPs.find? fun m =>
    !((d.mpp m).dedicated && decide ((s.info x).lastIndex ≠ (d.layerNum : Int) - 1))
      && d.isSupported m (.src x) (.dst x)
      && s.isOtfAssignable d m (.src x) (.dst x)

/-- `targetType` is `.client` or `.exynos`. -/
def assignCompositionTarget (d : Display) (s : State) (x : Source) : State × Status :=
  let s := s.countCheck
  if (s.info x).hasCompositionLayer = false then (s, .noError)
  else if x = .exynos ∧ s.m2mMPP .exynos = none then (s, .insufficientMPP)
  else if (s.info x).firstIndex < 0 ∨ (s.info x).lastIndex < 0 then (s, .einval)
  else if d.useDpu = false then (s, .noError)
  else if isWindowInsufficient d s then (s, .insufficientMPP)
  else
    match findOtfMPPForTarget d s x with
    | some o => ((s.assignOtf d o x).incrementWindow x, .noError)
    | none => (s, .insufficientMPP)

/-! ### One pass -/

/-- `resetAssignedResources(display)`: MPPs with more than one source keep them. -/
def resetAssignedResources (d : Display) (s : State) : State :=
  let s := d.otfMPPs.foldl
    (fun s m => if (s.mpp m).assignedHere then s.resetAssignedState m else s) s
  let s := d.m2mMPPs.foldl
    (fun s m => if (s.mpp m).assignedHere && !decide (1 < (d.mpp m).maxSrcLayerNum) then
      s.resetAssignedState m else s) s
  { s with windowNumUsed := 0, counted := fun _ => false }

def disableMpp (s : State) (m : MppId) : State :=
  { s with mpp := Function.update s.mpp m { s.mpp m with disableByUserScenario := true } }

/-- A device layer whose G2D has pending work.  The flag is `ret`. -/
def prioritizeLayer (d : Display) (p : State × Bool) (i : Nat) : State × Bool :=
  if p.1.validateType i ≠ .device then p
  else
    match p.1.m2mMPP (.layer i) with
    | none => p
    | some m =>
        if (d.mpp m).physicalType = .g2d ∧ 0 < d.prioritize p.1.checks m (.layer i) then
          (disableMpp ((p.1.resetAssignedResource i).setType i .device) m, true)
        else p

/-- The exynos composition has pending work: its layers are device layers again. -/
def postponeExynosComposition (d : Display) (s : State) (m : MppId) : State :=
  let first := s.exynos.firstIndex.toNat
  let s := if 0 ≤ s.exynos.firstIndex then
      (List.range' first (s.exynos.lastIndex.toNat + 1 - first)).foldl
        (fun s i => (s.resetAssignedResource i).setType i .device) s
    else s
  disableMpp (s.initializeExynos d) m

def setResourcePriority (d : Display) (s : State) : State × Status :=
  let s := s.countCheck
  match s.m2mMPP .exynos with
  | none => (s, .noError)
  | some m =>
      if (d.mpp m).physicalType = .msc then (s, .noError)
      else
        let p := (List.range d.layerNum).foldl (prioritizeLayer d) (s, false)
        if p.1.exynos.hasCompositionLayer && decide (0 < d.prioritize p.1.checks m .exynos) then
          (postponeExynosComposition d p.1 m, .changed)
        else (p.1, if p.2 then .changed else .noError)

/-- One round of the loop that makes the exynos layers client layers. -/
def giveToClient (d : Display) (s : State) (i : Nat) : State × Status :=
  let r := addClientCompositionLayer d ((s.resetAssignedResource i).setType i .client) i
  (r.1, if r.2.1 = .changed then .noError else r.2.1)

/-- `eInsufficientMPP` for the exynos target. -/
def giveUpExynosComposition (d : Display) (s : State) : State × Status :=
  let first := s.exynos.firstIndex.toNat
  let r := (List.range' first (s.exynos.lastIndex.toNat + 1 - first)).foldl
    (untilStatus (giveToClient d)) (s, .noError)
  if r.2 = .noError then (r.1.initializeExynos d, .changed) else r

def assignExynosTarget (d : Display) (s : State) : State × Status :=
  let r := assignCompositionTarget d s .exynos
  if r.2 = .insufficientMPP then giveUpExynosComposition d r.1 else r

/-- `next`, if nothing changed so far. -/
def andThen (r : State × Status) (next : State → State × Status) : State × Status :=
  if r.2 = .noError then next r.1 else r

/-- The body of the `do` loop. -/
def assignPass (d : Display) (s : State) : State × Status :=
  let r := assignCompositionTarget d (resetAssignedResources d s) .client
  let r := andThen r fun s => assignLayers d s .max
  let r := andThen r fun s => assignLayers d s .high
  let r := andThen r (assignExynosTarget d)
  let r := andThen r fun s => assignLayers d s .mid
  let r := andThen r fun s => assignLayers d s .low
  andThen r (setResourcePriority d)

/-- The `do` loop with `tries` passes left; the last one is too late. -/
def assignPasses (d : Display) : Nat → State → State × Status
  | 0, s => (s, .unknown)
  | tries + 1, s =>
      let r := assignPass d s
      if r.2 ≠ .noError ∧ r.2 ≠ .changed then r
      else if tries = 0 then (r.1, .unknown)
      else if r.2 = .changed then assignPasses d tries r.1
      else r

/-! ### Using what is left -/

/-- What the loops over the neighbours of the exynos range carry: `remainNum` and
    whether the loop goes on. -/
structure Extension where
  state : State
  remainNum : Nat
  running : Bool

def canExtend (d : Display) (s : State) (m : MppId) (i : Nat) : Bool :=
  decide (s.validateType i ≠ .client)
    && (!d.cursorSupport || decide ((d.layer i).compositionType ≠ .cursor))
    && (d.layer i).supportedMPPFlag (s.mpp m).logicalType
    && s.isAssignable d m (.src (.layer i)) (.dst (.layer i))

/-- What the check of the sandwiched layers will answer for the layer itself. -/
def isAcceptedAgain (d : Display) (s : State) (m : MppId) (i : Nat) : Bool :=
  (d.layer i).supportedMPPFlag (s.mpp m).logicalType
    && s.countCheck.isAssignable d m (.src (.layer i)) (.dst (.layer i))

def isClean (d : Display) (s : State) (i : Nat) : Bool :=
  !d.isHigh i && (List.range d.layerNum).all fun j =>
    !(decide (s.exynos.firstIndex ≤ j) && decide ((j : Int) ≤ s.exynos.lastIndex))
      || decide (s.validateType j = .exynos) && !d.isHigh j

/-- One round of the two loops; the result of `addExynosCompositionLayer` is
    dropped. -/
def extendExynos (d : Display) (m : MppId) (a : Extension) (i : Nat) : Extension :=
  if a.running = false then a
  else
    let s := a.state.countCheck
    if canExtend d s m i then
      let r := (s.resetAssignedResource i).assignM2m d m (.layer i)
      let r := r.record (.extended i (isAcceptedAgain d r m i) (isClean d r i))
      let r := (addExynosCompositionLayer d r i).1.setType i .exynos
      let remain := decrement a.remainNum
      ⟨r, remain, decide (remain ≠ 0)⟩
    else { a with state := s, running := false }

def useMaxSources (d : Display) (s : State) (m : MppId) : State :=
  let first := s.exynos.firstIndex.toNat
  let last := s.exynos.lastIndex.toNat
  let remain := ((d.mpp m).maxSrcLayerNum + 2 ^ 32 - (last - first + 1)) % 2 ^ 32
  let up := if 0 < remain then
      (List.range' (last + 1) (d.layerNum - (last + 1))).foldl (extendExynos d m) ⟨s, remain, true⟩
    else ⟨s, remain, true⟩
  if 0 < up.remainNum then
    ((List.range first).reverse.foldl (extendExynos d m) { up with running := true }).state
  else up.state

/-- The only layer of the composition is shown by the OTF MPP of the target. -/
def useSingleLayer (d : Display) (s : State) : State :=
  match s.otfMPP .exynos with
  | none => s
  | some o =>
      let i := s.exynos.firstIndex.toNat
      if d.enableExynosCompositionOptimization && decide (0 ≤ s.exynos.firstIndex)
          && decide (s.exynos.firstIndex = s.exynos.lastIndex)
          && (d.layer i).supportedMPPFlag (s.mpp o).logicalType
          && d.isSupportedCompression o (.src (.layer i)) then
        let s := s.recordTaken .single i
        let s := ((s.resetAssignedResource i).setType i .device).initializeExynos d
        let s := (s.resetAssignedState o).assignOtf d o (.layer i)
        -- the window of the target is the one of the layer now
        { s with
          counted := Function.update (Function.update s.counted .exynos false) (.layer i) true }
      else s

def updateExynosComposition (d : Display) (s : State) : State :=
  match s.m2mMPP .exynos with
  | none => s
  | some m =>
      if s.exynos.hasCompositionLayer = false then s
      else useSingleLayer d (if d.useMaxG2DSrc then useMaxSources d s m else s)

def changeLayerFromClientToDevice (d : Display) (s : State) (i : Nat) (a : Assigned) :
    State × Status :=
  let r := removeClientCompositionLayer (s.recordTaken .peeled i) i
  if r.2 = .noError then (takeWindow d r.1 i a, .noError) else r

/-- What the loops of `updateClientComposition` carry. -/
structure Peeling where
  state : State
  status : Status
  running : Bool

/-- One round; `skip` moves the end of the range past a device layer. -/
def peel (d : Display) (skip : State → State) (a : Peeling) (i : Nat) : Peeling :=
  if a.running = false then a
  else if d.isHigh i && decide (a.state.validateType i = .device) then
    { a with state := skip a.state }
  else
    let (s, r) := assignLayer d a.state i
    if r.compositionType = .device
        ∧ (r.m2mMPP.map fun m => (d.mpp m).physicalType) ≠ some PhysicalType.g2d then
      let c := changeLayerFromClientToDevice d s i r
      ⟨c.1, c.2, decide (c.2 = .noError)⟩
    else { a with state := s, running := false }

def isDedicatedTarget (d : Display) (s : State) : Bool :=
  s.client.hasCompositionLayer && (s.otfMPP .client).any fun o => (d.mpp o).dedicated

def peelFirst (s : State) : State :=
  s.setClientRange (s.client.firstIndex + 1) s.client.lastIndex

def peelLast (s : State) : State :=
  s.setClientRange s.client.firstIndex (s.client.lastIndex - 1)

/-- The loop from the last client layer downwards. -/
def peelDown (d : Display) (s : State) : State × Status :=
  if isDedicatedTarget d s then (s, .noError)
  else
    let indices := if 0 ≤ s.client.lastIndex then List.range (s.client.lastIndex.toNat + 1) else []
    let a := indices.reverse.foldl (peel d peelLast) ⟨s, .noError, true⟩
    (a.state, a.status)

def updateClientComposition (d : Display) (s : State) : State × Status :=
  if d.useDpu = false ∨ d.forceGpu ∨ s.client.hasCompositionLayer = false then (s, .noError)
  else if isDedicatedTarget d s && decide (s.client.firstIndex = s.client.lastIndex) then
    (s, .noError)
  else
    let first := s.client.firstIndex.toNat
    let a := (List.range' first (s.client.lastIndex.toNat + 1 - first)).foldl
      (peel d peelFirst) ⟨s, .noError, true⟩
    if a.status = .noError then peelDown d a.state else (a.state, a.status)

/-! ### All of it -/

/-- One round of the loop over the layers that are requested as client layers. -/
def addRequested (d : Display) (s : State) (i : Nat) : State × Status :=
  if (d.layer i).compositionType = .client then
    let s := { s with skipLayer := Function.update s.skipLayer i true }
    let r := addClientCompositionLayer d (s.setType i .client) i
    (r.1, if r.2.1 = .changed then .noError else r.2.1)
  else (s, .noError)

def addRequestedLayers (d : Display) (s : State) : State × Status :=
  (List.range d.layerNum).foldl (untilStatus (addRequested d)) (s, .noError)

def assignResourceInternal (d : Display) (s : State) : State × Status :=
  let r := andThen (addRequestedLayers d s) (assignPasses d ASSIGN_RESOURCE_TRY_COUNT)
  andThen r fun s => updateClientComposition d (updateExynosComposition d s)

/-- `mLayers[i]->resetValidateData()` for all layers, then `initializeValidateInfos`. -/
def initializeAssignment (d : Display) (s : State) : State :=
  initializeValidateInfos d
    { s with
      history := []
      otfMPP := fun x => match x with | .layer _ => none | x => s.otfMPP x
      m2mMPP := fun x => match x with | .layer _ => none | x => s.m2mMPP x }

/-- `assignResource` up to the choice of the windows. -/
def assignResource (d : Display) (s : State) : State × Status :=
  assignResourceInternal d (initializeAssignment d s)

/-! ### A phone -/

/-- A layer without any demands. -/
def plainLayer : Layer where
  compositionType := .device
  overlayPriority := .low
  planeAlphaIsOne := true
  supportedMPPFlag _ := true
  forceClientWFD := false
  hdrMetaError := false
  isDimLayer := false
  hasBuffer := true
  srcCropIsFloat := false
  outsideScreen := false
  candidateNum := 0

/-- Three OTF MPPs and the G2D, MPP 9, which take everything. -/
def phone (layers : List Layer) (maxWindowNum : Nat) : Display where
  layerNum := layers.length
  layer i := layers.getD i plainLayer
  useDpu := true
  maxWindowNum := maxWindowNum
  forceGpu := false
  deviceToClient := false
  supportColorTransform := true
  colorTransformHint := HAL_COLOR_TRANSFORM_IDENTITY
  cursorSupport := false
  useMaxG2DSrc := false
  enableExynosCompositionOptimization := false
  blendingMPP := some 9
  otfMPPs := [0, 1, 2]
  m2mMPPs := [9]
  mpp m := if m = 9 then ⟨.g2d, 6, none, false⟩ else ⟨.dpp, 1, none, false⟩
  isSupported _ _ _ := true
  isSupportedCompression _ _ := true
  isFree _ _ := true
  hasEnoughCapa _ _ _ _ := true
  isHWResourceAvailable _ _ _ := true
  prioritize _ _ _ := 0

/-- Before the first assignment. -/
def idle : State where
  validateType _ := .invalid
  otfMPP _ := none
  m2mMPP _ := none
  client := .initial
  exynos := .initial
  windowNumUsed := 0
  mpp m := ⟨if m = 9 then .g2dRGB else .dppG, false, false, false, []⟩
  hdrDynamic _ := false
  skipLayer _ := false
  checks := 0
  counted _ := false
  history := []

end ExynosHal.ResourceManager
