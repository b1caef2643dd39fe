/-
  ExynosHal/GeometryFlags.lean
  ============================
  **The geometry-changed flags of the device over validate and present.**

  `validateDisplay`, `validateAllDisplays`, `presentDisplay`, `canSkipValidate`,
  `finishFrame`, `setPowerMode` and the plug events of
  `libhwc2.1/device/ExynosDevice.cpp`, with the state changes of the three kinds
  of display that they call.  One flag word is shared by all displays: the first
  validate of a frame consumes it for every display, the last present clears it.

  The layers, the resource assignment and the display interface are outside;
  their answers are the fields of `Env`.  Two ghost fields record what the
  property speaks about: `stale` marks a display whose assignment is older than
  its last geometry-changing call, and `unconsumed` a change that no validation
  has seen yet.
-/
import Mathlib.Algebra.Group.Nat.Defs
import ExynosHal.TransitionSystem

namespace ExynosHal.GeometryFlags

open ExynosHal.TransitionSystem

/-! ### Data -/

def NO_ERROR : Int := 0
def HWC2_ERROR_NONE : Int := 0
def HWC2_ERROR_BAD_PARAMETER : Int := 4
def HWC2_ERROR_HAS_CHANGES : Int := 5
def HWC2_ERROR_NOT_VALIDATED : Int := 7
def HWC2_ERROR_UNSUPPORTED : Int := 8
def HWC_HAL_ERROR_INVAL : Int := HWC2_ERROR_BAD_PARAMETER

def GEOMETRY_LAYER_UNKNOWN_CHANGED : Nat := 2 ^ 14
def GEOMETRY_DISPLAY_POWER_ON : Nat := 2 ^ 28
def GEOMETRY_DISPLAY_POWER_OFF : Nat := 2 ^ 29
def GEOMETRY_DISPLAY_FRAME_SKIPPED : Nat := 2 ^ 32
def GEOMETRY_DISPLAY_WORKING_VSYNC_CHANGED : Nat := 2 ^ 34
def GEOMETRY_DEVICE_DISPLAY_ADDED : Nat := 2 ^ 36
def GEOMETRY_DEVICE_DISPLAY_REMOVED : Nat := 2 ^ 37
def GEOMETRY_DEVICE_DISP_MODE_CHAGED : Nat := 2 ^ 39
def GEOMETRY_DEVICE_SCENARIO_CHANGED : Nat := 2 ^ 40
def GEOMETRY_DEVICE_FPS_CHANGED : Nat := 2 ^ 41
def GEOMETRY_ERROR_CASE : Nat := 2 ^ 63

def SKIP_EXTERNAL_FRAME : Nat := 5
def SKIP_FRAME_COUNT_FOR_FB_INTERFACE : Nat := 5
def SKIP_FRAME_COUNT_FOR_DRM_INTERFACE : Nat := 1

inductive DisplayType where
  | primary
  | external
  | virtual
deriving DecidableEq, Repr

inductive PowerMode where
  | off
  | doze
  | on
  | dozeSuspend
deriving DecidableEq, Repr

inductive RenderingState where
  | none
  | validated
  | acceptedChange
  | presented
deriving DecidableEq, Repr

structure Display where
  type : DisplayType
  useDpu : Bool
  powerModeState : PowerMode
  plugState : Bool
  hpdStatus : Bool
  blanked : Bool
  enabled : Bool
  skipStartFrame : Nat
  skipFrameCount : Nat
  isFirstFrameDisplayed : Bool
  externalPlugState : Bool
  isSkipFrame : Bool
  needSkipPresent : Bool
  needSkipValidatePresent : Bool
  renderingState : RenderingState
  hwcRenderingState : RenderingState
  validateFlag : Bool
  presentFlag : Bool
  workingVsyncChanged : Bool
  /-- The assignment is older than the last geometry-changing call. -/
  stale : Bool
deriving DecidableEq, Repr

structure Device (n : Nat) where
  geometryChanged : Nat
  display : Fin n → Display
  /-- A geometry change that no validation has seen. -/
  unconsumed : Bool

/-- The answers that one call gets from the layers, the resource manager, the
    settings and the driver. -/
structure Env (n : Nat) where
  enableSkipValidate : Bool
  skipValidate : Bool
  skipResourceAssign : Bool
  isDrmInterface : Bool
  displayModeChanged : Bool
  /-- Whether `compareVsyncPeriod` finds another period. -/
  vsyncPeriodChanged : Bool
  /-- What `doPreProcessing` of a display adds to the flags. -/
  preProcessing : Fin n → Nat
  checkExceptionScenario : Nat
  checkAdditionalConnection : Bool
  prepareResources : Int
  /-- `assignResource` and the capacity check behind it. -/
  assignResource : Fin n → Int
  deliverPerformanceInfo : Fin n → Int
  postProcessValidate : Fin n → Int
  /-- Whether a virtual display has to skip the frame for its own reasons. -/
  wfdSkipFrame : Fin n → Bool
  /-- `getChangedCompositionTypes` and `getDisplayRequests`. -/
  changedTypes : Fin n → Int × Nat
  /-- Client composition, a static layer change or a request on a display. -/
  needsValidate : Fin n → Bool
  earlyStartMPP : Bool
  startPostProcessing : Int
  presentDisplay : Int
  validateFences : Bool
  /-- What the end of `finishFrame` adds to the flags. -/
  exceptionChanged : Nat
  isDozeModeAvailable : Bool
  setLowPowerMode : Bool
  driverSetPowerMode : Int
  openExternalDisplay : Int

/-! ### Displays -/

namespace Display

/-- The test that the loops of the device skip a display with. -/
def ignored (e : Display) : Bool :=
  (e.type != .virtual && e.powerModeState == .off) || !e.plugState ||
    (e.type == .external && e.blanked)

def isFrameSkipPowerState (e : Display) : Bool :=
  e.powerModeState == .off || e.powerModeState == .dozeSuspend

def initDisplay (e : Display) : Display := { e with renderingState := .none }

def clearRenderingStateFlags (e : Display) : Display :=
  { e with validateFlag := false, presentFlag := false }

def acceptDisplayChanges (e : Display) : Display :=
  if e.renderingState ≠ .validated then e
  else { e with renderingState := .acceptedChange, hwcRenderingState := .acceptedChange }

def setPresentState (e : Display) : Display :=
  { e with renderingState := .presented, presentFlag := true }

def forceSkipValidateDisplay (e : Display) : Display :=
  { e with renderingState := .validated, validateFlag := false }

def forceSkipPresentDisplay (e : Display) : Display :=
  { e with renderingState := .presented, presentFlag := false }

def setValidateState (e : Display) : Display :=
  { e with renderingState := .validated, validateFlag := true, needSkipPresent := false }

/-- The flags set by `preProcessValidate`, and the display. -/
def preProcessValidate (e : Display) (preProcessing : Nat) : Nat × Display :=
  match e.type with
  | .primary => (preProcessing, e)
  | .external =>
      let e := { e with needSkipPresent := false }
      let added :=
        if e.skipStartFrame < SKIP_EXTERNAL_FRAME then
          if e.plugState then GEOMETRY_DEVICE_DISPLAY_ADDED else GEOMETRY_DEVICE_DISPLAY_REMOVED
        else 0
      let e := if e.skipStartFrame < SKIP_EXTERNAL_FRAME then e.initDisplay else e
      -- `handleRotate`
      let e := { e with isSkipFrame := false }
      if !e.plugState then
        (added ||| GEOMETRY_LAYER_UNKNOWN_CHANGED,
          { e with renderingState := .validated, validateFlag := true, isSkipFrame := true })
      else
        (added ||| preProcessing,
          { e with isSkipFrame := decide (e.skipStartFrame < SKIP_EXTERNAL_FRAME) })
  | .virtual =>
      ((if e.skipFrameCount > 0 then GEOMETRY_DISPLAY_FRAME_SKIPPED else 0) ||| preProcessing,
        { e with isSkipFrame := false })

def checkSkipFrame (e : Display) (wfdSkipFrame : Bool) : Bool :=
  decide (e.skipFrameCount > 0) || wfdSkipFrame || e.externalPlugState

/-- What `postProcessValidate` leaves in the display, whatever it returns. -/
def postProcessValidate (e : Display) (wfdSkipFrame : Bool) : Display :=
  match e.type with
  | .primary => e
  | .external =>
      if e.skipStartFrame < SKIP_EXTERNAL_FRAME then
        { e.initDisplay with
          renderingState := .validated
          skipStartFrame := e.skipStartFrame + 1 }
      else e
  | .virtual =>
      if e.checkSkipFrame wfdSkipFrame then
        { e with isSkipFrame := true, skipFrameCount := e.skipFrameCount - 1 }
      else { e with isFirstFrameDisplayed := true }

def canSkipValidate (e : Display) (skipResourceAssign wfdSkipFrame needsValidate : Bool) : Bool :=
  let base := skipResourceAssign && e.renderingState != .none && !needsValidate
  match e.type with
  | .primary => base
  | .external =>
      if !e.hpdStatus || e.blanked then false
      else if decide (e.skipStartFrame > SKIP_EXTERNAL_FRAME - 1) && !e.enabled &&
          e.powerModeState == .on then false
      else if e.isSkipFrame || decide (e.skipStartFrame < SKIP_EXTERNAL_FRAME) then false
      else base
  | .virtual =>
      if e.checkSkipFrame wfdSkipFrame || !e.isFirstFrameDisplayed then false else base

/-- Whether `presentDisplay` of the display drops the frame. -/
def dropsFrame (e : Display) : Bool :=
  match e.type with
  | .primary => false
  | .external => e.isSkipFrame || !e.hpdStatus || e.blanked
  | .virtual => e.isSkipFrame

def afterDroppedFrame (e : Display) : Display :=
  match e.type with
  | .primary => e
  | .external => e.initDisplay
  | .virtual => { e with isSkipFrame := false }

/-- `handleSkipPresent`: its result. -/
def handleSkipPresent (e : Display) : Int :=
  if e.needSkipValidatePresent then HWC2_ERROR_NONE
  else if e.renderingState = .none then HWC2_ERROR_NONE
  else HWC2_ERROR_NOT_VALIDATED

end Display

/-! ### Device -/

namespace Device

variable {n : Nat}

def update (s : Device n) (d : Fin n) (f : Display → Display) : Device n :=
  { s with display := fun i => if i = d then f (s.display i) else s.display i }

def setGeometryChanged (s : Device n) (changedBit : Nat) : Device n :=
  { s with geometryChanged := s.geometryChanged ||| changedBit }

/-- A geometry-changing call on display `d`. -/
def changeDisplay (s : Device n) (d : Fin n) (changedBit : Nat) : Device n :=
  if changedBit = 0 then s
  else
    { (s.setGeometryChanged changedBit).update d fun e => { e with stale := true } with
      unconsumed := true }

/-- A change of the device itself. -/
def changeDevice (s : Device n) (changedBit : Nat) : Device n :=
  if changedBit = 0 then s else { s.setGeometryChanged changedBit with unconsumed := true }

def clearRenderingStateFlags (s : Device n) : Device n :=
  { s with display := fun i => (s.display i).clearRenderingStateFlags }

def wasRenderingStateFlagsCleared (s : Device n) : Bool :=
  decide (∀ i, (s.display i).validateFlag = false ∧ (s.display i).presentFlag = false)

def isFirstValidate (s : Device n) : Bool :=
  decide (∀ i, (s.display i).ignored = true ∨ (s.display i).validateFlag = false)

def isLastPresent (s : Device n) (d : Fin n) : Bool :=
  decide (∀ i, i = d ∨ (s.display i).ignored = true ∨ (s.display i).presentFlag = true)

def handleVsyncPeriodChangeInternal (s : Device n) (vsyncPeriodChanged : Bool) : Device n :=
  s.changeDevice (if vsyncPeriodChanged then GEOMETRY_DEVICE_FPS_CHANGED else 0)

def skippedFrame (s : Device n) : Bool :=
  decide (∃ i, (s.display i).ignored = false ∧ ((s.display i).isSkipFrame = true ∨
    (s.display i).needSkipPresent = true ∨ (s.display i).needSkipValidatePresent = true))

def setGeometryFlagForNextFrame (s : Device n) : Device n :=
  let s := s.setGeometryChanged
    ((if s.skippedFrame then GEOMETRY_DISPLAY_FRAME_SKIPPED else 0) |||
      if ∃ i, (s.display i).ignored = false ∧ (s.display i).workingVsyncChanged = true then
        GEOMETRY_DISPLAY_WORKING_VSYNC_CHANGED
      else 0)
  { s with display := fun i =>
      if (s.display i).ignored then s.display i
      else { s.display i with workingVsyncChanged := false } }

def finishFrame (s : Device n) (env : Env n) : Device n :=
  let s := { s with geometryChanged := 0 }
  s.setGeometryFlagForNextFrame.clearRenderingStateFlags.setGeometryChanged env.exceptionChanged

/-! ### Validate -/

/-- `skip_display` of `validateAllDisplays`. -/
def skipDisplay (s : Device n) (firstDisplay i : Fin n) : Bool :=
  if i = firstDisplay then false
  else (s.display i).ignored || ((s.display i).needSkipPresent && (s.display i).presentFlag)

/-- The first loop of `validateAllDisplays` at one display. -/
def preProcess (env : Env n) (firstDisplay : Fin n) (s : Device n) (i : Fin n) : Device n :=
  if s.skipDisplay firstDisplay i then s
  else
    let e := { s.display i with needSkipValidatePresent := false }
    let processed := e.preProcessValidate (env.preProcessing i)
    (s.setGeometryChanged processed.1).update i fun _ => processed.2

/-- The second loop of `validateAllDisplays` at one display. -/
def validateOne (env : Env n) (firstDisplay : Fin n) (s : Device n) (i : Fin n) : Device n :=
  if s.skipDisplay firstDisplay i then s
  else
    let assigns := s.geometryChanged ≠ 0 ∧ (s.display i).isSkipFrame = false
    let s := if assigns then s.update i fun e => { e with stale := false } else s
    let displayRet := if assigns then env.assignResource i else NO_ERROR
    let displayRet :=
      if displayRet = NO_ERROR then env.deliverPerformanceInfo i else displayRet
    let s :=
      if displayRet = NO_ERROR then s.update i (·.postProcessValidate (env.wfdSkipFrame i)) else s
    let displayRet := if displayRet = NO_ERROR then env.postProcessValidate i else displayRet
    let s :=
      if displayRet = NO_ERROR then s
      else
        -- `setForceClient` and the assignment of the client target
        (s.setGeometryChanged GEOMETRY_ERROR_CASE).update i fun e => { e with stale := false }
    let s := s.update i Display.setValidateState
    if (env.changedTypes i).1 ≠ NO_ERROR then s.setGeometryChanged GEOMETRY_ERROR_CASE else s

/-- The result of `setValidateState`. -/
def validateResult (env : Env n) (d : Fin n) : Int :=
  if (env.changedTypes d).1 ≠ NO_ERROR then (env.changedTypes d).1
  else if (env.changedTypes d).2 = 0 then HWC2_ERROR_NONE
  else HWC2_ERROR_HAS_CHANGES

/-- The displays in the order of the loops of `validateAllDisplays`. -/
def descending (n : Nat) : List (Fin n) := (List.finRange n).reverse

/-- `validateAllDisplays` up to `prepareResources`. -/
def beforeAssignment (s : Device n) (env : Env n) (firstDisplay : Fin n) : Device n :=
  let s := s.setGeometryChanged
    (if env.displayModeChanged then GEOMETRY_DEVICE_DISP_MODE_CHAGED else 0)
  let s := s.setGeometryChanged (if env.vsyncPeriodChanged then GEOMETRY_DEVICE_FPS_CHANGED else 0)
  let s := (descending n).foldl (preProcess env firstDisplay) s
  let s := s.setGeometryChanged env.checkExceptionScenario
  let s := s.setGeometryChanged
    (if env.skipResourceAssign then 0 else GEOMETRY_DEVICE_SCENARIO_CHANGED)
  s.setGeometryChanged
    (if !env.enableSkipValidate && env.checkAdditionalConnection then 0x10 else 0)

def validateAllDisplays (s : Device n) (env : Env n) (firstDisplay : Fin n) : Int × Device n :=
  let s := s.beforeAssignment env firstDisplay
  if s.geometryChanged ≠ 0 ∧ env.prepareResources ≠ NO_ERROR then (HWC_HAL_ERROR_INVAL, s)
  else
    let s := if s.geometryChanged ≠ 0 then { s with unconsumed := false } else s
    (validateResult env firstDisplay, (descending n).foldl (validateOne env firstDisplay) s)

def validateDisplay (s : Device n) (env : Env n) (d : Fin n) : Int × Device n :=
  let result :=
    if (s.display d).plugState = false ∨ (s.display d).isFrameSkipPowerState then
      (HWC2_ERROR_NONE, s.update d fun e =>
        { e with needSkipValidatePresent := true }.forceSkipValidateDisplay)
    else if s.isFirstValidate then s.validateAllDisplays env d
    else
      let s := s.update d fun e =>
        { e with needSkipValidatePresent := !e.validateFlag }.setValidateState
      (validateResult env d,
        if (env.changedTypes d).1 ≠ NO_ERROR then s.setGeometryChanged GEOMETRY_ERROR_CASE else s)
  (result.1, result.2.update d fun e => { e with hwcRenderingState := .validated })

/-! ### Present -/

/-- The loop of `canSkipValidate`. -/
def canSkipLoop (env : Env n) : List (Fin n) → Device n → Bool × Device n
  | [], s => (true, s)
  | i :: is, s =>
      if (s.display i).plugState then
        let s := s.setGeometryChanged (env.preProcessing i)
        if (s.display i).canSkipValidate env.skipResourceAssign (env.wfdSkipFrame i)
            (env.needsValidate i) then
          canSkipLoop env is s
        else (false, s)
      else canSkipLoop env is s

def canSkipValidate (s : Device n) (env : Env n) : Bool × Device n :=
  if env.skipValidate = false ∨ s.geometryChanged ≠ 0 then (false, s)
  else
    let looped := canSkipLoop env (List.finRange n) s
    (looped.1 && looped.2.geometryChanged == 0, looped.2)

structure PresentResult (n : Nat) where
  ret : Int
  /-- A frame was handed to the display interface. -/
  delivered : Bool
  device : Device n

def presentPostProcessing (s : Device n) (env : Env n) (d : Fin n) : Int × Device n :=
  let s := s.update d Display.setPresentState
  let s := if env.validateFences then s else s.setGeometryChanged GEOMETRY_ERROR_CASE
  (if env.validateFences then HWC2_ERROR_NONE else HWC_HAL_ERROR_INVAL,
    if s.isLastPresent d then s.finishFrame env else s)

def handleErr (s : Device n) (env : Env n) (d : Fin n) : PresentResult n :=
  ⟨HWC_HAL_ERROR_INVAL, false,
    (s.presentPostProcessing env d).2.setGeometryChanged GEOMETRY_ERROR_CASE⟩

/-- The end of `presentDisplay`, where the frame goes to the display. -/
def deliver (s : Device n) (env : Env n) (d : Fin n) : PresentResult n :=
  if (s.display d).dropsFrame then
    let post := (s.update d Display.afterDroppedFrame).presentPostProcessing env d
    ⟨post.1, false, post.2⟩
  else if env.presentDisplay ≠ HWC2_ERROR_NONE then s.handleErr env d
  else
    let post := s.presentPostProcessing env d
    ⟨post.1, true, post.2⟩

/-- `presentDisplay` behind the handling of skipped frames. -/
def presentValidated (s : Device n) (env : Env n) (d : Fin n) : PresentResult n :=
  if (s.display d).renderingState ≠ .acceptedChange then
    if !env.enableSkipValidate then s.handleErr env d
    else
      let skip := s.canSkipValidate env
      if !skip.1 then
        ⟨HWC2_ERROR_NOT_VALIDATED, false,
          skip.2.update d fun e => { e with renderingState := .none }⟩
      else if env.earlyStartMPP ∧ (skip.2.display d).validateFlag = false ∧
          env.startPostProcessing ≠ NO_ERROR then
        skip.2.handleErr env d
      else skip.2.deliver env d
  else s.deliver env d

def presentSkipped (s : Device n) (env : Env n) (d : Fin n) : PresentResult n :=
  let ret := (s.display d).handleSkipPresent
  ⟨ret, false, if ret ≠ HWC2_ERROR_NOT_VALIDATED then (s.presentPostProcessing env d).2 else s⟩

/-- The acceptance of the changes at the start of `presentDisplay`. -/
def acceptValidated (s : Device n) (d : Fin n) : Device n :=
  if (s.display d).hwcRenderingState = .validated then s.update d Display.acceptDisplayChanges
  else s

/-- `presentDisplay` behind the acceptance of the changes. -/
def presentAccepted (s : Device n) (env : Env n) (d : Fin n) : PresentResult n :=
  let unavailable := (s.display d).plugState = false ∨ (s.display d).isFrameSkipPowerState
  if unavailable ∧ s.wasRenderingStateFlagsCleared then
    ⟨HWC2_ERROR_NONE, false, s.update d fun e =>
      { e with needSkipValidatePresent := true }.forceSkipPresentDisplay⟩
  else
    let s :=
      if unavailable then s.update d fun e => { e with needSkipValidatePresent := true } else s
    if (s.display d).needSkipPresent ∨ (s.display d).needSkipValidatePresent then
      s.presentSkipped env d
    else s.presentValidated env d

def presentDisplay (s : Device n) (env : Env n) (d : Fin n) : PresentResult n :=
  let result := (s.acceptValidated d).presentAccepted env d
  { result with
    device := result.device.update d fun e => { e with hwcRenderingState := .presented } }

/-! ### Power and plug events -/

/-- `ExynosDisplay::setPowerMode`, used by virtual displays. -/
def setPowerModeBase (s : Device n) (env : Env n) (d : Fin n) (mode : PowerMode) :
    Int × Device n :=
  if !env.isDozeModeAvailable && (mode == .doze || mode == .dozeSuspend) then
    (HWC2_ERROR_UNSUPPORTED, s)
  else
    let s := s.update d fun e => { e with powerModeState := mode }
    if mode = .off then
      (HWC2_ERROR_NONE, (s.update d fun e =>
        { e with needSkipPresent := true, renderingState := .none }).changeDisplay d
          GEOMETRY_DISPLAY_POWER_OFF)
    else (HWC2_ERROR_NONE, s.changeDisplay d GEOMETRY_DISPLAY_POWER_ON)

/-- `ExynosPrimaryDisplay::setPowerMode`. -/
def setPowerModePrimary (s : Device n) (env : Env n) (d : Fin n) (mode : PowerMode) :
    Int × Device n :=
  if mode = (s.display d).powerModeState then (HWC2_ERROR_NONE, s)
  else
    match mode with
    | .doze | .dozeSuspend =>
        -- `setPowerDoze` sets no flag
        if !env.isDozeModeAvailable || env.setLowPowerMode then (HWC2_ERROR_UNSUPPORTED, s)
        else (HWC2_ERROR_NONE, s.update d fun e => { e with powerModeState := mode })
    | .off =>
        (HWC2_ERROR_NONE, (s.update d fun e =>
          { e with powerModeState := .off, renderingState := .none }).changeDisplay d
            GEOMETRY_DISPLAY_POWER_OFF)
    | .on =>
        (HWC2_ERROR_NONE, (s.update d fun e => { e with powerModeState := .on }).changeDisplay d
          GEOMETRY_DISPLAY_POWER_ON)

/-- `ExynosExternalDisplay::disable`. -/
def disable (s : Device n) (env : Env n) (d : Fin n) : Int × Device n :=
  if env.isDrmInterface && (s.display d).hpdStatus then (HWC2_ERROR_NONE, s)
  else if env.driverSetPowerMode < 0 then (HWC2_ERROR_UNSUPPORTED, s)
  else (HWC2_ERROR_NONE, s.update d fun e => { e with enabled := false, powerModeState := .off })

/-- `ExynosExternalDisplay::enable`. -/
def enable (s : Device n) (env : Env n) (d : Fin n) : Int × Device n :=
  if (s.display d).hpdStatus = false ∨ (s.display d).enabled then (HWC2_ERROR_NONE, s)
  else if env.driverSetPowerMode < 0 then (HWC2_ERROR_UNSUPPORTED, s)
  else (HWC2_ERROR_NONE, s.update d fun e => { e with enabled := true })

/-- `ExynosExternalDisplay::setPowerMode` behind `enable` and `disable`. -/
def switchExternal (s : Device n) (d : Fin n) (mode : PowerMode) : Device n :=
  let s := s.update d fun e => { e with powerModeState := if e.hpdStatus then mode else .off }
  if mode = .off then
    (s.update d fun e => { e with needSkipPresent := true, renderingState := .none }).changeDisplay
      d GEOMETRY_DISPLAY_POWER_OFF
  else s.changeDisplay d GEOMETRY_DISPLAY_POWER_ON

/-- `ExynosExternalDisplay::setPowerMode`. -/
def setPowerModeExternal (s : Device n) (env : Env n) (d : Fin n) (mode : PowerMode) :
    Int × Device n :=
  let switched :=
    if mode = .off then s.disable env d
    else if (s.display d).hpdStatus = false then (HWC2_ERROR_NONE, s)
    else s.enable env d
  let s := switched.2
  if switched.1 ≠ HWC2_ERROR_NONE then (HWC2_ERROR_UNSUPPORTED, s)
  else (HWC2_ERROR_NONE, s.switchExternal d mode)

def displaySetPowerMode (s : Device n) (env : Env n) (d : Fin n) (mode : PowerMode) :
    Int × Device n :=
  match (s.display d).type with
  | .primary => s.setPowerModePrimary env d mode
  | .external => s.setPowerModeExternal env d mode
  | .virtual => s.setPowerModeBase env d mode

def setPowerMode (s : Device n) (env : Env n) (d : Fin n) (mode : PowerMode) : Int × Device n :=
  let s :=
    if mode = .off then
      let s := s.update d fun e => { e with presentFlag := true }
      if s.isLastPresent d then s.finishFrame env else s
    else s
  let result := s.displaySetPowerMode env d mode
  (result.1, result.2.handleVsyncPeriodChangeInternal env.vsyncPeriodChanged)

/-- `ExynosExternalDisplay::handleHotplugEvent`. -/
def externalHotplug (s : Device n) (env : Env n) (d : Fin n) (hpdStatus : Bool) : Device n :=
  let s := s.update d fun e => { e with hpdStatus := hpdStatus }
  if hpdStatus then
    if env.openExternalDisplay < 0 then s.update d fun e => { e with hpdStatus := false }
    -- a positive error code leaves the display as it is, but plugged in by its cable
    else if env.openExternalDisplay ≠ HWC2_ERROR_NONE then s
    else s.update d fun e => { e with skipStartFrame := 0, plugState := true }
  else
    let s := (s.disable env d).2
    -- `closeExternalDisplay`
    if (s.display d).powerModeState ≠ .off ∧ env.driverSetPowerMode < 0 then s
    else s.update d fun e =>
      { e with powerModeState := .off, plugState := false, blanked := false }

/-- `ExynosVirtualDisplay::destroyVirtualDisplay`. -/
def closeVirtual (s : Device n) (d : Fin n) : Device n :=
  s.update d fun e => { e with plugState := false, powerModeState := .off }

/-- `ExynosVirtualDisplay::setExternalPlugState`. -/
def setExternalPlugState (s : Device n) (v : Fin n) (state : Bool) : Device n :=
  let s := s.update v fun e => { e with externalPlugState := state }
  if (s.display v).plugState then s.changeDisplay v GEOMETRY_DISPLAY_FRAME_SKIPPED else s

/-- The virtual display that the plug event of an external display is told to. -/
def dpuVirtual (s : Device n) : Option (Fin n) :=
  (List.finRange n).find? fun i => (s.display i).type == .virtual && (s.display i).useDpu

/-- `handleHotplug` for the display whose status has changed. -/
def handleHotplug (s : Device n) (env : Env n) (d : Fin n) (hpdStatus : Bool) : Device n :=
  match (s.display d).type with
  | .virtual => s
  | .primary => s.update d fun e => { e with hpdStatus := hpdStatus }
  | .external =>
      if (s.display d).hpdStatus = hpdStatus then s
      else
        let s := s.externalHotplug env d hpdStatus
        let s :=
          if hpdStatus then s else s.handleVsyncPeriodChangeInternal env.vsyncPeriodChanged
        match s.dpuVirtual with
        | none => s
        | some v =>
            let s := s.setExternalPlugState v hpdStatus
            if hpdStatus && (s.display v).plugState then s.closeVirtual v else s

def createVirtualDisplay (s : Device n) (env : Env n) (d : Fin n) : Device n :=
  (s.update d fun e =>
    { e.initDisplay with
      plugState := true
      skipFrameCount :=
        if e.useDpu then
          if env.isDrmInterface then SKIP_FRAME_COUNT_FOR_DRM_INTERFACE
          else SKIP_FRAME_COUNT_FOR_FB_INTERFACE
        else e.skipFrameCount
      isFirstFrameDisplayed := if e.useDpu then false else e.isFirstFrameDisplayed
      powerModeState := .on }).handleVsyncPeriodChangeInternal env.vsyncPeriodChanged

def destroyVirtualDisplay (s : Device n) (env : Env n) (d : Fin n) : Device n :=
  (s.closeVirtual d).handleVsyncPeriodChangeInternal env.vsyncPeriodChanged

/-! ### Setters -/

/-- `setLayerDisplayFrame`, which clears the rendering flags of all displays first. -/
def setLayerDisplayFrame (s : Device n) (d : Fin n) (changedBit : Nat) : Device n :=
  s.clearRenderingStateFlags.changeDisplay d changedBit

end Device

/-- The calls of the property; `changedBit` is what a setter adds to the flags. -/
inductive Op (n : Nat) where
  | setter (d : Fin n) (changedBit : Nat)
  | setLayerDisplayFrame (d : Fin n) (changedBit : Nat)
  | setPowerMode (d : Fin n) (mode : PowerMode)
  | hotplug (d : Fin n) (hpdStatus : Bool)
  | createVirtualDisplay (d : Fin n)
  | destroyVirtualDisplay (d : Fin n)
  | validateDisplay (d : Fin n)
  | acceptDisplayChanges (d : Fin n)
  | presentDisplay (d : Fin n)

namespace Device

variable {n : Nat}

def exec (s : Device n) : Op n × Env n → Device n
  | (.setter d changedBit, _) => s.changeDisplay d changedBit
  | (.setLayerDisplayFrame d changedBit, _) => s.setLayerDisplayFrame d changedBit
  | (.setPowerMode d mode, env) => (s.setPowerMode env d mode).2
  | (.hotplug d hpdStatus, env) => s.handleHotplug env d hpdStatus
  | (.createVirtualDisplay d, env) =>
      if (s.display d).type = .virtual then s.createVirtualDisplay env d else s
  | (.destroyVirtualDisplay d, env) =>
      if (s.display d).type = .virtual then s.destroyVirtualDisplay env d else s
  | (.validateDisplay d, env) => (s.validateDisplay env d).2
  | (.acceptDisplayChanges d, _) => s.update d Display.acceptDisplayChanges
  | (.presentDisplay d, env) => (s.presentDisplay env d).device

end Device

/-! ### The condition on the order of the calls -/

namespace Display

/-- A display that may still deliver what a validation gave it. -/
def armed (e : Display) : Bool :=
  e.renderingState == .validated || e.renderingState == .acceptedChange

/-- A virtual display that is not there and whose creation sets no flag. -/
def detached (e : Display) : Bool := e.type == .virtual && !e.useDpu && !e.plugState

def unavailable (e : Display) : Bool := !e.plugState || e.isFrameSkipPowerState

end Display

namespace Device

variable {n : Nat}

/-- Between two frames: nothing is validated. -/
def FrameClosed (s : Device n) : Prop :=
  ∀ i, (s.display i).validateFlag = false ∧ (s.display i).armed = false

instance (s : Device n) : Decidable s.FrameClosed :=
  inferInstanceAs (Decidable (∀ _, _))

/-- Power-off sets its flag after the frame has been finished. -/
def powersOff (s : Device n) (env : Env n) (d : Fin n) : Prop :=
  match (s.display d).type with
  | .primary => (s.display d).powerModeState ≠ .off
  | .external => 0 ≤ env.driverSetPowerMode
  | .virtual => True

instance (s : Device n) (env : Env n) (d : Fin n) : Decidable (s.powersOff env d) := by
  unfold powersOff
  split <;> infer_instance

/-- No geometry change comes between the first validate of a frame and its last
    present, and the other calls keep to the paths that carry a change over. -/
def InOrder (s : Device n) : Op n × Env n → Prop
  | (.setter d changedBit, _) =>
      changedBit ≠ 0 → s.FrameClosed ∧ (s.display d).detached = false
  | (.setLayerDisplayFrame d changedBit, _) =>
      s.FrameClosed ∧ (changedBit ≠ 0 → (s.display d).detached = false)
  | (.setPowerMode d mode, env) =>
      s.FrameClosed ∧ (s.display d).detached = false ∧
      (mode = .off → s.isLastPresent d = true → s.powersOff env d) ∧
      ((s.display d).type = .primary → mode = .doze ∨ mode = .dozeSuspend →
        (s.display d).powerModeState ≠ .off)
  | (.hotplug _ _, env) =>
      s.FrameClosed ∨ env.vsyncPeriodChanged = false ∧
        ∀ i, (s.display i).type = .virtual → (s.display i).useDpu = true →
          (s.display i).plugState = false
  | (.createVirtualDisplay _, env) => s.FrameClosed ∨ env.vsyncPeriodChanged = false
  | (.destroyVirtualDisplay d, env) =>
      (s.FrameClosed ∨ env.vsyncPeriodChanged = false) ∧
      ((s.display d).useDpu = true ∨ s.geometryChanged = 0 ∨
        (s.display d).validateFlag = true ∧ (s.display d).needSkipValidatePresent = false)
  | (.validateDisplay d, env) =>
      if s.isFirstValidate then env.prepareResources = NO_ERROR
      else (s.display d).validateFlag = true → (s.display d).needSkipValidatePresent = false
  | (.acceptDisplayChanges _, _) => True
  | (.presentDisplay d, _) =>
      (s.display d).ignored = true → s.isLastPresent d = true →
        s.geometryChanged = 0 ∨ s.wasRenderingStateFlagsCleared = true ∨
          ∃ i, (s.display i).validateFlag = true

instance (s : Device n) : (call : Op n × Env n) → Decidable (s.InOrder call)
  | (.setter _ changedBit, _) => inferInstanceAs (Decidable (changedBit ≠ 0 → _ ∧ _))
  | (.setLayerDisplayFrame _ changedBit, _) =>
      inferInstanceAs (Decidable (_ ∧ (changedBit ≠ 0 → _)))
  | (.setPowerMode _ _, _) => inferInstanceAs (Decidable (_ ∧ _ ∧ (_ → _ → _) ∧ (_ → _ → _)))
  | (.hotplug _ _, _) => inferInstanceAs (Decidable (_ ∨ _ ∧ ∀ _, _ → _ → _))
  | (.createVirtualDisplay _, _) => inferInstanceAs (Decidable (_ ∨ _))
  | (.destroyVirtualDisplay _, _) => inferInstanceAs (Decidable (_ ∧ (_ ∨ _ ∨ _ ∧ _)))
  | (.validateDisplay d, env) =>
      inferInstanceAs (Decidable (if s.isFirstValidate then env.prepareResources = NO_ERROR
        else (s.display d).validateFlag = true → (s.display d).needSkipValidatePresent = false))
  | (.acceptDisplayChanges _, _) => inferInstanceAs (Decidable True)
  | (.presentDisplay _, _) => inferInstanceAs (Decidable (_ → _ → _ ∨ _ ∨ ∃ _, _))

end Device

/-! ### The invariant -/

namespace Display

/-- A stale display that sets a flag before it can deliver again. -/
def Guarded (e : Display) : Prop :=
  match e.type with
  | .primary => e.powerModeState = .off
  | .external => e.powerModeState = .off ∨ e.skipStartFrame < SKIP_EXTERNAL_FRAME ∨
      e.plugState = false
  | .virtual => e.skipFrameCount > 0 ∨ e.useDpu = true ∧ e.plugState = false

/-- A display for which the end of the frame sets a flag. -/
def SkipsFrame (e : Display) : Prop :=
  e.ignored = false ∧ (e.needSkipPresent = true ∨ e.needSkipValidatePresent = true ∨
    e.type = .external ∧ e.isSkipFrame = true)

end Display

/-- What holds of one display at any time. -/
structure Standing (e : Display) : Prop where
  detached : e.stale = true → e.detached = true → e.skipFrameCount > 0
  blanked : e.blanked = false
  primary : e.type = .primary → e.plugState = true ∧ e.isSkipFrame = false

/-- What holds of one display, given whether a flag is set and whether there is a
    change no validation has seen. -/
structure DisplayInv (flagged unconsumed : Prop) (e : Display) : Prop extends Standing e where
  flagged : e.stale = true → flagged ∨ e.Guarded
  validated : e.validateFlag = true → e.stale = true →
    e.type = .external ∧ e.isSkipFrame = true ∨ e.needSkipValidatePresent = true
  armed : e.armed = true → e.stale = true → e.type = .external ∧ e.isSkipFrame = true ∨
    e.needSkipPresent = true ∨ e.needSkipValidatePresent = true ∨ e.unavailable = true
  consumed : e.validateFlag = true → ¬ unconsumed
  waiting : unconsumed → e.armed = true →
    e.unavailable = true ∨ e.needSkipValidatePresent = true
  idle : e.type = .external → e.plugState = false → e.armed = true →
    e.needSkipValidatePresent = true ∨ e.isFrameSkipPowerState = true
  skipped : ¬ unconsumed → e.stale = true → e.Guarded ∨ e.SkipsFrame

namespace Device

variable {n : Nat}

/-- The invariant of the device, where `flagged` stands for a flag being set. -/
structure InvUpTo (flagged : Prop) (s : Device n) : Prop where
  noLoss : s.unconsumed = true → flagged
  display : ∀ i, DisplayInv flagged (s.unconsumed = true) (s.display i)

/-- The invariant of the device. -/
abbrev Inv (s : Device n) : Prop := InvUpTo (s.geometryChanged ≠ 0) s

/-- The device before the first call. -/
structure Init (s : Device n) : Prop where
  unconsumed : s.unconsumed = false
  stale : ∀ i, (s.display i).stale = false
  validateFlag : ∀ i, (s.display i).validateFlag = false
  standing : ∀ i, Standing (s.display i)
  unplugged : ∀ i, (s.display i).type = .external → (s.display i).plugState = false →
    (s.display i).powerModeState = .off

end Device

section Displays

variable {f f' u u' : Prop} {e : Display}

theorem DisplayInv.mono (h : DisplayInv f u e) (hf : f → f') : DisplayInv f' u e :=
  { h with flagged := fun hs => (h.flagged hs).imp_left hf }

/-- A display that is not validated and not armed meets the invariant whatever
    change there is, as long as a flag is set. -/
theorem Standing.of_closed (h : Standing e) (hv : e.validateFlag = false)
    (ha : e.armed = false) (hf : f) (hu : u) : DisplayInv f u e where
  toStanding := h
  flagged _ := .inl hf
  validated hv' := by simp [hv] at hv'
  armed ha' := by simp [ha] at ha'
  consumed hv' := by simp [hv] at hv'
  waiting _ ha' := by simp [ha] at ha'
  idle _ _ ha' := by simp [ha] at ha'
  skipped hu' := absurd hu hu'

theorem Standing.stale (h : Standing e) (hd : e.detached = false) :
    Standing { e with stale := true } :=
  { h with detached := fun _ hd' => absurd (hd'.symm.trans hd) (by decide) }

/-- An ignored stale display is guarded. -/
theorem DisplayInv.guarded_of_ignored (h : DisplayInv f u e) (hs : e.stale = true)
    (hi : e.ignored = true) : e.Guarded := by
  have hp := h.primary
  have hd := h.detached hs
  simp only [Display.ignored, Bool.or_eq_true, Bool.and_eq_true, bne_iff_ne, beq_iff_eq,
    Bool.not_eq_true', h.blanked, Bool.false_eq_true, and_false, or_false] at hi
  simp only [Display.detached, Bool.and_eq_true, beq_iff_eq, Bool.not_eq_true'] at hd
  simp only [Display.Guarded]
  cases ht : e.type
  case primary => simp_all
  case external =>
    rcases hi with ⟨-, hoff⟩ | hplug
    · exact .inl hoff
    · exact .inr (.inr hplug)
  case virtual =>
    have hplug : e.plugState = false := by simpa [ht] using hi
    by_cases hdpu : e.useDpu = true
    · exact .inr ⟨hdpu, hplug⟩
    · exact .inl (hd ⟨⟨ht, by simpa using hdpu⟩, hplug⟩)

/-- A display without power or plug is validated without an assignment. -/
theorem DisplayInv.forceSkipValidate (h : DisplayInv f u e)
    (hu : e.unavailable = true) :
    DisplayInv f u { e with needSkipValidatePresent := true }.forceSkipValidateDisplay :=
  { h with
    validated := fun hv => by cases hv
    armed := fun _ _ => .inr (.inr (.inl rfl))
    consumed := fun hv => by cases hv
    waiting := fun _ _ => .inl hu
    idle := fun _ _ _ => .inl rfl
    skipped := fun hno hs => (h.skipped hno hs).imp_right fun hskip =>
      ⟨hskip.1, .inr (.inl rfl)⟩ }

/-- A later validate in the frame reuses the assignment of the first one. -/
theorem DisplayInv.revalidate (h : DisplayInv f u e) (hu : ¬ u)
    (hi : e.ignored = false)
    (hn : e.validateFlag = true → e.needSkipValidatePresent = false) :
    DisplayInv f u { e with needSkipValidatePresent := !e.validateFlag }.setValidateState := by
  have hskip : e.stale = true → e.type = .external ∧ e.isSkipFrame = true ∨
      (!e.validateFlag) = true := by
    intro hs
    cases hv : e.validateFlag
    · exact .inr rfl
    · rcases h.validated hv hs with hext | hnsvp
      · exact .inl hext
      · exact absurd (hnsvp.symm.trans (hn hv)) (by decide)
  exact { h with
    validated := fun _ => hskip
    armed := fun _ hs => (hskip hs).imp_right fun hv => .inr (.inl hv)
    consumed := fun _ => hu
    waiting := fun hu' => absurd hu' hu
    idle := fun _ hplug => by simp [Display.ignored, show e.plugState = false from hplug] at hi
    skipped := fun _ hs => .inr ⟨hi, (hskip hs).elim (fun hext => .inr (.inr hext))
      fun hv => .inr (.inl hv)⟩ }

theorem acceptDisplayChanges_cases (e : Display) : e.acceptDisplayChanges = e ∨
    e.renderingState = .validated ∧ e.acceptDisplayChanges =
      { e with renderingState := .acceptedChange, hwcRenderingState := .acceptedChange } := by
  by_cases hv : e.renderingState = .validated
  · exact .inr ⟨hv, by simp [Display.acceptDisplayChanges, hv]⟩
  · exact .inl (by simp [Display.acceptDisplayChanges, hv])

theorem DisplayInv.acceptDisplayChanges (h : DisplayInv f u e) :
    DisplayInv f u e.acceptDisplayChanges := by
  rcases acceptDisplayChanges_cases e with heq | ⟨hv, heq⟩
  · rw [heq]
    exact h
  · have ha : e.armed = true := by simp [Display.armed, hv]
    rw [heq]
    exact { h with
      armed := fun _ hs => h.armed ha hs
      waiting := fun hu _ => h.waiting hu ha
      idle := fun ht hplug _ => h.idle ht hplug ha }

/-- A display that is done with the frame. -/
theorem DisplayInv.disarm (h : DisplayInv f u e) (presentFlag : Bool) {r : RenderingState}
    (hr : r = .none ∨ r = .presented) :
    DisplayInv f u { e with renderingState := r, presentFlag := presentFlag } := by
  have ha : Display.armed { e with renderingState := r, presentFlag := presentFlag } = false := by
    rcases hr with rfl | rfl <;> rfl
  exact { h with
    armed := fun ha' => absurd (ha'.symm.trans ha) (by decide)
    waiting := fun _ ha' => absurd (ha'.symm.trans ha) (by decide)
    idle := fun _ _ ha' => absurd (ha'.symm.trans ha) (by decide) }

theorem DisplayInv.skipPresent (h : DisplayInv f u e) :
    DisplayInv f u { e with needSkipValidatePresent := true } :=
  { h with
    validated := fun _ _ => .inr rfl
    armed := fun _ _ => .inr (.inr (.inl rfl))
    waiting := fun _ _ => .inr rfl
    idle := fun _ _ _ => .inl rfl
    skipped := fun hno hs => (h.skipped hno hs).imp_right fun hskip => ⟨hskip.1, .inr (.inl rfl)⟩ }

theorem DisplayInv.afterDroppedFrame (h : DisplayInv f u e) :
    DisplayInv f u e.afterDroppedFrame := by
  simp only [Display.afterDroppedFrame]
  split
  · exact h
  · exact h.disarm e.presentFlag (.inl rfl)
  · rename_i htype
    exact { h with
      validated := fun hv hs => (h.validated hv hs).imp_left fun hext => by simp [htype] at hext
      armed := fun ha hs => (h.armed ha hs).imp_left fun hext => by simp [htype] at hext
      skipped := fun hno hs => (h.skipped hno hs).imp_right fun hskip =>
        ⟨hskip.1, hskip.2.imp_right fun hrest => hrest.imp_right fun hext => by
          simp [htype] at hext⟩
      primary := fun hprimary => by simp [htype] at hprimary }

/-- A switch that sets no flag, between panel modes that are not off. -/
theorem DisplayInv.doze {mode : PowerMode} (h : DisplayInv f u e)
    (htype : e.type = .primary) (hv : e.validateFlag = false) (ha : e.armed = false)
    (hold : e.powerModeState ≠ .off) (hnew : mode ≠ .off) :
    DisplayInv f u { e with powerModeState := mode } := by
  have hg : ¬ e.Guarded := by simpa [Display.Guarded, htype] using hold
  have hplug : e.plugState = true := (h.primary htype).1
  exact {
    flagged := fun hs => .inl ((h.flagged hs).resolve_right hg)
    validated := fun hv' => absurd (hv'.symm.trans hv) (by decide)
    armed := fun ha' => absurd (ha'.symm.trans ha) (by decide)
    consumed := fun hv' => absurd (hv'.symm.trans hv) (by decide)
    waiting := fun _ ha' => absurd (ha'.symm.trans ha) (by decide)
    idle := fun hext => by simp [htype] at hext
    skipped := fun hu hs => by
      refine .inr ⟨?_, ((h.skipped hu hs).resolve_left hg).2⟩
      simp [Display.ignored, htype, hnew, hplug]
    detached := fun _ hd => by simp [Display.detached, htype] at hd
    blanked := h.blanked
    primary := h.primary }

theorem DisplayInv.cable (h : DisplayInv f u e) {hpdStatus : Bool} :
    DisplayInv f u { e with hpdStatus := hpdStatus } :=
  { h with }

theorem unavailable_iff (e : Display) : e.unavailable = true ↔
    e.plugState = false ∨ e.isFrameSkipPowerState = true := by
  simp [Display.unavailable]

/-- An external display that is plugged in shows start frames first. -/
theorem DisplayInv.plugIn (h : DisplayInv f u e) (ht : e.type = .external) :
    DisplayInv f u { e with hpdStatus := true, skipStartFrame := 0, plugState := true } := by
  have hg : Display.Guarded { e with hpdStatus := true, skipStartFrame := 0, plugState := true } := by
    simp [Display.Guarded, ht, SKIP_EXTERNAL_FRAME]
  have hpower : e.isFrameSkipPowerState = true → (Display.unavailable
      { e with hpdStatus := true, skipStartFrame := 0, plugState := true }) = true :=
    fun hpower => (unavailable_iff _).mpr (.inr hpower)
  have hu : e.armed = true → e.unavailable = true → e.needSkipValidatePresent = true ∨
      (Display.unavailable
        { e with hpdStatus := true, skipStartFrame := 0, plugState := true }) = true := by
    intro ha hu
    rcases (unavailable_iff e).mp hu with hplug | hoff
    · exact (h.idle ht hplug ha).imp_right hpower
    · exact .inr (hpower hoff)
  exact { h with
    flagged := fun _ => .inr hg
    armed := fun ha hs => (h.armed ha hs).imp_right fun h => h.imp_right fun h =>
      h.elim .inl (hu ha)
    waiting := fun hun ha => (h.waiting hun ha).elim (fun h => (hu ha h).symm) .inr
    idle := fun _ hplug => by cases hplug
    skipped := fun _ _ => .inl hg
    detached := fun _ hd => by simp [Display.detached] at hd
    primary := fun hprimary => by simp [ht] at hprimary }

/-- An external display without power is carried over by the power-on flag. -/
theorem DisplayInv.powerless {e' : Display} (h : DisplayInv f u e) (ht : e'.type = .external)
    (hoff : e'.powerModeState = .off) (hb : e'.blanked = false)
    (hstale : e'.stale = e.stale)
    (hv : e'.validateFlag = e.validateFlag)
    (hs : e.type = .external ∧ e.isSkipFrame = true ∨ e.needSkipValidatePresent = true →
      e'.type = .external ∧ e'.isSkipFrame = true ∨ e'.needSkipValidatePresent = true) :
    DisplayInv f u e' := by
  have hg : e'.Guarded := by simp [Display.Guarded, ht, hoff]
  have hu : e'.unavailable = true := by
    simp [Display.unavailable, Display.isFrameSkipPowerState, hoff]
  exact {
    flagged := fun _ => .inr hg
    validated := fun hv' hs' => hs (h.validated (hv ▸ hv') (hstale ▸ hs'))
    armed := fun _ _ => .inr (.inr (.inr hu))
    consumed := fun hv' => h.consumed (hv ▸ hv')
    waiting := fun _ _ => .inl hu
    idle := fun _ _ _ => .inr (by simp [Display.isFrameSkipPowerState, hoff])
    skipped := fun _ _ => .inl hg
    detached := fun _ hd => by simp [Display.detached, ht] at hd
    blanked := hb
    primary := fun hprimary => by simp [ht] at hprimary }

theorem Guarded.virtual (hg : e.Guarded) (ht : e.type = .virtual) :
    e.skipFrameCount > 0 ∨ e.useDpu = true := by
  simp only [Display.Guarded, ht] at hg
  exact hg.imp_right And.left

/-- A virtual display that goes away is carried over by the frames it has to skip. -/
theorem DisplayInv.unplugVirtual (h : DisplayInv f u e) (ht : e.type = .virtual)
    (hcarry : e.stale = true → e.skipFrameCount > 0 ∨ e.useDpu = true) :
    DisplayInv f u { e with plugState := false, powerModeState := .off } := by
  have hg : e.stale = true → Display.Guarded { e with plugState := false, powerModeState := .off } := by
    intro hs
    simp only [Display.Guarded, ht, and_true]
    exact hcarry hs
  have hu : Display.unavailable { e with plugState := false, powerModeState := .off } = true := rfl
  exact { h with
    flagged := fun hs => .inr (hg hs)
    armed := fun _ _ => .inr (.inr (.inr hu))
    waiting := fun _ _ => .inl hu
    idle := fun hext => by simp [ht] at hext
    skipped := fun _ hs => .inl (hg hs)
    detached := fun hs hd => (hcarry hs).resolve_right fun hdpu => by
      simp [Display.detached, hdpu] at hd
    primary := fun hprimary => by simp [ht] at hprimary }

/-- A virtual display that is created. -/
theorem DisplayInv.plugVirtual (h : DisplayInv f u e) (ht : e.type = .virtual) (count : Nat)
    (first : Bool) (hcount : e.skipFrameCount > 0 ∨ e.useDpu = true → count > 0) :
    DisplayInv f u { e.initDisplay with
      plugState := true
      skipFrameCount := count
      isFirstFrameDisplayed := first
      powerModeState := .on } := by
  have hg : e.Guarded → Display.Guarded { e.initDisplay with
      plugState := true
      skipFrameCount := count
      isFirstFrameDisplayed := first
      powerModeState := .on } := by
    intro hg
    simp only [Display.Guarded, Display.initDisplay, ht]
    exact .inl (hcount (Guarded.virtual hg ht))
  exact { h with
    flagged := fun hs => (h.flagged hs).imp_right hg
    armed := fun ha => by cases ha
    waiting := fun _ ha => by cases ha
    idle := fun _ hplug => by cases hplug
    skipped := fun hu hs => (h.skipped hu hs).imp hg fun hskip => by
      refine ⟨?_, hskip.2⟩
      simp [Display.ignored, Display.initDisplay, ht]
    detached := fun _ hd => by simp [Display.detached] at hd
    primary := fun hprimary => by simp [Display.initDisplay, ht] at hprimary }

end Displays

/-! ### Elementary steps -/

namespace Device

section Elementary

variable {n : Nat} {s : Device n} {d : Fin n} {f : Display → Display} {b : Nat}

@[simp] theorem update_display (i : Fin n) :
    (s.update d f).display i = if i = d then f (s.display i) else s.display i := rfl

@[simp] theorem update_geometryChanged : (s.update d f).geometryChanged = s.geometryChanged := rfl

@[simp] theorem update_unconsumed : (s.update d f).unconsumed = s.unconsumed := rfl

@[simp] theorem setGeometryChanged_display : (s.setGeometryChanged b).display = s.display := rfl

@[simp] theorem setGeometryChanged_unconsumed :
    (s.setGeometryChanged b).unconsumed = s.unconsumed := rfl

theorem setGeometryChanged_mono (h : s.geometryChanged ≠ 0) :
    (s.setGeometryChanged b).geometryChanged ≠ 0 := by
  have hle : s.geometryChanged ≤ s.geometryChanged ||| b := Nat.left_le_or
  simp only [setGeometryChanged]
  omega

theorem setGeometryChanged_of_bit (h : b ≠ 0) : (s.setGeometryChanged b).geometryChanged ≠ 0 := by
  have hle : b ≤ s.geometryChanged ||| b := Nat.right_le_or
  simp only [setGeometryChanged]
  omega

theorem InvUpTo.mono {p q : Prop} (h : InvUpTo p s) (hpq : p → q) : InvUpTo q s :=
  ⟨fun hu => hpq (h.noLoss hu), fun i => (h.display i).mono hpq⟩

theorem InvUpTo.update {p : Prop} (h : InvUpTo p s)
    (hd : DisplayInv p (s.unconsumed = true) (f (s.display d))) : InvUpTo p (s.update d f) := by
  refine ⟨h.noLoss, fun i => ?_⟩
  by_cases hi : i = d
  · simpa [hi] using hd
  · simpa [hi] using h.display i

theorem Inv.update (h : Inv s)
    (hd : DisplayInv (s.geometryChanged ≠ 0) (s.unconsumed = true) (f (s.display d))) :
    Inv (s.update d f) := InvUpTo.update h hd

theorem Inv.setGeometryChanged (h : Inv s) : Inv (s.setGeometryChanged b) :=
  ⟨fun hu => setGeometryChanged_mono (h.noLoss hu),
    fun i => (h.display i).mono setGeometryChanged_mono⟩

/-- Setting a flag pays for everything that a cleared one has left open. -/
theorem InvUpTo.setGeometryChanged {p : Prop} (h : InvUpTo p s) (hb : b ≠ 0) :
    Inv (s.setGeometryChanged b) :=
  ⟨fun _ => setGeometryChanged_of_bit hb,
    fun i => (h.display i).mono fun _ => setGeometryChanged_of_bit hb⟩

/-- A geometry-changing call between two frames. -/
theorem changeDisplay_inv (hs : ∀ i, Standing (s.display i)) (hclosed : s.FrameClosed)
    (hdet : (s.display d).detached = false) (hb : b ≠ 0) : Inv (s.changeDisplay d b) := by
  have hflag : (s.setGeometryChanged b).geometryChanged ≠ 0 := setGeometryChanged_of_bit hb
  rw [changeDisplay, if_neg hb]
  refine ⟨fun _ => hflag, fun i => ?_⟩
  obtain ⟨hv, ha⟩ := hclosed i
  simp only [update_display, setGeometryChanged_display]
  split
  · rename_i heq
    subst heq
    exact ((hs i).stale hdet).of_closed hv ha hflag trivial
  · exact (hs i).of_closed hv ha hflag trivial

/-- A change of the device between two frames. -/
theorem Inv.changeDevice (h : Inv s) (hclosed : b ≠ 0 → s.FrameClosed) :
    Inv (s.changeDevice b) := by
  simp only [Device.changeDevice]
  split
  · exact h
  · rename_i hb
    have hflag : (s.setGeometryChanged b).geometryChanged ≠ 0 := setGeometryChanged_of_bit hb
    refine ⟨fun _ => hflag, fun i => ?_⟩
    obtain ⟨hv, ha⟩ := hclosed hb i
    exact (h.display i).toStanding.of_closed hv ha hflag rfl

theorem Inv.handleVsyncPeriodChangeInternal (h : Inv s) {vsyncPeriodChanged : Bool}
    (hclosed : s.FrameClosed ∨ vsyncPeriodChanged = false) :
    Inv (s.handleVsyncPeriodChangeInternal vsyncPeriodChanged) := by
  apply h.changeDevice
  intro hb
  rcases hclosed with hclosed | hno
  · exact hclosed
  · simp [hno] at hb

theorem Init.inv (h : Init s) : Inv s where
  noLoss hu := by simp [h.unconsumed] at hu
  display i := {
    toStanding := h.standing i
    flagged := fun hs => by simp [h.stale i] at hs
    validated := fun _ hs => by simp [h.stale i] at hs
    armed := fun _ hs => by simp [h.stale i] at hs
    consumed := fun hv => by simp [h.validateFlag i] at hv
    waiting := fun hu => by simp [h.unconsumed] at hu
    idle := fun ht hplug _ =>
      .inr (by simp [Display.isFrameSkipPowerState, h.unplugged i ht hplug])
    skipped := fun _ hs => by simp [h.stale i] at hs }

end Elementary

/-! ### The end of a frame -/

section Finish

variable {n : Nat} {s : Device n} {env : Env n} {d : Fin n}

theorem finishFrame_flagged (h : s.skippedFrame = true) :
    (s.finishFrame env).geometryChanged ≠ 0 := by
  apply setGeometryChanged_mono
  simp only [Device.clearRenderingStateFlags, setGeometryFlagForNextFrame]
  apply setGeometryChanged_of_bit
  have hskip : skippedFrame { s with geometryChanged := 0 } = true := h
  rw [if_pos hskip]
  intro h0
  have hle := h0 ▸ Nat.left_le_or (n := GEOMETRY_DISPLAY_FRAME_SKIPPED)
  exact absurd hle (by decide)

theorem finishFrame_display (i : Fin n) : (s.finishFrame env).display i =
    { s.display i with
      validateFlag := false
      presentFlag := false
      workingVsyncChanged :=
        if (s.display i).ignored then (s.display i).workingVsyncChanged else false } := by
  simp only [Device.finishFrame, setGeometryChanged_display, Device.clearRenderingStateFlags,
    setGeometryFlagForNextFrame, Display.clearRenderingStateFlags]
  split <;> simp_all

/-- **The last present.**  Clearing the flags keeps the invariant up to `p`, if the
    flags for the next frame imply `p` and so does a change that is waiting. -/
theorem Inv.finishFrame (h : Inv s) {p : Prop}
    (hlost : s.unconsumed = true → p) (hflag : (s.finishFrame env).geometryChanged ≠ 0 → p) :
    InvUpTo p (s.finishFrame env) := by
  refine ⟨hlost, fun i => ?_⟩
  have hi := h.display i
  generalize he : (s.finishFrame env).display i = e'
  have hsame := he.symm.trans (finishFrame_display i)
  have hstale : e'.stale = true → p ∨ e'.Guarded := by
    intro hs
    rw [hsame] at hs
    by_cases hu : s.unconsumed = true
    · exact .inl (hlost hu)
    · rcases hi.skipped hu hs with hg | hskip
      · right
        rw [hsame]
        exact hg
      · left
        apply hflag
        apply finishFrame_flagged
        simp only [skippedFrame, decide_eq_true_eq]
        obtain ⟨hignored, hskip⟩ := hskip
        refine ⟨i, hignored, ?_⟩
        rcases hskip with hp | hv | ⟨-, hf⟩
        · exact .inr (.inl hp)
        · exact .inr (.inr hv)
        · exact .inl hf
  exact {
    flagged := hstale
    validated := fun hv => by rw [hsame] at hv; cases hv
    armed := by rw [hsame]; exact hi.armed
    consumed := fun hv => by rw [hsame] at hv; cases hv
    waiting := by rw [hsame]; exact hi.waiting
    skipped := by rw [hsame]; exact hi.skipped
    detached := by rw [hsame]; exact hi.detached
    idle := by rw [hsame]; exact hi.idle
    blanked := by rw [hsame]; exact hi.blanked
    primary := by rw [hsame]; exact hi.primary }

end Finish

/-! ### The loops of `validateAllDisplays` -/

section Loops

variable {n : Nat} {s : Device n} {env : Env n} {first : Fin n}

theorem descending_nodup : (descending n).Nodup :=
  List.pairwise_reverse.mpr ((List.nodup_finRange n).imp Ne.symm)

theorem mem_descending (i : Fin n) : i ∈ descending n :=
  List.mem_reverse.mpr (List.mem_finRange i)

/-- Before the first loop. -/
structure ToPrepare (u : Prop) (first : Fin n) (s : Device n) (i : Fin n) : Prop where
  inv : DisplayInv (s.geometryChanged ≠ 0) u (s.display i)
  first : i = first → (s.display i).ignored = false

/-- What the first loop leaves in a display that takes part. -/
structure Ready (flagged : Prop) (e : Display) : Prop where
  ignored : e.ignored = false
  flagged : e.stale = true → flagged
  isSkipFrame : e.isSkipFrame = true → e.type = .external
  blanked : e.blanked = false

theorem Ready.mono {f f' : Prop} {e : Display} (h : Ready f e) (hf : f → f') : Ready f' e :=
  { h with flagged := fun hs => hf (h.flagged hs) }

/-- Between the loops. -/
def Prepared (u : Prop) (first : Fin n) (s : Device n) (i : Fin n) : Prop :=
  (s.skipDisplay first i = true ∧
      DisplayInv (s.geometryChanged ≠ 0) u (s.display i)) ∨
    (s.skipDisplay first i = false ∧ Ready (s.geometryChanged ≠ 0) (s.display i))

theorem skipDisplay_congr {s s' : Device n} {i : Fin n} (h : s'.display i = s.display i) :
    s'.skipDisplay first i = s.skipDisplay first i := by
  simp only [skipDisplay, h]

theorem Prepared.mono {u : Prop} {s' : Device n} {i : Fin n} (h : Prepared u first s i)
    (hf : s.geometryChanged ≠ 0 → s'.geometryChanged ≠ 0) (hi : s'.display i = s.display i) :
    Prepared u first s' i := by
  have hskip' : s'.skipDisplay first i = s.skipDisplay first i := skipDisplay_congr hi
  rcases h with ⟨hskip, hinv⟩ | ⟨hskip, hready⟩
  · exact .inl ⟨hskip'.trans hskip, hi ▸ hinv.mono hf⟩
  · exact .inr ⟨hskip'.trans hskip, hi ▸ hready.mono hf⟩

theorem or_ne_zero_left {a : Nat} (h : a ≠ 0) (b : Nat) : a ||| b ≠ 0 := by
  have hle : a ≤ a ||| b := Nat.left_le_or
  omega

/-- A guarded display that takes part sets its flag in the first loop. -/
theorem preProcessValidate_flagged {e : Display} (hi : e.ignored = false) (hg : e.Guarded)
    (bits : Nat) : (e.preProcessValidate bits).1 ≠ 0 := by
  simp only [Display.ignored, Bool.or_eq_false_iff] at hi
  obtain ⟨⟨hpower, hplug⟩, -⟩ := hi
  simp only [Bool.not_eq_eq_eq_not, Bool.not_false] at hplug
  cases ht : e.type
  case primary => simp_all [Display.Guarded]
  case external =>
    have hadded : GEOMETRY_DEVICE_DISPLAY_ADDED ≠ 0 := by decide
    have hstart : e.skipStartFrame < SKIP_EXTERNAL_FRAME := by
      rcases (by simpa [Display.Guarded, ht] using hg) with hoff | hstart | hunplugged
      · simp [ht, hoff] at hpower
      · exact hstart
      · exact absurd (hunplugged.symm.trans hplug) (by decide)
    simp only [Display.preProcessValidate, ht, hplug, hstart, if_true, Display.initDisplay,
      Bool.not_true, Bool.false_eq_true, if_false]
    exact or_ne_zero_left hadded bits
  case virtual =>
    have hskipped : GEOMETRY_DISPLAY_FRAME_SKIPPED ≠ 0 := by decide
    have hcount : e.skipFrameCount > 0 := by
      rcases (by simpa [Display.Guarded, ht] using hg) with hcount | ⟨-, hunplugged⟩
      · exact hcount
      · simp [hplug] at hunplugged
    simp only [Display.preProcessValidate, ht, hcount, if_true]
    exact or_ne_zero_left hskipped bits

/-- What the first loop leaves alone in a display that is plugged in. -/
theorem preProcessValidate_same (e : Display) (bits : Nat) (hplug : e.plugState = true) :
    let e' := (e.preProcessValidate bits).2
    e'.ignored = e.ignored ∧ e'.stale = e.stale ∧ e'.type = e.type ∧ e'.blanked = e.blanked ∧
      e'.presentFlag = e.presentFlag ∧
      (e.needSkipPresent = false → e'.needSkipPresent = false) ∧
      (e'.isSkipFrame = true → e.type = .external ∨ e.isSkipFrame = true ∧ e.type = .primary) := by
  rcases e with ⟨type, useDpu, powerModeState, plugState⟩
  subst hplug
  cases type
  case primary => simp [Display.preProcessValidate, Display.ignored]
  case external =>
    simp only [Display.preProcessValidate]
    split <;> simp [Display.ignored, Display.initDisplay]
  case virtual => simp [Display.preProcessValidate, Display.ignored]

theorem plugState_of_not_ignored {e : Display} (hi : e.ignored = false) : e.plugState = true := by
  simp only [Display.ignored, Bool.or_eq_false_iff] at hi
  simpa using hi.1.2

theorem ready_of_preProcess {f f' u : Prop} {e : Display} (h : DisplayInv f u e)
    (hi : e.ignored = false) (bits : Nat) (hf : f → f')
    (hbit : ({ e with needSkipValidatePresent := false }.preProcessValidate bits).1 ≠ 0 → f') :
    Ready f' ({ e with needSkipValidatePresent := false }.preProcessValidate bits).2 := by
  have hplug : e.plugState = true := plugState_of_not_ignored hi
  obtain ⟨hignored, hstale, htype, hblanked, -, -, hskip⟩ :=
    preProcessValidate_same { e with needSkipValidatePresent := false } bits hplug
  refine ⟨hignored.trans hi, fun hs => ?_, fun hs => ?_, hblanked.trans h.blanked⟩
  · rcases h.flagged (hstale.symm.trans hs) with hflag | hg
    · exact hf hflag
    · exact hbit (preProcessValidate_flagged (e := { e with needSkipValidatePresent := false })
        hi hg bits)
  · rw [htype]
    rcases hskip hs with hext | ⟨hframe, hprimary⟩
    · exact hext
    · have hno : e.isSkipFrame = false := (h.primary hprimary).2
      exact absurd (hframe.symm.trans hno) (by decide)

theorem preProcess_flags (i : Fin n) :
    (s.geometryChanged ≠ 0 → (preProcess env first s i).geometryChanged ≠ 0) ∧
      (preProcess env first s i).unconsumed = s.unconsumed := by
  simp only [preProcess]
  split
  · exact ⟨id, rfl⟩
  · exact ⟨fun h => setGeometryChanged_mono h, rfl⟩

theorem preProcess_other {i j : Fin n} (h : j ≠ i) :
    (preProcess env first s i).display j = s.display j := by
  simp only [preProcess]
  split
  · rfl
  · simp [h]

theorem skipDisplay_of_ready {e : Display} {i : Fin n} (he : s.display i = e)
    (hi : e.ignored = false) (hsame : i = first ∨ e.needSkipPresent = false ∨
      e.presentFlag = false) : s.skipDisplay first i = false := by
  simp only [skipDisplay, he]
  split
  · rfl
  · rename_i hne
    rcases hsame with h | h | h
    · exact absurd h hne
    · simp [hi, h]
    · simp [hi, h]

/-- The first loop. -/
theorem preProcess_loop {u : Prop} (h : ∀ i, ToPrepare u first s i) (i : Fin n) :
    Prepared u first ((descending n).foldl (preProcess env first) s) i := by
  have hbody : ∀ s i, ToPrepare u first s i → Prepared u first (preProcess env first s i) i := by
    intro s i hi
    by_cases hskip : s.skipDisplay first i = true
    · have hsame : preProcess env first s i = s := by simp [preProcess, hskip]
      rw [hsame]
      exact .inl ⟨hskip, hi.inv⟩
    · right
      have hkeep : (s.display i).ignored = false := by
        by_cases hf : i = first
        · exact hi.first hf
        · simp only [skipDisplay, hf, if_false, Bool.or_eq_true, not_or] at hskip
          simpa using hskip.1
      have hdisplay : (preProcess env first s i).display i =
          ({ s.display i with needSkipValidatePresent := false }.preProcessValidate
            (env.preProcessing i)).2 := by
        simp [preProcess, hskip]
      have hready : Ready ((preProcess env first s i).geometryChanged ≠ 0)
          ((preProcess env first s i).display i) := by
        rw [hdisplay]
        refine ready_of_preProcess hi.inv hkeep _ (preProcess_flags i).1 fun hbit => ?_
        simp only [preProcess, hskip, Bool.false_eq_true, if_false, update_geometryChanged]
        exact setGeometryChanged_of_bit hbit
      refine ⟨skipDisplay_of_ready rfl hready.ignored ?_, hready⟩
      by_cases hf : i = first
      · exact .inl hf
      · simp only [skipDisplay, hf, if_false, hkeep, Bool.false_or, Bool.and_eq_true,
          not_and, Bool.not_eq_true] at hskip
        have hsame := preProcessValidate_same
          { s.display i with needSkipValidatePresent := false } (env.preProcessing i)
          (plugState_of_not_ignored hkeep)
        obtain ⟨-, -, -, -, hpresent, hpending, -⟩ := hsame
        rw [hdisplay]
        by_cases hp : (s.display i).needSkipPresent = true
        · exact .inr (.inr (hpresent.trans (hskip hp)))
        · exact .inr (.inl (hpending (by simpa using hp)))
  have hbefore : ∀ s i j, j ≠ i → ToPrepare u first s i → ToPrepare u first s j →
      ToPrepare u first (preProcess env first s i) j := by
    intro s i j hj _ hother
    have hsame : (preProcess env first s i).display j = s.display j := preProcess_other hj
    exact ⟨hsame ▸ hother.inv.mono (preProcess_flags i).1, hsame ▸ hother.first⟩
  have hafter : ∀ s i j, j ≠ i → ToPrepare u first s i → Prepared u first s j →
      Prepared u first (preProcess env first s i) j :=
    fun s i j hj _ hother => hother.mono (preProcess_flags i).1 (preProcess_other hj)
  exact foldl_each hbody hbefore hafter descending_nodup (fun j _ => h j)
    (fun j hj => absurd (mem_descending j) hj) i

theorem preProcess_loop_unconsumed (s : Device n) :
    ((descending n).foldl (preProcess env first) s).unconsumed = s.unconsumed :=
  foldl_keeps (P := fun s' : Device n => s'.unconsumed = s.unconsumed)
    (fun _ i h => (preProcess_flags i).2.trans h) _ rfl

/-- A display left out of a validation needs no assignment from it. -/
theorem displayInv_of_skipDisplay {f u : Prop} {i : Fin n} (h : DisplayInv f u (s.display i))
    (hskip : s.skipDisplay first i = true) : DisplayInv f False (s.display i) := by
  refine { h with consumed := fun _ => id, waiting := False.elim, skipped := fun _ hs => ?_ }
  by_cases hi : (s.display i).ignored = true
  · exact .inl (h.guarded_of_ignored hs hi)
  · right
    simp only [skipDisplay] at hskip
    split at hskip
    · cases hskip
    · simp only [hi, Bool.false_or, Bool.and_eq_true] at hskip
      exact ⟨by simpa using hi, .inl hskip.1⟩

/-- What the second loop leaves alone in a display that takes part. -/
structure KeepsPlace (e e' : Display) : Prop where
  ignored : e'.ignored = e.ignored
  type : e'.type = e.type
  plugState : e'.plugState = e.plugState
  blanked : e'.blanked = e.blanked
  isSkipFrame : e.type ≠ .virtual → e'.isSkipFrame = e.isSkipFrame
  stale : e'.stale = true → e.stale = true

theorem KeepsPlace.refl (e : Display) : KeepsPlace e e :=
  ⟨rfl, rfl, rfl, rfl, fun _ => rfl, id⟩

theorem KeepsPlace.trans {e e' e'' : Display} (h : KeepsPlace e e') (h' : KeepsPlace e' e'') :
    KeepsPlace e e'' where
  ignored := h'.ignored.trans h.ignored
  type := h'.type.trans h.type
  plugState := h'.plugState.trans h.plugState
  blanked := h'.blanked.trans h.blanked
  isSkipFrame hv := (h'.isSkipFrame (h.type ▸ hv)).trans (h.isSkipFrame hv)
  stale hs := h.stale (h'.stale hs)

theorem postProcessValidate_keeps (e : Display) (wfdSkipFrame : Bool) :
    KeepsPlace e (e.postProcessValidate wfdSkipFrame) := by
  rcases e with ⟨type⟩
  cases type
  case primary => exact KeepsPlace.refl _
  case external =>
    simp only [Display.postProcessValidate, Display.initDisplay]
    split <;> exact ⟨rfl, rfl, rfl, rfl, fun _ => rfl, id⟩
  case virtual =>
    simp only [Display.postProcessValidate]
    split <;> exact ⟨rfl, rfl, rfl, rfl, fun hv => absurd rfl hv, id⟩

theorem setValidateState_keeps (e : Display) : KeepsPlace e e.setValidateState :=
  ⟨rfl, rfl, rfl, rfl, fun _ => rfl, id⟩

theorem assigned_keeps (e : Display) : KeepsPlace e { e with stale := false } :=
  ⟨rfl, rfl, rfl, rfl, fun _ => rfl, fun h => by cases h⟩

/-- A display that was ready keeps the invariant when it is validated. -/
theorem Ready.validated {f f' : Prop} {e e' : Display} (h : Ready f e) (hf : f → f')
    (hk : KeepsPlace e e') (hstale : e'.stale = true → f → e.isSkipFrame = true) :
    DisplayInv f' False e' := by
  have hflagged : e'.stale = true → f := fun hs => h.flagged (hk.stale hs)
  have hexternal : e'.stale = true → e'.type = .external ∧ e'.isSkipFrame = true := by
    intro hs
    have hskip : e.isSkipFrame = true := hstale hs (hflagged hs)
    have htype : e.type = .external := h.isSkipFrame hskip
    exact ⟨hk.type.trans htype, (hk.isSkipFrame (by simp [htype])).trans hskip⟩
  have hplug : e'.plugState = true := hk.plugState.trans (plugState_of_not_ignored h.ignored)
  exact {
    flagged := fun hs => .inl (hf (hflagged hs))
    validated := fun _ hs => .inl (hexternal hs)
    armed := fun _ hs => .inl (hexternal hs)
    consumed := fun _ => id
    waiting := False.elim
    skipped := fun _ hs => .inr ⟨hk.ignored.trans h.ignored, .inr (.inr (hexternal hs))⟩
    detached := fun _ hd => by simp [Display.detached, hplug] at hd
    idle := fun _ hp => absurd (hp.symm.trans hplug) (by decide)
    blanked := hk.blanked.trans h.blanked
    primary := fun htype => by
      refine ⟨hplug, ?_⟩
      have he : e.type = .primary := hk.type.symm.trans htype
      rw [hk.isSkipFrame (by simp [he])]
      cases hskip : e.isSkipFrame
      · rfl
      · simp [h.isSkipFrame hskip] at he }

/-- A part of the second loop at display `i`. -/
structure Touches (i : Fin n) (s s' : Device n) : Prop where
  flagged : s.geometryChanged ≠ 0 → s'.geometryChanged ≠ 0
  unconsumed : s'.unconsumed = s.unconsumed
  other : ∀ j, j ≠ i → s'.display j = s.display j
  keeps : KeepsPlace (s.display i) (s'.display i)

section Parts

variable {i : Fin n} {s' s'' : Device n}

theorem Touches.refl (i : Fin n) (s : Device n) : Touches i s s :=
  ⟨id, rfl, fun _ _ => rfl, KeepsPlace.refl _⟩

theorem Touches.trans (h : Touches i s s') (h' : Touches i s' s'') : Touches i s s'' where
  flagged hs := h'.flagged (h.flagged hs)
  unconsumed := h'.unconsumed.trans h.unconsumed
  other j hj := (h'.other j hj).trans (h.other j hj)
  keeps := h.keeps.trans h'.keeps

theorem Touches.setGeometryChanged (i : Fin n) (s : Device n) (b : Nat) :
    Touches i s (s.setGeometryChanged b) :=
  ⟨setGeometryChanged_mono, rfl, fun _ _ => rfl, KeepsPlace.refl _⟩

theorem Touches.update {f : Display → Display} (hf : KeepsPlace (s.display i) (f (s.display i))) :
    Touches i s (s.update i f) :=
  ⟨id, rfl, fun j hj => by simp [hj], by simpa using hf⟩

theorem Touches.ite {c : Prop} [Decidable c] (h : Touches i s s') (h' : Touches i s s'') :
    Touches i s (if c then s' else s'') := by
  split
  · exact h
  · exact h'

end Parts

variable (env) in
/-- The second loop at a display that takes part. -/
theorem validateOne_touches {i : Fin n} (hskip : s.skipDisplay first i = false) :
    Touches i s (validateOne env first s i) ∧
      (((validateOne env first s i).display i).stale = true → s.geometryChanged ≠ 0 →
        (s.display i).isSkipFrame = true) := by
  have hassigned : ∀ s : Device n, Touches i s (s.update i fun e => { e with stale := false }) :=
    fun s => .update (assigned_keeps _)
  simp only [validateOne, hskip, Bool.false_eq_true, if_false]
  generalize (if (if s.geometryChanged ≠ 0 ∧ (s.display i).isSkipFrame = false then
    env.assignResource i else NO_ERROR) = NO_ERROR then env.deliverPerformanceInfo i else
    (if s.geometryChanged ≠ 0 ∧ (s.display i).isSkipFrame = false then
      env.assignResource i else NO_ERROR)) = displayRet
  generalize hs₁ : (if s.geometryChanged ≠ 0 ∧ (s.display i).isSkipFrame = false then
    s.update i fun e => { e with stale := false } else s) = s₁
  have h₁ : Touches i s s₁ := hs₁ ▸ (hassigned s).ite (.refl i s)
  generalize hs₂ : (if displayRet = NO_ERROR then
    s₁.update i (·.postProcessValidate (env.wfdSkipFrame i)) else s₁) = s₂
  have h₂ : Touches i s₁ s₂ := by
    rw [← hs₂]
    exact (Touches.update (postProcessValidate_keeps _ _)).ite (.refl i s₁)
  generalize (if displayRet = NO_ERROR then env.postProcessValidate i else displayRet) = displayRet₂
  generalize hs₃ : (if displayRet₂ = NO_ERROR then s₂ else
    (s₂.setGeometryChanged GEOMETRY_ERROR_CASE).update i fun e => { e with stale := false }) = s₃
  have h₃ : Touches i s₂ s₃ := by
    rw [← hs₃]
    exact (Touches.refl i s₂).ite ((Touches.setGeometryChanged i s₂ _).trans (hassigned _))
  have h₄ : Touches i s₃ (s₃.update i Display.setValidateState) :=
    .update (setValidateState_keeps _)
  have hrest := ((h₂.trans h₃).trans h₄).trans
    ((Touches.setGeometryChanged i (s₃.update i Display.setValidateState)
      GEOMETRY_ERROR_CASE).ite (c := (env.changedTypes i).1 ≠ NO_ERROR) (.refl i _))
  refine ⟨h₁.trans hrest, fun hstale hflag => ?_⟩
  have hstale₁ : (s₁.display i).stale = true := hrest.keeps.stale hstale
  by_cases hframe : (s.display i).isSkipFrame = true
  · exact hframe
  · rw [← hs₁, if_pos ⟨hflag, by simpa using hframe⟩] at hstale₁
    simp at hstale₁

theorem validateOne_skipped {i : Fin n} (hskip : s.skipDisplay first i = true) :
    validateOne env first s i = s := by
  simp [validateOne, hskip]

variable (env first) in
/-- At the index it visits and at every other one the second loop adds flags only. -/
theorem validateOne_other (i : Fin n) :
    (s.geometryChanged ≠ 0 → (validateOne env first s i).geometryChanged ≠ 0) ∧
      (validateOne env first s i).unconsumed = s.unconsumed ∧
      ∀ j, j ≠ i → (validateOne env first s i).display j = s.display j := by
  cases hskip : s.skipDisplay first i
  · have ht := (validateOne_touches env hskip).1
    exact ⟨ht.flagged, ht.unconsumed, ht.other⟩
  · rw [validateOne_skipped hskip]
    exact ⟨id, rfl, fun _ _ => rfl⟩

variable (env) in
/-- The second loop. -/
theorem validateOne_loop {u : Prop} (h : ∀ i, Prepared u first s i) (i : Fin n) :
    DisplayInv (((descending n).foldl (validateOne env first) s).geometryChanged ≠ 0) False
      (((descending n).foldl (validateOne env first) s).display i) := by
  let After (s : Device n) (i : Fin n) : Prop :=
    DisplayInv (s.geometryChanged ≠ 0) False (s.display i)
  have hbody : ∀ s i, Prepared u first s i → After (validateOne env first s i) i := by
    intro s i hi
    rcases hi with ⟨hskip, hinv⟩ | ⟨hskip, hready⟩
    · rw [validateOne_skipped hskip]
      exact displayInv_of_skipDisplay hinv hskip
    · obtain ⟨ht, hstale⟩ := validateOne_touches env hskip
      exact hready.validated ht.flagged ht.keeps hstale
  have hbefore : ∀ s i j, j ≠ i → Prepared u first s i → Prepared u first s j →
      Prepared u first (validateOne env first s i) j := by
    intro s i j hj _ hother
    obtain ⟨hmono, -, hsame⟩ := validateOne_other (s := s) env first i
    exact hother.mono hmono (hsame j hj)
  have hafter : ∀ s i j, j ≠ i → Prepared u first s i → After s j →
      After (validateOne env first s i) j := by
    intro s i j hj _ hother
    obtain ⟨hmono, -, hsame⟩ := validateOne_other (s := s) env first i
    simp only [After, hsame j hj]
    exact hother.mono hmono
  exact foldl_each hbody hbefore hafter descending_nodup (fun j _ => h j)
    (fun j hj => absurd (mem_descending j) hj) i

variable (env first) in
theorem validateOne_loop_unconsumed (s : Device n) :
    ((descending n).foldl (validateOne env first) s).unconsumed = s.unconsumed :=
  foldl_keeps (P := fun s' : Device n => s'.unconsumed = s.unconsumed)
    (fun _ i h => (validateOne_other env first i).2.1.trans h) _ rfl

end Loops

/-! ### Validate -/

section Validate

variable {n : Nat} {s : Device n} {env : Env n} {d : Fin n}

variable (env) in
theorem Inv.beforeAssignment (h : Inv s) (hd : (s.display d).ignored = false) :
    (∀ i, Prepared (s.unconsumed = true) d (s.beforeAssignment env d) i) ∧
      (s.beforeAssignment env d).unconsumed = s.unconsumed ∧
      (s.unconsumed = true → (s.beforeAssignment env d).geometryChanged ≠ 0) := by
  generalize hs₁ : (s.setGeometryChanged
    (if env.displayModeChanged then GEOMETRY_DEVICE_DISP_MODE_CHAGED else 0)).setGeometryChanged
    (if env.vsyncPeriodChanged then GEOMETRY_DEVICE_FPS_CHANGED else 0) = s₁
  have h₁ : Inv s₁ := hs₁ ▸ Inv.setGeometryChanged (Inv.setGeometryChanged h)
  have hdisplay : s₁.display = s.display := hs₁ ▸ rfl
  have hunconsumed : s₁.unconsumed = s.unconsumed := hs₁ ▸ rfl
  have hprepared : ∀ i, Prepared (s.unconsumed = true) d
      ((descending n).foldl (preProcess env d) s₁) i := by
    refine preProcess_loop fun i => ⟨?_, fun hi => ?_⟩
    · rw [← hunconsumed]
      exact h₁.display i
    · rw [hdisplay, hi]
      exact hd
  have hflags : s₁.geometryChanged ≠ 0 →
      ((descending n).foldl (preProcess env d) s₁).geometryChanged ≠ 0 :=
    foldl_keeps (P := fun s' : Device n => s'.geometryChanged ≠ 0)
      (fun s' i => (preProcess_flags i).1) _
  simp only [Device.beforeAssignment, hs₁]
  refine ⟨fun i => (hprepared i).mono (fun hf => ?_) rfl,
    (preProcess_loop_unconsumed s₁).trans hunconsumed, fun hu => ?_⟩
  · exact setGeometryChanged_mono (setGeometryChanged_mono (setGeometryChanged_mono hf))
  · have hf := hflags (h₁.noLoss (hunconsumed.trans hu))
    exact setGeometryChanged_mono (setGeometryChanged_mono (setGeometryChanged_mono hf))

/-- **The first validate of a frame** consumes every change. -/
theorem Inv.validateAllDisplays (h : Inv s) (hd : (s.display d).ignored = false)
    (hp : env.prepareResources = NO_ERROR) : Inv (s.validateAllDisplays env d).2 := by
  obtain ⟨hprepared, hunconsumed, hnoLoss⟩ := h.beforeAssignment env hd
  simp only [Device.validateAllDisplays]
  generalize s.beforeAssignment env d = s₁ at hprepared hunconsumed hnoLoss
  rw [if_neg (by simp [hp])]
  generalize hs₂ : (if s₁.geometryChanged ≠ 0 then { s₁ with unconsumed := false } else s₁) = s₂
  have hno : s₂.unconsumed = false := by
    rw [← hs₂]
    split
    · rfl
    · rename_i hflag
      cases hu : s.unconsumed
      · exact hunconsumed.trans hu
      · exact absurd (hnoLoss hu) hflag
  have hprepared₂ : ∀ i, Prepared (s.unconsumed = true) d s₂ i := by
    intro i
    refine (hprepared i).mono ?_ ?_
    · rw [← hs₂]
      split <;> exact id
    · rw [← hs₂]
      split <;> rfl
  have hafter := validateOne_loop_unconsumed env d s₂
  refine ⟨fun hu => ?_, fun i => ?_⟩
  · simp [hafter, hno] at hu
  · have hi := validateOne_loop env hprepared₂ i
    rw [hafter, hno]
    exact { hi with
      consumed := fun _ hfalse => by cases hfalse
      waiting := fun hfalse => by cases hfalse
      skipped := fun _ => hi.skipped id }

/-- The rendering state the composer keeps beside the display's own plays no part. -/
theorem Inv.hwcRenderingState (h : Inv s) (r : RenderingState) :
    Inv (s.update d fun e => { e with hwcRenderingState := r }) :=
  Inv.update h { h.display d with }

theorem not_ignored_of_available (h : Inv s)
    (hd : ¬((s.display d).plugState = false ∨ (s.display d).isFrameSkipPowerState = true)) :
    (s.display d).ignored = false := by
  have hblanked : (s.display d).blanked = false := (h.display d).blanked
  simp only [not_or, Bool.not_eq_false, Bool.not_eq_true, Display.isFrameSkipPowerState,
    Bool.or_eq_false_iff] at hd
  simp [Display.ignored, hd.1, hd.2.1, hblanked]

theorem Inv.validateDisplay (h : Inv s) (hin : s.InOrder (.validateDisplay d, env)) :
    Inv (s.validateDisplay env d).2 := by
  simp only [Device.validateDisplay]
  apply Inv.hwcRenderingState
  by_cases hd : (s.display d).plugState = false ∨ (s.display d).isFrameSkipPowerState = true
  · rw [if_pos hd]
    have hu : (s.display d).unavailable = true := by
      rcases hd with hplug | hpower
      · simp [Display.unavailable, hplug]
      · simp [Display.unavailable, hpower]
    apply Inv.update h
    exact (h.display d).forceSkipValidate hu
  · rw [if_neg hd]
    have hi : (s.display d).ignored = false := not_ignored_of_available h hd
    by_cases hfirst : s.isFirstValidate = true
    · rw [if_pos hfirst]
      simp only [InOrder, hfirst, if_true] at hin
      exact h.validateAllDisplays hi hin
    · rw [if_neg hfirst]
      simp only [InOrder, hfirst, Bool.false_eq_true, if_false] at hin
      -- another display of the frame has been validated, so no change is waiting
      have hu : ¬ s.unconsumed = true := by
        simp only [isFirstValidate, decide_eq_true_eq, Classical.not_forall, not_or,
          Bool.not_eq_false] at hfirst
        obtain ⟨j, -, hv⟩ := hfirst
        exact (h.display j).consumed hv
      have hupdated : Inv (s.update d fun e =>
          { e with needSkipValidatePresent := !e.validateFlag }.setValidateState) := by
        apply Inv.update h
        exact (h.display d).revalidate hu hi hin
      split
      · exact Inv.setGeometryChanged hupdated
      · exact hupdated

end Validate

/-! ### Present -/

section Present

variable {n : Nat} {s : Device n} {env : Env n} {d : Fin n}

theorem isLastPresent_congr {s' : Device n}
    (hs : ∀ i, i ≠ d → (s'.display i).ignored = (s.display i).ignored ∧
      (s'.display i).presentFlag = (s.display i).presentFlag) :
    s'.isLastPresent d = s.isLastPresent d := by
  simp only [isLastPresent, decide_eq_decide]
  refine forall_congr' fun i => ?_
  by_cases hi : i = d
  · simp [hi]
  · rw [(hs i hi).1, (hs i hi).2]

theorem skippedFrame_congr {s' : Device n}
    (hs : ∀ i, (s'.display i).ignored = (s.display i).ignored ∧
      (s'.display i).isSkipFrame = (s.display i).isSkipFrame ∧
      (s'.display i).needSkipPresent = (s.display i).needSkipPresent ∧
      (s'.display i).needSkipValidatePresent = (s.display i).needSkipValidatePresent) :
    s'.skippedFrame = s.skippedFrame := by
  simp only [skippedFrame, decide_eq_decide]
  refine exists_congr fun i => ?_
  obtain ⟨h₁, h₂, h₃, h₄⟩ := hs i
  rw [h₁, h₂, h₃, h₄]

theorem setPresentState_inv (h : Inv s) : Inv (s.update d Display.setPresentState) :=
  Inv.update h ((h.display d).disarm true (.inr rfl))

/-- The end of a present, when nothing is lost with the flags. -/
theorem Inv.presentPostProcessing (h : Inv s)
    (hlost : s.isLastPresent d = true → s.unconsumed = true → s.skippedFrame = true) :
    Inv (s.presentPostProcessing env d).2 := by
  simp only [Device.presentPostProcessing]
  generalize hs₁ : (if env.validateFences = true then s.update d Display.setPresentState else
    (s.update d Display.setPresentState).setGeometryChanged GEOMETRY_ERROR_CASE) = s₁
  have h₁ : Inv s₁ := by
    rw [← hs₁]
    split
    · exact setPresentState_inv h
    · exact Inv.setGeometryChanged (setPresentState_inv h)
  have hunconsumed : s₁.unconsumed = s.unconsumed := by
    rw [← hs₁]
    split <;> rfl
  have hdisplay : s₁.display = (s.update d Display.setPresentState).display := by
    rw [← hs₁]
    split <;> rfl
  have hlast : s₁.isLastPresent d = s.isLastPresent d := isLastPresent_congr fun i hi => by
    simp [hdisplay, hi]
  have hskipped : s₁.skippedFrame = s.skippedFrame := skippedFrame_congr fun i => by
    rw [hdisplay, update_display]
    split <;> exact ⟨rfl, rfl, rfl, rfl⟩
  rw [hlast]
  split
  · rename_i hl
    refine Inv.finishFrame h₁ (fun hu => finishFrame_flagged ?_) id
    rw [hskipped]
    exact hlost hl (hunconsumed ▸ hu)
  · exact h₁

/-- A present that failed sets a flag whatever it has cleared. -/
theorem Inv.handleErr (h : Inv s) : Inv (s.handleErr env d).device := by
  have hup : InvUpTo True (s.presentPostProcessing env d).2 := by
    simp only [Device.presentPostProcessing]
    have h₁ := setPresentState_inv (d := d) h
    have h₂ := Inv.setGeometryChanged (b := GEOMETRY_ERROR_CASE) h₁
    split <;> split
    · exact Inv.finishFrame h₁ (fun _ => trivial) fun _ => trivial
    · exact h₁.mono fun _ => trivial
    · exact Inv.finishFrame h₂ (fun _ => trivial) fun _ => trivial
    · exact h₂.mono fun _ => trivial
  exact hup.setGeometryChanged (by decide)

variable (env) in
/-- Handing over the frame: no change is waiting, and a stale display is dropped. -/
theorem Inv.deliver (h : Inv s) (hu : s.unconsumed = false)
    (hstale : (s.display d).stale = true → (s.display d).dropsFrame = true) :
    Inv (s.deliver env d).device ∧
      ((s.deliver env d).delivered = true → (s.display d).stale = false) := by
  have hno : ∀ s' : Device n, s'.unconsumed = s.unconsumed → s'.unconsumed = true →
      s'.skippedFrame = true :=
    fun s' hs' hu' => absurd (hu'.symm.trans (hs'.trans hu)) (by decide)
  simp only [Device.deliver]
  split
  · refine ⟨Inv.presentPostProcessing ?_ (fun _ => hno _ rfl), fun hd => by cases hd⟩
    exact Inv.update h (h.display d).afterDroppedFrame
  · rename_i hdrop
    split
    · exact ⟨h.handleErr, fun hd => by cases hd⟩
    · refine ⟨Inv.presentPostProcessing h (fun _ => hno _ rfl), fun _ => ?_⟩
      cases hs : (s.display d).stale
      · rfl
      · exact absurd (hstale hs) hdrop

theorem canSkipLoop_same (l : List (Fin n)) (s : Device n) :
    (canSkipLoop env l s).2.display = s.display ∧
      (canSkipLoop env l s).2.unconsumed = s.unconsumed ∧
      (Inv s → Inv (canSkipLoop env l s).2) := by
  induction l generalizing s with
  | nil => exact ⟨rfl, rfl, id⟩
  | cons i l ih =>
      simp only [canSkipLoop]
      split
      · split
        · obtain ⟨hd, hu, hi⟩ := ih (s.setGeometryChanged (env.preProcessing i))
          exact ⟨hd, hu, fun h => hi (Inv.setGeometryChanged h)⟩
        · exact ⟨rfl, rfl, Inv.setGeometryChanged⟩
      · exact ih s

theorem canSkipLoop_all {l : List (Fin n)} {s : Device n}
    (hall : (canSkipLoop env l s).1 = true) {i : Fin n} (hmem : i ∈ l)
    (hplug : (s.display i).plugState = true) :
    (s.display i).canSkipValidate env.skipResourceAssign (env.wfdSkipFrame i)
      (env.needsValidate i) = true := by
  induction l generalizing s with
  | nil => cases hmem
  | cons j l ih =>
      simp only [canSkipLoop] at hall
      rcases List.mem_cons.mp hmem with rfl | hmem
      · rw [if_pos hplug] at hall
        split at hall
        · rename_i hcan
          exact hcan
        · cases hall
      · split at hall
        · split at hall
          · exact ih (s := s.setGeometryChanged (env.preProcessing j)) hall hmem hplug
          · cases hall
        · exact ih hall hmem hplug

/-- A guarded display that is on does not skip its validation. -/
theorem canSkipValidate_of_guarded {e : Display} (hg : e.Guarded) (hu : e.unavailable = false)
    (a w v : Bool) : e.canSkipValidate a w v = false := by
  simp only [Display.unavailable, Display.isFrameSkipPowerState, Bool.or_eq_false_iff,
    Bool.not_eq_false'] at hu
  obtain ⟨hplug, hoff, -⟩ := hu
  simp only [Display.canSkipValidate]
  cases ht : e.type
  case primary =>
    have hpower : e.powerModeState = .off := by simpa [Display.Guarded, ht] using hg
    simp [hpower] at hoff
  case external =>
    rcases (by simpa [Display.Guarded, ht] using hg) with hpower | hstart | hunplugged
    · simp [hpower] at hoff
    · simp only [hstart, decide_true, Bool.or_true, if_true]
      split
      · rfl
      · split <;> rfl
    · exact absurd (hunplugged.symm.trans hplug) (by decide)
  case virtual =>
    rcases (by simpa [Display.Guarded, ht] using hg) with hcount | ⟨-, hunplugged⟩
    · simp [Display.checkSkipFrame, hcount]
    · simp [hunplugged] at hplug

/-- A frame that is presented without a validation shows a current assignment. -/
theorem canSkipValidate_current (h : Inv s) (hu : (s.display d).unavailable = false)
    (hskip : (s.canSkipValidate env).1 = true) :
    s.unconsumed = false ∧ (s.display d).stale = false := by
  simp only [Device.canSkipValidate] at hskip
  split at hskip
  · cases hskip
  · rename_i hflags
    simp only [not_or, Classical.not_not] at hflags
    simp only [Bool.and_eq_true] at hskip
    constructor
    · cases hun : s.unconsumed
      · rfl
      · exact absurd hflags.2 (h.noLoss hun)
    · cases hs : (s.display d).stale
      · rfl
      · have hplug : (s.display d).plugState = true := by
          simp only [Display.unavailable, Bool.or_eq_false_iff] at hu
          simpa using hu.1
        have hcan := canSkipLoop_all hskip.1 (List.mem_finRange d) hplug
        rcases (h.display d).flagged hs with hflag | hg
        · exact absurd hflags.2 hflag
        · exact absurd (hcan.symm.trans (canSkipValidate_of_guarded hg hu _ _ _)) (by decide)

variable (env) in
theorem canSkipValidate_same (s : Device n) :
    (s.canSkipValidate env).2.display = s.display ∧
      (s.canSkipValidate env).2.unconsumed = s.unconsumed ∧
      (Inv s → Inv (s.canSkipValidate env).2) := by
  simp only [Device.canSkipValidate]
  split
  · exact ⟨rfl, rfl, id⟩
  · exact canSkipLoop_same _ s

/-- A present of a display that is on and skips nothing. -/
theorem Inv.presentValidated (h : Inv s) (hu : (s.display d).unavailable = false)
    (hno : (s.display d).needSkipPresent = false ∧
      (s.display d).needSkipValidatePresent = false) :
    Inv (s.presentValidated env d).device ∧
      ((s.presentValidated env d).delivered = true → (s.display d).stale = false) := by
  simp only [Device.presentValidated]
  split
  · split
    · exact ⟨h.handleErr, fun hd => by cases hd⟩
    · obtain ⟨hdisplay, hunconsumed, hinv⟩ := canSkipValidate_same env s
      split
      · refine ⟨Inv.update (hinv h) ?_, fun hd => by cases hd⟩
        exact ((hinv h).display d).disarm _ (.inl rfl)
      · rename_i hcan
        have hcurrent := canSkipValidate_current h hu (by simpa using hcan)
        split
        · exact ⟨(hinv h).handleErr, fun hd => by cases hd⟩
        · have hstale : ((s.canSkipValidate env).2.display d).stale = false := by
            rw [hdisplay]
            exact hcurrent.2
          have hdeliver := (hinv h).deliver env (d := d)
            (hunconsumed.trans hcurrent.1) fun hs => by simp [hstale] at hs
          exact ⟨hdeliver.1, fun _ => hcurrent.2⟩
  · rename_i haccepted
    have ha : (s.display d).armed = true := by
      simp only [ne_eq, Classical.not_not] at haccepted
      simp [Display.armed, haccepted]
    have hconsumed : s.unconsumed = false := by
      cases hun : s.unconsumed
      · rfl
      · rcases (h.display d).waiting hun ha with hav | hv
        · exact absurd (hav.symm.trans hu) (by decide)
        · exact absurd (hv.symm.trans hno.2) (by decide)
    refine h.deliver env hconsumed fun hs => ?_
    rcases (h.display d).armed ha hs with ⟨htype, hframe⟩ | hp | hv | hav
    · simp [Display.dropsFrame, htype, hframe]
    · exact absurd (hp.symm.trans hno.1) (by decide)
    · exact absurd (hv.symm.trans hno.2) (by decide)
    · exact absurd (hav.symm.trans hu) (by decide)

/-- A present of a display that skips the frame. -/
theorem Inv.presentSkipped (h : Inv s)
    (hskip : (s.display d).needSkipPresent = true ∨
      (s.display d).needSkipValidatePresent = true)
    (hlost : (s.display d).ignored = true → s.isLastPresent d = true → s.unconsumed = false) :
    Inv (s.presentSkipped env d).device := by
  simp only [Device.presentSkipped]
  split
  · refine h.presentPostProcessing fun hlast hu => ?_
    cases hi : (s.display d).ignored
    · simp only [skippedFrame, decide_eq_true_eq]
      exact ⟨d, hi, .inr hskip⟩
    · exact absurd ((hlost hi hlast).symm.trans hu) (by decide)
  · exact h

theorem unavailable_of_ignored (h : Inv s) (hi : (s.display d).ignored = true) :
    (s.display d).unavailable = true := by
  have hblanked : (s.display d).blanked = false := (h.display d).blanked
  simp only [Display.ignored, hblanked, Bool.and_false, Bool.or_false, Bool.or_eq_true,
    Bool.and_eq_true, Bool.not_eq_eq_eq_not, Bool.not_true] at hi
  rw [unavailable_iff]
  rcases hi with ⟨-, hoff⟩ | hplug
  · exact .inr (by simp only [Display.isFrameSkipPowerState, hoff, Bool.true_or])
  · exact .inl hplug

theorem acceptValidated_same (i : Fin n) :
    ((s.acceptValidated d).display i).ignored = (s.display i).ignored ∧
      ((s.acceptValidated d).display i).presentFlag = (s.display i).presentFlag ∧
      ((s.acceptValidated d).display i).validateFlag = (s.display i).validateFlag ∧
      ((s.acceptValidated d).display i).stale = (s.display i).stale := by
  simp only [acceptValidated]
  split
  · simp only [update_display]
    split
    · rcases acceptDisplayChanges_cases (s.display i) with heq | ⟨-, heq⟩ <;> rw [heq]
      · exact ⟨rfl, rfl, rfl, rfl⟩
      · exact ⟨rfl, rfl, rfl, rfl⟩
    · exact ⟨rfl, rfl, rfl, rfl⟩
  · exact ⟨rfl, rfl, rfl, rfl⟩

theorem Inv.acceptValidated (h : Inv s) : Inv (s.acceptValidated d) := by
  simp only [Device.acceptValidated]
  split
  · exact Inv.update h (h.display d).acceptDisplayChanges
  · exact h

/-- The condition on a present lets no change get lost at the end of the frame. -/
theorem InOrder.unconsumed (h : Inv s) (hin : s.InOrder (.presentDisplay d, env))
    (hcleared : s.wasRenderingStateFlagsCleared = false)
    (hi : (s.display d).ignored = true) (hlast : s.isLastPresent d = true) :
    s.unconsumed = false := by
  cases hu : s.unconsumed
  · rfl
  · rcases hin hi hlast with hflags | hclear | ⟨i, hv⟩
    · exact absurd hflags (h.noLoss hu)
    · exact absurd (hclear.symm.trans hcleared) (by decide)
    · exact absurd hu ((h.display i).consumed hv)

theorem acceptValidated_flags :
    (s.acceptValidated d).geometryChanged = s.geometryChanged := by
  simp only [acceptValidated]
  split <;> rfl

theorem InOrder.acceptValidated (hin : s.InOrder (.presentDisplay d, env)) :
    (s.acceptValidated d).InOrder (.presentDisplay d, env) := by
  intro hi hlast
  have hi' : (s.display d).ignored = true := (acceptValidated_same d).1.symm.trans hi
  have hlast' : s.isLastPresent d = true := by
    rw [← hlast]
    exact (isLastPresent_congr fun i _ =>
      ⟨(acceptValidated_same i).1, (acceptValidated_same i).2.1⟩).symm
  rcases hin hi' hlast' with hflags | hclear | ⟨i, hv⟩
  · exact .inl (acceptValidated_flags.trans hflags)
  · right; left
    simp only [wasRenderingStateFlagsCleared, decide_eq_true_eq] at hclear ⊢
    intro i
    obtain ⟨-, hp, hv, -⟩ := acceptValidated_same (s := s) (d := d) i
    exact ⟨hv.trans (hclear i).1, hp.trans (hclear i).2⟩
  · exact .inr (.inr ⟨i, (acceptValidated_same i).2.2.1.trans hv⟩)

theorem Inv.presentAccepted (h : Inv s) (hin : s.InOrder (.presentDisplay d, env)) :
    Inv (s.presentAccepted env d).device ∧
      ((s.presentAccepted env d).delivered = true → (s.display d).stale = false) := by
  simp only [Device.presentAccepted, ← unavailable_iff]
  split
  · refine ⟨Inv.update h ?_, fun hd => by cases hd⟩
    exact (h.display d).skipPresent.disarm false (.inr rfl)
  · rename_i hcleared
    by_cases hu : (s.display d).unavailable = true
    · simp only [hu, true_and, Bool.not_eq_true] at hcleared
      have h₁ : Inv (s.update d fun e => { e with needSkipValidatePresent := true }) :=
        Inv.update h (h.display d).skipPresent
      have hskip : ((s.update d fun e => { e with needSkipValidatePresent := true }).display
          d).needSkipValidatePresent = true := by
        simp
      rw [if_pos hu, if_pos (.inr hskip)]
      refine ⟨h₁.presentSkipped (.inr hskip) fun hi hlast => ?_, fun hd => by cases hd⟩
      have hi' : (s.display d).ignored = true := by
        rw [update_display, if_pos rfl] at hi
        exact hi
      have hlast' : s.isLastPresent d = true := by
        rw [← hlast]
        exact (isLastPresent_congr fun i hne => by simp [hne]).symm
      have hno : s.unconsumed = false := hin.unconsumed h hcleared hi' hlast'
      exact hno
    · have hi : (s.display d).ignored ≠ true := fun hi => hu (unavailable_of_ignored h hi)
      rw [if_neg hu]
      split
      · rename_i hskip
        exact ⟨h.presentSkipped hskip fun hi' => absurd hi' hi, fun hd => by cases hd⟩
      · rename_i hskip
        simp only [not_or, Bool.not_eq_true] at hskip
        exact h.presentValidated (by simpa using hu) hskip

/-- **Present.**  What is delivered was assigned after the last change. -/
theorem Inv.presentDisplay (h : Inv s) (hin : s.InOrder (.presentDisplay d, env)) :
    Inv (s.presentDisplay env d).device ∧
      ((s.presentDisplay env d).delivered = true → (s.display d).stale = false) := by
  obtain ⟨hinv, hdelivered⟩ := h.acceptValidated.presentAccepted hin.acceptValidated
  have hstale : ((s.acceptValidated d).display d).stale = (s.display d).stale :=
    (acceptValidated_same d).2.2.2
  exact ⟨hinv.hwcRenderingState _, fun hd => hstale ▸ hdelivered hd⟩

end Present

/-! ### Power and plug events -/

section Power

variable {n : Nat} {s : Device n} {env : Env n} {d : Fin n} {mode : PowerMode}

/-- An update that leaves the frame as it is. -/
theorem FrameClosed.update {f : Display → Display} (h : s.FrameClosed)
    (hf : ∀ e : Display, e.validateFlag = false → e.armed = false →
      (f e).validateFlag = false ∧ (f e).armed = false) : (s.update d f).FrameClosed := by
  intro i
  obtain ⟨hv, ha⟩ := h i
  rw [update_display]
  split
  · exact hf _ hv ha
  · exact ⟨hv, ha⟩

theorem FrameClosed.changeDisplay {b : Nat} (h : s.FrameClosed) :
    (s.changeDisplay d b).FrameClosed := by
  simp only [Device.changeDisplay]
  split
  · exact h
  · exact FrameClosed.update (s := s) (f := fun e => { e with stale := true }) h
      fun e hv ha => ⟨hv, ha⟩

/-- Between two frames a flag makes up for any change of the power state. -/
theorem switchPower_inv {f : Display → Display} {b : Nat} (hclosed : s.FrameClosed)
    (hs : ∀ i, Standing (s.display i)) (hf : Standing (f (s.display d)))
    (hdet : (f (s.display d)).detached = false)
    (hkeep : ∀ e : Display, e.validateFlag = false → e.armed = false →
      (f e).validateFlag = false ∧ (f e).armed = false) (hb : b ≠ 0) :
    Inv ((s.update d f).changeDisplay d b) ∧ ((s.update d f).changeDisplay d b).FrameClosed := by
  have hclosed' : (s.update d f).FrameClosed := hclosed.update hkeep
  refine ⟨changeDisplay_inv (fun i => ?_) hclosed' (by simpa using hdet) hb,
    hclosed'.changeDisplay⟩
  rw [update_display]
  split
  · rename_i hi
    exact hi ▸ hf
  · exact hs i

theorem update_update (f g : Display → Display) :
    (s.update d f).update d g = s.update d fun e => g (f e) := by
  simp only [Device.update]
  congr 1
  funext i
  split <;> rfl

/-- What holds when the power mode of a display is about to be set: the device is
    between two frames, and if the flags have just been cleared the switch goes through. -/
structure Switchable (s : Device n) (env : Env n) (d : Fin n) (mode : PowerMode) : Prop where
  closed : s.FrameClosed
  standing : ∀ i, Standing (s.display i)
  attached : (s.display d).detached = false
  inv : Inv s ∨ mode = .off ∧ s.powersOff env d
  doze : (s.display d).type = .primary → mode = .doze ∨ mode = .dozeSuspend →
    (s.display d).powerModeState ≠ .off

theorem Switchable.inv_of_ne (h : Switchable s env d mode) (hm : mode ≠ .off) : Inv s :=
  h.inv.elim id fun hoff => absurd hoff.1 hm

theorem Switchable.primary (h : Switchable s env d mode) (ht : (s.display d).type = .primary) :
    Inv (s.setPowerModePrimary env d mode).2 ∧
      (s.setPowerModePrimary env d mode).2.FrameClosed := by
  have hd := h.standing d
  have hstanding : ∀ (m : PowerMode) (r : RenderingState),
      Standing { s.display d with powerModeState := m, renderingState := r } := fun m r =>
    { hd with }
  simp only [Device.setPowerModePrimary]
  split
  · rename_i hsame
    refine ⟨h.inv.resolve_right fun ⟨hoff, hpowers⟩ => ?_, h.closed⟩
    simp only [powersOff, ht] at hpowers
    exact hpowers (hsame.symm.trans hoff)
  · have hdoze : ∀ m : PowerMode, m = .doze ∨ m = .dozeSuspend → mode = m →
        Inv (s.update d fun e => { e with powerModeState := m }) ∧
          (s.update d fun e => { e with powerModeState := m }).FrameClosed := by
      intro m hm hmode
      have hnew : m ≠ .off := by rcases hm with rfl | rfl <;> decide
      obtain ⟨hv, ha⟩ := h.closed d
      have hinv : Inv s := h.inv_of_ne (hmode ▸ hnew)
      constructor
      · apply Inv.update hinv
        exact (hinv.display d).doze ht hv ha (h.doze ht (hmode ▸ hm)) hnew
      · apply h.closed.update
        exact fun e hv ha => ⟨hv, ha⟩
    cases mode
    case off =>
      refine switchPower_inv (f := fun e => { e with powerModeState := .off, renderingState := .none })
        h.closed h.standing (hstanding _ _) h.attached (fun e hv _ => ⟨hv, rfl⟩) (by decide)
    case on =>
      refine switchPower_inv (f := fun e => { e with powerModeState := .on })
        h.closed h.standing (hstanding _ _) h.attached (fun e hv ha => ⟨hv, ha⟩) (by decide)
    case doze =>
      dsimp only
      split
      · exact ⟨h.inv_of_ne (by decide), h.closed⟩
      · exact hdoze _ (.inl rfl) rfl
    case dozeSuspend =>
      dsimp only
      split
      · exact ⟨h.inv_of_ne (by decide), h.closed⟩
      · exact hdoze _ (.inr rfl) rfl

theorem Switchable.virtual (h : Switchable s env d mode) :
    Inv (s.setPowerModeBase env d mode).2 ∧ (s.setPowerModeBase env d mode).2.FrameClosed := by
  have hd := h.standing d
  simp only [Device.setPowerModeBase]
  split
  · rename_i hunsupported
    refine ⟨h.inv_of_ne fun hoff => ?_, h.closed⟩
    simp [hoff] at hunsupported
  · split
    · rw [update_update]
      refine switchPower_inv h.closed h.standing ?_ h.attached (fun e hv _ => ⟨hv, rfl⟩) (by decide)
      exact { hd with }
    · refine switchPower_inv h.closed h.standing ?_ h.attached (fun e hv ha => ⟨hv, ha⟩) (by decide)
      exact { hd with }

/-- `disable` and `enable` succeed without touching the plug, or change nothing. -/
theorem disable_cases (s : Device n) (env : Env n) (d : Fin n) :
    ((s.disable env d).2 = s ∧ ((s.disable env d).1 = HWC2_ERROR_NONE ∨
        env.driverSetPowerMode < 0)) ∨
      (s.disable env d).1 = HWC2_ERROR_NONE ∧ (s.disable env d).2 =
        s.update d fun e => { e with enabled := false, powerModeState := .off } := by
  simp only [disable]
  split
  · exact .inl ⟨rfl, .inl rfl⟩
  · split
    · rename_i hdriver
      exact .inl ⟨rfl, .inr hdriver⟩
    · exact .inr ⟨rfl, rfl⟩

theorem enable_cases (s : Device n) (env : Env n) (d : Fin n) :
    (s.enable env d).2 = s ∨ (s.enable env d).1 = HWC2_ERROR_NONE ∧
      (s.enable env d).2 = s.update d fun e => { e with enabled := true } := by
  simp only [enable]
  split
  · exact .inl rfl
  · split
    · exact .inl rfl
    · exact .inr ⟨rfl, rfl⟩

variable (mode) in
/-- The end of `ExynosExternalDisplay::setPowerMode`. -/
theorem switchExternal_inv (hclosed : s.FrameClosed) (hs : ∀ i, Standing (s.display i))
    (hdet : (s.display d).detached = false) (ht : (s.display d).type = .external) :
    Inv (s.switchExternal d mode) ∧ (s.switchExternal d mode).FrameClosed := by
  have hd := hs d
  have hstanding : ∀ (p : Bool) (r : RenderingState), Standing { s.display d with
      powerModeState := if (s.display d).hpdStatus then mode else .off
      needSkipPresent := p
      renderingState := r } :=
    fun p r => { hd with
      detached := fun _ hd' => by simp [Display.detached, ht] at hd' }
  simp only [Device.switchExternal]
  split
  · rw [update_update]
    refine switchPower_inv hclosed hs ?_ hdet (fun e hv _ => ⟨hv, rfl⟩) (by decide)
    exact hstanding true .none
  · refine switchPower_inv hclosed hs ?_ hdet (fun e hv ha => ⟨hv, ha⟩) (by decide)
    exact hstanding _ _

theorem Switchable.external (h : Switchable s env d mode) (ht : (s.display d).type = .external) :
    Inv (s.setPowerModeExternal env d mode).2 ∧
      (s.setPowerModeExternal env d mode).2.FrameClosed := by
  have hsame := switchExternal_inv mode h.closed h.standing h.attached ht
  have hupdated : ∀ f : Display → Display,
      (∀ e : Display, e.validateFlag = false → e.armed = false →
        (f e).validateFlag = false ∧ (f e).armed = false) →
      Standing (f (s.display d)) → (f (s.display d)).detached = false →
      (f (s.display d)).type = .external →
      Inv ((s.update d f).switchExternal d mode) ∧
        ((s.update d f).switchExternal d mode).FrameClosed := by
    intro f hkeep hf hdet htype
    refine switchExternal_inv mode (h.closed.update hkeep) (fun i => ?_) ?_ ?_
    · rw [update_display]
      split
      · rename_i hi
        exact hi ▸ hf
      · exact h.standing i
    · simpa using hdet
    · simpa using htype
  simp only [Device.setPowerModeExternal]
  by_cases hoff : mode = .off
  · simp only [if_pos hoff]
    rcases disable_cases s env d with ⟨hs, hret⟩ | ⟨hret, hs⟩
    · rw [hs]
      split
      · rename_i hfail
        have hdriver : env.driverSetPowerMode < 0 := hret.resolve_left hfail
        refine ⟨h.inv.resolve_right fun ⟨_, hpowers⟩ => ?_, h.closed⟩
        simp only [powersOff, ht] at hpowers
        omega
      · exact hsame
    · rw [hs, hret]
      simp only [ne_eq, not_true_eq_false, if_false]
      refine hupdated _ (fun e hv ha => ⟨hv, ha⟩) ?_ h.attached ht
      exact { h.standing d with }
  · simp only [if_neg hoff]
    split
    · simp only [ne_eq, not_true_eq_false, if_false]
      exact hsame
    · rcases enable_cases s env d with hs | ⟨hret, hs⟩
      · rw [hs]
        split
        · exact ⟨h.inv_of_ne hoff, h.closed⟩
        · exact hsame
      · rw [hs, hret]
        simp only [ne_eq, not_true_eq_false, if_false]
        exact hupdated _ (fun e hv ha => ⟨hv, ha⟩) { h.standing d with } h.attached ht

theorem Switchable.displaySetPowerMode (h : Switchable s env d mode) :
    Inv (s.displaySetPowerMode env d mode).2 ∧
      (s.displaySetPowerMode env d mode).2.FrameClosed := by
  simp only [Device.displaySetPowerMode]
  cases ht : (s.display d).type
  case primary => exact h.primary ht
  case external => exact h.external ht
  case virtual => exact h.virtual

theorem FrameClosed.finishFrame (h : s.FrameClosed) : (s.finishFrame env).FrameClosed := by
  intro i
  obtain ⟨-, ha⟩ := h i
  rw [finishFrame_display]
  exact ⟨rfl, ha⟩

/-- The end of a frame that comes with switching the power off. -/
theorem Inv.switchable (h : Inv s) (hin : s.InOrder (.setPowerMode d mode, env)) :
    Switchable (if mode = .off then
      if (s.update d fun e => { e with presentFlag := true }).isLastPresent d then
        (s.update d fun e => { e with presentFlag := true }).finishFrame env
      else s.update d fun e => { e with presentFlag := true }
    else s) env d mode := by
  obtain ⟨hclosed, hdet, hpowers, hdoze⟩ := hin
  split
  · rename_i hoff
    have h₁ : Inv (s.update d fun e => { e with presentFlag := true }) := by
      apply Inv.update h
      exact { h.display d with }
    have hclosed₁ : (s.update d fun e => { e with presentFlag := true }).FrameClosed :=
      hclosed.update fun e hv ha => ⟨hv, ha⟩
    have hlast : (s.update d fun e => { e with presentFlag := true }).isLastPresent d =
        s.isLastPresent d := isLastPresent_congr fun i hi => by simp [hi]
    rw [hlast]
    split
    · rename_i hl
      have hfinished : InvUpTo True
          ((s.update d fun e => { e with presentFlag := true }).finishFrame env) :=
        Inv.finishFrame h₁ (fun _ => trivial) fun _ => trivial
      refine ⟨hclosed₁.finishFrame, fun i => (hfinished.display i).toStanding, ?_,
        .inr ⟨hoff, ?_⟩, ?_⟩
      · rw [finishFrame_display, update_display, if_pos rfl]
        exact hdet
      · have hpowers' := hpowers hoff hl
        simp only [powersOff, finishFrame_display, update_display, if_true] at hpowers' ⊢
        exact hpowers'
      · rw [hoff]
        exact fun _ hdozes => by rcases hdozes with hm | hm <;> cases hm
    · refine ⟨hclosed₁, fun i => (h₁.display i).toStanding, ?_, .inl h₁, ?_⟩
      · rw [update_display, if_pos rfl]
        exact hdet
      · rw [hoff]
        exact fun _ hdozes => by rcases hdozes with hm | hm <;> cases hm
  · rename_i hoff
    exact ⟨hclosed, fun i => (h.display i).toStanding, hdet, .inl h, hdoze⟩

theorem Inv.setPowerMode (h : Inv s) (hin : s.InOrder (.setPowerMode d mode, env)) :
    Inv (s.setPowerMode env d mode).2 := by
  obtain ⟨hinv, hclosed⟩ := (h.switchable hin).displaySetPowerMode
  exact hinv.handleVsyncPeriodChangeInternal (.inl hclosed)

end Power

section Plug

variable {n : Nat} {s : Device n} {env : Env n} {d : Fin n} {hpdStatus : Bool}

/-- What a plug event of an external display does to it, and that it keeps the frame. -/
structure PlugEvent (s : Device n) (d : Fin n) (f : Display → Display) : Prop where
  type : ∀ e, (f e).type = e.type
  validateFlag : ∀ e, (f e).validateFlag = e.validateFlag
  armed : ∀ e, (f e).armed = e.armed
  inv : DisplayInv (s.geometryChanged ≠ 0) (s.unconsumed = true) (f (s.display d))

variable (env hpdStatus) in
theorem externalHotplug_event (h : Inv s) (ht : (s.display d).type = .external) :
    ∃ f, s.externalHotplug env d hpdStatus = s.update d f ∧ PlugEvent s d f := by
  have hd := h.display d
  cases hpdStatus
  case true =>
    simp only [externalHotplug, if_true, update_update]
    split
    · exact ⟨_, rfl, fun _ => rfl, fun _ => rfl, fun _ => rfl, hd.cable⟩
    · split
      · exact ⟨_, rfl, fun _ => rfl, fun _ => rfl, fun _ => rfl, hd.cable⟩
      · exact ⟨_, rfl, fun _ => rfl, fun _ => rfl, fun _ => rfl, hd.plugIn ht⟩
  case false =>
    simp only [externalHotplug, Bool.false_eq_true, if_false]
    rcases disable_cases (s.update d fun e => { e with hpdStatus := false }) env d with
      ⟨hs, -⟩ | ⟨-, hs⟩
    · rw [hs]
      simp only [update_update]
      split
      · exact ⟨_, rfl, fun _ => rfl, fun _ => rfl, fun _ => rfl, hd.cable⟩
      · exact ⟨_, rfl, fun _ => rfl, fun _ => rfl, fun _ => rfl,
          hd.powerless ht rfl rfl rfl rfl id⟩
    · rw [hs]
      simp only [update_update, update_display, if_true]
      rw [if_neg (by simp)]
      exact ⟨_, rfl, fun _ => rfl, fun _ => rfl, fun _ => rfl,
        hd.powerless ht rfl rfl rfl rfl id⟩

theorem Inv.closeVirtual (h : Inv s) (ht : (s.display d).type = .virtual)
    (hcarry : (s.display d).stale = true →
      (s.display d).skipFrameCount > 0 ∨ (s.display d).useDpu = true) :
    Inv (s.closeVirtual d) := by
  apply Inv.update h
  exact (h.display d).unplugVirtual ht hcarry

theorem dpuVirtual_spec {v : Fin n} (hv : s.dpuVirtual = some v) :
    (s.display v).type = .virtual ∧ (s.display v).useDpu = true := by
  have hfound := List.find?_some hv
  simpa using hfound

/-- What the plug event of an external display does to the virtual one. -/
theorem Inv.tellVirtual {v : Fin n} (h : Inv s) (ht : (s.display v).type = .virtual)
    (hu : (s.display v).useDpu = true)
    (hclosed : s.FrameClosed ∨ (s.display v).plugState = false) :
    Inv (if hpdStatus && ((s.setExternalPlugState v hpdStatus).display v).plugState then
      (s.setExternalPlugState v hpdStatus).closeVirtual v
    else s.setExternalPlugState v hpdStatus) := by
  have hupdated : Inv (s.update v fun e => { e with externalPlugState := hpdStatus }) := by
    apply Inv.update h
    exact { h.display v with }
  have hset : Inv (s.setExternalPlugState v hpdStatus) ∧
      ((s.setExternalPlugState v hpdStatus).display v).type = .virtual ∧
      ((s.setExternalPlugState v hpdStatus).display v).useDpu = true := by
    simp only [Device.setExternalPlugState]
    split
    · rename_i hplug
      simp only [update_display, if_true] at hplug
      have hs : s.FrameClosed := hclosed.resolve_right (by simp [hplug])
      refine ⟨changeDisplay_inv (fun i => (hupdated.display i).toStanding)
        (hs.update fun e hv ha => ⟨hv, ha⟩) ?_ (by decide), ?_⟩
      · simp [Display.detached, hu]
      · simp [Device.changeDisplay, GEOMETRY_DISPLAY_FRAME_SKIPPED, ht, hu]
    · exact ⟨hupdated, by simp [ht], by simp [hu]⟩
  split
  · exact hset.1.closeVirtual hset.2.1 fun _ => .inr hset.2.2
  · exact hset.1

theorem handleVsyncPeriodChangeInternal_display (b : Bool) :
    (s.handleVsyncPeriodChangeInternal b).display = s.display := by
  simp only [handleVsyncPeriodChangeInternal, changeDevice]
  split <;> rfl

theorem Inv.handleHotplug (h : Inv s) (hin : s.InOrder (.hotplug d hpdStatus, env)) :
    Inv (s.handleHotplug env d hpdStatus) := by
  simp only [Device.handleHotplug]
  cases ht : (s.display d).type
  case virtual => exact h
  case primary =>
    apply Inv.update h
    exact (h.display d).cable
  case external =>
    dsimp only
    split
    · exact h
    · obtain ⟨f, hf, hevent⟩ := externalHotplug_event env hpdStatus h ht
      rw [hf]
      have h₁ : Inv (s.update d f) := Inv.update h hevent.inv
      have hclosed : s.FrameClosed → (s.update d f).FrameClosed := fun hs => hs.update
        fun e hv ha => ⟨(hevent.validateFlag e).trans hv, (hevent.armed e).trans ha⟩
      generalize hs₂ : (if hpdStatus = true then s.update d f else
        (s.update d f).handleVsyncPeriodChangeInternal env.vsyncPeriodChanged) = s₂
      have hdisplay : s₂.display = (s.update d f).display := by
        rw [← hs₂]
        split
        · rfl
        · exact handleVsyncPeriodChangeInternal_display _
      have h₂ : Inv s₂ := by
        rw [← hs₂]
        split
        · exact h₁
        · exact h₁.handleVsyncPeriodChangeInternal (hin.imp hclosed And.left)
      split
      · exact h₂
      · rename_i v hv
        obtain ⟨htype, hdpu⟩ := dpuVirtual_spec hv
        refine h₂.tellVirtual htype hdpu (hin.imp (fun hs i => ?_) fun hplug => ?_)
        · rw [hdisplay]
          exact hclosed hs i
        · have hne : v ≠ d := fun heq => by
            rw [hdisplay, heq, update_display, if_pos rfl, hevent.type, ht] at htype
            cases htype
          rw [hdisplay, update_display, if_neg hne] at htype hdpu ⊢
          exact hplug.2 v htype hdpu

theorem Inv.createVirtualDisplay (h : Inv s) (ht : (s.display d).type = .virtual)
    (hin : s.InOrder (.createVirtualDisplay d, env)) : Inv (s.createVirtualDisplay env d) := by
  simp only [Device.createVirtualDisplay]
  refine Inv.handleVsyncPeriodChangeInternal (Inv.update h ?_) (hin.imp_left fun hs => ?_)
  · refine (h.display d).plugVirtual ht _ _ ?_
    rintro (hcount | hdpu)
    · split
      · split <;> decide
      · exact hcount
    · rw [if_pos hdpu]
      split <;> decide
  · exact hs.update fun e hv _ => ⟨hv, rfl⟩

theorem Inv.destroyVirtualDisplay (h : Inv s) (ht : (s.display d).type = .virtual)
    (hin : s.InOrder (.destroyVirtualDisplay d, env)) : Inv (s.destroyVirtualDisplay env d) := by
  obtain ⟨hclosed, hcarry⟩ := hin
  refine Inv.handleVsyncPeriodChangeInternal (h.closeVirtual ht fun hs => ?_)
    (hclosed.imp_left fun hs => hs.update fun e hv ha => ⟨hv, ha⟩)
  rcases hcarry with hdpu | hflags | ⟨hv, hn⟩
  · exact .inr hdpu
  · exact Guarded.virtual (((h.display d).flagged hs).resolve_left fun hf => hf hflags) ht
  · rcases (h.display d).validated hv hs with ⟨hext, -⟩ | hnsvp
    · simp [ht] at hext
    · exact absurd (hnsvp.symm.trans hn) (by decide)

end Plug

/-! ### Setters and runs -/

section Runs

variable {n : Nat} {s : Device n} {env : Env n} {d : Fin n}

theorem Inv.changeDisplay {b : Nat} (h : Inv s)
    (hin : b ≠ 0 → s.FrameClosed ∧ (s.display d).detached = false) :
    Inv (s.changeDisplay d b) := by
  by_cases hb : b = 0
  · simpa [Device.changeDisplay, hb] using h
  · exact changeDisplay_inv (fun i => (h.display i).toStanding) (hin hb).1 (hin hb).2 hb

theorem Inv.clearRenderingStateFlags (h : Inv s) : Inv s.clearRenderingStateFlags :=
  ⟨h.noLoss, fun i => { h.display i with
    validated := fun hv => by cases hv
    consumed := fun hv => by cases hv }⟩

/-- **One call** that keeps the order keeps the invariant. -/
theorem Inv.exec (h : Inv s) (op : Op n) (hin : s.InOrder (op, env)) : Inv (s.exec (op, env)) := by
  cases op with
  | setter d changedBit => exact h.changeDisplay hin
  | setLayerDisplayFrame d changedBit =>
      exact h.clearRenderingStateFlags.changeDisplay fun hb =>
        ⟨fun i => ⟨rfl, (hin.1 i).2⟩, hin.2 hb⟩
  | setPowerMode d mode => exact h.setPowerMode hin
  | hotplug d hpdStatus => exact h.handleHotplug hin
  | createVirtualDisplay d =>
      simp only [Device.exec]
      split
      · rename_i ht
        exact h.createVirtualDisplay ht hin
      · exact h
  | destroyVirtualDisplay d =>
      simp only [Device.exec]
      split
      · rename_i ht
        exact h.destroyVirtualDisplay ht hin
      · exact h
  | validateDisplay d => exact h.validateDisplay hin
  | acceptDisplayChanges d => exact Inv.update h (h.display d).acceptDisplayChanges
  | presentDisplay d => exact (h.presentDisplay hin).1

theorem reachable_inv (hs : Reachable Init (guarded InOrder (ofFun exec)) s) : Inv s := by
  refine hs.invariant (fun _ => Init.inv) ?_
  rintro s ⟨op, env⟩ _ h ⟨hin, rfl⟩
  exact h.exec op hin

/-- **No geometry change is lost.**  In every run whose calls keep the order, a change
    that no validation has seen keeps a flag set, and a frame is delivered with an
    assignment newer than the last change of its display. -/
theorem no_change_lost (hs : Reachable Init (guarded InOrder (ofFun exec)) s) :
    (s.unconsumed = true → s.geometryChanged ≠ 0) ∧
      ∀ d env, s.InOrder (.presentDisplay d, env) →
        (s.presentDisplay env d).delivered = true →
        (s.display d).stale = false ∨ (s.presentDisplay env d).device.geometryChanged ≠ 0 := by
  have h : Inv s := reachable_inv hs
  exact ⟨h.noLoss, fun d env hin hdelivered => .inl ((h.presentDisplay hin).2 hdelivered)⟩

/-! ### Two displays -/

/-- A display in use whose assignment is current. -/
def inUse (type : DisplayType) : Display where
  type := type
  useDpu := true
  powerModeState := .on
  plugState := true
  hpdStatus := true
  blanked := false
  enabled := true
  skipStartFrame := SKIP_EXTERNAL_FRAME
  skipFrameCount := 0
  isFirstFrameDisplayed := true
  externalPlugState := false
  isSkipFrame := false
  needSkipPresent := false
  needSkipValidatePresent := false
  renderingState := .presented
  hwcRenderingState := .presented
  validateFlag := false
  presentFlag := false
  workingVsyncChanged := false
  stale := false

/-- A primary and an external display between two frames. -/
def dualDisplay : Device 2 where
  geometryChanged := 0
  display i := if i = 0 then inUse .primary else inUse .external
  unconsumed := false

/-- Everything succeeds and nothing else changes. -/
def quiet : Env 2 where
  enableSkipValidate := true
  skipValidate := true
  skipResourceAssign := true
  isDrmInterface := true
  displayModeChanged := false
  vsyncPeriodChanged := false
  preProcessing _ := 0
  checkExceptionScenario := 0
  checkAdditionalConnection := false
  prepareResources := NO_ERROR
  assignResource _ := NO_ERROR
  deliverPerformanceInfo _ := NO_ERROR
  postProcessValidate _ := NO_ERROR
  wfdSkipFrame _ := false
  changedTypes _ := (NO_ERROR, 0)
  needsValidate _ := false
  earlyStartMPP := false
  startPostProcessing := NO_ERROR
  presentDisplay := HWC2_ERROR_NONE
  validateFences := true
  exceptionChanged := 0
  isDozeModeAvailable := true
  setLowPowerMode := false
  driverSetPowerMode := 0
  openExternalDisplay := 0

def GEOMETRY_LAYER_BLEND_CHANGED : Nat := 2 ^ 3

theorem dualDisplay_init : Init dualDisplay where
  unconsumed := rfl
  stale := by decide
  validateFlag := by decide
  standing i := by
    constructor <;> revert i <;> decide
  unplugged := by decide

/-- A layer of the external display changes before the frame; both displays are
    validated, and the external one is about to be presented. -/
def changedBefore : Device 2 :=
  (((dualDisplay.exec (.setter 1 GEOMETRY_LAYER_BLEND_CHANGED, quiet)).exec
    (.validateDisplay 0, quiet)).exec (.validateDisplay 1, quiet)).exec (.presentDisplay 0, quiet)

theorem no_change_lost_before :
    (changedBefore.presentDisplay quiet 1).delivered = true ∧
      (changedBefore.unconsumed = true → changedBefore.geometryChanged ≠ 0) ∧
      ((changedBefore.display 1).stale = false ∨
        (changedBefore.presentDisplay quiet 1).device.geometryChanged ≠ 0) := by
  have hstart : Reachable Init (guarded InOrder (ofFun exec)) dualDisplay :=
    .start dualDisplay_init
  have hset := hstart.next (a := (.setter 1 GEOMETRY_LAYER_BLEND_CHANGED, quiet)) ⟨by decide, rfl⟩
  have hfirst := hset.next (a := (.validateDisplay 0, quiet)) ⟨by decide, rfl⟩
  have hsecond := hfirst.next (a := (.validateDisplay 1, quiet)) ⟨by decide, rfl⟩
  have hpresent := hsecond.next (a := (.presentDisplay 0, quiet)) ⟨by decide, rfl⟩
  have hlost := no_change_lost (s := changedBefore) hpresent
  have hdelivered : (changedBefore.presentDisplay quiet 1).delivered = true := by decide
  exact ⟨hdelivered, hlost.1, hlost.2 1 quiet (by decide) hdelivered⟩

/-- The same change between the validations of the two displays. -/
def changedBetween : Device 2 :=
  (((dualDisplay.exec (.validateDisplay 0, quiet)).exec
    (.setter 1 GEOMETRY_LAYER_BLEND_CHANGED, quiet)).exec (.validateDisplay 1, quiet)).exec
    (.presentDisplay 0, quiet)

/-- The external display then shows its old assignment, and the last present clears
    the only trace of the change. -/
theorem change_lost_between : Reachable Init (ofFun exec) changedBetween ∧
    (changedBetween.presentDisplay quiet 1).delivered = true ∧
    (changedBetween.display 1).stale = true ∧
    (changedBetween.presentDisplay quiet 1).device.geometryChanged = 0 ∧
    (changedBetween.presentDisplay quiet 1).device.unconsumed = true := by
  refine ⟨.next (.next (.next (.next (.start dualDisplay_init) rfl) rfl) rfl) rfl, ?_, ?_, ?_, ?_⟩
  all_goals decide

end Runs

end Device

end ExynosHal.GeometryFlags
