/-
  ExynosHal/ActiveConfig.lean
  ===========================
  **The active-config state machine of a display.**

  `setActiveConfig`, `setActiveConfigWithConstraints`, the config part of
  `presentDisplay` (`doDisplayConfigPostProcess`) and `handleVsync` of
  `libhwc2.1/display/ExynosDisplay.cpp`.  A request goes NONE → PENDING →
  REQUESTED → NONE; a request for another config group is applied at once and
  reuses the same fields.

  The display interface is outside the state machine: every call an operation
  makes to it is answered by a field of `Driver`, so a run ranges over all
  driver results.  The interface's own bookkeeping (`driverConfig`, the config
  it accepted last, and `failedCalls`, how many config calls it refused) is part
  of the state, because the properties speak about it.
-/
import Mathlib.Algebra.Group.Int.Defs
import Mathlib.Algebra.Group.Nat.Defs
import ExynosHal.TransitionSystem

namespace ExynosHal.ActiveConfig

open ExynosHal.TransitionSystem

/-! ### Return codes -/

def NO_ERROR : Int := 0
def HWC2_ERROR_NONE : Int := 0
def HWC2_ERROR_BAD_CONFIG : Int := 1
def HWC2_ERROR_UNSUPPORTED : Int := 8
def HWC2_ERROR_SEAMLESS_NOT_ALLOWED : Int := 9
def HWC2_ERROR_SEAMLESS_NOT_POSSIBLE : Int := 10

/-- `std::chrono::microseconds(1s).count()`. -/
def microsecsPerSec : Nat := 1000000

/-! ### Data -/

inductive ConfigRequestState where
  | none
  | pending
  | requested
deriving DecidableEq, Repr

structure DisplayConfig where
  vsyncPeriod : Nat
  width : Nat
  height : Nat
  xdpi : Nat
  ydpi : Nat
  groupId : Nat
deriving DecidableEq, Repr, Inhabited

structure Constraints where
  desiredTimeNanos : Int
  seamlessRequired : Bool
deriving DecidableEq, Repr, Inhabited

structure TimeLine where
  newVsyncAppliedTimeNanos : Int
  refreshRequired : Bool
  refreshTimeNanos : Int
deriving DecidableEq, Repr, Inhabited

structure VsyncCallback where
  vsyncEnabled : Bool
  vsyncTimeStamp : Nat
  vsyncPeriod : Nat
  desiredVsyncPeriod : Nat
deriving DecidableEq, Repr, Inhabited

/-- `PendingConfigInfo`: a request made while the power is not on. -/
structure PendingConfigInfo where
  isPending : Bool
  config : Nat
  constraints : Option (Constraints × TimeLine)
deriving DecidableEq, Repr, Inhabited

structure Display where
  displayConfigs : List (Nat × DisplayConfig)
  activeConfig : Nat
  xres : Nat
  yres : Nat
  xdpi : Nat
  ydpi : Nat
  vsyncPeriod : Nat
  configRequestState : ConfigRequestState
  desiredConfig : Nat
  vsyncPeriodChangeConstraints : Constraints
  vsyncAppliedTimeLine : TimeLine
  vsyncCallback : VsyncCallback
  pendConfigInfo : PendingConfigInfo
  powerModeOn : Bool
  /-- The config that the display interface accepted last. -/
  driverConfig : Nat
  /-- How many config calls the display interface has refused so far. -/
  failedCalls : Nat
deriving Repr

/-- The answers of the display interface to the calls of one operation. -/
structure Driver where
  setActiveConfig : Int
  setActiveConfigTest : Int
  setActiveConfigWithConstraints : Int
  getVsyncAppliedTime : Int × Int
  getDisplayVsyncPeriod : Int × Nat
  getDisplayVsyncTimestamp : Int × Nat
  getConfigChangeDuration : Nat
  systemTime : Nat
deriving Repr, Inhabited

namespace Display

def configAt (d : Display) (config : Nat) : DisplayConfig :=
  (d.displayConfigs.lookup config).getD default

/-- Bookkeeping of a config-setting call answered by `rc`. -/
def driverSet (d : Display) (rc : Int) (config : Nat) : Display :=
  if rc = NO_ERROR then { d with driverConfig := config }
  else { d with failedCalls := d.failedCalls + 1 }

/-- Bookkeeping of a call that does not set a config. -/
def driverAsk (d : Display) (rc : Int) : Display :=
  if rc = NO_ERROR then d else { d with failedCalls := d.failedCalls + 1 }

end Display

/-! ### Times

Times are nanoseconds of the monotonic clock. `getConfigAppliedTime` takes them as
`uint64_t`, its callers hold them as `int64_t`. -/

def toU64 (t : Int) : Nat := (t % 2 ^ 64).toNat

/-- The `while` of `getConfigAppliedTime`.  With a zero period the loop of the
    source does not end when it is entered; the result is then `none`. -/
def appliedTimeLoop (vsyncPeriod desiredTime appliedTime : Nat) : Option Nat :=
  if _h : desiredTime > appliedTime then
    if _hp : 0 < vsyncPeriod then
      appliedTimeLoop vsyncPeriod desiredTime (appliedTime + vsyncPeriod)
    else none
  else some appliedTime
termination_by desiredTime - appliedTime

namespace Display

/-- `getConfigAppliedTime`: the applied time and the refresh time. -/
def getConfigAppliedTime (io : Driver) (d : Display) (desiredTime actualChangeTime : Nat) :
    Option (Int × Int) :=
  match appliedTimeLoop d.vsyncPeriod desiredTime actualChangeTime with
  | some appliedTime =>
      -- `transientDuration * mVsyncPeriod` is a product of two `uint32_t`
      let transient : Nat := (io.getConfigChangeDuration * d.vsyncPeriod) % 2 ^ 32
      some ((appliedTime : Int), (appliedTime : Int) - (transient : Int))
  | none => none

/-! ### Requests -/

def isBadConfig (d : Display) (config : Nat) : Bool := (d.displayConfigs.lookup config).isNone

/-- `mDisplayConfigs[mActiveConfig].groupId != mDisplayConfigs[config].groupId`. -/
def groupChange (d : Display) (config : Nat) : Bool :=
  (d.configAt d.activeConfig).groupId != (d.configAt config).groupId

def needChangeConfig (d : Display) (config : Nat) : Bool :=
  if d.displayConfigs.length == 1 && config == 0 then false
  else
    match d.configRequestState with
    | .pending | .requested => config != d.desiredConfig
    | .none => d.activeConfig != config

def updateInternalDisplayConfigVariables (d : Display) (config : Nat) (updateVsync : Bool) :
    Int × Display :=
  match d.displayConfigs.lookup config with
  | none => (HWC2_ERROR_BAD_CONFIG, { d with activeConfig := config })
  | some c =>
      (NO_ERROR, { d with
        activeConfig := config
        xres := c.width
        yres := c.height
        xdpi := c.xdpi
        ydpi := c.ydpi
        vsyncPeriod := if updateVsync then c.vsyncPeriod else d.vsyncPeriod })

def resetConfigRequestState (d : Display) : Display :=
  { d with
    -- `getDisplayAttribute` leaves its output alone for an unknown config
    vsyncPeriod := ((d.displayConfigs.lookup d.desiredConfig).map (·.vsyncPeriod)).getD d.vsyncPeriod
    configRequestState := .none }

def setActiveConfigInternal (io : Driver) (d : Display) (config : Nat) : Int × Display :=
  let d := d.driverSet io.setActiveConfig config
  -- only a negative result counts as a refusal here
  if io.setActiveConfig < 0 then (HWC2_ERROR_BAD_CONFIG, d)
  else
    let d := (d.updateInternalDisplayConfigVariables config false).2
    let d := { d with desiredConfig := config }
    (HWC2_ERROR_NONE, d.resetConfigRequestState)

def setActiveConfig (io : Driver) (d : Display) (config : Nat) : Int × Display :=
  if d.isBadConfig config then (HWC2_ERROR_BAD_CONFIG, d)
  else if !d.powerModeOn then
    (HWC2_ERROR_NONE, { d with pendConfigInfo := ⟨true, config, none⟩ })
  else if !d.needChangeConfig config then (HWC2_ERROR_NONE, d)
  else d.setActiveConfigInternal io config

def checkValidationConfigConstraints (io : Driver) (d : Display) (config : Nat)
    (constraints : Constraints) : Int × Display :=
  if d.isBadConfig config then (HWC2_ERROR_BAD_CONFIG, d)
  else if d.groupChange config && constraints.seamlessRequired then
    (HWC2_ERROR_SEAMLESS_NOT_ALLOWED, d)
  else if d.groupChange config && constraints.desiredTimeNanos > io.systemTime then
    (HWC2_ERROR_UNSUPPORTED, d)
  else if constraints.seamlessRequired then
    if io.setActiveConfigTest ≠ NO_ERROR then
      (HWC2_ERROR_SEAMLESS_NOT_POSSIBLE, d.driverAsk io.setActiveConfigTest)
    else (NO_ERROR, d)
  else (NO_ERROR, d)

/-- The part of `setActiveConfigWithConstraints` behind the power and
    `needChangeConfig` checks. -/
def requestConfig (io : Driver) (d : Display) (config : Nat) (constraints : Constraints)
    (outTimeline : TimeLine) (needUpdateTimeline : Bool) : Option (Int × TimeLine × Display) :=
  let actualChangeTime := io.getVsyncAppliedTime.2
  if io.getVsyncAppliedTime.1 ≠ NO_ERROR then
    some (HWC2_ERROR_UNSUPPORTED, outTimeline, d.driverAsk io.getVsyncAppliedTime.1)
  else
    let d := { d with
      configRequestState := .pending
      vsyncPeriodChangeConstraints := constraints
      desiredConfig := config }
    if d.groupChange config then
      -- the result of `setActiveConfigInternal` is dropped
      some (HWC2_ERROR_NONE,
        { outTimeline with
          newVsyncAppliedTimeNanos := io.systemTime
          refreshRequired := false },
        (d.setActiveConfigInternal io config).2)
    else if needUpdateTimeline then
      (d.getConfigAppliedTime io (toU64 constraints.desiredTimeNanos)
          (toU64 actualChangeTime)).map fun t =>
        let timeline := ⟨t.1, true, t.2⟩
        (HWC2_ERROR_NONE, timeline, { d with vsyncAppliedTimeLine := timeline })
    else some (HWC2_ERROR_NONE, outTimeline, { d with vsyncAppliedTimeLine := outTimeline })

def setActiveConfigWithConstraints (io : Driver) (d : Display) (config : Nat)
    (constraints : Constraints) (outTimeline : TimeLine) (needUpdateTimeline : Bool) :
    Option (Int × TimeLine × Display) :=
  let checked := d.checkValidationConfigConstraints io config constraints
  let d := checked.2
  if checked.1 ≠ NO_ERROR then some (checked.1, outTimeline, d)
  else if !d.powerModeOn then
    let desired := toU64 constraints.desiredTimeNanos
    (d.getConfigAppliedTime io desired desired).map fun t =>
      let timeline := ⟨t.1, true, t.2⟩
      (HWC2_ERROR_NONE, timeline,
        { d with pendConfigInfo := ⟨true, config, some (constraints, timeline)⟩ })
  else if !d.needChangeConfig config then
    some (HWC2_ERROR_NONE,
      if needUpdateTimeline then
        { outTimeline with
          refreshRequired := false
          newVsyncAppliedTimeNanos := constraints.desiredTimeNanos }
      else outTimeline, d)
  else d.requestConfig io config constraints outTimeline needUpdateTimeline

/-! ### Progress of a request -/

def updateVsyncAppliedTimeLine (io : Driver) (d : Display) (actualChangeTime : Int) :
    Option (Int × Display) :=
  (d.getConfigAppliedTime io (toU64 d.vsyncPeriodChangeConstraints.desiredTimeNanos)
      (toU64 actualChangeTime)).map fun t =>
    (NO_ERROR, { d with
      vsyncAppliedTimeLine := ⟨t.1, d.configRequestState != .requested, t.2⟩ })

def updateConfigRequestAppliedTime (io : Driver) (d : Display) : Option (Int × Display) :=
  if d.configRequestState ≠ .requested then some (NO_ERROR, d)
  else
    let d := d.driverAsk io.getVsyncAppliedTime.1
    if io.getVsyncAppliedTime.1 ≠ NO_ERROR then some (io.getVsyncAppliedTime.1, d)
    else d.updateVsyncAppliedTimeLine io io.getVsyncAppliedTime.2

def doDisplayConfigPostProcess (io : Driver) (d : Display) : Option (Int × Display) :=
  let d := d.driverAsk io.getVsyncAppliedTime.1
  let actualChangeTime := io.getVsyncAppliedTime.2
  if io.getVsyncAppliedTime.1 ≠ NO_ERROR then some (io.getVsyncAppliedTime.1, d)
  else if !d.powerModeOn then some (NO_ERROR, d)
  else if actualChangeTime ≥ d.vsyncPeriodChangeConstraints.desiredTimeNanos then
    let d := d.driverSet io.setActiveConfigWithConstraints d.desiredConfig
    if io.setActiveConfigWithConstraints ≠ NO_ERROR then
      some (io.setActiveConfigWithConstraints, d)
    else
      let desiredPeriod := ((d.displayConfigs.lookup d.desiredConfig).map (·.vsyncPeriod)).getD 0
      let d := { d with
        vsyncCallback := { d.vsyncCallback with
          desiredVsyncPeriod := desiredPeriod
          vsyncTimeStamp := 0 }
        configRequestState := .requested }
      d.updateVsyncAppliedTimeLine io actualChangeTime
  else d.updateVsyncAppliedTimeLine io actualChangeTime

/-- The config part of `presentDisplay`: the code reported by
    `doDisplayConfigPostProcess`, and the display after it. -/
def presentConfig (io : Driver) (d : Display) : Option (Int × Display) :=
  let processed :=
    if d.configRequestState = .pending then d.doDisplayConfigPostProcess io
    else some (NO_ERROR, d)
  processed.map fun r =>
    if r.2.configRequestState = .requested then
      (r.1, (r.2.updateInternalDisplayConfigVariables r.2.desiredConfig false).2)
    else r

end Display

/-- `ExynosVsyncCallback::Callback`. -/
def VsyncCallback.callback (cb : VsyncCallback) (timestamp : Nat) : Bool × VsyncCallback :=
  let cb := { cb with
    vsyncPeriod :=
      if cb.vsyncTimeStamp > 0 then (timestamp + 2 ^ 64 - cb.vsyncTimeStamp) % 2 ^ 64
      else cb.vsyncPeriod
    vsyncTimeStamp := timestamp }
  (cb.desiredVsyncPeriod == 0 ||
    cb.desiredVsyncPeriod / microsecsPerSec == cb.vsyncPeriod / microsecsPerSec, cb)

namespace Display

/-- Whether the requested period is in effect, as `handleVsync` finds out. -/
def configApplied (io : Driver) (d : Display) (timestamp : Nat) : Bool × VsyncCallback :=
  if io.getDisplayVsyncPeriod.1 = HWC2_ERROR_NONE then
    (io.getDisplayVsyncPeriod.2 / microsecsPerSec ==
      d.vsyncCallback.desiredVsyncPeriod / microsecsPerSec, d.vsyncCallback)
  else d.vsyncCallback.callback timestamp

/-- The branch of `handleVsync` for a config found applied. -/
def finishRequest (d : Display) : Display :=
  let d :=
    if d.vsyncCallback.desiredVsyncPeriod ≠ 0 then
      { d.resetConfigRequestState with
        vsyncCallback := { d.vsyncCallback with desiredVsyncPeriod := 0 } }
    else d
  if d.vsyncCallback.vsyncEnabled then d
  else { d with vsyncCallback := { d.vsyncCallback with vsyncTimeStamp := 0 } }

/-- `handleVsync` in the REQUESTED state. -/
def checkRequest (io : Driver) (d : Display) (timestamp : Nat) : Option Display :=
  let applied := d.configApplied io timestamp
  let d := { d with vsyncCallback := applied.2 }
  if applied.1 then some d.finishRequest
  else (d.updateConfigRequestAppliedTime io).map (·.2)

def handleVsync (io : Driver) (d : Display) (timestamp : Nat) : Option Display :=
  let timestamp :=
    if timestamp = 0 then
      if io.getDisplayVsyncTimestamp.1 ≠ HWC2_ERROR_NONE then 0 else io.getDisplayVsyncTimestamp.2
    else timestamp
  if d.configRequestState = .requested then d.checkRequest io timestamp else some d

end Display

/-! ### The transition system -/

/-- A call of one of the four entry points, with the driver's answers. -/
inductive Action where
  | setActiveConfig (io : Driver) (config : Nat)
  | setActiveConfigWithConstraints (io : Driver) (config : Nat) (constraints : Constraints)
      (outTimeline : TimeLine) (needUpdateTimeline : Bool)
  | present (io : Driver)
  | handleVsync (io : Driver) (timestamp : Nat)
deriving Repr

/-- The code an action reports (`handleVsync` reports none) and the state it
    leaves; `none` when it does not return. -/
def Action.run : Action → Display → Option (Option Int × Display)
  | .setActiveConfig io config, d =>
      let r := d.setActiveConfig io config
      some (some r.1, r.2)
  | .setActiveConfigWithConstraints io config constraints timeline upd, d =>
      (d.setActiveConfigWithConstraints io config constraints timeline upd).map
        fun r => (some r.1, r.2.2)
  | .present io, d => (d.presentConfig io).map fun r => (some r.1, r.2)
  | .handleVsync io timestamp, d => (d.handleVsync io timestamp).map fun d' => (none, d')

def step (d : Display) (a : Action) (d' : Display) : Prop := ∃ code, a.run d = some (code, d')

/-! ### What a request must guarantee -/

/-- The three fields that a failing request must leave alone. -/
def SameRequest (d d' : Display) : Prop :=
  d'.configRequestState = d.configRequestState ∧ d'.desiredConfig = d.desiredConfig ∧
    d'.activeConfig = d.activeConfig

/-- A request that reports an error, or whose call the display interface
    refused, reports an error and leaves the request fields as they were. -/
def FailureAtomic (a : Action) (d : Display) : Prop :=
  ∀ code d', a.run d = some (some code, d') →
    code ≠ NO_ERROR ∨ d'.failedCalls ≠ d.failedCalls →
    code ≠ NO_ERROR ∧ SameRequest d d'

/-- Active config, resolution and vsync period are those of `config`. -/
def Display.BelongsTo (d : Display) (config : Nat) : Prop :=
  d.activeConfig = config ∧ ∃ c, d.displayConfigs.lookup config = some c ∧
    d.xres = c.width ∧ d.yres = c.height ∧ d.vsyncPeriod = c.vsyncPeriod

/-- With no request under way, everything belongs to the config applied last. -/
def ConsistentWhenNone (d : Display) : Prop :=
  d.configRequestState = .none → d.BelongsTo d.driverConfig

/-- The display after its first config has been applied. -/
def Initialized (d : Display) : Prop :=
  d.configRequestState = .none ∧ d.BelongsTo d.driverConfig

/-- The immediate call of `setActiveConfig` behaves: a refusal is negative, and
    on the group-change path of `setActiveConfigWithConstraints` there is none. -/
def ImmediateCallOk (d : Display) : Action → Prop
  | .setActiveConfig io config =>
      d.isBadConfig config = false → d.powerModeOn = true → d.needChangeConfig config = true →
        io.setActiveConfig ≤ 0
  | .setActiveConfigWithConstraints io config constraints _ _ =>
      (d.checkValidationConfigConstraints io config constraints).1 = NO_ERROR →
        d.powerModeOn = true → d.needChangeConfig config = true →
        io.getVsyncAppliedTime.1 = NO_ERROR → d.groupChange config = true →
        io.setActiveConfig = 0
  | .present _ => True
  | .handleVsync _ _ => True

/-! ### The invariant of a request under way -/

/-- What the fields say in each request state.  A pending request has touched
    nothing but its target; a requested one has the resolution but not yet the
    vsync period of its target. -/
def RequestInv (d : Display) : Prop :=
  match d.configRequestState with
  | .none => d.BelongsTo d.driverConfig
  | .pending => ∃ c, d.displayConfigs.lookup d.desiredConfig = some c
  | .requested =>
      d.desiredConfig = d.driverConfig ∧ d.activeConfig = d.desiredConfig ∧
        ∃ c, d.displayConfigs.lookup d.desiredConfig = some c ∧
          d.xres = c.width ∧ d.yres = c.height

theorem requestInv_none {d : Display} (h : d.configRequestState = .none) :
    RequestInv d ↔ d.BelongsTo d.driverConfig := by
  simp only [RequestInv, h]

theorem requestInv_pending {d : Display} (h : d.configRequestState = .pending) :
    RequestInv d ↔ ∃ c, d.displayConfigs.lookup d.desiredConfig = some c := by
  simp only [RequestInv, h]

theorem requestInv_requested {d : Display} (h : d.configRequestState = .requested) :
    RequestInv d ↔
      d.desiredConfig = d.driverConfig ∧ d.activeConfig = d.desiredConfig ∧
        ∃ c, d.displayConfigs.lookup d.desiredConfig = some c ∧
          d.xres = c.width ∧ d.yres = c.height := by
  simp only [RequestInv, h]

theorem RequestInv.consistentWhenNone {d : Display} (h : RequestInv d) :
    ConsistentWhenNone d :=
  fun hnone => (requestInv_none hnone).mp h

/-- Counting a refused call touches no field of the invariant. -/
@[simp] theorem requestInv_driverAsk (d : Display) (rc : Int) :
    RequestInv (d.driverAsk rc) ↔ RequestInv d := by
  unfold Display.driverAsk
  split <;> rfl

/-! ### Operations, one lemma each -/

namespace Display

theorem isBadConfig_eq_false {d : Display} {config : Nat} :
    d.isBadConfig config = false ↔ ∃ c, d.displayConfigs.lookup config = some c := by
  cases h : d.displayConfigs.lookup config <;> simp [isBadConfig, h]

theorem setActiveConfigInternal_accepted {io : Driver} {d : Display} {config : Nat}
    {c : DisplayConfig} (hc : d.displayConfigs.lookup config = some c)
    (hio : io.setActiveConfig = 0) :
    (d.setActiveConfigInternal io config).1 = NO_ERROR ∧
      (d.setActiveConfigInternal io config).2.configRequestState = .none ∧
      (d.setActiveConfigInternal io config).2.failedCalls = d.failedCalls ∧
      RequestInv (d.setActiveConfigInternal io config).2 := by
  have hrun : d.setActiveConfigInternal io config =
      (HWC2_ERROR_NONE, { d with
        driverConfig := config
        activeConfig := config
        xres := c.width
        yres := c.height
        xdpi := c.xdpi
        ydpi := c.ydpi
        desiredConfig := config
        vsyncPeriod := c.vsyncPeriod
        configRequestState := .none }) := by
    simp [setActiveConfigInternal, driverSet, hio, NO_ERROR,
      updateInternalDisplayConfigVariables, hc, resetConfigRequestState]
  rw [hrun]
  exact ⟨rfl, rfl, rfl, (requestInv_none rfl).mpr ⟨rfl, c, hc, rfl, rfl, rfl⟩⟩

theorem setActiveConfigInternal_refused {io : Driver} (d : Display) (config : Nat)
    (hio : io.setActiveConfig < 0) :
    d.setActiveConfigInternal io config =
      (HWC2_ERROR_BAD_CONFIG, { d with failedCalls := d.failedCalls + 1 }) := by
  have hne : io.setActiveConfig ≠ 0 := by omega
  simp [setActiveConfigInternal, driverSet, hio, hne, NO_ERROR]

/-- A positive refusal is taken for a success. -/
theorem setActiveConfigInternal_positive {io : Driver} (d : Display) (config : Nat)
    (hio : 0 < io.setActiveConfig) :
    (d.setActiveConfigInternal io config).1 = NO_ERROR ∧
      (d.setActiveConfigInternal io config).2.failedCalls = d.failedCalls + 1 := by
  have hne : io.setActiveConfig ≠ 0 := by omega
  have hge : ¬ io.setActiveConfig < 0 := by omega
  unfold setActiveConfigInternal updateInternalDisplayConfigVariables
  simp only [driverSet, NO_ERROR, hne, hge, if_false]
  split <;> exact ⟨rfl, rfl⟩

/-- The validation of a request never touches more than the refusal count. -/
theorem checkValidationConfigConstraints_cases (io : Driver) (d : Display) (config : Nat)
    (constraints : Constraints) :
    ((d.checkValidationConfigConstraints io config constraints).1 = NO_ERROR ∧
      d.isBadConfig config = false ∧
      (d.checkValidationConfigConstraints io config constraints).2 = d) ∨
    ((d.checkValidationConfigConstraints io config constraints).1 ≠ NO_ERROR ∧
      ∃ rc, (d.checkValidationConfigConstraints io config constraints).2 = d.driverAsk rc) := by
  have hself : d = d.driverAsk NO_ERROR := by simp [driverAsk]
  unfold checkValidationConfigConstraints
  split
  · exact Or.inr ⟨(by decide : HWC2_ERROR_BAD_CONFIG ≠ NO_ERROR), NO_ERROR, hself⟩
  · next hbad =>
    have hbad' : d.isBadConfig config = false := by simpa using hbad
    split
    · exact Or.inr ⟨(by decide : HWC2_ERROR_SEAMLESS_NOT_ALLOWED ≠ NO_ERROR), NO_ERROR, hself⟩
    · split
      · exact Or.inr ⟨(by decide : HWC2_ERROR_UNSUPPORTED ≠ NO_ERROR), NO_ERROR, hself⟩
      · split
        · split
          · exact Or.inr
              ⟨(by decide : HWC2_ERROR_SEAMLESS_NOT_POSSIBLE ≠ NO_ERROR), _, rfl⟩
          · exact Or.inl ⟨rfl, hbad', rfl⟩
        · exact Or.inl ⟨rfl, hbad', rfl⟩

/-- Setting the time line touches no field of the invariant. -/
theorem updateVsyncAppliedTimeLine_eq {io : Driver} {d d' : Display} {t code : Int}
    (h : d.updateVsyncAppliedTimeLine io t = some (code, d')) :
    code = NO_ERROR ∧ ∃ timeline, d' = { d with vsyncAppliedTimeLine := timeline } := by
  unfold updateVsyncAppliedTimeLine at h
  obtain ⟨u, -, hu⟩ := Option.map_eq_some_iff.mp h
  cases hu
  exact ⟨rfl, _, rfl⟩

end Display

/-! ### Requests, as one step -/

theorem badConfig_ne : HWC2_ERROR_BAD_CONFIG ≠ NO_ERROR := by decide

/-- A run that reports success and counts no refusal is no failure. -/
theorem failureAtomic_of_success {a : Action} {d : Display}
    (h : ∀ code d', a.run d = some (some code, d') →
      code = NO_ERROR ∧ d'.failedCalls = d.failedCalls) : FailureAtomic a d := by
  intro code d' hrun hfail
  obtain ⟨hcode, hcalls⟩ := h code d' hrun
  exact (hfail.elim (fun hc => hc hcode) (fun hf => hf hcalls)).elim

/-- A run that reports an error and keeps the request fields is atomic. -/
theorem failureAtomic_of_error {a : Action} {d d' : Display} {code : Int}
    (hrun : a.run d = some (some code, d')) (hcode : code ≠ NO_ERROR)
    (hsame : SameRequest d d') : FailureAtomic a d := by
  intro code' d'' hrun' _
  rw [hrun] at hrun'
  cases hrun'
  exact ⟨hcode, hsame⟩

/-- A run that reports success although a call was refused is not. -/
theorem not_failureAtomic {a : Action} {d d' : Display}
    (hrun : a.run d = some (some NO_ERROR, d')) (hcalls : d'.failedCalls ≠ d.failedCalls) :
    ¬ FailureAtomic a d :=
  fun h => (h _ _ hrun (Or.inr hcalls)).1 rfl

theorem setActiveConfig_step (io : Driver) (d : Display) (config : Nat) :
    (FailureAtomic (.setActiveConfig io config) d ↔
      ImmediateCallOk d (.setActiveConfig io config)) ∧
    (RequestInv d → ImmediateCallOk d (.setActiveConfig io config) →
      RequestInv (d.setActiveConfig io config).2) := by
  have hrun : Action.run (.setActiveConfig io config) d =
      some (some (d.setActiveConfig io config).1, (d.setActiveConfig io config).2) := rfl
  by_cases hbad : d.isBadConfig config = true
  · have heq : d.setActiveConfig io config = (HWC2_ERROR_BAD_CONFIG, d) := by
      simp [Display.setActiveConfig, hbad]
    rw [heq] at hrun ⊢
    refine ⟨iff_of_true (failureAtomic_of_error hrun badConfig_ne ⟨rfl, rfl, rfl⟩) ?_,
      fun h _ => h⟩
    intro h
    simp [hbad] at h
  by_cases hpow : d.powerModeOn = true
  rotate_left
  · have heq : d.setActiveConfig io config =
        (HWC2_ERROR_NONE, { d with pendConfigInfo := ⟨true, config, none⟩ }) := by
      simp [Display.setActiveConfig, hbad, hpow]
    rw [heq] at hrun ⊢
    refine ⟨iff_of_true (failureAtomic_of_success ?_) (fun _ h => absurd h hpow), fun h _ => h⟩
    intro code d' h
    rw [hrun] at h
    cases h
    exact ⟨rfl, rfl⟩
  by_cases hneed : d.needChangeConfig config = true
  rotate_left
  · have heq : d.setActiveConfig io config = (HWC2_ERROR_NONE, d) := by
      simp [Display.setActiveConfig, hbad, hpow, hneed]
    rw [heq] at hrun ⊢
    refine ⟨iff_of_true (failureAtomic_of_success ?_) (fun _ _ h => absurd h hneed), fun h _ => h⟩
    intro code d' h
    rw [hrun] at h
    cases h
    exact ⟨rfl, rfl⟩
  -- the driver is asked to apply the config at once
  have heq : d.setActiveConfig io config = d.setActiveConfigInternal io config := by
    simp [Display.setActiveConfig, hbad, hpow, hneed]
  rw [heq] at hrun ⊢
  have hbad' : d.isBadConfig config = false := by simpa using hbad
  obtain ⟨c, hc⟩ := Display.isBadConfig_eq_false.mp hbad'
  have hok : ImmediateCallOk d (.setActiveConfig io config) ↔ io.setActiveConfig ≤ 0 :=
    ⟨fun h => h hbad' hpow hneed, fun h _ _ _ => h⟩
  rw [hok]
  rcases Int.lt_trichotomy io.setActiveConfig 0 with hlt | hzero | hpos
  · have href := Display.setActiveConfigInternal_refused d config hlt
    rw [href] at hrun ⊢
    exact ⟨iff_of_true (failureAtomic_of_error hrun badConfig_ne ⟨rfl, rfl, rfl⟩) (by omega),
      fun h _ => h⟩
  · obtain ⟨hcode, -, hcalls, hinv⟩ := Display.setActiveConfigInternal_accepted hc hzero
    refine ⟨iff_of_true (failureAtomic_of_success ?_) (by omega), fun _ _ => hinv⟩
    intro code d' h
    rw [hrun] at h
    cases h
    exact ⟨hcode, hcalls⟩
  · obtain ⟨hcode, hcalls⟩ :=
      Display.setActiveConfigInternal_positive d config hpos
    rw [hcode] at hrun
    exact ⟨iff_of_false (not_failureAtomic hrun (by omega)) (by omega), fun _ h => by omega⟩

/-- The pending state in which `requestConfig` leaves or consults the driver. -/
def Display.pendingFor (d : Display) (config : Nat) (constraints : Constraints) : Display :=
  { d with
    configRequestState := .pending
    vsyncPeriodChangeConstraints := constraints
    desiredConfig := config }

/-- Within the config group the request only becomes pending. -/
theorem requestConfig_sameGroup {io : Driver} {d : Display} {config : Nat}
    {constraints : Constraints} {timeline : TimeLine} {upd : Bool} {c : DisplayConfig}
    (hc : d.displayConfigs.lookup config = some c)
    (hio : io.getVsyncAppliedTime.1 = NO_ERROR) (hgroup : d.groupChange config = false)
    {code : Int} {tl : TimeLine} {d' : Display}
    (h : d.requestConfig io config constraints timeline upd = some (code, tl, d')) :
    code = NO_ERROR ∧ d'.failedCalls = d.failedCalls ∧ RequestInv d' := by
  have hinv : RequestInv (d.pendingFor config constraints) := (requestInv_pending rfl).mpr ⟨c, hc⟩
  have hgroup' : (d.pendingFor config constraints).groupChange config = false := hgroup
  unfold Display.requestConfig at h
  simp only [hio, ne_eq, not_true_eq_false, if_false] at h
  rw [if_neg (by simpa [Display.pendingFor] using hgroup')] at h
  split at h
  · obtain ⟨u, -, hu⟩ := Option.map_eq_some_iff.mp h
    cases hu
    exact ⟨rfl, rfl, hinv⟩
  · cases h
    exact ⟨rfl, rfl, hinv⟩

/-- For another config group the request is applied at once; the code reported
    is the same whatever the driver says. -/
theorem requestConfig_groupChange {io : Driver} {d : Display} {config : Nat}
    (constraints : Constraints) (timeline : TimeLine) (upd : Bool)
    (hio : io.getVsyncAppliedTime.1 = NO_ERROR) (hgroup : d.groupChange config = true) :
    ∃ tl, d.requestConfig io config constraints timeline upd =
      some (NO_ERROR, tl,
        ((d.pendingFor config constraints).setActiveConfigInternal io config).2) := by
  have hgroup' : (d.pendingFor config constraints).groupChange config = true := hgroup
  unfold Display.requestConfig
  simp only [hio, ne_eq, not_true_eq_false, if_false]
  rw [if_pos (by simpa [Display.pendingFor] using hgroup')]
  exact ⟨_, rfl⟩

theorem driverAsk_sameRequest (d : Display) (rc : Int) : SameRequest d (d.driverAsk rc) := by
  unfold Display.driverAsk
  split <;> exact ⟨rfl, rfl, rfl⟩

/-- The immediate path is taken, up to the driver's answer. -/
def Display.asksAtOnce (d : Display) (io : Driver) (config : Nat) (constraints : Constraints) :
    Prop :=
  (d.checkValidationConfigConstraints io config constraints).1 = NO_ERROR ∧
    d.powerModeOn = true ∧ d.needChangeConfig config = true ∧
    io.getVsyncAppliedTime.1 = NO_ERROR ∧ d.groupChange config = true

theorem setActiveConfigWithConstraints_atOnce {io : Driver} {d : Display} {config : Nat}
    {constraints : Constraints} (timeline : TimeLine) (upd : Bool)
    (h : d.asksAtOnce io config constraints) :
    ∃ tl, d.setActiveConfigWithConstraints io config constraints timeline upd =
      some (NO_ERROR, tl,
        ((d.pendingFor config constraints).setActiveConfigInternal io config).2) := by
  obtain ⟨hok, hpow, hneed, hio, hgroup⟩ := h
  have hd : (d.checkValidationConfigConstraints io config constraints).2 = d := by
    rcases Display.checkValidationConfigConstraints_cases io d config constraints with h | h
    · exact h.2.2
    · exact absurd hok h.1
  obtain ⟨tl, hreq⟩ := requestConfig_groupChange constraints timeline upd hio hgroup
  refine ⟨tl, ?_⟩
  simp [Display.setActiveConfigWithConstraints, hok, hd, hpow, hneed, hreq]

/-- Off the immediate path a request reports its failures and keeps the invariant. -/
theorem setActiveConfigWithConstraints_deferred {io : Driver} {d : Display} {config : Nat}
    {constraints : Constraints} {timeline : TimeLine} {upd : Bool}
    (hnot : ¬ d.asksAtOnce io config constraints) {code : Int} {tl : TimeLine} {d' : Display}
    (h : d.setActiveConfigWithConstraints io config constraints timeline upd =
      some (code, tl, d')) :
    ((code = NO_ERROR ∧ d'.failedCalls = d.failedCalls) ∨
      (code ≠ NO_ERROR ∧ SameRequest d d')) ∧
    (RequestInv d → RequestInv d') := by
  unfold Display.setActiveConfigWithConstraints at h
  rcases Display.checkValidationConfigConstraints_cases io d config constraints with
    ⟨hok, hbad, hd⟩ | ⟨hcode, rc, hd⟩
  rotate_left
  · simp only [hd, ne_eq, hcode, not_false_eq_true, if_true] at h
    cases h
    exact ⟨Or.inr ⟨hcode, driverAsk_sameRequest d rc⟩, (requestInv_driverAsk d rc).mpr⟩
  obtain ⟨c, hc⟩ := Display.isBadConfig_eq_false.mp hbad
  simp only [hd, hok, ne_eq, not_true_eq_false, if_false] at h
  cases hpow : d.powerModeOn with
  | false =>
    simp only [hpow, Bool.not_false, if_true] at h
    obtain ⟨u, -, hu⟩ := Option.map_eq_some_iff.mp h
    cases hu
    exact ⟨Or.inl ⟨rfl, rfl⟩, fun hinv => hinv⟩
  | true =>
    simp only [hpow, Bool.not_true, Bool.false_eq_true, if_false] at h
    cases hneed : d.needChangeConfig config with
    | false =>
      simp only [hneed, Bool.not_false, if_true] at h
      cases h
      exact ⟨Or.inl ⟨rfl, rfl⟩, fun hinv => hinv⟩
    | true =>
      simp only [hneed, Bool.not_true, Bool.false_eq_true, if_false] at h
      by_cases hio : io.getVsyncAppliedTime.1 = NO_ERROR
      · have hgroup : d.groupChange config = false :=
          Bool.eq_false_iff.mpr fun hg => hnot ⟨hok, hpow, hneed, hio, hg⟩
        obtain ⟨hcode, hcalls, hinv⟩ := requestConfig_sameGroup hc hio hgroup h
        exact ⟨Or.inl ⟨hcode, hcalls⟩, fun _ => hinv⟩
      · simp only [Display.requestConfig, ne_eq, hio, not_false_eq_true, if_true] at h
        cases h
        exact ⟨Or.inr ⟨(by decide : HWC2_ERROR_UNSUPPORTED ≠ NO_ERROR),
          driverAsk_sameRequest d _⟩, (requestInv_driverAsk d _).mpr⟩

theorem setActiveConfigWithConstraints_step (io : Driver) (d : Display) (config : Nat)
    (constraints : Constraints) (timeline : TimeLine) (upd : Bool) :
    (FailureAtomic (.setActiveConfigWithConstraints io config constraints timeline upd) d ↔
      ImmediateCallOk d (.setActiveConfigWithConstraints io config constraints timeline upd)) ∧
    (RequestInv d →
      ImmediateCallOk d (.setActiveConfigWithConstraints io config constraints timeline upd) →
      ∀ r, d.setActiveConfigWithConstraints io config constraints timeline upd = some r →
        RequestInv r.2.2) := by
  by_cases hask : d.asksAtOnce io config constraints
  · obtain ⟨tl, heq⟩ := setActiveConfigWithConstraints_atOnce timeline upd hask
    have hrun : Action.run (.setActiveConfigWithConstraints io config constraints timeline upd) d =
        some (some NO_ERROR,
          ((d.pendingFor config constraints).setActiveConfigInternal io config).2) := by
      simp only [Action.run, heq, Option.map_some]
    have hok : ImmediateCallOk d
          (.setActiveConfigWithConstraints io config constraints timeline upd) ↔
        io.setActiveConfig = 0 :=
      ⟨fun h => h hask.1 hask.2.1 hask.2.2.1 hask.2.2.2.1 hask.2.2.2.2,
        fun h _ _ _ _ _ => h⟩
    rw [hok]
    have hbad : d.isBadConfig config = false := by
      rcases Display.checkValidationConfigConstraints_cases io d config constraints with h | h
      · exact h.2.1
      · exact absurd hask.1 h.1
    obtain ⟨c, hc⟩ := Display.isBadConfig_eq_false.mp hbad
    by_cases hio : io.setActiveConfig = 0
    · obtain ⟨-, -, hcalls, hinv⟩ := Display.setActiveConfigInternal_accepted
        (d := d.pendingFor config constraints) hc hio
      refine ⟨iff_of_true (failureAtomic_of_success ?_) hio, fun _ _ r hr => ?_⟩
      · intro code d' h
        rw [hrun] at h
        cases h
        exact ⟨rfl, hcalls⟩
      · rw [heq] at hr
        cases hr
        exact hinv
    · refine ⟨iff_of_false (not_failureAtomic hrun ?_) hio, fun _ h => absurd h hio⟩
      rcases Int.lt_or_gt_of_ne hio with hlt | hgt
      · rw [Display.setActiveConfigInternal_refused _ config hlt]
        exact Nat.succ_ne_self _
      · rw [(Display.setActiveConfigInternal_positive _ config hgt).2]
        exact Nat.succ_ne_self _
  · refine ⟨iff_of_true ?_ (fun h1 h2 h3 h4 h5 => absurd ⟨h1, h2, h3, h4, h5⟩ hask), ?_⟩
    · intro code d' hrun hfail
      obtain ⟨⟨code', tl, d''⟩, hr, heq⟩ := Option.map_eq_some_iff.mp hrun
      cases heq
      rcases (setActiveConfigWithConstraints_deferred hask hr).1 with ⟨hcode, hcalls⟩ | hsame
      · exact (hfail.elim (fun hc => hc hcode) (fun hf => hf hcalls)).elim
      · exact hsame
    · intro hinv _ r hr
      obtain ⟨code, tl, d'⟩ := r
      exact (setActiveConfigWithConstraints_deferred hask hr).2 hinv

/-! ### Present and vsync, as one step -/

/-- `doDisplayConfigPostProcess` on a pending request: it fails and leaves the
    request, waits, or hands the request to the driver. -/
theorem doDisplayConfigPostProcess_cases {io : Driver} {d d' : Display} {code : Int}
    (hpend : d.configRequestState = .pending) (hinv : RequestInv d)
    (h : d.doDisplayConfigPostProcess io = some (code, d')) :
    (d'.configRequestState = .pending ∧ SameRequest d d' ∧ RequestInv d' ∧
      (code = NO_ERROR → d'.failedCalls = d.failedCalls)) ∨
    (code = NO_ERROR ∧ d'.failedCalls = d.failedCalls ∧ d'.configRequestState = .requested ∧
      d'.driverConfig = d'.desiredConfig ∧
      ∃ c, d'.displayConfigs.lookup d'.desiredConfig = some c) := by
  have hstays (rc : Int) : (d.driverAsk rc).configRequestState = .pending := by
    rw [← hpend]
    exact (driverAsk_sameRequest d rc).1
  unfold Display.doDisplayConfigPostProcess at h
  by_cases hio : io.getVsyncAppliedTime.1 = NO_ERROR
  rotate_left
  · simp only [ne_eq, hio, not_false_eq_true, if_true] at h
    cases h
    exact Or.inl ⟨hstays _, driverAsk_sameRequest d _, (requestInv_driverAsk d _).mpr hinv,
      fun hcode => absurd hcode hio⟩
  simp only [hio, ne_eq, not_true_eq_false, if_false] at h
  split at h
  · cases h
    exact Or.inl ⟨hpend, ⟨rfl, rfl, rfl⟩, hinv, fun _ => rfl⟩
  · split at h
    · by_cases hset : io.setActiveConfigWithConstraints = NO_ERROR
      · simp only [hset, not_true_eq_false, if_false] at h
        obtain ⟨hcode, timeline, rfl⟩ := Display.updateVsyncAppliedTimeLine_eq h
        obtain ⟨c, hc⟩ := (requestInv_pending hpend).mp hinv
        exact Or.inr ⟨hcode, rfl, rfl, rfl, c, hc⟩
      · simp only [hset, not_false_eq_true, if_true] at h
        cases h
        simp only [Display.driverSet, hset, if_false]
        exact Or.inl ⟨hpend, ⟨rfl, rfl, rfl⟩, hinv, fun hcode => hcode.elim⟩
    · obtain ⟨hcode, timeline, rfl⟩ := Display.updateVsyncAppliedTimeLine_eq h
      exact Or.inl ⟨hpend, ⟨rfl, rfl, rfl⟩, hinv, fun _ => rfl⟩

/-- With its request accepted, present moves config and resolution over. -/
theorem updateInternal_requestInv {d : Display} {c : DisplayConfig}
    (hreq : d.configRequestState = .requested) (hdrv : d.driverConfig = d.desiredConfig)
    (hc : d.displayConfigs.lookup d.desiredConfig = some c) :
    (d.updateInternalDisplayConfigVariables d.desiredConfig false).2.failedCalls =
      d.failedCalls ∧
    RequestInv (d.updateInternalDisplayConfigVariables d.desiredConfig false).2 := by
  unfold Display.updateInternalDisplayConfigVariables
  rw [hc]
  refine ⟨rfl, (requestInv_requested ?_).mpr ?_⟩
  · exact hreq
  · exact ⟨hdrv.symm, rfl, c, hc, rfl, rfl⟩

theorem present_step {io : Driver} {d d' : Display} {code : Int} (hinv : RequestInv d)
    (h : d.presentConfig io = some (code, d')) :
    (code ≠ NO_ERROR ∨ d'.failedCalls ≠ d.failedCalls → code ≠ NO_ERROR ∧ SameRequest d d') ∧
    RequestInv d' := by
  obtain ⟨⟨code₁, d₁⟩, hproc, heq⟩ := Option.map_eq_some_iff.mp h
  cases hstate : d.configRequestState with
  | none =>
    simp only [hstate, reduceCtorEq, if_false] at hproc
    cases hproc
    simp only [hstate, reduceCtorEq, if_false] at heq
    cases heq
    exact ⟨fun hf => absurd rfl (hf.elim id fun h => absurd rfl h), hinv⟩
  | requested =>
    simp only [hstate, reduceCtorEq, if_false] at hproc
    cases hproc
    simp only [hstate, if_true] at heq
    cases heq
    obtain ⟨hdes, -, c, hc, -, -⟩ := (requestInv_requested hstate).mp hinv
    obtain ⟨hcalls, hinv'⟩ := updateInternal_requestInv hstate hdes.symm hc
    exact ⟨fun hf => absurd rfl (hf.elim id fun h => absurd hcalls h), hinv'⟩
  | pending =>
    simp only [hstate, if_true] at hproc
    rcases doDisplayConfigPostProcess_cases hstate hinv hproc with
      ⟨hpend, hsame, hinv₁, hcalls⟩ | ⟨hcode, hcalls, hreq, hdrv, c, hc⟩
    · simp only [hpend, reduceCtorEq, if_false] at heq
      cases heq
      refine ⟨fun hf => ⟨fun hcode => ?_, hsame⟩, hinv₁⟩
      exact hf.elim (fun h => h hcode) (fun h => h (hcalls hcode))
    · simp only [hreq, if_true] at heq
      cases heq
      obtain ⟨hcalls', hinv'⟩ := updateInternal_requestInv hreq hdrv hc
      exact ⟨fun hf => (hf.elim (fun h => h hcode) (fun h => h (hcalls'.trans hcalls))).elim,
        hinv'⟩

theorem finishRequest_requestInv {d : Display} (hreq : d.configRequestState = .requested)
    (hinv : RequestInv d) : RequestInv d.finishRequest := by
  obtain ⟨hdes, hact, c, hc, hx, hy⟩ := (requestInv_requested hreq).mp hinv
  have hdone (cb : VsyncCallback) :
      RequestInv { d.resetConfigRequestState with vsyncCallback := cb } := by
    refine (requestInv_none rfl).mpr ⟨hact.trans hdes, c, hdes ▸ hc, hx, hy, ?_⟩
    simp only [Display.resetConfigRequestState, hc, Option.map_some, Option.getD_some]
  unfold Display.finishRequest
  by_cases hper : d.vsyncCallback.desiredVsyncPeriod = 0
  · simp only [hper, ne_eq, not_true_eq_false, if_false]
    split <;> exact hinv
  · simp only [hper, ne_eq, not_false_eq_true, if_true]
    split <;> exact hdone _

theorem checkRequest_requestInv {io : Driver} {d d' : Display} {timestamp : Nat}
    (hreq : d.configRequestState = .requested) (hinv : RequestInv d)
    (h : d.checkRequest io timestamp = some d') : RequestInv d' := by
  let d₀ := { d with vsyncCallback := (d.configApplied io timestamp).2 }
  have hinv₀ : RequestInv d₀ := hinv
  have hreq₀ : d₀.configRequestState = .requested := hreq
  change (if (d.configApplied io timestamp).1 then some d₀.finishRequest
    else (d₀.updateConfigRequestAppliedTime io).map (·.2)) = some d' at h
  split at h
  · cases h
    exact finishRequest_requestInv hreq₀ hinv₀
  · obtain ⟨⟨code, d₁⟩, hupd, rfl⟩ := Option.map_eq_some_iff.mp h
    unfold Display.updateConfigRequestAppliedTime at hupd
    rw [if_neg (not_not_intro hreq₀)] at hupd
    dsimp only at hupd
    split at hupd
    · cases hupd
      exact (requestInv_driverAsk _ _).mpr hinv₀
    · obtain ⟨-, timeline, rfl⟩ := Display.updateVsyncAppliedTimeLine_eq hupd
      exact (requestInv_driverAsk _ _).mpr hinv₀

theorem handleVsync_step {io : Driver} {d d' : Display} {timestamp : Nat} (hinv : RequestInv d)
    (h : d.handleVsync io timestamp = some d') : RequestInv d' := by
  unfold Display.handleVsync at h
  by_cases hreq : d.configRequestState = .requested
  · rw [if_pos hreq] at h
    exact checkRequest_requestInv hreq hinv h
  · rw [if_neg hreq] at h
    cases h
    exact hinv

/-! ### Runs -/

/-- Every step whose immediate call behaves keeps the invariant. -/
theorem requestInv_step {d d' : Display} {a : Action} (hinv : RequestInv d)
    (hok : ImmediateCallOk d a) (h : step d a d') : RequestInv d' := by
  obtain ⟨code, hrun⟩ := h
  cases a with
  | setActiveConfig io config =>
    cases hrun
    exact (setActiveConfig_step io d config).2 hinv hok
  | setActiveConfigWithConstraints io config constraints timeline upd =>
    obtain ⟨r, hr, heq⟩ := Option.map_eq_some_iff.mp hrun
    cases heq
    exact (setActiveConfigWithConstraints_step io d config constraints timeline upd).2 hinv hok
      r hr
  | present io =>
    obtain ⟨r, hr, heq⟩ := Option.map_eq_some_iff.mp hrun
    cases heq
    exact (present_step hinv hr).2
  | handleVsync io timestamp =>
    obtain ⟨d₁, hr, heq⟩ := Option.map_eq_some_iff.mp hrun
    cases heq
    exact handleVsync_step hinv hr

/-- In a state of the invariant a step is failure atomic exactly when its
    immediate call behaves. -/
theorem failureAtomic_iff {d : Display} (hinv : RequestInv d) (a : Action) :
    FailureAtomic a d ↔ ImmediateCallOk d a := by
  cases a with
  | setActiveConfig io config => exact (setActiveConfig_step io d config).1
  | setActiveConfigWithConstraints io config constraints timeline upd =>
    exact (setActiveConfigWithConstraints_step io d config constraints timeline upd).1
  | present io =>
    refine iff_of_true (fun code d' hrun => ?_) trivial
    obtain ⟨r, hr, heq⟩ := Option.map_eq_some_iff.mp hrun
    cases heq
    exact (present_step hinv hr).1
  | handleVsync io timestamp =>
    refine iff_of_true (fun code d' hrun => ?_) trivial
    obtain ⟨d₁, hr, heq⟩ := Option.map_eq_some_iff.mp hrun
    cases heq

/-- **Active-config runs.**  In every state reached by calls whose immediate
    driver call behaves, the fields belong to the config applied last whenever no
    request is under way, and the next call is failure atomic exactly when its
    own immediate driver call behaves. -/
theorem activeConfig_run {d : Display}
    (h : Reachable Initialized (guarded ImmediateCallOk step) d) :
    ConsistentWhenNone d ∧ ∀ a, FailureAtomic a d ↔ ImmediateCallOk d a := by
  have hstart : ∀ d, Initialized d → RequestInv d := by
    intro d h0
    exact (requestInv_none h0.1).mpr h0.2
  have hnext : ∀ d a d', RequestInv d → guarded ImmediateCallOk step d a d' → RequestInv d' := by
    intro d a d' hi hs
    exact requestInv_step hi hs.1 hs.2
  have hinv : RequestInv d := h.invariant hstart hnext
  exact ⟨hinv.consistentWhenNone, failureAtomic_iff hinv⟩

/-- A display with three configs, the last one in a group of its own, that has
    applied the first. -/
def bootDisplay : Display where
  displayConfigs :=
    [(0, ⟨16666666, 1080, 2400, 400, 400, 0⟩), (1, ⟨8333333, 1080, 2400, 400, 400, 0⟩),
     (2, ⟨16666666, 720, 1600, 270, 270, 1⟩)]
  activeConfig := 0
  xres := 1080
  yres := 2400
  xdpi := 400
  ydpi := 400
  vsyncPeriod := 16666666
  configRequestState := .none
  desiredConfig := 0
  vsyncPeriodChangeConstraints := ⟨0, false⟩
  vsyncAppliedTimeLine := default
  vsyncCallback := default
  pendConfigInfo := default
  powerModeOn := true
  driverConfig := 0
  failedCalls := 0

theorem bootDisplay_initialized : Initialized bootDisplay :=
  ⟨rfl, rfl, _, rfl, rfl, rfl, rfl⟩

/-- A driver that accepts everything. -/
def acceptingDriver : Driver := default

/-- Apply config 2 and look at the state reached. -/
theorem activeConfig_run_boot :
    ConsistentWhenNone (bootDisplay.setActiveConfig acceptingDriver 2).2 ∧
      ∀ a, FailureAtomic a (bootDisplay.setActiveConfig acceptingDriver 2).2 ↔
        ImmediateCallOk (bootDisplay.setActiveConfig acceptingDriver 2).2 a :=
  activeConfig_run
    (.next (a := .setActiveConfig acceptingDriver 2) (.start bootDisplay_initialized)
      ⟨fun _ _ _ => by decide, _, rfl⟩)

/-- The driver refuses the immediate call of a group change with `-EINVAL`: the
    request reports success and stays pending. -/
theorem groupChange_refusal_lost :
    Reachable Initialized step bootDisplay ∧
      ¬ FailureAtomic
        (.setActiveConfigWithConstraints { acceptingDriver with setActiveConfig := -22 } 2
          ⟨0, false⟩ default true) bootDisplay := by
  refine ⟨.start bootDisplay_initialized, fun h => ?_⟩
  exact (h NO_ERROR _ rfl (Or.inr (by decide))).1 rfl

end ExynosHal.ActiveConfig
