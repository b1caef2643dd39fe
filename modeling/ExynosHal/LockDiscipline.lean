/-
  ExynosHal/LockDiscipline.lean
  =============================
  **Which calls of the device take `mMutex`, and which one takes it twice.**

  The entry points of `libhwc2.1/device/ExynosDevice.cpp` as programs over the
  lock.  A function of the device that needs `mMutex` and is also called under it
  has an unlocked twin: `handleVsyncPeriodChange` guards
  `handleVsyncPeriodChangeInternal`.  `setVsyncMode` runs under the lock of
  `validateDisplay` and calls the guarded one, in the one frame in which the
  vsync mode property is no longer what it was.

  What the calls do to the displays is `GeometryFlags.lean`; the displays and the
  resource manager do not call a locking function of the device, so a call of
  theirs is one silent step here.  `invalidate` only queues a refresh.
-/
import Mathlib.Algebra.Group.Int.Defs
import ExynosHal.GeometryFlags
import ExynosHal.NonRecursiveLock
import ExynosHal.TransitionSystem

namespace ExynosHal.LockDiscipline

open ExynosHal.GeometryFlags ExynosHal.NonRecursiveLock ExynosHal.TransitionSystem

/-! ### What the lock guards -/

def HWC2_ERROR_BAD_DISPLAY : Int := 2

def DEFAULT_MODE : Nat := 0
def HIGHEST_MODE : Nat := 2

def DISPLAY_MODE_NUM : Nat := 2

/-- The device with the two modes that a validation takes over. -/
structure Hwc (n : Nat) where
  device : Device n
  mVsyncMode : Nat
  mDisplayMode : Nat

/-- What a validation reads that the lock does not guard. -/
structure Settings where
  /-- The text of `vendor.hwc.exynos.vsync_mode`, empty when it is not set. -/
  vsync_mode : List Char
  /-- `exynosHWCControl.displayMode`. -/
  displayMode : Nat

/-! ### The vsync mode property -/

def isspace (c : Char) : Bool := c == ' ' || (9 ≤ c.toNat && c.toNat ≤ 13)

/-- The number that the leading digits continue. -/
def digits (value : Nat) : List Char → Nat
  | [] => value
  | c :: cs => if c.isDigit then digits (10 * value + (c.toNat - 48)) cs else value

def atoi (value : List Char) : Int :=
  match value.dropWhile isspace with
  | '-' :: cs => -(digits 0 cs : Int)
  | '+' :: cs => digits 0 cs
  | cs => digits 0 cs

def property_get (value default_value : List Char) : List Char :=
  if value = [] then default_value else value

/-- `int mode`, as it is compared with and stored in a `uint32_t`. -/
def Settings.mode (settings : Settings) : Nat :=
  (atoi (property_get settings.vsync_mode ['0']) % 2 ^ 32).toNat

/-! ### The functions of the device -/

variable {n : Nat}

/-- A step that only changes the displays and the geometry flags. -/
def onDevice {α : Type} (f : Device n → α × Device n) : Program (Hwc n) α :=
  quietly fun g => ((f g.device).1, { g with device := (f g.device).2 })

/-- The present value of what the lock guards. -/
def shared : Program (Hwc n) (Hwc n) := quietly fun g => (g, g)

def handleVsyncPeriodChangeInternal (env : Env n) : Program (Hwc n) Bool :=
  onDevice fun s =>
    (env.vsyncPeriodChanged, s.handleVsyncPeriodChangeInternal env.vsyncPeriodChanged)

def handleVsyncPeriodChange (env : Env n) : Program (Hwc n) Bool :=
  autolock (handleVsyncPeriodChangeInternal env)

def setVsyncMode (env : Env n) (settings : Settings) : Program (Hwc n) Unit := do
  let g ← shared
  if g.mVsyncMode ≠ settings.mode then
    quietly fun g => ((), { g with mVsyncMode := settings.mode })
    let _ ← handleVsyncPeriodChange env

/-- The display mode that another validation would use. -/
def displayModeChanges (g : Hwc n) (settings : Settings) : Bool :=
  decide (settings.displayMode < DISPLAY_MODE_NUM ∧ g.mDisplayMode ≠ settings.displayMode)

/-- The start of `validateAllDisplays`. -/
def takeDisplayMode (settings : Settings) : Program (Hwc n) Unit :=
  quietly fun g =>
    if displayModeChanges g settings then
      ((), { g with
        device := g.device.setGeometryChanged GEOMETRY_DEVICE_DISP_MODE_CHAGED
        mDisplayMode := settings.displayMode })
    else ((), g)

/-- The displays' part of `validateAllDisplays`, behind both modes. -/
def validateWork (env : Env n) (firstDisplay : Fin n) : Program (Hwc n) Int :=
  onDevice fun s =>
    s.validateAllDisplays { env with displayModeChanged := false, vsyncPeriodChanged := false }
      firstDisplay

def validateAllDisplays (env : Env n) (settings : Settings) (firstDisplay : Fin n) :
    Program (Hwc n) Int := do
  takeDisplayMode settings
  setVsyncMode env settings
  validateWork env firstDisplay

/-- The frame of this display is dropped. -/
def unavailable (e : Display) : Bool := !e.plugState || e.isFrameSkipPowerState

/-- A validation of a display that is off or unplugged. -/
def forceSkipValidate (d : Fin n) : Program (Hwc n) Int :=
  onDevice fun s => (HWC2_ERROR_NONE, s.update d fun e =>
    { e with needSkipValidatePresent := true }.forceSkipValidateDisplay)

/-- A validation of a display behind the first one of the frame. -/
def validateLater (env : Env n) (d : Fin n) : Program (Hwc n) Int :=
  onDevice fun s =>
    let s := s.update d fun e =>
      { e with needSkipValidatePresent := !e.validateFlag }.setValidateState
    (Device.validateResult env d,
      if (env.changedTypes d).1 ≠ NO_ERROR then s.setGeometryChanged GEOMETRY_ERROR_CASE else s)

/-- `retCallback` of `validateDisplay`. -/
def markValidated (d : Fin n) : Program (Hwc n) Unit :=
  onDevice fun s => ((), s.update d fun e => { e with hwcRenderingState := .validated })

/-- The three ways to validate a display. -/
def validateBranch (env : Env n) (settings : Settings) (d : Fin n) : Program (Hwc n) Int := do
  let g ← shared
  if unavailable (g.device.display d) then forceSkipValidate d
  else if g.device.isFirstValidate then validateAllDisplays env settings d
  else validateLater env d

/-- The body of `validateDisplay`; the two flags tell which pointers are given. -/
def validateBody (env : Env n) (settings : Settings) (d : Fin n)
    (outNumTypes outNumRequests : Bool) : Program (Hwc n) Int :=
  if !outNumTypes || !outNumRequests then
    return HWC2_ERROR_BAD_PARAMETER
  else do
    let ret ← validateBranch env settings d
    markValidated d
    return ret

def validateDisplay (env : Env n) (settings : Settings) (d : Fin n)
    (outNumTypes outNumRequests : Bool) : Program (Hwc n) Int :=
  autolock (validateBody env settings d outNumTypes outNumRequests)

def presentBody (env : Env n) : Option (Fin n) → Program (Hwc n) Int
  | none => return HWC2_ERROR_BAD_DISPLAY
  | some d => onDevice fun s =>
      let result := s.presentDisplay env d
      (result.ret, result.device)

def presentDisplay (env : Env n) (display : Option (Fin n)) : Program (Hwc n) Int :=
  autolock (presentBody env display)

/-- `setPowerMode` and the calls for a virtual display use the unlocked twin. -/
def setPowerMode (env : Env n) (mode : PowerMode) : Option (Fin n) → Program (Hwc n) Int
  | none => autolock (return HWC2_ERROR_BAD_DISPLAY)
  | some d => autolock (onDevice fun s => s.setPowerMode env d mode)

def createVirtualDisplay (env : Env n) (d : Fin n) : Program (Hwc n) Int :=
  autolock (onDevice fun s => (HWC2_ERROR_NONE, s.createVirtualDisplay env d))

def destroyVirtualDisplay (env : Env n) (d : Fin n) : Program (Hwc n) Int :=
  autolock (onDevice fun s => (HWC2_ERROR_NONE, s.destroyVirtualDisplay env d))

/-- The entry points. -/
inductive Call (n : Nat) where
  | validateDisplay (d : Fin n) (outNumTypes outNumRequests : Bool)
  | presentDisplay (display : Option (Fin n))
  | handleVsyncPeriodChange
  | setPowerMode (display : Option (Fin n)) (mode : PowerMode)
  | createVirtualDisplay (d : Fin n)
  | destroyVirtualDisplay (d : Fin n)

def Call.program (env : Env n) (settings : Settings) : Call n → Program (Hwc n) Int
  | .validateDisplay d outNumTypes outNumRequests =>
      LockDiscipline.validateDisplay env settings d outNumTypes outNumRequests
  | .presentDisplay display => LockDiscipline.presentDisplay env display
  | .handleVsyncPeriodChange => do
      let changed ← LockDiscipline.handleVsyncPeriodChange env
      return if changed then 1 else 0
  | .setPowerMode display mode => LockDiscipline.setPowerMode env mode display
  | .createVirtualDisplay d => LockDiscipline.createVirtualDisplay env d
  | .destroyVirtualDisplay d => LockDiscipline.destroyVirtualDisplay env d

/-! ### The calls that cannot wait for themselves -/

theorem onDevice_silent {α : Type} (f : Device n → α × Device n) : Silent (onDevice f) :=
  Silent.quietly _

theorem handleVsyncPeriodChangeInternal_silent (env : Env n) :
    Silent (handleVsyncPeriodChangeInternal env) :=
  onDevice_silent _

theorem presentBody_silent (env : Env n) (display : Option (Fin n)) :
    Silent (presentBody env display) := by
  cases display with
  | none => exact Silent.pure _
  | some d =>
    unfold presentBody
    exact onDevice_silent _

theorem validateWork_silent (env : Env n) (d : Fin n) : Silent (validateWork env d) :=
  onDevice_silent _

theorem forceSkipValidate_silent (d : Fin n) : Silent (forceSkipValidate d) :=
  onDevice_silent _

theorem validateLater_silent (env : Env n) (d : Fin n) : Silent (validateLater env d) :=
  onDevice_silent _

/-- The end of `validateDisplay`, behind the displays' part. -/
theorem markValidated_silent (d : Fin n) (ret : Int) :
    Silent (markValidated d >>= fun _ => (return ret : Program (Hwc n) Int)) :=
  (onDevice_silent _).bind fun _ => Silent.pure _

/-! ### The vsync mode -/

/-- The guarded twin is reached under the lock exactly when the property has
    another mode. -/
theorem setVsyncMode_run (env : Env n) (settings : Settings) (g : Hwc n) :
    (setVsyncMode env settings).run ⟨g, true⟩ =
      if g.mVsyncMode = settings.mode then some ((), ⟨g, true⟩) else none := by
  by_cases h : g.mVsyncMode = settings.mode
  · simp [setVsyncMode, shared, h]
  · simp [setVsyncMode, shared, h, handleVsyncPeriodChange, run_autolock_held]

/-- What `takeDisplayMode` leaves. -/
def displayModeTaken (g : Hwc n) (settings : Settings) : Hwc n :=
  if displayModeChanges g settings then
    { g with
      device := g.device.setGeometryChanged GEOMETRY_DEVICE_DISP_MODE_CHAGED
      mDisplayMode := settings.displayMode }
  else g

theorem takeDisplayMode_run (settings : Settings) (s : Holding (Hwc n)) :
    (takeDisplayMode settings).run s = some ((), { s with state := displayModeTaken s.state settings }) := by
  unfold displayModeTaken
  cases h : displayModeChanges s.state settings with
  | true => simp [takeDisplayMode, h]
  | false => simp [takeDisplayMode, h]

@[simp] theorem displayModeTaken_mVsyncMode (g : Hwc n) (settings : Settings) :
    (displayModeTaken g settings).mVsyncMode = g.mVsyncMode := by
  unfold displayModeTaken
  split <;> rfl

theorem validateAllDisplays_run (env : Env n) (settings : Settings) (d : Fin n) (g : Hwc n) :
    (validateAllDisplays env settings d).run ⟨g, true⟩ =
      if g.mVsyncMode = settings.mode then
        (validateWork env d).run ⟨displayModeTaken g settings, true⟩
      else none := by
  by_cases h : g.mVsyncMode = settings.mode
  · simp [validateAllDisplays, takeDisplayMode_run, setVsyncMode_run, h]
  · simp [validateAllDisplays, takeDisplayMode_run, setVsyncMode_run, h]

theorem validateAllDisplays_returns_iff (env : Env n) (settings : Settings) (d : Fin n)
    (g : Hwc n) :
    Returns (validateAllDisplays env settings d) ⟨g, true⟩ ↔ g.mVsyncMode = settings.mode := by
  unfold Returns
  rw [validateAllDisplays_run]
  by_cases h : g.mVsyncMode = settings.mode
  · rw [if_pos h]
    exact ⟨fun _ => h, fun _ => (validateWork_silent env d).returns _⟩
  · rw [if_neg h]
    constructor
    · rintro ⟨r, hr⟩
      cases hr
    · intro h'
      exact absurd h' h

/-! ### Every entry point -/

/-- The first validation of a frame, in which the property has another mode. -/
def Call.takesModeOver (g : Hwc n) (settings : Settings) : Call n → Prop
  | .validateDisplay d outNumTypes outNumRequests =>
      outNumTypes = true ∧ outNumRequests = true ∧ unavailable (g.device.display d) = false ∧
        g.device.isFirstValidate = true ∧ g.mVsyncMode ≠ settings.mode
  | _ => False

theorem validateBranch_run (env : Env n) (settings : Settings) (d : Fin n)
    (s : Holding (Hwc n)) :
    (validateBranch env settings d).run s =
      (if unavailable (s.state.device.display d) then forceSkipValidate d
      else if s.state.device.isFirstValidate then validateAllDisplays env settings d
      else validateLater env d).run s := by
  simp [validateBranch, shared]

theorem validateBranch_returns_iff (env : Env n) (settings : Settings) (d : Fin n) (g : Hwc n) :
    Returns (validateBranch env settings d) ⟨g, true⟩ ↔
      ¬ Call.takesModeOver g settings (.validateDisplay d true true) := by
  unfold Returns
  rw [validateBranch_run]
  change Returns _ _ ↔ _
  cases hu : unavailable (g.device.display d) with
  | true =>
    simp only [Call.takesModeOver, hu]
    simpa using (forceSkipValidate_silent d).returns _
  | false =>
    cases hf : g.device.isFirstValidate with
    | true =>
      simp only [Call.takesModeOver, hu, hf, if_true]
      rw [if_neg (by simp), validateAllDisplays_returns_iff]
      simp
    | false =>
      simp only [Call.takesModeOver, hu, hf]
      simpa using (validateLater_silent env d).returns _

theorem validateBody_returns_iff (env : Env n) (settings : Settings) (d : Fin n)
    (outNumTypes outNumRequests : Bool) (g : Hwc n) :
    Returns (validateBody env settings d outNumTypes outNumRequests) ⟨g, true⟩ ↔
      ¬ Call.takesModeOver g settings (.validateDisplay d outNumTypes outNumRequests) := by
  by_cases h : outNumTypes = true ∧ outNumRequests = true
  · obtain ⟨rfl, rfl⟩ := h
    rw [← validateBranch_returns_iff env]
    exact returns_bind_silent (markValidated_silent d)
  · have hbad : (!outNumTypes || !outNumRequests) = true := by
      revert h
      cases outNumTypes <;> cases outNumRequests <;> simp
    unfold validateBody
    rw [if_pos hbad]
    constructor
    · rintro - ⟨htypes, hrequests, -⟩
      exact h ⟨htypes, hrequests⟩
    · intro
      exact (Silent.pure _).returns _

/-- A call never asks for a lock it holds, except a first validation that takes
    another vsync mode over. -/
theorem call_returns_iff (env : Env n) (settings : Settings) (call : Call n) (g : Hwc n) :
    Returns (call.program env settings) ⟨g, false⟩ ↔ ¬ call.takesModeOver g settings := by
  cases call with
  | validateDisplay d outNumTypes outNumRequests =>
    exact (returns_autolock_iff _ _).trans (validateBody_returns_iff env settings d _ _ g)
  | presentDisplay display =>
    exact iff_of_true ((presentBody_silent env display).autolock g) id
  | handleVsyncPeriodChange =>
    have h : Returns (handleVsyncPeriodChange env) ⟨g, false⟩ :=
      (handleVsyncPeriodChangeInternal_silent env).autolock g
    exact iff_of_true ((returns_bind_silent fun _ => Silent.pure _).mpr h) id
  | setPowerMode display mode =>
    cases display with
    | none => exact iff_of_true ((Silent.pure _).autolock g) id
    | some d => exact iff_of_true ((onDevice_silent _).autolock g) id
  | createVirtualDisplay d => exact iff_of_true ((onDevice_silent _).autolock g) id
  | destroyVirtualDisplay d => exact iff_of_true ((onDevice_silent _).autolock g) id

/-! ### What a call that returns has done -/

/-- The answers that a validation gets which keeps the vsync mode. -/
def keepingMode (env : Env n) (g : Hwc n) (settings : Settings) : Env n :=
  { env with
    displayModeChanged := displayModeChanges g settings
    vsyncPeriodChanged := false }

theorem setGeometryChanged_zero (s : Device n) : s.setGeometryChanged 0 = s := by
  simp [Device.setGeometryChanged]

/-- The display mode may be taken over before the displays' part or in it. -/
theorem beforeAssignment_modeTaken (env : Env n) (g : Hwc n) (settings : Settings) (d : Fin n) :
    (displayModeTaken g settings).device.beforeAssignment
        { env with displayModeChanged := false, vsyncPeriodChanged := false } d =
      g.device.beforeAssignment (keepingMode env g settings) d := by
  cases h : displayModeChanges g settings with
  | true =>
    simp only [Device.beforeAssignment, displayModeTaken, keepingMode, h, setGeometryChanged_zero,
      if_true, Bool.false_eq_true, if_false]
    rfl
  | false =>
    simp only [Device.beforeAssignment, displayModeTaken, keepingMode, h, setGeometryChanged_zero,
      Bool.false_eq_true, if_false]

theorem validateAllDisplays_modeTaken (env : Env n) (g : Hwc n) (settings : Settings)
    (d : Fin n) :
    (displayModeTaken g settings).device.validateAllDisplays
        { env with displayModeChanged := false, vsyncPeriodChanged := false } d =
      g.device.validateAllDisplays (keepingMode env g settings) d := by
  unfold Device.validateAllDisplays
  rw [beforeAssignment_modeTaken]
  rfl

/-- The part of a validation that `GeometryFlags` follows, before the mark. -/
theorem validateBranch_refines (env : Env n) (settings : Settings) (d : Fin n) (g : Hwc n)
    (h : ¬ Call.takesModeOver g settings (.validateDisplay d true true)) :
    ∃ ret g', (validateBranch env settings d).run ⟨g, true⟩ = some (ret, ⟨g', true⟩) ∧
      g'.mVsyncMode = g.mVsyncMode ∧
      g.device.validateDisplay (keepingMode env g settings) d =
        (ret, g'.device.update d fun e => { e with hwcRenderingState := .validated }) := by
  rw [validateBranch_run]
  cases hu : unavailable (g.device.display d) with
  | true =>
    refine ⟨_, _, rfl, rfl, ?_⟩
    have hskip : (g.device.display d).plugState = false ∨
        (g.device.display d).isFrameSkipPowerState = true := by
      simpa [unavailable] using hu
    simp only [Device.validateDisplay, if_pos hskip]
  | false =>
    have hserve : ¬ ((g.device.display d).plugState = false ∨
        (g.device.display d).isFrameSkipPowerState = true) := by
      simpa [unavailable] using hu
    cases hf : g.device.isFirstValidate with
    | true =>
      have hmode : g.mVsyncMode = settings.mode :=
        Decidable.byContradiction fun hne => h ⟨rfl, rfl, hu, hf, hne⟩
      refine ⟨_, _, (validateAllDisplays_run env settings d g).trans (if_pos hmode), ?_, ?_⟩
      · exact displayModeTaken_mVsyncMode g settings
      · simp only [Device.validateDisplay, if_neg hserve, hf, if_true,
          validateAllDisplays_modeTaken]
    | false =>
      refine ⟨_, _, rfl, rfl, ?_⟩
      simp only [Device.validateDisplay, if_neg hserve, hf]
      rfl

/-- **Refinement.**  A validation that returns has done what the model of the
    geometry flags says, with a vsync period that did not change. -/
theorem validateDisplay_refines (env : Env n) (settings : Settings) (d : Fin n) (g : Hwc n)
    (h : ¬ Call.takesModeOver g settings (.validateDisplay d true true)) :
    ∃ g', (validateDisplay env settings d true true).run ⟨g, false⟩ =
        some ((g.device.validateDisplay (keepingMode env g settings) d).1, ⟨g', false⟩) ∧
      g'.device = (g.device.validateDisplay (keepingMode env g settings) d).2 ∧
      g'.mVsyncMode = g.mVsyncMode := by
  obtain ⟨ret, g', hrun, hmode, hdevice⟩ := validateBranch_refines env settings d g h
  refine ⟨{ g' with device := g'.device.update d fun e =>
    { e with hwcRenderingState := .validated } }, ?_, ?_, hmode⟩
  · unfold validateDisplay
    rw [run_autolock_free, hdevice]
    simp [validateBody, hrun, markValidated, onDevice]
  · rw [hdevice]

/-! ### Runs -/

theorem onDevice_frames {α : Type} (f : Device n → α × Device n) :
    Frames Hwc.mVsyncMode (onDevice f) :=
  Frames.quietly fun _ => rfl

theorem validateAllDisplays_frames (env : Env n) (settings : Settings) (d : Fin n) :
    Frames Hwc.mVsyncMode (validateAllDisplays env settings d) := by
  intro g r hr
  rw [validateAllDisplays_run] at hr
  split at hr
  · have hframe := onDevice_frames _ _ r hr
    rwa [displayModeTaken_mVsyncMode] at hframe
  · cases hr

theorem validateBranch_frames (env : Env n) (settings : Settings) (d : Fin n) :
    Frames Hwc.mVsyncMode (validateBranch env settings d) := by
  intro g r hr
  rw [validateBranch_run] at hr
  split at hr
  · exact onDevice_frames _ _ r hr
  · split at hr
    · exact validateAllDisplays_frames env settings d _ r hr
    · exact onDevice_frames _ _ r hr

theorem validateBody_frames (env : Env n) (settings : Settings) (d : Fin n)
    (outNumTypes outNumRequests : Bool) :
    Frames Hwc.mVsyncMode (validateBody env settings d outNumTypes outNumRequests) := by
  unfold validateBody
  split
  · exact Frames.pure _
  · exact (validateBranch_frames env settings d).bind fun _ =>
      (onDevice_frames _).bind fun _ => Frames.pure _

/-- A call that returns leaves the vsync mode as it was, and the lock free. -/
theorem call_keeps_mode (env : Env n) (settings : Settings) (call : Call n) (g : Hwc n)
    {r : Int × Holding (Hwc n)} (hr : (call.program env settings).run ⟨g, false⟩ = some r) :
    r.2.state.mVsyncMode = g.mVsyncMode ∧ r.2.held = false := by
  cases call with
  | validateDisplay d outNumTypes outNumRequests =>
    exact (validateBody_frames env settings d _ _).autolock hr
  | presentDisplay display =>
    refine Frames.autolock ?_ hr
    cases display with
    | none => exact Frames.pure _
    | some d =>
      unfold presentBody
      exact onDevice_frames _
  | handleVsyncPeriodChange =>
    simp only [Call.program, StateT.run_bind, Option.bind_eq_bind, Option.bind_eq_some_iff] at hr
    obtain ⟨q, hq, hr⟩ := hr
    cases hr
    have hframe := (onDevice_frames _).autolock hq
    exact hframe
  | setPowerMode display mode =>
    cases display with
    | none => exact (Frames.pure _).autolock hr
    | some d => exact (onDevice_frames _).autolock hr
  | createVirtualDisplay d => exact (onDevice_frames _).autolock hr
  | destroyVirtualDisplay d => exact (onDevice_frames _).autolock hr

/-- **The lock discipline.**  From a free lock a call comes to its end, and gives
    the lock back, exactly when it is not a first validation that takes another
    vsync mode over: that one asks for the lock it holds. -/
theorem call_gives_back_iff (env : Env n) (settings : Settings) (call : Call n) (g : Hwc n) :
    (∃ r, (call.program env settings).run ⟨g, false⟩ = some r ∧ r.2.held = false) ↔
      ¬ call.takesModeOver g settings := by
  rw [← call_returns_iff env]
  constructor
  · rintro ⟨r, hr, -⟩
    exact ⟨r, hr⟩
  · rintro ⟨r, hr⟩
    exact ⟨r, hr, (call_keeps_mode env settings call g hr).2⟩

/-- A call with what it gets from outside. -/
structure Event (n : Nat) where
  call : Call n
  env : Env n
  settings : Settings

/-- The calls come one after another, as the lock makes them; behind a thread
    that waits for itself, no call gets the lock (`none`). -/
def exec (s : Option (Hwc n)) (e : Event n) : Option (Hwc n) :=
  s.bind fun g => ((e.call.program e.env e.settings).run ⟨g, false⟩).map fun r => r.2.state

def Booted (s : Option (Hwc n)) : Prop := ∃ g, s = some g ∧ g.mVsyncMode = DEFAULT_MODE

/-- **No run changes the vsync mode.**  The only place that would is the one
    that the thread does not leave. -/
theorem run_keeps_default_mode {s : Option (Hwc n)} (h : Reachable Booted (ofFun exec) s) :
    ∀ g, s = some g → g.mVsyncMode = DEFAULT_MODE := by
  refine h.invariant (I := fun s => ∀ g, s = some g → g.mVsyncMode = DEFAULT_MODE) ?_ ?_
  · rintro s ⟨g, rfl, hmode⟩ g' hg'
    cases hg'
    exact hmode
  · rintro s e s' hmode rfl g' hg'
    simp only [exec, Option.bind_eq_some_iff, Option.map_eq_some_iff] at hg'
    obtain ⟨g, rfl, r, hr, rfl⟩ := hg'
    rw [(call_keeps_mode e.env e.settings e.call g hr).1]
    exact hmode g rfl

/-- **Runs.**  While no first validation meets another mode than the default
    one, every call of a run returns. -/
theorem run_returns {s : Option (Hwc n)}
    (h : Reachable Booted (guarded (fun s e =>
      ∀ g : Hwc n, s = some g → ¬ e.call.takesModeOver g e.settings) (ofFun exec)) s) :
    ∃ g, s = some g := by
  refine h.invariant (I := fun s => ∃ g, s = some g) ?_ ?_
  · rintro s ⟨g, rfl, -⟩
    exact ⟨g, rfl⟩
  · rintro s e s' ⟨g, rfl⟩ ⟨hcall, rfl⟩
    obtain ⟨r, hr⟩ := (call_returns_iff e.env e.settings e.call g).mpr (hcall g rfl)
    exact ⟨r.2.state, by simp [exec, hr]⟩

/-- Hence the device stops at the first frame in which the property has another
    mode than the default one. -/
theorem first_validation_stops {g : Hwc n} (h : Reachable Booted (ofFun exec) (some g))
    {e : Event n} {d : Fin n} (hcall : e.call = .validateDisplay d true true)
    (havailable : unavailable (g.device.display d) = false)
    (hfirst : g.device.isFirstValidate = true) (hmode : e.settings.mode ≠ DEFAULT_MODE)
    (later : List (Event n)) : (e :: later).foldl exec (some g) = none := by
  have hwaits : ¬ Returns (e.call.program e.env e.settings) ⟨g, false⟩ := by
    rw [call_returns_iff, hcall, Classical.not_not]
    refine ⟨rfl, rfl, havailable, hfirst, ?_⟩
    rw [run_keeps_default_mode h g rfl]
    exact hmode.symm
  have hstuck : exec (some g) e = none := by
    cases hr : (e.call.program e.env e.settings).run ⟨g, false⟩ with
    | none => simp [exec, hr]
    | some r => exact absurd ⟨r, hr⟩ hwaits
  rw [List.foldl_cons, hstuck]
  induction later with
  | nil => rfl
  | cons e' later ih => exact ih

/-! ### The property changes -/

/-- The vsync mode property is set to the highest mode. -/
def highest : Settings := ⟨['2'], DISPLAY_MODE_NUM⟩

example : highest.mode = HIGHEST_MODE := by decide

/-- Two displays before the first frame with the changed property. -/
def beforeFrame : Hwc 2 := ⟨Device.dualDisplay, DEFAULT_MODE, 0⟩

theorem changed_mode_waits :
    ¬ Returns ((Call.validateDisplay 0 true true).program Device.quiet highest)
      ⟨beforeFrame, false⟩ := by
  have hnone : ((Call.validateDisplay 0 true true).program Device.quiet highest).run
      ⟨beforeFrame, false⟩ = none := rfl
  rintro ⟨r, hr⟩
  rw [hnone] at hr
  cases hr

end ExynosHal.LockDiscipline
