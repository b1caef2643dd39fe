/-
  ExynosHal/ValidateFallback.lean
  ===============================
  **What the error handling of a validation makes of its display.**

  When the work on a display fails in `ExynosDevice::validateAllDisplays`, the
  assignment of the display is abandoned wherever it stands: `setForceClient`,
  `resetAssignedResources` with `forceReset`, `assignCompositionTarget` for the
  client composition and `assignWindow` follow, and what they return is ignored.

  The state is the one of the device: an MPP lists the sources of all displays,
  with the display it was assigned for last.  The work that fails is any function
  of the device, so its failure leaves any state.  Capacities are left out; the
  checks of an MPP against them are answers that are given.
-/
import Mathlib.Data.List.Find
import ExynosHal.Assignment

namespace ExynosHal.ValidateFallback

open Function (update)
open ExynosHal.Assignment (MppId ValidateType OverlayPriority Status)

/-! ### The device -/

/-- `ExynosMPPSource`: a layer or a composition target of a display. -/
structure MPPSource where
  display : Nat
  place : Assignment.Source
deriving DecidableEq, Repr

structure Layer where
  /-- `mPlaneAlpha == 1.0f`. -/
  planeAlphaIsOne : Bool
  overlayPriority : OverlayPriority
  validateCompositionType : ValidateType
  /-- `mOverlayInfo & eResourceAssignFail`. -/
  resourceAssignFail : Bool
  /-- `mOverlayInfo & eSandwitchedBetweenGLES`. -/
  sandwitchedBetweenGLES : Bool
  windowIndex : Nat
  acquireFence : Int
  releaseFence : Int
deriving DecidableEq, Repr

structure ExynosCompositionInfo where
  hasCompositionLayer : Bool
  firstIndex : Int
  lastIndex : Int
  acquireFence : Int
  releaseFence : Int
  windowIndex : Int
  skipStaticInitFlag : Bool
deriving DecidableEq, Repr

structure Display where
  /-- `displayIdentifier.type`. -/
  type : Nat
  useDpu : Bool
  maxWindowNum : Nat
  baseWindowIndex : Nat
  blendingMPP : Option MppId
  layerNum : Nat
  layer : Nat → Layer
  client : ExynosCompositionInfo
  exynos : ExynosCompositionInfo
  windowNumUsed : Nat
  /-- `GEOMETRY_ERROR_CASE` in the changes of the display. -/
  geometryError : Bool

structure ExynosMPP where
  maxSrcLayerNum : Nat
  /-- The channel of the dedicated top window. -/
  dedicated : Bool
  disableByUserScenario : Bool
  /-- `MPP_ASSIGN_STATE_RESERVED`, with the display. -/
  reserved : Option Nat
  /-- `mHWState == MPP_HW_STATE_IDLE`. -/
  hwIdle : Bool
  prevAssignedDisplayType : Int
  /-- `MPP_ASSIGN_STATE_ASSIGNED`. -/
  assigned : Bool
  /-- `mAssignedDisplayInfo`. -/
  assignedDisplay : Option Nat
  assignedSources : List MPPSource
  /-- The fences of `mSrcImgs` and `mDstImgs`. -/
  imageFences : List Int
deriving DecidableEq, Repr

structure Device where
  display : Nat → Display
  mpp : MppId → ExynosMPP
  otfMPPs : List MppId
  m2mMPPs : List MppId
  otfMPP : MPPSource → Option MppId
  m2mMPP : MPPSource → Option MppId
  /-- `mSrcImg.zOrder`. -/
  zOrder : MPPSource → Nat
  /-- `GEOMETRY_ERROR_CASE` in the changes of the device. -/
  geometryError : Bool
  /-- The fences that `fence_close` was called with. -/
  closed : List Int

/-- What the checks of an MPP against the images of the client target answer. -/
structure Answers where
  isSupported : MppId → Bool
  hasEnoughCapa : MppId → Bool
  isHWResourceAvailable : MppId → Bool

namespace Device

def onDisplay (k : Nat) (f : Display → Display) (dev : Device) : Device :=
  { dev with display := update dev.display k (f (dev.display k)) }

end Device

def Display.setLayer (i : Nat) (f : Layer → Layer) (d : Display) : Display :=
  { d with layer := update d.layer i (f (d.layer i)) }

/-! ### The composition infos -/

/-- `fence_close` of a fence that is tested to be one before. -/
def closeIfSet (fence : Int) (closed : List Int) : List Int :=
  if 0 ≤ fence then closed ++ [fence] else closed

/-- `initializeInfos` on the fields of the info. -/
def ExynosCompositionInfo.initialized (info : ExynosCompositionInfo) : ExynosCompositionInfo where
  hasCompositionLayer := false
  firstIndex := -1
  lastIndex := -1
  acquireFence := -1
  releaseFence := -1
  windowIndex := -1
  skipStaticInitFlag := info.skipStaticInitFlag

/-- The fences `initializeInfos` closes. -/
def ExynosCompositionInfo.closeFences (info : ExynosCompositionInfo) (closed : List Int) :
    List Int :=
  closeIfSet info.releaseFence (closeIfSet info.acquireFence closed)

namespace Device

/-- `initializeInfos` of the client composition. -/
def initializeClient (k : Nat) (dev : Device) : Device :=
  { dev.onDisplay k (fun d => { d with client := d.client.initialized }) with
    closed := (dev.display k).client.closeFences dev.closed
    otfMPP := update dev.otfMPP ⟨k, .client⟩ none }

/-- `initializeInfos` of the exynos composition. -/
def initializeExynos (k : Nat) (dev : Device) : Device :=
  { dev.onDisplay k (fun d => { d with exynos := d.exynos.initialized }) with
    closed := (dev.display k).exynos.closeFences dev.closed
    otfMPP := update dev.otfMPP ⟨k, .exynos⟩ none
    m2mMPP := update dev.m2mMPP ⟨k, .exynos⟩
      ((dev.m2mMPP ⟨k, .exynos⟩).or (dev.display k).blendingMPP) }

end Device

/-! ### Releasing an MPP -/

/-- `resetAssignedState()` on the side of the MPP: an MPP that is not assigned
    keeps its display. -/
def ExynosMPP.reset (m : ExynosMPP) : ExynosMPP :=
  { m with
    assigned := false
    assignedDisplay := if m.assigned then none else m.assignedDisplay
    assignedSources := [] }

/-- `resetAssignedState(mppSource)` on the side of the MPP. -/
def ExynosMPP.resetSource (m : ExynosMPP) (x : MPPSource) : ExynosMPP :=
  let sources := (m.assignedSources.reverse.erase x).reverse
  if m.assigned ∧ sources = [] then
    { m with assigned := false, assignedDisplay := none, assignedSources := sources }
  else { m with assignedSources := sources }

/-- A link to `m` of one of its sources is taken back. -/
def unlink (m : MppId) (sources : List MPPSource) (link : MPPSource → Option MppId) :
    MPPSource → Option MppId :=
  fun x => if x ∈ sources ∧ link x = some m then none else link x

namespace Device

/-- `ExynosMPP::resetAssignedState()`. -/
def resetAssignedState (m : MppId) (dev : Device) : Device :=
  { dev with
    otfMPP := unlink m (dev.mpp m).assignedSources dev.otfMPP
    m2mMPP := unlink m (dev.mpp m).assignedSources dev.m2mMPP
    mpp := update dev.mpp m (dev.mpp m).reset }

/-- `ExynosMPP::resetAssignedState(mppSource)`. -/
def resetAssignedStateOf (m : MppId) (x : MPPSource) (dev : Device) : Device :=
  { dev with
    m2mMPP :=
      if x ∈ (dev.mpp m).assignedSources ∧ dev.m2mMPP x = some m then update dev.m2mMPP x none
      else dev.m2mMPP
    mpp := update dev.mpp m ((dev.mpp m).resetSource x) }

/-- `ExynosLayer::resetAssignedResource`. -/
def resetAssignedResource (x : MPPSource) (dev : Device) : Device :=
  let dev := match dev.m2mMPP x with
    | none => dev
    | some m =>
        let dev := dev.resetAssignedStateOf m x
        { dev with m2mMPP := update dev.m2mMPP x none }
  match dev.otfMPP x with
  | none => dev
  | some m =>
      let dev := dev.resetAssignedState m
      { dev with otfMPP := update dev.otfMPP x none }

/-! ### The client composition -/

/-- The body of the loop over the sandwiched layers, with `exynosCompositionChanged`. -/
def sandwich (k : Nat) (p : Device × Bool) (i : Nat) : Device × Bool :=
  let l := (p.1.display k).layer i
  if l.planeAlphaIsOne && l.overlayPriority.isHigh then p
  else if l.validateCompositionType = .client then p
  else
    let dev := if l.validateCompositionType = .device then
        p.1.onDisplay k fun d => { d with windowNumUsed := Assignment.decrement d.windowNumUsed }
      else p.1
    let dev := dev.resetAssignedResource ⟨k, .layer i⟩
    (dev.onDisplay k (·.setLayer i fun l =>
      { l with validateCompositionType := .client, sandwitchedBetweenGLES := true }),
      p.2 || decide (l.validateCompositionType = .exynos))

/-- `newFirstIndex` and `newLastIndex` of the exynos layers. -/
def exynosRange (d : Display) : Option (Nat × Nat) :=
  (List.range d.layerNum).foldl
    (fun range i => if (d.layer i).validateCompositionType = .exynos then
        some (range.elim (i, i) fun r => (min r.1 i, max r.2 i))
      else range) none

/-- The end of `addClientCompositionLayer` when an exynos layer was taken. -/
def updateExynosRange (k : Nat) (dev : Device) : Status × Device :=
  if (dev.display k).exynos.firstIndex < 0 ∨ (dev.display k).exynos.lastIndex < 0 then
    (.einval, dev)
  else
    match exynosRange (dev.display k) with
    | none => (.changed, dev.initializeExynos k)
    | some r => (.noError, dev.onDisplay k fun d =>
        { d with exynos := { d.exynos with firstIndex := r.1, lastIndex := r.2 } })

def addClientCompositionLayer (k layerIndex : Nat) (dev : Device) : Status × Device :=
  let info := (dev.display k).client
  if info.hasCompositionLayer = false then
    (.changed, dev.onDisplay k fun d => { d with client :=
      { d.client with
        hasCompositionLayer := true, firstIndex := layerIndex, lastIndex := layerIndex } })
  else
    let first := min info.firstIndex layerIndex
    let last := max info.lastIndex layerIndex
    let dev := dev.onDisplay k fun d =>
      { d with client := { d.client with firstIndex := first, lastIndex := last } }
    if first < 0 ∨ last < 0 then (.einval, dev)
    else
      let p := (List.range' (first.toNat + 1) (last.toNat - (first.toNat + 1))).foldl
        (sandwich k) (dev, false)
      if p.2 then p.1.updateExynosRange k else (.noError, p.1)

/-- One layer in the loop of `setForceClient`. -/
def forceLayer (k : Nat) (dev : Device) (i : Nat) : Device :=
  ((dev.onDisplay k (·.setLayer i fun l =>
    { l with resourceAssignFail := true, validateCompositionType := .client }))
    |>.addClientCompositionLayer k i).2

def setForceClient (k : Nat) (dev : Device) : Device :=
  let dev := dev.onDisplay k fun d =>
    { d with
      client := { d.client with skipStaticInitFlag := false }
      exynos := { d.exynos with skipStaticInitFlag := false } }
  let dev := (dev.initializeClient k).initializeExynos k
  (List.range (dev.display k).layerNum).foldl (forceLayer k) dev

/-! ### The resources -/

/-- The body of a loop of `resetAssignedResources`. -/
def resetIfOf (k : Nat) (kept : ExynosMPP → Bool) (dev : Device) (m : MppId) : Device :=
  if (dev.mpp m).assignedDisplay ≠ some k then dev
  else if kept (dev.mpp m) then dev
  else dev.resetAssignedState m

def resetAssignedResources (k : Nat) (forceReset : Bool) (dev : Device) : Device :=
  let dev := dev.otfMPPs.foldl (resetIfOf k fun _ => false) dev
  let dev := dev.m2mMPPs.foldl
    (resetIfOf k fun m => !forceReset && decide (1 < m.maxSrcLayerNum)) dev
  dev.onDisplay k fun d => { d with windowNumUsed := 0 }

end Device

/-- `ExynosMPP::isAssignableState`. -/
def ExynosMPP.isAssignableState (m : ExynosMPP) (k type : Nat) : Bool :=
  if m.disableByUserScenario then false
  else
    match m.assigned, m.reserved with
    | false, none => m.hwIdle || decide (m.prevAssignedDisplayType < 0)
        || decide (m.prevAssignedDisplayType = type)
    | true, some r => r == k && decide (m.assignedSources.length < m.maxSrcLayerNum)
    | true, none => decide (m.assignedSources.length < m.maxSrcLayerNum)
    | false, some r => r == k

/-- The MPP supports the images and can be taken. -/
def Answers.accepts (a : Answers) (k type : Nat) (o : MppId) (m : ExynosMPP) : Bool :=
  a.isSupported o && m.isAssignableState k type && a.hasEnoughCapa o && a.isHWResourceAvailable o

/-- `ExynosMPP::assignMPP` on the side of the MPP. -/
def ExynosMPP.add (m : ExynosMPP) (zOrder : MPPSource → Nat) (x : MPPSource) : ExynosMPP :=
  let sources := m.assignedSources ++ [x]
  { m with
    assigned := true
    assignedDisplay := some x.display
    assignedSources :=
      if 1 < m.maxSrcLayerNum then sources.mergeSort fun x y => decide (zOrder x ≤ zOrder y)
      else sources }

namespace Device

/-- The OTF MPP `assignCompositionTarget` finds for the client target. -/
def findOtfMPP (k : Nat) (a : Answers) (dev : Device) : Option MppId :=
  dev.otfMPPs.find? fun o =>
    !((dev.mpp o).dedicated &&
        decide ((dev.display k).client.lastIndex ≠ ((dev.display k).layerNum : Int) - 1))
      && a.accepts k (dev.display k).type o (dev.mpp o)

/-- The client target gets OTF MPP `o` and a window. -/
def assignTarget (k : Nat) (o : MppId) (dev : Device) : Device :=
  { dev.onDisplay k fun d =>
      { d with windowNumUsed := Assignment.increment d.windowNumUsed } with
    mpp := update dev.mpp o ((dev.mpp o).add dev.zOrder ⟨k, .client⟩)
    otfMPP := update dev.otfMPP ⟨k, .client⟩ (some o) }

/-- `assignCompositionTarget` for `COMPOSITION_CLIENT`. -/
def assignCompositionTarget (k : Nat) (a : Answers) (dev : Device) : Status × Device :=
  let d := dev.display k
  if d.client.hasCompositionLayer = false then (.noError, dev)
  else if d.client.firstIndex < 0 ∨ d.client.lastIndex < 0 then (.einval, dev)
  else if d.useDpu = false then (.noError, dev)
  else if d.maxWindowNum ≤ d.windowNumUsed then (.insufficientMPP, dev)
  else
    match dev.findOtfMPP k a with
    | none => (.insufficientMPP, dev)
    | some o => (.noError, dev.assignTarget k o)

/-! ### The windows -/

def isDedicated (dev : Device) (x : MPPSource) : Bool :=
  (dev.otfMPP x).any fun o => (dev.mpp o).dedicated

/-- The window of a target, at the last layer of its range; the second component is
    `windowIndex` after the layer. -/
def targetWindow (info : ExynosCompositionInfo) (dedicated : Bool)
    (maxDeconWin i windowIndex : Nat) : ExynosCompositionInfo × Nat :=
  if info.hasCompositionLayer = false ∨ info.firstIndex < 0 ∨ info.lastIndex < 0 then
    (info, windowIndex)
  else if (i : Int) ≠ info.lastIndex then (info, windowIndex)
  else if dedicated then ({ info with windowIndex := (maxDeconWin : Int) - 1 }, windowIndex)
  else ({ info with windowIndex }, windowIndex + 1)

/-- The body of the loop of `assignWindow`. -/
def assignLayerWindow (k maxDeconWin : Nat) (p : Device × Nat) (i : Nat) : Device × Nat :=
  let d := p.1.display k
  match (d.layer i).validateCompositionType with
  | .device =>
      if p.1.isDedicated ⟨k, .layer i⟩ then
        (p.1.onDisplay k (·.setLayer i fun l => { l with windowIndex := maxDeconWin - 1 }), p.2)
      else (p.1.onDisplay k (·.setLayer i fun l => { l with windowIndex := p.2 }), p.2 + 1)
  | .client =>
      let t := targetWindow d.client (p.1.isDedicated ⟨k, .client⟩) maxDeconWin i p.2
      (p.1.onDisplay k fun d => { d with client := t.1 }, t.2)
  | .exynos =>
      let t := targetWindow d.exynos (p.1.isDedicated ⟨k, .exynos⟩) maxDeconWin i p.2
      (p.1.onDisplay k fun d => { d with exynos := t.1 }, t.2)
  | .invalid => p

def assignWindow (k maxDeconWin : Nat) (dev : Device) : Device :=
  let d := dev.display k
  if d.useDpu = false then dev
  else ((List.range d.layerNum).foldl (assignLayerWindow k maxDeconWin) (dev, d.baseWindowIndex)).1

/-! ### The validation of a display -/

/-- `ExynosDisplay::setGeometryChanged` of `GEOMETRY_ERROR_CASE`. -/
def setGeometryError (k : Nat) (dev : Device) : Device :=
  { dev.onDisplay k fun d => { d with geometryError := true } with geometryError := true }

/-- The error handling of `validateAllDisplays`. -/
def handleError (k : Nat) (a : Answers) (maxDeconWin : Nat) (dev : Device) : Device :=
  let dev := (dev.setGeometryError k).setForceClient k
  let dev := dev.resetAssignedResources k true
  (dev.assignCompositionTarget k a).2.assignWindow k maxDeconWin

end Device

/-- The work on one display, each part with whether it fails. -/
structure Work where
  assignResource : Nat → Device → Bool × Device
  /-- The assigned capacity of the G2D is over its restriction. -/
  overCapacity : Device → Bool
  deliverPerformanceInfo : Nat → Device → Bool × Device
  postProcessValidate : Nat → Device → Bool × Device

namespace Work

/-- The resource assignment with the capacity check behind it, where a geometry
    changed. -/
def assign (w : Work) (changed : Bool) (k : Nat) (dev : Device) : Bool × Device :=
  if changed then
    let r := w.assignResource k dev
    (r.1 || w.overCapacity r.2, r.2)
  else (false, dev)

/-- `displayRet != NO_ERROR` after the work on a display, with the device then. -/
def run (w : Work) (changed : Bool) (k : Nat) (dev : Device) : Bool × Device :=
  let r := w.assign changed k dev
  if r.1 then r
  else
    let r := w.deliverPerformanceInfo k r.2
    if r.1 then r else w.postProcessValidate k r.2

/-- The part of `validateAllDisplays` for one display. -/
def validate (w : Work) (changed : Bool) (a : Answers) (maxDeconWin k : Nat) (dev : Device) :
    Device :=
  let r := w.run changed k dev
  if r.1 then r.2.handleError k a maxDeconWin else r.2

end Work

/-! ### The property -/

/-- An MPP once the resources of display `k` are released. -/
def ExynosMPP.released (k : Nat) (m : ExynosMPP) : ExynosMPP :=
  if m.assignedDisplay = some k then m.reset else m

namespace Device

/-- The resources of the device. -/
def mpps (dev : Device) : List MppId := dev.otfMPPs ++ dev.m2mMPPs

/-- The OTF MPP for the client target, once the resources are released. -/
def targetMPP (k : Nat) (a : Answers) (dev : Device) : Option MppId :=
  if (dev.display k).useDpu = true ∧ 0 < (dev.display k).layerNum ∧
      0 < (dev.display k).maxWindowNum then
    dev.otfMPPs.find? fun o => a.accepts k (dev.display k).type o ((dev.mpp o).released k)
  else none

end Device

/-- **A recovered display.**  Everything of display `k` goes to the client
    composition, and what belongs to other displays stays. -/
structure Recovered (k : Nat) (a : Answers) (maxDeconWin : Nat) (before after : Device) :
    Prop where
  layers : ∀ i, i < (before.display k).layerNum →
    ((after.display k).layer i).validateCompositionType = .client
  client_range : (after.display k).client.hasCompositionLayer =
      decide (0 < (before.display k).layerNum) ∧
    (after.display k).client.firstIndex =
      (if 0 < (before.display k).layerNum then 0 else -1) ∧
    (after.display k).client.lastIndex = ((before.display k).layerNum : Int) - 1
  exynos_empty : (after.display k).exynos.hasCompositionLayer = false ∧
    (after.display k).exynos.firstIndex = -1 ∧ (after.display k).exynos.lastIndex = -1
  /-- An MPP of the display keeps no source but the client target. -/
  sources : ∀ m ∈ before.mpps, (before.mpp m).assignedDisplay = some k →
    ∀ x ∈ (after.mpp m).assignedSources, x = ⟨k, .client⟩
  links : ∀ m ∈ before.mpps, (before.mpp m).assignedDisplay = some k →
    ∀ x ∈ (before.mpp m).assignedSources, x ≠ ⟨k, .client⟩ → x ≠ ⟨k, .exynos⟩ →
      after.otfMPP x ≠ some m ∧ after.m2mMPP x ≠ some m
  windowNumUsed : (after.display k).windowNumUsed =
    if (before.targetMPP k a).isSome then 1 else 0
  target : after.otfMPP ⟨k, .client⟩ = before.targetMPP k a
  target_sources : ∀ o, before.targetMPP k a = some o →
    (after.mpp o).assignedSources.Perm
      (((before.mpp o).released k).assignedSources ++ [⟨k, .client⟩]) ∧
    (after.mpp o).assignedDisplay = some k
  target_window : ∀ o, before.targetMPP k a = some o → (after.display k).client.windowIndex =
    if (before.mpp o).dedicated then (maxDeconWin : Int) - 1
    else (before.display k).baseWindowIndex
  /-- The fences of the composition infos are closed, each once. -/
  closed : after.closed = (before.display k).exynos.closeFences
      ((before.display k).client.closeFences before.closed) ∧
    (after.display k).client.acquireFence = -1 ∧ (after.display k).client.releaseFence = -1 ∧
    (after.display k).exynos.acquireFence = -1 ∧ (after.display k).exynos.releaseFence = -1
  /-- All other fences stay where they are. -/
  fences : (∀ i, ((after.display k).layer i).acquireFence =
        ((before.display k).layer i).acquireFence ∧
      ((after.display k).layer i).releaseFence = ((before.display k).layer i).releaseFence) ∧
    ∀ m, (after.mpp m).imageFences = (before.mpp m).imageFences
  other_displays : ∀ j, j ≠ k → after.display j = before.display j
  other_mpps : ∀ m, (before.mpp m).assignedDisplay ≠ some k → before.targetMPP k a ≠ some m →
    after.mpp m = before.mpp m
  other_links : ∀ x, x.display ≠ k →
    (∀ m, (before.mpp m).assignedDisplay = some k → x ∉ (before.mpp m).assignedSources) →
    after.otfMPP x = before.otfMPP x ∧ after.m2mMPP x = before.m2mMPP x

/-! ### All layers to the client -/

namespace Device

@[simp] theorem onDisplay_self (k : Nat) (f : Display → Display) (dev : Device) :
    (dev.onDisplay k f).display k = f (dev.display k) := Function.update_self ..

theorem onDisplay_of_ne {j k : Nat} (h : j ≠ k) (f : Display → Display) (dev : Device) :
    (dev.onDisplay k f).display j = dev.display j := Function.update_of_ne h ..

@[simp] theorem onDisplay_onDisplay (k : Nat) (f g : Display → Display) (dev : Device) :
    (dev.onDisplay k f).onDisplay k g = dev.onDisplay k fun d => g (f d) := by
  unfold onDisplay
  simp only [Function.update_self, Function.update_idem]

theorem onDisplay_eq_self {k : Nat} {f : Display → Display} {dev : Device}
    (h : f (dev.display k) = dev.display k) : dev.onDisplay k f = dev := by
  unfold onDisplay
  rw [h, Function.update_eq_self]

theorem onDisplay_congr {k : Nat} {f g : Display → Display} {dev : Device}
    (h : f (dev.display k) = g (dev.display k)) : dev.onDisplay k f = dev.onDisplay k g := by
  unfold onDisplay
  rw [h]

/-- Client layers are not sandwiched. -/
theorem foldl_sandwich {k : Nat} {dev : Device} {l : List Nat}
    (h : ∀ i ∈ l, ((dev.display k).layer i).validateCompositionType = .client) :
    l.foldl (sandwich k) (dev, false) = (dev, false) := by
  induction l with
  | nil => rfl
  | cons i l ih =>
    have hi : sandwich k (dev, false) i = (dev, false) := by
      simp only [sandwich, h i List.mem_cons_self, if_true, ite_self]
    rw [List.foldl_cons, hi]
    exact ih fun j hj => h j (List.mem_cons_of_mem i hj)

end Device

/-- A layer that was forced to the client. -/
def Layer.forced (l : Layer) : Layer :=
  { l with resourceAssignFail := true, validateCompositionType := .client }

/-- The client composition of the first `n` layers. -/
def ExynosCompositionInfo.covering (info : ExynosCompositionInfo) :
    Nat → ExynosCompositionInfo
  | 0 => info
  | n + 1 => { info with hasCompositionLayer := true, firstIndex := 0, lastIndex := n }

/-- A display whose first `n` layers were forced to the client. -/
def Display.forced (n : Nat) (d : Display) : Display :=
  { d with
    layer := fun i => if i < n then (d.layer i).forced else d.layer i
    client := d.client.covering n }

/-- The layers after one more is forced. -/
theorem forced_update (layer : Nat → Layer) (n : Nat) :
    update (fun i => if i < n then (layer i).forced else layer i) n (layer n).forced =
      fun i => if i < n + 1 then (layer i).forced else layer i := by
  funext i
  by_cases hi : i = n
  · subst hi
    rw [Function.update_self, if_pos (Nat.lt_succ_self i)]
  · rw [Function.update_of_ne hi]
    by_cases hlt : i < n
    · rw [if_pos hlt, if_pos (Nat.lt_succ_of_lt hlt)]
    · rw [if_neg hlt, if_neg]
      intro hle
      exact hlt (Nat.lt_of_le_of_ne (Nat.le_of_lt_succ hle) hi)

namespace Device

/-- The client range grows by the next layer, where the layers of it are client layers. -/
theorem addClientCompositionLayer_next {k n : Nat} {dev : Device}
    (hhas : (dev.display k).client.hasCompositionLayer = true)
    (hfirst : (dev.display k).client.firstIndex = 0)
    (hlast : (dev.display k).client.lastIndex = n)
    (hclient : ∀ i, i ≤ n → ((dev.display k).layer i).validateCompositionType = .client) :
    dev.addClientCompositionLayer k (n + 1) = (.noError, dev.onDisplay k fun d =>
      { d with client := { d.client with firstIndex := 0, lastIndex := (n + 1 : Nat) } }) := by
  have hmin : min (0 : Int) ((n + 1 : Nat) : Int) = 0 := Int.min_eq_left (Int.natCast_nonneg _)
  have hmax : max (n : Int) ((n + 1 : Nat) : Int) = (n + 1 : Nat) :=
    Int.max_eq_right (Int.ofNat_le.mpr (Nat.le_succ n))
  have hloop : ∀ i ∈ List.range' 1 n, (((dev.onDisplay k fun d =>
      { d with client := { d.client with firstIndex := 0, lastIndex := (n + 1 : Nat) } }
      ).display k).layer i).validateCompositionType = .client := by
    intro i hi
    rw [onDisplay_self]
    rw [List.mem_range'_1] at hi
    exact hclient i (Nat.le_of_lt_succ (by omega))
  unfold addClientCompositionLayer
  simp only [hhas, hfirst, hlast, hmin, hmax, Bool.true_eq_false, if_false]
  rw [if_neg (by omega)]
  have hrange : List.range' (Int.toNat 0 + 1)
      (Int.toNat ((n + 1 : Nat) : Int) - (Int.toNat 0 + 1)) = List.range' 1 n := by simp
  rw [hrange, foldl_sandwich hloop, if_neg Bool.false_ne_true]

/-- **One layer of the loop**: the client range grows to it, and nothing between is
    sandwiched, because the layers before are client layers. -/
theorem forceLayer_forced {k : Nat} {dev : Device}
    (hempty : (dev.display k).client.hasCompositionLayer = false) (n : Nat) :
    forceLayer k (dev.onDisplay k (·.forced n)) n = dev.onDisplay k (·.forced (n + 1)) := by
  have hset : ((dev.onDisplay k (·.forced n)).onDisplay k (·.setLayer n fun l =>
      { l with resourceAssignFail := true, validateCompositionType := .client })) =
      dev.onDisplay k fun d =>
        { d.forced (n + 1) with client := d.client.covering n } := by
    rw [onDisplay_onDisplay]
    apply onDisplay_congr
    unfold Display.setLayer Display.forced
    dsimp only
    rw [if_neg (Nat.lt_irrefl n)]
    rw [← forced_update]
    rfl
  unfold forceLayer
  rw [hset]
  cases n with
  | zero =>
    simp only [addClientCompositionLayer, onDisplay_self, ExynosCompositionInfo.covering, hempty,
      if_true, onDisplay_onDisplay]
    rfl
  | succ n =>
    rw [addClientCompositionLayer_next]
    · rw [onDisplay_onDisplay]
      rfl
    · rw [onDisplay_self]
      rfl
    · rw [onDisplay_self]
      rfl
    · rw [onDisplay_self]
      rfl
    · intro i hi
      rw [onDisplay_self]
      unfold Display.forced
      dsimp only
      rw [if_pos (Nat.lt_succ_of_le (Nat.le_succ_of_le hi))]
      rfl

theorem foldl_forceLayer {k : Nat} {dev : Device}
    (hempty : (dev.display k).client.hasCompositionLayer = false) (n : Nat) :
    (List.range n).foldl (forceLayer k) dev = dev.onDisplay k (·.forced n) := by
  induction n with
  | zero => exact (onDisplay_eq_self rfl).symm
  | succ n ih =>
    rw [List.range_succ, List.foldl_append, ih]
    exact forceLayer_forced hempty n

end Device

/-- A display after `setForceClient`. -/
def Display.allClient (d : Display) : Display :=
  { d with
    layer := fun i => if i < d.layerNum then (d.layer i).forced else d.layer i
    client := ExynosCompositionInfo.covering
      { d.client.initialized with skipStaticInitFlag := false } d.layerNum
    exynos := { d.exynos.initialized with skipStaticInitFlag := false } }

namespace Device

/-- **`setForceClient`** gives every layer to the client composition. -/
theorem setForceClient_eq (k : Nat) (dev : Device) :
    dev.setForceClient k = { dev.onDisplay k Display.allClient with
      closed := (dev.display k).exynos.closeFences
        ((dev.display k).client.closeFences dev.closed)
      otfMPP := update (update dev.otfMPP ⟨k, .client⟩ none) ⟨k, .exynos⟩ none
      m2mMPP := update dev.m2mMPP ⟨k, .exynos⟩
        ((dev.m2mMPP ⟨k, .exynos⟩).or (dev.display k).blendingMPP) } := by
  unfold setForceClient
  dsimp only
  rw [foldl_forceLayer]
  · simp only [initializeExynos, initializeClient, onDisplay, Function.update_self,
      Function.update_idem]
    rfl
  · simp only [initializeExynos, initializeClient, onDisplay, Function.update_self]
    rfl

end Device

/-! ### The resources are released -/

theorem ExynosMPP.released_released (k : Nat) (m : ExynosMPP) :
    (m.released k).released k = m.released k := by
  unfold ExynosMPP.released
  by_cases hk : m.assignedDisplay = some k
  · rw [if_pos hk]
    split
    · rfl
    · rfl
  · rw [if_neg hk, if_neg hk]

/-- The links that are left when the MPPs of `l` are released. -/
def unlinkAll (k : Nat) (l : List MppId) (mpp : MppId → ExynosMPP)
    (link : MPPSource → Option MppId) : MPPSource → Option MppId :=
  fun x =>
    match link x with
    | none => none
    | some m =>
        if m ∈ l ∧ (mpp m).assignedDisplay = some k ∧ x ∈ (mpp m).assignedSources then none
        else some m

/-- The MPPs of `l` are released. -/
def releaseAll (k : Nat) (l : List MppId) (mpp : MppId → ExynosMPP) : MppId → ExynosMPP :=
  fun m => if m ∈ l then (mpp m).released k else mpp m

theorem unlinkAll_cons_of_ne {k : Nat} {m : MppId} {mpp : MppId → ExynosMPP}
    (hk : (mpp m).assignedDisplay ≠ some k) (l : List MppId) (link : MPPSource → Option MppId) :
    unlinkAll k (m :: l) mpp link = unlinkAll k l mpp link := by
  funext x
  unfold unlinkAll
  cases hx : link x with
  | none => rfl
  | some m' =>
    by_cases hm : m' = m
    · subst hm
      simp [hk]
    · simp [hm]

theorem unlinkAll_cons_self {k : Nat} {m : MppId} {mpp : MppId → ExynosMPP}
    (hk : (mpp m).assignedDisplay = some k) (l : List MppId) (link : MPPSource → Option MppId) :
    unlinkAll k (m :: l) mpp link =
      unlinkAll k l (update mpp m (mpp m).reset) (unlink m (mpp m).assignedSources link) := by
  funext x
  unfold unlinkAll unlink
  cases hx : link x with
  | none => simp
  | some m' =>
    by_cases hm : m' = m
    · subst hm
      by_cases hmem : x ∈ (mpp m').assignedSources
      · simp [hk, hmem]
      · simp [hmem, ExynosMPP.reset]
    · simp [hm]

namespace Device

/-- **A loop of `resetAssignedResources`** over the MPPs of `l`. -/
theorem foldl_resetIfOf (k : Nat) (l : List MppId) (dev : Device) :
    l.foldl (resetIfOf k fun _ => false) dev = { dev with
      mpp := releaseAll k l dev.mpp
      otfMPP := unlinkAll k l dev.mpp dev.otfMPP
      m2mMPP := unlinkAll k l dev.mpp dev.m2mMPP } := by
  induction l generalizing dev with
  | nil =>
    have hlink : ∀ link, unlinkAll k [] dev.mpp link = link := by
      intro link
      funext x
      cases hx : link x <;> simp [unlinkAll, hx]
    simp only [List.foldl_nil, hlink]
    rfl
  | cons m l ih =>
    rw [List.foldl_cons, ih]
    by_cases hk : (dev.mpp m).assignedDisplay = some k
    · have hreset : resetIfOf k (fun _ => false) dev m = dev.resetAssignedState m := by
        simp [resetIfOf, hk]
      have hmpp : releaseAll k l (update dev.mpp m (dev.mpp m).reset) =
          releaseAll k (m :: l) dev.mpp := by
        funext m'
        unfold releaseAll
        by_cases hm : m' = m
        · subst hm
          rw [Function.update_self, if_pos List.mem_cons_self]
          have hreleased : (dev.mpp m').released k = (dev.mpp m').reset := if_pos hk
          rw [← hreleased, ExynosMPP.released_released, ite_self]
        · rw [Function.update_of_ne hm]
          simp only [List.mem_cons, hm, false_or]
      rw [hreset]
      simp only [resetAssignedState, hmpp, unlinkAll_cons_self hk]
    · have hkept : resetIfOf k (fun _ => false) dev m = dev := by
        simp [resetIfOf, hk]
      have hmpp : releaseAll k l dev.mpp = releaseAll k (m :: l) dev.mpp := by
        funext m'
        unfold releaseAll
        by_cases hm : m' = m
        · subst hm
          rw [if_pos List.mem_cons_self]
          unfold ExynosMPP.released
          rw [if_neg hk, ite_self]
        · simp only [List.mem_cons, hm, false_or]
      rw [hkept, hmpp]
      simp only [unlinkAll_cons_of_ne hk]

/-- **`resetAssignedResources`** with `forceReset`. -/
theorem resetAssignedResources_eq (k : Nat) (dev : Device) :
    dev.resetAssignedResources k true =
      { dev.onDisplay k (fun d => { d with windowNumUsed := 0 }) with
        mpp := releaseAll k dev.mpps dev.mpp
        otfMPP := unlinkAll k dev.mpps dev.mpp dev.otfMPP
        m2mMPP := unlinkAll k dev.mpps dev.mpp dev.m2mMPP } := by
  have hloops : dev.m2mMPPs.foldl (resetIfOf k fun _ => false)
      (dev.otfMPPs.foldl (resetIfOf k fun _ => false) dev) =
      dev.mpps.foldl (resetIfOf k fun _ => false) dev := by
    rw [mpps, List.foldl_append]
  have hlists : (dev.otfMPPs.foldl (resetIfOf k fun _ => false) dev).m2mMPPs = dev.m2mMPPs := by
    rw [foldl_resetIfOf]
  unfold resetAssignedResources
  simp only [Bool.not_true, Bool.false_and, hlists, hloops]
  rw [foldl_resetIfOf]
  rfl

end Device

/-! ### The client target -/

/-- A display whose resources were released after `setForceClient`. -/
def Display.freed (d : Display) : Display :=
  { d.allClient with windowNumUsed := 0, geometryError := true }

theorem ExynosCompositionInfo.covering_pos {info : ExynosCompositionInfo} {n : Nat}
    (hn : 0 < n) : info.covering n =
      { info with hasCompositionLayer := true, firstIndex := 0, lastIndex := (n : Int) - 1 } := by
  cases n with
  | zero => exact absurd hn (Nat.lt_irrefl 0)
  | succ n =>
    have hlast : ((n + 1 : Nat) : Int) - 1 = n := Int.add_sub_cancel (n : Int) 1
    rw [hlast]
    rfl

namespace Display

theorem freed_client {d : Display} (hn : 0 < d.layerNum) :
    d.freed.client.hasCompositionLayer = true ∧ d.freed.client.firstIndex = 0 ∧
      d.freed.client.lastIndex = (d.layerNum : Int) - 1 := by
  unfold freed allClient
  dsimp only
  rw [ExynosCompositionInfo.covering_pos hn]
  exact ⟨rfl, rfl, rfl⟩

/-- The range of the client composition before its target is assigned. -/
theorem freed_client_range (d : Display) :
    d.freed.client.hasCompositionLayer = decide (0 < d.layerNum) ∧
      d.freed.client.firstIndex = (if 0 < d.layerNum then 0 else -1) ∧
      d.freed.client.lastIndex = (d.layerNum : Int) - 1 := by
  rcases Nat.eq_zero_or_pos d.layerNum with hn | hn
  · have hclient : d.freed.client = ExynosCompositionInfo.covering
        { d.client.initialized with skipStaticInitFlag := false } d.layerNum := rfl
    rw [hclient, hn]
    exact ⟨rfl, rfl, rfl⟩
  · obtain ⟨hhas, hfirst, hlast⟩ := freed_client hn
    rw [decide_eq_true hn, if_pos hn]
    exact ⟨hhas, hfirst, hlast⟩

theorem freed_client_fences (d : Display) :
    d.freed.client.acquireFence = -1 ∧ d.freed.client.releaseFence = -1 := by
  have hclient : d.freed.client = ExynosCompositionInfo.covering
      { d.client.initialized with skipStaticInitFlag := false } d.layerNum := rfl
  rw [hclient]
  cases d.layerNum with
  | zero => exact ⟨rfl, rfl⟩
  | succ n => exact ⟨rfl, rfl⟩

theorem freed_client_empty {d : Display} (hn : d.layerNum = 0) :
    d.freed.client.hasCompositionLayer = false := by
  unfold freed allClient
  dsimp only
  rw [hn]
  rfl

end Display

namespace Device

/-- The device before the client target is assigned. -/
def freed (k : Nat) (dev : Device) : Device :=
  { dev.onDisplay k Display.freed with
    mpp := releaseAll k dev.mpps dev.mpp
    otfMPP := unlinkAll k dev.mpps dev.mpp
      (update (update dev.otfMPP ⟨k, .client⟩ none) ⟨k, .exynos⟩ none)
    m2mMPP := unlinkAll k dev.mpps dev.mpp (update dev.m2mMPP ⟨k, .exynos⟩
      ((dev.m2mMPP ⟨k, .exynos⟩).or (dev.display k).blendingMPP))
    geometryError := true
    closed := (dev.display k).exynos.closeFences
      ((dev.display k).client.closeFences dev.closed) }

theorem freed_eq (k : Nat) (dev : Device) :
    ((dev.setGeometryError k).setForceClient k).resetAssignedResources k true = dev.freed k := by
  rw [setForceClient_eq, resetAssignedResources_eq]
  simp only [setGeometryError, onDisplay, Function.update_self, Function.update_idem]
  rfl

@[simp] theorem freed_display (k : Nat) (dev : Device) :
    (dev.freed k).display k = (dev.display k).freed := Function.update_self ..

/-- The OTF MPP is looked for among the released MPPs. -/
theorem freed_findOtfMPP {k : Nat} {dev : Device} (hn : 0 < (dev.display k).layerNum)
    (a : Answers) : (dev.freed k).findOtfMPP k a =
      dev.otfMPPs.find? fun o => a.accepts k (dev.display k).type o ((dev.mpp o).released k) := by
  have hlast : ((dev.freed k).display k).client.lastIndex =
      (((dev.freed k).display k).layerNum : Int) - 1 := by
    rw [freed_display]
    exact (Display.freed_client hn).2.2
  have htype : ((dev.freed k).display k).type = (dev.display k).type := by
    rw [freed_display]
    rfl
  refine List.find?_congr ?_
  intro o ho
  have hmpp : (dev.freed k).mpp o = (dev.mpp o).released k :=
    if_pos (List.mem_append_left dev.m2mMPPs ho)
  rw [hlast, htype, hmpp]
  simp

/-- **`assignCompositionTarget`** gives the client target the OTF MPP it finds. -/
theorem freed_assignCompositionTarget (k : Nat) (a : Answers) (dev : Device) :
    ((dev.freed k).assignCompositionTarget k a).2 =
      (dev.targetMPP k a).elim (dev.freed k) fun o => (dev.freed k).assignTarget k o := by
  have huse : (dev.display k).freed.useDpu = (dev.display k).useDpu := rfl
  have hmax : (dev.display k).freed.maxWindowNum = (dev.display k).maxWindowNum := rfl
  have hused : (dev.display k).freed.windowNumUsed = 0 := rfl
  unfold assignCompositionTarget
  dsimp only
  rw [freed_display]
  rcases Nat.eq_zero_or_pos (dev.display k).layerNum with hn | hn
  · have htarget : dev.targetMPP k a = none := by
      refine if_neg ?_
      rintro ⟨-, hpos, -⟩
      exact absurd hpos (hn ▸ Nat.lt_irrefl 0)
    rw [htarget, if_pos (Display.freed_client_empty hn)]
    rfl
  · obtain ⟨hhas, hfirst, hlast⟩ := Display.freed_client hn
    rw [if_neg (by rw [hhas]; exact Bool.noConfusion), if_neg (by rw [hfirst, hlast]; omega)]
    rw [huse, hmax, hused, freed_findOtfMPP hn]
    unfold targetMPP
    by_cases hdpu : (dev.display k).useDpu = true
    · by_cases hroom : 0 < (dev.display k).maxWindowNum
      · rw [if_neg (by rw [hdpu]; exact Bool.noConfusion), if_neg (Nat.not_le.mpr hroom),
          if_pos ⟨hdpu, hn, hroom⟩]
        split
        · next hfind => rw [hfind]; rfl
        · next o hfind => rw [hfind]; rfl
      · rw [if_neg (by rw [hdpu]; exact Bool.noConfusion), if_pos (Nat.not_lt.mp hroom),
          if_neg fun h => hroom h.2.2]
        rfl
    · rw [if_pos (Bool.not_eq_true _ ▸ hdpu), if_neg fun h => hdpu h.1]
      rfl

end Device

/-! ### The window -/

/-- A display with the client target on window `w`. -/
def Display.atWindow (w : Int) (d : Display) : Display :=
  { d with client := { d.client with windowIndex := w } }

theorem Display.atWindow_self (d : Display) : d.atWindow d.client.windowIndex = d := rfl

namespace Device

/-- A client layer before the last one of the range takes no window. -/
theorem assignLayerWindow_before {k maxDeconWin i : Nat} {p : Device × Nat}
    (hclient : ((p.1.display k).layer i).validateCompositionType = .client)
    (hlast : (i : Int) ≠ (p.1.display k).client.lastIndex) :
    assignLayerWindow k maxDeconWin p i = p := by
  have htarget : ∀ dedicated, targetWindow (p.1.display k).client dedicated maxDeconWin i p.2 =
      ((p.1.display k).client, p.2) := by
    intro dedicated
    unfold targetWindow
    rw [if_pos hlast, ite_self]
  unfold assignLayerWindow
  simp only [hclient, htarget]
  rw [onDisplay_eq_self rfl]

/-- The last layer of the range takes the window of the client target. -/
theorem assignLayerWindow_last {k maxDeconWin i : Nat} {p : Device × Nat}
    (hclient : ((p.1.display k).layer i).validateCompositionType = .client)
    (hhas : (p.1.display k).client.hasCompositionLayer = true)
    (hfirst : (p.1.display k).client.firstIndex = 0)
    (hlast : (p.1.display k).client.lastIndex = i) :
    (assignLayerWindow k maxDeconWin p i).1 = p.1.onDisplay k (·.atWindow
      (if p.1.isDedicated ⟨k, .client⟩ then (maxDeconWin : Int) - 1 else p.2)) := by
  have hvalid : ¬ ((p.1.display k).client.hasCompositionLayer = false ∨
      (p.1.display k).client.firstIndex < 0 ∨ (p.1.display k).client.lastIndex < 0) := by
    rw [hhas, hfirst, hlast]
    rintro (h | h | h)
    · cases h
    · exact absurd h (Int.lt_irrefl 0)
    · exact absurd h (Int.not_lt.mpr (Int.natCast_nonneg i))
  unfold assignLayerWindow targetWindow
  simp only [hclient]
  rw [if_neg hvalid, if_neg (by rw [hlast]; exact fun h => h rfl)]
  apply onDisplay_congr
  unfold Display.atWindow
  split <;> rfl

/-- **`assignWindow`** on client layers only writes the window of the client target. -/
theorem assignWindow_client (k maxDeconWin : Nat) {dev : Device}
    (hclient : ∀ i, i < (dev.display k).layerNum →
      ((dev.display k).layer i).validateCompositionType = .client)
    (hrange : 0 < (dev.display k).layerNum →
      (dev.display k).client.hasCompositionLayer = true ∧
      (dev.display k).client.firstIndex = 0 ∧
      (dev.display k).client.lastIndex = ((dev.display k).layerNum : Int) - 1) :
    ∃ w, dev.assignWindow k maxDeconWin = dev.onDisplay k (·.atWindow w) ∧
      ((dev.display k).useDpu = true → 0 < (dev.display k).layerNum →
        w = if dev.isDedicated ⟨k, .client⟩ then (maxDeconWin : Int) - 1
          else (dev.display k).baseWindowIndex) := by
  unfold assignWindow
  dsimp only
  cases hdpu : (dev.display k).useDpu with
  | false => exact ⟨_, (onDisplay_eq_self (Display.atWindow_self _)).symm, nofun⟩
  | true =>
    rw [if_neg Bool.noConfusion]
    cases hn : (dev.display k).layerNum with
    | zero =>
      refine ⟨_, (onDisplay_eq_self (Display.atWindow_self _)).symm, ?_⟩
      intro _ hpos
      exact absurd hpos (Nat.lt_irrefl 0)
    | succ n =>
      rw [hn] at hclient hrange
      obtain ⟨hhas, hfirst, hlast⟩ := hrange (Nat.succ_pos n)
      have hlast' : (dev.display k).client.lastIndex = n := by
        rw [hlast]
        exact Int.add_sub_cancel (n : Int) 1
      have hbefore : ∀ m, m ≤ n → (List.range m).foldl (assignLayerWindow k maxDeconWin)
          (dev, (dev.display k).baseWindowIndex) = (dev, (dev.display k).baseWindowIndex) := by
        intro m hm
        induction m with
        | zero => rfl
        | succ m ih =>
          rw [List.range_succ, List.foldl_append, ih (Nat.le_of_succ_le hm)]
          refine assignLayerWindow_before (hclient m (Nat.lt_succ_of_lt hm)) ?_
          rw [hlast']
          exact Int.ofNat_inj.not.mpr (Nat.ne_of_lt hm)
      rw [List.range_succ, List.foldl_append, hbefore n (Nat.le_refl n)]
      refine ⟨_, assignLayerWindow_last (hclient n (Nat.lt_succ_self n)) hhas hfirst hlast', ?_⟩
      intro _ _
      rfl

end Device

/-! ### The recovery -/

theorem ExynosMPP.released_dedicated (k : Nat) (m : ExynosMPP) :
    (m.released k).dedicated = m.dedicated := by
  unfold ExynosMPP.released
  split <;> rfl

theorem ExynosMPP.released_imageFences (k : Nat) (m : ExynosMPP) :
    (m.released k).imageFences = m.imageFences := by
  unfold ExynosMPP.released
  split <;> rfl

/-- The sources of an MPP that got one more. -/
theorem ExynosMPP.add_perm (m : ExynosMPP) (zOrder : MPPSource → Nat) (x : MPPSource) :
    (m.add zOrder x).assignedSources.Perm (m.assignedSources ++ [x]) := by
  unfold ExynosMPP.add
  dsimp only
  split
  · exact List.mergeSort_perm _ _
  · exact List.Perm.refl _

namespace Device

variable (k : Nat) (a : Answers) (dev : Device)

/-- The device after the client target was assigned. -/
def recovered : Device :=
  (dev.targetMPP k a).elim (dev.freed k) fun o => (dev.freed k).assignTarget k o

theorem targetMPP_mem {k : Nat} {a : Answers} {dev : Device} {o : MppId}
    (h : dev.targetMPP k a = some o) : o ∈ dev.mpps := by
  unfold targetMPP at h
  split at h
  · exact List.mem_append_left _ (List.mem_of_find?_eq_some h)
  · cases h

theorem targetMPP_needs {k : Nat} {a : Answers} {dev : Device} {o : MppId}
    (h : dev.targetMPP k a = some o) :
    (dev.display k).useDpu = true ∧ 0 < (dev.display k).layerNum := by
  unfold targetMPP at h
  split at h
  · next hneeds => exact ⟨hneeds.1, hneeds.2.1⟩
  · cases h

theorem freed_mpp {m : MppId} (hm : m ∈ dev.mpps) :
    (dev.freed k).mpp m = (dev.mpp m).released k := if_pos hm

theorem recovered_display : (dev.recovered k a).display k =
    { (dev.display k).freed with
      windowNumUsed := if (dev.targetMPP k a).isSome then 1 else 0 } := by
  unfold recovered
  cases dev.targetMPP k a with
  | none => exact dev.freed_display k
  | some o =>
    have hgiven : ((dev.freed k).assignTarget k o).display k =
        { (dev.freed k).display k with
          windowNumUsed := Assignment.increment ((dev.freed k).display k).windowNumUsed } :=
      Function.update_self ..
    refine hgiven.trans ?_
    rw [freed_display]
    rfl

theorem recovered_other {j : Nat} (hj : j ≠ k) :
    (dev.recovered k a).display j = dev.display j := by
  unfold recovered
  cases dev.targetMPP k a with
  | none => exact onDisplay_of_ne hj _ dev
  | some o =>
    have hgiven : ((dev.freed k).assignTarget k o).display j = (dev.freed k).display j :=
      Function.update_of_ne hj ..
    exact hgiven.trans (onDisplay_of_ne hj _ dev)

theorem recovered_mpp (m : MppId) : (dev.recovered k a).mpp m =
    if dev.targetMPP k a = some m then
      ((dev.mpp m).released k).add dev.zOrder ⟨k, .client⟩
    else releaseAll k dev.mpps dev.mpp m := by
  unfold recovered
  cases htarget : dev.targetMPP k a with
  | none => rfl
  | some o =>
    refine (?_ : update (dev.freed k).mpp o _ m = _)
    by_cases hm : m = o
    · subst hm
      rw [Function.update_self, if_pos rfl, dev.freed_mpp k (targetMPP_mem htarget)]
      rfl
    · rw [Function.update_of_ne hm, if_neg]
      · rfl
      · intro h
        exact hm (Option.some.inj h).symm

theorem recovered_closed : (dev.recovered k a).closed = (dev.display k).exynos.closeFences
    ((dev.display k).client.closeFences dev.closed) := by
  unfold recovered
  cases dev.targetMPP k a <;> rfl

theorem recovered_m2mMPP : (dev.recovered k a).m2mMPP = (dev.freed k).m2mMPP := by
  unfold recovered
  cases dev.targetMPP k a <;> rfl

theorem recovered_otfMPP (x : MPPSource) : (dev.recovered k a).otfMPP x =
    if x = ⟨k, .client⟩ then dev.targetMPP k a else (dev.freed k).otfMPP x := by
  unfold recovered
  cases dev.targetMPP k a with
  | none =>
    split
    · next hx =>
      subst hx
      simp [freed, unlinkAll]
    · rfl
  | some o =>
    refine (?_ : update (dev.freed k).otfMPP ⟨k, .client⟩ (some o) x = _)
    by_cases hx : x = ⟨k, .client⟩
    · rw [hx, Function.update_self, if_pos rfl]
    · rw [Function.update_of_ne hx, if_neg hx]

end Device

namespace Device

/-- **The error handling** only has the window of the client target left to write. -/
theorem handleError_eq (k : Nat) (a : Answers) (maxDeconWin : Nat) (dev : Device) :
    ∃ w, dev.handleError k a maxDeconWin = (dev.recovered k a).onDisplay k (·.atWindow w) ∧
      ∀ o, dev.targetMPP k a = some o → w =
        if (dev.mpp o).dedicated then (maxDeconWin : Int) - 1
        else (dev.display k).baseWindowIndex := by
  have hdisplay := dev.recovered_display k a
  have hlayers : ((dev.recovered k a).display k).layerNum = (dev.display k).layerNum := by
    rw [hdisplay]
    rfl
  obtain ⟨w, hwindow, hw⟩ := @assignWindow_client k maxDeconWin (dev.recovered k a)
    (by
      intro i hi
      rw [hlayers] at hi
      rw [hdisplay]
      unfold Display.freed Display.allClient
      dsimp only
      rw [if_pos hi]
      rfl)
    (by
      intro hn
      rw [hlayers] at hn ⊢
      rw [hdisplay]
      exact Display.freed_client hn)
  refine ⟨w, ?_, ?_⟩
  · unfold handleError
    dsimp only
    rw [freed_eq, freed_assignCompositionTarget]
    exact hwindow
  · intro o ho
    obtain ⟨hdpu, hn⟩ := targetMPP_needs ho
    have hdedicated : (dev.recovered k a).isDedicated ⟨k, .client⟩ = (dev.mpp o).dedicated := by
      unfold isDedicated
      rw [recovered_otfMPP, if_pos rfl, ho, Option.any_some, recovered_mpp, if_pos ho]
      exact ExynosMPP.released_dedicated k (dev.mpp o)
    rw [hdedicated, hlayers, hdisplay] at hw
    exact hw hdpu hn

end Device

/-- What a released MPP of the display still lists: nothing. -/
theorem ExynosMPP.released_own {k : Nat} {m : ExynosMPP} (hk : m.assignedDisplay = some k) :
    (m.released k).assignedSources = [] := by
  unfold ExynosMPP.released
  rw [if_pos hk]
  rfl

theorem ExynosMPP.released_other {k : Nat} {m : ExynosMPP} (hk : m.assignedDisplay ≠ some k) :
    m.released k = m := if_neg hk

theorem releaseAll_other {k : Nat} {l : List MppId} {mpp : MppId → ExynosMPP} {m : MppId}
    (hk : (mpp m).assignedDisplay ≠ some k) : releaseAll k l mpp m = mpp m := by
  unfold releaseAll
  rw [ExynosMPP.released_other hk, ite_self]

/-- A link to an MPP of the display that lists the source is taken back. -/
theorem unlinkAll_own {k : Nat} {l : List MppId} {mpp : MppId → ExynosMPP}
    {link : MPPSource → Option MppId} {m : MppId} {x : MPPSource} (hm : m ∈ l)
    (hk : (mpp m).assignedDisplay = some k) (hx : x ∈ (mpp m).assignedSources) :
    unlinkAll k l mpp link x ≠ some m := by
  unfold unlinkAll
  cases hlink : link x with
  | none => exact nofun
  | some m' =>
    dsimp only
    split
    · exact nofun
    · next hnot =>
      intro h
      cases h
      exact hnot ⟨hm, hk, hx⟩

/-- A source that no MPP of the display lists keeps its link. -/
theorem unlinkAll_other {k : Nat} {l : List MppId} {mpp : MppId → ExynosMPP}
    {link : MPPSource → Option MppId} {x : MPPSource}
    (hx : ∀ m, (mpp m).assignedDisplay = some k → x ∉ (mpp m).assignedSources) :
    unlinkAll k l mpp link x = link x := by
  unfold unlinkAll
  cases hlink : link x with
  | none => rfl
  | some m =>
    dsimp only
    rw [if_neg]
    rintro ⟨-, hk, hmem⟩
    exact hx m hk hmem

namespace Device

/-- **Every state recovers.** -/
theorem handleError_recovers (k : Nat) (a : Answers) (maxDeconWin : Nat) (dev : Device) :
    Recovered k a maxDeconWin dev (dev.handleError k a maxDeconWin) := by
  obtain ⟨w, hafter, hw⟩ := dev.handleError_eq k a maxDeconWin
  rw [hafter]
  have hdisplay : ((dev.recovered k a).onDisplay k (·.atWindow w)).display k =
      Display.atWindow w { (dev.display k).freed with
        windowNumUsed := if (dev.targetMPP k a).isSome then 1 else 0 } := by
    rw [onDisplay_self, recovered_display]
  have hmpp : ∀ m, ((dev.recovered k a).onDisplay k (·.atWindow w)).mpp m =
      (dev.recovered k a).mpp m := fun _ => rfl
  refine
    { layers := ?_, client_range := ?_, exynos_empty := ?_, sources := ?_, links := ?_
      windowNumUsed := ?_, target := ?_, target_sources := ?_, target_window := ?_, closed := ?_
      fences := ?_, other_displays := ?_, other_mpps := ?_, other_links := ?_ }
  · intro i hi
    rw [hdisplay]
    exact congrArg Layer.validateCompositionType (if_pos hi)
  · rw [hdisplay]
    exact (dev.display k).freed_client_range
  · rw [hdisplay]
    exact ⟨rfl, rfl, rfl⟩
  · intro m hm hk x hx
    rw [hmpp, recovered_mpp] at hx
    split at hx
    · have hmem := (ExynosMPP.add_perm _ _ _).mem_iff.mp hx
      rw [ExynosMPP.released_own hk] at hmem
      exact List.mem_singleton.mp hmem
    · rw [releaseAll, if_pos hm, ExynosMPP.released_own hk] at hx
      cases hx
  · intro m hm hk x hx hclient hexynos
    have hotf : ((dev.recovered k a).onDisplay k (·.atWindow w)).otfMPP x =
        (dev.freed k).otfMPP x := by
      refine (dev.recovered_otfMPP k a x).trans ?_
      rw [if_neg hclient]
    rw [hotf]
    refine ⟨unlinkAll_own hm hk hx, ?_⟩
    have hm2m : ((dev.recovered k a).onDisplay k (·.atWindow w)).m2mMPP = (dev.freed k).m2mMPP :=
      dev.recovered_m2mMPP k a
    rw [hm2m]
    exact unlinkAll_own hm hk hx
  · rw [hdisplay]
    rfl
  · exact (dev.recovered_otfMPP k a _).trans (if_pos rfl)
  · intro o ho
    rw [hmpp, recovered_mpp, if_pos ho]
    exact ⟨ExynosMPP.add_perm _ _ _, rfl⟩
  · intro o ho
    rw [hdisplay]
    exact hw o ho
  · rw [hdisplay]
    obtain ⟨hacquire, hrelease⟩ := (dev.display k).freed_client_fences
    exact ⟨dev.recovered_closed k a, hacquire, hrelease, rfl, rfl⟩
  · constructor
    · intro i
      rw [hdisplay]
      have hlayer : (Display.atWindow w { (dev.display k).freed with
          windowNumUsed := if (dev.targetMPP k a).isSome then 1 else 0 }).layer i =
          if i < (dev.display k).layerNum then ((dev.display k).layer i).forced
          else (dev.display k).layer i := rfl
      rw [hlayer]
      split
      · exact ⟨rfl, rfl⟩
      · exact ⟨rfl, rfl⟩
    · intro m
      rw [hmpp, recovered_mpp]
      split
      · exact ExynosMPP.released_imageFences k (dev.mpp m)
      · unfold releaseAll
        split
        · exact ExynosMPP.released_imageFences k (dev.mpp m)
        · rfl
  · intro j hj
    rw [onDisplay_of_ne hj]
    exact dev.recovered_other k a hj
  · intro m hk hnot
    rw [hmpp, recovered_mpp, if_neg hnot]
    exact releaseAll_other hk
  · intro x hx hnone
    have hclient : x ≠ ⟨k, .client⟩ := by
      rintro rfl
      exact hx rfl
    have hexynos : x ≠ ⟨k, .exynos⟩ := by
      rintro rfl
      exact hx rfl
    constructor
    · refine (dev.recovered_otfMPP k a x).trans ?_
      rw [if_neg hclient]
      refine (unlinkAll_other hnone).trans ?_
      rw [Function.update_of_ne hexynos, Function.update_of_ne hclient]
    · refine (congrFun (dev.recovered_m2mMPP k a) x).trans ?_
      refine (unlinkAll_other hnone).trans ?_
      rw [Function.update_of_ne hexynos]

end Device

/-! ### The failures of a validation -/

/-- The points at which the work on display `k` fails, with the device then. -/
inductive FailsAt (w : Work) (changed : Bool) (k : Nat) (dev : Device) : Device → Prop where
  | assignResource : changed = true → (w.assignResource k dev).1 = true →
      FailsAt w changed k dev (w.assignResource k dev).2
  | capacity : changed = true → (w.assignResource k dev).1 = false →
      w.overCapacity (w.assignResource k dev).2 = true →
      FailsAt w changed k dev (w.assignResource k dev).2
  | deliverPerformanceInfo : (w.assign changed k dev).1 = false →
      (w.deliverPerformanceInfo k (w.assign changed k dev).2).1 = true →
      FailsAt w changed k dev (w.deliverPerformanceInfo k (w.assign changed k dev).2).2
  | postProcessValidate : (w.assign changed k dev).1 = false →
      (w.deliverPerformanceInfo k (w.assign changed k dev).2).1 = false →
      (w.postProcessValidate k
        (w.deliverPerformanceInfo k (w.assign changed k dev).2).2).1 = true →
      FailsAt w changed k dev (w.postProcessValidate k
        (w.deliverPerformanceInfo k (w.assign changed k dev).2).2).2

namespace FailsAt

variable {w : Work} {changed : Bool} {k : Nat} {dev stop : Device}

/-- The error handling starts at the failure. -/
theorem run_eq (h : FailsAt w changed k dev stop) : w.run changed k dev = (true, stop) := by
  cases h with
  | assignResource hchanged hfail =>
    simp [Work.run, Work.assign, hchanged, hfail]
  | capacity hchanged hassigned hover =>
    simp [Work.run, Work.assign, hchanged, hassigned, hover]
  | deliverPerformanceInfo hassigned hfail =>
    simp only [Work.run, hassigned, hfail, Bool.false_eq_true, if_false, if_true]
    exact Prod.ext hfail rfl
  | postProcessValidate hassigned hdelivered hfail =>
    simp only [Work.run, hassigned, hdelivered, Bool.false_eq_true, if_false]
    exact Prod.ext hfail rfl

/-- There are no other failures. -/
theorem of_run (h : (w.run changed k dev).1 = true) :
    FailsAt w changed k dev (w.run changed k dev).2 := by
  unfold Work.run at h ⊢
  dsimp only at h ⊢
  cases hassign : (w.assign changed k dev).1 with
  | true =>
    rw [if_pos rfl]
    unfold Work.assign at hassign ⊢
    cases hchanged : changed with
    | false =>
      rw [hchanged] at hassign
      cases hassign
    | true =>
      rw [hchanged] at hassign
      rw [if_pos rfl] at hassign ⊢
      rcases Bool.or_eq_true_iff.mp hassign with hfail | hover
      · exact .assignResource rfl hfail
      · cases hfail : (w.assignResource k dev).1 with
        | true => exact .assignResource rfl hfail
        | false => exact .capacity rfl hfail hover
  | false =>
    rw [hassign, if_neg Bool.false_ne_true] at h
    rw [if_neg Bool.false_ne_true]
    cases hdeliver : (w.deliverPerformanceInfo k (w.assign changed k dev).2).1 with
    | true =>
      rw [if_pos rfl]
      exact .deliverPerformanceInfo hassign hdeliver
    | false =>
      rw [hdeliver, if_neg Bool.false_ne_true] at h
      rw [if_neg Bool.false_ne_true]
      exact .postProcessValidate hassign hdeliver h

end FailsAt

/-- A validation ends in the error handling of a failure, or in the work as it is. -/
theorem validate_cases (w : Work) (changed : Bool) (a : Answers) (maxDeconWin k : Nat)
    (dev : Device) :
    (∃ stop, FailsAt w changed k dev stop ∧
        w.validate changed a maxDeconWin k dev = stop.handleError k a maxDeconWin) ∨
      w.validate changed a maxDeconWin k dev = (w.run changed k dev).2 := by
  unfold Work.validate
  dsimp only
  cases hfail : (w.run changed k dev).1 with
  | true => exact .inl ⟨_, .of_run hfail, rfl⟩
  | false => exact .inr rfl

/-- **A display whose validation fails recovers**, whichever part of the work fails
    and whatever the parts before it have left. -/
theorem failed_display_recovers {w : Work} {changed : Bool} {k : Nat} {dev stop : Device}
    (h : FailsAt w changed k dev stop) (a : Answers) (maxDeconWin : Nat) :
    Recovered k a maxDeconWin stop (w.validate changed a maxDeconWin k dev) := by
  unfold Work.validate
  rw [h.run_eq]
  exact stop.handleError_recovers k a maxDeconWin

/-- Work that fails behind an assignment that changes nothing. -/
def failing : Work where
  assignResource _ dev := (false, dev)
  overCapacity _ := false
  deliverPerformanceInfo _ dev := (true, dev)
  postProcessValidate _ dev := (false, dev)

/-- Every check succeeds. -/
def accepting : Answers := ⟨fun _ => true, fun _ => true, fun _ => true⟩

def noComposition : ExynosCompositionInfo := ⟨false, -1, -1, -1, -1, -1, false⟩

def overlay : Layer := ⟨true, .low, .device, false, false, 0, -1, -1⟩

def screen (useDpu : Bool) (layerNum : Nat) : Display :=
  ⟨0, useDpu, 4, 0, none, layerNum, fun _ => overlay, noComposition, noComposition, 1, false⟩

/-- A channel that shows layer 0 of display 0. -/
def channel : ExynosMPP :=
  ⟨1, false, false, none, true, -1, true, some 0, [⟨0, .layer 0⟩], []⟩

/-- A blender with one layer of either display, last assigned for display `last`. -/
def blender (last : Nat) : ExynosMPP :=
  ⟨7, false, false, none, true, -1, true, some last, [⟨0, .layer 0⟩, ⟨1, .layer 0⟩], []⟩

/-- Two displays of `screen` with the channel and the blender. -/
def twoDisplays (useDpu : Bool) (layerNum last : Nat) : Device where
  display _ := screen useDpu layerNum
  mpp m := if m = 0 then channel else blender last
  otfMPPs := [0]
  m2mMPPs := [1]
  otfMPP x := if x = ⟨0, .layer 0⟩ then some 0 else none
  m2mMPP x := if x.place = .layer 0 then some 1 else none
  zOrder _ := 0
  geometryError := false
  closed := []

theorem failed_screen_recovers :
    Recovered 0 accepting 8 (twoDisplays true 1 0)
      (failing.validate true accepting 8 0 (twoDisplays true 1 0)) ∧
    ((failing.validate true accepting 8 0 (twoDisplays true 1 0)).display 0).windowNumUsed = 1 := by
  have hfails : FailsAt failing true 0 (twoDisplays true 1 0) (twoDisplays true 1 0) :=
    .deliverPerformanceInfo rfl rfl
  exact ⟨failed_display_recovers hfails accepting 8, by decide⟩

/-- Without a DPU or a layer there is no window for the client target; an MPP that two
    displays share keeps its sources of the failed display when it was assigned for the
    other one last, and loses those of the other display otherwise. -/
theorem no_window_and_shared_mpp :
    ((failing.validate true accepting 8 0 (twoDisplays false 1 0)).display 0).windowNumUsed = 0 ∧
    ((failing.validate true accepting 8 0 (twoDisplays true 0 0)).display 0).windowNumUsed = 0 ∧
    ⟨0, .layer 0⟩ ∈
      ((failing.validate true accepting 8 0 (twoDisplays true 1 1)).mpp 1).assignedSources ∧
    (failing.validate true accepting 8 0 (twoDisplays true 1 0)).m2mMPP ⟨1, .layer 0⟩ = none := by
  decide

end ExynosHal.ValidateFallback
