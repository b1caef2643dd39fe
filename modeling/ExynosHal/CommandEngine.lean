/-
  ExynosHal/CommandEngine.lean
  ============================
  **`ComposerCommandEngine`: from a batch of commands to calls and results.**

  `execute` of `hwc3/ComposerCommandEngine.cpp` with its two dispatch functions
  and all handlers.  A handler looks a buffer up where it needs one, calls the
  HAL, and reports a failure under the index of its command.

  The HAL and the buffer resources may answer every call as they like.  A field
  that is set therefore carries, beside its value, the answers that its calls
  get in this run (`Asked`, `Looked`, …); the code reads an answer where it makes
  the call.  `trace` is a ghost: the calls with their results, in order.
-/

namespace ExynosHal.CommandEngine

/-! ### What a command carries -/

abbrev FloatBits := BitVec 32
abbrev Handle := Nat

structure Rect where
  left : Int
  top : Int
  right : Int
  bottom : Int
deriving DecidableEq, Repr

structure FRect where
  left : FloatBits
  top : FloatBits
  right : FloatBits
  bottom : FloatBits
deriving DecidableEq, Repr

structure Color where
  r : FloatBits
  g : FloatBits
  b : FloatBits
  a : FloatBits
deriving DecidableEq, Repr

structure Buffer where
  slot : Nat
  handle : Option Handle
  fence : Int
deriving DecidableEq, Repr

structure ClientTarget where
  buffer : Buffer
  dataspace : Int
  damage : List Rect
deriving DecidableEq, Repr

structure PerFrameMetadata where
  key : Int
  value : FloatBits
deriving DecidableEq, Repr

structure PerFrameMetadataBlob where
  key : Int
  blob : List (BitVec 8)
deriving DecidableEq, Repr

/-- A field that is set, with the result of the call it asks for. -/
structure Asked (α : Type) where
  value : α
  err : Int

/-- A field that needs a lookup before its call; `out` is the handle that the
    lookup leaves. -/
structure Looked (α : Type) where
  value : α
  found : Int
  out : Handle
  err : Int

/-- The answer of `validateDisplay`. -/
structure Validation where
  err : Int
  changedLayers : List Int
  compositionTypes : List Int
  displayRequestMask : Nat
  requestedLayers : List Int
  requestMasks : List Int

/-- The answer of `presentDisplay`. -/
structure Presentation where
  err : Int
  presentFence : Int
  layers : List Int
  fences : List Int

/-- `validateDisplay` is set; `timeErr` answers `setExpectedPresentTime`. -/
structure AskedValidate where
  timeErr : Int
  validation : Validation

structure AskedPresentOrValidate where
  timeErr : Int
  /-- The answer of `mustValidateDisplay`. -/
  mustValidate : Bool
  presentation : Presentation
  validation : Validation

structure LayerCommand where
  layer : Int
  cursorPosition : Option (Asked (Int × Int))
  buffer : Option (Looked Buffer)
  damage : Option (Asked (List (Option Rect)))
  blendMode : Option (Asked Int)
  color : Option (Asked Color)
  composition : Option (Asked Int)
  dataspace : Option (Asked Int)
  displayFrame : Option (Asked Rect)
  planeAlpha : Option (Asked FloatBits)
  sidebandStream : Option (Looked Handle)
  sourceCrop : Option (Asked FRect)
  transform : Option (Asked Int)
  visibleRegion : Option (Asked (List (Option Rect)))
  z : Option (Asked Nat)
  colorTransform : Option (Asked (List FloatBits))
  perFrameMetadata : Option (Asked (List (Option PerFrameMetadata)))
  perFrameMetadataBlob : Option (Asked (List (Option PerFrameMetadataBlob)))

structure DisplayCommand where
  display : Int
  layers : List LayerCommand
  colorTransformMatrix : Option (Asked (List FloatBits))
  clientTarget : Option (Looked ClientTarget)
  virtualDisplayOutputBuffer : Option (Looked Buffer)
  brightness : Option (Asked FloatBits)
  expectedPresentTime : Option Int
  validateDisplay : Option AskedValidate
  acceptDisplayChanges : Option (Asked Unit)
  presentDisplay : Option Presentation
  presentOrValidateDisplay : Option AskedPresentOrValidate

/-! ### Calls and results -/

/-- The operations of `mHal`. -/
inductive HalCall where
  | setColorTransform (display : Int) (matrix : List FloatBits)
  | setClientTarget (display : Int) (target : Handle) (fence dataspace : Int) (damage : List Rect)
  | setOutputBuffer (display : Int) (buffer : Handle) (fence : Int)
  | setDisplayBrightness (display : Int) (brightness : FloatBits)
  | setExpectedPresentTime (display : Int) (expectedPresentTime : Option Int)
  | validateDisplay (display : Int)
  | acceptDisplayChanges (display : Int)
  | presentDisplay (display : Int)
  | setLayerCursorPosition (display layer x y : Int)
  | setLayerBuffer (display layer : Int) (buffer : Handle) (fence : Int)
  | setLayerSurfaceDamage (display layer : Int) (damage : List (Option Rect))
  | setLayerBlendMode (display layer mode : Int)
  | setLayerColor (display layer : Int) (color : Color)
  | setLayerCompositionType (display layer type : Int)
  | setLayerDataspace (display layer dataspace : Int)
  | setLayerDisplayFrame (display layer : Int) (frame : Rect)
  | setLayerPlaneAlpha (display layer : Int) (alpha : FloatBits)
  | setLayerSidebandStream (display layer : Int) (stream : Handle)
  | setLayerSourceCrop (display layer : Int) (crop : FRect)
  | setLayerTransform (display layer transform : Int)
  | setLayerVisibleRegion (display layer : Int) (visible : List (Option Rect))
  | setLayerZOrder (display layer : Int) (z : Nat)
  | setLayerColorTransform (display layer : Int) (matrix : List FloatBits)
  | setLayerPerFrameMetadata (display layer : Int) (metadata : List (Option PerFrameMetadata))
  | setLayerPerFrameMetadataBlobs (display layer : Int)
      (blobs : List (Option PerFrameMetadataBlob))
deriving DecidableEq, Repr

/-- The lookups of `mResources`; `fromCache` when no handle came with the slot. -/
inductive Lookup where
  | getDisplayClientTarget (display : Int) (slot : Nat) (fromCache : Bool) (handle : Option Handle)
  | getDisplayOutputBuffer (display : Int) (slot : Nat) (fromCache : Bool) (handle : Option Handle)
  | getLayerBuffer (display layer : Int) (slot : Nat) (fromCache : Bool) (handle : Option Handle)
  | getLayerSidebandStream (display layer : Int) (handle : Handle)
deriving DecidableEq, Repr

inductive Event where
  | lookup (l : Lookup) (err : Int)
  | hal (c : HalCall) (err : Int)
  | setDisplayMustValidateState (display : Int) (mustValidate : Bool)
deriving DecidableEq, Repr

/-- `PresentOrValidate::Result`. -/
inductive PresentOrValidateResult where
  | presented
  | validated
deriving DecidableEq, Repr

inductive CommandResultPayload where
  | error (commandIndex : Nat) (errorCode : Int)
  | changedCompositionTypes (display : Int) (layers types : List Int)
  | displayRequest (display : Int) (mask : Nat) (layers masks : List Int)
  | presentFence (display fence : Int)
  | releaseFences (display : Int) (layers fences : List Int)
  | presentOrValidateResult (display : Int) (result : PresentOrValidateResult)
deriving DecidableEq, Repr

structure Engine where
  mCommandIndex : Nat
  /-- The pending results of `mWriter`. -/
  mWriter : List CommandResultPayload
  trace : List Event
deriving DecidableEq, Repr

namespace Engine

def did (e : Engine) (event : Event) : Engine := { e with trace := e.trace ++ [event] }

def write (e : Engine) (payload : CommandResultPayload) : Engine :=
  { e with mWriter := e.mWriter ++ [payload] }

def setError (e : Engine) (err : Int) : Engine := e.write (.error e.mCommandIndex err)

/-! ### Handlers -/

/-- The common handler: call, and report a failure. -/
def report (c : HalCall) (err : Int) (e : Engine) : Engine :=
  let e := e.did (.hal c err)
  if err ≠ 0 then e.setError err else e

/-- The handler of a field with a buffer: the call is made if the lookup succeeds. -/
def lookupAndReport (l : Lookup) (found : Int) (c : HalCall) (err : Int) (e : Engine) : Engine :=
  let e := e.did (.lookup l found)
  if found = 0 then e.report c err else e.setError found

def executeValidateDisplayInternal (display : Int) (v : Validation) (e : Engine) :
    Int × Engine :=
  let e := e.did (.hal (.validateDisplay display) v.err)
  let e := e.did (.setDisplayMustValidateState display false)
  let e :=
    if v.err = 0 then
      (e.write (.changedCompositionTypes display v.changedLayers v.compositionTypes)).write
        (.displayRequest display v.displayRequestMask v.requestedLayers v.requestMasks)
    else e.setError v.err
  (v.err, e)

def executeSetColorTransform (display : Int) (matrix : List FloatBits) (err : Int) :
    Engine → Engine :=
  report (.setColorTransform display matrix) err

def executeSetClientTarget (display : Int) (command : Looked ClientTarget) : Engine → Engine :=
  let buffer := command.value.buffer
  lookupAndReport
    (.getDisplayClientTarget display buffer.slot buffer.handle.isNone buffer.handle) command.found
    (.setClientTarget display command.out buffer.fence command.value.dataspace
      command.value.damage) command.err

def executeSetOutputBuffer (display : Int) (buffer : Looked Buffer) : Engine → Engine :=
  lookupAndReport
    (.getDisplayOutputBuffer display buffer.value.slot buffer.value.handle.isNone
      buffer.value.handle) buffer.found
    (.setOutputBuffer display buffer.out buffer.value.fence) buffer.err

/-- The result of the call is not read. -/
def executeSetExpectedPresentTimeInternal (display : Int) (expectedPresentTime : Option Int)
    (err : Int) (e : Engine) : Engine :=
  e.did (.hal (.setExpectedPresentTime display expectedPresentTime) err)

def executeValidateDisplay (display : Int) (expectedPresentTime : Option Int)
    (v : AskedValidate) (e : Engine) : Engine :=
  let e := e.executeSetExpectedPresentTimeInternal display expectedPresentTime v.timeErr
  (e.executeValidateDisplayInternal display v.validation).2

def executeSetDisplayBrightness (display : Int) (brightness : FloatBits) (err : Int) :
    Engine → Engine :=
  report (.setDisplayBrightness display brightness) err

def executePresentDisplay (display : Int) (p : Presentation) (e : Engine) : Int × Engine :=
  let e := e.did (.hal (.presentDisplay display) p.err)
  let e :=
    if p.err = 0 then
      let e := if p.presentFence ≠ -1 then e.write (.presentFence display p.presentFence) else e
      e.write (.releaseFences display p.layers p.fences)
    else e
  (p.err, e)

def EX_NOT_VALIDATED : Int := 7

/-- `skipValidate`: the HAL has `Capability::SKIP_VALIDATE`. -/
def executePresentOrValidateDisplay (skipValidate : Bool) (display : Int)
    (expectedPresentTime : Option Int) (pv : AskedPresentOrValidate) (e : Engine) : Engine :=
  let e := e.executeSetExpectedPresentTimeInternal display expectedPresentTime pv.timeErr
  let tried : Option Int × Engine :=
    if skipValidate then
      if pv.mustValidate then (some EX_NOT_VALIDATED, e)
      else
        let presented := e.executePresentDisplay display pv.presentation
        (some presented.1, presented.2)
    else (none, e)
  if tried.1 = some 0 then tried.2.write (.presentOrValidateResult display .presented)
  else
    let validated := tried.2.executeValidateDisplayInternal display pv.validation
    if validated.1 = 0 then validated.2.write (.presentOrValidateResult display .validated)
    else validated.2

def executeAcceptDisplayChanges (display : Int) (err : Int) : Engine → Engine :=
  report (.acceptDisplayChanges display) err

def executeSetLayerCursorPosition (display layer : Int) (cursorPosition : Int × Int) (err : Int) :
    Engine → Engine :=
  report (.setLayerCursorPosition display layer cursorPosition.1 cursorPosition.2) err

def executeSetLayerBuffer (display layer : Int) (buffer : Looked Buffer) : Engine → Engine :=
  lookupAndReport
    (.getLayerBuffer display layer buffer.value.slot buffer.value.handle.isNone
      buffer.value.handle) buffer.found
    (.setLayerBuffer display layer buffer.out buffer.value.fence) buffer.err

def executeSetLayerSurfaceDamage (display layer : Int) (damage : List (Option Rect)) (err : Int) :
    Engine → Engine :=
  report (.setLayerSurfaceDamage display layer damage) err

def executeSetLayerBlendMode (display layer blendMode err : Int) : Engine → Engine :=
  report (.setLayerBlendMode display layer blendMode) err

def executeSetLayerColor (display layer : Int) (color : Color) (err : Int) : Engine → Engine :=
  report (.setLayerColor display layer color) err

def executeSetLayerComposition (display layer composition err : Int) : Engine → Engine :=
  report (.setLayerCompositionType display layer composition) err

def executeSetLayerDataspace (display layer dataspace err : Int) : Engine → Engine :=
  report (.setLayerDataspace display layer dataspace) err

def executeSetLayerDisplayFrame (display layer : Int) (rect : Rect) (err : Int) :
    Engine → Engine :=
  report (.setLayerDisplayFrame display layer rect) err

def executeSetLayerPlaneAlpha (display layer : Int) (planeAlpha : FloatBits) (err : Int) :
    Engine → Engine :=
  report (.setLayerPlaneAlpha display layer planeAlpha) err

/-- The one handler with the test the other way: the call is made after a lookup
    that failed, and its result replaces the lookup's. -/
def executeSetLayerSidebandStream (display layer : Int) (sidebandStream : Looked Handle)
    (e : Engine) : Engine :=
  let e := e.did (.lookup (.getLayerSidebandStream display layer sidebandStream.value)
    sidebandStream.found)
  let err := sidebandStream.found
  let called : Int × Engine :=
    if err ≠ 0 then
      (sidebandStream.err,
        e.did (.hal (.setLayerSidebandStream display layer sidebandStream.out) sidebandStream.err))
    else (err, e)
  if called.1 ≠ 0 then called.2.setError called.1 else called.2

def executeSetLayerSourceCrop (display layer : Int) (sourceCrop : FRect) (err : Int) :
    Engine → Engine :=
  report (.setLayerSourceCrop display layer sourceCrop) err

def executeSetLayerTransform (display layer transform err : Int) : Engine → Engine :=
  report (.setLayerTransform display layer transform) err

def executeSetLayerVisibleRegion (display layer : Int) (visibleRegion : List (Option Rect))
    (err : Int) : Engine → Engine :=
  report (.setLayerVisibleRegion display layer visibleRegion) err

def executeSetLayerZOrder (display layer : Int) (z : Nat) (err : Int) : Engine → Engine :=
  report (.setLayerZOrder display layer z) err

def executeSetLayerPerFrameMetadata (display layer : Int)
    (perFrameMetadata : List (Option PerFrameMetadata)) (err : Int) : Engine → Engine :=
  report (.setLayerPerFrameMetadata display layer perFrameMetadata) err

def executeSetLayerColorTransform (display layer : Int) (matrix : List FloatBits) (err : Int) :
    Engine → Engine :=
  report (.setLayerColorTransform display layer matrix) err

def executeSetLayerPerFrameMetadataBlobs (display layer : Int)
    (metadata : List (Option PerFrameMetadataBlob)) (err : Int) : Engine → Engine :=
  report (.setLayerPerFrameMetadataBlobs display layer metadata) err

/-! ### Dispatch -/

/-- `DISPATCH_…_COMMAND`: a handler runs if its field is set. -/
def dispatch {α : Type} (field : Option α) (handler : α → Engine → Engine) (e : Engine) : Engine :=
  match field with
  | some a => handler a e
  | none => e

/-- The same for a field that is answered with one result. -/
def dispatchAsked {α : Type} (field : Option (Asked α)) (handler : α → Int → Engine → Engine) :
    Engine → Engine :=
  dispatch field fun a => handler a.value a.err

def dispatchLayerCommand (display : Int) (e : Engine) (command : LayerCommand) : Engine :=
  let layer := command.layer
  let e := e.dispatchAsked command.cursorPosition (executeSetLayerCursorPosition display layer)
  let e := e.dispatch command.buffer (executeSetLayerBuffer display layer)
  let e := e.dispatchAsked command.damage (executeSetLayerSurfaceDamage display layer)
  let e := e.dispatchAsked command.blendMode (executeSetLayerBlendMode display layer)
  let e := e.dispatchAsked command.color (executeSetLayerColor display layer)
  let e := e.dispatchAsked command.composition (executeSetLayerComposition display layer)
  let e := e.dispatchAsked command.dataspace (executeSetLayerDataspace display layer)
  let e := e.dispatchAsked command.displayFrame (executeSetLayerDisplayFrame display layer)
  let e := e.dispatchAsked command.planeAlpha (executeSetLayerPlaneAlpha display layer)
  let e := e.dispatch command.sidebandStream (executeSetLayerSidebandStream display layer)
  let e := e.dispatchAsked command.sourceCrop (executeSetLayerSourceCrop display layer)
  let e := e.dispatchAsked command.transform (executeSetLayerTransform display layer)
  let e := e.dispatchAsked command.visibleRegion (executeSetLayerVisibleRegion display layer)
  let e := e.dispatchAsked command.z (executeSetLayerZOrder display layer)
  let e := e.dispatchAsked command.colorTransform (executeSetLayerColorTransform display layer)
  let e := e.dispatchAsked command.perFrameMetadata (executeSetLayerPerFrameMetadata display layer)
  e.dispatchAsked command.perFrameMetadataBlob (executeSetLayerPerFrameMetadataBlobs display layer)

def dispatchDisplayCommand (skipValidate : Bool) (e : Engine) (command : DisplayCommand) :
    Engine :=
  let display := command.display
  let time := command.expectedPresentTime
  let e := command.layers.foldl (dispatchLayerCommand display) e
  let e := e.dispatchAsked command.colorTransformMatrix (executeSetColorTransform display)
  let e := e.dispatch command.clientTarget (executeSetClientTarget display)
  let e := e.dispatch command.virtualDisplayOutputBuffer (executeSetOutputBuffer display)
  let e := e.dispatchAsked command.brightness (executeSetDisplayBrightness display)
  let e := e.dispatch command.validateDisplay (executeValidateDisplay display time)
  let e := e.dispatchAsked command.acceptDisplayChanges fun _ =>
    executeAcceptDisplayChanges display
  -- the result of `executePresentDisplay` is not used here
  let e := e.dispatch command.presentDisplay fun p e => (e.executePresentDisplay display p).2
  e.dispatch command.presentOrValidateDisplay
    (executePresentOrValidateDisplay skipValidate display time)

end Engine

open Engine

/-- The loop of `execute`, behind the reset of `mCommandIndex`. -/
def executeLoop (skipValidate : Bool) (e : Engine) (commands : List DisplayCommand) : Engine :=
  commands.foldl (fun e command =>
    let e := e.dispatchDisplayCommand skipValidate command
    { e with mCommandIndex := e.mCommandIndex + 1 }) e

/-- `execute`; between two calls no result is pending. -/
def execute (skipValidate : Bool) (commands : List DisplayCommand) :
    List CommandResultPayload × List Event :=
  let e := executeLoop skipValidate ⟨0, [], []⟩ commands
  (e.mWriter, e.trace)

/-! ### What a batch asks for -/

/-- One request of a command, with the answers to its calls. -/
inductive Request where
  | plain (c : HalCall) (err : Int)
  | looked (l : Lookup) (found : Int) (c : HalCall) (err : Int)
  | sideband (display layer : Int) (stream : Looked Handle)
  | validate (display : Int) (time : Option Int) (v : AskedValidate)
  | present (display : Int) (p : Presentation)
  | presentOrValidate (display : Int) (time : Option Int) (pv : AskedPresentOrValidate)

/-- The first step of `presentOrValidateDisplay` does not present. -/
def AskedPresentOrValidate.fallsBack (pv : AskedPresentOrValidate) (skipValidate : Bool) : Prop :=
  skipValidate = false ∨ pv.mustValidate = true ∨ pv.presentation.err ≠ 0

instance (pv : AskedPresentOrValidate) (skipValidate : Bool) :
    Decidable (pv.fallsBack skipValidate) :=
  inferInstanceAs (Decidable (_ ∨ _ ∨ _))

/-- The calls of a validation. -/
def validationCalls (display : Int) (v : Validation) : List Event :=
  [.hal (.validateDisplay display) v.err, .setDisplayMustValidateState display false]

namespace Request

/-- The calls that the request asks for: a HAL operation behind a lookup is made
    when the lookup succeeds. -/
def intended (skipValidate : Bool) : Request → List Event
  | .plain c err => [.hal c err]
  | .looked l found c err => .lookup l found :: if found = 0 then [.hal c err] else []
  | .sideband display layer s =>
      .lookup (.getLayerSidebandStream display layer s.value) s.found ::
        if s.found = 0 then [.hal (.setLayerSidebandStream display layer s.out) s.err] else []
  | .validate display time v =>
      .hal (.setExpectedPresentTime display time) v.timeErr ::
        validationCalls display v.validation
  | .present display p => [.hal (.presentDisplay display) p.err]
  | .presentOrValidate display time pv =>
      .hal (.setExpectedPresentTime display time) pv.timeErr ::
        ((if skipValidate = true ∧ pv.mustValidate = false then
            [.hal (.presentDisplay display) pv.presentation.err] else []) ++
          if pv.fallsBack skipValidate then validationCalls display pv.validation else [])

/-- A lookup or a call of the request fails, other than a present that falls
    back to the validation. -/
def Fails (skipValidate : Bool) : Request → Prop
  | .plain _ err => err ≠ 0
  | .looked _ found _ err => found ≠ 0 ∨ err ≠ 0
  | .sideband _ _ s => s.found ≠ 0 ∨ s.err ≠ 0
  | .validate _ _ v => v.timeErr ≠ 0 ∨ v.validation.err ≠ 0
  | .present _ p => p.err ≠ 0
  | .presentOrValidate _ _ pv =>
      pv.timeErr ≠ 0 ∨ (pv.fallsBack skipValidate ∧ pv.validation.err ≠ 0)

/-- The handler of the request. -/
def exec (skipValidate : Bool) (e : Engine) : Request → Engine
  | .plain c err => e.report c err
  | .looked l found c err => e.lookupAndReport l found c err
  | .sideband display layer s => e.executeSetLayerSidebandStream display layer s
  | .validate display time v => e.executeValidateDisplay display time v
  | .present display p => (e.executePresentDisplay display p).2
  | .presentOrValidate display time pv =>
      e.executePresentOrValidateDisplay skipValidate display time pv

end Request

/-- A request for each field that is set. -/
def asked {α : Type} (field : Option (Asked α)) (c : α → HalCall) : List Request :=
  field.toList.map fun a => .plain (c a.value) a.err

def looked {α : Type} (field : Option (Looked α)) (l : α → Lookup) (c : α → Handle → HalCall) :
    List Request :=
  field.toList.map fun a => .looked (l a.value) a.found (c a.value a.out) a.err

/-- The requests of a layer command, in the order of `dispatchLayerCommand`. -/
def LayerCommand.requests (display : Int) (command : LayerCommand) : List Request :=
  asked command.cursorPosition (fun p => .setLayerCursorPosition display command.layer p.1 p.2) ++
  (looked command.buffer
    (fun b => .getLayerBuffer display command.layer b.slot b.handle.isNone b.handle)
    (fun b out => .setLayerBuffer display command.layer out b.fence) ++
  (asked command.damage (.setLayerSurfaceDamage display command.layer) ++
  (asked command.blendMode (.setLayerBlendMode display command.layer) ++
  (asked command.color (.setLayerColor display command.layer) ++
  (asked command.composition (.setLayerCompositionType display command.layer) ++
  (asked command.dataspace (.setLayerDataspace display command.layer) ++
  (asked command.displayFrame (.setLayerDisplayFrame display command.layer) ++
  (asked command.planeAlpha (.setLayerPlaneAlpha display command.layer) ++
  (command.sidebandStream.toList.map (.sideband display command.layer) ++
  (asked command.sourceCrop (.setLayerSourceCrop display command.layer) ++
  (asked command.transform (.setLayerTransform display command.layer) ++
  (asked command.visibleRegion (.setLayerVisibleRegion display command.layer) ++
  (asked command.z (.setLayerZOrder display command.layer) ++
  (asked command.colorTransform (.setLayerColorTransform display command.layer) ++
  (asked command.perFrameMetadata (.setLayerPerFrameMetadata display command.layer) ++
  asked command.perFrameMetadataBlob
    (.setLayerPerFrameMetadataBlobs display command.layer))))))))))))))))

/-- The requests of a command, in the order of `dispatchDisplayCommand`. -/
def DisplayCommand.requests (command : DisplayCommand) : List Request :=
  command.layers.flatMap (·.requests command.display) ++
  (asked command.colorTransformMatrix (.setColorTransform command.display) ++
  (looked command.clientTarget
    (fun t => .getDisplayClientTarget command.display t.buffer.slot t.buffer.handle.isNone
      t.buffer.handle)
    (fun t out => .setClientTarget command.display out t.buffer.fence t.dataspace t.damage) ++
  (looked command.virtualDisplayOutputBuffer
    (fun b => .getDisplayOutputBuffer command.display b.slot b.handle.isNone b.handle)
    (fun b out => .setOutputBuffer command.display out b.fence) ++
  (asked command.brightness (.setDisplayBrightness command.display) ++
  (command.validateDisplay.toList.map (.validate command.display command.expectedPresentTime) ++
  (asked command.acceptDisplayChanges (fun _ => .acceptDisplayChanges command.display) ++
  (command.presentDisplay.toList.map (.present command.display) ++
  command.presentOrValidateDisplay.toList.map
    (.presentOrValidate command.display command.expectedPresentTime))))))))

/-- **The contract of `execute`.**  The calls are those that the requests ask for,
    in order, and a command has an error under its index exactly when one of its
    calls fails. -/
def Meets (skipValidate : Bool) (commands : List DisplayCommand) : Prop :=
  (execute skipValidate commands).2 =
      commands.flatMap (fun command => command.requests.flatMap (Request.intended skipValidate)) ∧
    ∀ i command, commands[i]? = some command →
      ((∃ err, CommandResultPayload.error i err ∈ (execute skipValidate commands).1) ↔
        ∃ r ∈ command.requests, r.Fails skipValidate)

/-! ### The dispatch functions run the requests in order -/

def runRequests (skipValidate : Bool) (e : Engine) (requests : List Request) : Engine :=
  requests.foldl (Request.exec skipValidate) e

variable {skipValidate : Bool}

theorem runRequests_append (e : Engine) (before after : List Request) :
    runRequests skipValidate e (before ++ after) =
      runRequests skipValidate (runRequests skipValidate e before) after :=
  List.foldl_append

theorem runRequests_map {α : Type} {field : Option α} (handler : α → Engine → Engine)
    {request : α → Request} (h : ∀ a e, handler a e = (request a).exec skipValidate e)
    (e : Engine) :
    runRequests skipValidate e (field.toList.map request) = e.dispatch field handler := by
  cases field with
  | none => rfl
  | some a => exact (h a e).symm

theorem runRequests_asked {α : Type} (field : Option (Asked α)) (c : α → HalCall) (e : Engine) :
    runRequests skipValidate e (asked field c) =
      e.dispatchAsked field (fun a => Engine.report (c a)) := by
  cases field with
  | none => rfl
  | some a => rfl

theorem runRequests_looked {α : Type} (field : Option (Looked α)) (l : α → Lookup)
    (c : α → Handle → HalCall) (e : Engine) :
    runRequests skipValidate e (looked field l c) =
      e.dispatch field (fun a => Engine.lookupAndReport (l a.value) a.found (c a.value a.out)
        a.err) := by
  cases field with
  | none => rfl
  | some a => rfl

theorem dispatchLayerCommand_eq (display : Int) (e : Engine) (command : LayerCommand) :
    e.dispatchLayerCommand display command =
      runRequests skipValidate e (command.requests display) := by
  simp only [LayerCommand.requests, runRequests_append, runRequests_asked, runRequests_looked]
  rw [runRequests_map (Engine.executeSetLayerSidebandStream display command.layer) fun _ _ => rfl]
  rfl

theorem dispatchLayers_eq (display : Int) (layers : List LayerCommand) (e : Engine) :
    layers.foldl (Engine.dispatchLayerCommand display) e =
      runRequests skipValidate e (layers.flatMap (·.requests display)) := by
  induction layers generalizing e with
  | nil => rfl
  | cons command layers ih =>
    rw [List.foldl_cons, List.flatMap_cons, runRequests_append, ← dispatchLayerCommand_eq, ih]

theorem dispatchDisplayCommand_eq (e : Engine) (command : DisplayCommand) :
    e.dispatchDisplayCommand skipValidate command =
      runRequests skipValidate e command.requests := by
  simp only [DisplayCommand.requests, runRequests_append, runRequests_asked, runRequests_looked]
  rw [← dispatchLayers_eq,
    runRequests_map (Engine.executeValidateDisplay command.display command.expectedPresentTime)
      fun _ _ => rfl,
    runRequests_map (fun p e => (e.executePresentDisplay command.display p).2) fun _ _ => rfl,
    runRequests_map (Engine.executePresentOrValidateDisplay skipValidate command.display
      command.expectedPresentTime) fun _ _ => rfl]
  rfl

/-! ### What one request leaves -/

/-- The errors among the results. -/
def errors (payloads : List CommandResultPayload) : List (Nat × Int) :=
  payloads.filterMap fun
    | .error i code => some (i, code)
    | _ => none

theorem mem_errors {payloads : List CommandResultPayload} {i : Nat} {code : Int} :
    (i, code) ∈ errors payloads ↔ CommandResultPayload.error i code ∈ payloads := by
  unfold errors
  rw [List.mem_filterMap]
  constructor
  · rintro ⟨payload, hmem, h⟩
    cases payload with
    | error i' code' =>
      obtain ⟨rfl, rfl⟩ := Prod.mk.inj (Option.some.inj h)
      exact hmem
    | _ => cases h
  · intro hmem
    exact ⟨_, hmem, rfl⟩

theorem errors_append (before after : List CommandResultPayload) :
    errors (before ++ after) = errors before ++ errors after :=
  List.filterMap_append

/-- `e'` is `e` with the calls `events` and with new results, whose errors are
    `codes` under the index of the command. -/
def Adds (e e' : Engine) (events : List Event) (codes : List Int) : Prop :=
  ∃ payloads, e' = { e with mWriter := e.mWriter ++ payloads, trace := e.trace ++ events } ∧
    errors payloads = codes.map fun code => (e.mCommandIndex, code)

/-- What a result code leaves when it is reported. -/
def codeOf (err : Int) : List Int := if err ≠ 0 then [err] else []

namespace Adds

variable {e e₁ e₂ : Engine} {before after : List Event} {codes codes₁ codes₂ : List Int}

theorem refl (e : Engine) : Adds e e [] [] := ⟨[], by simp, rfl⟩

theorem did (e : Engine) (event : Event) : Adds e (e.did event) [event] [] :=
  ⟨[], by simp [Engine.did], rfl⟩

theorem write (e : Engine) {payload : CommandResultPayload} (h : errors [payload] = []) :
    Adds e (e.write payload) [] [] :=
  ⟨[payload], by simp [Engine.write], h⟩

theorem setError (e : Engine) (err : Int) : Adds e (e.setError err) [] [err] :=
  ⟨[.error e.mCommandIndex err], by simp [Engine.setError, Engine.write], rfl⟩

theorem trans (h₁ : Adds e e₁ before codes₁) (h₂ : Adds e₁ e₂ after codes₂) :
    Adds e e₂ (before ++ after) (codes₁ ++ codes₂) := by
  obtain ⟨p₁, rfl, h₁⟩ := h₁
  obtain ⟨p₂, rfl, h₂⟩ := h₂
  refine ⟨p₁ ++ p₂, by simp, ?_⟩
  rw [errors_append, List.map_append, ← h₁, ← h₂]

theorem mCommandIndex (h : Adds e e₁ before codes) : e₁.mCommandIndex = e.mCommandIndex := by
  obtain ⟨p, rfl, -⟩ := h
  rfl

/-- The error of a call, behind the call itself. -/
theorem setError_if (e : Engine) (err : Int) :
    Adds e (if err ≠ 0 then e.setError err else e) [] (codeOf err) := by
  unfold codeOf
  by_cases h : err = 0
  · simpa [h] using refl e
  · simpa [h] using setError e err

end Adds

/-! ### The handlers -/

theorem report_adds (e : Engine) (c : HalCall) (err : Int) :
    Adds e (e.report c err) [.hal c err] (codeOf err) :=
  (Adds.did e _).trans (Adds.setError_if _ err)

theorem lookupAndReport_adds (e : Engine) (l : Lookup) (found : Int) (c : HalCall) (err : Int) :
    Adds e (e.lookupAndReport l found c err)
      (.lookup l found :: if found = 0 then [.hal c err] else [])
      (if found = 0 then codeOf err else codeOf found) := by
  unfold Engine.lookupAndReport
  by_cases h : found = 0
  · simp only [if_pos h]
    exact (Adds.did e _).trans (report_adds _ c err)
  · simp only [if_neg h]
    have herror := Adds.setError_if (e.did (.lookup l found)) found
    rw [if_pos h] at herror
    exact (Adds.did e _).trans herror

theorem executeSetLayerSidebandStream_adds (e : Engine) (display layer : Int) (s : Looked Handle) :
    Adds e (e.executeSetLayerSidebandStream display layer s)
      (.lookup (.getLayerSidebandStream display layer s.value) s.found ::
        if s.found = 0 then [] else [.hal (.setLayerSidebandStream display layer s.out) s.err])
      (if s.found = 0 then [] else codeOf s.err) := by
  unfold Engine.executeSetLayerSidebandStream
  by_cases h : s.found = 0
  · simp only [h, ne_eq, not_true_eq_false, if_false, if_true]
    exact Adds.did e _
  · simp only [h, ne_eq, not_false_eq_true, if_false, if_true]
    exact (Adds.did e _).trans ((Adds.did _ _).trans (Adds.setError_if _ s.err))

theorem executeValidateDisplayInternal_adds (e : Engine) (display : Int) (v : Validation) :
    Adds e (e.executeValidateDisplayInternal display v).2 (validationCalls display v)
      (codeOf v.err) := by
  have hcalls := (Adds.did e (.hal (.validateDisplay display) v.err)).trans
    (Adds.did _ (.setDisplayMustValidateState display false))
  unfold Engine.executeValidateDisplayInternal codeOf
  by_cases h : v.err = 0
  · simp only [h, ne_eq, not_true_eq_false, if_false, if_true] at hcalls ⊢
    simp only [validationCalls, h]
    exact hcalls.trans ((Adds.write _ rfl).trans (Adds.write _ rfl))
  · simp only [h, ne_eq, not_false_eq_true, if_false, if_true]
    exact hcalls.trans (Adds.setError _ v.err)

theorem executePresentDisplay_ret (e : Engine) (display : Int) (p : Presentation) :
    (e.executePresentDisplay display p).1 = p.err := rfl

theorem executePresentDisplay_adds (e : Engine) (display : Int) (p : Presentation) :
    Adds e (e.executePresentDisplay display p).2 [.hal (.presentDisplay display) p.err] [] := by
  have hcall := Adds.did e (.hal (.presentDisplay display) p.err)
  unfold Engine.executePresentDisplay
  by_cases h : p.err = 0
  · simp only [if_pos h]
    by_cases hfence : p.presentFence ≠ -1
    · simp only [if_pos hfence]
      exact hcall.trans ((Adds.write _ rfl).trans (Adds.write _ rfl))
    · simp only [if_neg hfence]
      exact hcall.trans (Adds.write _ rfl)
  · simp only [if_neg h]
    exact hcall

theorem executeValidateDisplay_adds (e : Engine) (display : Int) (time : Option Int)
    (v : AskedValidate) :
    Adds e (e.executeValidateDisplay display time v)
      (.hal (.setExpectedPresentTime display time) v.timeErr ::
        validationCalls display v.validation) (codeOf v.validation.err) :=
  (Adds.did e _).trans (executeValidateDisplayInternal_adds _ display v.validation)

/-- The fallback of `presentOrValidateDisplay`. -/
theorem fallback_adds (e : Engine) (display : Int) (v : Validation) :
    Adds e
      (if (e.executeValidateDisplayInternal display v).1 = 0 then
        (e.executeValidateDisplayInternal display v).2.write
          (.presentOrValidateResult display .validated)
      else (e.executeValidateDisplayInternal display v).2)
      (validationCalls display v) (codeOf v.err) := by
  have hvalidate := executeValidateDisplayInternal_adds e display v
  split
  · simpa using hvalidate.trans (Adds.write _ rfl)
  · exact hvalidate

theorem executePresentOrValidateDisplay_adds (skipValidate : Bool) (e : Engine) (display : Int)
    (time : Option Int) (pv : AskedPresentOrValidate) :
    Adds e (e.executePresentOrValidateDisplay skipValidate display time pv)
      (.hal (.setExpectedPresentTime display time) pv.timeErr ::
        ((if skipValidate = true ∧ pv.mustValidate = false then
            [.hal (.presentDisplay display) pv.presentation.err] else []) ++
          if pv.fallsBack skipValidate then validationCalls display pv.validation else []))
      (if pv.fallsBack skipValidate then codeOf pv.validation.err else []) := by
  have htime := Adds.did e (.hal (.setExpectedPresentTime display time) pv.timeErr)
  unfold Engine.executePresentOrValidateDisplay
  by_cases htried : skipValidate = true ∧ pv.mustValidate = false
  · obtain ⟨rfl, hmust⟩ := htried
    have hpresent := htime.trans (executePresentDisplay_adds _ display pv.presentation)
    by_cases herr : pv.presentation.err = 0
    · have hback : ¬ pv.fallsBack true := by
        simp [AskedPresentOrValidate.fallsBack, hmust, herr]
      simp only [hmust, hback, Engine.executeSetExpectedPresentTimeInternal,
        executePresentDisplay_ret, herr, if_true, and_self, if_false, Bool.false_eq_true]
      rw [herr] at hpresent
      exact hpresent.trans (Adds.write _ rfl)
    · have hback : pv.fallsBack true := .inr (.inr herr)
      simp only [hmust, hback, Engine.executeSetExpectedPresentTimeInternal,
        executePresentDisplay_ret, herr, if_true, and_self, if_false, Bool.false_eq_true,
        Option.some.injEq]
      exact hpresent.trans (fallback_adds _ display pv.validation)
  · have hback : pv.fallsBack skipValidate := by
      cases skipValidate with
      | false => exact .inl rfl
      | true => exact .inr (.inl (by simpa using htried))
    have hnot : ∀ x : Engine, (if skipValidate = true then
        if pv.mustValidate = true then (some Engine.EX_NOT_VALIDATED, x)
        else (some (x.executePresentDisplay display pv.presentation).1,
          (x.executePresentDisplay display pv.presentation).2)
        else (none, x)) = (if skipValidate = true then some Engine.EX_NOT_VALIDATED else none, x) := by
      intro x
      cases skipValidate with
      | false => rfl
      | true =>
        have hmust : pv.mustValidate = true := by simpa using htried
        simp [hmust]
    simp only [Engine.executeSetExpectedPresentTimeInternal, hnot, hback, htried, if_true, if_false]
    rw [if_neg (by cases skipValidate <;> decide)]
    exact htime.trans (fallback_adds _ display pv.validation)

/-! ### Requests, commands and batches -/

namespace Request

/-- The calls that are made. -/
def performed (skipValidate : Bool) : Request → List Event
  | .sideband display layer s =>
      .lookup (.getLayerSidebandStream display layer s.value) s.found ::
        if s.found = 0 then [] else [.hal (.setLayerSidebandStream display layer s.out) s.err]
  | r => r.intended skipValidate

/-- The error codes that are written. -/
def reported (skipValidate : Bool) : Request → List Int
  | .plain _ err => codeOf err
  | .looked _ found _ err => if found = 0 then codeOf err else codeOf found
  | .sideband _ _ s => if s.found = 0 then [] else codeOf s.err
  | .validate _ _ v => codeOf v.validation.err
  | .present _ _ => []
  | .presentOrValidate _ _ pv =>
      if pv.fallsBack skipValidate then codeOf pv.validation.err else []

theorem exec_adds (e : Engine) (r : Request) :
    Adds e (r.exec skipValidate e) (r.performed skipValidate) (r.reported skipValidate) := by
  cases r with
  | plain c err => exact report_adds e c err
  | looked l found c err => exact lookupAndReport_adds e l found c err
  | sideband display layer s => exact executeSetLayerSidebandStream_adds e display layer s
  | validate display time v => exact executeValidateDisplay_adds e display time v
  | present display p => exact executePresentDisplay_adds e display p
  | presentOrValidate display time pv =>
    exact executePresentOrValidateDisplay_adds skipValidate e display time pv

end Request

theorem runRequests_adds (e : Engine) (requests : List Request) :
    Adds e (runRequests skipValidate e requests)
      (requests.flatMap (Request.performed skipValidate))
      (requests.flatMap (Request.reported skipValidate)) := by
  induction requests generalizing e with
  | nil => exact Adds.refl e
  | cons r requests ih => exact (r.exec_adds e).trans (ih _)

/-- What the loop of `execute` leaves, from the index that it has reached. -/
theorem executeLoop_adds (e : Engine) (commands : List DisplayCommand) :
    (executeLoop skipValidate e commands).trace = e.trace ++
        commands.flatMap (fun c => c.requests.flatMap (Request.performed skipValidate)) ∧
      ∀ i code, (i, code) ∈ errors (executeLoop skipValidate e commands).mWriter ↔
        (i, code) ∈ errors e.mWriter ∨ ∃ j c, commands[j]? = some c ∧ i = e.mCommandIndex + j ∧
          code ∈ c.requests.flatMap (Request.reported skipValidate) := by
  induction commands generalizing e with
  | nil => simp [executeLoop]
  | cons c commands ih =>
    obtain ⟨payloads, he, herrors⟩ := runRequests_adds e c.requests
    rw [← @dispatchDisplayCommand_eq skipValidate] at he
    have hloop : executeLoop skipValidate e (c :: commands) = executeLoop skipValidate
        { e.dispatchDisplayCommand skipValidate c with
          mCommandIndex := (e.dispatchDisplayCommand skipValidate c).mCommandIndex + 1 }
        commands := rfl
    rw [hloop, he]
    obtain ⟨htrace, hmem⟩ := ih { e with
      mWriter := e.mWriter ++ payloads
      trace := e.trace ++ c.requests.flatMap (Request.performed skipValidate)
      mCommandIndex := e.mCommandIndex + 1 }
    refine ⟨by rw [htrace]; simp, ?_⟩
    intro i code
    rw [hmem, errors_append, herrors, List.mem_append, or_assoc]
    refine or_congr_right ?_
    constructor
    · rintro (hnow | ⟨j, c', hc', rfl, hcode⟩)
      · obtain ⟨_, hcode, heq⟩ := List.mem_map.mp hnow
        obtain ⟨rfl, rfl⟩ := Prod.mk.inj heq
        exact ⟨0, c, rfl, rfl, hcode⟩
      · exact ⟨j + 1, c', hc', Nat.add_right_comm _ 1 j, hcode⟩
    · rintro ⟨j, c', hc', rfl, hcode⟩
      cases j with
      | zero =>
        obtain rfl := Option.some.inj hc'
        exact .inl (List.mem_map.mpr ⟨code, hcode, rfl⟩)
      | succ j => exact .inr ⟨j, c', hc', Nat.add_right_comm _ j 1, hcode⟩

/-- **A batch.**  The trace is that of the requests in order; the errors under an
    index are those of the requests of that command. -/
theorem execute_trace (commands : List DisplayCommand) :
    (execute skipValidate commands).2 =
      commands.flatMap fun c => c.requests.flatMap (Request.performed skipValidate) :=
  (executeLoop_adds ⟨0, [], []⟩ commands).1

theorem execute_error_iff (commands : List DisplayCommand) (i : Nat) (code : Int) :
    CommandResultPayload.error i code ∈ (execute skipValidate commands).1 ↔
      ∃ c, commands[i]? = some c ∧ ∃ r ∈ c.requests, code ∈ r.reported skipValidate := by
  have h := (@executeLoop_adds skipValidate ⟨0, [], []⟩ commands).2 i code
  rw [← mem_errors]
  simp only [Nat.zero_add, List.mem_flatMap] at h
  refine h.trans ?_
  constructor
  · rintro (hnil | ⟨j, c, hc, rfl, hcode⟩)
    · cases hnil
    · exact ⟨c, hc, hcode⟩
  · rintro ⟨c, hc, hcode⟩
    exact .inr ⟨i, c, hc, rfl, hcode⟩

/-! ### Where the handlers differ from the contract -/

namespace Request

def isSideband : Request → Bool
  | .sideband .. => true
  | _ => false

/-- A call of the request fails whose result no one reads. -/
def Drops : Request → Prop
  | .validate _ _ v => v.timeErr ≠ 0
  | .present _ p => p.err ≠ 0
  | .presentOrValidate _ _ pv => pv.timeErr ≠ 0
  | _ => False

/-- A lookup or call of the request fails whose result is read. -/
def Reports (skipValidate : Bool) : Request → Prop
  | .plain _ err => err ≠ 0
  | .looked _ found _ err => found ≠ 0 ∨ err ≠ 0
  | .validate _ _ v => v.validation.err ≠ 0
  | .presentOrValidate _ _ pv => pv.fallsBack skipValidate ∧ pv.validation.err ≠ 0
  | _ => False

theorem mem_codeOf {err code : Int} : code ∈ codeOf err ↔ code = err ∧ err ≠ 0 := by
  unfold codeOf
  by_cases h : err = 0
  · simp [h]
  · simp [h]

theorem exists_mem_codeOf {err : Int} : (∃ code, code ∈ codeOf err) ↔ err ≠ 0 := by
  constructor
  · rintro ⟨code, hcode⟩
    exact (mem_codeOf.mp hcode).2
  · intro h
    exact ⟨err, mem_codeOf.mpr ⟨rfl, h⟩⟩

theorem exists_mem_reported {r : Request} (h : r.isSideband = false) :
    (∃ code, code ∈ r.reported skipValidate) ↔ r.Reports skipValidate := by
  cases r with
  | plain c err => exact exists_mem_codeOf
  | looked l found c err =>
    by_cases hfound : found = 0
    · simp only [reported, Reports, hfound, if_true, exists_mem_codeOf]
      simp
    · simp only [reported, Reports, hfound, if_false, exists_mem_codeOf]
      simp [hfound]
  | sideband display layer s => cases h
  | validate display time v => exact exists_mem_codeOf
  | present display p => simp [reported, Reports]
  | presentOrValidate display time pv =>
    by_cases hback : pv.fallsBack skipValidate
    · simp [reported, Reports, hback, exists_mem_codeOf]
    · simp [reported, Reports, hback]

theorem fails_iff {r : Request} (h : r.isSideband = false) :
    r.Fails skipValidate ↔ r.Drops ∨ r.Reports skipValidate := by
  cases r with
  | sideband display layer s => cases h
  | _ => simp [Fails, Drops, Reports]

/-- A request that is not a bare call of the sideband operation. -/
def ordinary : Request → Bool
  | .plain (.setLayerSidebandStream ..) _ => false
  | _ => true

end Request

/-- The call of the sideband operation. -/
def Event.isSidebandCall : Event → Bool
  | .hal (.setLayerSidebandStream ..) _ => true
  | _ => false

theorem intended_head {r : Request} (h : r.ordinary = true) :
    ∃ event rest, r.intended skipValidate = event :: rest ∧ event.isSidebandCall = false := by
  cases r with
  | plain c err =>
    refine ⟨_, _, rfl, ?_⟩
    cases c with
    | setLayerSidebandStream display layer stream => cases h
    | _ => rfl
  | _ => exact ⟨_, _, rfl, rfl⟩

theorem performed_head {r : Request} (h : r.ordinary = true) :
    ∃ event rest, r.performed skipValidate = event :: rest ∧ event.isSidebandCall = false := by
  cases r with
  | sideband display layer s => exact ⟨_, _, rfl, rfl⟩
  | _ => exact @intended_head skipValidate _ h

/-- No run of ordinary requests starts with a call of the sideband operation. -/
theorem flatMap_ne_call {f : Request → List Event} {requests : List Request}
    (h : ∀ r ∈ requests, ∃ event rest, f r = event :: rest ∧ event.isSidebandCall = false)
    {call : Event} (hcall : call.isSidebandCall = true) (rest : List Event) :
    requests.flatMap f ≠ call :: rest := by
  intro heq
  cases requests with
  | nil => cases heq
  | cons r requests =>
    obtain ⟨event, tail, hr, hevent⟩ := h r List.mem_cons_self
    rw [List.flatMap_cons, hr] at heq
    obtain ⟨rfl, -⟩ := List.cons.inj heq
    rw [hevent] at hcall
    cases hcall

theorem performed_eq_intended_iff (requests : List Request)
    (h : ∀ r ∈ requests, r.ordinary = true) :
    requests.flatMap (Request.performed skipValidate) =
        requests.flatMap (Request.intended skipValidate) ↔
      ∀ r ∈ requests, r.isSideband = false := by
  induction requests with
  | nil => simp
  | cons r requests ih =>
    have hrest : ∀ r' ∈ requests, r'.ordinary = true :=
      fun r' hr' => h r' (List.mem_cons_of_mem _ hr')
    rw [List.forall_mem_cons, ← ih hrest]
    cases r with
    | sideband display layer s =>
      -- the lookup is common; behind it one side has the call and the other has not
      refine iff_of_false ?_ (by rintro ⟨hno, -⟩; cases hno)
      intro heq
      by_cases hfound : s.found = 0
      · simp only [List.flatMap_cons, Request.performed, Request.intended, hfound, if_true,
          List.cons_append, List.nil_append, List.cons.injEq, true_and] at heq
        exact flatMap_ne_call (fun r' hr' => performed_head (hrest r' hr')) rfl _ heq
      · simp only [List.flatMap_cons, Request.performed, Request.intended, hfound, if_false,
          List.cons_append, List.nil_append, List.cons.injEq, true_and] at heq
        exact flatMap_ne_call (fun r' hr' => intended_head (hrest r' hr')) rfl _ heq.symm
    | _ => simp [Request.performed, Request.isSideband]

/-! ### The sideband requests of a command -/

theorem asked_filter {α : Type} (field : Option (Asked α)) (c : α → HalCall) :
    (asked field c).filter Request.isSideband = [] := by
  cases field <;> rfl

theorem looked_filter {α : Type} (field : Option (Looked α)) (l : α → Lookup)
    (c : α → Handle → HalCall) : (looked field l c).filter Request.isSideband = [] := by
  cases field <;> rfl

/-- The requests of a field that is not the sideband stream. -/
theorem map_filter {α : Type} (field : Option α) {request : α → Request}
    (h : ∀ a, (request a).isSideband = false) :
    (field.toList.map request).filter Request.isSideband = [] := by
  cases field with
  | none => rfl
  | some a => simp [h]

theorem LayerCommand.sidebands (display : Int) (command : LayerCommand) :
    (command.requests display).filter Request.isSideband =
      command.sidebandStream.toList.map (.sideband display command.layer) := by
  simp only [LayerCommand.requests, List.filter_append, asked_filter, looked_filter,
    List.nil_append, List.append_nil]
  cases command.sidebandStream <;> rfl

theorem DisplayCommand.sidebands (command : DisplayCommand) :
    command.requests.filter Request.isSideband = command.layers.flatMap fun layer =>
      layer.sidebandStream.toList.map (.sideband command.display layer.layer) := by
  have hvalidate := map_filter command.validateDisplay (fun v =>
    show (Request.validate command.display command.expectedPresentTime v).isSideband = false
      from rfl)
  have hpresent := map_filter command.presentDisplay (fun p =>
    show (Request.present command.display p).isSideband = false from rfl)
  have hpresentOrValidate := map_filter command.presentOrValidateDisplay (fun pv =>
    show (Request.presentOrValidate command.display command.expectedPresentTime pv).isSideband =
      false from rfl)
  simp only [DisplayCommand.requests, List.filter_append, asked_filter, looked_filter, hvalidate,
    hpresent, hpresentOrValidate, List.append_nil, List.filter_flatMap, LayerCommand.sidebands]

/-- A command asks for no sideband stream when no layer of it does. -/
theorem DisplayCommand.no_sideband_iff (command : DisplayCommand) :
    (∀ r ∈ command.requests, r.isSideband = false) ↔
      ∀ layer ∈ command.layers, layer.sidebandStream.isNone = true := by
  have hnil : (∀ r ∈ command.requests, r.isSideband = false) ↔
      command.requests.filter Request.isSideband = [] := by
    simp [List.filter_eq_nil_iff]
  rw [hnil, DisplayCommand.sidebands, List.flatMap_eq_nil_iff]
  constructor
  · intro h layer hlayer
    have hempty := h layer hlayer
    cases hstream : layer.sidebandStream with
    | none => rfl
    | some s => simp [hstream] at hempty
  · intro h layer hlayer
    have hnone := h layer hlayer
    cases hstream : layer.sidebandStream with
    | none => rfl
    | some s => simp [hstream] at hnone

/-! ### Every request is ordinary -/

theorem asked_all {α : Type} (field : Option (Asked α)) {c : α → HalCall}
    (h : ∀ a err, (Request.plain (c a) err).ordinary = true) :
    (asked field c).all Request.ordinary = true := by
  cases field with
  | none => rfl
  | some a => simp [asked, h]

theorem looked_all {α : Type} (field : Option (Looked α)) (l : α → Lookup)
    (c : α → Handle → HalCall) : (looked field l c).all Request.ordinary = true := by
  cases field <;> rfl

theorem LayerCommand.requests_ordinary (display : Int) (command : LayerCommand) :
    (command.requests display).all Request.ordinary = true := by
  have hstream : (command.sidebandStream.toList.map
      (Request.sideband display command.layer)).all Request.ordinary = true := by
    cases command.sidebandStream <;> rfl
  simp only [LayerCommand.requests, List.all_append, Bool.and_eq_true]
  refine ⟨?_, looked_all _ _ _, ?_, ?_, ?_, ?_, ?_, ?_, ?_, hstream, ?_, ?_, ?_, ?_, ?_, ?_, ?_⟩
  all_goals exact asked_all _ fun _ _ => rfl

/-- The requests of a field whose handler makes calls of its own. -/
theorem map_all {α : Type} (field : Option α) {request : α → Request}
    (h : ∀ a, (request a).ordinary = true) :
    (field.toList.map request).all Request.ordinary = true := by
  cases field with
  | none => rfl
  | some a => simp [h]

theorem DisplayCommand.requests_ordinary (command : DisplayCommand) :
    ∀ r ∈ command.requests, r.ordinary = true := by
  rw [← List.all_eq_true]
  simp only [DisplayCommand.requests, List.all_append, Bool.and_eq_true]
  refine ⟨?_, asked_all _ fun _ _ => rfl, looked_all _ _ _, looked_all _ _ _,
    asked_all _ fun _ _ => rfl, map_all _ fun _ => rfl, asked_all _ fun _ _ => rfl,
    map_all _ fun _ => rfl, map_all _ fun _ => rfl⟩
  rw [List.all_flatMap, List.all_eq_true]
  intro layer _
  exact layer.requests_ordinary command.display

/-! ### When the contract is met -/

/-- No layer has a sideband stream, and a failure that nobody reads comes only
    beside one that is reported. -/
def DisplayCommand.Reliable (skipValidate : Bool) (command : DisplayCommand) : Prop :=
  (∀ layer ∈ command.layers, layer.sidebandStream.isNone = true) ∧
    ((∃ r ∈ command.requests, r.Drops) → ∃ r ∈ command.requests, r.Reports skipValidate)

/-- The calls are the right ones exactly when no layer has a sideband stream. -/
theorem trace_eq_iff (commands : List DisplayCommand) :
    (execute skipValidate commands).2 =
        commands.flatMap (fun c => c.requests.flatMap (Request.intended skipValidate)) ↔
      ∀ c ∈ commands, ∀ layer ∈ c.layers, layer.sidebandStream.isNone = true := by
  rw [execute_trace, ← List.flatMap_assoc, ← List.flatMap_assoc, performed_eq_intended_iff]
  · constructor
    · intro h c hc
      rw [← c.no_sideband_iff]
      intro r hr
      exact h r (List.mem_flatMap.mpr ⟨c, hc, hr⟩)
    · intro h r hr
      obtain ⟨c, hc, hr⟩ := List.mem_flatMap.mp hr
      exact c.no_sideband_iff.mpr (h c hc) r hr
  · intro r hr
    obtain ⟨c, -, hr⟩ := List.mem_flatMap.mp hr
    exact c.requests_ordinary r hr

/-- Without sideband streams, a command has an error exactly when a failure of it
    is read, and a failure exactly when one is read or dropped. -/
theorem DisplayCommand.errors_match_iff {c : DisplayCommand}
    (h : ∀ r ∈ c.requests, r.isSideband = false) :
    ((∃ err, ∃ r ∈ c.requests, err ∈ r.reported skipValidate) ↔
        ∃ r ∈ c.requests, r.Fails skipValidate) ↔
      ((∃ r ∈ c.requests, r.Drops) → ∃ r ∈ c.requests, r.Reports skipValidate) := by
  have hreports : (∃ err, ∃ r ∈ c.requests, err ∈ r.reported skipValidate) ↔
      ∃ r ∈ c.requests, r.Reports skipValidate := by
    constructor
    · rintro ⟨err, r, hr, herr⟩
      exact ⟨r, hr, (Request.exists_mem_reported (h r hr)).mp ⟨err, herr⟩⟩
    · rintro ⟨r, hr, hreport⟩
      obtain ⟨err, herr⟩ := (Request.exists_mem_reported (h r hr)).mpr hreport
      exact ⟨err, r, hr, herr⟩
  rw [hreports]
  constructor
  · rintro hiff ⟨r, hr, hdrop⟩
    exact hiff.mpr ⟨r, hr, (Request.fails_iff (h r hr)).mpr (.inl hdrop)⟩
  · intro himp
    constructor
    · rintro ⟨r, hr, hreport⟩
      exact ⟨r, hr, (Request.fails_iff (h r hr)).mpr (.inr hreport)⟩
    · rintro ⟨r, hr, hfail⟩
      rcases (Request.fails_iff (h r hr)).mp hfail with hdrop | hreport
      · exact himp ⟨r, hr, hdrop⟩
      · exact ⟨r, hr, hreport⟩

/-- **The contract.**  `execute` meets it exactly on the batches whose commands
    are all reliable. -/
theorem execute_meets_iff (commands : List DisplayCommand) :
    Meets skipValidate commands ↔ ∀ c ∈ commands, c.Reliable skipValidate := by
  have herrors : ∀ i c, commands[i]? = some c →
      ((∃ err, CommandResultPayload.error i err ∈ (execute skipValidate commands).1) ↔
        ∃ err, ∃ r ∈ c.requests, err ∈ r.reported skipValidate) := by
    intro i c hc
    refine exists_congr fun err => ?_
    rw [execute_error_iff]
    constructor
    · rintro ⟨c', hc', hreported⟩
      rw [hc] at hc'
      obtain rfl := Option.some.inj hc'
      exact hreported
    · intro hreported
      exact ⟨c, hc, hreported⟩
  unfold Meets
  rw [trace_eq_iff]
  constructor
  · rintro ⟨hnone, hmatch⟩ c hc
    refine ⟨hnone c hc, ?_⟩
    obtain ⟨i, hi⟩ := List.mem_iff_getElem?.mp hc
    rw [← DisplayCommand.errors_match_iff (c.no_sideband_iff.mpr (hnone c hc)), ← herrors i c hi]
    exact hmatch i c hi
  · intro h
    refine ⟨fun c hc => (h c hc).1, ?_⟩
    intro i c hi
    have hc : c ∈ commands := List.mem_of_getElem? hi
    rw [herrors i c hi, DisplayCommand.errors_match_iff (c.no_sideband_iff.mpr (h c hc).1)]
    exact (h c hc).2

/-! ### Three handlers -/

def noLayerCommand : LayerCommand where
  layer := 7
  cursorPosition := none
  buffer := none
  damage := none
  blendMode := none
  color := none
  composition := none
  dataspace := none
  displayFrame := none
  planeAlpha := none
  sidebandStream := none
  sourceCrop := none
  transform := none
  visibleRegion := none
  z := none
  colorTransform := none
  perFrameMetadata := none
  perFrameMetadataBlob := none

def noCommand : DisplayCommand where
  display := 0
  layers := []
  colorTransformMatrix := none
  clientTarget := none
  virtualDisplayOutputBuffer := none
  brightness := none
  expectedPresentTime := none
  validateDisplay := none
  acceptDisplayChanges := none
  presentDisplay := none
  presentOrValidateDisplay := none

/-- A sideband stream whose lookup answers `found`. -/
def streamCommand (found : Int) : DisplayCommand :=
  { noCommand with
    layers := [{ noLayerCommand with sidebandStream := some ⟨40, found, 41, 0⟩ }] }

/-- A present that fails. -/
def presentCommand : DisplayCommand := { noCommand with presentDisplay := some ⟨4, -1, [], []⟩ }

/-- A validation whose expected present time is not taken. -/
def timeCommand : DisplayCommand :=
  { noCommand with validateDisplay := some ⟨8, ⟨0, [], [], 0, [], []⟩⟩ }

/-- A stream that is found is not set, one that is not found is; a failed present
    and a refused time are not reported. -/
theorem handlers_slip :
    ¬ Meets true [streamCommand 0] ∧ ¬ Meets true [streamCommand 3] ∧
      ¬ Meets true [presentCommand] ∧ ¬ Meets true [timeCommand] := by
  refine ⟨?_, ?_, ?_, ?_⟩
  · rintro ⟨htrace, -⟩
    exact absurd htrace (by decide)
  · rintro ⟨htrace, -⟩
    exact absurd htrace (by decide)
  · rintro ⟨-, hmatch⟩
    obtain ⟨err, herr⟩ := (hmatch 0 presentCommand rfl).mpr
      ⟨.present 0 ⟨4, -1, [], []⟩, List.mem_singleton.mpr rfl, show (4 : Int) ≠ 0 by decide⟩
    cases herr
  · rintro ⟨-, hmatch⟩
    obtain ⟨err, herr⟩ := (hmatch 0 timeCommand rfl).mpr
      ⟨.validate 0 none ⟨8, ⟨0, [], [], 0, [], []⟩⟩, List.mem_singleton.mpr rfl, .inl (by decide)⟩
    rcases List.mem_cons.mp herr with h | h
    · cases h
    · rcases List.mem_singleton.mp h with h
      cases h

end ExynosHal.CommandEngine
