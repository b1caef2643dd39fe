/-
  ExynosHal/CompositionRange.lean
  ===============================
  **The two composition ranges of a display.**

  `addClientCompositionLayer`, `removeClientCompositionLayer`,
  `handleSandwitchedExynosCompositionLayer`, `handleNestedClientCompositionLayer`
  and `addExynosCompositionLayer` of `libhwc2.1/display/ExynosDisplay.cpp`.
-/
import ExynosHal.Assignment

namespace ExynosHal.CompositionRange

open ExynosHal.Assignment

/-! ### Client composition -/

/-- One round of the loop over the sandwiched layers.  The flag is
    `exynosCompositionChanged`. -/
def sandwichClient (d : Display) (p : State × Bool) (i : Nat) : State × Bool :=
  if d.isSpared i then p
  else if p.1.validateType i = .client then p
  else
    let s := p.1.recordTaken .sandwiched i
    let s := if p.1.validateType i = .device then s.decrementWindow (.layer i) else s
    ((s.resetAssignedResource i).setType i .client,
      p.2 || decide (p.1.validateType i = .exynos))

def extendHull (s : State) (h : Option (Nat × Nat)) (i : Nat) : Option (Nat × Nat) :=
  if s.validateType i = .exynos then
    match h with
    | none => some (i, i)
    | some (first, last) => some (min first i, max last i)
  else h

/-- First and last layer of type `EXYNOS`. -/
def exynosHull (d : Display) (s : State) : Option (Nat × Nat) :=
  (List.range d.layerNum).foldl (extendHull s) none

/-- `Check Exynos Composition info is changed`. -/
def updateExynosRange (d : Display) (s : State) : State × Status × Bool :=
  if s.exynos.firstIndex < 0 ∨ s.exynos.lastIndex < 0 then (s, .einval, false)
  else
    match exynosHull d s with
    | none => (s.initializeExynos d, .changed, true)
    | some (first, last) => (s.setExynosRange first last, .noError, true)

/-- The indices strictly between two ends. -/
def between (first last : Int) : List Nat :=
  List.range' (first.toNat + 1) (last.toNat - (first.toNat + 1))

/-- The third component is `isExynosCompositionChanged`. -/
def addClientCompositionLayer (d : Display) (s : State) (layerIndex : Nat) :
    State × Status × Bool :=
  if s.client.hasCompositionLayer = false then
    ({ s with client := ⟨true, layerIndex, layerIndex⟩ }, .changed, false)
  else
    let first := min s.client.firstIndex layerIndex
    let last := max s.client.lastIndex layerIndex
    let s := s.setClientRange first last
    if first < 0 ∨ last < 0 then (s, .einval, false)
    else
      let p := (between first last).foldl (sandwichClient d) (s, false)
      if p.2 then updateExynosRange d p.1 else (p.1, .noError, false)

def removeClientCompositionLayer (s : State) (layerIndex : Nat) : State × Status :=
  if s.client.hasCompositionLayer = false
      ∨ (s.client.firstIndex ≠ layerIndex ∧ s.client.lastIndex ≠ layerIndex) then (s, .einval)
  else if s.client.firstIndex = s.client.lastIndex then
    match s.otfMPP .client with
    | none => (s, .einval)
    | some m => (((s.resetAssignedState m).initializeClient).decrementWindow .client, .noError)
  else if s.client.firstIndex = layerIndex then
    (s.setClientRange (s.client.firstIndex + 1) s.client.lastIndex, .noError)
  else (s.setClientRange s.client.firstIndex (s.client.lastIndex - 1), .noError)

/-! ### Exynos composition -/

/-- What the loop over the exynos range carries: the return code, the layers of
    high priority, `invalidFlag` and `changeFlag`. -/
structure Sandwich where
  state : State
  status : Status
  highPriLayers : List Nat
  invalidFlag : Bool
  changeFlag : Bool

/-- The layer is not supported by the MPP or there is no capacity for it. -/
def refuse (d : Display) (a : Sandwich) (i : Nat) : Sandwich :=
  let s := a.state.recordTaken .refused i
  let r := addClientCompositionLayer d ((s.resetAssignedResource i).setType i .client) i
  { a with
    state := r.1
    status := if r.2.1.isError then r.2.1 else .noError
    invalidFlag := true
    changeFlag := a.changeFlag || decide (r.2.1 = .changed) }

/-- The layer joins the exynos composition. -/
def join (d : Display) (m : MppId) (s : State) (i : Nat) : State :=
  let r := ((s.recordTaken .joined i).resetAssignedResource i).assignM2m d m (.layer i)
  let r := if s.validateType i = .device then r.decrementWindow (.layer i) else r
  (r.setType i .exynos).setExynosRange (min r.exynos.firstIndex i) (max r.exynos.lastIndex i)

/-- One round of `handleSandwitchedExynosCompositionLayer`.  The end of the range
    is read in every round. -/
def sandwichExynos (d : Display) (m : MppId) (a : Sandwich) (i : Nat) : Sandwich :=
  if a.status ≠ .noError ∨ a.state.exynos.lastIndex < i then a
  else if d.isHigh i then { a with highPriLayers := a.highPriLayers ++ [i] }
  else if a.state.validateType i = .exynos then a
  else if a.state.validateType i = .client then { a with invalidFlag := true }
  else if (d.layer i).supportedMPPFlag (a.state.mpp m).logicalType = false
      ∨ a.state.isAssignable d m (.src (.layer i)) (.dst (.layer i)) = false then refuse d a i
  else { a with state := join d m a.state i }

def handleSandwitchedExynosCompositionLayer (d : Display) (m : MppId) (s : State) : Sandwich :=
  let first := s.exynos.firstIndex.toNat
  (List.range' first (d.layerNum - first)).foldl (sandwichExynos d m)
    ⟨s, .noError, [], false, false⟩

/-- The end of the exynos range at `i` goes to the client composition; `cut` is
    taken if that left the exynos range alone. -/
def giveUpEnd (d : Display) (s : State) (i : Nat) (cut : State → State) : State × Status :=
  let r := s.recordTaken .nested i
  let r := addClientCompositionLayer d ((r.resetAssignedResource i).setType i .client) i
  if r.2.1.isError then (r.1, r.2.1)
  else (if r.2.2 then r.1 else cut r.1, r.2.1)

/-- The exynos range nests the client range. -/
def isNested (s : State) : Bool :=
  s.client.hasCompositionLayer
    && decide (s.exynos.firstIndex < s.client.firstIndex)
    && decide (s.client.firstIndex < s.exynos.lastIndex)
    && decide (s.exynos.firstIndex < s.client.lastIndex)
    && decide (s.client.lastIndex < s.exynos.lastIndex)

/-- `noError` here stands for "no error": a change is what the caller collects. -/
def handleNestedClientCompositionLayer (d : Display) (s : State) : State × Status :=
  if isNested s = false then (s, .noError)
  else if s.client.firstIndex - s.exynos.firstIndex < s.exynos.lastIndex - s.client.lastIndex then
    giveUpEnd d s s.exynos.firstIndex.toNat
      fun s => s.setExynosRange (s.client.lastIndex + 1) s.exynos.lastIndex
  else
    giveUpEnd d s s.exynos.lastIndex.toNat
      fun s => s.setExynosRange s.exynos.firstIndex (s.client.firstIndex - 1)

/-- `checkIndexValidation`. -/
def isIndexValid (d : Display) (s : State) : Bool :=
  decide (0 ≤ s.exynos.firstIndex) && decide (s.exynos.firstIndex < d.layerNum)
    && decide (0 ≤ s.exynos.lastIndex) && decide (s.exynos.lastIndex < d.layerNum)
    && decide (s.exynos.firstIndex ≤ s.exynos.lastIndex)

/-- One round over the layers of high priority, which come in ascending order. -/
def trim (s : State) (h : Nat) : State :=
  if (h : Int) = s.exynos.firstIndex then
    s.setExynosRange (s.exynos.firstIndex + 1) s.exynos.lastIndex
  else if (h : Int) = s.exynos.lastIndex then
    s.setExynosRange s.exynos.firstIndex (s.exynos.lastIndex - 1)
  else s

/-- One round of the loop that hands the range over to the client composition. -/
def disable (d : Display) (s : State) (i : Nat) : State :=
  if d.isHigh i then s
  else (addClientCompositionLayer d ((s.resetAssignedResource i).setType i .client) i).1

def setLogicalType (s : State) (m : MppId) (t : LogicalType) : State :=
  { s with mpp := Function.update s.mpp m { s.mpp m with logicalType := t } }

/-- A layer of high priority lies strictly inside the range. -/
def isHighInside (s : State) (highPriority : List Nat) : Bool :=
  highPriority.any fun h =>
    decide (s.exynos.firstIndex < h) && decide ((h : Int) < s.exynos.lastIndex)

/-- The composition is given up, all layers without high priority become client
    layers.  The condition of the source assigns the logical type. -/
def disableExynosComposition (d : Display) (m : MppId) (s : State) : State :=
  let first := s.exynos.firstIndex.toNat
  let s := setLogicalType s m .g2dRGB
  let s := (List.range' first (s.exynos.lastIndex.toNat + 1 - first)).foldl (disable d) s
  s.initializeExynos d

/-- What follows the sandwiched and the nested layers. -/
def settleExynosRange (d : Display) (m : MppId) (s : State) (highPriority : List Nat)
    (changeFlag : Bool) : State × Status :=
  let s := if (s.mpp m).logicalType = .g2dRGB then highPriority.foldl trim s else s
  let invalid := isIndexValid d s = false
  let s := if invalid then s.initializeExynos d else s
  if isHighInside s highPriority then (disableExynosComposition d m s, .changed)
  else (s, if changeFlag ∨ invalid then .changed else .noError)

/-- The ends of the exynos range once layer `k` is in it. -/
def grownFirst (s : State) (k : Nat) : Int := min s.exynos.firstIndex k

def grownLast (s : State) (k : Nat) : Int := max s.exynos.lastIndex k

/-- A layer of high priority is, or becomes, a layer of the composition. -/
def hasHighExynos (d : Display) (s : State) (k : Nat) : Bool :=
  d.isHigh k || (List.range d.layerNum).any fun j =>
    decide (s.validateType j = .exynos) && d.isHigh j

/-- Inside the grown range, next to a layer that is or may become a client layer,
    lie layers of high priority that one round of the trimming at that end cannot
    take off: two in a row below it, or any without the trimming. -/
def hasHighPair (d : Display) (s : State) (k : Nat) : Bool :=
  let isTrimmed := decide ((s.m2mMPP .exynos).map (fun m => (s.mpp m).logicalType) = some .g2dRGB)
  (List.range d.layerNum).any fun c =>
    decide (grownFirst s k < c) && decide ((c : Int) < grownLast s k)
      && decide (s.validateType c ≠ .exynos)
      && (!d.isHigh c || decide (s.validateType c = .client))
      && if isTrimmed then d.isHigh (c - 1) && d.isHigh (c - 2)
        else d.isHigh (c - 1) || d.isHigh (c + 1)

def addExynosCompositionLayer (d : Display) (s : State) (layerIndex : Nat) : State × Status :=
  let s := s.countCheck
  if s.exynos.hasCompositionLayer = false then
    ({ s with exynos := ⟨true, layerIndex, layerIndex⟩ }, .changed)
  else
    let s := s.record (.added layerIndex (hasHighExynos d s layerIndex) (hasHighPair d s layerIndex))
    let s := s.setExynosRange (grownFirst s layerIndex) (grownLast s layerIndex)
    match s.m2mMPP .exynos with
    | none => (s, .einval)
    | some m =>
        if isIndexValid d s = false then (s, .einval)
        else
          let a := handleSandwitchedExynosCompositionLayer d m s
          if a.status ≠ .noError then (a.state, a.status)
          else
            let r := if a.invalidFlag then handleNestedClientCompositionLayer d a.state
              else (a.state, .noError)
            if r.2.isError then r
            else settleExynosRange d m r.1 a.highPriLayers
              (a.changeFlag || decide (r.2 = .changed))

end ExynosHal.CompositionRange
