/-
  ExynosHal/AcrylSettings.lean
  ============================
  **The settings of canvases and layers, and what is marked as modified.**

  The setters of `libacryl/acrylic_layer.cpp` with `mSettingFlags`.  Whether the
  device accepts the arguments of a call is given with the call.  A setter that
  changes the size, the type or the stride of an image marks it or leaves it
  incomplete (`ImageCall.perform_settled`), and a new layer is incomplete, so
  that `Call.perform_remembers` says what a compositor may rely on.
-/
import ExynosHal.HW2DCapability
import ExynosHal.MarkedItems

namespace ExynosHal.AcrylSettings

open ExynosHal ExynosHal.HW2DCapability ExynosHal.MarkedItems

inductive MemoryType where
  | MT_DMABUF | MT_USERPTR | MT_EMPTY
deriving DecidableEq, Repr

/-- `mSettingFlags`, bit by bit. -/
structure SettingFlags where
  type : Bool := false
  buffer : Bool := false
  dimension : Bool := false
  stride : Bool := false
  typeModified : Bool := false
  bufferModified : Bool := false
  dimensionModified : Bool := false
  strideModified : Bool := false
deriving DecidableEq, Repr

/-- One entry for each of the `MAX_HW2D_PLANES`. -/
abbrev Strides := BitVec 32 × BitVec 32 × BitVec 32 × BitVec 32

structure AcrylicCanvas where
  mImageDimension : Hw2dCoord
  mPixFormat : BitVec 32
  mDataSpace : BitVec 32
  mStride : Strides
  mMemoryType : MemoryType
  /-- `ATTR_PROTECTED` of `mAttributes`. -/
  isProtected : Bool
  mSettingFlags : SettingFlags
deriving DecidableEq, Repr

/-- The values of a blending mode, in either version of the enumeration. -/
inductive BlendingMode where
  | NONE | PREMULT | COVERAGE
deriving DecidableEq, Repr

structure AcrylicLayer extends AcrylicCanvas where
  mImageRect : Hw2dRect
  mTargetRect : Hw2dRect
  mTransform : BitVec 32
  mBlendingMode : BlendingMode
  mPlaneAlpha : BitVec 8
  /-- `isVotf`: the layer's data ask for the connection to the display. -/
  votf : Bool
deriving DecidableEq, Repr

namespace AcrylicCanvas

def isSettingOkay (c : AcrylicCanvas) : Bool :=
  c.mSettingFlags.type && c.mSettingFlags.buffer && c.mSettingFlags.dimension

def getStride (c : AcrylicCanvas) : Strides :=
  if c.mSettingFlags.stride then c.mStride else (0, 0, 0, 0)

def clearSettingModified (c : AcrylicCanvas) : AcrylicCanvas :=
  { c with mSettingFlags := { c.mSettingFlags with
      typeModified := false, bufferModified := false, dimensionModified := false
      strideModified := false } }

/-! ### Setters -/

/-- `okay` is what the checks on the size say. -/
def setImageDimension (c : AcrylicCanvas) (width height : Int) (okay : Bool) : AcrylicCanvas × Bool :=
  if c.mSettingFlags.dimension && width = c.mImageDimension.hori && height = c.mImageDimension.vert
  then (c, true)
  else if okay then
    ({ c with
        mImageDimension := ⟨int16 width, int16 height⟩
        mSettingFlags := { c.mSettingFlags with dimension := true, dimensionModified := true } }, true)
  else ({ c with mSettingFlags := { c.mSettingFlags with dimension := false } }, false)

def setStride (c : AcrylicCanvas) (stride : Strides) : AcrylicCanvas × Bool :=
  if c.mSettingFlags.stride && c.mStride = stride then (c, true)
  else
    ({ c with
        mStride := stride
        mSettingFlags := { c.mSettingFlags with stride := true, strideModified := true } }, true)

/-- `okay` is whether the format and the colour space are supported. -/
def setImageType (c : AcrylicCanvas) (fmt dataspace : BitVec 32) (okay : Bool) : AcrylicCanvas × Bool :=
  if c.mSettingFlags.type && c.mPixFormat = fmt && c.mDataSpace = dataspace then (c, true)
  else if okay then
    ({ c with
        mPixFormat := fmt
        mDataSpace := dataspace
        mSettingFlags := { c.mSettingFlags with type := true, typeModified := true } }, true)
  else ({ c with mSettingFlags := { c.mSettingFlags with type := false } }, false)

/-- Each of the functions of this name, by the memory type that it stores. -/
def setImageBuffer (c : AcrylicCanvas) (memory : MemoryType) (isProtected okay : Bool) :
    AcrylicCanvas × Bool :=
  if okay then
    ({ c with
        mMemoryType := memory
        isProtected := isProtected
        mSettingFlags := { c.mSettingFlags with buffer := true, bufferModified := true } }, true)
  else (c, false)

end AcrylicCanvas

/-- A call to a setter of an image. -/
inductive ImageCall where
  | setImageDimension (width height : Int) (okay : Bool)
  | setStride (stride : Strides)
  | setImageType (fmt dataspace : BitVec 32) (okay : Bool)
  | setImageBuffer (memory : MemoryType) (isProtected okay : Bool)
deriving DecidableEq, Repr

def ImageCall.perform (c : AcrylicCanvas) : ImageCall → AcrylicCanvas × Bool
  | .setImageDimension width height okay => c.setImageDimension width height okay
  | .setStride stride => c.setStride stride
  | .setImageType fmt dataspace okay => c.setImageType fmt dataspace okay
  | .setImageBuffer memory isProtected okay => c.setImageBuffer memory isProtected okay

/-- A call to a setter of a layer. -/
inductive LayerCall where
  | image (call : ImageCall)
  | setCompositMode (mode : BlendingMode) (alpha : BitVec 8) (okay : Bool)
  | setCompositArea (src_area out_area : Hw2dRect) (transform : BitVec 32) (okay : Bool)
  | setLayerData (votf : Bool)
deriving DecidableEq, Repr

def LayerCall.perform (l : AcrylicLayer) : LayerCall → AcrylicLayer × Bool
  | .image call =>
    let r := call.perform l.toAcrylicCanvas
    match call with
    | .setImageDimension .. =>
      -- The crop is set to the whole image, also when the size is the same as before.
      if r.2 then
        ({ l with toAcrylicCanvas := r.1, mImageRect := ⟨⟨0, 0⟩, r.1.mImageDimension⟩ }, true)
      else ({ l with toAcrylicCanvas := r.1 }, false)
    | _ => ({ l with toAcrylicCanvas := r.1 }, r.2)
  | .setCompositMode mode alpha okay =>
    if okay then ({ l with mBlendingMode := mode, mPlaneAlpha := alpha }, true) else (l, false)
  | .setCompositArea src_area out_area transform okay =>
    if okay then
      ({ l with mImageRect := src_area, mTargetRect := out_area, mTransform := transform }, true)
    else (l, false)
  | .setLayerData votf => ({ l with votf }, true)

/-- The canvas and the layers of a compositor. -/
structure Acrylic where
  mCanvas : AcrylicCanvas
  mLayers : List AcrylicLayer
deriving DecidableEq, Repr

namespace Acrylic

/-- A layer as its constructor leaves it; `memory` is what was there, in the members that the
    constructor does not write. -/
def newLayer (min : Hw2dCoord) (memory : AcrylicLayer) : AcrylicLayer :=
  { memory with
      mImageDimension := min, mPixFormat := 0, isProtected := false, mSettingFlags := {}
      mTargetRect := ⟨⟨0, 0⟩, ⟨0, 0⟩⟩, mTransform := 0, mBlendingMode := .NONE, mPlaneAlpha := 255
      votf := false }

/-- `validateAllLayers`; `supported` is what the capability of the device says. -/
def validateAllLayers (a : Acrylic) (supported : Bool) : Bool :=
  a.mCanvas.isSettingOkay && a.mLayers.all (·.isSettingOkay) && supported &&
    !(a.mLayers.any (·.isProtected) && !a.mCanvas.isProtected)

def clearSettingModified (a : Acrylic) : Acrylic :=
  { mCanvas := a.mCanvas.clearSettingModified
    mLayers := a.mLayers.map fun l => { l with toAcrylicCanvas := l.clearSettingModified } }

end Acrylic

/-- A call of the user, other than an execute. -/
inductive Call where
  | canvas (call : ImageCall)
  | layer (i : Nat) (call : LayerCall)
  | createLayer (memory : AcrylicLayer)
  | removeLayer (i : Nat)
deriving DecidableEq, Repr

def Call.perform (maxLayerCount : Nat) (min : Hw2dCoord) (a : Acrylic) : Call → Acrylic
  | .canvas call => { a with mCanvas := (call.perform a.mCanvas).1 }
  | .layer i call => { a with mLayers := a.mLayers.modify i fun l => (call.perform l).1 }
  | .createLayer memory =>
    if a.mLayers.length ≥ maxLayerCount then a
    else { a with mLayers := a.mLayers ++ [Acrylic.newLayer min memory] }
  | .removeLayer i => { a with mLayers := a.mLayers.eraseIdx i }

/-! ### Marks -/

/-- What the format of an image is made from. -/
structure ImageType where
  mImageDimension : Hw2dCoord
  mPixFormat : BitVec 32
  mDataSpace : BitVec 32
deriving DecidableEq, Repr

namespace AcrylicCanvas

variable (c : AcrylicCanvas)

def imageType : ImageType := ⟨c.mImageDimension, c.mPixFormat, c.mDataSpace⟩

/-- The size or the type is marked. -/
def typeMarked : Bool := c.mSettingFlags.typeModified || c.mSettingFlags.dimensionModified

/-- The size, the type or the stride is marked. -/
def marked : Bool := c.typeMarked || c.mSettingFlags.strideModified

/-- The size and the type are set. -/
def typeSet : Bool := c.mSettingFlags.type && c.mSettingFlags.dimension

/-- The size and the type are set and not marked. -/
def typeSettled : Bool := c.typeSet && !c.typeMarked

/-- The same, with the stride. -/
def settled : Bool := c.typeSet && !c.marked

end AcrylicCanvas

variable {c : AcrylicCanvas}

theorem typeSettled_iff : c.typeSettled = true ↔ c.typeSet = true ∧ c.typeMarked = false := by
  rw [AcrylicCanvas.typeSettled, Bool.and_eq_true, Bool.not_eq_true']

theorem settled_iff :
    c.settled = true ↔ c.typeSettled = true ∧ c.mSettingFlags.strideModified = false := by
  rw [typeSettled_iff, AcrylicCanvas.settled, Bool.and_eq_true, Bool.not_eq_true', AcrylicCanvas.marked,
    Bool.or_eq_false_iff, and_assoc]

theorem typeSet_of_okay (h : c.isSettingOkay = true) : c.typeSet = true := by
  rw [AcrylicCanvas.isSettingOkay, Bool.and_eq_true, Bool.and_eq_true] at h
  rw [AcrylicCanvas.typeSet, Bool.and_eq_true]
  exact ⟨h.1.1, h.2⟩

theorem newLayer_unset (min : Hw2dCoord) (memory : AcrylicLayer) :
    (Acrylic.newLayer min memory).typeSet = false := rfl

/-- **A setter after which the type is settled** changes nothing that the format is made from. -/
theorem ImageCall.perform_typeSettled (call : ImageCall) (h : (call.perform c).1.typeSettled = true) :
    c.typeSettled = true ∧ (call.perform c).1.imageType = c.imageType := by
  revert h
  cases call with
  | setImageDimension width height okay =>
    simp only [perform, AcrylicCanvas.setImageDimension]
    split
    · exact fun h => ⟨h, rfl⟩
    · split
      · intro h
        simp [AcrylicCanvas.typeSettled, AcrylicCanvas.typeMarked] at h
      · intro h
        simp [AcrylicCanvas.typeSettled, AcrylicCanvas.typeSet] at h
  | setStride stride =>
    simp only [perform, AcrylicCanvas.setStride]
    split
    · exact fun h => ⟨h, rfl⟩
    · exact fun h => ⟨h, rfl⟩
  | setImageType fmt dataspace okay =>
    simp only [perform, AcrylicCanvas.setImageType]
    split
    · exact fun h => ⟨h, rfl⟩
    · split
      · intro h
        simp [AcrylicCanvas.typeSettled, AcrylicCanvas.typeMarked] at h
      · intro h
        simp [AcrylicCanvas.typeSettled, AcrylicCanvas.typeSet] at h
  | setImageBuffer memory isProtected okay =>
    simp only [perform, AcrylicCanvas.setImageBuffer]
    split
    · exact fun h => ⟨h, rfl⟩
    · exact fun h => ⟨h, rfl⟩

/-- Only `setStride` changes the stride, and it leaves a mark. -/
theorem ImageCall.perform_unstrided (call : ImageCall)
    (h : (call.perform c).1.mSettingFlags.strideModified = false) :
    c.mSettingFlags.strideModified = false ∧ (call.perform c).1.getStride = c.getStride := by
  revert h
  cases call with
  | setImageDimension width height okay =>
    simp only [perform, AcrylicCanvas.setImageDimension]
    split
    · exact fun h => ⟨h, rfl⟩
    · split
      · exact fun h => ⟨h, rfl⟩
      · exact fun h => ⟨h, rfl⟩
  | setStride stride =>
    simp only [perform, AcrylicCanvas.setStride]
    split
    · exact fun h => ⟨h, rfl⟩
    · intro h
      cases h
  | setImageType fmt dataspace okay =>
    simp only [perform, AcrylicCanvas.setImageType]
    split
    · exact fun h => ⟨h, rfl⟩
    · split
      · exact fun h => ⟨h, rfl⟩
      · exact fun h => ⟨h, rfl⟩
  | setImageBuffer memory isProtected okay =>
    simp only [perform, AcrylicCanvas.setImageBuffer]
    split
    · exact fun h => ⟨h, rfl⟩
    · exact fun h => ⟨h, rfl⟩

theorem ImageCall.perform_settled (call : ImageCall) (h : (call.perform c).1.settled = true) :
    c.settled = true ∧ (call.perform c).1.imageType = c.imageType ∧
      (call.perform c).1.getStride = c.getStride := by
  obtain ⟨htype, hstride⟩ := settled_iff.mp h
  obtain ⟨hctype, himage⟩ := call.perform_typeSettled htype
  obtain ⟨hcstride, hget⟩ := call.perform_unstrided hstride
  exact ⟨settled_iff.mpr ⟨hctype, hcstride⟩, himage, hget⟩

/-- The image of a layer changes by the setters of images only. -/
theorem LayerCall.perform_image (l : AcrylicLayer) (call : LayerCall) :
    (call.perform l).1.toAcrylicCanvas = l.toAcrylicCanvas ∨
      ∃ c : ImageCall, (call.perform l).1.toAcrylicCanvas = (c.perform l.toAcrylicCanvas).1 := by
  cases call with
  | image c =>
    right
    refine ⟨c, ?_⟩
    cases c with
    | setImageDimension width height okay =>
      simp only [perform]
      split <;> rfl
    | _ => rfl
  | setLayerData votf => exact .inl rfl
  | _ =>
    left
    simp only [perform]
    split <;> rfl

theorem LayerCall.perform_typeSettled (call : LayerCall) (l : AcrylicLayer)
    (h : (call.perform l).1.typeSettled = true) :
    l.typeSettled = true ∧ (call.perform l).1.imageType = l.imageType := by
  rcases call.perform_image l with himage | ⟨c, himage⟩
  · rw [himage] at h ⊢
    exact ⟨h, rfl⟩
  · rw [himage] at h ⊢
    exact c.perform_typeSettled h

theorem LayerCall.perform_settled (call : LayerCall) (l : AcrylicLayer)
    (h : (call.perform l).1.settled = true) :
    l.settled = true ∧ (call.perform l).1.imageType = l.imageType ∧
      (call.perform l).1.getStride = l.getStride := by
  rcases call.perform_image l with himage | ⟨c, himage⟩
  · rw [himage] at h ⊢
    exact ⟨h, rfl, rfl⟩
  · rw [himage] at h ⊢
    exact c.perform_settled h

/-! ### What a compositor remembers -/

section Remembered

variable {β : Type} {settled : AcrylicCanvas → Bool} {datum : AcrylicCanvas → β} {record : List β}

/-- **What is remembered of the layers stays so** under the calls of the user. -/
theorem Call.perform_remembers (maxLayerCount : Nat) (min : Hw2dCoord) {a : Acrylic} (call : Call)
    (hnew : ∀ c : AcrylicCanvas, c.typeSet = false → settled c = false)
    (hset : ∀ (call : LayerCall) (l : AcrylicLayer), settled (call.perform l).1.toAcrylicCanvas = true →
      settled l.toAcrylicCanvas = true ∧
        datum (call.perform l).1.toAcrylicCanvas = datum l.toAcrylicCanvas)
    (h : Remembers (fun l : AcrylicLayer => settled l.toAcrylicCanvas)
      (fun l => datum l.toAcrylicCanvas) record a.mLayers) :
    Remembers (fun l : AcrylicLayer => settled l.toAcrylicCanvas)
      (fun l => datum l.toAcrylicCanvas) record (call.perform maxLayerCount min a).mLayers := by
  cases call with
  | canvas call => exact h
  | layer i call => exact h.update (fun l hl => hset call l hl) i
  | createLayer memory =>
    simp only [perform]
    split
    · exact h
    · exact h.create (hnew _ (newLayer_unset min memory))
  | removeLayer i => exact h.remove i

end Remembered

end ExynosHal.AcrylSettings
