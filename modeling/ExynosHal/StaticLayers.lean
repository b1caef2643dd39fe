/-
  ExynosHal/StaticLayers.lean
  ===========================
  **Frames for which the client does not compose again.**

  `skipStaticLayers` and `skipStaticLayerChanged` of
  `libhwc2.1/display/ExynosDisplay.cpp`, called by `postProcessValidate` for the client
  composition.  One frame takes a snapshot of the layers; as long as the next frames
  agree with it, the client is told to keep its target.

  The snapshot has two images of every layer.  What the client's picture depends on
  besides them is in `Attributes`, the composition types and the colour mode (`SameRest`).
  The state remembers the frame that was composed last and the frame before, for the
  statements about runs.
-/
import Mathlib.Algebra.Group.Nat.Defs
import ExynosHal.Rect
import ExynosHal.TransitionSystem

namespace ExynosHal.StaticLayers

open ExynosHal.TransitionSystem

def NO_ERROR : Int := 0
def EINVAL : Int := 22
def NUM_SKIP_STATIC_LAYER : Int := 5
def ePriorityHigh : Nat := 3
def GEOMETRY_DISPLAY_LAYER_ADDED : Nat := 20
def GEOMETRY_DISPLAY_LAYER_REMOVED : Nat := 21
def GEOMETRY_DISPLAY_COLOR_TRANSFORM_CHANGED : Nat := 30

/-! ### Layers and frames -/

/-- What the comparison reads of the source image of a layer. -/
structure SrcImage where
  bufferHandle : Option Nat
  x : Nat
  y : Nat
  w : Nat
  h : Nat
  dataSpace : Nat
  blending : Int
  transform : Nat
  planeAlpha : Rat
deriving DecidableEq, Inhabited

structure DstImage where
  x : Nat
  y : Nat
  w : Nat
  h : Nat
deriving DecidableEq, Inhabited

inductive CompositionType where
  | CLIENT
  | DEVICE
  | EXYNOS
deriving DecidableEq, Repr

/-- What the picture of a layer depends on and the two images do not say, or say with less
    precision. -/
structure Attributes where
  mSourceCrop : Rect Rat
  mDisplayFrame : Rect Int
  mDataSpace : Nat
  mZOrder : Nat
  mVisibleRegionScreen : List (Rect Int)
  mLayerColorTransform : List Rat
deriving DecidableEq

/-- A layer after `doPreProcessing`, which fills the images; the source image has the
    handle of the buffer, or none for a dim layer. -/
structure Layer where
  mLayerBuffer : Option Nat
  mSrcImg : SrcImage
  mDstImg : DstImage
  mValidateCompositionType : CompositionType
  mOverlayPriority : Nat
  attributes : Attributes
  handle : mSrcImg.bufferHandle = none ∨ mSrcImg.bufferHandle = mLayerBuffer

/-- A frame at the end of its validation, as the client composition sees it.  The range of
    an existing client composition is in the list of layers. -/
structure Frame where
  /-- `mDisplayControl.skipStaticLayers`. -/
  skipStaticLayers : Bool
  mEnableSkipStatic : Bool
  mHasCompositionLayer : Bool
  mFirstIndex : Int
  mLastIndex : Int
  mGeometryChanged : Nat
  mColorMode : Nat
  mLayers : List Layer
  range : mHasCompositionLayer = true → mLastIndex < mLayers.length

namespace Frame

variable (f : Frame)

def count : Int := f.mLastIndex - f.mFirstIndex + 1

/-- The layers from the first to the last index. -/
def clientLayers : List Layer := (f.mLayers.drop f.mFirstIndex.toNat).take f.count.toNat

end Frame

/-- `ExynosFrameInfo`. -/
structure FrameInfo where
  srcNum : Int
  info : List (SrcImage × DstImage)

structure CompositionInfo where
  mSkipStaticInitFlag : Bool
  mSkipFlag : Bool
  mSkipSrcInfo : FrameInfo

def FrameInfo.reset : FrameInfo := ⟨0, []⟩

/-- `initCompositionInfo`. -/
def CompositionInfo.initial : CompositionInfo := ⟨false, false, FrameInfo.reset⟩

/-! ### The comparison -/

/-- The three comparisons of one layer with its images in the snapshot. -/
def layerChanged (info : SrcImage × DstImage) (layer : Layer) : Bool :=
  decide (layer.mLayerBuffer = none ∨ info.1.bufferHandle ≠ layer.mLayerBuffer) ||
    decide (info.1.x ≠ layer.mSrcImg.x ∨ info.1.y ≠ layer.mSrcImg.y ∨
      info.1.w ≠ layer.mSrcImg.w ∨ info.1.h ≠ layer.mSrcImg.h ∨
      info.1.dataSpace ≠ layer.mSrcImg.dataSpace ∨ info.1.blending ≠ layer.mSrcImg.blending ∨
      info.1.transform ≠ layer.mSrcImg.transform ∨ info.1.planeAlpha ≠ layer.mSrcImg.planeAlpha) ||
    decide (info.2.x ≠ layer.mDstImg.x ∨ info.2.y ≠ layer.mDstImg.y ∨
      info.2.w ≠ layer.mDstImg.w ∨ info.2.h ≠ layer.mDstImg.h)

def skipStaticLayerChanged (info : FrameInfo) (f : Frame) : Bool :=
  if info.srcNum ≠ f.count then true
  else f.clientLayers.zipIdx.any fun p => layerChanged (info.info.getD p.2 default) p.1

def Frame.geometryFlag (f : Frame) : Bool :=
  f.mGeometryChanged.testBit GEOMETRY_DISPLAY_COLOR_TRANSFORM_CHANGED ||
    f.mGeometryChanged.testBit GEOMETRY_DISPLAY_LAYER_REMOVED ||
    f.mGeometryChanged.testBit GEOMETRY_DISPLAY_LAYER_ADDED

/-- There is nothing to skip, or it may not be skipped. -/
def Frame.ruledOut (f : Frame) : Bool :=
  decide (f.skipStaticLayers = false ∨ f.mEnableSkipStatic = false) ||
    decide (f.mHasCompositionLayer = false ∨ f.mFirstIndex < 0 ∨ f.mLastIndex < 0 ∨
      f.count > NUM_SKIP_STATIC_LAYER) ||
    f.geometryFlag

/-- `skipStaticLayers` of the client composition. -/
def skipStaticLayers (info : CompositionInfo) (f : Frame) : Int × CompositionInfo :=
  let info := { info with mSkipFlag := false }
  if f.ruledOut then (NO_ERROR, { info with mSkipStaticInitFlag := false })
  else if info.mSkipStaticInitFlag then
    if skipStaticLayerChanged info.mSkipSrcInfo f then
      (NO_ERROR, { info with mSkipStaticInitFlag := false })
    else
      match f.clientLayers.find? fun layer => layer.mValidateCompositionType ≠ .CLIENT with
      | none => (NO_ERROR, { info with mSkipFlag := true })
      | some layer =>
          (if layer.mOverlayPriority < ePriorityHigh then -EINVAL else NO_ERROR,
            { info with mSkipStaticInitFlag := false })
  else
    (NO_ERROR,
      { info with
        mSkipStaticInitFlag := true
        mSkipSrcInfo := ⟨f.count, f.clientLayers.map fun layer => (layer.mSrcImg, layer.mDstImg)⟩ })

/-! ### Runs -/

/-- `postProcessValidate` makes client layers of the layers in the range, except those of
    high priority. -/
def Layer.toClient (layer : Layer) : Layer :=
  if layer.mOverlayPriority ≥ ePriorityHigh then layer
  else { layer with mValidateCompositionType := .CLIENT }

def Frame.toClient (f : Frame) : Frame :=
  { f with
    mLayers := f.mLayers.mapIdx fun i layer =>
      if f.mFirstIndex ≤ i ∧ i ≤ f.mLastIndex then layer.toClient else layer
    range := by
      rw [List.length_mapIdx]
      exact f.range }

/-- The client composition with the frame composed last, the frame validated last and what
    the client was told for it. -/
structure State where
  info : CompositionInfo
  composed : Option Frame
  latest : Option Frame
  skipped : Bool

inductive Event where
  /-- The end of the validation of a frame. -/
  | validate (f : Frame)
  /-- `clearDisplay`. -/
  | clearDisplay
  /-- `handlePresentError`, `setForceClient` and a failure of `handleStaticLayers`. -/
  | disarm
  /-- `initCompositionInfo`. -/
  | init

/-- The frame as it is shown. -/
def shownFrame (info : CompositionInfo) (f : Frame) : Frame :=
  let r := skipStaticLayers info f
  if r.1 = NO_ERROR ∧ f.mHasCompositionLayer = true ∧ r.2.mSkipFlag = false then f.toClient else f

def step (s : State) : Event → State
  | .validate f =>
      let r := skipStaticLayers s.info f
      { info := r.2
        composed :=
          if f.mHasCompositionLayer = true ∧ r.2.mSkipFlag = false then some (shownFrame s.info f)
          else s.composed
        latest := some (shownFrame s.info f)
        skipped := r.2.mSkipFlag }
  | .clearDisplay =>
      { s with
        info := { s.info with mSkipStaticInitFlag := false, mSkipFlag := false }
        skipped := false }
  | .disarm => { s with info := { s.info with mSkipStaticInitFlag := false }, skipped := false }
  | .init => { s with info := CompositionInfo.initial, skipped := false }

def initialState : State := ⟨CompositionInfo.initial, none, none, false⟩

/-! ### What a skip promises -/

/-- What the snapshot records of a layer. -/
def Layer.recorded (layer : Layer) : Option Nat × SrcImage × DstImage :=
  (layer.mLayerBuffer, { layer.mSrcImg with bufferHandle := none }, layer.mDstImg)

/-- What it does not record. -/
def Layer.rest (layer : Layer) : CompositionType × Attributes :=
  (layer.mValidateCompositionType, layer.attributes)

/-- Two frames agree on what the snapshot does not record. -/
structure SameRest (c f : Frame) : Prop where
  first : c.mFirstIndex = f.mFirstIndex
  last : c.mLastIndex = f.mLastIndex
  colorMode : c.mColorMode = f.mColorMode
  rest : c.clientLayers.map Layer.rest = f.clientLayers.map Layer.rest

/-- The client would compose the same picture for both frames. -/
structure SameContent (c f : Frame) : Prop extends SameRest c f where
  recorded : c.clientLayers.map Layer.recorded = f.clientLayers.map Layer.recorded

/-- Nothing that the code looks at is a reason to compose `f` after `before`. -/
structure LooksSame (before f : Frame) : Prop where
  ruledOut : f.ruledOut = false
  client : ∀ layer ∈ f.clientLayers,
    layer.mValidateCompositionType = .CLIENT ∧ layer.mLayerBuffer ≠ none
  recorded : before.clientLayers.map Layer.recorded = f.clientLayers.map Layer.recorded

/-- Of two frames in a row that look the same, the rest is the same. -/
def ChangesNoticed (s : State) : Event → Prop
  | .validate f => s.info.mSkipStaticInitFlag = true →
      ∀ before, s.latest = some before → LooksSame before f → SameRest before f
  | _ => True

/-! ### The calls -/

section Calls

variable {info : CompositionInfo} {f : Frame}

theorem skipStaticLayers_ruledOut (h : f.ruledOut = true) :
    skipStaticLayers info f =
      (NO_ERROR, { info with mSkipFlag := false, mSkipStaticInitFlag := false }) := by
  unfold skipStaticLayers
  rw [if_pos h]

/-- The first frame of a series. -/
theorem skipStaticLayers_first (h : f.ruledOut = false) (hinit : info.mSkipStaticInitFlag = false) :
    skipStaticLayers info f =
      (NO_ERROR,
        { mSkipFlag := false
          mSkipStaticInitFlag := true
          mSkipSrcInfo :=
            ⟨f.count, f.clientLayers.map fun layer => (layer.mSrcImg, layer.mDstImg)⟩ }) := by
  unfold skipStaticLayers
  simp [h, hinit]

/-- A later frame is skipped, or the series ends. -/
theorem skipStaticLayers_next (h : f.ruledOut = false) (hinit : info.mSkipStaticInitFlag = true) :
    (skipStaticLayerChanged info.mSkipSrcInfo f = false ∧
        (∀ layer ∈ f.clientLayers, layer.mValidateCompositionType = .CLIENT) ∧
        skipStaticLayers info f = (NO_ERROR, { info with mSkipFlag := true })) ∨
      ∃ ret, skipStaticLayers info f =
        (ret, { info with mSkipFlag := false, mSkipStaticInitFlag := false }) := by
  unfold skipStaticLayers
  cases hchanged : skipStaticLayerChanged info.mSkipSrcInfo f with
  | true =>
      right
      exact ⟨NO_ERROR, by simp [h, hinit, hchanged]⟩
  | false =>
      cases hfind : f.clientLayers.find? fun layer => layer.mValidateCompositionType ≠ .CLIENT with
      | none =>
          left
          have hall := List.find?_eq_none.mp hfind
          refine ⟨rfl, ?_, ?_⟩
          · intro layer hlayer
            have hclient := hall layer hlayer
            simpa using hclient
          · simp [h, hinit, hchanged]
      | some layer =>
          right
          exact ⟨if layer.mOverlayPriority < ePriorityHigh then -EINVAL else NO_ERROR, by
            simp [h, hinit, hchanged]⟩

theorem ruledOut_eq_false (h : f.ruledOut = false) :
    f.mHasCompositionLayer = true ∧ 0 ≤ f.mFirstIndex ∧ f.count ≤ NUM_SKIP_STATIC_LAYER := by
  unfold Frame.ruledOut at h
  simp only [Bool.or_eq_false_iff, decide_eq_false_iff_not, not_or] at h
  obtain ⟨⟨-, hcomp, hfirst, -, hcount⟩, -⟩ := h
  refine ⟨?_, Int.not_lt.mp hfirst, Int.not_lt.mp hcount⟩
  simpa using hcomp

/-- The range of a frame that may be skipped is in its list of layers. -/
theorem clientLayers_length (h : f.ruledOut = false) : f.clientLayers.length = f.count.toNat := by
  obtain ⟨hcomp, hfirst, -⟩ := ruledOut_eq_false h
  have hlast := f.range hcomp
  unfold Frame.clientLayers Frame.count
  rw [List.length_take, List.length_drop]
  omega

end Calls

section Snapshots

variable {info : FrameInfo} {c f : Frame}

theorem map_mapIdx_same {α β : Type} {l : List α} {g : Nat → α → α} {h : α → β}
    (hg : ∀ i x, h (g i x) = h x) : (l.mapIdx g).map h = l.map h := by
  apply List.ext_getElem
  · simp
  · intro i h1 h2
    simp [hg]

/-- What does not look at the composition types is the same after `toClient`. -/
theorem clientLayers_toClient {β : Type} {h : Layer → β} (hh : ∀ layer, h layer.toClient = h layer) :
    f.toClient.clientLayers.map h = f.clientLayers.map h := by
  have hlayers : f.toClient.mLayers.map h = f.mLayers.map h := by
    apply map_mapIdx_same
    intro i layer
    split
    · exact hh layer
    · rfl
  show ((f.toClient.mLayers.drop f.mFirstIndex.toNat).take f.count.toNat).map h =
    ((f.mLayers.drop f.mFirstIndex.toNat).take f.count.toNat).map h
  rw [List.map_take, List.map_drop, hlayers, ← List.map_drop, ← List.map_take]

/-- The snapshot of a frame. -/
structure Snapshot (info : FrameInfo) (c : Frame) : Prop where
  count : info.srcNum = c.count
  info : info.info = c.clientLayers.map fun layer => (layer.mSrcImg, layer.mDstImg)
  whole : c.clientLayers.length = c.count.toNat

theorem snapshot_toClient (h : f.ruledOut = false) :
    Snapshot ⟨f.count, f.clientLayers.map fun layer => (layer.mSrcImg, layer.mDstImg)⟩ f.toClient where
  count := rfl
  info := by
    symm
    apply clientLayers_toClient
    intro layer
    unfold Layer.toClient
    split <;> rfl
  whole := by
    have hlength := congrArg List.length
      (clientLayers_toClient (f := f) (h := fun _ => ()) fun _ => rfl)
    rw [List.length_map, List.length_map, clientLayers_length h] at hlength
    exact hlength

/-- A layer that is like its images in the snapshot. -/
theorem recorded_eq {old new : Layer} (h : layerChanged (old.mSrcImg, old.mDstImg) new = false) :
    new.mLayerBuffer ≠ none ∧ old.recorded = new.recorded := by
  unfold layerChanged at h
  simp only [Bool.or_eq_false_iff, decide_eq_false_iff_not, not_or, ne_eq, Decidable.not_not] at h
  obtain ⟨⟨⟨hnone, hbuffer⟩, hx, hy, hw, hh, hspace, hblend, htransform, halpha⟩,
    hdx, hdy, hdw, hdh⟩ := h
  have hbuf : old.mLayerBuffer = new.mLayerBuffer := by
    rcases old.handle with hold | hold
    · rw [hold] at hbuffer
      exact absurd hbuffer.symm hnone
    · rw [← hold, hbuffer]
  have hdst : old.mDstImg = new.mDstImg := by
    cases hold : old.mDstImg
    cases hnew : new.mDstImg
    simp only [hold, hnew] at hdx hdy hdw hdh
    rw [hdx, hdy, hdw, hdh]
  have hsrc : { old.mSrcImg with bufferHandle := none } =
      { new.mSrcImg with bufferHandle := none } := by
    simp only [SrcImage.mk.injEq, true_and]
    exact ⟨hx, hy, hw, hh, hspace, hblend, htransform, halpha⟩
  constructor
  · exact hnone
  · unfold Layer.recorded
    rw [hbuf, hsrc, hdst]

/-- **The comparison with the snapshot.**  Where it sees nothing, what it records is the
    same. -/
theorem recorded_of_unchanged (hsnap : Snapshot info c) (hf : f.ruledOut = false)
    (h : skipStaticLayerChanged info f = false) :
    (∀ layer ∈ f.clientLayers, layer.mLayerBuffer ≠ none) ∧
      c.clientLayers.map Layer.recorded = f.clientLayers.map Layer.recorded := by
  unfold skipStaticLayerChanged at h
  by_cases hcount : info.srcNum = f.count
  · rw [if_neg (not_not_intro hcount), List.any_eq_false] at h
    have hlength : c.clientLayers.length = f.clientLayers.length := by
      rw [hsnap.whole, clientLayers_length hf, ← hsnap.count, hcount]
    have heach : ∀ (i : Nat) (h1 : i < c.clientLayers.length) (h2 : i < f.clientLayers.length),
        f.clientLayers[i].mLayerBuffer ≠ none ∧
          c.clientLayers[i].recorded = f.clientLayers[i].recorded := by
      intro i h1 h2
      have hlayer := h (f.clientLayers[i], i) (List.mem_zipIdx_iff_getElem?.mpr (by simp [h2]))
      have himages : info.info.getD i default =
          (c.clientLayers[i].mSrcImg, c.clientLayers[i].mDstImg) := by
        rw [hsnap.info]
        simp [h1]
      rw [himages] at hlayer
      apply recorded_eq
      exact Bool.eq_false_iff.mpr hlayer
    constructor
    · intro layer hlayer
      obtain ⟨i, hi, rfl⟩ := List.mem_iff_getElem.mp hlayer
      exact (heach i (hlength ▸ hi) hi).left
    · apply List.ext_getElem
      · rw [List.length_map, List.length_map, hlength]
      · intro i h1 h2
        rw [List.length_map] at h1 h2
        rw [List.getElem_map, List.getElem_map]
        exact (heach i h1 h2).right
  · rw [if_pos hcount] at h
    cases h

theorem SameContent.refl (f : Frame) : SameContent f f := ⟨⟨rfl, rfl, rfl, rfl⟩, rfl⟩

theorem SameRest.trans {b : Frame} (h : SameRest c b) (h' : SameRest b f) : SameRest c f where
  first := h.first.trans h'.first
  last := h.last.trans h'.last
  colorMode := h.colorMode.trans h'.colorMode
  rest := h.rest.trans h'.rest

end Snapshots

/-! ### Every run -/

/-- What holds of the client composition after every event. -/
structure Inv (s : State) : Prop where
  srcNum : s.info.mSkipSrcInfo.srcNum ≤ NUM_SKIP_STATIC_LAYER
  skipped : s.skipped = true → s.info.mSkipStaticInitFlag = true
  /-- The snapshot is of the frame composed last, and no frame since was another one. -/
  armed : s.info.mSkipStaticInitFlag = true →
    ∃ c f, s.composed = some c ∧ s.latest = some f ∧ Snapshot s.info.mSkipSrcInfo c ∧
      SameContent c f

theorem inv_initialState : Inv initialState where
  srcNum := by decide
  skipped h := by cases h
  armed h := by cases h

section Steps

variable {s : State} {f : Frame}

/-- Without a snapshot nothing is promised. -/
theorem Inv.disarmed (h : s.info.mSkipSrcInfo.srcNum ≤ NUM_SKIP_STATIC_LAYER)
    (harmed : s.info.mSkipStaticInitFlag = false) (hskipped : s.skipped = false) : Inv s where
  srcNum := h
  skipped hs := by
    rw [hskipped] at hs
    cases hs
  armed hs := by
    rw [harmed] at hs
    cases hs

theorem step_validate_first (h : f.ruledOut = false) (hinit : s.info.mSkipStaticInitFlag = false) :
    Inv (step s (.validate f)) := by
  obtain ⟨hcomp, -, hcount⟩ := ruledOut_eq_false h
  have hfirst := skipStaticLayers_first h hinit
  have hshown : shownFrame s.info f = f.toClient := by
    unfold shownFrame
    rw [hfirst]
    exact if_pos ⟨rfl, hcomp, rfl⟩
  unfold step
  simp only [hshown, hfirst, hcomp, true_and, if_true]
  constructor
  · exact hcount
  · intro hskip
    cases hskip
  · intro _
    exact ⟨f.toClient, f.toClient, rfl, rfl, snapshot_toClient h, SameContent.refl _⟩

theorem step_validate_next (hs : Inv s) (hguard : ChangesNoticed s (.validate f))
    (h : f.ruledOut = false) (hinit : s.info.mSkipStaticInitFlag = true) :
    Inv (step s (.validate f)) := by
  obtain ⟨hcomp, -, -⟩ := ruledOut_eq_false h
  rcases skipStaticLayers_next h hinit with ⟨hsame, hclient, hskip⟩ | ⟨ret, hstop⟩
  · -- The frame is skipped, and the guard carries what the snapshot does not have.
    obtain ⟨c, before, hc, hbefore, hsnap, hcontent⟩ := hs.armed hinit
    obtain ⟨hbuffers, hrecorded⟩ := recorded_of_unchanged hsnap h hsame
    have hlooks : LooksSame before f := by
      refine ⟨h, ?_, ?_⟩
      · intro layer hlayer
        exact ⟨hclient layer hlayer, hbuffers layer hlayer⟩
      · rw [← hcontent.recorded, hrecorded]
    have hrest := hcontent.toSameRest.trans (hguard hinit before hbefore hlooks)
    have hshown : shownFrame s.info f = f := by
      unfold shownFrame
      rw [hskip]
      simp
    unfold step
    simp only [hshown, hskip, Bool.true_eq_false, and_false, if_false]
    constructor
    · exact hs.srcNum
    · intro _
      exact hinit
    · intro _
      exact ⟨c, f, hc, rfl, hsnap, ⟨hrest, hrecorded⟩⟩
  · unfold step
    simp only [hstop]
    apply Inv.disarmed
    · exact hs.srcNum
    · rfl
    · rfl

/-- **One step.** -/
theorem step_inv {e : Event} (hs : Inv s) (hguard : ChangesNoticed s e) : Inv (step s e) := by
  cases e with
  | validate f =>
      cases hout : f.ruledOut with
      | true =>
          unfold step
          simp only [skipStaticLayers_ruledOut hout]
          apply Inv.disarmed
          · exact hs.srcNum
          · rfl
          · rfl
      | false =>
          cases hinit : s.info.mSkipStaticInitFlag with
          | true => exact step_validate_next hs hguard hout hinit
          | false => exact step_validate_first hout hinit
  | clearDisplay => exact Inv.disarmed hs.srcNum rfl rfl
  | disarm => exact Inv.disarmed hs.srcNum rfl rfl
  | init => exact Inv.disarmed inv_initialState.srcNum rfl rfl

end Steps

/-- A window that the client composes; `attributes` is what the snapshot does not have. -/
def window (attributes : Attributes) : Layer where
  mLayerBuffer := some 1
  mSrcImg := ⟨some 1, 0, 0, 100, 100, 0, 2, 0, 1⟩
  mDstImg := ⟨0, 0, 100, 100⟩
  mValidateCompositionType := .CLIENT
  mOverlayPriority := 0
  attributes := attributes
  handle := Or.inr rfl

def oneWindow (geometry mode : Nat) (attributes : Attributes) : Frame where
  skipStaticLayers := true
  mEnableSkipStatic := true
  mHasCompositionLayer := true
  mFirstIndex := 0
  mLastIndex := 0
  mGeometryChanged := geometry
  mColorMode := mode
  mLayers := [window attributes]
  range _ := Int.zero_lt_one

end ExynosHal.StaticLayers
