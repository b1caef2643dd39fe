/-
  ExynosHal/AcrylGeometry.lean
  ============================
  **The geometry of canvases and layers.**

  `setImageDimension` and `setCompositArea` of `libacryl/acrylic_layer.cpp` and
  `Acrylic::validateAllLayers` of `libacryl/acrylic.cpp`.  The areas come as 32-bit
  numbers, are checked as such and then stored in 16 bits.  What was asked for is
  kept beside what is stored (`Asked`); no function reads it.
-/
import ExynosHal.HW2DCapability
import ExynosHal.TransitionSystem

namespace ExynosHal.AcrylGeometry

open ExynosHal ExynosHal.TransitionSystem ExynosHal.HW2DCapability

/-! ### Canvases and layers -/

/-- `hwc_rect_t`. -/
structure HwcRect where
  left : BitVec 32
  top : BitVec 32
  right : BitVec 32
  bottom : BitVec 32
deriving DecidableEq, Repr

def get_width (rect : HwcRect) : Int := rect.right.toInt - rect.left.toInt
def get_height (rect : HwcRect) : Int := rect.bottom.toInt - rect.top.toInt

def HwcRect.size (rect : HwcRect) : Hw2dCoord := ⟨get_width rect, get_height rect⟩

/-- `left | top | right | bottom`. -/
def HwcRect.bits (rect : HwcRect) : BitVec 32 := rect.left ||| rect.top ||| rect.right ||| rect.bottom

/-- Everything but the geometry: the image type, the buffer and its attributes. -/
structure Settings where
  type : Bool
  buffer : Bool
  compressed : Bool
  uOrder : Bool
  isProtected : Bool
deriving DecidableEq, Repr

structure Canvas where
  mImageDimension : Hw2dCoord
  /-- `SETTING_DIMENSION` of `mSettingFlags`. -/
  dimension : Bool
  settings : Settings
deriving DecidableEq, Repr

/-- The size, the source and the target of a layer as they were asked for. -/
structure Asked where
  width : BitVec 32
  height : BitVec 32
  src_area : HwcRect
  out_area : HwcRect
deriving DecidableEq, Repr

structure Layer extends Canvas where
  mImageRect : Hw2dRect
  mTargetRect : Hw2dRect
  mTransform : BitVec 32
  mCompositAttr : BitVec 32
  mPlaneAlpha : BitVec 8
  asked : Asked
  /-- The last of the accepted calls was `setImageDimension`. -/
  resized : Bool
deriving DecidableEq, Repr

structure Acrylic where
  mCanvas : Canvas
  /-- The size of the target as it was asked for. -/
  askedCanvas : BitVec 32 × BitVec 32
  mLayers : List Layer
deriving DecidableEq, Repr

def ATTR_NORESAMPLING : BitVec 32 := 1
def ATTR_ALL_MASK : BitVec 32 := 1

def noResampling (attr : BitVec 32) : Bool := attr &&& ATTR_NORESAMPLING != 0

def isSettingOkay (c : Canvas) : Bool := c.settings.type && c.settings.buffer && c.dimension

/-! ### The setters -/

/-- `AcrylicCanvas::setImageDimension` between the sizes `minsize` and `maxsize`. -/
def setCanvasDimension (cap : HW2DCapability) (minsize maxsize : Hw2dCoord) (c : Canvas)
    (width height : BitVec 32) : Canvas × Bool :=
  if c.dimension && width.toInt = c.mImageDimension.hori && height.toInt = c.mImageDimension.vert
  then (c, true)
  else if width.toInt < minsize.hori || height.toInt < minsize.vert ||
      maxsize.hori < width.toInt || maxsize.vert < height.toInt
  then ({ c with dimension := false }, false)
  else if width &&& BitVec.ofInt 32 (cap.min_pix_align.hori - 1) != 0 ||
      height &&& BitVec.ofInt 32 (cap.min_pix_align.vert - 1) != 0
  then ({ c with dimension := false }, false)
  else ({ c with mImageDimension := ⟨int16 width.toInt, int16 height.toInt⟩, dimension := true }, true)

/-- `AcrylicLayer::setImageDimension`. -/
def setImageDimension (cap : HW2DCapability) (l : Layer) (width height : BitVec 32) :
    Layer × Bool :=
  let r := setCanvasDimension cap cap.min_src_dimension cap.max_src_dimension l.toCanvas width height
  if r.2 then
    ({ l with
        toCanvas := r.1
        mImageRect := ⟨⟨0, 0⟩, r.1.mImageDimension⟩
        asked := ⟨width, height, ⟨0, 0, width, height⟩, l.asked.out_area⟩
        resized := true }, true)
  else ({ l with toCanvas := r.1 }, false)

/-- The checks of `setCompositArea` on the transform and the source area. -/
def sourceOkay (cap : HW2DCapability) (l : Layer) (src_area : HwcRect) (transform : BitVec 32) :
    Bool :=
  transform &&& cap.getHWCTransformMask = transform &&
    !src_area.bits.msb &&
    src_area.left.toInt < src_area.right.toInt && src_area.top.toInt < src_area.bottom.toInt &&
    cap.min_src_dimension.hori ≤ get_width src_area &&
    cap.min_src_dimension.vert ≤ get_height src_area &&
    src_area.right.toInt ≤ l.mImageDimension.hori && src_area.bottom.toInt ≤ l.mImageDimension.vert

/-- Its checks on a target area, up to the scaling limit. -/
def targetOkay (cap : HW2DCapability) (out_area : HwcRect) : Bool :=
  !out_area.bits.msb &&
    out_area.left.toInt < out_area.right.toInt && out_area.top.toInt < out_area.bottom.toInt &&
    cap.min_dst_dimension.hori ≤ get_width out_area &&
    cap.min_dst_dimension.vert ≤ get_height out_area

/-- An area in 16-bit fields. -/
def int16Rect (area : HwcRect) : Hw2dRect where
  pos := ⟨int16 area.left.toInt, int16 area.top.toInt⟩
  size := ⟨int16 (get_width area), int16 (get_height area)⟩

def Layer.setArea (l : Layer) (src_area out_area : HwcRect) (transform attr : BitVec 32) : Layer :=
  { l with
    mTargetRect := int16Rect out_area
    mImageRect := int16Rect src_area
    mTransform := transform
    mCompositAttr := attr &&& ATTR_ALL_MASK
    asked := ⟨l.asked.width, l.asked.height, src_area, out_area⟩
    resized := false }

/-- `AcrylicLayer::setCompositArea`; `none` is a division by zero. -/
def setCompositArea (cap : HW2DCapability) (l : Layer) (src_area out_area : HwcRect)
    (transform attr : BitVec 32) : Option (Layer × Bool) :=
  if !sourceOkay cap l src_area transform then some (l, false)
  else if out_area.bits = 0 then some (l.setArea src_area out_area transform attr, true)
  else if !targetOkay cap out_area then some (l, false)
  else
    (cap.supportedScaling (noResampling attr) (int16Rect src_area).size (int16Rect out_area).size
      transform).map fun scaling_ok =>
        if scaling_ok then (l.setArea src_area out_area transform attr, true) else (l, false)

/-! ### `validateAllLayers` -/

def validateLayer (cap : HW2DCapability) (xy : Hw2dCoord) (l : Layer) : Option Bool :=
  if !isSettingOkay l.toCanvas then some false
  else if l.settings.compressed && !cap.isFeatureSupported FEATURE_AFBC_DECODE then some false
  else if l.settings.uOrder && !cap.isFeatureSupported FEATURE_UORDER_READ then some false
  else if l.mPlaneAlpha ≠ 255 && !cap.isFeatureSupported FEATURE_PLANE_ALPHA then some false
  else if area_is_zero l.mTargetRect then
    cap.supportedScaling (noResampling l.mCompositAttr) l.mImageRect.size xy l.mTransform
  else some (!l.mTargetRect.exceeds xy)

def validateAllLayers (cap : HW2DCapability) (a : Acrylic) : Option Bool :=
  if !isSettingOkay a.mCanvas then some false
  else if a.mCanvas.settings.compressed && !cap.isFeatureSupported FEATURE_AFBC_ENCODE then some false
  else if a.mCanvas.settings.uOrder && !cap.isFeatureSupported FEATURE_UORDER_WRITE then some false
  else
    let prot := a.mLayers.any (·.settings.isProtected)
    a.mLayers.foldr (fun l r => both (validateLayer cap a.mCanvas.mImageDimension l) r)
      (some (!(prot && !a.mCanvas.settings.isProtected)))

/-! ### Calls -/

/-- The fields of a new layer that its constructor leaves as the memory was. -/
structure Memory where
  mImageRect : Hw2dRect
  mCompositAttr : BitVec 32

def newLayer (cap : HW2DCapability) (m : Memory) : Layer where
  mImageDimension := cap.min_src_dimension
  dimension := false
  settings := ⟨false, false, false, false, false⟩
  mImageRect := m.mImageRect
  mTargetRect := ⟨⟨0, 0⟩, ⟨0, 0⟩⟩
  mTransform := 0
  mCompositAttr := m.mCompositAttr
  mPlaneAlpha := 255
  asked := ⟨0, 0, ⟨0, 0, 0, 0⟩, ⟨0, 0, 0, 0⟩⟩
  resized := false

inductive Call where
  | createLayer (m : Memory)
  | removeLayer (i : Nat)
  | setCanvasDimension (width height : BitVec 32)
  /-- `setImageType` and `setImageBuffer` of the target canvas, with whatever comes of them. -/
  | setCanvas (settings : Settings)
  | setImageDimension (i : Nat) (width height : BitVec 32)
  | setCompositArea (i : Nat) (src_area out_area : HwcRect) (transform attr : BitVec 32)
  /-- `setImageType`, `setImageBuffer` and `setCompositMode` of a layer. -/
  | setLayer (i : Nat) (settings : Settings) (alpha : BitVec 8)
  | validateAllLayers

/-- A call to layer `i`. -/
def onLayer (a : Acrylic) (i : Nat) (f : Layer → Option (Layer × Bool)) : Option (Acrylic × Bool) :=
  match a.mLayers[i]? with
  | none => some (a, false)
  | some l => (f l).map fun r => ({ a with mLayers := a.mLayers.set i r.1 }, r.2)

/-- One call with its result; `none` is a division by zero. -/
def perform (cap : HW2DCapability) (a : Acrylic) : Call → Option (Acrylic × Bool)
  | .createLayer m =>
      if cap.max_layers ≤ a.mLayers.length then some (a, false)
      else some ({ a with mLayers := a.mLayers ++ [newLayer cap m] }, true)
  | .removeLayer i => some ({ a with mLayers := a.mLayers.eraseIdx i }, true)
  | .setCanvasDimension width height =>
      let r := setCanvasDimension cap cap.min_dst_dimension cap.max_dst_dimension a.mCanvas width height
      some ({ a with
        mCanvas := r.1
        askedCanvas := if r.2 then (width, height) else a.askedCanvas }, r.2)
  | .setCanvas settings => some ({ a with mCanvas := { a.mCanvas with settings } }, true)
  | .setImageDimension i width height =>
      onLayer a i fun l => some (setImageDimension cap l width height)
  | .setCompositArea i src_area out_area transform attr =>
      onLayer a i fun l => setCompositArea cap l src_area out_area transform attr
  | .setLayer i settings alpha =>
      onLayer a i fun l => some ({ l with settings, mPlaneAlpha := alpha }, true)
  | .validateAllLayers => (validateAllLayers cap a).map fun ok => (a, ok)

def created (cap : HW2DCapability) : Acrylic :=
  ⟨⟨cap.min_src_dimension, false, ⟨false, false, false, false, false⟩⟩, (0, 0), []⟩

/-! ### What is to hold -/

/-- An area within an image, in exact integers. -/
structure Inside (area : HwcRect) (width height : Int) : Prop where
  hori : 0 ≤ area.left.toInt ∧ area.left.toInt < area.right.toInt ∧ area.right.toInt ≤ width
  vert : 0 ≤ area.top.toInt ∧ area.top.toInt < area.bottom.toInt ∧ area.bottom.toInt ≤ height

/-- The target of a layer: the whole target image if none was asked for. -/
def targetOn (askedCanvas : BitVec 32 × BitVec 32) (l : Layer) : HwcRect :=
  if l.asked.out_area.bits = 0 then ⟨0, 0, askedCanvas.1, askedCanvas.2⟩ else l.asked.out_area

structure Layer.IsSound (cap : HW2DCapability) (askedCanvas : BitVec 32 × BitVec 32) (l : Layer) :
    Prop where
  source : Inside l.asked.src_area l.asked.width.toInt l.asked.height.toInt
  target : Inside (targetOn askedCanvas l) askedCanvas.1.toInt askedCanvas.2.toInt
  scale : cap.Scales (noResampling l.mCompositAttr) l.asked.src_area.size
    (targetOn askedCanvas l).size l.mTransform

/-- A target area that passes the checks before the scaling limit is a 16-bit one, and when the
    layers are validated, a layer that was resized after its target area was set is scaled
    within the limits. -/
def Meets (cap : HW2DCapability) (a : Acrylic) : Call → Prop
  | .setCompositArea i src_area out_area transform _ => ∀ l ∈ a.mLayers[i]?,
      sourceOkay cap l src_area transform = true → targetOkay cap out_area = true →
        out_area.right.toInt ≤ 32767 ∧ out_area.bottom.toInt ≤ 32767
  | .validateAllLayers => ∀ l ∈ a.mLayers, l.resized = true → area_is_zero l.mTargetRect = false →
      cap.Scales (noResampling l.mCompositAttr) l.mImageDimension l.mTargetRect.size l.mTransform
  | _ => True

/-! ### Areas -/

theorem toInt_nonneg_of_or {a b : BitVec 32} (h : (a ||| b).msb = false) :
    a.msb = false ∧ b.msb = false := by
  rw [BitVec.msb_or, Bool.or_eq_false_iff] at h
  exact h

/-- The sign of `left | top | right | bottom`. -/
theorem nonneg_of_bits {area : HwcRect} (h : area.bits.msb = false) :
    0 ≤ area.left.toInt ∧ 0 ≤ area.top.toInt := by
  obtain ⟨h, -⟩ := toInt_nonneg_of_or h
  obtain ⟨h, -⟩ := toInt_nonneg_of_or h
  obtain ⟨hl, ht⟩ := toInt_nonneg_of_or h
  exact ⟨BitVec.toInt_nonneg_of_msb_false hl, BitVec.toInt_nonneg_of_msb_false ht⟩

theorem eq_zero_of_bits {area : HwcRect} (h : area.bits = 0) : area = ⟨0, 0, 0, 0⟩ := by
  obtain ⟨left, top, right, bottom⟩ := area
  have hbits : left ||| top ||| right ||| bottom = 0#32 := h
  rw [BitVec.or_eq_zero_iff, BitVec.or_eq_zero_iff, BitVec.or_eq_zero_iff] at hbits
  obtain ⟨⟨⟨rfl, rfl⟩, rfl⟩, rfl⟩ := hbits
  rfl

variable {cap : HW2DCapability} {l : Layer} {area : HwcRect} {width height : Int}

theorem Inside.mono {width' height' : Int} (h : Inside area width height) (hw : width ≤ width')
    (hh : height ≤ height') : Inside area width' height' :=
  ⟨⟨h.hori.1, h.hori.2.1, h.hori.2.2.trans hw⟩, ⟨h.vert.1, h.vert.2.1, h.vert.2.2.trans hh⟩⟩

/-- An area within 16 bits is stored as it is. -/
theorem Inside.stored (h : Inside area 32767 32767) :
    int16Rect area = ⟨⟨area.left.toInt, area.top.toInt⟩, area.size⟩ := by
  obtain ⟨⟨hl, hlr, hr⟩, ht, htb, hb⟩ := h
  unfold int16Rect HwcRect.size get_width get_height
  rw [int16_eq_self hl (by omega), int16_eq_self ht (by omega), int16_eq_self (by omega) (by omega),
    int16_eq_self (by omega) (by omega)]

theorem Inside.fits (h : Inside area 32767 32767) : Fits area.size := by
  obtain ⟨⟨hl, hlr, hr⟩, ht, htb, hb⟩ := h
  constructor
  · simp only [HwcRect.size, get_width]
    omega
  · simp only [HwcRect.size, get_height]
    omega

theorem sourceOkay_inside {src_area : HwcRect} {transform : BitVec 32}
    (h : sourceOkay cap l src_area transform = true) :
    Inside src_area l.mImageDimension.hori l.mImageDimension.vert := by
  simp only [sourceOkay, Bool.and_eq_true, decide_eq_true_eq, Bool.not_eq_true'] at h
  obtain ⟨⟨⟨⟨⟨⟨⟨-, hsign⟩, hlr⟩, htb⟩, -⟩, -⟩, hr⟩, hb⟩ := h
  obtain ⟨hl, ht⟩ := nonneg_of_bits hsign
  exact ⟨⟨hl, hlr, hr⟩, ⟨ht, htb, hb⟩⟩

theorem targetOkay_inside (h : targetOkay cap area = true) (hr : area.right.toInt ≤ width)
    (hb : area.bottom.toInt ≤ height) : Inside area width height := by
  simp only [targetOkay, Bool.and_eq_true, decide_eq_true_eq, Bool.not_eq_true'] at h
  obtain ⟨⟨⟨⟨hsign, hlr⟩, htb⟩, -⟩, -⟩ := h
  obtain ⟨hl, ht⟩ := nonneg_of_bits hsign
  exact ⟨⟨hl, hlr, hr⟩, ⟨ht, htb, hb⟩⟩

/-! ### What is stored of what was asked for -/

structure Layer.Stored (cap : HW2DCapability) (l : Layer) : Prop where
  fits : Fits l.mImageDimension
  size : l.dimension = true → l.mImageDimension = ⟨l.asked.width.toInt, l.asked.height.toInt⟩
  source : l.dimension = true →
    Inside l.asked.src_area l.mImageDimension.hori l.mImageDimension.vert ∧
      l.mImageRect.size = l.asked.src_area.size
  /-- A resized layer shows its whole image. -/
  whole : l.dimension = true → l.resized = true → l.asked.src_area.size = l.mImageDimension
  target : l.asked.out_area.bits = 0 ∧ area_is_zero l.mTargetRect = true ∨
    l.asked.out_area.bits ≠ 0 ∧ Inside l.asked.out_area 32767 32767 ∧
      l.mTargetRect = int16Rect l.asked.out_area
  scale : l.dimension = true → l.resized = false → l.asked.out_area.bits ≠ 0 →
    cap.Scales (noResampling l.mCompositAttr) l.asked.src_area.size l.asked.out_area.size l.mTransform

structure Acrylic.Stored (cap : HW2DCapability) (a : Acrylic) : Prop where
  fits : Fits a.mCanvas.mImageDimension
  size : a.mCanvas.dimension = true →
    a.mCanvas.mImageDimension = ⟨a.askedCanvas.1.toInt, a.askedCanvas.2.toInt⟩
  layers : ∀ l ∈ a.mLayers, l.Stored cap

/-- `setImageDimension` of a canvas stores what it accepts. -/
theorem setCanvasDimension_spec (cap : HW2DCapability) {minsize maxsize : Hw2dCoord} {c : Canvas}
    (width height : BitVec 32)
    (hmin : 0 < minsize.hori ∧ 0 < minsize.vert) (hmax : maxsize.hori ≤ 32767 ∧ maxsize.vert ≤ 32767)
    (hfits : Fits c.mImageDimension) :
    let r := setCanvasDimension cap minsize maxsize c width height
    Fits r.1.mImageDimension ∧ r.1.dimension = r.2 ∧
      (r.2 = true → r.1.mImageDimension = ⟨width.toInt, height.toInt⟩) := by
  unfold setCanvasDimension
  split
  next hsame =>
    simp only [Bool.and_eq_true, decide_eq_true_eq] at hsame
    refine ⟨hfits, hsame.1.1, fun _ => ?_⟩
    rw [hsame.1.2, hsame.2]
  split
  · exact ⟨hfits, rfl, fun h => nomatch h⟩
  next hsize =>
  split
  · exact ⟨hfits, rfl, fun h => nomatch h⟩
  · simp only [Bool.or_eq_true, decide_eq_true_eq, not_or, Int.not_lt] at hsize
    obtain ⟨⟨⟨hw, hh⟩, hw'⟩, hh'⟩ := hsize
    have hwidth : int16 width.toInt = width.toInt := int16_eq_self (by omega) (by omega)
    have hheight : int16 height.toInt = height.toInt := int16_eq_self (by omega) (by omega)
    rw [hwidth, hheight]
    have hhori : 0 < width.toInt ∧ width.toInt ≤ 32767 := by omega
    have hvert : 0 < height.toInt ∧ height.toInt ≤ 32767 := by omega
    exact ⟨⟨hhori, hvert⟩, rfl, fun _ => rfl⟩

theorem setImageDimension_stored (hcap : cap.IsExact) (h : l.Stored cap) (width height : BitVec 32) :
    (setImageDimension cap l width height).1.Stored cap := by
  obtain ⟨hh, hv, -, -, hhmax, hvmax⟩ := hcap.src
  have hspec := setCanvasDimension_spec cap width height ⟨hh, hv⟩ ⟨hhmax, hvmax⟩ h.fits
  unfold setImageDimension
  generalize setCanvasDimension cap cap.min_src_dimension cap.max_src_dimension l.toCanvas width
    height = r at hspec
  obtain ⟨hfits, hdim, hsize⟩ := hspec
  dsimp only
  split
  next hok =>
    have hexact := hsize hok
    have hinside : Inside ⟨0, 0, width, height⟩ r.1.mImageDimension.hori r.1.mImageDimension.vert := by
      rw [hexact] at hfits ⊢
      exact ⟨⟨Int.le_refl _, hfits.hori.1, Int.le_refl _⟩, ⟨Int.le_refl _, hfits.vert.1, Int.le_refl _⟩⟩
    have hwhole : (HwcRect.mk 0 0 width height).size = r.1.mImageDimension := by
      rw [hexact]
      simp [HwcRect.size, get_width, get_height]
    exact {
      fits := hfits
      size := fun _ => hexact
      source := fun _ => ⟨hinside, hwhole.symm⟩
      whole := fun _ _ => hwhole
      target := h.target
      scale := fun _ hr => nomatch hr }
  next hfail =>
    have hunset : r.1.dimension = false := hdim.trans (Bool.eq_false_iff.mpr hfail)
    have hno : ∀ {P : Prop}, r.1.dimension = true → P := fun ht => by
      rw [hunset] at ht
      exact nomatch ht
    exact {
      fits := hfits
      size := fun ht => hno ht
      source := fun ht => hno ht
      whole := fun ht => hno ht
      target := h.target
      scale := fun ht => hno ht }

/-- The area that is stored when `setCompositArea` accepts. -/
theorem setArea_stored {src_area out_area : HwcRect} {transform attr : BitVec 32}
    (h : l.Stored cap) (hsrc : sourceOkay cap l src_area transform = true)
    (hout : out_area.bits = 0 ∨ out_area.bits ≠ 0 ∧ Inside out_area 32767 32767 ∧
      cap.Scales (noResampling (attr &&& ATTR_ALL_MASK)) src_area.size out_area.size transform) :
    (l.setArea src_area out_area transform attr).Stored cap where
  fits := h.fits
  size := h.size
  source := fun _ => by
    have hinside := sourceOkay_inside hsrc
    refine ⟨hinside, ?_⟩
    show (int16Rect src_area).size = src_area.size
    rw [(hinside.mono h.fits.hori.2 h.fits.vert.2).stored]
  whole := fun _ hr => nomatch hr
  target := by
    rcases hout with hzero | ⟨hne, hinside, -⟩
    · refine .inl ⟨hzero, ?_⟩
      show area_is_zero (int16Rect out_area) = true
      rw [eq_zero_of_bits hzero]
      rfl
    · exact .inr ⟨hne, hinside, rfl⟩
  scale := fun _ _ hne => by
    rcases hout with hzero | ⟨-, -, hscale⟩
    · exact absurd hzero hne
    · exact hscale

theorem noResampling_mask (attr : BitVec 32) :
    noResampling (attr &&& ATTR_ALL_MASK) = noResampling attr := by
  unfold noResampling ATTR_ALL_MASK ATTR_NORESAMPLING
  rw [BitVec.and_assoc, BitVec.and_self]

/-- **`setCompositArea`** neither divides by zero nor stores a wrong area for a 16-bit target. -/
theorem setCompositArea_stored (hcap : cap.IsExact) {src_area out_area : HwcRect}
    {transform : BitVec 32} (attr : BitVec 32) (h : l.Stored cap)
    (hfits : sourceOkay cap l src_area transform = true → targetOkay cap out_area = true →
      out_area.right.toInt ≤ 32767 ∧ out_area.bottom.toInt ≤ 32767) :
    ∃ r, setCompositArea cap l src_area out_area transform attr = some r ∧ r.1.Stored cap := by
  unfold setCompositArea
  split
  · exact ⟨_, rfl, h⟩
  next hsrc =>
  rw [Bool.not_eq_true', Bool.not_eq_false] at hsrc
  split
  next hzero => exact ⟨_, rfl, setArea_stored h hsrc (.inl hzero)⟩
  next hne =>
  split
  · exact ⟨_, rfl, h⟩
  next htarget =>
  rw [Bool.not_eq_true', Bool.not_eq_false] at htarget
  obtain ⟨hr, hb⟩ := hfits hsrc htarget
  have hout := targetOkay_inside htarget hr hb
  have hin : Inside src_area 32767 32767 :=
    (sourceOkay_inside hsrc).mono h.fits.hori.2 h.fits.vert.2
  rw [hout.stored, hin.stored]
  obtain ⟨ok, hok⟩ := Option.ne_none_iff_exists'.mp
    (supportedScaling_ne_none (noResampling attr) src_area.size transform hcap ⟨hout.fits.hori.1.ne', hout.fits.vert.1.ne'⟩)
  rw [hok, Option.map_some]
  refine ⟨_, rfl, ?_⟩
  cases ok with
  | false => exact h
  | true =>
    have hscale := supportedScaling_scales hcap hin.fits hout.fits hok
    rw [← noResampling_mask] at hscale
    exact setArea_stored h hsrc (.inr ⟨hne, hout, hscale⟩)

theorem newLayer_stored (hcap : cap.IsExact) (m : Memory) : (newLayer cap m).Stored cap where
  fits := ⟨⟨hcap.src.1, hcap.src.2.2.1⟩, ⟨hcap.src.2.1, hcap.src.2.2.2.1⟩⟩
  size := fun h => nomatch h
  source := fun h => nomatch h
  whole := fun h => nomatch h
  target := .inl ⟨by simp [newLayer, HwcRect.bits], rfl⟩
  scale := fun h => nomatch h

/-! ### Runs -/

theorem created_stored (hcap : cap.IsExact) : (created cap).Stored cap where
  fits := ⟨⟨hcap.src.1, hcap.src.2.2.1⟩, ⟨hcap.src.2.1, hcap.src.2.2.2.1⟩⟩
  size := fun h => nomatch h
  layers := fun _ h => nomatch h

variable {a : Acrylic}

theorem onLayer_stored (h : a.Stored cap) (i : Nat) {f : Layer → Option (Layer × Bool)}
    (hf : ∀ l ∈ a.mLayers[i]?, l.Stored cap → ∃ r, f l = some r ∧ r.1.Stored cap) :
    ∃ r, onLayer a i f = some r ∧ r.1.Stored cap := by
  unfold onLayer
  cases hl : a.mLayers[i]? with
  | none => exact ⟨_, rfl, h⟩
  | some l =>
    obtain ⟨r, hr, hstored⟩ := hf l hl (h.layers l (List.mem_of_getElem? hl))
    dsimp only
    rw [hr]
    refine ⟨_, rfl, h.fits, h.size, fun x hx => ?_⟩
    rcases List.mem_or_eq_of_mem_set hx with hx | rfl
    · exact h.layers x hx
    · exact hstored

theorem validateLayer_ne_none (hcap : cap.IsExact) {xy : Hw2dCoord} (hxy : Fits xy) (l : Layer) :
    validateLayer cap xy l ≠ none := by
  unfold validateLayer
  repeat' split
  all_goals first
    | exact Option.some_ne_none _
    | exact supportedScaling_ne_none _ _ _ hcap ⟨hxy.hori.1.ne', hxy.vert.1.ne'⟩

theorem validateLayers_ne_none {f : Layer → Option Bool} (hf : ∀ l, f l ≠ none) {b : Bool}
    (ls : List Layer) : ls.foldr (fun l r => both (f l) r) (some b) ≠ none := by
  induction ls with
  | nil => exact Option.some_ne_none _
  | cons l ls ih => exact both_ne_none (hf l) ih

theorem validateAllLayers_ne_none (hcap : cap.IsExact) (h : a.Stored cap) :
    validateAllLayers cap a ≠ none := by
  unfold validateAllLayers
  split
  · exact Option.some_ne_none _
  split
  · exact Option.some_ne_none _
  split
  · exact Option.some_ne_none _
  · exact validateLayers_ne_none (validateLayer_ne_none hcap h.fits) _

/-- **One call** that meets the condition. -/
theorem perform_stored (hcap : cap.IsExact) (h : a.Stored cap) {call : Call}
    (hmeets : Meets cap a call) : ∃ r, perform cap a call = some r ∧ r.1.Stored cap := by
  cases call with
  | createLayer m =>
    simp only [perform]
    split
    · exact ⟨_, rfl, h⟩
    · refine ⟨_, rfl, h.fits, h.size, fun l hl => ?_⟩
      rcases List.mem_append.mp hl with hl | hl
      · exact h.layers l hl
      · rw [List.mem_singleton.mp hl]
        exact newLayer_stored hcap m
  | removeLayer i => exact ⟨_, rfl, h.fits, h.size, fun l hl => h.layers l (List.mem_of_mem_eraseIdx hl)⟩
  | setCanvasDimension width height =>
    obtain ⟨hh, hv, hhmax, hvmax⟩ := hcap.dst
    obtain ⟨hfits, hdim, hsize⟩ :=
      setCanvasDimension_spec cap width height ⟨hh, hv⟩ ⟨hhmax, hvmax⟩ h.fits
    refine ⟨_, rfl, hfits, fun hset => ?_, h.layers⟩
    have hok := hdim.symm.trans hset
    dsimp only
    rw [if_pos hok]
    exact hsize hok
  | setCanvas settings => exact ⟨_, rfl, h.fits, h.size, h.layers⟩
  | setImageDimension i width height =>
    exact onLayer_stored h i fun l _ hl => ⟨_, rfl, setImageDimension_stored hcap hl width height⟩
  | setCompositArea i src_area out_area transform attr =>
    exact onLayer_stored h i fun l hmem hl => setCompositArea_stored hcap attr hl (hmeets l hmem)
  | setLayer i settings alpha =>
    exact onLayer_stored h i fun l _ hl =>
      ⟨_, rfl, hl.fits, hl.size, hl.source, hl.whole, hl.target, hl.scale⟩
  | validateAllLayers =>
    obtain ⟨ok, hok⟩ := Option.ne_none_iff_exists'.mp (validateAllLayers_ne_none hcap h)
    refine ⟨(a, ok), ?_, h⟩
    unfold perform
    rw [hok]
    rfl

/-! ### What validation means -/

theorem validateLayers_eq_some_true {f : Layer → Option Bool} {b : Bool} {ls : List Layer}
    (h : ls.foldr (fun l r => both (f l) r) (some b) = some true) : ∀ l ∈ ls, f l = some true := by
  induction ls with
  | nil => exact fun _ hl => nomatch hl
  | cons l ls ih =>
    obtain ⟨hfirst, hrest⟩ := both_eq_some_true h
    intro x hx
    rcases List.mem_cons.mp hx with rfl | hx
    · exact hfirst
    · exact ih hrest x hx

theorem validateAllLayers_eq_some_true (h : validateAllLayers cap a = some true) :
    a.mCanvas.dimension = true ∧
      ∀ l ∈ a.mLayers, validateLayer cap a.mCanvas.mImageDimension l = some true := by
  unfold validateAllLayers at h
  split at h
  · exact nomatch h
  next hset =>
  split at h
  · exact nomatch h
  split at h
  · exact nomatch h
  refine ⟨?_, validateLayers_eq_some_true h⟩
  rw [Bool.not_eq_true', Bool.not_eq_false] at hset
  exact (Bool.and_eq_true_iff.mp hset).2

theorem validateLayer_eq_some_true {xy : Hw2dCoord} (h : validateLayer cap xy l = some true) :
    l.dimension = true ∧
      if area_is_zero l.mTargetRect then
        cap.supportedScaling (noResampling l.mCompositAttr) l.mImageRect.size xy l.mTransform = some true
      else l.mTargetRect.exceeds xy = false := by
  unfold validateLayer at h
  split at h
  · exact nomatch h
  next hset =>
  rw [Bool.not_eq_true', Bool.not_eq_false] at hset
  refine ⟨(Bool.and_eq_true_iff.mp hset).2, ?_⟩
  split at h
  · exact nomatch h
  split at h
  · exact nomatch h
  split at h
  · exact nomatch h
  split at h
  next hzero =>
    rw [if_pos hzero]
    exact h
  next hzero =>
    rw [if_neg hzero]
    simpa using h

theorem Layer.Stored.isSound (hcap : cap.IsExact) (h : l.Stored cap)
    {askedCanvas : BitVec 32 × BitVec 32} {xy : Hw2dCoord} (hxy : Fits xy)
    (hasked : xy = ⟨askedCanvas.1.toInt, askedCanvas.2.toInt⟩)
    (hvalid : validateLayer cap xy l = some true)
    (hmeets : l.resized = true → area_is_zero l.mTargetRect = false →
      cap.Scales (noResampling l.mCompositAttr) l.mImageDimension l.mTargetRect.size l.mTransform) :
    l.IsSound cap askedCanvas := by
  obtain ⟨hdim, hvalid⟩ := validateLayer_eq_some_true hvalid
  have hsource : Inside l.asked.src_area l.asked.width.toInt l.asked.height.toInt := by
    have := (h.source hdim).1
    rwa [h.size hdim] at this
  have hsrcfits : Fits l.asked.src_area.size :=
    ((h.source hdim).1.mono h.fits.hori.2 h.fits.vert.2).fits
  rcases h.target with ⟨hbits, hzero⟩ | ⟨hbits, hinside, hrect⟩
  · rw [if_pos hzero, (h.source hdim).2] at hvalid
    have hon : targetOn askedCanvas l = ⟨0, 0, askedCanvas.1, askedCanvas.2⟩ := if_pos hbits
    have hsize : (HwcRect.mk 0 0 askedCanvas.1 askedCanvas.2).size = xy := by
      rw [hasked]
      simp [HwcRect.size, get_width, get_height]
    refine ⟨hsource, ?_, ?_⟩
    · rw [hon]
      rw [hasked] at hxy
      exact ⟨⟨Int.le_refl _, hxy.hori.1, Int.le_refl _⟩, ⟨Int.le_refl _, hxy.vert.1, Int.le_refl _⟩⟩
    · rw [hon, hsize]
      exact supportedScaling_scales hcap hsrcfits hxy hvalid
  · have hstored : l.mTargetRect =
        ⟨⟨l.asked.out_area.left.toInt, l.asked.out_area.top.toInt⟩, l.asked.out_area.size⟩ := by
      rw [hrect, hinside.stored]
    have hzero : area_is_zero l.mTargetRect = false := by
      rw [hstored, area_is_zero, Bool.and_eq_false_iff, decide_eq_false_iff_not]
      exact .inl hinside.fits.hori.1.ne'
    have hon : targetOn askedCanvas l = l.asked.out_area := if_neg hbits
    rw [if_neg (by rw [hzero]; exact Bool.false_ne_true), hstored] at hvalid
    obtain ⟨hright, hbottom⟩ := Bool.or_eq_false_iff.mp hvalid
    have hright := of_decide_eq_false hright
    have hbottom := of_decide_eq_false hbottom
    rw [hasked] at hright hbottom
    simp only [HwcRect.size, get_width, get_height] at hright hbottom
    refine ⟨hsource, ?_, ?_⟩
    · rw [hon]
      exact ⟨⟨hinside.hori.1, hinside.hori.2.1, by omega⟩, ⟨hinside.vert.1, hinside.vert.2.1, by omega⟩⟩
    · rw [hon]
      cases hresized : l.resized with
      | false => exact h.scale hdim hresized hbits
      | true =>
        have hscale := hmeets hresized hzero
        rwa [hstored, ← h.whole hdim hresized] at hscale

/-- The steps of a compositor of this capability. -/
def step (cap : HW2DCapability) (a : Acrylic) (call : Call) (a' : Acrylic) : Prop :=
  ∃ ok, perform cap a call = some (a', ok)

/-- **Geometry of every run.**  In every run on one of the devices whose calls meet the
    condition, no call divides by zero, and validation succeeds only if every layer lies
    within its image and within the target and is scaled within the limits. -/
theorem geometry_run (cap : HW2DCapability) (hmem : cap ∈ capabilities) (a : Acrylic)
    (hrun : Reachable (· = created cap) (guarded (Meets cap) (step cap)) a) (call : Call)
    (hmeets : Meets cap a call) :
    perform cap a call ≠ none ∧
      (call = .validateAllLayers → validateAllLayers cap a = some true →
        ∀ l ∈ a.mLayers, l.IsSound cap a.askedCanvas) := by
  have hcap := isExact_of_mem hmem
  have hstored : a.Stored cap := by
    refine hrun.invariant (fun a ha => ha ▸ created_stored hcap) fun a call a' ha hstep => ?_
    obtain ⟨hmeets, ok, hok⟩ := hstep
    obtain ⟨r, hr, hr'⟩ := perform_stored hcap ha hmeets
    rw [hok, Option.some_inj] at hr
    subst hr
    exact hr'
  obtain ⟨r, hr, -⟩ := perform_stored hcap hstored hmeets
  refine ⟨by rw [hr]; exact Option.some_ne_none _, fun hcall hvalid l hl => ?_⟩
  subst hcall
  obtain ⟨hdim, hlayers⟩ := validateAllLayers_eq_some_true hvalid
  exact (hstored.layers l hl).isSound hcap hstored.fits (hstored.size hdim) (hlayers l hl) (hmeets l hl)

/-! ### A frame of a scaler -/

def after (cap : HW2DCapability) (a : Acrylic) (call : Call) : Acrylic :=
  (perform cap a call).elim a Prod.fst

theorem step_after {call : Call} (h : (perform cap a call).isSome) :
    step cap a call (after cap a call) := by
  obtain ⟨r, hr⟩ := Option.isSome_iff_exists.mp h
  refine ⟨r.2, ?_⟩
  rw [after, hr]
  rfl

theorem reachable_foldl {calls : List Call}
    (hcalls : ∀ call ∈ calls, ∀ a, Meets cap a call ∧ (perform cap a call).isSome)
    (h : Reachable (· = created cap) (guarded (Meets cap) (step cap)) a) :
    Reachable (· = created cap) (guarded (Meets cap) (step cap)) (calls.foldl (after cap) a) := by
  induction calls generalizing a with
  | nil => exact h
  | cons call calls ih =>
    obtain ⟨hmeets, hsome⟩ := hcalls call List.mem_cons_self a
    exact ih (fun c hc => hcalls c (List.mem_cons_of_mem _ hc)) (h.next ⟨hmeets, step_after hsome⟩)

def configured : Settings := ⟨true, true, false, false, false⟩

def prepareCalls : List Call :=
  [.createLayer ⟨⟨⟨0, 0⟩, ⟨0, 0⟩⟩, 0⟩, .setCanvasDimension 64 64, .setCanvas configured,
    .setImageDimension 0 64 64, .setLayer 0 configured 255]

theorem prepareCalls_meet (cap : HW2DCapability) :
    ∀ call ∈ prepareCalls, ∀ a, Meets cap a call ∧ (perform cap a call).isSome := by
  intro call hcall a
  have honLayer : ∀ f : Layer → Layer × Bool, (onLayer a 0 fun l => some (f l)).isSome := by
    intro f
    unfold onLayer
    cases a.mLayers[0]? <;> rfl
  simp only [prepareCalls, List.mem_cons, List.not_mem_nil, or_false] at hcall
  rcases hcall with rfl | rfl | rfl | rfl | rfl
  · refine ⟨trivial, ?_⟩
    simp only [perform]
    split <;> rfl
  · exact ⟨trivial, rfl⟩
  · exact ⟨trivial, rfl⟩
  · exact ⟨trivial, honLayer _⟩
  · exact ⟨trivial, honLayer _⟩

/-- One layer of 64x64 on a target of 64x64. -/
def prepared : Acrylic := prepareCalls.foldl (after capability_mscl_9810) (created capability_mscl_9810)

/-- The layer is shown in 4x4 pixels. -/
def shrunk : Acrylic :=
  after capability_mscl_9810 prepared (.setCompositArea 0 ⟨0, 0, 64, 64⟩ ⟨0, 0, 4, 4⟩ 0 0)

theorem shrunk_sound : validateAllLayers capability_mscl_9810 shrunk = some true ∧
    ∀ l ∈ shrunk.mLayers, l.IsSound capability_mscl_9810 shrunk.askedCanvas := by
  have hprepared := reachable_foldl (prepareCalls_meet capability_mscl_9810) (.start rfl)
  have hcall : Meets capability_mscl_9810 prepared
      (.setCompositArea 0 ⟨0, 0, 64, 64⟩ ⟨0, 0, 4, 4⟩ 0 0) := fun _ _ _ _ => by decide
  have hshrunk : Reachable (· = created capability_mscl_9810)
      (guarded (Meets capability_mscl_9810) (step capability_mscl_9810)) shrunk :=
    hprepared.next ⟨hcall, step_after (by decide)⟩
  have hresized : Meets capability_mscl_9810 shrunk .validateAllLayers := by
    intro l hl hresized
    have hnone : ∀ l ∈ shrunk.mLayers, l.resized = false := by decide
    rw [hnone l hl] at hresized
    exact nomatch hresized
  have hvalid : validateAllLayers capability_mscl_9810 shrunk = some true := by decide
  exact ⟨hvalid, (geometry_run capability_mscl_9810 (by decide) shrunk hshrunk .validateAllLayers
    hresized).2 rfl hvalid⟩

/-- A target of 65536 columns divides by zero; and a layer that is resized after its target
    was set is shrunk more than the scaler can, which validation does not see. -/
theorem wide_target_divides :
    perform capability_mscl_9810 prepared
        (.setCompositArea 0 ⟨0, 0, 64, 64⟩ ⟨0, 0, 65536, 4⟩ 0 0) = none ∧
      (validateAllLayers capability_mscl_9810
          (after capability_mscl_9810 shrunk (.setImageDimension 0 128 64)) = some true ∧
        ¬∀ l ∈ (after capability_mscl_9810 shrunk (.setImageDimension 0 128 64)).mLayers,
          l.IsSound capability_mscl_9810 (64, 64)) := by
  refine ⟨by decide, by decide, fun hsound => ?_⟩
  have hdown := (hsound _ List.mem_cons_self).scale.hori.down
  exact absurd hdown (by decide)

end ExynosHal.AcrylGeometry
