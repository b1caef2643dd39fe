/-
  ExynosHal/ScalerSession.lean
  ============================
  **A session of the scaler library.**

  The calls of `libscaler/libscaler.cpp` on one handle.  The wrapper keeps the
  crops, the plane lengths, the colour space, the protection and the transform
  between calls and passes each on to Acryl in a call of its own.  The setters of
  Acryl store what they accept; which values they accept is left open (`Setters`).
  The calls that were accepted last (`Asked`) and the order in which calls came
  (`History`) are kept beside the state; no function reads them.
-/
import ExynosHal.HalTransform
import ExynosHal.ScalerFormats
import ExynosHal.TransitionSystem

namespace ExynosHal.ScalerSession

open ExynosHal ExynosHal.AcrylGeometry ExynosHal.HalTransform ExynosHal.ScalerFormats
  ExynosHal.TransitionSystem

/-! ### Acryl -/

/-- `V4L2_MEMORY_`. -/
inductive Memory where
  | DMABUF | USERPTR | other
deriving DecidableEq, Repr

/-- What the setters of Acryl accept. -/
structure Setters where
  layerDimension : BitVec 32 → BitVec 32 → Bool
  canvasDimension : BitVec 32 → BitVec 32 → Bool
  type : Option HalFormat → Dataspace → Bool
  buffer : Memory → List Nat → List Nat → Bool
  /-- `setCompositArea` for an image of a width and a height. -/
  area : BitVec 32 → BitVec 32 → HwcRect → HwcRect → BitVec 32 → Bool

/-- An `AcrylicCanvas`; the three flags are the mandatory ones of `mSettingFlags`. -/
structure Image where
  dimension : Bool
  width : BitVec 32
  height : BitVec 32
  type : Bool
  format : Option HalFormat
  dataspace : Dataspace
  buffer : Bool
  memory : Memory
  addr : List Nat
  lengths : List Nat
  isProtected : Bool
deriving DecidableEq, Repr

def Image.blank : Image :=
  ⟨false, 0, 0, false, none, .unknown, false, .DMABUF, [], [], false⟩

def Image.setImageDimension (ok : Bool) (c : Image) (width height : BitVec 32) : Image × Bool :=
  if c.dimension && c.width = width && c.height = height then (c, true)
  else if ok then ({ c with width, height, dimension := true }, true)
  else ({ c with dimension := false }, false)

def Image.setImageType (ok : Bool) (c : Image) (format : Option HalFormat) (dataspace : Dataspace) :
    Image × Bool :=
  if c.type && c.format = format && c.dataspace = dataspace then (c, true)
  else if ok then ({ c with format, dataspace, type := true }, true)
  else ({ c with type := false }, false)

def Image.setImageBuffer (ok : Bool) (c : Image) (memory : Memory) (addr lengths : List Nat)
    (isProtected : Bool) : Image × Bool :=
  if ok then ({ c with memory, addr, lengths, isProtected, buffer := true }, true) else (c, false)

def Image.isSettingOkay (c : Image) : Bool := c.type && c.buffer && c.dimension

/-! ### The wrapper -/

/-- The arguments of `exynos_sc_set_src_format` and `exynos_sc_set_dst_format`. -/
structure FormatCall where
  width : BitVec 32
  height : BitVec 32
  crop_left : BitVec 32
  crop_top : BitVec 32
  crop_width : BitVec 32
  crop_height : BitVec 32
  v4l2_colorformat : PixFmt
  mode_drm : Bool
deriving DecidableEq, Repr

/-- `SetCrop`. -/
def FormatCall.rect (c : FormatCall) : HwcRect :=
  ⟨c.crop_left, c.crop_top, c.crop_left + c.crop_width, c.crop_top + c.crop_height⟩

/-- The arguments of `exynos_sc_set_src_addr` and `exynos_sc_set_dst_addr`. -/
structure AddrCall where
  addr : List Nat
  mem_type : Memory
deriving DecidableEq, Repr

/-- The arguments of `exynos_sc_set_rotation`. -/
structure RotationCall where
  rot : Int
  flip_h : Bool
  flip_v : Bool
deriving DecidableEq, Repr

/-- The last accepted call of each kind. -/
structure Asked where
  dataspace : Dataspace
  src : Option FormatCall
  dst : Option FormatCall
  rotation : RotationCall
  srcAddr : Option AddrCall
  dstAddr : Option AddrCall

/-- Where the order of the calls has left something behind. -/
structure History where
  /-- The colour space was changed after the last accepted format of the source. -/
  srcColour : Bool
  dstColour : Bool
  /-- A format of the source was set after its last accepted address. -/
  srcAddr : Bool
  /-- The format of the target or the protection was set after the last accepted address. -/
  dstAddr : Bool
  /-- The last accepted rotation came on top of bits that it does not ask for, asked for a flip
      that the turn has too, or is not written as 0, 90, 180 or 270 degrees. -/
  rotation : Bool

/-- `CScalerAcryl` with its layer and its canvas. -/
structure Session where
  mDRM : Bool
  mColorSpace : Dataspace
  mTransform : BitVec 32
  mSrcInfo : FrameInfo
  mDstInfo : FrameInfo
  layer : Image
  canvas : Image
  mImageRect : HwcRect
  mTargetRect : HwcRect
  mLayerTransform : BitVec 32
  asked : Asked
  history : History

/-- After `exynos_sc_create`. -/
def Session.created : Session where
  mDRM := false
  mColorSpace := .unknown
  mTransform := 0
  mSrcInfo := .zero
  mDstInfo := .zero
  layer := .blank
  canvas := .blank
  mImageRect := ⟨0, 0, 0, 0⟩
  mTargetRect := ⟨0, 0, 0, 0⟩
  mLayerTransform := 0
  asked := ⟨.unknown, none, none, ⟨0, false, false⟩, none, none⟩
  history := ⟨false, false, false, false, false⟩

/-- `SetRotate`. -/
def SetRotate (mTransform : BitVec 32) (rot : Int) (hflip vflip : Bool) : BitVec 32 × Bool :=
  if rot.tmod 90 ≠ 0 then (mTransform, false)
  else
    let t :=
      if rot = 90 then mTransform ||| HAL_TRANSFORM_ROT_90
      else if rot = 180 then mTransform ||| HAL_TRANSFORM_ROT_180
      else if rot = 270 then mTransform ||| HAL_TRANSFORM_ROT_270
      else 0
    let t := if hflip then t ||| HAL_TRANSFORM_FLIP_H else t
    (if vflip then t ||| HAL_TRANSFORM_FLIP_V else t, true)

/-- The turn is written as `SetRotate` compares it, asks for none of the flips again and
    finds no bit that it does not ask for. -/
def turnsAlone (mTransform : BitVec 32) (c : RotationCall) : Bool :=
  let asked := turnBits c.rot ||| flips c.flip_h c.flip_v
  if c.rot = 90 ∨ c.rot = 180 ∨ c.rot = 270 then
    turnBits c.rot &&& flips c.flip_h c.flip_v = 0 && mTransform ||| asked = asked
  else c.rot % 360 = 0

variable (S : Setters) (restriction : Bool)

def exynos_sc_set_csc_property (s : Session) (v4l2_colorspace : Colorspace) : Session × Bool :=
  match v4l2_dataspace_to_hal v4l2_colorspace with
  | none => (s, false)
  | some hal_colorspace =>
      ({ s with
        mColorSpace := hal_colorspace
        asked := { s.asked with dataspace := hal_colorspace }
        history := { s.history with
          srcColour := s.history.srcColour || s.mColorSpace != hal_colorspace
          dstColour := s.history.dstColour || s.mColorSpace != hal_colorspace } }, true)

/-- The two setters that a format call ends with. -/
def setImage (dimensionOk : Bool) (c : Image) (f : FormatCall) (dataspace : Dataspace) :
    Image × Bool × Bool :=
  let d := c.setImageDimension dimensionOk f.width f.height
  if !d.2 then (d.1, false, false)
  else
    let format := v4l2_pixfmt_to_hal f.v4l2_colorformat
    let t := d.1.setImageType (S.type format dataspace) format dataspace
    (t.1, true, t.2)

def exynos_sc_set_src_format (s : Session) (f : FormatCall) : Session × Bool :=
  let info := { s.mSrcInfo with rect := f.rect }
  let r := setImage S (S.layerDimension f.width f.height) s.layer f s.mColorSpace
  let accepted := r.2.2
  ({ s with
    mDRM := f.mode_drm
    mSrcInfo := (SetFormat restriction info f.width f.height f.v4l2_colorformat true).1
    layer := r.1
    mImageRect := if r.2.1 then ⟨0, 0, f.width, f.height⟩ else s.mImageRect
    asked := if accepted then { s.asked with src := some f } else s.asked
    history := { s.history with
      srcColour := s.history.srcColour && !accepted
      srcAddr := true
      dstAddr := s.history.dstAddr || s.mDRM != f.mode_drm } }, accepted)

def exynos_sc_set_dst_format (s : Session) (f : FormatCall) : Session × Bool :=
  let info := { s.mDstInfo with rect := f.rect }
  let r := setImage S (S.canvasDimension f.width f.height) s.canvas f s.mColorSpace
  let accepted := r.2.2
  ({ s with
    mDRM := f.mode_drm
    mDstInfo := (SetFormat restriction info f.width f.height f.v4l2_colorformat false).1
    canvas := r.1
    asked := if accepted then { s.asked with dst := some f } else s.asked
    history := { s.history with
      dstColour := s.history.dstColour && !accepted
      dstAddr := true } }, accepted)

def exynos_sc_set_rotation (s : Session) (c : RotationCall) : Session × Bool :=
  let r := SetRotate s.mTransform c.rot c.flip_h c.flip_v
  if r.2 then
    ({ s with
      mTransform := r.1
      asked := { s.asked with rotation := c }
      history := { s.history with rotation := !turnsAlone s.mTransform c } }, true)
  else (s, false)

/-- Both address calls: the addresses of as many planes as the format has, with their lengths. -/
def setAddr (c : Image) (info : FrameInfo) (a : AddrCall) (isProtected : Bool) : Image × Bool :=
  if a.mem_type = .other then (c, false)
  else
    let addr := a.addr.take info.num_buffers
    c.setImageBuffer (S.buffer a.mem_type addr info.lengths) a.mem_type addr info.lengths isProtected

def exynos_sc_set_src_addr (s : Session) (a : AddrCall) : Session × Bool :=
  let r := setAddr S s.layer s.mSrcInfo a false
  if r.2 then
    ({ s with
      layer := r.1
      asked := { s.asked with srcAddr := some a }
      history := { s.history with srcAddr := false } }, true)
  else (s, false)

def exynos_sc_set_dst_addr (s : Session) (a : AddrCall) : Session × Bool :=
  let r := setAddr S s.canvas s.mDstInfo a s.mDRM
  if r.2 then
    ({ s with
      canvas := r.1
      asked := { s.asked with dstAddr := some a }
      history := { s.history with dstAddr := false } }, true)
  else (s, false)

/-- `setCompositArea`, whose result the caller ignores. -/
def composit (s : Session) : Session :=
  if S.area s.layer.width s.layer.height s.mSrcInfo.rect s.mDstInfo.rect s.mTransform then
    { s with
      mImageRect := s.mSrcInfo.rect
      mTargetRect := s.mDstInfo.rect
      mLayerTransform := s.mTransform }
  else s

/-- `exynos_sc_convert`; `executes` is the answer of the driver. -/
def exynos_sc_convert (s : Session) (executes : Bool) : Session × Bool :=
  let s := composit S s
  (s, s.layer.isSettingOkay && s.canvas.isSettingOkay && executes)

inductive Call where
  | csc (v4l2_colorspace : Colorspace)
  | srcFormat (f : FormatCall)
  | dstFormat (f : FormatCall)
  | rotation (c : RotationCall)
  | srcAddr (a : AddrCall)
  | dstAddr (a : AddrCall)
  | convert (executes : Bool)

/-- A call; the result is true where the library returns 0. -/
def perform (s : Session) : Call → Session × Bool
  | .csc v4l2_colorspace => exynos_sc_set_csc_property s v4l2_colorspace
  | .srcFormat f => exynos_sc_set_src_format S restriction s f
  | .dstFormat f => exynos_sc_set_dst_format S restriction s f
  | .rotation c => exynos_sc_set_rotation s c
  | .srcAddr a => exynos_sc_set_src_addr S s a
  | .dstAddr a => exynos_sc_set_dst_addr S s a
  | .convert executes => exynos_sc_convert S s executes

/-! ### What is to hold -/

/-- One image ran as the last accepted format and address calls asked. -/
structure Image.Shows (c : Image) (f : FormatCall) (a : AddrCall) (dataspace : Dataspace)
    (isSrc : Bool) : Prop where
  size : c.width = f.width ∧ c.height = f.height
  format : c.format = v4l2_pixfmt_to_hal f.v4l2_colorformat
  dataspace : c.dataspace = dataspace
  lengths : planeLengths restriction f.width f.height f.v4l2_colorformat isSrc = some c.lengths
  addr : c.memory = a.mem_type ∧ c.addr = a.addr.take c.lengths.length

/-- The session is set up as the last accepted calls of each kind asked. -/
structure Session.IsAsAsked (s : Session) (src dst : FormatCall) (srcAddr dstAddr : AddrCall) :
    Prop where
  layer : s.layer.Shows restriction src srcAddr s.asked.dataspace true
  canvas : s.canvas.Shows restriction dst dstAddr s.asked.dataspace false
  crops : s.mImageRect = src.rect ∧ s.mTargetRect = dst.rect
  protection : s.canvas.isProtected = src.mode_drm ∧ s.canvas.isProtected = dst.mode_drm
  transform : ∀ p, act s.mLayerTransform p =
    turn s.asked.rotation.rot (flip s.asked.rotation.flip_h s.asked.rotation.flip_v p)

/-- What a call that returns 0 is to establish: a format has plane lengths, and a conversion
    ran as asked. -/
def Keeps (s : Session) : Call → Prop
  | .srcFormat f =>
      (planeLengths restriction f.width f.height f.v4l2_colorformat true).isSome
  | .dstFormat f =>
      (planeLengths restriction f.width f.height f.v4l2_colorformat false).isSome
  | .convert _ => ∃ src ∈ s.asked.src, ∃ dst ∈ s.asked.dst, ∃ srcAddr ∈ s.asked.srcAddr,
      ∃ dstAddr ∈ s.asked.dstAddr, s.IsAsAsked restriction src dst srcAddr dstAddr
  | _ => True

/-- A format that Acryl accepts has plane lengths; and when a conversion starts, the order of
    the calls has left nothing behind, source and target were asked for with the same
    protection, and Acryl accepts the crops with the transform. -/
def Meets (s : Session) : Call → Prop
  | .srcFormat f =>
      (setImage S (S.layerDimension f.width f.height) s.layer f s.mColorSpace).2.2 = true →
        (planeLengths restriction f.width f.height f.v4l2_colorformat true).isSome
  | .dstFormat f =>
      (setImage S (S.canvasDimension f.width f.height) s.canvas f s.mColorSpace).2.2 = true →
        (planeLengths restriction f.width f.height f.v4l2_colorformat false).isSome
  | .convert _ => s.history = ⟨false, false, false, false, false⟩ ∧
      (∀ src ∈ s.asked.src, ∀ dst ∈ s.asked.dst, src.mode_drm = dst.mode_drm) ∧
      S.area s.layer.width s.layer.height s.mSrcInfo.rect s.mDstInfo.rect s.mTransform = true
  | _ => True

/-! ### The setters -/

/-- What the type and dimension setters do not touch. -/
structure Image.SameBuffer (c c' : Image) : Prop where
  buffer : c'.buffer = c.buffer
  memory : c'.memory = c.memory
  addr : c'.addr = c.addr
  lengths : c'.lengths = c.lengths
  isProtected : c'.isProtected = c.isProtected

/-- The image has the size, the format and the colour space of an accepted call. -/
structure Image.HasType (c : Image) (f : FormatCall) (dataspace : Dataspace) : Prop where
  size : c.width = f.width ∧ c.height = f.height
  format : c.format = v4l2_pixfmt_to_hal f.v4l2_colorformat
  dataspace : c.dataspace = dataspace

theorem setImageDimension_spec (ok : Bool) (c : Image) (width height : BitVec 32) :
    let r := c.setImageDimension ok width height
    c.SameBuffer r.1 ∧ r.1.dimension = r.2 ∧
      (r.2 = true → r.1.width = width ∧ r.1.height = height) := by
  unfold Image.setImageDimension
  split
  next hsame =>
    simp only [Bool.and_eq_true, decide_eq_true_eq] at hsame
    exact ⟨⟨rfl, rfl, rfl, rfl, rfl⟩, hsame.1.1, fun _ => ⟨hsame.1.2, hsame.2⟩⟩
  split
  · exact ⟨⟨rfl, rfl, rfl, rfl, rfl⟩, rfl, fun _ => ⟨rfl, rfl⟩⟩
  · exact ⟨⟨rfl, rfl, rfl, rfl, rfl⟩, rfl, fun h => nomatch h⟩

theorem setImageType_spec (ok : Bool) (c : Image) (format : Option HalFormat) (dataspace : Dataspace) :
    let r := c.setImageType ok format dataspace
    c.SameBuffer r.1 ∧ r.1.type = r.2 ∧ r.1.dimension = c.dimension ∧
      r.1.width = c.width ∧ r.1.height = c.height ∧
      (r.2 = true → r.1.format = format ∧ r.1.dataspace = dataspace) := by
  unfold Image.setImageType
  split
  next hsame =>
    simp only [Bool.and_eq_true, decide_eq_true_eq] at hsame
    exact ⟨⟨rfl, rfl, rfl, rfl, rfl⟩, hsame.1.1, rfl, rfl, rfl, fun _ => ⟨hsame.1.2, hsame.2⟩⟩
  split
  · exact ⟨⟨rfl, rfl, rfl, rfl, rfl⟩, rfl, rfl, rfl, rfl, fun _ => ⟨rfl, rfl⟩⟩
  · exact ⟨⟨rfl, rfl, rfl, rfl, rfl⟩, rfl, rfl, rfl, rfl, fun h => nomatch h⟩

/-- **A format call** sets both or leaves the image without one of its mandatory settings. -/
theorem setImage_spec (ok : Bool) (c : Image) (f : FormatCall) (dataspace : Dataspace) :
    let r := setImage S ok c f dataspace
    c.SameBuffer r.1 ∧ (r.1.dimension && r.1.type) = r.2.2 ∧
      (r.2.2 = true → r.1.HasType f dataspace) := by
  have hd := setImageDimension_spec ok c f.width f.height
  unfold setImage
  generalize c.setImageDimension ok f.width f.height = d at hd
  obtain ⟨hdbuf, hddim, hdsize⟩ := hd
  dsimp only
  cases hok : d.2 with
  | false => 
    rw [if_pos (by rfl)]
    refine ⟨hdbuf, ?_, fun h => nomatch h⟩
    rw [hddim, hok]
    rfl
  | true =>
    rw [if_neg (by decide)]
    have ht := setImageType_spec (S.type (v4l2_pixfmt_to_hal f.v4l2_colorformat) dataspace) d.1
      (v4l2_pixfmt_to_hal f.v4l2_colorformat) dataspace
    generalize d.1.setImageType (S.type (v4l2_pixfmt_to_hal f.v4l2_colorformat) dataspace)
      (v4l2_pixfmt_to_hal f.v4l2_colorformat) dataspace = t at ht
    obtain ⟨htbuf, httype, htdim, htw, hth, htset⟩ := ht
    obtain ⟨hw, hh⟩ := hdsize hok
    refine ⟨⟨htbuf.buffer.trans hdbuf.buffer, htbuf.memory.trans hdbuf.memory,
      htbuf.addr.trans hdbuf.addr, htbuf.lengths.trans hdbuf.lengths,
      htbuf.isProtected.trans hdbuf.isProtected⟩, ?_, fun h => ?_⟩
    · dsimp only
      rw [htdim, hddim, hok, httype, Bool.true_and]
    · obtain ⟨hf, hs⟩ := htset h
      exact ⟨⟨htw.trans hw, hth.trans hh⟩, hf, hs⟩

theorem SetRotate_flips (t : BitVec 32) (h v : Bool) :
    (if v then (if h then t ||| HAL_TRANSFORM_FLIP_H else t) ||| HAL_TRANSFORM_FLIP_V
      else if h then t ||| HAL_TRANSFORM_FLIP_H else t) = t ||| flips h v := by
  cases h <;> cases v <;> simp [flips, BitVec.or_assoc]

/-- A turn and flips that it does not have. -/
theorem turnBits_or_flips {rot : Int} (hrot : rot = 90 ∨ rot = 180 ∨ rot = 270) {h v : Bool}
    (hdisjoint : turnBits rot &&& flips h v = 0) :
    turnBits rot ||| flips h v = turnBits rot ^^^ flips h v := by
  rcases hrot with rfl | rfl | rfl <;> revert hdisjoint <;> cases h <;> cases v <;> decide

/-- **`SetRotate`** turns as asked where the turn stands alone. -/
theorem SetRotate_act {mTransform : BitVec 32} {c : RotationCall}
    (hok : (SetRotate mTransform c.rot c.flip_h c.flip_v).2 = true)
    (halone : turnsAlone mTransform c = true) (p : Int × Int) :
    act (SetRotate mTransform c.rot c.flip_h c.flip_v).1 p = turn c.rot (flip c.flip_h c.flip_v p) := by
  obtain ⟨rot, h, v⟩ := c
  unfold SetRotate at hok ⊢
  by_cases hmod : rot.tmod 90 ≠ 0
  · rw [if_pos hmod] at hok
    exact nomatch hok
  have hrot : rot % 90 = 0 := by
    rw [ne_eq, Decidable.not_not] at hmod
    exact Int.emod_eq_zero_of_dvd (Int.dvd_of_tmod_eq_zero hmod)
  rw [if_neg hmod, ← act_turnBits hrot]
  dsimp only
  rw [SetRotate_flips]
  congr 1
  unfold turnsAlone at halone
  dsimp only at halone
  by_cases hturn : rot = 90 ∨ rot = 180 ∨ rot = 270
  · rw [if_pos hturn, Bool.and_eq_true, decide_eq_true_eq, decide_eq_true_eq] at halone
    obtain ⟨hdisjoint, hbits⟩ := halone
    rw [← turnBits_or_flips hturn hdisjoint, ← hbits, ← BitVec.or_assoc]
    congr 1
    rcases hturn with rfl | rfl | rfl <;> rfl
  · rw [if_neg hturn, decide_eq_true_eq] at halone
    rw [not_or, not_or] at hturn
    have hzero : turnBits rot = 0 := by
      unfold turnBits
      rw [halone]
      rfl
    rw [if_neg hturn.1, if_neg hturn.2.1, if_neg hturn.2.2, hzero]
    simp

/-! ### What a session keeps -/

/-- One image against the last accepted calls for it.  `colour` and `addr` tell whether the
    colour space or the lengths were left behind. -/
structure Image.Follows (c : Image) (info : FrameInfo) (f : Option FormatCall) (a : Option AddrCall)
    (dataspace : Dataspace) (isSrc colour addr : Bool) : Prop where
  /-- A format call that is refused leaves the image without one of its settings. -/
  type : (c.dimension && c.type) = true → ∃ g ∈ f, (c.width = g.width ∧ c.height = g.height) ∧
    c.format = v4l2_pixfmt_to_hal g.v4l2_colorformat ∧ (colour = false → c.dataspace = dataspace) ∧
    info.rect = g.rect ∧
    planeLengths restriction g.width g.height g.v4l2_colorformat isSrc = some info.lengths
  buffer : c.buffer = true → ∃ b ∈ a, c.memory = b.mem_type ∧
    (addr = false → c.lengths = info.lengths ∧ c.addr = b.addr.take info.num_buffers)

structure Session.Follows (s : Session) : Prop where
  colour : s.mColorSpace = s.asked.dataspace
  src : s.layer.Follows restriction s.mSrcInfo s.asked.src s.asked.srcAddr s.asked.dataspace true
    s.history.srcColour s.history.srcAddr
  dst : s.canvas.Follows restriction s.mDstInfo s.asked.dst s.asked.dstAddr s.asked.dataspace false
    s.history.dstColour s.history.dstAddr
  /-- The protection is that of the last format call; it was refused, or it is one of the two. -/
  drm : ((s.layer.dimension && s.layer.type) = true → ∃ f ∈ s.asked.src, s.mDRM = f.mode_drm) ∨
    ((s.canvas.dimension && s.canvas.type) = true → ∃ f ∈ s.asked.dst, s.mDRM = f.mode_drm)
  isProtected : s.canvas.buffer = true → s.history.dstAddr = false → s.canvas.isProtected = s.mDRM
  rotation : s.history.rotation = false → ∀ p, act s.mTransform p =
    turn s.asked.rotation.rot (flip s.asked.rotation.flip_h s.asked.rotation.flip_v p)

variable {S restriction}
variable {s : Session}

theorem created_follows : Session.created.Follows restriction where
  colour := rfl
  src := ⟨(fun h => nomatch h), (fun h => nomatch h)⟩
  dst := ⟨(fun h => nomatch h), (fun h => nomatch h)⟩
  drm := .inl fun h => nomatch h
  isProtected := fun h => nomatch h
  rotation := fun _ p => by simp [Session.created, act, turn, HalTransform.flip, hFlip, vFlip, rotates]

theorem Image.Follows.newColour {c : Image} {info : FrameInfo} {f : Option FormatCall}
    {a : Option AddrCall} {old : Dataspace} {isSrc colour addr : Bool}
    (h : c.Follows restriction info f a old isSrc colour addr) (new : Dataspace) :
    c.Follows restriction info f a new isSrc (colour || old != new) addr where
  type := fun ht => by
    obtain ⟨g, hg, hsize, hformat, hspace, hrect, hlen⟩ := h.type ht
    refine ⟨g, hg, hsize, hformat, fun hkept => ?_, hrect, hlen⟩
    rw [Bool.or_eq_false_iff, bne_eq_false_iff_eq] at hkept
    exact (hspace hkept.1).trans hkept.2
  buffer := h.buffer

theorem csc_follows (h : s.Follows restriction) (v4l2_colorspace : Colorspace) :
    (exynos_sc_set_csc_property s v4l2_colorspace).1.Follows restriction := by
  unfold exynos_sc_set_csc_property
  cases v4l2_dataspace_to_hal v4l2_colorspace with
  | none => exact h
  | some hal =>
    have hsrc := h.src.newColour hal
    have hdst := h.dst.newColour hal
    rw [← h.colour] at hsrc hdst
    exact ⟨rfl, hsrc, hdst, h.drm, h.isProtected, h.rotation⟩

/-- A format call for one image; the lengths left behind by the address are marked. -/
theorem Image.Follows.setImage {c : Image} {info : FrameInfo} {f : Option FormatCall}
    {a : Option AddrCall} {dataspace : Dataspace} {isSrc colour addr : Bool}
    (h : c.Follows restriction info f a dataspace isSrc colour addr) (ok : Bool) (g : FormatCall)
    (hlen : (ScalerSession.setImage S ok c g dataspace).2.2 = true →
      (planeLengths restriction g.width g.height g.v4l2_colorformat isSrc).isSome) :
    let r := ScalerSession.setImage S ok c g dataspace
    r.1.Follows restriction
      (SetFormat restriction { info with rect := g.rect } g.width g.height g.v4l2_colorformat isSrc).1
      (if r.2.2 then some g else f) a dataspace isSrc (colour && !r.2.2) true := by
  have hspec := setImage_spec S ok c g dataspace
  generalize ScalerSession.setImage S ok c g dataspace = r at hspec hlen
  obtain ⟨hbuf, hset, htype⟩ := hspec
  constructor
  · intro hboth
    have hok : r.2.2 = true := hset.symm.trans hboth
    obtain ⟨hsize, hformat, hspace⟩ := htype hok
    have hl := hlen hok
    rw [SetFormat_lengths restriction { info with rect := g.rect }] at hl
    refine ⟨g, ?_, hsize, hformat, fun _ => hspace, SetFormat_rect .., ?_⟩
    · rw [if_pos hok]
      rfl
    · rw [SetFormat_lengths restriction { info with rect := g.rect }]
      split at hl
      next hdone => rw [if_pos hdone]
      next => exact nomatch hl
  · intro hb
    obtain ⟨b, hmem, hmemory, -⟩ := h.buffer (hbuf.buffer.symm.trans hb)
    exact ⟨b, hmem, hbuf.memory.trans hmemory, fun hn => nomatch hn⟩

/-- Marking the lengths as left behind loses nothing else. -/
theorem Image.Follows.weaken {c : Image} {info : FrameInfo} {f : Option FormatCall}
    {a : Option AddrCall} {dataspace : Dataspace} {isSrc colour addr more : Bool}
    (h : c.Follows restriction info f a dataspace isSrc colour addr) :
    c.Follows restriction info f a dataspace isSrc colour (addr || more) where
  type := h.type
  buffer := fun hb => by
    obtain ⟨b, hmem, hmemory, hlen⟩ := h.buffer hb
    exact ⟨b, hmem, hmemory, fun hn => hlen (Bool.or_eq_false_iff.mp hn).1⟩

theorem srcFormat_follows (h : s.Follows restriction) (f : FormatCall)
    (hmeets : Meets S restriction s (.srcFormat f)) :
    (exynos_sc_set_src_format S restriction s f).1.Follows restriction := by
  have hsrc := h.src
  rw [← h.colour] at hsrc
  have hsrc := hsrc.setImage (S.layerDimension f.width f.height) f hmeets
  have hspec := setImage_spec S (S.layerDimension f.width f.height) s.layer f s.mColorSpace
  unfold exynos_sc_set_src_format
  generalize setImage S (S.layerDimension f.width f.height) s.layer f s.mColorSpace = r at hsrc hspec
  obtain ⟨-, hset, -⟩ := hspec
  dsimp only
  have hasked : ∀ b : Bool, (if b then { s.asked with src := some f } else s.asked) =
      { s.asked with src := if b then some f else s.asked.src } := fun b => by cases b <;> rfl
  rw [hasked]
  refine ⟨h.colour, ?_, h.dst.weaken, ?_, ?_, h.rotation⟩
  · rw [h.colour] at hsrc
    exact hsrc
  · refine .inl fun hboth => ⟨f, ?_, rfl⟩
    rw [if_pos (hset.symm.trans hboth)]
    rfl
  · intro hb hkept
    obtain ⟨hkept, hdrm⟩ := Bool.or_eq_false_iff.mp hkept
    rw [bne_eq_false_iff_eq] at hdrm
    exact (h.isProtected hb hkept).trans hdrm

theorem dstFormat_follows (h : s.Follows restriction) (f : FormatCall)
    (hmeets : Meets S restriction s (.dstFormat f)) :
    (exynos_sc_set_dst_format S restriction s f).1.Follows restriction := by
  have hdst := h.dst
  rw [← h.colour] at hdst
  have hdst := hdst.setImage (S.canvasDimension f.width f.height) f hmeets
  have hspec := setImage_spec S (S.canvasDimension f.width f.height) s.canvas f s.mColorSpace
  unfold exynos_sc_set_dst_format
  generalize setImage S (S.canvasDimension f.width f.height) s.canvas f s.mColorSpace = r at hdst hspec
  obtain ⟨-, hset, -⟩ := hspec
  dsimp only
  have hasked : ∀ b : Bool, (if b then { s.asked with dst := some f } else s.asked) =
      { s.asked with dst := if b then some f else s.asked.dst } := fun b => by cases b <;> rfl
  rw [hasked]
  refine ⟨h.colour, h.src, ?_, ?_, (fun _ hkept => nomatch hkept), h.rotation⟩
  · rw [h.colour] at hdst
    exact hdst
  · refine .inr fun hboth => ⟨f, ?_, rfl⟩
    rw [if_pos (hset.symm.trans hboth)]
    rfl

theorem rotation_follows (h : s.Follows restriction) (c : RotationCall) :
    (exynos_sc_set_rotation s c).1.Follows restriction := by
  unfold exynos_sc_set_rotation
  dsimp only
  split
  next hok =>
    refine ⟨h.colour, h.src, h.dst, h.drm, h.isProtected, fun halone p => ?_⟩
    rw [Bool.not_eq_false'] at halone
    exact SetRotate_act hok halone p
  next => exact h

theorem Image.Follows.setAddr {c : Image} {info : FrameInfo} {f : Option FormatCall}
    {a : Option AddrCall} {dataspace : Dataspace} {isSrc colour addr : Bool}
    (h : c.Follows restriction info f a dataspace isSrc colour addr) {b : AddrCall} {prot : Bool}
    (hok : (ScalerSession.setAddr S c info b prot).2 = true) :
    let r := ScalerSession.setAddr S c info b prot
    r.1.Follows restriction info f (some b) dataspace isSrc colour false ∧
      r.1.isProtected = prot ∧ (r.1.dimension && r.1.type) = (c.dimension && c.type) := by
  unfold ScalerSession.setAddr Image.setImageBuffer at hok ⊢
  split at hok
  · exact nomatch hok
  next hmem =>
  rw [if_neg hmem]
  dsimp only at hok ⊢
  split at hok
  next hbuf =>
    rw [if_pos hbuf]
    exact ⟨⟨h.type, fun _ => ⟨b, rfl, rfl, fun _ => ⟨rfl, rfl⟩⟩⟩, rfl, rfl⟩
  next => exact nomatch hok

theorem srcAddr_follows (h : s.Follows restriction) (a : AddrCall) :
    (exynos_sc_set_src_addr S s a).1.Follows restriction := by
  unfold exynos_sc_set_src_addr
  dsimp only
  split
  next hok =>
    obtain ⟨hsrc, -, hset⟩ := h.src.setAddr hok
    refine ⟨h.colour, hsrc, h.dst, ?_, h.isProtected, h.rotation⟩
    dsimp only
    rw [hset]
    exact h.drm
  next => exact h

theorem dstAddr_follows (h : s.Follows restriction) (a : AddrCall) :
    (exynos_sc_set_dst_addr S s a).1.Follows restriction := by
  unfold exynos_sc_set_dst_addr
  dsimp only
  split
  next hok =>
    obtain ⟨hdst, hprot, hset⟩ := h.dst.setAddr hok
    refine ⟨h.colour, h.src, hdst, ?_, fun _ _ => hprot, h.rotation⟩
    dsimp only
    rw [hset]
    exact h.drm
  next => exact h

theorem convert_follows (h : s.Follows restriction) (executes : Bool) :
    (exynos_sc_convert S s executes).1.Follows restriction := by
  unfold exynos_sc_convert composit
  dsimp only
  split
  · exact ⟨h.colour, h.src, h.dst, h.drm, h.isProtected, h.rotation⟩
  · exact h

/-- **Every call** that meets the condition. -/
theorem perform_follows (h : s.Follows restriction) {call : Call}
    (hmeets : Meets S restriction s call) : (perform S restriction s call).1.Follows restriction := by
  cases call with
  | csc v4l2_colorspace => exact csc_follows h v4l2_colorspace
  | srcFormat f => exact srcFormat_follows h f hmeets
  | dstFormat f => exact dstFormat_follows h f hmeets
  | rotation c => exact rotation_follows h c
  | srcAddr a => exact srcAddr_follows h a
  | dstAddr a => exact dstAddr_follows h a
  | convert executes => exact convert_follows h executes

/-! ### Conversions -/

/-- An image that nothing was left behind of shows what was asked for. -/
theorem Image.Follows.shows {c : Image} {info : FrameInfo} {f : Option FormatCall}
    {a : Option AddrCall} {dataspace : Dataspace} {isSrc : Bool}
    (h : c.Follows restriction info f a dataspace isSrc false false) (hokay : c.isSettingOkay = true) :
    ∃ g ∈ f, ∃ b ∈ a, c.Shows restriction g b dataspace isSrc ∧ info.rect = g.rect := by
  simp only [Image.isSettingOkay, Bool.and_eq_true] at hokay
  obtain ⟨⟨htype, hbuffer⟩, hdim⟩ := hokay
  obtain ⟨g, hg, hsize, hformat, hspace, hrect, hlen⟩ := h.type (by rw [hdim, htype]; rfl)
  obtain ⟨b, hb, hmemory, hkept⟩ := h.buffer hbuffer
  obtain ⟨hlengths, haddr⟩ := hkept rfl
  refine ⟨g, hg, b, hb, ⟨hsize, hformat, hspace rfl, ?_, hmemory, ?_⟩, hrect⟩
  · rw [hlengths]
    exact hlen
  · rw [haddr, hlengths]
    simp [FrameInfo.lengths]

theorem convert_keeps (h : s.Follows restriction) {executes : Bool}
    (hmeets : Meets S restriction s (.convert executes))
    (hok : (exynos_sc_convert S s executes).2 = true) :
    Keeps restriction (exynos_sc_convert S s executes).1 (.convert executes) := by
  obtain ⟨hhistory, hdrm, harea⟩ := hmeets
  have hstate : composit S s = { s with
      mImageRect := s.mSrcInfo.rect
      mTargetRect := s.mDstInfo.rect
      mLayerTransform := s.mTransform } := if_pos harea
  unfold exynos_sc_convert at hok ⊢
  rw [hstate] at hok ⊢
  simp only [Bool.and_eq_true] at hok
  obtain ⟨⟨hlayer, hcanvas⟩, -⟩ := hok
  have hsrc := h.src
  have hdst := h.dst
  rw [hhistory] at hsrc hdst
  obtain ⟨src, hsrcmem, srcAddr, hsrcaddr, hshows, hsrcrect⟩ := hsrc.shows hlayer
  obtain ⟨dst, hdstmem, dstAddr, hdstaddr, hcanvasShows, hdstrect⟩ := hdst.shows hcanvas
  have hprot : s.canvas.isProtected = src.mode_drm ∧ s.canvas.isProtected = dst.mode_drm := by
    simp only [Image.isSettingOkay, Bool.and_eq_true] at hlayer hcanvas
    have hkept := h.isProtected hcanvas.1.2 (by rw [hhistory])
    have hsame := hdrm src hsrcmem dst hdstmem
    rcases h.drm with hlast | hlast
    · obtain ⟨f, hf, hlast⟩ := hlast (by rw [hlayer.2, hlayer.1.1]; rfl)
      have : f = src := Option.mem_unique hf hsrcmem
      subst this
      exact ⟨hkept.trans hlast, (hkept.trans hlast).trans hsame⟩
    · obtain ⟨f, hf, hlast⟩ := hlast (by rw [hcanvas.2, hcanvas.1.1]; rfl)
      have : f = dst := Option.mem_unique hf hdstmem
      subst this
      exact ⟨(hkept.trans hlast).trans hsame.symm, hkept.trans hlast⟩
  exact ⟨src, hsrcmem, dst, hdstmem, srcAddr, hsrcaddr, dstAddr, hdstaddr, hshows, hcanvasShows,
    ⟨hsrcrect, hdstrect⟩, hprot, h.rotation (by rw [hhistory])⟩

/-- **A session of the scaler.**  In every run whose calls meet the condition, whatever Acryl
    accepts, a format call that returns 0 has plane lengths and a conversion that returns 0
    ran as the last accepted calls of each kind asked. -/
theorem session_run (S : Setters) (restriction : Bool) (s : Session)
    (hrun : Reachable (· = Session.created)
      (guarded (Meets S restriction) (ofFun fun s call => (perform S restriction s call).1)) s)
    (call : Call) (hmeets : Meets S restriction s call)
    (hok : (perform S restriction s call).2 = true) :
    Keeps restriction (perform S restriction s call).1 call := by
  have hfollows : s.Follows restriction := by
    refine hrun.invariant (fun s hs => hs ▸ created_follows) fun s call s' hs hstep => ?_
    rw [hstep.2]
    exact perform_follows hs hstep.1
  cases call with
  | csc _ => trivial
  | srcFormat f => exact hmeets hok
  | dstFormat f => exact hmeets hok
  | rotation _ => trivial
  | srcAddr _ => trivial
  | dstAddr _ => trivial
  | convert executes => exact convert_keeps hfollows hmeets hok

/-! ### Two sessions -/

def accepting : Setters := ⟨fun _ _ => true, fun _ _ => true, fun _ _ => true, fun _ _ _ => true,
  fun _ _ _ _ _ => true⟩

def square : FormatCall := ⟨64, 64, 0, 0, 64, 64, .RGB32, false⟩

/-- A conversion of 64x64 pixels is set up but for its rotation. -/
def setUp : Session :=
  [Call.csc .REC709, .srcFormat square, .dstFormat square, .srcAddr ⟨[4096], .DMABUF⟩,
    .dstAddr ⟨[8192], .DMABUF⟩].foldl (fun s call => (perform accepting false s call).1) .created

def turned (s : Session) (rot : Int) : Session := (exynos_sc_set_rotation s ⟨rot, false, false⟩).1

theorem setUp_turned_keeps :
    Keeps false (exynos_sc_convert accepting (turned setUp 90) true).1 (.convert true) := by
  have hrun : Reachable (· = Session.created) (guarded (Meets accepting false)
      (ofFun fun s call => (perform accepting false s call).1)) (turned setUp 90) :=
    .next (a := .rotation ⟨90, false, false⟩) (.next (a := .dstAddr ⟨[8192], .DMABUF⟩)
      (.next (a := .srcAddr ⟨[4096], .DMABUF⟩) (.next (a := .dstFormat square)
        (.next (a := .srcFormat square) (.next (a := .csc .REC709) (.start rfl) ⟨trivial, rfl⟩)
          ⟨fun _ => by decide, rfl⟩) ⟨fun _ => by decide, rfl⟩) ⟨trivial, rfl⟩) ⟨trivial, rfl⟩)
      ⟨trivial, rfl⟩
  refine session_run accepting false (turned setUp 90) hrun (.convert true) ⟨rfl, ?_, rfl⟩ (by decide)
  intro src hsrc dst hdst
  cases hsrc
  cases hdst
  rfl

/-- Half a turn asked for after a quarter is carried out as three quarters, and a format without
    plane lengths is accepted. -/
theorem half_after_quarter :
    ((exynos_sc_convert accepting (turned (turned setUp 90) 180) true).2 = true ∧
      ¬Keeps false (exynos_sc_convert accepting (turned (turned setUp 90) 180) true).1
        (.convert true)) ∧
    ((exynos_sc_set_src_format accepting false setUp { square with v4l2_colorformat := .NV12N }).2 =
        true ∧
      ¬Keeps false setUp (.srcFormat { square with v4l2_colorformat := .NV12N })) := by
  refine ⟨⟨by decide, ?_⟩, by decide,
    fun h : (planeLengths false 64 64 .NV12N true).isSome = true => absurd h (by decide)⟩
  rintro ⟨src, -, dst, -, srcAddr, -, dstAddr, -, h⟩
  have := h.transform (1, 0)
  revert this
  decide

end ExynosHal.ScalerSession
