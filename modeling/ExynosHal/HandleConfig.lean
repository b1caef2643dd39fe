/-
  ExynosHal/HandleConfig.lean
  ===========================
  **The window config of a layer.**

  `configureHandle` of `libhwc2.1/display/ExynosDisplay.cpp` with
  `ExynosMPP::getDstImageInfo`.  The display frame is cut off at the four edges of the
  screen; the part of the image is limited and aligned as the channel asks.  Both happen on
  `uint32_t`, one axis like the other, so there is one definition for an axis.

  Every step says whether an unsigned addition or subtraction wrapped.  A conversion from
  `float` outside the range of the integer type is undefined; then there is no config.
-/
import ExynosHal.OverlayCrop

namespace ExynosHal.HandleConfig

open ExynosHal.WindowConfig
open ExynosHal.MppSupport (ExynosImage ExynosMPP RestrictionClass RestrictionSize)
open ExynosHal.OverlayCrop (Buffer pixelAlign pixelAlignDown toInt32 Aligned NO_ERROR EINVAL
  COMP_TYPE_NONE DPP_COMP_SRC_GPU toInt32_of_range)
open ExynosHal.WindowUpdate (INT_MAX toUInt32)

/-! ### Arithmetic -/

/-- The conversion of a `float` drops the fraction. -/
def trunc (q : Rat) : Int := q.num.tdiv q.den

def IsInt (i : Int) : Prop := -2 ^ 31 ≤ i ∧ i ≤ INT_MAX

instance (i : Int) : Decidable (IsInt i) := inferInstanceAs (Decidable (_ ∧ _))

/-! ### Data -/

/-- The entries of a row that `configureHandle` passes on as `int`. -/
structure EntriesFit (r : RestrictionSize) : Prop where
  maxFullWidth : (r.maxFullWidth.toNat : Int) ≤ INT_MAX
  maxFullHeight : (r.maxFullHeight.toNat : Int) ≤ INT_MAX
  fullWidthAlign : (r.fullWidthAlign.toNat : Int) ≤ INT_MAX
  fullHeightAlign : (r.fullHeightAlign.toNat : Int) ≤ INT_MAX
  cropXAlign : (r.cropXAlign.toNat : Int) ≤ INT_MAX
  cropYAlign : (r.cropYAlign.toNat : Int) ≤ INT_MAX

structure OtfMPP where
  id : Nat
  mpp : ExynosMPP
  mLutParcelFd : Int
  vOtfEnable : Bool
  vOtfBufIndex : Nat
  entries : ∀ c, EntriesFit (mpp.mSrcSizeRestrictions c)

/-- An image of a layer: what the channel looks at, and the rest. -/
structure LayerImage where
  image : ExynosImage
  dataSpace : Nat
  hasHdrInfo : Bool
  /-- `exynosFormat.bufferNum()`. -/
  bufferNum : Nat

structure Screen where
  mXres : Nat
  mYres : Nat
  xres_le : (mXres : Int) ≤ INT_MAX
  yres_le : (mYres : Int) ≤ INT_MAX

/-- The M2M MPP of a layer with the current one of its destination images.  `first` is the
    first of `1 + others` assigned sources: its destination and its middle image. -/
structure M2mMPP where
  /-- The screen of the assigned display, if there is one. -/
  mAssignedDisplayInfo : Option Screen
  bufferHandle : Option Buffer
  format : Nat
  acrylicAcquireFenceFd : Int
  dataspace : Nat
  mMaxSrcLayerNum : Nat
  first : ExynosImage × ExynosImage
  others : Nat

inductive CompositionType where
  | CLIENT
  | DEVICE
  | SOLID_COLOR
  | CURSOR
  | SIDEBAND
  | EXYNOS
deriving DecidableEq, Repr

structure HwcColor where
  r : BitVec 8
  g : BitVec 8
  b : BitVec 8
  a : BitVec 8
deriving DecidableEq, Repr

/-- A layer; `displayFrame` and `sourceCrop` are the preprocessed ones. -/
structure Layer where
  id : Nat
  isDimLayer : Bool
  displayFrame : Rect Int
  sourceCrop : Rect Rat
  /-- `mPrivateFormat`, if it is used. -/
  privateFormat : Option Nat
  mLayerFormat : Nat
  mLayerBuffer : Option Buffer
  mCompressionInfo : CompressionInfo
  mBlending : Int
  mPlaneAlpha : Rat
  mColor : HwcColor
  mExynosCompositionType : CompositionType
  mCompositionType : CompositionType
  mSrcImg : LayerImage
  mMidImg : LayerImage
  mMetaParcelFd : Int
  getMetaParcel : Option Nat
  mOtfMPP : Option OtfMPP
  mM2mMPP : Option M2mMPP

/-- The format descriptions, the alignment of the chip, the colour conversion and the
    fence tracer. -/
structure Platform where
  defaultMppDstFormat : MppSupport.ExynosFormat
  getM2mDstAlign : Nat → Nat
  bpp : Nat → Nat
  formatToBpp : Nat → Nat
  isFormatLossy : Nat → Bool
  getBufferNumOfFormat : Nat → Nat
  setColorConversionInfo : OtfMPP → Int
  checkFenceDebug : Int → Int

/-- What is written, and whether an operation on the way wrapped. -/
structure Outcome where
  ret : Int
  config : WinConfig
  wrapped : Bool

/-! ### The destination -/

/-- One axis of the destination. -/
structure Clip where
  offset : Nat
  size : Nat
  wrapped : Bool
deriving DecidableEq, Repr

def clipFirst (first last : Int) : Clip :=
  let w := toUInt32 (last - first)
  if first < 0 then
    let crop := toUInt32 (-first)
    ⟨0, toUInt32 (w - crop), decide (w < crop)⟩
  else ⟨toUInt32 first, w, false⟩

def clipLast (last : Int) (res : Nat) (c : Clip) : Clip :=
  if last > toInt32 res then
    let crop := toUInt32 (last - res)
    { c with size := toUInt32 (c.size - crop), wrapped := c.wrapped || decide (c.size < crop) }
  else c

/-- The part of a display frame between 0 and `res`. -/
def clipSide (first last : Int) (res : Nat) : Clip := clipLast last res (clipFirst first last)

def Layer.dst (l : Layer) (s : Screen) : Clip × Clip :=
  (clipSide l.displayFrame.left l.displayFrame.right s.mXres,
    clipSide l.displayFrame.top l.displayFrame.bottom s.mYres)

/-! ### The source -/

/-- What the channel asks of one axis of a source. -/
structure SideLimits where
  maxFull : Nat
  fullAlign : Nat
  offsetAlign : Nat
  maxCrop : Nat
  cropAlign : Nat
deriving DecidableEq, Repr

def OtfMPP.limitsX (m : OtfMPP) (img : ExynosImage) : SideLimits where
  maxFull := (m.mpp.getSrcMaxWidth img).toNat
  fullAlign := (m.mpp.getSrcWidthAlign img).toNat
  offsetAlign := (m.mpp.getSrcXOffsetAlign img).toNat
  maxCrop := (m.mpp.getSrcMaxCropWidth img).toNat
  cropAlign := (m.mpp.getSrcCropWidthAlign img).toNat

def OtfMPP.limitsY (m : OtfMPP) (img : ExynosImage) : SideLimits where
  maxFull := (m.mpp.getSrcMaxHeight img).toNat
  fullAlign := (m.mpp.getSrcHeightAlign img).toNat
  offsetAlign := (m.mpp.getSrcYOffsetAlign img).toNat
  maxCrop := (m.mpp.getSrcMaxCropHeight img).toNat
  cropAlign := (m.mpp.getSrcCropHeightAlign img).toNat

/-- One axis of a source. -/
structure Side where
  x : Int
  w : Nat
  full : Nat
  wrapped : Bool
deriving DecidableEq, Repr

/-- From the crop of a layer.  The edge is converted to `int` and to `unsigned int`. -/
def cropSide (first last : Rat) (full : Nat) : Option Side :=
  if IsInt (trunc first) ∧ 0 ≤ trunc first ∧ IsInt (trunc (last - first)) then
    let x := trunc first
    let moved := toUInt32 (toUInt32 x - toUInt32 (trunc first))
    some
      { x := x
        w := toUInt32 (toUInt32 (trunc (last - first)) - moved)
        full := full
        wrapped := decide (toUInt32 x < toUInt32 (trunc first)) ||
          decide (toUInt32 (trunc (last - first)) < moved) }
  else none

/-- The `exynos_image` of `getDstImageInfo`. -/
structure DstImage where
  fullWidth : Nat
  fullHeight : Nat
  x : Nat
  y : Nat
  w : Nat
  h : Nat
  exynosFormat : Nat
  acquireFenceFd : Int
  dataSpace : Nat
deriving DecidableEq, Repr

def ofImage (full : Nat × Nat) (m : M2mMPP) (img : ExynosImage) : DstImage :=
  ⟨full.1, full.2, img.x.toNat, img.y.toNat, img.w.toNat, img.h.toNat, m.format,
    m.acrylicAcquireFenceFd, m.dataspace⟩

def M2mMPP.getDstImageInfo (m : M2mMPP) (p : Platform) : Option DstImage :=
  match m.mAssignedDisplayInfo, m.bufferHandle with
  | some info, some _ =>
      let align := p.getM2mDstAlign m.format
      let full := (toUInt32 (pixelAlign (toInt32 info.mXres) (toInt32 align)),
        toUInt32 (pixelAlign (toInt32 info.mYres) (toInt32 align)))
      some <|
        if m.mMaxSrcLayerNum > 1 then
          if m.others = 0 then ofImage full m m.first.1
          else
            ⟨full.1, full.2, 0, 0, info.mXres, info.mYres, m.format, m.acrylicAcquireFenceFd,
              m.dataspace⟩
        else ofImage full m m.first.2
  | _, _ => none

/-- The width up to the end of the image, and whether an operation wrapped. -/
def cutSide (x w full : Nat) : Nat × Bool :=
  let beyond := decide (toUInt32 (x + w) > full)
  (if beyond then toUInt32 (full - x) else w,
    decide (2 ^ 32 ≤ x + w) || (beyond && decide (full < x)))

/-- The offset is rounded up. -/
def adjustOffset (l : SideLimits) (x : Int) : Int :=
  pixelAlign (if x < 0 then 0 else x) (toInt32 l.offsetAlign)

/-- The side of the image is limited and rounded down. -/
def adjustFull (l : SideLimits) (full : Nat) : Nat :=
  let full := if full > l.maxFull then l.maxFull else full
  toUInt32 (pixelAlignDown (toInt32 full) (toInt32 l.fullAlign))

/-- And so is the width. -/
def adjustWidth (l : SideLimits) (w : Nat) : Nat :=
  let w := if w > l.maxCrop then l.maxCrop else w
  toUInt32 (pixelAlignDown (toInt32 w) (toInt32 l.cropAlign))

/-- `Adjust configuration`, for one axis. -/
def adjustSide (l : SideLimits) (s : Side) : Side :=
  let x := adjustOffset l s.x
  let full := adjustFull l s.full
  let cut := cutSide (toUInt32 x) s.w full
  { x := x
    w := adjustWidth l cut.1
    full := full
    wrapped := s.wrapped || cut.2 }

/-! ### The config -/

namespace Layer

variable (l : Layer)

def handle : Option Buffer :=
  match l.mM2mMPP with
  | some m => m.bufferHandle
  | none => l.mLayerBuffer

/-- The image whose restrictions count. -/
def srcImg : LayerImage :=
  match l.mM2mMPP with
  | some _ => l.mMidImg
  | none => l.mSrcImg

/-- The source before the adjustment.  Without information about the destination image the
    config keeps the one it has. -/
def sides (p : Platform) (cfg : WinConfig) : Option (Side × Side) :=
  match l.mM2mMPP with
  | some m =>
      match m.getDstImageInfo p with
      | some img => some (⟨toInt32 img.x, img.w, img.fullWidth, false⟩,
          ⟨toInt32 img.y, img.h, img.fullHeight, false⟩)
      | none => some (⟨cfg.src.x, cfg.src.w, cfg.src.f_w, false⟩,
          ⟨cfg.src.y, cfg.src.h, cfg.src.f_h, false⟩)
  | none =>
      (cropSide l.sourceCrop.left l.sourceCrop.right l.mSrcImg.image.fullWidth.toNat).bind fun x =>
        (cropSide l.sourceCrop.top l.sourceCrop.bottom l.mSrcImg.image.fullHeight.toNat).map
          fun y => (x, y)

def dstFrame (s : Screen) : DeconFrame :=
  ⟨(l.dst s).1.offset, (l.dst s).2.offset, (l.dst s).1.size, (l.dst s).2.size, s.mXres, s.mYres⟩

def dstWrapped (s : Screen) : Bool := (l.dst s).1.wrapped || (l.dst s).2.wrapped

def srcFrame (otf : OtfMPP) (x y : Side) : DeconFrame :=
  let x := adjustSide (otf.limitsX l.srcImg.image) x
  let y := adjustSide (otf.limitsY l.srcImg.image) y
  ⟨x.x, y.x, x.w, y.w, x.full, y.full⟩

def srcWrapped (otf : OtfMPP) (x y : Side) : Bool :=
  (adjustSide (otf.limitsX l.srcImg.image) x).wrapped ||
    (adjustSide (otf.limitsY l.srcImg.image) y).wrapped

/-- What is set for every layer. -/
def configureOwner (cfg : WinConfig) : WinConfig :=
  { cfg with
    owner := some l.id
    compressionInfo := l.mCompressionInfo
    compSrc := if l.mCompressionInfo.type ≠ COMP_TYPE_NONE then DPP_COMP_SRC_GPU else cfg.compSrc }

/-- The part up to the buffer. -/
def configureWindow (s : Screen) (otf : OtfMPP) (cfg : WinConfig) : WinConfig :=
  { cfg with
    state :=
      if l.mExynosCompositionType = .DEVICE ∧ l.mCompositionType = .CURSOR then .cursor
      else .buffer
    dst := l.dstFrame s
    planeAlpha := l.mPlaneAlpha
    blending := l.mBlending
    assignedMPP := some otf.id }

/-- `(color.a << 24) | (color.r << 16) | (color.g << 8) | color.b`. -/
def color : Nat := (l.mColor.a ++ l.mColor.r ++ l.mColor.g ++ l.mColor.b).toNat

def configureBuffer (gmeta : Buffer) (cfg : WinConfig) : WinConfig :=
  { cfg with
    format := l.privateFormat.getD l.mLayerFormat
    fd_idma := (gmeta.fd, gmeta.fd1, gmeta.fd2)
    bufferId := gmeta.bufferId
    protection := gmeta.secure }

/-- The descriptor of the metadata takes the place after the buffer's planes. -/
def configureHdr (img : LayerImage) (planes : Nat) (hdrException : Bool) (cfg : WinConfig) :
    WinConfig :=
  if img.hasHdrInfo then
    let cfg := { cfg with hdrEnable := !hdrException }
    if planes > 0 ∧ l.mMetaParcelFd ≥ 0 then
      { cfg with
        fd_idma :=
          match planes with
          | 1 => (cfg.fd_idma.1, l.mMetaParcelFd, cfg.fd_idma.2.2)
          | 2 => (cfg.fd_idma.1, cfg.fd_idma.2.1, l.mMetaParcelFd)
          | _ => cfg.fd_idma
        metaParcel := l.getMetaParcel }
    else cfg
  else { cfg with hdrEnable := true }

/-- Fence, format, dataspace and transform go with the image that is read. -/
def configureImage (p : Platform) (gmeta : Buffer) (fence_fd : Int) (hdrException : Bool)
    (cfg : WinConfig) : WinConfig :=
  match l.mM2mMPP with
  | some m =>
      let cfg :=
        match m.getDstImageInfo p with
        | some img =>
            { cfg with
              format := img.exynosFormat
              acq_fence := p.checkFenceDebug img.acquireFenceFd
              dataspace := img.dataSpace }
        | none => { cfg with dataspace := 0 }
      l.configureHdr l.mMidImg l.mMidImg.bufferNum hdrException { cfg with transform := 0 }
  | none =>
      l.configureHdr l.mSrcImg (p.getBufferNumOfFormat gmeta.format) hdrException
        { cfg with
          acq_fence := p.checkFenceDebug fence_fd
          dataspace := l.mSrcImg.dataSpace
          transform := l.mSrcImg.image.transform.toNat }

def configureSource (otf : OtfMPP) (x y : Side) (cfg : WinConfig) : WinConfig :=
  { cfg with
    vOtfEnable := otf.vOtfEnable
    vOtfBufIndex := otf.vOtfBufIndex
    src := l.srcFrame otf x y }

end Layer

def bufferTooSmall (p : Platform) (gmeta : Buffer) (config : WinConfig) : Bool :=
  !p.isFormatLossy gmeta.format &&
    decide (gmeta.size * p.formatToBpp gmeta.format % 2 ^ 64 <
      config.src.f_w * config.src.f_h * p.bpp config.format % 2 ^ 64)

/-- The check of the buffer's size and the look-up table. -/
def finishConfig (p : Platform) (otf : OtfMPP) (gmeta : Buffer) (wrapped : Bool)
    (cfg : WinConfig) : Outcome :=
  if bufferTooSmall p gmeta cfg then ⟨-EINVAL, cfg, wrapped⟩
  else if p.setColorConversionInfo otf = NO_ERROR then
    ⟨NO_ERROR, { cfg with fd_lut := otf.mLutParcelFd }, wrapped⟩
  else ⟨NO_ERROR, cfg, wrapped⟩

/-- `configureHandle`; none where a conversion is undefined. -/
def configureHandle (p : Platform) (s : Screen) (layer : Layer) (fence_fd : Int) (cfg : WinConfig)
    (hdrException : Bool) : Option Outcome :=
  let cfg := layer.configureOwner cfg
  match layer.mOtfMPP with
  | none => some ⟨-EINVAL, cfg, false⟩
  | some otf =>
      if layer.isDimLayer then
        some ⟨NO_ERROR,
          { layer.configureWindow s otf cfg with state := .color, color := layer.color },
          layer.dstWrapped s⟩
      else
        match layer.handle with
        | none => some ⟨-EINVAL, cfg, false⟩
        | some gmeta =>
            let cfg := layer.configureBuffer gmeta (layer.configureWindow s otf cfg)
            (layer.sides p cfg).map fun (x, y) =>
              finishConfig p otf gmeta (layer.dstWrapped s || layer.srcWrapped otf x y)
                (layer.configureSource otf x y
                  (layer.configureImage p gmeta fence_fd hdrException cfg))

/-! ### What is promised -/

/-- `setDstExynosImage`, as far as the capability check looks at it. -/
def Layer.dstImage (p : Platform) (s : Screen) (l : Layer) : ExynosImage where
  fullWidth := UInt32.ofNat s.mXres
  fullHeight := UInt32.ofNat s.mYres
  x := UInt32.ofNat (toUInt32 l.displayFrame.left)
  y := UInt32.ofNat (toUInt32 l.displayFrame.top)
  w := UInt32.ofNat (toUInt32 (l.displayFrame.right - l.displayFrame.left))
  h := UInt32.ofNat (toUInt32 (l.displayFrame.bottom - l.displayFrame.top))
  exynosFormat := p.defaultMppDstFormat
  drmMode := l.mSrcImg.image.drmMode
  isDimLayer := l.isDimLayer
  transform := l.mSrcImg.image.transform
  needColorTransform := false

/-- The layer has passed the check of its channel and has what it needs for it: an image in
    a buffer, unless it is a dim layer, and a display for the M2M MPP. -/
structure Accepted (p : Platform) (s : Screen) (l : Layer) (otf : OtfMPP) : Prop where
  channel : l.mOtfMPP = some otf
  supported : otf.mpp.isSupported l.srcImg.image (l.dstImage p s) = some NO_ERROR
  handle : l.isDimLayer = false → l.handle ≠ none
  assigned : ∀ m, l.mM2mMPP = some m → m.mAssignedDisplayInfo ≠ none
  dim : l.srcImg.image.isDimLayer = l.isDimLayer
  left : IsInt l.displayFrame.left
  top : IsInt l.displayFrame.top
  right : IsInt l.displayFrame.right
  bottom : IsInt l.displayFrame.bottom
  /-- `setSrcExynosImage`. -/
  srcX : l.mM2mMPP = none → l.mSrcImg.image.x.toNat = toUInt32 (trunc l.sourceCrop.left)
  srcY : l.mM2mMPP = none → l.mSrcImg.image.y.toNat = toUInt32 (trunc l.sourceCrop.top)

/-- One axis of the destination: the part of the frame on the screen, not empty. -/
structure SideOnScreen (first last : Int) (res : Nat) (offset : Int) (size : Nat) : Prop where
  first : offset = max first 0
  last : offset + size = min last res
  one_le : 1 ≤ size

/-- One axis of the source is in the image, and the image in the buffer. -/
structure SideInBuffer (buffer : Nat) (x : Int) (w full : Nat) : Prop where
  first : 0 ≤ x
  last : x + w ≤ full
  full_le : full ≤ buffer

/-- The sides of the buffer that is read. -/
def Layer.bufferSides (p : Platform) (l : Layer) : Nat × Nat :=
  match l.mM2mMPP with
  | some m => ((m.getDstImageInfo p).map fun img => (img.fullWidth, img.fullHeight)).getD (0, 0)
  | none => (l.mSrcImg.image.fullWidth.toNat, l.mSrcImg.image.fullHeight.toNat)

/-- What is written is right, and no unsigned operation wrapped. -/
structure Outcome.Right (p : Platform) (s : Screen) (l : Layer) (o : Outcome) : Prop where
  wrapped : o.wrapped = false
  dstX : SideOnScreen l.displayFrame.left l.displayFrame.right s.mXres o.config.dst.x o.config.dst.w
  dstY : SideOnScreen l.displayFrame.top l.displayFrame.bottom s.mYres o.config.dst.y o.config.dst.h
  srcX : l.isDimLayer = false →
    SideInBuffer (l.bufferSides p).1 o.config.src.x o.config.src.w o.config.src.f_w
  srcY : l.isDimLayer = false →
    SideInBuffer (l.bufferSides p).2 o.config.src.y o.config.src.h o.config.src.f_h

/-! ### When it is kept -/

/-- Between the first pixel of a crop and the end of the part of the buffer that the
    channel reads there is room for an aligned offset in an aligned image, and offset and
    width together are an `unsigned int`. -/
def StartsInside (l : SideLimits) (x : Int) (w full : Nat) : Prop :=
  ∃ offset stop : Nat, x ≤ offset ∧ offset ≤ stop ∧ stop ≤ full ∧ stop ≤ l.maxFull ∧
    Aligned l.offsetAlign offset ∧ Aligned l.fullAlign stop ∧ offset + w < 2 ^ 32

/-- The edge and the length of a crop are integers of the types they are converted to. -/
def Convertible (first last : Rat) : Prop :=
  IsInt (trunc first) ∧ 0 ≤ trunc first ∧ IsInt (trunc (last - first))

/-- The frame has a pixel on the screen. -/
def Overlaps (s : Screen) (frame : Rect Int) : Prop :=
  max frame.left 0 < min frame.right s.mXres ∧ max frame.top 0 < min frame.bottom s.mYres

def CropFits (l : SideLimits) (first last : Rat) (full : Nat) : Prop :=
  Convertible first last ∧ StartsInside l (trunc first) (toUInt32 (trunc (last - first))) full

/-- The part of the image that is asked for begins inside the buffer, on both axes. -/
def Layer.SourceFits (p : Platform) (l : Layer) (otf : OtfMPP) : Prop :=
  match l.mM2mMPP with
  | some m => ∀ img, m.getDstImageInfo p = some img →
      StartsInside (otf.limitsX l.mMidImg.image) (toInt32 img.x) img.w img.fullWidth ∧
        StartsInside (otf.limitsY l.mMidImg.image) (toInt32 img.y) img.h img.fullHeight
  | none =>
      CropFits (otf.limitsX l.mSrcImg.image) l.sourceCrop.left l.sourceCrop.right
          l.mSrcImg.image.fullWidth.toNat ∧
        CropFits (otf.limitsY l.mSrcImg.image) l.sourceCrop.top l.sourceCrop.bottom
          l.mSrcImg.image.fullHeight.toNat

/-! ### One axis -/

section Arithmetic

theorem toUInt32_lt (i : Int) : toUInt32 i < 2 ^ 32 := by
  unfold toUInt32
  omega

theorem toUInt32_of_lt {i : Int} (h0 : 0 ≤ i) (h : i < 2 ^ 32) : (toUInt32 i : Int) = i := by
  unfold toUInt32
  omega

/-- Rounding down gives the largest multiple. -/
theorem pixelAlignDown_greatest {x : Int} {a : Nat} (hx : 0 ≤ x) {g : Int} (hg : Aligned a g)
    (hle : g ≤ x) : g ≤ pixelAlignDown x a := by
  unfold pixelAlignDown
  split
  · rename_i h
    obtain ⟨ha, -⟩ := h
    have hpos : 0 < (a : Int) := by omega
    have hmod := Int.tmod_eq_emod_of_nonneg (b := (a : Int)) hx
    obtain ⟨k, rfl⟩ := hg (Int.natCast_ne_zero.mp ha)
    have hdiv : k ≤ x / a := by
      rw [Int.le_ediv_iff_mul_le hpos, Int.mul_comm]
      exact hle
    have hmul : (a : Int) * k ≤ a * (x / a) := Int.mul_le_mul_of_nonneg_left hdiv hpos.le
    have hsum := Int.mul_ediv_add_emod x a
    rw [hmod]
    omega
  · exact hle

/-- Rounding up gives the smallest multiple. -/
theorem roundUp_least {x : Int} {a : Nat} (hx : 0 ≤ x) {e : Int} (he : Aligned a e) (hle : x ≤ e) :
    OverlayCrop.roundUp x a ≤ e := by
  unfold OverlayCrop.roundUp
  split
  · rename_i h
    obtain ⟨ha, hne⟩ := h
    have hpos : 0 < (a : Int) := by omega
    have hmod := Int.tmod_eq_emod_of_nonneg (b := (a : Int)) hx
    rw [hmod] at hne ⊢
    obtain ⟨k, rfl⟩ := he (Int.natCast_ne_zero.mp ha)
    have hsum := Int.mul_ediv_add_emod x a
    have hlt : x / a < k := by
      apply Decidable.byContradiction
      intro hk
      have hmul : (a : Int) * k ≤ a * (x / a) :=
        Int.mul_le_mul_of_nonneg_left (Int.not_lt.mp hk) hpos.le
      have hnonneg := Int.emod_nonneg x hpos.ne'
      omega
    have hmul : (a : Int) * (x / a + 1) ≤ a * k := Int.mul_le_mul_of_nonneg_left hlt hpos.le
    rw [Int.mul_add, Int.mul_one] at hmul
    omega
  · exact hle

end Arithmetic

section Destination

variable {first last : Int} {res : Nat}

theorem clipFirst_of_lt (hfirst : IsInt first) (hlast : IsInt last) (h0 : 0 < last)
    (hlt : first < last) :
    clipFirst first last = ⟨(max first 0).toNat, (last - max first 0).toNat, false⟩ := by
  obtain ⟨hf1, hf2⟩ := hfirst
  obtain ⟨hl1, hl2⟩ := hlast
  unfold INT_MAX at *
  have hw : (toUInt32 (last - first) : Int) = last - first :=
    toUInt32_of_lt (by omega) (by omega)
  unfold clipFirst
  by_cases hneg : first < 0
  · have hcrop : (toUInt32 (-first) : Int) = -first := toUInt32_of_lt (by omega) (by omega)
    have hsize : (toUInt32 (last - first - -first) : Int) = last :=
      (toUInt32_of_lt (by omega) (by omega)).trans (by omega)
    rw [if_pos hneg, max_eq_right hneg.le, Int.sub_zero]
    simp only [Clip.mk.injEq, decide_eq_false_iff_not]
    refine ⟨rfl, ?_, ?_⟩
    · rw [hw, hcrop]
      omega
    · omega
  · have hx : (toUInt32 first : Int) = first := toUInt32_of_lt (by omega) (by omega)
    rw [if_neg hneg, max_eq_left (Int.not_lt.mp hneg)]
    simp only [Clip.mk.injEq, and_true]
    constructor
    · omega
    · omega

theorem clipLast_of_lt (hlast : last ≤ INT_MAX) (hres : (res : Int) ≤ INT_MAX) {offset : Nat}
    (hlt : (offset : Int) < last) (hon : offset < res) :
    clipLast last res ⟨offset, (last - offset).toNat, false⟩ =
      ⟨offset, (min last res - offset).toNat, false⟩ := by
  have hres' : toInt32 res = res := toInt32_of_range (by omega) hres
  unfold INT_MAX at *
  unfold clipLast
  rw [hres']
  by_cases hout : (res : Int) < last
  · have hcrop : (toUInt32 (last - res) : Int) = last - res := toUInt32_of_lt (by omega) (by omega)
    have hsize : (toUInt32 ((last - offset).toNat - (last - res)) : Int) = res - offset :=
      (toUInt32_of_lt (by omega) (by omega)).trans (by omega)
    rw [if_pos hout, min_eq_right hout.le]
    simp only [Clip.mk.injEq, Bool.false_or, decide_eq_false_iff_not, true_and]
    constructor
    · rw [hcrop]
      omega
    · omega
  · rw [if_neg hout, min_eq_left (Int.not_lt.mp hout)]

/-- **The destination.**  One axis is right exactly when the frame has a pixel on the
    screen. -/
theorem clipSide_right_iff (hfirst : IsInt first) (hlast : IsInt last)
    (hres : (res : Int) ≤ INT_MAX) :
    ((clipSide first last res).wrapped = false ∧
        SideOnScreen first last res (clipSide first last res).offset
          (clipSide first last res).size) ↔
      max first 0 < min last res := by
  constructor
  · rintro ⟨-, hx, hright, hw⟩
    omega
  · intro h
    obtain ⟨h1, h2⟩ := lt_min_iff.mp h
    obtain ⟨hf, h0⟩ := max_lt_iff.mp h1
    have hnat : ((max first 0).toNat : Int) = max first 0 :=
      Int.toNat_of_nonneg (le_max_right _ _)
    have hclip : clipSide first last res =
        ⟨(max first 0).toNat, (min last res - max first 0).toNat, false⟩ := by
      unfold clipSide
      rw [clipFirst_of_lt hfirst hlast h0 hf, ← hnat]
      rw [Int.toNat_natCast]
      apply clipLast_of_lt hlast.right hres
      · rw [hnat]
        exact h1
      · omega
    rw [hclip]
    refine ⟨rfl, hnat, ?_, ?_⟩
    · show ((max first 0).toNat : Int) + (min last res - max first 0).toNat = _
      omega
    · show 1 ≤ (min last res - max first 0).toNat
      omega

end Destination

section Source

variable {l : SideLimits}

/-- The adjusted full side is the largest aligned one in the buffer and the table. -/
theorem adjustFull_eq (hmax : (l.maxFull : Int) ≤ INT_MAX) (halign : (l.fullAlign : Int) ≤ INT_MAX)
    (full : Nat) :
    (adjustFull l full : Int) = pixelAlignDown (min full l.maxFull : Nat) l.fullAlign := by
  have hmin : (if full > l.maxFull then l.maxFull else full) = min full l.maxFull := by
    split <;> omega
  have hrange : ((min full l.maxFull : Nat) : Int) ≤ INT_MAX :=
    (Int.ofNat_le.mpr (min_le_right _ _)).trans hmax
  have h32 : toInt32 ((min full l.maxFull : Nat) : Int) = (min full l.maxFull : Nat) :=
    toInt32_of_range (by omega) hrange
  have halign' : toInt32 (l.fullAlign : Int) = l.fullAlign := toInt32_of_range (by omega) halign
  obtain ⟨h0, hle⟩ := OverlayCrop.pixelAlignDown_of_nonneg (x := (min full l.maxFull : Nat))
    (Int.natCast_nonneg l.fullAlign) (Int.natCast_nonneg _)
  unfold adjustFull
  simp only [hmin, h32, halign']
  apply toUInt32_of_lt h0
  unfold INT_MAX at hrange
  omega

/-- Where the offset does not leave the `int`s, it is rounded up. -/
theorem adjustOffset_eq {x : Int} (hx : IsInt x) (halign : (l.offsetAlign : Int) ≤ INT_MAX)
    (h : 0 ≤ adjustOffset l x ∨ OverlayCrop.roundUp (max x 0) l.offsetAlign ≤ INT_MAX) :
    adjustOffset l x = OverlayCrop.roundUp (max x 0) l.offsetAlign := by
  have hpos : (if x < 0 then 0 else x) = max x 0 := by
    split <;> omega
  have halign' : toInt32 (l.offsetAlign : Int) = l.offsetAlign :=
    toInt32_of_range (by omega) halign
  have hbounds := OverlayCrop.roundUp_bounds (x := max x 0) (Int.natCast_nonneg l.offsetAlign)
  have hle : max x 0 ≤ INT_MAX := max_le hx.right (by decide)
  unfold adjustOffset at h ⊢
  rw [hpos, halign'] at h ⊢
  unfold pixelAlign OverlayCrop.roundUp at *
  split
  · rename_i hne
    rw [if_pos hne] at h hbounds
    rw [if_pos hne] at h
    rcases h with h | h
    · unfold toInt32 INT_MAX at *
      omega
    · exact toInt32_of_range (by omega) h
  · rfl

theorem pixelAlignDown_neg_align (x a : Int) : pixelAlignDown x (-a) = pixelAlignDown x a := by
  unfold pixelAlignDown
  simp only [Int.tmod_neg, ne_eq, Int.neg_eq_zero]

/-- Rounding down does not make a width longer, whatever its `int` is. -/
theorem toUInt32_pixelAlignDown_le {w : Nat} (hw : w < 2 ^ 32) (a : Int) :
    toUInt32 (pixelAlignDown (toInt32 w) a) ≤ w := by
  have hnonneg : ∀ b : Int, 0 ≤ b → toUInt32 (pixelAlignDown (toInt32 w) b) ≤ w := by
    intro b hb
    rcases Int.lt_or_le (toInt32 w) 0 with hneg | hpos
    · rcases OverlayCrop.pixelAlignDown_of_neg hb hneg with hd | hd
      · rw [hd]
        unfold toUInt32 toInt32 at *
        omega
      · rw [hd]
        exact Nat.zero_le w
    · obtain ⟨h0, hle⟩ := OverlayCrop.pixelAlignDown_of_nonneg hb hpos
      unfold toUInt32
      unfold toInt32 at *
      omega
  rcases Int.le_total 0 a with ha | ha
  · exact hnonneg a ha
  · rw [← pixelAlignDown_neg_align]
    exact hnonneg (-a) (Int.neg_nonneg_of_nonpos ha)

theorem adjustWidth_le {w : Nat} (hw : w < 2 ^ 32) : adjustWidth l w ≤ w := by
  have hmin : (if w > l.maxCrop then l.maxCrop else w) ≤ w := by
    split <;> omega
  unfold adjustWidth
  exact (toUInt32_pixelAlignDown_le (hmin.trans_lt hw) _).trans hmin

theorem cutSide_wrapped {x w full : Nat} :
    (cutSide x w full).2 = false ↔ x ≤ full ∧ x + w < 2 ^ 32 := by
  unfold cutSide
  simp only [Bool.or_eq_false_iff, decide_eq_false_iff_not, Bool.and_eq_false_iff]
  constructor
  · rintro ⟨hsum, hcut⟩
    have hsum' : (toUInt32 ((x : Int) + w) : Int) = x + w := toUInt32_of_lt (by omega) (by omega)
    constructor
    · rcases hcut with hcut | hcut
      · omega
      · exact Nat.not_lt.mp hcut
    · omega
  · rintro ⟨hx, hsum⟩
    constructor
    · omega
    · right
      omega

/-- The width that is left behind the offset. -/
theorem cutSide_le {x w full : Nat} (hfull : full < 2 ^ 32) (h : (cutSide x w full).2 = false) :
    x + (cutSide x w full).1 ≤ full := by
  obtain ⟨hx, hsum⟩ := cutSide_wrapped.mp h
  have hsum' : (toUInt32 ((x : Int) + w) : Int) = x + w := toUInt32_of_lt (by omega) (by omega)
  have hsub : (toUInt32 ((full : Int) - x) : Int) = full - x :=
    toUInt32_of_lt (by omega) (by omega)
  unfold cutSide
  dsimp only
  split
  · omega
  · rename_i hbeyond
    have := of_decide_eq_false (Bool.not_eq_true _ ▸ hbeyond)
    omega

/-- Whether an aligned offset and an aligned stop exist is decided by the first and the
    last one. -/
theorem startsInside_iff {x : Int} {w full : Nat} :
    StartsInside l x w full ↔
      OverlayCrop.roundUp (max x 0) l.offsetAlign ≤
          pixelAlignDown (min full l.maxFull : Nat) l.fullAlign ∧
        OverlayCrop.roundUp (max x 0) l.offsetAlign + w < 2 ^ 32 := by
  have hupper := (OverlayCrop.roundUp_bounds (x := max x 0)
    (Int.natCast_nonneg l.offsetAlign)).left
  obtain ⟨hdown0, hdown⟩ := OverlayCrop.pixelAlignDown_of_nonneg (x := (min full l.maxFull : Nat))
    (Int.natCast_nonneg l.fullAlign) (Int.natCast_nonneg _)
  have halignUp := OverlayCrop.aligned_roundUp (x := max x 0) (a := l.offsetAlign)
  have halignDown := OverlayCrop.aligned_pixelAlignDown (x := (min full l.maxFull : Nat))
    (a := l.fullAlign)
  constructor
  · rintro ⟨offset, stop, hstart, hle, hbuffer, htable, hoff, hstop, hsum⟩
    have hleast := roundUp_least (le_max_right x 0) hoff (max_le hstart (Int.natCast_nonneg _))
    have hgreatest := pixelAlignDown_greatest (x := (min full l.maxFull : Nat))
      (Int.natCast_nonneg _) hstop (by omega)
    constructor
    · omega
    · omega
  · generalize OverlayCrop.roundUp (max x 0) l.offsetAlign = up at *
    generalize pixelAlignDown (min full l.maxFull : Nat) l.fullAlign = down at *
    rintro ⟨hle, hsum⟩
    obtain ⟨offset, rfl⟩ := Int.eq_ofNat_of_zero_le ((le_max_right x 0).trans hupper)
    obtain ⟨stop, rfl⟩ := Int.eq_ofNat_of_zero_le hdown0
    exact ⟨offset, stop, (le_max_left x 0).trans hupper, by omega, by omega, by omega, halignUp,
      halignDown, by omega⟩

/-- **The source.**  One axis is right exactly when the part that is asked for begins in
    the buffer. -/
theorem adjustSide_right_iff {s : Side} (hx : IsInt s.x) (hw : s.w < 2 ^ 32)
    (hwrapped : s.wrapped = false) (hmax : (l.maxFull : Int) ≤ INT_MAX)
    (hfull : (l.fullAlign : Int) ≤ INT_MAX) (hoffset : (l.offsetAlign : Int) ≤ INT_MAX) :
    ((adjustSide l s).wrapped = false ∧
        SideInBuffer s.full (adjustSide l s).x (adjustSide l s).w (adjustSide l s).full) ↔
      StartsInside l s.x s.w s.full := by
  have hdown := adjustFull_eq hmax hfull s.full
  have hup := adjustOffset_eq hx hoffset
  obtain ⟨hdown0, hdownLe⟩ := OverlayCrop.pixelAlignDown_of_nonneg
    (x := (min s.full l.maxFull : Nat)) (Int.natCast_nonneg l.fullAlign) (Int.natCast_nonneg _)
  have hupper := (OverlayCrop.roundUp_bounds (x := max s.x 0)
    (Int.natCast_nonneg l.offsetAlign)).left
  have hup0 := (le_max_right s.x 0).trans hupper
  rw [startsInside_iff]
  unfold adjustSide
  dsimp only
  rw [hwrapped, Bool.false_or]
  rw [← hdown] at hdown0 hdownLe ⊢
  generalize adjustFull l s.full = full at *
  generalize OverlayCrop.roundUp (max s.x 0) l.offsetAlign = up at *
  generalize adjustOffset l s.x = x at *
  have hfull32 : full < 2 ^ 32 := by
    unfold INT_MAX at hmax
    omega
  constructor
  · rintro ⟨hcut, h0, hlast, -⟩
    obtain ⟨hle, hsum⟩ := cutSide_wrapped.mp hcut
    obtain rfl := hup (Or.inl h0)
    have hnat : (toUInt32 x : Int) = x := by
      apply toUInt32_of_lt h0
      omega
    constructor
    · omega
    · omega
  · rintro ⟨hle, hsum⟩
    obtain rfl := hup (Or.inr (by omega))
    have hnat : (toUInt32 x : Int) = x := toUInt32_of_lt hup0 (by omega)
    have hcut : (cutSide (toUInt32 x) s.w full).2 = false := by
      apply cutSide_wrapped.mpr
      constructor
      · omega
      · omega
    have hend := cutSide_le hfull32 hcut
    generalize cutSide (toUInt32 x) s.w full = cut at *
    have hwidth := adjustWidth_le (l := l) (w := cut.1) (by omega)
    refine ⟨hcut, hup0, ?_, ?_⟩
    · omega
    · omega

end Source

/-! ### The calls -/

theorem cropSide_eq {first last : Rat} {full : Nat} (h : Convertible first last) :
    cropSide first last full =
      some ⟨trunc first, toUInt32 (trunc (last - first)), full, false⟩ := by
  have hlt := toUInt32_lt (trunc (last - first))
  have h0 : toUInt32 ((toUInt32 (trunc first) : Int) - toUInt32 (trunc first)) = 0 := by
    rw [Int.sub_self]
    rfl
  have hw : toUInt32 ((toUInt32 (trunc (last - first)) : Int) - (0 : Nat)) =
      toUInt32 (trunc (last - first)) := by
    have := toUInt32_of_lt (i := (toUInt32 (trunc (last - first)) : Int) - (0 : Nat))
      (by omega) (by omega)
    omega
  unfold Convertible at h
  unfold cropSide
  rw [if_pos h]
  simp only [h0, hw, Nat.lt_irrefl, Nat.not_lt_zero, decide_false, Bool.or_false]

theorem cropSide_eq_none {first last : Rat} {full : Nat} (h : ¬ Convertible first last) :
    cropSide first last full = none := by
  unfold Convertible at h
  unfold cropSide
  rw [if_neg h]

section Limits

variable (m : OtfMPP) (img : ExynosImage)

theorem limitsX_fit : ((m.limitsX img).maxFull : Int) ≤ INT_MAX ∧
    ((m.limitsX img).fullAlign : Int) ≤ INT_MAX ∧ ((m.limitsX img).offsetAlign : Int) ≤ INT_MAX :=
  have h := m.entries (MppSupport.getRestrictionClassification img)
  ⟨h.maxFullWidth, h.fullWidthAlign, h.cropXAlign⟩

theorem limitsY_fit : ((m.limitsY img).maxFull : Int) ≤ INT_MAX ∧
    ((m.limitsY img).fullAlign : Int) ≤ INT_MAX ∧ ((m.limitsY img).offsetAlign : Int) ≤ INT_MAX :=
  have h := m.entries (MppSupport.getRestrictionClassification img)
  ⟨h.maxFullHeight, h.fullHeightAlign, h.cropYAlign⟩

end Limits

section Writes

variable {p : Platform} {s : Screen} {l : Layer} {otf : OtfMPP} {x y : Side} {cfg : WinConfig}
  {hdrException : Bool} {fence_fd : Int}

@[simp] theorem configureHdr_dst {img : LayerImage} {planes : Nat} :
    (l.configureHdr img planes hdrException cfg).dst = cfg.dst := by
  unfold Layer.configureHdr
  split
  · split <;> rfl
  · rfl

@[simp] theorem configureImage_dst {gmeta : Buffer} :
    (l.configureImage p gmeta fence_fd hdrException cfg).dst = cfg.dst := by
  unfold Layer.configureImage
  split
  · rw [configureHdr_dst]
    split <;> rfl
  · rw [configureHdr_dst]

theorem configureSource_dst : (l.configureSource otf x y cfg).dst = cfg.dst := by
  unfold Layer.configureSource
  rfl

theorem finishConfig_eq (otf : OtfMPP) (cfg : WinConfig) (gmeta : Buffer) (wrapped : Bool) :
    (finishConfig p otf gmeta wrapped cfg).wrapped = wrapped ∧
      (finishConfig p otf gmeta wrapped cfg).config.dst = cfg.dst ∧
      (finishConfig p otf gmeta wrapped cfg).config.src = cfg.src := by
  unfold finishConfig
  split
  · exact ⟨rfl, rfl, rfl⟩
  · split
    · exact ⟨rfl, rfl, rfl⟩
    · exact ⟨rfl, rfl, rfl⟩

theorem configureHandle_dim (hotf : l.mOtfMPP = some otf) (hdim : l.isDimLayer = true) :
    ∃ o, configureHandle p s l fence_fd cfg hdrException = some o ∧
      o.wrapped = l.dstWrapped s ∧ o.config.dst = l.dstFrame s := by
  unfold configureHandle
  rw [hotf, hdim]
  exact ⟨_, rfl, rfl, rfl⟩

theorem configureHandle_buffer (hotf : l.mOtfMPP = some otf) (hdim : l.isDimLayer = false)
    (hhandle : l.handle ≠ none) (hsides : ∀ cfg, l.sides p cfg = some (x, y)) :
    ∃ o, configureHandle p s l fence_fd cfg hdrException = some o ∧
      o.wrapped = (l.dstWrapped s || l.srcWrapped otf x y) ∧
      o.config.dst = l.dstFrame s ∧ o.config.src = l.srcFrame otf x y := by
  obtain ⟨gmeta, hgmeta⟩ := Option.ne_none_iff_exists'.mp hhandle
  unfold configureHandle
  simp only [hotf, hdim, hgmeta, hsides, Option.map_some, Bool.false_eq_true, if_false]
  refine ⟨_, rfl, ?_⟩
  obtain ⟨hwrapped, hdst, hsrc⟩ := finishConfig_eq (p := p) otf
    (l.configureSource otf x y (l.configureImage p gmeta fence_fd hdrException
      (l.configureBuffer gmeta (l.configureWindow s otf (l.configureOwner cfg)))))
    gmeta (l.dstWrapped s || l.srcWrapped otf x y)
  refine ⟨hwrapped, ?_, ?_⟩
  · rw [hdst, configureSource_dst, configureImage_dst]
    rfl
  · rw [hsrc]
    rfl

theorem configureHandle_none (hotf : l.mOtfMPP = some otf) (hdim : l.isDimLayer = false)
    (hhandle : l.handle ≠ none) (hsides : ∀ cfg, l.sides p cfg = none) :
    configureHandle p s l fence_fd cfg hdrException = none := by
  obtain ⟨gmeta, hgmeta⟩ := Option.ne_none_iff_exists'.mp hhandle
  unfold configureHandle
  simp only [hotf, hdim, hgmeta, hsides, Option.map_none, Bool.false_eq_true, if_false]

end Writes

/-! ### Crops inside a buffer -/

theorem trunc_of_nonneg {q : Rat} (h : 0 ≤ q) : trunc q = q.floor := by
  unfold trunc
  rw [Rat.floor_def, Int.tdiv_eq_ediv_of_nonneg (Rat.num_nonneg.mpr h)]

theorem cropFits_of_mem {l : SideLimits} {first last : Rat} {full : Nat} (h0 : 0 ≤ first)
    (hle : first ≤ last) (hlast : last ≤ full) (hmax : full ≤ l.maxFull)
    (hint : (l.maxFull : Int) ≤ INT_MAX) (halign : l.fullAlign ∣ full)
    (hoffset : l.offsetAlign ∣ toUInt32 (trunc first)) : CropFits l first last full := by
  have hfirst := trunc_of_nonneg h0
  have hlength := trunc_of_nonneg (sub_nonneg.mpr hle)
  have hf0 : 0 ≤ first.floor := Rat.le_floor_iff.mpr h0
  have hl0 : 0 ≤ (last - first).floor := Rat.le_floor_iff.mpr (sub_nonneg.mpr hle)
  have hfull : ((full : Int) : Rat).floor = full := Rat.floor_intCast full
  have hf : first.floor ≤ full := by
    rw [← hfull]
    exact Rat.floor_monotone (hle.trans hlast)
  have hl : (last - first).floor ≤ full := by
    rw [← hfull]
    apply Rat.floor_monotone
    exact (sub_le_self last h0).trans hlast
  unfold CropFits Convertible IsInt
  rw [hfirst] at hoffset ⊢
  rw [hlength]
  have hx : (toUInt32 first.floor : Int) = first.floor := by
    apply toUInt32_of_lt hf0
    unfold INT_MAX at hint
    omega
  have hw : (toUInt32 (last - first).floor : Int) = (last - first).floor := by
    apply toUInt32_of_lt hl0
    unfold INT_MAX at hint
    omega
  refine ⟨⟨⟨by omega, by omega⟩, hf0, by omega, by omega⟩, toUInt32 first.floor, full, by omega,
    by omega, Nat.le_refl full, hmax, ?_, ?_, ?_⟩
  · intro _
    exact Int.natCast_dvd_natCast.mpr hoffset
  · intro _
    exact Int.natCast_dvd_natCast.mpr halign
  · unfold INT_MAX at hint
    omega

/-! ### The config of an accepted layer -/

theorem isInt_toInt32 (i : Int) : IsInt (toInt32 i) := by
  unfold IsInt toInt32 INT_MAX
  omega

theorem getDstImageInfo_lt {p : Platform} {m : M2mMPP} {img : DstImage}
    (h : m.getDstImageInfo p = some img) : img.w < 2 ^ 32 ∧ img.h < 2 ^ 32 := by
  unfold M2mMPP.getDstImageInfo at h
  split at h
  · rename_i info _ _ _
    obtain rfl := Option.some.inj h
    have hx := info.xres_le
    have hy := info.yres_le
    unfold INT_MAX at hx hy
    dsimp only
    split
    · split
      · exact ⟨UInt32.toNat_lt _, UInt32.toNat_lt _⟩
      · exact ⟨by dsimp only; omega, by dsimp only; omega⟩
    · exact ⟨UInt32.toNat_lt _, UInt32.toNat_lt _⟩
  · cases h

section Layers

variable {p : Platform} {s : Screen} {l : Layer} {otf : OtfMPP} {cfg : WinConfig}
  {hdrException : Bool} {fence_fd : Int}

/-- Both axes of the destination. -/
theorem dst_right_iff (h : Accepted p s l otf) :
    (l.dstWrapped s = false ∧
        SideOnScreen l.displayFrame.left l.displayFrame.right s.mXres (l.dstFrame s).x
          (l.dstFrame s).w ∧
        SideOnScreen l.displayFrame.top l.displayFrame.bottom s.mYres (l.dstFrame s).y
          (l.dstFrame s).h) ↔ Overlaps s l.displayFrame := by
  have hx := clipSide_right_iff h.left h.right s.xres_le
  have hy := clipSide_right_iff h.top h.bottom s.yres_le
  unfold Layer.dstWrapped
  rw [Bool.or_eq_false_iff]
  constructor
  · rintro ⟨⟨hwx, hwy⟩, hdx, hdy⟩
    exact ⟨hx.mp ⟨hwx, hdx⟩, hy.mp ⟨hwy, hdy⟩⟩
  · rintro ⟨hox, hoy⟩
    obtain ⟨hwx, hdx⟩ := hx.mpr hox
    obtain ⟨hwy, hdy⟩ := hy.mpr hoy
    exact ⟨⟨hwx, hwy⟩, hdx, hdy⟩

/-- Both axes of the source. -/
theorem src_right_iff {x y : Side} (hx : IsInt x.x ∧ x.w < 2 ^ 32 ∧ x.wrapped = false)
    (hy : IsInt y.x ∧ y.w < 2 ^ 32 ∧ y.wrapped = false) :
    (l.srcWrapped otf x y = false ∧
        SideInBuffer x.full (l.srcFrame otf x y).x (l.srcFrame otf x y).w
          (l.srcFrame otf x y).f_w ∧
        SideInBuffer y.full (l.srcFrame otf x y).y (l.srcFrame otf x y).h
          (l.srcFrame otf x y).f_h) ↔
      StartsInside (otf.limitsX l.srcImg.image) x.x x.w x.full ∧
        StartsInside (otf.limitsY l.srcImg.image) y.x y.w y.full := by
  obtain ⟨hmx, hfx, hox⟩ := limitsX_fit otf l.srcImg.image
  obtain ⟨hmy, hfy, hoy⟩ := limitsY_fit otf l.srcImg.image
  have hxiff := adjustSide_right_iff hx.1 hx.2.1 hx.2.2 hmx hfx hox
  have hyiff := adjustSide_right_iff hy.1 hy.2.1 hy.2.2 hmy hfy hoy
  unfold Layer.srcWrapped Layer.srcFrame
  dsimp only
  rw [Bool.or_eq_false_iff]
  constructor
  · rintro ⟨⟨hwx, hwy⟩, hsx, hsy⟩
    exact ⟨hxiff.mp ⟨hwx, hsx⟩, hyiff.mp ⟨hwy, hsy⟩⟩
  · rintro ⟨hsx, hsy⟩
    obtain ⟨hwx, hbx⟩ := hxiff.mpr hsx
    obtain ⟨hwy, hby⟩ := hyiff.mpr hsy
    exact ⟨⟨hwx, hwy⟩, hbx, hby⟩

/-- The config is written and right. -/
def RightConfig (p : Platform) (s : Screen) (l : Layer) (fence_fd : Int) (cfg : WinConfig)
    (hdrException : Bool) : Prop :=
  ∃ o, configureHandle p s l fence_fd cfg hdrException = some o ∧ o.Right p s l

theorem rightConfig_dim_iff (h : Accepted p s l otf) (hdim : l.isDimLayer = true) :
    RightConfig p s l fence_fd cfg hdrException ↔ Overlaps s l.displayFrame := by
  obtain ⟨o, ho, hwrapped, hdst⟩ : ∃ o, configureHandle p s l fence_fd cfg hdrException = some o ∧
      o.wrapped = l.dstWrapped s ∧ o.config.dst = l.dstFrame s :=
    configureHandle_dim h.channel hdim
  have hiff := dst_right_iff h
  rw [← hwrapped, ← hdst] at hiff
  rw [← hiff]
  constructor
  · rintro ⟨o', ho', hright⟩
    obtain rfl := Option.some.inj (ho.symm.trans ho')
    exact ⟨hright.wrapped, hright.dstX, hright.dstY⟩
  · rintro ⟨hw, hx, hy⟩
    exact ⟨o, ho, hw, hx, hy, fun hfalse => absurd (hdim.symm.trans hfalse) (by decide),
      fun hfalse => absurd (hdim.symm.trans hfalse) (by decide)⟩

theorem rightConfig_buffer_iff (h : Accepted p s l otf) (hdim : l.isDimLayer = false) {x y : Side}
    (hsides : ∀ cfg, l.sides p cfg = some (x, y)) (hbuffer : l.bufferSides p = (x.full, y.full))
    (hx : IsInt x.x ∧ x.w < 2 ^ 32 ∧ x.wrapped = false)
    (hy : IsInt y.x ∧ y.w < 2 ^ 32 ∧ y.wrapped = false) :
    RightConfig p s l fence_fd cfg hdrException ↔
      Overlaps s l.displayFrame ∧ StartsInside (otf.limitsX l.srcImg.image) x.x x.w x.full ∧
        StartsInside (otf.limitsY l.srcImg.image) y.x y.w y.full := by
  obtain ⟨o, ho, hwrapped, hdst, hsrc⟩ :
      ∃ o, configureHandle p s l fence_fd cfg hdrException = some o ∧
        o.wrapped = (l.dstWrapped s || l.srcWrapped otf x y) ∧
        o.config.dst = l.dstFrame s ∧ o.config.src = l.srcFrame otf x y :=
    configureHandle_buffer h.channel hdim (h.handle hdim) hsides
  rw [← dst_right_iff h, ← src_right_iff hx hy, ← hdst, ← hsrc]
  constructor
  · rintro ⟨o', ho', hright⟩
    obtain rfl := Option.some.inj (ho.symm.trans ho')
    obtain ⟨hw, hdx, hdy, hsx, hsy⟩ := hright
    rw [hwrapped, Bool.or_eq_false_iff] at hw
    have hsx := hsx hdim
    have hsy := hsy hdim
    rw [hbuffer] at hsx hsy
    exact ⟨⟨hw.1, hdx, hdy⟩, hw.2, hsx, hsy⟩
  · rintro ⟨⟨hw, hdx, hdy⟩, hsw, hsx, hsy⟩
    refine ⟨o, ho, ?_, hdx, hdy, ?_, ?_⟩
    · rw [hwrapped, hw, hsw]
      rfl
    · intro _
      rw [hbuffer]
      exact hsx
    · intro _
      rw [hbuffer]
      exact hsy

theorem rightConfig_m2m_iff (h : Accepted p s l otf) (hdim : l.isDimLayer = false) {m : M2mMPP}
    (hm : l.mM2mMPP = some m) :
    RightConfig p s l fence_fd cfg hdrException ↔
      Overlaps s l.displayFrame ∧ l.SourceFits p otf := by
  have hhandle := h.handle hdim
  unfold Layer.handle at hhandle
  rw [hm] at hhandle
  obtain ⟨gmeta, hgmeta⟩ := Option.ne_none_iff_exists'.mp hhandle
  obtain ⟨info, hinfo⟩ := Option.ne_none_iff_exists'.mp (h.assigned m hm)
  obtain ⟨img, himg⟩ : ∃ img, m.getDstImageInfo p = some img := by
    have hbuffer : m.bufferHandle = some gmeta := hgmeta
    unfold M2mMPP.getDstImageInfo
    rw [hinfo, hbuffer]
    exact ⟨_, rfl⟩
  obtain ⟨hw, hh⟩ := getDstImageInfo_lt himg
  have hfits : l.SourceFits p otf ↔
      StartsInside (otf.limitsX l.srcImg.image) (toInt32 img.x) img.w img.fullWidth ∧
        StartsInside (otf.limitsY l.srcImg.image) (toInt32 img.y) img.h img.fullHeight := by
    unfold Layer.SourceFits Layer.srcImg
    rw [hm]
    constructor
    · intro hall
      exact hall img himg
    · rintro hall img' himg'
      obtain rfl := Option.some.inj (himg.symm.trans himg')
      exact hall
  rw [hfits]
  apply rightConfig_buffer_iff h hdim
    (x := ⟨toInt32 img.x, img.w, img.fullWidth, false⟩)
    (y := ⟨toInt32 img.y, img.h, img.fullHeight, false⟩)
  · intro cfg
    unfold Layer.sides
    rw [hm]
    simp only [himg]
  · unfold Layer.bufferSides
    rw [hm]
    simp only [himg, Option.map_some, Option.getD_some]
  · exact ⟨isInt_toInt32 _, hw, rfl⟩
  · exact ⟨isInt_toInt32 _, hh, rfl⟩

theorem rightConfig_crop_iff (h : Accepted p s l otf) (hdim : l.isDimLayer = false)
    (hm : l.mM2mMPP = none) :
    RightConfig p s l fence_fd cfg hdrException ↔
      Overlaps s l.displayFrame ∧ l.SourceFits p otf := by
  have hsides : ∀ cfg, l.sides p cfg =
      (cropSide l.sourceCrop.left l.sourceCrop.right l.mSrcImg.image.fullWidth.toNat).bind fun x =>
        (cropSide l.sourceCrop.top l.sourceCrop.bottom l.mSrcImg.image.fullHeight.toNat).map
          fun y => (x, y) := by
    intro cfg
    unfold Layer.sides
    rw [hm]
  have hfits : l.SourceFits p otf ↔
      CropFits (otf.limitsX l.srcImg.image) l.sourceCrop.left l.sourceCrop.right
          l.mSrcImg.image.fullWidth.toNat ∧
        CropFits (otf.limitsY l.srcImg.image) l.sourceCrop.top l.sourceCrop.bottom
          l.mSrcImg.image.fullHeight.toNat := by
    unfold Layer.SourceFits Layer.srcImg
    rw [hm]
  -- An undefined conversion leaves no config.
  have hnone : (∀ cfg, l.sides p cfg = none) → ¬ RightConfig p s l fence_fd cfg hdrException := by
    rintro hall ⟨o, ho, -⟩
    rw [configureHandle_none h.channel hdim (h.handle hdim) hall] at ho
    cases ho
  rw [hfits]
  unfold CropFits
  by_cases hx : Convertible l.sourceCrop.left l.sourceCrop.right
  · by_cases hy : Convertible l.sourceCrop.top l.sourceCrop.bottom
    · have hbuffer : RightConfig p s l fence_fd cfg hdrException ↔ _ := rightConfig_buffer_iff h hdim
        (x := ⟨trunc l.sourceCrop.left, toUInt32 (trunc (l.sourceCrop.right - l.sourceCrop.left)),
          l.mSrcImg.image.fullWidth.toNat, false⟩)
        (y := ⟨trunc l.sourceCrop.top, toUInt32 (trunc (l.sourceCrop.bottom - l.sourceCrop.top)),
          l.mSrcImg.image.fullHeight.toNat, false⟩)
        (by
          intro cfg
          rw [hsides, cropSide_eq hx, cropSide_eq hy]
          rfl)
        (by
          unfold Layer.bufferSides
          rw [hm])
        ⟨hx.1, toUInt32_lt _, rfl⟩ ⟨hy.1, toUInt32_lt _, rfl⟩
      rw [hbuffer]
      constructor
      · rintro ⟨ho, hsx, hsy⟩
        exact ⟨ho, ⟨hx, hsx⟩, hy, hsy⟩
      · rintro ⟨ho, ⟨-, hsx⟩, -, hsy⟩
        exact ⟨ho, hsx, hsy⟩
    · constructor
      · intro hright
        refine absurd hright (hnone ?_)
        intro cfg
        rw [hsides, cropSide_eq hx, cropSide_eq_none hy]
        rfl
      · rintro ⟨-, -, hy', -⟩
        exact absurd hy' hy
  · constructor
    · intro hright
      refine absurd hright (hnone ?_)
      intro cfg
      rw [hsides, cropSide_eq_none hx]
      rfl
    · rintro ⟨-, ⟨hx', -⟩, -⟩
      exact absurd hx' hx

/-- **The config of an accepted layer.**  It is right exactly when the display frame has a
    pixel on the screen and what is read of the image begins inside its buffer; a dim layer
    reads no image. -/
theorem rightConfig_iff (h : Accepted p s l otf) (fence_fd : Int) (cfg : WinConfig)
    (hdrException : Bool) :
    RightConfig p s l fence_fd cfg hdrException ↔
      Overlaps s l.displayFrame ∧ (l.isDimLayer = false → l.SourceFits p otf) := by
  cases hdim : l.isDimLayer with
  | true =>
      rw [rightConfig_dim_iff h hdim]
      constructor
      · intro ho
        exact ⟨ho, fun hfalse => nomatch hfalse⟩
      · rintro ⟨ho, -⟩
        exact ho
  | false =>
      have hiff : RightConfig p s l fence_fd cfg hdrException ↔
          Overlaps s l.displayFrame ∧ l.SourceFits p otf := by
        cases hm : l.mM2mMPP with
        | none => exact rightConfig_crop_iff h hdim hm
        | some m => exact rightConfig_m2m_iff h hdim hm
      rw [hiff]
      constructor
      · rintro ⟨ho, hf⟩
        exact ⟨ho, fun _ => hf⟩
      · rintro ⟨ho, hf⟩
        exact ⟨ho, hf rfl⟩

/-- What a plain layer asks of its buffer begins inside of it: only the frame on the screen
    is left open by the check. -/
theorem sourceFits_of_plain (h : Accepted p s l otf) (hm : l.mM2mMPP = none)
    (hdim : l.isDimLayer = false) (hdrm : l.mSrcImg.image.drmMode = .NO_DRM)
    (hleft : 0 ≤ l.sourceCrop.left ∧ l.sourceCrop.left ≤ l.sourceCrop.right)
    (htop : 0 ≤ l.sourceCrop.top ∧ l.sourceCrop.top ≤ l.sourceCrop.bottom)
    (hright : l.sourceCrop.right ≤ l.mSrcImg.image.fullWidth.toNat)
    (hbottom : l.sourceCrop.bottom ≤ l.mSrcImg.image.fullHeight.toNat) : l.SourceFits p otf := by
  have hsrc : l.srcImg = l.mSrcImg := by
    unfold Layer.srcImg
    rw [hm]
  have hsupported := h.supported
  have hdim' := h.dim
  rw [hsrc] at hsupported hdim'
  have hwithin := otf.mpp.isSupported_within (hdim'.trans hdim) hdrm hsupported
  obtain ⟨hmx, -, -⟩ := limitsX_fit otf l.mSrcImg.image
  obtain ⟨hmy, -, -⟩ := limitsY_fit otf l.mSrcImg.image
  unfold Layer.SourceFits
  rw [hm]
  constructor
  · apply cropFits_of_mem hleft.1 hleft.2 hright hwithin.buffer.width.2 hmx hwithin.buffer.align.1
    rw [← h.srcX hm]
    exact hwithin.crop.offset.1
  · apply cropFits_of_mem htop.1 htop.2 hbottom hwithin.buffer.height.2 hmy hwithin.buffer.align.2
    rw [← h.srcY hm]
    exact hwithin.crop.offset.2

end Layers

/-! ### Layers of a display channel -/

theorem channelRow_fits : EntriesFit (MppSupport.channelRow 1080) :=
  ⟨by decide, by decide, by decide, by decide, by decide, by decide⟩

def channel : OtfMPP where
  id := 1
  mpp := MppSupport.channel
  mLutParcelFd := -1
  vOtfEnable := false
  vOtfBufIndex := 0
  entries _ := channelRow_fits

def plainPlatform : Platform where
  defaultMppDstFormat := ⟨1, true, false, false⟩
  getM2mDstAlign _ := 16
  bpp _ := 32
  formatToBpp _ := 32
  isFormatLossy _ := false
  getBufferNumOfFormat _ := 1
  setColorConversionInfo _ := -1
  checkFenceDebug fence := fence

def phone : Screen where
  mXres := 1080
  mYres := 1920
  xres_le := by decide
  yres_le := by decide

/-- A layer with a buffer on the channel. -/
def bufferLayer (frame : Rect Int) (crop : Rect Rat) (image : ExynosImage) : Layer where
  id := 1
  isDimLayer := false
  displayFrame := frame
  sourceCrop := crop
  privateFormat := none
  mLayerFormat := 1
  mLayerBuffer := some ⟨3, -1, -1, 7, false, 2048, 2048, 2048 * 2048, 1, 0⟩
  mCompressionInfo := ⟨0, 0, 0⟩
  mBlending := 2
  mPlaneAlpha := 1
  mColor := ⟨0, 0, 0, 0⟩
  mExynosCompositionType := .DEVICE
  mCompositionType := .DEVICE
  mSrcImg := ⟨image, 0, false, 1⟩
  mMidImg := ⟨image, 0, false, 1⟩
  mMetaParcelFd := -1
  getMetaParcel := none
  mOtfMPP := some channel
  mM2mMPP := none

/-- The check accepts a layer with a crop that is in integers. -/
theorem accepted_bufferLayer {frame : Rect Int} {crop : Rect Rat} {image : ExynosImage}
    (hsupported : channel.mpp.isSupported image
      ((bufferLayer frame crop image).dstImage plainPlatform phone) = some NO_ERROR)
    (hdim : image.isDimLayer = false)
    (hframe : IsInt frame.left ∧ IsInt frame.top ∧ IsInt frame.right ∧ IsInt frame.bottom)
    (hx : image.x.toNat = toUInt32 (trunc crop.left))
    (hy : image.y.toNat = toUInt32 (trunc crop.top)) :
    Accepted plainPlatform phone (bufferLayer frame crop image) channel where
  channel := rfl
  supported := hsupported
  handle _ := Option.some_ne_none _
  assigned m h := by cases h
  dim := hdim
  left := hframe.1
  top := hframe.2.1
  right := hframe.2.2.1
  bottom := hframe.2.2.2
  srcX _ := hx
  srcY _ := hy

/-- A hundred pixels of a picture, half of them left of the screen. -/
def edgeLayer : Layer :=
  bufferLayer ⟨-50, 0, 50, 100⟩ ⟨0, 0, 100, 100⟩ (MppSupport.rgbImage 100 100 0)

theorem rightConfig_iff_edge :
    RightConfig plainPlatform phone edgeLayer 5 OverlayCrop.resetConfig false ↔
      Overlaps phone edgeLayer.displayFrame ∧
        (edgeLayer.isDimLayer = false → edgeLayer.SourceFits plainPlatform channel) :=
  rightConfig_iff (accepted_bufferLayer (by decide +kernel) rfl (by decide) (by decide +kernel)
    (by decide +kernel)) 5 OverlayCrop.resetConfig false

/-- The same picture, all of it left of the screen. -/
def outsideLayer : Layer :=
  bufferLayer ⟨-200, 0, -100, 100⟩ ⟨0, 0, 100, 100⟩ (MppSupport.rgbImage 100 100 0)

/-- A crop of a protected buffer that is higher than the channel reads. -/
def tallLayer : Layer :=
  bufferLayer ⟨0, 0, 100, 100⟩ ⟨0, 9000, 100, 9100⟩
    { MppSupport.rgbImage 100 100 0 with fullHeight := 10000, y := 9000, drmMode := .NORMAL_DRM }

/-- Both are accepted.  The width of the first window is 2^32 - 100; for the second one the
    subtraction wraps. -/
theorem outside_and_tall :
    (Accepted plainPlatform phone outsideLayer channel ∧
        (configureHandle plainPlatform phone outsideLayer 5 OverlayCrop.resetConfig false).map
          (fun o => o.config.dst) = some ⟨0, 0, 4294967196, 100, 1080, 1920⟩ ∧
        ¬ RightConfig plainPlatform phone outsideLayer 5 OverlayCrop.resetConfig false) ∧
      Accepted plainPlatform phone tallLayer channel ∧
        (configureHandle plainPlatform phone tallLayer 5 OverlayCrop.resetConfig false).map
          (fun o => (o.config.src, o.wrapped)) = some (⟨0, 9000, 100, 1080, 2048, 8191⟩, true) ∧
        ¬ RightConfig plainPlatform phone tallLayer 5 OverlayCrop.resetConfig false := by
  have htall : (configureHandle plainPlatform phone tallLayer 5 OverlayCrop.resetConfig false).map
      (fun o => (o.config.src, o.wrapped)) = some (⟨0, 9000, 100, 1080, 2048, 8191⟩, true) := by
    decide +kernel
  refine ⟨⟨?_, by decide +kernel, ?_⟩, ?_, htall, ?_⟩
  · exact accepted_bufferLayer (by decide +kernel) rfl (by decide) (by decide +kernel)
      (by decide +kernel)
  · rintro ⟨o, -, hright⟩
    have hlast := hright.dstX.last
    have hfirst := hright.dstX.first
    have hone := hright.dstX.one_le
    have hedge : min outsideLayer.displayFrame.right phone.mXres = -100 := by decide
    have hzero : max outsideLayer.displayFrame.left 0 = 0 := by decide
    omega
  · exact accepted_bufferLayer (by decide +kernel) rfl (by decide) (by decide +kernel)
      (by decide +kernel)
  · rintro ⟨o, ho, hright⟩
    rw [ho] at htall
    have hwrapped := congrArg Prod.snd (Option.some.inj htall)
    exact absurd (hright.wrapped.symm.trans hwrapped) (by decide)

end ExynosHal.HandleConfig
