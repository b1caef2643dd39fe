/-
  ExynosHal/PrevFrame.lean
  ========================
  **When an M2M MPP shows its previous output again.**

  `ExynosMPP::canUsePrevFrame` of `libhwc2.1/resources/ExynosMPP.cpp` compares a
  list of fields with those of the previous request.  `setupLayer`, `setupDst`
  and `getDstDataspace` read some fields more, so that the answer is sound only
  where these agree too (`canUsePrevFrame_sound_iff`).  Where it is, the job that
  made the previous output is the job of the new request (`job_of_inputs`).
-/
import ExynosHal.AcrylFormats

namespace ExynosHal.PrevFrame

open ExynosHal.AcrylFormats

/-! ### Images, displays and requests -/

/-- A `buffer_handle_t` that is not NULL. -/
abbrev BufferHandle := Nat

abbrev Dataspace := BitVec 32

def HAL_DATASPACE_UNKNOWN : Dataspace := 0
def HAL_DATASPACE_STANDARD_BT601_625_UNADJUSTED : Dataspace := 0x30000
def HAL_DATASPACE_STANDARD_BT601_525_UNADJUSTED : Dataspace := 0x50000
def HAL_DATASPACE_STANDARD_BT2020_CONSTANT_LUMINANCE : Dataspace := 0x70000
def HAL_DATASPACE_STANDARD_DCI_P3 : Dataspace := 0xa0000
def HAL_DATASPACE_TRANSFER_GAMMA2_2 : Dataspace := 0x1000000
def HAL_DATASPACE_TRANSFER_ST2084 : Dataspace := 0x1c00000
def HAL_DATASPACE_TRANSFER_HLG : Dataspace := 0x2000000
def HAL_DATASPACE_DCI_P3 : Dataspace := 0x94a0000
def HAL_DATASPACE_ADOBE_RGB : Dataspace := 0x90b0000
def HAL_DATASPACE_DISPLAY_P3 : Dataspace := 0x88a0000
def HAL_DATASPACE_V0_SRGB : Dataspace := 0x8810000
def HAL_DATASPACE_V0_BT709 : Dataspace := 0x10c10000

/-- `android_color_mode_t`. -/
inductive ColorMode where
  | NATIVE | STANDARD_BT601_625 | STANDARD_BT601_625_UNADJUSTED | STANDARD_BT601_525
  | STANDARD_BT601_525_UNADJUSTED | STANDARD_BT709 | DCI_P3 | SRGB | ADOBE_RGB | DISPLAY_P3
  | other (mode : Nat)
deriving DecidableEq, Repr

def colorModeToDataspace : ColorMode → Dataspace
  | .STANDARD_BT601_625 => HAL_DATASPACE_STANDARD_BT601_625
  | .STANDARD_BT601_625_UNADJUSTED => HAL_DATASPACE_STANDARD_BT601_625_UNADJUSTED
  | .STANDARD_BT601_525 => HAL_DATASPACE_STANDARD_BT601_525
  | .STANDARD_BT601_525_UNADJUSTED => HAL_DATASPACE_STANDARD_BT601_525_UNADJUSTED
  | .STANDARD_BT709 => HAL_DATASPACE_STANDARD_BT709
  | .DCI_P3 => HAL_DATASPACE_DCI_P3
  | .ADOBE_RGB => HAL_DATASPACE_ADOBE_RGB
  | .DISPLAY_P3 => HAL_DATASPACE_DISPLAY_P3
  | .SRGB => HAL_DATASPACE_V0_SRGB
  | .NATIVE => HAL_DATASPACE_UNKNOWN
  | .other _ => HAL_DATASPACE_UNKNOWN

/-- A row of `exynos_format_desc`. -/
structure ExynosFormat where
  mDescIndex : Nat
deriving DecidableEq, Repr

inductive CompressionType where
  | NONE | AFBC | SBWC | SAJC
deriving DecidableEq, Repr

structure hwc_color_t where
  r : UInt8
  g : UInt8
  b : UInt8
  a : UInt8
deriving DecidableEq, Repr

/-- The mastering luminance of `sHdrStaticInfo.sType1`, and what else the parcel holds. -/
structure ExynosVideoMeta where
  mMinDisplayLuminance : Nat
  mMaxDisplayLuminance : Nat
  rest : List UInt8
deriving DecidableEq, Repr

def EXYNOS_HWC_DIM_LAYER : BitVec 32 := 1

structure exynos_image where
  fullWidth : UInt32
  fullHeight : UInt32
  x : UInt32
  y : UInt32
  w : UInt32
  h : UInt32
  color : hwc_color_t
  exynosFormat : ExynosFormat
  usageFlags : BitVec 64
  layerFlags : BitVec 32
  bufferHandle : Option BufferHandle
  dataSpace : Dataspace
  blending : Nat
  transform : BitVec 32
  compressionType : CompressionType
  planeAlpha : Rat
  zOrder : Nat
  metaParcel : Option ExynosVideoMeta
deriving DecidableEq

def exynos_image.isDimLayer (img : exynos_image) : Bool :=
  img.layerFlags &&& EXYNOS_HWC_DIM_LAYER != 0

inductive DisplayType where
  | PRIMARY | EXTERNAL | VIRTUAL
deriving DecidableEq, Repr

def UINT32_MAX : UInt32 := 0xffffffff

/-- The fields of `DisplayInfo` that an M2M MPP reads; `isLLWFD` is `isWFDState == LLWFD`. -/
structure DisplayInfo where
  id : UInt32
  type : DisplayType
  xres : Int
  yres : Int
  colorMode : ColorMode
  minLuminance : Rat
  maxLuminance : Rat
  isLLWFD : Bool
  skipM2mProcessing : Bool
deriving DecidableEq

/-- What a frame hands to an M2M MPP: `mAssignedSources` as pairs of `mSrcImg` and
    `mMidImg`, `mAssignedDisplayInfo`, `mCurrentTargetCompressionInfoType`, and the
    two images that `doPostProcessing` is called with. -/
structure Request where
  mAssignedSources : List (exynos_image × exynos_image)
  mAssignedDisplayInfo : DisplayInfo
  mCurrentTargetCompressionInfoType : CompressionType
  src : exynos_image
  dst : exynos_image

/-! ### The MPP -/

inductive PhysicalType where
  | G2D | MSC | OTF
deriving DecidableEq, Repr

/-- `NUM_MPP_DST_BUFS`. -/
def NUM_MPP_DST_BUFS : Nat := 3

/-- `exynos_mpp_img_info` of a destination buffer. -/
structure DstImg where
  bufferHandle : Option BufferHandle
  bufferType : Nat
  format : ExynosFormat
  dataspace : Dataspace
deriving DecidableEq, Repr

/-- `mPrevFrameInfo` is `srcInfo` and `dstInfo` up to `srcNum`. -/
structure ExynosMPP where
  mPhysicalType : PhysicalType
  isG2DCombo : Bool
  mMaxSrcLayerNum : Nat
  mAllocOutBufFlag : Bool
  mPrevAssignedDisplayType : Option DisplayType
  mPrevFrameInfo : List (exynos_image × exynos_image)
  mDstImgs : Fin NUM_MPP_DST_BUFS → DstImg
  mCurrentDstBuf : Fin NUM_MPP_DST_BUFS

/-- `ExynosGraphicBufferMeta`. -/
structure GraphicBufferMeta where
  fds : List Int
  stride : Nat
  vstride : Nat
  format : Nat
  usage : BitVec 64

/-- Tables and buffers of the platform: the columns of `exynos_format_desc`, the format
    helpers over a HAL format, the meta data of a buffer, and the two virtual functions. -/
structure Platform where
  halFormat : ExynosFormat → Nat
  bufferNum : ExynosFormat → Nat
  bpp : ExynosFormat → Nat
  isRgb : ExynosFormat → Bool
  isSBWC : ExynosFormat → Bool
  isFormatRgb : Nat → Bool
  isFormatSBWC : Nat → Bool
  formatToBpp : Nat → Nat
  gmeta : BufferHandle → GraphicBufferMeta
  getBufLength : BufferHandle → Nat → UInt32 → UInt32 → Option (List Nat)
  getBufferType : BitVec 64 → Nat
  isAFBCCompressed : BufferHandle → Bool
  canUseVotf : PhysicalType → exynos_image → Bool
  defaultMppDstFormat : ExynosFormat
  MPP_BUFFER_SECURE_DRM : Nat
  HAL_PIXEL_FORMAT_RGB_565 : Nat
  YCbCr_420_SP_M : Nat
  YCbCr_420_SP_M_PRIV : Nat
  YCbCr_420_SPN : Nat

variable (p : Platform)

def getRefinedDataspace (halFormat : Nat) (dataspace : Dataspace) : Dataspace :=
  if dataspace ≠ HAL_DATASPACE_UNKNOWN then dataspace
  else if p.isFormatRgb halFormat then HAL_DATASPACE_V0_SRGB
  else HAL_DATASPACE_V0_BT709

def hasHdrInfo (dataSpace : Dataspace) : Bool :=
  let standard := dataSpace &&& HAL_DATASPACE_STANDARD_MASK
  let transfer := dataSpace &&& HAL_DATASPACE_TRANSFER_MASK
  (standard == HAL_DATASPACE_STANDARD_BT2020 ||
    standard == HAL_DATASPACE_STANDARD_BT2020_CONSTANT_LUMINANCE ||
    standard == HAL_DATASPACE_STANDARD_DCI_P3) &&
  (transfer == HAL_DATASPACE_TRANSFER_ST2084 || transfer == HAL_DATASPACE_TRANSFER_HLG)

def pixel_align (x a : Int) : Int :=
  if a ≠ 0 ∧ x.tmod a ≠ 0 then x - x.tmod a + a else x

def GET_M2M_DST_ALIGN (format : Nat) : Int :=
  if format = p.HAL_PIXEL_FORMAT_RGB_565 then 32 else 16

/-! ### What is handed to the blender -/

def ATTR_PROTECTED : BitVec 32 := 1
def ATTR_COMPRESSED : BitVec 32 := 2

/-- `hwc_rect_t`: left, top, right, bottom. -/
abbrev Area := Int32 × Int32 × Int32 × Int32

def exynos_image.area (img : exynos_image) : Area :=
  (img.x.toInt32, img.y.toInt32, (img.x + img.w).toInt32, (img.y + img.h).toInt32)

/-- `setImageBuffer` of a buffer, or of a colour. -/
inductive ImageBuffer where
  | color (c : hwc_color_t)
  | buffer (fds : List Int) (length : List Nat) (bufferNum : Nat) (attr : BitVec 32)
deriving DecidableEq

/-- The calls of `setupLayer` on its `AcrylicLayer`. -/
structure LayerSetup where
  masterDisplayLuminance : Option (Nat × Nat)
  layerData : Option ExynosVideoMeta
  imageDimension : UInt32 × UInt32
  imageType : Nat × Dataspace
  image : ImageBuffer
  compositMode : Nat × Nat × Nat
  compositArea : Area × Area × BitVec 32
  noResampling : Bool
deriving DecidableEq

/-- The part of `setupLayer` for a layer that has a buffer. -/
def setupBuffer (src : exynos_image) (srcHandle : BufferHandle) :
    Option (Option (Nat × Nat) × Option ExynosVideoMeta × ImageBuffer) :=
  let gmeta := p.gmeta srcHandle
  match p.getBufLength srcHandle (p.halFormat src.exynosFormat) src.fullWidth src.fullHeight with
  | none => none
  | some bufLength =>
    let luminance :=
      if hasHdrInfo src.dataSpace then
        src.metaParcel.map fun m => (m.mMinDisplayLuminance, m.mMaxDisplayLuminance / 10000)
      else none
    let secure := if p.getBufferType gmeta.usage = p.MPP_BUFFER_SECURE_DRM then ATTR_PROTECTED else 0
    let compressed := if src.compressionType = .AFBC then ATTR_COMPRESSED else 0
    some (luminance, src.metaParcel,
      .buffer gmeta.fds bufLength (p.bufferNum src.exynosFormat) (secure ||| compressed))

def setupLayer (s : ExynosMPP) (display : DisplayInfo) (src dst : exynos_image) : Option LayerSetup :=
  if p.bufferNum src.exynosFormat = 0 then none
  else
    let halFormat := p.halFormat src.exynosFormat
    let image :=
      if src.isDimLayer then some (none, none, ImageBuffer.color src.color)
      else src.bufferHandle.bind (setupBuffer p src)
    image.map fun (luminance, layerData, image) =>
      { masterDisplayLuminance := luminance
        layerData := layerData
        imageDimension := (src.fullWidth, src.fullHeight)
        imageType :=
          (if halFormat = p.YCbCr_420_SP_M_PRIV then p.YCbCr_420_SP_M else halFormat,
            getRefinedDataspace p halFormat src.dataSpace)
        image := image
        compositMode :=
          (src.blending,
            if s.mMaxSrcLayerNum > 1 then (255 * src.planeAlpha).floor.toNat % 256 else 255,
            src.zOrder)
        compositArea := (src.area, dst.area, src.transform)
        noResampling :=
          (display.id != UINT32_MAX && display.type != .PRIMARY) || !p.isRgb src.exynosFormat }

/-- `mAssignedSources[0]->mMidImg.dataSpace`, or `dstDataspace` without a source. -/
def midDataspace (r : Request) (dstDataspace : Dataspace) : Dataspace :=
  match r.mAssignedSources.head? with
  | some (_, mid) => mid.dataSpace
  | none => dstDataspace

def getDstDataspace (s : ExynosMPP) (r : Request) (dstFormat : Nat) (dstDataspace : Dataspace) :
    Dataspace :=
  let dataspace :=
    if s.mMaxSrcLayerNum > 1 then
      if p.isFormatRgb dstFormat then
        if r.mAssignedDisplayInfo.colorMode ≠ .NATIVE then
          colorModeToDataspace r.mAssignedDisplayInfo.colorMode
        else HAL_DATASPACE_UNKNOWN
      else
        HAL_DATASPACE_STANDARD_BT709 ||| HAL_DATASPACE_TRANSFER_GAMMA2_2 |||
          HAL_DATASPACE_RANGE_LIMITED
    else midDataspace r dstDataspace
  getRefinedDataspace p dstFormat dataspace

def displayMetaInfo (display : DisplayInfo) : Nat × Nat :=
  ((display.minLuminance * 10000).floor.toNat, display.maxLuminance.floor.toNat)

/-- Minimal and maximal luminance of `getDstMetaInfo`. -/
def getDstMetaInfo (r : Request) (dstDataspace : Dataspace) : Nat × Nat :=
  match r.mAssignedSources with
  | [(src, _)] =>
    match src.metaParcel with
    | some m =>
      if src.dataSpace = dstDataspace then (m.mMinDisplayLuminance, m.mMaxDisplayLuminance / 10000)
      else displayMetaInfo r.mAssignedDisplayInfo
    | none => displayMetaInfo r.mAssignedDisplayInfo
  | _ => displayMetaInfo r.mAssignedDisplayInfo

/-- The calls of `setupDst` on `mAcrylicHandle`. -/
structure CanvasSetup where
  dimension : Option (Int × Int)
  imageType : Nat × Dataspace
  fds : List Int
  length : List Nat
  bufferNum : Nat
  attr : BitVec 32
  otf : Bool
  targetDisplayLuminance : Option (Nat × Nat)
deriving DecidableEq

def setupDst (s : ExynosMPP) (r : Request) (dstHandle : BufferHandle) (dstImgInfo : DstImg) :
    Option CanvasSetup :=
  let halFormat := p.halFormat dstImgInfo.format
  let display := r.mAssignedDisplayInfo
  let gmeta := p.gmeta dstHandle
  if p.bufferNum dstImgInfo.format = 0 then none
  else
    let dataspace := getDstDataspace p s r halFormat dstImgInfo.dataspace
    (p.getBufLength dstHandle halFormat (.ofNat gmeta.stride) (.ofNat gmeta.vstride)).map fun bufLength =>
      let otf := s.isG2DCombo && display.id != UINT32_MAX && display.type == .VIRTUAL && display.isLLWFD
      let secure := if p.getBufferType gmeta.usage = p.MPP_BUFFER_SECURE_DRM then ATTR_PROTECTED else 0
      let compressed :=
        if s.mMaxSrcLayerNum > 1 ∧ p.isAFBCCompressed dstHandle ∧
            r.mCurrentTargetCompressionInfoType = .AFBC then ATTR_COMPRESSED else 0
      let align := GET_M2M_DST_ALIGN p halFormat
      { dimension :=
          if display.id ≠ UINT32_MAX then
            some (pixel_align display.xres align, pixel_align display.yres align)
          else none
        imageType := (if otf then p.YCbCr_420_SPN else halFormat, dataspace)
        fds := gmeta.fds
        length := bufLength
        bufferNum := p.bufferNum dstImgInfo.format
        attr := secure ||| compressed
        otf := otf
        targetDisplayLuminance :=
          if display.id ≠ UINT32_MAX ∧ s.mPhysicalType = .G2D ∧ display.type ≠ .VIRTUAL then
            some (getDstMetaInfo r dataspace)
          else none }

/-! ### Reusing the previous output -/

/-- One turn of the loop of `canUsePrevFrame`: no compared field differs. -/
def sameSource (prev cur : exynos_image × exynos_image) : Bool :=
  prev.1.bufferHandle == cur.1.bufferHandle && prev.1.x == cur.1.x && prev.1.y == cur.1.y &&
  prev.1.w == cur.1.w && prev.1.h == cur.1.h && prev.1.exynosFormat == cur.1.exynosFormat &&
  prev.1.usageFlags == cur.1.usageFlags && prev.1.dataSpace == cur.1.dataSpace &&
  prev.1.blending == cur.1.blending && prev.1.transform == cur.1.transform &&
  prev.1.compressionType == cur.1.compressionType && prev.1.planeAlpha == cur.1.planeAlpha &&
  prev.1.layerFlags == cur.1.layerFlags && prev.1.usageFlags == cur.1.usageFlags &&
  prev.1.color.r == cur.1.color.r && prev.1.color.g == cur.1.color.g &&
  prev.1.color.b == cur.1.color.b && prev.1.color.a == cur.1.color.a &&
  prev.2.x == cur.2.x && prev.2.y == cur.2.y && prev.2.w == cur.2.w && prev.2.h == cur.2.h &&
  prev.2.exynosFormat == cur.2.exynosFormat

def prevDstIndex (s : ExynosMPP) : Fin NUM_MPP_DST_BUFS :=
  ⟨(s.mCurrentDstBuf + NUM_MPP_DST_BUFS - 1) % NUM_MPP_DST_BUFS, Nat.mod_lt _ (by decide)⟩

def canUsePrevFrame (s : ExynosMPP) (r : Request) : Bool :=
  if p.canUseVotf s.mPhysicalType r.src then false
  else if r.mAssignedDisplayInfo.skipM2mProcessing = false then false
  else if s.mAllocOutBufFlag = false then false
  else if s.mPrevFrameInfo.length ≠ r.mAssignedSources.length then false
  else if (s.mPrevFrameInfo.zip r.mAssignedSources).any fun q => !sameSource q.1 q.2 then false
  else if (s.mDstImgs (prevDstIndex s)).bufferHandle = none then false
  else true

def increaseDstBuffIndex (s : ExynosMPP) : ExynosMPP :=
  if s.mAllocOutBufFlag then
    { s with
      mCurrentDstBuf :=
        ⟨(s.mCurrentDstBuf.val + 1) % NUM_MPP_DST_BUFS, Nat.mod_lt _ (by decide)⟩ }
  else s

def needDstBufRealloc (s : ExynosMPP) (r : Request) : Bool :=
  match (s.mDstImgs s.mCurrentDstBuf).bufferHandle with
  | none => true
  | some handle =>
    if r.mAssignedDisplayInfo.id = UINT32_MAX then false
    else
      let gmeta := p.gmeta handle
      s.mPrevAssignedDisplayType != some r.mAssignedDisplayInfo.type ||
      p.formatToBpp gmeta.format < p.bpp r.dst.exynosFormat ||
      ((gmeta.stride * gmeta.vstride : Nat) : Int) <
        (r.dst.fullWidth * r.dst.fullHeight).toInt32.toInt ||
      (!p.isFormatSBWC gmeta.format && p.isSBWC r.dst.exynosFormat) ||
      (s.mDstImgs s.mCurrentDstBuf).bufferType != p.getBufferType r.dst.usageFlags

/-- What the allocator and libacryl answer while a request is processed. -/
structure Answers where
  allocate : Option BufferHandle
  hasAcrylic : Bool
  layerCount : Bool
  execute : Bool

def setDstImg (s : ExynosMPP) (img : DstImg) : ExynosMPP :=
  { s with mDstImgs := Function.update s.mDstImgs s.mCurrentDstBuf img }

/-- The format that the current destination buffer has when it is composed into. -/
def dstFormat (s : ExynosMPP) (r : Request) : ExynosFormat :=
  if s.mAllocOutBufFlag = false then (s.mDstImgs s.mCurrentDstBuf).format
  else if needDstBufRealloc p s r && decide (s.mMaxSrcLayerNum > 1) then p.defaultMppDstFormat
  else r.dst.exynosFormat

/-- The part of `doPostProcessing` that makes the destination buffer. -/
def prepareDst (s : ExynosMPP) (r : Request) (a : Answers) : Option ExynosMPP :=
  if s.mAllocOutBufFlag = false then some s
  else if needDstBufRealloc p s r then
    a.allocate.map fun handle =>
      setDstImg s
        { bufferHandle := some handle
          bufferType := p.getBufferType r.dst.usageFlags
          format := dstFormat p s r
          dataspace := HAL_DATASPACE_UNKNOWN }
  else some (setDstImg s { s.mDstImgs s.mCurrentDstBuf with format := dstFormat p s r })

/-- What is composed: the layers, and the canvas where `setupDst` did not fail. -/
structure Job where
  layers : List LayerSetup
  canvas : Option CanvasSetup
deriving DecidableEq

def setupLayers (s : ExynosMPP) (r : Request) : Option (List LayerSetup) :=
  r.mAssignedSources.mapM fun q => setupLayer p s r.mAssignedDisplayInfo q.1 q.2

def setupCanvas (s : ExynosMPP) (r : Request) : Option CanvasSetup :=
  let dstImg := s.mDstImgs s.mCurrentDstBuf
  dstImg.bufferHandle.bind fun handle => setupDst p s r handle dstImg

/-- The fields of the destination that `setupDst` writes. -/
def recordCanvas (s : ExynosMPP) : Option CanvasSetup → ExynosMPP
  | none => s
  | some canvas =>
    let dstImg := s.mDstImgs s.mCurrentDstBuf
    setDstImg s
      { dstImg with
        bufferType := (dstImg.bufferHandle.map fun h => p.getBufferType (p.gmeta h).usage).getD 0
        dataspace := canvas.imageType.2 }

def doPostProcessingInternal (s : ExynosMPP) (r : Request) (a : Answers) : ExynosMPP × Option Job :=
  if a.hasAcrylic = false then (s, none)
  else if s.mPhysicalType = .OTF then (s, none)
  else if r.mAssignedDisplayInfo.id = UINT32_MAX then (s, none)
  else
    match setupLayers p s r with
    | none => (s, none)
    | some layers =>
      if a.layerCount = false then (s, none)
      else
        let canvas := setupCanvas p s r
        (recordCanvas p s canvas, if a.execute then some ⟨layers, canvas⟩ else none)

def save_frame_info (s : ExynosMPP) (r : Request) : ExynosMPP :=
  { s with
    mPrevAssignedDisplayType := some r.mAssignedDisplayInfo.type
    mPrevFrameInfo := r.mAssignedSources }

inductive Outcome where
  | failed
  | reused
  | made (job : Job)
deriving DecidableEq

def doPostProcessing (s : ExynosMPP) (r : Request) (a : Answers) : ExynosMPP × Outcome :=
  if r.mAssignedSources = [] then (save_frame_info s r, .failed)
  else
    match prepareDst p s r a with
    | none => (save_frame_info s r, .failed)
    | some s₁ =>
      if (s.mAllocOutBufFlag && needDstBufRealloc p s r) = false ∧ canUsePrevFrame p s₁ r then
        (save_frame_info { s₁ with mCurrentDstBuf := prevDstIndex s₁ } r, .reused)
      else
        match doPostProcessingInternal p s₁ r a with
        | (s₂, some job) => (save_frame_info s₂ r, .made job)
        | (s₂, none) => (save_frame_info s₂ r, .failed)

/-! ### What the setup functions read, and what is compared -/

/-- What is read of a source. -/
structure SourceInputs where
  bufferHandle : Option BufferHandle
  fullWidth : UInt32
  fullHeight : UInt32
  x : UInt32
  y : UInt32
  w : UInt32
  h : UInt32
  exynosFormat : ExynosFormat
  dataSpace : Dataspace
  blending : Nat
  planeAlpha : Rat
  transform : BitVec 32
  zOrder : Nat
  compressionType : CompressionType
  metaParcel : Option ExynosVideoMeta
  layerFlags : BitVec 32
  color : hwc_color_t
  midX : UInt32
  midY : UInt32
  midW : UInt32
  midH : UInt32
  midFormat : ExynosFormat
  midDataSpace : Dataspace
deriving DecidableEq

def readSource (q : exynos_image × exynos_image) : SourceInputs :=
  { bufferHandle := q.1.bufferHandle, fullWidth := q.1.fullWidth, fullHeight := q.1.fullHeight
    x := q.1.x, y := q.1.y, w := q.1.w, h := q.1.h, exynosFormat := q.1.exynosFormat
    dataSpace := q.1.dataSpace, blending := q.1.blending, planeAlpha := q.1.planeAlpha
    transform := q.1.transform, zOrder := q.1.zOrder, compressionType := q.1.compressionType
    metaParcel := q.1.metaParcel, layerFlags := q.1.layerFlags, color := q.1.color
    midX := q.2.x, midY := q.2.y, midW := q.2.w, midH := q.2.h, midFormat := q.2.exynosFormat
    midDataSpace := q.2.dataSpace }

/-- What is read of the display and of the destination image. -/
structure TargetInputs where
  dstFormat : ExynosFormat
  id : UInt32
  type : DisplayType
  xres : Int
  yres : Int
  colorMode : ColorMode
  minLuminance : Rat
  maxLuminance : Rat
  isLLWFD : Bool
  mCurrentTargetCompressionInfoType : CompressionType
deriving DecidableEq

def readTarget (s : ExynosMPP) (r : Request) : TargetInputs :=
  { dstFormat := dstFormat p s r, id := r.mAssignedDisplayInfo.id
    type := r.mAssignedDisplayInfo.type, xres := r.mAssignedDisplayInfo.xres
    yres := r.mAssignedDisplayInfo.yres, colorMode := r.mAssignedDisplayInfo.colorMode
    minLuminance := r.mAssignedDisplayInfo.minLuminance
    maxLuminance := r.mAssignedDisplayInfo.maxLuminance
    isLLWFD := r.mAssignedDisplayInfo.isLLWFD
    mCurrentTargetCompressionInfoType := r.mCurrentTargetCompressionInfoType }

/-- All that `setupLayer`, `setupDst` and `getDstDataspace` read for a request, the
    destination buffer itself and the fences apart. -/
def inputs (s : ExynosMPP) (r : Request) : List SourceInputs × TargetInputs :=
  (r.mAssignedSources.map readSource, readTarget p s r)

/-- The fields of a source and its mid image that `canUsePrevFrame` compares. -/
structure Watched where
  bufferHandle : Option BufferHandle
  x : UInt32
  y : UInt32
  w : UInt32
  h : UInt32
  exynosFormat : ExynosFormat
  usageFlags : BitVec 64
  dataSpace : Dataspace
  blending : Nat
  transform : BitVec 32
  compressionType : CompressionType
  planeAlpha : Rat
  layerFlags : BitVec 32
  color : hwc_color_t
  midX : UInt32
  midY : UInt32
  midW : UInt32
  midH : UInt32
  midFormat : ExynosFormat
deriving DecidableEq

def watch (q : exynos_image × exynos_image) : Watched :=
  { bufferHandle := q.1.bufferHandle, x := q.1.x, y := q.1.y, w := q.1.w, h := q.1.h
    exynosFormat := q.1.exynosFormat, usageFlags := q.1.usageFlags, dataSpace := q.1.dataSpace
    blending := q.1.blending, transform := q.1.transform, compressionType := q.1.compressionType
    planeAlpha := q.1.planeAlpha, layerFlags := q.1.layerFlags, color := q.1.color
    midX := q.2.x, midY := q.2.y, midW := q.2.w, midH := q.2.h, midFormat := q.2.exynosFormat }

theorem sameSource_iff (prev cur : exynos_image × exynos_image) :
    sameSource prev cur = true ↔ watch prev = watch cur := by
  have hcolor : prev.1.color = cur.1.color ↔ prev.1.color.r = cur.1.color.r ∧
      prev.1.color.g = cur.1.color.g ∧ prev.1.color.b = cur.1.color.b ∧
      prev.1.color.a = cur.1.color.a := by
    cases prev.1.color
    cases cur.1.color
    simp
  simp only [sameSource, Bool.and_eq_true, beq_iff_eq, watch, Watched.mk.injEq, hcolor]
  constructor
  · intro h
    simp only [h, and_self]
  · intro h
    simp only [h, and_self]

/-- The comparison of a whole request with the previous one. -/
theorem sameSources_iff (prev cur : List (exynos_image × exynos_image)) :
    prev.length = cur.length ∧ (prev.zip cur).any (fun q => !sameSource q.1 q.2) = false ↔
      prev.map watch = cur.map watch := by
  induction prev generalizing cur with
  | nil => cases cur <;> simp
  | cons q prev ih =>
    cases cur with
    | nil => simp
    | cons q' cur =>
      have htail := ih cur
      simp only [List.length_cons, List.zip_cons_cons, List.any_cons, List.map_cons,
        List.cons.injEq, Bool.or_eq_false_iff, Bool.not_eq_false', sameSource_iff, ← htail]
      constructor
      · rintro ⟨hlen, hq, hrest⟩
        exact ⟨hq, by omega, hrest⟩
      · rintro ⟨hq, hlen, hrest⟩
        exact ⟨by omega, hq, hrest⟩

/-- The request is composed whatever was composed before. -/
def MustCompose (s : ExynosMPP) (r : Request) : Prop :=
  p.canUseVotf s.mPhysicalType r.src = true ∨ r.mAssignedDisplayInfo.skipM2mProcessing = false ∨
    s.mAllocOutBufFlag = false

theorem canUsePrevFrame_iff (s : ExynosMPP) (r : Request) :
    canUsePrevFrame p s r = true ↔
      ¬ MustCompose p s r ∧ s.mPrevFrameInfo.map watch = r.mAssignedSources.map watch ∧
        (s.mDstImgs (prevDstIndex s)).bufferHandle ≠ none := by
  rw [← sameSources_iff]
  unfold canUsePrevFrame MustCompose
  split_ifs <;> simp_all

/-! ### A request that is composed -/

/-- The configuration of the MPP, which no request changes. -/
structure SameMPP (s s' : ExynosMPP) : Prop where
  physical : s'.mPhysicalType = s.mPhysicalType
  combo : s'.isG2DCombo = s.isG2DCombo
  sources : s'.mMaxSrcLayerNum = s.mMaxSrcLayerNum
  alloc : s'.mAllocOutBufFlag = s.mAllocOutBufFlag

theorem SameMPP.rfl' (s : ExynosMPP) : SameMPP s s :=
  ⟨rfl, rfl, rfl, rfl⟩

theorem SameMPP.trans {s t u : ExynosMPP} (h : SameMPP s t) (h' : SameMPP t u) : SameMPP s u :=
  ⟨h'.physical.trans h.physical, h'.combo.trans h.combo, h'.sources.trans h.sources,
    h'.alloc.trans h.alloc⟩

/-- The current buffer is there and has the format of the request. -/
structure Prepared (s : ExynosMPP) (r : Request) (s₁ : ExynosMPP) : Prop where
  same : SameMPP s s₁
  current : s₁.mCurrentDstBuf = s.mCurrentDstBuf
  info : s₁.mPrevFrameInfo = s.mPrevFrameInfo
  buffer : s.mAllocOutBufFlag = true → (s₁.mDstImgs s.mCurrentDstBuf).bufferHandle ≠ none
  format : (s₁.mDstImgs s.mCurrentDstBuf).format = dstFormat p s r
  others : ∀ i, i ≠ s.mCurrentDstBuf → s₁.mDstImgs i = s.mDstImgs i

theorem needDstBufRealloc_of_none (s : ExynosMPP) (r : Request)
    (h : (s.mDstImgs s.mCurrentDstBuf).bufferHandle = none) : needDstBufRealloc p s r = true := by
  unfold needDstBufRealloc
  rw [h]

theorem prepareDst_prepared {s s₁ : ExynosMPP} {r : Request} {a : Answers}
    (h : prepareDst p s r a = some s₁) : Prepared p s r s₁ := by
  unfold prepareDst at h
  split at h
  · rename_i halloc
    cases h
    refine ⟨SameMPP.rfl' s, rfl, rfl, fun h => ?_, ?_, fun i _ => rfl⟩
    · simp [halloc] at h
    · simp [dstFormat, halloc]
  · split at h
    · obtain ⟨handle, -, rfl⟩ := Option.map_eq_some_iff.mp h
      refine ⟨⟨rfl, rfl, rfl, rfl⟩, rfl, rfl, ?_, ?_, ?_⟩
      · intro _
        simp [setDstImg]
      · simp [setDstImg]
      · intro i hi
        simp [setDstImg, hi]
    · rename_i hrealloc
      cases h
      refine ⟨⟨rfl, rfl, rfl, rfl⟩, rfl, rfl, ?_, ?_, ?_⟩
      · intro _ hnone
        simp only [setDstImg, Function.update_self] at hnone
        exact hrealloc (needDstBufRealloc_of_none p s r hnone)
      · simp [setDstImg]
      · intro i hi
        simp [setDstImg, hi]

/-- `setupDst` keeps the buffer it writes to, and all other buffers. -/
theorem recordCanvas_spec (s : ExynosMPP) (canvas : Option CanvasSetup) :
    SameMPP s (recordCanvas p s canvas) ∧
      (recordCanvas p s canvas).mCurrentDstBuf = s.mCurrentDstBuf ∧
      ∀ i, ((recordCanvas p s canvas).mDstImgs i).bufferHandle = (s.mDstImgs i).bufferHandle := by
  cases canvas with
  | none => exact ⟨SameMPP.rfl' s, rfl, fun _ => rfl⟩
  | some canvas =>
    refine ⟨⟨rfl, rfl, rfl, rfl⟩, rfl, ?_⟩
    intro i
    by_cases hi : i = s.mCurrentDstBuf
    · subst hi
      simp [recordCanvas, setDstImg]
    · simp [recordCanvas, setDstImg, hi]

/-- What a run of the blender was given, and what it left. -/
theorem doPostProcessingInternal_made {s s₂ : ExynosMPP} {r : Request} {a : Answers} {job : Job}
    (h : doPostProcessingInternal p s r a = (s₂, some job)) :
    setupLayers p s r = some job.layers ∧ job.canvas = setupCanvas p s r ∧
      s₂ = recordCanvas p s (setupCanvas p s r) := by
  unfold doPostProcessingInternal at h
  cases hlayers : setupLayers p s r with
  | none =>
    simp only [hlayers] at h
    split_ifs at h
    all_goals cases h
  | some layers =>
    simp only [hlayers] at h
    split_ifs at h
    all_goals cases h
    exact ⟨rfl, rfl, rfl⟩

/-- The state after a request that made a new output. -/
structure Made (s : ExynosMPP) (r : Request) (s' : ExynosMPP) : Prop where
  same : SameMPP s s'
  current : s'.mCurrentDstBuf = s.mCurrentDstBuf
  saved : s'.mPrevFrameInfo = r.mAssignedSources
  buffer : s.mAllocOutBufFlag = true → (s'.mDstImgs s.mCurrentDstBuf).bufferHandle ≠ none

theorem doPostProcessing_made {s s' : ExynosMPP} {r : Request} {a : Answers} {job : Job}
    (h : doPostProcessing p s r a = (s', .made job)) :
    Made s r s' ∧ ∃ s₁, Prepared p s r s₁ ∧ setupLayers p s₁ r = some job.layers ∧
      job.canvas = setupCanvas p s₁ r := by
  unfold doPostProcessing at h
  split_ifs at h with hempty
  · cases h
  · cases hprepare : prepareDst p s r a with
    | none =>
      rw [hprepare] at h
      cases h
    | some s₁ =>
      rw [hprepare] at h
      have hp := prepareDst_prepared p hprepare
      dsimp only at h
      split_ifs at h with hreuse
      · cases h
      · rcases hinternal : doPostProcessingInternal p s₁ r a with ⟨s₂, _ | done⟩
        · rw [hinternal] at h
          cases h
        · rw [hinternal] at h
          cases h
          obtain ⟨hlayers, hcanvas, rfl⟩ := doPostProcessingInternal_made p hinternal
          obtain ⟨hsame, hcurrent, hbuffers⟩ := recordCanvas_spec p s₁ (setupCanvas p s₁ r)
          refine ⟨⟨hp.same.trans ⟨hsame.physical, hsame.combo, hsame.sources, hsame.alloc⟩,
            hcurrent.trans hp.current, rfl, fun halloc => ?_⟩, s₁, hp, hlayers, hcanvas⟩
          simpa [save_frame_info, hbuffers] using hp.buffer halloc

/-! ### When the answer is sound -/

@[simp] theorem increaseDstBuffIndex_same (s : ExynosMPP) : SameMPP s (increaseDstBuffIndex s) := by
  unfold increaseDstBuffIndex
  split
  · exact ⟨rfl, rfl, rfl, rfl⟩
  · exact SameMPP.rfl' s

/-- The index before the next one is the present one. -/
theorem prevDstIndex_increase (s : ExynosMPP) (h : s.mAllocOutBufFlag = true) :
    prevDstIndex (increaseDstBuffIndex s) = s.mCurrentDstBuf := by
  apply Fin.ext
  have hlt := s.mCurrentDstBuf.isLt
  simp only [prevDstIndex, increaseDstBuffIndex, h, if_true]
  unfold NUM_MPP_DST_BUFS at hlt ⊢
  omega

theorem increaseDstBuffIndex_prev (s : ExynosMPP) :
    (increaseDstBuffIndex s).mPrevFrameInfo = s.mPrevFrameInfo ∧
      (increaseDstBuffIndex s).mDstImgs = s.mDstImgs := by
  unfold increaseDstBuffIndex
  split <;> exact ⟨rfl, rfl⟩

def square (handle : Option BufferHandle) : exynos_image where
  fullWidth := 64
  fullHeight := 64
  x := 0
  y := 0
  w := 64
  h := 64
  color := ⟨0, 0, 0, 0⟩
  exynosFormat := ⟨0⟩
  usageFlags := 0
  layerFlags := 0
  bufferHandle := handle
  dataSpace := HAL_DATASPACE_V0_SRGB
  blending := 1
  transform := 0
  compressionType := .NONE
  planeAlpha := 1
  zOrder := 0
  metaParcel := none

/-- `setupLayer` reads no more of a source than `readSource`. -/
theorem setupLayer_of_inputs {s s' : ExynosMPP} (hs : SameMPP s s') {d d' : DisplayInfo}
    (hid : d.id = d'.id) (htype : d.type = d'.type) {q q' : exynos_image × exynos_image}
    (h : readSource q = readSource q') :
    setupLayer p s d q.1 q.2 = setupLayer p s' d' q'.1 q'.2 := by
  simp only [readSource, SourceInputs.mk.injEq] at h
  have hbuffer : setupBuffer p q.1 = setupBuffer p q'.1 := by
    funext handle
    unfold setupBuffer
    simp only [h]
  unfold setupLayer exynos_image.area exynos_image.isDimLayer
  simp only [h, hbuffer, hid, htype, hs.sources]

theorem setupLayers_of_inputs {s s' : ExynosMPP} (hs : SameMPP s s') {r r' : Request}
    (hid : r.mAssignedDisplayInfo.id = r'.mAssignedDisplayInfo.id)
    (htype : r.mAssignedDisplayInfo.type = r'.mAssignedDisplayInfo.type)
    (h : r.mAssignedSources.map readSource = r'.mAssignedSources.map readSource) :
    setupLayers p s r = setupLayers p s' r' := by
  unfold setupLayers
  generalize r.mAssignedSources = l at h
  generalize r'.mAssignedSources = l' at h
  induction l generalizing l' with
  | nil =>
    cases l' with
    | nil => rfl
    | cons q' l' => simp at h
  | cons q l ih =>
    cases l' with
    | nil => simp at h
    | cons q' l' =>
      simp only [List.map_cons, List.cons.injEq] at h
      simp only [List.mapM_cons, setupLayer_of_inputs p hs hid htype h.1, ih l' h.2]

theorem midDataspace_of_inputs {r r' : Request} (space : Dataspace)
    (h : r.mAssignedSources.map readSource = r'.mAssignedSources.map readSource) :
    midDataspace r space = midDataspace r' space := by
  unfold midDataspace
  cases hr : r.mAssignedSources <;> cases hr' : r'.mAssignedSources
  all_goals simp_all [readSource]

theorem getDstMetaInfo_of_inputs {r r' : Request} (space : Dataspace)
    (hmin : r.mAssignedDisplayInfo.minLuminance = r'.mAssignedDisplayInfo.minLuminance)
    (hmax : r.mAssignedDisplayInfo.maxLuminance = r'.mAssignedDisplayInfo.maxLuminance)
    (h : r.mAssignedSources.map readSource = r'.mAssignedSources.map readSource) :
    getDstMetaInfo r space = getDstMetaInfo r' space := by
  have hdisplay : displayMetaInfo r.mAssignedDisplayInfo = displayMetaInfo r'.mAssignedDisplayInfo := by
    simp only [displayMetaInfo, hmin, hmax]
  unfold getDstMetaInfo
  rw [hdisplay]
  generalize r.mAssignedSources = l at h
  generalize r'.mAssignedSources = l' at h
  rcases l with _ | ⟨q, _ | ⟨q₂, l⟩⟩
  · cases l' with
    | nil => rfl
    | cons q' l' => simp at h
  · rcases l' with _ | ⟨q', _ | ⟨q₂', l'⟩⟩
    · simp at h
    · simp only [List.map_cons, List.map_nil, List.cons.injEq, and_true, readSource,
        SourceInputs.mk.injEq] at h
      simp only [h]
    · simp at h
  · rcases l' with _ | ⟨q', _ | ⟨q₂', l'⟩⟩
    · simp at h
    · simp at h
    · rfl

theorem setupDst_of_inputs {s s' t t' : ExynosMPP} (ht : SameMPP t t') {r r' : Request}
    (h : inputs p s r = inputs p s' r') (handle : BufferHandle) {img img' : DstImg}
    (himg : img.format = dstFormat p s r) (himg' : img'.format = dstFormat p s' r')
    (hspace : img.dataspace = img'.dataspace) :
    setupDst p t r handle img = setupDst p t' r' handle img' := by
  simp only [inputs, readTarget, Prod.mk.injEq, TargetInputs.mk.injEq] at h
  obtain ⟨hsources, hformat, hid, htype, hx, hy, hmode, hmin, hmax, hwfd, hcomp⟩ := h
  have hmid := fun space => midDataspace_of_inputs space hsources
  have hmeta := fun space => getDstMetaInfo_of_inputs space hmin hmax hsources
  have hdst : ∀ f space, getDstDataspace p t r f space = getDstDataspace p t' r' f space := by
    intro f space
    simp only [getDstDataspace, ht.sources, hmode, hmid]
  unfold setupDst
  rw [himg, himg', hformat, hspace]
  simp only [hdst, hmeta, hid, htype, hx, hy, hwfd, hcomp, ht.combo, ht.sources, ht.physical]

theorem SameMPP.symm {s s' : ExynosMPP} (h : SameMPP s s') : SameMPP s' s :=
  ⟨h.physical.symm, h.combo.symm, h.sources.symm, h.alloc.symm⟩

/-- **One job for equal inputs.** Two requests with the same inputs are set up alike, so that a
    destination that holds the output of one holds that of the other. -/
theorem job_of_inputs {s s' s₁ s₁' : ExynosMPP} (hs : SameMPP s s') {r r' : Request}
    (hp : Prepared p s r s₁) (hp' : Prepared p s' r' s₁') (h : inputs p s r = inputs p s' r') :
    setupLayers p s₁ r = setupLayers p s₁' r' ∧
      ∀ handle space,
        setupDst p s₁ r handle { s₁.mDstImgs s₁.mCurrentDstBuf with dataspace := space } =
          setupDst p s₁' r' handle { s₁'.mDstImgs s₁'.mCurrentDstBuf with dataspace := space } := by
  have ht : SameMPP s₁ s₁' := (hp.same.symm.trans hs).trans hp'.same
  have htarget := congrArg Prod.snd h
  constructor
  · exact setupLayers_of_inputs p ht (congrArg TargetInputs.id htarget)
      (congrArg TargetInputs.type htarget) (congrArg Prod.fst h)
  · intro handle space
    apply setupDst_of_inputs p ht h
    · rw [hp.current]
      exact hp.format
    · rw [hp'.current]
      exact hp'.format
    · rfl

/-! ### Runs of frames -/

/-- An MPP with the inputs that the contents of each destination buffer were made of. -/
structure Traced where
  mpp : ExynosMPP
  maker : Fin NUM_MPP_DST_BUFS → Option (List SourceInputs × TargetInputs)

/-- The MPP after a frame; the index is increased by a frame that is presented. -/
def Traced.frame (t : Traced) (r : Request) (a : Answers) : Traced × Outcome :=
  match doPostProcessing p t.mpp r a with
  | (s', .failed) => (⟨s', Function.update t.maker t.mpp.mCurrentDstBuf none⟩, .failed)
  | (s', .reused) => (⟨increaseDstBuffIndex s', t.maker⟩, .reused)
  | (s', .made job) =>
    (⟨increaseDstBuffIndex s',
      Function.update t.maker t.mpp.mCurrentDstBuf (some (inputs p t.mpp r))⟩, .made job)

/-- Consecutive frames none of which failed, from one that was composed: a frame with equal
    compared fields has equal other fields too. -/
inductive Frames : Traced → Request → List SourceInputs × TargetInputs → Prop where
  | first (t : Traced) (r : Request) (a : Answers) (halloc : t.mpp.mAllocOutBufFlag = true)
      (job : Job) (h : (t.frame p r a).2 = .made job) :
      Frames (t.frame p r a).1 r (inputs p t.mpp r)
  | next (t : Traced) (prev r : Request) (read : List SourceInputs × TargetInputs) (a : Answers)
      (hprev : Frames t prev read) (h : (t.frame p r a).2 ≠ .failed)
      (hsame : prev.mAssignedSources.map watch = r.mAssignedSources.map watch →
        read = inputs p t.mpp r) :
      Frames (t.frame p r a).1 r (inputs p t.mpp r)

/-- The buffer shown last was made of the inputs of the last frame. -/
structure Shown (t : Traced) (prev : Request) (read : List SourceInputs × TargetInputs) : Prop where
  alloc : t.mpp.mAllocOutBufFlag = true
  saved : t.mpp.mPrevFrameInfo = prev.mAssignedSources
  maker : t.maker (prevDstIndex t.mpp) = some read

theorem doPostProcessing_reused {s s' : ExynosMPP} {r : Request} {a : Answers}
    (h : doPostProcessing p s r a = (s', .reused)) :
    ∃ s₁, Prepared p s r s₁ ∧ canUsePrevFrame p s₁ r = true ∧
      s' = save_frame_info { s₁ with mCurrentDstBuf := prevDstIndex s₁ } r := by
  unfold doPostProcessing at h
  split_ifs at h with hempty
  · cases h
  · cases hprepare : prepareDst p s r a with
    | none =>
      rw [hprepare] at h
      cases h
    | some s₁ =>
      rw [hprepare] at h
      dsimp only at h
      split_ifs at h with hreuse
      · cases h
        exact ⟨s₁, prepareDst_prepared p hprepare, hreuse.2, rfl⟩
      · rcases hinternal : doPostProcessingInternal p s₁ r a with ⟨s₂, _ | done⟩
        · rw [hinternal] at h
          cases h
        · rw [hinternal] at h
          cases h

theorem frame_made_shown {t : Traced} {r : Request} {a : Answers} {job : Job} {s' : ExynosMPP}
    (halloc : t.mpp.mAllocOutBufFlag = true)
    (h : doPostProcessing p t.mpp r a = (s', .made job)) :
    Shown (t.frame p r a).1 r (inputs p t.mpp r) := by
  have hmade := (doPostProcessing_made p h).1
  have halloc' : s'.mAllocOutBufFlag = true := hmade.same.alloc.trans halloc
  have hframe : (t.frame p r a).1 =
      ⟨increaseDstBuffIndex s',
        Function.update t.maker t.mpp.mCurrentDstBuf (some (inputs p t.mpp r))⟩ := by
    simp only [Traced.frame, h]
  rw [hframe]
  refine ⟨?_, ?_, ?_⟩
  · exact (increaseDstBuffIndex_same s').alloc.trans halloc'
  · exact (increaseDstBuffIndex_prev s').1.trans hmade.saved
  · simp only [prevDstIndex_increase s' halloc', hmade.current, Function.update_self]

theorem frame_reused_shown {t : Traced} {prev r : Request} {a : Answers} {s' : ExynosMPP}
    {read : List SourceInputs × TargetInputs} (ht : Shown t prev read)
    (hsame : prev.mAssignedSources.map watch = r.mAssignedSources.map watch →
      read = inputs p t.mpp r)
    (h : doPostProcessing p t.mpp r a = (s', .reused)) :
    Shown (t.frame p r a).1 r (inputs p t.mpp r) := by
  obtain ⟨s₁, hp, huse, hs'⟩ := doPostProcessing_reused p h
  obtain ⟨-, hwatch, -⟩ := (canUsePrevFrame_iff p s₁ r).mp huse
  have hread : read = inputs p t.mpp r := by
    apply hsame
    rw [← ht.saved, ← hp.info]
    exact hwatch
  have halloc' : s'.mAllocOutBufFlag = true := by
    rw [hs']
    exact hp.same.alloc.trans ht.alloc
  have hframe : (t.frame p r a).1 = ⟨increaseDstBuffIndex s', t.maker⟩ := by
    simp only [Traced.frame, h]
  rw [hframe]
  refine ⟨?_, ?_, ?_⟩
  · exact (increaseDstBuffIndex_same s').alloc.trans halloc'
  · rw [(increaseDstBuffIndex_prev s').1, hs']
    rfl
  · -- the index went one back, and the increase brings it to where it was
    have hindex : s'.mCurrentDstBuf = prevDstIndex t.mpp := by
      rw [hs']
      simp only [save_frame_info, prevDstIndex, hp.current]
    rw [prevDstIndex_increase s' halloc', hindex, ht.maker, hread]

/-- **Reuse over a run.** In a run of frames that do not fail, and where equal compared fields
    come with equal inputs, the buffer shown after each frame was made of its very inputs. -/
theorem shown_of_frames {t : Traced} {prev : Request} {read : List SourceInputs × TargetInputs}
    (h : Frames p t prev read) : Shown t prev read := by
  induction h with
  | first t r a halloc job h =>
    rcases hdo : doPostProcessing p t.mpp r a with ⟨s', _ | _ | job'⟩
    · simp [Traced.frame, hdo] at h
    · simp [Traced.frame, hdo] at h
    · exact frame_made_shown p halloc hdo
  | next t prev r read a hprev h hsame ih =>
    rcases hdo : doPostProcessing p t.mpp r a with ⟨s', _ | _ | job'⟩
    · simp [Traced.frame, hdo] at h
    · exact frame_reused_shown p ih hsame hdo
    · exact frame_made_shown p ih.alloc hdo

end ExynosHal.PrevFrame
