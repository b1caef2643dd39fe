/-
  ExynosHal/AppMarkerWriter.lean
  ==============================
  **The application markers of a JPEG stream.**

  `CIFDWriter` of `libhwjpeg/IFDWriter.h` and `CAppMarkerWriter` of
  `libhwjpeg/AppMarkerWriter.{h,cpp}`, on a memory of bytes with little endian
  numbers.  The layout of `exif_attribute_t` and the numbers of the tags come from a
  header outside the repository: the fields are those that the code reads, and the
  tags are a parameter.
-/
import ExynosHal.TiffDirectory

namespace ExynosHal.AppMarkerWriter

open ExynosHal.ByteMemory ExynosHal.TiffDirectory

def JPEG_MAX_SEGMENT_SIZE : Nat := 2 ^ 16 - 1
def JPEG_MARKER_SIZE : Nat := 2
def JPEG_SEGMENT_LENFIELD_SIZE : Nat := 2
def JPEG_APP1_OEM_RESERVED : Nat := 200
def IFD_FIELDCOUNT_SIZE : Nat := 2
def IFD_NEXTIFDOFFSET_SIZE : Nat := 4
def IFD_VALOFF_SIZE : Nat := 4
def IFD_FIELD_SIZE : Nat := 12
def EXTRA_APPMARKER_MIN : Int := 2
def EXTRA_APPMARKER_LIMIT : Int := 10
def MAX_GPS_PROCESSINGMETHOD_SIZE : Nat := 108
def EXIF_SUBSECTIME_LENGTH : Nat := 5
def EXIF_DATETIME_LENGTH : Nat := 20
def EXIF_OFFSETTIME_LENGTH : Nat := 7
def EXIF_GPSDATESTAMP_LENGTH : Nat := 11

def EXIF_TYPE_BYTE : Nat := 1
def EXIF_TYPE_ASCII : Nat := 2
def EXIF_TYPE_SHORT : Nat := 3
def EXIF_TYPE_LONG : Nat := 4
def EXIF_TYPE_RATIONAL : Nat := 5
def EXIF_TYPE_UNDEFINED : Nat := 7
def EXIF_TYPE_SRATIONAL : Nat := 10

/-- `ASCII` and three zeros. -/
def ExifAsciiPrefix : List UInt8 := [0x41, 0x53, 0x43, 0x49, 0x49, 0, 0, 0]
def ExifIdentifierCode : List UInt8 := [0x45, 0x78, 0x69, 0x66, 0, 0]
def TiffHeader : List UInt8 := [0x49, 0x49, 0x2A, 0, 8, 0, 0, 0]
def ComponentsConfiguration : List UInt8 := [1, 2, 3, 0]
def SceneType : List UInt8 := [1, 0, 0, 0]

/-- The string `0100` that stands for a version. -/
def version0100 : List UInt8 := [0x30, 0x31, 0x30, 0x30]

/-- The `EXIF_TAG_*` constants. -/
inductive Tag where
  | orientation | ycbcrPositioning | xResolution | yResolution | resolutionUnit
  | make | model | software | dateTime | exifIfdPointer | gpsIfdPointer
  | exposureTime | fnumber | exposureProgram | isoSpeedRating | exifVersion
  | dateTimeOrg | dateTimeDigitize | offsetTime | offsetTimeOrg | offsetTimeDigitize
  | shutterSpeed | aperture | brightness | exposureBias | maxAperture
  | meteringMode | flash | flashpixVersion | componentsConfiguration | focalLength
  | subsecTime | subsecTimeOrig | subsecTimeDig | makerNote | userComment
  | colorSpace | pixelXDimension | pixelYDimension | sceneType | customRendered
  | exposureMode | whiteBalance | digitalZoomRatio | focaLengthIn35mmFilm
  | scenceCaptureType | contrast | saturation | sharpness | imageUniqueId
  | interoperability | interoperabilityIndex | interoperabilityVersion
  | gpsVersionId | gpsLatitudeRef | gpsLatitude | gpsLongitudeRef | gpsLongitude
  | gpsAltitudeRef | gpsAltitude | gpsDatestamp | gpsTimestamp | gpsProcessingMethod
  | imageWidth | imageHeight | compressionScheme
  | jpegInterchangeFormat | jpegInterchangeFormatLen
deriving DecidableEq, Repr

abbrev TagCodes := Tag → UInt16

/-! ### `exif_attribute_t` -/

/-- A string up to its terminator, with a length that an `uint32_t` holds. -/
structure CString where
  chars : List UInt8
  nonzero : 0 ∉ chars
  length_lt : chars.length + 1 < 2 ^ 32

def CString.strlen (s : CString) : Nat := s.chars.length

/-- A buffer with a size of type `uint32_t`. -/
structure Buffer where
  bytes : List UInt8
  length_lt : bytes.length < 2 ^ 32

def Buffer.size (b : Buffer) : Nat := b.bytes.length

/-- `rational_t`, and `srational_t` by its bits. -/
structure Rational where
  num : UInt32
  den : UInt32

structure ExifAttribute where
  enableGps : Bool
  enableThumb : Bool
  maker : CString
  model : CString
  software : CString
  orientation : UInt16
  ycbcr_positioning : UInt16
  x_resolution : Rational
  y_resolution : Rational
  resolution_unit : UInt16
  date_time : CString
  exposure_time : Rational
  fnumber : Rational
  exposure_program : UInt16
  iso_speed_rating : UInt16
  exif_version : Vector UInt8 4
  offset_time : CString
  shutter_speed : Rational
  aperture : Rational
  brightness : Rational
  exposure_bias : Rational
  max_aperture : Rational
  metering_mode : UInt16
  flash : UInt16
  focal_length : Rational
  sec_time : CString
  maker_note : Buffer
  user_comment : Buffer
  color_space : UInt16
  width : UInt32
  height : UInt32
  custom_rendered : UInt16
  exposure_mode : UInt16
  white_balance : UInt16
  digital_zoom_ratio : Rational
  focal_length_in_35mm_length : UInt16
  scene_capture_type : UInt16
  contrast : UInt16
  saturation : UInt16
  sharpness : UInt16
  unique_id : CString
  interoperability_index : Bool
  gps_version_id : Vector UInt8 4
  gps_latitude_ref : CString
  gps_latitude : Vector Rational 3
  gps_longitude_ref : CString
  gps_longitude : Vector Rational 3
  gps_altitude_ref : UInt8
  gps_altitude : Rational
  gps_datestamp : CString
  gps_timestamp : Vector Rational 3
  gps_processing_method : CString
  widthThumb : UInt32
  heightThumb : UInt32
  compression_scheme : UInt16

/-- `app_info_t`. -/
structure AppInfo where
  appid : Int
  appData : List UInt8
deriving DecidableEq, Repr

def AppInfo.dataSize (a : AppInfo) : Nat := a.appData.length

/-! ### `CIFDWriter` -/

structure IFDWriter where
  mem : Mem
  base : Nat
  ifdBase : Nat
  value : Nat

namespace IFDWriter

/-- The constructor. -/
def new (mem : Mem) (offset_base ifdbase tagcount : Nat) : IFDWriter where
  mem := mem.write ifdbase (le 2 tagcount)
  base := offset_base
  ifdBase := ifdbase + IFD_FIELDCOUNT_SIZE
  value := ifdbase + IFD_FIELDCOUNT_SIZE + IFD_FIELD_SIZE * tagcount + IFD_NEXTIFDOFFSET_SIZE

/-- `Offset`, before its cast to 32 bits, which storing it does. -/
def offset (w : IFDWriter) (p : Nat) : Nat := p - w.base

/-- Head and value of a field, in the entry or at the end of the values. -/
def writeField (w : IFDWriter) (e : Entry) (outOfLine : Bool) : IFDWriter :=
  if outOfLine then
    { w with
      mem := (w.mem.write w.ifdBase (head e (le 4 (w.offset w.value)))).write w.value e.value
      ifdBase := w.ifdBase + IFD_FIELD_SIZE
      value := w.value + e.value.length }
  else
    { w with
      mem := w.mem.write w.ifdBase (head e e.value)
      ifdBase := w.ifdBase + IFD_FIELD_SIZE }

def shortBytes (vs : List UInt16) : List UInt8 := vs.flatMap fun v => le 2 v.toNat

def rationalBytes (vs : List Rational) : List UInt8 :=
  vs.flatMap fun v => le 4 v.num.toNat ++ le 4 v.den.toNat

/-- `count` bytes of a string, the last one zero. -/
def asciiBytes (count : Nat) (s : CString) : List UInt8 := (s.chars ++ [0]).take (count - 1) ++ [0]

/-- The same after `strncpy`, which fills up with zeros. -/
def cstringBytes (count : Nat) (s : CString) : List UInt8 :=
  (s.chars ++ List.replicate count 0).take (count - 1) ++ [0]

def writeByte (w : IFDWriter) (tag : UInt16) (value : List UInt8) : IFDWriter :=
  w.writeField ⟨tag.toNat, EXIF_TYPE_BYTE, value.length, value⟩
    (decide (IFD_VALOFF_SIZE < value.length))

def writeShort (w : IFDWriter) (tag : UInt16) (value : List UInt16) : IFDWriter :=
  w.writeField ⟨tag.toNat, EXIF_TYPE_SHORT, value.length, shortBytes value⟩
    (decide (IFD_VALOFF_SIZE / 2 < value.length))

/-- Of several values only one byte is stored: no caller has more than one. -/
def writeLong (w : IFDWriter) (tag : UInt16) (value : List UInt32) : IFDWriter :=
  let e : Entry :=
    ⟨tag.toNat, EXIF_TYPE_LONG, value.length, value.flatMap fun v => le 4 v.toNat⟩
  if IFD_VALOFF_SIZE / 4 < value.length then
    w.writeField { e with value := e.value.take 1 } true
  else w.writeField e false

def writeASCII (w : IFDWriter) (tag : UInt16) (count : Nat) (value : CString) : IFDWriter :=
  w.writeField ⟨tag.toNat, EXIF_TYPE_ASCII, count, asciiBytes count value⟩
    (decide (IFD_VALOFF_SIZE < count))

def writeCString (w : IFDWriter) (tag : UInt16) (count : Nat) (string : CString) : IFDWriter :=
  w.writeField ⟨tag.toNat, EXIF_TYPE_ASCII, count, cstringBytes count string⟩
    (decide (IFD_VALOFF_SIZE < count))

def writeRational (w : IFDWriter) (tag : UInt16) (value : List Rational) : IFDWriter :=
  w.writeField ⟨tag.toNat, EXIF_TYPE_RATIONAL, value.length, rationalBytes value⟩ true

def writeSRational (w : IFDWriter) (tag : UInt16) (value : List Rational) : IFDWriter :=
  w.writeField ⟨tag.toNat, EXIF_TYPE_SRATIONAL, value.length, rationalBytes value⟩ true

def writeUndef (w : IFDWriter) (tag : UInt16) (value : List UInt8) : IFDWriter :=
  w.writeField ⟨tag.toNat, EXIF_TYPE_UNDEFINED, value.length, value⟩
    (decide (IFD_VALOFF_SIZE < value.length))

/-- The entry that points to the directory at the end of the values. -/
def beginSubIFD (w : IFDWriter) (tag : UInt16) : IFDWriter :=
  w.writeField ⟨tag.toNat, EXIF_TYPE_LONG, 1, le 4 (w.offset w.value)⟩ false

/-- `EndSubIFD`, with the memory that the other writer left. -/
def endSubIFD (w sub : IFDWriter) : IFDWriter := { w with mem := sub.mem, value := sub.value }

def finish (w : IFDWriter) (last : Bool) : IFDWriter :=
  { w with
    mem := w.mem.write w.ifdBase (le 4 (if last then 0 else w.offset w.value))
    ifdBase := w.ifdBase + IFD_NEXTIFDOFFSET_SIZE }

end IFDWriter

/-! ### `CAppMarkerWriter` -/

/-- Subtraction of type `size_t`. -/
def sizeSub (a b : Nat) : Nat := (a + 2 ^ 64 - b % 2 ^ 64) % 2 ^ 64

/-- The members of the class; `0` is the null pointer.  The string lengths that it
    stores are those of `exif`. -/
structure Writer where
  appBase : Nat
  app1End : Nat
  maxThumbSize : Nat
  szApp1 : Nat
  szApp11 : Nat
  n0thIFDFields : Nat
  n1stIFDFields : Nat
  nExifIFDFields : Nat
  nGPSIFDFields : Nat
  exif : Option ExifAttribute
  extra : Option (List AppInfo)
  mainBase : Nat
  thumbBase : Nat
  thumbSizePlaceholder : Nat

/-- A field that is left out when it is empty. -/
def countIf (c : Bool) (n : Nat) : Nat := if c then n else 0

@[simp] theorem countIf_true (n : Nat) : countIf true n = n := rfl

@[simp] theorem countIf_false (n : Nat) : countIf false n = 0 := rfl

namespace ExifAttribute

variable (e : ExifAttribute)

def hasMake : Bool := decide (0 < e.maker.strlen)
def hasModel : Bool := decide (0 < e.model.strlen)
def hasSoftware : Bool := decide (0 < e.software.strlen)
def hasUniqueID : Bool := decide (0 < e.unique_id.strlen)
def hasOffsetTime : Bool := decide (0 < e.offset_time.strlen)
def hasMakerNote : Bool := decide (0 < e.maker_note.size)
def hasUserComment : Bool := decide (0 < e.user_comment.size)

/-- The characters of the GPS processing method that are stored. -/
def processingMethodLen : Nat :=
  min e.gps_processing_method.strlen
    (MAX_GPS_PROCESSINGMETHOD_SIZE - ExifAsciiPrefix.length - 1)

def hasProcessingMethod : Bool := decide (0 < e.processingMethodLen)

def hasSmallThumb : Bool := decide (e.widthThumb < 16) || decide (e.heightThumb < 16)

/-- A string that is counted by its length in `PrepareAppWriter`: a field, and the
    characters with the terminator behind the table if there are more than three. -/
def stringSize (s : CString) : Nat :=
  countIf (decide (0 < s.strlen))
    (IFD_FIELD_SIZE + countIf (decide (3 < s.strlen)) (s.strlen + 1))

/-- The same for a buffer. -/
def bufferSize (b : Buffer) : Nat :=
  countIf (decide (0 < b.size)) (IFD_FIELD_SIZE + countIf (decide (4 < b.size)) b.size)

def n0thIFDFields : Nat :=
  7 + countIf e.hasMake 1 + countIf e.hasSoftware 1 + countIf e.hasModel 1
    + countIf e.enableGps 1

def nExifIFDFields : Nat :=
  28 + 2 + 3 + countIf e.hasUniqueID 1 + countIf e.hasMakerNote 1
    + countIf e.hasUserComment 1 + countIf e.hasOffsetTime 3 + 1

def nGPSIFDFields : Nat := countIf e.enableGps (8 + 1 + countIf e.hasProcessingMethod 1)

/-- What `PrepareAppWriter` adds up for the 0th directory. -/
def len0th : Nat :=
  (IFD_FIELDCOUNT_SIZE + IFD_VALOFF_SIZE) + IFD_FIELD_SIZE * 7 + 8 * 2 + EXIF_DATETIME_LENGTH
    + stringSize e.maker + stringSize e.software + stringSize e.model
    + countIf e.enableGps IFD_FIELD_SIZE

def lenExif : Nat :=
  (IFD_FIELDCOUNT_SIZE + IFD_VALOFF_SIZE) + IFD_FIELD_SIZE * 28 + 8 * 9
    + (IFD_FIELD_SIZE + EXIF_DATETIME_LENGTH) * 2 + (IFD_FIELD_SIZE + EXIF_SUBSECTIME_LENGTH) * 3
    + stringSize e.unique_id + bufferSize e.maker_note + bufferSize e.user_comment
    + countIf e.hasOffsetTime ((IFD_FIELD_SIZE + EXIF_OFFSETTIME_LENGTH) * 3)

def lenInterop : Nat :=
  IFD_FIELD_SIZE + IFD_FIELDCOUNT_SIZE + IFD_VALOFF_SIZE + IFD_FIELD_SIZE * 2

def lenGPS : Nat :=
  countIf e.enableGps ((IFD_FIELDCOUNT_SIZE + IFD_VALOFF_SIZE) + IFD_FIELD_SIZE * 8 + 8 * 10
    + (IFD_FIELD_SIZE + EXIF_GPSDATESTAMP_LENGTH)
    + countIf e.hasProcessingMethod
        (IFD_FIELD_SIZE + e.processingMethodLen + ExifAsciiPrefix.length + 1))

def len1st : Nat := IFD_FIELDCOUNT_SIZE + IFD_VALOFF_SIZE + IFD_FIELD_SIZE * 6

/-- `applen` before the thumbnail is looked at. -/
def lenWithoutThumb : Nat :=
  JPEG_SEGMENT_LENFIELD_SIZE + ExifIdentifierCode.length + TiffHeader.length
    + e.len0th + e.lenExif + lenInterop + e.lenGPS

/-- The `applen` that `PrepareAppWriter` ends with. -/
def applen : Nat := e.lenWithoutThumb + countIf e.enableThumb len1st

end ExifAttribute

namespace Writer

/-- `Init`. -/
def init (w : Writer) : Writer :=
  { w with
    app1End := 0, szApp1 := 0
    n0thIFDFields := 0, n1stIFDFields := 0, nExifIFDFields := 0, nGPSIFDFields := 0
    thumbBase := 0, maxThumbSize := 0, thumbSizePlaceholder := 0 }

/-- The part of `PrepareAppWriter` about APP1, and whether it goes on. -/
def prepareApp1 (w : Writer) (e : ExifAttribute) : Writer × Bool :=
  let w := { w with
    n0thIFDFields := e.n0thIFDFields
    nExifIFDFields := e.nExifIFDFields
    nGPSIFDFields := e.nGPSIFDFields }
  if e.enableThumb then
    if e.hasSmallThumb then (w, false)
    else
      ({ w with
        n1stIFDFields := 6
        thumbBase := w.appBase + JPEG_MARKER_SIZE + e.applen
        maxThumbSize :=
          sizeSub (sizeSub JPEG_MAX_SEGMENT_SIZE e.applen) JPEG_APP1_OEM_RESERVED
        szApp1 := e.applen % 2 ^ 16 }, true)
  else ({ w with szApp1 := e.applen % 2 ^ 16 }, true)

end Writer

/-- The checks of an extra segment. -/
def AppInfo.isValid (a : AppInfo) : Bool :=
  !(decide (a.appid < EXTRA_APPMARKER_MIN) || decide (EXTRA_APPMARKER_LIMIT ≤ a.appid))
    && !(decide (a.dataSize = 0)
      || decide (JPEG_MAX_SEGMENT_SIZE - JPEG_SEGMENT_LENFIELD_SIZE < a.dataSize))

namespace Writer

/-- `PrepareAppWriter`; the flag tells an early return from the end. -/
def prepareAppWriter (w : Writer) (base : Nat) (exif : Option ExifAttribute)
    (extra : Option (List AppInfo)) : Writer × Bool :=
  let w := init { w with appBase := base, exif := exif }
  let r := match exif with
    | some e => w.prepareApp1 e
    | none => (w, true)
  if r.2 = false then r
  else if (extra.getD []).all AppInfo.isValid then ({ r.1 with extra := extra }, true)
  else (r.1, false)

end Writer

open IFDWriter

/-- The 0th directory up to its last own field. -/
def write0th (t : TagCodes) (e : ExifAttribute) (w : IFDWriter) : IFDWriter :=
  let w := w.writeShort (t .orientation) [e.orientation]
  let w := w.writeShort (t .ycbcrPositioning) [e.ycbcr_positioning]
  let w := w.writeRational (t .xResolution) [e.x_resolution]
  let w := w.writeRational (t .yResolution) [e.y_resolution]
  let w := w.writeShort (t .resolutionUnit) [e.resolution_unit]
  let w := if e.hasMake then w.writeASCII (t .make) (e.maker.strlen + 1) e.maker else w
  let w := if e.hasModel then w.writeASCII (t .model) (e.model.strlen + 1) e.model else w
  let w :=
    if e.hasSoftware then w.writeASCII (t .software) (e.software.strlen + 1) e.software else w
  w.writeCString (t .dateTime) EXIF_DATETIME_LENGTH e.date_time

/-- The Exif directory up to its last own field. -/
def writeExif (t : TagCodes) (e : ExifAttribute) (w : IFDWriter) : IFDWriter :=
  let w := w.writeRational (t .exposureTime) [e.exposure_time]
  let w := w.writeRational (t .fnumber) [e.fnumber]
  let w := w.writeShort (t .exposureProgram) [e.exposure_program]
  let w := w.writeShort (t .isoSpeedRating) [e.iso_speed_rating]
  let w := w.writeUndef (t .exifVersion) e.exif_version.toList
  let w := w.writeCString (t .dateTimeOrg) EXIF_DATETIME_LENGTH e.date_time
  let w := w.writeCString (t .dateTimeDigitize) EXIF_DATETIME_LENGTH e.date_time
  let w := if e.hasOffsetTime then
      let w := w.writeCString (t .offsetTime) EXIF_OFFSETTIME_LENGTH e.offset_time
      let w := w.writeCString (t .offsetTimeOrg) EXIF_OFFSETTIME_LENGTH e.offset_time
      w.writeCString (t .offsetTimeDigitize) EXIF_OFFSETTIME_LENGTH e.offset_time
    else w
  let w := w.writeSRational (t .shutterSpeed) [e.shutter_speed]
  let w := w.writeRational (t .aperture) [e.aperture]
  let w := w.writeSRational (t .brightness) [e.brightness]
  let w := w.writeSRational (t .exposureBias) [e.exposure_bias]
  let w := w.writeRational (t .maxAperture) [e.max_aperture]
  let w := w.writeShort (t .meteringMode) [e.metering_mode]
  let w := w.writeShort (t .flash) [e.flash]
  let w := w.writeUndef (t .flashpixVersion) version0100
  let w := w.writeUndef (t .componentsConfiguration) ComponentsConfiguration
  let w := w.writeRational (t .focalLength) [e.focal_length]
  let w := w.writeCString (t .subsecTime) EXIF_SUBSECTIME_LENGTH e.sec_time
  let w := w.writeCString (t .subsecTimeOrig) EXIF_SUBSECTIME_LENGTH e.sec_time
  let w := w.writeCString (t .subsecTimeDig) EXIF_SUBSECTIME_LENGTH e.sec_time
  let w := if e.hasMakerNote then w.writeUndef (t .makerNote) e.maker_note.bytes else w
  let w := if e.hasUserComment then w.writeUndef (t .userComment) e.user_comment.bytes else w
  let w := w.writeShort (t .colorSpace) [e.color_space]
  let w := w.writeLong (t .pixelXDimension) [e.width]
  let w := w.writeLong (t .pixelYDimension) [e.height]
  let w := w.writeUndef (t .sceneType) SceneType
  let w := w.writeShort (t .customRendered) [e.custom_rendered]
  let w := w.writeShort (t .exposureMode) [e.exposure_mode]
  let w := w.writeShort (t .whiteBalance) [e.white_balance]
  let w := w.writeRational (t .digitalZoomRatio) [e.digital_zoom_ratio]
  let w := w.writeShort (t .focaLengthIn35mmFilm) [e.focal_length_in_35mm_length]
  let w := w.writeShort (t .scenceCaptureType) [e.scene_capture_type]
  let w := w.writeShort (t .contrast) [e.contrast]
  let w := w.writeShort (t .saturation) [e.saturation]
  let w := w.writeShort (t .sharpness) [e.sharpness]
  if e.hasUniqueID then w.writeASCII (t .imageUniqueId) (e.unique_id.strlen + 1) e.unique_id
  else w

/-- `THM` or `R98`. -/
def interoperabilityIndex (e : ExifAttribute) : CString :=
  if e.interoperability_index then ⟨[0x54, 0x48, 0x4D], by decide, by decide⟩
  else ⟨[0x52, 0x39, 0x38], by decide, by decide⟩

def writeInterop (t : TagCodes) (e : ExifAttribute) (w : IFDWriter) : IFDWriter :=
  let w := w.writeASCII (t .interoperabilityIndex) 4 (interoperabilityIndex e)
  w.writeUndef (t .interoperabilityVersion) version0100

/-- Prefix, characters and terminator. -/
def processingMethodBytes (e : ExifAttribute) : List UInt8 :=
  ExifAsciiPrefix ++ e.gps_processing_method.chars.take (min e.gps_processing_method.strlen 99)
    ++ [0]

def writeGPS (t : TagCodes) (e : ExifAttribute) (w : IFDWriter) : IFDWriter :=
  let w := w.writeByte (t .gpsVersionId) e.gps_version_id.toList
  let w := w.writeASCII (t .gpsLatitudeRef) 2 e.gps_latitude_ref
  let w := w.writeRational (t .gpsLatitude) e.gps_latitude.toList
  let w := w.writeASCII (t .gpsLongitudeRef) 2 e.gps_longitude_ref
  let w := w.writeRational (t .gpsLongitude) e.gps_longitude.toList
  let w := w.writeByte (t .gpsAltitudeRef) [e.gps_altitude_ref]
  let w := w.writeRational (t .gpsAltitude) [e.gps_altitude]
  let w := w.writeCString (t .gpsDatestamp) EXIF_GPSDATESTAMP_LENGTH e.gps_datestamp
  let w := w.writeRational (t .gpsTimestamp) e.gps_timestamp.toList
  if 0 < e.gps_processing_method.strlen then
    w.writeUndef (t .gpsProcessingMethod) (processingMethodBytes e)
  else w

/-- A directory inside the values of another one: `body` writes its fields, and
    `Finish(true)` ends it. -/
def writeSubIFD (tag : UInt16) (tagcount : Nat) (body : IFDWriter → IFDWriter) (w : IFDWriter) :
    IFDWriter :=
  let sub := w.value
  let w := w.beginSubIFD tag
  w.endSubIFD ((body (IFDWriter.new w.mem w.base sub tagcount)).finish true)

/-- The Exif directory with the one for interoperability in it. -/
def writeExifAndInterop (t : TagCodes) (e : ExifAttribute) (w : IFDWriter) : IFDWriter :=
  writeSubIFD (t .interoperability) 2 (writeInterop t e) (writeExif t e w)

/-- All directories but the one of the thumbnail. -/
def writeMainIFDs (t : TagCodes) (e : ExifAttribute) (nExif nGPS : Nat) (w : IFDWriter) :
    IFDWriter :=
  let w := writeSubIFD (t .exifIfdPointer) nExif (writeExifAndInterop t e) (write0th t e w)
  if e.enableGps then writeSubIFD (t .gpsIfdPointer) nGPS (writeGPS t e) w else w

/-- The 1st directory; the length of the thumbnail is zero for now. -/
def write1st (t : TagCodes) (e : ExifAttribute) (thumbOffset : Nat) (w : IFDWriter) : IFDWriter :=
  let w := w.writeLong (t .imageWidth) [e.widthThumb]
  let w := w.writeLong (t .imageHeight) [e.heightThumb]
  let w := w.writeShort (t .compressionScheme) [e.compression_scheme]
  let w := w.writeShort (t .orientation) [e.orientation]
  let w := w.writeLong (t .jpegInterchangeFormat) [UInt32.ofNat thumbOffset]
  w.writeLong (t .jpegInterchangeFormatLen) [0]

namespace Writer

/-- The marker, the length and the two headers of APP1. -/
def writeApp1Header (w : Writer) (m : Mem) (current : Nat) (reserve_thumbnail_space : Bool) :
    Mem :=
  let len := w.szApp1
    + countIf reserve_thumbnail_space (w.maxThumbSize + JPEG_APP1_OEM_RESERVED)
  m.write current ([0xFF, 0xE1] ++ be 2 len ++ ExifIdentifierCode ++ TiffHeader)

/-- `WriteAPP1` with `updating` unset: memory and end of the segment. -/
def writeAPP1 (t : TagCodes) (w : Writer) (m : Mem) (current : Nat)
    (reserve_thumbnail_space : Bool) : Mem × Writer × Nat :=
  match w.exif with
  | none => (m, w, current)
  | some e =>
      let m := w.writeApp1Header m current reserve_thumbnail_space
      let tiffheader :=
        current + JPEG_MARKER_SIZE + JPEG_SEGMENT_LENFIELD_SIZE + ExifIdentifierCode.length
      let writer := writeMainIFDs t e w.nExifIFDFields w.nGPSIFDFields
        (IFDWriter.new m tiffheader (tiffheader + TiffHeader.length) w.n0thIFDFields)
      if e.enableThumb then
        let writer := writer.finish false
        let thumbwriter := write1st t e (sizeSub w.thumbBase tiffheader)
          (IFDWriter.new writer.mem tiffheader writer.value w.n1stIFDFields)
        let w := { w with thumbSizePlaceholder := thumbwriter.ifdBase - 4 }
        let thumbwriter := thumbwriter.finish true
        let thumbspace :=
          countIf reserve_thumbnail_space (w.maxThumbSize + JPEG_APP1_OEM_RESERVED)
        (thumbwriter.mem, w, (thumbwriter.value + thumbspace) % 2 ^ 64)
      else
        let writer := writer.finish true
        (writer.mem, w, writer.value)

/-- Marker and length of an extra segment. -/
def appXHeader (a : AppInfo) : List UInt8 :=
  [0xFF, 0xE0 + UInt8.ofNat (a.appid % 16).toNat]
    ++ be 2 (a.dataSize + JPEG_SEGMENT_LENFIELD_SIZE)

/-- One round of the loop of `WriteAPPX`. -/
def writeAppX (just_reserve : Bool) (p : Mem × Nat) (a : AppInfo) : Mem × Nat :=
  let m := p.1.write p.2 (appXHeader a)
  let current := p.2 + JPEG_MARKER_SIZE + JPEG_SEGMENT_LENFIELD_SIZE
  (if just_reserve then m else m.write current a.appData, current + a.dataSize)

def writeAPPX (w : Writer) (m : Mem) (current : Nat) (just_reserve : Bool) : Mem × Nat :=
  (w.extra.getD []).foldl (writeAppX just_reserve) (m, current)

/-- The length field of APP11, which makes the stream behind it aligned. -/
def app11Len (current dummy align : Nat) : Nat :=
  let len := (current + JPEG_MARKER_SIZE + JPEG_SEGMENT_LENFIELD_SIZE) &&& (align - 1)
  ((if len = 0 then 0 else align - len) + dummy + JPEG_SEGMENT_LENFIELD_SIZE) % 2 ^ 16

def writeAPP11 (w : Writer) (m : Mem) (current dummy align : Nat) : Mem × Nat :=
  if dummy = 0 ∧ align = 1 then (m, current)
  else if w.exif.isNone && w.extra.isNone then (m, current)
  else
    let len := app11Len current dummy align
    (m.write current ([0xFF, 0xEB] ++ be 2 len), current + JPEG_MARKER_SIZE + len)

/-- `Write`. -/
def write (t : TagCodes) (w : Writer) (m : Mem) (reserve_thumbnail_space : Bool)
    (dummy align : Nat) (reserve_debug : Bool) : Mem × Writer :=
  let (m, w, app1End) := w.writeAPP1 t m w.appBase reserve_thumbnail_space
  let (m, appXend) := w.writeAPPX m app1End reserve_debug
  let (m, app11end) := w.writeAPP11 m appXend dummy align
  (m, { w with
    app1End := app1End
    szApp11 := (app11end - appXend) % 2 ^ 16
    mainBase := app11end - dummy })

/-- What the extra segments take with their markers and length fields. -/
def segmentsSize (extra : List AppInfo) : Nat :=
  (extra.map fun a => a.dataSize + JPEG_MARKER_SIZE + JPEG_SEGMENT_LENFIELD_SIZE).sum

/-- `IsThumbSpaceReserved`. -/
def isThumbSpaceReserved (w : Writer) : Bool :=
  decide (sizeSub w.app1End w.appBase =
    (w.szApp1 + w.maxThumbSize + JPEG_APP1_OEM_RESERVED + JPEG_MARKER_SIZE) % 2 ^ 64)

/-- `CalculateAPPSize`. -/
def calculateAPPSize (w : Writer) (thumblen : Nat) : Nat :=
  ((if 0 < w.szApp1 then w.szApp1 + JPEG_MARKER_SIZE else 0) + segmentsSize (w.extra.getD [])
    + (if w.isThumbSpaceReserved then w.maxThumbSize + JPEG_APP1_OEM_RESERVED
      else min w.maxThumbSize thumblen)
    + w.szApp11) % 2 ^ 64

/-- `UpdateApp1Size`. -/
def updateApp1Size (w : Writer) (m : Mem) (amount : Nat) : Mem :=
  if w.appBase = 0 then m else m.write (w.appBase + JPEG_MARKER_SIZE) (be 2 (w.szApp1 + amount))

/-- `Finalize`. -/
def finalize (w : Writer) (m : Mem) (thumbsize : Nat) : Mem × Writer :=
  if w.thumbSizePlaceholder = 0 then (m, w)
  else (m.write w.thumbSizePlaceholder (le 4 thumbsize), { w with thumbSizePlaceholder := 0 })

end Writer

/-! ### `UpdateDebugData` -/

/-- `GetSegLen`. -/
def getSegLen (m : Mem) (p : Nat) : Nat := ofBe (m.read p 2)

/-- `GetExtraAPPSize`, which is zero for a list that is not valid. -/
def getExtraAPPSize (info : List AppInfo) : Nat :=
  if info.all AppInfo.isValid then Writer.segmentsSize info else 0

/-- The loop of `UpdateDebugData` at the marker at `jpeg`, with `extra` the segments
    from `idx` on.  A `char` is unsigned, as on the processors of the devices. -/
def updateLoop (m : Mem) (jpeg jpeglen validlen : Nat) (extra : List AppInfo) : Bool × Mem :=
  if m jpeg ≠ 0xFF ∨ validlen = 0 ∨ jpeglen ≤ validlen then (true, m)
  else
    let marker := m (jpeg + 1)
    if marker = 0xDA ∨ marker = 0xD9 then (false, m)
    else
      let appid : Int := (marker &&& 0xF).toNat
      let seglen := getSegLen m (jpeg + 2)
      if marker &&& 0xF0 = 0xE0 ∧ EXTRA_APPMARKER_MIN ≤ appid ∧ appid ≤ EXTRA_APPMARKER_LIMIT then
        match extra with
        -- not reached, as `validlen` is what the remaining segments take
        | [] => (false, m)
        | a :: extra =>
            if appid ≠ a.appid then (false, m)
            else if seglen < a.dataSize + JPEG_SEGMENT_LENFIELD_SIZE then (false, m)
            else
              updateLoop (m.write (jpeg + 2 + JPEG_SEGMENT_LENFIELD_SIZE) a.appData)
                (jpeg + 2 + seglen) (sizeSub (jpeglen - 2) seglen)
                (sizeSub validlen (a.dataSize + JPEG_MARKER_SIZE + JPEG_SEGMENT_LENFIELD_SIZE))
                extra
      else
        let seglen := min (if seglen = 0 then 1 else seglen) (jpeglen - 2)
        updateLoop m (jpeg + 2 + seglen) (jpeglen - 2 - seglen) validlen extra
termination_by (extra.length, jpeglen)
decreasing_by
  · exact .left _ _ (Nat.lt_succ_self _)
  · exact .right _ (by omega)

/-- `UpdateDebugData`. -/
def updateDebugData (m : Mem) (jpeg jpeglen : Nat) (extra : Option (List AppInfo)) : Bool × Mem :=
  match extra with
  | none => (true, m)
  | some extra =>
      let validlen := getExtraAPPSize extra
      if jpeglen < validlen + JPEG_MARKER_SIZE then (false, m)
      else if m jpeg ≠ 0xFF ∨ m (jpeg + 1) ≠ 0xD8 then (false, m)
      else updateLoop m (jpeg + 2) (jpeglen - 2) validlen extra

end ExynosHal.AppMarkerWriter
