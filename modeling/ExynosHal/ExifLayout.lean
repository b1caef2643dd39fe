/-
  ExynosHal/ExifLayout.lean
  =========================
  **What `WriteAPP1` leaves in memory.**

  The fields of a directory are a list, and the writer puts them one by one
  (`write0th_eq`, `writeExif_eq`, ..), so that the contract of a field carries over
  to a directory.  A directory inside another one is `writeSubIFD_spec`.  Put
  together they give the places of all directories (`writeAPP1_spec`), against which
  the sizes are checked that `PrepareAppWriter` adds up.
-/
import ExynosHal.AppMarkerWriter

namespace ExynosHal.ExifLayout

open ExynosHal.ByteMemory ExynosHal.TiffDirectory ExynosHal.AppMarkerWriter
open ExynosHal.AppMarkerWriter.IFDWriter

/-! ### A list of fields -/

/-- A field with its value where there is room for it. -/
def put (w : IFDWriter) (e : Entry) : IFDWriter := w.writeField e (decide (4 < e.value.length))

def cursor (w : IFDWriter) : Cursor := ⟨w.mem, w.ifdBase, w.value⟩

/-- The writer goes from `w` to `w'` by putting the entries `es`. -/
structure Writes (w w' : IFDWriter) (es : List Entry) : Prop where
  base : w'.base = w.base
  value : w'.value = w.value + valuesSize es
  put : Put w.base (cursor w) (cursor w') es

variable {w w' w'' : IFDWriter} {e : Entry} {es fs : List Entry}

theorem Writes.nil : Writes w w [] := ⟨rfl, rfl, .nil⟩

theorem Writes.append (h : Writes w w' es) (h' : Writes w' w'' fs) : Writes w w'' (es ++ fs) where
  base := h'.base.trans h.base
  value := by rw [h'.value, h.value, valuesSize_append, Nat.add_assoc]
  put := by
    have hput := h'.put
    rw [h.base] at hput
    exact h.put.append hput (.inl h.value)

theorem put_writes (w : IFDWriter) (e : Entry) : Writes w (put w e) [e] := by
  unfold put writeField
  by_cases hl : 4 < e.value.length
  · rw [if_pos (decide_eq_true hl)]
    refine ⟨rfl, ?_, .long hl⟩
    rw [valuesSize_cons, outOfLine_long hl]
    rfl
  · rw [if_neg (by simpa using hl)]
    refine ⟨rfl, ?_, .short (Nat.le_of_not_lt hl)⟩
    rw [valuesSize_cons, outOfLine_short (Nat.le_of_not_lt hl)]
    rfl

theorem foldl_writes (es : List Entry) (w : IFDWriter) : Writes w (es.foldl put w) es := by
  induction es generalizing w with
  | nil => exact .nil
  | cons e es ih => exact (put_writes w e).append (ih (put w e))

/-! ### The fields of the directories -/

def shortField (tag value : UInt16) : Entry := ⟨tag.toNat, EXIF_TYPE_SHORT, 1, le 2 value.toNat⟩

def longField (tag : UInt16) (value : UInt32) : Entry :=
  ⟨tag.toNat, EXIF_TYPE_LONG, 1, le 4 value.toNat⟩

def byteField (tag : UInt16) (value : List UInt8) : Entry :=
  ⟨tag.toNat, EXIF_TYPE_BYTE, value.length, value⟩

def undefField (tag : UInt16) (value : List UInt8) : Entry :=
  ⟨tag.toNat, EXIF_TYPE_UNDEFINED, value.length, value⟩

def rationalField (tag : UInt16) (value : List Rational) : Entry :=
  ⟨tag.toNat, EXIF_TYPE_RATIONAL, value.length, rationalBytes value⟩

def srationalField (tag : UInt16) (value : List Rational) : Entry :=
  ⟨tag.toNat, EXIF_TYPE_SRATIONAL, value.length, rationalBytes value⟩

/-- A string with its terminator. -/
def stringField (tag : UInt16) (s : CString) : Entry :=
  ⟨tag.toNat, EXIF_TYPE_ASCII, s.strlen + 1, s.chars ++ [0]⟩

/-- The first character of a string, which is zero for the empty one. -/
def refField (tag : UInt16) (s : CString) : Entry :=
  ⟨tag.toNat, EXIF_TYPE_ASCII, 2, [s.chars.headD 0, 0]⟩

/-- `count` bytes of a string that is filled up with zeros. -/
def paddedField (tag : UInt16) (count : Nat) (s : CString) : Entry :=
  ⟨tag.toNat, EXIF_TYPE_ASCII, count, cstringBytes count s⟩

/-- The entry that points to the directory at offset `offset`. -/
def pointerField (tag : UInt16) (offset : Nat) : Entry :=
  ⟨tag.toNat, EXIF_TYPE_LONG, 1, le 4 offset⟩

def listIf (c : Bool) (es : List Entry) : List Entry := if c then es else []

section Fields

variable (t : TagCodes) (e : ExifAttribute)

def fields0th : List Entry :=
  [shortField (t .orientation) e.orientation,
    shortField (t .ycbcrPositioning) e.ycbcr_positioning,
    rationalField (t .xResolution) [e.x_resolution],
    rationalField (t .yResolution) [e.y_resolution],
    shortField (t .resolutionUnit) e.resolution_unit]
  ++ listIf e.hasMake [stringField (t .make) e.maker]
  ++ listIf e.hasModel [stringField (t .model) e.model]
  ++ listIf e.hasSoftware [stringField (t .software) e.software]
  ++ [paddedField (t .dateTime) EXIF_DATETIME_LENGTH e.date_time]

def fieldsExif : List Entry :=
  [rationalField (t .exposureTime) [e.exposure_time],
    rationalField (t .fnumber) [e.fnumber],
    shortField (t .exposureProgram) e.exposure_program,
    shortField (t .isoSpeedRating) e.iso_speed_rating,
    undefField (t .exifVersion) e.exif_version.toList,
    paddedField (t .dateTimeOrg) EXIF_DATETIME_LENGTH e.date_time,
    paddedField (t .dateTimeDigitize) EXIF_DATETIME_LENGTH e.date_time]
  ++ listIf e.hasOffsetTime
    [paddedField (t .offsetTime) EXIF_OFFSETTIME_LENGTH e.offset_time,
      paddedField (t .offsetTimeOrg) EXIF_OFFSETTIME_LENGTH e.offset_time,
      paddedField (t .offsetTimeDigitize) EXIF_OFFSETTIME_LENGTH e.offset_time]
  ++ [srationalField (t .shutterSpeed) [e.shutter_speed],
    rationalField (t .aperture) [e.aperture],
    srationalField (t .brightness) [e.brightness],
    srationalField (t .exposureBias) [e.exposure_bias],
    rationalField (t .maxAperture) [e.max_aperture],
    shortField (t .meteringMode) e.metering_mode,
    shortField (t .flash) e.flash,
    undefField (t .flashpixVersion) version0100,
    undefField (t .componentsConfiguration) ComponentsConfiguration,
    rationalField (t .focalLength) [e.focal_length],
    paddedField (t .subsecTime) EXIF_SUBSECTIME_LENGTH e.sec_time,
    paddedField (t .subsecTimeOrig) EXIF_SUBSECTIME_LENGTH e.sec_time,
    paddedField (t .subsecTimeDig) EXIF_SUBSECTIME_LENGTH e.sec_time]
  ++ listIf e.hasMakerNote [undefField (t .makerNote) e.maker_note.bytes]
  ++ listIf e.hasUserComment [undefField (t .userComment) e.user_comment.bytes]
  ++ [shortField (t .colorSpace) e.color_space,
    longField (t .pixelXDimension) e.width,
    longField (t .pixelYDimension) e.height,
    undefField (t .sceneType) SceneType,
    shortField (t .customRendered) e.custom_rendered,
    shortField (t .exposureMode) e.exposure_mode,
    shortField (t .whiteBalance) e.white_balance,
    rationalField (t .digitalZoomRatio) [e.digital_zoom_ratio],
    shortField (t .focaLengthIn35mmFilm) e.focal_length_in_35mm_length,
    shortField (t .scenceCaptureType) e.scene_capture_type,
    shortField (t .contrast) e.contrast,
    shortField (t .saturation) e.saturation,
    shortField (t .sharpness) e.sharpness]
  ++ listIf e.hasUniqueID [stringField (t .imageUniqueId) e.unique_id]

def fieldsInterop : List Entry :=
  [stringField (t .interoperabilityIndex) (interoperabilityIndex e),
    undefField (t .interoperabilityVersion) version0100]

def fieldsGPS : List Entry :=
  [byteField (t .gpsVersionId) e.gps_version_id.toList,
    refField (t .gpsLatitudeRef) e.gps_latitude_ref,
    rationalField (t .gpsLatitude) e.gps_latitude.toList,
    refField (t .gpsLongitudeRef) e.gps_longitude_ref,
    rationalField (t .gpsLongitude) e.gps_longitude.toList,
    byteField (t .gpsAltitudeRef) [e.gps_altitude_ref],
    rationalField (t .gpsAltitude) [e.gps_altitude],
    paddedField (t .gpsDatestamp) EXIF_GPSDATESTAMP_LENGTH e.gps_datestamp,
    rationalField (t .gpsTimestamp) e.gps_timestamp.toList]
  ++ listIf e.hasProcessingMethod [undefField (t .gpsProcessingMethod) (processingMethodBytes e)]

/-- The offset and the length of the thumbnail are the last two. -/
def fields1st (thumbOffset thumbLen : Nat) : List Entry :=
  [longField (t .imageWidth) e.widthThumb,
    longField (t .imageHeight) e.heightThumb,
    shortField (t .compressionScheme) e.compression_scheme,
    shortField (t .orientation) e.orientation,
    longField (t .jpegInterchangeFormat) (UInt32.ofNat thumbOffset),
    longField (t .jpegInterchangeFormatLen) (UInt32.ofNat thumbLen)]

end Fields

/-! ### The writer puts these fields -/

section Steps

variable (w : IFDWriter) (tag : UInt16)

theorem writeShort_eq (v : UInt16) : w.writeShort tag [v] = put w (shortField tag v) := rfl

theorem writeLong_eq (v : UInt32) : w.writeLong tag [v] = put w (longField tag v) := rfl

theorem writeByte_eq (v : List UInt8) : w.writeByte tag v = put w (byteField tag v) := rfl

theorem writeUndef_eq (v : List UInt8) : w.writeUndef tag v = put w (undefField tag v) := rfl

theorem rationalBytes_length (vs : List Rational) : (rationalBytes vs).length = 8 * vs.length := by
  induction vs with
  | nil => rfl
  | cons v vs ih =>
    rw [rationalBytes, List.flatMap_cons, List.length_append, ← rationalBytes, ih,
      List.length_append, le_length, le_length, List.length_cons]
    omega

theorem writeRational_eq (v : List Rational) (hv : v ≠ []) :
    w.writeRational tag v = put w (rationalField tag v) := by
  have hpos : 0 < v.length := List.length_pos_iff.mpr hv
  have hlen : 4 < (rationalField tag v).value.length := by
    show 4 < (rationalBytes v).length
    rw [rationalBytes_length]; omega
  rw [put, decide_eq_true hlen]
  rfl

theorem writeSRational_eq (v : Rational) :
    w.writeSRational tag [v] = put w (srationalField tag [v]) := rfl

theorem cstringBytes_length {count : Nat} (hc : 0 < count) (s : CString) :
    (cstringBytes count s).length = count := by
  simp only [cstringBytes, List.length_append, List.length_take, List.length_replicate,
    List.length_cons, List.length_nil]
  omega

theorem writeCString_eq {count : Nat} (hc : 0 < count) (s : CString) :
    w.writeCString tag count s = put w (paddedField tag count s) := by
  have hlen : (paddedField tag count s).value.length = count := cstringBytes_length hc s
  rw [put, hlen]
  rfl

theorem asciiBytes_string (s : CString) : asciiBytes (s.strlen + 1) s = s.chars ++ [0] := by
  simp [asciiBytes, CString.strlen]

theorem writeASCII_string (s : CString) :
    w.writeASCII tag (s.strlen + 1) s = put w (stringField tag s) := by
  have hlen : (stringField tag s).value.length = s.strlen + 1 := by
    simp [stringField, CString.strlen]
  rw [put, hlen, writeASCII, asciiBytes_string]
  rfl

theorem asciiBytes_ref (s : CString) : asciiBytes 2 s = [s.chars.headD 0, 0] := by
  unfold asciiBytes
  cases s.chars <;> rfl

theorem writeASCII_ref (s : CString) : w.writeASCII tag 2 s = put w (refField tag s) := by
  rw [writeASCII, asciiBytes_ref]
  rfl

theorem foldl_listIf (c : Bool) (es : List Entry) :
    (listIf c es).foldl put w = if c then es.foldl put w else w := by
  cases c <;> rfl

end Steps

section Directories

variable (t : TagCodes) (e : ExifAttribute) (w : IFDWriter)

theorem write0th_eq : write0th t e w = (fields0th t e).foldl put w := by
  simp only [write0th, fields0th, List.foldl_append, List.foldl_cons, List.foldl_nil, foldl_listIf,
    writeShort_eq, writeRational_eq, writeASCII_string, ne_eq, List.cons_ne_nil, not_false_eq_true,
    writeCString_eq _ _ (show 0 < EXIF_DATETIME_LENGTH by decide)]

theorem writeExif_eq : writeExif t e w = (fieldsExif t e).foldl put w := by
  have hd : 0 < EXIF_DATETIME_LENGTH := by decide
  have ho : 0 < EXIF_OFFSETTIME_LENGTH := by decide
  have hs : 0 < EXIF_SUBSECTIME_LENGTH := by decide
  simp only [writeExif, fieldsExif, List.foldl_append, List.foldl_cons, List.foldl_nil,
    foldl_listIf, writeShort_eq, writeLong_eq, writeUndef_eq, writeRational_eq, writeSRational_eq,
    writeASCII_string, ne_eq, List.cons_ne_nil, not_false_eq_true, writeCString_eq _ _ hd,
    writeCString_eq _ _ ho, writeCString_eq _ _ hs]

theorem writeInterop_eq : writeInterop t e w = (fieldsInterop t e).foldl put w := by
  have hlen : (interoperabilityIndex e).strlen + 1 = 4 := by
    unfold interoperabilityIndex
    split <;> rfl
  simp only [writeInterop, fieldsInterop, List.foldl_cons, List.foldl_nil, writeUndef_eq, ← hlen,
    writeASCII_string]

theorem writeGPS_eq : writeGPS t e w = (fieldsGPS t e).foldl put w := by
  have hg : 0 < EXIF_GPSDATESTAMP_LENGTH := by decide
  have hne : ∀ v : Vector Rational 3, v.toList ≠ [] := by
    intro v hv
    have hlen := congrArg List.length hv
    simp at hlen
  have hp : e.hasProcessingMethod = decide (0 < e.gps_processing_method.strlen) := by
    have hmin : e.processingMethodLen = min e.gps_processing_method.strlen 99 := rfl
    unfold ExifAttribute.hasProcessingMethod
    rw [hmin]
    exact decide_eq_decide.mpr ⟨fun h => by omega, fun h => by omega⟩
  simp only [writeGPS, fieldsGPS, List.foldl_append, List.foldl_cons, List.foldl_nil, foldl_listIf,
    writeByte_eq, writeUndef_eq, writeASCII_ref, writeRational_eq _ _ _ (hne _), writeRational_eq,
    ne_eq, List.cons_ne_nil, not_false_eq_true, writeCString_eq _ _ hg, hp, decide_eq_true_eq]

theorem write1st_eq (thumbOffset : Nat) :
    write1st t e thumbOffset w = (fields1st t e thumbOffset 0).foldl put w := rfl

end Directories

/-! ### Counts and sizes -/

section Sizes

variable (t : TagCodes) (e : ExifAttribute)

theorem listIf_length (c : Bool) (es : List Entry) : (listIf c es).length = countIf c es.length := by
  cases c <;> rfl

theorem valuesSize_listIf (c : Bool) (es : List Entry) :
    valuesSize (listIf c es) = countIf c (valuesSize es) := by
  cases c <;> rfl

theorem fields0th_length :
    (fields0th t e).length + 1 + countIf e.enableGps 1 = e.n0thIFDFields := by
  simp only [fields0th, List.length_append, List.length_cons, List.length_nil, listIf_length,
    ExifAttribute.n0thIFDFields, Nat.zero_add]
  omega

theorem fieldsExif_length : (fieldsExif t e).length + 1 = e.nExifIFDFields := by
  simp only [fieldsExif, List.length_append, List.length_cons, List.length_nil, listIf_length,
    ExifAttribute.nExifIFDFields, Nat.zero_add, Nat.reduceAdd]
  omega

theorem fieldsGPS_length : countIf e.enableGps (fieldsGPS t e).length = e.nGPSIFDFields := by
  simp only [fieldsGPS, List.length_append, List.length_cons, List.length_nil, listIf_length,
    ExifAttribute.nGPSIFDFields, Nat.zero_add, Nat.reduceAdd]

/-- A field that is counted with its string. -/
theorem stringSize_eq (s : CString) : ExifAttribute.stringSize s =
    12 * countIf (decide (0 < s.strlen)) 1
      + countIf (decide (0 < s.strlen)) (outOfLine (s.strlen + 1)) := by
  unfold ExifAttribute.stringSize outOfLine countIf IFD_FIELD_SIZE
  by_cases h : 0 < s.strlen
  · by_cases h3 : 3 < s.strlen
    · rw [decide_eq_true h, decide_eq_true h3, if_pos rfl, if_pos rfl, if_pos rfl, if_pos rfl,
        if_pos (by omega)]
    · rw [decide_eq_true h, decide_eq_false h3, if_pos rfl, if_pos rfl, if_pos rfl,
        if_neg Bool.false_ne_true, if_neg (by omega)]
  · simp [h]

theorem bufferSize_eq (b : Buffer) : ExifAttribute.bufferSize b =
    12 * countIf (decide (0 < b.size)) 1
      + countIf (decide (0 < b.size)) (outOfLine b.size) := by
  unfold ExifAttribute.bufferSize outOfLine countIf IFD_FIELD_SIZE
  by_cases h : 0 < b.size
  · simp [h]
  · simp [h]

@[simp] theorem shortField_size (tag v : UInt16) :
    outOfLine (shortField tag v).value.length = 0 := rfl

@[simp] theorem longField_size (tag : UInt16) (v : UInt32) :
    outOfLine (longField tag v).value.length = 0 := rfl

@[simp] theorem rationalField_size (tag : UInt16) (v : List Rational) :
    outOfLine (rationalField tag v).value.length = 8 * v.length := by
  have hlen : (rationalField tag v).value.length = 8 * v.length := rationalBytes_length v
  rw [hlen]
  cases v with
  | nil => rfl
  | cons v vs => exact outOfLine_long (by rw [List.length_cons]; omega)

@[simp] theorem srationalField_size (tag : UInt16) (v : List Rational) :
    outOfLine (srationalField tag v).value.length = 8 * v.length := rationalField_size tag v

@[simp] theorem paddedField_size (tag : UInt16) {count : Nat} (h : 0 < count) (s : CString) :
    outOfLine (paddedField tag count s).value.length = outOfLine count := by
  have hlen : (paddedField tag count s).value.length = count := cstringBytes_length h s
  rw [hlen]

@[simp] theorem stringField_size (tag : UInt16) (s : CString) :
    (stringField tag s).value.length = s.strlen + 1 := by
  simp [stringField, CString.strlen]

/-- What is counted once is counted `n` times. -/
theorem countIf_mul (c : Bool) (n : Nat) : countIf c n = n * countIf c 1 := by
  cases c <;> simp [countIf]

theorem len0th_eq :
    e.len0th = 2 + 12 * e.n0thIFDFields + 4 + valuesSize (fields0th t e) := by
  have hdate : outOfLine EXIF_DATETIME_LENGTH = 20 := rfl
  have hd : 0 < EXIF_DATETIME_LENGTH := by decide
  simp only [fields0th, valuesSize_append, valuesSize_cons, valuesSize_listIf, shortField_size,
    rationalField_size, stringField_size, paddedField_size _ hd, hdate, valuesSize_nil,
    ExifAttribute.len0th, stringSize_eq, ExifAttribute.n0thIFDFields, ExifAttribute.hasMake,
    ExifAttribute.hasModel, ExifAttribute.hasSoftware, List.length_cons, List.length_nil,
    Nat.add_zero, countIf_mul e.enableGps IFD_FIELD_SIZE]
  simp only [IFD_FIELDCOUNT_SIZE, IFD_VALOFF_SIZE, IFD_FIELD_SIZE, EXIF_DATETIME_LENGTH]
  omega

theorem lenExif_eq :
    e.lenExif + IFD_FIELD_SIZE = 2 + 12 * e.nExifIFDFields + 4 + valuesSize (fieldsExif t e) := by
  have hdate : outOfLine EXIF_DATETIME_LENGTH = 20 := rfl
  have hoffset : outOfLine EXIF_OFFSETTIME_LENGTH = 7 := rfl
  have hsec : outOfLine EXIF_SUBSECTIME_LENGTH = 5 := rfl
  have hd : 0 < EXIF_DATETIME_LENGTH := by decide
  have ho : 0 < EXIF_OFFSETTIME_LENGTH := by decide
  have hs : 0 < EXIF_SUBSECTIME_LENGTH := by decide
  have hundef : ∀ (tag : UInt16) (v : List UInt8), (undefField tag v).value.length = v.length :=
    fun _ _ => rfl
  have hfour : outOfLine 4 = 0 := rfl
  have hversion : version0100.length = 4 := rfl
  have hcomp : ComponentsConfiguration.length = 4 := rfl
  have hscene : SceneType.length = 4 := rfl
  have hnote : ∀ b : Buffer, b.bytes.length = b.size := fun _ => rfl
  simp only [fieldsExif, valuesSize_append, valuesSize_cons, valuesSize_listIf, shortField_size,
    longField_size, rationalField_size, srationalField_size, stringField_size, hundef,
    paddedField_size _ hd, paddedField_size _ ho, paddedField_size _ hs, hdate, hoffset, hsec,
    valuesSize_nil, ExifAttribute.lenExif, stringSize_eq, bufferSize_eq,
    ExifAttribute.nExifIFDFields, ExifAttribute.hasUniqueID, ExifAttribute.hasMakerNote,
    ExifAttribute.hasUserComment, List.length_cons, List.length_nil, Vector.length_toList, hfour,
    hversion, hcomp, hscene, hnote, Nat.add_zero]
  rw [countIf_mul e.hasOffsetTime ((IFD_FIELD_SIZE + EXIF_OFFSETTIME_LENGTH) * 3),
    countIf_mul e.hasOffsetTime 3, countIf_mul e.hasOffsetTime (7 + (7 + 7))]
  simp only [IFD_FIELDCOUNT_SIZE, IFD_VALOFF_SIZE, IFD_FIELD_SIZE, EXIF_DATETIME_LENGTH,
    EXIF_OFFSETTIME_LENGTH, EXIF_SUBSECTIME_LENGTH]
  omega

theorem valuesSize_interop : valuesSize (fieldsInterop t e) = 0 := by
  have hlen : (interoperabilityIndex e).strlen = 3 := by
    unfold interoperabilityIndex
    split <;> rfl
  simp only [fieldsInterop, valuesSize_cons, stringField_size, hlen]
  rfl

theorem processingMethodBytes_length :
    (processingMethodBytes e).length = e.processingMethodLen + ExifAsciiPrefix.length + 1 := by
  have hmin : e.processingMethodLen = min e.gps_processing_method.strlen 99 := rfl
  have hstr : e.gps_processing_method.strlen = e.gps_processing_method.chars.length := rfl
  simp only [processingMethodBytes, List.length_append, List.length_take, List.length_cons,
    List.length_nil, hmin]
  omega

theorem lenGPS_eq :
    e.lenGPS = countIf e.enableGps (2 + 12 * (fieldsGPS t e).length + 4
      + valuesSize (fieldsGPS t e)) := by
  unfold ExifAttribute.lenGPS
  congr 1
  have hg : 0 < EXIF_GPSDATESTAMP_LENGTH := by decide
  have hdate : outOfLine EXIF_GPSDATESTAMP_LENGTH = 11 := rfl
  have hbyte : ∀ (tag : UInt16) (v : List UInt8), (byteField tag v).value.length = v.length :=
    fun _ _ => rfl
  have href : ∀ (tag : UInt16) (s : CString),
      outOfLine (refField tag s).value.length = 0 := fun _ _ => rfl
  have hundef : ∀ (tag : UInt16) (v : List UInt8), (undefField tag v).value.length = v.length :=
    fun _ _ => rfl
  have hfour : outOfLine 4 = 0 := rfl
  have hone : outOfLine 1 = 0 := rfl
  have hmethod : outOfLine (e.processingMethodLen + ExifAsciiPrefix.length + 1) =
      e.processingMethodLen + ExifAsciiPrefix.length + 1 := by
    have hprefix : ExifAsciiPrefix.length = 8 := rfl
    exact outOfLine_long (by omega)
  simp only [fieldsGPS, List.length_append, List.length_cons, List.length_nil, listIf_length,
    valuesSize_append, valuesSize_cons, valuesSize_listIf, hbyte, href, rationalField_size, hundef,
    paddedField_size _ hg, hdate, valuesSize_nil, Vector.length_toList, hfour, hone,
    processingMethodBytes_length, hmethod, Nat.add_zero, Nat.zero_add]
  rw [countIf_mul e.hasProcessingMethod (IFD_FIELD_SIZE + _ + _ + _),
    countIf_mul e.hasProcessingMethod (e.processingMethodLen + _ + _), ← Nat.add_assoc]
  simp only [IFD_FIELDCOUNT_SIZE, IFD_VALOFF_SIZE, IFD_FIELD_SIZE, EXIF_GPSDATESTAMP_LENGTH]
  cases e.hasProcessingMethod
  · rfl
  · simp only [countIf, if_true]; omega

/-- **`PrepareAppWriter` counts what the directories take.** -/
theorem lenWithoutThumb_eq : e.lenWithoutThumb = 16
    + (2 + 12 * e.n0thIFDFields + 4 + valuesSize (fields0th t e))
    + (2 + 12 * e.nExifIFDFields + 4 + valuesSize (fieldsExif t e))
    + directorySize (fieldsInterop t e)
    + countIf e.enableGps (directorySize (fieldsGPS t e)) := by
  unfold directorySize
  rw [← lenGPS_eq, ← len0th_eq, ← lenExif_eq, valuesSize_interop]
  unfold ExifAttribute.lenWithoutThumb ExifAttribute.lenInterop
  simp only [fieldsInterop, List.length_cons, List.length_nil, JPEG_SEGMENT_LENFIELD_SIZE,
    ExifIdentifierCode, TiffHeader, IFD_FIELD_SIZE, IFD_FIELDCOUNT_SIZE, IFD_VALOFF_SIZE]
  omega

end Sizes

/-! ### Directories inside directories -/

/-- What a directory that was started with room for `n` entries has. -/
theorem new_read (m : Mem) (base p n : Nat) :
    (IFDWriter.new m base p n).mem.read p 2 = le 2 n := Mem.read_write_eq (le_length 2 n)

section SubIFD

variable {n : Nat} {body : IFDWriter → IFDWriter} {tag : UInt16}

/-- The writer of the directory inside `w`, before its fields. -/
def subStart (tag : UInt16) (n : Nat) (w : IFDWriter) : IFDWriter :=
  IFDWriter.new (w.beginSubIFD tag).mem w.base w.value n

theorem writeSubIFD_mem : (writeSubIFD tag n body w).mem =
    (body (subStart tag n w)).mem.write (body (subStart tag n w)).ifdBase (le 4 0) := rfl

/-- **A directory inside another one**: the outer one gets the entry that points to
    it, and it stands where the values of the outer one ended. -/
theorem writeSubIFD_spec (hn : es.length = n)
    (hbody : Put w.base (cursor (subStart tag n w)) (cursor (body (subStart tag n w))) es) :
    (writeSubIFD tag n body w).base = w.base ∧
      (writeSubIFD tag n body w).value = (body (subStart tag n w)).value ∧
      Put w.base (cursor w) (cursor (writeSubIFD tag n body w))
        [pointerField tag (w.value - w.base)] ∧
      DirectoryAt (writeSubIFD tag n body w).mem w.base w.value es 0 := by
  have hbegin : Writes w (w.beginSubIFD tag) [pointerField tag (w.value - w.base)] :=
    put_writes w (pointerField tag (w.value - w.base))
  have hdir : DirectoryAt _ _ w.value es 0 := hbody.directory
    (by rw [hn]; exact new_read (w.beginSubIFD tag).mem w.base w.value n) rfl (by rw [hn]; rfl)
  have htable : (body (subStart tag n w)).ifdBase = w.value + 2 + 12 * es.length := hbody.table
  have hvalues : w.value + 2 + 12 * n + 4 + valuesSize es ≤ (body (subStart tag n w)).value :=
    hbody.value
  -- everything behind the pointer happens in the values of `w`
  have hinner : Mem.Keeps (w.beginSubIFD tag).mem (writeSubIFD tag n body w).mem
      fun x => w.value ≤ x ∧ x < (body (subStart tag n w)).value := by
    have hnew : Mem.Keeps (w.beginSubIFD tag).mem (subStart tag n w).mem
        fun x => w.value ≤ x ∧ x < (body (subStart tag n w)).value :=
      Mem.keeps_write fun x hx hxn => by rw [le_length] at hxn; omega
    have hfields : Mem.Keeps (subStart tag n w).mem (body (subStart tag n w)).mem
        fun x => w.value ≤ x ∧ x < (body (subStart tag n w)).value := by
      refine hbody.keeps.mono fun x hx => ?_
      have hstart : (cursor (subStart tag n w)).table = w.value + 2 := rfl
      have hvalue : (cursor (subStart tag n w)).value = w.value + 2 + 12 * n + 4 := rfl
      have htable' : (cursor (body (subStart tag n w))).table = w.value + 2 + 12 * es.length :=
        htable
      have hvalue' : (cursor (body (subStart tag n w))).value = (body (subStart tag n w)).value :=
        rfl
      omega
    have hfinish : Mem.Keeps (body (subStart tag n w)).mem (writeSubIFD tag n body w).mem
        fun x => w.value ≤ x ∧ x < (body (subStart tag n w)).value := by
      rw [writeSubIFD_mem]
      exact Mem.keeps_write fun x hx hxn => by rw [le_length] at hxn; omega
    exact (hnew.trans hfields).trans hfinish
  refine ⟨hbegin.base, rfl, ⟨rfl, ?_, ?_, fun hroom i hi => ?_⟩, hdir⟩
  · show w.value + 0 ≤ (body (subStart tag n w)).value
    omega
  · refine (hbegin.put.keeps.mono fun x hx => ?_).trans (hinner.mono fun x hx => .inr hx)
    have hsame : (cursor (w.beginSubIFD tag)).value = (cursor w).value := rfl
    have htab : (cursor (w.beginSubIFD tag)).table =
      (cursor (writeSubIFD tag n body w)).table := rfl
    omega
  · have hroom' : w.ifdBase + 12 ≤ w.value := hroom
    have hi0 : i = 0 := by simpa using hi
    subst hi0
    refine (hbegin.put.entry hroom 0 hi).keeps hinner (fun x hx hxn => ?_) (fun x hx hxn => ?_)
    · have hx' : x < w.ifdBase + 12 := hxn
      omega
    · have hx' : w.value ≤ x := hx
      have hxn' : x < w.value := hxn
      omega

/-- A directory in the values of the inner one is not disturbed by its end. -/
theorem writeSubIFD_keeps {p next base : Nat} {fs : List Entry}
    (h : DirectoryAt (body (subStart tag n w)).mem base p fs next)
    (htable : (body (subStart tag n w)).ifdBase + 4 ≤ p) :
    DirectoryAt (writeSubIFD tag n body w).mem base p fs next := by
  rw [writeSubIFD_mem]
  refine h.keeps (T := fun x => x < p) (Mem.keeps_write fun x hx hxn => ?_)
    fun x hx hxn => Nat.not_lt.mpr hx
  rw [le_length] at hxn
  omega

/-- An inner directory that is a list of fields. -/
theorem writeSubIFD_fields (tag : UInt16) (hn : es.length = n) (hbody : ∀ w, body w = es.foldl put w) :
    (writeSubIFD tag n body w).base = w.base ∧
      (writeSubIFD tag n body w).value = w.value + directorySize es ∧
      Put w.base (cursor w) (cursor (writeSubIFD tag n body w))
        [pointerField tag (w.value - w.base)] ∧
      DirectoryAt (writeSubIFD tag n body w).mem w.base w.value es 0 := by
  have hw := foldl_writes es (subStart tag n w)
  rw [← hbody] at hw
  obtain ⟨hbase, hvalue, hput, hdir⟩ := writeSubIFD_spec (w := w) hn hw.put
  refine ⟨hbase, ?_, hput, hdir⟩
  rw [hvalue, hw.value, directorySize, hn]
  show w.value + 2 + 12 * n + 4 + valuesSize es = _
  omega

end SubIFD

/-! ### The places of the directories -/

section Places

variable (t : TagCodes) (e : ExifAttribute)

/-- Offsets from the TIFF header; the 0th directory stands at 8. -/
def exifOffset : Nat := 8 + (2 + 12 * e.n0thIFDFields + 4 + valuesSize (fields0th t e))

def interopOffset : Nat :=
  exifOffset t e + (2 + 12 * e.nExifIFDFields + 4 + valuesSize (fieldsExif t e))

def gpsOffset : Nat := interopOffset t e + directorySize (fieldsInterop t e)

def firstOffset : Nat := gpsOffset t e + countIf e.enableGps (directorySize (fieldsGPS t e))

def stopOffset : Nat := firstOffset t e + countIf e.enableThumb ExifAttribute.len1st

/-- The 0th directory with its pointers. -/
def entries0th : List Entry :=
  fields0th t e ++ [pointerField (t .exifIfdPointer) (exifOffset t e)]
    ++ listIf e.enableGps [pointerField (t .gpsIfdPointer) (gpsOffset t e)]

def entriesExif : List Entry :=
  fieldsExif t e ++ [pointerField (t .interoperability) (interopOffset t e)]

theorem entries0th_length : (entries0th t e).length = e.n0thIFDFields := by
  rw [← fields0th_length t e]
  simp only [entries0th, List.length_append, listIf_length, List.length_cons, List.length_nil,
    Nat.zero_add]

theorem entriesExif_length : (entriesExif t e).length = e.nExifIFDFields := by
  rw [← fieldsExif_length t e, entriesExif, List.length_append, List.length_singleton]

theorem valuesSize_pointer (tag : UInt16) (offset : Nat) :
    valuesSize [pointerField tag offset] = 0 := rfl

theorem entries0th_size : 8 + directorySize (entries0th t e) = exifOffset t e := by
  have hnone : countIf e.enableGps 0 = 0 := by cases e.enableGps <;> rfl
  rw [directorySize, entries0th_length, entries0th, valuesSize_append, valuesSize_append,
    valuesSize_listIf, valuesSize_pointer, valuesSize_pointer, hnone]
  rfl

theorem entriesExif_size :
    exifOffset t e + directorySize (entriesExif t e) = interopOffset t e := by
  have hsize : valuesSize (entriesExif t e) = valuesSize (fieldsExif t e) := by
    rw [entriesExif, valuesSize_append, valuesSize_pointer, Nat.add_zero]
  rw [directorySize, entriesExif_length, hsize, interopOffset]

/-- The table and the values of the 0th directory end before the other directories. -/
theorem exifOffset_le_firstOffset : exifOffset t e ≤ firstOffset t e := by
  have hinterop : exifOffset t e ≤ interopOffset t e := Nat.le_add_right _ _
  have hgps : interopOffset t e ≤ gpsOffset t e := Nat.le_add_right _ _
  exact Nat.le_trans hinterop (Nat.le_trans hgps (Nat.le_add_right _ _))

theorem applen_eq : e.applen = 8 + stopOffset t e := by
  unfold ExifAttribute.applen stopOffset firstOffset gpsOffset interopOffset exifOffset
  rw [lenWithoutThumb_eq t e]
  omega

end Places

/-- The directories that entries of others point to. -/
structure SubDirectories (t : TagCodes) (e : ExifAttribute) (m : Mem) (tiff : Nat) : Prop where
  exif : DirectoryAt m tiff (tiff + exifOffset t e) (entriesExif t e) 0
  interop : DirectoryAt m tiff (tiff + interopOffset t e) (fieldsInterop t e) 0
  gps : e.enableGps = true → DirectoryAt m tiff (tiff + gpsOffset t e) (fieldsGPS t e) 0

section Main

variable {t : TagCodes} {e : ExifAttribute} {tiff : Nat}

/-- The Exif directory with the one that its last entry points to. -/
theorem writeExifAndInterop_spec {pos : Nat}
    (hpos : pos = w.value + valuesSize (fieldsExif t e)) :
    (writeExifAndInterop t e w).value = pos + directorySize (fieldsInterop t e) ∧
      Put w.base (cursor w) (cursor (writeExifAndInterop t e w))
        (fieldsExif t e ++ [pointerField (t .interoperability) (pos - w.base)]) ∧
      DirectoryAt (writeExifAndInterop t e w).mem w.base pos (fieldsInterop t e) 0 := by
  have hw := foldl_writes (fieldsExif t e) w
  rw [← writeExif_eq] at hw
  obtain ⟨-, hvalue, hput, hdir⟩ := writeSubIFD_fields (w := writeExif t e w) (n := 2)
    (t .interoperability) rfl (writeInterop_eq t e)
  rw [hw.base, hw.value, ← hpos] at hput
  rw [hw.base, hw.value, ← hpos] at hdir
  rw [hw.value, ← hpos] at hvalue
  exact ⟨hvalue, hw.put.append hput (.inl hw.value), hdir⟩

/-- The 0th directory up to the pointer to the Exif directory. -/
theorem write0thAndExif_spec {w' : IFDWriter} (hbase : w.base = tiff)
    (hvalue : w.value = tiff + 8 + 2 + 12 * e.n0thIFDFields + 4)
    (hw' : w' = writeSubIFD (t .exifIfdPointer) e.nExifIFDFields (writeExifAndInterop t e)
      (write0th t e w)) :
    w'.base = tiff ∧ w'.value = tiff + gpsOffset t e ∧
      Put tiff (cursor w) (cursor w')
        (fields0th t e ++ [pointerField (t .exifIfdPointer) (exifOffset t e)]) ∧
      DirectoryAt w'.mem tiff (tiff + exifOffset t e) (entriesExif t e) 0 ∧
      DirectoryAt w'.mem tiff (tiff + interopOffset t e) (fieldsInterop t e) 0 := by
  have hw := foldl_writes (fields0th t e) w
  rw [← write0th_eq] at hw
  have hexif : (write0th t e w).value = tiff + exifOffset t e := by
    rw [hw.value, hvalue, exifOffset]; omega
  have hbase0 : (write0th t e w).base = tiff := hw.base.trans hbase
  have hinterop : tiff + interopOffset t e =
      (subStart (t .exifIfdPointer) e.nExifIFDFields (write0th t e w)).value
        + valuesSize (fieldsExif t e) := by
    show _ = (write0th t e w).value + 2 + 12 * e.nExifIFDFields + 4 + _
    rw [hexif, interopOffset]; omega
  obtain ⟨hvalue', hput, hdir⟩ := writeExifAndInterop_spec hinterop
  have hbase' : (subStart (t .exifIfdPointer) e.nExifIFDFields (write0th t e w)).base = tiff :=
    hbase0
  rw [hbase', Nat.add_sub_cancel_left] at hput
  rw [hbase'] at hdir
  have htable := hput.table
  have hput' : Put (write0th t e w).base _ _ (entriesExif t e) := hbase0 ▸ hput
  obtain ⟨hb, hv, hp, hd⟩ := writeSubIFD_spec (entriesExif_length t e) hput'
  rw [hbase0, hexif, Nat.add_sub_cancel_left] at hp
  rw [hbase0, hexif] at hd
  have hput0 := hw.put
  rw [hbase] at hput0
  subst hw'
  refine ⟨hb.trans hbase0, ?_, hput0.append hp (.inl hw.value), hd,
    writeSubIFD_keeps hdir ?_⟩
  · rw [hv, hvalue', gpsOffset, Nat.add_assoc]
  · have hsize := entriesExif_size t e
    rw [directorySize] at hsize
    have htable' : (writeExifAndInterop t e
        (subStart (t .exifIfdPointer) e.nExifIFDFields (write0th t e w))).ifdBase =
        (write0th t e w).value + 2 + 12 * (entriesExif t e).length := htable
    omega

theorem SubDirectories.keeps {m m' : Mem} {T : Nat → Prop} (h : SubDirectories t e m tiff)
    (hk : Mem.Keeps m m' T)
    (hout : ∀ x, tiff + exifOffset t e ≤ x → x < tiff + firstOffset t e → ¬ T x) :
    SubDirectories t e m' tiff := by
  have hexif := entriesExif_size t e
  have hinterop : interopOffset t e + directorySize (fieldsInterop t e) = gpsOffset t e := rfl
  have hgps : gpsOffset t e ≤ firstOffset t e := Nat.le_add_right _ _
  refine ⟨h.exif.keeps hk fun x hx hxn => hout x (by omega) (by omega),
    h.interop.keeps hk fun x hx hxn => hout x (by omega) (by omega), fun hg => ?_⟩
  have hfirst : gpsOffset t e + directorySize (fieldsGPS t e) = firstOffset t e := by
    rw [firstOffset, hg, countIf_true]
  exact (h.gps hg).keeps hk fun x hx hxn => hout x (by omega) (by omega)

/-- **All directories but the one of the thumbnail**, the 0th one without its end. -/
theorem writeMainIFDs_spec {w' : IFDWriter} (hbase : w.base = tiff)
    (htable : w.ifdBase = tiff + 8 + 2)
    (hvalue : w.value = tiff + 8 + 2 + 12 * e.n0thIFDFields + 4)
    (hw' : w' = writeMainIFDs t e e.nExifIFDFields e.nGPSIFDFields w) :
    w'.base = tiff ∧ w'.value = tiff + firstOffset t e ∧
      Put tiff (cursor w) (cursor w') (entries0th t e) ∧ SubDirectories t e w'.mem tiff := by
  obtain ⟨hb, hv, hp, hexif, hinterop⟩ := write0thAndExif_spec hbase hvalue rfl
  cases hg : e.enableGps
  · have hsame : w' = writeSubIFD (t .exifIfdPointer) e.nExifIFDFields (writeExifAndInterop t e)
        (write0th t e w) := by
      rw [hw', writeMainIFDs, hg, if_neg Bool.false_ne_true]
    rw [← hsame] at hb hv hp hexif hinterop
    refine ⟨hb, ?_, ?_, hexif, hinterop, fun h => absurd (hg ▸ h) Bool.false_ne_true⟩
    · rw [hv, firstOffset, hg, countIf_false, Nat.add_zero]
    · rw [entries0th, hg, listIf, if_neg Bool.false_ne_true, List.append_nil]
      exact hp
  · have hn : (fieldsGPS t e).length = e.nGPSIFDFields := by
      rw [← fieldsGPS_length t e, hg, countIf_true]
    have hsame : w' = writeSubIFD (t .gpsIfdPointer) e.nGPSIFDFields (writeGPS t e)
        (writeSubIFD (t .exifIfdPointer) e.nExifIFDFields (writeExifAndInterop t e)
          (write0th t e w)) := by
      rw [hw', writeMainIFDs, hg, if_pos rfl]
    obtain ⟨hb', hv', hp', hd'⟩ := writeSubIFD_fields (t .gpsIfdPointer)
      (w := writeSubIFD (t .exifIfdPointer) e.nExifIFDFields (writeExifAndInterop t e)
        (write0th t e w)) hn (writeGPS_eq t e)
    rw [← hsame] at hb' hv' hp' hd'
    rw [hb, hv, Nat.add_sub_cancel_left] at hp'
    rw [hb, hv] at hd'
    rw [hv] at hv'
    have hput : Put tiff (cursor w) (cursor w') (entries0th t e) := by
      rw [entries0th, hg, listIf, if_pos rfl]
      refine hp.append hp' (.inr fun e he => ?_)
      rw [List.mem_singleton.mp he]
      exact Nat.le_refl _
    have hroom : w'.ifdBase = w.ifdBase + 12 * (entries0th t e).length := hput.table
    rw [entries0th_length, htable] at hroom
    have hexif' := entriesExif_size t e
    have hinterop' : interopOffset t e + directorySize (fieldsInterop t e) = gpsOffset t e := rfl
    have hzeroth := entries0th_size t e
    rw [directorySize, entries0th_length] at hzeroth
    have hout : ∀ x, tiff + exifOffset t e ≤ x → x < tiff + gpsOffset t e →
        ¬ (((writeSubIFD (t .exifIfdPointer) e.nExifIFDFields (writeExifAndInterop t e)
          (write0th t e w)).ifdBase ≤ x ∧ x < w'.ifdBase) ∨
          ((writeSubIFD (t .exifIfdPointer) e.nExifIFDFields (writeExifAndInterop t e)
            (write0th t e w)).value ≤ x ∧ x < w'.value)) := by
      intro x hx hxn
      omega
    refine ⟨hb'.trans hb, ?_, hput, hexif.keeps hp'.keeps fun x hx hxn => hout x hx (by omega),
      hinterop.keeps hp'.keeps fun x hx hxn => hout x (by omega) (by omega), fun _ => hd'⟩
    rw [hv', firstOffset, hg, countIf_true, Nat.add_assoc]

end Main

/-! ### The whole segment -/

/-- What `PrepareAppWriter` leaves for `WriteAPP1` when it reaches its end. -/
structure Prepared (e : ExifAttribute) (w : Writer) : Prop where
  exif : w.exif = some e
  n0th : w.n0thIFDFields = e.n0thIFDFields
  nExif : w.nExifIFDFields = e.nExifIFDFields
  nGPS : w.nGPSIFDFields = e.nGPSIFDFields
  szApp1 : w.szApp1 = e.applen % 2 ^ 16
  n1st : e.enableThumb = true → w.n1stIFDFields = 6
  thumbBase : e.enableThumb = true → w.thumbBase = w.appBase + JPEG_MARKER_SIZE + e.applen
  noThumb : e.enableThumb = false → w.thumbBase = 0
  maxThumbSize : w.maxThumbSize = if e.enableThumb then
    sizeSub (sizeSub JPEG_MAX_SEGMENT_SIZE e.applen) JPEG_APP1_OEM_RESERVED else 0

theorem prepareApp1_prepared {w : Writer} {e : ExifAttribute} (hexif : w.exif = some e)
    (hthumb : w.maxThumbSize = 0) (hbase : w.thumbBase = 0) (h : (w.prepareApp1 e).2 = true) :
    Prepared e (w.prepareApp1 e).1 ∧ (w.prepareApp1 e).1.appBase = w.appBase := by
  unfold Writer.prepareApp1 at h ⊢
  cases ht : e.enableThumb
  · have hno : e.enableThumb ≠ true := ht ▸ Bool.false_ne_true
    simp only [Bool.false_eq_true, if_false]
    refine ⟨⟨hexif, rfl, rfl, rfl, rfl, fun h => absurd h hno, fun h => absurd h hno,
      fun _ => hbase, ?_⟩, trivial⟩
    rw [if_neg hno]
    exact hthumb
  · cases hs : e.hasSmallThumb
    · simp only [if_true, Bool.false_eq_true, if_false]
      refine ⟨⟨hexif, rfl, rfl, rfl, rfl, fun _ => rfl, fun _ => rfl,
        fun h => absurd (ht.symm.trans h) Bool.true_eq_false.mp, ?_⟩, trivial⟩
      rw [if_pos ht]
    · simp only [ht, hs, if_true] at h
      exact absurd h Bool.false_ne_true

theorem Prepared.extra {e : ExifAttribute} {w : Writer} (h : Prepared e w)
    (extra : Option (List AppInfo)) : Prepared e { w with extra := extra } :=
  ⟨h.exif, h.n0th, h.nExif, h.nGPS, h.szApp1, h.n1st, h.thumbBase, h.noThumb, h.maxThumbSize⟩

theorem prepareAppWriter_prepared {w : Writer} {base : Nat} {e : ExifAttribute}
    {extra : Option (List AppInfo)} (h : (w.prepareAppWriter base (some e) extra).2 = true) :
    Prepared e (w.prepareAppWriter base (some e) extra).1 ∧
      (w.prepareAppWriter base (some e) extra).1.appBase = base ∧
      (w.prepareAppWriter base (some e) extra).1.extra = extra := by
  unfold Writer.prepareAppWriter at h ⊢
  dsimp only at h ⊢
  by_cases hr : ((Writer.init { w with appBase := base, exif := some e }).prepareApp1 e).2 = false
  · rw [if_pos hr, hr] at h
    exact absurd h Bool.false_ne_true
  · rw [if_neg hr] at h ⊢
    rw [Bool.not_eq_false] at hr
    obtain ⟨hprep, hbase⟩ := prepareApp1_prepared rfl rfl rfl hr
    split at h
    · rw [if_pos ‹_›]
      exact ⟨hprep.extra extra, hbase, rfl⟩
    · exact absurd h Bool.false_ne_true

/-- Without attributes there is no APP1 and no thumbnail. -/
theorem prepareAppWriter_none {w : Writer} {base : Nat} {extra : Option (List AppInfo)}
    (h : (w.prepareAppWriter base none extra).2 = true) :
    (w.prepareAppWriter base none extra).1 =
      { Writer.init { w with appBase := base, exif := none } with extra := extra } := by
  unfold Writer.prepareAppWriter at h ⊢
  dsimp only at h ⊢
  rw [if_neg (by decide)] at h ⊢
  split at h
  · rw [if_pos ‹_›]
  · exact absurd h Bool.false_ne_true

theorem prepareApp1_stale (w : Writer) (e : ExifAttribute) :
    (w.prepareApp1 e).1.app1End = w.app1End ∧ (w.prepareApp1 e).1.szApp11 = w.szApp11 := by
  unfold Writer.prepareApp1
  cases e.enableThumb
  · simp only [Bool.false_eq_true, if_false, and_self]
  · cases e.hasSmallThumb
    · simp only [Bool.false_eq_true, if_false, if_true, and_self]
    · simp only [if_true, and_self]

/-- The end of APP1 is not known any more; the length of APP11 stays from before. -/
theorem prepareAppWriter_stale (w : Writer) (base : Nat) (exif : Option ExifAttribute)
    (extra : Option (List AppInfo)) :
    (w.prepareAppWriter base exif extra).1.app1End = 0 ∧
      (w.prepareAppWriter base exif extra).1.szApp11 = w.szApp11 := by
  unfold Writer.prepareAppWriter
  generalize hinit : Writer.init { w with appBase := base, exif := exif } = w'
  have hend : w'.app1End = 0 := by rw [← hinit]; rfl
  have h11 : w'.szApp11 = w.szApp11 := by rw [← hinit]; rfl
  cases exif with
  | none =>
      dsimp only
      rw [if_neg (by decide)]
      split
      · exact ⟨hend, h11⟩
      · exact ⟨hend, h11⟩
  | some e =>
      obtain ⟨hend', h11'⟩ := prepareApp1_stale w' e
      dsimp only
      generalize w'.prepareApp1 e = r at hend' h11' ⊢
      rw [hend] at hend'
      rw [h11] at h11'
      split
      · exact ⟨hend', h11'⟩
      · split
        · exact ⟨hend', h11'⟩
        · exact ⟨hend', h11'⟩

/-- All directories in their places, for a thumbnail of the given length. -/
structure Directories (t : TagCodes) (e : ExifAttribute) (m : Mem) (tiff thumbLen : Nat) :
    Prop where
  zeroth : DirectoryAt m tiff (tiff + 8) (entries0th t e)
    (if e.enableThumb then firstOffset t e else 0)
  sub : SubDirectories t e m tiff
  first : e.enableThumb = true →
    DirectoryAt m tiff (tiff + firstOffset t e) (fields1st t e (stopOffset t e) thumbLen) 0

theorem Directories.keeps {t : TagCodes} {e : ExifAttribute} {m m' : Mem} {tiff thumbLen : Nat}
    {T : Nat → Prop} (h : Directories t e m tiff thumbLen) (hk : Mem.Keeps m m' T)
    (hout : ∀ x, tiff + 8 ≤ x → x < tiff + stopOffset t e → ¬ T x) :
    Directories t e m' tiff thumbLen := by
  have hzeroth := entries0th_size t e
  have hexif := exifOffset_le_firstOffset t e
  have hfirst : firstOffset t e ≤ stopOffset t e := Nat.le_add_right _ _
  refine ⟨h.zeroth.keeps hk fun x hx hxn => hout x hx (by omega),
    h.sub.keeps hk fun x hx hxn => hout x (by omega) (by omega), fun ht => ?_⟩
  have hsize : firstOffset t e + directorySize (fields1st t e (stopOffset t e) thumbLen) =
      stopOffset t e := by
    rw [stopOffset, ht, countIf_true]
    rfl
  exact (h.first ht).keeps hk fun x hx hxn => hout x (by omega) (by omega)

/-- The 0th directory is ended by the offset of the next one. -/
theorem finish_zeroth {t : TagCodes} {e : ExifAttribute} {tiff : Nat} (last : Bool)
    (hcount : w.mem.read (tiff + 8) 2 = le 2 e.n0thIFDFields) (htable : w.ifdBase = tiff + 8 + 2)
    (hvalue : w.value = tiff + 8 + 2 + 12 * e.n0thIFDFields + 4)
    (hput : Put tiff (cursor w) (cursor w') (entries0th t e)) (hbase : w'.base = tiff)
    (hvalue' : w'.value = tiff + firstOffset t e) (hsub : SubDirectories t e w'.mem tiff) :
    DirectoryAt (w'.finish last).mem tiff (tiff + 8) (entries0th t e)
        (if last then 0 else firstOffset t e) ∧
      SubDirectories t e (w'.finish last).mem tiff := by
  have hoffset : w'.offset w'.value = firstOffset t e := by
    rw [offset, hbase, hvalue', Nat.add_sub_cancel_left]
  have htable' : w'.ifdBase = w.ifdBase + 12 * (entries0th t e).length := hput.table
  have hzeroth := entries0th_size t e
  rw [entries0th_length] at htable'
  rw [directorySize, entries0th_length] at hzeroth
  constructor
  · rw [← hoffset]
    exact hput.directory (by rw [entries0th_length]; exact hcount) htable
      (by rw [entries0th_length]; exact hvalue)
  · refine hsub.keeps (T := fun x => x < tiff + exifOffset t e)
      (Mem.keeps_write fun x hx hxn => ?_) fun x hx _ => Nat.not_lt.mpr hx
    rw [le_length] at hxn
    omega

theorem sizeSub_add (b k : Nat) : sizeSub (b + k) b = k % 2 ^ 64 := by
  unfold sizeSub
  omega

/-- The offset of the thumbnail that is stored. -/
theorem thumbOffset_eq {t : TagCodes} {e : ExifAttribute} {w : Writer} (hp : Prepared e w)
    (ht : e.enableThumb = true) :
    UInt32.ofNat (sizeSub w.thumbBase (w.appBase + 10)) = UInt32.ofNat (stopOffset t e) := by
  have hbase : w.thumbBase = w.appBase + 10 + stopOffset t e := by
    rw [hp.thumbBase ht, applen_eq t e, JPEG_MARKER_SIZE]
    omega
  rw [hbase, sizeSub_add]
  apply UInt32.toNat_inj.mp
  rw [UInt32.toNat_ofNat', UInt32.toNat_ofNat']
  exact Nat.mod_mod_of_dvd _ (by decide)

/-- Where the end of APP1 is for the writer. -/
def app1Stop (e : ExifAttribute) (w : Writer) (reserve : Bool) : Nat :=
  if e.enableThumb then (w.appBase + 2 + e.applen
    + countIf reserve (w.maxThumbSize + JPEG_APP1_OEM_RESERVED)) % 2 ^ 64
  else w.appBase + 2 + e.applen

/-- What `WriteAPP1` does. -/
structure App1Written (t : TagCodes) (e : ExifAttribute) (w : Writer) (m : Mem) (reserve : Bool)
    (r : Mem × Writer × Nat) : Prop where
  stop : r.2.2 = app1Stop e w reserve
  directories : Directories t e r.1 (w.appBase + 10) 0
  keeps : Mem.Keeps (w.writeApp1Header m w.appBase reserve) r.1
    fun x => w.appBase + 18 ≤ x ∧ x < w.appBase + 2 + e.applen
  writer : r.2.1 = { w with
    thumbSizePlaceholder := if e.enableThumb then w.appBase + 10 + firstOffset t e + 70
      else w.thumbSizePlaceholder }

/-- A directory of fields, written for itself. -/
theorem newFields_spec (m : Mem) (base p : Nat) (es : List Entry) {w : IFDWriter}
    (hw : w = es.foldl put (IFDWriter.new m base p es.length)) :
    DirectoryAt (w.finish true).mem base p es 0 ∧ w.value = p + directorySize es ∧
      w.ifdBase = p + 2 + 12 * es.length ∧
      Mem.Keeps m (w.finish true).mem fun x => p ≤ x ∧ x < p + directorySize es := by
  have hfields := foldl_writes es (IFDWriter.new m base p es.length)
  rw [← hw] at hfields
  have htable : w.ifdBase = p + 2 + 12 * es.length := hfields.put.table
  have hvalue : w.value = p + directorySize es := by
    rw [hfields.value, directorySize]
    show p + 2 + 12 * es.length + 4 + valuesSize es = _
    omega
  have hsize : directorySize es = 2 + 12 * es.length + 4 + valuesSize es := rfl
  refine ⟨hfields.put.directory (new_read m base p es.length) rfl rfl, hvalue, htable, ?_⟩
  have hnew : Mem.Keeps m (IFDWriter.new m base p es.length).mem
      fun x => p ≤ x ∧ x < p + directorySize es :=
    Mem.keeps_write fun x hx hxn => by rw [le_length] at hxn; omega
  have hput : Mem.Keeps (IFDWriter.new m base p es.length).mem w.mem
      fun x => p ≤ x ∧ x < p + directorySize es := by
    refine hfields.put.keeps.mono fun x hx => ?_
    have hstart : (cursor (IFDWriter.new m base p es.length)).table = p + 2 := rfl
    have hstart' : (cursor (IFDWriter.new m base p es.length)).value =
      p + 2 + 12 * es.length + 4 := rfl
    have htable' : (cursor w).table = p + 2 + 12 * es.length := htable
    have hvalue' : (cursor w).value = p + directorySize es := hvalue
    omega
  exact (hnew.trans hput).trans
    (Mem.keeps_write fun x hx hxn => by rw [le_length] at hxn; omega)

/-- The 0th directory and those it points to, up to the end of the 0th one. -/
theorem mainDirectories_spec (t : TagCodes) (e : ExifAttribute) (m : Mem) (base : Nat) (last : Bool)
    {w : IFDWriter} (hw : w = writeMainIFDs t e e.nExifIFDFields e.nGPSIFDFields
      (IFDWriter.new m (base + 10) (base + 18) e.n0thIFDFields)) :
    DirectoryAt (w.finish last).mem (base + 10) (base + 10 + 8) (entries0th t e)
        (if last then 0 else firstOffset t e) ∧
      SubDirectories t e (w.finish last).mem (base + 10) ∧
      w.value = base + 10 + firstOffset t e ∧
      Mem.Keeps m (w.finish last).mem
        fun x => base + 18 ≤ x ∧ x < base + 10 + firstOffset t e := by
  have hcount := new_read m (base + 10) (base + 18) e.n0thIFDFields
  obtain ⟨hb, hv, hput, hsub⟩ := writeMainIFDs_spec (show _ = base + 10 from rfl) rfl rfl hw
  obtain ⟨hzeroth, hsub'⟩ := finish_zeroth last hcount rfl rfl hput hb hv hsub
  refine ⟨hzeroth, hsub', hv, ?_⟩
  have htable : w.ifdBase = base + 20 + 12 * (entries0th t e).length := hput.table
  rw [entries0th_length] at htable
  have hsize := entries0th_size t e
  rw [directorySize, entries0th_length] at hsize
  have hfirst := exifOffset_le_firstOffset t e
  have hnew : Mem.Keeps m (IFDWriter.new m (base + 10) (base + 18) e.n0thIFDFields).mem
      fun x => base + 18 ≤ x ∧ x < base + 10 + firstOffset t e :=
    Mem.keeps_write fun x hx hxn => by rw [le_length] at hxn; omega
  refine (hnew.trans (hput.keeps.mono fun x hx => ?_)).trans
    (Mem.keeps_write fun x hx hxn => by rw [le_length] at hxn; omega)
  have hstart : (cursor (IFDWriter.new m (base + 10) (base + 18) e.n0thIFDFields)).table =
    base + 20 := rfl
  have hstart' : (cursor (IFDWriter.new m (base + 10) (base + 18) e.n0thIFDFields)).value =
    base + 20 + 12 * e.n0thIFDFields + 4 := rfl
  have htable' : (cursor w).table = w.ifdBase := rfl
  have hvalue' : (cursor w).value = w.value := rfl
  omega

theorem writeAPP1_spec {t : TagCodes} {e : ExifAttribute} {w : Writer} (hp : Prepared e w)
    (m : Mem) (reserve : Bool) :
    App1Written t e w m reserve (w.writeAPP1 t m w.appBase reserve) := by
  have hstop := applen_eq t e
  have htiff : w.appBase + JPEG_MARKER_SIZE + JPEG_SEGMENT_LENFIELD_SIZE
    + ExifIdentifierCode.length = w.appBase + 10 := rfl
  have hifd : w.appBase + 10 + TiffHeader.length = w.appBase + 18 := rfl
  unfold Writer.writeAPP1
  rw [hp.exif]
  dsimp only
  rw [hp.nExif, hp.nGPS, hp.n0th, htiff, hifd]
  generalize hmain : writeMainIFDs t e e.nExifIFDFields e.nGPSIFDFields
    (IFDWriter.new (w.writeApp1Header m w.appBase reserve) (w.appBase + 10) (w.appBase + 18)
      e.n0thIFDFields) = main
  cases ht : e.enableThumb
  · obtain ⟨hzeroth, hsub, hvalue, hkeeps⟩ := mainDirectories_spec t e _ w.appBase true hmain.symm
    have hend : stopOffset t e = firstOffset t e := by
      rw [stopOffset, ht, countIf_false, Nat.add_zero]
    rw [if_neg Bool.false_ne_true]
    refine ⟨?_, ⟨?_, hsub, fun h => absurd (ht.symm.trans h) Bool.false_ne_true⟩, ?_, ?_⟩
    · rw [app1Stop, ht, if_neg Bool.false_ne_true]
      exact hvalue.trans (by omega)
    · rw [ht]
      exact hzeroth
    · exact hkeeps.mono fun x hx => by omega
    · rw [ht]
      rfl
  · obtain ⟨hzeroth, hsub, hvalue, hkeeps⟩ := mainDirectories_spec t e _ w.appBase false hmain.symm
    have hsize0 := entries0th_size t e
    have hexif := exifOffset_le_firstOffset t e
    have hend : stopOffset t e = firstOffset t e + ExifAttribute.len1st := by
      rw [stopOffset, ht, countIf_true]
    have hfields : fields1st t e (sizeSub w.thumbBase (w.appBase + 10)) 0 =
        fields1st t e (stopOffset t e) 0 := by
      unfold fields1st
      rw [thumbOffset_eq hp ht]
    have hmainvalue : (main.finish false).value = w.appBase + 10 + firstOffset t e := hvalue
    rw [if_pos rfl, hp.n1st ht, write1st_eq, hfields, hmainvalue]
    generalize hthumb : (fields1st t e (stopOffset t e) 0).foldl put
      (IFDWriter.new (main.finish false).mem (w.appBase + 10) (w.appBase + 10 + firstOffset t e) 6)
      = thumb
    obtain ⟨hfirst, hvalue', htable, hkeeps'⟩ := newFields_spec (main.finish false).mem
      (w.appBase + 10) (w.appBase + 10 + firstOffset t e) (fields1st t e (stopOffset t e) 0)
      hthumb.symm
    have hsize : directorySize (fields1st t e (stopOffset t e) 0) = ExifAttribute.len1st := rfl
    rw [hsize] at hvalue' hkeeps'
    have hplace : thumb.ifdBase - 4 = w.appBase + 10 + firstOffset t e + 70 := by
      have hn : (fields1st t e (stopOffset t e) 0).length = 6 := rfl
      rw [htable, hn]
      omega
    have hbehind : ∀ x, x < w.appBase + 10 + firstOffset t e →
        ¬ (w.appBase + 10 + firstOffset t e ≤ x ∧
          x < w.appBase + 10 + firstOffset t e + ExifAttribute.len1st) := fun x hx => by omega
    refine ⟨?_, ⟨?_, hsub.keeps hkeeps' fun x _ hx => hbehind x hx, fun _ => hfirst⟩, ?_, ?_⟩
    · rw [app1Stop, ht, if_pos rfl]
      show (thumb.value + _) % 2 ^ 64 = _
      rw [hvalue', show w.appBase + 10 + firstOffset t e + ExifAttribute.len1st =
        w.appBase + 2 + e.applen by omega]
    · rw [ht, if_pos rfl]
      exact hzeroth.keeps hkeeps' fun x _ hx => hbehind x (by omega)
    · refine (hkeeps.mono fun x hx => ?_).trans (hkeeps'.mono fun x hx => ?_)
      · omega
      · omega
    · rw [hp.exif, hp.n0th, hp.nExif, hp.nGPS, hp.n1st ht, ht, if_pos rfl]
      dsimp only
      rw [hplace]

end ExynosHal.ExifLayout
