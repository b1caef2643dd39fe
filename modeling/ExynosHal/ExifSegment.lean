/-
  ExynosHal/ExifSegment.lean
  ==========================
  **The size that was counted and the bytes that were written.**

  `IsExact` says that `WriteAPP1` writes what `PrepareAppWriter` counted: the end, the
  place of the thumbnail and the length field agree, the directories lie one after the
  other inside the segment, and a reader of the file finds in them the entries of the
  attributes.  The sizes are kept in 16 bits but never checked against that, so it
  holds exactly for segments that are short enough (`writeAPP1_exact_iff`).
-/
import ExynosHal.ExifLayout

namespace ExynosHal.ExifSegment

open ExynosHal.ByteMemory ExynosHal.TiffDirectory ExynosHal.AppMarkerWriter ExynosHal.ExifLayout

/-! ### The entries are well formed -/

section WellFormed

variable (tag : UInt16)

/-- An entry whose type and count are known. -/
theorem entry_wf (type count : Nat) {value : List UInt8} (htype : type < 2 ^ 16)
    (hcount : count < 2 ^ 32) (hvalue : value.length = typeSize type * count) :
    (Entry.mk tag.toNat type count value).WellFormed := ⟨tag.toNat_lt, htype, hcount, hvalue⟩

theorem shortField_wf (v : UInt16) : (shortField tag v).WellFormed :=
  entry_wf tag EXIF_TYPE_SHORT 1 (by decide) (by decide) rfl

theorem longField_wf (v : UInt32) : (longField tag v).WellFormed :=
  entry_wf tag EXIF_TYPE_LONG 1 (by decide) (by decide) rfl

theorem pointerField_wf (offset : Nat) : (pointerField tag offset).WellFormed :=
  entry_wf tag EXIF_TYPE_LONG 1 (by decide) (by decide) rfl

theorem byteField_wf {v : List UInt8} (hv : v.length < 2 ^ 32) : (byteField tag v).WellFormed :=
  entry_wf tag EXIF_TYPE_BYTE v.length (by decide) hv (Nat.one_mul _).symm

theorem undefField_wf {v : List UInt8} (hv : v.length < 2 ^ 32) : (undefField tag v).WellFormed :=
  entry_wf tag EXIF_TYPE_UNDEFINED v.length (by decide) hv (Nat.one_mul _).symm

theorem rationalField_wf {v : List Rational} (hv : v.length < 2 ^ 32) :
    (rationalField tag v).WellFormed :=
  entry_wf tag EXIF_TYPE_RATIONAL v.length (by decide) hv (rationalBytes_length v)

theorem rational1_wf (v : Rational) : (rationalField tag [v]).WellFormed :=
  rationalField_wf tag (show 1 < 2 ^ 32 by decide)

theorem srational1_wf (v : Rational) : (srationalField tag [v]).WellFormed :=
  entry_wf tag EXIF_TYPE_SRATIONAL 1 (by decide) (by decide) (rationalBytes_length [v])

theorem stringField_wf (s : CString) : (stringField tag s).WellFormed :=
  entry_wf tag EXIF_TYPE_ASCII (s.strlen + 1) (by decide) s.length_lt
    ((stringField_size tag s).trans (Nat.one_mul _).symm)

theorem refField_wf (s : CString) : (refField tag s).WellFormed :=
  entry_wf tag EXIF_TYPE_ASCII 2 (by decide) (by decide) rfl

theorem paddedField_wf {count : Nat} (hpos : 0 < count) (hlt : count < 2 ^ 32) (s : CString) :
    (paddedField tag count s).WellFormed :=
  entry_wf tag EXIF_TYPE_ASCII count (by decide) hlt
    ((cstringBytes_length hpos s).trans (Nat.one_mul _).symm)

theorem forall_listIf {c : Bool} {es : List Entry} {P : Entry → Prop} (h : ∀ e ∈ es, P e) :
    ∀ e ∈ listIf c es, P e := by
  intro e he
  cases c
  · exact absurd he List.not_mem_nil
  · exact h e he

end WellFormed

section Directories

variable (t : TagCodes) (e : ExifAttribute)

theorem fields0th_wf : ∀ x ∈ fields0th t e, x.WellFormed := by
  have hdate := fun tag s => paddedField_wf tag (show 0 < EXIF_DATETIME_LENGTH by decide)
    (by decide) s
  simp only [fields0th, List.forall_mem_append, List.forall_mem_cons, List.not_mem_nil,
    false_implies, implies_true, and_true, shortField_wf, rational1_wf, hdate, true_and]
  exact ⟨⟨forall_listIf (by simpa using stringField_wf _ _),
    forall_listIf (by simpa using stringField_wf _ _)⟩,
    forall_listIf (by simpa using stringField_wf _ _)⟩

theorem fieldsExif_wf : ∀ x ∈ fieldsExif t e, x.WellFormed := by
  have hdate := fun tag s => paddedField_wf tag (show 0 < EXIF_DATETIME_LENGTH by decide)
    (by decide) s
  have hoffset := fun tag s => paddedField_wf tag (show 0 < EXIF_OFFSETTIME_LENGTH by decide)
    (by decide) s
  have hsec := fun tag s => paddedField_wf tag (show 0 < EXIF_SUBSECTIME_LENGTH by decide)
    (by decide) s
  have hversion := fun tag => undefField_wf tag (show version0100.length < 2 ^ 32 by decide)
  have hcomponents := fun tag =>
    undefField_wf tag (show ComponentsConfiguration.length < 2 ^ 32 by decide)
  have hscene := fun tag => undefField_wf tag (show SceneType.length < 2 ^ 32 by decide)
  have hexif := fun tag => undefField_wf tag (v := e.exif_version.toList) (by simp)
  simp only [fieldsExif, List.forall_mem_append, List.forall_mem_cons, List.not_mem_nil,
    false_implies, implies_true, and_true, true_and, shortField_wf, longField_wf, rational1_wf,
    srational1_wf, hdate, hsec, hversion, hcomponents, hscene, hexif]
  refine ⟨⟨⟨?_, ?_⟩, ?_⟩, ?_⟩
  · exact forall_listIf (by simp only [List.forall_mem_cons, hoffset, true_and, List.not_mem_nil,
      false_implies, implies_true])
  · exact forall_listIf (by simpa using undefField_wf _ e.maker_note.length_lt)
  · exact forall_listIf (by simpa using undefField_wf _ e.user_comment.length_lt)
  · exact forall_listIf (by simpa using stringField_wf _ _)

theorem fieldsInterop_wf : ∀ x ∈ fieldsInterop t e, x.WellFormed := by
  have hversion := fun tag => undefField_wf tag (show version0100.length < 2 ^ 32 by decide)
  simp only [fieldsInterop, List.forall_mem_cons, List.not_mem_nil, false_implies, implies_true,
    and_true, stringField_wf, hversion]

theorem fieldsGPS_wf : ∀ x ∈ fieldsGPS t e, x.WellFormed := by
  have hdate := fun tag s => paddedField_wf tag (show 0 < EXIF_GPSDATESTAMP_LENGTH by decide)
    (by decide) s
  have hthree := fun tag (v : Vector Rational 3) => rationalField_wf tag (v := v.toList) (by simp)
  have hversion := fun tag => byteField_wf tag (v := e.gps_version_id.toList) (by simp)
  have hone := fun tag b => byteField_wf tag (v := [b]) (show 1 < 2 ^ 32 by decide)
  have hmethod : (processingMethodBytes e).length < 2 ^ 32 := by
    have hmin : e.processingMethodLen = min e.gps_processing_method.strlen 99 := rfl
    have hprefix : ExifAsciiPrefix.length = 8 := rfl
    rw [processingMethodBytes_length]
    omega
  simp only [fieldsGPS, List.forall_mem_append, List.forall_mem_cons, List.not_mem_nil,
    false_implies, implies_true, and_true, true_and, refField_wf, rational1_wf, hthree, hversion,
    hone, hdate]
  exact forall_listIf (by simpa using undefField_wf _ hmethod)

theorem fields1st_wf (thumbOffset thumbLen : Nat) :
    ∀ x ∈ fields1st t e thumbOffset thumbLen, x.WellFormed := by
  simp only [fields1st, List.forall_mem_cons, List.not_mem_nil, false_implies, implies_true,
    and_true, shortField_wf, longField_wf]

theorem entries0th_wf : ∀ x ∈ entries0th t e, x.WellFormed := by
  simp only [entries0th, List.forall_mem_append, List.forall_mem_cons, List.not_mem_nil,
    false_implies, implies_true, and_true, pointerField_wf]
  exact ⟨fields0th_wf t e, forall_listIf (by simpa using pointerField_wf _ _)⟩

theorem entriesExif_wf : ∀ x ∈ entriesExif t e, x.WellFormed := by
  simp only [entriesExif, List.forall_mem_append, List.forall_mem_cons, List.not_mem_nil,
    false_implies, implies_true, and_true, pointerField_wf]
  exact fieldsExif_wf t e

end Directories

/-! ### Reading the file -/

/-- A reader of the file at `tiff` finds the entries of the attributes in all directories. -/
structure ReadsBack (t : TagCodes) (e : ExifAttribute) (m : Mem) (tiff thumbLen : Nat) :
    Prop where
  header : m.read tiff 8 = TiffHeader
  zeroth : readDirectory m tiff (tiff + 8) =
    (entries0th t e, if e.enableThumb then firstOffset t e else 0)
  exif : readDirectory m tiff (tiff + exifOffset t e) = (entriesExif t e, 0)
  interop : readDirectory m tiff (tiff + interopOffset t e) = (fieldsInterop t e, 0)
  gps : e.enableGps = true → readDirectory m tiff (tiff + gpsOffset t e) = (fieldsGPS t e, 0)
  first : e.enableThumb = true →
    readDirectory m tiff (tiff + firstOffset t e) = (fields1st t e (stopOffset t e) thumbLen, 0)

theorem entries_lt {es : List Entry} {n : Nat} (h : directorySize es ≤ n) (hn : n < 2 ^ 16) :
    es.length < 2 ^ 16 := by
  rw [directorySize] at h
  omega

theorem directories_read {t : TagCodes} {e : ExifAttribute} {m : Mem} {tiff thumbLen : Nat}
    (h : Directories t e m tiff thumbLen) (hheader : m.read tiff 8 = TiffHeader)
    (hstop : stopOffset t e < 2 ^ 16) : ReadsBack t e m tiff thumbLen := by
  have hzeroth := entries0th_size t e
  have hexif := entriesExif_size t e
  have hinterop : interopOffset t e + directorySize (fieldsInterop t e) = gpsOffset t e := rfl
  have hgps : gpsOffset t e ≤ firstOffset t e := Nat.le_add_right _ _
  have hfirst : firstOffset t e ≤ stopOffset t e := Nat.le_add_right _ _
  refine ⟨hheader, ?_, ?_, ?_, fun hg => ?_, fun ht => ?_⟩
  · refine h.zeroth.read (entries0th_wf t e) (entries_lt (Nat.le_refl _) (by omega)) ?_
      (by omega) (by omega)
    split <;> omega
  · exact h.sub.exif.read (entriesExif_wf t e) (entries_lt (Nat.le_refl _) (by omega))
      (by decide) (by omega) (by omega)
  · exact h.sub.interop.read (fieldsInterop_wf t e) (entries_lt (Nat.le_refl _) (by omega))
      (by decide) (by omega) (by omega)
  · have hsize : gpsOffset t e + directorySize (fieldsGPS t e) = firstOffset t e := by
      rw [firstOffset, hg, countIf_true]
    exact (h.sub.gps hg).read (fieldsGPS_wf t e) (entries_lt (Nat.le_refl _) (by omega))
      (by decide) (by omega) (by omega)
  · have hsize : firstOffset t e + directorySize (fields1st t e (stopOffset t e) thumbLen) =
        stopOffset t e := by
      rw [stopOffset, ht, countIf_true]
      rfl
    exact (h.first ht).read (fields1st_wf t e (stopOffset t e) thumbLen)
      (entries_lt (Nat.le_refl _) (by omega)) (by decide) (by omega) (by omega)

/-! ### The segment is as it was counted -/

/-- The memory and the end that `WriteAPP1` returns are those that were counted for.
    `Directories` gives each table and each value its place, one after the other. -/
structure IsExact (t : TagCodes) (e : ExifAttribute) (w : Writer) (m : Mem) (reserve : Bool)
    (stop : Nat) : Prop where
  counted : stop = (w.appBase + JPEG_MARKER_SIZE + w.szApp1
    + countIf reserve (w.maxThumbSize + JPEG_APP1_OEM_RESERVED)) % 2 ^ 64
  thumbnail : e.enableThumb = true → stop = (w.thumbBase
    + countIf reserve (w.maxThumbSize + JPEG_APP1_OEM_RESERVED)) % 2 ^ 64
  length : ofBe (m.read (w.appBase + JPEG_MARKER_SIZE) JPEG_SEGMENT_LENFIELD_SIZE) =
    stop - (w.appBase + JPEG_MARKER_SIZE)
  identifier : m.read (w.appBase + 4) 6 = ExifIdentifierCode
  directories : Directories t e m (w.appBase + 10) 0
  inside : w.appBase + 10 + stopOffset t e ≤ stop
  reads : ReadsBack t e m (w.appBase + 10) 0

section Exact

variable {t : TagCodes} {e : ExifAttribute} {w : Writer} {m : Mem} {reserve : Bool}

/-- What the header of the segment holds in the end. -/
theorem app1Header_read {r : Mem × Writer × Nat} (h : App1Written t e w m reserve r) :
    r.1.read w.appBase 2 = [0xFF, 0xE1] ∧ ofBe (r.1.read (w.appBase + 2) 2) =
        (w.szApp1 + countIf reserve (w.maxThumbSize + JPEG_APP1_OEM_RESERVED)) % 2 ^ 16 ∧
      r.1.read (w.appBase + 4) 6 = ExifIdentifierCode ∧
      r.1.read (w.appBase + 10) 8 = TiffHeader := by
  have hall : (w.writeApp1Header m w.appBase reserve).read w.appBase (2 + 2 + 6 + 8) =
      [0xFF, 0xE1] ++ be 2 (w.szApp1
        + countIf reserve (w.maxThumbSize + JPEG_APP1_OEM_RESERVED))
      ++ ExifIdentifierCode ++ TiffHeader := Mem.read_write_eq rfl
  rw [Mem.read_add, Mem.read_add, Mem.read_add] at hall
  obtain ⟨hall, hheader⟩ := List.append_inj hall rfl
  obtain ⟨hall, hident⟩ := List.append_inj hall rfl
  obtain ⟨hmark, hlen⟩ := List.append_inj hall rfl
  have hkeep : ∀ a n, a + n ≤ w.appBase + 18 →
      r.1.read a n = (w.writeApp1Header m w.appBase reserve).read a n := by
    intro a n hn
    exact h.keeps.read fun x hx hxn => by omega
  refine ⟨(hkeep _ _ (by omega)).trans hmark, ?_, (hkeep _ _ (by omega)).trans hident,
    (hkeep _ _ (by omega)).trans hheader⟩
  rw [hkeep _ _ (by omega), hlen]
  exact ofBe_be 2 _

/-- The space that is left for a thumbnail fills the segment, in the arithmetic of sizes. -/
theorem thumbSpace_eq (hp : Prepared e w) (ht : e.enableThumb = true) (happ : e.applen < 2 ^ 16) :
    (w.maxThumbSize + JPEG_APP1_OEM_RESERVED) % 2 ^ 64 = 65535 - e.applen := by
  rw [hp.maxThumbSize, if_pos ht]
  unfold sizeSub JPEG_MAX_SEGMENT_SIZE JPEG_APP1_OEM_RESERVED
  omega

/-- A segment that is as it was counted is short. -/
theorem IsExact.short (hp : Prepared e w)
    (hspace : w.appBase + 10 + stopOffset t e + 2 ^ 16 ≤ 2 ^ 64)
    (h : IsExact t e w (w.writeAPP1 t m w.appBase reserve).1 reserve
      (w.writeAPP1 t m w.appBase reserve).2.2) :
    8 + stopOffset t e < 2 ^ 16 ∧ (reserve = true → e.enableThumb = true) := by
  have hw := writeAPP1_spec hp (t := t) m reserve
  have happ := applen_eq t e
  have hcounted := h.counted
  have hlength := h.length
  have hread : ofBe ((w.writeAPP1 t m w.appBase reserve).1.read (w.appBase + JPEG_MARKER_SIZE)
    JPEG_SEGMENT_LENFIELD_SIZE) = _ := (app1Header_read hw).2.1
  rw [hread, hw.stop] at hlength
  rw [hw.stop, hp.szApp1] at hcounted
  rw [hp.szApp1] at hlength
  unfold app1Stop JPEG_MARKER_SIZE at hlength hcounted
  cases ht : e.enableThumb
  · have hthumb : w.maxThumbSize = 0 := by
      rw [hp.maxThumbSize, ht]
      rfl
    rw [ht, if_neg Bool.false_ne_true, hthumb] at hlength
    cases reserve
    · rw [countIf_false] at hlength
      exact ⟨by omega, fun h => h⟩
    · rw [countIf_true, JPEG_APP1_OEM_RESERVED] at hlength
      omega
  · rw [ht, if_pos rfl] at hcounted
    exact ⟨by omega, fun _ => rfl⟩

/-- The end of a short segment. -/
theorem writeAPP1_stop (hp : Prepared e w)
    (hspace : w.appBase + 10 + stopOffset t e + 2 ^ 16 ≤ 2 ^ 64)
    (hshort : 8 + stopOffset t e < 2 ^ 16) (hreserve : reserve = true → e.enableThumb = true) :
    (w.writeAPP1 t m w.appBase reserve).2.2 =
      w.appBase + 2 + e.applen + countIf reserve (65535 - e.applen) := by
  have happ := applen_eq t e
  rw [(writeAPP1_spec hp (t := t) m reserve).stop]
  unfold app1Stop
  cases reserve
  · cases e.enableThumb
    · rfl
    · rw [if_pos rfl, countIf_false, countIf_false]
      omega
  · have hthumb := thumbSpace_eq hp (hreserve rfl) (by omega)
    rw [hreserve rfl, if_pos rfl, countIf_true, countIf_true]
    omega

/-- A short segment is as it was counted. -/
theorem isExact_of_short (hp : Prepared e w)
    (hspace : w.appBase + 10 + stopOffset t e + 2 ^ 16 ≤ 2 ^ 64)
    (hshort : 8 + stopOffset t e < 2 ^ 16) (hreserve : reserve = true → e.enableThumb = true) :
    IsExact t e w (w.writeAPP1 t m w.appBase reserve).1 reserve
      (w.writeAPP1 t m w.appBase reserve).2.2 := by
  have hw := writeAPP1_spec hp (t := t) m reserve
  have happ := applen_eq t e
  have hsz : w.szApp1 = e.applen := by rw [hp.szApp1, Nat.mod_eq_of_lt (by omega)]
  obtain ⟨-, hread, hident, hheader⟩ := app1Header_read hw
  have hthumb : reserve = true →
      (w.maxThumbSize + JPEG_APP1_OEM_RESERVED) % 2 ^ 64 = 65535 - e.applen :=
    fun h => thumbSpace_eq hp (hreserve h) (by omega)
  have hstop := writeAPP1_stop hp hspace hshort hreserve (m := m)
  refine ⟨?_, fun ht => ?_, ?_, hident, hw.directories, ?_,
    directories_read hw.directories hheader (by omega)⟩
  · rw [hstop, hsz, JPEG_MARKER_SIZE]
    cases reserve
    · rw [countIf_false, countIf_false]
      omega
    · have hspace' := hthumb rfl
      rw [countIf_true, countIf_true]
      omega
  · rw [hstop, hp.thumbBase ht, JPEG_MARKER_SIZE]
    cases reserve
    · rw [countIf_false, countIf_false]
      omega
    · have hspace' := hthumb rfl
      rw [countIf_true, countIf_true]
      omega
  · refine hread.trans ?_
    rw [hstop, hsz, JPEG_MARKER_SIZE]
    cases reserve
    · rw [countIf_false, countIf_false]
      omega
    · have hspace' := hthumb rfl
      rw [countIf_true, countIf_true]
      omega
  · rw [hstop]
    omega

end Exact

/-- **`WriteAPP1` writes the segment that `PrepareAppWriter` counted if and only if it
    is short enough for its length field**, and space for a thumbnail is reserved only
    for attributes with a thumbnail. -/
theorem writeAPP1_exact_iff (t : TagCodes) (e : ExifAttribute) (extra : Option (List AppInfo))
    (w₀ : Writer) (base : Nat) (m : Mem) (reserve : Bool)
    (hprepared : (w₀.prepareAppWriter base (some e) extra).2 = true)
    (hspace : base + 10 + stopOffset t e + 2 ^ 16 ≤ 2 ^ 64) :
    let w := (w₀.prepareAppWriter base (some e) extra).1
    let r := w.writeAPP1 t m w.appBase reserve
    IsExact t e w r.1 reserve r.2.2 ↔
      8 + stopOffset t e < 2 ^ 16 ∧ (reserve = true → e.enableThumb = true) := by
  intro w r
  obtain ⟨hp, hbase, -⟩ := prepareAppWriter_prepared hprepared
  have hspace' : w.appBase + 10 + stopOffset t e + 2 ^ 16 ≤ 2 ^ 64 := hbase ▸ hspace
  constructor
  · intro h
    exact h.short hp hspace'
  · rintro ⟨hshort, hreserve⟩
    exact isExact_of_short hp hspace' hshort hreserve

/-! ### Attributes with a long maker note -/

/-- The numbers of the tags in the Exif standard. -/
def exifTags : TagCodes
  | .orientation => 0x0112 | .ycbcrPositioning => 0x0213 | .xResolution => 0x011A
  | .yResolution => 0x011B | .resolutionUnit => 0x0128 | .make => 0x010F | .model => 0x0110
  | .software => 0x0131 | .dateTime => 0x0132 | .exifIfdPointer => 0x8769
  | .gpsIfdPointer => 0x8825 | .exposureTime => 0x829A | .fnumber => 0x829D
  | .exposureProgram => 0x8822 | .isoSpeedRating => 0x8827 | .exifVersion => 0x9000
  | .dateTimeOrg => 0x9003 | .dateTimeDigitize => 0x9004 | .offsetTime => 0x9010
  | .offsetTimeOrg => 0x9011 | .offsetTimeDigitize => 0x9012 | .shutterSpeed => 0x9201
  | .aperture => 0x9202 | .brightness => 0x9203 | .exposureBias => 0x9204
  | .maxAperture => 0x9205 | .meteringMode => 0x9207 | .flash => 0x9209
  | .flashpixVersion => 0xA000 | .componentsConfiguration => 0x9101 | .focalLength => 0x920A
  | .subsecTime => 0x9290 | .subsecTimeOrig => 0x9291 | .subsecTimeDig => 0x9292
  | .makerNote => 0x927C | .userComment => 0x9286 | .colorSpace => 0xA001
  | .pixelXDimension => 0xA002 | .pixelYDimension => 0xA003 | .sceneType => 0xA301
  | .customRendered => 0xA401 | .exposureMode => 0xA402 | .whiteBalance => 0xA403
  | .digitalZoomRatio => 0xA404 | .focaLengthIn35mmFilm => 0xA405
  | .scenceCaptureType => 0xA406 | .contrast => 0xA408 | .saturation => 0xA409
  | .sharpness => 0xA40A | .imageUniqueId => 0xA420 | .interoperability => 0xA005
  | .interoperabilityIndex => 0x0001 | .interoperabilityVersion => 0x0002
  | .gpsVersionId => 0x0000 | .gpsLatitudeRef => 0x0001 | .gpsLatitude => 0x0002
  | .gpsLongitudeRef => 0x0003 | .gpsLongitude => 0x0004 | .gpsAltitudeRef => 0x0005
  | .gpsAltitude => 0x0006 | .gpsDatestamp => 0x001D | .gpsTimestamp => 0x0007
  | .gpsProcessingMethod => 0x001B | .imageWidth => 0x0100 | .imageHeight => 0x0101
  | .compressionScheme => 0x0103 | .jpegInterchangeFormat => 0x0201
  | .jpegInterchangeFormatLen => 0x0202

def emptyString : CString := ⟨[], by decide, by decide⟩

def noBuffer : Buffer := ⟨[], by decide⟩

/-- Attributes without strings and buffers, for a thumbnail of 320x240. -/
def plainExif : ExifAttribute where
  enableGps := true
  enableThumb := true
  maker := emptyString
  model := emptyString
  software := emptyString
  orientation := 1
  ycbcr_positioning := 1
  x_resolution := ⟨72, 1⟩
  y_resolution := ⟨72, 1⟩
  resolution_unit := 2
  date_time := emptyString
  exposure_time := ⟨1, 60⟩
  fnumber := ⟨18, 10⟩
  exposure_program := 2
  iso_speed_rating := 100
  exif_version := #v[0x30, 0x32, 0x32, 0x30]
  offset_time := emptyString
  shutter_speed := ⟨6, 1⟩
  aperture := ⟨2, 1⟩
  brightness := ⟨0, 1⟩
  exposure_bias := ⟨0, 1⟩
  max_aperture := ⟨2, 1⟩
  metering_mode := 2
  flash := 0
  focal_length := ⟨4, 1⟩
  sec_time := emptyString
  maker_note := noBuffer
  user_comment := noBuffer
  color_space := 1
  width := 4000
  height := 3000
  custom_rendered := 0
  exposure_mode := 0
  white_balance := 0
  digital_zoom_ratio := ⟨1, 1⟩
  focal_length_in_35mm_length := 26
  scene_capture_type := 0
  contrast := 0
  saturation := 0
  sharpness := 0
  unique_id := emptyString
  interoperability_index := false
  gps_version_id := #v[2, 2, 0, 0]
  gps_latitude_ref := emptyString
  gps_latitude := #v[⟨0, 1⟩, ⟨0, 1⟩, ⟨0, 1⟩]
  gps_longitude_ref := emptyString
  gps_longitude := #v[⟨0, 1⟩, ⟨0, 1⟩, ⟨0, 1⟩]
  gps_altitude_ref := 0
  gps_altitude := ⟨0, 1⟩
  gps_datestamp := emptyString
  gps_timestamp := #v[⟨0, 1⟩, ⟨0, 1⟩, ⟨0, 1⟩]
  gps_processing_method := emptyString
  widthThumb := 320
  heightThumb := 240
  compression_scheme := 6

def noThumbExif : ExifAttribute := { plainExif with enableThumb := false }

def noteExif (note : Buffer) : ExifAttribute := { noThumbExif with maker_note := note }

def longNote : Buffer := ⟨List.replicate 66000 0, by rw [List.length_replicate]; decide⟩

/-- A writer before its first use. -/
def freshWriter : Writer := ⟨0, 0, 0, 0, 0, 0, 0, 0, 0, none, none, 0, 0, 0⟩

def zeroMem : Mem := fun _ => 0

theorem noteExif_applen (note : Buffer) :
    (noteExif note).applen = noThumbExif.applen + ExifAttribute.bufferSize note := by
  have hnone : ExifAttribute.bufferSize noThumbExif.maker_note = 0 := rfl
  have hexif : (noteExif note).lenExif = noThumbExif.lenExif + ExifAttribute.bufferSize note := by
    have hid : (noteExif note).unique_id = noThumbExif.unique_id := rfl
    have hmaker : (noteExif note).maker_note = note := rfl
    have hcomment : (noteExif note).user_comment = noThumbExif.user_comment := rfl
    have htime : (noteExif note).hasOffsetTime = noThumbExif.hasOffsetTime := rfl
    unfold ExifAttribute.lenExif
    rw [hnone, hid, hmaker, hcomment, htime]
    omega
  have hzeroth : (noteExif note).len0th = noThumbExif.len0th := rfl
  have hgps : (noteExif note).lenGPS = noThumbExif.lenGPS := rfl
  have hthumb : (noteExif note).enableThumb = noThumbExif.enableThumb := rfl
  unfold ExifAttribute.applen ExifAttribute.lenWithoutThumb
  rw [hexif, hzeroth, hgps, hthumb]
  omega

/-- `PrepareAppWriter` accepts a maker note of 66000 bytes, and the segment is not as
    it was counted. -/
theorem longNote_not_exact :
    (freshWriter.prepareAppWriter 4098 (some (noteExif longNote)) none).2 = true ∧
      ¬ IsExact exifTags (noteExif longNote)
        (freshWriter.prepareAppWriter 4098 (some (noteExif longNote)) none).1
        ((freshWriter.prepareAppWriter 4098 (some (noteExif longNote)) none).1.writeAPP1 exifTags zeroMem
          (freshWriter.prepareAppWriter 4098 (some (noteExif longNote)) none).1.appBase false).1 false
        ((freshWriter.prepareAppWriter 4098 (some (noteExif longNote)) none).1.writeAPP1 exifTags zeroMem
          (freshWriter.prepareAppWriter 4098 (some (noteExif longNote)) none).1.appBase false).2.2 := by
  have hprepared : (freshWriter.prepareAppWriter 4098 (some (noteExif longNote)) none).2 = true := rfl
  obtain ⟨hp, hbase, -⟩ := prepareAppWriter_prepared hprepared
  refine ⟨hprepared, fun h => ?_⟩
  have happ := applen_eq exifTags (noteExif longNote)
  have hnote := noteExif_applen longNote
  have hsize : ExifAttribute.bufferSize longNote = 66012 := by
    rw [bufferSize_eq, show longNote.size = 66000 from List.length_replicate]
    rfl
  have hplain : noThumbExif.applen < 2000 := by decide +kernel
  have hshort := (h.short hp (by omega)).1
  omega

theorem plainExif_exact :
    IsExact exifTags plainExif
      (freshWriter.prepareAppWriter 4098 (some plainExif) none).1
      ((freshWriter.prepareAppWriter 4098 (some plainExif) none).1.writeAPP1 exifTags zeroMem
        (freshWriter.prepareAppWriter 4098 (some plainExif) none).1.appBase true).1 true
      ((freshWriter.prepareAppWriter 4098 (some plainExif) none).1.writeAPP1 exifTags zeroMem
        (freshWriter.prepareAppWriter 4098 (some plainExif) none).1.appBase true).2.2 := by
  have happ := applen_eq exifTags plainExif
  have hlen : plainExif.applen < 2000 := by decide +kernel
  exact (writeAPP1_exact_iff exifTags plainExif none freshWriter 4098 zeroMem true rfl
    (by omega)).mpr ⟨by omega, fun _ => rfl⟩

end ExynosHal.ExifSegment
