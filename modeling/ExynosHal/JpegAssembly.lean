/-
  ExynosHal/JpegAssembly.lean
  ===========================
  **The stream in the buffer of the caller.**

  `Assembled` says what the finished stream is: SOI, APP1 with the thumbnail where
  the 1st directory says, the extra segments, the filler segment APP11 and the rest
  of the main stream, one after the other.  Each step of `ProcessExif` and
  `FinishCompression` keeps the parts or moves them, so they are followed through
  the memory part by part (`App1Body`, `Tail`).
-/
import ExynosHal.ExifSegment
import ExynosHal.EncoderForCamera

namespace ExynosHal.JpegAssembly

open ExynosHal.ByteMemory ExynosHal.TiffDirectory ExynosHal.AppMarkerWriter ExynosHal.ExifLayout
open ExynosHal.ExifSegment ExynosHal.EncoderForCamera
open ExynosHal.AppMarkerWriter.Writer

/-! ### The extra segments -/

/-- The segments stand one after the other from `p` on, with their data if `full`. -/
def SegmentsAt (m : Mem) (full : Bool) : Nat → List AppInfo → Prop
  | _, [] => True
  | p, a :: as => m.read p 4 = appXHeader a ∧
      (full = true → m.read (p + 4) a.dataSize = a.appData) ∧
      SegmentsAt m full (p + 4 + a.dataSize) as

section Segments

variable {m m' : Mem} {full : Bool} {a : AppInfo} {as : List AppInfo} {p d : Nat}

@[simp] theorem segmentsSize_cons (a : AppInfo) (as : List AppInfo) :
    segmentsSize (a :: as) = a.dataSize + 2 + 2 + segmentsSize as := by
  simp [segmentsSize, JPEG_MARKER_SIZE, JPEG_SEGMENT_LENFIELD_SIZE]

theorem segmentsSize_pos : 0 < segmentsSize (a :: as) := by
  rw [segmentsSize_cons]
  omega

theorem appXHeader_length (a : AppInfo) : (appXHeader a).length = 4 := rfl

/-- Segments depend on their own bytes, and move with them. -/
theorem SegmentsAt.shift (h : SegmentsAt m full p as)
    (hs : ∀ x, p ≤ x → x < p + segmentsSize as → m' (x + d) = m x) :
    SegmentsAt m' full (p + d) as := by
  induction as generalizing p with
  | nil => trivial
  | cons a as ih =>
      rw [segmentsSize_cons] at hs
      obtain ⟨hhead, hdata, hrest⟩ := h
      refine ⟨?_, fun hf => ?_, ?_⟩
      · exact (Mem.read_shift fun x hx hxn => hs x hx (by omega)).trans hhead
      · rw [show p + d + 4 = p + 4 + d by omega]
        exact (Mem.read_shift fun x hx hxn => hs x (by omega) (by omega)).trans (hdata hf)
      · rw [show p + d + 4 + a.dataSize = p + 4 + a.dataSize + d by omega]
        exact ih hrest fun x hx hxn => hs x (by omega) (by omega)

theorem SegmentsAt.congr (h : SegmentsAt m full p as)
    (hs : ∀ x, p ≤ x → x < p + segmentsSize as → m' x = m x) : SegmentsAt m' full p as :=
  h.shift (d := 0) hs

/-- One round of `WriteAPPX` puts one segment. -/
theorem writeAppX_spec (just : Bool) (m : Mem) (p : Nat) (a : AppInfo) :
    (writeAppX just (m, p) a).2 = p + 4 + a.dataSize ∧
      Mem.Keeps m (writeAppX just (m, p) a).1 (fun x => p ≤ x ∧ x < p + 4 + a.dataSize) ∧
      (writeAppX just (m, p) a).1.read p 4 = appXHeader a ∧
      (just = false → (writeAppX just (m, p) a).1.read (p + 4) a.dataSize = a.appData) := by
  have hlen := appXHeader_length a
  have hhead : Mem.Keeps m (m.write p (appXHeader a))
      (fun x => p ≤ x ∧ x < p + 4 + a.dataSize) :=
    Mem.keeps_write fun x hx hxn => ⟨hx, by omega⟩
  cases just
  · refine ⟨rfl, hhead.trans (Mem.keeps_write fun x hx hxn => ?_), ?_, fun _ => Mem.read_write⟩
    · have hx' : p + 4 ≤ x := hx
      have hxn' : x < p + 4 + a.dataSize := hxn
      omega
    · show ((m.write p (appXHeader a)).write (p + 4) a.appData).read p 4 = appXHeader a
      rw [Mem.read_write_of_disjoint (by omega)]
      exact Mem.read_write_eq hlen
  · exact ⟨rfl, hhead, Mem.read_write_eq hlen, fun h => absurd h.symm Bool.false_ne_true⟩

/-- `WriteAPPX` puts all of them. -/
theorem writeAPPX_spec (just : Bool) (as : List AppInfo) (m : Mem) (p : Nat) :
    (as.foldl (writeAppX just) (m, p)).2 = p + segmentsSize as ∧
      Mem.Keeps m (as.foldl (writeAppX just) (m, p)).1
        (fun x => p ≤ x ∧ x < p + segmentsSize as) ∧
      SegmentsAt (as.foldl (writeAppX just) (m, p)).1 (!just) p as := by
  induction as generalizing m p with
  | nil => exact ⟨rfl, .refl, trivial⟩
  | cons a as ih =>
      obtain ⟨hstop, hkeeps, hhead, hdata⟩ := writeAppX_spec just m p a
      obtain ⟨hstop', hkeeps', hrest⟩ := ih (writeAppX just (m, p) a).1 (writeAppX just (m, p) a).2
      rw [hstop] at hstop' hkeeps' hrest
      rw [List.foldl_cons, segmentsSize_cons]
      have hpair : writeAppX just (m, p) a =
        ((writeAppX just (m, p) a).1, p + 4 + a.dataSize) := by rw [← hstop]
      rw [hpair]
      refine ⟨by rw [hstop']; omega, ?_, ?_, fun hf => ?_, hrest⟩
      · exact (hkeeps.mono fun x hx => by omega).trans (hkeeps'.mono fun x hx => by omega)
      · exact (hkeeps'.read fun x hx hxn => by omega).trans hhead
      · have hjust : just = false := by simpa using hf
        exact (hkeeps'.read fun x hx hxn => by omega).trans (hdata hjust)

end Segments

/-! ### The filler and the main stream -/

/-- The filler segment of `n` bytes at `p`, if there is one. -/
def FillerAt (m : Mem) (p n : Nat) : Prop :=
  n = 0 ∨ 6 ≤ n ∧ m.read p 2 = [0xFF, 0xEB] ∧ ofBe (m.read (p + 2) 2) + 2 = n

/-- What stands behind APP1: the extra segments, a filler of `app11` bytes and `rest`. -/
structure Tail (m : Mem) (full : Bool) (p : Nat) (extra : List AppInfo) (app11 : Nat)
    (rest : List UInt8) : Prop where
  segments : SegmentsAt m full p extra
  filler : FillerAt m (p + segmentsSize extra) app11
  rest : m.read (p + segmentsSize extra + app11) rest.length = rest

section Tail

variable {m m' : Mem} {full : Bool} {extra : List AppInfo} {p d app11 : Nat} {rest : List UInt8}

/-- The tail moves with its bytes, of which the contents of the filler do not matter. -/
theorem Tail.shift (h : Tail m full p extra app11 rest)
    (hs : ∀ x, p ≤ x → x < p + segmentsSize extra + app11 + rest.length →
      x < p + segmentsSize extra + 4 ∨ p + segmentsSize extra + app11 ≤ x → m' (x + d) = m x) :
    Tail m' full (p + d) extra app11 rest := by
  refine ⟨h.segments.shift fun x hx hxn => hs x hx (by omega) (by omega), ?_, ?_⟩
  · rcases h.filler with hnone | ⟨hsix, hmark, hlen⟩
    · exact .inl hnone
    · refine .inr ⟨hsix, ?_, ?_⟩
      · rw [show p + d + segmentsSize extra = p + segmentsSize extra + d by omega]
        exact (Mem.read_shift fun x hx hxn => hs x (by omega) (by omega) (by omega)).trans hmark
      · rw [show p + d + segmentsSize extra + 2 = p + segmentsSize extra + 2 + d by omega,
          Mem.read_shift fun x hx hxn => hs x (by omega) (by omega) (by omega)]
        exact hlen
  · rw [show p + d + segmentsSize extra + app11 = p + segmentsSize extra + app11 + d by omega]
    exact (Mem.read_shift fun x hx hxn => hs x (by omega) (by omega) (by omega)).trans h.rest

theorem Tail.congr (h : Tail m full p extra app11 rest)
    (hs : ∀ x, p ≤ x → x < p + segmentsSize extra + app11 + rest.length →
      x < p + segmentsSize extra + 4 ∨ p + segmentsSize extra + app11 ≤ x → m' x = m x) :
    Tail m' full p extra app11 rest := h.shift (d := 0) hs

end Tail

/-- The length of APP11 for the alignments of the devices. -/
theorem app11Len_bounds (current align : Nat) (h : align = 1 ∨ align = 16) :
    4 ≤ app11Len current 2 align ∧ app11Len current 2 align ≤ 19 := by
  have hmask : (current + JPEG_MARKER_SIZE + JPEG_SEGMENT_LENFIELD_SIZE) &&& (align - 1) < align := by
    rcases h with rfl | rfl
    · rw [Nat.sub_self, Nat.and_zero]
      decide
    · exact Nat.and_lt_two_pow _ (n := 4) (by decide)
  have hlt : align ≤ 16 := by omega
  unfold app11Len JPEG_SEGMENT_LENFIELD_SIZE
  unfold JPEG_SEGMENT_LENFIELD_SIZE at hmask
  dsimp only
  split
  · omega
  · omega

/-- `WriteAPP11` puts the filler, unless there is nothing that it could follow. -/
theorem writeAPP11_spec (w : Writer) (m : Mem) (current align : Nat) (h : align = 1 ∨ align = 16) :
    ∃ n, (w.writeAPP11 m current JPEG_MARKER_SIZE align).2 = current + n ∧ n ≤ 21 ∧
      (n = 0 ↔ w.exif = none ∧ w.extra = none) ∧
      FillerAt (w.writeAPP11 m current JPEG_MARKER_SIZE align).1 current n ∧
      Mem.Keeps m (w.writeAPP11 m current JPEG_MARKER_SIZE align).1
        (fun x => current ≤ x ∧ x < current + min n 4) := by
  unfold writeAPP11
  rw [if_neg fun hdummy => absurd hdummy.1 (by decide)]
  by_cases hnone : (w.exif.isNone && w.extra.isNone) = true
  · rw [if_pos hnone]
    rw [Bool.and_eq_true, Option.isNone_iff_eq_none, Option.isNone_iff_eq_none] at hnone
    exact ⟨0, rfl, by decide, iff_of_true rfl hnone, .inl rfl, .refl⟩
  · obtain ⟨hlo, hhi⟩ := app11Len_bounds current align h
    rw [if_neg hnone]
    rw [Bool.and_eq_true, Option.isNone_iff_eq_none, Option.isNone_iff_eq_none] at hnone
    have hall : (m.write current ([0xFF, 0xEB] ++ be 2 (app11Len current 2 align))).read current
        (2 + 2) = [0xFF, 0xEB] ++ be 2 (app11Len current 2 align) := Mem.read_write_eq rfl
    rw [Mem.read_add] at hall
    obtain ⟨hmark, hlen⟩ := List.append_inj hall rfl
    refine ⟨2 + app11Len current 2 align, (Nat.add_assoc _ _ _).symm ▸ rfl, by omega,
      iff_of_false (by omega) hnone, .inr ⟨by omega, hmark, ?_⟩, ?_⟩
    · show ofBe ((m.write current ([0xFF, 0xEB] ++ be 2 (app11Len current 2 align))).read
        (current + 2) 2) + 2 = _
      rw [hlen, ofBe_be]
      omega
    · refine Mem.keeps_write fun x hx hxn => ⟨hx, ?_⟩
      have hxn' : x < current + 4 := hxn
      omega

/-! ### APP1 -/

/-- The segment at `p` but for its length field. -/
structure App1Body (t : TagCodes) (e : ExifAttribute) (m : Mem) (p thumbLen : Nat) : Prop where
  marker : m.read p 2 = [0xFF, 0xE1]
  identifier : m.read (p + 4) 6 = ExifIdentifierCode
  header : m.read (p + 10) 8 = TiffHeader
  directories : Directories t e m (p + 10) thumbLen

section App1

variable {t : TagCodes} {e : ExifAttribute} {m m' : Mem} {p thumbLen : Nat}

theorem App1Body.congr (h : App1Body t e m p thumbLen)
    (hs : ∀ x, p ≤ x → x < p + 10 + stopOffset t e → x < p + 2 ∨ p + 4 ≤ x → m' x = m x) :
    App1Body t e m' p thumbLen := by
  have hzeroth := entries0th_size t e
  have hexif := exifOffset_le_firstOffset t e
  have hfirst : firstOffset t e ≤ stopOffset t e := Nat.le_add_right _ _
  refine ⟨?_, ?_, ?_, h.directories.keeps
    (T := fun x => ¬ (p + 18 ≤ x ∧ x < p + 10 + stopOffset t e)) (fun x hx => ?_) ?_⟩
  · exact (Mem.read_congr fun x hx hxn => hs x hx (by omega) (by omega)).trans h.marker
  · exact (Mem.read_congr fun x hx hxn => hs x (by omega) (by omega) (by omega)).trans h.identifier
  · exact (Mem.read_congr fun x hx hxn => hs x (by omega) (by omega) (by omega)).trans h.header
  · have hx' := Decidable.not_not.mp hx
    exact hs x (by omega) hx'.2 (by omega)
  · intro x hx hxn hn
    exact hn ⟨by omega, hxn⟩

/-- The length of the thumbnail goes to the last entry of the 1st directory. -/
theorem App1Body.setThumb (h : App1Body t e m p 0) (ht : e.enableThumb = true) (n : Nat) :
    App1Body t e (m.write (p + 10 + firstOffset t e + 70) (le 4 n)) p n := by
  have hplace : p + 10 + firstOffset t e + 2 + 12 * 5 + 8 = p + 10 + firstOffset t e + 70 := by
    omega
  have hzeroth := entries0th_size t e
  have hexif := exifOffset_le_firstOffset t e
  have hw : Mem.Keeps m (m.write (p + 10 + firstOffset t e + 70) (le 4 n))
      fun x => p + 10 + firstOffset t e ≤ x :=
    Mem.keeps_write fun x hx hxn => by omega
  have hfive : 5 < (fields1st t e (stopOffset t e) 0).length := show 5 < 6 by decide
  have hfirst := (h.directories.first ht).set (v := le 4 n) hfive (Nat.le_refl 4)
    (Nat.le_of_eq (le_length 4 n))
  rw [hplace] at hfirst
  have hset : (fields1st t e (stopOffset t e) 0).set 5
      { (fields1st t e (stopOffset t e) 0)[5] with value := le 4 n } =
      fields1st t e (stopOffset t e) n := by
    have hle : le 4 (UInt32.ofNat n).toNat = le 4 n := by
      rw [UInt32.toNat_ofNat']
      exact le_mod 4 n
    have hlast : longField (t .jpegInterchangeFormatLen) (UInt32.ofNat n) =
        ⟨(t .jpegInterchangeFormatLen).toNat, EXIF_TYPE_LONG, 1, le 4 n⟩ := by
      rw [longField, hle]
    unfold fields1st
    rw [hlast]
    rfl
  rw [hset] at hfirst
  refine ⟨?_, ?_, ?_, ⟨?_, ?_, fun _ => hfirst⟩⟩
  · exact (hw.read fun x hx hxn => by omega).trans h.marker
  · exact (hw.read fun x hx hxn => by omega).trans h.identifier
  · exact (hw.read fun x hx hxn => by omega).trans h.header
  · exact h.directories.zeroth.keeps hw fun x hx hxn => by omega
  · exact h.directories.sub.keeps hw fun x hx hxn => by omega

end App1

/-! ### After `ProcessExif` -/

/-- What APP1 takes with its marker, with or without reserved space. -/
def app1Size (t : TagCodes) (exif : Option ExifAttribute) (reserve : Bool) : Nat :=
  match exif with
  | none => 0
  | some e => 10 + stopOffset t e + countIf reserve (65527 - stopOffset t e)

/-- A short APP1 stays below the limit of a segment with its marker. -/
theorem app1Size_le {t : TagCodes} {exif : Option ExifAttribute}
    (hshort : ∀ e, exif = some e → 8 + stopOffset t e < 2 ^ 16) (reserve : Bool) :
    app1Size t exif reserve ≤ 65537 := by
  cases exif with
  | none => exact Nat.zero_le _
  | some e =>
      have hlt := hshort e rfl
      cases reserve
      · rw [app1Size, countIf_false]
        omega
      · rw [app1Size, countIf_true]
        omega

/-- The segments are written and the place of the main stream is known. -/
structure Marked (t : TagCodes) (exif : Option ExifAttribute) (full reserve : Bool) (w : Writer)
    (m : Mem) (app11 : Nat) : Prop where
  app1End : w.app1End = w.appBase + app1Size t exif reserve
  mainBase : w.mainBase + 2 =
    w.appBase + app1Size t exif reserve + segmentsSize (w.extra.getD []) + app11
  szApp11 : w.szApp11 = app11
  bound : app11 ≤ 21
  none_iff : app11 = 0 ↔ exif = none ∧ w.extra = none
  segments : SegmentsAt m full (w.appBase + app1Size t exif reserve) (w.extra.getD [])
  filler : FillerAt m (w.appBase + app1Size t exif reserve + segmentsSize (w.extra.getD [])) app11
  body : ∀ e, exif = some e → App1Body t e m w.appBase 0
  length : ∀ e, exif = some e → ofBe (m.read (w.appBase + 2) 2) + 2 = app1Size t exif reserve

/-- What the writer knows about the thumbnail. -/
structure ThumbKnown (t : TagCodes) (exif : Option ExifAttribute) (w : Writer) : Prop where
  szApp1 : w.szApp1 = match exif with
    | none => 0
    | some e => 8 + stopOffset t e
  noThumb : (∀ e, exif = some e → e.enableThumb = false) → w.thumbBase = 0 ∧ w.maxThumbSize = 0
  thumb : ∀ e, exif = some e → e.enableThumb = true →
    w.thumbBase = w.appBase + 10 + stopOffset t e ∧
    (w.maxThumbSize + JPEG_APP1_OEM_RESERVED) % 2 ^ 64 = 65527 - stopOffset t e ∧
    w.thumbSizePlaceholder = w.appBase + 10 + firstOffset t e + 70

section Write

variable {t : TagCodes} {w : Writer} {m : Mem} {reserve just : Bool} {align : Nat}

/-- `Write` behind the end of APP1. -/
structure RestWritten (a r : Mem × Writer × Nat) (extra : List AppInfo) (just : Bool) (app11 : Nat) :
    Prop where
  stop : r.2.2 = a.2.2 + segmentsSize extra + app11
  bound : app11 ≤ 21
  none_iff : app11 = 0 ↔ a.2.1.exif = none ∧ a.2.1.extra = none
  segments : SegmentsAt r.1 (!just) a.2.2 extra
  filler : FillerAt r.1 (a.2.2 + segmentsSize extra) app11
  keeps : Mem.Keeps a.1 r.1 fun x => a.2.2 ≤ x
  writer : r.2.1 = { a.2.1 with
    app1End := a.2.2, szApp11 := app11, mainBase := r.2.2 - JPEG_MARKER_SIZE }

theorem write_rest (w : Writer) (m : Mem) (reserve just : Bool) (halign : align = 1 ∨ align = 16)
    {a : Mem × Writer × Nat} (ha : w.writeAPP1 t m w.appBase reserve = a) :
    ∃ stop app11, RestWritten a ((w.write t m reserve JPEG_MARKER_SIZE align just).1,
      (w.write t m reserve JPEG_MARKER_SIZE align just).2, stop) (a.2.1.extra.getD []) just
      app11 := by
  obtain ⟨hstop, hkeeps, hsegs⟩ := writeAPPX_spec just (a.2.1.extra.getD []) a.1 a.2.2
  obtain ⟨app11, hstop', hbound, hnone, hfill, hkeeps'⟩ :=
    writeAPP11_spec a.2.1 (a.2.1.writeAPPX a.1 a.2.2 just).1 (a.2.1.writeAPPX a.1 a.2.2 just).2
      align halign
  have hend : (a.2.1.writeAPPX a.1 a.2.2 just).2 = a.2.2 + segmentsSize (a.2.1.extra.getD []) :=
    hstop
  rw [hend] at hstop' hfill hkeeps'
  have hmem : (w.write t m reserve JPEG_MARKER_SIZE align just).1 =
      (a.2.1.writeAPP11 (a.2.1.writeAPPX a.1 a.2.2 just).1
        (a.2.2 + segmentsSize (a.2.1.extra.getD [])) JPEG_MARKER_SIZE align).1 := by
    rw [← hend, ← ha]
    rfl
  have hlen : (a.2.2 + segmentsSize (a.2.1.extra.getD []) + app11
      - (a.2.2 + segmentsSize (a.2.1.extra.getD []))) % 2 ^ 16 = app11 := by omega
  refine ⟨_, app11, ⟨rfl, hbound, hnone, ?_, ?_, ?_, ?_⟩⟩
  · refine hsegs.congr fun x hx hxn => ?_
    rw [hmem]
    exact hkeeps' x fun hx' => by omega
  · rw [hmem]
    exact hfill
  · rw [hmem]
    exact (hkeeps.mono fun x hx => hx.1).trans (hkeeps'.mono fun x hx => by omega)
  · have hw : (w.write t m reserve JPEG_MARKER_SIZE align just).2 = { a.2.1 with
        app1End := a.2.2
        szApp11 := ((a.2.1.writeAPP11 (a.2.1.writeAPPX a.1 a.2.2 just).1
          (a.2.1.writeAPPX a.1 a.2.2 just).2 JPEG_MARKER_SIZE align).2
          - (a.2.1.writeAPPX a.1 a.2.2 just).2) % 2 ^ 16
        mainBase := (a.2.1.writeAPP11 (a.2.1.writeAPPX a.1 a.2.2 just).1
          (a.2.1.writeAPPX a.1 a.2.2 just).2 JPEG_MARKER_SIZE align).2 - JPEG_MARKER_SIZE } := by
      rw [← ha]
      rfl
    rw [hend, hstop', hlen] at hw
    exact hw

theorem write_marked {e : ExifAttribute} (just : Bool) (hp : Prepared e w)
    (hspace : w.appBase + 10 + stopOffset t e + 2 ^ 16 ≤ 2 ^ 64)
    (hshort : 8 + stopOffset t e < 2 ^ 16) (hreserve : reserve = true → e.enableThumb = true)
    (halign : align = 1 ∨ align = 16) :
    let r := w.write t m reserve JPEG_MARKER_SIZE align just
    (∃ app11, Marked t (some e) (!just) reserve r.2 r.1 app11) ∧ ThumbKnown t (some e) r.2 ∧
      r.2.appBase = w.appBase ∧ r.2.extra = w.extra := by
  intro r
  have happ := applen_eq t e
  have hw := writeAPP1_spec hp (t := t) m reserve
  have hstop := writeAPP1_stop hp hspace hshort hreserve (m := m)
  obtain ⟨hmark, hread, hident, hheader⟩ := app1Header_read hw
  have hsz : w.szApp1 = 8 + stopOffset t e := by
    rw [hp.szApp1, happ, Nat.mod_eq_of_lt hshort]
  have hsize : app1Size t (some e) reserve =
      10 + stopOffset t e + countIf reserve (65527 - stopOffset t e) := rfl
  have hend : (w.writeAPP1 t m w.appBase reserve).2.2 =
      w.appBase + app1Size t (some e) reserve := by
    rw [hstop, hsize, happ, show 65535 - (8 + stopOffset t e) = 65527 - stopOffset t e by omega]
    omega
  obtain ⟨stop, app11, hrest⟩ := write_rest w m reserve just halign (t := t) rfl
  have hr := hrest.writer
  have hstop' := hrest.stop
  have hnone := hrest.none_iff
  have hsegs := hrest.segments
  have hfill := hrest.filler
  have hkeeps := hrest.keeps
  rw [hw.writer] at hr hstop' hnone hsegs hfill
  rw [hend] at hr hstop' hsegs hfill hkeeps
  dsimp only at hr hstop' hnone hsegs hfill hkeeps
  rw [hp.exif] at hnone
  have hr' : r.2 = _ := hr
  have hbase' : r.2.appBase = w.appBase := by rw [hr']
  have hextra' : r.2.extra = w.extra := by rw [hr']
  have hbefore : ∀ x, x < w.appBase + app1Size t (some e) reserve → r.1 x =
      (w.writeAPP1 t m w.appBase reserve).1 x := fun x hx => hkeeps x (Nat.not_le.mpr hx)
  refine ⟨⟨app11, ?_⟩, ?_, hbase', hextra'⟩
  · refine ⟨?_, ?_, ?_, hrest.bound, ?_, ?_, ?_, ?_, ?_⟩
    · rw [hbase', hr']
    · rw [hbase', hextra', hr']
      show stop - 2 + 2 = _
      omega
    · rw [hr']
    · rw [hextra']
      exact hnone
    · rw [hbase', hextra']
      exact hsegs
    · rw [hbase', hextra']
      exact hfill
    · intro e' he'
      cases he'
      rw [hbase']
      refine App1Body.congr ⟨hmark, hident, hheader, hw.directories⟩ fun x _ hx _ => hbefore x ?_
      omega
    · intro e' he'
      rw [hbase', Mem.read_congr fun x hx hxn => hbefore x (by omega), hread, hsz, hsize]
      cases reserve
      · rw [countIf_false, countIf_false]
        omega
      · have hthumb := thumbSpace_eq hp (hreserve rfl) (by omega)
        rw [countIf_true, countIf_true]
        omega
  · refine ⟨?_, fun hno => ?_, fun e' he' ht => ?_⟩
    · rw [hr']
      exact hsz
    · have hno' := hno e rfl
      rw [hr']
      refine ⟨hp.noThumb hno', hp.maxThumbSize.trans ?_⟩
      rw [hno', if_neg Bool.false_ne_true]
    · cases he'
      have hthumb := thumbSpace_eq hp ht (by omega)
      rw [hr']
      refine ⟨?_, ?_, ?_⟩
      · show w.thumbBase = w.appBase + 10 + stopOffset t e
        rw [hp.thumbBase ht, happ, JPEG_MARKER_SIZE]
        omega
      · show (w.maxThumbSize + JPEG_APP1_OEM_RESERVED) % 2 ^ 64 = _
        rw [hthumb]
        omega
      · show (if e.enableThumb then w.appBase + 10 + firstOffset t e + 70
          else w.thumbSizePlaceholder) = w.appBase + 10 + firstOffset t e + 70
        rw [if_pos ht]

theorem write_marked_none (reserve just : Bool) (hexif : w.exif = none) (hsz : w.szApp1 = 0)
    (hthumb : w.thumbBase = 0) (hmax : w.maxThumbSize = 0) (hbase : 2 ≤ w.appBase) (halign : align = 1 ∨ align = 16) :
    let r := w.write t m reserve JPEG_MARKER_SIZE align just
    (∃ app11, Marked t none (!just) reserve r.2 r.1 app11) ∧ ThumbKnown t none r.2 ∧
      r.2.appBase = w.appBase ∧ r.2.extra = w.extra := by
  intro r
  have hw : w.writeAPP1 t m w.appBase reserve = (m, w, w.appBase) := by
    unfold writeAPP1
    rw [hexif]
  obtain ⟨stop, app11, hrest⟩ := write_rest w m reserve just halign hw
  have hr : r.2 = _ := hrest.writer
  have hstop := hrest.stop
  have hbase' : r.2.appBase = w.appBase := by rw [hr]
  have hextra' : r.2.extra = w.extra := by rw [hr]
  have hsize : app1Size t none reserve = 0 := rfl
  dsimp only at hstop
  refine ⟨⟨app11, ?_, ?_, ?_, hrest.bound, ?_, ?_, ?_, ?_, ?_⟩, ⟨?_, fun _ => ?_, ?_⟩, hbase',
    hextra'⟩
  · rw [hr]
    rfl
  · rw [hbase', hextra', hr, hsize]
    show stop - 2 + 2 = _
    omega
  · rw [hr]
  · rw [hextra']
    exact hrest.none_iff.trans ⟨fun h => ⟨rfl, h.2⟩, fun h => ⟨hexif, h.2⟩⟩
  · rw [hbase', hextra']
    exact hrest.segments
  · rw [hbase', hextra']
    exact hrest.filler
  · exact fun e he => nomatch he
  · exact fun e he => nomatch he
  · rw [hr]
    exact hsz
  · rw [hr]
    exact ⟨hthumb, hmax⟩
  · exact fun e he => nomatch he

end Write

/-! ### The main stream -/

/-- What a correct compressor leaves: `stream`, from SOI to EOI, and bytes behind it
    in which there is no EOI. -/
structure MainStream (delivered stream : List UInt8) : Prop where
  start : ∃ dummies, delivered = stream ++ dummies
  soi : stream.take 2 = [0xFF, 0xD8]
  eoi : ∃ body, stream = body ++ [0xFF, 0xD9] ∧ 2 ≤ body.length
  last : ∀ i, stream.length - 1 ≤ i → ¬ (delivered[i]? = some 0xFF ∧ delivered[i + 1]? = some 0xD9)

theorem MainStream.length {delivered stream : List UInt8} (h : MainStream delivered stream) :
    4 ≤ stream.length ∧ stream.length ≤ delivered.length := by
  obtain ⟨dummies, hd⟩ := h.start
  obtain ⟨body, hb, hlen⟩ := h.eoi
  constructor
  · rw [hb, List.length_append]
    exact Nat.add_le_add_right hlen 2
  · rw [hd, List.length_append]
    exact Nat.le_add_right _ _

theorem lastEOI_eq {m : Mem} {base k : Nat} (hk : m (base + k) = 0xFF) (hk' : m (base + k + 1) = 0xD9)
    (hpos : 0 < k) : ∀ n, k ≤ n →
      (∀ i, k < i → i ≤ n → ¬ (m (base + i) = 0xFF ∧ m (base + i + 1) = 0xD9)) →
      lastEOI m base n = k + 2
  | 0, hn, _ => absurd hn (by omega)
  | n + 1, hn, hlast => by
      unfold lastEOI
      by_cases hkn : k = n + 1
      · subst hkn
        rw [if_pos ⟨hk, hk'⟩]
      · rw [if_neg (hlast (n + 1) (by omega) (Nat.le_refl _))]
        exact lastEOI_eq hk hk' hpos n (by omega) fun i hi hin => hlast i hi (by omega)

/-- The bytes behind the stream are found. -/
theorem removeTrailingDummies_eq {m : Mem} {base : Nat} {delivered stream : List UInt8}
    (h : MainStream delivered stream) (hm : m.read base delivered.length = delivered)
    (hlt : delivered.length < 2 ^ 64) :
    removeTrailingDummies m base delivered.length = stream.length := by
  obtain ⟨hfour, hle⟩ := h.length
  obtain ⟨dummies, hd⟩ := h.start
  obtain ⟨body, hb, hlen⟩ := h.eoi
  have hbody : stream.length = body.length + 2 := by rw [hb, List.length_append]; rfl
  have hat : ∀ i, i < delivered.length → delivered[i]? = some (m (base + i)) := by
    intro i hi
    rw [← hm]
    exact Mem.read_getElem hi
  have hsub : sizeSub delivered.length 2 = delivered.length - 2 := by
    unfold sizeSub
    omega
  have hfirst : delivered[body.length]? = some 0xFF := by
    rw [hd, hb, List.append_assoc, List.getElem?_append_right (Nat.le_refl _), Nat.sub_self]
    rfl
  have hsecond : delivered[body.length + 1]? = some 0xD9 := by
    rw [hd, hb, List.append_assoc, List.getElem?_append_right (by omega),
      show body.length + 1 - body.length = 1 by omega]
    rfl
  rw [hat _ (by omega), Option.some.injEq] at hfirst hsecond
  unfold removeTrailingDummies
  rw [hsub, hbody]
  refine lastEOI_eq hfirst hsecond (by omega) _ (by omega) fun i hi hin => ?_
  have hno := h.last i (by omega)
  rw [hat i (by omega), hat (i + 1) (by omega), Option.some.injEq, Option.some.injEq] at hno
  exact hno

/-- The main stream stands behind the segments, and its SOI is cleared. -/
theorem Marked.tail {t : TagCodes} {exif : Option ExifAttribute} {full reserve : Bool} {w : Writer}
    {m : Mem} {app11 : Nat} {delivered stream : List UInt8}
    (h : Marked t exif full reserve w m app11) (hmain : MainStream delivered stream) :
    Tail ((m.write w.mainBase delivered).write w.mainBase [0, 0]) full
        (w.appBase + app1Size t exif reserve) (w.extra.getD []) app11 (stream.drop 2) ∧
      ∀ x, x < w.mainBase →
        (m.write w.mainBase delivered).write w.mainBase [0, 0] x = m x := by
  have hplace := h.mainBase
  obtain ⟨hfour, hle⟩ := hmain.length
  obtain ⟨dummies, hd⟩ := hmain.start
  have hbelow : ∀ x, x < w.mainBase →
      (m.write w.mainBase delivered).write w.mainBase [0, 0] x = m x := by
    intro x hx
    rw [Mem.write_below hx, Mem.write_below hx]
  refine ⟨⟨?_, ?_, ?_⟩, hbelow⟩
  · by_cases hzero : app11 = 0
    · rw [(h.none_iff.mp hzero).2]
      trivial
    · have hfill := h.filler.resolve_left hzero
      exact h.segments.congr fun x hx hxn => hbelow x (by omega)
  · rcases h.filler with hzero | ⟨hsix, hmark, hlen⟩
    · exact .inl hzero
    · refine .inr ⟨hsix, ?_, ?_⟩
      · exact (Mem.read_congr fun x hx hxn => hbelow x (by omega)).trans hmark
      · rw [Mem.read_congr fun x hx hxn => hbelow x (by omega)]
        exact hlen
  · rw [← hplace]
    have hread : (m.write w.mainBase delivered).read w.mainBase (2 + (stream.length - 2)) =
        stream := by
      rw [show 2 + (stream.length - 2) = stream.length by omega]
      have hall : (m.write w.mainBase delivered).read w.mainBase
          (stream.length + dummies.length) = stream ++ dummies := by
        rw [hd]
        exact Mem.read_write_eq (List.length_append)
      rw [Mem.read_add] at hall
      exact (List.append_inj hall Mem.read_length).1
    rw [Mem.read_add] at hread
    rw [List.length_drop, Mem.read_congr fun x hx hxn => Mem.write_above (by exact hx)]
    have hdrop := congrArg (List.drop 2) hread
    rwa [List.drop_left' Mem.read_length] at hdrop

/-! ### Sizes -/

section Sizes

variable {t : TagCodes} {exif : Option ExifAttribute} {full reserve : Bool} {w : Writer} {m : Mem}
  {app11 : Nat}

/-- The test for reserved space, when there is a thumbnail. -/
theorem reserved_thumb {e : ExifAttribute} (h : Marked t (some e) full reserve w m app11)
    (hk : ThumbKnown t (some e) w) (ht : e.enableThumb = true) (hshort : 8 + stopOffset t e < 2 ^ 16) :
    w.isThumbSpaceReserved = true ∧ app1Size t (some e) reserve = 65537 ∨
      w.isThumbSpaceReserved = false ∧ app1Size t (some e) reserve = 10 + stopOffset t e := by
  obtain ⟨-, hmax, -⟩ := hk.thumb e rfl ht
  have hsz : w.szApp1 = 8 + stopOffset t e := hk.szApp1
  have hsize : app1Size t (some e) reserve =
      10 + stopOffset t e + countIf reserve (65527 - stopOffset t e) := rfl
  have hend : sizeSub w.app1End w.appBase = app1Size t (some e) reserve := by
    rw [h.app1End, sizeSub_add, hsize]
    cases reserve
    · rw [countIf_false]
      omega
    · rw [countIf_true]
      omega
  have hsum : (w.szApp1 + w.maxThumbSize + JPEG_APP1_OEM_RESERVED + JPEG_MARKER_SIZE) % 2 ^ 64 =
      65537 := by
    rw [hsz, JPEG_MARKER_SIZE]
    omega
  unfold isThumbSpaceReserved
  rw [hend, hsum]
  by_cases hres : app1Size t (some e) reserve = 65537
  · exact .inl ⟨decide_eq_true hres, hres⟩
  · refine .inr ⟨decide_eq_false hres, ?_⟩
    cases reserve
    · rw [hsize, countIf_false, Nat.add_zero]
    · rw [countIf_true] at hsize
      omega

/-- Without a thumbnail no space is reserved. -/
theorem reserved_noThumb (h : Marked t exif full reserve w m app11) (hk : ThumbKnown t exif w)
    (hno : ∀ e, exif = some e → e.enableThumb = false)
    (hreserve : reserve = true → ∃ e, exif = some e ∧ e.enableThumb = true)
    (hshort : ∀ e, exif = some e → 8 + stopOffset t e < 2 ^ 16) :
    w.isThumbSpaceReserved = false := by
  have hres : reserve = false := by
    cases reserve
    · rfl
    · obtain ⟨e, he, ht⟩ := hreserve rfl
      exact absurd (ht.symm.trans (hno e he)) (Bool.false_ne_true ∘ Eq.symm)
  subst hres
  obtain ⟨-, hmax⟩ := hk.noThumb hno
  have hsz := hk.szApp1
  unfold isThumbSpaceReserved
  refine decide_eq_false ?_
  rw [h.app1End, sizeSub_add, hmax, JPEG_APP1_OEM_RESERVED, JPEG_MARKER_SIZE]
  cases exif with
  | none =>
      rw [hsz]
      show ¬ 0 % 2 ^ 64 = (0 + 0 + 200 + 2) % 2 ^ 64
      decide
  | some e =>
      have hlt := hshort e rfl
      have hsize : app1Size t (some e) false = 10 + stopOffset t e := by
        rw [app1Size, countIf_false, Nat.add_zero]
      dsimp only at hsz
      rw [hsize, hsz]
      omega

/-- **`CalculateAPPSize` with a thumbnail** is what the segments take with it. -/
theorem calculateAPPSize_thumb {e : ExifAttribute} (h : Marked t (some e) full reserve w m app11)
    (hk : ThumbKnown t (some e) w) (ht : e.enableThumb = true) (hshort : 8 + stopOffset t e < 2 ^ 16)
    {n : Nat} (hn : n ≤ w.maxThumbSize)
    (hspace : 2 ^ 17 + segmentsSize (w.extra.getD []) + n ≤ 2 ^ 64) :
    w.calculateAPPSize n = app1Size t (some e) reserve
      + (if w.isThumbSpaceReserved then 0 else n) + segmentsSize (w.extra.getD []) + app11 := by
  obtain ⟨-, hmax, -⟩ := hk.thumb e rfl ht
  have hsz : w.szApp1 = 8 + stopOffset t e := hk.szApp1
  have h11 := h.bound
  unfold calculateAPPSize
  rw [h.szApp11, if_pos (by omega), hsz, JPEG_MARKER_SIZE]
  rcases reserved_thumb h hk ht hshort with ⟨hres, hsize⟩ | ⟨hres, hsize⟩
  · rw [hres, if_pos rfl, if_pos rfl, hsize]
    omega
  · rw [hres, if_neg Bool.false_ne_true, if_neg Bool.false_ne_true, Nat.min_eq_right hn, hsize]
    omega

/-- `CalculateAPPSize` without one. -/
theorem calculateAPPSize_noThumb (h : Marked t exif full reserve w m app11)
    (hk : ThumbKnown t exif w) (hno : ∀ e, exif = some e → e.enableThumb = false)
    (hreserve : reserve = true → ∃ e, exif = some e ∧ e.enableThumb = true)
    (hshort : ∀ e, exif = some e → 8 + stopOffset t e < 2 ^ 16)
    (hspace : 2 ^ 18 + segmentsSize (w.extra.getD []) ≤ 2 ^ 64) :
    w.calculateAPPSize 0 = app1Size t exif reserve + segmentsSize (w.extra.getD []) + app11 := by
  have hres := reserved_noThumb h hk hno hreserve hshort
  have hsz := hk.szApp1
  have h11 := h.bound
  have hreserve' : reserve = false := by
    cases reserve
    · rfl
    · obtain ⟨e, he, ht⟩ := hreserve rfl
      exact absurd (ht.symm.trans (hno e he)) (Bool.false_ne_true ∘ Eq.symm)
  unfold calculateAPPSize
  rw [hres, if_neg Bool.false_ne_true, Nat.min_zero, h.szApp11, hreserve', JPEG_MARKER_SIZE]
  cases exif with
  | none =>
      have hsize : app1Size t none false = 0 := rfl
      dsimp only at hsz
      rw [hsz, if_neg (Nat.lt_irrefl 0), hsize]
      omega
  | some e =>
      have hlt := hshort e rfl
      have hsize : app1Size t (some e) false = 10 + stopOffset t e := by
        rw [app1Size, countIf_false, Nat.add_zero]
      dsimp only at hsz
      rw [hsz, if_pos (by omega), hsize]
      omega

end Sizes

/-! ### The thumbnail -/

section Thumb

variable {t : TagCodes} {e : ExifAttribute} {full : Bool} {w : Writer} {m : Mem} {app11 : Nat}
  {thumb rest : List UInt8}

/-- The thumbnail and its length are stored. -/
theorem putThumb_spec (hbody : App1Body t e m w.appBase 0) (hk : ThumbKnown t (some e) w)
    (ht : e.enableThumb = true) {m' : Mem}
    (hm' : m' = if 0 < thumb.length then
      (w.finalize (m.write w.thumbBase thumb) thumb.length).1 else m) :
    App1Body t e m' w.appBase thumb.length ∧
      m'.read (w.appBase + 10 + stopOffset t e) thumb.length = thumb ∧
      Mem.Keeps m m' fun x => w.appBase + 10 + firstOffset t e + 70 ≤ x ∧
        x < w.appBase + 10 + stopOffset t e + thumb.length := by
  obtain ⟨hbase, -, hplace⟩ := hk.thumb e rfl ht
  have hstop : stopOffset t e = firstOffset t e + 78 := by
    rw [stopOffset, ht, countIf_true]
    rfl
  by_cases hpos : 0 < thumb.length
  · rw [if_pos hpos] at hm'
    unfold finalize at hm'
    rw [if_neg (by omega), hplace, hbase] at hm'
    have hthumb : Mem.Keeps m (m.write (w.appBase + 10 + stopOffset t e) thumb)
        fun x => w.appBase + 10 + firstOffset t e + 70 ≤ x ∧
          x < w.appBase + 10 + stopOffset t e + thumb.length :=
      Mem.keeps_write fun x hx hxn => by omega
    have hbody' : App1Body t e (m.write (w.appBase + 10 + stopOffset t e) thumb) w.appBase 0 :=
      hbody.congr fun x _ hx _ => Mem.write_below (by omega)
    subst hm'
    refine ⟨hbody'.setThumb ht thumb.length, ?_, hthumb.trans (Mem.keeps_write fun x hx hxn => ?_)⟩
    · rw [Mem.read_write_of_disjoint (by rw [le_length]; omega)]
      exact Mem.read_write
    · rw [le_length] at hxn
      omega
  · rw [if_neg hpos] at hm'
    have hnil : thumb = [] := List.length_eq_zero_iff.mp (by omega)
    subst hm' hnil
    exact ⟨hbody, rfl, .refl⟩

/-- **The thumbnail is put into APP1**, at the expense of the reserved space or with
    everything behind it moved. -/
theorem embedThumb_spec {reserve : Bool} {mem : Mem} {n : Nat} {extra : List AppInfo}
    (h : Marked t (some e) full reserve w mem app11) (hk : ThumbKnown t (some e) w)
    (ht : e.enableThumb = true) (hbase : w.appBase ≠ 0)
    (hspace : w.mainBase + rest.length < 2 ^ 64) (hextra : extra = w.extra.getD [])
    (hfit : 8 + stopOffset t e + thumb.length < 2 ^ 16) (hn : n = rest.length + 2)
    (hbody : App1Body t e m w.appBase 0)
    (hlen : ofBe (m.read (w.appBase + 2) 2) + 2 = app1Size t (some e) reserve)
    (htail : Tail m full (w.appBase + app1Size t (some e) reserve) extra app11 rest) :
    let m' := embedThumb w m n thumb
    let app1 := app1Size t (some e) reserve + if w.isThumbSpaceReserved then 0 else thumb.length
    App1Body t e m' w.appBase thumb.length ∧ ofBe (m'.read (w.appBase + 2) 2) + 2 = app1 ∧
      10 + stopOffset t e + thumb.length ≤ app1 ∧
      m'.read (w.appBase + 10 + stopOffset t e) thumb.length = thumb ∧
      Tail m' full (w.appBase + app1) extra app11 rest := by
  intro m' app1
  obtain ⟨hthumbBase, hmax, hplace⟩ := hk.thumb e rfl ht
  have hstop : stopOffset t e = firstOffset t e + 78 := by
    rw [stopOffset, ht, countIf_true]
    rfl
  have hsz : w.szApp1 = 8 + stopOffset t e := hk.szApp1
  have hmain := h.mainBase
  rw [← hextra] at hmain
  have hsix : 6 ≤ app11 := by
    rcases h.filler with hzero | hfill
    · exact absurd (h.none_iff.mp hzero).1 (Option.some_ne_none e)
    · exact hfill.1
  rcases reserved_thumb h hk ht (by omega) with ⟨hres, hsize⟩ | ⟨hres, hsize⟩
  · have happ1 : app1 = app1Size t (some e) reserve := by
      show _ + (if w.isThumbSpaceReserved then 0 else thumb.length) = _
      rw [hres, if_pos rfl, Nat.add_zero]
    obtain ⟨mT, hmT⟩ : ∃ mT, mT = if 0 < thumb.length then
      (w.finalize (m.write w.thumbBase thumb) thumb.length).1 else m := ⟨_, rfl⟩
    obtain ⟨hbody', hread, hkeeps⟩ := putThumb_spec hbody hk ht hmT
    have hfill : (sizeSub w.maxThumbSize thumb.length + JPEG_APP1_OEM_RESERVED) % 2 ^ 64 =
        65527 - stopOffset t e - thumb.length := by
      unfold sizeSub JPEG_APP1_OEM_RESERVED
      unfold JPEG_APP1_OEM_RESERVED at hmax
      omega
    have hm' : m' = mT.fill (w.thumbBase + thumb.length) 0
        (65527 - stopOffset t e - thumb.length) := by
      rw [hmT, ← hfill]
      show embedThumb w m n thumb = _
      unfold embedThumb
      rw [hres, if_pos rfl, if_pos rfl]
    have hkeeps' : Mem.Keeps mT m' fun x => w.appBase + 10 + stopOffset t e + thumb.length ≤ x ∧
        x < w.appBase + 65537 := by
      rw [hm', hthumbBase]
      refine Mem.keeps_write fun x hx hxn => ?_
      rw [List.length_replicate] at hxn
      omega
    rw [happ1]
    refine ⟨hbody'.congr fun x _ hx _ => hkeeps' x fun hx' => by omega, ?_, by omega, ?_,
      htail.congr fun x hx _ _ => ?_⟩
    · rw [hkeeps'.read fun x hx hxn => by omega, hkeeps.read fun x hx hxn => by omega]
      exact hlen
    · exact (hkeeps'.read fun x hx hxn => by omega).trans hread
    · exact (hkeeps' x fun hx' => by omega).trans (hkeeps x fun hx' => by omega)
  · have happ1 : app1 = app1Size t (some e) reserve + thumb.length := by
      show _ + (if w.isThumbSpaceReserved then 0 else thumb.length) = _
      rw [hres, if_neg Bool.false_ne_true]
    have hend : w.app1End = w.appBase + 10 + stopOffset t e := by
      rw [h.app1End, hsize, Nat.add_assoc]
    have hdiff : sizeSub w.mainBase w.app1End = segmentsSize extra + app11 - 2 := by
      unfold sizeSub
      omega
    obtain ⟨mM, hmM⟩ : ∃ mM, mM = m.move (w.app1End + thumb.length) w.app1End
      (n + (segmentsSize extra + app11 - 2)) := ⟨_, rfl⟩
    obtain ⟨mL, hmL⟩ : ∃ mL, mL = w.updateApp1Size mM thumb.length := ⟨_, rfl⟩
    obtain ⟨mT, hmT⟩ : ∃ mT, mT = if 0 < thumb.length then
      (w.finalize (mL.write w.thumbBase thumb) thumb.length).1 else mL := ⟨_, rfl⟩
    have hm' : m' = mT := by
      rw [hmT, hmL, hmM, ← hdiff]
      show embedThumb w m n thumb = _
      unfold embedThumb
      rw [hres, if_neg Bool.false_ne_true, if_neg Bool.false_ne_true]
    unfold updateApp1Size JPEG_MARKER_SIZE at hmL
    rw [if_neg hbase] at hmL
    -- what is moved, and what stays in front of it
    have hmoved : ∀ x, w.app1End ≤ x → x < w.app1End + (n + (segmentsSize extra + app11 - 2)) →
        mM (x + thumb.length) = m x := by
      intro x hx hxn
      rw [hmM, show x + thumb.length = x + (w.app1End + thumb.length) - w.app1End by omega]
      exact Mem.move_at hx hxn
    have hfront : ∀ x, x < w.app1End → mM x = m x := by
      intro x hx
      rw [hmM]
      exact Mem.move_outside (by omega)
    have hlength : ∀ x, x < w.appBase + 2 ∨ w.appBase + 4 ≤ x → mL x = mM x := by
      intro x hx
      rw [hmL]
      exact Mem.write_outside (by rw [be_length]; omega)
    have hbodyL : App1Body t e mL w.appBase 0 :=
      hbody.congr fun x _ hx hx' => (hlength x hx').trans (hfront x (by omega))
    obtain ⟨hbody', hread, hkeeps⟩ := putThumb_spec hbodyL hk ht hmT
    rw [hm', happ1]
    refine ⟨hbody', ?_, by omega, hread, ?_⟩
    · rw [hkeeps.read fun x hx hxn => by omega, hmL, Mem.read_write_eq (be_length 2 _), ofBe_be, hsz,
        hsize]
      omega
    · rw [← Nat.add_assoc]
      refine htail.shift fun x hx hxn _ => ?_
      rw [hkeeps (x + thumb.length) fun hx' => by omega, hlength (x + thumb.length) (by omega)]
      exact hmoved x (by omega) (by omega)

end Thumb

/-! ### `ProcessExif` -/

theorem reserveThumbspace_true {limit : Nat} {exif : Option ExifAttribute}
    (h : reserveThumbspace limit exif = true) : ∃ e, exif = some e ∧ e.enableThumb = true := by
  cases exif with
  | none => exact absurd h Bool.false_ne_true
  | some e =>
      rw [reserveThumbspace, Bool.and_eq_true] at h
      exact ⟨e, rfl, h.1⟩

/-- What `ProcessExif` leaves for the compressors. -/
structure Processed (t : TagCodes) (enc : Encoder) (exif : Option ExifAttribute)
    (extra : Option (List AppInfo)) (r : Mem × Writer) (app11 : Nat) : Prop where
  marked : Marked t exif (!enc.hwfc) (reserveThumbspace enc.streamSize exif) r.2 r.1 app11
  known : ThumbKnown t exif r.2
  appBase : r.2.appBase = enc.streamBase + 2
  extra : r.2.extra = extra
  inside : reserveThumbspace enc.streamSize exif = false →
    r.2.mainBase ≤ enc.streamBase + enc.streamSize

section Process

variable {t : TagCodes} {enc : Encoder} {m : Mem} {exif : Option ExifAttribute}
  {extra : Option (List AppInfo)}

/-- The test of the buffer length, before APP11 is written. -/
theorem calculateAPPSize_prepared {w : Writer}
    (hacc : (enc.appWriter.prepareAppWriter (enc.streamBase + JPEG_MARKER_SIZE) exif extra).2 = true)
    (hshort : ∀ e, exif = some e → 8 + stopOffset t e < 2 ^ 16)
    (hspace : enc.streamBase + 2 ^ 18 + segmentsSize (extra.getD []) ≤ 2 ^ 64)
    (h11 : enc.appWriter.szApp11 < 2 ^ 16)
    (hw : w = (enc.appWriter.prepareAppWriter (enc.streamBase + JPEG_MARKER_SIZE) exif extra).1) :
    app1Size t exif false + segmentsSize (extra.getD []) ≤ w.calculateAPPSize 0 := by
  obtain ⟨hend, h11'⟩ := prepareAppWriter_stale enc.appWriter (enc.streamBase + JPEG_MARKER_SIZE)
    exif extra
  rw [← hw] at hend h11'
  cases exif with
  | none =>
      have hnone := prepareAppWriter_none hacc
      rw [← hw] at hnone
      have hsize : app1Size t none false = 0 := rfl
      have hsz : w.szApp1 = 0 := by rw [hnone]; rfl
      have hmax : w.maxThumbSize = 0 := by rw [hnone]; rfl
      have hextra : w.extra = extra := by rw [hnone]
      have hres : w.isThumbSpaceReserved = false := by
        have hbase : w.appBase = enc.streamBase + 2 := by rw [hnone]; rfl
        refine decide_eq_false ?_
        rw [hend, hsz, hmax, hbase, JPEG_APP1_OEM_RESERVED, JPEG_MARKER_SIZE]
        unfold sizeSub
        omega
      unfold calculateAPPSize
      rw [hsz, if_neg (Nat.lt_irrefl 0), hextra, hres, if_neg Bool.false_ne_true, Nat.min_zero, h11',
        hsize]
      omega
  | some e =>
      have hlt := hshort e rfl
      obtain ⟨hp, hbase, hextra⟩ := prepareAppWriter_prepared hacc
      rw [← hw] at hp hbase hextra
      have happ := applen_eq t e
      have hsize : app1Size t (some e) false = 10 + stopOffset t e := by
        rw [app1Size, countIf_false, Nat.add_zero]
      have hsz : w.szApp1 = 8 + stopOffset t e := by
        rw [hp.szApp1, happ, Nat.mod_eq_of_lt hlt]
      have hres : w.isThumbSpaceReserved = false := by
        refine decide_eq_false ?_
        rw [hend, hsz, hbase, JPEG_MARKER_SIZE]
        unfold sizeSub
        cases ht : e.enableThumb
        · have hmax := hp.maxThumbSize
          rw [ht, if_neg Bool.false_ne_true] at hmax
          rw [hmax, JPEG_APP1_OEM_RESERVED]
          omega
        · have hthumb := thumbSpace_eq hp ht (by omega)
          omega
      unfold calculateAPPSize
      rw [hsz, if_pos (by omega), hextra, hres, if_neg Bool.false_ne_true, Nat.min_zero, h11', hsize,
        JPEG_MARKER_SIZE]
      omega

theorem processExif_spec (hok : (enc.processExif t m exif extra).1 = true)
    (hacc : (enc.appWriter.prepareAppWriter (enc.streamBase + JPEG_MARKER_SIZE) exif extra).2 = true)
    (hshort : ∀ e, exif = some e → 8 + stopOffset t e < 2 ^ 16)
    (hspace : enc.streamBase + 2 ^ 18 + segmentsSize (extra.getD []) ≤ 2 ^ 64)
    (h11 : enc.appWriter.szApp11 < 2 ^ 16) :
    ∃ app11, Processed t enc exif extra (enc.processExif t m exif extra).2 app11 := by
  have hprep := calculateAPPSize_prepared hacc hshort hspace h11 rfl
  have halign : (if enc.noStreambaseAlign then 1 else 16) = 1 ∨
      (if enc.noStreambaseAlign then 1 else 16) = 16 := by
    cases enc.noStreambaseAlign
    · exact .inr rfl
    · exact .inl rfl
  unfold Encoder.processExif at hok ⊢
  split at hok
  · exact absurd hok Bool.false_ne_true
  · rename_i hsizes
    rw [if_neg hsizes]
    dsimp only at hok ⊢
    generalize hw : (enc.appWriter.prepareAppWriter (enc.streamBase + JPEG_MARKER_SIZE) exif extra).1
      = w at hok hprep ⊢
    split at hok
    · exact absurd hok Bool.false_ne_true
    · rename_i hroom
      rw [if_neg hroom]
      have hmarked : (∃ app11, Marked t exif (!enc.hwfc) (reserveThumbspace enc.streamSize exif)
          (w.write t m (reserveThumbspace enc.streamSize exif) JPEG_MARKER_SIZE
            (if enc.noStreambaseAlign then 1 else 16) enc.hwfc).2
          (w.write t m (reserveThumbspace enc.streamSize exif) JPEG_MARKER_SIZE
            (if enc.noStreambaseAlign then 1 else 16) enc.hwfc).1 app11) ∧
          ThumbKnown t exif (w.write t m (reserveThumbspace enc.streamSize exif) JPEG_MARKER_SIZE
            (if enc.noStreambaseAlign then 1 else 16) enc.hwfc).2 ∧
          (w.write t m (reserveThumbspace enc.streamSize exif) JPEG_MARKER_SIZE
            (if enc.noStreambaseAlign then 1 else 16) enc.hwfc).2.appBase = enc.streamBase + 2 ∧
          (w.write t m (reserveThumbspace enc.streamSize exif) JPEG_MARKER_SIZE
            (if enc.noStreambaseAlign then 1 else 16) enc.hwfc).2.extra = extra := by
        cases exif with
        | none =>
            have hnone := prepareAppWriter_none hacc
            rw [hw] at hnone
            have hbase : w.appBase = enc.streamBase + 2 := by rw [hnone]; rfl
            have hextra : w.extra = extra := by rw [hnone]
            obtain ⟨h1, h2, h3, h4⟩ := write_marked_none (t := t) (w := w) (m := m)
              (reserveThumbspace enc.streamSize none) enc.hwfc
              (by rw [hnone]; rfl) (by rw [hnone]; rfl) (by rw [hnone]; rfl) (by rw [hnone]; rfl)
              (by omega) halign
            exact ⟨h1, h2, h3.trans hbase, h4.trans hextra⟩
        | some e =>
            have hlt := hshort e rfl
            obtain ⟨hp, hbase, hextra⟩ := prepareAppWriter_prepared hacc
            rw [hw] at hp hbase hextra
            rw [JPEG_MARKER_SIZE] at hbase
            have hreserve : reserveThumbspace enc.streamSize (some e) = true →
                e.enableThumb = true := by
              intro h
              obtain ⟨e', he', ht⟩ := reserveThumbspace_true h
              cases he'
              exact ht
            obtain ⟨h1, h2, h3, h4⟩ := write_marked (m := m) enc.hwfc hp (by omega) hlt
              hreserve halign
            exact ⟨h1, h2, h3.trans hbase, h4.trans hextra⟩
      obtain ⟨⟨app11, hm⟩, hk, hbase, hextra⟩ := hmarked
      refine ⟨app11, hm, hk, hbase, hextra, fun hres => ?_⟩
      have hmain := hm.mainBase
      have hbound := hm.bound
      have hsame : app1Size t exif (reserveThumbspace enc.streamSize exif) = app1Size t exif false := by
        rw [hres]
      rw [hbase, hextra, hsame] at hmain
      have hnec : NECESSARY_JPEG_LENGTH = 591 := rfl
      show _ ≤ _
      dsimp only
      omega

end Process

end ExynosHal.JpegAssembly
