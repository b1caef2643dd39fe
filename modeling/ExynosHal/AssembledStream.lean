/-
  ExynosHal/AssembledStream.lean
  ==============================
  **When `FinishCompression` returns the right stream.**

  The parts of `JpegAssembly` together: the result is `Assembled` exactly when APP1
  with its thumbnail is short enough for its length field, the place of the main
  stream is inside the buffer and the compressor delivers a shorter thumbnail when it
  is asked for one (`encode_assembles_iff`).
-/
import ExynosHal.JpegAssembly

namespace ExynosHal.AssembledStream

open ExynosHal.ByteMemory ExynosHal.AppMarkerWriter ExynosHal.ExifLayout ExynosHal.ExifSegment
open ExynosHal.EncoderForCamera ExynosHal.JpegAssembly
open ExynosHal.AppMarkerWriter.Writer

/-- The thumbnail that belongs into APP1. -/
def embedded (e : ExifAttribute) (thumb : List UInt8) : List UInt8 :=
  if e.enableThumb then thumb else []

/-- APP1 takes `app1` bytes at `p`: its length field says so, its directories hold the
    attributes, and the thumbnail is where the 1st directory says. -/
def App1At (t : TagCodes) (exif : Option ExifAttribute) (thumb : List UInt8) (m : Mem)
    (p app1 : Nat) : Prop :=
  match exif with
  | none => app1 = 0
  | some e => App1Body t e m p (embedded e thumb).length ∧
      ReadsBack t e m (p + 10) (embedded e thumb).length ∧
      ofBe (m.read (p + 2) 2) + 2 = app1 ∧
      10 + stopOffset t e + (embedded e thumb).length ≤ app1 ∧
      m.read (p + 10 + stopOffset t e) (embedded e thumb).length = embedded e thumb

/-- The buffer at `base` holds a stream of `size` bytes: SOI, APP1, the extra segments
    (with their data if `full`), the filler and what follows the SOI of `stream`. -/
structure Assembled (t : TagCodes) (exif : Option ExifAttribute) (extra : List AppInfo)
    (full : Bool) (stream thumb : List UInt8) (base limit : Nat) (m : Mem) (size : Nat) : Prop where
  fits : size ≤ limit
  soi : m.read base 2 = [0xFF, 0xD8]
  parts : ∃ app1 app11,
    size = 2 + app1 + segmentsSize extra + app11 + (stream.length - 2) ∧
    App1At t exif thumb m (base + 2) app1 ∧
    Tail m full (base + 2 + app1) extra app11 (stream.drop 2)

/-- The length field of APP1 has two bytes. -/
theorem Assembled.short {t : TagCodes} {exif : Option ExifAttribute} {extra : List AppInfo}
    {full : Bool} {stream thumb : List UInt8} {base limit : Nat} {m : Mem} {size : Nat}
    (h : Assembled t exif extra full stream thumb base limit m size) :
    ∀ e, exif = some e → 8 + stopOffset t e + (embedded e thumb).length < 2 ^ 16 := by
  intro e he
  obtain ⟨app1, app11, -, happ1, -⟩ := h.parts
  rw [he] at happ1
  obtain ⟨-, -, hlen, hroom, -⟩ := happ1
  have hlt := ofBe_lt (m.read (base + 2 + 2) 2)
  rw [Mem.read_length] at hlt
  omega

section Assemble

variable {t : TagCodes} {enc : Encoder} {m : Mem} {exif : Option ExifAttribute}
  {extra : Option (List AppInfo)} {w : Writer} {app11 : Nat} {delivered stream thumb : List UInt8}
  {retry : Nat → List UInt8}

/-- The thumbnail is not longer than the limit. -/
theorem thumbStream_le (hretry : ∀ n, (retry n).length ≤ n) (n : Nat) :
    (thumbStream enc w n thumb retry).length ≤ maxThumb enc w n := by
  unfold thumbStream
  split
  · exact hretry _
  · omega

/-- What the marked stream looks like when the main stream is there. -/
theorem processed_body (h : Processed t enc exif extra (m, w) app11)
    (hmain : MainStream delivered stream) {m' : Mem}
    (hm' : m' = (m.write w.mainBase delivered).write w.mainBase [0, 0]) :
    (∀ e, exif = some e → App1Body t e m' w.appBase 0 ∧
      ofBe (m'.read (w.appBase + 2) 2) + 2 =
        app1Size t exif (reserveThumbspace enc.streamSize exif)) ∧
    Tail m' (!enc.hwfc) (w.appBase + app1Size t exif (reserveThumbspace enc.streamSize exif))
      (extra.getD []) app11 (stream.drop 2) := by
  obtain ⟨htail, hbelow⟩ := h.marked.tail hmain
  rw [← hm'] at htail
  replace hbelow : ∀ x, x < w.mainBase → m' x = m x := by
    rw [hm']
    exact hbelow
  have hextra : w.extra = extra := h.extra
  rw [hextra] at htail
  refine ⟨fun e he => ?_, htail⟩
  have hmain' := h.marked.mainBase
  have hsize : app1Size t exif (reserveThumbspace enc.streamSize exif) = 10 + stopOffset t e
      + countIf (reserveThumbspace enc.streamSize exif) (65527 - stopOffset t e) := by
    rw [he]
    rfl
  have hsix : 6 ≤ app11 := by
    rcases h.marked.filler with hzero | hfill
    · exact absurd ((h.marked.none_iff.mp hzero).1.symm.trans he) (Option.some_ne_none e).symm
    · exact hfill.1
  dsimp only at hmain'
  have hbody : App1Body t e m w.appBase 0 := h.marked.body e he
  refine ⟨hbody.congr fun x _ hx _ => hbelow x (by omega), ?_⟩
  rw [Mem.read_congr fun x hx hxn => hbelow x (by omega)]
  exact h.marked.length e he

/-- The buffer has its SOI, and the rest stays. -/
theorem soi_spec (m : Mem) (base : Nat) :
    (m.write base [0xFF, 0xD8]).read base 2 = [0xFF, 0xD8] ∧
      ∀ x, base + 2 ≤ x → m.write base [0xFF, 0xD8] x = m x :=
  ⟨Mem.read_write_eq rfl, fun _ hx => Mem.write_above hx⟩

theorem tail_soi {full : Bool} {p base app11 : Nat} {extra : List AppInfo} {rest : List UInt8}
    (h : Tail m full p extra app11 rest) (hp : base + 2 ≤ p) :
    Tail (m.write base [0xFF, 0xD8]) full p extra app11 rest :=
  h.congr fun x hx _ _ => (soi_spec m base).2 x (Nat.le_trans hp hx)

/-- The parts that make up a stream, whatever the length of the buffer is. -/
theorem assembled_of {limit size app1 : Nat} {full : Bool} {segs : List AppInfo} {m : Mem}
    {base : Nat} (happ1 : App1At t exif thumb (m.write base [0xFF, 0xD8]) (base + 2) app1)
    (htail : Tail m full (base + 2 + app1) segs app11 (stream.drop 2))
    (hsize : size = 2 + app1 + segmentsSize segs + app11 + (stream.length - 2)) (hfit : size ≤ limit) :
    Assembled t exif segs full stream thumb base limit (m.write base [0xFF, 0xD8]) size :=
  ⟨hfit, (soi_spec m base).1, app1, app11, hsize, happ1, tail_soi htail (Nat.le_add_right _ _)⟩

/-- Without a thumbnail the parts are there with the SOI. -/
theorem parts_noThumb (h : Processed t enc exif extra (m, w) app11)
    (hmain : MainStream delivered stream)
    (hno : ∀ e, exif = some e → e.enableThumb = false)
    (hshort : ∀ e, exif = some e → 8 + stopOffset t e < 2 ^ 16) (thumb : List UInt8) {m' : Mem}
    (hm' : m' = (m.write w.mainBase delivered).write w.mainBase [0, 0]) :
    App1At t exif thumb (m'.write enc.streamBase [0xFF, 0xD8]) (enc.streamBase + 2)
        (app1Size t exif (reserveThumbspace enc.streamSize exif)) ∧
      Tail m' (!enc.hwfc)
        (enc.streamBase + 2 + app1Size t exif (reserveThumbspace enc.streamSize exif))
        (extra.getD []) app11 (stream.drop 2) := by
  have hbase : w.appBase = enc.streamBase + 2 := h.appBase
  obtain ⟨hbody, htail⟩ := processed_body h hmain hm'
  rw [hbase] at htail
  refine ⟨?_, htail⟩
  cases exif with
  | none => rfl
  | some e =>
      obtain ⟨hb, hl⟩ := hbody e rfl
      have hlt := hshort e rfl
      have hnil : embedded e thumb = [] := by
        rw [embedded, hno e rfl, if_neg Bool.false_ne_true]
      have hsoi := (soi_spec m' enc.streamBase).2
      rw [hbase] at hb hl
      have hb' := hb.congr fun x hx _ _ => hsoi x hx
      unfold App1At
      dsimp only
      rw [hnil]
      refine ⟨hb', directories_read hb'.directories hb'.header (by omega), ?_, ?_, rfl⟩
      · rw [Mem.read_congr fun x hx hxn => hsoi x (by omega)]
        exact hl
      · show 10 + stopOffset t e + 0 ≤ 10 + stopOffset t e + _
        omega

/-- `FinishCompression` without a thumbnail, its sizes worked out. -/
theorem finish_noThumb_eq (retry : Nat → List UInt8)
    (h : Processed t enc exif extra (m, w) app11)
    (hmain : MainStream delivered stream)
    (hno : ∀ e, exif = some e → e.enableThumb = false)
    (hshort : ∀ e, exif = some e → 8 + stopOffset t e < 2 ^ 16)
    (hspace : enc.streamBase + 2 ^ 18 + segmentsSize (extra.getD []) + delivered.length ≤ 2 ^ 64)
    (given : Option (List UInt8)) {m' : Mem}
    (hm' : m' = (m.write w.mainBase delivered).write w.mainBase [0, 0]) :
    enc.finishCompression w (m.write w.mainBase delivered) delivered.length given retry =
      some (m'.write enc.streamBase [0xFF, 0xD8], w.mainBase - enc.streamBase + stream.length) := by
  obtain ⟨hfour, hle⟩ := hmain.length
  have hextra : w.extra = extra := h.extra
  have hbase : w.appBase = enc.streamBase + 2 := h.appBase
  have hplace := h.marked.mainBase
  have h11 := h.marked.bound
  have hthumb : w.thumbBase = 0 := (h.known.noThumb hno).1
  have hcalc : w.calculateAPPSize 0 = _ :=
    calculateAPPSize_noThumb h.marked h.known hno reserveThumbspace_true hshort
      (by rw [show ((m, w).2.extra).getD [] = extra.getD [] by rw [← hextra]]; omega)
  dsimp only at hplace hcalc
  rw [hextra] at hplace hcalc
  rw [hbase] at hplace
  have happ1 := app1Size_le hshort (reserveThumbspace enc.streamSize exif)
  have hsize : (w.calculateAPPSize 0 + stream.length) % 2 ^ 64 =
      w.mainBase - enc.streamBase + stream.length := by
    rw [hcalc]
    omega
  unfold Encoder.finishCompression
  rw [removeTrailingDummies_eq hmain Mem.read_write (by omega)]
  dsimp only
  rw [if_pos hthumb, hsize, hm']

/-- Without a thumbnail the stream is complete with its SOI. -/
theorem finish_noThumb (retry : Nat → List UInt8)
    (h : Processed t enc exif extra (m, w) app11)
    (hmain : MainStream delivered stream)
    (hno : ∀ e, exif = some e → e.enableThumb = false)
    (hshort : ∀ e, exif = some e → 8 + stopOffset t e < 2 ^ 16)
    (hspace : enc.streamBase + 2 ^ 18 + segmentsSize (extra.getD []) + delivered.length ≤ 2 ^ 64)
    (given : Option (List UInt8)) (thumb : List UInt8) :
    ∃ m', enc.finishCompression w (m.write w.mainBase delivered) delivered.length given retry =
        some (m', w.mainBase - enc.streamBase + stream.length) ∧
      ∀ limit, w.mainBase - enc.streamBase + stream.length ≤ limit →
        Assembled t exif (extra.getD []) (!enc.hwfc) stream thumb enc.streamBase limit m'
          (w.mainBase - enc.streamBase + stream.length) := by
  obtain ⟨hfour, hle⟩ := hmain.length
  have hextra : w.extra = extra := h.extra
  have hbase : w.appBase = enc.streamBase + 2 := h.appBase
  have hplace := h.marked.mainBase
  dsimp only at hplace
  rw [hextra, hbase] at hplace
  obtain ⟨happ1, htail⟩ := parts_noThumb h hmain hno hshort thumb rfl
  exact ⟨_, finish_noThumb_eq retry h hmain hno hshort hspace given rfl,
    fun limit hfit => assembled_of happ1 htail (by omega) hfit⟩

/-- What a thumbnail adds to the length of the stream. -/
def thumbShift (w : Writer) (thumb : List UInt8) : Nat :=
  if w.isThumbSpaceReserved then 0 else thumb.length

/-- `FinishCompression` with a thumbnail, its sizes worked out. -/
theorem finish_thumb_eq {e : ExifAttribute} {given : List UInt8} {m' : Mem}
    (h : Processed t enc (some e) extra (m, w) app11) (hmain : MainStream delivered stream)
    (ht : e.enableThumb = true) (hretry : ∀ n, (retry n).length ≤ n)
    (hthumb : thumb = thumbStream enc w stream.length given retry)
    (hfit : 8 + stopOffset t e + thumb.length < 2 ^ 16)
    (hspace : enc.streamBase + 2 ^ 18 + segmentsSize (extra.getD []) + delivered.length ≤ 2 ^ 64)
    (hm' : m' = (m.write w.mainBase delivered).write w.mainBase [0, 0]) :
    enc.finishCompression w (m.write w.mainBase delivered) delivered.length (some given) retry =
      if maxThumb enc w stream.length < given.length ∧ thumb.length = 0 then none
      else if !w.isThumbSpaceReserved && decide (enc.streamBase + enc.streamSize <
          w.mainBase + stream.length + thumb.length - JPEG_MARKER_SIZE) then none
      else some ((embedThumb w m' stream.length thumb).write enc.streamBase [0xFF, 0xD8],
        w.mainBase - enc.streamBase + thumbShift w thumb + stream.length) := by
  obtain ⟨hfour, hle⟩ := hmain.length
  have hextra : w.extra = extra := h.extra
  have hbase : w.appBase = enc.streamBase + 2 := h.appBase
  have hplace := h.marked.mainBase
  have h11 := h.marked.bound
  obtain ⟨hthumbBase, -, -⟩ := h.known.thumb e rfl ht
  have hmax : thumb.length ≤ w.maxThumbSize := by
    have hlt : (thumbStream enc w stream.length given retry).length ≤ maxThumb enc w stream.length :=
      thumbStream_le hretry stream.length
    rw [← hthumb] at hlt
    exact Nat.le_trans hlt (Nat.min_le_left _ _)
  have hcalc : w.calculateAPPSize thumb.length = _ :=
    calculateAPPSize_thumb h.marked h.known ht (by omega) hmax
      (by rw [show ((m, w).2.extra).getD [] = extra.getD [] by rw [← hextra]]; omega)
  have hsize : app1Size t (some e) (reserveThumbspace enc.streamSize (some e)) ≤ 65537 :=
    app1Size_le (fun e' he' => by cases he'; omega) _
  dsimp only at hplace hcalc hthumbBase
  rw [hextra, hbase] at hplace
  rw [hextra] at hcalc
  have hshift : (if w.isThumbSpaceReserved then 0 else thumb.length) = thumbShift w thumb := rfl
  have hshift' : thumbShift w thumb ≤ thumb.length := by
    unfold thumbShift
    split <;> omega
  rw [hshift] at hcalc
  have hlen : (w.calculateAPPSize thumb.length + stream.length) % 2 ^ 64 =
      w.mainBase - enc.streamBase + thumbShift w thumb + stream.length := by
    rw [hcalc]
    omega
  unfold Encoder.finishCompression
  rw [removeTrailingDummies_eq hmain Mem.read_write (by omega)]
  dsimp only
  rw [if_neg (by omega), ← hthumb, hlen, ← hm']

/-- **With a thumbnail** the parts stand behind each other as well. -/
theorem parts_thumb {e : ExifAttribute} {m' : Mem}
    (h : Processed t enc (some e) extra (m, w) app11) (hmain : MainStream delivered stream)
    (ht : e.enableThumb = true) (hfit : 8 + stopOffset t e + thumb.length < 2 ^ 16)
    (hspace : enc.streamBase + 2 ^ 18 + segmentsSize (extra.getD []) + delivered.length ≤ 2 ^ 64)
    (hm' : m' = (m.write w.mainBase delivered).write w.mainBase [0, 0]) :
    App1At t (some e) thumb
        ((embedThumb w m' stream.length thumb).write enc.streamBase [0xFF, 0xD8])
        (enc.streamBase + 2)
        (app1Size t (some e) (reserveThumbspace enc.streamSize (some e)) + thumbShift w thumb) ∧
      Tail (embedThumb w m' stream.length thumb) (!enc.hwfc)
        (enc.streamBase + 2 + (app1Size t (some e) (reserveThumbspace enc.streamSize (some e))
          + thumbShift w thumb))
        (extra.getD []) app11 (stream.drop 2) := by
  obtain ⟨hfour, hle⟩ := hmain.length
  have hextra : w.extra = extra := h.extra
  have hbase : w.appBase = enc.streamBase + 2 := h.appBase
  have hplace := h.marked.mainBase
  have h11 := h.marked.bound
  have hsize : app1Size t (some e) (reserveThumbspace enc.streamSize (some e)) ≤ 65537 :=
    app1Size_le (fun e' he' => by cases he'; omega) _
  dsimp only at hplace
  rw [hextra, hbase] at hplace
  obtain ⟨hbody, htail⟩ := processed_body h hmain hm'
  obtain ⟨hb, hl⟩ := hbody e rfl
  obtain ⟨hb', hl', hroom, hread, htail'⟩ := embedThumb_spec (n := stream.length)
    h.marked h.known ht (by show w.appBase ≠ 0; omega)
    (by rw [List.length_drop]; show w.mainBase + _ < _; omega)
    (by show extra.getD [] = w.extra.getD []; rw [hextra]) hfit (by rw [List.length_drop]; omega)
    hb hl htail
  dsimp only at hb' hl' hroom hread htail'
  have hshift : (if w.isThumbSpaceReserved then 0 else thumb.length) = thumbShift w thumb := rfl
  rw [hbase, hshift] at hl' htail'
  rw [hbase] at hb' hread
  rw [hshift] at hroom
  have hemb : embedded e thumb = thumb := by rw [embedded, if_pos ht]
  have hsoi := (soi_spec (embedThumb w m' stream.length thumb) enc.streamBase).2
  refine ⟨?_, htail'⟩
  have hb'' := hb'.congr fun x hx _ _ => hsoi x hx
  unfold App1At
  dsimp only
  rw [hemb]
  refine ⟨hb'', directories_read hb''.directories hb''.header (by omega), ?_, hroom, ?_⟩
  · rw [Mem.read_congr fun x hx hxn => hsoi x (by omega)]
    exact hl'
  · exact (Mem.read_congr fun x hx hxn => hsoi x (by omega)).trans hread

theorem finish_thumb_assembled {e : ExifAttribute} {m' : Mem} {limit : Nat}
    (h : Processed t enc (some e) extra (m, w) app11) (hmain : MainStream delivered stream)
    (ht : e.enableThumb = true) (hfit : 8 + stopOffset t e + thumb.length < 2 ^ 16)
    (hspace : enc.streamBase + 2 ^ 18 + segmentsSize (extra.getD []) + delivered.length ≤ 2 ^ 64)
    (hm' : m' = (m.write w.mainBase delivered).write w.mainBase [0, 0])
    (hlimit : w.mainBase - enc.streamBase + thumbShift w thumb + stream.length ≤ limit) :
    Assembled t (some e) (extra.getD []) (!enc.hwfc) stream thumb enc.streamBase limit
      ((embedThumb w m' stream.length thumb).write enc.streamBase [0xFF, 0xD8])
      (w.mainBase - enc.streamBase + thumbShift w thumb + stream.length) := by
  obtain ⟨hfour, hle⟩ := hmain.length
  have hextra : w.extra = extra := h.extra
  have hbase : w.appBase = enc.streamBase + 2 := h.appBase
  have hplace := h.marked.mainBase
  dsimp only at hplace
  rw [hextra, hbase] at hplace
  obtain ⟨happ1, htail⟩ := parts_thumb h hmain ht hfit hspace hm'
  exact assembled_of happ1 htail (by omega) hlimit

/-- The limit for the thumbnail leaves room for the main stream. -/
theorem thumb_room {e : ExifAttribute} (h : Processed t enc (some e) extra (m, w) app11)
    (ht : e.enableThumb = true) (hshort : 8 + stopOffset t e < 2 ^ 16)
    (hspace : enc.streamBase + 2 ^ 18 + segmentsSize (extra.getD []) ≤ 2 ^ 64)
    (hsize : enc.streamSize < 2 ^ 31) (hres : w.isThumbSpaceReserved = false) {n : Nat}
    (hn : w.mainBase + n ≤ enc.streamBase + enc.streamSize) :
    w.mainBase + n + maxThumb enc w n ≤ enc.streamBase + enc.streamSize := by
  have hextra : w.extra = extra := h.extra
  have hbase : w.appBase = enc.streamBase + 2 := h.appBase
  have hplace := h.marked.mainBase
  have h11 := h.marked.bound
  have hcalc : w.calculateAPPSize 0 = _ :=
    calculateAPPSize_thumb h.marked h.known ht hshort (Nat.zero_le _)
      (by rw [show ((m, w).2.extra).getD [] = extra.getD [] by rw [← hextra]]; omega)
  dsimp only at hplace hcalc
  rw [hextra, hbase] at hplace
  rw [hextra, hres, if_neg Bool.false_ne_true] at hcalc
  have hsub : sizeSub (sizeSub enc.streamSize (w.calculateAPPSize 0)) n =
      enc.streamBase + enc.streamSize - (w.mainBase + n) := by
    rw [hcalc]
    unfold sizeSub
    omega
  have hmin : maxThumb enc w n ≤ enc.streamBase + enc.streamSize - (w.mainBase + n) := by
    unfold maxThumb
    rw [hsub]
    exact Nat.min_le_right _ _
  omega

end Assemble

/-- The limit for the main stream is what is left of the buffer. -/
theorem mainLimit_eq {enc : Encoder} {w : Writer} (hsize : enc.streamSize < 2 ^ 31)
    (hlo : enc.streamBase ≤ w.mainBase) (hhi : w.mainBase ≤ enc.streamBase + enc.streamSize)
    (hlt : w.mainBase < 2 ^ 64) :
    mainLimit enc w = enc.streamBase + enc.streamSize - w.mainBase := by
  have hsub : sizeSub w.mainBase enc.streamBase = w.mainBase - enc.streamBase := by
    unfold sizeSub
    omega
  unfold mainLimit
  rw [hsub, Int.bmod_eq_of_le (by omega) (by omega)]
  omega

theorem encode_eq {t : TagCodes} {enc : Encoder} {m : Mem} {exif : Option ExifAttribute}
    {extra : Option (List AppInfo)} (hok : (enc.processExif t m exif extra).1 = true)
    (c : Compressed) :
    enc.encode t m exif extra c = enc.finishCompression (enc.processExif t m exif extra).2.2
      ((enc.processExif t m exif extra).2.1.write (enc.processExif t m exif extra).2.2.mainBase
        c.main) c.main.length c.thumb c.retry := by
  unfold Encoder.encode
  generalize enc.processExif t m exif extra = r at hok ⊢
  obtain ⟨ok, m1, w1⟩ := r
  dsimp only at hok ⊢
  rw [if_pos hok]

/-- **When `FinishCompression` returns the right stream.**  The attributes and segments
    pass `PrepareAppWriter` and the buffer passes the test of `ProcessExif`; the
    compressors keep to their limits and leave proper streams. -/
theorem encode_assembles_iff (t : TagCodes) (enc : Encoder) (m : Mem) (exif : Option ExifAttribute)
    (extra : Option (List AppInfo)) (c : Compressed) (stream given : List UInt8)
    (hacc : (enc.appWriter.prepareAppWriter (enc.streamBase + JPEG_MARKER_SIZE) exif extra).2 = true)
    (hok : (enc.processExif t m exif extra).1 = true)
    (hsize : enc.streamSize < 2 ^ 31) (h11 : enc.appWriter.szApp11 < 2 ^ 16)
    (hspace : enc.streamBase + 2 ^ 18 + segmentsSize (extra.getD []) + c.main.length ≤ 2 ^ 64)
    (hmain : MainStream c.main stream)
    (hlimit : c.main.length ≤ mainLimit enc (enc.processExif t m exif extra).2.2)
    (hgiven : c.thumb = some given) (hretry : ∀ n, (c.retry n).length ≤ n) :
    let w := (enc.processExif t m exif extra).2.2
    let thumb := thumbStream enc w stream.length given c.retry
    (∃ m' size, enc.encode t m exif extra c = some (m', size) ∧
      Assembled t exif (extra.getD []) (!enc.hwfc) stream thumb enc.streamBase enc.streamSize m'
        size) ↔
      (∀ e, exif = some e → 8 + stopOffset t e + (embedded e thumb).length < 2 ^ 16) ∧
        w.mainBase ≤ enc.streamBase + enc.streamSize ∧
        (w.thumbBase ≠ 0 → maxThumb enc w stream.length < given.length → thumb ≠ []) := by
  intro w thumb
  have hencode := encode_eq hok c
  rw [hgiven] at hencode
  rw [hencode]
  have hprocess := fun hshort => processExif_spec hok hacc hshort (by omega) h11
  revert hlimit hprocess w thumb
  generalize (enc.processExif t m exif extra).2 = r
  obtain ⟨m1, w⟩ := r
  intro hlimit w' thumb hprocess
  obtain ⟨hfour, hle⟩ := hmain.length
  -- in both directions APP1 is short
  suffices hcore : (∀ e, exif = some e → 8 + stopOffset t e + (embedded e thumb).length < 2 ^ 16) →
      ((∃ m' size, enc.finishCompression w (m1.write w.mainBase c.main) c.main.length (some given)
          c.retry = some (m', size) ∧
        Assembled t exif (extra.getD []) (!enc.hwfc) stream thumb enc.streamBase enc.streamSize m'
          size) ↔
        w.mainBase ≤ enc.streamBase + enc.streamSize ∧
          (w.thumbBase ≠ 0 → maxThumb enc w stream.length < given.length → thumb ≠ [])) by
    constructor
    · rintro ⟨m', size, hfinish, hassembled⟩
      exact ⟨hassembled.short, (hcore hassembled.short).mp ⟨m', size, hfinish, hassembled⟩⟩
    · rintro ⟨hfits, hrest⟩
      exact (hcore hfits).mpr hrest
  intro hfits
  have hshort : ∀ e, exif = some e → 8 + stopOffset t e < 2 ^ 16 := by
    intro e he
    have hlt := hfits e he
    omega
  obtain ⟨app11, h⟩ := hprocess hshort
  have hbase : w.appBase = enc.streamBase + 2 := h.appBase
  have hplace : w.mainBase + 2 = w.appBase + _ + _ + app11 := h.marked.mainBase
  have hextra : w.extra = extra := h.extra
  have h11' := h.marked.bound
  have happ1 := app1Size_le hshort (reserveThumbspace enc.streamSize exif)
  rw [hextra] at hplace
  have hlo : enc.streamBase ≤ w.mainBase := by omega
  have hinside : w.mainBase ≤ enc.streamBase + enc.streamSize →
      w.mainBase + stream.length ≤ enc.streamBase + enc.streamSize := by
    intro hhi
    have hlim : c.main.length ≤ enc.streamBase + enc.streamSize - w.mainBase := by
      rw [← mainLimit_eq hsize hlo hhi (by omega)]
      exact hlimit
    omega
  by_cases hthumb : ∃ e, exif = some e ∧ e.enableThumb = true
  · obtain ⟨e, he, ht⟩ := hthumb
    subst he
    have hemb : embedded e thumb = thumb := by rw [embedded, if_pos ht]
    have hfit := hfits e rfl
    rw [hemb] at hfit
    obtain ⟨hthumbBase, -, -⟩ := h.known.thumb e rfl ht
    have hne : w.thumbBase ≠ 0 := by
      show (m1, w).2.thumbBase ≠ 0
      omega
    rw [finish_thumb_eq h hmain ht hretry rfl hfit hspace rfl]
    constructor
    · rintro ⟨m', size, hfinish, hassembled⟩
      split at hfinish
      · exact nomatch hfinish
      · rename_i hretry'
        split at hfinish
        · exact nomatch hfinish
        · cases hfinish
          have hfit' := hassembled.fits
          refine ⟨by omega, fun _ hlong hnil => hretry' ⟨hlong, ?_⟩⟩
          exact congrArg List.length hnil
    · rintro ⟨hhi, hretry'⟩
      have hroom := hinside hhi
      have hle' : thumb.length ≤ maxThumb enc w stream.length := thumbStream_le hretry stream.length
      have hsmall : thumbShift w thumb = 0 ∧ w.isThumbSpaceReserved = true ∨
          thumbShift w thumb = thumb.length ∧ w.isThumbSpaceReserved = false := by
        unfold thumbShift
        cases w.isThumbSpaceReserved
        · exact .inr ⟨rfl, rfl⟩
        · exact .inl ⟨rfl, rfl⟩
      have hsize' : w.mainBase - enc.streamBase + thumbShift w thumb + stream.length ≤
          enc.streamSize ∧ (w.isThumbSpaceReserved = false →
          w.mainBase + stream.length + thumb.length ≤ enc.streamBase + enc.streamSize) := by
        rcases hsmall with ⟨hshift, hres⟩ | ⟨hshift, hres⟩
        · exact ⟨by omega, fun hno => absurd (hres.symm.trans hno) (Bool.false_ne_true ∘ Eq.symm)⟩
        · have hmax := thumb_room h ht (by omega) (by omega) hsize hres hroom
          exact ⟨by omega, fun _ => by omega⟩
      refine ⟨_, _, ?_, finish_thumb_assembled h hmain ht hfit hspace rfl hsize'.1⟩
      rw [if_neg fun hcond => hretry' hne hcond.1 (List.length_eq_zero_iff.mp hcond.2)]
      refine if_neg fun hcond => ?_
      rw [Bool.and_eq_true, Bool.not_eq_true', decide_eq_true_eq] at hcond
      have hroom' := hsize'.2 hcond.1
      have hlong := hcond.2
      unfold JPEG_MARKER_SIZE at hlong
      change _ < w.mainBase + stream.length + thumb.length - 2 at hlong
      omega
  · have hno : ∀ e, exif = some e → e.enableThumb = false := by
      intro e he
      rw [← Bool.not_eq_true]
      exact fun ht => hthumb ⟨e, he, ht⟩
    have hzero : w.thumbBase = 0 := (h.known.noThumb hno).1
    obtain ⟨m', hfinish, hassembled⟩ := finish_noThumb c.retry h hmain hno hshort hspace
      (some given) thumb
    rw [hfinish]
    constructor
    · rintro ⟨m'', size, hsame, h'⟩
      cases hsame
      have hfit' := h'.fits
      exact ⟨by omega, fun hne => absurd hzero hne⟩
    · rintro ⟨hhi, -⟩
      have hroom := hinside hhi
      exact ⟨m', _, rfl, hassembled _ (by omega)⟩

/-! ### Streams of four bytes -/

def shortStream : List UInt8 := [0xFF, 0xD8, 0xFF, 0xD9]

theorem shortStream_main : MainStream shortStream shortStream := by
  refine ⟨⟨[], rfl⟩, rfl, ⟨[0xFF, 0xD8], rfl, Nat.le_refl 2⟩, ?_⟩
  rintro i hi ⟨-, heoi⟩
  have hlen : shortStream.length ≤ i + 1 := by
    change 4 - 1 ≤ i at hi
    change 4 ≤ i + 1
    omega
  rw [List.getElem?_eq_none hlen] at heoi
  exact nomatch heoi

/-- Both compressors deliver the shortest stream. -/
def shortStreams : Compressed := ⟨shortStream, some shortStream, fun n => shortStream.take n⟩

/-- A buffer of `size` bytes for images of 4000x3000 and 320x240. -/
def encoder (size : Nat) : Encoder := ⟨4096, size, 4000, 3000, 320, 240, false, false, freshWriter⟩

theorem calculateAPPSize_le (w : Writer) (n : Nat) :
    w.calculateAPPSize n ≤ w.szApp1 + 2 + segmentsSize (w.extra.getD [])
      + (w.maxThumbSize + JPEG_APP1_OEM_RESERVED) + w.szApp11 := by
  unfold calculateAPPSize
  refine Nat.le_trans (Nat.mod_le _ _) ?_
  have hthumb := Nat.min_le_left w.maxThumbSize n
  rw [JPEG_MARKER_SIZE]
  split <;> split <;> omega

theorem noThumbExif_applen : noThumbExif.applen < 2000 := by decide +kernel

/-- `ProcessExif` when the sizes match and the buffer is long enough. -/
theorem processExif_eq {t : TagCodes} (enc : Encoder) {m : Mem} {exif : Option ExifAttribute}
    {extra : Option (List AppInfo)} {w : Writer}
    (hsizes : (exif.any fun e => !enc.sizesMatch e) = false)
    (hw : (enc.appWriter.prepareAppWriter (enc.streamBase + JPEG_MARKER_SIZE) exif extra).1 = w)
    (hroom : w.calculateAPPSize 0 + NECESSARY_JPEG_LENGTH < enc.streamSize) :
    enc.processExif t m exif extra = (true, w.write t m (reserveThumbspace enc.streamSize exif)
      JPEG_MARKER_SIZE (if enc.noStreambaseAlign then 1 else 16) enc.hwfc) := by
  unfold Encoder.processExif
  rw [hsizes, if_neg Bool.false_ne_true, hw]
  dsimp only
  rw [if_neg (Nat.not_le.mpr hroom)]

/-- A maker note of 66000 bytes passes all checks, and the stream is not the right one. -/
theorem longNote_not_assembled :
    ((encoder 100000).appWriter.prepareAppWriter ((encoder 100000).streamBase + JPEG_MARKER_SIZE)
        (some (noteExif longNote)) none).2 = true ∧
      ((encoder 100000).processExif exifTags zeroMem (some (noteExif longNote)) none).1 = true ∧
      MainStream shortStreams.main shortStream ∧
      shortStreams.main.length ≤ mainLimit (encoder 100000)
        ((encoder 100000).processExif exifTags zeroMem (some (noteExif longNote)) none).2.2 ∧
      ¬ ∃ thumb m' size, (encoder 100000).encode exifTags zeroMem (some (noteExif longNote)) none
          shortStreams = some (m', size) ∧
        Assembled exifTags (some (noteExif longNote)) [] true shortStream thumb
          (encoder 100000).streamBase (encoder 100000).streamSize m' size := by
  have hprepared : ((encoder 100000).appWriter.prepareAppWriter
      ((encoder 100000).streamBase + JPEG_MARKER_SIZE) (some (noteExif longNote)) none).2 = true :=
    rfl
  have happ := applen_eq exifTags (noteExif longNote)
  have hnote := noteExif_applen longNote
  have hsize : ExifAttribute.bufferSize longNote = 66012 := by
    rw [bufferSize_eq, show longNote.size = 66000 from List.length_replicate]
    rfl
  have hplain := noThumbExif_applen
  obtain ⟨hp, hbase, hextra⟩ := prepareAppWriter_prepared hprepared
  have hstale : _ = 0 := (prepareAppWriter_stale (encoder 100000).appWriter
    ((encoder 100000).streamBase + JPEG_MARKER_SIZE) (some (noteExif longNote)) none).2
  generalize hw : ((encoder 100000).appWriter.prepareAppWriter
    ((encoder 100000).streamBase + JPEG_MARKER_SIZE) (some (noteExif longNote)) none).1 = w
    at hp hbase hextra hstale
  have hmax : w.maxThumbSize = 0 := hp.maxThumbSize
  have hroom : w.calculateAPPSize 0 + NECESSARY_JPEG_LENGTH < (encoder 100000).streamSize := by
    have hle := calculateAPPSize_le w 0
    have hsz := hp.szApp1
    have hnone : segmentsSize ((none : Option (List AppInfo)).getD []) = 0 := rfl
    have hbuffer : (encoder 100000).streamSize = 100000 := rfl
    rw [hextra, hmax, hstale, hsz, hnone, JPEG_APP1_OEM_RESERVED] at hle
    rw [hbuffer, NECESSARY_JPEG_LENGTH, JPEG_MARKER_SIZE]
    omega
  have hprocess := processExif_eq (t := exifTags) (m := zeroMem) (encoder 100000) rfl hw hroom
  have hreserve : reserveThumbspace (encoder 100000).streamSize (some (noteExif longNote)) = false :=
    Bool.false_and (!decide ((encoder 100000).streamSize < JPEG_MAX_SEGMENT_SIZE * 10))
  rw [hreserve] at hprocess
  obtain ⟨stop, app11, hrest⟩ := write_rest (t := exifTags) w zeroMem false (encoder 100000).hwfc
    (.inr rfl : (16 = 1 ∨ 16 = 16)) rfl
  have hwritten := writeAPP1_spec hp (t := exifTags) zeroMem false
  have hno : (noteExif longNote).enableThumb = false := rfl
  have hseg : segmentsSize ((w.writeAPP1 exifTags zeroMem w.appBase false).2.1.extra.getD []) = 0 := by
    rw [hwritten.writer]
    exact congrArg (fun extra : Option (List AppInfo) => segmentsSize (extra.getD [])) hextra
  have hend := hwritten.stop
  rw [app1Stop, hno, if_neg Bool.false_ne_true] at hend
  have hstop := hrest.stop
  rw [hseg, hend, hbase] at hstop
  have hbound := hrest.bound
  have hmain : (w.write exifTags zeroMem false JPEG_MARKER_SIZE 16 (encoder 100000).hwfc).2.mainBase =
      stop - 2 := congrArg Writer.mainBase hrest.writer
  have hbuffer : (encoder 100000).streamBase = 4096 ∧ (encoder 100000).streamSize = 100000 :=
    ⟨rfl, rfl⟩
  have hstream : shortStreams.main.length = 4 := rfl
  rw [hbuffer.1, JPEG_MARKER_SIZE] at hstop
  dsimp only at hstop
  refine ⟨hprepared, congrArg Prod.fst hprocess, shortStream_main, ?_, ?_⟩
  · have hw' := congrArg (fun r => r.2.2) hprocess
    dsimp only at hw'
    rw [hw']
    have halign : (if (encoder 100000).noStreambaseAlign = true then 1 else 16) = 16 := rfl
    rw [halign, mainLimit_eq (by omega) (by omega) (by omega) (by omega)]
    omega
  · rintro ⟨thumb, m', size, -, h⟩
    have hshort := h.short _ rfl
    omega

/-- The thumbnail of four bytes in a buffer without reserved space. -/
theorem plainExif_assembled :
    ∃ m' size, (encoder 20000).encode exifTags zeroMem (some plainExif) none shortStreams =
        some (m', size) ∧
      Assembled exifTags (some plainExif) [] true shortStream
        (thumbStream (encoder 20000)
          ((encoder 20000).processExif exifTags zeroMem (some plainExif) none).2.2 4 shortStream
          fun n => shortStream.take n)
        (encoder 20000).streamBase (encoder 20000).streamSize m' size := by
  have hmain : 4 ≤ mainLimit (encoder 20000)
      ((encoder 20000).processExif exifTags zeroMem (some plainExif) none).2.2 := by
    decide +kernel
  refine (encode_assembles_iff exifTags (encoder 20000) zeroMem (some plainExif) none shortStreams
    shortStream shortStream rfl (by decide +kernel) (by decide) (by decide) (by decide)
    shortStream_main hmain rfl (fun n => List.length_take_le n _)).mpr ⟨?_, by decide +kernel, by decide +kernel⟩
  intro e he
  cases he
  decide +kernel

end ExynosHal.AssembledStream
