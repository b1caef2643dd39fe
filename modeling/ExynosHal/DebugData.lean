/-
  ExynosHal/DebugData.lean
  ========================
  **The data of the reserved segments, stored later.**

  With hardware flow control the extra segments get their markers and lengths only,
  and `UpdateDebugData` finds them again in the finished stream to store their data.
  The two ways of writing are two runs of the encoder; they differ in the data areas
  (`InData`) and nowhere else, and `UpdateDebugData` fills just these.
-/
import ExynosHal.AssembledStream

namespace ExynosHal.DebugData

open ExynosHal.ByteMemory ExynosHal.TiffDirectory ExynosHal.AppMarkerWriter ExynosHal.ExifLayout
open ExynosHal.ExifSegment ExynosHal.EncoderForCamera ExynosHal.JpegAssembly
open ExynosHal.AssembledStream ExynosHal.AppMarkerWriter.Writer

/-! ### The data areas -/

/-- `x` lies in the data of one of the segments from `p` on. -/
def InData : Nat → List AppInfo → Nat → Prop
  | _, [], _ => False
  | p, a :: as, x => (p + 4 ≤ x ∧ x < p + 4 + a.dataSize) ∨ InData (p + 4 + a.dataSize) as x

section Areas

variable {m m' : Mem} {a : AppInfo} {as : List AppInfo} {p x d : Nat}

theorem InData.bounds (h : InData p as x) : p + 4 ≤ x ∧ x < p + segmentsSize as := by
  induction as generalizing p with
  | nil => exact h.elim
  | cons a as ih =>
      rw [segmentsSize_cons]
      rcases h with ⟨hlo, hhi⟩ | hrest
      · exact ⟨hlo, by omega⟩
      · have hb := ih hrest
        exact ⟨by omega, by omega⟩

theorem InData.shift (h : InData p as x) : InData (p + d) as (x + d) := by
  induction as generalizing p with
  | nil => exact h.elim
  | cons a as ih =>
      rcases h with ⟨hlo, hhi⟩ | hrest
      · exact .inl ⟨by omega, by omega⟩
      · refine .inr ?_
        rw [show p + d + 4 + a.dataSize = p + 4 + a.dataSize + d by omega]
        exact ih hrest

/-- Full segments at one place have the same data. -/
theorem InData.same (hx : InData p as x) (h : SegmentsAt m true p as)
    (h' : SegmentsAt m' true p as) : m' x = m x := by
  induction as generalizing p with
  | nil => exact hx.elim
  | cons a as ih =>
      obtain ⟨-, hdata, hrest⟩ := h
      obtain ⟨-, hdata', hrest'⟩ := h'
      rcases hx with ⟨hlo, hhi⟩ | hx
      · obtain ⟨i, rfl⟩ := Nat.exists_eq_add_of_le hlo
        have hi : i < a.dataSize := by omega
        have hread := (hdata' rfl).trans (hdata rfl).symm
        have hat := congrArg (fun l => l[i]?) hread
        rw [Mem.read_getElem hi, Mem.read_getElem hi] at hat
        exact Option.some.inj hat
      · exact ih hx hrest hrest'

/-- **Memories with the same full segments and nothing else to tell them apart.** -/
theorem eq_of_full (hk : Mem.Keeps m m' (InData p as)) (h : SegmentsAt m true p as)
    (h' : SegmentsAt m' true p as) : m' = m := by
  funext x
  by_cases hx : InData p as x
  · exact hx.same h h'
  · exact hk x hx

end Areas

/-! ### The two runs of the encoder -/

section Twin

variable {t : TagCodes} {w : Writer} {m m' : Mem} {as : List AppInfo} {p : Nat}
  {T : Nat → Prop}

/-- `WriteAPPX` with and without data. -/
theorem writeAPPX_twin (as : List AppInfo) (h : Mem.Keeps m m' T) (p : Nat) :
    Mem.Keeps (as.foldl (writeAppX true) (m, p)).1 (as.foldl (writeAppX false) (m', p)).1
      fun x => T x ∨ InData p as x := by
  induction as generalizing m m' p T with
  | nil => exact h.mono fun x hx => .inl hx
  | cons a as ih =>
      have hlen := appXHeader_length a
      have hone : Mem.Keeps (writeAppX true (m, p) a).1 (writeAppX false (m', p) a).1
          fun x => T x ∨ p + 4 ≤ x ∧ x < p + 4 + a.dataSize := by
        have hhead : Mem.Keeps (m.write p (appXHeader a)) (m'.write p (appXHeader a)) T :=
          h.write fun x hx => .inl hx
        exact (hhead.mono fun x hx => .inl hx).trans
          (Mem.keeps_write fun x hx hxn => .inr ⟨hx, hxn⟩)
      have hrest := ih hone (p + 4 + a.dataSize)
      refine hrest.mono fun x hx => ?_
      rcases hx with (ht | hx) | hx
      · exact .inl ht
      · exact .inr (.inl hx)
      · exact .inr (.inr hx)

/-- `Write` with and without data. -/
theorem write_twin (w : Writer) (m : Mem) (reserve : Bool) (dummy align : Nat) :
    (w.write t m reserve dummy align true).2 = (w.write t m reserve dummy align false).2 ∧
      Mem.Keeps (w.write t m reserve dummy align true).1 (w.write t m reserve dummy align false).1
        (InData (w.write t m reserve dummy align true).2.app1End
          ((w.writeAPP1 t m w.appBase reserve).2.1.extra.getD [])) := by
  unfold write
  generalize w.writeAPP1 t m w.appBase reserve = r
  obtain ⟨m1, w1, stop⟩ := r
  dsimp only
  obtain ⟨hstop, -⟩ := writeAPPX_spec true (w1.extra.getD []) m1 stop
  obtain ⟨hstop', -⟩ := writeAPPX_spec false (w1.extra.getD []) m1 stop
  have hend : (w1.writeAPPX m1 stop true).2 = (w1.writeAPPX m1 stop false).2 :=
    hstop.trans hstop'.symm
  have hdata : Mem.Keeps (w1.writeAPPX m1 stop true).1 (w1.writeAPPX m1 stop false).1
      (InData stop (w1.extra.getD [])) :=
    (writeAPPX_twin (w1.extra.getD []) (Mem.Keeps.refl (T := fun _ => False)) stop).mono
      fun x hx => hx.resolve_left id
  generalize w1.writeAPPX m1 stop true = rt at hend hdata
  generalize w1.writeAPPX m1 stop false = rf at hend hdata
  obtain ⟨mt, p⟩ := rt
  obtain ⟨mf, p'⟩ := rf
  obtain rfl : p = p' := hend
  unfold writeAPP11
  dsimp only at hdata ⊢
  split
  · exact ⟨rfl, hdata⟩
  · split
    · exact ⟨rfl, hdata⟩
    · exact ⟨rfl, hdata.write fun x hx => .inl hx⟩

end Twin

/-! ### The loop of `UpdateDebugData` -/

section Loop

variable {m : Mem} {a : AppInfo} {as : List AppInfo} {p len : Nat}

theorem isValid_iff : a.isValid = true ↔
    2 ≤ a.appid ∧ a.appid < 10 ∧ 0 < a.dataSize ∧ a.dataSize + 2 < 2 ^ 16 := by
  simp only [AppInfo.isValid, Bool.and_eq_true, Bool.not_eq_true', Bool.or_eq_false_iff,
    decide_eq_false_iff_not]
  unfold EXTRA_APPMARKER_MIN EXTRA_APPMARKER_LIMIT JPEG_MAX_SEGMENT_SIZE JPEG_SEGMENT_LENFIELD_SIZE
  omega

/-- The marker of a segment says its id. -/
theorem marker_spec : ∀ k : Fin 16,
    0xE0 + UInt8.ofNat k.val ≠ 0xDA ∧ 0xE0 + UInt8.ofNat k.val ≠ 0xD9 ∧
      (0xE0 + UInt8.ofNat k.val) &&& 0xF0 = 0xE0 ∧
      ((0xE0 + UInt8.ofNat k.val) &&& 0xF).toNat = k.val := by
  decide

/-- What the loop reads at the start of a segment. -/
theorem appXHeader_read (h : m.read p 4 = appXHeader a) (hv : a.isValid = true) :
    m p = 0xFF ∧ m (p + 1) = 0xE0 + UInt8.ofNat a.appid.toNat ∧
      getSegLen m (p + 2) = a.dataSize + 2 := by
  obtain ⟨hlo, hhi, hpos, hlen⟩ := isValid_iff.mp hv
  have hid : a.appid % 16 = a.appid := by omega
  rw [Mem.read_add (n := 2) (k := 2)] at h
  unfold appXHeader at h
  rw [hid] at h
  obtain ⟨hmark, hlength⟩ := List.append_inj h rfl
  have h0 := Mem.read_getElem (m := m) (a := p) (n := 2) (i := 0) (by decide)
  have h1 := Mem.read_getElem (m := m) (a := p) (n := 2) (i := 1) (by decide)
  rw [hmark] at h0 h1
  refine ⟨(Option.some.inj h0).symm, (Option.some.inj h1).symm, ?_⟩
  unfold getSegLen JPEG_SEGMENT_LENFIELD_SIZE at *
  rw [hlength, ofBe_be]
  omega

/-- One round at a segment that was reserved. -/
theorem updateLoop_step (h : m.read p 4 = appXHeader a) (hv : a.isValid = true)
    (hlen : a.dataSize + 4 + segmentsSize as < len) (hlt : len < 2 ^ 64) :
    updateLoop m p len (segmentsSize (a :: as)) (a :: as) =
      updateLoop (m.write (p + 4) a.appData) (p + 4 + a.dataSize) (len - 4 - a.dataSize)
        (segmentsSize as) as := by
  obtain ⟨hff, hmark, hseg⟩ := appXHeader_read h hv
  obtain ⟨hlo, hhi, hpos, hshort⟩ := isValid_iff.mp hv
  obtain ⟨hsos, heoi, happ, hid⟩ := marker_spec ⟨a.appid.toNat, by omega⟩
  rw [segmentsSize_cons]
  conv => lhs; unfold updateLoop
  have hgo : ¬ (m p ≠ 0xFF ∨ a.dataSize + 2 + 2 + segmentsSize as = 0 ∨
      len ≤ a.dataSize + 2 + 2 + segmentsSize as) := by
    rintro (hne | hzero | hle)
    · exact hne hff
    · omega
    · omega
  rw [if_neg hgo, hmark]
  dsimp only at hsos heoi happ hid ⊢
  rw [if_neg (not_or.mpr ⟨hsos, heoi⟩), hid, hseg]
  have happid : ((a.appid.toNat : Nat) : Int) = a.appid := by omega
  rw [happid, if_pos ⟨happ, hlo, Int.le_of_lt hhi⟩, if_neg (not_not_intro rfl),
    JPEG_SEGMENT_LENFIELD_SIZE,
    if_neg (Nat.lt_irrefl (a.dataSize + 2))]
  have hrest : sizeSub (len - 2) (a.dataSize + 2) = len - 4 - a.dataSize := by
    unfold sizeSub
    omega
  have hvalid : sizeSub (a.dataSize + 2 + 2 + segmentsSize as)
      (a.dataSize + JPEG_MARKER_SIZE + 2) = segmentsSize as := by
    unfold sizeSub JPEG_MARKER_SIZE
    omega
  rw [hrest, hvalid, show p + 2 + (a.dataSize + 2) = p + 4 + a.dataSize by omega]

/-- **The loop stores the data of the segments that were reserved, and nothing else.** -/
theorem updateLoop_segments (h : SegmentsAt m false p as) (hv : ∀ a ∈ as, a.isValid = true)
    (hlen : segmentsSize as < len) (hlt : len < 2 ^ 64) :
    ∃ m', updateLoop m p len (segmentsSize as) as = (true, m') ∧ Mem.Keeps m m' (InData p as) ∧
      SegmentsAt m' true p as := by
  induction as generalizing m p len with
  | nil =>
      refine ⟨m, ?_, .refl, trivial⟩
      unfold updateLoop
      exact if_pos (.inr (.inl rfl))
  | cons a as ih =>
      obtain ⟨hhead, -, hrest⟩ := h
      have hva := hv a List.mem_cons_self
      rw [segmentsSize_cons] at hlen
      have hone : Mem.Keeps m (m.write (p + 4) a.appData)
          fun x => p + 4 ≤ x ∧ x < p + 4 + a.dataSize :=
        Mem.keeps_write fun x hx hxn => ⟨hx, hxn⟩
      have hrest' : SegmentsAt (m.write (p + 4) a.appData) false (p + 4 + a.dataSize) as :=
        hrest.congr fun x hx _ => hone x fun hin => by omega
      obtain ⟨m', hloop, hkeeps, hfull⟩ := ih hrest'
        (fun b hb => hv b (List.mem_cons_of_mem a hb))
        (show segmentsSize as < len - 4 - a.dataSize by omega) (by omega)
      have hbelow : ∀ x, x < p + 4 + a.dataSize → m' x = m.write (p + 4) a.appData x :=
        fun x hx => hkeeps x fun hin => by
          have hb := hin.bounds
          omega
      refine ⟨m', ?_, ?_, ?_, fun _ => ?_, hfull⟩
      · rw [updateLoop_step hhead hva (by omega) hlt]
        exact hloop
      · exact (hone.mono fun x hx => .inl hx).trans (hkeeps.mono fun x hx => .inr hx)
      · rw [Mem.read_congr fun x _ hxn => hbelow x (by omega),
          Mem.read_write_of_disjoint (.inl (Nat.le_refl _))]
        exact hhead
      · rw [Mem.read_congr fun x _ hxn => hbelow x (by omega)]
        exact Mem.read_write

end Loop

/-! ### `UpdateDebugData` on a finished stream -/

section Update

variable {t : TagCodes} {exif : Option ExifAttribute} {thumb : List UInt8} {m : Mem}
  {extra : List AppInfo} {p base app1 size : Nat}

/-- APP1 is skipped by its length field. -/
theorem updateLoop_skip {len valid seglen : Nat} (hmark : m.read p 2 = [0xFF, 0xE1])
    (hseg : ofBe (m.read (p + 2) 2) = seglen) (hpos : 0 < seglen) (hvalid : 0 < valid)
    (hlen : seglen + 2 + valid < len) :
    updateLoop m p len valid extra = updateLoop m (p + 2 + seglen) (len - 2 - seglen) valid extra := by
  have h0 := Mem.read_getElem (m := m) (a := p) (n := 2) (i := 0) (by decide)
  have h1 := Mem.read_getElem (m := m) (a := p) (n := 2) (i := 1) (by decide)
  rw [hmark] at h0 h1
  have hff : m p = 0xFF := (Option.some.inj h0).symm
  have he1 : m (p + 1) = 0xE1 := (Option.some.inj h1).symm
  have hgo : ¬ (m p ≠ 0xFF ∨ valid = 0 ∨ len ≤ valid) := by
    rintro (hne | hzero | hle)
    · exact hne hff
    · omega
    · omega
  have hget : getSegLen m (p + 2) = seglen := hseg
  conv => lhs; unfold updateLoop
  rw [if_neg hgo, he1, hget]
  have hmin : min seglen (len - 2) = seglen := Nat.min_eq_left (by omega)
  rw [if_neg (by decide)]
  dsimp only
  rw [if_neg (by decide), if_neg (by omega), hmin]

/-- **`UpdateDebugData` finds the reserved segments** behind an APP1 whose length field
    is right. -/
theorem updateDebugData_fills (hv : ∀ a ∈ extra, a.isValid = true)
    (hsoi : m.read base 2 = [0xFF, 0xD8]) (happ1 : App1At t exif thumb m (base + 2) app1)
    (h : SegmentsAt m false (base + 2 + app1) extra)
    (hlen : 2 + app1 + segmentsSize extra < size) (hlt : size < 2 ^ 64) :
    ∃ m', updateDebugData m base size (some extra) = (true, m') ∧
      Mem.Keeps m m' (InData (base + 2 + app1) extra) ∧
      SegmentsAt m' true (base + 2 + app1) extra := by
  have hvalid : getExtraAPPSize extra = segmentsSize extra := if_pos (List.all_eq_true.mpr hv)
  have h0 := Mem.read_getElem (m := m) (a := base) (n := 2) (i := 0) (by decide)
  have h1 := Mem.read_getElem (m := m) (a := base) (n := 2) (i := 1) (by decide)
  rw [hsoi] at h0 h1
  have hff : m base = 0xFF := (Option.some.inj h0).symm
  have hd8 : m (base + 1) = 0xD8 := (Option.some.inj h1).symm
  have hstart : updateDebugData m base size (some extra) =
      updateLoop m (base + 2) (size - 2) (segmentsSize extra) extra := by
    unfold updateDebugData
    dsimp only
    rw [hvalid, if_neg (by rw [JPEG_MARKER_SIZE]; omega),
      if_neg (not_or.mpr ⟨not_not_intro hff, not_not_intro hd8⟩)]
  rw [hstart]
  cases extra with
  | nil =>
      refine ⟨m, ?_, .refl, trivial⟩
      unfold updateLoop
      exact if_pos (.inr (.inl rfl))
  | cons a as =>
      have hskip : updateLoop m (base + 2) (size - 2) (segmentsSize (a :: as)) (a :: as) =
          updateLoop m (base + 2 + app1) (size - 2 - app1) (segmentsSize (a :: as)) (a :: as) := by
        cases exif with
        | none =>
            obtain rfl : app1 = 0 := happ1
            rfl
        | some e =>
            obtain ⟨hbody, -, hseg, hroom, -⟩ := happ1
            have hpos : 0 < segmentsSize (a :: as) := segmentsSize_pos
            rw [updateLoop_skip hbody.marker rfl (by omega) hpos (by omega),
              show base + 2 + 2 + ofBe (m.read (base + 2 + 2) 2) = base + 2 + app1 by omega,
              show size - 2 - 2 - ofBe (m.read (base + 2 + 2) 2) = size - 2 - app1 by omega]
      rw [hskip]
      exact updateLoop_segments h hv (by omega) (by omega)

end Update

/-! ### The encoder with and without flow control -/

section Encoder

variable {t : TagCodes} {enc : Encoder} {m m' : Mem} {exif : Option ExifAttribute}
  {extra : Option (List AppInfo)} {w : Writer} {as : List AppInfo} {n : Nat} {thumb : List UInt8}

theorem writeAPP1_extra (w : Writer) (m : Mem) (current : Nat) (reserve : Bool) :
    (w.writeAPP1 t m current reserve).2.1.extra = w.extra := by
  unfold writeAPP1
  cases w.exif with
  | none => rfl
  | some e =>
      dsimp only
      split <;> rfl

theorem prepareAppWriter_extra {w : Writer} {base : Nat}
    (hacc : (w.prepareAppWriter base exif extra).2 = true) :
    (w.prepareAppWriter base exif extra).1.extra = extra ∧
      ∀ a ∈ extra.getD [], a.isValid = true := by
  have hrest : ∀ r : Writer × Bool, (if r.2 = false then r
      else if (extra.getD []).all AppInfo.isValid then ({ r.1 with extra := extra }, true)
      else (r.1, false)).2 = true →
      (if r.2 = false then r
      else if (extra.getD []).all AppInfo.isValid then ({ r.1 with extra := extra }, true)
      else (r.1, false)).1.extra = extra ∧ ∀ a ∈ extra.getD [], a.isValid = true := by
    rintro ⟨w', ok⟩ h
    cases ok
    · exact absurd h Bool.false_ne_true
    · rw [if_neg (fun h => Bool.false_ne_true h.symm)] at h ⊢
      by_cases hall : (extra.getD []).all AppInfo.isValid = true
      · rw [if_pos hall]
        exact ⟨rfl, List.all_eq_true.mp hall⟩
      · rw [if_neg hall] at h
        exact absurd h Bool.false_ne_true
  cases exif with
  | none => exact hrest _ hacc
  | some e => exact hrest _ hacc

/-- **`ProcessExif` with and without flow control.** -/
theorem processExif_twin (enc : Encoder) (m : Mem)
    (hacc : (enc.appWriter.prepareAppWriter (enc.streamBase + JPEG_MARKER_SIZE) exif extra).2 = true) :
    let r := { enc with hwfc := true }.processExif t m exif extra
    let d := { enc with hwfc := false }.processExif t m exif extra
    r.1 = d.1 ∧ (d.1 = true → r.2.2 = d.2.2 ∧
      Mem.Keeps r.2.1 d.2.1 (InData d.2.2.app1End (extra.getD []))) := by
  obtain ⟨hextra, -⟩ := prepareAppWriter_extra hacc
  unfold Encoder.processExif
  have hsizes : ∀ b e, { enc with hwfc := b }.sizesMatch e = enc.sizesMatch e := fun _ _ => rfl
  simp only [hsizes]
  split
  · exact ⟨rfl, fun h => absurd h Bool.false_ne_true⟩
  · generalize (enc.appWriter.prepareAppWriter (enc.streamBase + JPEG_MARKER_SIZE) exif extra).1 = w
      at hextra ⊢
    split
    · exact ⟨rfl, fun h => absurd h Bool.false_ne_true⟩
    · obtain ⟨hwriter, hdata⟩ := write_twin (t := t) w m (reserveThumbspace enc.streamSize exif)
        JPEG_MARKER_SIZE (if enc.noStreambaseAlign then 1 else 16)
      rw [writeAPP1_extra, hextra, hwriter] at hdata
      exact ⟨rfl, fun _ => ⟨hwriter, hdata⟩⟩

/-- **Putting in the thumbnail** moves the difference with the segments. -/
theorem embedThumb_twin (thumb : List UInt8) (h : Mem.Keeps m m' (InData w.app1End as))
    (hplace : w.isThumbSpaceReserved = false → w.thumbBase = w.app1End)
    (hmoved : segmentsSize as ≤ n + sizeSub w.mainBase w.app1End) :
    Mem.Keeps (embedThumb w m n thumb) (embedThumb w m' n thumb)
      (InData (w.app1End + thumbShift w thumb) as) := by
  unfold embedThumb thumbShift
  cases hres : w.isThumbSpaceReserved
  · rw [hplace hres]
    simp only [Bool.false_eq_true, if_false]
    -- what is not overwritten by the move lies where the thumbnail goes
    have hmove : Mem.Keeps (m.move (w.app1End + thumb.length) w.app1End (n + sizeSub w.mainBase w.app1End))
        (m'.move (w.app1End + thumb.length) w.app1End (n + sizeSub w.mainBase w.app1End))
        fun x => InData (w.app1End + thumb.length) as x ∨
          w.app1End ≤ x ∧ x < w.app1End + thumb.length := by
      refine h.move (fun x hx hxn hin => .inl ?_) fun x hx hin => .inr ?_
      · have hshift := hin.shift (d := thumb.length)
        rwa [show x + (w.app1End + thumb.length) - w.app1End = x + thumb.length by omega]
      · have hb := hin.bounds
        omega
    have hsize : Mem.Keeps (w.updateApp1Size (m.move (w.app1End + thumb.length) w.app1End
          (n + sizeSub w.mainBase w.app1End)) thumb.length)
        (w.updateApp1Size (m'.move (w.app1End + thumb.length) w.app1End
          (n + sizeSub w.mainBase w.app1End)) thumb.length)
        fun x => InData (w.app1End + thumb.length) as x ∨
          w.app1End ≤ x ∧ x < w.app1End + thumb.length := by
      unfold updateApp1Size
      split
      · exact hmove
      · exact hmove.write fun x hx => .inl hx
    by_cases hpos : 0 < thumb.length
    · rw [if_pos hpos, if_pos hpos]
      unfold finalize
      split
      · exact hsize.write fun x hx => hx
      · exact (hsize.write fun x hx => hx).write fun x hx => .inl hx
    · rw [if_neg hpos, if_neg hpos]
      exact hsize.mono fun x hx => hx.resolve_right fun hgap => by omega
  · simp only [if_true, Nat.add_zero]
    refine Mem.Keeps.write ?_ fun x hx => .inl hx
    split
    · unfold finalize
      split
      · exact h.write fun x hx => .inl hx
      · exact (h.write fun x hx => .inl hx).write fun x hx => .inl hx
    · exact h

end Encoder

/-- What the two runs have in common is enough for `UpdateDebugData`. -/
theorem updateDebugData_eq {t : TagCodes} {exif : Option ExifAttribute} {thumb : List UInt8}
    {mr md : Mem} {extra : List AppInfo} {base app1 app11 size : Nat} {rest : List UInt8}
    (hv : ∀ a ∈ extra, a.isValid = true) (hsoi : mr.read base 2 = [0xFF, 0xD8])
    (happ1 : App1At t exif thumb mr (base + 2) app1)
    (hr : Tail mr false (base + 2 + app1) extra app11 rest)
    (hd : Tail md true (base + 2 + app1) extra app11 rest)
    (hk : Mem.Keeps mr md (InData (base + 2 + app1) extra))
    (hlen : 2 + app1 + segmentsSize extra < size) (hlt : size < 2 ^ 64) :
    updateDebugData mr base size (some extra) = (true, md) := by
  obtain ⟨m', hupdate, hkeeps, hfull⟩ := updateDebugData_fills hv hsoi happ1 hr.segments hlen hlt
  have hsame : Mem.Keeps m' md (InData (base + 2 + app1) extra) :=
    fun x hx => (hk x hx).trans (hkeeps x hx).symm
  rw [hupdate, eq_of_full hsame hfull hd.segments]

section Complete

variable {t : TagCodes} {r d : Encoder} {mr md mr' md' : Mem} {exif : Option ExifAttribute}
  {as : List AppInfo} {w : Writer} {app11 app11' size : Nat} {delivered stream thumb : List UInt8}
  {retry : Nat → List UInt8}

/-- The memories when the main stream is there. -/
theorem main_twin (delivered : List UInt8) (hk : Mem.Keeps mr md (InData w.app1End as))
    (hr' : mr' = (mr.write w.mainBase delivered).write w.mainBase [0, 0])
    (hd' : md' = (md.write w.mainBase delivered).write w.mainBase [0, 0]) :
    Mem.Keeps mr' md' (InData w.app1End as) := by
  subst hr' hd'
  exact (hk.write fun x hx => .inl hx).write fun x hx => .inl hx

/-- Without a thumbnail. -/
theorem completes_noThumb (hbase : r.streamBase = d.streamBase)
    (hlimit : r.streamSize = d.streamSize) (hwr : r.hwfc = true) (hwd : d.hwfc = false)
    (hr : Processed t r exif (some as) (mr, w) app11)
    (hd : Processed t d exif (some as) (md, w) app11')
    (hk : Mem.Keeps mr md (InData w.app1End as)) (hv : ∀ a ∈ as, a.isValid = true)
    (hmain : MainStream delivered stream)
    (hno : ∀ e, exif = some e → e.enableThumb = false)
    (hshort : ∀ e, exif = some e → 8 + stopOffset t e < 2 ^ 16)
    (hspace : d.streamBase + 2 ^ 18 + segmentsSize as + delivered.length < 2 ^ 64)
    (given : Option (List UInt8))
    (hdirect : d.finishCompression w (md.write w.mainBase delivered) delivered.length given retry =
      some (md', size)) :
    ∃ mr', r.finishCompression w (mr.write w.mainBase delivered) delivered.length given retry =
        some (mr', size) ∧
      updateDebugData mr' d.streamBase size (some as) = (true, md') := by
  rw [finish_noThumb_eq retry hd hmain hno hshort (Nat.le_of_lt hspace) given rfl] at hdirect
  cases hdirect
  have h11 : app11 = app11' := hr.marked.szApp11.symm.trans hd.marked.szApp11
  have hfinish := finish_noThumb_eq retry hr hmain hno hshort
    (by rw [hbase]; exact Nat.le_of_lt hspace) given rfl
  obtain ⟨happ1, htail⟩ := parts_noThumb hr hmain hno hshort [] rfl
  obtain ⟨-, htail'⟩ := parts_noThumb hd hmain hno hshort [] rfl
  rw [hwr, hbase, hlimit] at htail
  rw [hbase, hlimit] at happ1
  rw [hwd, ← h11] at htail'
  rw [hbase] at hfinish
  have hend := hr.marked.app1End
  have happ : w.appBase = d.streamBase + 2 := hd.appBase
  have hplace := hr.marked.mainBase
  have hbound := hr.marked.bound
  have hextra : w.extra = some as := hr.extra
  have hdata := main_twin delivered hk rfl rfl
  have happ1le := app1Size_le hshort (reserveThumbspace d.streamSize exif)
  obtain ⟨hfour, hle⟩ := hmain.length
  dsimp only at hend hplace
  rw [happ, hlimit] at hend hplace
  rw [hend] at hdata
  rw [hextra] at hplace
  have hsome : (some as).getD [] = as := rfl
  rw [hsome] at hplace htail htail'
  refine ⟨_, hfinish, updateDebugData_eq hv (soi_spec _ _).1 happ1 (tail_soi htail (by omega))
    (tail_soi htail' (by omega)) (hdata.write fun x hx => .inl hx) ?_ ?_⟩
  · omega
  · omega

/-- With a thumbnail. -/
theorem completes_thumb {e : ExifAttribute} {given : List UInt8}
    (hbase : r.streamBase = d.streamBase)
    (hlimit : r.streamSize = d.streamSize) (hwr : r.hwfc = true) (hwd : d.hwfc = false)
    (hr : Processed t r (some e) (some as) (mr, w) app11)
    (hd : Processed t d (some e) (some as) (md, w) app11')
    (hk : Mem.Keeps mr md (InData w.app1End as)) (hv : ∀ a ∈ as, a.isValid = true)
    (hmain : MainStream delivered stream) (ht : e.enableThumb = true)
    (hretry : ∀ n, (retry n).length ≤ n)
    (hthumb : thumb = thumbStream d w stream.length given retry)
    (hfit : 8 + stopOffset t e + thumb.length < 2 ^ 16)
    (hspace : d.streamBase + 2 ^ 18 + segmentsSize as + delivered.length < 2 ^ 64)
    (hdirect : d.finishCompression w (md.write w.mainBase delivered) delivered.length (some given)
      retry = some (md', size)) :
    ∃ mr', r.finishCompression w (mr.write w.mainBase delivered) delivered.length (some given)
        retry = some (mr', size) ∧
      updateDebugData mr' d.streamBase size (some as) = (true, md') := by
  have hmax : ∀ n, maxThumb r w n = maxThumb d w n := fun n => by
    unfold maxThumb
    rw [hlimit]
  have hthumb' : thumb = thumbStream r w stream.length given retry := by
    rw [hthumb]
    unfold thumbStream
    rw [hmax]
  have h11 : app11 = app11' := hr.marked.szApp11.symm.trans hd.marked.szApp11
  have hfinish := finish_thumb_eq hr hmain ht hretry hthumb' hfit
    (by rw [hbase]; exact Nat.le_of_lt hspace) rfl
  rw [hmax, hbase, hlimit] at hfinish
  rw [finish_thumb_eq hd hmain ht hretry hthumb hfit (Nat.le_of_lt hspace) rfl] at hdirect
  split at hdirect
  · cases hdirect
  · rename_i hdeliver
    rw [if_neg hdeliver] at hfinish
    split at hdirect
    · cases hdirect
    · rename_i hroom
      rw [if_neg hroom] at hfinish
      cases hdirect
      have hspace' : r.streamBase + 2 ^ 18 + segmentsSize ((some as).getD []) + delivered.length ≤
          2 ^ 64 := by
        rw [hbase]
        exact Nat.le_of_lt hspace
      obtain ⟨happ1, htail⟩ := parts_thumb hr hmain ht hfit hspace' rfl
      obtain ⟨-, htail'⟩ := parts_thumb hd hmain ht hfit (Nat.le_of_lt hspace) rfl
      rw [hwr, hbase, hlimit] at htail
      rw [hbase, hlimit] at happ1
      rw [hwd, ← h11] at htail'
      have hend := hr.marked.app1End
      have happ : w.appBase = d.streamBase + 2 := hd.appBase
      have hplace := hr.marked.mainBase
      have hbound := hr.marked.bound
      have hextra : w.extra = some as := hr.extra
      have happ1le : app1Size t (some e) (reserveThumbspace d.streamSize (some e)) ≤ 65537 :=
        app1Size_le (fun e' he' => by cases he'; omega) _
      obtain ⟨hfour, hle⟩ := hmain.length
      have hsome : (some as).getD [] = as := rfl
      dsimp only at hend hplace
      rw [happ, hlimit] at hend hplace
      rw [hextra, hsome] at hplace
      rw [hsome] at htail htail'
      have hshift : thumbShift w thumb ≤ thumb.length := by
        unfold thumbShift
        split <;> omega
      have hmoved : segmentsSize as ≤ stream.length + sizeSub w.mainBase w.app1End := by
        unfold sizeSub
        omega
      have hplace' : w.isThumbSpaceReserved = false → w.thumbBase = w.app1End := by
        intro hno
        obtain ⟨hthumbBase, -, -⟩ := hr.known.thumb e rfl ht
        rcases reserved_thumb hr.marked hr.known ht (by omega) with ⟨hres, -⟩ | ⟨-, hsize⟩
        · exact absurd (hres.symm.trans hno) (Bool.false_ne_true ∘ Eq.symm)
        · rw [hlimit] at hsize
          dsimp only at hthumbBase
          omega
      have hdata := embedThumb_twin thumb (main_twin delivered hk rfl rfl)
        hplace' hmoved
      rw [hend, Nat.add_assoc] at hdata
      refine ⟨_, hfinish, updateDebugData_eq hv (soi_spec _ _).1 happ1 (tail_soi htail (by omega))
        (tail_soi htail' (by omega)) (hdata.write fun x hx => .inl hx) ?_ ?_⟩
      · omega
      · omega

end Complete

/-- **Reserving and updating is writing.**  If APP1 is short enough for its length
    field, or there are no segments, the stream with reserved segments becomes the one
    with the segments written at once. -/
theorem updateDebugData_completes (t : TagCodes) (enc : Encoder) (m md : Mem)
    (exif : Option ExifAttribute) (extra : Option (List AppInfo)) (c : Compressed)
    (stream : List UInt8) (size : Nat)
    (hacc : (enc.appWriter.prepareAppWriter (enc.streamBase + JPEG_MARKER_SIZE) exif extra).2 = true)
    (h11 : enc.appWriter.szApp11 < 2 ^ 16)
    (hspace : enc.streamBase + 2 ^ 18 + segmentsSize (extra.getD []) + c.main.length < 2 ^ 64)
    (hmain : MainStream c.main stream) (hretry : ∀ n, (c.retry n).length ≤ n)
    (hdirect : { enc with hwfc := false }.encode t m exif extra c = some (md, size)) :
    let w := ({ enc with hwfc := false }.processExif t m exif extra).2.2
    let thumb := thumbStream enc w stream.length (c.thumb.getD []) c.retry
    (extra = none ∨ ∀ e, exif = some e → 8 + stopOffset t e + (embedded e thumb).length < 2 ^ 16) →
    ∃ mr, { enc with hwfc := true }.encode t m exif extra c = some (mr, size) ∧
      updateDebugData mr enc.streamBase size extra = (true, md) := by
  have hok : ({ enc with hwfc := false }.processExif t m exif extra).1 = true := by
    unfold Encoder.encode at hdirect
    generalize { enc with hwfc := false }.processExif t m exif extra = d at hdirect ⊢
    obtain ⟨ok, m1, w1⟩ := d
    cases ok
    · cases hdirect
    · rfl
  obtain ⟨hsame, htwin⟩ := processExif_twin (t := t) enc m hacc
  obtain ⟨hwriter, hk⟩ := htwin hok
  have hokr : ({ enc with hwfc := true }.processExif t m exif extra).1 = true := hsame.trans hok
  obtain ⟨-, hv⟩ := prepareAppWriter_extra hacc
  have hspace' : enc.streamBase + 2 ^ 18 + segmentsSize (extra.getD []) ≤ 2 ^ 64 := by omega
  have hr := fun hshort => processExif_spec hokr hacc hshort hspace' h11
  have hd := fun hshort => processExif_spec hok hacc hshort hspace' h11
  rw [encode_eq hok] at hdirect
  rw [encode_eq hokr]
  clear hok hokr hsame htwin hacc
  revert hr hd hdirect hwriter hk
  generalize ({ enc with hwfc := true }.processExif t m exif extra).2 = rr
  generalize ({ enc with hwfc := false }.processExif t m exif extra).2 = rd
  obtain ⟨mr, w⟩ := rr
  obtain ⟨md', w'⟩ := rd
  intro hdirect hwriter hk hr hd w'' thumb hcond
  obtain rfl : w = w' := hwriter
  dsimp only at hdirect hk ⊢
  cases extra with
  | none =>
      -- nothing is reserved, and the two runs are the same
      have hmem : md' = mr := funext fun x => hk x fun hx => hx.elim
      rw [hmem] at hdirect
      exact ⟨md, hdirect, rfl⟩
  | some as =>
      have hfits := hcond.resolve_left (Option.some_ne_none as)
      have hshort : ∀ e, exif = some e → 8 + stopOffset t e < 2 ^ 16 := by
        intro e he
        have hlt := hfits e he
        omega
      obtain ⟨app11, hr⟩ := hr hshort
      obtain ⟨app11', hd⟩ := hd hshort
      by_cases hthumb : ∃ e, exif = some e ∧ e.enableThumb = true
      · obtain ⟨e, he, ht⟩ := hthumb
        subst he
        have hfit := hfits e rfl
        rw [embedded, if_pos ht] at hfit
        cases hgiven : c.thumb with
        | none =>
            -- the thread of the thumbnail is lost
            obtain ⟨hthumbBase, -, -⟩ := hd.known.thumb e rfl ht
            have hne : w.thumbBase ≠ 0 := by
              dsimp only at hthumbBase
              omega
            rw [hgiven] at hdirect
            unfold Encoder.finishCompression at hdirect
            dsimp only at hdirect
            rw [if_neg hne] at hdirect
            cases hdirect
        | some given =>
            rw [hgiven] at hdirect
            have hthumb : thumb = thumbStream enc w stream.length given c.retry := by
              show thumbStream enc w stream.length (c.thumb.getD []) c.retry = _
              rw [hgiven, Option.getD_some]
            exact completes_thumb (r := { enc with hwfc := true }) (d := { enc with hwfc := false })
              rfl rfl rfl rfl hr hd hk hv hmain ht hretry hthumb hfit hspace hdirect
      · have hno : ∀ e, exif = some e → e.enableThumb = false := by
          intro e he
          rw [← Bool.not_eq_true]
          exact fun ht => hthumb ⟨e, he, ht⟩
        exact completes_noThumb (r := { enc with hwfc := true }) (d := { enc with hwfc := false })
          rfl rfl rfl rfl hr hd hk hv hmain hno hshort hspace c.thumb hdirect

/-! ### An APP1 of 65536 bytes -/

/-- Reserving leaves the data areas as they were. -/
theorem writeAPPX_reserves (as : List AppInfo) (m : Mem) (p : Nat) {x : Nat} (hx : InData p as x) :
    (as.foldl (writeAppX true) (m, p)).1 x = m x := by
  induction as generalizing m p with
  | nil => exact hx.elim
  | cons a as ih =>
      have hlen := appXHeader_length a
      have hhead : ∀ y, p + 4 ≤ y → m.write p (appXHeader a) y = m y :=
        fun y hy => Mem.write_above (by omega)
      obtain ⟨-, hkeeps, -⟩ := writeAPPX_spec true as (m.write p (appXHeader a)) (p + 4 + a.dataSize)
      rcases hx with ⟨hlo, hhi⟩ | hx
      · exact (hkeeps x fun hin => by omega).trans (hhead x hlo)
      · have hb := hx.bounds
        exact (ih (m.write p (appXHeader a)) (p + 4 + a.dataSize) hx).trans (hhead x (by omega))

/-- Attributes whose segment takes 65536 bytes with its length field. -/
def edgeNote : Buffer :=
  ⟨List.replicate (65524 - noThumbExif.applen) 0, by
    rw [List.length_replicate]
    have hplain := noThumbExif_applen
    omega⟩

def debugSegment : AppInfo := ⟨4, [1]⟩

theorem edgeNote_applen : (noteExif edgeNote).applen = 65536 := by
  have hplain := noThumbExif_applen
  have hsize : ExifAttribute.bufferSize edgeNote = 12 + (65524 - noThumbExif.applen) := by
    have hpos : decide (0 < 65524 - noThumbExif.applen) = true := decide_eq_true (by omega)
    rw [bufferSize_eq, show edgeNote.size = 65524 - noThumbExif.applen from List.length_replicate,
      hpos, countIf_true, countIf_true, outOfLine, if_pos (by omega)]
  rw [noteExif_applen, hsize]
  omega

/-- A length field of zero is taken for one byte, and the search ends there. -/
theorem updateDebugData_lost {m : Mem} {base size : Nat} {extra : List AppInfo}
    (hv : ∀ a ∈ extra, a.isValid = true) (hsoi : m.read base 2 = [0xFF, 0xD8])
    (hmark : m.read (base + 2) 2 = [0xFF, 0xE1]) (hzero : m.read (base + 4) 2 = [0, 0])
    (hlen : segmentsSize extra + 4 < size) :
    updateDebugData m base size (some extra) = (true, m) := by
  have hvalid : getExtraAPPSize extra = segmentsSize extra := if_pos (List.all_eq_true.mpr hv)
  have h0 := Mem.read_getElem (m := m) (a := base) (n := 2) (i := 0) (by decide)
  have h1 := Mem.read_getElem (m := m) (a := base) (n := 2) (i := 1) (by decide)
  have h2 := Mem.read_getElem (m := m) (a := base + 2) (n := 2) (i := 0) (by decide)
  have h3 := Mem.read_getElem (m := m) (a := base + 2) (n := 2) (i := 1) (by decide)
  have h5 := Mem.read_getElem (m := m) (a := base + 4) (n := 2) (i := 1) (by decide)
  rw [hsoi] at h0 h1
  rw [hmark] at h2 h3
  rw [hzero] at h5
  have hff : m base = 0xFF := (Option.some.inj h0).symm
  have hd8 : m (base + 1) = 0xD8 := (Option.some.inj h1).symm
  have he1 : m (base + 2 + 1) = 0xE1 := (Option.some.inj h3).symm
  have hnext : m (base + 2 + 2 + 1) = 0 := (Option.some.inj h5).symm
  have hseg : getSegLen m (base + 2 + 2) = 0 := by
    show ofBe (m.read (base + 4) 2) = 0
    rw [hzero]
    rfl
  unfold updateDebugData
  dsimp only
  rw [hvalid, if_neg (by rw [JPEG_MARKER_SIZE]; omega),
    if_neg (not_or.mpr ⟨not_not_intro hff, not_not_intro hd8⟩)]
  unfold updateLoop
  split
  · rfl
  · rw [he1, hseg, if_neg (by decide)]
    dsimp only
    rw [if_neg (by decide), if_pos rfl, Nat.min_eq_left (by omega)]
    unfold updateLoop
    exact if_pos (.inl (by rw [hnext]; decide))

section Lost

variable {t : TagCodes} {enc : Encoder} {m m' : Mem} {exif : Option ExifAttribute}
  {extra : Option (List AppInfo)} {w : Writer} {c : Compressed} {stream : List UInt8}

/-- The buffer with the main stream and its own SOI. -/
def finished (enc : Encoder) (w : Writer) (m : Mem) (main : List UInt8) : Mem :=
  ((m.write w.mainBase main).write w.mainBase [0, 0]).write enc.streamBase [0xFF, 0xD8]

theorem finished_soi (m : Mem) (main : List UInt8) :
    (finished enc w m main).read enc.streamBase 2 = [0xFF, 0xD8] := (soi_spec _ _).1

theorem finished_between (m : Mem) (main : List UInt8) {x : Nat} (hlo : enc.streamBase + 2 ≤ x)
    (hhi : x < w.mainBase) : finished enc w m main x = m x :=
  ((soi_spec _ _).2 x hlo).trans ((Mem.write_below hhi).trans (Mem.write_below hhi))

/-- `encode` when there is no thumbnail, whatever APP1 looks like. -/
theorem encode_noThumb (hprocess : enc.processExif t m exif extra = (true, m', w))
    (hthumb : w.thumbBase = 0) (hmain : MainStream c.main stream)
    (hlt : w.mainBase + c.main.length < 2 ^ 64) :
    enc.encode t m exif extra c =
      some (finished enc w m' c.main, (w.calculateAPPSize 0 + stream.length) % 2 ^ 64) := by
  have hok : (enc.processExif t m exif extra).1 = true := by rw [hprocess]
  rw [encode_eq hok, hprocess]
  unfold Encoder.finishCompression
  rw [removeTrailingDummies_eq hmain Mem.read_write (by omega)]
  exact if_pos hthumb

/-- The data areas behind APP1 stay as they are while `Write` reserves. -/
theorem write_reserves (w : Writer) (m : Mem) (reserve : Bool) (dummy align : Nat) {x : Nat}
    (hx : InData (w.writeAPP1 t m w.appBase reserve).2.2
      ((w.writeAPP1 t m w.appBase reserve).2.1.extra.getD []) x) :
    (w.write t m reserve dummy align true).1 x = (w.writeAPP1 t m w.appBase reserve).1 x := by
  unfold write
  generalize w.writeAPP1 t m w.appBase reserve = r at hx
  obtain ⟨m1, w1, stop⟩ := r
  dsimp only at hx ⊢
  have hdata : (w1.writeAPPX m1 stop true).1 x = m1 x :=
    writeAPPX_reserves (w1.extra.getD []) m1 stop hx
  have hstop : (w1.writeAPPX m1 stop true).2 = stop + segmentsSize (w1.extra.getD []) :=
    (writeAPPX_spec true (w1.extra.getD []) m1 stop).1
  have hb := hx.bounds
  generalize w1.writeAPPX m1 stop true = rx at hdata hstop
  obtain ⟨mx, p⟩ := rx
  dsimp only at hdata hstop ⊢
  rw [← hdata]
  unfold writeAPP11
  split
  · rfl
  · split
    · rfl
    · exact Mem.write_below (by omega)

end Lost

/-- The debug data is not found behind a segment of 65536 bytes. -/
theorem edgeNote_lost :
    ((encoder 100000).appWriter.prepareAppWriter ((encoder 100000).streamBase + JPEG_MARKER_SIZE)
        (some (noteExif edgeNote)) (some [debugSegment])).2 = true ∧
      MainStream shortStreams.main shortStream ∧
      ∃ mr md size,
        { encoder 100000 with hwfc := true }.encode exifTags zeroMem (some (noteExif edgeNote))
          (some [debugSegment]) shortStreams = some (mr, size) ∧
        { encoder 100000 with hwfc := false }.encode exifTags zeroMem (some (noteExif edgeNote))
          (some [debugSegment]) shortStreams = some (md, size) ∧
        updateDebugData mr (encoder 100000).streamBase size (some [debugSegment]) ≠ (true, md) := by
  have hprepared : ((encoder 100000).appWriter.prepareAppWriter
      ((encoder 100000).streamBase + JPEG_MARKER_SIZE) (some (noteExif edgeNote))
      (some [debugSegment])).2 = true := rfl
  refine ⟨hprepared, shortStream_main, ?_⟩
  have happ := edgeNote_applen
  obtain ⟨hp, hbase, hextra⟩ := prepareAppWriter_prepared hprepared
  have hstale : _ = 0 := (prepareAppWriter_stale (encoder 100000).appWriter
    ((encoder 100000).streamBase + JPEG_MARKER_SIZE) (some (noteExif edgeNote))
    (some [debugSegment])).2
  generalize hw : ((encoder 100000).appWriter.prepareAppWriter
    ((encoder 100000).streamBase + JPEG_MARKER_SIZE) (some (noteExif edgeNote))
    (some [debugSegment])).1 = w at hp hbase hextra hstale
  have hmax : w.maxThumbSize = 0 := hp.maxThumbSize
  have hsz : w.szApp1 = 0 := by
    have hmod := hp.szApp1
    rw [happ] at hmod
    omega
  have hthumb : w.thumbBase = 0 := hp.noThumb rfl
  have hbuffer : (encoder 100000).streamBase = 4096 ∧ (encoder 100000).streamSize = 100000 :=
    ⟨rfl, rfl⟩
  have hseg : segmentsSize ((some [debugSegment]).getD []) = 5 := rfl
  have hroom : w.calculateAPPSize 0 + NECESSARY_JPEG_LENGTH < (encoder 100000).streamSize := by
    have hle := calculateAPPSize_le w 0
    rw [hextra, hmax, hstale, hsz, hseg, JPEG_APP1_OEM_RESERVED] at hle
    rw [hbuffer.2, NECESSARY_JPEG_LENGTH, JPEG_MARKER_SIZE]
    omega
  have hreserve : reserveThumbspace (encoder 100000).streamSize (some (noteExif edgeNote)) = false :=
    Bool.false_and (!decide ((encoder 100000).streamSize < JPEG_MAX_SEGMENT_SIZE * 10))
  -- what `Write` leaves, with and without data
  have hwritten := writeAPP1_spec hp (t := exifTags) zeroMem false
  have hno : (noteExif edgeNote).enableThumb = false := rfl
  have hsegs : (w.writeAPP1 exifTags zeroMem w.appBase false).2.1.extra = some [debugSegment] :=
    (writeAPP1_extra w zeroMem w.appBase false).trans hextra
  have hstart : w.appBase = 4098 := hbase
  have hend : (w.writeAPP1 exifTags zeroMem w.appBase false).2.2 = 69636 := by
    have hstop := hwritten.stop
    rw [app1Stop, hno, if_neg Bool.false_ne_true, happ] at hstop
    omega
  have hplace : ∀ b, ∃ stop app11, RestWritten (w.writeAPP1 exifTags zeroMem w.appBase false)
      ((w.write exifTags zeroMem false JPEG_MARKER_SIZE 16 b).1,
        (w.write exifTags zeroMem false JPEG_MARKER_SIZE 16 b).2, stop) [debugSegment] b app11 := by
    intro b
    have hrest := write_rest (t := exifTags) w zeroMem false b (.inr rfl : (16 = 1 ∨ 16 = 16)) rfl
    rw [hsegs] at hrest
    exact hrest
  have hkept := fun x => write_reserves (t := exifTags) w zeroMem false JPEG_MARKER_SIZE 16 (x := x)
  generalize w.writeAPP1 exifTags zeroMem w.appBase false = r at hwritten hsegs hend hplace hkept
  have hsame := (write_twin (t := exifTags) w zeroMem false JPEG_MARKER_SIZE 16).1
  obtain ⟨stop, app11, hr⟩ := hplace true
  obtain ⟨stop', app11', hd⟩ := hplace false
  have hsix : 6 ≤ app11 := by
    rcases hr.filler with hzero | hfill
    · have hnone := (hr.none_iff.mp hzero).2
      rw [hsegs] at hnone
      exact absurd hnone (Option.some_ne_none _)
    · exact hfill.1
  have hbound := hr.bound
  have hstop := hr.stop
  dsimp only at hstop
  rw [hend, show segmentsSize [debugSegment] = 5 from rfl] at hstop
  have hmain : (w.write exifTags zeroMem false JPEG_MARKER_SIZE 16 true).2.mainBase = stop - 2 :=
    congrArg Writer.mainBase hr.writer
  have h11 : (w.write exifTags zeroMem false JPEG_MARKER_SIZE 16 true).2.szApp11 = app11 :=
    congrArg Writer.szApp11 hr.writer
  have hthumb' : (w.write exifTags zeroMem false JPEG_MARKER_SIZE 16 true).2.thumbBase = 0 := by
    refine (congrArg Writer.thumbBase hr.writer).trans ?_
    show r.2.1.thumbBase = 0
    rw [hwritten.writer]
    exact hthumb
  have hmax' : (w.write exifTags zeroMem false JPEG_MARKER_SIZE 16 true).2.maxThumbSize = 0 := by
    refine (congrArg Writer.maxThumbSize hr.writer).trans ?_
    show r.2.1.maxThumbSize = 0
    rw [hwritten.writer]
    exact hmax
  have hsz' : (w.write exifTags zeroMem false JPEG_MARKER_SIZE 16 true).2.szApp1 = 0 := by
    refine (congrArg Writer.szApp1 hr.writer).trans ?_
    show r.2.1.szApp1 = 0
    rw [hwritten.writer]
    exact hsz
  have hextra' : (w.write exifTags zeroMem false JPEG_MARKER_SIZE 16 true).2.extra =
      some [debugSegment] := (congrArg Writer.extra hr.writer).trans hsegs
  have hsize : 9 < ((w.write exifTags zeroMem false JPEG_MARKER_SIZE 16 true).2.calculateAPPSize 0
      + shortStream.length) % 2 ^ 64 := by
    have hfour : shortStream.length = 4 := rfl
    unfold calculateAPPSize
    rw [hmax', hsz', hextra', hseg, h11, hfour, JPEG_APP1_OEM_RESERVED]
    split <;> split <;> omega
  have hrun : ∀ b, { encoder 100000 with hwfc := b }.processExif exifTags zeroMem
      (some (noteExif edgeNote)) (some [debugSegment]) =
      (true, (w.write exifTags zeroMem false JPEG_MARKER_SIZE 16 b).1,
        (w.write exifTags zeroMem false JPEG_MARKER_SIZE 16 b).2) := by
    intro b
    refine (processExif_eq (t := exifTags) (m := zeroMem)
      { encoder 100000 with hwfc := b } rfl hw hroom).trans ?_
    rw [hreserve]
    rfl
  have hspace : (w.write exifTags zeroMem false JPEG_MARKER_SIZE 16 true).2.mainBase
      + shortStreams.main.length < 2 ^ 64 := by
    have hfour : shortStreams.main.length = 4 := rfl
    omega
  have hr' := encode_noThumb (hrun true) hthumb' shortStream_main hspace
  rw [hsame] at hthumb' hspace
  have hd' := encode_noThumb (hrun false) hthumb' shortStream_main hspace
  rw [← hsame] at hd'
  refine ⟨_, _, _, hr', hd', fun hupdate => ?_⟩
  have hfour : shortStreams.main.length = 4 := rfl
  obtain ⟨hmark, hlength, -, -⟩ := app1Header_read hwritten
  rw [hstart] at hmark hlength
  have hlow : ∀ x, 4098 ≤ x → x < 69636 → finished { encoder 100000 with hwfc := true }
      (w.write exifTags zeroMem false JPEG_MARKER_SIZE 16 true).2
      (w.write exifTags zeroMem false JPEG_MARKER_SIZE 16 true).1 shortStreams.main x = r.1 x := by
    intro x hx hxn
    exact (finished_between _ _ hx (by omega)).trans (hr.keeps x fun hin => by omega)
  have hmark' := (Mem.read_congr fun x hx hxn => hlow x hx (by omega)).trans hmark
  have hzero : r.1.read 4100 2 = [0, 0] := by
    rw [← be_ofBe (r.1.read 4100 2), Mem.read_length, hlength, hsz, countIf_false]
    rfl
  have hzero' := (Mem.read_congr fun x hx hxn => hlow x (by omega) (by omega)).trans hzero
  have hlost := updateDebugData_lost (show ∀ a ∈ [debugSegment], a.isValid = true by decide)
    (finished_soi _ _) hmark' hzero' hsize
  -- the byte of the segment was not stored
  have hat := congrFun (congrArg Prod.snd (hlost.symm.trans hupdate)) 69640
  have hdata : InData r.2.2 (r.2.1.extra.getD []) 69640 := by
    rw [hend, hsegs]
    exact .inl ⟨Nat.le_refl 69640, by decide⟩
  have hreserved : (w.write exifTags zeroMem false JPEG_MARKER_SIZE 16 true).1 69640 = 0 := by
    refine (hkept 69640 hdata).trans ((hwritten.keeps 69640 fun hin => by omega).trans ?_)
    refine Mem.write_above ?_
    rw [hstart]
    show 4098 + 18 ≤ 69640
    decide
  have hfull : (w.write exifTags zeroMem false JPEG_MARKER_SIZE 16 false).1.read 69640 1 = [1] := by
    have hsegments := hd.segments.2.1 rfl
    rwa [hend] at hsegments
  have hone : (w.write exifTags zeroMem false JPEG_MARKER_SIZE 16 false).1 69640 = 1 :=
    (List.cons.inj hfull).1
  dsimp only at hat
  rw [finished_between _ _ (by decide) (by omega), finished_between _ _ (by decide) (by omega),
    hreserved, hone] at hat
  exact absurd hat (by decide)

/-- The short segments of plain attributes are found. -/
theorem plainExif_updated :
    ∃ mr md size,
      { encoder 20000 with hwfc := true }.encode exifTags zeroMem (some plainExif)
        (some [debugSegment]) shortStreams = some (mr, size) ∧
      { encoder 20000 with hwfc := false }.encode exifTags zeroMem (some plainExif)
        (some [debugSegment]) shortStreams = some (md, size) ∧
      updateDebugData mr (encoder 20000).streamBase size (some [debugSegment]) = (true, md) := by
  have hrun : ({ encoder 20000 with hwfc := false }.encode exifTags zeroMem (some plainExif)
      (some [debugSegment]) shortStreams).isSome = true := by decide +kernel
  obtain ⟨⟨md, size⟩, hdirect⟩ := Option.isSome_iff_exists.mp hrun
  obtain ⟨mr, hr, hupdate⟩ := updateDebugData_completes exifTags (encoder 20000) zeroMem md
    (some plainExif) (some [debugSegment]) shortStreams shortStream size rfl (by decide) (by decide)
    shortStream_main (fun n => List.length_take_le n _) hdirect
    (.inr fun e he => by cases he; decide +kernel)
  exact ⟨mr, md, size, hr, hdirect, hupdate⟩

end ExynosHal.DebugData
