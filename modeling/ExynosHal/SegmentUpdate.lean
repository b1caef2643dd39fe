/-
  ExynosHal/SegmentUpdate.lean
  ============================
  **`UpdateDebugData` on a stream of any content.**

  The loop takes the lengths of the segments from the stream.  `trace` is the loop
  with the addresses that it reads and the segments that it copies; it is the loop of
  `AppMarkerWriter.lean` otherwise (`trace_updateLoop`).  What goes wrong depends on
  the stream alone: `Complete` and `Refused` are the two kinds of streams with which
  the function keeps to the stream and to all or nothing, and there are no others.
-/
import ExynosHal.JpegAssembly
import Mathlib.Data.List.Perm.Subperm

namespace ExynosHal.SegmentUpdate

open ExynosHal.ByteMemory ExynosHal.TiffDirectory ExynosHal.AppMarkerWriter
open ExynosHal.AppMarkerWriter.Writer ExynosHal.JpegAssembly

/-! ### The function with its accesses -/

/-- Result and stream, with the addresses that were read and the segments that were
    copied, each with the address of its data. -/
structure Outcome where
  ok : Bool
  mem : Mem
  reads : List Nat
  copies : List (Nat × AppInfo)

/-- The accesses of one round before those of the rest. -/
def Outcome.after (o : Outcome) (reads : List Nat) (copies : List (Nat × AppInfo)) : Outcome :=
  { o with reads := reads ++ o.reads, copies := copies ++ o.copies }

/-- The markers from APP2 to APP10. -/
def IsExtraMarker (marker : UInt8) : Prop :=
  marker &&& 0xF0 = 0xE0 ∧ EXTRA_APPMARKER_MIN ≤ ((marker &&& 0xF).toNat : Int) ∧
    ((marker &&& 0xF).toNat : Int) ≤ EXTRA_APPMARKER_LIMIT

instance (marker : UInt8) : Decidable (IsExtraMarker marker) :=
  inferInstanceAs (Decidable (_ ∧ _ ∧ _))

/-- The loop of `UpdateDebugData`; the first byte of a marker is read before the
    lengths are compared. -/
def trace (m : Mem) (jpeg jpeglen validlen : Nat) (extra : List AppInfo) : Outcome :=
  if m jpeg ≠ 0xFF ∨ validlen = 0 ∨ jpeglen ≤ validlen then ⟨true, m, [jpeg], []⟩
  else
    let marker := m (jpeg + 1)
    if marker = 0xDA ∨ marker = 0xD9 then ⟨false, m, [jpeg, jpeg + 1], []⟩
    else
      let appid : Int := (marker &&& 0xF).toNat
      let seglen := getSegLen m (jpeg + 2)
      if IsExtraMarker marker then
        match extra with
        -- not reached, as `validlen` is what the remaining segments take
        | [] => ⟨false, m, [jpeg, jpeg + 1], []⟩
        | a :: extra =>
            if appid ≠ a.appid then ⟨false, m, [jpeg, jpeg + 1], []⟩
            else if seglen < a.dataSize + JPEG_SEGMENT_LENFIELD_SIZE then
              ⟨false, m, [jpeg, jpeg + 1, jpeg + 2, jpeg + 3], []⟩
            else
              (trace (m.write (jpeg + 2 + JPEG_SEGMENT_LENFIELD_SIZE) a.appData)
                (jpeg + 2 + seglen) (sizeSub (jpeglen - 2) seglen)
                (sizeSub validlen (a.dataSize + JPEG_MARKER_SIZE + JPEG_SEGMENT_LENFIELD_SIZE))
                extra).after [jpeg, jpeg + 1, jpeg + 2, jpeg + 3]
                  [(jpeg + 2 + JPEG_SEGMENT_LENFIELD_SIZE, a)]
      else
        let seglen := min (if seglen = 0 then 1 else seglen) (jpeglen - 2)
        (trace m (jpeg + 2 + seglen) (jpeglen - 2 - seglen) validlen extra).after
          [jpeg, jpeg + 1, jpeg + 2, jpeg + 3] []
termination_by (extra.length, jpeglen)
decreasing_by
  · exact .left _ _ (Nat.lt_succ_self _)
  · exact .right _ (by omega)

/-- A call; `jpeglen` has type `size_t`. -/
structure Call where
  mem : Mem
  jpeg : Nat
  jpeglen : Nat
  jpeglen_lt : jpeglen < 2 ^ 64
  extra : Option (List AppInfo)

namespace Call

/-- The address behind the stream. -/
def stop (c : Call) : Nat := c.jpeg + c.jpeglen

/-- `UpdateDebugData` with its accesses. -/
def run (c : Call) : Outcome :=
  match c.extra with
  | none => ⟨true, c.mem, [], []⟩
  | some extra =>
      let validlen := getExtraAPPSize extra
      if c.jpeglen < validlen + JPEG_MARKER_SIZE then ⟨false, c.mem, [], []⟩
      else if c.mem c.jpeg ≠ 0xFF then ⟨false, c.mem, [c.jpeg], []⟩
      else if c.mem (c.jpeg + 1) ≠ 0xD8 then ⟨false, c.mem, [c.jpeg, c.jpeg + 1], []⟩
      else (trace c.mem (c.jpeg + 2) (c.jpeglen - 2) validlen extra).after
        [c.jpeg, c.jpeg + 1] []

end Call

/-- The traced loop is the loop. -/
theorem trace_updateLoop (m : Mem) (jpeg jpeglen validlen : Nat) (extra : List AppInfo) :
    updateLoop m jpeg jpeglen validlen extra =
      ((trace m jpeg jpeglen validlen extra).ok, (trace m jpeg jpeglen validlen extra).mem) := by
  fun_induction trace m jpeg jpeglen validlen extra with
  | case1 m jpeg jpeglen validlen extra h => rw [updateLoop, if_pos h]
  | case2 m jpeg jpeglen validlen extra h marker hstop => rw [updateLoop, if_neg h, if_pos hstop]
  | case3 m jpeg jpeglen validlen h marker hstop hextra =>
      rw [updateLoop, if_neg h, if_neg hstop]
      exact if_pos hextra
  | case4 m jpeg jpeglen validlen h marker hstop appid hextra a extra hid =>
      rw [updateLoop, if_neg h, if_neg hstop]
      exact (if_pos hextra).trans (if_pos hid)
  | case5 m jpeg jpeglen validlen h marker hstop appid seglen hextra a extra hid hshort =>
      rw [updateLoop, if_neg h, if_neg hstop]
      exact (if_pos hextra).trans ((if_neg hid).trans (if_pos hshort))
  | case6 m jpeg jpeglen validlen h marker hstop appid seglen hextra a extra hid hshort ih =>
      rw [updateLoop, if_neg h, if_neg hstop]
      exact (if_pos hextra).trans ((if_neg hid).trans ((if_neg hshort).trans ih))
  | case7 m jpeg jpeglen validlen extra h marker hstop seglen hextra seglen' ih =>
      rw [updateLoop, if_neg h, if_neg hstop]
      exact (if_neg hextra).trans ih

/-- The copies are all that the loop writes. -/
theorem trace_mem (m : Mem) (jpeg jpeglen validlen : Nat) (extra : List AppInfo) :
    (trace m jpeg jpeglen validlen extra).mem =
      (trace m jpeg jpeglen validlen extra).copies.foldl
        (fun m copy => m.write copy.1 copy.2.appData) m := by
  fun_induction trace m jpeg jpeglen validlen extra with
  | case6 m jpeg jpeglen validlen h marker hstop appid seglen hextra a extra hid hshort ih =>
      exact ih
  | case7 m jpeg jpeglen validlen extra h marker hstop seglen hextra seglen' ih => exact ih
  | _ => rfl

/-- **The traced call is the call.** -/
theorem Call.run_eq (c : Call) :
    updateDebugData c.mem c.jpeg c.jpeglen c.extra = (c.run.ok, c.run.mem) := by
  unfold updateDebugData Call.run
  cases c.extra with
  | none => rfl
  | some extra =>
      dsimp only
      split
      · rfl
      · by_cases hff : c.mem c.jpeg = 0xFF
        · by_cases hd8 : c.mem (c.jpeg + 1) = 0xD8
          · rw [if_neg (not_or.mpr ⟨not_not_intro hff, not_not_intro hd8⟩),
              if_neg (not_not_intro hff), if_neg (not_not_intro hd8)]
            exact trace_updateLoop ..
          · rw [if_pos (.inr hd8), if_neg (not_not_intro hff), if_pos hd8]
        · rw [if_pos (.inl hff), if_pos hff]

/-! ### The segments of a stream -/

/-- Where the loop goes on behind a segment that lies in the stream; a length of zero
    counts as one. -/
def next (m : Mem) (p : Nat) : Nat := p + 2 + max 1 (getSegLen m (p + 2))

/-- The places that the markers lead to. -/
inductive Reached (m : Mem) (start : Nat) : Nat → Prop
  | start : Reached m start start
  | next {p : Nat} (h : Reached m start p) (hmark : m p = 0xFF) : Reached m start (next m p)

/-- A segment APP*n* at `p` that ends before `stop`. -/
structure IsAppSegment (m : Mem) (start stop p : Nat) (n : Int) : Prop where
  reached : Reached m start p
  mark : m p = 0xFF
  app : m (p + 1) &&& 0xF0 = 0xE0
  id : ((m (p + 1) &&& 0xF).toNat : Int) = n
  inside : p + 2 + getSegLen m (p + 2) ≤ stop

/-- The copy goes to the payload of a segment with the id of the data. -/
def Placed (m : Mem) (start stop : Nat) (copy : Nat × AppInfo) : Prop :=
  ∃ p, IsAppSegment m start stop p copy.2.appid ∧
    p + 2 + JPEG_SEGMENT_LENFIELD_SIZE ≤ copy.1 ∧
    copy.1 + copy.2.dataSize ≤ p + 2 + getSegLen m (p + 2)

/-- What is asked of a call: it stays in the stream, writes into payloads only, says yes
    when all segments that are valid were copied, and no when nothing has changed. -/
structure Call.Safe (c : Call) : Prop where
  reads : ∀ x ∈ c.run.reads, c.jpeg ≤ x ∧ x < c.stop
  writes : ∀ copy ∈ c.run.copies, c.jpeg ≤ copy.1 ∧ copy.1 + copy.2.dataSize ≤ c.stop
  placed : ∀ copy ∈ c.run.copies, Placed c.mem (c.jpeg + 2) c.stop copy
  found : c.run.ok = true →
    ((c.extra.getD []).filter AppInfo.isValid).Subperm (c.run.copies.map Prod.snd)
  unchanged : c.run.ok = false → ∀ x, c.jpeg ≤ x → x < c.stop → c.run.mem x = c.mem x

/-- A segment that the loop steps across. -/
structure Skipped (m : Mem) (p : Nat) : Prop where
  mark : m p = 0xFF
  sos : m (p + 1) ≠ 0xDA
  eoi : m (p + 1) ≠ 0xD9
  other : ¬ IsExtraMarker (m (p + 1))

/-- A segment with the id of `a` and room for its data. -/
structure Fits (m : Mem) (p : Nat) (a : AppInfo) : Prop where
  mark : m p = 0xFF
  extra : IsExtraMarker (m (p + 1))
  id : ((m (p + 1) &&& 0xF).toNat : Int) = a.appid
  room : a.dataSize + 2 ≤ getSegLen m (p + 2)

/-- The end of the headers, or an extra segment that is not the one for `a`. -/
structure Refusing (m : Mem) (p : Nat) (a : AppInfo) : Prop where
  mark : m p = 0xFF
  why : m (p + 1) = 0xDA ∨ m (p + 1) = 0xD9 ∨ IsExtraMarker (m (p + 1)) ∧
    (((m (p + 1) &&& 0xF).toNat : Int) ≠ a.appid ∨ getSegLen m (p + 2) < a.dataSize + 2)

/-- From `p` on the stream has segments for all of `extra`, in their order and with no
    other extra segment between them, and it goes on behind the last of them. -/
inductive Complete (m : Mem) (stop : Nat) : Nat → List AppInfo → Prop
  | done {p : Nat} (h : p < stop) : Complete m stop p []
  | skip {p : Nat} {a : AppInfo} {extra : List AppInfo} (h : Skipped m p)
      (hrest : Complete m stop (next m p) (a :: extra)) : Complete m stop p (a :: extra)
  | fits {p : Nat} {a : AppInfo} {extra : List AppInfo} (h : Fits m p a)
      (hrest : Complete m stop (next m p) extra) : Complete m stop p (a :: extra)

/-- From `p` on the stream comes to a segment that is refused, with room left for what
    is missing, and the segments before it have their data already. -/
inductive Refused (m : Mem) (stop : Nat) : Nat → List AppInfo → Prop
  | refuse {p : Nat} {a : AppInfo} {extra : List AppInfo} (h : Refusing m p a)
      (hroom : p + segmentsSize (a :: extra) < stop) : Refused m stop p (a :: extra)
  | skip {p : Nat} {a : AppInfo} {extra : List AppInfo} (h : Skipped m p)
      (hrest : Refused m stop (next m p) (a :: extra)) : Refused m stop p (a :: extra)
  | fits {p : Nat} {a : AppInfo} {extra : List AppInfo} (h : Fits m p a)
      (hsame : m.read (p + 4) a.dataSize = a.appData)
      (hrest : Refused m stop (next m p) extra) : Refused m stop p (a :: extra)

section Streams

variable {m m' : Mem} {start stop p len : Nat} {a : AppInfo} {extra : List AppInfo}

/-- A marker is of one of the three kinds. -/
theorem kinds (hmark : m p = 0xFF) (a : AppInfo) : Skipped m p ∨ Fits m p a ∨ Refusing m p a := by
  by_cases hsos : m (p + 1) = 0xDA
  · exact .inr (.inr ⟨hmark, .inl hsos⟩)
  by_cases heoi : m (p + 1) = 0xD9
  · exact .inr (.inr ⟨hmark, .inr (.inl heoi)⟩)
  by_cases hextra : IsExtraMarker (m (p + 1))
  · by_cases hid : ((m (p + 1) &&& 0xF).toNat : Int) = a.appid
    · by_cases hroom : a.dataSize + 2 ≤ getSegLen m (p + 2)
      · exact .inr (.inl ⟨hmark, hextra, hid, hroom⟩)
      · exact .inr (.inr ⟨hmark, .inr (.inr ⟨hextra, .inr (Nat.lt_of_not_le hroom)⟩)⟩)
    · exact .inr (.inr ⟨hmark, .inr (.inr ⟨hextra, .inl hid⟩)⟩)
  · exact .inl ⟨hmark, hsos, heoi, hextra⟩

/-- The markers of the extra segments are not those of the end. -/
theorem not_end_of_extra {marker : UInt8} (h : IsExtraMarker marker) :
    ¬ (marker = 0xDA ∨ marker = 0xD9) := by
  rintro (rfl | rfl)
  · exact absurd h (by decide)
  · exact absurd h (by decide)

theorem Fits.next_eq (h : Fits m p a) : next m p = p + 2 + getSegLen m (p + 2) := by
  have hroom := h.room
  unfold next
  omega

theorem lt_next (m : Mem) (p : Nat) : p + 3 ≤ next m p := by
  unfold next
  omega

/-- Room behind a segment is room from its start. -/
theorem room_of_next (hrest : next m p + segmentsSize extra < stop) :
    p + segmentsSize extra < stop := by
  have hlt := lt_next m p
  omega

theorem Fits.room_cons (h : Fits m p a) (hrest : next m p + segmentsSize extra < stop) :
    p + segmentsSize (a :: extra) < stop := by
  have hnext := h.next_eq
  have hroom := h.room
  rw [segmentsSize_cons]
  omega

theorem Complete.lt_stop (h : Complete m stop p extra) : p + segmentsSize extra < stop := by
  induction h with
  | done h => exact h
  | skip h hrest ih => exact room_of_next ih
  | fits h hrest ih => exact h.room_cons ih

theorem Refused.lt_stop (h : Refused m stop p extra) : p + segmentsSize extra < stop := by
  induction h with
  | refuse h hroom => exact hroom
  | skip h hrest ih => exact room_of_next ih
  | fits h hsame hrest ih => exact h.room_cons ih

end Streams

/-! ### One round of the loop -/

/-- The loop with the length that the missing segments take. -/
def scan (m : Mem) (p len : Nat) (extra : List AppInfo) : Outcome :=
  trace m p len (segmentsSize extra) extra

section Rounds

variable {m : Mem} {p len : Nat} {a : AppInfo} {extra : List AppInfo}

/-- The first byte of a marker is read in any case. -/
theorem head_read (m : Mem) (p len : Nat) (extra : List AppInfo) :
    p ∈ (scan m p len extra).reads := by
  unfold scan trace
  split
  · exact List.mem_cons_self
  · dsimp only
    split
    · exact List.mem_cons_self
    · split
      · cases extra with
        | nil => exact List.mem_cons_self
        | cons a extra =>
            dsimp only
            split
            · exact List.mem_cons_self
            · split
              · exact List.mem_cons_self
              · exact List.mem_cons_self
      · exact List.mem_cons_self

theorem scan_nil : scan m p len [] = ⟨true, m, [p], []⟩ := by
  unfold scan trace
  exact if_pos (.inr (.inl rfl))

/-- The loop ends without a word. -/
theorem scan_end (h : m p ≠ 0xFF ∨ len ≤ segmentsSize extra) :
    scan m p len extra = ⟨true, m, [p], []⟩ := by
  unfold scan trace
  rcases h with hmark | hlen
  · exact if_pos (.inl hmark)
  · exact if_pos (.inr (.inr hlen))

theorem goes_on (hmark : m p = 0xFF) (hlen : segmentsSize (a :: extra) < len) :
    ¬ (m p ≠ 0xFF ∨ segmentsSize (a :: extra) = 0 ∨ len ≤ segmentsSize (a :: extra)) := by
  have hpos : 0 < segmentsSize (a :: extra) := segmentsSize_pos
  rintro (hne | hzero | hle)
  · exact hne hmark
  · omega
  · omega

theorem scan_refusing (h : Refusing m p a) (hlen : segmentsSize (a :: extra) < len) :
    ∃ reads, scan m p len (a :: extra) = ⟨false, m, reads, []⟩ ∧
      ∀ x ∈ reads, p ≤ x ∧ x < p + 4 := by
  have htwo : ∀ x ∈ [p, p + 1], p ≤ x ∧ x < p + 4 := by
    intro x hx
    simp only [List.mem_cons, List.not_mem_nil, or_false] at hx
    omega
  have hfour : ∀ x ∈ [p, p + 1, p + 2, p + 3], p ≤ x ∧ x < p + 4 := by
    intro x hx
    simp only [List.mem_cons, List.not_mem_nil, or_false] at hx
    omega
  unfold scan trace
  rw [if_neg (goes_on h.mark hlen)]
  dsimp only
  by_cases hend : m (p + 1) = 0xDA ∨ m (p + 1) = 0xD9
  · rw [if_pos hend]
    exact ⟨_, rfl, htwo⟩
  · rw [if_neg hend]
    rcases h.why with hsos | heoi | ⟨hextra, hwhy⟩
    · exact absurd (.inl hsos) hend
    · exact absurd (.inr heoi) hend
    · rw [if_pos hextra]
      by_cases hid : ((m (p + 1) &&& 0xF).toNat : Int) = a.appid
      · have hshort := hwhy.resolve_left (not_not_intro hid)
        rw [if_neg (not_not_intro hid), if_pos (by rw [JPEG_SEGMENT_LENFIELD_SIZE]; exact hshort)]
        exact ⟨_, rfl, hfour⟩
      · rw [if_pos hid]
        exact ⟨_, rfl, htwo⟩

theorem scan_skipped (h : Skipped m p) (hlen : segmentsSize (a :: extra) < len) :
    scan m p len (a :: extra) =
      (scan m (p + 2 + min (max 1 (getSegLen m (p + 2))) (len - 2))
        (len - 2 - min (max 1 (getSegLen m (p + 2))) (len - 2)) (a :: extra)).after
        [p, p + 1, p + 2, p + 3] [] := by
  have hmax : (if getSegLen m (p + 2) = 0 then 1 else getSegLen m (p + 2)) =
      max 1 (getSegLen m (p + 2)) := by
    split <;> omega
  unfold scan
  rw [trace, if_neg (goes_on h.mark hlen), if_neg (not_or.mpr ⟨h.sos, h.eoi⟩)]
  dsimp only
  rw [if_neg h.other, hmax]

theorem scan_fits (h : Fits m p a) (hlen : segmentsSize (a :: extra) < len)
    (hlt : len < 2 ^ 64) :
    scan m p len (a :: extra) =
      (scan (m.write (p + 4) a.appData) (next m p) (sizeSub (len - 2) (getSegLen m (p + 2)))
        extra).after [p, p + 1, p + 2, p + 3] [(p + 4, a)] := by
  have hroom : ¬ getSegLen m (p + 2) < a.dataSize + JPEG_SEGMENT_LENFIELD_SIZE :=
    Nat.not_lt.mpr h.room
  have hvalid : sizeSub (segmentsSize (a :: extra))
      (a.dataSize + JPEG_MARKER_SIZE + JPEG_SEGMENT_LENFIELD_SIZE) = segmentsSize extra := by
    rw [segmentsSize_cons] at hlen ⊢
    unfold sizeSub JPEG_MARKER_SIZE JPEG_SEGMENT_LENFIELD_SIZE
    omega
  unfold scan
  rw [trace, if_neg (goes_on h.mark hlen), if_neg (not_end_of_extra h.extra)]
  dsimp only
  rw [if_pos h.extra, if_neg (not_not_intro h.id), if_neg hroom, hvalid, h.next_eq]
  rfl

end Rounds

/-! ### Whole runs -/

/-- The memory is as the stream was from `p` on. -/
def AgreesFrom (m0 m : Mem) (p : Nat) : Prop := ∀ x, p ≤ x → m x = m0 x

section Runs

variable {m0 m : Mem} {start stop p len : Nat} {a : AppInfo} {extra : List AppInfo}

theorem AgreesFrom.symm (h : AgreesFrom m0 m p) : AgreesFrom m m0 p := fun x hx => (h x hx).symm

theorem AgreesFrom.mono {q : Nat} (h : AgreesFrom m0 m p) (hle : p ≤ q) : AgreesFrom m0 m q :=
  fun x hx => h x (Nat.le_trans hle hx)

theorem AgreesFrom.getSegLen (h : AgreesFrom m0 m p) : getSegLen m (p + 2) = getSegLen m0 (p + 2) :=
  congrArg ofBe (Mem.read_congr fun x hx _ => h x (by omega))

theorem AgreesFrom.next (h : AgreesFrom m0 m p) : next m p = next m0 p := by
  unfold SegmentUpdate.next
  rw [h.getSegLen]

/-- The copy into a segment leaves what comes behind the segment. -/
theorem AgreesFrom.write (h : AgreesFrom m0 m p) (hfits : Fits m p a) :
    AgreesFrom m0 (m.write (p + 4) a.appData) (SegmentUpdate.next m p) := by
  intro x hx
  have hnext := hfits.next_eq
  have hroom := hfits.room
  have habove : m.write (p + 4) a.appData x = m x := by
    apply Mem.write_above
    have hsize : a.appData.length = a.dataSize := rfl
    omega
  exact habove.trans (h x (by omega))

theorem Skipped.congr (h : Skipped m0 p) (hag : AgreesFrom m0 m p) : Skipped m p := by
  have h0 : m p = m0 p := hag p (Nat.le_refl p)
  have h1 : m (p + 1) = m0 (p + 1) := hag (p + 1) (Nat.le_succ p)
  constructor
  · rw [h0]
    exact h.mark
  · rw [h1]
    exact h.sos
  · rw [h1]
    exact h.eoi
  · rw [h1]
    exact h.other

theorem Fits.congr (h : Fits m0 p a) (hag : AgreesFrom m0 m p) : Fits m p a := by
  have h0 : m p = m0 p := hag p (Nat.le_refl p)
  have h1 : m (p + 1) = m0 (p + 1) := hag (p + 1) (Nat.le_succ p)
  constructor
  · rw [h0]
    exact h.mark
  · rw [h1]
    exact h.extra
  · rw [h1]
    exact h.id
  · rw [hag.getSegLen]
    exact h.room

theorem Refusing.congr (h : Refusing m0 p a) (hag : AgreesFrom m0 m p) : Refusing m p a := by
  have h0 : m p = m0 p := hag p (Nat.le_refl p)
  have h1 : m (p + 1) = m0 (p + 1) := hag (p + 1) (Nat.le_succ p)
  constructor
  · rw [h0]
    exact h.mark
  · rw [h1, hag.getSegLen]
    exact h.why

/-- The round at a segment that is skipped, where the stream goes on behind it. -/
theorem scan_skipped_inside (h : Skipped m p) (hlen : p + segmentsSize (a :: extra) < stop)
    (hnext : next m p < stop) :
    scan m p (stop - p) (a :: extra) =
      (scan m (next m p) (stop - next m p) (a :: extra)).after [p, p + 1, p + 2, p + 3] [] := by
  have hmin : min (max 1 (getSegLen m (p + 2))) (stop - p - 2) =
      max 1 (getSegLen m (p + 2)) := by
    unfold next at hnext
    omega
  rw [scan_skipped h (by omega), hmin]
  unfold next
  rw [show stop - p - 2 - max 1 (getSegLen m (p + 2)) =
    stop - (p + 2 + max 1 (getSegLen m (p + 2))) by omega]

/-- The round at a segment that takes data. -/
theorem scan_fits_inside (h : Fits m p a) (hlen : p + segmentsSize (a :: extra) < stop)
    (hnext : next m p < stop) (hlt : stop - p < 2 ^ 64) :
    scan m p (stop - p) (a :: extra) =
      (scan (m.write (p + 4) a.appData) (next m p) (stop - next m p) extra).after
        [p, p + 1, p + 2, p + 3] [(p + 4, a)] := by
  have hpos := h.next_eq
  have hsub : sizeSub (stop - p - 2) (getSegLen m (p + 2)) = stop - next m p := by
    unfold sizeSub
    omega
  rw [scan_fits h (by omega) hlt, hsub]

/-- What a run from `p` on keeps to. -/
structure KeepsTo (m0 : Mem) (start stop p : Nat) (o : Outcome) : Prop where
  reads : ∀ x ∈ o.reads, p ≤ x ∧ x < stop
  copies : ∀ copy ∈ o.copies, p ≤ copy.1 ∧ Placed m0 start stop copy

/-- One round more. -/
theorem KeepsTo.after {o : Outcome} {copies : List (Nat × AppInfo)} {q : Nat}
    (h : KeepsTo m0 start stop q o) (hle : p ≤ q) (hroom : p + 4 < stop)
    (hcopies : ∀ copy ∈ copies, p ≤ copy.1 ∧ Placed m0 start stop copy) :
    KeepsTo m0 start stop p (o.after [p, p + 1, p + 2, p + 3] copies) := by
  constructor
  · intro x hx
    rcases List.mem_append.mp hx with hx | hx
    · simp only [List.mem_cons, List.not_mem_nil, or_false] at hx
      omega
    · obtain ⟨hlo, hhi⟩ := h.reads x hx
      exact ⟨Nat.le_trans hle hlo, hhi⟩
  · intro copy hcopy
    rcases List.mem_append.mp hcopy with hcopy | hcopy
    · exact hcopies copy hcopy
    · obtain ⟨hlo, hplaced⟩ := h.copies copy hcopy
      exact ⟨Nat.le_trans hle hlo, hplaced⟩

theorem Fits.placed (h : Fits m0 p a) (hreach : Reached m0 start p) (hnext : next m0 p < stop) :
    Placed m0 start stop (p + 4, a) := by
  have hpos := h.next_eq
  have hroom := h.room
  refine ⟨p, ⟨hreach, h.mark, h.extra.1, h.id, by omega⟩, ?_, ?_⟩
  · exact Nat.le_refl (p + 4)
  · show p + 4 + a.dataSize ≤ p + 2 + getSegLen m0 (p + 2)
    omega

theorem segmentsSize_cons_ge : a.dataSize + 4 ≤ segmentsSize (a :: extra) := by
  rw [segmentsSize_cons]
  omega

/-- **On a complete stream everything is copied.** -/
theorem Complete.run (h : Complete m0 stop p extra) (hag : AgreesFrom m0 m p)
    (hreach : Reached m0 start p) (hlt : stop - p < 2 ^ 64) :
    (scan m p (stop - p) extra).ok = true ∧
      (scan m p (stop - p) extra).copies.map Prod.snd = extra ∧
      KeepsTo m0 start stop p (scan m p (stop - p) extra) := by
  induction h generalizing m with
  | @done p h =>
      rw [scan_nil]
      refine ⟨rfl, rfl, ?_, ?_⟩
      · intro x hx
        obtain rfl := List.mem_singleton.mp hx
        exact ⟨Nat.le_refl x, h⟩
      · exact fun copy hcopy => absurd hcopy List.not_mem_nil
  | @skip p a extra h hrest ih =>
      have hwhole := (Complete.skip h hrest).lt_stop
      have hsize : a.dataSize + 4 ≤ segmentsSize (a :: extra) := segmentsSize_cons_ge
      have hnext : next m0 p < stop := Nat.lt_of_le_of_lt (Nat.le_add_right _ _) hrest.lt_stop
      have hlo := lt_next m0 p
      obtain ⟨hok, hcopied, hkeeps⟩ :=
        ih (hag.mono (by omega)) (hreach.next h.mark) (by omega)
      rw [scan_skipped_inside (h.congr hag) hwhole (by rw [hag.next]; exact hnext), hag.next]
      refine ⟨hok, hcopied, hkeeps.after (by omega) (by omega) ?_⟩
      exact fun copy hcopy => absurd hcopy List.not_mem_nil
  | @fits p a extra h hrest ih =>
      have hwhole := (Complete.fits h hrest).lt_stop
      have hnext : next m0 p < stop := Nat.lt_of_le_of_lt (Nat.le_add_right _ _) hrest.lt_stop
      have hlo := lt_next m0 p
      have hag' := hag.write (h.congr hag)
      rw [hag.next] at hag'
      obtain ⟨hok, hcopied, hkeeps⟩ := ih hag' (hreach.next h.mark) (by omega)
      rw [scan_fits_inside (h.congr hag) hwhole (by rw [hag.next]; exact hnext) hlt, hag.next]
      refine ⟨hok, congrArg (List.cons a) hcopied, hkeeps.after (by omega) ?_ ?_⟩
      · have hroom := h.room
        have hpos := h.next_eq
        omega
      · intro copy hcopy
        obtain rfl := List.mem_singleton.mp hcopy
        exact ⟨Nat.le_add_right p 4, h.placed hreach hnext⟩

/-- **On a refused stream nothing is changed.** -/
theorem Refused.run (h : Refused m0 stop p extra) (hag : AgreesFrom m0 m p)
    (hreach : Reached m0 start p) (hlt : stop - p < 2 ^ 64) :
    (scan m p (stop - p) extra).ok = false ∧
      (scan m p (stop - p) extra).mem = m ∧
      KeepsTo m0 start stop p (scan m p (stop - p) extra) := by
  induction h generalizing m with
  | @refuse p a extra h hroom =>
      have hsize : a.dataSize + 4 ≤ segmentsSize (a :: extra) := segmentsSize_cons_ge
      have hlen : segmentsSize (a :: extra) < stop - p := by omega
      obtain ⟨reads, hscan, hreads⟩ := scan_refusing (h.congr hag) hlen
      rw [hscan]
      refine ⟨rfl, rfl, ?_, ?_⟩
      · intro x hx
        obtain ⟨hlo, hhi⟩ := hreads x hx
        exact ⟨hlo, by omega⟩
      · exact fun copy hcopy => absurd hcopy List.not_mem_nil
  | @skip p a extra h hrest ih =>
      have hwhole := (Refused.skip h hrest).lt_stop
      have hsize : a.dataSize + 4 ≤ segmentsSize (a :: extra) := segmentsSize_cons_ge
      have hnext : next m0 p < stop := Nat.lt_of_le_of_lt (Nat.le_add_right _ _) hrest.lt_stop
      have hlo := lt_next m0 p
      obtain ⟨hok, hmem, hkeeps⟩ := ih (hag.mono (by omega)) (hreach.next h.mark) (by omega)
      rw [scan_skipped_inside (h.congr hag) hwhole (by rw [hag.next]; exact hnext), hag.next]
      refine ⟨hok, hmem, hkeeps.after (by omega) (by omega) ?_⟩
      exact fun copy hcopy => absurd hcopy List.not_mem_nil
  | @fits p a extra h hsame hrest ih =>
      have hwhole := (Refused.fits h hsame hrest).lt_stop
      have hsize : a.dataSize + 4 ≤ segmentsSize (a :: extra) := segmentsSize_cons_ge
      have hnext : next m0 p < stop := Nat.lt_of_le_of_lt (Nat.le_add_right _ _) hrest.lt_stop
      have hlo := lt_next m0 p
      have hag' := hag.write (h.congr hag)
      rw [hag.next] at hag'
      obtain ⟨hok, hmem, hkeeps⟩ := ih hag' (hreach.next h.mark) (by omega)
      -- the data that is copied is there already
      have hback : m.write (p + 4) a.appData = m := by
        have hread : m.read (p + 4) a.dataSize = a.appData :=
          (Mem.read_congr fun x hx _ => hag x (by omega)).trans hsame
        rw [← hread]
        exact Mem.write_read
      rw [scan_fits_inside (h.congr hag) hwhole (by rw [hag.next]; exact hnext) hlt, hag.next]
      refine ⟨hok, hmem.trans hback, hkeeps.after (by omega) (by omega) ?_⟩
      intro copy hcopy
      obtain rfl := List.mem_singleton.mp hcopy
      exact ⟨Nat.le_add_right p 4, h.placed hreach hnext⟩

/-- **There are no other streams** on which the loop does what it should. -/
theorem complete_or_refused (hag : AgreesFrom m0 m p) (hlt : stop - p < 2 ^ 64)
    (hreads : ∀ x ∈ (scan m p (stop - p) extra).reads, x < stop)
    (hfound : (scan m p (stop - p) extra).ok = true →
      extra.Subperm ((scan m p (stop - p) extra).copies.map Prod.snd))
    (hsame : (scan m p (stop - p) extra).ok = false →
      ∀ x, p ≤ x → x < stop → (scan m p (stop - p) extra).mem x = m x) :
    Complete m0 stop p extra ∨ Refused m0 stop p extra := by
  induction hn : stop - p using Nat.strongRecOn generalizing m p extra with
  | ind n ih =>
  have hp : p < stop := hreads p (head_read m p (stop - p) extra)
  cases extra with
  | nil => exact .inl (.done hp)
  | cons a extra =>
      have hsize : a.dataSize + 4 ≤ segmentsSize (a :: extra) := segmentsSize_cons_ge
      by_cases hgo : m p = 0xFF ∧ segmentsSize (a :: extra) < stop - p
      · obtain ⟨hmark, hlen⟩ := hgo
        rcases kinds hmark a with h | h | h
        · -- the clamped length shows in the next byte that is read
          rw [scan_skipped h hlen] at hreads hfound hsame
          have hnext : next m p < stop := by
            have hread := hreads _ (List.mem_append_right _ (head_read _ _ _ _))
            unfold next
            omega
          rw [← scan_skipped h hlen, scan_skipped_inside h (by omega) hnext]
            at hreads hfound hsame
          have hlo := lt_next m p
          have hrest := ih (stop - next m p) (by omega) (hag.mono (by omega)) (by omega)
            (fun x hx => hreads x (List.mem_append_right _ hx)) hfound
            (fun hno x hx => hsame hno x (by omega)) rfl
          rw [hag.next] at hrest
          rcases hrest with hcomplete | hrefused
          · exact .inl (.skip (h.congr hag.symm) hcomplete)
          · exact .inr (.skip (h.congr hag.symm) hrefused)
        · rw [scan_fits h hlen hlt] at hreads hfound hsame
          have hnext : next m p < stop :=
            hreads _ (List.mem_append_right _ (head_read _ _ _ _))
          rw [← scan_fits h hlen hlt, scan_fits_inside h (by omega) hnext hlt]
            at hreads hfound hsame
          have hlo := lt_next m p
          have hpos := h.next_eq
          have hroom := h.room
          have hag' := hag.write h
          have hrest := ih (stop - next m p) (by omega) hag' (by omega)
            (fun x hx => hreads x (List.mem_append_right _ hx))
            (fun hyes => (List.subperm_cons a).mp (hfound hyes)) ?_ rfl
          · rw [hag.next] at hrest
            rcases hrest with hcomplete | hrefused
            · exact .inl (.fits (h.congr hag.symm) hcomplete)
            · refine .inr (.fits (h.congr hag.symm) ?_ hrefused)
              -- a refused rest shows the copy, which was to change nothing
              rw [← hag.next] at hrefused
              obtain ⟨hno, hmem, -⟩ := hrefused.run hag' (Reached.start) (by omega)
              have hkept : ∀ x, p + 4 ≤ x → x < p + 4 + a.dataSize →
                  m.write (p + 4) a.appData x = m0 x := by
                intro x hx hxn
                have hx' := hsame hno x (by omega) (by omega)
                rw [show (Outcome.after _ _ _).mem = _ from hmem] at hx'
                exact hx'.trans (hag x (by omega))
              exact (Mem.read_congr hkept).symm.trans Mem.read_write
          · intro hno x hx hxn
            have habove : m.write (p + 4) a.appData x = m x := by
              apply Mem.write_above
              have hlength : a.appData.length = a.dataSize := rfl
              omega
            exact (hsame hno x (by omega) hxn).trans habove.symm
        · exact .inr (.refuse (h.congr hag.symm) (by omega))
      · have hend : m p ≠ 0xFF ∨ stop - p ≤ segmentsSize (a :: extra) := by
          by_cases hmark : m p = 0xFF
          · exact .inr (Nat.le_of_not_lt fun hlen => hgo ⟨hmark, hlen⟩)
          · exact .inl hmark
        rw [scan_end hend] at hfound
        exact absurd (hfound rfl).length_le (Nat.not_succ_le_zero _)

end Runs

/-! ### The function -/

/-- The condition on the input: the function stops before the loop, or all the segments
    to store are valid and the stream is one of the two kinds, or none is valid and the
    stream has a byte behind SOI. -/
def Call.Updatable (c : Call) : Prop :=
  match c.extra with
  | none => True
  | some extra =>
      c.jpeglen < getExtraAPPSize extra + JPEG_MARKER_SIZE ∨ c.mem c.jpeg ≠ 0xFF ∨
      c.mem (c.jpeg + 1) ≠ 0xD8 ∨
      if extra.all AppInfo.isValid then
        Complete c.mem c.stop (c.jpeg + 2) extra ∨ Refused c.mem c.stop (c.jpeg + 2) extra
      else 2 < c.jpeglen ∧ ∀ a ∈ extra, a.isValid = false

namespace Call

variable {c : Call} {extra : List AppInfo}

theorem Safe.of_run (hreads : ∀ x ∈ c.run.reads, c.jpeg ≤ x ∧ x < c.stop)
    (hcopies : ∀ copy ∈ c.run.copies, c.jpeg + 2 ≤ copy.1 ∧
      Placed c.mem (c.jpeg + 2) c.stop copy)
    (hfound : c.run.ok = true →
      ((c.extra.getD []).filter AppInfo.isValid).Subperm (c.run.copies.map Prod.snd))
    (hsame : c.run.ok = false → c.run.mem = c.mem) : c.Safe where
  reads := hreads
  writes := by
    intro copy hcopy
    obtain ⟨hlo, p, hsegment, -, hend⟩ := hcopies copy hcopy
    exact ⟨by omega, Nat.le_trans hend hsegment.inside⟩
  placed := fun copy hcopy => (hcopies copy hcopy).2
  found := hfound
  unchanged := by
    intro hno x _ _
    rw [hsame hno]

/-- A call that ends before the loop with `false`. -/
theorem safe_of_early (reads : List Nat) (hrun : c.run = ⟨false, c.mem, reads, []⟩)
    (hreads : ∀ x ∈ reads, c.jpeg ≤ x ∧ x < c.stop) : c.Safe := by
  apply Safe.of_run
  · rw [hrun]
    exact hreads
  · rw [hrun]
    exact fun copy hcopy => absurd hcopy List.not_mem_nil
  · rw [hrun]
    exact fun hyes => absurd hyes Bool.false_ne_true
  · rw [hrun]
    exact fun _ => rfl

/-- The loop behind SOI. -/
theorem run_loop (hextra : c.extra = some extra)
    (hlen : ¬ c.jpeglen < getExtraAPPSize extra + JPEG_MARKER_SIZE)
    (hff : c.mem c.jpeg = 0xFF) (hd8 : c.mem (c.jpeg + 1) = 0xD8) :
    c.run = (trace c.mem (c.jpeg + 2) (c.jpeglen - 2) (getExtraAPPSize extra) extra).after
      [c.jpeg, c.jpeg + 1] [] := by
  unfold run
  rw [hextra]
  dsimp only
  rw [if_neg hlen, if_neg (not_not_intro hff), if_neg (not_not_intro hd8)]

theorem soi_reads (hlen : 2 ≤ c.jpeglen) : ∀ x ∈ [c.jpeg, c.jpeg + 1], c.jpeg ≤ x ∧ x < c.stop := by
  intro x hx
  simp only [List.mem_cons, List.not_mem_nil, or_false] at hx
  unfold stop
  omega

/-- With all segments valid. -/
theorem safe_iff_valid (hextra : c.extra = some extra)
    (hlen : ¬ c.jpeglen < getExtraAPPSize extra + JPEG_MARKER_SIZE)
    (hff : c.mem c.jpeg = 0xFF) (hd8 : c.mem (c.jpeg + 1) = 0xD8)
    (hvalid : extra.all AppInfo.isValid = true) :
    c.Safe ↔ Complete c.mem c.stop (c.jpeg + 2) extra ∨
      Refused c.mem c.stop (c.jpeg + 2) extra := by
  have hsize : getExtraAPPSize extra = segmentsSize extra := if_pos hvalid
  have hfilter : extra.filter AppInfo.isValid = extra :=
    List.filter_eq_self.mpr (List.all_eq_true.mp hvalid)
  have htwo : 2 ≤ c.jpeglen := by
    rw [JPEG_MARKER_SIZE] at hlen
    omega
  have hlt := c.jpeglen_lt
  have hrest : c.jpeglen - 2 = c.stop - (c.jpeg + 2) := by
    unfold stop
    omega
  have hspace : c.stop - (c.jpeg + 2) < 2 ^ 64 := by omega
  have hrun := run_loop hextra hlen hff hd8
  rw [hsize, hrest] at hrun
  change c.run = (scan c.mem (c.jpeg + 2) (c.stop - (c.jpeg + 2)) extra).after
    [c.jpeg, c.jpeg + 1] [] at hrun
  have hag : AgreesFrom c.mem c.mem (c.jpeg + 2) := fun _ _ => rfl
  constructor
  · intro hsafe
    have hreads := hsafe.reads
    have hfound := hsafe.found
    have hsame := hsafe.unchanged
    rw [hextra, Option.getD_some, hfilter] at hfound
    rw [hrun] at hreads hfound hsame
    apply complete_or_refused hag hspace
    · exact fun x hx => (hreads x (List.mem_append_right _ hx)).2
    · exact hfound
    · exact fun hno x hx hxn => hsame hno x (by omega) hxn
  · have hkept : ∀ o, KeepsTo c.mem (c.jpeg + 2) c.stop (c.jpeg + 2) o →
        ∀ x ∈ (o.after [c.jpeg, c.jpeg + 1] []).reads, c.jpeg ≤ x ∧ x < c.stop := by
      intro o ho x hx
      rcases List.mem_append.mp hx with hx | hx
      · exact soi_reads htwo x hx
      · obtain ⟨hlo, hhi⟩ := ho.reads x hx
        exact ⟨by omega, hhi⟩
    rintro (hcomplete | hrefused)
    · obtain ⟨hok, hcopied, hkeeps⟩ := hcomplete.run hag .start hspace
      apply Safe.of_run
      · rw [hrun]
        exact hkept _ hkeeps
      · rw [hrun]
        exact hkeeps.copies
      · intro _
        rw [hrun, hextra, Option.getD_some, hfilter]
        show extra.Subperm
          ((scan c.mem (c.jpeg + 2) (c.stop - (c.jpeg + 2)) extra).copies.map Prod.snd)
        rw [hcopied]
      · rw [hrun]
        exact fun hno => absurd (hok.symm.trans hno) (Bool.noConfusion)
    · obtain ⟨hok, hmem, hkeeps⟩ := hrefused.run hag .start hspace
      apply Safe.of_run
      · rw [hrun]
        exact hkept _ hkeeps
      · rw [hrun]
        exact hkeeps.copies
      · rw [hrun]
        exact fun hyes => absurd (hok.symm.trans hyes) (Bool.noConfusion)
      · rw [hrun]
        exact fun _ => hmem

/-- With one that is not valid the loop is left at once, and the result is `true`. -/
theorem safe_iff_invalid (hextra : c.extra = some extra)
    (hlen : ¬ c.jpeglen < getExtraAPPSize extra + JPEG_MARKER_SIZE)
    (hff : c.mem c.jpeg = 0xFF) (hd8 : c.mem (c.jpeg + 1) = 0xD8)
    (hvalid : extra.all AppInfo.isValid = false) :
    c.Safe ↔ 2 < c.jpeglen ∧ ∀ a ∈ extra, a.isValid = false := by
  have hsize : getExtraAPPSize extra = 0 := if_neg (by rw [hvalid]; exact Bool.false_ne_true)
  have htwo : 2 ≤ c.jpeglen := by
    rw [JPEG_MARKER_SIZE] at hlen
    omega
  have hrun : c.run = ⟨true, c.mem, [c.jpeg, c.jpeg + 1, c.jpeg + 2], []⟩ := by
    rw [run_loop hextra hlen hff hd8, hsize, trace, if_pos (.inr (.inl rfl))]
    rfl
  constructor
  · intro hsafe
    have hreads := hsafe.reads
    have hfound := hsafe.found
    rw [hextra, Option.getD_some] at hfound
    rw [hrun] at hreads hfound
    have hbyte := (hreads (c.jpeg + 2) (by simp)).2
    refine ⟨by unfold stop at hbyte; omega, ?_⟩
    intro a ha
    have hnone := List.eq_nil_of_length_eq_zero (Nat.le_zero.mp (hfound rfl).length_le)
    exact Bool.eq_false_iff.mpr (List.filter_eq_nil_iff.mp hnone a ha)
  · rintro ⟨hthree, hnone⟩
    apply Safe.of_run
    · rw [hrun]
      intro x hx
      simp only [List.mem_cons, List.not_mem_nil, or_false] at hx
      unfold stop
      omega
    · rw [hrun]
      exact fun copy hcopy => absurd hcopy List.not_mem_nil
    · intro _
      rw [hextra, Option.getD_some, List.filter_eq_nil_iff.mpr fun a ha => by
        rw [hnone a ha]
        exact Bool.false_ne_true]
      exact List.nil_subperm
    · rw [hrun]
      exact fun hno => absurd hno.symm Bool.false_ne_true

end Call

/-- **`UpdateDebugData` stays in the stream, in the payloads and with all or nothing**
    just for the calls that are `Updatable`. -/
theorem updateDebugData_safe_iff (c : Call) : c.Safe ↔ c.Updatable := by
  unfold Call.Updatable
  cases hextra : c.extra with
  | none =>
      have hrun : c.run = ⟨true, c.mem, [], []⟩ := by
        unfold Call.run
        rw [hextra]
      refine iff_of_true (.of_run ?_ ?_ ?_ ?_) trivial
      · rw [hrun]
        exact fun x hx => absurd hx List.not_mem_nil
      · rw [hrun]
        exact fun copy hcopy => absurd hcopy List.not_mem_nil
      · rw [hextra]
        exact fun _ => List.nil_subperm
      · rw [hrun]
        exact fun _ => rfl
  | some extra =>
      dsimp only
      by_cases hlen : c.jpeglen < getExtraAPPSize extra + JPEG_MARKER_SIZE
      · refine iff_of_true (Call.safe_of_early [] ?_ ?_) (.inl hlen)
        · unfold Call.run
          rw [hextra]
          exact if_pos hlen
        · exact fun x hx => absurd hx List.not_mem_nil
      have htwo : 2 ≤ c.jpeglen := by
        rw [JPEG_MARKER_SIZE] at hlen
        omega
      by_cases hff : c.mem c.jpeg = 0xFF
      · by_cases hd8 : c.mem (c.jpeg + 1) = 0xD8
        · cases hvalid : extra.all AppInfo.isValid with
          | true =>
              rw [Call.safe_iff_valid hextra hlen hff hd8 hvalid, if_pos rfl]
              exact ⟨fun h => .inr (.inr (.inr h)), fun h => ((h.resolve_left hlen).resolve_left
                (not_not_intro hff)).resolve_left (not_not_intro hd8)⟩
          | false =>
              rw [Call.safe_iff_invalid hextra hlen hff hd8 hvalid, if_neg Bool.false_ne_true]
              exact ⟨fun h => .inr (.inr (.inr h)), fun h => ((h.resolve_left hlen).resolve_left
                (not_not_intro hff)).resolve_left (not_not_intro hd8)⟩
        · refine iff_of_true (Call.safe_of_early [c.jpeg, c.jpeg + 1] ?_ (Call.soi_reads htwo))
            (.inr (.inr (.inl hd8)))
          unfold Call.run
          rw [hextra]
          dsimp only
          rw [if_neg hlen, if_neg (not_not_intro hff), if_pos hd8]
      · refine iff_of_true (Call.safe_of_early [c.jpeg] ?_ ?_) (.inr (.inl hff))
        · unfold Call.run
          rw [hextra]
          dsimp only
          rw [if_neg hlen, if_pos hff]
        · exact fun x hx => Call.soi_reads htwo x (by
            rw [List.mem_singleton.mp hx]
            exact List.mem_cons_self)

/-- SOI, an APP2 with one byte of data, SOS with its header, two bytes and EOI. -/
def oneSegmentStream : List UInt8 :=
  [0xFF, 0xD8, 0xFF, 0xE2, 0, 3, 0, 0xFF, 0xDA, 0, 2, 0, 0, 0xFF, 0xD9]

/-- One byte for APP2 and one for APP3, which the stream does not have. -/
def oneSegmentCall : Call where
  mem := fun x => (oneSegmentStream[x - 4096]?).getD 0
  jpeg := 4096
  jpeglen := 15
  jpeglen_lt := by decide
  extra := some [⟨2, [1]⟩, ⟨3, [1]⟩]

/-- The byte of APP2 is stored before APP3 is missed. -/
theorem one_segment_changed : ¬ oneSegmentCall.Safe := by
  intro hsafe
  have hextra : oneSegmentCall.extra = some [⟨2, [1]⟩, ⟨3, [1]⟩] := rfl
  have hrun : oneSegmentCall.run = (scan oneSegmentCall.mem 4098 (4111 - 4098)
      [⟨2, [1]⟩, ⟨3, [1]⟩]).after [4096, 4097] [] :=
    Call.run_loop hextra (by decide) (by decide) (by decide)
  have hfits : Fits oneSegmentCall.mem 4098 ⟨2, [1]⟩ := by constructor <;> decide
  have hnext : next oneSegmentCall.mem 4098 = 4103 := by decide
  rw [scan_fits_inside hfits (by decide) (by rw [hnext]; decide) (by decide), hnext] at hrun
  have hrefusing : Refusing (oneSegmentCall.mem.write 4102 [1]) 4103 ⟨3, [1]⟩ :=
    ⟨by decide, .inl (by decide)⟩
  have hlen : segmentsSize [⟨3, [1]⟩] < 4111 - 4103 := by decide
  obtain ⟨reads, hscan, -⟩ := scan_refusing hrefusing hlen
  rw [show 4098 + 4 = 4102 from rfl, hscan] at hrun
  have hsame := hsafe.unchanged
  rw [hrun] at hsame
  have hbyte : oneSegmentCall.mem.write 4102 [1] 4102 = oneSegmentCall.mem 4102 :=
    hsame rfl 4102 (by decide) (by decide)
  exact absurd hbyte (by decide)

end ExynosHal.SegmentUpdate
