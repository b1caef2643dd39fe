/-
  ExynosHal/PesStream.lean
  ========================
  **An elementary stream out of its transport stream.**

  `depacketize` of `libtsmux/tsmux_hal.cpp` walks over RTP packets, transport stream packets
  and the one PES packet in them, and copies the elementary stream; `get_rtp_size` is the
  size of what it walks over.  A short transport stream packet is filled by an adaptation
  field in front of its payload.  A PES packet of audio has two stuffing bytes after its
  header, which `depacketize` does not know of.

  A `char` is unsigned, as on ARM; the input is a memory from `packetized_data` on.
-/
import ExynosHal.RtpPackets

namespace ExynosHal.PesStream

open ExynosHal.ByteMemory
open ExynosHal.RtpPackets (breakLoop breakLoop_le breakLoop_rule RTP_HEADER_SIZE TS_PACKET_SIZE
  TS_PKT_COUNT_PER_RTP headers layoutSize tsOffset tsOffset_add layoutSize_lt)

/-! ### The code -/

/-- `((*ts_ptr) >> 4) & 0x3`. -/
def adaptationFieldControl (b : UInt8) : UInt8 := (b >>> 4) &&& 3

def PES_HEADER_SIZE : Nat := 14

/-- The pointers and counts of `depacketize`; `out` is what was written so far. -/
structure Parse where
  out : List UInt8
  remain_es_size : Nat
  is_pes_header : Bool
  psi_packet : Nat
  ptr : Nat
  reads : List (Nat × Nat)
deriving DecidableEq, Repr

namespace Parse

variable (m : Mem) (psi : Bool) (s : Parse)

/-- After the header and the length of an adaptation field: `ts_ptr`, the length that is
    skipped later, and the bytes that were looked at. -/
def tsHeader : Nat × Nat × List (Nat × Nat) :=
  if adaptationFieldControl (m (s.ptr + 3)) = 3 then
    (s.ptr + 5, (m (s.ptr + 4)).toNat, [(s.ptr + 3, 1), (s.ptr + 4, 1)])
  else (s.ptr + 4, 0, [(s.ptr + 3, 1)])

def headerSize : Nat := if s.is_pes_header then PES_HEADER_SIZE else 0

def copySize : Nat :=
  if s.remain_es_size ≥ 184 - s.headerSize then 184 - s.headerSize else s.remain_es_size

def copyFrom (es_ptr : Nat) (looked : List (Nat × Nat)) : Parse where
  out := s.out ++ m.read es_ptr s.copySize
  remain_es_size := s.remain_es_size - s.copySize
  is_pes_header := false
  psi_packet := s.psi_packet
  ptr := es_ptr + s.copySize
  reads := s.reads ++ looked ++ [(es_ptr, s.copySize)]

/-- One turn of the inner loop. -/
def readPacket : Parse :=
  let (ts_ptr, adaptation_field_length, looked) := s.tsHeader m
  if psi = true ∧ 0 < s.psi_packet then
    { s with
      ptr := ts_ptr + 184
      psi_packet := s.psi_packet - 1
      reads := s.reads ++ looked }
  else s.copyFrom m (ts_ptr + s.headerSize + adaptation_field_length) looked

/-- The inner loop. -/
def readPackets (n : Nat) : Parse := breakLoop (fun s => s.remain_es_size = 0) (readPacket m psi) n s

def skipHeader : Parse := { s with ptr := s.ptr + RTP_HEADER_SIZE }

/-- What every packet takes away from. -/
def left : Int := s.remain_es_size + s.psi_packet

theorem copySize_eq : s.copySize = min s.remain_es_size (184 - s.headerSize) := by
  unfold copySize
  split
  · omega
  · omega

theorem headerSize_le : s.headerSize ≤ 14 := by
  unfold headerSize PES_HEADER_SIZE
  split
  · exact Nat.le_refl _
  · omega

theorem readPacket_left_le : (s.readPacket m psi).left ≤ s.left := by
  unfold readPacket left
  dsimp only
  split
  · dsimp only
    omega
  · show ((s.remain_es_size - s.copySize : Nat) : Int) + s.psi_packet ≤ _
    omega

theorem readPacket_left_lt (h : 0 < s.remain_es_size) : (s.readPacket m psi).left < s.left := by
  have hcopy := s.copySize_eq
  have hheader := s.headerSize_le
  unfold readPacket left
  dsimp only
  split
  · dsimp only
    omega
  · show ((s.remain_es_size - s.copySize : Nat) : Int) + s.psi_packet < _
    omega

/-- The outer loop. -/
def readRtp (s : Parse) : Parse :=
  if 0 < s.remain_es_size then readRtp (s.skipHeader.readPackets m psi TS_PKT_COUNT_PER_RTP) else s
termination_by s.left.toNat
decreasing_by
  rename_i hpos
  have hfirst := readPacket_left_lt m psi s.skipHeader hpos
  have hloop : (s.skipHeader.readPackets m psi TS_PKT_COUNT_PER_RTP).left ≤
      (s.skipHeader.readPacket m psi).left := by
    unfold readPackets TS_PKT_COUNT_PER_RTP breakLoop
    split
    · exact Int.le_refl _
    · exact breakLoop_le (readPacket_left_le m psi) 6 _
  have hskip : s.skipHeader.left = s.left := rfl
  have hnonneg : 0 ≤ (s.skipHeader.readPackets m psi TS_PKT_COUNT_PER_RTP).left := by
    unfold left
    omega
  omega

end Parse

def depacketize (m : Mem) (es_size : Nat) (psi : Bool) : Parse :=
  Parse.readRtp m psi ⟨[], es_size, true, 3, 0, []⟩

/-- `get_rtp_size`. -/
def get_rtp_size (es_size : Int) (audio psi_enable hdcp_enable : Bool) : Int :=
  let pes_stuffing_num : Int := if audio then 2 else 0
  let len_hdr := 5 + pes_stuffing_num
  let len_pes := es_size + 14 + pes_stuffing_num
  let len_tmp := len_pes - len_hdr - (184 - len_hdr).tdiv 16 * 16
  let len_tmp :=
    if es_size ≤ 184 - len_hdr then 188
    else 188 + len_tmp.tdiv 176 * 188 +
      if len_tmp.tmod 176 > 8 ∨ (len_tmp > 0 ∧ len_tmp ≤ 8) then 188 else 0
  let len_tsp := (if psi_enable then 188 * 3 else 0) +
    if hdcp_enable then len_tmp else (len_pes + 183).tdiv 184 * 188
  (len_tsp + 7 * 188 - 1).tdiv (7 * 188) * 12 + len_tsp

/-! ### The layout -/

/-- A PES packet with its elementary stream. -/
structure Pes where
  header : List UInt8
  audio : Bool
  es : List UInt8
  header_length : header.length = PES_HEADER_SIZE

namespace Pes

variable (p : Pes)

def stuffing : List UInt8 := if p.audio then [0xFF, 0xFF] else []

/-- What follows the header. -/
def content : List UInt8 := p.stuffing ++ p.es

def bytes : List UInt8 := p.header ++ p.content

/-- The payload of the packet `j`. -/
def chunk (j : Nat) : Nat := min 184 (p.bytes.length - 184 * j)

/-- The packets in front of the PES packet. -/
def psiPackets (psi : Bool) : Nat := if psi then 3 else 0

def tsCount (psi : Bool) : Nat := psiPackets psi + (p.bytes.length + 183) / 184

/-- The memory has the PES packet in the payloads of its packets.  A payload ends its
    packet; where it is short, an adaptation field goes before it. -/
structure Layout (m : Mem) (psi : Bool) : Prop where
  tables : ∀ i, i < psiPackets psi → adaptationFieldControl (m (tsOffset i + 3)) ≠ 3
  full : ∀ j, 184 * (j + 1) ≤ p.bytes.length →
    adaptationFieldControl (m (tsOffset (psiPackets psi + j) + 3)) ≠ 3
  short : ∀ j, 184 * j < p.bytes.length → p.bytes.length < 184 * (j + 1) →
    adaptationFieldControl (m (tsOffset (psiPackets psi + j) + 3)) = 3 ∧
      (m (tsOffset (psiPackets psi + j) + 4)).toNat = 183 - p.chunk j
  payload : ∀ j, 184 * j < p.bytes.length →
    m.read (tsOffset (psiPackets psi + j) + TS_PACKET_SIZE - p.chunk j) (p.chunk j) =
      (p.bytes.drop (184 * j)).take (p.chunk j)

/-- The elementary stream comes back, and nothing outside of the layout is read. -/
structure Returns (m : Mem) (psi : Bool) : Prop where
  es : (depacketize m p.es.length psi).out = p.es
  inside : ∀ r ∈ (depacketize m p.es.length psi).reads,
    ((r.1 + r.2 : Nat) : Int) ≤ get_rtp_size p.es.length p.audio psi false

end Pes

/-! ### One packet -/

/-- A part of what is read at once. -/
theorem read_slice (m : Mem) (a d k n : Nat) (h : d + k ≤ n) :
    m.read (a + d) k = ((m.read a n).drop d).take k := by
  obtain ⟨e, rfl⟩ := Nat.exists_eq_add_of_le h
  have hd : (m.read a d).length = d := Mem.read_length
  have hk : (m.read (a + d) k).length = k := Mem.read_length
  rw [Mem.read_add, Mem.read_add, List.append_assoc, List.drop_left' hd, List.take_left' hk]

namespace Pes

variable {p : Pes} {m : Mem} {psi : Bool} {s : Parse}

theorem length_bytes (p : Pes) :
    p.bytes.length = 14 + p.stuffing.length + p.es.length := by
  unfold bytes content
  rw [List.length_append, List.length_append, p.header_length]
  unfold PES_HEADER_SIZE
  omega

theorem content_eq_drop (p : Pes) : p.content = p.bytes.drop 14 := by
  unfold bytes
  exact (List.drop_left' p.header_length).symm

/-- The bytes that have come out after `j` packets of the PES packet. -/
def copied (p : Pes) (j : Nat) : Nat := if j = 0 then 0 else min p.es.length (184 * j - 14)

/-- After the packet `i - 1`, with `h` RTP headers. -/
structure At (p : Pes) (psi : Bool) (h i : Nat) (s : Parse) : Prop where
  out : s.out = p.content.take (p.copied (i - psiPackets psi))
  remain : s.remain_es_size = p.es.length - p.copied (i - psiPackets psi)
  header : s.is_pes_header = decide (i ≤ psiPackets psi)
  tables : psi = true → s.psi_packet = 3 - i
  ptr : s.remain_es_size ≠ 0 → s.ptr = RTP_HEADER_SIZE * h + TS_PACKET_SIZE * i
  inside : ∀ r ∈ s.reads, r.1 + r.2 ≤ layoutSize (p.tsCount psi)

/-- Where the payload of a packet of the PES packet starts. -/
theorem Layout.position (hl : p.Layout m psi) {j : Nat} (hj : 184 * j < p.bytes.length)
    (hptr : s.ptr = tsOffset (psiPackets psi + j)) :
    (s.tsHeader m).1 + (s.tsHeader m).2.1 =
        tsOffset (psiPackets psi + j) + TS_PACKET_SIZE - p.chunk j ∧
      ∀ r ∈ (s.tsHeader m).2.2, r.1 + r.2 ≤ tsOffset (psiPackets psi + j) + 5 := by
  unfold Parse.tsHeader TS_PACKET_SIZE
  rw [hptr]
  rcases Nat.lt_or_ge p.bytes.length (184 * (j + 1)) with hshort | hfull
  · obtain ⟨hcontrol, hlength⟩ := hl.short j hj hshort
    have hchunk : p.chunk j = p.bytes.length - 184 * j := by
      unfold chunk
      omega
    rw [if_pos hcontrol]
    dsimp only
    constructor
    · omega
    · simp only [List.mem_cons, List.not_mem_nil, or_false, forall_eq_or_imp, forall_eq]
      omega
  · have hchunk : p.chunk j = 184 := by
      unfold chunk
      omega
    rw [if_neg (hl.full j hfull)]
    dsimp only
    constructor
    · omega
    · simp only [List.mem_singleton, forall_eq]
      omega

/-- What one packet gives, in numbers. -/
theorem copySize_at {j : Nat} (hremain : s.remain_es_size = p.es.length - p.copied j)
    (hne : s.remain_es_size ≠ 0) (hheader : s.headerSize = if j = 0 then 14 else 0) :
    184 * j < p.bytes.length ∧ 184 * j + s.headerSize = 14 + p.copied j ∧
      s.headerSize + s.copySize ≤ p.chunk j ∧ p.copied j + s.copySize = p.copied (j + 1) ∧
      (s.remain_es_size - s.copySize ≠ 0 → s.headerSize + s.copySize = 184 ∧ p.chunk j = 184) := by
  have hlength := p.length_bytes
  have hcopy := s.copySize_eq
  unfold chunk copied at *
  rcases Nat.eq_zero_or_pos j with rfl | hpos
  · rw [if_pos rfl] at *
    rw [if_neg (by omega)]
    omega
  · rw [if_neg (by omega)] at *
    rw [if_neg (by omega)]
    omega

theorem chunk_le (p : Pes) (j : Nat) : p.chunk j ≤ 184 := Nat.min_le_left _ _

/-- The packets of the PES packet lie in the layout. -/
theorem tsOffset_le (psi : Bool) {j : Nat} (hj : 184 * j < p.bytes.length) :
    tsOffset (psiPackets psi + j) + TS_PACKET_SIZE ≤ layoutSize (p.tsCount psi) := by
  have hcount : psiPackets psi + j + 1 ≤ p.tsCount psi := by
    unfold tsCount
    omega
  rw [tsOffset_add]
  rcases Nat.eq_or_lt_of_le hcount with heq | hlt
  · rw [heq]
  · exact (layoutSize_lt hlt).le

/-- A packet of the PES packet. -/
theorem At.copy (hl : p.Layout m psi) {h j : Nat} (hat : At p psi h (psiPackets psi + j) s)
    (hh : (psiPackets psi + j) / 7 + 1 = h) (hne : s.remain_es_size ≠ 0) :
    At p psi h (psiPackets psi + j + 1)
      (s.copyFrom m ((s.tsHeader m).1 + s.headerSize + (s.tsHeader m).2.1) (s.tsHeader m).2.2) := by
  have hptr : s.ptr = tsOffset (psiPackets psi + j) := by
    rw [hat.ptr hne]
    unfold tsOffset
    rw [hh]
  have hremain := hat.remain
  have hout := hat.out
  rw [Nat.add_sub_cancel_left] at hremain hout
  have hheader : s.headerSize = if j = 0 then 14 else 0 := by
    unfold Parse.headerSize PES_HEADER_SIZE
    rw [hat.header]
    rcases Nat.eq_zero_or_pos j with rfl | hpos
    · simp
    · rw [if_neg (by rw [decide_eq_true_iff]; omega), if_neg (by omega)]
  obtain ⟨hj, hskip, hfits, hcopied, hnext⟩ := copySize_at hremain hne hheader
  obtain ⟨hstart, hlooked⟩ := hl.position hj hptr
  have hchunk := p.chunk_le j
  have hend := tsOffset_le psi hj
  have hes : (s.tsHeader m).1 + s.headerSize + (s.tsHeader m).2.1 =
      tsOffset (psiPackets psi + j) + TS_PACKET_SIZE - p.chunk j + s.headerSize := by omega
  have hdata : m.read (tsOffset (psiPackets psi + j) + TS_PACKET_SIZE - p.chunk j + s.headerSize)
      s.copySize = (p.content.drop (p.copied j)).take s.copySize := by
    rw [read_slice m _ _ _ (p.chunk j) hfits, hl.payload j hj, List.drop_take, List.take_take,
      List.drop_drop, hskip, content_eq_drop, List.drop_drop, Nat.min_eq_left (by omega)]
  have hsucc : psiPackets psi + j + 1 - psiPackets psi = j + 1 := by omega
  have hoffset : tsOffset (psiPackets psi + j) =
      RTP_HEADER_SIZE * h + TS_PACKET_SIZE * (psiPackets psi + j) := by
    unfold tsOffset
    rw [hh]
  rw [hes]
  constructor
  · show s.out ++ m.read _ s.copySize = _
    rw [hdata, hout, hsucc, ← hcopied, List.take_add]
  · show s.remain_es_size - s.copySize = _
    rw [hsucc, ← hcopied, hremain]
    omega
  · exact (decide_eq_false (by omega)).symm
  · rintro rfl
    have hthree : psiPackets true = 3 := rfl
    show s.psi_packet = _
    rw [hat.tables rfl]
    omega
  · intro hmore
    obtain ⟨hall, hfull⟩ := hnext hmore
    show _ + s.headerSize + s.copySize = _
    rw [hoffset, hfull]
    unfold TS_PACKET_SIZE
    omega
  · intro r hr
    have hmem : r ∈ s.reads ++ (s.tsHeader m).2.2 ++ [(_, s.copySize)] := hr
    rw [List.mem_append, List.mem_append, List.mem_singleton] at hmem
    unfold TS_PACKET_SIZE at hend
    rcases hmem with (hold | hlook) | rfl
    · exact hat.inside r hold
    · have := hlooked r hlook
      omega
    · dsimp only
      unfold TS_PACKET_SIZE
      omega

/-- A packet in front of the PES packet. -/
theorem At.table (hl : p.Layout m psi) {h i : Nat} (hat : At p psi h i s)
    (hi : i < psiPackets psi) (hh : i / 7 + 1 = h) (hne : s.remain_es_size ≠ 0)
    (hcount : i + 1 ≤ p.tsCount psi) :
    At p psi h (i + 1)
      { s with
        ptr := (s.tsHeader m).1 + 184
        psi_packet := s.psi_packet - 1
        reads := s.reads ++ (s.tsHeader m).2.2 } := by
  have hptr : s.ptr = tsOffset i := by
    rw [hat.ptr hne]
    unfold tsOffset
    rw [hh]
  have hheader : s.tsHeader m = (tsOffset i + 4, 0, [(tsOffset i + 3, 1)]) := by
    unfold Parse.tsHeader
    rw [hptr, if_neg (hl.tables i hi)]
  have hsame : i + 1 - psiPackets psi = i - psiPackets psi := by omega
  have hend : tsOffset i + TS_PACKET_SIZE ≤ layoutSize (p.tsCount psi) := by
    rw [tsOffset_add]
    rcases Nat.eq_or_lt_of_le hcount with heq | hlt
    · rw [heq]
    · exact (layoutSize_lt hlt).le
  rw [hheader]
  constructor
  · rw [hsame]
    exact hat.out
  · rw [hsame]
    exact hat.remain
  · show s.is_pes_header = _
    rw [hat.header, decide_eq_true (by omega), decide_eq_true (by omega)]
  · rintro rfl
    show s.psi_packet - 1 = _
    rw [hat.tables rfl]
    omega
  · intro _
    show tsOffset i + 4 + 184 = _
    unfold tsOffset
    rw [hh]
    unfold TS_PACKET_SIZE
    omega
  · intro r hr
    have hmem : r ∈ s.reads ++ [(tsOffset i + 3, 1)] := hr
    rw [List.mem_append, List.mem_singleton] at hmem
    unfold TS_PACKET_SIZE at hend
    rcases hmem with hold | rfl
    · exact hat.inside r hold
    · dsimp only
      omega

/-- **One packet**, whichever it is. -/
theorem At.step (hl : p.Layout m psi) {h i : Nat} (hat : At p psi h i s) (hh : i / 7 + 1 = h)
    (hne : s.remain_es_size ≠ 0) : At p psi h (i + 1) (s.readPacket m psi) := by
  unfold Parse.readPacket
  dsimp only
  rcases Nat.lt_or_ge i (psiPackets psi) with hlt | hge
  · have htable : psi = true ∧ 0 < s.psi_packet := by
      cases psi with
      | false => exact absurd hlt (Nat.not_lt_zero i)
      | true =>
          have hthree : psiPackets true = 3 := rfl
          refine ⟨rfl, ?_⟩
          rw [hat.tables rfl]
          omega
    rw [if_pos htable]
    have hlength := p.length_bytes
    exact hat.table hl hlt hh hne (by
      unfold tsCount
      omega)
  · have hpes : ¬ (psi = true ∧ 0 < s.psi_packet) := by
      rintro ⟨rfl, hpos⟩
      have hthree : psiPackets true = 3 := rfl
      have := hat.tables rfl
      omega
    obtain ⟨j, rfl⟩ := Nat.exists_eq_add_of_le hge
    rw [if_neg hpes]
    exact hat.copy hl hh hne

/-- **The whole run.** -/
theorem At.run (hl : p.Layout m psi) (s : Parse) :
    ∀ q, At p psi q (7 * q) s →
      ∃ h i, At p psi h i (s.readRtp m psi) ∧ (s.readRtp m psi).remain_es_size = 0 := by
  induction s using Parse.readRtp.induct m psi with
  | case1 s hpos ih =>
      intro q hat
      have hskip : At p psi (q + 1) (7 * q) s.skipHeader :=
        ⟨hat.out, hat.remain, hat.header, hat.tables, fun hne => by
          show s.ptr + RTP_HEADER_SIZE = _
          rw [hat.ptr hne]
          unfold RTP_HEADER_SIZE
          omega, hat.inside⟩
      obtain ⟨k, hk1, hk7, hturn, hend⟩ := breakLoop_rule (fun s => s.remain_es_size = 0)
        (Parse.readPacket m psi) (At p psi (q + 1)) (n := 7) (i := 7 * q) (s := s.skipHeader)
        (by decide) (hskip.step hl (by omega) (Nat.ne_of_gt hpos)) (by
          intro i t ht hlo hhi hgoes
          exact ht.step hl (by omega) hgoes)
      rw [Parse.readRtp, if_pos hpos]
      rcases hend with rfl | hdone
      · exact ih (q + 1) hturn
      · have hzero : (s.skipHeader.readPackets m psi TS_PKT_COUNT_PER_RTP).remain_es_size = 0 := hdone
        rw [Parse.readRtp, if_neg (by omega)]
        exact ⟨q + 1, 7 * q + k, hturn, hzero⟩
  | case2 s hnone =>
      intro q hat
      rw [Parse.readRtp, if_neg hnone]
      exact ⟨q, 7 * q, hat, by omega⟩

/-! ### The size and the stream -/

theorem stuffing_length (p : Pes) : p.stuffing.length = if p.audio then 2 else 0 := by
  unfold stuffing
  split <;> rfl

/-- **`get_rtp_size` measures the layout.** -/
theorem get_rtp_size_eq (p : Pes) (psi : Bool) :
    get_rtp_size p.es.length p.audio psi false = layoutSize (p.tsCount psi) := by
  have hlength := p.length_bytes
  rw [stuffing_length] at hlength
  have hpes : (p.es.length : Int) + 14 + (if p.audio then 2 else 0) = p.bytes.length := by
    split at hlength
    · rename_i haudio
      rw [if_pos haudio]
      omega
    · rename_i haudio
      rw [if_neg haudio]
      omega
  have htables : (if psi then (188 * 3 : Int) else 0) = (188 * psiPackets psi : Nat) := by
    unfold psiPackets
    split <;> rfl
  unfold get_rtp_size
  dsimp only
  rw [htables, hpes, if_neg (by decide)]
  rw [Int.tdiv_eq_ediv_of_nonneg (a := (p.bytes.length : Int) + 183) (by omega),
    Int.tdiv_eq_ediv_of_nonneg (by omega)]
  unfold layoutSize headers tsCount RTP_HEADER_SIZE TS_PACKET_SIZE
  omega

/-- What comes out: the first bytes after the PES header. -/
theorem depacketize_eq (hl : p.Layout m psi) :
    (depacketize m p.es.length psi).out = p.content.take p.es.length ∧
      ∀ r ∈ (depacketize m p.es.length psi).reads,
        ((r.1 + r.2 : Nat) : Int) ≤ get_rtp_size p.es.length p.audio psi false := by
  have hstart : At p psi 0 (7 * 0) ⟨[], p.es.length, true, 3, 0, []⟩ := by
    have hnone : p.copied (7 * 0 - psiPackets psi) = 0 := by
      unfold copied
      rw [if_pos (by omega)]
    refine ⟨?_, ?_, ?_, fun _ => rfl, fun _ => rfl, fun r hr => nomatch hr⟩
    · rw [hnone]
      rfl
    · rw [hnone]
      rfl
    · exact (decide_eq_true (Nat.zero_le _)).symm
  obtain ⟨h, i, hat, hzero⟩ := At.run hl _ 0 hstart
  have hremain := hat.remain
  have hall : p.copied (i - psiPackets psi) = p.es.length := by
    have hle : p.copied (i - psiPackets psi) ≤ p.es.length := by
      unfold copied
      split
      · exact Nat.zero_le _
      · exact Nat.min_le_left _ _
    omega
  constructor
  · unfold depacketize
    rw [hat.out, hall]
  · intro r hr
    rw [get_rtp_size_eq]
    exact Int.ofNat_le.mpr (hat.inside r hr)

end Pes

/-! ### Video and audio -/

/-- A list is its own shift by two equal elements just when it has no other. -/
theorem shift_eq_iff {α : Type} (a : α) (xs : List α) :
    (a :: a :: xs).take xs.length = xs ↔ ∀ x ∈ xs, x = a := by
  constructor
  · intro h
    have hat : ∀ i, i < xs.length → xs[i]? = some a := by
      intro i
      induction i using Nat.strong_induction_on with
      | _ i ih =>
        intro hi
        rw [← h, List.getElem?_take_of_lt hi]
        rcases i with _ | _ | i
        · rfl
        · rfl
        · rw [List.getElem?_cons_succ, List.getElem?_cons_succ]
          exact ih i (by omega) (by omega)
    intro x hx
    obtain ⟨i, hi, hget⟩ := List.mem_iff_getElem.mp hx
    have hsome := hat i hi
    rw [List.getElem?_eq_getElem hi, hget] at hsome
    exact Option.some.inj hsome
  · intro h
    obtain ⟨n, rfl⟩ : ∃ n, xs = List.replicate n a :=
      ⟨xs.length, List.eq_replicate_of_mem h⟩
    rw [List.length_replicate]
    have hmore : a :: a :: List.replicate n a = List.replicate (n + 2) a := rfl
    rw [hmore, List.take_replicate, Nat.min_eq_left (by omega)]

namespace Pes

variable {p : Pes} {m : Mem} {psi : Bool}

/-- **Which streams come back.**  Video does; audio only where its bytes are like the
    stuffing that comes out in front of them. -/
theorem returns_iff (hl : p.Layout m psi) :
    p.Returns m psi ↔ (p.audio = true → ∀ b ∈ p.es, b = 0xFF) := by
  obtain ⟨hout, hinside⟩ := depacketize_eq hl
  have hiff : (depacketize m p.es.length psi).out = p.es ↔
      (p.audio = true → ∀ b ∈ p.es, b = 0xFF) := by
    rw [hout]
    unfold content stuffing
    cases p.audio with
    | false => simp
    | true =>
        have hshift := shift_eq_iff (0xFF : UInt8) p.es
        simpa using hshift
  constructor
  · intro h
    exact hiff.mp h.es
  · intro h
    exact ⟨hiff.mpr h, hinside⟩

/-- A stream that fits into one packet. -/
def onePacket (p : Pes) : Mem :=
  (Mem.write (fun _ => 0x30) 16 [UInt8.ofNat (183 - p.bytes.length)]).write
    (200 - p.bytes.length) p.bytes

theorem onePacket_layout (h : p.bytes.length < 184) : p.Layout p.onePacket false := by
  have hfirst : ∀ j, 184 * j < p.bytes.length → j = 0 := by
    intro j hj
    omega
  have hchunk : p.chunk 0 = p.bytes.length := by
    unfold chunk
    omega
  have hbelow : ∀ x, x < 17 → p.onePacket x =
      Mem.write (fun _ => 0x30) 16 [UInt8.ofNat (183 - p.bytes.length)] x := by
    intro x hx
    exact Mem.write_below (by omega)
  constructor
  · intro i hi
    exact absurd hi (Nat.not_lt_zero i)
  · intro j hj
    omega
  · intro j hj _
    obtain rfl := hfirst j hj
    rw [hchunk]
    constructor
    · show adaptationFieldControl (p.onePacket 15) = 3
      rw [hbelow 15 (by decide), Mem.write_below (by decide)]
      decide
    · show (p.onePacket 16).toNat = 183 - p.bytes.length
      rw [hbelow 16 (by decide)]
      show (UInt8.ofNat (183 - p.bytes.length)).toNat = 183 - p.bytes.length
      rw [UInt8.toNat_ofNat']
      omega
  · intro j hj
    obtain rfl := hfirst j hj
    rw [hchunk]
    show p.onePacket.read (200 - p.bytes.length) p.bytes.length = p.bytes.take p.bytes.length
    rw [List.take_length]
    exact Mem.read_write

end Pes

def onePes (audio : Bool) (es : List UInt8) : Pes :=
  ⟨List.replicate 14 0, audio, es, List.length_replicate⟩

theorem returns_iff_video :
    (onePes false [7]).Returns (onePes false [7]).onePacket false ↔
      ((onePes false [7]).audio = true → ∀ b ∈ (onePes false [7]).es, b = 0xFF) :=
  Pes.returns_iff (Pes.onePacket_layout (by decide))

/-- One byte of audio: a stuffing byte comes out. -/
theorem audio_not_returned :
    (onePes true [7]).Layout (onePes true [7]).onePacket false ∧
      ¬ (onePes true [7]).Returns (onePes true [7]).onePacket false := by
  have hl : (onePes true [7]).Layout (onePes true [7]).onePacket false :=
    Pes.onePacket_layout (by decide)
  refine ⟨hl, ?_⟩
  intro h
  have hout := (Pes.depacketize_eq hl).left
  rw [h.es] at hout
  exact absurd hout (by decide)

end ExynosHal.PesStream
