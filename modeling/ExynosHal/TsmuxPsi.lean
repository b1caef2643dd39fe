/-
  ExynosHal/TsmuxPsi.lean
  =======================
  **The tables that the transport stream multiplexer announces.**

  `tsmux_open` of `libtsmux/tsmux_hal.cpp` builds the table of the check; `tsmux_send_psi`
  writes the packets of the association table, of the map and of the clock one behind the
  other into `psi_info` and hands it to the driver.  The length of the map's section is
  filled in when the end of it is known.

  The clock's packet is the one of `TsmuxTimestamp`; what is read here are the two tables.
-/
import ExynosHal.ProgramTables
import ExynosHal.ByteMemory
import ExynosHal.TsmuxPacketize
import Mathlib.Data.BitVec

namespace ExynosHal.TsmuxPsi

open ExynosHal.Crc
open ExynosHal.ProgramTables
open ExynosHal.ByteMemory
open ExynosHal.TsmuxTimestamp

/-! ### The code -/

def TS_PID_PMT : Nat := 0x100
def TS_AVC_STREAM_TYPE : Nat := 0x1B
def TS_HEVC_STREAM_TYPE : Nat := 0x24
def TS_VIDEO_PACKET_ID : Nat := 0x1011
def TS_LPCM_STREAM_TYPE : Nat := 0x83
def TS_AAC_STREAM_TYPE : Nat := 0x0F
def TS_AUDIO_PACKET_ID : Nat := 0x1100
def VIDEO_PROFILE_IDC : Nat := 66
def VIDEO_LEVEL_IDC : Nat := 40
def VIDEO_CONSTRAINT_SET : Nat := 192
def TSMUX_PSI_SIZE : Nat := 64

/-- `struct tsmux_psi_info`. -/
structure PsiInfo where
  psi_data : Mem
  pcr_len : Nat
  pmt_len : Nat
  pat_len : Nat

/-- What the tables need of `struct tsmux_hal`. -/
structure Hal where
  crc_table : Vector (BitVec 32) 256
  psi_info : PsiInfo
  otf_enable : Bool
  use_hevc : Bool
  use_lpcm : Bool

/-- The body of the inner loop of `tsmux_init_crc_table`. -/
def crcStep (crc : BitVec 32) : BitVec 32 :=
  (crc <<< 1) ^^^ (if crc &&& 0x80000000#32 ≠ 0#32 then 0x04C11DB7#32 else 0#32)

def tsmux_init_crc_table (hal : Hal) : Hal :=
  { hal with
    crc_table := Vector.ofFn fun i => (List.range 8).foldl (fun crc _ => crcStep crc)
      (BitVec.ofNat 32 i.val <<< 24) }

theorem crcIndex_lt (x : BitVec 32) : (x &&& 0xFF#32).toNat < 256 := by
  rw [BitVec.toNat_and]
  exact Nat.lt_of_le_of_lt Nat.and_le_right (by decide)

/-- The body of the loop of `tsmux_crc32`. -/
def crcByte (hal : Hal) (crc : BitVec 32) (p : UInt8) : BitVec 32 :=
  (crc <<< 8) ^^^ hal.crc_table.get ⟨(((crc >>> 24) ^^^ p.toBitVec.setWidth 32) &&& 0xFF#32).toNat,
    crcIndex_lt _⟩

/-- `tsmux_crc32`; a handle is `none` if it is null. -/
def tsmux_crc32 (handle : Option Hal) (data : List UInt8) : BitVec 32 :=
  match handle with
  | none => 0#32
  | some hal => data.foldl (crcByte hal) 0xFFFFFFFF#32

/-- The answers to `open`, to `MapNameToIonHeap` and to the request for the packet that
    `tsmux_open` can turn on. -/
structure OpenAnswers where
  tsmux_fd : Int
  mapName : Int
  dummyPacket : Int

/-- `tsmux_open`; what `malloc` left in the handle is `raw`. -/
def tsmux_open (raw : Hal) (answers : OpenAnswers)
    (enable_hdcp use_hevc use_lpcm otf_dummy_ts_packet : Bool) : Option Hal :=
  if answers.tsmux_fd < 0 then none
  else if answers.mapName < 0 then none
  else
    let hal := tsmux_init_crc_table raw
    if otf_dummy_ts_packet && decide (answers.dummyPacket < 0) then none
    else some { hal with otf_enable := enable_hdcp, use_hevc := use_hevc, use_lpcm := use_lpcm }

def byte (n : Nat) : UInt8 := UInt8.ofNat n

/-- `htonl` and `memcpy` of a check. -/
def crcField (hal : Hal) (data : List UInt8) : List UInt8 := crcBytes (tsmux_crc32 (some hal) data)

/-- The association table from `crcDataStart` on. -/
def patData : List UInt8 :=
  [0x00, 0xb0, 0x0d, 0x00, 0x00, 0xc3, 0x00, 0x00, 0x00, 0x01,
    byte (0xe0 ||| (TS_PID_PMT >>> 8)), byte (TS_PID_PMT &&& 0xff)]

def patPacket (hal : Hal) : List UInt8 :=
  [0x47, 0x40, 0x00, 0x10, 0x00] ++ patData ++ crcField hal patData

/-- A length of 12 bits with the bits above it set. -/
def lengthField (n : Nat) : List UInt8 := [byte (0xf0 ||| (n >>> 8)), byte (n &&& 0xff)]

def hdcpInfo (otf_enable : Bool) : List UInt8 :=
  if otf_enable then lengthField 7 ++ [0x05, 5, 0x48, 0x44, 0x43, 0x50, 0x20]
  else lengthField 0

def videoStream (use_hevc : Bool) : List UInt8 :=
  [byte (if use_hevc then TS_HEVC_STREAM_TYPE else TS_AVC_STREAM_TYPE),
    byte (0xe0 ||| (TS_VIDEO_PACKET_ID >>> 8)), byte (TS_VIDEO_PACKET_ID &&& 0xff)]
  ++ lengthField (if use_hevc then 19 else 10)
  ++ if use_hevc then
      [56, 13, 1, byte ((0x60000000 >>> 24) &&& 0xff), byte ((0x60000000 >>> 16) &&& 0xff),
        byte ((0x60000000 >>> 8) &&& 0xff), byte (0x60000000 &&& 0xff),
        byte (((1 <<< 7) ||| (1 <<< 5) ||| (1 <<< 4)) &&& 0xf0), 0, 0, 0, 0, 0, 120, 0,
        63, 2, 1, 0x7e]
    else
      [40, 4, byte VIDEO_PROFILE_IDC, byte VIDEO_CONSTRAINT_SET, byte VIDEO_LEVEL_IDC, 0x3f,
        42, 2, 0x7e, 0x1f]

def audioStream (use_lpcm : Bool) : List UInt8 :=
  [byte (if use_lpcm then TS_LPCM_STREAM_TYPE else TS_AAC_STREAM_TYPE),
    byte (0xe0 ||| (TS_AUDIO_PACKET_ID >>> 8)), byte (TS_AUDIO_PACKET_ID &&& 0xff)]
  ++ lengthField (if use_lpcm then 4 else 0)
  ++ if use_lpcm then
      [byte TS_LPCM_STREAM_TYPE, 2, byte ((2 <<< 5) ||| (3 <<< 1) ||| 0),
        byte ((1 <<< 5) ||| 0xf)]
    else []

/-- The map from `crcDataStart` on, with the length still open. -/
def pmtOpen (hal : Hal) : List UInt8 :=
  [0x02, 0x00, 0x00, 0x00, 0x01, 0xc3, 0x00, 0x00, byte (0xe0 ||| (TS_PID_PCR >>> 8)),
    byte (TS_PID_PCR &&& 0xff)]
  ++ hdcpInfo hal.otf_enable ++ videoStream hal.use_hevc ++ audioStream hal.use_lpcm

/-- The map with the length of its section. -/
def pmtData (hal : Hal) : List UInt8 :=
  let section_length := (pmtOpen hal).length - 3 + 4
  ((pmtOpen hal).set 1 (byte (0xb0 ||| (section_length >>> 8)))).set 2
    (byte (section_length &&& 0xff))

def pmtPacket (hal : Hal) : List UInt8 :=
  [0x47, byte (0x40 ||| (TS_PID_PMT >>> 8)), byte (TS_PID_PMT &&& 0xff), 0x10, 0x00]
    ++ pmtData hal ++ crcField hal (pmtData hal)

/-- `tsmux_send_psi`; it has no value where the time is out of range. -/
def tsmux_send_psi (hal : Hal) (timeUs : Nat) : Option Hal :=
  (pcrPacket timeUs).map fun pcr =>
    { hal with
      psi_info :=
        { psi_data := hal.psi_info.psi_data.write 0
            (patPacket hal ++ pmtPacket hal ++ pcr.map UInt8.ofNat)
          pcr_len := pcr.length
          pmt_len := (pmtPacket hal).length
          pat_len := (patPacket hal).length } }

/-! ### The check -/

/-- The three readings of a check: the remainder of a division, one that the receiver can
    repeat over data and check, and one that no burst of up to 32 bits leaves as it is. -/
structure CheckHolds (crc : List UInt8 → BitVec 32) : Prop where
  division : ∀ data, value (crc data) = open Polynomial in
    (value (BitVec.allOnes 32) * X ^ (8 * data.length) + message (bits data) * X ^ 32) %ₘ
      (X ^ 32 + X ^ 26 + X ^ 23 + X ^ 22 + X ^ 16 + X ^ 12 + X ^ 11 + X ^ 10 + X ^ 8 + X ^ 7
        + X ^ 5 + X ^ 4 + X ^ 2 + X + 1)
  residue : ∀ data, crc (data ++ crcBytes (crc data)) = 0#32
  bursts : ∀ data received, Damaged data received → crc data ≠ crc received

/-- The table that `tsmux_init_crc_table` leaves. -/
def TableBuilt (hal : Hal) : Prop := hal.crc_table = (tsmux_init_crc_table hal).crc_table

theorem crcStep_eq (crc : BitVec 32) : crcStep crc = shift crcPoly crc := by
  have hmsb : (crc &&& 0x80000000#32 ≠ 0#32) ↔ crc.msb = true := by
    rw [BitVec.msb_eq_getLsbD_last]
    constructor
    · intro h
      by_contra hclear
      refine h (BitVec.eq_of_getLsbD_eq fun i hi => ?_)
      have hbit : (0x80000000#32).getLsbD i = decide (i = 31) := by
        revert i; decide
      by_cases hlast : i = 31
      · subst hlast
        simpa using hclear
      · simp [hbit, hlast]
    · intro h hzero
      have hbit : (crc &&& 0x80000000#32).getLsbD 31 = false := by rw [hzero]; rfl
      have htop : (0x80000000#32).getLsbD 31 = true := by decide
      rw [BitVec.getLsbD_and, htop, Bool.and_true] at hbit
      exact absurd (h.symm.trans hbit) (by decide)
  simp [crcStep, shift, crcPoly, hmsb]

theorem foldl_crcStep (n : Nat) (crc : BitVec 32) :
    (List.range n).foldl (fun crc _ => crcStep crc) crc = shifts crcPoly n crc := by
  have hgen : ∀ (xs : List Nat) (crc : BitVec 32),
      xs.foldl (fun crc _ => crcStep crc) crc = shifts crcPoly xs.length crc := by
    intro xs
    induction xs with
    | nil => intro _; rfl
    | cons x xs ih =>
        intro crc
        rw [List.foldl_cons, ih, crcStep_eq]
        rfl
  simpa using hgen (List.range n) crc

/-- The table does what eight bits do, one after the other. -/
theorem crcByte_eq {hal : Hal} (h : TableBuilt hal) (crc : BitVec 32) (p : UInt8) :
    crcByte hal crc p = feedAll crcPoly crc (bitsOf p.toBitVec) := by
  have hindex : (((crc >>> 24) ^^^ p.toBitVec.setWidth 32) &&& 0xFF#32)
      = (crc >>> 24) ^^^ p.toBitVec.setWidth 32 := by
    apply BitVec.eq_of_getLsbD_eq
    intro i hi
    have hmask : (0xFF#32).getLsbD i = decide (i < 8) := by
      revert i; decide
    by_cases hlow : i < 8
    · simp [hmask, hlow]
    · have hout : 32 ≤ 24 + i := by omega
      simp [hmask, hlow, BitVec.getLsbD_of_ge crc _ hout, BitVec.getLsbD_of_ge p.toBitVec i (by omega)]
  have hentry : ∀ i : Fin 256, hal.crc_table.get i = shifts crcPoly 8 (BitVec.ofNat 32 i.val <<< 24) := by
    intro i
    rw [h, ← foldl_crcStep]
    exact Vector.getElem_ofFn i.isLt
  rw [crcByte, hentry, feedAll_bitsOf (by decide)]
  simp only [hindex, BitVec.ofNat_toNat, BitVec.setWidth_eq]

theorem tsmux_crc32_eq {hal : Hal} (h : TableBuilt hal) (data : List UInt8) :
    tsmux_crc32 (some hal) data = remainder data := by
  have hgen : ∀ crc, data.foldl (crcByte hal) crc = feedAll crcPoly crc (bits data) := by
    induction data with
    | nil => intro _; rfl
    | cons p data ih =>
        intro crc
        rw [List.foldl_cons, ih, crcByte_eq h, bits_cons, feedAll_append]
  exact hgen _

theorem generator_crcPoly : generator crcPoly = open Polynomial in
    (X ^ 32 + X ^ 26 + X ^ 23 + X ^ 22 + X ^ 16 + X ^ 12 + X ^ 11 + X ^ 10 + X ^ 8 + X ^ 7
      + X ^ 5 + X ^ 4 + X ^ 2 + X + 1) := by
  simp [generator, value, crcPoly, Finset.sum_range_succ, bit]
  ring

theorem tableBuilt_open {raw hal : Hal} {answers : OpenAnswers}
    {enable_hdcp use_hevc use_lpcm otf_dummy_ts_packet : Bool}
    (h : tsmux_open raw answers enable_hdcp use_hevc use_lpcm otf_dummy_ts_packet = some hal) :
    TableBuilt hal ∧ hal.otf_enable = enable_hdcp ∧ hal.use_hevc = use_hevc
      ∧ hal.use_lpcm = use_lpcm := by
  unfold tsmux_open at h
  split at h
  · cases h
  split at h
  · cases h
  simp only at h
  split at h
  · cases h
  · rw [← Option.some.inj h]
    exact ⟨rfl, rfl, rfl, rfl⟩

/-- **The check of an opened multiplexer.**  Whatever was in its memory, and whatever it is
    opened for, it computes the remainder by the generator of the standard; the receiver's
    computation over data and check leaves nothing, and a burst of up to 32 wrong bits
    changes the check. -/
theorem open_check {raw hal : Hal} {answers : OpenAnswers}
    {enable_hdcp use_hevc use_lpcm otf_dummy_ts_packet : Bool}
    (h : tsmux_open raw answers enable_hdcp use_hevc use_lpcm otf_dummy_ts_packet = some hal) :
    CheckHolds (tsmux_crc32 (some hal)) := by
  have hbuilt := (tableBuilt_open h).1
  constructor
  · intro data
    rw [tsmux_crc32_eq hbuilt, remainder, value_feedAll (by decide), generator_crcPoly,
      length_bits]
  · intro data
    rw [tsmux_crc32_eq hbuilt, tsmux_crc32_eq hbuilt]
    exact remainder_sealed data
  · intro data received hdamaged
    rw [tsmux_crc32_eq hbuilt, tsmux_crc32_eq hbuilt]
    exact remainder_damaged hdamaged

/-- A handle as `malloc` may leave it. -/
def rawHal : Hal := ⟨Vector.replicate 256 0#32, ⟨fun _ => 0xff, 0, 0, 0⟩, true, true, true⟩

theorem open_check_sound : ∃ hal, tsmux_open rawHal ⟨3, 0, 0⟩ false true false false = some hal
    ∧ CheckHolds (tsmux_crc32 (some hal)) := by
  obtain ⟨hal, hopen⟩ : ∃ hal, tsmux_open rawHal ⟨3, 0, 0⟩ false true false false = some hal :=
    ⟨_, rfl⟩
  exact ⟨hal, hopen, open_check hopen⟩

/-! ### What is announced -/

def hdcpDescriptor : Descriptor := ⟨0x05, [0x48, 0x44, 0x43, 0x50, 0x20]⟩

def hevcDescriptors : List Descriptor :=
  [⟨56, [1, 0x60, 0, 0, 0, 0xb0, 0, 0, 0, 0, 0, 120, 0]⟩, ⟨63, [1, 0x7e]⟩]

def avcDescriptors : List Descriptor := [⟨40, [66, 192, 40, 0x3f]⟩, ⟨42, [0x7e, 0x1f]⟩]

/-- The program of a multiplexer: one video and one audio stream, and the descriptor of the
    protection if there is one. -/
def program (enable_hdcp use_hevc use_lpcm : Bool) : Pmt where
  program_number := 1
  PCR_PID := TS_PID_PCR
  info := if enable_hdcp then [hdcpDescriptor] else []
  streams :=
    [if use_hevc then ⟨0x24, TS_VIDEO_PACKET_ID, hevcDescriptors⟩
      else ⟨0x1B, TS_VIDEO_PACKET_ID, avcDescriptors⟩,
     if use_lpcm then ⟨0x83, TS_AUDIO_PACKET_ID, [⟨0x83, [0x46, 0x2f]⟩]⟩
      else ⟨0x0F, TS_AUDIO_PACKET_ID, []⟩]

def PsiInfo.pat (info : PsiInfo) : List UInt8 := info.psi_data.read 0 info.pat_len
def PsiInfo.pmt (info : PsiInfo) : List UInt8 := info.psi_data.read info.pat_len info.pmt_len

/-- The tables of a handle: they are inside `psi_data`, a receiver reads the program of the
    multiplexer from them, it does not take a table with a burst of wrong bits, and the
    packets of the audio stream have the number that the program gives them. -/
structure Announced (hal : Hal) (enable_hdcp use_hevc use_lpcm : Bool) : Prop where
  inside : hal.psi_info.pat_len + hal.psi_info.pmt_len + hal.psi_info.pcr_len ≤ 4 * TSMUX_PSI_SIZE
  received : readTables hal.psi_info.pat hal.psi_info.pmt
    = some (program enable_hdcp use_hevc use_lpcm)
  guarded : ∀ packet ∈ [hal.psi_info.pat, hal.psi_info.pmt], ∃ pid sent,
    packetSection packet = some (pid, sent)
      ∧ ∀ received, Damaged sent received → decodeSection received = none
  carried : ∀ job i size psi_en pts, ∃ s ∈ (program enable_hdcp use_hevc use_lpcm).streams,
    (TsmuxPacketize.fillJob use_lpcm job i size psi_en pts).ts_hdr.pid = s.elementary_PID
      ∧ s.stream_type = if use_lpcm then 0x83 else 0x0F

/-- A handle as it was opened, but for the tables. -/
structure Configured (hal : Hal) (enable_hdcp use_hevc use_lpcm : Bool) : Prop where
  table : TableBuilt hal
  hdcp : hal.otf_enable = enable_hdcp
  hevc : hal.use_hevc = use_hevc
  lpcm : hal.use_lpcm = use_lpcm

theorem program_fits (enable_hdcp use_hevc use_lpcm : Bool) :
    (program enable_hdcp use_hevc use_lpcm).Fits := by
  have hinfo : ∀ ds ∈ [[], [hdcpDescriptor], hevcDescriptors, avcDescriptors,
      [⟨0x83, [0x46, 0x2f]⟩]], InfoFits ds := by
    intro ds hds
    fin_cases hds <;> exact ⟨by simp [Descriptor.Fits, hdcpDescriptor, hevcDescriptors,
      avcDescriptors], by decide⟩
  have hvideo : (if use_hevc then (⟨0x24, TS_VIDEO_PACKET_ID, hevcDescriptors⟩ : Stream)
      else ⟨0x1B, TS_VIDEO_PACKET_ID, avcDescriptors⟩).Fits := by
    cases use_hevc
    · exact ⟨by decide, hinfo avcDescriptors (by simp)⟩
    · exact ⟨by decide, hinfo hevcDescriptors (by simp)⟩
  have haudio : (if use_lpcm then (⟨0x83, TS_AUDIO_PACKET_ID, [⟨0x83, [0x46, 0x2f]⟩]⟩ : Stream)
      else ⟨0x0F, TS_AUDIO_PACKET_ID, []⟩).Fits := by
    cases use_lpcm
    · exact ⟨by decide, hinfo [] (by simp)⟩
    · exact ⟨by decide, hinfo _ (by simp)⟩
  refine ⟨by simp [program], by simp [program, TS_PID_PCR], ?_, ?_, ?_⟩
  · cases enable_hdcp
    · exact hinfo [] (by simp)
    · exact hinfo [hdcpDescriptor] (by simp)
  · intro s hs
    simp only [program, List.mem_cons, List.not_mem_nil, or_false] at hs
    rcases hs with rfl | rfl
    · exact hvideo
    · exact haudio
  · cases enable_hdcp <;> cases use_hevc <;> cases use_lpcm <;> decide

section Packets

variable {hal : Hal} {enable_hdcp use_hevc use_lpcm : Bool}

/-- The bytes of the association table are the section of program 1. -/
theorem patData_eq : patData = unsealed 0x00 (patBytes [⟨1, TS_PID_PMT⟩]) := by decide

/-- The bytes of the map are the section of the program, the length included. -/
theorem pmtData_eq (h : Configured hal enable_hdcp use_hevc use_lpcm) :
    pmtData hal = unsealed 0x02 (program enable_hdcp use_hevc use_lpcm).bytes := by
  simp only [pmtData, pmtOpen, h.hdcp, h.hevc, h.lpcm]
  cases enable_hdcp <;> cases use_hevc <;> cases use_lpcm <;> decide

theorem patPacket_eq (h : Configured hal enable_hdcp use_hevc use_lpcm) :
    patPacket hal = tablePacket 0 0x00 (patBytes [⟨1, TS_PID_PMT⟩]) := by
  rw [patPacket, crcField, tsmux_crc32_eq h.table, patData_eq]
  rfl

theorem pmtPacket_eq (h : Configured hal enable_hdcp use_hevc use_lpcm) :
    pmtPacket hal = tablePacket TS_PID_PMT 0x02 (program enable_hdcp use_hevc use_lpcm).bytes := by
  rw [pmtPacket, crcField, tsmux_crc32_eq h.table, pmtData_eq h]
  rfl

theorem announced_of_sent {timeUs : Nat} {sent : Hal}
    (h : Configured hal enable_hdcp use_hevc use_lpcm)
    (hsend : tsmux_send_psi hal timeUs = some sent) :
    Announced sent enable_hdcp use_hevc use_lpcm
      ∧ Configured sent enable_hdcp use_hevc use_lpcm := by
  unfold tsmux_send_psi at hsend
  obtain ⟨pcr, hpcr, hsent⟩ := Option.map_eq_some_iff.mp hsend
  have hpat : sent.psi_info.pat = patPacket hal := by
    rw [← hsent]
    simp only [PsiInfo.pat, List.append_assoc, Mem.write_append]
    rw [Mem.read_write_of_disjoint (by simp), Mem.read_write_of_disjoint (by simp), Mem.read_write]
  have hpmt : sent.psi_info.pmt = pmtPacket hal := by
    rw [← hsent]
    simp only [PsiInfo.pmt, Mem.write_append]
    rw [Mem.read_write_of_disjoint (by simp), Nat.zero_add, Mem.read_write]
  have hpcrlen : pcr.length = 11 := by
    unfold pcrPacket at hpcr
    obtain ⟨_, _, rfl⟩ := Option.map_eq_some_iff.mp hpcr
    rfl
  have hpmtlen : (pmtPacket hal).length ≤ 100 := by
    rw [pmtPacket_eq h]
    cases enable_hdcp <;> cases use_hevc <;> cases use_lpcm <;> decide
  refine ⟨⟨?_, ?_, ?_, ?_⟩, ?_⟩
  · rw [← hsent]
    have hpatlen : (patPacket hal).length = 21 := rfl
    simp only [hpatlen, hpcrlen, TSMUX_PSI_SIZE]
    omega
  · rw [hpat, hpmt, patPacket_eq h, pmtPacket_eq h]
    have hnumber : (program enable_hdcp use_hevc use_lpcm).program_number = 1 := rfl
    have hread := readTables_tablePacket (program_fits enable_hdcp use_hevc use_lpcm)
      (show TS_PID_PMT < 0x2000 by decide)
    rwa [hnumber] at hread
  · rw [hpat, hpmt, patPacket_eq h, pmtPacket_eq h]
    intro packet hpacket
    simp only [List.mem_cons, List.not_mem_nil, or_false] at hpacket
    rcases hpacket with rfl | rfl
    · exact ⟨_, _, packetSection_tablePacket (by decide) _ _, fun _ => decodeSection_damaged⟩
    · exact ⟨_, _, packetSection_tablePacket (by decide) _ _, fun _ => decodeSection_damaged⟩
  · intro job i size psi_en pts
    refine ⟨_, List.mem_cons_of_mem _ (List.mem_singleton_self _), ?_, ?_⟩
    · cases use_lpcm <;> rfl
    · cases use_lpcm <;> rfl
  · rw [← hsent]
    exact ⟨h.table, h.hdcp, h.hevc, h.lpcm⟩

end Packets

/-- **The tables of an opened multiplexer.**  After any number of times that they were sent,
    at any times, the driver has tables that announce what the multiplexer was opened for. -/
theorem tables_announced {raw hal last : Hal} {answers : OpenAnswers}
    {enable_hdcp use_hevc use_lpcm otf_dummy_ts_packet : Bool} {times : List Nat}
    (h : tsmux_open raw answers enable_hdcp use_hevc use_lpcm otf_dummy_ts_packet = some hal)
    (hsent : times.foldlM tsmux_send_psi hal = some last) (hne : times ≠ []) :
    Announced last enable_hdcp use_hevc use_lpcm := by
  obtain ⟨htable, hhdcp, hhevc, hlpcm⟩ := tableBuilt_open h
  have hrun : ∀ (times : List Nat) (hal : Hal), Configured hal enable_hdcp use_hevc use_lpcm →
      times.foldlM tsmux_send_psi hal = some last → times ≠ [] →
      Announced last enable_hdcp use_hevc use_lpcm := by
    intro times
    induction times with
    | nil => intro _ _ _ hnil; exact absurd rfl hnil
    | cons timeUs times ih =>
        intro hal hconf hfold _
        rw [List.foldlM_cons] at hfold
        obtain ⟨sent, hsend, hrest⟩ := Option.bind_eq_some_iff.mp hfold
        obtain ⟨hann, hconf'⟩ := announced_of_sent hconf hsend
        cases times with
        | nil =>
            cases hrest
            exact hann
        | cons t ts => exact ih sent hconf' hrest (by simp)
  exact hrun times hal ⟨htable, hhdcp, hhevc, hlpcm⟩ hsent hne

theorem tables_announced_twice : ∃ hal last,
    tsmux_open rawHal ⟨3, 0, 0⟩ true false true false = some hal
      ∧ [0, 60000].foldlM tsmux_send_psi hal = some last ∧ Announced last true false true := by
  obtain ⟨hal, hopen⟩ : ∃ hal, tsmux_open rawHal ⟨3, 0, 0⟩ true false true false = some hal :=
    ⟨_, rfl⟩
  obtain ⟨last, hsent⟩ : ∃ last, [0, 60000].foldlM tsmux_send_psi hal = some last := ⟨_, rfl⟩
  exact ⟨hal, last, hopen, hsent, tables_announced hopen hsent (by simp)⟩

end ExynosHal.TsmuxPsi
