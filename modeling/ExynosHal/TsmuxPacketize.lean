/-
  ExynosHal/TsmuxPacketize.lean
  =============================
  **Packets of audio into the multiplexer.**

  `tsmux_packetize_m2m` of `libtsmux/tsmux_hal.cpp` copies up to three packets into their
  input mappings, with an ADTS header in front of AAC, and fills in a job for each.  Neither
  the mapping nor the field of the frame length is compared with the size of a packet.
-/
import ExynosHal.TsmuxTimestamp
import Mathlib.Data.Nat.Bitwise
import Mathlib.Data.List.Basic
import Mathlib.Data.Int.Order.Basic

namespace ExynosHal.TsmuxPacketize

open ExynosHal.TsmuxTimestamp (PesTime pesTime pcrPacket lowBits)

/-! ### The ADTS header -/

/-- An `int` from a `size_t`, and a `size_t` from an `int`. -/
def toInt (n : Nat) : Int := Int.bmod n (2 ^ 32)
def toSizeT (i : Int) : Nat := (i % 2 ^ 64).toNat

def ADTS_HEADER_SIZE : Nat := 7

/-- The seven bytes that `addADTSHeader` writes; a byte takes the low bits of its value. -/
def adtsHeader (aac_frame_length profile sampling_freq_index channel_configuration : Nat) :
    List UInt8 :=
  [0xff,
   0xf9,
   UInt8.ofNat (profile <<< 6 ||| sampling_freq_index <<< 2 |||
     ((channel_configuration >>> 2) &&& 1)),
   UInt8.ofNat ((channel_configuration &&& 3) <<< 6 ||| aac_frame_length >>> 11),
   UInt8.ofNat ((aac_frame_length >>> 3) &&& 0xff),
   UInt8.ofNat ((aac_frame_length &&& 7) <<< 5),
   0]

/-- What is written to a mapping: bytes from its start, then so many bytes of the packet. -/
structure Written where
  header : List UInt8
  copied : Nat
deriving DecidableEq, Repr

def addADTSHeader (es_size : Int) (profile sampling_freq_index channel_configuration : Nat) :
    Written :=
  ⟨adtsHeader ((es_size + 7) % 2 ^ 32).toNat profile sampling_freq_index channel_configuration,
    toSizeT es_size⟩

/-- The fields of an ADTS header. -/
structure AdtsFields where
  profile : Nat
  sampling_freq_index : Nat
  channel_configuration : Nat
  frame_length : Nat
deriving DecidableEq, Repr

/-- The header by its layout: after the syncword two bits of profile, four of the sampling
    frequency index, a private bit, three bits of the channel configuration, four bits, and
    thirteen bits of frame length. -/
def decodeAdts : List UInt8 → Option AdtsFields
  | [b₀, b₁, b₂, b₃, b₄, b₅, _] =>
      if b₀ = 0xff ∧ b₁.toNat / 16 = 15 then
        some
          { profile := b₂.toNat / 64
            sampling_freq_index := b₂.toNat / 4 % 16
            channel_configuration := b₂.toNat % 2 * 4 + b₃.toNat / 64
            frame_length := b₃.toNat % 4 * 2 ^ 11 + b₄.toNat * 2 ^ 3 + b₅.toNat / 32 }
      else none
  | _ => none

/-! ### Jobs -/

def M2M_BUF_SIZE : Nat := 32768
def ENOENT : Int := 2
def TS_LPCM_STREAM_ID : Int := 0xBD
def TS_AAC_STREAM_ID : Int := 0xC0
def TS_AUDIO_PACKET_ID : Int := 0x1100
def PES_HDR_CODE : Int := 1
def PES_HDR_MARKER : Int := 2
def TS_HDR_SYNC : Int := 0x47

structure PktCtrl where
  psi_en : Int
  rtp_size : Int
  pes_stuffing_num : Int
  mode : Int
  id : Int
deriving DecidableEq, Repr

structure PesHdr where
  code : Int
  stream_id : Int
  pkt_len : Int
  marker : Int
  scramble : Int
  priority : Int
  alignment : Int
  copyright : Int
  original : Int
  flags : Int
  hdr_len : Int
  pts39_16 : Int
  pts15_0 : Int
deriving DecidableEq, Repr

structure TsHdr where
  sync : Int
  error : Int
  priority : Int
  pid : Int
  scramble : Int
  adapt_ctrl : Int
deriving DecidableEq, Repr

structure RtpHdr where
  ver : Int
  pad : Int
  ext : Int
  csrc_cnt : Int
  marker : Int
  pl_type : Int
  ssrc : Nat
deriving DecidableEq, Repr

/-- `in_size` is `in_buf.actual_size`. -/
structure M2mJob where
  pkt_ctrl : PktCtrl
  pes_hdr : PesHdr
  ts_hdr : TsHdr
  rtp_hdr : RtpHdr
  m2m_enable : Bool
  in_size : Int
deriving DecidableEq, Repr

/-- A packet; the time is there if `findInt64` finds one. -/
structure ABuffer where
  timeUs : Option Nat
  size : Nat
deriving DecidableEq, Repr

/-- `pcr` is the PCR packet of `psi_info`. -/
structure PsiState where
  last_psi_time_us : Int
  pcr : List Nat
deriving DecidableEq, Repr

structure TsmuxHal where
  jobs : List M2mJob
  use_lpcm : Bool
  psi : PsiState
  audio_frame_count : Nat
deriving DecidableEq, Repr

/-- The answer to `TSMUX_IOCTL_M2M_RUN`, with the size and `rtp_size` of each output. -/
structure Answer where
  ret : Int
  outputs : List (Int × Int)
deriving DecidableEq, Repr

/-- An output buffer: its size, its time and its `rtp_size`. -/
structure OutBuffer where
  size : Int
  timeUs : Nat
  rtp_size : Int
deriving DecidableEq, Repr

/-- What is written to the mapping of a packet. -/
def writeInput (use_lpcm : Bool) (b : ABuffer) : Written :=
  if use_lpcm then ⟨[], toSizeT (toInt b.size)⟩ else addADTSHeader (toInt b.size) 1 3 2

/-- The job of the packet `i`. -/
def fillJob (use_lpcm : Bool) (job : M2mJob) (i : Nat) (size : Nat) (psi_en : Int)
    (pts : PesTime) : M2mJob :=
  let inbuf_size := if use_lpcm then toInt size else toInt size + 7
  { job with
    pkt_ctrl := { job.pkt_ctrl with
      psi_en := psi_en
      pes_stuffing_num := 2
      mode := 0
      id := i + 1 }
    pes_hdr :=
      { code := PES_HDR_CODE
        stream_id := if use_lpcm then TS_LPCM_STREAM_ID else TS_AAC_STREAM_ID
        pkt_len := inbuf_size + 3 + 5 + 2
        marker := PES_HDR_MARKER
        scramble := 0
        priority := 0
        alignment := 1
        copyright := 0
        original := 0
        flags := if job.m2m_enable then 0x81 else 0x80
        hdr_len := if job.m2m_enable then 5 + 2 + 17 else 5 + 2
        pts39_16 := pts.pts39_16
        pts15_0 := pts.pts15_0 }
    ts_hdr := ⟨TS_HDR_SYNC, 0, 0, TS_AUDIO_PACKET_ID, 0, 0⟩
    rtp_hdr := ⟨2, 0, 0, 0, 0, 33, 0xdeadbeef⟩
    in_size := inbuf_size }

/-- `tsmux_send_psi`, if the last one is more than 50 ms ago. -/
def sendPsi (psi : PsiState) (nowUs : Int) (timeUs : Nat) : Option (Int × PsiState) :=
  if nowUs - psi.last_psi_time_us > 50000 then
    (pcrPacket timeUs).map fun pcr => (1, ⟨nowUs, pcr⟩)
  else some (0, psi)

/-- The loop over the packets.  It has no value where `CHECK` fails or a time stamp is out of
    range. -/
def packetize (use_lpcm : Bool) (nowUs : Nat → Int) :
    Nat → List (M2mJob × Option ABuffer) → PsiState →
      Option (List (M2mJob × Option Written) × PsiState)
  | _, [], psi => some ([], psi)
  | i, (job, none) :: rest, psi =>
      (packetize use_lpcm nowUs (i + 1) rest psi).map fun o => ((job, none) :: o.1, o.2)
  | i, (job, some b) :: rest, psi =>
      b.timeUs.bind fun timeUs =>
        (sendPsi psi (nowUs i) timeUs).bind fun s =>
          (pesTime timeUs).bind fun pts =>
            (packetize use_lpcm nowUs (i + 1) rest s.2).map fun o =>
              ((fillJob use_lpcm job i b.size s.1 pts, some (writeInput use_lpcm b)) :: o.1, o.2)

structure Outcome where
  ret : Int
  hal : TsmuxHal
  written : List (Option Written)
  outbufs : List (Option OutBuffer)
deriving DecidableEq, Repr

/-- The job with the mark that is set before the loop. -/
def unmark (job : M2mJob) : M2mJob := { job with pes_hdr := { job.pes_hdr with pts39_16 := -1 } }

def outBuffer (b : Option ABuffer) (output : Int × Int) : Option OutBuffer :=
  if output.1 > 0 then some ⟨output.1, (b.bind ABuffer.timeUs).getD 0, output.2⟩ else none

/-- `tsmux_packetize_m2m`; a handle is `none` if it is null. -/
def tsmux_packetize_m2m (handle : Option TsmuxHal) (inbufs : List (Option ABuffer))
    (nowUs : Nat → Int) (answer : Answer) : Option (Int × Option Outcome) :=
  match handle with
  | none => some (-ENOENT, none)
  | some hal =>
      (packetize hal.use_lpcm nowUs 0 ((hal.jobs.map unmark).zip inbufs) hal.psi).map fun o =>
        let outbufs := List.zipWith outBuffer inbufs answer.outputs
        let taken := if answer.ret < 0 then [] else outbufs
        (answer.ret, some
          { ret := answer.ret
            hal := { hal with
              jobs := o.1.map Prod.fst
              psi := o.2
              audio_frame_count := hal.audio_frame_count + (taken.filter Option.isSome).length }
            written := o.1.map Prod.snd
            outbufs := taken })

/-! ### What should hold of a packet -/

/-- The packet fits into its mapping, and its header gives back what was put in. -/
structure PacketFits (use_lpcm : Bool) (size : Nat) (w : Written) : Prop where
  inside : w.header.length + w.copied ≤ M2M_BUF_SIZE
  header : use_lpcm = false → decodeAdts w.header = some ⟨1, 3, 2, size + ADTS_HEADER_SIZE⟩

def InputsFit (use_lpcm : Bool) (inbufs : List (Option ABuffer)) (written : List (Option Written)) :
    Prop :=
  ∀ (i : Nat) (b : ABuffer) (w : Written), inbufs[i]? = some (some b) →
    written[i]? = some (some w) →
      PacketFits use_lpcm b.size w

/-- A size that the mapping has room for and, with a header, the frame length. -/
def SizeFits (use_lpcm : Bool) (size : Nat) : Prop :=
  if use_lpcm then 0 ≤ toInt size ∧ toInt size ≤ M2M_BUF_SIZE
  else size + ADTS_HEADER_SIZE < 2 ^ 13

/-! ### The header -/

section Adts

variable {aac_frame_length profile sampling_freq_index channel_configuration : Nat}

/-- The two bytes with the small fields. -/
theorem fieldBytes (hp : profile < 4) (hs : sampling_freq_index < 16)
    (hc : channel_configuration < 8) {top : Nat} (ht : top < 4) :
    (UInt8.ofNat (profile <<< 6 ||| sampling_freq_index <<< 2 |||
        ((channel_configuration >>> 2) &&& 1))).toNat =
        profile * 64 + sampling_freq_index * 4 + channel_configuration / 4 ∧
      (UInt8.ofNat ((channel_configuration &&& 3) <<< 6 ||| top)).toNat =
        channel_configuration % 4 * 64 + top := by
  have hfirst : ∀ p < 4, ∀ s < 16, ∀ c < 2, p <<< 6 ||| s <<< 2 ||| c = p * 64 + s * 4 + c := by
    decide
  have hsecond : ∀ c < 4, ∀ t < 4, c <<< 6 ||| t = c * 64 + t := by decide
  have hone : (channel_configuration >>> 2) &&& 1 = channel_configuration / 4 := by
    rw [Nat.and_one_is_mod, Nat.shiftRight_eq_div_pow]
    omega
  have hthree : channel_configuration &&& 3 = channel_configuration % 4 := lowBits _ 2
  rw [hone, hthree, hfirst profile hp sampling_freq_index hs _ (by omega),
    hsecond _ (Nat.mod_lt _ (by decide)) top ht, UInt8.toNat_ofNat', UInt8.toNat_ofNat']
  constructor
  · omega
  · omega

/-- The two bytes with the rest of the frame length. -/
theorem lengthBytes (n : Nat) :
    (UInt8.ofNat ((n >>> 3) &&& 0xff)).toNat = n / 8 % 256 ∧
      (UInt8.ofNat ((n &&& 7) <<< 5)).toNat = n % 8 * 32 := by
  have hbyte : (n >>> 3) &&& 0xff = (n >>> 3) % 256 := lowBits _ 8
  have hthree : n &&& 7 = n % 8 := lowBits _ 3
  have hmid : (n >>> 3) &&& 0xff = n / 8 % 256 := by
    rw [hbyte, Nat.shiftRight_eq_div_pow]
  have hlow : (n &&& 7) <<< 5 = n % 8 * 32 := by
    rw [hthree, Nat.shiftLeft_eq]
  rw [hmid, hlow, UInt8.toNat_ofNat', UInt8.toNat_ofNat']
  constructor
  · omega
  · omega

/-- **The header gives its fields back**, if the frame length has no more than thirteen
    bits. -/
theorem decodeAdts_adtsHeader (hp : profile < 4) (hs : sampling_freq_index < 16)
    (hc : channel_configuration < 8) (hl : aac_frame_length < 2 ^ 13) :
    decodeAdts (adtsHeader aac_frame_length profile sampling_freq_index channel_configuration) =
      some ⟨profile, sampling_freq_index, channel_configuration, aac_frame_length⟩ := by
  have htop : aac_frame_length >>> 11 = aac_frame_length / 2 ^ 11 := Nat.shiftRight_eq_div_pow _ _
  obtain ⟨hsecond, hthird⟩ := fieldBytes hp hs hc
    (show aac_frame_length / 2 ^ 11 < 4 by omega)
  obtain ⟨hfourth, hfifth⟩ := lengthBytes aac_frame_length
  unfold adtsHeader decodeAdts
  dsimp only
  rw [if_pos ⟨rfl, by decide⟩, htop, hsecond, hthird, hfourth, hfifth]
  congr 2
  · omega
  · omega
  · omega
  · omega

/-- No header has a longer frame. -/
theorem frame_length_lt {bs : List UInt8} {f : AdtsFields} (h : decodeAdts bs = some f) :
    f.frame_length < 2 ^ 13 := by
  unfold decodeAdts at h
  split at h
  · rename_i b₀ b₁ b₂ b₃ b₄ b₅ b₆
    split at h
    · obtain rfl := Option.some.inj h
      have h₄ := b₄.toNat_lt
      have h₅ := b₅.toNat_lt
      dsimp only
      omega
    · cases h
  · cases h

end Adts

/-! ### Packets -/

theorem toInt_of_lt {n : Nat} (h : n < 2 ^ 31) : toInt n = n := by
  unfold toInt
  rw [Int.bmod_def]
  omega

/-- One packet. -/
theorem packetFits_iff (use_lpcm : Bool) (b : ABuffer) :
    PacketFits use_lpcm b.size (writeInput use_lpcm b) ↔ SizeFits use_lpcm b.size := by
  unfold SizeFits writeInput
  have hlow : -2 ^ 31 ≤ toInt b.size ∧ toInt b.size < 2 ^ 31 := by
    unfold toInt
    rw [Int.bmod_def]
    omega
  cases use_lpcm with
  | true =>
      rw [if_pos rfl, if_pos rfl]
      have hiff : toSizeT (toInt b.size) ≤ M2M_BUF_SIZE ↔
          0 ≤ toInt b.size ∧ toInt b.size ≤ M2M_BUF_SIZE := by
        unfold toSizeT M2M_BUF_SIZE
        omega
      rw [← hiff]
      constructor
      · intro h
        have hin := h.inside
        dsimp only at hin
        rw [List.length_nil, Nat.zero_add] at hin
        exact hin
      · intro h
        refine ⟨?_, fun hfalse => nomatch hfalse⟩
        dsimp only
        rw [List.length_nil, Nat.zero_add]
        exact h
  | false =>
      rw [if_neg (by decide), if_neg (by decide)]
      constructor
      · intro h
        exact frame_length_lt (h.header rfl)
      · intro h
        have hsize : toInt b.size = b.size := toInt_of_lt (by
          unfold ADTS_HEADER_SIZE at h
          omega)
        unfold addADTSHeader
        rw [hsize]
        have hframe : (((b.size : Int) + 7) % 2 ^ 32).toNat = b.size + ADTS_HEADER_SIZE := by
          unfold ADTS_HEADER_SIZE at h ⊢
          omega
        rw [hframe]
        constructor
        · show 7 + toSizeT b.size ≤ M2M_BUF_SIZE
          unfold toSizeT M2M_BUF_SIZE
          unfold ADTS_HEADER_SIZE at h
          omega
        · intro _
          exact decodeAdts_adtsHeader (by decide) (by decide) (by decide) h

/-- The loop writes every packet, whatever the times are. -/
theorem packetize_written {use_lpcm : Bool} {nowUs : Nat → Int} {i : Nat}
    {l : List (M2mJob × Option ABuffer)} {psi : PsiState}
    {o : List (M2mJob × Option Written) × PsiState}
    (h : packetize use_lpcm nowUs i l psi = some o) :
    o.1.map Prod.snd = l.map fun x => x.2.map (writeInput use_lpcm) := by
  induction l generalizing i psi o with
  | nil =>
      obtain rfl := Option.some.inj h
      rfl
  | cons x rest ih =>
      obtain ⟨job, b⟩ := x
      cases b with
      | none =>
          obtain ⟨o', ho', rfl⟩ := Option.map_eq_some_iff.mp h
          rw [List.map_cons, List.map_cons, ih ho']
          rfl
      | some b =>
          obtain ⟨timeUs, -, h⟩ := Option.bind_eq_some_iff.mp h
          obtain ⟨s, -, h⟩ := Option.bind_eq_some_iff.mp h
          obtain ⟨pts, -, h⟩ := Option.bind_eq_some_iff.mp h
          obtain ⟨o', ho', rfl⟩ := Option.map_eq_some_iff.mp h
          rw [List.map_cons, List.map_cons, ih ho']
          rfl

/-- What an accepted call has written. -/
theorem written_eq {hal : TsmuxHal} {inbufs : List (Option ABuffer)} {nowUs : Nat → Int}
    {answer : Answer} {ret : Int} {o : Outcome}
    (h : tsmux_packetize_m2m (some hal) inbufs nowUs answer = some (ret, some o)) :
    o.written =
      ((hal.jobs.map unmark).zip inbufs).map fun x => x.2.map (writeInput hal.use_lpcm) := by
  obtain ⟨l, hl, hout⟩ := Option.map_eq_some_iff.mp h
  have hsame := Option.some.inj (congrArg Prod.snd hout)
  rw [← hsame]
  exact packetize_written hl

/-- **Which packets are written as they should be.** -/
theorem inputsFit_iff {hal : TsmuxHal} {inbufs : List (Option ABuffer)} {nowUs : Nat → Int}
    {answer : Answer} {ret : Int} {o : Outcome}
    (h : tsmux_packetize_m2m (some hal) inbufs nowUs answer = some (ret, some o)) :
    InputsFit hal.use_lpcm inbufs o.written ↔
      ∀ (i : Nat) (b : ABuffer), i < hal.jobs.length → inbufs[i]? = some (some b) →
        SizeFits hal.use_lpcm b.size := by
  have hwritten : ∀ i, o.written[i]? =
      if i < hal.jobs.length then (inbufs[i]?).map (Option.map (writeInput hal.use_lpcm))
      else none := by
    intro i
    rw [written_eq h, List.getElem?_map]
    unfold List.zip
    rw [List.getElem?_zipWith, List.getElem?_map]
    by_cases hi : i < hal.jobs.length
    · rw [if_pos hi, List.getElem?_eq_getElem hi]
      cases inbufs[i]? <;> rfl
    · rw [if_neg hi, List.getElem?_eq_none (by omega)]
      rfl
  unfold InputsFit
  constructor
  · intro hfit i b hi hb
    rw [← packetFits_iff]
    apply hfit i b _ hb
    rw [hwritten i, if_pos hi, hb]
    rfl
  · intro hsize i b w hb hw
    rw [hwritten i] at hw
    split at hw
    · rename_i hi
      rw [hb] at hw
      obtain rfl := Option.some.inj (Option.some.inj hw)
      rw [packetFits_iff]
      exact hsize i b hi hb
    · cases hw

/-! ### A call -/

def freshJob : M2mJob where
  pkt_ctrl := ⟨0, 7, 0, 0, 0⟩
  pes_hdr := ⟨0, 0, 0, 0, 0, 0, 0, 0, 0, 0, 0, 0, 0⟩
  ts_hdr := ⟨0, 0, 0, 0, 0, 0⟩
  rtp_hdr := ⟨0, 0, 0, 0, 0, 0, 0⟩
  m2m_enable := false
  in_size := 0

def halFor (use_lpcm : Bool) : TsmuxHal := ⟨List.replicate 3 freshJob, use_lpcm, ⟨0, []⟩, 0⟩

/-- A call with one packet of this size. -/
def callWith (use_lpcm : Bool) (size : Nat) : Option (Int × Option Outcome) :=
  tsmux_packetize_m2m (some (halFor use_lpcm)) [some ⟨some 100, size⟩, none, none]
    (fun _ => 60000) ⟨0, [(1340, 7), (0, 7), (0, 7)]⟩

theorem inputsFit_iff_frame :
    ∃ o, callWith false 400 = some (0, some o) ∧
      (InputsFit false [some ⟨some 100, 400⟩, none, none] o.written ↔
        ∀ (i : Nat) (b : ABuffer), i < 3 → [some ⟨some 100, 400⟩, none, none][i]? = some (some b) →
          SizeFits false b.size) := by
  have hrun : ∃ o, callWith false 400 = some (0, some o) := ⟨_, rfl⟩
  obtain ⟨o, ho⟩ := hrun
  exact ⟨o, ho, inputsFit_iff ho⟩

/-- A frame of 8185 bytes: its length is read as zero.  And 40000 bytes of LPCM leave the
    mapping. -/
theorem long_packets_do_not_fit :
    (∃ o, callWith false 8185 = some (0, some o) ∧
      ¬ InputsFit false [some ⟨some 100, 8185⟩, none, none] o.written) ∧
      ∃ o, callWith true 40000 = some (0, some o) ∧
        ¬ InputsFit true [some ⟨some 100, 40000⟩, none, none] o.written := by
  constructor
  · refine ⟨_, rfl, ?_⟩
    intro h
    have hfits := (h 0 ⟨some 100, 8185⟩ _ rfl rfl).header rfl
    exact absurd hfits (by decide)
  · refine ⟨_, rfl, ?_⟩
    intro h
    have hfits := (h 0 ⟨some 100, 40000⟩ _ rfl rfl).inside
    exact absurd hfits (by decide)

end ExynosHal.TsmuxPacketize
