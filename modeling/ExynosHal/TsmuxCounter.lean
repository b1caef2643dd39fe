/-
  ExynosHal/TsmuxCounter.lean
  ===========================
  **The continuity counter of a transport stream.**

  `get_rtp_size` of `libtsmux/tsmux_hal.cpp` computes how many bytes a frame takes
  and `increament_ts_continuity_counter` counts the TS packets in that many
  bytes.  The layout of a frame is given here once more, packet by packet; the
  two functions are shown to agree on it, so that the counters of the TS packets
  of a whole stream run on without a gap.
-/
import Mathlib.Algebra.GroupWithZero.Nat
import Mathlib.Algebra.Group.Nat.Defs

namespace ExynosHal.TsmuxCounter

def TS_PKT_COUNT_PER_RTP : Int := 7

/-! ### The functions of the source

An `int` is an `Int`, with the division of the language, which truncates. -/

def get_rtp_size (es_size : Int) (audio psi_enable hdcp_enable : Bool) : Int :=
  let len_es := es_size
  let pes_stuffing_num : Int := if audio then 2 else 0
  let len_hdr := 5 + pes_stuffing_num
  let len_pes := len_es + 14 + pes_stuffing_num
  let len_tmp := len_pes - len_hdr - (184 - len_hdr).tdiv 16 * 16
  let len_tmp :=
    if len_es ≤ 184 - len_hdr then 188
    else 188 + len_tmp.tdiv 176 * 188
      + (if 8 < len_tmp.tmod 176 ∨ (0 < len_tmp ∧ len_tmp ≤ 8) then 188 else 0)
  let len_tsp := (if psi_enable then 188 * 3 else 0)
    + (if hdcp_enable then len_tmp else (len_pes + 183).tdiv 184 * 188)
  (len_tsp + 7 * 188 - 1).tdiv (7 * 188) * 12 + len_tsp

/-- `new_ts_continuity_counter & 0xf` is the residue of a number in two's complement. -/
def increament_ts_continuity_counter (ts_continuity_counter rtp_size : Int) (psi_enable : Bool) :
    Int :=
  let rtp_packet_count := rtp_size.tdiv (188 * TS_PKT_COUNT_PER_RTP + 12)
  let ts_packet_count := rtp_packet_count * TS_PKT_COUNT_PER_RTP
  let rtp_remain_size := rtp_size.tmod (188 * TS_PKT_COUNT_PER_RTP + 12)
  let ts_packet_count :=
    if 0 < rtp_remain_size then ts_packet_count + (rtp_remain_size - 12).tdiv 188
    else ts_packet_count
  let ts_packet_count := if psi_enable then ts_packet_count - 3 else ts_packet_count
  (ts_continuity_counter + ts_packet_count) % 16

/-! ### The layout of a frame -/

structure Frame where
  es_size : Nat
  audio : Bool
  psi_enable : Bool
  hdcp_enable : Bool

def Frame.stuffing (f : Frame) : Nat := if f.audio then 2 else 0

/-- TS packets for `n` bytes of a PES packet in the clear. -/
def plainPackets (n : Nat) : Nat :=
  if 184 < n then plainPackets (n - 184) + 1 else 1
termination_by n
decreasing_by omega

/-- TS packets for the `n` bytes behind the first encrypted one: eleven blocks of the
    cipher each, the last one with up to eight bytes in the clear. -/
def encryptedPackets (n : Nat) : Nat :=
  if 184 < n then encryptedPackets (n - 176) + 1 else 1
termination_by n
decreasing_by omega

/-- The TS packets of a frame that carry its PES packet. -/
def Frame.pesPackets (f : Frame) : Nat :=
  if f.hdcp_enable then
    if f.es_size ≤ 179 - f.stuffing then 1
    else encryptedPackets (f.es_size - 167) + 1
  else plainPackets (f.es_size + 14 + f.stuffing)

/-- PAT, PMT and PCR come first. -/
def Frame.tsPackets (f : Frame) : Nat := (if f.psi_enable then 3 else 0) + f.pesPackets

/-- Bytes of `n` TS packets in RTP packets: a header of 12 bytes for up to seven. -/
def rtpBytes (n : Nat) : Nat :=
  if 7 < n then rtpBytes (n - 7) + (12 + 7 * 188) else 12 + n * 188
termination_by n
decreasing_by omega

theorem plainPackets_eq (n : Nat) (h : 0 < n) : plainPackets n = (n + 183) / 184 := by
  induction n using plainPackets.induct with
  | case1 n hn ih =>
    rw [plainPackets, if_pos hn, ih (by omega)]
    omega
  | case2 n hn =>
    rw [plainPackets, if_neg hn]
    omega

theorem encryptedPackets_eq (n : Nat) (h : 0 < n) :
    encryptedPackets n = n / 176 + (if 8 < n % 176 ∨ n ≤ 8 then 1 else 0) := by
  induction n using encryptedPackets.induct with
  | case1 n hn ih =>
    rw [encryptedPackets, if_pos hn, ih (by omega)]
    have hmod : (n - 176) % 176 = n % 176 := by omega
    rw [hmod]
    split <;> split <;> omega
  | case2 n hn =>
    rw [encryptedPackets, if_neg hn]
    split <;> omega

theorem rtpBytes_eq (n : Nat) (h : 0 < n) : rtpBytes n = (n + 6) / 7 * 12 + n * 188 := by
  induction n using rtpBytes.induct with
  | case1 n hn ih =>
    rw [rtpBytes, if_pos hn, ih (by omega)]
    omega
  | case2 n hn =>
    rw [rtpBytes, if_neg hn]
    omega

theorem Frame.pesPackets_pos (f : Frame) : 0 < f.pesPackets := by
  unfold Frame.pesPackets
  split
  · split <;> omega
  · rw [plainPackets_eq _ (by omega)]
    omega

/-! ### The functions follow the layout -/

theorem Frame.stuffing_le (f : Frame) : f.stuffing ≤ 2 := by
  unfold Frame.stuffing
  split <;> omega

/-- `len_tmp`, the bytes of the TS packets of an encrypted frame. -/
theorem encrypted_len (es s : Nat) (hs : s ≤ 2) :
    (if (es : Int) ≤ 184 - (5 + s) then 188
      else 188 + ((es + 14 + s - (5 + s) - (184 - (5 + s) : Int).tdiv 16 * 16)).tdiv 176 * 188
        + (if 8 < ((es + 14 + s - (5 + s) - (184 - (5 + s) : Int).tdiv 16 * 16)).tmod 176
            ∨ (0 < (es + 14 + s - (5 + s) - (184 - (5 + s) : Int).tdiv 16 * 16)
              ∧ (es + 14 + s - (5 + s) - (184 - (5 + s) : Int).tdiv 16 * 16) ≤ 8)
          then 188 else 0))
      = (((if es ≤ 179 - s then 1 else encryptedPackets (es - 167) + 1) * 188 : Nat) : Int) := by
  have hblocks : (184 - (5 + s) : Int).tdiv 16 * 16 = 176 := by
    rw [Int.tdiv_eq_ediv_of_nonneg (by omega)]
    omega
  rw [hblocks, show (es : Int) + 14 + s - (5 + s) - 176 = es - 167 by omega]
  by_cases hes : es ≤ 179 - s
  · rw [if_pos hes, if_pos (by omega)]
    rfl
  · have hrest : ((es : Int) - 167) = (es - 167 : Nat) := by omega
    rw [if_neg hes, if_neg (by omega), hrest, encryptedPackets_eq _ (by omega)]
    have hn : 10 < es - 167 := by omega
    generalize es - 167 = n at hn
    rw [Int.tdiv_eq_ediv_of_nonneg (by omega), Int.tmod_eq_emod_of_nonneg (by omega)]
    split <;> split <;> omega

theorem plain_len (n : Nat) (h : 0 < n) :
    ((n : Int) + 183).tdiv 184 * 188 = ((plainPackets n * 188 : Nat) : Int) := by
  rw [plainPackets_eq n h, Int.tdiv_eq_ediv_of_nonneg (by omega)]
  omega

/-- **The size is the one of the layout.** -/
theorem get_rtp_size_eq (f : Frame) :
    get_rtp_size f.es_size f.audio f.psi_enable f.hdcp_enable = rtpBytes f.tsPackets := by
  have hpos := f.pesPackets_pos
  have hstuffing : (if f.audio then 2 else 0 : Int) = f.stuffing := by
    unfold Frame.stuffing
    split <;> rfl
  have hpes : (if f.hdcp_enable then
        (if (f.es_size : Int) ≤ 184 - (5 + f.stuffing) then 188
        else 188 + ((f.es_size + 14 + f.stuffing - (5 + f.stuffing)
              - (184 - (5 + f.stuffing) : Int).tdiv 16 * 16)).tdiv 176 * 188
          + (if 8 < ((f.es_size + 14 + f.stuffing - (5 + f.stuffing)
                - (184 - (5 + f.stuffing) : Int).tdiv 16 * 16)).tmod 176
              ∨ (0 < (f.es_size + 14 + f.stuffing - (5 + f.stuffing)
                  - (184 - (5 + f.stuffing) : Int).tdiv 16 * 16)
                ∧ (f.es_size + 14 + f.stuffing - (5 + f.stuffing)
                  - (184 - (5 + f.stuffing) : Int).tdiv 16 * 16) ≤ 8)
            then 188 else 0))
      else ((f.es_size : Int) + 14 + f.stuffing + 183).tdiv 184 * 188)
        = ((f.pesPackets * 188 : Nat) : Int) := by
    unfold Frame.pesPackets
    split
    · exact encrypted_len f.es_size f.stuffing f.stuffing_le
    · exact plain_len (f.es_size + 14 + f.stuffing) (by omega)
  have hpsi : (if f.psi_enable then 188 * 3 else 0 : Int)
      = (((if f.psi_enable then 3 else 0) * 188 : Nat) : Int) := by
    split <;> rfl
  unfold get_rtp_size
  dsimp only
  rw [hstuffing, hpes, hpsi, rtpBytes_eq _ (by unfold Frame.tsPackets; omega)]
  unfold Frame.tsPackets
  rw [Int.tdiv_eq_ediv_of_nonneg (by omega)]
  omega

/-- Counting the TS packets in the bytes of `n` of them. -/
theorem counter_rtpBytes (cc : Int) (n : Nat) (h : 0 < n) (psi : Bool) :
    increament_ts_continuity_counter cc (rtpBytes n) psi
      = (cc + (n - if psi then 3 else 0)) % 16 := by
  have hsize : rtpBytes n = n / 7 * 1328 + (if n % 7 = 0 then 0 else 12 + n % 7 * 188) := by
    rw [rtpBytes_eq n h]
    split <;> omega
  have hr : n % 7 < 7 := Nat.mod_lt n (by decide)
  have hquot : rtpBytes n / 1328 = n / 7 := by
    rw [hsize]
    split <;> omega
  have hrest : rtpBytes n % 1328 = if n % 7 = 0 then 0 else 12 + n % 7 * 188 := by
    rw [hsize]
    split <;> omega
  have hquot' : (rtpBytes n : Int).tdiv (188 * TS_PKT_COUNT_PER_RTP + 12) = (n / 7 : Nat) := by
    rw [Int.tdiv_eq_ediv_of_nonneg (Int.natCast_nonneg _), ← hquot]
    rfl
  have hrest' : (rtpBytes n : Int).tmod (188 * TS_PKT_COUNT_PER_RTP + 12)
      = (if n % 7 = 0 then 0 else 12 + n % 7 * 188 : Nat) := by
    rw [Int.tmod_eq_emod_of_nonneg (Int.natCast_nonneg _), ← hrest]
    rfl
  have hcount : (if 0 < (rtpBytes n : Int).tmod (188 * TS_PKT_COUNT_PER_RTP + 12) then
        (rtpBytes n : Int).tdiv (188 * TS_PKT_COUNT_PER_RTP + 12) * TS_PKT_COUNT_PER_RTP
          + ((rtpBytes n : Int).tmod (188 * TS_PKT_COUNT_PER_RTP + 12) - 12).tdiv 188
      else (rtpBytes n : Int).tdiv (188 * TS_PKT_COUNT_PER_RTP + 12) * TS_PKT_COUNT_PER_RTP)
        = n := by
    rw [hquot', hrest']
    unfold TS_PKT_COUNT_PER_RTP
    by_cases hzero : n % 7 = 0
    · rw [if_pos hzero, if_neg (by omega)]
      omega
    · rw [if_neg hzero, if_pos (by omega), Int.tdiv_eq_ediv_of_nonneg (by omega)]
      omega
  unfold increament_ts_continuity_counter
  dsimp only
  rw [hcount]
  cases psi with
  | true => exact congrArg (· % 16) rfl
  | false =>
    rw [if_neg Bool.false_ne_true, if_neg Bool.false_ne_true, Int.sub_zero]

/-! ### A stream -/

/-- The counter behind a frame, as the muxer computes it. -/
def nextCounter (cc : Int) (f : Frame) : Int :=
  increament_ts_continuity_counter cc
    (get_rtp_size f.es_size f.audio f.psi_enable f.hdcp_enable) f.psi_enable

/-- The counters of the TS packets that carry the PES packet of a frame. -/
def frameCounters (cc : Int) (f : Frame) : List Int :=
  (List.range f.pesPackets).map fun i : Nat => (cc + i) % 16

/-- The counters of all these TS packets of a stream. -/
def streamCounters : Int → List Frame → List Int
  | _, [] => []
  | cc, f :: frames => frameCounters cc f ++ streamCounters (nextCounter cc f) frames

def pesPacketsOf (frames : List Frame) : Nat := (frames.map Frame.pesPackets).sum

/-- The counter steps by the TS packets that carry the PES packet. -/
theorem nextCounter_eq (cc : Int) (f : Frame) : nextCounter cc f = (cc + f.pesPackets) % 16 := by
  have hpos := f.pesPackets_pos
  unfold nextCounter
  rw [get_rtp_size_eq, counter_rtpBytes _ _ (by unfold Frame.tsPackets; omega)]
  unfold Frame.tsPackets
  cases f.psi_enable with
  | true =>
    congr 2
    show ((3 + f.pesPackets : Nat) : Int) - 3 = f.pesPackets
    omega
  | false =>
    congr 2
    show ((0 + f.pesPackets : Nat) : Int) - 0 = f.pesPackets
    omega

/-- **The counters of a stream run on**: after every frame the counter has stepped by
    the number of its TS packets, and the TS packets of all frames are numbered one
    by one. -/
theorem streamCounters_consecutive (cc : Int) (frames : List Frame) :
    (∀ (sent : List Frame) (f : Frame),
        (sent ++ [f]).foldl nextCounter cc
          = (sent.foldl nextCounter cc + f.pesPackets) % 16)
      ∧ streamCounters cc frames
          = (List.range (pesPacketsOf frames)).map fun i : Nat => (cc + i) % 16 := by
  constructor
  · intro sent f
    rw [List.foldl_append]
    exact nextCounter_eq _ f
  · induction frames generalizing cc with
    | nil => rfl
    | cons f frames ih =>
      have hshift : ∀ i : Nat, (nextCounter cc f + i) % 16 = (cc + (f.pesPackets + i : Nat)) % 16 := by
        intro i
        rw [nextCounter_eq]
        omega
      unfold streamCounters pesPacketsOf
      rw [ih, List.map_cons, List.sum_cons, List.range_add, List.map_append, List.map_map]
      congr 1
      exact List.map_congr_left fun i _ => hshift i

end ExynosHal.TsmuxCounter
