/-
  ExynosHal/RtpPackets.lean
  =========================
  **RTP packets of transport stream packets.**

  An RTP packet is a header of 12 bytes and up to seven transport stream packets of 188
  bytes.  `depacketize_rtp` of `libtsmux/tsmux_hal.cpp` takes the headers away.  Its two
  loops share the count of the bytes that are left: the outer one asks for its sign, the
  inner one whether it is zero.

  The input is a memory from `rtp_data` on, and every read of it is recorded.
-/
import ExynosHal.ByteMemory
import Mathlib.Data.List.Basic
import Mathlib.Tactic.Ring

namespace ExynosHal.RtpPackets

open ExynosHal.ByteMemory

/-! ### A loop with a break -/

section BreakLoop

variable {σ : Type} (done : σ → Prop) [DecidablePred done] (step : σ → σ)

/-- At most `n` steps; the loop is left after a step that is the last. -/
def breakLoop : Nat → σ → σ
  | 0, s => s
  | n + 1, s => if done (step s) then step s else breakLoop n (step s)

variable {done step}

/-- What every step keeps or makes smaller. -/
theorem breakLoop_le {f : σ → Int} (hstep : ∀ s, f (step s) ≤ f s) (n : Nat) (s : σ) :
    f (breakLoop done step n s) ≤ f s := by
  induction n generalizing s with
  | zero => exact Int.le_refl _
  | succ n ih =>
      unfold breakLoop
      split
      · exact hstep s
      · exact Int.le_trans (ih _) (hstep s)

/-- **The rule of the loop.**  `At k` is what holds after `k` steps, counted from `i`; the
    first step is taken in any case. -/
theorem breakLoop_rule (done : σ → Prop) [DecidablePred done] (step : σ → σ)
    (At : Nat → σ → Prop) {n i : Nat} {s : σ} (hpos : 0 < n)
    (hfirst : At (i + 1) (step s))
    (hstep : ∀ k s, At k s → i < k → k < i + n → ¬ done s → At (k + 1) (step s)) :
    ∃ k, 1 ≤ k ∧ k ≤ n ∧ At (i + k) (breakLoop done step n s) ∧
      (k = n ∨ done (breakLoop done step n s)) := by
  induction n generalizing i s with
  | zero => omega
  | succ n ih =>
      unfold breakLoop
      split
      · rename_i hdone
        exact ⟨1, Nat.le_refl 1, by omega, hfirst, Or.inr hdone⟩
      · rename_i hgoes
        rcases Nat.eq_zero_or_pos n with rfl | hn
        · exact ⟨1, Nat.le_refl 1, Nat.le_refl 1, hfirst, Or.inl rfl⟩
        · have hsecond : At (i + 1 + 1) (step (step s)) :=
            hstep (i + 1) (step s) hfirst (by omega) (by omega) hgoes
          obtain ⟨k, hk1, hkn, hat, hend⟩ := ih hn hsecond (by
            intro k t ht hik hki hnot
            exact hstep k t ht (by omega) (by omega) hnot)
          rw [show i + 1 + k = i + (k + 1) by omega] at hat
          refine ⟨k + 1, by omega, by omega, hat, ?_⟩
          rcases hend with rfl | hdone
          · exact Or.inl rfl
          · exact Or.inr hdone

end BreakLoop

/-! ### The code -/

def TS_PKT_COUNT_PER_RTP : Nat := 7
def RTP_HEADER_SIZE : Nat := 12
def TS_PACKET_SIZE : Nat := 188

/-- The pointers and counts of `depacketize_rtp`.  `ts_data` is what was written so far,
    `reads` the reads of the input, by offset and length. -/
@[ext] structure Copy where
  ts_data : List UInt8
  ts_size : Int
  rtp_ptr : Nat
  rtp_size : Int
  reads : List (Nat × Nat)
deriving DecidableEq, Repr

namespace Copy

variable (m : Mem) (s : Copy)

def skipHeader : Copy :=
  { s with rtp_ptr := s.rtp_ptr + RTP_HEADER_SIZE, rtp_size := s.rtp_size - RTP_HEADER_SIZE }

/-- One `memcpy` of the inner loop. -/
def copyPacket : Copy where
  ts_data := s.ts_data ++ m.read s.rtp_ptr TS_PACKET_SIZE
  ts_size := s.ts_size + TS_PACKET_SIZE
  rtp_ptr := s.rtp_ptr + TS_PACKET_SIZE
  rtp_size := s.rtp_size - TS_PACKET_SIZE
  reads := s.reads ++ [(s.rtp_ptr, TS_PACKET_SIZE)]

/-- The inner loop; the count is `remain_ts_packet`. -/
def copyPackets (n : Nat) : Copy := breakLoop (fun s => s.rtp_size = 0) (copyPacket m) n s

theorem copyPackets_rtp_size_le (n : Nat) : (copyPackets m s n).rtp_size ≤ s.rtp_size := by
  apply breakLoop_le (f := Copy.rtp_size)
  intro t
  show t.rtp_size - 188 ≤ t.rtp_size
  omega

/-- The outer loop. -/
def copyRtp (s : Copy) : Copy :=
  if 0 < s.rtp_size then copyRtp (s.skipHeader.copyPackets m TS_PKT_COUNT_PER_RTP) else s
termination_by s.rtp_size.toNat
decreasing_by
  have hle := copyPackets_rtp_size_le m s.skipHeader TS_PKT_COUNT_PER_RTP
  have hskip : s.skipHeader.rtp_size = s.rtp_size - 12 := rfl
  omega

end Copy

def depacketize_rtp (m : Mem) (rtp_size : Int) : Copy :=
  Copy.copyRtp m ⟨[], 0, 0, rtp_size, []⟩

/-! ### The layout -/

/-- The RTP packets for `count` transport stream packets. -/
def headers (count : Nat) : Nat := (count + 6) / 7

/-- The bytes of a layout with `count` transport stream packets. -/
def layoutSize (count : Nat) : Nat := RTP_HEADER_SIZE * headers count + TS_PACKET_SIZE * count

/-- Where the transport stream packet `i` starts. -/
def tsOffset (i : Nat) : Nat := RTP_HEADER_SIZE * (i / 7 + 1) + TS_PACKET_SIZE * i

/-- The first `count` transport stream packets, without the headers. -/
def tsPackets (m : Mem) (count : Nat) : List UInt8 :=
  (List.range count).flatMap fun i => m.read (tsOffset i) TS_PACKET_SIZE

/-- Nothing past the end is read, and a layout gives its packets. -/
structure Depacketizes (m : Mem) (rtp_size : Int) : Prop where
  inside : ∀ r ∈ (depacketize_rtp m rtp_size).reads, ((r.1 + r.2 : Nat) : Int) ≤ rtp_size
  packets : ∀ count, rtp_size = layoutSize count →
    (depacketize_rtp m rtp_size).ts_data = tsPackets m count ∧
      (depacketize_rtp m rtp_size).ts_size = (TS_PACKET_SIZE * count : Nat)

/-! ### Runs -/

namespace Copy

variable {m : Mem}

/-- After `i` packets and `h` headers. -/
def after (m : Mem) (rtp_size : Int) (h i : Nat) : Copy where
  ts_data := tsPackets m i
  ts_size := (TS_PACKET_SIZE * i : Nat)
  rtp_ptr := RTP_HEADER_SIZE * h + TS_PACKET_SIZE * i
  rtp_size := rtp_size - (RTP_HEADER_SIZE * h + TS_PACKET_SIZE * i : Nat)
  reads := (List.range i).map fun j => (tsOffset j, TS_PACKET_SIZE)

theorem skipHeader_after (rtp_size : Int) (h i : Nat) :
    (after m rtp_size h i).skipHeader = after m rtp_size (h + 1) i := by
  refine Copy.ext rfl rfl ?_ ?_ rfl
  · show 12 * h + 188 * i + 12 = 12 * (h + 1) + 188 * i
    omega
  · show rtp_size - (12 * h + 188 * i : Nat) - 12 = rtp_size - (12 * (h + 1) + 188 * i : Nat)
    omega

theorem copyPacket_after (rtp_size : Int) {h i : Nat} (hi : i / 7 + 1 = h) :
    (after m rtp_size h i).copyPacket m = after m rtp_size h (i + 1) := by
  have hoffset : (after m rtp_size h i).rtp_ptr = tsOffset i := by
    unfold tsOffset
    rw [hi]
    rfl
  refine Copy.ext ?_ ?_ ?_ ?_ ?_
  · show tsPackets m i ++ m.read (after m rtp_size h i).rtp_ptr TS_PACKET_SIZE =
      tsPackets m (i + 1)
    rw [hoffset]
    unfold tsPackets
    rw [List.range_succ, List.flatMap_append]
    simp
  · show ((188 * i : Nat) : Int) + 188 = (188 * (i + 1) : Nat)
    omega
  · show 12 * h + 188 * i + 188 = 12 * h + 188 * (i + 1)
    omega
  · show rtp_size - (12 * h + 188 * i : Nat) - 188 = rtp_size - (12 * h + 188 * (i + 1) : Nat)
    omega
  · show (List.range i).map _ ++ [((after m rtp_size h i).rtp_ptr, TS_PACKET_SIZE)] =
      (List.range (i + 1)).map _
    rw [hoffset, List.range_succ, List.map_append]
    rfl

theorem headers_of_mem {q i : Nat} (h : 7 * q < i) (hi : i ≤ 7 * q + 7) : headers i = q + 1 := by
  unfold headers
  omega

theorem headers_mul (q : Nat) : headers (7 * q) = q := by
  unfold headers
  omega

theorem layoutSize_mul (q : Nat) : layoutSize (7 * q) = 1328 * q := by
  unfold layoutSize RTP_HEADER_SIZE TS_PACKET_SIZE
  rw [headers_mul]
  omega

theorem rtp_size_after (m : Mem) (rtp_size : Int) (i : Nat) :
    (after m rtp_size (headers i) i).rtp_size = rtp_size - layoutSize i := rfl

theorem rtp_size_after_mul (m : Mem) (rtp_size : Int) (q : Nat) :
    (after m rtp_size q (7 * q)).rtp_size = rtp_size - layoutSize (7 * q) := by
  have h := rtp_size_after m rtp_size (7 * q)
  rw [headers_mul] at h
  exact h

/-- After the packets of one turn: no layout had just the size before. -/
structure Turn (m : Mem) (rtp_size : Int) (q i : Nat) (s : Copy) : Prop where
  eq : s = after m rtp_size (q + 1) i
  before : ∀ i', 7 * q ≤ i' → i' < i → rtp_size ≠ layoutSize i'

theorem rtp_size_turn (m : Mem) (rtp_size : Int) {q i : Nat} (h : 7 * q < i)
    (hi : i ≤ 7 * q + 7) :
    (after m rtp_size (q + 1) i).rtp_size = rtp_size - layoutSize i := by
  rw [← headers_of_mem h hi]
  exact rtp_size_after m rtp_size i

theorem copyPackets_turn (m : Mem) {rtp_size : Int} {q : Nat}
    (hpos : (layoutSize (7 * q) : Int) < rtp_size) :
    ∃ k, 1 ≤ k ∧ k ≤ 7 ∧
      Turn m rtp_size q (7 * q + k) ((after m rtp_size (q + 1) (7 * q)).copyPackets m 7) ∧
      (k = 7 ∨ rtp_size = layoutSize (7 * q + k)) := by
  obtain ⟨k, hk1, hk7, hturn, hend⟩ := breakLoop_rule (fun s => s.rtp_size = 0) (copyPacket m)
    (Turn m rtp_size q) (n := 7) (i := 7 * q) (s := after m rtp_size (q + 1) (7 * q)) (by decide)
    (by
      refine ⟨copyPacket_after rtp_size (by omega), ?_⟩
      intro i' h1 h2
      obtain rfl : i' = 7 * q := by omega
      omega)
    (by
      rintro i s ⟨rfl, hbefore⟩ hlo hhi hgoes
      rw [rtp_size_turn m rtp_size hlo (by omega)] at hgoes
      refine ⟨copyPacket_after rtp_size (by omega), ?_⟩
      intro i' h1 h2
      rcases Nat.lt_or_eq_of_le (Nat.le_of_lt_succ h2) with hlt | rfl
      · exact hbefore i' h1 hlt
      · omega)
  refine ⟨k, hk1, hk7, hturn, ?_⟩
  rcases hend with hseven | hzero
  · exact Or.inl hseven
  · right
    have hsize := congrArg Copy.rtp_size hturn.eq
    rw [rtp_size_turn m rtp_size (by omega) (by omega)] at hsize
    have hnone : ((after m rtp_size (q + 1) (7 * q)).copyPackets m 7).rtp_size = 0 := hzero
    omega

/-- Where the two loops stop: with the first layout that has just the size, or past all of
    the input. -/
structure Stops (rtp_size : Int) (first i : Nat) : Prop where
  le : first ≤ i
  covers : rtp_size ≤ layoutSize i
  before : ∀ i', first ≤ i' → i' < i → rtp_size ≠ layoutSize i'
  last : i = first ∨ ∃ q, i ≤ 7 * q + 7 ∧ (1328 * q : Nat) < rtp_size

theorem copyRtp_after (m : Mem) (rtp_size : Int) (q : Nat) :
    ∃ i, copyRtp m (after m rtp_size q (7 * q)) = after m rtp_size (headers i) i ∧
      Stops rtp_size (7 * q) i := by
  have hsize := rtp_size_after_mul m rtp_size q
  -- every turn of the outer loop takes a header from the bytes that are left
  induction hleft : (rtp_size - layoutSize (7 * q)).toNat using Nat.strong_induction_on
    generalizing q with
  | h left ih =>
    rw [copyRtp]
    split
    · rename_i hpos
      rw [hsize, layoutSize_mul] at hpos
      have hlt : (layoutSize (7 * q) : Int) < rtp_size := by
        rw [layoutSize_mul]
        omega
      obtain ⟨k, hk1, hk7, hturn, hend⟩ := copyPackets_turn m hlt
      have hrest := rtp_size_turn m rtp_size (q := q) (i := 7 * q + k) (by omega) (by omega)
      rw [skipHeader_after, show TS_PKT_COUNT_PER_RTP = 7 from rfl, hturn.eq]
      by_cases hhit : rtp_size = layoutSize (7 * q + k)
      · refine ⟨7 * q + k, ?_, by omega, by omega, hturn.before, Or.inr ⟨q, by omega, by omega⟩⟩
        rw [copyRtp, if_neg (by rw [hrest]; omega),
          headers_of_mem (q := q) (by omega) (by omega)]
      · obtain rfl : k = 7 := hend.resolve_right hhit
        obtain ⟨i, hi, hstops⟩ := ih _ (by
          rw [← hleft, layoutSize_mul, layoutSize_mul]
          omega) (q + 1) (rtp_size_after_mul m rtp_size (q + 1)) rfl
        refine ⟨i, hi, ?_, hstops.covers, ?_, ?_⟩
        · have := hstops.le
          omega
        · intro i' h1 h2
          rcases Nat.lt_or_ge i' (7 * q + 7) with hlt | hge
          · exact hturn.before i' h1 hlt
          · exact hstops.before i' hge h2
        · rcases hstops.last with rfl | hlast
          · exact Or.inr ⟨q, Nat.le_refl _, by omega⟩
          · exact Or.inr hlast
    · rename_i hneg
      rw [hsize] at hneg
      refine ⟨7 * q, by rw [headers_mul], Nat.le_refl _, by omega, ?_, Or.inl rfl⟩
      intro i' h1 h2
      omega

end Copy

/-! ### Every length -/

theorem layoutSize_zero : layoutSize 0 = 0 := rfl

theorem layoutSize_lt {i j : Nat} (h : i < j) : layoutSize i < layoutSize j := by
  unfold layoutSize headers RTP_HEADER_SIZE TS_PACKET_SIZE
  omega

theorem tsOffset_add (i : Nat) : tsOffset i + TS_PACKET_SIZE = layoutSize (i + 1) := by
  unfold tsOffset layoutSize headers RTP_HEADER_SIZE TS_PACKET_SIZE
  omega

/-- **Every run** takes the first packets of the input, and stops as said. -/
theorem depacketize_rtp_eq (m : Mem) (rtp_size : Int) :
    ∃ i, depacketize_rtp m rtp_size = Copy.after m rtp_size (headers i) i ∧
      Copy.Stops rtp_size 0 i := by
  have hstart : (⟨[], 0, 0, rtp_size, []⟩ : Copy) = Copy.after m rtp_size 0 (7 * 0) := by
    refine Copy.ext rfl rfl rfl ?_ rfl
    show rtp_size = rtp_size - (0 : Nat)
    omega
  unfold depacketize_rtp
  rw [hstart]
  exact Copy.copyRtp_after m rtp_size 0

/-- The counts stay in the range of an `int`. -/
theorem counts_in_range (m : Mem) {rtp_size : Int} (hlow : -2 ^ 31 ≤ rtp_size)
    (hhigh : rtp_size < 2 ^ 31) :
    0 ≤ (depacketize_rtp m rtp_size).ts_size ∧ (depacketize_rtp m rtp_size).ts_size < 2 ^ 31 ∧
      -2 ^ 31 ≤ (depacketize_rtp m rtp_size).rtp_size := by
  obtain ⟨i, heq, hstops⟩ := depacketize_rtp_eq m rtp_size
  have hsize : (depacketize_rtp m rtp_size).ts_size = (188 * i : Nat) := by
    rw [heq]
    rfl
  have hleft : (depacketize_rtp m rtp_size).rtp_size = rtp_size - layoutSize i := by
    rw [heq]
    rfl
  rw [hsize, hleft]
  rcases hstops.last with rfl | ⟨q, hi, hq⟩
  · rw [layoutSize_zero]
    omega
  · have hlayout : layoutSize i ≤ 12 * (q + 1) + 188 * i := by
      unfold layoutSize headers RTP_HEADER_SIZE TS_PACKET_SIZE
      omega
    omega

/-- A length that is not read past its end is a layout: its last packet ends it. -/
theorem layout_of_inside {m : Mem} {rtp_size : Int} (h : Depacketizes m rtp_size) :
    rtp_size ≤ 0 ∨ ∃ count, rtp_size = layoutSize count := by
  obtain ⟨i, heq, hstops⟩ := depacketize_rtp_eq m rtp_size
  have hcovers := hstops.covers
  rcases Nat.eq_zero_or_pos i with rfl | hpos
  · exact Or.inl hcovers
  · have hlast := h.inside (tsOffset (i - 1), TS_PACKET_SIZE) (by
      rw [heq]
      exact List.mem_map.mpr ⟨i - 1, List.mem_range.mpr (by omega), rfl⟩)
    rw [tsOffset_add, show i - 1 + 1 = i by omega] at hlast
    exact Or.inr ⟨i, by omega⟩

/-- **Which lengths are read to their end and no further.** -/
theorem depacketizes_iff (m : Mem) (rtp_size : Int) :
    Depacketizes m rtp_size ↔ rtp_size ≤ 0 ∨ ∃ count, rtp_size = layoutSize count := by
  constructor
  · intro h
    exact layout_of_inside h
  · intro h
    obtain ⟨i, heq, hstops⟩ := depacketize_rtp_eq m rtp_size
    have hi : ∀ count, rtp_size = layoutSize count → i = count := by
      intro count hcount
      rcases Nat.lt_trichotomy i count with hlt | hsame | hgt
      · have := layoutSize_lt hlt
        have := hstops.covers
        omega
      · exact hsame
      · exact absurd hcount (hstops.before count (Nat.zero_le _) hgt)
    constructor
    · intro r hr
      rw [heq] at hr
      obtain ⟨j, hj, rfl⟩ := List.mem_map.mp hr
      have hji := List.mem_range.mp hj
      rcases h with hneg | ⟨count, hcount⟩
      · rcases hstops.last with rfl | ⟨q, -, hq⟩
        · omega
        · omega
      · obtain rfl := hi count hcount
        dsimp only
        rw [hcount, tsOffset_add]
        rcases Nat.eq_or_lt_of_le (Nat.succ_le_of_lt hji) with hlast | hlt
        · rw [← hlast]
        · have hless : layoutSize (j + 1) < layoutSize i := layoutSize_lt hlt
          omega
    · intro count hcount
      obtain rfl := hi count hcount
      rw [heq]
      exact ⟨rfl, rfl⟩

/-- A hundred bytes are read past their end. -/
theorem not_depacketizes_hundred : ¬ Depacketizes (fun _ => 0) 100 := by
  intro h
  rcases layout_of_inside h with hneg | ⟨count, hcount⟩
  · omega
  · unfold layoutSize headers RTP_HEADER_SIZE TS_PACKET_SIZE at hcount
    omega

end ExynosHal.RtpPackets
