/-
  ExynosHal/TsmuxTimestamp.lean
  =============================
  **The two time stamps of an MPEG transport stream.**

  `tsmux_send_psi` of `libtsmux/tsmux_hal.cpp` writes the PCR packet and
  `tsmux_packetize_m2m` the PTS of a PES header.  A reader takes the PCR from six
  bytes: 33 bits of base, six reserved bits and nine bits of extension.  The
  writer puts out five: the one with bits 8 to 1 of the base is missing.
-/
import Mathlib.Algebra.Group.Nat.Defs
namespace ExynosHal.TsmuxTimestamp

def TS_PID_PCR : Nat := 0x1000

/-- The product of two `int64_t`, which the language only defines in range. -/
def mulInt64 (a b : Nat) : Option Nat := if a * b < 2 ^ 63 then some (a * b) else none

/-! ### What is written -/

/-- The bytes of the adaptation field that stand for the PCR. -/
def pcrField (PCR_base PCR_ext : Nat) : List Nat :=
  [(PCR_base >>> 25) &&& 0xff,
   (PCR_base >>> 17) &&& 0xff,
   (PCR_base >>> 9) &&& 0xff,
   ((PCR_base &&& 1) <<< 7) ||| 0x7e ||| ((PCR_ext >>> 8) &&& 1),
   PCR_ext &&& 0xff]

/-- The PCR packet of `tsmux_send_psi`, `pcr_len` bytes of it. -/
def pcrPacket (timeUs : Nat) : Option (List Nat) :=
  (mulInt64 timeUs 27).map fun PCR =>
    [0x47, 0x40 ||| (TS_PID_PCR >>> 8), TS_PID_PCR &&& 0xff, 0x20, 0xb7, 0x10]
      ++ pcrField (PCR / 300) (PCR % 300)

/-- The words of `struct tsmux_pes_hdr` with the PTS. -/
structure PesTime where
  pts39_16 : Nat
  pts15_0 : Nat
deriving DecidableEq, Repr

def ptsWords (PTS : Nat) : PesTime where
  pts39_16 :=
    ((0x20 ||| (((PTS >>> 30) &&& 7) <<< 1) ||| 1) <<< 16)
      ||| (((PTS >>> 22) &&& 0xff) <<< 8)
      ||| ((((PTS >>> 15) &&& 0x7f) <<< 1) ||| 1)
  pts15_0 := (((PTS >>> 7) &&& 0xff) <<< 8) ||| (((PTS &&& 0x7f) <<< 1) ||| 1)

/-- The PTS of `tsmux_packetize_m2m`. -/
def pesTime (timeUs : Nat) : Option PesTime :=
  (mulInt64 timeUs 9).map fun t => ptsWords (t / 100)

/-! ### What is read -/

/-- Bits of the PCR field: 33 of base, 6 reserved, 9 of extension. -/
def readPcr : List Nat → Option (Nat × Nat)
  | [b₀, b₁, b₂, b₃, b₄, b₅] =>
      some (b₀ * 2 ^ 25 + b₁ * 2 ^ 17 + b₂ * 2 ^ 9 + b₃ * 2 + b₄ / 128, b₄ % 2 * 256 + b₅)
  | _ => none

/-- The PCR of a packet whose adaptation field starts behind six bytes. -/
def decodePcr (packet : List Nat) : Option (Nat × Nat) := readPcr ((packet.drop 6).take 6)

/-- Bits of the PTS field: 4 of prefix, then 3, 15 and 15 bits, each with a marker. -/
def decodePts (p : PesTime) : Nat :=
  p.pts39_16 / 2 ^ 17 % 8 * 2 ^ 30 + p.pts39_16 / 2 % 2 ^ 15 * 2 ^ 15 + p.pts15_0 / 2 % 2 ^ 15

/-! ### The bits of a byte -/

theorem lowBits (x k : Nat) : x &&& (2 ^ k - 1) = x % 2 ^ k := Nat.and_two_pow_sub_one_eq_mod x k

/-- The byte with the lowest bit of the base and the highest of the extension. -/
theorem flagByte (base ext : Nat) :
    ((base &&& 1) <<< 7) ||| 0x7e ||| ((ext >>> 8) &&& 1)
      = base % 2 * 128 + 126 + ext / 256 % 2 := by
  have hbits : ∀ a < 2, ∀ b < 2, (a <<< 7) ||| 0x7e ||| b = a * 128 + 126 + b := by decide
  have h := hbits (base % 2) (Nat.mod_lt _ (by decide)) (ext / 256 % 2) (Nat.mod_lt _ (by decide))
  rw [Nat.and_one_is_mod, Nat.and_one_is_mod, Nat.shiftRight_eq_div_pow]
  exact h

theorem pcrField_eq (base ext : Nat) :
    pcrField base ext =
      [base / 2 ^ 25 % 256, base / 2 ^ 17 % 256, base / 2 ^ 9 % 256,
        base % 2 * 128 + 126 + ext / 256 % 2, ext % 256] := by
  unfold pcrField
  rw [flagByte]
  have hbyte : ∀ x : Nat, x &&& 0xff = x % 256 := fun x => lowBits x 8
  simp only [hbyte, Nat.shiftRight_eq_div_pow]

theorem ptsWords_eq (PTS : Nat) :
    ptsWords PTS =
      ⟨(33 + PTS / 2 ^ 30 % 8 * 2) * 2 ^ 16 + PTS / 2 ^ 22 % 256 * 2 ^ 8
          + (PTS / 2 ^ 15 % 128 * 2 + 1),
        PTS / 2 ^ 7 % 256 * 2 ^ 8 + (PTS % 128 * 2 + 1)⟩ := by
  have h3 : ∀ x : Nat, x &&& 7 = x % 8 := fun x => lowBits x 3
  have h7 : ∀ x : Nat, x &&& 0x7f = x % 128 := fun x => lowBits x 7
  have h8 : ∀ x : Nat, x &&& 0xff = x % 256 := fun x => lowBits x 8
  have hmarked : ∀ x : Nat, (x <<< 1) ||| 1 = x * 2 + 1 := fun x => by
    rw [← Nat.shiftLeft_add_eq_or_of_lt (by decide), Nat.shiftLeft_eq]
  have hlead : ∀ x < 8, 0x20 ||| (x <<< 1) ||| 1 = 33 + x * 2 := by decide
  have hword : ∀ a b : Nat, b < 2 ^ 8 → (a <<< 8) ||| b = a * 2 ^ 8 + b := fun a b hb => by
    rw [← Nat.shiftLeft_add_eq_or_of_lt hb, Nat.shiftLeft_eq]
  have hlow : PTS / 2 ^ 15 % 128 * 2 + 1 < 2 ^ 8 := by omega
  have hlow' : PTS % 128 * 2 + 1 < 2 ^ 8 := by omega
  unfold ptsWords
  simp only [h3, h7, h8, hmarked, Nat.shiftRight_eq_div_pow]
  rw [hlead _ (Nat.mod_lt _ (by decide)), Nat.or_assoc, hword _ _ hlow, hword _ _ hlow',
    ← Nat.shiftLeft_add_eq_or_of_lt (by omega), Nat.shiftLeft_eq, Nat.add_assoc]

/-- The low bits of a number are its bits from `i` on and the ones below. -/
theorem splitBits (x i j : Nat) : x % 2 ^ (i + j) = x / 2 ^ i % 2 ^ j * 2 ^ i + x % 2 ^ i := by
  rw [Nat.pow_add, Nat.mod_mul, Nat.mul_comm (2 ^ i), Nat.add_comm]

theorem splitBits_above (x i j k : Nat) :
    x / 2 ^ i % 2 ^ (j + k) = x / 2 ^ (i + j) % 2 ^ k * 2 ^ j + x / 2 ^ i % 2 ^ j := by
  rw [splitBits, Nat.div_div_eq_div_mul, ← Nat.pow_add]

/-! ### Reading back -/

/-- The PTS words carry the low 33 bits. -/
theorem decodePts_words (PTS : Nat) : decodePts (ptsWords PTS) = PTS % 2 ^ 33 := by
  have htop : PTS % 2 ^ 33 = PTS / 2 ^ 30 % 2 ^ 3 * 2 ^ 30 + PTS % 2 ^ 30 := splitBits PTS 30 3
  have hmid : PTS % 2 ^ 30 = PTS / 2 ^ 15 % 2 ^ 15 * 2 ^ 15 + PTS % 2 ^ 15 := splitBits PTS 15 15
  have hword : PTS / 2 ^ 15 % 2 ^ 15 = PTS / 2 ^ 22 % 2 ^ 8 * 2 ^ 7 + PTS / 2 ^ 15 % 2 ^ 7 :=
    splitBits_above PTS 15 7 8
  have hlow : PTS % 2 ^ 15 = PTS / 2 ^ 7 % 2 ^ 8 * 2 ^ 7 + PTS % 2 ^ 7 := splitBits PTS 7 8
  have hread : ∀ a b c : Nat, a < 8 → b < 256 → c < 128 →
      ((33 + a * 2) * 2 ^ 16 + b * 2 ^ 8 + (c * 2 + 1)) / 2 ^ 17 % 8 = a
        ∧ ((33 + a * 2) * 2 ^ 16 + b * 2 ^ 8 + (c * 2 + 1)) / 2 % 2 ^ 15 = b * 2 ^ 7 + c := by
    intro a b c ha hb hc
    exact ⟨by omega, by omega⟩
  have hread' : ∀ d e : Nat, d < 256 → e < 128 →
      (d * 2 ^ 8 + (e * 2 + 1)) / 2 % 2 ^ 15 = d * 2 ^ 7 + e := by
    intro d e hd he
    omega
  rw [htop, hmid, hword, hlow, ptsWords_eq]
  unfold decodePts
  dsimp only
  obtain ⟨h₁, h₂⟩ := hread (PTS / 2 ^ 30 % 8) (PTS / 2 ^ 22 % 256) (PTS / 2 ^ 15 % 128)
    (Nat.mod_lt _ (by decide)) (Nat.mod_lt _ (by decide)) (Nat.mod_lt _ (by decide))
  rw [h₁, h₂, hread' _ _ (Nat.mod_lt _ (by decide)) (Nat.mod_lt _ (by decide))]
  exact Nat.add_assoc _ _ _

theorem readPcr_field (base ext next : Nat) :
    readPcr (pcrField base ext ++ [next]) =
      some (base / 2 ^ 9 % 2 ^ 24 * 2 ^ 9 + (base % 2 * 128 + 126 + ext / 256 % 2) * 2
          + ext % 256 / 128, ext % 256 % 2 * 256 + next) := by
  have htop : base / 2 ^ 9 % 2 ^ 24
      = base / 2 ^ 25 % 2 ^ 8 * 2 ^ 16 + base / 2 ^ 9 % 2 ^ 16 := splitBits_above base 9 16 8
  have hmid : base / 2 ^ 9 % 2 ^ 16
      = base / 2 ^ 17 % 2 ^ 8 * 2 ^ 8 + base / 2 ^ 9 % 2 ^ 8 := splitBits_above base 9 8 8
  rw [pcrField_eq, htop, hmid]
  simp only [List.cons_append, List.nil_append, readPcr, Option.some.injEq, Prod.mk.injEq, and_true]
  generalize base / 2 ^ 25 % 2 ^ 8 = u, base / 2 ^ 17 % 2 ^ 8 = v, base / 2 ^ 9 % 2 ^ 8 = w
  generalize base % 2 * 128 + 126 + ext / 256 % 2 = x
  generalize ext % 256 / 128 = y
  omega

/-- The byte behind the packet is read as the low byte of the extension. -/
theorem decodePcr_packet {timeUs : Nat} {packet : List Nat} (next : Nat)
    (h : pcrPacket timeUs = some packet) :
    decodePcr (packet ++ [next]) =
      readPcr (pcrField (timeUs * 27 / 300) (timeUs * 27 % 300) ++ [next]) := by
  unfold pcrPacket mulInt64 at h
  split at h
  · simp only [Option.map_some, Option.some.injEq] at h
    rw [← h]
    rfl
  · cases h

/-! ### Both time stamps of a frame -/

/-- Both fields decode to the time of the frame, and to the same tick of 90 kHz. -/
def TimestampsHold (timeUs : Nat) (next : UInt8) : Prop :=
  ∃ packet pes base ext, pcrPacket timeUs = some packet ∧ pesTime timeUs = some pes
    ∧ decodePcr (packet ++ [next.toNat]) = some (base, ext)
    ∧ base * 300 + ext = timeUs * 27 % (2 ^ 33 * 300)
    ∧ decodePts pes = timeUs * 9 / 100 % 2 ^ 33
    ∧ base = decodePts pes

/-- The byte that is missing is the one written behind it, and what is read in the
    place of that one and of the last byte fits the extension. -/
def FitsWithoutByte (base ext : Nat) (next : UInt8) : Prop :=
  base / 2 % 256 = base % 2 * 128 + 126 + ext / 256 ∧ base % 2 = ext / 128 % 2
    ∧ ext / 256 = ext % 2 ∧ next.toNat = ext % 256

theorem digits_iff {u v w x y z l n : Nat} (hv : v < 256) (hw : w < 2) (hx : x < 2)
    (hl : l < 256) (hn : n < 256) :
    (u + (w * 128 + 126 + z) * 2 + x = u + (v * 2 + w) ∧ y * 256 + n = z * 256 + l)
      ↔ v = w * 128 + 126 + z ∧ w = x ∧ z = y ∧ n = l := by
  constructor
  · rintro ⟨h₁, h₂⟩
    exact ⟨by omega, by omega, by omega, by omega⟩
  · rintro ⟨h₁, h₂, h₃, h₄⟩
    exact ⟨by omega, by omega⟩

/-- What is read is right in both digits exactly when the missing byte makes no
    difference. -/
theorem pcrDigits_iff {base ext : Nat} (hext : ext < 300) (next : UInt8) :
    (base / 2 ^ 9 % 2 ^ 24 * 2 ^ 9 + (base % 2 * 128 + 126 + ext / 256 % 2) * 2 + ext % 256 / 128
        = base % 2 ^ 33 ∧ ext % 256 % 2 * 256 + next.toNat = ext)
      ↔ FitsWithoutByte base ext next := by
  have htop : base % 2 ^ 33 = base / 2 ^ 9 % 2 ^ 24 * 2 ^ 9 + base % 2 ^ 9 := splitBits base 9 24
  have hlow : base % 2 ^ 9 = base / 2 % 256 * 2 + base % 2 := splitBits base 1 8
  have hbit : ext % 256 / 128 = ext / 128 % 2 := by omega
  have hbit' : ext / 256 % 2 = ext / 256 := by omega
  have hbit'' : ext % 256 % 2 = ext % 2 := by omega
  have hsplit : ext / 256 * 256 + ext % 256 = ext := by omega
  rw [htop, hlow, hbit, hbit', hbit'']
  refine Iff.trans (and_congr Iff.rfl ?_) (digits_iff (Nat.mod_lt _ (by decide))
    (Nat.mod_lt _ (by decide)) (Nat.mod_lt _ (by decide)) (Nat.mod_lt ext (by decide)) next.toNat_lt)
  rw [hsplit]

/-- The PCR counts ticks of 90 kHz and of 27 MHz. -/
theorem pcrValue_digits (t : Nat) : t % (2 ^ 33 * 300) = t / 300 % 2 ^ 33 * 300 + t % 300 := by
  rw [Nat.mul_comm, Nat.mod_mul, Nat.add_comm, Nat.mul_comm]

theorem ticks_eq (timeUs : Nat) : timeUs * 9 / 100 = timeUs * 27 / 300 := by
  rw [show timeUs * 27 = timeUs * 9 * 3 by omega, show 300 = 100 * 3 from rfl,
    Nat.mul_div_mul_right _ _ (by decide)]

/-- **The time stamps hold exactly when the missing byte makes no difference.** -/
theorem timestampsHold_iff (timeUs : Nat) (next : UInt8) :
    TimestampsHold timeUs next ↔
      timeUs * 27 < 2 ^ 63 ∧ FitsWithoutByte (timeUs * 27 / 300) (timeUs * 27 % 300) next := by
  have hext : timeUs * 27 % 300 < 300 := Nat.mod_lt _ (by decide)
  unfold TimestampsHold
  rw [pcrValue_digits, ticks_eq, ← pcrDigits_iff hext]
  constructor
  · rintro ⟨packet, pes, base, ext, hpacket, _, hdecode, hvalue, hpts, hbase⟩
    have hrange : timeUs * 27 < 2 ^ 63 := by
      unfold pcrPacket mulInt64 at hpacket
      split at hpacket
      · next h => exact h
      · cases hpacket
    rw [decodePcr_packet _ hpacket, readPcr_field, Option.some.injEq, Prod.mk.injEq] at hdecode
    rw [hpts] at hbase
    rw [hbase] at hvalue hdecode
    refine ⟨hrange, hdecode.1, ?_⟩
    rw [hdecode.2]
    exact Nat.add_left_cancel hvalue
  · rintro ⟨hrange, hbase, hexteq⟩
    obtain ⟨packet, hpacket⟩ : ∃ packet, pcrPacket timeUs = some packet :=
      ⟨_, by rw [pcrPacket, mulInt64, if_pos hrange]; rfl⟩
    have hpes : pesTime timeUs = some (ptsWords (timeUs * 9 / 100)) := by
      rw [pesTime, mulInt64, if_pos (by omega)]; rfl
    have hpts : decodePts (ptsWords (timeUs * 9 / 100)) = timeUs * 27 / 300 % 2 ^ 33 := by
      rw [decodePts_words, ticks_eq]
    refine ⟨packet, _, _, _, hpacket, hpes,
      (decodePcr_packet _ hpacket).trans (readPcr_field _ _ _), ?_, hpts, ?_⟩
    · rw [hbase, hexteq]
    · rw [hbase, hpts]

/-- After one second the base is read as 89852 instead of 90000, whatever follows. -/
theorem oneSecond_lost : ¬∃ next, TimestampsHold 1000000 next := by
  rintro ⟨next, packet, pes, base, ext, hpacket, _, hdecode, hvalue, _, _⟩
  have hnext : next.toNat < 256 := next.toNat_lt
  rw [decodePcr_packet _ hpacket, readPcr_field, Option.some.injEq, Prod.mk.injEq] at hdecode
  obtain ⟨rfl, rfl⟩ := hdecode
  simp only [Nat.reduceMul, Nat.reduceDiv, Nat.reducePow, Nat.reduceMod, Nat.reduceAdd] at hvalue
  omega

end ExynosHal.TsmuxTimestamp
