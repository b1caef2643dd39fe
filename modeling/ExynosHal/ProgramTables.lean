/-
  ExynosHal/ProgramTables.lean
  ============================
  **The tables that describe a transport stream.**

  A table is sent as a section: an identifier, the length of what follows, the body, and a
  cyclic redundancy check of 32 bits over all that is before it.  The association table
  lists the programs and where their maps are; a map lists the streams of a program, and
  both the program and its streams can carry descriptors.

  A reader takes a section only if nothing is left when it divides the whole section, the
  check included.  What a writer sends is read back (`decodePmt_bytes`), and a section with
  a burst of up to 32 wrong bits is not taken (`decodeSection_damaged`).
-/
import ExynosHal.Crc
import Mathlib.Data.List.Basic

namespace ExynosHal.ProgramTables

open ExynosHal.Crc

/-! ### Bytes -/

/-- The bits of bytes, the most significant bit of a byte first. -/
def bits (bs : List UInt8) : List Bool := bs.flatMap fun b => bitsOf b.toBitVec

/-- A register as bytes, the most significant byte first. -/
def crcBytes (crc : BitVec 32) : List UInt8 :=
  [24, 16, 8, 0].map fun k => UInt8.ofBitVec (crc.extractLsb' k 8)

def high (n : Nat) : UInt8 := UInt8.ofNat (n / 256)
def low (n : Nat) : UInt8 := UInt8.ofNat n

/-- A number of 16 bits. -/
def two (n : Nat) : List UInt8 := [high n, low n]

def ofTwo (a b : UInt8) : Nat := a.toNat * 256 + b.toNat

@[simp] theorem bits_append (xs ys : List UInt8) : bits (xs ++ ys) = bits xs ++ bits ys := by
  simp [bits]

@[simp] theorem bits_cons (x : UInt8) (xs : List UInt8) :
    bits (x :: xs) = bitsOf x.toBitVec ++ bits xs := rfl

theorem length_bits (bs : List UInt8) : (bits bs).length = 8 * bs.length := by
  induction bs with
  | nil => rfl
  | cons b bs ih => simp [ih, Nat.mul_add, Nat.add_comm]

@[simp] theorem length_crcBytes (crc : BitVec 32) : (crcBytes crc).length = 4 := rfl

theorem bits_crcBytes (crc : BitVec 32) : bits (crcBytes crc) = bitsOf crc := by
  simp [bits, crcBytes, bitsOf, List.range_succ, BitVec.getMsbD_eq_getLsbD]

theorem ofTwo_two {n : Nat} (h : n < 65536) : ofTwo (high n) (low n) = n := by
  simp only [ofTwo, high, low, UInt8.toNat_ofNat']
  omega

/-! ### Sections -/

def crcPoly : BitVec 32 := 0x04C11DB7

/-- The check of a section. -/
def remainder (bs : List UInt8) : BitVec 32 := feedAll crcPoly (BitVec.allOnes 32) (bits bs)

/-- A section without its check. -/
def unsealed (table_id : UInt8) (body : List UInt8) : List UInt8 :=
  table_id :: two (0xb000 + (body.length + 4)) ++ body

def sectionBytes (table_id : UInt8) (body : List UInt8) : List UInt8 :=
  unsealed table_id body ++ crcBytes (remainder (unsealed table_id body))

/-- The identifier and the body of a section, if the section has the length that it says,
    the long form, and the right check. -/
def decodeSection : List UInt8 → Option (UInt8 × List UInt8)
  | table_id :: a :: b :: rest =>
      if ofTwo a b / 0x4000 = 2 ∧ ofTwo a b % 0x1000 = rest.length ∧ 4 ≤ rest.length
          ∧ remainder (table_id :: a :: b :: rest) = 0#32 then
        some (table_id, rest.take (rest.length - 4))
      else none
  | _ => none

theorem remainder_sealed (bs : List UInt8) : remainder (bs ++ crcBytes (remainder bs)) = 0#32 := by
  rw [remainder, bits_append, feedAll_append, bits_crcBytes]
  exact feedAll_self

theorem decodeSection_remainder {bs : List UInt8} {t : UInt8 × List UInt8}
    (h : decodeSection bs = some t) : remainder bs = 0#32 := by
  unfold decodeSection at h
  split at h
  · split at h
    · rename_i hok
      exact hok.2.2.2
    · cases h
  · cases h

/-- **A section is read back.** -/
theorem decodeSection_bytes {table_id : UInt8} {body : List UInt8} (h : body.length + 4 < 4096) :
    decodeSection (sectionBytes table_id body) = some (table_id, body) := by
  have hres := remainder_sealed (unsealed table_id body)
  have hword := ofTwo_two (n := 0xb000 + (body.length + 4)) (by omega)
  simp only [unsealed, two, List.cons_append, List.nil_append] at hres
  simp only [sectionBytes, unsealed, two, List.cons_append, List.nil_append, decodeSection, hword,
    hres]
  have hlong : (0xb000 + (body.length + 4)) / 0x4000 = 2 := by omega
  have hlen : (0xb000 + (body.length + 4)) % 0x1000 = body.length + 4 := by omega
  simp [hlong, hlen]

/-- The bits differ in a window of at most 32 bits only. -/
def Damaged (sent received : List UInt8) : Prop :=
  ∃ before window window' after,
    bits sent = before ++ window ++ after ∧ bits received = before ++ window' ++ after
      ∧ window.length = window'.length ∧ window.length ≤ 32 ∧ window ≠ window'

theorem remainder_damaged {sent received : List UInt8} (h : Damaged sent received) :
    remainder sent ≠ remainder received := by
  obtain ⟨before, window, window', after, hsent, hreceived, hlen, hshort, hne⟩ := h
  rw [remainder, remainder, hsent, hreceived]
  exact feedAll_burst (by decide) (by decide) hlen hshort hne

/-- **Damage is seen.**  What differs from a section in a burst of up to 32 bits, its
    identifier, its length and its check included, is not read as a section. -/
theorem decodeSection_damaged {table_id : UInt8} {body received : List UInt8}
    (h : Damaged (sectionBytes table_id body) received) : decodeSection received = none := by
  cases hread : decodeSection received with
  | none => rfl
  | some t =>
      have hsealed : remainder (sectionBytes table_id body) = 0#32 := remainder_sealed _
      exact absurd (hsealed.trans (decodeSection_remainder hread).symm) (remainder_damaged h)

/-! ### The tables -/

structure Program where
  program_number : Nat
  program_map_PID : Nat
deriving DecidableEq, Repr

structure Descriptor where
  tag : UInt8
  data : List UInt8
deriving DecidableEq, Repr

structure Stream where
  stream_type : UInt8
  elementary_PID : Nat
  info : List Descriptor
deriving DecidableEq, Repr

/-- The map of a program. -/
structure Pmt where
  program_number : Nat
  PCR_PID : Nat
  info : List Descriptor
  streams : List Stream
deriving DecidableEq, Repr

def Program.bytes (p : Program) : List UInt8 :=
  two p.program_number ++ two (0xe000 + p.program_map_PID)

/-- The body of an association table: the stream 0, version 1 that is in force, the section
    0 of 0. -/
def patBytes (programs : List Program) : List UInt8 :=
  [0x00, 0x00, 0xc3, 0x00, 0x00] ++ programs.flatMap Program.bytes

def Descriptor.bytes (d : Descriptor) : List UInt8 :=
  d.tag :: UInt8.ofNat d.data.length :: d.data

def infoBytes (ds : List Descriptor) : List UInt8 :=
  two (0xf000 + (ds.flatMap Descriptor.bytes).length) ++ ds.flatMap Descriptor.bytes

def Stream.bytes (s : Stream) : List UInt8 :=
  s.stream_type :: two (0xe000 + s.elementary_PID) ++ infoBytes s.info

/-- The body of a map: the program, version 1 that is in force, the section 0 of 0. -/
def Pmt.bytes (p : Pmt) : List UInt8 :=
  two p.program_number ++ [0xc3, 0x00, 0x00] ++ two (0xe000 + p.PCR_PID) ++ infoBytes p.info
    ++ p.streams.flatMap Stream.bytes

structure Program.Fits (p : Program) : Prop where
  number : p.program_number < 65536
  pid : p.program_map_PID < 0x2000

def Descriptor.Fits (d : Descriptor) : Prop := d.data.length < 256

structure InfoFits (ds : List Descriptor) : Prop where
  each : ∀ d ∈ ds, d.Fits
  length : (ds.flatMap Descriptor.bytes).length < 0x1000

structure Stream.Fits (s : Stream) : Prop where
  pid : s.elementary_PID < 0x2000
  info : InfoFits s.info

structure Pmt.Fits (p : Pmt) : Prop where
  number : p.program_number < 65536
  pid : p.PCR_PID < 0x2000
  info : InfoFits p.info
  streams : ∀ s ∈ p.streams, s.Fits
  length : p.bytes.length + 4 < 4096

/-! ### Reading them -/

def decodePrograms : List UInt8 → Option (List Program)
  | [] => some []
  | a :: b :: c :: d :: rest =>
      (decodePrograms rest).map (⟨ofTwo a b, ofTwo c d % 0x2000⟩ :: ·)
  | _ => none

def decodePat : List UInt8 → Option (List Program)
  | 0x00 :: 0x00 :: 0xc3 :: 0x00 :: 0x00 :: rest => decodePrograms rest
  | _ => none

def decodeDescriptors : List UInt8 → Option (List Descriptor)
  | [] => some []
  | tag :: len :: rest =>
      if len.toNat ≤ rest.length then
        (decodeDescriptors (rest.drop len.toNat)).map (⟨tag, rest.take len.toNat⟩ :: ·)
      else none
  | _ => none
termination_by bs => bs.length
decreasing_by simp; omega

/-- Descriptors behind their length, and what follows them. -/
def decodeInfo : List UInt8 → Option (List Descriptor × List UInt8)
  | a :: b :: rest =>
      let len := ofTwo a b % 0x1000
      if len ≤ rest.length then
        (decodeDescriptors (rest.take len)).map fun ds => (ds, rest.drop len)
      else none
  | _ => none

theorem decodeInfo_length {bs : List UInt8} {ds : List Descriptor} {rest : List UInt8}
    (h : decodeInfo bs = some (ds, rest)) : rest.length < bs.length := by
  unfold decodeInfo at h
  split at h
  · simp only at h
    split at h
    · simp only [Option.map_eq_some_iff, Prod.mk.injEq] at h
      obtain ⟨_, _, _, rfl⟩ := h
      simp
      omega
    · cases h
  · cases h

def decodeStreams : List UInt8 → Option (List Stream)
  | [] => some []
  | stream_type :: a :: b :: rest =>
      match h : decodeInfo rest with
      | some (ds, rest') =>
          (decodeStreams rest').map (⟨stream_type, ofTwo a b % 0x2000, ds⟩ :: ·)
      | none => none
  | _ => none
termination_by bs => bs.length
decreasing_by
  have := decodeInfo_length h
  simp; omega

def decodePmt : List UInt8 → Option Pmt
  | a :: b :: 0xc3 :: 0x00 :: 0x00 :: c :: d :: rest =>
      (decodeInfo rest).bind fun i =>
        (decodeStreams i.2).map fun streams => ⟨ofTwo a b, ofTwo c d % 0x2000, i.1, streams⟩
  | _ => none

theorem decodePrograms_bytes {ps : List Program} (h : ∀ p ∈ ps, p.Fits) :
    decodePrograms (ps.flatMap Program.bytes) = some ps := by
  induction ps with
  | nil => rfl
  | cons p ps ih =>
      have hp := h p (by simp)
      have hpid := hp.pid
      have hnumber := ofTwo_two hp.number
      have hword := ofTwo_two (n := 0xe000 + p.program_map_PID) (by omega)
      have hmod : (0xe000 + p.program_map_PID) % 0x2000 = p.program_map_PID := by omega
      have hrest := ih fun e he => h e (by simp [he])
      simp [Program.bytes, two, decodePrograms, hnumber, hword, hmod, hrest]

theorem decodeDescriptors_bytes {ds : List Descriptor} (h : ∀ d ∈ ds, d.Fits) :
    decodeDescriptors (ds.flatMap Descriptor.bytes) = some ds := by
  induction ds with
  | nil => simp [decodeDescriptors]
  | cons d ds ih =>
      have hlen : (UInt8.ofNat d.data.length).toNat = d.data.length := by
        have hfits : d.data.length < 256 := h d (by simp)
        simp only [UInt8.toNat_ofNat']
        omega
      have hrest := ih fun e he => h e (by simp [he])
      simp [Descriptor.bytes, decodeDescriptors, hlen, hrest]

theorem decodeInfo_bytes {ds : List Descriptor} (h : InfoFits ds) (rest : List UInt8) :
    decodeInfo (infoBytes ds ++ rest) = some (ds, rest) := by
  have hlt := h.length
  have hword := ofTwo_two (n := 0xf000 + (ds.flatMap Descriptor.bytes).length) (by omega)
  have hmod : (0xf000 + (ds.flatMap Descriptor.bytes).length) % 0x1000
      = (ds.flatMap Descriptor.bytes).length := by omega
  simp only [infoBytes, two, List.cons_append, List.nil_append, decodeInfo, hword, hmod]
  simp only [List.length_append, Nat.le_add_right, if_true, List.take_left, List.drop_left,
    decodeDescriptors_bytes h.each, Option.map_some]

theorem decodeStreams_bytes {ss : List Stream} (h : ∀ s ∈ ss, s.Fits) :
    decodeStreams (ss.flatMap Stream.bytes) = some ss := by
  induction ss with
  | nil => simp [decodeStreams]
  | cons s ss ih =>
      have hs := h s (by simp)
      have hpid := hs.pid
      have hword := ofTwo_two (n := 0xe000 + s.elementary_PID) (by omega)
      have hmod : (0xe000 + s.elementary_PID) % 0x2000 = s.elementary_PID := by omega
      have hrest := ih fun e he => h e (by simp [he])
      have hinfo := decodeInfo_bytes hs.info (ss.flatMap Stream.bytes)
      simp only [List.flatMap_cons, Stream.bytes, two, List.cons_append, List.nil_append,
        decodeStreams]
      split
      · rename_i ds rest' hread
        rw [hinfo, Option.some.injEq, Prod.mk.injEq] at hread
        obtain ⟨rfl, rfl⟩ := hread
        simp [hrest, hword, hmod]
      · rename_i hread
        rw [hinfo] at hread
        cases hread

/-- **A map is read back.** -/
theorem decodePmt_bytes {p : Pmt} (h : p.Fits) : decodePmt p.bytes = some p := by
  have hnumber := ofTwo_two h.number
  have hpid := h.pid
  have hword := ofTwo_two (n := 0xe000 + p.PCR_PID) (by omega)
  have hmod : (0xe000 + p.PCR_PID) % 0x2000 = p.PCR_PID := by omega
  simp [Pmt.bytes, two, decodePmt, hnumber, hword, hmod, decodeInfo_bytes h.info,
    decodeStreams_bytes h.streams]

/-! ### Packets -/

/-- A packet that begins with a table: the header of the packet and the pointer to the
    section, which is at once. -/
def tablePacket (pid : Nat) (table_id : UInt8) (body : List UInt8) : List UInt8 :=
  0x47 :: two (0x4000 + pid) ++ [0x10, 0x00] ++ sectionBytes table_id body

/-- The section that a packet begins with, for one that has a payload only. -/
def packetSection : List UInt8 → Option (Nat × List UInt8)
  | 0x47 :: a :: b :: c :: 0x00 :: rest =>
      if ofTwo a b / 0x4000 = 1 ∧ c.toNat / 16 = 1 then some (ofTwo a b % 0x2000, rest) else none
  | _ => none

/-- The body of the table that a packet has, and the packet's number. -/
def packetTable (table_id : UInt8) (packet : List UInt8) : Option (Nat × List UInt8) :=
  (packetSection packet).bind fun p =>
    (decodeSection p.2).bind fun t => if t.1 = table_id then some (p.1, t.2) else none

/-- The map of the program that the two packets describe: the first one says where the map
    of the second is. -/
def readTables (pat pmt : List UInt8) : Option Pmt :=
  (packetTable 0x00 pat).bind fun a =>
    (packetTable 0x02 pmt).bind fun m =>
      (decodePat a.2).bind fun programs =>
        (decodePmt m.2).bind fun p =>
          if a.1 = 0 ∧ ⟨p.program_number, m.1⟩ ∈ programs then some p else none

theorem packetSection_tablePacket {pid : Nat} (h : pid < 0x2000) (table_id : UInt8)
    (body : List UInt8) :
    packetSection (tablePacket pid table_id body) = some (pid, sectionBytes table_id body) := by
  have hword := ofTwo_two (n := 0x4000 + pid) (by omega)
  have hstart : (0x4000 + pid) / 0x4000 = 1 := by omega
  have hmod : (0x4000 + pid) % 0x2000 = pid := by omega
  simp [tablePacket, two, packetSection, hword, hstart, hmod]

theorem packetTable_tablePacket {pid : Nat} (h : pid < 0x2000) (table_id : UInt8)
    {body : List UInt8} (hlen : body.length + 4 < 4096) :
    packetTable table_id (tablePacket pid table_id body) = some (pid, body) := by
  simp [packetTable, packetSection_tablePacket h, decodeSection_bytes hlen]

/-- **The tables are read back.** -/
theorem readTables_tablePacket {p : Pmt} {pid : Nat} (hp : p.Fits) (hpid : pid < 0x2000) :
    readTables (tablePacket 0 0x00 (patBytes [⟨p.program_number, pid⟩]))
      (tablePacket pid 0x02 p.bytes) = some p := by
  have hprograms : decodePat (patBytes [⟨p.program_number, pid⟩]) = some [⟨p.program_number, pid⟩] :=
    decodePrograms_bytes (by simpa using ⟨hp.number, hpid⟩)
  have hpat := packetTable_tablePacket (show 0 < 0x2000 by decide) 0x00
    (show (patBytes [⟨p.program_number, pid⟩]).length + 4 < 4096 by simp [patBytes, Program.bytes, two])
  simp [readTables, hpat, packetTable_tablePacket hpid 0x02 hp.length, hprograms,
    decodePmt_bytes hp]

end ExynosHal.ProgramTables
