/-
  ExynosHal/ExifUpdate.lean
  =========================
  **New attributes in an APP1 that is there already.**

  `UpdateExif` writes the directories of the new attributes over the old segment.
  It leaves the length field, the link of the 0th directory to the one of the
  thumbnail and everything behind the directories, and takes for granted that the
  old segment has the same layout (`update_spec`).  Nothing compares the two: the
  directories stay in the segment if they happen to fit, and the thumbnail is found
  if the old link happens to stand where the new one is looked for.
-/
import ExynosHal.ExifSegment

namespace ExynosHal.ExifUpdate

open ExynosHal.ByteMemory ExynosHal.TiffDirectory ExynosHal.AppMarkerWriter ExynosHal.ExifLayout
open ExynosHal.ExifSegment

/-! ### The function -/

/-- `Update`, which is `WriteAPP1` with `updating` set: no length, no end of the 0th
    directory and no 1st one. -/
def update (t : TagCodes) (w : Writer) (m : Mem) (current : Nat) : Mem :=
  match w.exif with
  | none => m
  | some e =>
      let m := m.write current [0xFF, 0xE1]
      let m := m.write (current + JPEG_MARKER_SIZE + JPEG_SEGMENT_LENFIELD_SIZE)
        (ExifIdentifierCode ++ TiffHeader)
      let tiffheader :=
        current + JPEG_MARKER_SIZE + JPEG_SEGMENT_LENFIELD_SIZE + ExifIdentifierCode.length
      (writeMainIFDs t e w.nExifIFDFields w.nGPSIFDFields
        (IFDWriter.new m tiffheader (tiffheader + TiffHeader.length) w.n0thIFDFields)).mem

/-- The writer that `UpdateExif` constructs; without debug data there are no extra
    segments. -/
def updateWriter (base : Nat) (exif : ExifAttribute) : Writer :=
  (freshWriter.prepareAppWriter base (some exif) (some [])).1

/-- `UpdateExif`. -/
def updateExif (t : TagCodes) (m : Mem) (jpeg jpeglen : Nat) (exif : Option ExifAttribute) :
    Bool × Mem :=
  match exif with
  | none => (true, m)
  | some e =>
      if jpeglen < JPEG_MARKER_SIZE * 2 + JPEG_SEGMENT_LENFIELD_SIZE then (false, m)
      else if m jpeg ≠ 0xFF ∨ m (jpeg + 1) ≠ 0xD8 then (false, m)
      else if m (jpeg + 2) ≠ 0xFF ∨ m (jpeg + 3) ≠ 0xE1 then (false, m)
      else if jpeglen < getSegLen m (jpeg + 2 + JPEG_MARKER_SIZE) then (false, m)
      else (true, update t (updateWriter (jpeg + 2) e) m (jpeg + 2))

/-! ### The thumbnail of a file -/

/-- The byte order that the header names, `true` for the one with the high byte first. -/
def byteOrder (m : Mem) (tiff : Nat) : Option Bool :=
  if m.read tiff 4 = [0x4D, 0x4D, 0, 0x2A] then some true
  else if m.read tiff 4 = [0x49, 0x49, 0x2A, 0] then some false
  else none

def number (big : Bool) (bs : List UInt8) : Nat := if big then ofBe bs else ofLe bs

/-- The offset of the directory that follows the one at `p`. -/
def nextLink (m : Mem) (big : Bool) (p : Nat) : Nat :=
  number big (m.read (p + 2 + 12 * number big (m.read p 2)) 4)

/-- The value of the first field with the given tag in the directory at `p`. -/
def longValue (m : Mem) (big : Bool) (p tag : Nat) : Option Nat :=
  ((List.range (number big (m.read p 2))).find? fun i =>
    number big (m.read (p + 2 + 12 * i) 2) = tag).map fun i =>
      number big (m.read (p + 2 + 12 * i + 8) 4)

/-- Place and length of the thumbnail that the directory at `p` locates. -/
def thumbnailIn (t : TagCodes) (m : Mem) (big : Bool) (tiff p : Nat) : Option (Nat × Nat) :=
  match longValue m big p (t .jpegInterchangeFormat).toNat,
    longValue m big p (t .jpegInterchangeFormatLen).toNat with
  | some offset, some len => some (tiff + offset, len)
  | _, _ => none

/-- The thumbnail that the 1st directory of the file locates. -/
def thumbnail (t : TagCodes) (m : Mem) (tiff : Nat) : Option (Nat × Nat) :=
  match byteOrder m tiff with
  | none => none
  | some big =>
      let link := nextLink m big (tiff + number big (m.read (tiff + 4) 4))
      if link = 0 then none else thumbnailIn t m big tiff (tiff + link)

section Reading

variable {t : TagCodes} {m m' : Mem} {big : Bool} {tiff p tag bound : Nat}

end Reading

/-! ### What an update leaves -/

/-- The bytes that end the directories. -/
def tailBytes (e : ExifAttribute) : List UInt8 :=
  if e.enableGps then
    if e.hasProcessingMethod then processingMethodBytes e
    else IFDWriter.rationalBytes e.gps_timestamp.toList
  else le 4 0

section Tail

variable {t : TagCodes} {e : ExifAttribute} {m : Mem} {tiff p next : Nat} {es : List Entry}

end Tail

/-- What `update` does to an APP1 at `base`. -/
structure Updated (t : TagCodes) (e : ExifAttribute) (base : Nat) (m m' : Mem) : Prop where
  header : m'.read (base + 10) 8 = TiffHeader
  count : m'.read (base + 18) 2 = le 2 e.n0thIFDFields
  link : m'.read (base + 20 + 12 * e.n0thIFDFields) 4 = m.read (base + 20 + 12 * e.n0thIFDFields) 4
  tail : m'.read (base + 10 + firstOffset t e - (tailBytes e).length) (tailBytes e).length =
    tailBytes e
  keeps : Mem.Keeps m m' fun x => (base ≤ x ∧ x < base + 2) ∨
    (base + 4 ≤ x ∧ x < base + 10 + firstOffset t e)

structure Call where
  mem : Mem
  jpeg : Nat
  jpeglen : Nat
  exif : Option ExifAttribute

namespace Call

def run (t : TagCodes) (c : Call) : Bool × Mem := updateExif t c.mem c.jpeg c.jpeglen c.exif

def app1 (c : Call) : Nat := c.jpeg + 2

def tiff (c : Call) : Nat := c.app1 + 10

/-- The end of the segment that the stream has. -/
def app1End (c : Call) : Nat := c.app1 + 2 + getSegLen c.mem (c.app1 + 2)

/-- The call on a stream with `b` at `x`. -/
def withByte (c : Call) (x : Nat) (b : UInt8) : Call :=
  { c with mem := fun y => if y = x then b else c.mem y }

/-- The call stores something at `x`: what stands there in the end does not depend on
    what stood there. -/
def Stores (t : TagCodes) (c : Call) (x : Nat) : Prop :=
  ∀ b, ((c.withByte x b).run t).2 x = (c.run t).2 x

/-- What a call that returns `true` is to keep. -/
structure Keeps (t : TagCodes) (c : Call) : Prop where
  outside : ∀ x, x < c.app1 ∨ c.app1End ≤ x → (c.run t).2 x = c.mem x
  past : ∀ x, c.app1End ≤ x → ¬ c.Stores t x
  thumbnail : ∀ p n, thumbnail t c.mem c.tiff = some (p, n) →
    ∃ p' n', thumbnail t (c.run t).2 c.tiff = some (p', n') ∧
      (c.run t).2.read p' n' = c.mem.read p n

/-- The stream starts with SOI and APP1, and it is as long as it has to be. -/
def Accepted (c : Call) : Prop :=
  JPEG_MARKER_SIZE * 2 + JPEG_SEGMENT_LENFIELD_SIZE ≤ c.jpeglen ∧
    c.mem c.jpeg = 0xFF ∧ c.mem (c.jpeg + 1) = 0xD8 ∧
    c.mem (c.jpeg + 2) = 0xFF ∧ c.mem (c.jpeg + 3) = 0xE1 ∧
    getSegLen c.mem (c.jpeg + 4) ≤ c.jpeglen

/-- The directories of the new attributes fit in the segment. -/
def Fits (t : TagCodes) (c : Call) (e : ExifAttribute) : Prop :=
  c.tiff + firstOffset t e ≤ c.app1End

/-- What stands where the new 0th directory has its link. -/
def newLink (c : Call) (e : ExifAttribute) : Nat :=
  ofLe (c.mem.read (c.tiff + 10 + 12 * e.n0thIFDFields) 4)

/-- This link leads to a directory with the thumbnail. -/
def Linked (t : TagCodes) (c : Call) (e : ExifAttribute) : Prop :=
  ∀ p n, ExifUpdate.thumbnail t c.mem c.tiff = some (p, n) → c.newLink e ≠ 0 ∧
    ∃ p' n', thumbnailIn t c.mem false c.tiff (c.tiff + c.newLink e) = some (p', n') ∧
      c.mem.read p' n' = c.mem.read p n

variable {t : TagCodes} {c : Call} {e : ExifAttribute}

/-- A byte that the checks do not read. -/
theorem Accepted.withByte (h : c.Accepted) {x : Nat} (hx : c.tiff ≤ x) (b : UInt8) :
    (c.withByte x b).Accepted := by
  have hother : ∀ y, y < c.tiff → (c.withByte x b).mem y = c.mem y := by
    intro y hy
    exact if_neg (by omega)
  have htiff : c.tiff = c.jpeg + 12 := rfl
  have hseg : getSegLen (c.withByte x b).mem (c.jpeg + 4) = getSegLen c.mem (c.jpeg + 4) :=
    congrArg ofBe (Mem.read_congr fun y _ hyn => hother y (by omega))
  obtain ⟨hlen, hff, hd8, hff', he1, hle⟩ := h
  exact ⟨hlen, (hother c.jpeg (by omega)).trans hff, (hother (c.jpeg + 1) (by omega)).trans hd8,
    (hother (c.jpeg + 2) (by omega)).trans hff', (hother (c.jpeg + 3) (by omega)).trans he1,
    Nat.le_trans (Nat.le_of_eq hseg) hle⟩

end Call

end ExynosHal.ExifUpdate
