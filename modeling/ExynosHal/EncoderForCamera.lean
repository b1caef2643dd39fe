/-
  ExynosHal/EncoderForCamera.lean
  ===============================
  **The stream that the camera encoder puts together.**

  `ProcessExif` and `FinishCompression` of
  `libhwjpeg/ExynosJpegEncoderForCamera.cpp`, on the memory that holds the buffer of
  the caller.  Between the two the main image is compressed to the place that
  `ProcessExif` chose, and the thumbnail to a buffer of its own: what the compressors
  deliver is an input of the model.
-/
import Mathlib.Algebra.Group.Int.Defs
import ExynosHal.AppMarkerWriter

namespace ExynosHal.EncoderForCamera

open ExynosHal.ByteMemory ExynosHal.AppMarkerWriter

def NECESSARY_JPEG_LENGTH : Nat := 0x24B + 2 * JPEG_MARKER_SIZE

/-- The members that the two functions read. -/
structure Encoder where
  streamBase : Nat
  streamSize : Nat
  width : UInt32
  height : UInt32
  thumbWidth : UInt32
  thumbHeight : UInt32
  noStreambaseAlign : Bool
  hwfc : Bool
  appWriter : Writer

/-- The checks of the sizes in `ProcessExif`. -/
def Encoder.sizesMatch (enc : Encoder) (exif : ExifAttribute) : Bool :=
  decide (exif.width = enc.width ∧ exif.height = enc.height)
    && (!exif.enableThumb
      || decide (exif.widthThumb = enc.thumbWidth ∧ exif.heightThumb = enc.thumbHeight))

/-- Whether space for the thumbnail is reserved. -/
def reserveThumbspace (limit : Nat) (exif : Option ExifAttribute) : Bool :=
  match exif with
  | none => false
  | some e => e.enableThumb && !decide (limit < JPEG_MAX_SEGMENT_SIZE * 10)

/-- `ProcessExif`: the result, the memory and the writer. -/
def Encoder.processExif (t : TagCodes) (enc : Encoder) (m : Mem) (exif : Option ExifAttribute)
    (extra : Option (List AppInfo)) : Bool × Mem × Writer :=
  if exif.any fun e => !enc.sizesMatch e then (false, m, enc.appWriter)
  else
    let align := if enc.noStreambaseAlign then 1 else 16
    let w := (enc.appWriter.prepareAppWriter (enc.streamBase + JPEG_MARKER_SIZE) exif extra).1
    if enc.streamSize ≤ w.calculateAPPSize 0 + NECESSARY_JPEG_LENGTH then (false, m, w)
    else
      let reserve_thumbspace := reserveThumbspace enc.streamSize exif
      let (m, w) := w.write t m reserve_thumbspace JPEG_MARKER_SIZE align enc.hwfc
      (true, m, w)

/-- The size that `encode` hands to the main compressor: an `int` that becomes a `size_t`. -/
def mainLimit (enc : Encoder) (w : Writer) : Nat :=
  ((((enc.streamSize : Int) - (sizeSub w.mainBase enc.streamBase : Nat)).bmod (2 ^ 32))
    % 2 ^ 64).toNat

/-- The loop of `RemoveTrailingDummies`. -/
def lastEOI (m : Mem) (base : Nat) : Nat → Nat
  | 0 => 0
  | riter + 1 =>
      if m (base + (riter + 1)) = 0xFF ∧ m (base + (riter + 1) + 1) = 0xD9 then riter + 1 + 2
      else lastEOI m base riter

/-- `RemoveTrailingDummies`. -/
def removeTrailingDummies (m : Mem) (base len : Nat) : Nat := lastEOI m base (sizeSub len 2)

/-- What the compressors deliver: the bytes at the place of the main stream, the
    stream of the thumbnail (nothing if its thread is lost), and the stream of a
    second compression with a limit. -/
structure Compressed where
  main : List UInt8
  thumb : Option (List UInt8)
  retry : Nat → List UInt8

/-- `max_thumb` of `FinishCompression`. -/
def maxThumb (enc : Encoder) (w : Writer) (mainlen : Nat) : Nat :=
  min w.maxThumbSize (sizeSub (sizeSub enc.streamSize (w.calculateAPPSize 0)) mainlen)

/-- The stream of the thumbnail after the second compression, if one was needed. -/
def thumbStream (enc : Encoder) (w : Writer) (mainlen : Nat) (thumb : List UInt8)
    (retry : Nat → List UInt8) : List UInt8 :=
  if maxThumb enc w mainlen < thumb.length then retry (maxThumb enc w mainlen) else thumb

/-- The memory after the thumbnail was put in. -/
def embedThumb (w : Writer) (m : Mem) (mainlen : Nat) (thumb : List UInt8) : Mem :=
  let m :=
    if w.isThumbSpaceReserved then m
    else w.updateApp1Size
      (m.move (w.app1End + thumb.length) w.app1End (mainlen + sizeSub w.mainBase w.app1End))
      thumb.length
  let m := if 0 < thumb.length then (w.finalize (m.write w.thumbBase thumb) thumb.length).1 else m
  if w.isThumbSpaceReserved then
    m.fill (w.thumbBase + thumb.length) 0
      ((sizeSub w.maxThumbSize thumb.length + JPEG_APP1_OEM_RESERVED) % 2 ^ 64)
  else m

/-- `FinishCompression`: the memory and the length of the stream. -/
def Encoder.finishCompression (enc : Encoder) (w : Writer) (m : Mem) (mainlen : Nat)
    (thumb : Option (List UInt8)) (retry : Nat → List UInt8) : Option (Mem × Nat) :=
  let mainlen := removeTrailingDummies m w.mainBase mainlen
  let m := m.write w.mainBase [0, 0]
  let finish := fun (m : Mem) (thumblen : Nat) =>
    some (m.write enc.streamBase [0xFF, 0xD8], (w.calculateAPPSize thumblen + mainlen) % 2 ^ 64)
  if w.thumbBase = 0 then finish m 0
  else
    match thumb with
    | none => none
    | some thumb =>
        let stream := thumbStream enc w mainlen thumb retry
        if maxThumb enc w mainlen < thumb.length ∧ stream.length = 0 then none
        else if !w.isThumbSpaceReserved && decide (enc.streamBase + enc.streamSize <
            w.mainBase + mainlen + stream.length - JPEG_MARKER_SIZE) then none
        else finish (embedThumb w m mainlen stream) stream.length

/-- `encode` from `ProcessExif` on, with what the compressors deliver. -/
def Encoder.encode (t : TagCodes) (enc : Encoder) (m : Mem) (exif : Option ExifAttribute)
    (extra : Option (List AppInfo)) (c : Compressed) : Option (Mem × Nat) :=
  let (ok, m, w) := enc.processExif t m exif extra
  if ok then
    enc.finishCompression w (m.write w.mainBase c.main) c.main.length c.thumb c.retry
  else none

end ExynosHal.EncoderForCamera
