import Pasteboard.Format
import Pasteboard.Text.Spelling
import Pasteboard.Picture.Graphics
import Pasteboard.Text.Utf16

/-!
# Payloads

The clipboard carries byte strings. Most formats are byte strings anyway; bitmaps, palettes and
metafiles are graphics objects, which `Data.encode` flattens into a payload and `Data.decode`
rebuilds from one. `Format.shape` says what kind of value a format carries.
-/

namespace Pasteboard

/-- A value of a format, as its program holds it. -/
inductive Data where
  | bytes (data : Bytes)
  | bitmap (handle : Handle)
  | palette (handle : Handle)
  | enhMetafile (handle : Handle)
  | metafilePict (pict : MetafilePict)
deriving DecidableEq

namespace Data

/-- Wide text with its final zero. -/
def unicodeText (text : String) : Data :=
  bytes (Utf16.toBytes (Utf16.encode text.toList) ++ [0, 0])

/-- The byte string, if the value is one. -/
def bytes? : Data → Option Bytes
  | bytes data => some data
  | _ => none

/-- The handle of the graphics object, if the value is or has one. -/
def handle? : Data → Option Handle
  | bytes _ => none
  | bitmap handle => some handle
  | palette handle => some handle
  | enhMetafile handle => some handle
  | metafilePict pict => pict.metafile

end Data

/-- The kinds of values. -/
inductive Shape where
  | memory
  | bitmap
  | palette
  | enhMetafile
  | metafilePict
deriving DecidableEq

/-- The kind of value that a format carries. -/
def Format.shape (format : Format) : Shape :=
  if format = Format.bitmap ∨ format = Format.dspBitmap then .bitmap
  else if format = Format.palette then .palette
  else if format = Format.enhMetafile ∨ format = Format.dspEnhMetafile then .enhMetafile
  else if format = Format.metafilePict ∨ format = Format.dspMetafilePict then .metafilePict
  else .memory

/-- How a kind of value is called in messages. -/
def Shape.shown : Shape → String
  | memory => "a memory block"
  | bitmap => "a bitmap"
  | palette => "a palette"
  | enhMetafile => "an enhanced metafile"
  | metafilePict => "a metafile picture"

/-- What is wrong with a payload. -/
inductive PayloadFault where
  | noMetafile
  | truncatedHeader
  | invalidRowSize
  | truncatedBits
  | truncatedEntries
  | noMetafileBits
deriving DecidableEq

/-- The wording of a payload fault. -/
def PayloadFault.shown : PayloadFault → String
  | noMetafile => "no metafile"
  | truncatedHeader => "truncated header"
  | invalidRowSize => "invalid row size"
  | truncatedBits => "truncated bits"
  | truncatedEntries => "truncated entries"
  | noMetafileBits => "no metafile bits"

/-- Why a value cannot be flattened or rebuilt. -/
inductive PayloadError where
  /-- The value is not of the kind that the format carries. -/
  | mismatch (format : Format) (expected : Shape)
  /-- An empty byte string would be taken for a placeholder. -/
  | empty
  /-- The size does not fit its field. -/
  | tooLarge (size : Nat)
  /-- A graphics object lacks a flat form. -/
  | objectUnavailable (handle : Handle) (kind : BitsKind)
  | malformed (format : Format) (fault : PayloadFault)
  /-- The pixels belong to another program. -/
  | unsupportedCrossProcess (format : Format)
  /-- The graphics table refused the flat form. -/
  | reconstruct (format : Format)
deriving DecidableEq

/-- The wording of a payload error. -/
def PayloadError.message : PayloadError → String
  | mismatch format expected => format.shown ++ " data must be given as " ++ expected.shown
  | empty => "Empty data cannot be put"
  | tooLarge size => toString size ++ " bytes of data do not fit the wire size"
  | objectUnavailable handle kind =>
    "The graphics object " ++ Spelled.wrapped "GdiHandle" (hexMarked handle.raw.toNat) ++ " has no "
      ++ kind.shown ++ " representation"
  | malformed format fault => "Malformed " ++ format.shown ++ " payload: " ++ fault.shown
  | unsupportedCrossProcess format =>
    format.shown ++ " payloads cannot be transferred between processes"
  | reconstruct format => "The graphics subsystem refused the " ++ format.shown ++ " payload"

/-- A form of an object that may be missing. -/
def Graphics.fetch (graphics : Graphics) (kind : BitsKind) (handle : Handle) :
    Except PayloadError Bytes :=
  match graphics.fetch? kind handle with
  | some bits => .ok bits
  | none => .error (.objectUnavailable handle kind)

namespace Data

/-- The header and pixel rows of a bitmap, the rows being as many bytes as the header says. -/
def encodeBitmap (graphics : Graphics) (handle : Handle) : Except PayloadError Bytes := do
  let flat ← graphics.fetch .bitmapHeader handle
  match BitmapHeader.parse? flat with
  | none => throw (.objectUnavailable handle .bitmapHeader)
  | some header =>
    match graphics.extract? .bitmapBits handle header.bitsSize with
    | none => throw (.objectUnavailable handle .bitmapBits)
    | some bits => return header.write ++ bits

/-- A version word, the number of entries and the whole entries of a palette. -/
def encodePalette (graphics : Graphics) (handle : Handle) : Except PayloadError Bytes := do
  let entries ← graphics.fetch .palette handle
  let count := entries.length / 4
  if count < 65536 then
    return Bytes.ofU16 0x300 ++ Bytes.ofU16 (UInt16.ofNat count) ++ entries.take (count * 4)
  else throw (.tooLarge entries.length)

/-- The header of a picture and its metafile. -/
def encodePict (graphics : Graphics) (format : Format) (pict : MetafilePict) :
    Except PayloadError Bytes :=
  match pict.metafile with
  | none => .error (.malformed format .noMetafile)
  | some handle => do
    let bits ← graphics.fetch .metafile handle
    return pict.write ++ bits

/-- The payload before its size is checked. -/
def flatten (graphics : Graphics) (format : Format) (data : Data) : Except PayloadError Bytes :=
  match format.shape, data with
  | .bitmap, bitmap handle => encodeBitmap graphics handle
  | .palette, palette handle => encodePalette graphics handle
  | .enhMetafile, enhMetafile handle => graphics.fetch .enhMetafile handle
  | .metafilePict, metafilePict pict => encodePict graphics format pict
  | .memory, bytes data => if data.isEmpty then .error .empty else .ok data
  | shape, _ => .error (.mismatch format shape)

/-- The payload of a value. -/
def encode (graphics : Graphics) (format : Format) (data : Data) : Except PayloadError Bytes := do
  let payload ← flatten graphics format data
  if payload.length < 4294967296 then return payload else throw (.tooLarge payload.length)

/-- Adds the object of a flat form, or says that the payload was refused. -/
def rebuild (graphics : Graphics) (format : Format) (kind : BitsKind) (bytes : Bytes) :
    Except PayloadError (Handle × Graphics) :=
  match graphics.reconstruct? kind bytes with
  | some result => .ok result
  | none => .error (.reconstruct format)

/-- Rebuilds a bitmap. The rows must be there in the size that the header's own row field gives,
and the pixels must not belong to someone else. -/
def decodeBitmap (graphics : Graphics) (format : Format) (payload : Bytes) :
    Except PayloadError (Data × Graphics) :=
  match BitmapHeader.parse? payload with
  | none => .error (.malformed format .truncatedHeader)
  | some header =>
    if header.widthBytes < 0 then .error (.malformed format .invalidRowSize)
    else if payload.length - BitmapHeader.headerSize
        < header.widthBytes.toInt.toNat * header.height.toInt.natAbs then
      .error (.malformed format .truncatedBits)
    else if header.bits ≠ 0 then .error (.unsupportedCrossProcess format)
    else do
      let (handle, graphics) ← rebuild graphics format .bitmapBits payload
      return (bitmap handle, graphics)

/-- Rebuilds a palette from as many entries as are announced. -/
def decodePalette (graphics : Graphics) (format : Format) (payload : Bytes) :
    Except PayloadError (Data × Graphics) :=
  match Bytes.u16? (payload.drop 2) with
  | none => .error (.malformed format .truncatedHeader)
  | some (count, _) =>
    let size := 4 + count.toNat * 4
    if payload.length < size then .error (.malformed format .truncatedEntries)
    else do
      let (handle, graphics) ← rebuild graphics format .palette (payload.take size)
      return (palette handle, graphics)

/-- Rebuilds the metafile behind a picture header. -/
def decodePict (graphics : Graphics) (format : Format) (payload : Bytes) :
    Except PayloadError (Data × Graphics) :=
  if payload.length ≤ MetafilePict.headerSize then .error (.malformed format .noMetafileBits)
  else match MetafilePict.parse? payload with
  | none => .error (.malformed format .truncatedHeader)
  | some pict => do
    let (handle, graphics) ←
      rebuild graphics format .metafile (payload.drop MetafilePict.headerSize)
    return (metafilePict { pict with metafile := some handle }, graphics)

/-- The value of a payload, and the graphics table with the object rebuilt for it. -/
def decode (graphics : Graphics) (format : Format) (payload : Bytes) :
    Except PayloadError (Data × Graphics) :=
  match format.shape with
  | .memory => .ok (bytes payload, graphics)
  | .bitmap =>
    if format = Format.dspBitmap then .error (.unsupportedCrossProcess format)
    else decodeBitmap graphics format payload
  | .palette => decodePalette graphics format payload
  | .enhMetafile => do
    let (handle, graphics) ← rebuild graphics format .enhMetafile payload
    return (enhMetafile handle, graphics)
  | .metafilePict => decodePict graphics format payload

end Data

end Pasteboard
