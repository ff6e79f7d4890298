import Pasteboard.Bytes

/-!
# Packed device-independent bitmaps

A packed bitmap is a header, three colour masks if the pixels are described by masks, a table of
colours and the pixel rows. The short header has 40 bytes; the long one has 124 and starts with the
same fields. `DibHeader.parse?` reads the shared fields, `DibHeader.write` lays them out again, and
`Dib.convert?` moves a packed bitmap from one header to the other, keeping masks, colours and rows.
-/

namespace Pasteboard

/-- The size of the short header. -/
def Dib.shortSize : Nat := 40

/-- The size of the long header. -/
def Dib.longSize : Nat := 124

/-- The header layouts. -/
inductive DibLayout where
  | short
  | long
deriving DecidableEq

/-- The size of a header in a layout. -/
def DibLayout.size : DibLayout → Nat
  | short => Dib.shortSize
  | long => Dib.longSize

/-- The fields that both headers share. -/
structure DibHeader where
  size : UInt32
  width : Int32
  height : Int32
  planes : UInt16
  bitCount : UInt16
  compression : UInt32
  sizeImage : UInt32
  xPelsPerMeter : Int32
  yPelsPerMeter : Int32
  clrUsed : UInt32
  clrImportant : UInt32
deriving DecidableEq

/-- The compression of plain pixels. -/
def Dib.plain : UInt32 := 0

/-- The compression of pixels that are described by masks. -/
def Dib.masked : UInt32 := 3

/-- The size of one row of pixels, padded to a multiple of four bytes. -/
def Dib.rowStride (width : Int32) (bitCount : UInt16) : Nat :=
  (width.toInt.natAbs * bitCount.toNat + 31) / 32 * 4

namespace DibHeader

/-- The header of plain pixels. -/
def ofSize (width height : Int32) (bitCount : UInt16) : DibHeader where
  size := 40
  width := width
  height := height
  planes := 1
  bitCount := bitCount
  compression := Dib.plain
  sizeImage := UInt32.ofNat (Dib.rowStride width bitCount * height.toInt.natAbs)
  xPelsPerMeter := 0
  yPelsPerMeter := 0
  clrUsed := 0
  clrImportant := 0

/-- Reads the shared fields off the front of a byte string. -/
def read? (bytes : Bytes) : Option (DibHeader × Bytes) := do
  let (size, bytes) ← Bytes.u32? bytes
  let (width, bytes) ← Bytes.i32? bytes
  let (height, bytes) ← Bytes.i32? bytes
  let (planes, bytes) ← Bytes.u16? bytes
  let (bitCount, bytes) ← Bytes.u16? bytes
  let (compression, bytes) ← Bytes.u32? bytes
  let (sizeImage, bytes) ← Bytes.u32? bytes
  let (xPelsPerMeter, bytes) ← Bytes.i32? bytes
  let (yPelsPerMeter, bytes) ← Bytes.i32? bytes
  let (clrUsed, bytes) ← Bytes.u32? bytes
  let (clrImportant, bytes) ← Bytes.u32? bytes
  return (⟨size, width, height, planes, bitCount, compression, sizeImage, xPelsPerMeter,
    yPelsPerMeter, clrUsed, clrImportant⟩, bytes)

/-- The header of a packed bitmap, unless the bytes are shorter than the header they claim or claim
one shorter than the short header. -/
def parse? (bytes : Bytes) : Option DibHeader :=
  match read? bytes with
  | some (header, _) =>
    if header.size.toNat < Dib.shortSize || bytes.length < header.size.toNat then none
    else some header
  | none => none

/-- How many entries the table of colours has. -/
def colors (header : DibHeader) : Nat :=
  if header.clrUsed ≠ 0 then min header.clrUsed.toNat 256
  else if header.bitCount ≤ 8 then 1 <<< header.bitCount.toNat
  else 0

/-- The size of the colour masks behind a short header. -/
def masksSize (header : DibHeader) : Nat :=
  if header.compression = Dib.masked then 12 else 0

/-- The size of the header with the colour masks. -/
def headerAndMasksSize (header : DibHeader) : Nat :=
  max header.size.toNat (Dib.shortSize + header.masksSize)

/-- The size of all that precedes the pixel rows. -/
def infoSize (header : DibHeader) : Nat :=
  header.headerAndMasksSize + header.colors * 4

/-- The size of the pixel rows, counted without a bound. -/
def bitsSize (header : DibHeader) : Nat :=
  Dib.rowStride header.width header.bitCount * header.height.toInt.natAbs

/-- The shared fields with the size of a layout. -/
def writeShared (header : DibHeader) (layout : DibLayout) : Bytes :=
  Bytes.ofU32 (UInt32.ofNat layout.size)
    ++ (Bytes.ofI32 header.width
    ++ (Bytes.ofI32 header.height
    ++ (Bytes.ofU16 header.planes
    ++ (Bytes.ofU16 header.bitCount
    ++ (Bytes.ofU32 header.compression
    ++ (Bytes.ofU32 header.sizeImage
    ++ (Bytes.ofI32 header.xPelsPerMeter
    ++ (Bytes.ofI32 header.yPelsPerMeter
    ++ (Bytes.ofU32 header.clrUsed
    ++ Bytes.ofU32 header.clrImportant)))))))))

/-- What the long header adds: the tag of the standard colour space, and the intent to render
pictures; all else is zero. -/
def longTail : Bytes :=
  List.replicate 16 0 ++ Bytes.ofU32 0x73524742 ++ List.replicate 48 0 ++ Bytes.ofU32 4
    ++ List.replicate 12 0

/-- The header in a layout. -/
def write (header : DibHeader) (layout : DibLayout) : Bytes :=
  match layout with
  | .short => header.writeShared .short
  | .long => header.writeShared .long ++ longTail

end DibHeader

/-- Moves a packed bitmap to a layout: the fields and masks in front are kept as far as the layout
has room and filled up with zeros, the size is set, and colours and rows are copied as they are.
Fails if the header does not parse or nothing follows the colours. -/
def Dib.convert? (bytes : Bytes) (layout : DibLayout) : Option Bytes :=
  match DibHeader.parse? bytes with
  | none => none
  | some header =>
    if bytes.length ≤ header.infoSize then none
    else
      let fixed := match layout with
        | .short => Dib.shortSize + header.masksSize
        | .long => Dib.longSize
      let front := Bytes.resize fixed (bytes.take header.headerAndMasksSize)
      some (Bytes.ofU32 (UInt32.ofNat layout.size) ++ front.drop 4
        ++ bytes.drop header.headerAndMasksSize)

end Pasteboard
