import Pasteboard.Picture.Dib
import Pasteboard.Picture.Bitmap

/-!
# Graphics objects

Bitmaps, palettes and metafiles live in a table of their program and are known by handles. A handle
means nothing to another program, so objects are flattened into bytes and rebuilt from them.
`Object.bits?` gives the flat forms of an object, `Object.ofBits?` the object of a flat form, and
`Graphics` is the table: handles count up from one and no object is ever changed or removed.
-/

namespace Pasteboard

/-- A flat form of a graphics object. -/
inductive BitsKind where
  /-- The header of a bitmap. -/
  | bitmapHeader
  /-- The pixel rows of a bitmap; behind its header when an object is rebuilt. -/
  | bitmapBits
  /-- The entries of a palette; behind a header when an object is rebuilt. -/
  | palette
  /-- A packed bitmap with the short header. -/
  | dib
  /-- A packed bitmap with the long header. -/
  | dibV5
  /-- An enhanced metafile. -/
  | enhMetafile
  /-- The frame of an enhanced metafile: left, top, right, bottom. -/
  | enhMetafileFrame
  /-- A metafile. -/
  | metafile
  /-- A metafile made from an enhanced one; behind a picture header when an enhanced metafile is
  made from it. -/
  | winMetafile
deriving DecidableEq

/-- How a flat form is called in messages. -/
def BitsKind.shown : BitsKind → String
  | bitmapHeader => "BitmapHeader"
  | bitmapBits => "BitmapBits"
  | palette => "Palette"
  | dib => "Dib"
  | dibV5 => "DibV5"
  | enhMetafile => "EnhMetafile"
  | enhMetafileFrame => "EnhMetafileFrame"
  | metafile => "Metafile"
  | winMetafile => "WinMetafile"

/-- All kinds of flat forms. -/
def BitsKind.all : List BitsKind :=
  [bitmapHeader, bitmapBits, palette, dib, dibV5, enhMetafile, enhMetafileFrame, metafile,
   winMetafile]

/-- A graphics object. The rows of a bitmap are stored top row first; an enhanced metafile starts
with its frame of 16 bytes. -/
inductive Object where
  | bitmap (header : BitmapHeader) (bits : Bytes)
  | palette (entries : Bytes)
  | enhMetafile (data : Bytes)
  | metafile (data : Bytes)
deriving DecidableEq

namespace Object

/-- What metafiles made from enhanced ones start with. -/
def mark : Bytes := [0x57, 0x4d, 0x46]

/-- A bitmap with its own pixels. -/
def ofRows (width height : Int32) (bitsPixel : UInt16) (bits : Bytes) : Object :=
  bitmap (BitmapHeader.ofSize width height bitsPixel) bits

/-- An enhanced metafile. -/
def ofFrame (left top right bottom : Int32) (records : Bytes) : Object :=
  enhMetafile (Bytes.ofI32 left ++ (Bytes.ofI32 top ++ (Bytes.ofI32 right ++ (Bytes.ofI32 bottom
    ++ records))))

/-- A bitmap as a packed one: rows stay in order, so the height turns negative, and each is padded
to the wider row size. -/
def packed (layout : DibLayout) (header : BitmapHeader) (bits : Bytes) : Bytes :=
  let rows := Bytes.rows (BitmapHeader.rowBytes header.width header.bitsPixel) bits
  (DibHeader.ofSize header.width (-header.height) header.bitsPixel).write layout
    ++ rows.flatMap (Bytes.resize (Dib.rowStride header.width header.bitsPixel))

/-- A flat form of an object, if the object has it. -/
def bits? : BitsKind → Object → Option Bytes
  | .bitmapHeader, bitmap header _ => some header.write
  | .bitmapBits, bitmap _ bits => some bits
  | .dib, bitmap header bits => some (packed .short header bits)
  | .dibV5, bitmap header bits => some (packed .long header bits)
  | .palette, palette entries => some entries
  | .enhMetafile, enhMetafile data => some data
  | .enhMetafileFrame, enhMetafile data => some (data.take 16)
  | .winMetafile, enhMetafile data => some (mark ++ data.drop 16)
  | .metafile, metafile data => some data
  | _, _ => none

/-- The bitmap of a packed one with 24 or 32 bits per pixel. Its rows are turned over unless the
packed height is negative. Sizes are counted without a bound, so a header that claims rows beyond
any word of 64 bits is one whose rows are missing; a program that counts in such words stops
at it. -/
def ofDib? (bytes : Bytes) : Option Object :=
  match DibHeader.parse? bytes with
  | none => none
  | some dib =>
    let height := dib.height.toInt.natAbs
    let stride := Dib.rowStride dib.width dib.bitCount
    if dib.bitCount ≠ 24 ∧ dib.bitCount ≠ 32 then none
    else if bytes.length < dib.infoSize + stride * height then none
    else
      let stored := Bytes.rows stride ((bytes.drop dib.infoSize).take (stride * height))
      let rows := if 0 < dib.height then stored.reverse else stored
      some (ofRows dib.width (Int32.ofNat height) dib.bitCount
        (rows.flatMap fun row => row.take (BitmapHeader.rowBytes dib.width dib.bitCount)))

/-- The bitmap of a bitmap header and the pixel rows behind it. -/
def ofBitmapBits? (bytes : Bytes) : Option Object :=
  match BitmapHeader.parse? bytes with
  | none => none
  | some header =>
    if bytes.length < BitmapHeader.headerSize + header.bitsSize then none
    else some (bitmap header ((bytes.drop BitmapHeader.headerSize).take header.bitsSize))

/-- The enhanced metafile of a picture header and the metafile behind it. -/
def ofPicture? (bytes : Bytes) : Option Object :=
  match MetafilePict.parse? bytes with
  | none => none
  | some pict =>
    let records := bytes.drop MetafilePict.headerSize
    some (ofFrame 0 0 pict.xExt pict.yExt
      (if mark.isPrefixOf records then records.drop mark.length else records))

/-- The object of a flat form. -/
def ofBits? : BitsKind → Bytes → Option Object
  | .bitmapBits, bytes => ofBitmapBits? bytes
  | .palette, bytes => if bytes.length < 4 then none else some (palette (bytes.drop 4))
  | .dib, bytes => ofDib? bytes
  | .dibV5, bytes => ofDib? bytes
  | .enhMetafile, bytes => if bytes.length < 16 then none else some (enhMetafile bytes)
  | .metafile, bytes => if bytes.isEmpty then none else some (metafile bytes)
  | .winMetafile, bytes => ofPicture? bytes
  | _, _ => none

end Object

/-- A flat form that is reported wrongly: its size, its bytes or both. -/
structure Misreport where
  kind : BitsKind
  handle : Handle
  size : Option Nat
  bits : Option Bytes

/-- The graphics objects of a program. Reports of flat forms may be wrong, and flat forms of some
kinds may be refused. -/
structure Graphics where
  objects : List Object
  misreports : List Misreport
  refused : List BitsKind

namespace Graphics

/-- No objects, no misreports. -/
def empty : Graphics := ⟨[], [], []⟩

/-- The object with a handle. -/
def object? (graphics : Graphics) (handle : Handle) : Option Object :=
  graphics.objects[handle.raw.toNat - 1]?

/-- Adds an object under the next handle, unless handles have run out. -/
def insert? (graphics : Graphics) (object : Object) : Option (Handle × Graphics) :=
  if h : graphics.objects.length + 1 < 4294967296 then
    some (⟨UInt32.ofNat (graphics.objects.length + 1), by
      intro hzero
      have := congrArg UInt32.toNat hzero
      rw [UInt32.toNat_ofNat', Nat.mod_eq_of_lt (by omega)] at this
      simp at this⟩, { graphics with objects := graphics.objects ++ [object] })
  else none

/-- The misreport of a flat form, the first one counting. -/
def misreport? (graphics : Graphics) (kind : BitsKind) (handle : Handle) : Option Misreport :=
  graphics.misreports.find? fun entry => entry.kind == kind && entry.handle == handle

/-- The true flat form of an object. -/
def bits? (graphics : Graphics) (kind : BitsKind) (handle : Handle) : Option Bytes :=
  (graphics.object? handle).bind (Object.bits? kind)

/-- The reported size of a flat form, zero if there is none. -/
def querySize (graphics : Graphics) (kind : BitsKind) (handle : Handle) : Nat :=
  let actual := ((graphics.bits? kind handle).map List.length).getD 0
  match graphics.misreport? kind handle with
  | some entry => (entry.size <|> entry.bits.map List.length).getD actual
  | none => actual

/-- A flat form, if it is available and has exactly the size expected. -/
def extract? (graphics : Graphics) (kind : BitsKind) (handle : Handle) (size : Nat) :
    Option Bytes :=
  let reported := ((graphics.misreport? kind handle).bind (·.bits)) <|> graphics.bits? kind handle
  reported.filter fun bits => bits.length == size

/-- Asks for the size of a flat form and then for the form itself. That there is memory for a buffer
of that size is taken for granted, also where a misreport asks for more than there can be. -/
def fetch? (graphics : Graphics) (kind : BitsKind) (handle : Handle) : Option Bytes :=
  let size := graphics.querySize kind handle
  if size = 0 then none else graphics.extract? kind handle size

/-- Adds the object of a flat form. -/
def rebuild? (graphics : Graphics) (kind : BitsKind) (bytes : Bytes) :
    Option (Handle × Graphics) :=
  (Object.ofBits? kind bytes).bind graphics.insert?

/-- Adds the object of a flat form, unless the kind is refused. -/
def reconstruct? (graphics : Graphics) (kind : BitsKind) (bytes : Bytes) :
    Option (Handle × Graphics) :=
  if graphics.refused.contains kind then none else graphics.rebuild? kind bytes

end Graphics

end Pasteboard
