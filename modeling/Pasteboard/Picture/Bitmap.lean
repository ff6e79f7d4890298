import Pasteboard.Bytes

/-!
# Headers of bitmaps and metafile pictures

A device-dependent bitmap travels as a header of 32 bytes and its pixel rows, a metafile picture as
a header of 16 bytes and the metafile. The headers are written and read field by field.
-/

namespace Pasteboard

/-- The handle of a graphics object. No object has the handle zero. -/
structure Handle where
  raw : UInt32
  raw_ne_zero : raw ≠ 0
deriving DecidableEq

namespace Handle

/-- The handle with a number; zero stands for none. -/
def ofRaw? (raw : UInt32) : Option Handle :=
  if h : raw = 0 then none else some ⟨raw, h⟩

/-- The number of a handle, zero for none. -/
def rawOf : Option Handle → UInt32
  | some handle => handle.raw
  | none => 0

@[simp] theorem ofRaw?_rawOf (handle : Option Handle) : ofRaw? (rawOf handle) = handle := by
  cases handle with
  | none => rfl
  | some handle => simp [ofRaw?, rawOf, handle.raw_ne_zero]

@[simp] theorem rawOf_ofRaw? (raw : UInt32) : rawOf (ofRaw? raw) = raw := by
  unfold ofRaw?
  split
  · simp [rawOf, *]
  · rfl

end Handle

/-- The header of a device-dependent bitmap. -/
structure BitmapHeader where
  bmType : Int32
  width : Int32
  height : Int32
  widthBytes : Int32
  planes : UInt16
  bitsPixel : UInt16
  /-- Where pixels that belong to someone else lie; zero if the bitmap has its own. -/
  bits : UInt64
deriving DecidableEq

namespace BitmapHeader

/-- The size of the header. -/
def headerSize : Nat := 32

/-- The size of one row of pixels, padded to a multiple of two bytes. -/
def rowBytes (width : Int32) (bitsPixel : UInt16) : Nat :=
  (width.toInt.natAbs * bitsPixel.toNat + 15) / 16 * 2

/-- The header of a bitmap with its own pixels. -/
def ofSize (width height : Int32) (bitsPixel : UInt16) : BitmapHeader where
  bmType := 0
  width := width
  height := height
  widthBytes := Int32.ofNat (rowBytes width bitsPixel)
  planes := 1
  bitsPixel := bitsPixel
  bits := 0

/-- Reads the header off the front of a byte string. -/
def read? (bytes : Bytes) : Option (BitmapHeader × Bytes) := do
  let (bmType, bytes) ← Bytes.i32? bytes
  let (width, bytes) ← Bytes.i32? bytes
  let (height, bytes) ← Bytes.i32? bytes
  let (widthBytes, bytes) ← Bytes.i32? bytes
  let (planes, bytes) ← Bytes.u16? bytes
  let (bitsPixel, bytes) ← Bytes.u16? bytes
  let (_, bytes) ← Bytes.u32? bytes
  let (bits, bytes) ← Bytes.u64? bytes
  return (⟨bmType, width, height, widthBytes, planes, bitsPixel, bits⟩, bytes)

/-- The header at the front of a byte string. -/
def parse? (bytes : Bytes) : Option BitmapHeader := (read? bytes).map (·.1)

/-- The header with four bytes of padding in front of its last field. -/
def write (header : BitmapHeader) : Bytes :=
  Bytes.ofI32 header.bmType
    ++ (Bytes.ofI32 header.width
    ++ (Bytes.ofI32 header.height
    ++ (Bytes.ofI32 header.widthBytes
    ++ (Bytes.ofU16 header.planes
    ++ (Bytes.ofU16 header.bitsPixel
    ++ (Bytes.ofU32 0
    ++ Bytes.ofU64 header.bits))))))

/-- The size of the pixel rows. It is counted without a bound; a header can claim rows that do not
fit into a word of 64 bits, and a program that counts in such words stops at it. -/
def bitsSize (header : BitmapHeader) : Nat :=
  rowBytes header.width header.bitsPixel * header.height.toInt.natAbs

end BitmapHeader

/-- A metafile together with how to map it. -/
structure MetafilePict where
  /-- The mapping mode. -/
  mode : Int32
  xExt : Int32
  yExt : Int32
  metafile : Option Handle
deriving DecidableEq

namespace MetafilePict

/-- The size of the header. -/
def headerSize : Nat := 16

/-- The mapping mode that scales both axes alike. -/
def isotropic : Int32 := 7

/-- The picture at the front of a byte string. -/
def parse? (bytes : Bytes) : Option MetafilePict := do
  let (mode, bytes) ← Bytes.i32? bytes
  let (xExt, bytes) ← Bytes.i32? bytes
  let (yExt, bytes) ← Bytes.i32? bytes
  let (raw, _) ← Bytes.u32? bytes
  return ⟨mode, xExt, yExt, Handle.ofRaw? raw⟩

/-- The header. -/
def write (pict : MetafilePict) : Bytes :=
  Bytes.ofI32 pict.mode
    ++ (Bytes.ofI32 pict.xExt
    ++ (Bytes.ofI32 pict.yExt
    ++ Bytes.ofU32 (Handle.rawOf pict.metafile)))

end MetafilePict

end Pasteboard
