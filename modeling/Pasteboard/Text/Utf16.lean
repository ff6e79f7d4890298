import Pasteboard.Bytes

/-!
# UTF-16

Wide text is a list of 16-bit units, a character beyond the first 65536 taking a pair of
surrogates. `Utf16.pieces` reads characters and unpaired surrogates; `Utf16.ofBytes` and
`Utf16.toBytes` lay units out as bytes, low byte first.
-/

namespace Pasteboard.Utf16

/-- The units of one character. -/
def encodeChar (c : Char) : List UInt16 :=
  let n := c.toNat
  if n < 0x10000 then [UInt16.ofNat n]
  else [UInt16.ofNat (0xd800 + (n - 0x10000) / 1024), UInt16.ofNat (0xdc00 + (n - 0x10000) % 1024)]

/-- The units of a text. -/
def encode (text : List Char) : List UInt16 := text.flatMap encodeChar

/-- Whether a unit is the first of a pair. -/
def isHigh (unit : UInt16) : Bool := decide (0xd800 ≤ unit) && decide (unit ≤ 0xdbff)

/-- Whether a unit is the second of a pair. -/
def isLow (unit : UInt16) : Bool := decide (0xdc00 ≤ unit) && decide (unit ≤ 0xdfff)

/-- The character that a pair of surrogates stands for. -/
def ofPair (high low : UInt16) : Char :=
  Char.ofNat (0x10000 + (high.toNat - 0xd800) * 1024 + (low.toNat - 0xdc00))

/-- The pieces of a list of units behind those already found, which stand in reverse order. -/
def piecesAfter (found : List (Option Char)) : List UInt16 → List (Option Char)
  | [] => found.reverse
  | [unit] =>
    (if isHigh unit || isLow unit then none :: found
      else some (Char.ofNat unit.toNat) :: found).reverse
  | unit :: second :: rest =>
    if isHigh unit then
      if isLow second then piecesAfter (some (ofPair unit second) :: found) rest
      else piecesAfter (none :: found) (second :: rest)
    else if isLow unit then piecesAfter (none :: found) (second :: rest)
    else piecesAfter (some (Char.ofNat unit.toNat) :: found) (second :: rest)

/-- The characters and, as `none`, the unpaired surrogates of a list of units in order. -/
def pieces (units : List UInt16) : List (Option Char) := piecesAfter [] units

/-- The units behind those already read, which stand in reverse order. -/
def unitsAfter (found : List UInt16) : Bytes → List UInt16
  | low :: high :: rest => unitsAfter (UInt16.ofNat (Bytes.toNat [low, high]) :: found) rest
  | _ => found.reverse

/-- The units of a byte string; an odd last byte is ignored. -/
def ofBytes (bytes : Bytes) : List UInt16 := unitsAfter [] bytes

/-- The bytes of a list of units. -/
def toBytes (units : List UInt16) : Bytes := units.flatMap Bytes.ofU16

end Pasteboard.Utf16
