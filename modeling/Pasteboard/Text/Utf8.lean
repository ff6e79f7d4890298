import Pasteboard.Bytes

/-!
# UTF-8

A character takes one to four bytes. `Utf8.next` reads what a byte string starts with: a character,
or a broken part, which is the longest start of a character that no further byte completes (one byte
if no character starts there). `Utf8.pieces` cuts a whole byte string that way; strict decoding
accepts it if nothing is broken, lossy decoding writes the replacement character for each broken
part.
-/

namespace Pasteboard.Utf8

/-- The bytes of one character. -/
def encodeChar (c : Char) : Bytes :=
  let n := c.toNat
  if n < 0x80 then [UInt8.ofNat n]
  else if n < 0x800 then [UInt8.ofNat (0xc0 + n / 64), UInt8.ofNat (0x80 + n % 64)]
  else if n < 0x10000 then
    [UInt8.ofNat (0xe0 + n / 4096), UInt8.ofNat (0x80 + n / 64 % 64), UInt8.ofNat (0x80 + n % 64)]
  else
    [UInt8.ofNat (0xf0 + n / 262144), UInt8.ofNat (0x80 + n / 4096 % 64),
     UInt8.ofNat (0x80 + n / 64 % 64), UInt8.ofNat (0x80 + n % 64)]

/-- The bytes of a text. -/
def encode (text : List Char) : Bytes := text.flatMap encodeChar

/-- Whether a byte continues a character. -/
def isTail (b : UInt8) : Bool := decide (0x80 ≤ b) && decide (b ≤ 0xbf)

/-- Whether `b` may follow the first byte `lead` of a character of three or four bytes; this leaves
out longer spellings of small code points, surrogates and numbers past the last code point. -/
def isSecond (lead b : UInt8) : Bool :=
  if lead = 0xe0 then decide (0xa0 ≤ b) && decide (b ≤ 0xbf)
  else if lead = 0xed then decide (0x80 ≤ b) && decide (b ≤ 0x9f)
  else if lead = 0xf0 then decide (0x90 ≤ b) && decide (b ≤ 0xbf)
  else if lead = 0xf4 then decide (0x80 ≤ b) && decide (b ≤ 0x8f)
  else isTail b

/-- A character of two bytes. -/
def next2 (lead : UInt8) : Bytes → Option Char × Bytes
  | b :: rest =>
    if isTail b then (some (Char.ofNat (lead.toNat % 32 * 64 + b.toNat % 64)), rest)
    else (none, b :: rest)
  | [] => (none, [])

/-- A character of three bytes. -/
def next3 (lead : UInt8) : Bytes → Option Char × Bytes
  | b :: c :: rest =>
    if !isSecond lead b then (none, b :: c :: rest)
    else if isTail c then
      (some (Char.ofNat (lead.toNat % 16 * 4096 + b.toNat % 64 * 64 + c.toNat % 64)), rest)
    else (none, c :: rest)
  | [b] => (none, if isSecond lead b then [] else [b])
  | [] => (none, [])

/-- A character of four bytes. -/
def next4 (lead : UInt8) : Bytes → Option Char × Bytes
  | b :: c :: d :: rest =>
    if !isSecond lead b then (none, b :: c :: d :: rest)
    else if !isTail c then (none, c :: d :: rest)
    else if isTail d then
      (some (Char.ofNat (lead.toNat % 8 * 262144 + b.toNat % 64 * 4096 + c.toNat % 64 * 64
        + d.toNat % 64)), rest)
    else (none, d :: rest)
  | [b, c] => (none, if !isSecond lead b then [b, c] else if isTail c then [] else [c])
  | [b] => (none, if isSecond lead b then [] else [b])
  | [] => (none, [])

/-- What starts with the byte `lead`: a character or, as `none`, a broken part; and what follows. -/
def next (lead : UInt8) (rest : Bytes) : Option Char × Bytes :=
  if lead < 0x80 then (some (Char.ofNat lead.toNat), rest)
  else if lead < 0xc2 then (none, rest)
  else if lead < 0xe0 then next2 lead rest
  else if lead < 0xf0 then next3 lead rest
  else if lead < 0xf5 then next4 lead rest
  else (none, rest)

theorem next2_length_le (lead : UInt8) (rest : Bytes) :
    (next2 lead rest).2.length ≤ rest.length := by
  unfold next2
  repeat' split
  all_goals simp

theorem next3_length_le (lead : UInt8) (rest : Bytes) :
    (next3 lead rest).2.length ≤ rest.length := by
  unfold next3
  repeat' split
  all_goals (simp <;> omega)

theorem next4_length_le (lead : UInt8) (rest : Bytes) :
    (next4 lead rest).2.length ≤ rest.length := by
  unfold next4
  repeat' split
  all_goals (simp <;> omega)

theorem next_length_le (lead : UInt8) (rest : Bytes) :
    (next lead rest).2.length ≤ rest.length := by
  unfold next
  repeat' split
  all_goals first
    | exact Nat.le_refl _
    | exact next2_length_le ..
    | exact next3_length_le ..
    | exact next4_length_le ..

/-- The pieces of a byte string behind those already found, which stand in reverse order. -/
def piecesAfter (found : List (Option Char)) : Bytes → List (Option Char)
  | [] => found.reverse
  | lead :: rest => piecesAfter ((next lead rest).1 :: found) (next lead rest).2
termination_by bytes => bytes.length
decreasing_by
  have := next_length_le lead rest
  simp only [List.length_cons]
  omega

/-- The characters and, as `none`, the broken parts of a byte string in order. -/
def pieces (bytes : Bytes) : List (Option Char) := piecesAfter [] bytes

/-- The text of a byte string without broken parts. -/
def decode? (bytes : Bytes) : Option (List Char) :=
  let found := pieces bytes
  if found.all Option.isSome then some (found.filterMap id) else none

/-- The text of any byte string, with a replacement character for each broken part. -/
def decodeLossy (bytes : Bytes) : List Char :=
  (pieces bytes).map (·.getD '\uFFFD')

end Pasteboard.Utf8
