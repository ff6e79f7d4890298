import Pasteboard.Text.Unpictured

/-!
# How values are spelled in messages

Diagnostics name identifiers, waiting times, texts and structured values. This module spells them:

* identifiers in lower-case hexadecimal digits, and durations in the largest unit that leaves a
  whole number in front of the point;
* names and paths between double quotes, where `quoteChar` says how one character is spelled: the
  quote and the backslash behind a backslash, the usual short forms of control characters, a code
  point for every character that would not show, and all others as they are;
* structured values by their names, with arguments in parentheses, named fields in braces and
  lists in brackets. An optional value is `None` or wrapped in `Some`.
-/

namespace Pasteboard

/-! ### Numerals and durations -/

/-- Lower-case hexadecimal digits without leading zeros. -/
def hexDigits (n : Nat) : List Char := Nat.toDigits 16 n

/-- At least `width` lower-case hexadecimal digits. -/
def hexPadded (width n : Nat) : String :=
  String.ofList (List.replicate (width - (hexDigits n).length) '0' ++ hexDigits n)

/-- A hexadecimal numeral with its `0x` mark. -/
def hexMarked (n : Nat) : String := "0x" ++ String.ofList (hexDigits n)

/-- A waiting time in milliseconds. -/
structure Duration where
  millis : Nat
deriving DecidableEq

/-- The thousandths of a second below one, as the digits after the point without final zeros. -/
def thousandths (n : Nat) : List Char :=
  let digits := Nat.toDigits 10 n
  let padded := List.replicate (3 - digits.length) '0' ++ digits
  (padded.reverse.dropWhile (· == '0')).reverse

/-- Whole and broken seconds from one second on, whole milliseconds below, and no time at all as
zero nanoseconds. -/
def Duration.text (duration : Duration) : String :=
  let seconds := duration.millis / 1000
  let rest := duration.millis % 1000
  if duration.millis = 0 then "0ns"
  else if seconds = 0 then toString rest ++ "ms"
  else if rest = 0 then toString seconds ++ "s"
  else toString seconds ++ "." ++ String.ofList (thousandths rest) ++ "s"

/-! ### Quoted text -/

/-- The code point of a character between braces. -/
def codePointEscape (c : Char) : List Char :=
  ['\\', 'u', '\x7b'] ++ hexDigits c.toNat ++ ['\x7d']

/-- One character inside quotes. -/
def quoteChar (c : Char) : List Char :=
  if c = '\x00' then ['\\', '0']
  else if c = '\t' then ['\\', 't']
  else if c = '\n' then ['\\', 'n']
  else if c = '\r' then ['\\', 'r']
  else if c = '"' then ['\\', '"']
  else if c = '\\' then ['\\', '\\']
  else if c.toNat < 0x20 then codePointEscape c
  else if c.toNat < 0x7f then [c]
  else if isUnpictured c then codePointEscape c
  else [c]

/-- A text between double quotes. -/
def quote (text : String) : String :=
  String.ofList (['"'] ++ text.toList.flatMap quoteChar ++ ['"'])

/-! ### Structured values -/

namespace Spelled

/-- A name with one argument. -/
def wrapped (name argument : String) : String := name ++ "(" ++ argument ++ ")"

/-- An optional value. -/
def option {α : Type} (spell : α → String) : Option α → String
  | some value => wrapped "Some" (spell value)
  | none => "None"

/-- A list. -/
def list {α : Type} (spell : α → String) (values : List α) : String :=
  "[" ++ String.intercalate ", " (values.map spell) ++ "]"

/-- A name with named fields. -/
def record (name : String) (fields : List (String × String)) : String :=
  name ++ " \x7b " ++ String.intercalate ", " (fields.map fun (field, value) => field ++ ": " ++ value)
    ++ " \x7d"

end Spelled

end Pasteboard
