import Pasteboard.Desktop.Message
import Pasteboard.Text.Utf8

/-!
# Fields of message bodies

A body is one byte that says what it is, followed by fields: words, windows and formats as 32-bit
numbers, and byte strings and lists behind a 32-bit count. `Fields` reads fields in order; a body
must be used up exactly.
-/

namespace Pasteboard

/-- The codes within a body. -/
inductive CodeKind where
  | getStatus
  | viewerReply
  | status
deriving DecidableEq

/-- How a kind of code is called in messages. -/
def CodeKind.shown : CodeKind → String
  | getStatus => "get status"
  | viewerReply => "viewer reply"
  | status => "status"

/-- What is wrong with a body. -/
inductive BodyError where
  | truncated
  | trailingBytes (count : Nat)
  | unknownOpcode (opcode : UInt8)
  | unknownCode (kind : CodeKind) (code : UInt8)
  | invalidUtf8
deriving DecidableEq

/-- The wording of a body error. -/
def BodyError.message : BodyError → String
  | truncated => "The message body ended early"
  | trailingBytes count =>
    "The message body has " ++ toString count ++ " unexpected trailing bytes"
  | unknownOpcode opcode => "Unknown opcode 0x" ++ hexPadded 2 opcode.toNat
  | unknownCode kind code => "Unknown " ++ kind.shown ++ " code " ++ toString code.toNat
  | invalidUtf8 => "A string field is not valid UTF-8"

/-- A reader of fields, which leaves what follows them. -/
abbrev Fields := StateT Bytes (Except BodyError)

namespace Fields

/-- A field that may be cut off. -/
def ofOption {α : Type} (read? : Bytes → Option (α × Bytes)) : Fields α := fun bytes =>
  match read? bytes with
  | some result => .ok result
  | none => .error .truncated

/-- One byte. -/
def byte : Fields UInt8 := ofOption fun
  | b :: rest => some (b, rest)
  | [] => none

/-- One word. -/
def word : Fields UInt32 := ofOption Bytes.u32?

/-- A format. -/
def format : Fields Format := do return ⟨← word⟩

/-- A window or none. -/
def window : Fields (Option WindowId) := do return WindowId.ofRaw? (← word)

/-- A window. -/
def requiredWindow : Fields WindowId := do
  match ← window with
  | some window => return window
  | none => throw .truncated

/-- Splits off as many bytes as are asked for. -/
def take? (count : Nat) (bytes : Bytes) : Option (Bytes × Bytes) :=
  if bytes.length < count then none else some (bytes.take count, bytes.drop count)

/-- A byte string behind its length. -/
def bytes : Fields Bytes := do
  let count ← word
  ofOption (take? count.toNat)

/-- A text behind its length in bytes. -/
def text : Fields String := do
  match Utf8.decode? (← bytes) with
  | some text => return String.ofList text
  | none => throw .invalidUtf8

/-- Words, as many as are asked for. -/
def words? : Nat → Bytes → Option (List UInt32 × Bytes)
  | 0, bytes => some ([], bytes)
  | count + 1, bytes => do
    let (word, bytes) ← Bytes.u32? bytes
    let (words, bytes) ← words? count bytes
    return (word :: words, bytes)

/-- Words behind their count. A count for which there are too few bytes is refused at once. -/
def words : Fields (List UInt32) := do
  let count ← word
  if (← get).length / 4 < count.toNat then throw .truncated
  ofOption (words? count.toNat)

/-- Reads a whole body. -/
def run {α : Type} (fields : Fields α) (body : Bytes) : Except BodyError α :=
  match StateT.run fields body with
  | .ok (value, []) => .ok value
  | .ok (_, rest) => .error (.trailingBytes rest.length)
  | .error error => .error error

end Fields

namespace Bytes

/-- A window or none. -/
def ofWindow (window : Option WindowId) : Bytes := ofU32 (WindowId.rawOf window)

/-- A format. -/
def ofFormat (format : Format) : Bytes := ofU32 format.id

/-- A byte string behind its length. -/
def counted (bytes : Bytes) : Bytes := ofU32 (UInt32.ofNat bytes.length) ++ bytes

/-- A text behind its length in bytes. -/
def ofText (text : String) : Bytes := counted (Utf8.encode text.toList)

/-- Words behind their count. -/
def ofWords (words : List UInt32) : Bytes :=
  ofU32 (UInt32.ofNat words.length) ++ words.flatMap ofU32

end Bytes

end Pasteboard
