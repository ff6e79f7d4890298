import Pasteboard.Exchange.Stream

/-!
# Frames

A body travels as a frame: its length as a 32-bit word, and the body. Bodies over a limit are
neither written nor read. A stream may end between two frames, not within one.
-/

namespace Pasteboard

/-- Why a stream cannot be opened, written or read. -/
inductive StreamError where
  | unexpectedEnd
  | connectionReset
  | timedOut
  | writeZero
  /-- A body to be written is over the limit. -/
  | frameTooLarge
  /-- The length that was read is over the limit. -/
  | frameOverLimit (length : Nat)
  | notFound
  | invalidPath
deriving DecidableEq

/-- How a stream error is written in messages. -/
def StreamError.shown : StreamError → String
  | unexpectedEnd => "UnexpectedEof"
  | connectionReset => "ConnectionReset"
  | timedOut => "TimedOut"
  | writeZero => "WriteZero"
  | frameTooLarge => "InvalidInput: frame too large"
  | frameOverLimit length => "InvalidData: frame of " ++ toString length ++ " bytes is over the limit"
  | notFound => "NotFound"
  | invalidPath => "InvalidInput"

namespace Frame

/-- The largest body, 256 MiB. -/
def limit : Nat := 268435456

/-- The frame of a body. -/
def write (body : Bytes) : Except StreamError Bytes :=
  if limit < body.length then .error .frameTooLarge
  else .ok (Bytes.ofU32 (UInt32.ofNat body.length) ++ body)

/-- The frame of a body, for a writer that has room for a number of bytes only. -/
def writeWithin (room : Nat) (body : Bytes) : Except StreamError Bytes := do
  let frame ← write body
  if frame.length ≤ room then return frame else throw .writeZero

/-- The error of a stream that ends within a frame. -/
def cutOff : Ending → StreamError
  | .closed => .unexpectedEnd
  | .reset => .connectionReset
  | .stalled => .timedOut

/-- Reads one body; there is none if the stream is closed in front of it. -/
def read (source : Source) : Except StreamError (Option Bytes) × Source :=
  match source.fill 4 with
  | (.ended got, source) =>
    (if got.isEmpty ∧ source.ending = .closed then .ok none else .error (cutOff source.ending),
      source)
  | (.full header, source) =>
    let length := Bytes.toNat header
    if limit < length then (.error (.frameOverLimit length), source)
    else match source.fill length with
    | (.full body, source) => (.ok (some body), source)
    | (.ended _, source) => (.error (cutOff source.ending), source)

/-- Reads at most `count` bodies, up to the end or an error, which stands last. -/
def readMany : Nat → Source → List (Except StreamError (Option Bytes))
  | 0, _ => []
  | count + 1, source =>
    match read source with
    | (.ok (some body), source) => .ok (some body) :: readMany count source
    | (outcome, _) => [outcome]

/-- Reads all bodies of a stream, up to the end or an error, which stands last. A frame takes at
least four bytes, so no more frames than bytes can come. -/
def readAll (source : Source) : List (Except StreamError (Option Bytes)) :=
  readMany (source.bytes.length + 1) source

end Frame

end Pasteboard
