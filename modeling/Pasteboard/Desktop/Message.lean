import Pasteboard.Format
import Pasteboard.Text.Spelling

/-!
# Windows and their messages

Programs are reached through their windows. A message is either sent, which waits for the answer, or
posted, which does not.
-/

namespace Pasteboard

/-- A window. No window has the number zero. -/
@[ext] structure WindowId where
  raw : UInt32
  raw_ne_zero : raw ≠ 0

namespace WindowId

instance : DecidableEq WindowId := fun window other =>
  decidable_of_iff (window.raw = other.raw) ⟨WindowId.ext, congrArg WindowId.raw⟩

/-- The window with a number; zero stands for no window. -/
def ofRaw? (raw : UInt32) : Option WindowId :=
  if h : raw = 0 then none else some ⟨raw, h⟩

/-- The number of a window, zero for no window. -/
def rawOf : Option WindowId → UInt32
  | some window => window.raw
  | none => 0

@[simp] theorem ofRaw?_rawOf (window : Option WindowId) : ofRaw? (rawOf window) = window := by
  cases window with
  | none => rfl
  | some window => simp [ofRaw?, rawOf, window.raw_ne_zero]

@[simp] theorem rawOf_ofRaw? (raw : UInt32) : rawOf (ofRaw? raw) = raw := by
  unfold ofRaw?
  split
  · simp [rawOf, *]
  · rfl

/-- How a window is written in messages. -/
def shown (window : WindowId) : String := hexMarked window.raw.toNat

/-- How an optional window is written in messages. -/
def shownOption (window : Option WindowId) : String := Spelled.option shown window

end WindowId

/-- What a window can be told. -/
inductive Message where
  /-- Put the data of this format now. -/
  | renderFormat (format : Format)
  /-- Put the data of every format that was promised. -/
  | renderAllFormats
  /-- The clipboard went to someone else. -/
  | destroyClipboard
  /-- The contents changed; goes down the chain of viewers. -/
  | drawClipboard (owner : Option WindowId)
  /-- The viewer `removed` leaves the chain and `next` takes its place. -/
  | changeChain (removed : WindowId) (next : Option WindowId)
  /-- The contents changed; goes to every listener. -/
  | clipboardUpdate
deriving DecidableEq

namespace Message

/-- The name of a kind of message. -/
def name : Message → String
  | renderFormat _ => "RenderFormat"
  | renderAllFormats => "RenderAllFormats"
  | destroyClipboard => "DestroyClipboard"
  | drawClipboard _ => "DrawClipboard"
  | changeChain _ _ => "ChangeChain"
  | clipboardUpdate => "ClipboardUpdate"

/-- The format that a message asks for. -/
def format : Message → Format
  | renderFormat format => format
  | _ => Format.null

end Message

/-- Why a message was not delivered or not answered. -/
inductive SendError where
  | invalidWindow (window : WindowId)
  | timeout (limit : Duration)
  | hung
deriving DecidableEq

/-- The wording of a delivery error. -/
def SendError.message : SendError → String
  | invalidWindow window => "The window " ++ window.shown ++ " does not exist"
  | timeout limit => "The window did not answer within " ++ limit.text
  | hung => "The window's thread is hung"

end Pasteboard
