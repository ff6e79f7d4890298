import Pasteboard.Bytes

/-!
# Byte streams

What a peer sent is read in pieces whose sizes the reader does not choose, and reads may be
interrupted. A `Source` is such a stream: the bytes to come, the turns that the next reads take and
how the bytes end. `Source.fill` reads until a wanted number of bytes is there, whatever the turns.
-/

namespace Pasteboard

/-- What one read does. -/
inductive Turn where
  /-- It fails and may be repeated. -/
  | interrupted
  /-- It gives at most so many bytes, and at least one. -/
  | upTo (limit : Nat)
deriving DecidableEq

/-- How a stream goes on behind its last byte. -/
inductive Ending where
  /-- The peer closed it. -/
  | closed
  /-- Reading fails. -/
  | reset
  /-- Nothing more comes, but the stream stays open. -/
  | stalled
deriving DecidableEq

/-- A stream to read from. Once the turns are used up, a read gives all it is asked for. -/
structure Source where
  bytes : Bytes
  turns : List Turn
  ending : Ending
deriving DecidableEq

/-- How reading a number of bytes came out. -/
inductive Filled where
  | full (bytes : Bytes)
  /-- The stream ended behind these bytes. -/
  | ended (bytes : Bytes)
deriving DecidableEq

namespace Source

/-- Reads `want` bytes behind those already got, which stand in reverse order. -/
def fillAfter (ending : Ending) (got : Bytes) (want : Nat) (bytes : Bytes) :
    List Turn → Filled × Source
  | [] =>
    if want ≤ bytes.length then
      (.full (got.reverse ++ bytes.take want), ⟨bytes.drop want, [], ending⟩)
    else (.ended (got.reverse ++ bytes), ⟨[], [], ending⟩)
  | .interrupted :: turns =>
    if want = 0 then (.full got.reverse, ⟨bytes, .interrupted :: turns, ending⟩)
    else fillAfter ending got want bytes turns
  | .upTo limit :: turns =>
    if want = 0 then (.full got.reverse, ⟨bytes, .upTo limit :: turns, ending⟩)
    else if bytes.isEmpty then (.ended got.reverse, ⟨[], turns, ending⟩)
    else
      let given := bytes.take (min want (max limit 1))
      fillAfter ending (given.reverse ++ got) (want - given.length) (bytes.drop given.length) turns

/-- Reads until `want` bytes are there or the stream ends. -/
def fill (want : Nat) (source : Source) : Filled × Source :=
  fillAfter source.ending [] want source.bytes source.turns

end Source

/-- Turns of reads of at most `chunk` bytes, every other one interrupted if so asked. -/
def Turn.schedule (chunk : Nat) (interrupt : Bool) (count : Nat) : List Turn :=
  (List.replicate count
    (if interrupt then [interrupted, upTo chunk] else [upTo chunk])).flatten

end Pasteboard
