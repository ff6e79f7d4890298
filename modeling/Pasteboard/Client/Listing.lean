import Pasteboard.Client.Writing

/-!
# What is on the clipboard, and who takes part

Queries about the formats present and the state of the store, the names of formats, and the chain of
viewers and the listeners.
-/

namespace Pasteboard

/-- The outcome of looking for the first of several formats. -/
inductive PriorityFormat where
  /-- There is nothing on the clipboard. -/
  | empty
  | found (format : Format)
  /-- There is something, but none of the formats. -/
  | noneAvailable
deriving DecidableEq

namespace Acting

/-- Has the window system bring the store up to date. -/
def refresh : Acting Unit := (Call.refresh (.done ()) : Call Unit)

/-- The format after another one. -/
def enumerate (previous : Format) : Acting (Option Format) := do
  let next ← ofAsking (Ask.format (.enumerateFormats previous))
  return if next = Format.null then none else some next

/-- How many formats there are. -/
def count : Acting UInt32 := do
  refresh
  ofAsking (Ask.countFormats none)

/-- Whether a format is there. -/
def contains (format : Format) : Acting Bool := do
  if format = Format.null then return false
  else
    refresh
    let count ← ofAsking (Ask.countFormats (some format))
    return decide (0 < count)

/-- The formats that are there. -/
def formats : Acting (List Format) := do
  refresh
  ofAsking Ask.listFormats

/-- The first of several formats that is there. -/
def firstPresent : List Format → Acting PriorityFormat
  | [] => return .noneAvailable
  | format :: rest => do
    if ← contains format then return .found format else firstPresent rest

/-- The first of several formats that is there, if anything is. -/
def priorityFormat (formats : List Format) : Acting PriorityFormat := do
  if (← count) = 0 then return .empty else firstPresent formats

/-- What the store knows beside its entries. -/
def info : Acting StoreInfo := ofAsking Ask.info

/-- The format registered under a name, which must not be empty. -/
def registerFormat (name : String) : Acting Format := do
  if name.isEmpty then throw (.store (.refused .invalidParameter))
  else
    let format ← ofAsking (Ask.format (.registerFormat name))
    Call.trace ("Registered " ++ format.labelled (some name))
    return format

/-- The name that a format was registered under. -/
def formatName (format : Format) : Acting (Option String) := do
  if format.isRegistered then ofAsking (Ask.formatName format) else return none

/-- Makes a window the head of the chain of viewers and gives the previous head, to which the window
must pass notices on. -/
def setViewer (window : Option WindowId) : Acting (Option WindowId) := do
  match ← ofAsking (Ask.setViewer window none) with
  | .set oldViewer owner =>
    Call.trace (WindowId.shownOption window ++ " heads the viewer chain, followed by "
      ++ WindowId.shownOption oldViewer)
    Notice.notifyHead window owner
    return oldViewer
  | .pending _ => throw (.store (.refused .invalidParameter))

/-- Takes a window out of the chain of viewers, the next one taking its place, and gives the answer
of the chain. -/
def changeChain (removed : WindowId) (next : Option WindowId) : Acting Bool := do
  match ← ofAsking (Ask.setViewer next (some removed)) with
  | .set _ _ => return true
  | .pending viewer =>
    let answer ← Notice.relayChange viewer removed next
    ofResult .window answer

/-- Adds a window to the listeners. -/
def addListener (window : WindowId) : Acting Unit :=
  ofAsking (Ask.acknowledge (.addListener window))

/-- Takes a window off the listeners. -/
def removeListener (window : WindowId) : Acting Unit :=
  ofAsking (Ask.acknowledge (.removeListener window))

end Acting

end Pasteboard
