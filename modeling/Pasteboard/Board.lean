import Pasteboard.Exchange.Reply

/-!
# The shared board

The board is what the store keeps: the entries by format, whose session is open, the owner, the head
of the chain of viewers, the listeners, the names of registered formats and a counter of changes.
`Board.handle` answers a request of a client. Only the client whose session is open may take the
board over or read entries; it and the client of the owner may put them.
-/

namespace Pasteboard

/-- The entries in ascending order of their formats, each format once. -/
structure Entries where
  list : List (Format × Bytes)
  sorted : list.Pairwise fun a b => a.1.id < b.1.id

namespace Entries

/-- No entries. -/
def empty : Entries := ⟨[], .nil⟩

/-- The payload of a format. -/
def find? (entries : Entries) (format : Format) : Option Bytes := entries.list.lookup format

/-- The formats in ascending order. -/
def formats (entries : Entries) : List Format := entries.list.map (·.1)

/-- A payload put in its place, over the payload that was there. -/
def insertInto (format : Format) (data : Bytes) : List (Format × Bytes) → List (Format × Bytes)
  | [] => [(format, data)]
  | entry :: rest =>
    if format.id < entry.1.id then (format, data) :: entry :: rest
    else if format = entry.1 then (format, data) :: rest
    else entry :: insertInto format data rest

theorem eq_or_mem_of_mem_insertInto {format : Format} {data : Bytes} {entry : Format × Bytes}
    {list : List (Format × Bytes)} (h : entry ∈ insertInto format data list) :
    entry = (format, data) ∨ entry ∈ list := by
  induction list with
  | nil => simpa [insertInto] using h
  | cons head rest ih =>
    unfold insertInto at h
    split at h
    · simpa using h
    · split at h
      · rcases List.mem_cons.1 h with h | h
        · exact .inl h
        · exact .inr (List.mem_cons_of_mem _ h)
      · rcases List.mem_cons.1 h with h | h
        · exact .inr (h ▸ List.mem_cons_self)
        · exact (ih h).imp_right (List.mem_cons_of_mem _)

theorem sorted_insertInto (format : Format) (data : Bytes) {list : List (Format × Bytes)}
    (h : list.Pairwise fun a b => a.1.id < b.1.id) :
    (insertInto format data list).Pairwise fun a b => a.1.id < b.1.id := by
  induction list with
  | nil => simp [insertInto]
  | cons head rest ih =>
    rw [List.pairwise_cons] at h
    unfold insertInto
    split
    · rename_i hlt
      refine List.pairwise_cons.2 ⟨fun entry hmem => ?_, List.pairwise_cons.2 h⟩
      rcases List.mem_cons.1 hmem with rfl | hmem
      · exact hlt
      · exact UInt32.lt_trans hlt (h.1 entry hmem)
    · rename_i hge
      split
      · rename_i heq
        exact List.pairwise_cons.2 ⟨fun entry hmem => heq ▸ h.1 entry hmem, h.2⟩
      · rename_i hne
        refine List.pairwise_cons.2 ⟨fun entry hmem => ?_, ih h.2⟩
        rcases eq_or_mem_of_mem_insertInto hmem with rfl | hmem
        · have hid : head.1.id ≠ format.id := fun h => hne (Format.ext h.symm)
          exact UInt32.lt_of_le_of_ne (UInt32.not_lt.1 hge) hid
        · exact h.1 entry hmem

/-- The entries with a payload put under a format. -/
def insert (entries : Entries) (format : Format) (data : Bytes) : Entries :=
  ⟨insertInto format data entries.list, sorted_insertInto format data entries.sorted⟩

/-- The entries without a format. -/
def erase (entries : Entries) (format : Format) : Entries :=
  ⟨entries.list.filter fun entry => entry.1 != format, entries.sorted.filter _⟩

/-- The first format after another one. -/
def after? (entries : Entries) (previous : Format) : Option Format :=
  entries.formats.find? fun format => decide (previous.id < format.id)

end Entries

/-- Whether two names differ in the case of ASCII letters at most. -/
def sameName (a b : String) : Bool := a.toList.map Char.toLower == b.toList.map Char.toLower

/-- The position of a window among ascending ones, in which it occurs at most once. -/
def insertWindow (window : WindowId) : List WindowId → List WindowId
  | [] => [window]
  | other :: rest =>
    if window.raw < other.raw then window :: other :: rest
    else if window = other then other :: rest
    else other :: insertWindow window rest

/-- The number of a client. -/
abbrev ClientId := Nat

/-- What the store keeps. -/
structure Board where
  entries : Entries
  /-- The client that has the board open, and the window it opened it for. -/
  session : Option (ClientId × Option WindowId)
  owner : Option WindowId
  ownerClient : Option ClientId
  /-- The head of the chain of viewers. -/
  viewer : Option WindowId
  /-- The windows to tell about changes, ascending. -/
  listeners : List WindowId
  /-- Counts changes of owner and puts. -/
  sequence : UInt32
  /-- The counter when the session was opened. -/
  openSequence : UInt32
  /-- The names of registered formats, in the order of their identifiers. -/
  names : List String
  /-- By how many bytes an entry grows whenever it turns out too large for a reader. -/
  growth : List (Format × Nat)

namespace Board

/-- Nothing at all. -/
def empty : Board where
  entries := .empty
  session := none
  owner := none
  ownerClient := none
  viewer := none
  listeners := []
  sequence := 0
  openSequence := 0
  names := []
  growth := []

/-- Whether a client has the board open. -/
def isOpenBy (board : Board) (client : ClientId) : Bool :=
  match board.session with
  | some (holder, _) => holder == client
  | none => false

/-- The board after a client went away: its session ends, and it no longer acts for the owner. -/
def disconnect (board : Board) (client : ClientId) : Board :=
  { board with
    session := if board.isOpenBy client then none else board.session
    ownerClient := if board.ownerClient = some client then none else board.ownerClient }

/-- Opens a session, unless one is open. -/
def openSession (board : Board) (client : ClientId) (requestor : Option WindowId) :
    Reply × Board :=
  if board.session.isSome then (.error .alreadyOpen, board)
  else (.opened board.owner,
    { board with session := some (client, requestor), openSequence := board.sequence })

/-- Closes the session of the client; the viewer is to be told only if something changed. -/
def closeSession (board : Board) (client : ClientId) : Reply × Board :=
  if !board.isOpenBy client then (.error .notOpen, board)
  else (.closed ⟨if board.sequence = board.openSequence then none else board.viewer, board.owner⟩,
    { board with session := none })

/-- Empties the board and makes the client's window its owner. -/
def claim (board : Board) (client : ClientId) (owner : Option WindowId) : Reply × Board :=
  if !board.isOpenBy client then (.error .notOpen, board)
  else (.done,
    { board with
      entries := .empty, owner := owner, ownerClient := some client,
      sequence := board.sequence + 1 })

/-- Puts a payload, an empty one being a placeholder. -/
def put (board : Board) (client : ClientId) (format : Format) (data : Bytes) : Reply × Board :=
  if !board.isOpenBy client ∧ board.ownerClient ≠ some client then (.error .accessDenied, board)
  else if format = Format.null then (.error .invalidParameter, board)
  else (.done,
    { board with entries := board.entries.insert format data, sequence := board.sequence + 1 })

/-- Gets a payload if it fits; one that does not fit may grow. -/
def get (board : Board) (client : ClientId) (format : Format) (bufferLen : UInt32) :
    Reply × Board :=
  if !board.isOpenBy client then (.error .accessDenied, board)
  else match board.entries.find? format with
  | none => (.data ⟨.notFound, [], 0, board.owner⟩, board)
  | some data =>
    let total := UInt32.ofNat data.length
    if total ≤ bufferLen then (.data ⟨.ok, data, total, board.owner⟩, board)
    else
      let grown := match board.growth.lookup format with
        | some growth =>
          { board with
            entries := board.entries.insert format (data ++ List.replicate growth 0xaa) }
        | none => board
      (.data ⟨.overflow, [], total, board.owner⟩, grown)

/-- The format after another one; the null format ends the enumeration. -/
def enumerate (board : Board) (client : ClientId) (previous : Format) : Reply × Board :=
  if !board.isOpenBy client then (.error .accessDenied, board)
  else (.format ((board.entries.after? previous).getD Format.null), board)

/-- How many formats there are, all in all or of one kind. -/
def count (board : Board) : Option Format → UInt32
  | some format => if (board.entries.find? format).isSome then 1 else 0
  | none => UInt32.ofNat board.entries.list.length

/-- What is known beside the entries. -/
def info (board : Board) : StoreInfo :=
  ⟨board.owner, board.session.bind (·.2), board.viewer, board.sequence⟩

/-- Replaces the head of the chain of viewers, if the expected head is the head. -/
def setViewer (board : Board) (viewer previous : Option WindowId) : Reply × Board :=
  if previous.isSome ∧ board.viewer ≠ previous then
    match board.viewer with
    | some head => (.viewer (.pending head), board)
    | none => (.error .invalidParameter, board)
  else (.viewer (.set board.viewer board.owner), { board with viewer := viewer })

/-- Leaves the board without owner, if it has the owner given. -/
def releaseOwner (board : Board) (owner : WindowId) : Reply × Board :=
  if board.owner ≠ some owner then (.error .notOwner, board)
  else (.closed ⟨board.viewer, none⟩, { board with owner := none, ownerClient := none })

/-- Takes a window off the listeners. -/
def removeListener (board : Board) (window : WindowId) : Reply × Board :=
  if board.listeners.contains window then
    (.done, { board with listeners := board.listeners.filter (· != window) })
  else (.error .notFound, board)

/-- The format with the number of a name. -/
def registered (index : Nat) : Format := ⟨Format.registeredFirst + UInt32.ofNat index⟩

/-- The format registered under a name, registering it if there is room. -/
def registerFormat (board : Board) (name : String) : Reply × Board :=
  match board.names.findIdx? (sameName name) with
  | some index => (.format (registered index), board)
  | none =>
    if Format.registeredCapacity ≤ board.names.length then (.error .invalidParameter, board)
    else (.format (registered board.names.length), { board with names := board.names ++ [name] })

/-- The name that a format was registered under. -/
def formatName (board : Board) (format : Format) : Option String :=
  if format.isRegistered then
    board.names[format.id.toNat - Format.registeredFirst.toNat]?
  else none

/-- Answers a request of a client. -/
def handle (board : Board) (client : ClientId) : Request → Reply × Board
  | .openSession requestor => board.openSession client requestor
  | .closeSession => board.closeSession client
  | .claimOwnership owner => board.claim client owner
  | .put format data => board.put client format data
  | .get format bufferLen => board.get client format bufferLen
  | .enumerateFormats previous => board.enumerate client previous
  | .countFormats filter => (.count (board.count filter), board)
  | .listFormats => (.formats board.entries.formats, board)
  | .info => (.info board.info, board)
  | .setViewer viewer previous => board.setViewer viewer previous
  | .releaseOwner owner => board.releaseOwner owner
  | .addListener window =>
    (.done, { board with listeners := insertWindow window board.listeners })
  | .removeListener window => board.removeListener window
  | .listeners => (.windows board.listeners, board)
  | .registerFormat name => board.registerFormat name
  | .formatName format => (.name (board.formatName format), board)

end Board

/-- A change made to the board behind its clients' backs. -/
structure Tampering where
  insert : List (Format × Bytes)
  erase : List Format
  growth : List (Format × Nat)
  listeners : List WindowId
  names : List String
  owner : Option (Option WindowId)
  viewer : Option (Option WindowId)
  sequence : Option UInt32

/-- The board after a change behind its clients' backs. -/
def Board.tamper (board : Board) (change : Tampering) : Board :=
  let entries := change.insert.foldl (fun entries (format, data) => entries.insert format data)
    board.entries
  { board with
    entries := change.erase.foldl Entries.erase entries
    growth := change.growth.reverse ++ board.growth
    listeners := change.listeners.foldl (fun windows window => insertWindow window windows)
      board.listeners
    names := board.names ++ change.names
    owner := change.owner.getD board.owner
    viewer := change.viewer.getD board.viewer
    sequence := change.sequence.getD board.sequence }

end Pasteboard
