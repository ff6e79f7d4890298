import Pasteboard.Desktop.Script
import Pasteboard.Exchange.Connection

/-!
# The world around the clients

A world holds the board, the clients with their connections to it, the windows and what was posted
to them, the faults that the store will commit, and a record of what happened. `World.exchange` is
one request of a client and the reply to it: both travel as frames, and the store may answer
wrongly. `World.consult` is the same without frames and without faults.
-/

namespace Pasteboard

/-- A client at its place. -/
structure Member where
  client : Client
  connection : Connection
  /-- Whether the store still listens to the connection. -/
  attended : Bool
  /-- Whether the client is in the middle of a task. -/
  busy : Bool

/-- What happened to windows. -/
inductive Event where
  /-- The window system was asked to bring the store up to date. -/
  | refreshed
  | posted (window : WindowId) (message : Message)
  | sent (window : WindowId) (message : Message) (limit : Option Duration)
  /-- A window ran the steps of a handler. -/
  | handled (window : WindowId) (outcomes : List Outcome)
  /-- A viewer processed a notice that was posted to it. -/
  | drawn (window : WindowId) (result : Except SendError Unit)

/-- All there is in a scenario. -/
structure World where
  board : Board
  /-- The clients, those that went away leaving their place empty. -/
  members : List (Option Member)
  windows : List (WindowScript Step)
  /-- What was posted and not processed. -/
  posts : List (WindowId × Message)
  /-- The viewers in the middle of a message. -/
  handling : List WindowId
  faults : List Fault
  logging : Bool
  events : List Event
  requests : List Request
  log : List Note

namespace World

/-- Behaviours of windows, one of them new. It takes the place of what its window did before. -/
def withScript (windows : List (WindowScript Step)) (script : WindowScript Step) :
    List (WindowScript Step) :=
  script :: windows.filter fun other => other.id != script.id

/-- A world with a board, some clients and windows, where nothing happened yet. Of several
behaviours of one window the last one counts. -/
def fresh (board : Board) (members : List Member) (windows : List (WindowScript Step))
    (faults : List Fault) (logging : Bool) : World where
  board := board
  members := members.map some
  windows := windows.foldl withScript []
  posts := []
  handling := []
  faults := faults
  logging := logging
  events := []
  requests := []
  log := []

/-- The number that a client has in the store. -/
def clientId (place : Nat) : ClientId := place + 1

/-- The client at a place, unless it went away. -/
def member? (world : World) (place : Nat) : Option Member := (world.members[place]?).join

/-- Changes the client at a place. -/
def updateMember (world : World) (place : Nat) (change : Member → Member) : World :=
  { world with members := world.members.modify place (Option.map change) }

/-- Records what happened to a window. -/
def record (world : World) (event : Event) : World :=
  { world with events := world.events ++ [event] }

/-- Records a note, if notes are wanted. -/
def note (world : World) (entry : Note) : World :=
  if world.logging then { world with log := world.log ++ [entry] } else world

/-- Makes the store forget a client. -/
def forget (world : World) (place : Nat) : World :=
  { world.updateMember place fun member => { member with attended := false } with
    board := world.board.disconnect (clientId place) }

/-- Bytes from the store to a client. -/
def deliver (world : World) (place : Nat) (bytes : Bytes) : World :=
  world.updateMember place fun member =>
    { member with connection := member.connection.deliver bytes }

/-- The last bytes from the store to a client, which it forgets. -/
def deliverLast (world : World) (place : Nat) (bytes : Bytes) (ending : Ending) : World :=
  (world.forget place).updateMember place fun member =>
    { member with connection := member.connection.deliverLast bytes ending }

/-- A body from the store to a client. -/
def deliverBody (world : World) (place : Nat) (body : Bytes) : World :=
  match Frame.write body with
  | .ok frame => world.deliver place frame
  | .error _ => world.deliverLast place [] .closed

/-- A wrong answer. A body that is no reply comes from a store that forgets the client. -/
def answerWrongly (world : World) (place : Nat) : FaultAnswer → World
  | .reply reply => world.deliverBody place reply.encode
  | .body body =>
    match Reply.decode body with
    | .ok _ => world.deliverBody place body
    | .error _ => (world.forget place).deliverBody place body
  | .stream bytes ending => world.deliverLast place bytes ending

/-- Answers a request, truly unless a fault hits it. -/
def answer (world : World) (place : Nat) (request : Request) : World :=
  let (wrong, faults) := Fault.select request world.faults
  let world := { world with requests := world.requests ++ [request], faults := faults }
  match wrong with
  | some answer => world.answerWrongly place answer
  | none =>
    let (reply, board) := world.board.handle (clientId place) request
    { world with board := board }.deliverBody place reply.encode

/-- Has the store read a frame and answer it. A frame that holds no request is refused. -/
def serve (world : World) (place : Nat) (frame : Bytes) : World :=
  match (Frame.read ⟨frame, [], .stalled⟩).1 with
  | .ok (some body) =>
    match Request.decode body with
    | .ok request => world.answer place request
    | .error _ => world.deliverBody place (Reply.error .invalidParameter).encode
  | _ => world

/-- Makes the store notice that a client dropped its connection. -/
def drop (world : World) (place : Nat) (error : TransportError) : World :=
  (world.note ⟨.warn, "Dropping the clipboard store connection: " ++ error.message⟩).forget place

/-- Has a client read the reply to a request that went out. -/
def complete (world : World) (place : Nat) (request : Request) : Except StoreError Reply × World :=
  match world.member? place with
  | none => (.error (.transport .disconnected), world)
  | some member =>
    let (outcome, connection) := member.connection.call request
    let settled := world.updateMember place fun member => { member with connection := connection }
    match outcome with
    | .error (.transport error) =>
      (outcome, if member.connection.live then settled.drop place error else settled)
    | _ => (outcome, settled)

/-- One request of a client and the reply to it, both as frames on its connection. -/
def exchange (world : World) (place : Nat) (request : Request) : Except StoreError Reply × World :=
  match world.member? place with
  | none => (.error (.transport .disconnected), world)
  | some member =>
    match member.connection.outgoing? request with
    | some frame =>
      (if member.attended then world.serve place frame else world).complete place request
    | none => world.complete place request

/-- One request of a client, handed to the board and answered without a connection between. -/
def consult (world : World) (place : Nat) (request : Request) : Except StoreError Reply × World :=
  let (reply, board) := world.board.handle (clientId place) request
  (reply.outcome, { world with board := board, requests := world.requests ++ [request] })

/-- How a window behaves. -/
def script (world : World) (window : WindowId) : WindowScript Step :=
  (world.windows.find? fun script => script.id == window).getD (.plain window)

/-- The next viewer of a window that is a viewer. -/
def viewer? (world : World) (window : WindowId) : Option (Option WindowId) :=
  (world.script window).viewer

/-- Makes a window behave in a way from now on. -/
def setWindow (world : World) (script : WindowScript Step) : World :=
  { world with windows := withScript world.windows script }

/-- Gives a viewer another next viewer. -/
def setNext (world : World) (window : WindowId) (next : Option WindowId) : World :=
  { world with
    windows := world.windows.map fun script =>
      if script.id = window then { script with viewer := some next } else script }

/-- Posts a message. -/
def post (world : World) (window : WindowId) (message : Message) :
    Except SendError Unit × World :=
  let world := world.record (.posted window message)
  if (world.script window).trouble = some .invalid then (.error (.invalidWindow window), world)
  else (.ok (), { world with posts := world.posts ++ [(window, message)] })

/-- The viewers with their next viewers, ascending. -/
def chain (world : World) : List (WindowId × Option WindowId) :=
  (world.windows.foldl (fun windows script => insertWindow script.id windows) []).filterMap
    fun window => (world.viewer? window).map (window, ·)

/-- How deep messages can be nested: every level keeps a client or a viewer busy, and windows that
are set on the way may be viewers. -/
def nesting (world : World) : Nat :=
  world.members.length + Step.stepsWindowCount (world.windows.map .setWindow) + 1

end World

end Pasteboard
