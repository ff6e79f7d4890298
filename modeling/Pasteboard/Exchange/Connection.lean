import Pasteboard.Exchange.Failure

/-!
# Connections to the store

A connection carries one request and one reply at a time. As soon as a reply does not come in time,
is cut off or cannot be understood, requests and replies may be out of step, so the connection is
dropped, and from then on every request fails without anything being written or read.
-/

namespace Pasteboard

/-- A client's end of a connection. -/
structure Connection where
  /-- What the store has sent and the client has not read. -/
  incoming : Source
  /-- Whether the connection has not been dropped. -/
  live : Bool
  /-- How long to wait for a reply. -/
  patience : Duration

namespace Connection

/-- A fresh connection. -/
def fresh (patience : Duration) : Connection := ⟨⟨[], [], .stalled⟩, true, patience⟩

/-- More bytes from the store. -/
def deliver (connection : Connection) (bytes : Bytes) : Connection :=
  { connection with
    incoming := { connection.incoming with bytes := connection.incoming.bytes ++ bytes } }

/-- More bytes from the store, its last ones. -/
def deliverLast (connection : Connection) (bytes : Bytes) (ending : Ending) : Connection :=
  { connection.deliver bytes with
    incoming := { (connection.deliver bytes).incoming with ending := ending } }

/-- The reply in a frame that was read, or why there is none. -/
def understand (patience : Duration) : Except StreamError (Option Bytes) →
    Except TransportError Reply
  | .ok (some body) => (Reply.decode body).mapError .malformed
  | .ok none => .error .disconnected
  | .error .timedOut => .error (.timeout patience)
  | .error error => .error (.communication error)

/-- The frame that a request goes out in; there is none on a dropped connection or if the body is
over the limit. -/
def outgoing? (connection : Connection) (request : Request) : Option Bytes :=
  if connection.live then (Frame.write request.encode).toOption else none

/-- Reads one reply. Without any patience nothing is read. -/
def receive (connection : Connection) : Except TransportError Reply × Source :=
  if connection.patience.millis = 0 then (.error (.timeout connection.patience), connection.incoming)
  else
    let (frame, incoming) := Frame.read connection.incoming
    (understand connection.patience frame, incoming)

/-- Reads one reply to a request if the request could be written. Any failure drops
the connection. -/
def exchange (connection : Connection) (written : Except StreamError Bytes) :
    Except TransportError Reply × Connection :=
  if !connection.live then (.error .disconnected, connection)
  else match written with
  | .error error => (.error (.communication error), { connection with live := false })
  | .ok _ =>
    match connection.receive with
    | (.ok reply, incoming) => (.ok reply, { connection with incoming := incoming })
    | (.error error, incoming) =>
      (.error error, { connection with incoming := incoming, live := false })

/-- The outcome of a request, by what came of writing it. -/
def conclude (connection : Connection) (written : Except StreamError Bytes) :
    Except StoreError Reply × Connection :=
  match connection.exchange written with
  | (.ok reply, connection) => (reply.outcome, connection)
  | (.error error, connection) => (.error (.transport error), connection)

/-- Sends a request to a store that takes it and gives the outcome. -/
def call (connection : Connection) (request : Request) : Except StoreError Reply × Connection :=
  connection.conclude (Frame.write request.encode)

end Connection

/-- Where to look for the store's socket. -/
structure SocketSettings where
  /-- The directory of the session's sockets. -/
  runtimeDir : Option String
  /-- The path that the environment chooses. -/
  chosenPath : Option String
  /-- The name that the program chooses. -/
  name : Option String

namespace SocketSettings

/-- The name of the socket if none is chosen. -/
def defaultName : String := "shared-clipboard-0"

/-- Whether a path starts at the root. -/
def isAbsolute (path : String) : Bool := path.toList.head? == some '/'

/-- A path below a directory; an absolute path stands for itself. -/
def join (directory path : String) : String :=
  if isAbsolute path then path
  else if directory.toList.getLast? == some '/' then directory ++ path
  else directory ++ "/" ++ path

/-- The directory of the session's sockets, which must be absolute. -/
def directory (settings : SocketSettings) : Except TransportError String :=
  match settings.runtimeDir.filter isAbsolute with
  | some directory => .ok directory
  | none => .error .noRuntimeDir

/-- The path of the socket: the program's name in the directory, else the path that the environment
chooses, else the default name in the directory. -/
def path (settings : SocketSettings) : Except TransportError String :=
  match settings.name, settings.chosenPath with
  | some name, _ => settings.directory.map (join · name)
  | none, some path =>
    if isAbsolute path then .ok path else settings.directory.map (join · path)
  | none, none => settings.directory.map (join · defaultName)

/-- How many bytes a socket address has room for, the final zero included. -/
def addressRoom : Nat := 108

/-- Whether a path can be written in a socket address: it must be short enough, and the zero that
ends it there must be the only one. -/
def isAddress (path : String) : Bool :=
  decide (path.utf8ByteSize < addressRoom) && !path.toList.contains '\x00'

/-- Connecting where no socket is: the path may already be no address. -/
def connectToNothing (settings : SocketSettings) : Except TransportError Unit := do
  let path ← settings.path
  throw (.socketOpen path (if isAddress path then .notFound else .invalidPath))

end SocketSettings

end Pasteboard
