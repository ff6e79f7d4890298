import Pasteboard.Client.Call

/-!
# Asking the store

One function for each request, which gives what the reply to it holds. A reply of another kind is an
error.
-/

namespace Pasteboard.Ask

/-- Asks the store and takes what is wanted from the reply. -/
def expect {α : Type} (request : Request) (want : Reply → Option α) : Asking α :=
  ExceptT.mk (.ask request fun
    | .error error => .done (.error error)
    | .ok reply => match want reply with
      | some value => .done (.ok value)
      | none => .done (.error (.transport (.unexpectedReply reply))))

/-- A request that is only acknowledged. -/
def acknowledge (request : Request) : Asking Unit :=
  expect request fun
    | .done => some ()
    | _ => none

/-- Opens the session and gives the owner. -/
def openSession (requestor : Option WindowId) : Asking (Option WindowId) :=
  expect (.openSession requestor) fun
    | .opened owner => some owner
    | _ => none

/-- A request that ends something and gives whom to notify. -/
def finish (request : Request) : Asking CloseReply :=
  expect request fun
    | .closed reply => some reply
    | _ => none

/-- Gets a payload of limited size. -/
def get (format : Format) (bufferLen : UInt32) : Asking GetReply :=
  expect (.get format bufferLen) fun
    | .data reply => some reply
    | _ => none

/-- A request that gives a format. -/
def format (request : Request) : Asking Format :=
  expect request fun
    | .format format => some format
    | _ => none

/-- Counts formats. -/
def countFormats (filter : Option Format) : Asking UInt32 :=
  expect (.countFormats filter) fun
    | .count count => some count
    | _ => none

/-- Lists the formats. -/
def listFormats : Asking (List Format) :=
  expect .listFormats fun
    | .formats formats => some formats
    | _ => none

/-- What the store knows beside its entries. -/
def info : Asking StoreInfo :=
  expect .info fun
    | .info info => some info
    | _ => none

/-- Changes the head of the chain of viewers. -/
def setViewer (viewer previous : Option WindowId) : Asking ViewerReply :=
  expect (.setViewer viewer previous) fun
    | .viewer reply => some reply
    | _ => none

/-- Lists the listeners. -/
def listeners : Asking (List WindowId) :=
  expect .listeners fun
    | .windows windows => some windows
    | _ => none

/-- The name that a format was registered under. -/
def formatName (format : Format) : Asking (Option String) :=
  expect (.formatName format) fun
    | .name name => some name
    | _ => none

/-- Any request, with the whole reply. -/
def reply (request : Request) : Asking Reply :=
  expect request fun reply => if reply.answers request then some reply else none

/-- Any request, with any reply. -/
def anything (request : Request) : Asking Reply := expect request some

end Pasteboard.Ask
