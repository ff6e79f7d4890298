import Pasteboard.Exchange.Frame
import Pasteboard.Exchange.Reply

/-!
# Failures of requests

A request fails because the store refuses it or because the store cannot be reached. Each failure
has a wording of its own and a chain of causes, the nearest first.
-/

namespace Pasteboard

/-- Why the store cannot be reached or understood. -/
inductive TransportError where
  /-- There is no directory to look for the socket in. -/
  | noRuntimeDir
  | socketOpen (path : String) (cause : StreamError)
  | communication (cause : StreamError)
  | timeout (limit : Duration)
  | disconnected
  | malformed (cause : BodyError)
  | unexpectedReply (reply : Reply)
deriving DecidableEq

namespace TransportError

/-- The wording of a transport error. -/
def message : TransportError → String
  | noRuntimeDir => "XDG_RUNTIME_DIR is not set to an absolute path"
  | socketOpen path _ => "Couldn't open the clipboard store socket " ++ quote path
  | communication _ => "Clipboard store communication error"
  | timeout limit => "The clipboard store did not reply within " ++ limit.text
  | disconnected => "The clipboard store closed the connection"
  | malformed _ => "Invalid message from the clipboard store"
  | unexpectedReply reply => "Unexpected reply from the clipboard store: " ++ reply.shown

/-- The wordings of the causes. -/
def causes : TransportError → List String
  | socketOpen _ cause => [cause.shown]
  | communication cause => [cause.shown]
  | malformed cause => [cause.message]
  | _ => []

end TransportError

/-- Why a request failed. -/
inductive StoreError where
  /-- The store refuses it. -/
  | refused (status : Status)
  /-- The store cannot be reached. -/
  | transport (error : TransportError)
deriving DecidableEq

namespace StoreError

/-- The wording of a failed request. -/
def message : StoreError → String
  | refused status => status.message
  | transport _ => "Couldn't reach the clipboard store"

/-- The wordings of the causes. -/
def causes : StoreError → List String
  | refused _ => []
  | transport error => error.message :: error.causes

/-- The failure code of a failed request; none if the store was not reached. -/
def status? : StoreError → Option Status
  | refused status => some status
  | transport _ => none

end StoreError

/-- A reply as the outcome of a request: failure codes are errors. -/
def Reply.outcome : Reply → Except StoreError Reply
  | error status => .error (.refused status)
  | reply => .ok reply

end Pasteboard
