import Pasteboard.Conversion
import Pasteboard.Derivation
import Pasteboard.Exchange.Failure

/-!
# Clients

A client is a program's side of the shared clipboard: its settings, its graphics objects, its
session if it has the clipboard open, and the formats it knows how to derive.
-/

namespace Pasteboard

/-- The settings of a client. -/
structure Settings where
  /-- The buffer size of the first attempt to get a payload. -/
  initialBufferSize : UInt32
  /-- How often a payload may turn out larger than the buffer before the client gives up. -/
  overflowRetries : UInt32
  /-- How long to wait for the owner to render a format. -/
  renderTimeout : Duration
  /-- How long to wait for an owner to let go. -/
  destroyTimeout : Duration
  /-- The locale stored along with text that comes without one. -/
  defaultLocale : Locale
  /-- The code pages of locales whose own pages are not known. -/
  defaultPages : CodePages

/-- The settings of a client that chooses nothing. -/
def Settings.standard : Settings where
  initialBufferSize := 1024
  overflowRetries := 3
  renderTimeout := ⟨5000⟩
  destroyTimeout := ⟨5000⟩
  defaultLocale := Locale.enUS
  defaultPages := CodePages.western

/-- An open session. -/
structure Session where
  /-- The window that the clipboard was opened for. -/
  window : Option WindowId
  /-- Whether the client changed the contents. -/
  changed : Bool
deriving DecidableEq

/-- A program's side of the shared clipboard. -/
structure Client where
  settings : Settings
  graphics : Graphics
  session : Option Session
  /-- The formats that can be derived from others. -/
  sources : Sources
  /-- Whether the client keeps a log; naming a registered format there takes a request. -/
  logging : Bool

namespace Client

/-- A client that has not done anything yet. -/
def fresh (settings : Settings) (graphics : Graphics) (logging : Bool) : Client :=
  ⟨settings, graphics, none, .empty, logging⟩

/-- Whether the client has the clipboard open. -/
def isOpen (client : Client) : Bool := client.session.isSome

/-- Remembers that the session changed the contents. -/
def markChanged (client : Client) : Client :=
  { client with session := client.session.map fun session => { session with changed := true } }

end Client

/-- Why an operation of a client failed. -/
inductive ClientError where
  | alreadyOpen
  | notOpen
  | store (cause : StoreError)
  /-- There is no entry, or only a placeholder that nobody renders. -/
  | noData (format : Format)
  /-- The payload kept changing its size. -/
  | unavailable (format : Format)
  | renderTimeout (format : Format) (owner : WindowId)
  | payload (format : Format) (cause : PayloadError)
  | render (target source : Format) (cause : ConversionError)
  | window (cause : SendError)
deriving DecidableEq

namespace ClientError

/-- A failed request as a failed operation. -/
def ofStore : StoreError → ClientError
  | .refused .alreadyOpen => alreadyOpen
  | .refused .notOpen => notOpen
  | cause => store cause

/-- The wording of a failed operation. -/
def message : ClientError → String
  | alreadyOpen => "The clipboard is already open"
  | notOpen => "The clipboard is not open"
  | store _ => "Clipboard store error"
  | noData format => "There is no " ++ format.shown ++ " data on the clipboard"
  | unavailable format =>
    "The " ++ format.shown ++ " data kept changing size while being retrieved"
  | renderTimeout format owner =>
    "The clipboard owner " ++ owner.shown ++ " did not render " ++ format.shown ++ " in time"
  | payload format _ => "Couldn't marshal " ++ format.shown ++ " data"
  | render target source _ => "Couldn't render " ++ target.shown ++ " from " ++ source.shown
  | window _ => "Couldn't deliver a clipboard message"

/-- The wordings of the causes, the nearest first. -/
def causes : ClientError → List String
  | store cause => cause.message :: cause.causes
  | payload _ cause => [cause.message]
  | render _ _ cause => [cause.message]
  | window cause => [cause.message]
  | _ => []

/-- Whether the failure means that there is no usable data in the format. -/
def isNoData : ClientError → Bool
  | noData _ | unavailable _ | renderTimeout _ _ | render _ _ _ => true
  | payload _ (.malformed _ _) | payload _ (.reconstruct _) => true
  | _ => false

end ClientError

end Pasteboard
