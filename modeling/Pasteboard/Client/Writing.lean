import Pasteboard.Client.Ask
import Pasteboard.Client.Notice

/-!
# Opening, filling and closing the clipboard

A writer opens a session, takes the clipboard over, puts its formats and closes. Closing a session
that changed the contents first offers the formats that can be derived from those present, as
placeholders, and then tells the viewers and listeners.
-/

namespace Pasteboard

open Acting (ofAsking ofResult)

namespace Acting

/-- How a format is written in the log, with the name it was registered under. -/
def label (format : Format) : Call String := do
  if format.isRegistered then
    match ← (Ask.formatName format).run with
    | .ok name => return format.labelled name
    | .error _ => return format.labelled none
  else return format.labelled none

/-- A note that ends in the name of a format. -/
def traceLabelled (front : String) (format : Format) : Call Unit := do
  if (← Call.client).logging then Call.trace (front ++ (← label format))

/-- Opens the clipboard for a window. Derivations are forgotten if nobody owns the contents. -/
def openSession (window : Option WindowId) : Acting Unit := do
  (Call.refresh (.done ()) : Call Unit)
  let owner ← ofAsking (Ask.openSession window)
  Call.trace ("Opened the clipboard for " ++ WindowId.shownOption window ++ ", owner "
    ++ WindowId.shownOption owner)
  Call.modify fun client =>
    { client with
      sources := if owner.isNone then .empty else client.sources
      session := some ⟨window, false⟩ }

/-- Puts a payload. The format is not derived any more. -/
def putBytes (format : Format) (payload : Bytes) : Acting Unit := do
  ofAsking (Ask.acknowledge (.put format payload))
  traceLabelled ("Put " ++ toString payload.length ++ " bytes of ") format
  Call.modify fun client => { client with sources := client.sources.remove format }.markChanged

/-- Puts a value. -/
def put (format : Format) (data : Data) : Acting Unit := do
  let payload ← ofResult (.payload format) (data.encode (← Call.client).graphics format)
  putBytes format payload

/-- Puts a placeholder, which the owner renders on request. -/
def putDelayed (format : Format) : Acting Unit := putBytes format []

/-- Stores the default locale. -/
def addLocale : Call Unit := do
  let locale := (← Call.client).settings.defaultLocale
  match ← (putBytes Format.locale (Bytes.ofU32 locale)).run with
  | .ok () => return ()
  | .error error => Call.warn ("Couldn't add the clipboard locale: " ++ error.message)

/-- Offers one derivable format. -/
def offer (derivation : Derivation) : Call Unit := do
  match ← (putBytes derivation.target []).run with
  | .ok () => Call.modify fun client =>
      { client with sources := client.sources.record derivation.target derivation.source }
  | .error error =>
    Call.warn ("Couldn't advertise synthesized " ++ derivation.target.shown ++ ": " ++ error.message)

/-- Offers derivable formats one by one. -/
def offerAll : List Derivation → Call Unit
  | [] => .done ()
  | derivation :: rest => do
    offer derivation
    offerAll rest

/-- Replaces the derivations by those that the present formats allow. Failures are only noted. -/
def planDerivations : Call Unit := do
  match ← Ask.listFormats.run with
  | .error error =>
    Call.warn ("Couldn't list clipboard formats for synthesis: " ++ error.message)
  | .ok present =>
    let plan := Plan.of present.contains
    Call.debug ("Synthesis plan: " ++ plan.shown)
    Call.modify fun client => { client with sources := .empty }
    if plan.setLocale then addLocale
    offerAll plan.derivations

/-- Tells all listeners of a change. -/
def tellListeners : Call Unit := do
  match ← Ask.listeners.run with
  | .ok listeners => Notice.notifyListeners listeners
  | .error error => Call.warn ("Couldn't list clipboard listeners: " ++ error.message)

/-- Closes the clipboard. The session is over for the client even if the store refuses. -/
def closeSession : Acting CloseReply := do
  let session := (← Call.client).session
  let changed := session.any (·.changed)
  if changed then planDerivations
  let result ← (Ask.finish .closeSession).run
  Call.modify fun client => { client with session := none }
  let reply ← ofResult .ofStore result
  Call.trace ("Closed the clipboard of " ++ WindowId.shownOption (session.bind (·.window))
    ++ ", viewer " ++ WindowId.shownOption reply.viewer ++ ", owner "
    ++ WindowId.shownOption reply.owner)
  Notice.notifyHead reply.viewer reply.owner
  if changed then tellListeners
  return reply

/-- Closes the clipboard at the end of a session that is simply left. -/
def leaveSession : Call Unit := do
  match ← closeSession.run with
  | .ok _ => return ()
  | .error error => Call.warn ("Couldn't close the clipboard: " ++ error.message)

/-- Asks the previous owner to let go, and waits a limited time for it. -/
def dismiss (previous : WindowId) : Call Unit := do
  Call.trace ("Sending destroy-clipboard to " ++ previous.shown)
  let limit := (← Call.client).settings.destroyTimeout
  .send previous .destroyClipboard (some limit) fun
    | .ok _ => .done ()
    | .error error =>
      Call.warn ("The previous clipboard owner " ++ previous.shown ++ " failed to let go: "
        ++ error.message)

/-- Empties the clipboard and makes a window its owner. -/
def claimOwnership (owner : Option WindowId) : Acting Unit := do
  let info ← ofAsking Ask.info
  match info.owner with
  | some previous => dismiss previous
  | none => pure ()
  ofAsking (Ask.acknowledge (.claimOwnership owner))
  Call.trace (WindowId.shownOption owner ++ " now owns the clipboard")
  Call.modify fun client => { client with sources := .empty }.markChanged
  Notice.notifyHead info.viewer owner

/-- Lets go of the clipboard for an owner that goes away, after asking it to render what it
promised. -/
def releaseOwner (owner : WindowId) : Acting Unit := do
  Call.trace ("Asking " ++ owner.shown ++ " to render all formats")
  (Call.send owner .renderAllFormats none fun
    | .ok _ => .done ()
    | .error error =>
      Call.warn ("Couldn't ask " ++ owner.shown ++ " to render all formats: " ++ error.message) :
    Call Unit)
  let reply ← ofAsking (Ask.finish (.releaseOwner owner))
  Notice.notifyHead reply.viewer reply.owner

end Acting

end Pasteboard
