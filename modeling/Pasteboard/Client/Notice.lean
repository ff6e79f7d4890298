import Pasteboard.Client.Call

/-!
# Notices of changes

Viewers form a chain: the store knows the head, and each viewer knows the next one and passes
notices on. Listeners are told one by one. A notice that cannot be delivered is only noted.
-/

namespace Pasteboard

/-- What a viewer does when `removed` leaves the chain, if `successor` is the next viewer. -/
inductive ChainReaction where
  /-- The viewer that leaves is the next one: its own next one moves up. -/
  | splice
  /-- The change concerns someone further down. -/
  | forward (successor : WindowId)
  /-- The chain ends here. -/
  | unknown
deriving DecidableEq

/-- The reaction of a viewer to a change of the chain. -/
def ChainReaction.of (successor : Option WindowId) (removed : WindowId) : ChainReaction :=
  match successor with
  | none => unknown
  | some successor => if successor = removed then splice else forward successor

namespace Notice

/-- The note on a change that is passed on. -/
def forwarding (removed viewer : WindowId) : Note :=
  ⟨.trace, "Forwarding removal of " ++ removed.shown ++ " to " ++ viewer.shown⟩

/-- The note on a viewer that closes the gap. -/
def splicing (viewer removed : WindowId) : Note :=
  ⟨.trace, "Viewer " ++ viewer.shown ++ " splices out " ++ removed.shown⟩

/-- Has a viewer take `removed` out of the chain, and gives its answer. -/
def relayChange (viewer removed : WindowId) (next : Option WindowId) :
    Call (Except SendError Bool) :=
  .note (forwarding removed viewer) (.send viewer (.changeChain removed next) none .done)

/-- Tells the head of the chain that the contents changed. -/
def notifyViewer (viewer : WindowId) (owner : Option WindowId) : Call Unit := do
  Call.trace ("Notifying viewer " ++ viewer.shown ++ ", owner " ++ WindowId.shownOption owner)
  .post viewer (.drawClipboard owner) fun
    | .ok () => .done ()
    | .error error =>
      Call.warn ("Couldn't notify clipboard viewer " ++ viewer.shown ++ ": " ++ error.message)

/-- Tells a listener that the contents changed. -/
def notifyListener (listener : WindowId) : Call Unit := do
  Call.trace ("Notifying listener " ++ listener.shown)
  .post listener .clipboardUpdate fun
    | .ok () => .done ()
    | .error error =>
      Call.warn ("Couldn't notify clipboard listener " ++ listener.shown ++ ": " ++ error.message)

/-- Tells every listener that the contents changed. -/
def notifyListeners : List WindowId → Call Unit
  | [] => .done ()
  | listener :: rest => do
    notifyListener listener
    notifyListeners rest

/-- Tells the head of the chain, if there is one. -/
def notifyHead (viewer owner : Option WindowId) : Call Unit :=
  match viewer with
  | some viewer => notifyViewer viewer owner
  | none => .done ()

end Notice

end Pasteboard
