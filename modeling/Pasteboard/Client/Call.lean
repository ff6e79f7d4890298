import Pasteboard.Client.State

/-!
# Calls

An operation of a client is a `Call`: a tree of what it does to the world outside (requests to the
store, messages to windows, notes in the log) and of how it goes on with each answer. What the
answers are is left open, so a call can be studied for every behaviour of the store and the windows,
and run against any of them.
-/

namespace Pasteboard

/-- How much a note in the log matters. -/
inductive Level where
  | trace
  | debug
  | warn
deriving DecidableEq

/-- A note in the log. -/
structure Note where
  level : Level
  text : String
deriving DecidableEq

/-- What a client does, up to its result. -/
inductive Call (α : Type) where
  | done (value : α)
  /-- Asks the store and waits for the reply. -/
  | ask (request : Request) (next : Except StoreError Reply → Call α)
  /-- Sends a message and waits for the answer, possibly with a time limit. -/
  | send (window : WindowId) (message : Message) (limit : Option Duration)
      (next : Except SendError Bool → Call α)
  /-- Posts a message without waiting. -/
  | post (window : WindowId) (message : Message) (next : Except SendError Unit → Call α)
  /-- Has the window system bring the store up to date. -/
  | refresh (next : Call α)
  | note (entry : Note) (next : Call α)
  /-- Looks at the client's own state. -/
  | read (next : Client → Call α)
  /-- Replaces the client's own state. -/
  | write (client : Client) (next : Call α)

namespace Call

/-- One call after another. -/
def bind {α β : Type} : Call α → (α → Call β) → Call β
  | done value, rest => rest value
  | ask request next, rest => ask request fun reply => (next reply).bind rest
  | send window message limit next, rest =>
    send window message limit fun answer => (next answer).bind rest
  | post window message next, rest => post window message fun outcome => (next outcome).bind rest
  | refresh next, rest => refresh (next.bind rest)
  | note entry next, rest => note entry (next.bind rest)
  | read next, rest => read fun client => (next client).bind rest
  | write client next, rest => write client (next.bind rest)

instance : Monad Call where
  pure := done
  bind := bind

@[simp] theorem pure_eq {α : Type} (value : α) : (pure value : Call α) = done value := rfl

@[simp] theorem done_bind {α β : Type} (value : α) (rest : α → Call β) :
    done value >>= rest = rest value := rfl

theorem bind_done {α : Type} (call : Call α) : call.bind done = call := by
  induction call with
  | done => rfl
  | ask _ _ ih | send _ _ _ _ ih | post _ _ _ ih | read _ ih => simp [bind, ih]
  | refresh _ ih | note _ _ ih | write _ _ ih => simp [bind, ih]

theorem bind_bind {α β γ : Type} (call : Call α) (middle : α → Call β) (rest : β → Call γ) :
    (call.bind middle).bind rest = call.bind fun value => (middle value).bind rest := by
  induction call with
  | done => rfl
  | ask _ _ ih | send _ _ _ _ ih | post _ _ _ ih | read _ ih => simp [bind, ih]
  | refresh _ ih | note _ _ ih | write _ _ ih => simp [bind, ih]

instance : LawfulMonad Call :=
  LawfulMonad.mk' Call bind_done (fun _ _ => rfl) bind_bind

/-- The client's own state. -/
def client : Call Client := read done

/-- Changes the client's own state. -/
def modify (change : Client → Client) : Call Unit := read fun client => write (change client) (done ())

/-- A note on the course of things. -/
def trace (text : String) : Call Unit := note ⟨.trace, text⟩ (done ())

/-- A note for whoever looks for a fault. -/
def debug (text : String) : Call Unit := note ⟨.debug, text⟩ (done ())

/-- A note on something that went wrong without making the operation fail. -/
def warn (text : String) : Call Unit := note ⟨.warn, text⟩ (done ())

end Call

/-- A call that can fail as a request does. -/
abbrev Asking := ExceptT StoreError Call

/-- A call that can fail as an operation does. -/
abbrev Acting := ExceptT ClientError Call

/-- A failed request makes the operation fail. -/
def Acting.ofAsking {α : Type} (asking : Asking α) : Acting α :=
  ExceptT.mk do
    match ← asking.run with
    | .ok value => return .ok value
    | .error error => return .error (.ofStore error)

/-- The value of a result, or its error as that of the operation. -/
def Acting.ofResult {ε α : Type} (fail : ε → ClientError) : Except ε α → Acting α
  | .ok value => pure value
  | .error error => throw (fail error)

end Pasteboard
