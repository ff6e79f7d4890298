import Pasteboard.Desktop.Script
import Pasteboard.Proofs.Board.Requests
import Pasteboard.Proofs.Exchange.Bodies

/-!
# Calls that understand every answer in kind

A call is `Proper` if each of its requests says in its body what it is and, as long as the store
refuses a request or answers it in kind, the call does not end in a transport error. The operations
of clients are proper because each wants from a reply just what is in a reply of that kind.
-/

namespace Pasteboard

open Acting (ofAsking ofResult)

/-- The store was reached and understood. -/
def StoreError.Reached : StoreError → Prop
  | refused _ => True
  | transport _ => False

/-- The operation did not fail because the store could not be reached or understood. -/
def ClientError.Reached : ClientError → Prop
  | store cause => cause.Reached
  | _ => True

/-- What a client makes of an error of the store is about reaching it only if the error is. -/
theorem ClientError.reached_ofStore {error : StoreError} (h : error.Reached) :
    (ofStore error).Reached := by
  cases error with
  | refused status => cases status <;> trivial
  | transport => exact False.elim h

mutual

/-- No operation failed because the store could not be reached or understood, also not within a
session. -/
def Outcome.Reached : Outcome → Prop
  | failed error => error.Reached
  | refused error => error.Reached
  | session outcomes _ close =>
    Outcome.AllReached outcomes ∧ ∀ error, close = some (.error error) → error.Reached
  | done _ | gone | busy => True

/-- None of several did. -/
def Outcome.AllReached : List Outcome → Prop
  | [] => True
  | outcome :: rest => outcome.Reached ∧ Outcome.AllReached rest

end

namespace Call

variable {α β : Type}

/-- Every request says in its body what it is, and if each is refused or answered in kind, whatever
the windows do, the call ends with a result that satisfies the goal. -/
def Proper (goal : α → Prop) : Call α → Prop
  | .done value => goal value
  | .ask request next =>
    request.Faithful ∧ ∀ outcome, request.Settles outcome → (next outcome).Proper goal
  | .send _ _ _ next => ∀ answer, (next answer).Proper goal
  | .post _ _ next => ∀ outcome, (next outcome).Proper goal
  | .refresh next => next.Proper goal
  | .note _ next => next.Proper goal
  | .read next => ∀ client, (next client).Proper goal
  | .write _ next => next.Proper goal

/-- The call is proper, whatever its result. -/
abbrev Tame (call : Call α) : Prop := call.Proper fun _ => True

/-- A proper call may be asked for less of its result. -/
theorem Proper.mono {call : Call α} {goal weaker : α → Prop} (h : call.Proper goal)
    (hweaker : ∀ value, goal value → weaker value) : call.Proper weaker := by
  induction call with
  | done value => exact hweaker value h
  | ask _ _ ih => exact ⟨h.1, fun outcome hsettles => ih outcome (h.2 outcome hsettles)⟩
  | send _ _ _ _ ih | post _ _ _ ih | read _ ih => exact fun answer => ih _ (h answer)
  | refresh _ ih | note _ _ ih | write _ _ ih => exact ih h

/-- Calls made one after another are proper if the second is, for every result that the first one
may end with. -/
theorem Proper.bind {call : Call α} {rest : α → Call β} {middle : α → Prop} {goal : β → Prop}
    (h : call.Proper middle) (hrest : ∀ value, middle value → (rest value).Proper goal) :
    (call >>= rest).Proper goal := by
  show (call.bind rest).Proper goal
  induction call with
  | done value => exact hrest value h
  | ask _ _ ih => exact ⟨h.1, fun outcome hsettles => ih outcome (h.2 outcome hsettles)⟩
  | send _ _ _ _ ih | post _ _ _ ih | read _ ih => exact fun answer => ih _ (h answer)
  | refresh _ ih | note _ _ ih | write _ _ ih => exact ih h

/-- The result of a tame call says nothing, so the rest must be proper for all of them. -/
theorem tame_bind {call : Call α} {rest : α → Call β} {goal : β → Prop} (h : call.Tame)
    (hrest : ∀ value, (rest value).Proper goal) : (call >>= rest).Proper goal :=
  h.bind fun value _ => hrest value

/-- A call that ends makes no request, and neither do those that look at the client, change it or
leave a note. -/
theorem tame_done (value : α) : (done value).Tame := trivial

theorem tame_client : client.Tame := fun _ => trivial

theorem tame_modify (change : Client → Client) : (modify change).Tame := fun _ => trivial

theorem tame_trace (text : String) : (trace text).Tame := trivial

theorem tame_warn (text : String) : (warn text).Tame := trivial

end Call

open Call

namespace Asking

variable {α : Type}

/-- Whatever is asked, the store is reached. -/
def Proper (asking : Asking α) : Prop :=
  asking.run.Proper fun result => ∀ error, result = .error error → error.Reached

/-- What is proper is tame if nobody minds its errors. -/
theorem Proper.tame {asking : Asking α} (h : Proper asking) : asking.run.Tame :=
  h.mono fun _ _ => trivial

end Asking

namespace Acting

variable {α β : Type}

/-- Whatever is done, the store is reached. -/
def Proper (acting : Acting α) : Prop :=
  acting.run.Proper fun result => ∀ error, result = .error error → error.Reached

/-- An operation whose errors are ignored is tame. -/
theorem Proper.tame {acting : Acting α} (h : Proper acting) : acting.run.Tame :=
  h.mono fun _ _ => trivial

/-- An operation that only returns a value has no error to be checked. -/
theorem proper_pure (value : α) : Proper (pure value : Acting α) := fun error herror => by
  cases herror

/-- An operation may fail for a reason of its own. -/
theorem proper_throw {error : ClientError} (h : error.Reached) :
    Proper (throw error : Acting α) := fun _ herror => by
  cases herror
  exact h

/-- Operations made one after another are proper if each is: where the first one fails, its error is
that of both. -/
theorem proper_bind {acting : Acting α} {rest : α → Acting β} (h : Proper acting)
    (hrest : ∀ value, Proper (rest value)) : Proper (acting >>= rest) := by
  rw [Proper, ExceptT.run_bind]
  refine Call.Proper.bind h fun result hresult => ?_
  cases result with
  | ok value => exact hrest value
  | error error =>
      intro other hother
      cases hother
      exact hresult error rfl

/-- An operation that goes on with what a call gives. -/
theorem proper_lift_bind {call : Call α} {rest : α → Acting β} {middle : α → Prop}
    (h : call.Proper middle) (hrest : ∀ value, middle value → Proper (rest value)) :
    Proper ((liftM call : Acting α) >>= rest) := by
  have hlift : (liftM call : Acting α).run = (Except.ok <$> call : Call (Except ClientError α)) :=
    rfl
  rw [Proper, ExceptT.run_bind, hlift, bind_map_left]
  exact h.bind hrest

/-- A call that is lifted cannot fail, so only what follows counts. -/
theorem proper_after {call : Call α} {rest : α → Acting β} (h : call.Tame)
    (hrest : ∀ value, Proper (rest value)) : Proper ((liftM call : Acting α) >>= rest) :=
  proper_lift_bind h fun value _ => hrest value

/-- A call that is lifted makes no error. -/
theorem proper_lift {call : Call α} (h : call.Tame) : Proper (liftM call : Acting α) := by
  have hdone := proper_after h fun value => proper_pure value
  rwa [bind_pure] at hdone

/-- A computation of the client that fails is no matter of reaching the store, unless the client
reports it so. -/
theorem proper_ofResult {ε : Type} {fail : ε → ClientError} (result : Except ε α)
    (h : ∀ error, result = .error error → (fail error).Reached) :
    Proper (ofResult fail result) := by
  cases result with
  | ok value => exact proper_pure value
  | error error => exact proper_throw (h error rfl)

/-- An operation that asks one question is proper if the question is. -/
theorem proper_ofAsking {asking : Asking α} (h : Asking.Proper asking) :
    Proper (ofAsking asking) := by
  rw [Proper, ofAsking, ExceptT.run_mk]
  refine Call.Proper.bind h fun result hresult => ?_
  cases result with
  | ok value => exact proper_pure value
  | error error => exact proper_throw (ClientError.reached_ofStore (hresult error rfl))

end Acting

namespace Ask

open Asking (Proper)

/-- A question is proper if it finds what it wants in every reply of the kind. -/
theorem proper_expect {α : Type} {request : Request} {want : Reply → Option α}
    (hfaithful : request.Faithful)
    (hwant : ∀ reply, reply.answers request = true → (want reply).isSome = true) :
    Proper (expect request want) := by
  refine ⟨hfaithful, fun outcome hsettles => ?_⟩
  cases outcome with
  | ok reply =>
      obtain ⟨value, hvalue⟩ := Option.isSome_iff_exists.1 (hwant reply hsettles)
      simp only [hvalue]
      intro error herror
      cases herror
  | error cause =>
      cases cause with
      | refused => exact fun error herror => by cases herror; trivial
      | transport => exact False.elim hsettles

/-- Opening wants the owner, and a reply in kind names one or none. -/
theorem proper_openSession (requestor : Option WindowId) : Proper (openSession requestor) :=
  proper_expect nofun fun reply hreply => by cases reply <;> first | rfl | cases hreply

/-- Closing wants viewer and owner, which come together. -/
theorem proper_closeSession : Proper (finish .closeSession) :=
  proper_expect nofun fun reply hreply => by cases reply <;> first | rfl | cases hreply

/-- Releasing wants the same two as closing. -/
theorem proper_releaseOwner (owner : WindowId) : Proper (finish (.releaseOwner owner)) :=
  proper_expect nofun fun reply hreply => by cases reply <;> first | rfl | cases hreply

/-- A claim wants no more than to be acknowledged. -/
theorem proper_claimOwnership (owner : Option WindowId) :
    Proper (acknowledge (.claimOwnership owner)) :=
  proper_expect nofun fun reply hreply => by cases reply <;> first | rfl | cases hreply

/-- Putting wants an acknowledgement, however long the data. -/
theorem proper_put (format : Format) (data : Bytes) : Proper (acknowledge (.put format data)) :=
  proper_expect nofun fun reply hreply => by cases reply <;> first | rfl | cases hreply

theorem proper_addListener (window : WindowId) : Proper (acknowledge (.addListener window)) :=
  proper_expect nofun fun reply hreply => by cases reply <;> first | rfl | cases hreply

theorem proper_removeListener (window : WindowId) :
    Proper (acknowledge (.removeListener window)) :=
  proper_expect nofun fun reply hreply => by cases reply <;> first | rfl | cases hreply

/-- A get takes the whole reply, whatever status it reports. -/
theorem proper_get (format : Format) (bufferLen : UInt32) : Proper (get format bufferLen) :=
  proper_expect nofun fun reply hreply => by cases reply <;> first | rfl | cases hreply

/-- The format after another one is wanted as it is, the null format included. -/
theorem proper_enumerateFormats (previous : Format) :
    Proper (format (.enumerateFormats previous)) :=
  proper_expect nofun fun reply hreply => by cases reply <;> first | rfl | cases hreply

/-- A name is answered with its format. -/
theorem proper_registerFormat (name : String) : Proper (format (.registerFormat name)) :=
  proper_expect nofun fun reply hreply => by cases reply <;> first | rfl | cases hreply

/-- Any format but the null one can be counted. -/
theorem proper_countFormats {filter : Option Format} (hfilter : filter ≠ some Format.null) :
    Proper (countFormats filter) :=
  proper_expect (fun h => hfilter (Request.countFormats.inj h))
    fun reply hreply => by cases reply <;> first | rfl | cases hreply

/-- All formats that the list names are wanted. -/
theorem proper_listFormats : Proper listFormats :=
  proper_expect nofun fun reply hreply => by cases reply <;> first | rfl | cases hreply

theorem proper_info : Proper info :=
  proper_expect nofun fun reply hreply => by cases reply <;> first | rfl | cases hreply

/-- Either reply about the viewer is wanted: that it is set, or that it is up to the head. -/
theorem proper_setViewer (viewer previous : Option WindowId) :
    Proper (setViewer viewer previous) :=
  proper_expect nofun fun reply hreply => by cases reply <;> first | rfl | cases hreply

theorem proper_listeners : Proper listeners :=
  proper_expect nofun fun reply hreply => by cases reply <;> first | rfl | cases hreply

/-- A format is answered with its name, or with none. -/
theorem proper_formatName (format : Format) : Proper (formatName format) :=
  proper_expect nofun fun reply hreply => by cases reply <;> first | rfl | cases hreply

end Ask

end Pasteboard
