import Pasteboard.Proofs.Call.Operations

/-!
# What calls do whatever comes back

`Call.Always` says what holds after a call whatever the store replies and whatever becomes of the
messages that are sent and posted, each of which may depend on all that happened before. It keeps a
record of the `Deed`s of the call, each with what came back, so that it can also say how much was
asked of the store and of the windows. A call is a finite tree on every path, so it ends on every
path; `Call.Always.run` says that in any world it takes one of them.
-/

namespace Pasteboard

open Acting (ofAsking ofResult)

/-- What a call does to the world outside, and what comes back. -/
inductive Deed where
  | asked (request : Request) (reply : Except StoreError Reply)
  | sent (window : WindowId) (message : Message) (limit : Option Duration)
      (answer : Except SendError Bool)
  | posted (window : WindowId) (message : Message) (outcome : Except SendError Unit)
  | refreshed

namespace Deed

/-- Whether the store was asked. -/
def isAsked : Deed → Bool
  | asked _ _ => true
  | _ => false

/-- Whether a message was sent. -/
def isSent : Deed → Bool
  | sent _ _ _ _ => true
  | _ => false

end Deed

namespace Call

variable {α β : Type} {client : Client} {past : List Deed}

/-- After these deeds and with this state of the client, the call ends whatever comes back, and the
goal holds of the result, the client's state and all deeds. -/
def Always (goal : α → Client → List Deed → Prop) : Call α → Client → List Deed → Prop
  | .done value, client, past => goal value client past
  | .ask request next, client, past =>
    ∀ reply, (next reply).Always goal client (past ++ [.asked request reply])
  | .send window message limit next, client, past =>
    ∀ answer, (next answer).Always goal client (past ++ [.sent window message limit answer])
  | .post window message next, client, past =>
    ∀ outcome, (next outcome).Always goal client (past ++ [.posted window message outcome])
  | .refresh next, client, past => next.Always goal client (past ++ [.refreshed])
  | .note _ next, client, past => next.Always goal client past
  | .read next, client, past => (next client).Always goal client past
  | .write client next, _, past => next.Always goal client past

/-- A call that always comes to a goal comes to a weaker one. -/
theorem Always.mono {call : Call α} {goal weaker : α → Client → List Deed → Prop}
    (h : call.Always goal client past)
    (hweaker : ∀ value later deeds, goal value later deeds → weaker value later deeds) :
    call.Always weaker client past := by
  induction call generalizing client past with
  | done => exact hweaker _ _ _ h
  | ask _ _ ih | send _ _ _ _ ih | post _ _ _ ih => exact fun back => ih back (h back)
  | read _ ih => exact ih _ h
  | refresh _ ih | note _ _ ih | write _ _ ih => exact ih h

/-- Calls made one after another come to what the second one comes to after whatever the first one
did. -/
@[simp] theorem always_bind (call : Call α) (rest : α → Call β)
    (goal : β → Client → List Deed → Prop) :
    (call >>= rest).Always goal client past ↔
      call.Always (fun value later deeds => (rest value).Always goal later deeds) client past := by
  show (call.bind rest).Always goal client past ↔ _
  induction call generalizing client past with
  | done => rfl
  | ask _ _ ih | send _ _ _ _ ih | post _ _ _ ih => exact forall_congr' fun back => ih back
  | read _ ih => exact ih _
  | refresh _ ih | note _ _ ih | write _ _ ih => exact ih

@[simp] theorem always_map (call : Call α) (change : α → β)
    (goal : β → Client → List Deed → Prop) :
    (change <$> call).Always goal client past ↔
      call.Always (fun value later deeds => goal (change value) later deeds) client past := by
  rw [← bind_pure_comp, always_bind]
  rfl

@[simp] theorem always_client (goal : Client → Client → List Deed → Prop) :
    Call.client.Always goal client past ↔ goal client client past := .rfl

@[simp] theorem always_modify (change : Client → Client) (goal : Unit → Client → List Deed → Prop) :
    (modify change).Always goal client past ↔ goal () (change client) past := .rfl

@[simp] theorem always_trace (text : String) (goal : Unit → Client → List Deed → Prop) :
    (trace text).Always goal client past ↔ goal () client past := .rfl

@[simp] theorem always_warn (text : String) (goal : Unit → Client → List Deed → Prop) :
    (warn text).Always goal client past ↔ goal () client past := .rfl

@[simp] theorem always_throw (error : ClientError)
    (goal : Except ClientError α → Client → List Deed → Prop) :
    (throw error : Acting α).run.Always goal client past ↔ goal (.error error) client past := .rfl

/-- A lifted call comes to its value. -/
@[simp] theorem always_lift (call : Call α)
    (goal : Except ClientError α → Client → List Deed → Prop) :
    (liftM call : Acting α).run.Always goal client past ↔
      call.Always (fun value later deeds => goal (.ok value) later deeds) client past :=
  always_map call Except.ok goal

/-- An operation after another one is skipped if that fails. -/
@[simp] theorem always_acting_bind (acting : Acting α) (rest : α → Acting β)
    (goal : Except ClientError β → Client → List Deed → Prop) :
    (acting >>= rest).run.Always goal client past ↔
      acting.run.Always (fun result later deeds => match result with
        | .ok value => (rest value).run.Always goal later deeds
        | .error error => goal (.error error) later deeds) client past := by
  rw [ExceptT.run_bind, always_bind]
  constructor
  all_goals
    intro h
    refine h.mono fun result later deeds hgoal => ?_
    cases result <;> exact hgoal

/-- An error of the store is read as one of the client. -/
@[simp] theorem always_ofAsking (asking : Asking α)
    (goal : Except ClientError α → Client → List Deed → Prop) :
    (ofAsking asking).run.Always goal client past ↔
      asking.run.Always (fun result later deeds => goal (result.mapError .ofStore) later deeds)
        client past := by
  rw [ofAsking, ExceptT.run_mk, always_bind]
  constructor
  all_goals
    intro h
    refine h.mono fun result later deeds hgoal => ?_
    cases result <;> exact hgoal

/-- A computation of the client ends at once. -/
@[simp] theorem always_ofResult {ε : Type} (fail : ε → ClientError) (result : Except ε α)
    (goal : Except ClientError α → Client → List Deed → Prop) :
    (ofResult fail result).run.Always goal client past ↔
      goal (result.mapError fail) client past := by
  cases result <;> rfl

/-- A question is one request, and its outcome is what it takes from whatever the reply is. -/
@[simp] theorem always_expect (request : Request) (want : Reply → Option α)
    (goal : Except StoreError α → Client → List Deed → Prop) :
    (Ask.expect request want).run.Always goal client past ↔
      ∀ reply, goal (Ask.taken want reply) client (past ++ [.asked request reply]) := by
  simp only [Ask.expect, ExceptT.run_mk, Always]
  refine forall_congr' fun reply => ?_
  cases reply with
  | error => rfl
  | ok reply =>
      simp only [Ask.taken]
      cases want reply <;> rfl

/-! ## In a world -/

/-- What the call of the client at a place does in a world. -/
def deeds (medium : Medium) (place : Nat) : Call α → World → List Deed
  | .done _, _ => []
  | .ask request next, world =>
    let (reply, later) := medium.answer world place request
    .asked request reply :: (next reply).deeds medium place later
  | .send window message limit next, world =>
    let (answer, later) := medium.send window message limit world
    .sent window message limit answer :: (next answer).deeds medium place later
  | .post window message next, world =>
    let (outcome, later) := world.post window message
    .posted window message outcome :: (next outcome).deeds medium place later
  | .refresh next, world => .refreshed :: next.deeds medium place (world.record .refreshed)
  | .note entry next, world => next.deeds medium place (world.note entry)
  | .read next, world => (next (world.client place)).deeds medium place world
  | .write client next, world => next.deeds medium place (world.setClient place client)

/-- Posting a message changes no client. -/
theorem members_post (world : World) (window : WindowId) (message : Message) :
    (world.post window message).2.members = world.members := by
  simp only [World.post]
  split <;> rfl

/-- If neither the store nor the windows meddle with a client while it waits for them, then what a
call always comes to is what it comes to in the world. -/
theorem Always.run {medium : Medium} {place : Nat} {world : World}
    (hanswer : ∀ world request, world.Present place →
      (medium.answer world place request).2.Present place ∧
        (medium.answer world place request).2.client place = world.client place)
    (hsend : ∀ window message limit world, world.Present place →
      (medium.send window message limit world).2.Present place ∧
        (medium.send window message limit world).2.client place = world.client place)
    (hpresent : world.Present place) {call : Call α} {goal : α → Client → List Deed → Prop}
    (h : call.Always goal (world.client place) past) :
    goal (call.run medium place world).1 ((call.run medium place world).2.client place)
      (past ++ call.deeds medium place world) := by
  -- What came back so far is in front of what is still to come.
  induction call generalizing world past with
  | done value =>
      rw [deeds, List.append_nil]
      exact h
  | ask request next ih =>
      obtain ⟨hlater, hclient⟩ := hanswer world request hpresent
      have hgoal := ih _ hlater (hclient ▸ h (medium.answer world place request).1)
      rw [List.append_assoc] at hgoal
      exact hgoal
  | send window message limit next ih =>
      obtain ⟨hlater, hclient⟩ := hsend window message limit world hpresent
      have hgoal := ih _ hlater (hclient ▸ h (medium.send window message limit world).1)
      rw [List.append_assoc] at hgoal
      exact hgoal
  | post window message next ih =>
      have hmembers := members_post world window message
      have hnext := h (world.post window message).1
      rw [← World.client_congr hmembers place] at hnext
      have hgoal := ih _ ((World.present_congr hmembers place).2 hpresent) hnext
      rw [List.append_assoc] at hgoal
      exact hgoal
  | refresh next ih =>
      have hlater : (world.record .refreshed).Present place := hpresent
      have hgoal := ih hlater h
      rw [List.append_assoc] at hgoal
      exact hgoal
  | note entry next ih =>
      have hmembers := (World.Stirs.note world entry).members
      refine ih ((World.present_congr hmembers place).2 hpresent) ?_
      rw [World.client_congr hmembers]
      exact h
  | read next ih => exact ih _ hpresent h
  | write client next ih =>
      have hlater : (world.setClient place client).Present place :=
        (World.present_updateMember world place _).2 hpresent
      have hnext : next.Always goal ((world.setClient place client).client place) past := by
        rw [World.client_setClient hpresent]
        exact h
      exact ih hlater hnext

end Call

end Pasteboard
