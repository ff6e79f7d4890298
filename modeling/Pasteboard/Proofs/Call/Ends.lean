import Pasteboard.Proofs.World.Tasks

/-!
# Where calls end in a given medium

`Call.Ensures` leaves open how windows answer. Where the answers matter, `Call.Ends` says what holds
after a call was carried out in one medium. A stretch of a call in which no message is sent is still
described by `Call.Ensures`, in a setting that allows none: then the windows stay as they are, see
`Call.Ensures.ends`.
-/

namespace Pasteboard

open Acting (ofAsking ofResult)

/-- The surroundings in which no message is sent. -/
def Setting.silent : Setting where
  answer := World.consult
  ready _ := False
  shift _ _ _ _ _ := False

namespace Call

variable {α β : Type} {medium : Medium} {place : Nat} {world : World}

/-- Carried out in the medium, the call ends with a result and a world that satisfy the goal. -/
def Ends (medium : Medium) (place : Nat) (call : Call α) (goal : α → World → Prop)
    (world : World) : Prop :=
  goal (call.run medium place world).1 (call.run medium place world).2

/-- A call that ends in a goal ends in a weaker one. -/
theorem Ends.mono {call : Call α} {goal weaker : α → World → Prop}
    (h : call.Ends medium place goal world)
    (hweaker : ∀ value later, goal value later → weaker value later) :
    call.Ends medium place weaker world :=
  hweaker _ _ h

/-- Calls made one after another end where the second one ends from where the first one did. -/
@[simp] theorem ends_bind (call : Call α) (rest : α → Call β) (goal : β → World → Prop) :
    (call >>= rest).Ends medium place goal world ↔
      call.Ends medium place
        (fun value later => (rest value).Ends medium place goal later) world := by
  simp only [Ends, run_bind]

@[simp] theorem ends_done (value : α) (goal : α → World → Prop) :
    (done value).Ends medium place goal world ↔ goal value world := .rfl

/-- A change of the result changes nothing else. -/
@[simp] theorem ends_map (call : Call α) (change : α → β) (goal : β → World → Prop) :
    (change <$> call).Ends medium place goal world ↔
      call.Ends medium place (fun value later => goal (change value) later) world := by
  rw [← bind_pure_comp, ends_bind]
  rfl

@[simp] theorem ends_client (goal : Client → World → Prop) :
    client.Ends medium place goal world ↔ goal (world.client place) world := .rfl

@[simp] theorem ends_modify (change : Client → Client) (goal : Unit → World → Prop) :
    (modify change).Ends medium place goal world ↔
      goal () (world.setClient place (change (world.client place))) := .rfl

@[simp] theorem ends_note (entry : Note) (next : Call α) (goal : α → World → Prop) :
    (note entry next).Ends medium place goal world ↔
      next.Ends medium place goal (world.note entry) := .rfl

/-- The call goes on with the answer, in the world that the message left. -/
@[simp] theorem ends_send (window : WindowId) (message : Message) (limit : Option Duration)
    (next : Except SendError Bool → Call α) (goal : α → World → Prop) :
    (send window message limit next).Ends medium place goal world ↔
      (next (medium.send window message limit world).1).Ends medium place goal
        (medium.send window message limit world).2 := .rfl

@[simp] theorem ends_trace (text : String) (goal : Unit → World → Prop) :
    (trace text).Ends medium place goal world ↔ goal () (world.note ⟨.trace, text⟩) := .rfl

@[simp] theorem ends_warn (text : String) (goal : Unit → World → Prop) :
    (warn text).Ends medium place goal world ↔ goal () (world.note ⟨.warn, text⟩) := .rfl

@[simp] theorem ends_throw (error : ClientError) (goal : Except ClientError α → World → Prop) :
    (throw error : Acting α).run.Ends medium place goal world ↔ goal (.error error) world := .rfl

/-- A lifted call ends with its value as the result. -/
@[simp] theorem ends_lift (call : Call α) (goal : Except ClientError α → World → Prop) :
    (liftM call : Acting α).run.Ends medium place goal world ↔
      call.Ends medium place (fun value later => goal (.ok value) later) world :=
  ends_map call Except.ok goal

/-- An operation after another one is skipped if that fails. -/
@[simp] theorem ends_acting_bind (acting : Acting α) (rest : α → Acting β)
    (goal : Except ClientError β → World → Prop) :
    (acting >>= rest).run.Ends medium place goal world ↔
      acting.run.Ends medium place (fun result later => match result with
        | .ok value => (rest value).run.Ends medium place goal later
        | .error error => goal (.error error) later) world := by
  rw [ExceptT.run_bind, ends_bind]
  constructor
  all_goals
    intro h
    refine h.mono fun result later hgoal => ?_
    cases result <;> exact hgoal

/-- An error of the store is read as one of the client. -/
@[simp] theorem ends_ofAsking (asking : Asking α) (goal : Except ClientError α → World → Prop) :
    (ofAsking asking).run.Ends medium place goal world ↔
      asking.run.Ends medium place
        (fun result later => goal (result.mapError .ofStore) later) world := by
  rw [ofAsking, ExceptT.run_mk, ends_bind]
  constructor
  all_goals
    intro h
    refine h.mono fun result later hgoal => ?_
    cases result <;> exact hgoal

/-- A computation of the client ends at once. -/
@[simp] theorem ends_ofResult {ε : Type} (fail : ε → ClientError) (result : Except ε α)
    (goal : Except ClientError α → World → Prop) :
    (ofResult fail result).run.Ends medium place goal world ↔
      goal (result.mapError fail) world := by
  cases result <;> rfl

/-- A question ends with what it takes from the reply. -/
@[simp] theorem ends_expect (request : Request) (want : Reply → Option α)
    (goal : Except StoreError α → World → Prop) :
    (Ask.expect request want).run.Ends medium place goal world ↔
      goal (Ask.taken want (medium.answer world place request).1)
        (medium.answer world place request).2 := by
  simp only [Ask.expect, ExceptT.run_mk, Ends, Call.run]
  cases (medium.answer world place request).1 with
  | error => rfl
  | ok reply =>
      simp only [Ask.taken]
      cases want reply <;> rfl

/-- What a call ensures without a message holds where it ends, and windows are as they were. -/
theorem Ensures.ends (hanswer : medium.answer = World.consult) {call : Call α}
    {goal : α → World → Prop} (h : call.Ensures .silent place goal world) :
    call.Ends medium place (fun value later => goal value later ∧ later.windows = world.windows)
      world := by
  induction call generalizing world with
  | done => exact ⟨h, rfl⟩
  | ask request next ih =>
      simp only [Ends, Call.run, hanswer]
      exact ih _ h
  | send => exact False.elim h.1
  | post window message next ih =>
      have hwindows : (world.post window message).2.windows = world.windows := by
        simp only [World.post]
        split <;> rfl
      have hnext := ih _ h
      rw [hwindows] at hnext
      exact hnext
  | refresh next ih => exact ih h
  | note entry next ih =>
      have hnext := ih h
      rw [World.note_windows] at hnext
      exact hnext
  | read next ih => exact ih _ h
  | write client next ih => exact ih h

end Call

namespace Task

open Call

variable {medium : Medium} {place : Nat} {world : World}

/-- A task ends with what its operation came to. -/
@[simp] theorem ends_outcome {α : Type} (value : α → Value) (acting : Acting α)
    (goal : Outcome → World → Prop) :
    (outcome value acting).Ends medium place goal world ↔
      acting.run.Ends medium place
        (fun result later => goal (.ofResult value result) later) world := by
  rw [outcome, ends_bind]
  constructor
  all_goals
    intro h
    refine h.mono fun result later hgoal => ?_
    cases result <;> exact hgoal

/-- A task that gets a value ends with the value and the object behind its handle. -/
@[simp] theorem ends_dataOutcome (acting : Acting Data) (goal : Outcome → World → Prop) :
    (dataOutcome acting).Ends medium place goal world ↔
      acting.run.Ends medium place (fun result later => goal (.ofResult (fun data =>
        .data data (data.handle?.bind (later.client place).graphics.object?)) result) later)
        world := by
  rw [dataOutcome, ends_bind]
  constructor
  all_goals
    intro h
    refine h.mono fun result later hgoal => ?_
    cases result <;> exact hgoal

end Task

namespace World

open Call

variable {place : Nat} {world : World}

/-- An idle client does the task, and is idle again when the call behind the task is over. -/
theorem act_of_ends (medium : Medium) (hidle : world.Idle place) (task : Task)
    (goal : Outcome → World → Prop)
    (h : task.run.Ends medium place
      (fun outcome later => goal outcome (later.setBusy place false)) (world.setBusy place true)) :
    goal (world.act medium place task).1 (world.act medium place task).2 := by
  obtain ⟨member, hmember, hbusy⟩ := hidle
  rw [act, hmember]
  simp only [hbusy, Bool.false_eq_true, if_false]
  exact h

end World

end Pasteboard
