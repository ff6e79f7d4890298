import Pasteboard.Proofs.World.Evolution

/-!
# What operations ensure

The rules of `Call.Ensures` for calls that can fail, and for questions to a faultless store.
-/

namespace Pasteboard

open Acting (ofAsking ofResult)

/-- What a question takes from the outcome of its request. -/
def Ask.taken {α : Type} (want : Reply → Option α) :
    Except StoreError Reply → Except StoreError α
  | .error error => .error error
  | .ok reply => match want reply with
    | some value => .ok value
    | none => .error (.transport (.unexpectedReply reply))

theorem mapError_ok {ε δ α : Type} (change : ε → δ) (value : α) :
    (Except.ok value).mapError change = .ok value := rfl

namespace Call

variable {α β : Type} {setting : Setting} {place : Nat} {world now : World} {board : Board}
  {client : Client} {told : List Event} {asked : List Request}

@[simp] theorem ensures_lift (call : Call α) (goal : Except ClientError α → World → Prop) :
    (liftM call : Acting α).run.Ensures setting place goal world ↔
      call.Ensures setting place (fun value later => goal (.ok value) later) world :=
  ensures_map call Except.ok goal

/-- An operation after another one is skipped if that fails. -/
@[simp] theorem ensures_acting_bind (acting : Acting α) (rest : α → Acting β)
    (goal : Except ClientError β → World → Prop) :
    (acting >>= rest).run.Ensures setting place goal world ↔
      acting.run.Ensures setting place (fun result later => match result with
        | .ok value => (rest value).run.Ensures setting place goal later
        | .error error => goal (.error error) later) world := by
  rw [ExceptT.run_bind, ensures_bind]
  constructor
  all_goals
    intro h
    refine h.mono fun result later hgoal => ?_
    cases result <;> exact hgoal

@[simp] theorem ensures_ofAsking (asking : Asking α) (goal : Except ClientError α → World → Prop) :
    (ofAsking asking).run.Ensures setting place goal world ↔
      asking.run.Ensures setting place
        (fun result later => goal (result.mapError .ofStore) later) world := by
  rw [ofAsking, ExceptT.run_mk, ensures_bind]
  constructor
  all_goals
    intro h
    refine h.mono fun result later hgoal => ?_
    cases result <;> exact hgoal

@[simp] theorem ensures_ofResult {ε : Type} (fail : ε → ClientError) (result : Except ε α)
    (goal : Except ClientError α → World → Prop) :
    (ofResult fail result).run.Ensures setting place goal world ↔
      goal (result.mapError fail) world := by
  cases result <;> rfl

@[simp] theorem ensures_expect (request : Request) (want : Reply → Option α)
    (goal : Except StoreError α → World → Prop) :
    (Ask.expect request want).run.Ensures setting place goal world ↔
      goal (Ask.taken want (setting.answer world place request).1)
        (setting.answer world place request).2 := by
  simp only [Ask.expect, ExceptT.run_mk, Ensures]
  cases (setting.answer world place request).1 with
  | error => rfl
  | ok reply =>
      simp only [Ask.taken]
      cases want reply <;> rfl

/-- The outcome of a question to a faultless store is the one that the board determines. -/
theorem ensures_ask (hanswer : setting.answer = World.consult)
    (h : world.Evolves place board client told asked now) (request : Request)
    (want : Reply → Option α) {goal : Except StoreError α → World → Prop}
    (hgoal : ∀ later, world.Evolves place (board.handle (World.clientId place) request).2 client
        told (asked ++ [request]) later →
      goal (Ask.taken want (board.handle (World.clientId place) request).1.outcome) later) :
    (Ask.expect request want).run.Ensures setting place goal now := by
  have hreply : (now.consult place request).1 =
      (board.handle (World.clientId place) request).1.outcome := by
    rw [← h.board_eq]
    rfl
  rw [ensures_expect, hanswer, hreply]
  exact hgoal _ (h.consult request)

end Call

end Pasteboard
