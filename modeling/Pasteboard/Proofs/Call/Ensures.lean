import Pasteboard.Desktop.Run

/-!
# What calls ensure

`Call.Ensures` says what holds after a call whatever the windows do while it waits for them. A
`Setting` says how requests are answered, what must hold of the world when a message is sent, and
what the processing of the message may make of the world. Read `Call.Ensures.run` first: in a medium
that fits the setting, the call really ends that way. `Call.Ensures.ready` is about the moments in
between, when a message is sent.
-/

namespace Pasteboard

/-- The client at a place, a fresh one if nobody is there. -/
def World.client (world : World) (place : Nat) : Client :=
  ((world.member? place).map Member.client).getD (.fresh .standard .empty false)

/-- Replaces the client at a place. -/
def World.setClient (world : World) (place : Nat) (client : Client) : World :=
  world.updateMember place fun member => { member with client := client }

/-- The surroundings in which a client works. -/
structure Setting where
  answer : Answering
  /-- What must hold of the world when a message is sent. -/
  ready : World → Prop
  /-- What the processing of a message may make of the world. -/
  shift : WindowId → Message → Option Duration → World → World → Prop

/-- The medium answers as the setting says, and its windows keep within the setting. -/
structure Medium.Fits (medium : Medium) (setting : Setting) : Prop where
  answer : medium.answer = setting.answer
  send : ∀ window message limit world, setting.ready world →
    setting.shift window message limit world (medium.send window message limit world).2

namespace Call

variable {α β : Type} {setting : Setting} {medium : Medium} {place : Nat} {world : World}

/-- From this world, the call ends with a result and a world that satisfy the goal. At each message
the setting's demand must hold, and the call goes on from any world that the setting allows. -/
def Ensures (setting : Setting) (place : Nat) :
    Call α → (α → World → Prop) → World → Prop
  | .done value, goal, world => goal value world
  | .ask request next, goal, world =>
    (next (setting.answer world place request).1).Ensures setting place goal
      (setting.answer world place request).2
  | .send window message limit next, goal, world =>
    setting.ready world ∧ ∀ answer later, setting.shift window message limit world later →
      (next answer).Ensures setting place goal later
  | .post window message next, goal, world =>
    (next (world.post window message).1).Ensures setting place goal (world.post window message).2
  | .refresh next, goal, world => next.Ensures setting place goal (world.record .refreshed)
  | .note entry next, goal, world => next.Ensures setting place goal (world.note entry)
  | .read next, goal, world => (next (world.client place)).Ensures setting place goal world
  | .write client next, goal, world =>
    next.Ensures setting place goal (world.setClient place client)

/-- A weaker goal is ensured as well. -/
theorem Ensures.mono {call : Call α} {goal weaker : α → World → Prop}
    (h : call.Ensures setting place goal world)
    (hweaker : ∀ value later, goal value later → weaker value later) :
    call.Ensures setting place weaker world := by
  induction call generalizing world with
  | done => exact hweaker _ _ h
  | ask _ _ ih | post _ _ _ ih | read _ ih => exact ih _ h
  | refresh _ ih | note _ _ ih | write _ _ ih => exact ih h
  | send _ _ _ _ ih => exact ⟨h.1, fun answer later hshift => ih answer (h.2 answer later hshift)⟩

/-- One call after another ensures what the second one ensures from where the first one ends. -/
@[simp] theorem ensures_bind (call : Call α) (rest : α → Call β) (goal : β → World → Prop) :
    (call >>= rest).Ensures setting place goal world ↔
      call.Ensures setting place
        (fun value later => (rest value).Ensures setting place goal later) world := by
  show (call.bind rest).Ensures setting place goal world ↔ _
  induction call generalizing world with
  | done => rfl
  | ask _ _ ih | post _ _ _ ih | read _ ih => exact ih _
  | refresh _ ih | note _ _ ih | write _ _ ih => exact ih
  | send _ _ _ _ ih => simp only [bind, Ensures, ih]

@[simp] theorem ensures_map (call : Call α) (change : α → β) (goal : β → World → Prop) :
    (change <$> call).Ensures setting place goal world ↔
      call.Ensures setting place (fun value later => goal (change value) later) world := by
  rw [← bind_pure_comp, ensures_bind]
  rfl

@[simp] theorem ensures_trace (text : String) (goal : Unit → World → Prop) :
    (trace text).Ensures setting place goal world ↔ goal () (world.note ⟨.trace, text⟩) := .rfl

@[simp] theorem ensures_debug (text : String) (goal : Unit → World → Prop) :
    (debug text).Ensures setting place goal world ↔ goal () (world.note ⟨.debug, text⟩) := .rfl

@[simp] theorem ensures_client (goal : Client → World → Prop) :
    client.Ensures setting place goal world ↔ goal (world.client place) world := .rfl

@[simp] theorem ensures_modify (change : Client → Client) (goal : Unit → World → Prop) :
    (modify change).Ensures setting place goal world ↔
      goal () (world.setClient place (change (world.client place))) := .rfl

/-- A call that ensures a goal in a setting reaches it in every medium that fits the setting. -/
theorem Ensures.run (hfits : medium.Fits setting) {call : Call α} {goal : α → World → Prop}
    (h : call.Ensures setting place goal world) :
    goal (call.run medium place world).1 (call.run medium place world).2 := by
  induction call generalizing world with
  | done => exact h
  | ask _ _ ih =>
      simp only [Call.run, hfits.answer]
      exact ih _ h
  | send window message limit _ ih =>
      exact ih _ (h.2 _ _ (hfits.send window message limit world h.1))
  | post _ _ _ ih | read _ ih => exact ih _ h
  | refresh _ ih | note _ _ ih | write _ _ ih => exact ih h

/-- Carried out from the first world, the call comes to send a message in the world `waiting`. -/
def Waits (medium : Medium) (place : Nat) (waiting : World) : Call α → World → Prop
  | .done _, _ => False
  | .ask request next, world =>
    (next (medium.answer world place request).1).Waits medium place waiting
      (medium.answer world place request).2
  | .send window message limit next, world =>
    world = waiting ∨
      (next (medium.send window message limit world).1).Waits medium place waiting
        (medium.send window message limit world).2
  | .post window message next, world =>
    (next (world.post window message).1).Waits medium place waiting (world.post window message).2
  | .refresh next, world => next.Waits medium place waiting (world.record .refreshed)
  | .note entry next, world => next.Waits medium place waiting (world.note entry)
  | .read next, world => (next (world.client place)).Waits medium place waiting world
  | .write client next, world => next.Waits medium place waiting (world.setClient place client)

/-- A call that ensures anything meets the demand of its setting whenever it sends a message. -/
theorem Ensures.ready (hfits : medium.Fits setting) {call : Call α} {goal : α → World → Prop}
    {waiting : World} (h : call.Ensures setting place goal world)
    (hwaits : call.Waits medium place waiting world) : setting.ready waiting := by
  induction call generalizing world with
  | done => exact False.elim hwaits
  | ask _ _ ih =>
      simp only [Waits, hfits.answer] at hwaits
      exact ih _ h hwaits
  | send window message limit _ ih =>
      rcases hwaits with rfl | hwaits
      · exact h.1
      · exact ih _ (h.2 _ _ (hfits.send window message limit world h.1)) hwaits
  | post _ _ _ ih | read _ ih => exact ih _ h hwaits
  | refresh _ ih | note _ _ ih | write _ _ ih => exact ih h hwaits

end Call

end Pasteboard
