import Pasteboard.Proofs.Call.Keeps

/-!
# What tasks ensure

A client is busy while it does a task. What the call behind the task ensures holds when the client
is idle again, and a stretch of work of the busy client is one of the idle client.
-/

namespace Pasteboard

/-- How an operation comes out as a task. -/
def Outcome.ofResult {α : Type} (value : α → Value) : Except ClientError α → Outcome
  | .ok result => .done (value result)
  | .error error => .failed error

open Call

variable {setting : Setting} {medium : Medium} {place : Nat} {world later : World}

namespace Task

/-- A task comes to what its operation does. -/
@[simp] theorem ensures_outcome {α : Type} (value : α → Value) (acting : Acting α)
    (goal : Outcome → World → Prop) :
    (outcome value acting).Ensures setting place goal world ↔
      acting.run.Ensures setting place
        (fun result later => goal (.ofResult value result) later) world := by
  rw [outcome, ensures_bind]
  constructor
  all_goals
    intro h
    refine h.mono fun result later hgoal => ?_
    cases result <;> exact hgoal

/-- A task that gets a value comes to it and to the object behind its handle. -/
@[simp] theorem ensures_dataOutcome (acting : Acting Data) (goal : Outcome → World → Prop) :
    (dataOutcome acting).Ensures setting place goal world ↔
      acting.run.Ensures setting place (fun result later => goal (.ofResult (fun data =>
        .data data (data.handle?.bind (later.client place).graphics.object?)) result) later)
        world := by
  rw [dataOutcome, ensures_bind]
  constructor
  all_goals
    intro h
    refine h.mono fun result later hgoal => ?_
    cases result <;> exact hgoal

end Task

namespace World

/-- Marks whether the client at a place is in the middle of a task. -/
def setBusy (world : World) (place : Nat) (busy : Bool) : World :=
  world.updateMember place fun member => { member with busy := busy }

/-- Nobody at the place is in the middle of a task. -/
def Idle (world : World) (place : Nat) : Prop :=
  ∃ member, world.member? place = some member ∧ member.busy = false

/-- A client that is idle is present. -/
theorem Idle.present (h : world.Idle place) : world.Present place := by
  obtain ⟨member, hmember, _⟩ := h
  simp [Present, hmember]

/-- A client that becomes busy is still present. -/
theorem Present.setBusy (h : world.Present place) (busy : Bool) :
    (world.setBusy place busy).Present place :=
  (present_updateMember world place _).2 h

/-- What a client knows does not depend on who is busy. -/
@[simp] theorem client_setBusy (world : World) (place other : Nat) (busy : Bool) :
    (world.setBusy place busy).client other = world.client other := by
  by_cases hother : other = place
  · subst hother
    simp only [World.client, setBusy, member?_updateMember, Option.map_map]
    rfl
  · rw [World.client, setBusy, member?_updateMember_of_ne world _ hother, World.client]

/-- Clients with standard settings around a board, none of which has done anything yet. -/
def gathering (board : Board) (count : Nat) (windows : List (WindowScript Step)) : World :=
  fresh board (List.replicate count ⟨.fresh .standard .empty false, .fresh ⟨5000⟩, true, false⟩)
    windows [] false

/-- All clients of a gathering begin in the same way. -/
theorem getElem?_members_gathering (board : Board) (count : Nat)
    (windows : List (WindowScript Step)) (place : Nat) :
    (gathering board count windows).members[place]? =
      if place < count then
        some (some ⟨.fresh .standard .empty false, .fresh ⟨5000⟩, true, false⟩)
      else none := by
  simp [gathering, fresh, List.getElem?_replicate]

/-- Nobody who gathers has done anything yet. -/
theorem client_gathering (board : Board) (count : Nat) (windows : List (WindowScript Step))
    (place : Nat) :
    (gathering board count windows).client place = .fresh .standard .empty false := by
  rw [World.client, member?, getElem?_members_gathering]
  split <;> rfl

/-- All of them are present. -/
theorem present_gathering (board : Board) {count : Nat} (windows : List (WindowScript Step))
    (hplace : place < count) : (gathering board count windows).Present place := by
  rw [Present, member?, getElem?_members_gathering, if_pos hplace]
  rfl

/-- Without windows nothing happens on its own. -/
theorem allows_gathering (board : Board) (count : Nat) (kind : Step → Prop) :
    (gathering board count []).Allows kind := by
  intro script hscript
  cases hscript

/-- The window of the first client of a scenario. -/
def firstWindow : WindowId := ⟨10, by decide⟩

/-- The window of the second client. -/
def secondWindow : WindowId := ⟨20, by decide⟩

/-- The world after some steps, if the store has no faults. -/
def after (world : World) (steps : List Step) : World :=
  (world.performAll (world.medium World.consult) steps).2

/-- The world after a client did some tasks, if the store has no faults. -/
def does (world : World) (place : Nat) (tasks : List Task) : World :=
  tasks.foldl (fun world task => (world.act (world.medium World.consult) place task).2) world

/-- An idle client does the task, and is idle again when the call behind the task is over. -/
theorem act_of_ensures (hfits : medium.Fits setting) (hidle : world.Idle place) (task : Task)
    (goal : Outcome → World → Prop)
    (h : task.run.Ensures setting place
      (fun outcome later => goal outcome (later.setBusy place false)) (world.setBusy place true)) :
    goal (world.act medium place task).1 (world.act medium place task).2 := by
  obtain ⟨member, hmember, hbusy⟩ := hidle
  rw [act, hmember]
  simp only [hbusy, Bool.false_eq_true, if_false]
  exact h.run hfits

/-- What the call behind a task keeps is kept by the task. -/
theorem act_keeps (hfits : medium.Fits setting) {property : World → Prop}
    (hbusy : ∀ world busy, property world → property (world.setBusy place busy)) {task : Task}
    (htask : task.run.Keeps setting place property) (h : property world) :
    property (world.act medium place task).2 := by
  by_cases hidle : world.Idle place
  · refine act_of_ensures hfits hidle task (fun _ later => property later) ?_
    exact (htask _ (hbusy world true h)).mono fun _ later hlater => hbusy later false hlater
  · unfold act
    cases hmember : world.member? place with
    | none => exact h
    | some member =>
        have hbusy : member.busy = true := by
          refine Decidable.byContradiction fun hfree => ?_
          exact hidle ⟨member, hmember, by simpa using hfree⟩
        simpa only [hbusy, if_true] using h

/-- What each of the steps keeps is kept by all of them. -/
theorem performAll_keeps {property : World → Prop} {steps : List Step}
    (hstep : ∀ step ∈ steps, ∀ world, property world → property (world.perform medium step).2)
    (h : property world) : property (world.performAll medium steps).2 := by
  induction steps generalizing world with
  | nil => exact h
  | cons step rest ih =>
      have hfirst := hstep step List.mem_cons_self world h
      exact ih (fun other hmem => hstep other (List.mem_cons_of_mem _ hmem)) hfirst

/-- A task that does not find its client gone or busy was begun by an idle client. -/
theorem idle_of_act {task : Task} {outcome : Outcome} {after : World}
    (h : world.act medium place task = (outcome, after)) (hgone : outcome ≠ .gone)
    (hbusy : outcome ≠ .busy) : world.Idle place := by
  unfold act at h
  cases hmember : world.member? place with
  | none =>
      simp only [hmember, Prod.mk.injEq] at h
      exact False.elim (hgone h.1.symm)
  | some member =>
      simp only [hmember] at h
      split at h
      · simp only [Prod.mk.injEq] at h
        exact False.elim (hbusy h.1.symm)
      · rename_i hidle
        exact ⟨member, hmember, by simpa using hidle⟩

/-- Where a client begins a task. -/
theorem Idle.start (h : world.Idle place) :
    (world.setBusy place true).Evolves place world.board (world.client place) [] []
      (world.setBusy place true) := by
  have hstart := Evolves.start (h.present.setBusy true)
  rwa [client_setBusy] at hstart

/-- A client that was busy meanwhile is left as it was changed. -/
theorem Idle.setBusy_setClient (h : world.Idle place) (client : Client) :
    ((world.setBusy place true).setClient place client).setBusy place false =
      world.setClient place client := by
  obtain ⟨member, hmember, hbusy⟩ := h
  simp only [setBusy, setClient, updateMember_updateMember]
  refine updateMember_congr fun other hother => ?_
  rw [hmember, Option.some.injEq] at hother
  simp [← hother, hbusy]

/-- What a client did during a task it did between its idle times. -/
theorem Idle.evolves (hidle : world.Idle place) {board : Board} {client : Client}
    {told : List Event} {asked : List Request}
    (h : (world.setBusy place true).Evolves place board client told asked later) :
    world.Evolves place board client told asked (later.setBusy place false) where
  present := hidle.present
  board_eq := h.board_eq
  members_eq := by
    rw [← hidle.setBusy_setClient client, setBusy, updateMember, h.members_eq]
    rfl
  events_eq := h.events_eq
  requests_eq := h.requests_eq
  counted := h.counted
  allows := h.allows

/-- A client that did something by itself is still idle. -/
theorem Evolves.idle {board : Board} {client : Client} {told : List Event} {asked : List Request}
    (h : world.Evolves place board client told asked later) (hidle : world.Idle place) :
    later.Idle place := by
  obtain ⟨member, hmember, hbusy⟩ := hidle
  exact ⟨{ member with client := client }, by rw [h.member?_eq, hmember]; rfl, hbusy⟩

/-- A client that did what another one did not notice is still idle. -/
theorem Evolves.idle_of_ne {board : Board} {client : Client} {told : List Event}
    {asked : List Request} {other : Nat} (h : world.Evolves place board client told asked later)
    (hne : other ≠ place) (hidle : world.Idle other) : later.Idle other := by
  rwa [Idle, h.member?_of_ne hne]

/-- A client that is done with its task is idle. -/
theorem Present.idle (h : world.Present place) : (world.setBusy place false).Idle place := by
  obtain ⟨member, hmember⟩ := Option.isSome_iff_exists.1 h
  exact ⟨{ member with busy := false }, by
    rw [World.setBusy, member?_updateMember, hmember]
    rfl, rfl⟩

end World

end Pasteboard
