import Pasteboard.Proofs.Client.Tasks
import Pasteboard.Proofs.World.Steps
import Pasteboard.Proofs.World.Tasks

/-!
# Clients between each other

`World.Arises` describes the worlds that come about when several clients work on one board without
faults, in any order, also in the middle of a message that one of them waits for. A
property that is `World.Lasting` holds in all of them: see `World.Lasting.of_arises`.
-/

namespace Pasteboard

mutual

/-- A step of regular tasks. It takes no client away, does not tamper with the board, and sets only
windows whose handlers take such steps again. -/
def Step.Regular : Step → Prop
  | .task _ operation => operation.Regular
  | .setWindow ⟨_, _, _, _, handlers⟩ => Step.RegularHandlers handlers
  | .tamper _ | .disconnect _ => False
  | .board | .fault _ | .pump => True

/-- Handlers of regular steps. -/
def Step.RegularHandlers : List (Handler Step) → Prop
  | [] => True
  | ⟨_, _, steps, _⟩ :: rest => Step.AllRegular steps ∧ Step.RegularHandlers rest

/-- Regular steps. -/
def Step.AllRegular : List Step → Prop
  | [] => True
  | step :: rest => step.Regular ∧ Step.AllRegular rest

end

namespace Step

/-- Each of some regular steps is regular. -/
theorem AllRegular.of_mem {steps : List Step} (h : AllRegular steps) {step : Step}
    (hmem : step ∈ steps) : step.Regular := by
  induction steps with
  | nil => cases hmem
  | cons first rest ih =>
      rw [AllRegular] at h
      rcases List.mem_cons.1 hmem with rfl | hrest
      · exact h.1
      · exact ih h.2 hrest

/-- Each of some regular handlers takes regular steps. -/
theorem RegularHandlers.of_mem {handlers : List (Handler Step)} (h : RegularHandlers handlers)
    {handler : Handler Step} (hmem : handler ∈ handlers) : AllRegular handler.steps := by
  induction handlers with
  | nil => cases hmem
  | cons first rest ih =>
      obtain ⟨message, format, steps, answer⟩ := first
      rw [RegularHandlers] at h
      rcases List.mem_cons.1 hmem with rfl | hrest
      · exact h.1
      · exact ih h.2 hrest

/-- A window that a regular step sets takes regular steps. -/
theorem Regular.allows {script : WindowScript Step} (h : (setWindow script).Regular) :
    script.Allows Regular := by
  intro handler hhandler step hstep
  obtain ⟨id, answer, trouble, viewer, handlers⟩ := script
  rw [Regular] at h
  exact (h.of_mem hhandler).of_mem hstep

end Step

open Call

namespace World

/-- The world may come about from the first one. Clients at their places do regular tasks and the
windows go about their business; while a client waits for a message that it sent, the others
go on. -/
inductive Arises (start : World) : World → Prop where
  | start : Arises start start
  | windows {world later : World} :
      Arises start world → world.Stirs later → later.Allows Step.Regular → Arises start later
  /-- A client begins a task or is done with it. -/
  | turns {world : World} (place : Nat) (busy : Bool) :
      Arises start world → Arises start (world.setBusy place busy)
  /-- A client does a whole task. -/
  | does {world : World} {place : Nat} {task : Task} (depth : Nat) :
      Arises start world → world.Present place → task.Regular →
      Arises start (task.run.run ⟨consult, send consult depth⟩ place world).2
  /-- A client is in the middle of a task, where a message is about to be processed. -/
  | waits {world waiting : World} {place : Nat} {task : Task} (depth : Nat) :
      Arises start world → world.Present place → task.Regular →
      task.run.Waits ⟨consult, send consult depth⟩ place waiting world → Arises start waiting
  /-- A regular step is taken. -/
  | step {world : World} {step : Step} (depth : Nat) :
      Arises start world → step.Regular →
      Arises start (world.perform ⟨consult, send consult depth⟩ step).2

/-- There are that many clients, and none of them went away. -/
structure Complete (count : Nat) (world : World) : Prop where
  length : world.members.length = count
  present : ∀ place < count, world.Present place

namespace Complete

variable {count place : Nat} {world : World}

/-- All clients are there as long as the list of clients is the same. -/
theorem of_members_eq {later : World} (h : world.Complete count)
    (hmembers : later.members = world.members) : later.Complete count where
  length := by rw [hmembers, h.length]
  present place hplace := (present_congr hmembers place).2 (h.present place hplace)

/-- A change of one of them takes none away. -/
theorem updateMember (h : world.Complete count) (place : Nat) (change : Member → Member) :
    (world.updateMember place change).Complete count where
  length := by rw [length_updateMember, h.length]
  present other hother := (present_updateMember world place change).2 (h.present other hother)

theorem evolves {now : World} {board : Board} {client : Client} {told : List Event}
    {asked : List Request} (h : world.Complete count)
    (hnow : world.Evolves place board client told asked now) : now.Complete count :=
  (h.updateMember place _).of_members_eq hnow.members_eq

/-- A client that is present is one of them. -/
theorem lt_of_present (h : world.Complete count) (hpresent : world.Present place) :
    place < count := by
  rw [← h.length]
  refine Nat.not_le.1 fun hle => ?_
  rw [Present, member?, List.getElem?_eq_none hle] at hpresent
  cases hpresent

end Complete

/-- The property outlasts whatever happens among clients that do regular tasks. -/
structure Lasting (property : World → Prop) : Prop where
  allows : ∀ world, property world → world.Allows Step.Regular
  stirs : ∀ world later, property world → world.Stirs later → later.Allows Step.Regular →
    property later
  busy : ∀ world place busy, property world → property (world.setBusy place busy)
  /-- It outlasts a task and holds whenever the task sends a message, if it outlasts the messages.
  -/
  task : ∀ (place : Nat) (task : Task) world, task.Regular → property world →
    world.Present place →
    task.run.Ensures (.keeping consult property) place (fun _ later => property later) world

namespace Lasting

variable {property : World → Prop} (h : Lasting property)

include h

/-- A lasting property outlasts every regular step. -/
theorem kept : Kept Step.Regular consult property where
  hereditary script hscript := hscript.allows
  allows := h.allows
  stirs := h.stirs
  busy world place task busy _ hworld := h.busy world place busy hworld
  task medium place task world hanswer hsend hregular hworld hpresent := by
    rw [Step.Regular] at hregular
    have hfits := Setting.fits_keeping hsend
    rw [hanswer] at hfits
    exact (h.task place task world hregular hworld hpresent).run hfits
  tamper _ _ hregular := by
    rw [Step.Regular] at hregular
    exact False.elim hregular
  disconnect _ _ hregular := by
    rw [Step.Regular] at hregular
    exact False.elim hregular

/-- So it outlasts whatever happens while a client waits, however deep the messages are nested. -/
theorem fits (depth : Nat) :
    Medium.Fits ⟨consult, send consult depth⟩ (.keeping consult property) where
  answer := rfl
  send window message limit world hworld :=
    h.kept.weathered.send depth window message limit world hworld

/-- A lasting property holds in all worlds that come about from one where it holds. -/
theorem of_arises {start world : World} (hworld : Arises start world) (hstart : property start) :
    property world := by
  induction hworld with
  | start => exact hstart
  | windows _ hstirs hallows ih => exact h.stirs _ _ ih hstirs hallows
  | turns place busy _ ih => exact h.busy _ place busy ih
  | does depth _ hpresent hregular ih =>
      exact (h.task _ _ _ hregular ih hpresent).run (h.fits depth)
  | waits depth _ hpresent hregular hwaits ih =>
      exact (h.task _ _ _ hregular ih hpresent).ready (h.fits depth) hwaits
  | step depth _ hregular ih => exact h.kept.weathered.perform depth ih hregular

end Lasting

/-- The worlds after regular steps come about. -/
theorem Arises.after {start world : World} (h : Arises start world) {steps : List Step}
    (hsteps : ∀ step ∈ steps, step.Regular) : Arises start (world.after steps) :=
  performAll_keeps (fun step hmem _ hworld => hworld.step _ (hsteps step hmem)) h

end World

end Pasteboard
