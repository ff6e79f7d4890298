import Pasteboard.Proofs.World.Steps

/-!
# Inert windows

Windows are inert if their handlers do nothing. Then a message changes neither the board nor a
client, whoever it is passed on to.
-/

namespace Pasteboard

/-- No handler of a window takes a step. -/
def World.Inert (world : World) : Prop := world.Allows fun _ => False

/-- The surroundings in which no window takes a step. -/
def Setting.inert : Setting where
  answer := World.consult
  ready := World.Inert
  shift _ _ _ world later := world.Stirs later ∧ later.Inert

namespace World

variable {place : Nat} {world now : World} {board : Board} {client : Client} {told : List Event}
  {asked : List Request}

theorem Inert.allows (h : world.Inert) {kind : Step → Prop} : world.Allows kind :=
  fun script hscript handler hhandler step hstep =>
    False.elim (h script hscript handler hhandler step hstep)

theorem Stirs.trans {later : World} (h : world.Stirs now) (hlater : now.Stirs later) :
    world.Stirs later where
  board := by rw [hlater.board, h.board]
  members := by rw [hlater.members, h.members]
  requests := by rw [hlater.requests, h.requests]
  events := h.events.trans hlater.events

/-- Inert windows go about their business and nothing else happens. -/
theorem kept_stirs (base : World) :
    Kept (fun _ => False) World.consult fun world => base.Stirs world ∧ world.Inert where
  hereditary _ h := False.elim h
  allows _ h := h.2
  stirs _ _ h hstirs hinert := ⟨h.1.trans hstirs, hinert⟩
  busy _ _ _ _ h := False.elim h
  task _ _ _ _ _ _ h := False.elim h
  tamper _ _ h := False.elim h
  disconnect _ _ h := False.elim h

end World

open World

theorem Setting.fits_inert (depth : Nat) :
    Medium.Fits ⟨World.consult, World.send World.consult depth⟩ .inert where
  answer := rfl
  send window message limit world hinert :=
    (kept_stirs world).weathered.send depth window message limit world
      ⟨⟨rfl, rfl, rfl, List.prefix_refl _⟩, hinert⟩

variable {place : Nat} {world now : World} {board : Board} {client : Client} {told : List Event}
  {asked : List Request}

/-- A message to inert windows is an interlude in the work of a client. -/
theorem World.Evolves.inert (h : world.Evolves place board client told asked now) {later : World}
    (hlater : now.Stirs later ∧ later.Inert) :
    ∃ more, world.Evolves place board client (told ++ more) asked later :=
  h.stirs hlater.1 fun _ => hlater.2.allows

end Pasteboard
