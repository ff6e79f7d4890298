import Pasteboard.Proofs.World.Inert
import Pasteboard.Proofs.World.Interleaving

/-!
# Engaged clients

A client does one task at a time. While all clients are in the middle of a task, the handlers of
windows make nobody do anything, whatever steps they take, so a message leaves the board and the
clients alone: see `Setting.fits_engaged`. A client that is the only one can rely on that.
-/

namespace Pasteboard

namespace World

variable {place : Nat} {world now : World} {board : Board} {client : Client} {told : List Event}
  {asked : List Request}

/-- Every client is in the middle of a task. -/
def Engaged (world : World) : Prop :=
  ∀ place member, world.member? place = some member → member.busy = true

theorem Engaged.of_members_eq {later : World} (h : world.Engaged)
    (hmembers : later.members = world.members) : later.Engaged := by
  intro place member hmember
  rw [member?_congr hmembers] at hmember
  exact h place member hmember

/-- What a client does does not end its task. -/
theorem Engaged.evolves (h : world.Engaged)
    (hnow : world.Evolves place board client told asked now) : now.Engaged := by
  intro other member hmember
  by_cases hother : other = place
  · subst hother
    rw [hnow.member?_eq] at hmember
    obtain ⟨before, hbefore, rfl⟩ := Option.map_eq_some_iff.1 hmember
    exact h other before hbefore
  · rw [hnow.member?_of_ne hother] at hmember
    exact h other member hmember

/-- Nobody begins a task. -/
theorem Engaged.act_eq (h : world.Engaged) (medium : Medium) (place : Nat) (task : Task) :
    (world.act medium place task).2 = world := by
  unfold act
  cases hmember : world.member? place with
  | none => rfl
  | some member => simp only [h place member hmember, if_true]

/-- Regular handlers go about their business and nothing else happens. -/
theorem weathered_engaged (base : World) : Weathered Step.Regular consult fun world =>
    base.Stirs world ∧ world.Engaged ∧ world.Allows Step.Regular where
  hereditary script hscript := hscript.allows
  allows _ h := h.2.2
  stirs _ _ h hstirs hallows :=
    ⟨h.1.trans hstirs, h.2.1.of_members_eq hstirs.members, hallows⟩
  act medium place task world _ _ _ h := by rwa [h.2.1.act_eq]
  tamper _ _ hregular := by
    rw [Step.Regular] at hregular
    exact False.elim hregular
  disconnect _ _ hregular := by
    rw [Step.Regular] at hregular
    exact False.elim hregular

/-- The only client does a task. -/
theorem Complete.engaged (h : world.Complete 1) : (world.setBusy 0 true).Engaged := by
  intro place member hmember
  have hpresent : (world.setBusy 0 true).Present place := by
    rw [Present, hmember, Option.isSome_some]
  have hplace : place = 0 := by
    have hlt := (h.updateMember 0 _).lt_of_present hpresent
    omega
  rw [hplace, setBusy, member?_updateMember] at hmember
  obtain ⟨before, _, rfl⟩ := Option.map_eq_some_iff.1 hmember
  rfl

end World

open World

/-- The surroundings in which all clients are in the middle of a task. -/
def Setting.engaged : Setting where
  answer := consult
  ready world := world.Engaged ∧ world.Allows Step.Regular
  shift _ _ _ world later := world.Stirs later ∧ later.Engaged ∧ later.Allows Step.Regular

theorem Setting.fits_engaged (depth : Nat) :
    Medium.Fits ⟨consult, World.send consult depth⟩ .engaged where
  answer := rfl
  send window message limit world hready :=
    (weathered_engaged world).send depth window message limit world
      ⟨⟨rfl, rfl, rfl, List.prefix_refl _⟩, hready⟩

end Pasteboard
