import Pasteboard.Proofs.Client.Tasks
import Pasteboard.Proofs.World.Steps

/-!
# Weighing what is said

Frames carry bodies up to a limit. `World.weigh` answers a request as `World.consult` does, but the
store turns away from a client that asks too long a request or for too long a reply. It never turns
back to the client, so a world at the end of a run shows whether all bodies on the way were within
the limit: see `World.kept_deserted`.
-/

namespace Pasteboard

/-- A step in which a client does a regular task, the windows process what was posted to them, or
somebody looks at the board. -/
def Step.IsWork : Step → Prop
  | .task _ operation => operation.Regular
  | .board | .pump => True
  | .tamper _ | .fault _ | .setWindow _ | .disconnect _ => False

namespace World

/-- A request and the true reply to it are within the limit of frames. -/
abbrev Carries (world : World) (place : Nat) (request : Request) : Prop :=
  request.encode.length ≤ Frame.limit ∧
    (world.board.handle (clientId place) request).1.encode.length ≤ Frame.limit

/-- Makes the store stop listening to a client. -/
def desert (world : World) (place : Nat) : World :=
  world.updateMember place fun member => { member with attended := false }

/-- One request of a client, handed to the board. The store stops listening to a client that asks
too much. -/
def weigh (world : World) (place : Nat) (request : Request) : Except StoreError Reply × World :=
  let (outcome, later) := world.consult place request
  (outcome, if world.Carries place request then later else later.desert place)

/-- The store listens to every client. -/
def Attentive (world : World) : Prop :=
  ∀ place member, world.member? place = some member → member.attended = true

theorem attentive_iff (world : World) :
    world.Attentive ↔ ∀ entry ∈ world.members, ∀ member ∈ entry, member.attended = true := by
  constructor
  · intro h entry hentry member hmember
    obtain ⟨place, hplace⟩ := List.mem_iff_getElem?.1 hentry
    refine h place member ?_
    rw [member?, hplace, Option.mem_def.1 hmember]
    rfl
  · intro h place member hmember
    rw [member?, Option.join_eq_some_iff] at hmember
    exact h _ (List.mem_of_getElem? hmember) member rfl

instance (world : World) : Decidable world.Attentive := decidable_of_iff' _ world.attentive_iff

/-- The store stopped listening to a client, and the windows take no steps but work. -/
structure Deserted (world : World) : Prop where
  allows : world.Allows Step.IsWork
  unattended : ∃ place member, world.member? place = some member ∧ member.attended = false

theorem Deserted.not_attentive {world : World} (h : world.Deserted) : ¬ world.Attentive := by
  obtain ⟨place, member, hmember, hunattended⟩ := h.unattended
  intro hattentive
  rw [hattentive place member hmember] at hunattended
  cases hunattended

/-- The store turns away from a client that asks too much. -/
theorem deserted_of_not_carries {world : World} {place : Nat} {request : Request}
    (hallows : world.Allows Step.IsWork) (hpresent : world.Present place)
    (h : ¬ world.Carries place request) : (world.weigh place request).2.Deserted := by
  have hlater : (world.weigh place request).2 = (world.consult place request).2.desert place :=
    if_neg h
  obtain ⟨member, hmember⟩ := Option.isSome_iff_exists.1 hpresent
  rw [hlater]
  refine ⟨hallows, place, { member with attended := false }, ?_, rfl⟩
  have hsame : (world.consult place request).2.member? place = some member := hmember
  rw [desert, member?_updateMember, hsame, Option.map_some]

namespace Deserted

variable {world : World} (h : world.Deserted)

include h

theorem of_members_eq {later : World} (hmembers : later.members = world.members)
    (hallows : later.Allows Step.IsWork) : later.Deserted where
  allows := hallows
  unattended := by
    obtain ⟨place, member, hmember, hunattended⟩ := h.unattended
    exact ⟨place, member, by rw [member?_congr hmembers, hmember], hunattended⟩

/-- A change of a client does not make the store listen again, unless that is the change. -/
theorem updateMember (place : Nat) {change : Member → Member}
    (hchange : ∀ member, member.attended = false → (change member).attended = false) :
    (world.updateMember place change).Deserted where
  allows := h.allows
  unattended := by
    obtain ⟨other, member, hmember, hunattended⟩ := h.unattended
    by_cases hother : other = place
    · subst hother
      refine ⟨other, change member, ?_, hchange member hunattended⟩
      rw [member?_updateMember, hmember, Option.map_some]
    · exact ⟨other, member, by rw [member?_updateMember_of_ne world change hother, hmember],
        hunattended⟩

theorem stirs {later : World} (hstirs : world.Stirs later) (hallows : later.Allows Step.IsWork) :
    later.Deserted :=
  h.of_members_eq hstirs.members hallows

theorem weigh (place : Nat) (request : Request) : (world.weigh place request).2.Deserted := by
  have hconsult : (world.consult place request).2.Deserted := h.of_members_eq rfl h.allows
  rw [World.weigh]
  dsimp only
  split
  · exact hconsult
  · exact hconsult.updateMember place fun _ _ => rfl

theorem post (window : WindowId) (message : Message) :
    (world.post window message).2.Deserted := by
  unfold World.post
  dsimp only
  split <;> exact h.of_members_eq rfl h.allows

/-- Nothing that a client does makes the store listen again. -/
theorem run {α : Type} {medium : Medium} (hanswer : medium.answer = World.weigh)
    (hsend : ∀ window message limit world, world.Deserted →
      (medium.send window message limit world).2.Deserted)
    (place : Nat) (call : Call α) : (call.run medium place world).2.Deserted := by
  induction call generalizing world with
  | done => exact h
  | ask request next ih =>
      simp only [Call.run, hanswer]
      exact ih _ (h.weigh place request)
  | send window message limit next ih => exact ih _ (hsend window message limit world h)
  | post window message next ih => exact ih _ (h.post window message)
  | refresh next ih => exact ih (h.stirs (Stirs.record world .refreshed) h.allows)
  | note entry next ih =>
      exact ih (h.stirs (Stirs.note world entry)
        (h.allows.of_windows_eq (note_windows world entry)))
  | read next ih => exact ih _ h
  | write client next ih => exact ih (h.updateMember place fun _ hmember => hmember)

end Deserted

/-- Once the store stopped listening to a client, it never listens to it again. -/
theorem kept_deserted : Kept Step.IsWork weigh Deserted where
  hereditary _ h := False.elim h
  allows _ h := h.allows
  stirs _ _ h hstirs hallows := h.stirs hstirs hallows
  busy _ place _ _ _ h := h.updateMember place fun _ hmember => hmember
  task _ place task _ hanswer hsend _ h _ := h.run hanswer hsend place task.run
  tamper _ _ h := False.elim h
  disconnect _ _ h := False.elim h

end World

end Pasteboard
