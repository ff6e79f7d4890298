import Pasteboard.Proofs.Client.Proper
import Pasteboard.Proofs.World.Weighing

/-!
# Two worlds that differ in their connections

Two worlds are `Coupled` if only the connections of the clients tell them apart. Whatever happens to
both of them without a request leaves them coupled.
-/

namespace Pasteboard

/-- A client without its connection. -/
def Member.still (member : Member) : Member :=
  { member with connection := .fresh ⟨0⟩, attended := true }

/-- The store listens to the client, whose connection is live with nothing left to read, and the
client has some patience. -/
structure Member.InTouch (member : Member) : Prop where
  attended : member.attended = true
  live : member.connection.live = true
  bytes : member.connection.incoming.bytes = []
  patience : member.connection.patience.millis ≠ 0

/-- No operation that a handler tells of failed because the store was not reached. -/
def Event.Reached : Event → Prop
  | .handled _ outcomes => Outcome.AllReached outcomes
  | _ => True

namespace World

/-- A world without the connections between the clients and the store. -/
def still (world : World) : World :=
  { world with members := world.members.map (Option.map Member.still) }

/-- Every client is in touch with a store that has no faults, and was so far. -/
structure Calm (world : World) : Prop where
  faults : world.faults = []
  inTouch : ∀ place member, world.member? place = some member → member.InTouch
  reached : ∀ event ∈ world.events, event.Reached

section

variable {world : World}

/-- A change after which a client is still in touch with the store. -/
theorem Calm.updateMember (h : world.Calm) (place : Nat) (change : Member → Member)
    (hinTouch : ∀ member, member.InTouch → (change member).InTouch) :
    (world.updateMember place change).Calm where
  faults := h.faults
  inTouch other member hmember := by
    by_cases hother : other = place
    · subst hother
      rw [member?_updateMember, Option.map_eq_some_iff] at hmember
      obtain ⟨before, hbefore, rfl⟩ := hmember
      exact hinTouch before (h.inTouch other before hbefore)
    · rw [member?_updateMember_of_ne world change hother] at hmember
      exact h.inTouch other member hmember
  reached := h.reached

/-- A change at one place of a list is a change of its image at that place. -/
theorem map_modify {α β : Type} {f : α → β} {change : α → α} {image : β → β}
    (h : ∀ value, f (change value) = image (f value)) (values : List α) (place : Nat) :
    (values.modify place change).map f = (values.map f).modify place image := by
  induction values generalizing place with
  | nil => cases place <;> rfl
  | cons value rest ih =>
      cases place with
      | zero => simp [h]
      | succ place => simp [ih]

/-- A change of a client is one of the client without its connection if it does not look at that. -/
theorem still_updateMember {change image : Member → Member}
    (h : ∀ member, (change member).still = image member.still) (place : Nat) :
    (world.updateMember place change).still = world.still.updateMember place image := by
  have hoption : ∀ entry : Option Member,
      (entry.map change).map Member.still = (entry.map Member.still).map image := by
    intro entry
    cases entry with
    | none => rfl
    | some member => simp [h]
  simp only [still, updateMember, map_modify hoption]

/-- A change of a client's connection is not seen without the connection. -/
theorem still_updateMember_of_still (place : Nat) (change : Member → Member)
    (h : ∀ member, (change member).still = member.still) :
    (world.updateMember place change).still = world.still := by
  have hsame : (world.updateMember place change).still = world.still.updateMember place id :=
    still_updateMember h place
  rw [hsame, updateMember, Option.map_id_fun, List.modify_id]

/-- Notes are the same without connections. -/
theorem still_note (entry : Note) : (world.note entry).still = world.still.note entry := by
  have hlogging : world.still.logging = world.logging := rfl
  rw [note, note, hlogging]
  split <;> rfl

/-- A client is found without its connection where it is found with it. -/
theorem member?_still (place : Nat) :
    world.still.member? place = (world.member? place).map Member.still := by
  simp only [member?, still, List.getElem?_map]
  cases world.members[place]? with
  | none => rfl
  | some member => cases member <;> rfl

/-- What a client knows is no part of its connection. -/
theorem client_still (place : Nat) : world.still.client place = world.client place := by
  rw [client, member?_still, Option.map_map]
  rfl

end

/-- Only the connections of the clients tell the two worlds apart, and in the first one nothing is
wrong with them. The clients are those of the base, and the windows take no steps but work. -/
structure Coupled (base first second : World) : Prop where
  alike : first.still = second.still
  calm : first.Calm
  present : ∀ place, first.Present place ↔ base.Present place
  allows : first.Allows Step.IsWork

variable {base first second : World}

namespace Coupled

variable (h : Coupled base first second)

include h

/-- Coupled worlds have the same board. -/
theorem board_eq : first.board = second.board := congrArg (fun world => world.board) h.alike

theorem windows_eq : first.windows = second.windows :=
  congrArg (fun world => world.windows) h.alike

theorem handling_eq : first.handling = second.handling :=
  congrArg (fun world => world.handling) h.alike

theorem posts_eq : first.posts = second.posts := congrArg (fun world => world.posts) h.alike

/-- A window does the same in both. -/
theorem script_eq (window : WindowId) : first.script window = second.script window := by
  rw [script, h.windows_eq, script]

/-- A window leads to the same next viewer in both. -/
theorem viewer?_eq (window : WindowId) : first.viewer? window = second.viewer? window := by
  rw [viewer?, h.script_eq, viewer?]

/-- A client knows the same in both. -/
theorem client_eq (place : Nat) : first.client place = second.client place := by
  rw [← client_still, h.alike, client_still]

/-- Connections aside, a client is the same in both. -/
theorem member?_still_eq (place : Nat) :
    (first.member? place).map Member.still = (second.member? place).map Member.still := by
  rw [← member?_still, h.alike, member?_still]

/-- What happens to both worlds alike, and leaves the clients and the faults alone, leaves the
worlds coupled. -/
theorem of_members_eq {one two : World} (halike : one.still = two.still)
    (hmembers : one.members = first.members) (hfaults : one.faults = first.faults)
    (hreached : ∀ event ∈ one.events, event.Reached) (hallows : one.Allows Step.IsWork) :
    Coupled base one two where
  alike := halike
  calm :=
    { faults := by rw [hfaults, h.calm.faults]
      inTouch place member hmember :=
        h.calm.inTouch place member (by rw [← member?_congr hmembers, hmember])
      reached := hreached }
  present place := (present_congr hmembers place).trans (h.present place)
  allows := hallows

/-- An event that tells of no failure to reach the store leaves two worlds coupled. -/
theorem record {event : Event} (hevent : event.Reached) :
    Coupled base (first.record event) (second.record event) := by
  have halike : (first.record event).still = (second.record event).still :=
    congrArg (fun world => world.record event) h.alike
  refine h.of_members_eq halike rfl rfl ?_ h.allows
  intro other hother
  rcases List.mem_append.1 hother with hbefore | hnew
  · exact h.calm.reached other hbefore
  · rw [List.mem_singleton.1 hnew]
    exact hevent

theorem note (entry : Note) : Coupled base (first.note entry) (second.note entry) := by
  have hstirs := Stirs.note first entry
  have hfaults : (first.note entry).faults = first.faults := by
    unfold World.note
    split <;> rfl
  have hevents : (first.note entry).events = first.events := by
    unfold World.note
    split <;> rfl
  refine h.of_members_eq ?_ hstirs.members hfaults ?_
    (h.allows.of_windows_eq (note_windows first entry))
  · rw [still_note, h.alike, still_note]
  · rw [hevents]
    exact h.calm.reached

/-- A request that both boards answer. -/
theorem consult (place : Nat) (request : Request) :
    (first.consult place request).1 = (second.consult place request).1 ∧
      Coupled base (first.consult place request).2 (second.consult place request).2 := by
  have halike : (first.consult place request).2.still = (second.consult place request).2.still :=
    congrArg (fun world => (world.consult place request).2) h.alike
  refine ⟨?_, h.of_members_eq halike rfl rfl h.calm.reached h.allows⟩
  simp only [World.consult, h.board_eq]

/-- Posting has the same outcome in both, and leaves them coupled. -/
theorem post (window : WindowId) (message : Message) :
    (first.post window message).1 = (second.post window message).1 ∧
      Coupled base (first.post window message).2 (second.post window message).2 := by
  have hrecord : Coupled base (first.record (.posted window message))
      (second.record (.posted window message)) := h.record trivial
  have hscript := hrecord.script_eq window
  simp only [World.post, hscript]
  split
  · exact ⟨rfl, hrecord⟩
  · refine ⟨rfl, hrecord.of_members_eq ?_ rfl rfl hrecord.calm.reached hrecord.allows⟩
    exact congrArg (fun world => { world with posts := world.posts ++ [(window, message)] })
      hrecord.alike

/-- Windows may become busy, or free again, in both. -/
theorem handling (change : List WindowId → List WindowId) :
    Coupled base { first with handling := change first.handling }
      { second with handling := change second.handling } := by
  refine h.of_members_eq ?_ rfl rfl h.calm.reached h.allows
  exact congrArg (fun world => { world with handling := change world.handling }) h.alike

/-- Posted messages may be taken out in both. -/
theorem emptied : Coupled base { first with posts := [] } { second with posts := [] } := by
  refine h.of_members_eq ?_ rfl rfl h.calm.reached h.allows
  exact congrArg (fun world => { world with posts := [] }) h.alike

/-- A link of the chain may be assigned in both. -/
theorem setNext (window : WindowId) (next : Option WindowId) :
    Coupled base (first.setNext window next) (second.setNext window next) := by
  refine h.of_members_eq ?_ rfl rfl h.calm.reached (h.allows.setNext window next)
  exact congrArg (fun world => world.setNext window next) h.alike

/-- A change of a client that leaves its connection alone. -/
theorem updateMember (place : Nat) (change : Member → Member)
    (hstill : ∀ member, (change member).still = change member.still)
    (hinTouch : ∀ member, member.InTouch → (change member).InTouch) :
    Coupled base (first.updateMember place change) (second.updateMember place change) where
  alike := by rw [still_updateMember hstill, h.alike, still_updateMember hstill]
  calm := h.calm.updateMember place change hinTouch
  present other := (present_updateMember first place change).trans (h.present other)
  allows := h.allows

/-- A client may become busy, or free again, in both. -/
theorem setBusy (place : Nat) (busy : Bool) :
    Coupled base (first.updateMember place fun member => { member with busy := busy })
      (second.updateMember place fun member => { member with busy := busy }) := by
  refine h.updateMember place _ (fun member => rfl) fun member hmember => ?_
  exact ⟨hmember.attended, hmember.live, hmember.bytes, hmember.patience⟩

/-- A client may come to know something else in both. -/
theorem setClient (place : Nat) (client : Client) :
    Coupled base (first.setClient place client) (second.setClient place client) := by
  refine h.updateMember place _ (fun member => rfl) fun member hmember => ?_
  exact ⟨hmember.attended, hmember.live, hmember.bytes, hmember.patience⟩

end Coupled

end World

end Pasteboard
