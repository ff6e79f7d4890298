import Pasteboard.Proofs.Board.Requests
import Pasteboard.Proofs.Call.Ensures
import Pasteboard.Proofs.World.Windows

/-!
# How a client changes its world

Whatever a client does by itself changes the board, its own state and the records of what happened,
and nothing else. `World.Evolves` says so for a whole stretch of work: it names the board and the
client at the end, the events told and the requests asked on the way. Each thing that a client can
do prolongs such a stretch.
-/

namespace Pasteboard

namespace World

variable {world now : World} {place other : Nat} {board : Board} {client : Client}
  {told : List Event} {asked : List Request}

/-- Two changes of one client are one change. -/
theorem updateMember_updateMember (world : World) (place : Nat) (first second : Member → Member) :
    (world.updateMember place first).updateMember place second =
      world.updateMember place (second ∘ first) := by
  simp [updateMember, List.modify_modify_eq, Function.comp_def]

/-- A client is found changed where it was found before. -/
theorem member?_updateMember (world : World) (place : Nat) (change : Member → Member) :
    (world.updateMember place change).member? place = (world.member? place).map change := by
  simp only [member?, updateMember, List.getElem?_modify_eq]
  cases world.members[place]? with
  | none => rfl
  | some member => cases member <;> rfl

/-- The other clients are found as they were. -/
theorem member?_updateMember_of_ne (world : World) (change : Member → Member)
    (hne : other ≠ place) :
    (world.updateMember place change).member? other = world.member? other := by
  simp [member?, updateMember, List.getElem?_modify_ne _ _ hne.symm]

/-- No place is added or taken away. -/
@[simp] theorem length_updateMember (world : World) (place : Nat) (change : Member → Member) :
    (world.updateMember place change).members.length = world.members.length := by
  simp [updateMember]

/-- A client that is found is the one at the place. -/
theorem client_of_member? {member : Member} (h : world.member? place = some member) :
    world.client place = member.client := by
  simp [World.client, h]

/-- Somebody is at the place. -/
def Present (world : World) (place : Nat) : Prop := (world.member? place).isSome

/-- A change of a client makes nobody come or go. -/
theorem present_updateMember (world : World) (place : Nat) (change : Member → Member) :
    (world.updateMember place change).Present other ↔ world.Present other := by
  rw [Present, Present]
  by_cases hother : other = place
  · rw [hother, member?_updateMember, Option.isSome_map]
  · rw [member?_updateMember_of_ne world change hother]

/-- A client that is present is replaced by the new one. -/
theorem client_setClient (hpresent : world.Present place) :
    (world.setClient place client).client place = client := by
  obtain ⟨member, hmember⟩ := Option.isSome_iff_exists.1 hpresent
  simp [World.client, setClient, member?_updateMember, hmember]

/-- Only what a change does to the member at the place matters. -/
theorem updateMember_congr {first second : Member → Member}
    (h : ∀ member, world.member? place = some member → first member = second member) :
    world.updateMember place first = world.updateMember place second := by
  have hmembers : world.members.modify place (Option.map first) =
      world.members.modify place (Option.map second) := by
    -- The lists are compared place by place, because the changes may differ for other members.
    apply List.ext_getElem?
    intro index
    by_cases hindex : place = index
    · subst hindex
      rw [List.getElem?_modify_eq, List.getElem?_modify_eq]
      cases hat : world.members[place]? with
      | none => rfl
      | some found =>
          cases found with
          | none => rfl
          | some member => simp [h member (by simp [member?, hat])]
    · rw [List.getElem?_modify_ne _ _ hindex, List.getElem?_modify_ne _ _ hindex]
  rw [updateMember, updateMember, hmembers]

/-- Replacing a client by itself changes nothing. -/
theorem setClient_client (world : World) (place : Nat) :
    world.setClient place (world.client place) = world := by
  have hsame : world.setClient place (world.client place) = world.updateMember place id :=
    updateMember_congr fun member hmember => by rw [client_of_member? hmember]; rfl
  rw [hsame, updateMember, Option.map_id_fun, List.modify_id]

/-- From the first world, the client at the place brought about this board and this state of its
own. On the way these events happened, and the client asked the store these requests. -/
structure Evolves (world : World) (place : Nat) (board : Board) (client : Client)
    (told : List Event) (asked : List Request) (now : World) : Prop where
  present : world.Present place
  board_eq : now.board = board
  members_eq : now.members = (world.setClient place client).members
  events_eq : now.events = world.events ++ told
  requests_eq : now.requests = world.requests ++ asked
  counted : ∃ count, count ≤ asked.countP Request.isChange ∧
    board.sequence = world.board.sequence + UInt32.ofNat count
  /-- The handlers of windows do not get other kinds of steps. -/
  allows : ∀ {kind : Step → Prop}, world.Allows kind → now.Allows kind

/-- Where nothing was done yet. -/
theorem Evolves.start (hpresent : world.Present place) :
    world.Evolves place world.board (world.client place) [] [] world where
  present := hpresent
  board_eq := rfl
  members_eq := by rw [setClient_client]
  events_eq := (List.append_nil _).symm
  requests_eq := (List.append_nil _).symm
  counted := ⟨0, Nat.zero_le _, by simp⟩
  allows h := h

/-- Which clients are found depends on the list of clients alone. -/
theorem member?_congr {later : World} (h : later.members = world.members) (place : Nat) :
    later.member? place = world.member? place := by
  rw [member?, h, member?]

theorem client_congr {later : World} (h : later.members = world.members) (place : Nat) :
    later.client place = world.client place := by
  rw [World.client, member?_congr h, World.client]

/-- A note changes no client. -/
theorem client_note (world : World) (entry : Note) (place : Nat) :
    (world.note entry).client place = world.client place :=
  client_congr (Stirs.note world entry).members place

/-- Presence depends on the list of clients alone. -/
theorem present_congr {later : World} (h : later.members = world.members) (place : Nat) :
    later.Present place ↔ world.Present place := by
  rw [Present, member?_congr h, Present]

section

variable (h : world.Evolves place board client told asked now)

include h

namespace Evolves

/-- The client at the place is found again, with what it knows now. -/
theorem member?_eq :
    now.member? place = (world.member? place).map fun member =>
      { member with client := client } := by
  rw [member?_congr h.members_eq]
  exact member?_updateMember world place _

/-- All other clients are found as they were. -/
theorem member?_of_ne (hne : other ≠ place) : now.member? other = world.member? other := by
  rw [member?_congr h.members_eq]
  exact member?_updateMember_of_ne world _ hne

/-- The same clients are present. -/
theorem present_iff : now.Present other ↔ world.Present other := by
  rw [present_congr h.members_eq]
  exact present_updateMember world place _

/-- The client at the place knows what it is said to know. -/
theorem client_eq : now.client place = client := by
  rw [client_congr h.members_eq]
  exact client_setClient h.present

/-- All other clients know what they knew. -/
theorem client_of_ne (hne : other ≠ place) : now.client other = world.client other := by
  rw [World.client, h.member?_of_ne hne, World.client]

/-- Meanwhile the windows may go about their business. -/
theorem stirs {later : World} (hstirs : now.Stirs later)
    (hallows : ∀ {kind : Step → Prop}, now.Allows kind → later.Allows kind) :
    ∃ more, world.Evolves place board client (told ++ more) asked later := by
  obtain ⟨more, hmore⟩ := hstirs.events
  refine ⟨more, h.present, ?_, ?_, ?_, ?_, h.counted, fun hkind => hallows (h.allows hkind)⟩
  · rw [hstirs.board, h.board_eq]
  · rw [hstirs.members, h.members_eq]
  · rw [← hmore, h.events_eq, List.append_assoc]
  · rw [hstirs.requests, h.requests_eq]

/-- A note changes nothing that counts. -/
theorem note (entry : Note) :
    world.Evolves place board client told asked (now.note entry) := by
  unfold World.note
  split
  · exact ⟨h.present, h.board_eq, h.members_eq, h.events_eq, h.requests_eq, h.counted, h.allows⟩
  · exact h

/-- One more event. -/
theorem record (event : Event) :
    world.Evolves place board client (told ++ [event]) asked (now.record event) where
  present := h.present
  board_eq := h.board_eq
  members_eq := h.members_eq
  events_eq := by rw [World.record, h.events_eq, List.append_assoc]
  requests_eq := h.requests_eq
  counted := h.counted
  allows := h.allows

/-- One more request, which leaves the board as the store says. -/
theorem consult (request : Request) :
    world.Evolves place (board.handle (clientId place) request).2 client told
      (asked ++ [request]) (now.consult place request).2 where
  present := h.present
  board_eq := by rw [← h.board_eq]; rfl
  members_eq := h.members_eq
  events_eq := h.events_eq
  requests_eq := by rw [← List.append_assoc, ← h.requests_eq]; rfl
  counted := by
    obtain ⟨before, hbefore, hboard⟩ := h.counted
    obtain ⟨count, hcount, hhandle⟩ := board.handle_sequence (clientId place) request
    refine ⟨before + count, ?_, ?_⟩
    · rw [List.countP_append]
      omega
    · rw [hhandle, hboard, UInt32.ofNat_add, UInt32.add_assoc]
  allows := h.allows

/-- One more message that nobody waits for. -/
theorem post (window : WindowId) (message : Message) :
    world.Evolves place board client (told ++ [.posted window message]) asked
      (now.post window message).2 := by
  have hrecord := h.record (.posted window message)
  simp only [World.post]
  split
  · exact hrecord
  · exact ⟨hrecord.present, hrecord.board_eq, hrecord.members_eq, hrecord.events_eq,
      hrecord.requests_eq, hrecord.counted, hrecord.allows⟩

/-- Another state of the client. -/
theorem setClient (client' : Client) :
    world.Evolves place board client' told asked (now.setClient place client') where
  present := h.present
  board_eq := h.board_eq
  members_eq := by
    simp only [World.setClient, updateMember, h.members_eq, List.modify_modify_eq]
    simp [Function.comp_def]
  events_eq := h.events_eq
  requests_eq := h.requests_eq
  counted := h.counted
  allows := h.allows

/-- A change of the client's state. -/
theorem modify (change : Client → Client) :
    world.Evolves place board (change client) told asked
      (now.setClient place (change (now.client place))) := by
  rw [h.client_eq]
  exact h.setClient (change client)

end Evolves

end

end World

end Pasteboard
