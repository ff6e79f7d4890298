import Pasteboard.Proofs.Exchange.Frames
import Pasteboard.Proofs.World.Mirroring
import Pasteboard.Proofs.World.Tasks

/-!
# Clients at a distance

Clients that reach the store through frames on connections fare as clients that hand their requests
to the board: see `World.remote_run_eq_direct_run`.
-/

namespace Pasteboard

open World

/-- A reply that was delivered on a quiet connection is the outcome of the request, and the
connection is quiet again. -/
theorem Connection.call_deliver {connection : Connection} {request : Request} {reply : Reply}
    {frame : Bytes} (hlive : connection.live = true) (hbytes : connection.incoming.bytes = [])
    (hpatience : connection.patience.millis ≠ 0) (hrequest : request.encode.length ≤ Frame.limit)
    (hframe : Frame.write reply.encode = .ok frame) :
    ∃ left, (connection.deliver frame).call request =
      (reply.outcome, { connection with incoming := ⟨[], left, connection.incoming.ending⟩ }) := by
  obtain ⟨left, hread⟩ :=
    Frame.read_write hframe [] connection.incoming.turns connection.incoming.ending
  have hdecode : Reply.decode reply.encode = .ok reply :=
    Reply.decode_encode (Frame.lt_of_le (Frame.le_of_write hframe))
  have hincoming : (connection.deliver frame).incoming =
      ⟨frame ++ [], connection.incoming.turns, connection.incoming.ending⟩ := by
    simp [deliver, hbytes]
  have hreceive : (connection.deliver frame).receive =
      (.ok reply, ⟨[], left, connection.incoming.ending⟩) := by
    have hpatient : (connection.deliver frame).patience.millis ≠ 0 := hpatience
    rw [receive, if_neg hpatient, hincoming, hread]
    simp only [understand, hdecode]
    rfl
  have hexchange : (connection.deliver frame).exchange (Frame.write request.encode) =
      (.ok reply, { connection with incoming := ⟨[], left, connection.incoming.ending⟩ }) := by
    have hdead : ¬ (!(connection.deliver frame).live) = true := by simp [deliver, hlive]
    rw [Frame.write_of_le hrequest, exchange, if_neg hdead, hreceive]
    rfl
  exact ⟨left, by rw [call, conclude, hexchange]⟩

namespace World

variable {world : World} {place : Nat} {request : Request} {frame : Bytes}

/-- The store understands a frame with a faithful request. -/
theorem serve_write (hfaithful : request.Faithful)
    (hframe : Frame.write request.encode = .ok frame) :
    world.serve place frame = world.answer place request := by
  obtain ⟨left, hread⟩ := Frame.read_write hframe [] [] .stalled
  have hdecode : Request.decode request.encode = .ok request :=
    Request.decode_encode hfaithful (Frame.lt_of_le (Frame.le_of_write hframe))
  rw [List.append_nil] at hread
  simp only [serve, hread, hdecode]

/-- Without faults, the board's reply is on its way to the client. -/
theorem answer_eq_deliver (hfaults : world.faults = [])
    (hframe : Frame.write (world.board.handle (clientId place) request).1.encode = .ok frame) :
    world.answer place request = (world.consult place request).2.deliver place frame := by
  simp only [answer, hfaults, Fault.select, deliverBody, hframe, consult]

/-- A reply that the client understands leaves the store in touch with it. -/
theorem complete_of_settles {member : Member} {outcome : Except StoreError Reply}
    {connection : Connection} (hmember : world.member? place = some member)
    (hcall : member.connection.call request = (outcome, connection))
    (hsettles : request.Settles outcome) :
    world.complete place request = (outcome,
      world.updateMember place fun member => { member with connection := connection }) := by
  simp only [complete, hmember, hcall]
  cases outcome with
  | ok => rfl
  | error cause =>
      cases cause with
      | refused => rfl
      | transport => exact False.elim hsettles

/-- The client has read all that there was on its connection. -/
def quieted (left : List Turn) (member : Member) : Member :=
  { member with
    connection :=
      { member.connection with incoming := ⟨[], left, member.connection.incoming.ending⟩ } }

/-- In a calm world, a request that goes out in a frame is answered as the board answers it. -/
theorem exchange_eq_consult (hcalm : world.Calm) (hpresent : world.Present place)
    (hfaithful : request.Faithful) (hcarries : world.Carries place request) :
    ∃ left, world.exchange place request = ((world.consult place request).1,
      (world.consult place request).2.updateMember place (quieted left)) := by
  obtain ⟨member, hmember⟩ := Option.isSome_iff_exists.1 hpresent
  obtain ⟨hattended, hlive, hbytes, hpatience⟩ := hcalm.inTouch place member hmember
  have hrequest := Frame.write_of_le hcarries.1
  have hreply := Frame.write_of_le hcarries.2
  obtain ⟨left, hcall⟩ := Connection.call_deliver hlive hbytes hpatience hcarries.1 hreply
  have houtgoing : member.connection.outgoing? request =
      some (Bytes.ofU32 (UInt32.ofNat request.encode.length) ++ request.encode) := by
    rw [Connection.outgoing?, if_pos hlive, hrequest]
    rfl
  have hconsulted : (world.consult place request).2.member? place = some member := hmember
  have hdelivered := member?_updateMember (world.consult place request).2 place fun member =>
    { member with
      connection := member.connection.deliver
        (Bytes.ofU32 (UInt32.ofNat (world.board.handle (clientId place) request).1.encode.length) ++
          (world.board.handle (clientId place) request).1.encode) }
  rw [hconsulted, Option.map_some] at hdelivered
  refine ⟨left, ?_⟩
  -- The request comes to the board, and what the board replies is all that the client reads.
  simp only [exchange, hmember, houtgoing, hattended, if_true, serve_write hfaithful hrequest,
    answer_eq_deliver hcalm.faults hreply, deliver]
  rw [complete_of_settles hdelivered hcall (world.board.handle_settles (clientId place) request),
    updateMember_updateMember]
  refine Prod.ext rfl (updateMember_congr fun other hother => ?_)
  rw [hconsulted] at hother
  cases hother
  rfl

variable {base first second : World}

/-- A client that has read all is in touch with the store as before. -/
theorem Coupled.quiet (h : Coupled base first second) (place : Nat) (left : List Turn) :
    Coupled base (first.updateMember place (quieted left)) second where
  alike := (still_updateMember_of_still place (quieted left) fun _ => rfl).trans h.alike
  calm := h.calm.updateMember place (quieted left) fun _ hmember =>
    ⟨hmember.attended, hmember.live, rfl, hmember.patience⟩
  present other := (present_updateMember first place _).trans (h.present other)
  allows := h.allows

/-- An answer comes out as weighing does if it does as long as bodies are within the limit. -/
theorem mirrored_of_carries {answer : Answering}
    (h : ∀ place request first second, Coupled base first second → first.Present place →
      request.Faithful → first.Carries place request →
      (answer first place request).1 = (second.consult place request).1 ∧
        Coupled base (answer first place request).2 (second.consult place request).2) :
    answer.Mirrored base := by
  intro place request first second hcoupled hpresent hfaithful
  have hfirst := (hcoupled.present place).2 hpresent
  by_cases hcarries : second.Carries place request
  · have hcarried : first.Carries place request := by
      rwa [Carries, hcoupled.board_eq]
    have hweigh : second.weigh place request = second.consult place request := by
      simp only [weigh, if_pos hcarries]
    obtain ⟨houtcome, hlater⟩ := h place request first second hcoupled hfirst hfaithful hcarried
    rw [hweigh]
    refine .inr ⟨houtcome, ?_, hlater⟩
    rw [houtcome]
    exact second.board.handle_settles (clientId place) request
  · refine .inl (deserted_of_not_carries ?_ ?_ hcarries)
    · exact hcoupled.allows.of_windows_eq hcoupled.windows_eq.symm
    · have hstill := congrArg Option.isSome (hcoupled.member?_still_eq place)
      rw [Option.isSome_map, Option.isSome_map] at hstill
      rwa [Present, ← hstill]

theorem mirrored_consult : Answering.Mirrored base consult :=
  mirrored_of_carries fun place request _ _ hcoupled _ _ _ => hcoupled.consult place request

/-- Requests that go out in frames come out as those that are handed to the board. -/
theorem mirrored_exchange : Answering.Mirrored base exchange := by
  refine mirrored_of_carries ?_
  intro place request first second hcoupled hpresent hfaithful hcarries
  obtain ⟨left, hexchange⟩ := exchange_eq_consult hcoupled.calm hpresent hfaithful hcarries
  obtain ⟨houtcome, hlater⟩ := hcoupled.consult place request
  rw [hexchange]
  exact ⟨houtcome, hlater.quiet place left⟩

/-- As long as all bodies are within the limit of frames, clients that reach the store through
connections without faults fare as clients that hand their requests to the board: every operation
comes out alike, the board and the clients are the same in the end, and no operation fails because
the store was not reached. -/
theorem remote_run_eq_direct_run {start : World} (hcalm : start.Calm)
    (hwindows : start.Allows Step.IsWork) {steps : List Step}
    (hsteps : ∀ step ∈ steps, step.IsWork)
    (hbodies : (start.performAll (start.medium weigh) steps).2.Attentive) :
    let remote := start.performAll (start.medium exchange) steps
    let direct := start.performAll (start.medium consult) steps
    remote.1 = direct.1 ∧ remote.2.board = direct.2.board ∧
      (∀ place, remote.2.client place = direct.2.client place) ∧
      remote.2.still = direct.2.still ∧ Outcome.AllReached remote.1 ∧ remote.2.Calm := by
  -- Both runs are compared with the one in which all bodies are weighed.
  have hcoupled : Coupled start start start := ⟨rfl, hcalm, fun _ => .rfl, hwindows⟩
  have hremote := (Medium.mirrors_of_answers mirrored_exchange start.nesting).performAll hcoupled
    hsteps
  have hdirect := (Medium.mirrors_of_answers mirrored_consult start.nesting).performAll hcoupled
    hsteps
  obtain ⟨houtcomes, hreached, hlater⟩ :=
    hremote.resolve_left fun hdeserted => hdeserted.not_attentive hbodies
  obtain ⟨houtcomes', -, hlater'⟩ :=
    hdirect.resolve_left fun hdeserted => hdeserted.not_attentive hbodies
  refine ⟨houtcomes.trans houtcomes'.symm, hlater.board_eq.trans hlater'.board_eq.symm,
    fun place => (hlater.client_eq place).trans (hlater'.client_eq place).symm,
    hlater.alike.trans hlater'.alike.symm, hreached, hlater.calm⟩

/-- A window that has the first client put a text when it is asked to render one. -/
def textRenderer : WindowScript Step where
  id := firstWindow
  answer := true
  trouble := none
  viewer := none
  handlers := [⟨"RenderFormat", some Format.text,
    [.task 0 (.put Format.text (.bytes [0x68, 0x69, 0]))], none⟩]

/-- The first client promises a text. The second client gets it, and looks at the formats. -/
def promising : List Step :=
  [.task 0 (.session (some firstWindow) [.claim (some firstWindow), .putDelayed Format.text] true),
    .task 1 (.session none [.get Format.text, .formats, .count] true)]

/-- The text that is rendered meanwhile is on the board, whether clients are at a distance or
not. -/
theorem promised_text_got_at_distance :
    let start := gathering .empty 2 [textRenderer]
    let remote := start.performAll (start.medium exchange) promising
    start.Calm ∧ start.Allows Step.IsWork ∧ (∀ step ∈ promising, step.IsWork) ∧
      (start.performAll (start.medium weigh) promising).2.Attentive ∧
      remote.1 = (start.performAll (start.medium consult) promising).1 ∧
      Outcome.AllReached remote.1 ∧
      remote.2.board.entries.find? Format.text = some [0x68, 0x69, 0] := by
  have hcalm : (gathering .empty 2 [textRenderer]).Calm := by
    refine ⟨rfl, fun place member hmember => ?_, fun event hevent => by cases hevent⟩
    rw [member?, getElem?_members_gathering] at hmember
    split at hmember
    · cases hmember
      exact ⟨rfl, rfl, rfl, by decide⟩
    · cases hmember
  have hwindows : (gathering .empty 2 [textRenderer]).Allows Step.IsWork := by
    intro script hscript
    obtain rfl : script = textRenderer := List.mem_singleton.1 hscript
    simp [textRenderer, WindowScript.Allows, Step.IsWork, Task.Regular]
  have hsteps : ∀ step ∈ promising, step.IsWork := by
    simp [promising, Step.IsWork, Task.Regular, Task.AllRegular]
  have hbodies : ((gathering .empty 2 [textRenderer]).performAll
      ((gathering .empty 2 [textRenderer]).medium weigh) promising).2.Attentive := by decide +kernel
  obtain ⟨houtcomes, hboard, -, -, hreached, -⟩ :=
    remote_run_eq_direct_run hcalm hwindows hsteps hbodies
  refine ⟨hcalm, hwindows, hsteps, hbodies, houtcomes, hreached, ?_⟩
  rw [hboard]
  decide +kernel

end World

end Pasteboard
