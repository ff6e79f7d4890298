import Pasteboard.Proofs.Call.Operations
import Pasteboard.Proofs.Exchange.Streams

/-!
# Staying in step

A client makes one call after another on a connection to a peer that does what it likes: it sends
any bytes at any time, ends its stream or breaks it anywhere, stays silent until the client runs out
of patience, or does not take requests any more. The main theorem, `Connection.replies_in_step`,
says that the call at a place gets the frame at this place of the peer's stream, or nothing at all
once an earlier call dropped the connection.
-/

namespace Pasteboard

namespace Frame

variable {place : Nat} {ending : Ending} {bytes rest body frame : Bytes}
  {cut : Except StreamError (Option Bytes)}

/-- What stands at a place of a stream with these bytes and this ending: the body of a frame, or
what comes behind the last frame. -/
def StandsAt (place : Nat) (ending : Ending) (bytes : Bytes)
    (cut : Except StreamError (Option Bytes)) : Prop :=
  ∃ cuts, Cuts ending bytes cuts ∧ cuts[place]? = some cut

/-- A frame that was written is one that can be cut off. -/
theorem Cuts.frame_of_write {cuts : List (Except StreamError (Option Bytes))}
    (hframe : write body = .ok frame) (h : Cuts ending rest cuts) :
    Cuts ending (frame ++ rest) (.ok (some body) :: cuts) := by
  have hlimit := le_of_write hframe
  rw [write_of_le hlimit, Except.ok.injEq] at hframe
  have hlength : (UInt32.ofNat body.length).toNat = body.length :=
    UInt32.toNat_ofNat_of_lt' (lt_of_le hlimit)
  rw [← hframe, List.append_assoc]
  exact .frame hlength (by rw [hlength]; exact hlimit) h

/-- Behind a frame, every place is one further on. -/
theorem StandsAt.succ (hframe : write body = .ok frame) (h : StandsAt place ending rest cut) :
    StandsAt (place + 1) ending (frame ++ rest) cut := by
  obtain ⟨cuts, hcuts, hplace⟩ := h
  exact ⟨_, hcuts.frame_of_write hframe, hplace⟩

/-- A body stays where it stands, however the stream goes on behind it. -/
theorem StandsAt.append (h : StandsAt place ending bytes (.ok (some body))) (later : Ending)
    (more : Bytes) : StandsAt place later (bytes ++ more) (.ok (some body)) := by
  obtain ⟨cuts, hcuts, hplace⟩ := h
  induction hcuts generalizing place with
  | @frame length first rest outcomes hlength hlimit _ ih =>
      rw [List.append_assoc, List.append_assoc]
      cases place with
      | zero =>
          obtain ⟨others, hothers⟩ := exists_cuts later (rest ++ more)
          exact ⟨_, .frame hlength hlimit hothers, hplace⟩
      | succ place =>
          obtain ⟨others, hothers, hplace'⟩ := ih hplace
          exact ⟨_, .frame hlength hlimit hothers, hplace'⟩
  | finished | cutInLength | cutInBody | overLimit =>
      -- Nothing but an error or the end stands in the rest of these streams.
      cases place <;> cases hplace

/-- What is read stands first in the stream. -/
theorem standsAt_read (source : Source) : StandsAt 0 source.ending source.bytes (read source).1 := by
  obtain ⟨bytes, turns, ending⟩ := source
  obtain ⟨cuts, hcuts⟩ := exists_cuts ending bytes
  have hstands : cuts[0]? = some (read ⟨bytes, turns, ending⟩).1 := by
    cases hcuts with
    | frame hlength hlimit _ =>
        obtain ⟨left, hread⟩ := read_frame hlength hlimit _ turns ending
        rw [hread]
        rfl
    | finished hclosed =>
        rw [read_cutInLength (by decide), if_pos ⟨rfl, hclosed⟩]
        rfl
    | cutInLength hpart hopen =>
        rw [read_cutInLength hpart, if_neg fun h => hopen (List.isEmpty_iff.1 h.1) h.2]
        rfl
    | cutInBody hlimit hpart =>
        rw [read_cutInBody hlimit hpart]
        rfl
    | overLimit hlimit =>
        rw [read_overLimit hlimit]
        rfl
  exact ⟨cuts, hcuts, hstands⟩

/-- A body is read together with its frame and nothing else. -/
theorem exists_frame_of_read {source : Source} (h : (read source).1 = .ok (some body)) :
    ∃ frame rest left, write body = .ok frame ∧ source.bytes = frame ++ rest ∧
      (read source).2 = ⟨rest, left, source.ending⟩ := by
  obtain ⟨bytes, turns, ending⟩ := source
  obtain ⟨cuts, hcuts, hfirst⟩ := standsAt_read ⟨bytes, turns, ending⟩
  rw [h] at hfirst
  change Cuts ending bytes cuts at hcuts
  cases hcuts with
  | @frame length first rest outcomes hlength hlimit _ =>
      cases hfirst
      obtain ⟨left, hread⟩ := read_frame hlength hlimit rest turns ending
      have hword : UInt32.ofNat body.length = length := by
        rw [← hlength]
        exact UInt32.ofNat_toNat
      refine ⟨Bytes.ofU32 length ++ body, rest, left, ?_, ?_, congrArg Prod.snd hread⟩
      · rw [write_of_le (hlength ▸ hlimit), hword]
      · exact (List.append_assoc _ _ _).symm
  | finished | cutInLength | cutInBody | overLimit => cases hfirst

end Frame

/-! ## Calls and what the peer does meanwhile -/

/-- What the peer does between one call and the time limit of the next one. -/
structure Conduct where
  /-- The bytes that arrive. -/
  bytes : Bytes
  /-- How the reads of the call are cut and interrupted. -/
  turns : List Turn
  /-- What a read comes to that finds no more bytes. -/
  ending : Ending
  /-- Why the request cannot be written, unless the peer takes it. -/
  refusal : Option StreamError

/-- What comes of writing a request. -/
def Conduct.accept (conduct : Conduct) (request : Request) : Except StreamError Bytes := do
  let frame ← Frame.write request.encode
  match conduct.refusal with
  | some error => throw error
  | none => return frame

/-- A request, and what its caller takes from the reply. -/
structure Inquiry (α : Type) where
  request : Request
  want : Reply → Option α

/-- Failures after which a connection may be out of step. -/
def TransportError.breaks : TransportError → Bool
  | .communication _ | .timeout _ | .disconnected | .malformed _ => true
  | .noRuntimeDir | .socketOpen _ _ | .unexpectedReply _ => false

/-- What a call came to. -/
structure Round (α : Type) where
  /-- The frame that was written, if any. -/
  written : Option Bytes
  /-- The bytes that were read. -/
  read : Bytes
  outcome : Except StoreError α

/-- Whether the call failed in a way after which the connection may be out of step. -/
def Round.breaks {α : Type} (round : Round α) : Bool :=
  match round.outcome with
  | .error (.transport error) => error.breaks
  | _ => false

/-- The call wrote the frame of its request and nothing else, it read the frame of a body and
nothing else, and its outcome is what its caller takes from the reply in the body. -/
structure Round.AnsweredBy {α : Type} (round : Round α) (inquiry : Inquiry α) (body : Bytes) :
    Prop where
  written : ∃ frame, Frame.write inquiry.request.encode = .ok frame ∧ round.written = some frame
  read : Frame.write body = .ok round.read
  outcome : ∃ reply, Reply.decode body = .ok reply ∧
    round.outcome = Ask.taken inquiry.want reply.outcome

/-- A call on a dropped connection: nothing is written, and nothing is read. -/
def Round.void (α : Type) : Round α := ⟨none, [], .error (.transport .disconnected)⟩

namespace Connection

variable {α : Type}

/-- The connection as the peer leaves it for a call. -/
def meets (connection : Connection) (conduct : Conduct) : Connection :=
  { connection with
    incoming := ⟨connection.incoming.bytes ++ conduct.bytes, conduct.turns, conduct.ending⟩ }

/-- One call. -/
def round (connection : Connection) (conduct : Conduct) (inquiry : Inquiry α) :
    Round α × Connection :=
  let before := connection.meets conduct
  let written := conduct.accept inquiry.request
  let (outcome, later) := before.conclude written
  (⟨if before.live then written.toOption else none,
    before.incoming.bytes.take (before.incoming.bytes.length - later.incoming.bytes.length),
    Ask.taken inquiry.want outcome⟩, later)

/-- One call after another. -/
def rounds : Connection → List (Conduct × Inquiry α) → List (Round α)
  | _, [] => []
  | connection, (conduct, inquiry) :: rest =>
    (connection.round conduct inquiry).1 :: (connection.round conduct inquiry).2.rounds rest

/-- What a call comes to on a connection that is in step, by what came of writing the request and by
what stands in the peer's stream at the place of the reply. -/
def verdict (patience : Duration) (written : Except StreamError Bytes)
    (cut : Except StreamError (Option Bytes)) : Except StoreError Reply :=
  match written with
  | .error error => .error (.transport (.communication error))
  | .ok _ =>
    if patience.millis = 0 then .error (.transport (.timeout patience))
    else match understand patience cut with
      | .ok reply => reply.outcome
      | .error error => .error (.transport error)

theorem exists_body_of_understand {patience : Duration} {cut : Except StreamError (Option Bytes)}
    {reply : Reply} (h : understand patience cut = .ok reply) :
    ∃ body, cut = .ok (some body) ∧ Reply.decode body = .ok reply := by
  unfold understand at h
  split at h
  · rename_i body
    cases hdecode : Reply.decode body with
    | ok => rw [hdecode] at h; cases h; exact ⟨body, rfl, hdecode⟩
    | error => rw [hdecode] at h; cases h
  · cases h
  · cases h
  · cases h

/-- Whatever is not understood may leave the connection out of step. -/
theorem breaks_of_understand {patience : Duration} {cut : Except StreamError (Option Bytes)}
    {error : TransportError} (h : understand patience cut = .error error) :
    error.breaks = true := by
  unfold understand at h
  split at h
  · rename_i body
    cases hdecode : Reply.decode body with
    | ok => rw [hdecode] at h; cases h
    | error => rw [hdecode] at h; cases h; rfl
  · cases h; rfl
  · cases h; rfl
  · cases h; rfl

/-- A call on a live connection comes to its verdict on what is read. Either it fails and drops the
connection, or it gives the reply in the body that was read and keeps the connection. -/
theorem conclude_of_live {connection : Connection} (hlive : connection.live = true)
    (written : Except StreamError Bytes) :
    let cut := (Frame.read connection.incoming).1
    (∃ error incoming, error.breaks = true ∧
      verdict connection.patience written cut = .error (.transport error) ∧
      connection.conclude written = (.error (.transport error),
        { connection with incoming := incoming, live := false })) ∨
    ∃ (frame body : Bytes) (reply : Reply), written = .ok frame ∧ cut = .ok (some body) ∧
      Reply.decode body = .ok reply ∧ verdict connection.patience written cut = reply.outcome ∧
      connection.conclude written = (reply.outcome,
        { connection with incoming := (Frame.read connection.incoming).2 }) := by
  intro cut
  have hdead : ¬ (!connection.live) = true := by simp [hlive]
  -- The request may not be written, the client may have no patience, or the reply be no good.
  cases written with
  | error error =>
      left
      refine ⟨.communication error, connection.incoming, rfl, rfl, ?_⟩
      rw [conclude, exchange, if_neg hdead]
  | ok frame =>
      by_cases hpatience : connection.patience.millis = 0
      · left
        refine ⟨.timeout connection.patience, connection.incoming, rfl, ?_, ?_⟩
        · simp only [verdict, if_pos hpatience]
        · rw [conclude, exchange, if_neg hdead, receive, if_pos hpatience]
      · have hreceive : connection.receive =
            (understand connection.patience cut, (Frame.read connection.incoming).2) := by
          rw [receive, if_neg hpatience]
        cases hunderstand : understand connection.patience cut with
        | error error =>
            left
            refine ⟨error, (Frame.read connection.incoming).2, breaks_of_understand hunderstand,
              ?_, ?_⟩
            · simp only [verdict, if_neg hpatience, hunderstand]
            · rw [conclude, exchange, if_neg hdead, hreceive, hunderstand]
        | ok reply =>
            right
            obtain ⟨body, hbody, hdecode⟩ := exists_body_of_understand hunderstand
            refine ⟨frame, body, reply, rfl, hbody, hdecode, ?_, ?_⟩
            · simp only [verdict, if_neg hpatience, hunderstand]
            · rw [conclude, exchange, if_neg hdead, hreceive, hunderstand]

theorem round_eq {connection later : Connection} {conduct : Conduct} {inquiry : Inquiry α}
    {outcome : Except StoreError Reply}
    (h : (connection.meets conduct).conclude (conduct.accept inquiry.request) = (outcome, later)) :
    connection.round conduct inquiry =
      (⟨if connection.live then (conduct.accept inquiry.request).toOption else none,
        (connection.incoming.bytes ++ conduct.bytes).take
          ((connection.incoming.bytes ++ conduct.bytes).length - later.incoming.bytes.length),
        Ask.taken inquiry.want outcome⟩, later) := by
  simp only [round, h]
  rfl

/-- With a peer that takes requests, a round is a call. -/
theorem round_of_call {connection : Connection} {conduct : Conduct}
    (hrefusal : conduct.refusal = none) (inquiry : Inquiry α) :
    (connection.round conduct inquiry).1.outcome =
        Ask.taken inquiry.want ((connection.meets conduct).call inquiry.request).1 ∧
      (connection.round conduct inquiry).2 =
        ((connection.meets conduct).call inquiry.request).2 := by
  have haccept : conduct.accept inquiry.request = Frame.write inquiry.request.encode := by
    rw [Conduct.accept, hrefusal]
    cases Frame.write inquiry.request.encode <;> rfl
  rw [call, ← haccept, round_eq (Prod.ext rfl rfl)]
  exact ⟨rfl, rfl⟩

/-- A reply that was understood leaves the connection in step, whatever its caller wanted. -/
theorem breaks_taken (want : Reply → Option α) (reply : Reply) (written : Option Bytes)
    (read : Bytes) : Round.breaks ⟨written, read, Ask.taken want reply.outcome⟩ = false := by
  have hkinds : (∃ status, reply = .error status) ∨ reply.outcome = .ok reply := by
    cases reply with
    | error status => exact .inl ⟨status, rfl⟩
    | _ => exact .inr rfl
  rcases hkinds with ⟨status, rfl⟩ | hok
  · rfl
  · rw [hok]
    simp only [Round.breaks, Ask.taken]
    cases want reply <;> rfl

/-- A request that was written went out as its frame. -/
theorem write_of_accept {conduct : Conduct} {request : Request} {frame : Bytes}
    (h : conduct.accept request = .ok frame) : Frame.write request.encode = .ok frame := by
  unfold Conduct.accept at h
  cases hwrite : Frame.write request.encode with
  | error => rw [hwrite] at h; cases h
  | ok other =>
      rw [hwrite] at h
      cases hrefusal : conduct.refusal with
      | some => simp only [hrefusal] at h; cases h
      | none => simp only [hrefusal] at h; cases h; rfl

/-- The first round on a live connection. What it comes to is determined by what stands first in the
peer's stream. Either it breaks, or it takes exactly the first frame off the stream. -/
theorem round_of_live {connection : Connection} (hlive : connection.live = true)
    (conduct : Conduct) (inquiry : Inquiry α) :
    ∃ cut round later, connection.round conduct inquiry = (round, later) ∧
      Frame.StandsAt 0 conduct.ending (connection.incoming.bytes ++ conduct.bytes) cut ∧
      round.written = (conduct.accept inquiry.request).toOption ∧
      round.outcome = Ask.taken inquiry.want
        (verdict connection.patience (conduct.accept inquiry.request) cut) ∧
      ((round.breaks = true ∧ later.live = false) ∨
        (round.breaks = false ∧ later.live = true ∧ later.patience = connection.patience ∧
          connection.incoming.bytes ++ conduct.bytes = round.read ++ later.incoming.bytes ∧
          ∃ body, cut = .ok (some body) ∧ round.AnsweredBy inquiry body)) := by
  have hmeets : (connection.meets conduct).live = true := hlive
  have hstands := Frame.standsAt_read (connection.meets conduct).incoming
  rcases conclude_of_live hmeets (conduct.accept inquiry.request) with
    ⟨error, incoming, hbreaks, hverdict, hconclude⟩ |
      ⟨frame, body, reply, haccept, hbody, hdecode, hverdict, hconclude⟩
  · refine ⟨_, _, _, round_eq hconclude, hstands, if_pos hlive, ?_, .inl ⟨?_, rfl⟩⟩
    · exact congrArg (Ask.taken inquiry.want) hverdict.symm
    · exact hbreaks
  · obtain ⟨first, rest, left, hframe, hbytes, hleft⟩ := Frame.exists_frame_of_read hbody
    change connection.incoming.bytes ++ conduct.bytes = first ++ rest at hbytes
    rw [hleft] at hconclude
    -- What was read is what the rest of the stream lacks.
    have hread : (connection.incoming.bytes ++ conduct.bytes).take
        ((connection.incoming.bytes ++ conduct.bytes).length - rest.length) = first := by
      rw [hbytes, List.length_append, Nat.add_sub_cancel_right, List.take_left]
    have hwritten : (if connection.live then (conduct.accept inquiry.request).toOption else none) =
        some frame := by
      rw [if_pos hlive, haccept]
      rfl
    refine ⟨_, _, _, round_eq hconclude, hstands, if_pos hlive, ?_, .inr ⟨breaks_taken _ _ _ _, hlive,
      rfl, hbytes.trans (congrArg (· ++ rest) hread.symm), body, hbody, ?_⟩⟩
    · exact congrArg (Ask.taken inquiry.want) hverdict.symm
    · exact {
        written := ⟨frame, write_of_accept haccept, hwritten⟩
        read := hframe.trans (congrArg Except.ok hread.symm)
        outcome := ⟨reply, hdecode, rfl⟩ }

/-- A round on a dropped connection comes to nothing and leaves the connection dropped. -/
theorem round_of_dropped {connection : Connection} (hlive : connection.live = false)
    (conduct : Conduct) (inquiry : Inquiry α) :
    connection.round conduct inquiry = (.void α, connection.meets conduct) := by
  have hconclude : (connection.meets conduct).conclude (conduct.accept inquiry.request) =
      (.error (.transport .disconnected), connection.meets conduct) := by
    have hdead : (!(connection.meets conduct).live) = true := by simp [meets, hlive]
    unfold conclude exchange
    rw [if_pos hdead]
  rw [round_eq hconclude, hlive]
  simp [meets, Round.void, Ask.taken]

/-- The rounds of a dialogue are its first round and those of the rest on what it leaves. -/
theorem rounds_cons {connection later : Connection} {conduct : Conduct} {inquiry : Inquiry α}
    {first : Round α} (h : connection.round conduct inquiry = (first, later))
    (rest : List (Conduct × Inquiry α)) :
    connection.rounds ((conduct, inquiry) :: rest) = first :: later.rounds rest := by
  rw [rounds, h]

/-- There are as many rounds as calls. -/
theorem length_rounds (connection : Connection) (dialogue : List (Conduct × Inquiry α)) :
    (connection.rounds dialogue).length = dialogue.length := by
  induction dialogue generalizing connection with
  | nil => rfl
  | cons exchanged rest ih =>
      rw [rounds, List.length_cons, List.length_cons, ih]

/-- Once the connection was dropped, every round comes to nothing. -/
theorem rounds_of_dropped {connection : Connection} (hlive : connection.live = false)
    (dialogue : List (Conduct × Inquiry α)) :
    ∀ round ∈ connection.rounds dialogue, round = .void α := by
  induction dialogue generalizing connection with
  | nil => exact fun _ hround => False.elim (List.not_mem_nil hround)
  | cons exchanged rest ih =>
      obtain ⟨conduct, inquiry⟩ := exchanged
      intro round hround
      rw [rounds_cons (round_of_dropped hlive conduct inquiry), List.mem_cons] at hround
      rcases hround with rfl | hrest
      · rfl
      · have hnext : (connection.meets conduct).live = false := hlive
        exact ih hnext round hrest

/-- A round that breaks leaves the connection dropped. -/
theorem live_of_breaks {connection later : Connection} {conduct : Conduct} {inquiry : Inquiry α}
    {round : Round α} (hround : connection.round conduct inquiry = (round, later))
    (hbreaks : round.breaks = true) : later.live = false := by
  cases hlive : connection.live with
  | false =>
      rw [round_of_dropped hlive] at hround
      cases hround
      exact hlive
  | true =>
      obtain ⟨_, _, _, hsame, -, -, -, hafter⟩ := round_of_live hlive conduct inquiry
      cases hround.symm.trans hsame
      rcases hafter with ⟨-, hdropped⟩ | ⟨hkept, -⟩
      · exact hdropped
      · rw [hbreaks] at hkept
        cases hkept

/-- Once a round broke, every later one comes to nothing. -/
theorem void_of_earlier {connection : Connection} {dialogue : List (Conduct × Inquiry α)}
    {place : Nat} {round : Round α} (hround : (connection.rounds dialogue)[place]? = some round)
    (hearlier : ∃ earlier ∈ (connection.rounds dialogue).take place, earlier.breaks = true) :
    round = .void α := by
  induction dialogue generalizing connection place with
  | nil => cases hround
  | cons exchanged rest ih =>
      obtain ⟨earlier, hearlier, hbreaks⟩ := hearlier
      rw [rounds_cons rfl] at hround hearlier
      cases place with
      | zero => cases hearlier
      | succ place =>
          rcases List.mem_cons.1 hearlier with rfl | hearlier
          · have hdropped := live_of_breaks rfl hbreaks
            exact rounds_of_dropped hdropped rest round (List.mem_of_getElem? hround)
          · exact ih hround ⟨earlier, hearlier, hbreaks⟩

/-- What arrives from the peer in the course of a dialogue. -/
def arrived (dialogue : List (Conduct × Inquiry α)) : Bytes :=
  dialogue.flatMap fun exchanged => exchanged.1.bytes

/-- The round of a call is in step with a stream: its outcome is determined by what stands at the
place of the call in the bytes that arrived so far, and unless it breaks, it answers from the body
that stands there in all that arrives in the dialogue, however the stream goes on. -/
structure InStep (patience : Duration) (place : Nat) (conduct : Conduct) (inquiry : Inquiry α)
    (soFar whole : Bytes) (round : Round α) : Prop where
  written : round.written = (conduct.accept inquiry.request).toOption
  outcome : ∃ cut, Frame.StandsAt place conduct.ending soFar cut ∧
    round.outcome = Ask.taken inquiry.want
      (verdict patience (conduct.accept inquiry.request) cut)
  answered : round.breaks = false → ∃ body, round.AnsweredBy inquiry body ∧ ∀ ending more,
    Frame.StandsAt place ending (whole ++ more) (.ok (some body))

/-- A round that is in step with a stream is in step, one place later, with the stream that has one
more frame in front. -/
theorem InStep.succ {patience : Duration} {place : Nat} {conduct : Conduct} {inquiry : Inquiry α}
    {soFar whole body frame : Bytes} {round : Round α}
    (h : InStep patience place conduct inquiry soFar whole round)
    (hframe : Frame.write body = .ok frame) :
    InStep patience (place + 1) conduct inquiry (frame ++ soFar) (frame ++ whole) round where
  written := h.written
  outcome := by
    obtain ⟨cut, hstands, houtcome⟩ := h.outcome
    exact ⟨cut, hstands.succ hframe, houtcome⟩
  answered hbreaks := by
    obtain ⟨body, hbody, hstays⟩ := h.answered hbreaks
    refine ⟨body, hbody, fun ending more => ?_⟩
    rw [List.append_assoc]
    exact (hstays ending more).succ hframe

/-- The first call of a dialogue is in step. -/
theorem inStep_first {connection : Connection} (hlive : connection.live = true)
    (conduct : Conduct) (inquiry : Inquiry α) (later : Bytes) :
    InStep connection.patience 0 conduct inquiry (connection.incoming.bytes ++ conduct.bytes)
      (connection.incoming.bytes ++ (conduct.bytes ++ later))
      (connection.round conduct inquiry).1 := by
  obtain ⟨cut, round, left, hround, hstands, hwritten, houtcome, hafter⟩ :=
    round_of_live hlive conduct inquiry
  rw [hround]
  refine ⟨hwritten, ⟨cut, hstands, houtcome⟩, fun hbreaks => ?_⟩
  obtain ⟨-, -, -, -, body, rfl, hanswered⟩ :=
    hafter.resolve_left fun hbroken => by simp [hbreaks] at hbroken
  refine ⟨body, hanswered, fun ending more => ?_⟩
  simpa only [List.append_assoc] using hstands.append ending (later ++ more)

/-- As long as no earlier round broke, a call is in step with its place in what arrives. -/
theorem inStep_of_kept {connection : Connection} (hlive : connection.live = true)
    {dialogue : List (Conduct × Inquiry α)} {place : Nat} {conduct : Conduct} {inquiry : Inquiry α}
    {round : Round α} (hcall : dialogue[place]? = some (conduct, inquiry))
    (hround : (connection.rounds dialogue)[place]? = some round)
    (hkept : ∀ earlier ∈ (connection.rounds dialogue).take place, earlier.breaks = false) :
    InStep connection.patience place conduct inquiry
      (connection.incoming.bytes ++ arrived (dialogue.take (place + 1)))
      (connection.incoming.bytes ++ arrived dialogue) round := by
  induction place generalizing connection dialogue with
  | zero =>
      cases dialogue with
      | nil => cases hcall
      | cons exchanged rest =>
          obtain rfl : exchanged = (conduct, inquiry) := Option.some.inj hcall
          obtain rfl := Option.some.inj hround
          simpa [arrived] using inStep_first hlive conduct inquiry (arrived rest)
  | succ place ih =>
      cases dialogue with
      | nil => cases hcall
      | cons exchanged rest =>
          obtain ⟨opening, question⟩ := exchanged
          obtain ⟨_, first, later, hfirst, -, -, -, hafter⟩ :=
            round_of_live hlive opening question
          rw [rounds_cons hfirst] at hround hkept
          rcases hafter with ⟨hbroken, -⟩ |
            ⟨-, hlater, hpatience, hbytes, _, -, hanswered⟩
          · have hfine := hkept first List.mem_cons_self
            rw [hbroken] at hfine
            cases hfine
          · -- The first call took the first frame, so this one is in step with the rest.
            have hnext := (ih hlater hcall hround fun earlier hearlier =>
              hkept earlier (List.mem_cons_of_mem _ hearlier)).succ hanswered.read
            rw [hpatience, ← List.append_assoc, ← hbytes, ← List.append_assoc, ← hbytes] at hnext
            simpa [arrived, List.append_assoc] using hnext

/-- Whatever the peer does, calls and replies stay in step. Once a call failed in a way that may
leave them out of step, every later call comes to nothing without writing or reading anything. Up to
then the outcome of each call is determined by what stands at its place in the stream that arrived,
and a call that does not fail in such a way writes exactly one frame, reads exactly the frame at its
place and takes its outcome from there, and this frame stands there however the stream goes on. -/
theorem replies_in_step {connection : Connection} (hlive : connection.live = true)
    {dialogue : List (Conduct × Inquiry α)} {place : Nat} {conduct : Conduct} {inquiry : Inquiry α}
    (hcall : dialogue[place]? = some (conduct, inquiry)) :
    ∃ round, (connection.rounds dialogue)[place]? = some round ∧
      ((∃ earlier ∈ (connection.rounds dialogue).take place, earlier.breaks = true) →
        round = .void α) ∧
      ((∀ earlier ∈ (connection.rounds dialogue).take place, earlier.breaks = false) →
        round.written = (conduct.accept inquiry.request).toOption ∧
        (∃ cut, Frame.StandsAt place conduct.ending
            (connection.incoming.bytes ++ arrived (dialogue.take (place + 1))) cut ∧
          round.outcome = Ask.taken inquiry.want
            (verdict connection.patience (conduct.accept inquiry.request) cut)) ∧
        (round.breaks = false → ∃ body, round.AnsweredBy inquiry body ∧ ∀ ending more,
          Frame.StandsAt place ending (connection.incoming.bytes ++ arrived dialogue ++ more)
            (.ok (some body)))) := by
  have hplace : place < (connection.rounds dialogue).length := by
    rw [length_rounds]
    exact (List.getElem?_eq_some_iff.1 hcall).1
  have hround := List.getElem?_eq_getElem hplace
  refine ⟨_, hround, void_of_earlier hround, fun hkept => ?_⟩
  have hstep := inStep_of_kept hlive hcall hround hkept
  exact ⟨hstep.written, hstep.outcome, hstep.answered⟩

/-- A peer that sends replies and then keeps silent. -/
def replying (replies : List Reply) : Conduct where
  bytes := replies.flatMap fun reply => (Frame.write reply.encode).toOption.getD []
  turns := [.upTo 3, .interrupted]
  ending := .stalled
  refusal := none

/-- Asking for a count. -/
def counting : Inquiry UInt32 where
  request := .countFormats none
  want
    | .count count => some count
    | _ => none

/-- The store refuses the first of three requests, keeps silent on the second one, and answers it
together with the third one. -/
def lateCount : List (Conduct × Inquiry UInt32) :=
  [(replying [.error .accessDenied], counting), (replying [], counting),
    (replying [.count 11, .count 12], counting)]

/-- The refusal is an answer and the silence drops the connection, so neither count is taken for the
third one. -/
theorem late_count_not_taken :
    let connection := fresh ⟨50⟩
    connection.live = true ∧ lateCount[0]? = some (replying [.error .accessDenied], counting) ∧
      lateCount[2]? = some (replying [.count 11, .count 12], counting) ∧
      (connection.rounds lateCount).map Round.breaks = [false, true, true] ∧
      (∃ round body, (connection.rounds lateCount)[0]? = some round ∧
        round.AnsweredBy counting body) ∧
      (connection.rounds lateCount)[2]? = some (.void UInt32) := by
  intro connection
  have hlive : connection.live = true := rfl
  have hfirst : lateCount[0]? = some (replying [.error .accessDenied], counting) := rfl
  have hthird : lateCount[2]? = some (replying [.count 11, .count 12], counting) := rfl
  have hbreaks : (connection.rounds lateCount).map Round.breaks = [false, true, true] := by
    decide +kernel
  refine ⟨hlive, hfirst, hthird, hbreaks, ?_, ?_⟩
  · obtain ⟨round, hround, -, hstep⟩ := replies_in_step hlive hfirst
    obtain ⟨-, -, hanswered⟩ := hstep fun _ hearlier => False.elim (List.not_mem_nil hearlier)
    have hkept : some round.breaks = some false := by
      rw [← Option.map_some, ← hround, ← List.getElem?_map, hbreaks]
      rfl
    obtain ⟨body, hbody, -⟩ := hanswered (Option.some.inj hkept)
    exact ⟨round, body, hround, hbody⟩
  · obtain ⟨round, hround, hvoid, -⟩ := replies_in_step hlive hthird
    have hsilent : true ∈ ((connection.rounds lateCount).take 2).map Round.breaks := by
      rw [List.map_take, hbreaks]
      decide
    rw [hround, hvoid (List.mem_map.1 hsilent)]

end Connection

end Pasteboard
