import Pasteboard.Proofs.Call.Courses
import Pasteboard.Proofs.Client.Requesting

/-!
# Getting a payload, step by step

A client that gets a payload asks the store again whenever the payload outgrew its buffer, and asks
the owner once if there is none. `Getting` says what the client does next by what happened so far.
The main theorem, `Acting.always_get`, says that this is what a get of a format does that is not
derived, whatever the store replies and however the windows answer.
-/

namespace Pasteboard

open Call

/-- The answer to a get, if a reply is one. -/
def Reply.data? : Reply → Option GetReply
  | .data reply => some reply
  | _ => none

/-- A get is a request from whose reply the data are taken. -/
theorem Ask.get_eq (format : Format) (room : UInt32) :
    Ask.get format room = Ask.expect (.get format room) Reply.data? := by
  unfold Ask.get
  congr

/-- Whether there is no payload: no entry at all, or a placeholder. -/
def GetReply.isMissing (reply : GetReply) : Bool :=
  match reply.status with
  | .ok => reply.data.isEmpty
  | .overflow => false
  | .notFound => true

namespace Deed

/-- The answer to a get. -/
def reply? : Deed → Option GetReply
  | asked _ reply => (Ask.taken Reply.data? reply).toOption
  | _ => none

/-- How much room the payload needs, if it did not fit. -/
def overflow? (deed : Deed) : Option UInt32 :=
  deed.reply?.bind fun reply => if reply.status = .overflow then some reply.total else none

/-- The payload, if there is one and it fits. -/
def payload? (deed : Deed) : Option Bytes :=
  deed.reply?.bind fun reply =>
    if reply.status = .ok ∧ reply.data.isEmpty = false then some reply.data else none

/-- Whether the store replied that there is no payload. -/
def isMissing (deed : Deed) : Bool := deed.reply?.any GetReply.isMissing

/-- The owner that the store named. -/
def owner? (deed : Deed) : Option WindowId := deed.reply?.bind GetReply.owner

end Deed

/-- How many replies that a payload does not fit a client puts up with; at the last it gives up. -/
def Settings.attempts (settings : Settings) : Nat := max settings.overflowRetries.toNat 1

/-- The sizes reported for a payload that did not fit. -/
def totals (past : List Deed) : List UInt32 := past.filterMap Deed.overflow?

/-- The room for the next attempt: the size reported last. -/
def Settings.room (settings : Settings) (past : List Deed) : UInt32 :=
  (totals past).getLast?.getD settings.initialBufferSize

/-! ## What is done next -/

/-- What a client does next while it gets a payload. -/
inductive Move where
  | ask (room : UInt32)
  | send (owner : WindowId)
  | stop (outcome : Except ClientError Bytes)

namespace Move

variable (format : Format) (settings : Settings)

/-- The move is to do this, whatever comes back. -/
def Makes : Move → Deed → Prop
  | ask room, .asked request _ => request = .get format room
  | send owner, .sent window message limit _ =>
    window = owner ∧ message = .renderFormat format ∧ limit = some settings.renderTimeout
  | _, _ => False

/-- After a reply that there is no payload. The owner is asked once. -/
def onMissing (past : List Deed) : Option WindowId → Move
  | some owner =>
    if past.any Deed.isMissing then stop (.error (.noData format)) else send owner
  | none => stop (.error (.noData format))

/-- After a reply. -/
def onReply (past : List Deed) : Except StoreError GetReply → Move
  | .error cause => stop (.error (.ofStore cause))
  | .ok reply =>
    match reply.status with
    | .ok => if reply.data.isEmpty then onMissing format past reply.owner else stop (.ok reply.data)
    | .overflow =>
      if (totals past).length + 1 = settings.attempts then stop (.error (.unavailable format))
      else ask reply.total
    | .notFound => onMissing format past reply.owner

/-- After the owner was asked. -/
def onAnswer (past : List Deed) (owner : WindowId) : Except SendError Bool → Move
  | .ok _ => ask (settings.room past)
  | .error error => stop (.error (error.unrendered format owner))

end Move

/-- A client that gets a payload may have done these things, and this is what it does next. -/
inductive Getting (format : Format) (settings : Settings) : List Deed → Move → Prop where
  | start : Getting format settings [] (.ask settings.initialBufferSize)
  | asked {past : List Deed} {room : UInt32} (reply : Except StoreError Reply) :
      Getting format settings past (.ask room) →
      Getting format settings (past ++ [.asked (.get format room) reply])
        (Move.onReply format settings past (Ask.taken Reply.data? reply))
  | sent {past : List Deed} {owner : WindowId} (answer : Except SendError Bool) :
      Getting format settings past (.send owner) →
      Getting format settings
        (past ++ [.sent owner (.renderFormat format) (some settings.renderTimeout) answer])
        (Move.onAnswer format settings past owner answer)

/-- The sizes reported grow by one with each reply that the payload does not fit. -/
theorem totals_append (past : List Deed) (deed : Deed) :
    totals (past ++ [deed]) = totals past ++ deed.overflow?.toList := by
  cases hoverflow : deed.overflow? <;> simp [totals, hoverflow]

/-- A window that does not answer makes no payload unavailable. -/
theorem SendError.unrendered_ne (error : SendError) (format : Format) (owner : WindowId) :
    error.unrendered format owner ≠ .unavailable format := by
  cases error <;> exact fun h => by cases h

/-- A failure of the store makes no payload unavailable. -/
theorem ClientError.ofStore_ne (cause : StoreError) (format : Format) :
    ClientError.ofStore cause ≠ .unavailable format := by
  cases cause with
  | refused status => cases status <;> exact fun h => by cases h
  | transport => exact fun h => by cases h

/-- A failure of the store does not mean that there are no data. -/
theorem ClientError.ofStore_ne_noData (cause : StoreError) (format : Format) :
    ClientError.ofStore cause ≠ .noData format := by
  cases cause with
  | refused status => cases status <;> exact fun h => by cases h
  | transport => exact fun h => by cases h

/-- A reply is about a payload that does not fit, or one that does, or says that there is none, or
it is a failure. -/
theorem Move.onReply_cases (format : Format) (settings : Settings) (past : List Deed)
    (request : Request) (reply : Except StoreError Reply) :
    let deed := Deed.asked request reply
    let move := Move.onReply format settings past (Ask.taken Reply.data? reply)
    (∃ total, deed.overflow? = some total ∧ deed.payload? = none ∧ deed.isMissing = false ∧
      move = if (totals past).length + 1 = settings.attempts then
        .stop (.error (.unavailable format)) else .ask total) ∨
    (∃ payload, deed.overflow? = none ∧ deed.payload? = some payload ∧ deed.isMissing = false ∧
      move = .stop (.ok payload)) ∨
    (deed.overflow? = none ∧ deed.payload? = none ∧ deed.isMissing = true ∧
      move = Move.onMissing format past deed.owner?) ∨
    (deed.overflow? = none ∧ deed.payload? = none ∧ deed.isMissing = false ∧
      ∃ cause, Ask.taken Reply.data? reply = .error cause ∧
        move = .stop (.error (.ofStore cause))) := by
  dsimp only [Deed.overflow?, Deed.payload?, Deed.isMissing, Deed.owner?, Deed.reply?]
  cases Ask.taken Reply.data? reply with
  | error cause => exact .inr (.inr (.inr ⟨rfl, rfl, rfl, cause, rfl, rfl⟩))
  | ok got =>
      obtain ⟨status, data, total, owner⟩ := got
      cases status with
      | overflow => exact .inl ⟨total, rfl, rfl, rfl, rfl⟩
      | notFound => exact .inr (.inr (.inl ⟨rfl, rfl, rfl, rfl⟩))
      | ok =>
          cases data with
          | nil => exact .inr (.inr (.inl ⟨rfl, rfl, rfl, rfl⟩))
          | cons first rest => exact .inr (.inl ⟨first :: rest, rfl, rfl, rfl, rfl⟩)

/-- A reply that there is no payload reports no size. -/
theorem Deed.of_isMissing (request : Request) {reply : Except StoreError Reply} {got : GetReply}
    (htaken : Ask.taken Reply.data? reply = .ok got) (hmissing : got.isMissing = true) :
    (Deed.asked request reply).isMissing = true ∧ (Deed.asked request reply).overflow? = none := by
  simp only [Deed.isMissing, Deed.overflow?, Deed.reply?, htaken]
  obtain ⟨status, data, total, owner⟩ := got
  refine ⟨hmissing, ?_⟩
  cases status with
  | overflow => cases hmissing
  | ok | notFound => rfl

/-- A reply that the payload does not fit reports a size, and does not say that there is none. -/
theorem Deed.of_overflow (request : Request) {reply : Except StoreError Reply} {got : GetReply}
    (htaken : Ask.taken Reply.data? reply = .ok got) (hstatus : got.status = .overflow) :
    (Deed.asked request reply).overflow? = some got.total ∧
      (Deed.asked request reply).isMissing = false := by
  obtain ⟨status, data, total, owner⟩ := got
  cases hstatus
  simp only [Deed.isMissing, Deed.overflow?, Deed.reply?, htaken]
  exact ⟨rfl, rfl⟩

/-- After such a reply it matters who the owner is, and nothing else. -/
theorem Move.onReply_of_isMissing (format : Format) (settings : Settings) (past : List Deed)
    {got : GetReply} (h : got.isMissing = true) :
    Move.onReply format settings past (.ok got) = Move.onMissing format past got.owner := by
  obtain ⟨status, data, total, owner⟩ := got
  cases status with
  | ok => exact if_pos h
  | overflow => cases h
  | notFound => rfl

/-- The owner is not asked again. -/
theorem Move.onMissing_of_seen (format : Format) {past : List Deed}
    (h : past.any Deed.isMissing = true) (owner? : Option WindowId) :
    Move.onMissing format past owner? = .stop (.error (.noData format)) := by
  cases owner? with
  | none => rfl
  | some owner => exact if_pos h

/-- The owner is asked the first time, if the store named one. -/
theorem Move.onMissing_cases (format : Format) (past : List Deed) (owner? : Option WindowId) :
    (∃ owner, owner? = some owner ∧ past.any Deed.isMissing = false ∧
      Move.onMissing format past owner? = .send owner) ∨
    ((past.any Deed.isMissing = true ∨ owner? = none) ∧
      Move.onMissing format past owner? = .stop (.error (.noData format))) := by
  cases owner? with
  | none => exact .inr ⟨.inr rfl, rfl⟩
  | some owner =>
      cases hseen : past.any Deed.isMissing with
      | false => exact .inl ⟨owner, rfl, rfl, if_neg (by simp [hseen])⟩
      | true => exact .inr ⟨.inl rfl, if_pos hseen⟩

namespace Getting

variable {format : Format} {settings : Settings} {past deeds : List Deed} {move : Move}

/-- The room of an attempt is the size reported last. -/
theorem room_eq {room : UInt32} (h : Getting format settings past move)
    (hmove : move = .ask room) : room = settings.room past := by
  induction h with
  | start =>
      cases hmove
      rfl
  | @asked past earlier reply _ _ =>
      rcases Move.onReply_cases format settings past (.get format earlier) reply with
        ⟨total, hoverflow, -, -, hnext⟩ | ⟨_, -, -, -, hnext⟩ | ⟨-, -, -, hnext⟩ |
          ⟨-, -, -, _, -, hnext⟩
      · rw [hnext] at hmove
        split at hmove
        · cases hmove
        · cases hmove
          simp [Settings.room, totals_append, hoverflow]
      · rw [hnext] at hmove
        cases hmove
      · rw [hnext] at hmove
        rcases Move.onMissing_cases format past (Deed.asked (.get format earlier) reply).owner? with
          ⟨_, -, -, hmissing⟩ | ⟨-, hmissing⟩
        · rw [hmissing] at hmove
          cases hmove
        · rw [hmissing] at hmove
          cases hmove
      · rw [hnext] at hmove
        cases hmove
  | sent answer _ _ =>
      cases answer with
      | ok =>
          cases hmove
          simp [Settings.room, totals_append, Deed.overflow?, Deed.reply?]
      | error => cases hmove

/-- How much was asked of the store and of the owner when this is the next move, after so many
replies that the payload did not fit and possibly one that it is missing. -/
def Tally (format : Format) (settings : Settings) (overflows gets requests : Nat) (missed : Bool) :
    Move → Prop
  | .ask _ => overflows < settings.attempts ∧ gets = overflows + missed.toNat ∧
      requests = missed.toNat
  | .send _ => overflows < settings.attempts ∧ gets = overflows + 1 ∧ requests = 0 ∧ missed = true
  | .stop outcome => gets ≤ settings.attempts + 1 ∧ requests ≤ 1 ∧
      (outcome = .error (.unavailable format) ↔ overflows = settings.attempts)

/-- An end that is not for want of attempts leaves attempts over. -/
theorem tally_stop {overflows gets requests : Nat} {missed : Bool}
    {outcome : Except ClientError Bytes} (hleft : overflows < settings.attempts)
    (hgets : gets ≤ settings.attempts + 1) (hrequests : requests ≤ 1)
    (houtcome : outcome ≠ .error (.unavailable format)) :
    Tally format settings overflows gets requests missed (.stop outcome) :=
  ⟨hgets, hrequests, fun h => False.elim (houtcome h), fun h => False.elim (Nat.ne_of_lt hleft h)⟩

/-- What is counted of some deeds when this is the next move. -/
abbrev Tallies (format : Format) (settings : Settings) (past : List Deed) (move : Move) : Prop :=
  Tally format settings (totals past).length (past.countP Deed.isAsked) (past.countP Deed.isSent)
    (past.any Deed.isMissing) move

/-- A reply that the payload does not fit uses up an attempt, and any other reply comes to an end or
is the one after which the owner is asked. -/
theorem tallies_asked {room : UInt32} (h : Tallies format settings past (.ask room))
    (reply : Except StoreError Reply) :
    Tallies format settings (past ++ [.asked (.get format room) reply])
      (Move.onReply format settings past (Ask.taken Reply.data? reply)) := by
  obtain ⟨hleft, hgets, hrequests⟩ := h
  have hmissed := Bool.toNat_le (past.any Deed.isMissing)
  simp only [Tallies, totals_append, List.countP_append, List.countP_singleton, List.any_append,
    List.any_cons, List.any_nil, Bool.or_false, List.length_append, Deed.isAsked, Deed.isSent,
    if_true, Bool.false_eq_true, if_false, Nat.add_zero]
  -- Too large, there, missing, or no answer: only the first of these uses up an attempt.
  rcases Move.onReply_cases format settings past (.get format room) reply with
    ⟨total, hoverflow, -, hthere, hnext⟩ | ⟨payload, hoverflow, -, hthere, hnext⟩ |
      ⟨hoverflow, -, hmissing, hnext⟩ | ⟨hoverflow, -, hthere, cause, -, hnext⟩
  · rw [hnext, hoverflow, hthere, Bool.or_false]
    show Tally format settings ((totals past).length + 1) _ _ _ _
    split
    · rename_i hlast
      exact ⟨by omega, by omega, fun _ => hlast, fun _ => rfl⟩
    · exact ⟨by omega, by omega, hrequests⟩
  · rw [hnext, hoverflow]
    exact tally_stop hleft (by omega) (by omega) fun h => by cases h
  · rw [hnext, hoverflow, hmissing, Bool.or_true]
    show Tally format settings (totals past).length _ _ _ _
    rcases Move.onMissing_cases format past (Deed.asked (.get format room) reply).owner? with
      ⟨owner, -, hfirst, hsend⟩ | ⟨-, hstop⟩
    · rw [hsend]
      rw [hfirst] at hgets hrequests
      exact ⟨hleft, by rw [hgets]; rfl, hrequests, rfl⟩
    · rw [hstop]
      exact tally_stop hleft (by omega) (by omega) fun h => by cases h
  · rw [hnext, hoverflow]
    exact tally_stop hleft (by omega) (by omega) fun h =>
      ClientError.ofStore_ne cause format (Except.error.inj h)

/-- The owner's answer uses up no attempt. -/
theorem tallies_sent {owner : WindowId} (h : Tallies format settings past (.send owner))
    (answer : Except SendError Bool) :
    Tallies format settings
      (past ++ [.sent owner (.renderFormat format) (some settings.renderTimeout) answer])
      (Move.onAnswer format settings past owner answer) := by
  obtain ⟨hleft, hgets, hrequests, hmissed⟩ := h
  have hoverflow : (Deed.sent owner (.renderFormat format) (some settings.renderTimeout)
      answer).overflow? = none := rfl
  simp only [Tallies, totals_append, List.countP_append, List.countP_singleton, List.any_append,
    List.any_cons, List.any_nil, Bool.or_false, List.length_append, Deed.isAsked, Deed.isSent,
    if_true, Bool.false_eq_true, if_false, Nat.add_zero, hoverflow, hmissed, Bool.true_or]
  show Tally format settings (totals past).length _ _ _ _
  cases answer with
  | ok => exact ⟨hleft, hgets, by rw [hrequests]; rfl⟩
  | error error =>
      exact tally_stop hleft (by omega) (by omega) fun h =>
        error.unrendered_ne format owner (Except.error.inj h)

/-- Every reply uses up an attempt, except for the one after which the owner is asked. -/
theorem tally (h : Getting format settings past move) :
    Tally format settings (totals past).length (past.countP Deed.isAsked)
      (past.countP Deed.isSent) (past.any Deed.isMissing) move := by
  induction h with
  | start =>
      have hattempt : 0 < settings.attempts :=
        Nat.lt_of_lt_of_le Nat.zero_lt_one (Nat.le_max_right _ _)
      exact ⟨hattempt, rfl, rfl⟩
  | asked reply _ ih => exact tallies_asked ih reply
  | sent answer _ ih => exact tallies_sent ih answer

end Getting

/-! ## What a client does is that -/

namespace Acting

variable {client : Client} {format : Format} {past : List Deed}

/-- Asking the owner is one message. -/
theorem always_requestRender (owner : WindowId)
    (goal : Except ClientError Unit → Client → List Deed → Prop)
    (hgoal : ∀ answer : Except SendError Bool,
      goal (answer.map (fun _ => ()) |>.mapError (·.unrendered format owner)) client
        (past ++ [.sent owner (.renderFormat format) (some client.settings.renderTimeout) answer])) :
    (requestRender owner format).run.Always goal client past := by
  simp only [requestRender, always_acting_bind, always_lift, always_trace, always_client]
  intro answer
  have hanswer := hgoal answer
  cases answer with
  | ok => exact hanswer
  | error error => cases error <;> exact hanswer

/-- The attempts of a client that does about a missing payload what `missing` says. -/
theorem always_fetchWith (hlogging : client.logging = false)
    {goal : Except ClientError Bytes → Client → List Deed → Prop}
    (hstop : ∀ deeds outcome, Getting format client.settings deeds (.stop outcome) →
      goal outcome client deeds)
    {seen : Bool} {limit : Nat} {missing : Nat → UInt32 → Option WindowId → Acting Bytes}
    (hmissing : ∀ left room past reply got, Getting format client.settings past (.ask room) →
      (totals past).length + left = client.settings.attempts → past.any Deed.isMissing = seen →
      Ask.taken Reply.data? reply = .ok got → got.isMissing = true →
      (missing left room got.owner).run.Always goal client
        (past ++ [.asked (.get format room) reply]))
    {left : Nat} {room : UInt32} (h : Getting format client.settings past (.ask room))
    (hleft : (totals past).length + left = client.settings.attempts)
    (hseen : past.any Deed.isMissing = seen) :
    (fetchWith format limit missing left room).run.Always goal client past := by
  -- The attempts left and the sizes reported so far add up to all attempts.
  induction left generalizing room past with
  | zero =>
      obtain ⟨hattempt, -⟩ := h.tally
      omega
  | succ left ih =>
      simp only [fetchWith, Ask.get_eq, always_acting_bind, always_ofAsking, always_expect]
      intro reply
      have hasked := h.asked reply
      cases htaken : Ask.taken Reply.data? reply with
      | error cause =>
          rw [htaken] at hasked
          exact hstop _ _ hasked
      | ok got =>
          have habsent := hmissing (left + 1) room past reply got h hleft hseen htaken
          rw [htaken] at hasked
          obtain ⟨status, data, total, owner⟩ := got
          cases status with
          | notFound => exact habsent rfl
          | ok =>
              cases data with
              | nil => exact habsent rfl
              | cons first rest =>
                  simp only [mapError_ok, List.isEmpty_cons, Bool.false_eq_true, if_false,
                    traceLabelled, always_acting_bind, always_lift, always_bind, always_client,
                    hlogging]
                  exact hstop _ _ hasked
          | overflow =>
              have hdeed := Deed.of_overflow (.get format room) htaken rfl
              simp only [Move.onReply] at hasked
              by_cases hlast : left = 0
              · rw [if_pos (by omega)] at hasked
                simp only [mapError_ok, if_pos hlast, always_acting_bind, always_lift, always_warn,
                  always_throw]
                exact hstop _ _ hasked
              · rw [if_neg (by omega)] at hasked
                simp only [mapError_ok, if_neg hlast, always_acting_bind, always_lift, always_trace]
                refine ih hasked ?_ (by simp [hseen, hdeed])
                rw [totals_append, hdeed.1, List.length_append]
                simp only [Option.toList_some, List.length_singleton]
                omega

/-- Once the owner was asked, nothing more is done about a missing payload. -/
theorem always_fetchAgain (hlogging : client.logging = false) {left limit : Nat} {room : UInt32}
    (h : Getting format client.settings past (.ask room))
    (hleft : (totals past).length + left = client.settings.attempts)
    (hseen : past.any Deed.isMissing = true) :
    (fetchWith format limit (fun _ _ _ => throw (.noData format)) left room).run.Always
      (fun outcome later deeds =>
        later = client ∧ Getting format client.settings deeds (.stop outcome)) client past := by
  refine always_fetchWith hlogging (fun deeds outcome hstop => ⟨rfl, hstop⟩) ?_ h hleft hseen
  intro left room past reply got h _ hseen htaken hmissing
  have hasked := h.asked reply
  rw [htaken, Move.onReply_of_isMissing format client.settings past hmissing,
    Move.onMissing_of_seen format hseen] at hasked
  exact ⟨rfl, hasked⟩

/-- A client that gets a payload, whatever comes back. -/
theorem always_fetchBytes (hlogging : client.logging = false) (format : Format) :
    (fetchBytes format).run.Always (fun outcome later deeds =>
      later = client ∧ Getting format client.settings deeds (.stop outcome)) client [] := by
  rw [fetchBytes_eq]
  simp only [always_acting_bind, always_lift, always_client]
  refine always_fetchWith hlogging (fun deeds outcome hstop => ⟨rfl, hstop⟩) ?_ .start
    (Nat.zero_add _) rfl
  intro left room past reply got h hleft hseen htaken hmissing
  have hasked := h.asked reply
  rw [htaken, Move.onReply_of_isMissing format client.settings past hmissing] at hasked
  cases howner : got.owner with
  | none =>
      rw [howner] at hasked
      exact ⟨rfl, hasked⟩
  | some owner =>
      -- This is the first such reply, so the owner is asked, and the room stays as it was.
      have hsend : Move.onMissing format past (some owner) = .send owner :=
        if_neg (by simp [hseen])
      rw [howner, hsend] at hasked
      simp only [awaited, always_acting_bind]
      refine always_requestRender owner _ fun answer => ?_
      have hsent := hasked.sent answer
      cases answer with
      | error error => exact ⟨rfl, hsent⟩
      | ok flag =>
          obtain ⟨hdeed, hoverflow⟩ := Deed.of_isMissing (.get format room) htaken hmissing
          have htotals : totals (past ++ [.asked (.get format room) reply]) = totals past := by
            rw [totals_append, hoverflow]
            exact List.append_nil _
          have hroom : client.settings.room (past ++ [.asked (.get format room) reply]) = room := by
            rw [Settings.room, htotals]
            exact (h.room_eq rfl).symm
          simp only [Move.onAnswer, hroom] at hsent
          refine always_fetchAgain hlogging hsent ?_ ?_
          · rw [totals_append, htotals, List.length_append]
            exact hleft
          · simp [hdeed]

/-- The result of a get, by the payload that was got. -/
def decoded (graphics : Graphics) (format : Format) (payload : Bytes) : Except ClientError Data :=
  ((Data.decode graphics format payload).map Prod.fst).mapError (.payload format)

/-- A client that gets a format which it does not derive. -/
theorem always_get (hsource : client.sources.source? format = none)
    (hlogging : client.logging = false) :
    (get format).run.Always (fun result _ deeds =>
      ∃ outcome, Getting format client.settings deeds (.stop outcome) ∧
        result = outcome.bind (decoded client.graphics format)) client [] := by
  simp only [get, fetch, always_acting_bind, always_lift, always_client, hsource]
  refine (always_fetchBytes hlogging format).mono fun outcome later deeds hgetting => ?_
  obtain ⟨rfl, hgetting⟩ := hgetting
  cases outcome with
  | error => exact ⟨_, hgetting, rfl⟩
  | ok payload =>
      simp only [always_ofResult]
      have hdecoded : (Except.ok payload : Except ClientError Bytes).bind
          (decoded later.graphics format) = decoded later.graphics format payload := rfl
      cases hdecode : Data.decode later.graphics format payload with
      | error cause =>
          refine ⟨_, hgetting, ?_⟩
          rw [hdecoded, decoded, hdecode]
          rfl
      | ok made =>
          simp only [mapError_ok, always_modify]
          refine ⟨_, hgetting, ?_⟩
          rw [hdecoded, decoded, hdecode]
          rfl

end Acting

end Pasteboard
