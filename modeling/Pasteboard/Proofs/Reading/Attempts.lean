import Pasteboard.Proofs.Reading.Getting

/-!
# How often a payload is asked for

A store may reply in any order that a payload does not fit, that it is missing or that something
failed, and windows may answer or not. The main theorem, `Acting.get_attempts`, says what a get
comes to against any such store and windows: it ends after few attempts, each with the room that was
asked for last, and there is one way to end for each kind of reply.
-/

namespace Pasteboard

open Call

namespace Getting

variable {format : Format} {settings : Settings} {deeds : List Deed} {move : Move}

/-- What a move leads to: it is made next, and nothing comes after the last one. -/
def Leads (format : Format) (settings : Settings) (move last : Move) : List Deed → Prop
  | [] => move = last
  | deed :: _ => move.Makes format settings deed

/-- The deed was the move after those before it, and it led to those after it. -/
inductive Made (format : Format) (settings : Settings) (before after : List Deed) (last : Move) :
    Deed → Prop where
  | asked {room : UInt32} (reply : Except StoreError Reply) :
      Getting format settings before (.ask room) →
      Leads format settings
        (Move.onReply format settings before (Ask.taken Reply.data? reply)) last after →
      Made format settings before after last (.asked (.get format room) reply)
  | sent {owner : WindowId} (answer : Except SendError Bool) :
      Getting format settings before (.send owner) →
      Leads format settings (Move.onAnswer format settings before owner answer) last after →
      Made format settings before after last
        (.sent owner (.renderFormat format) (some settings.renderTimeout) answer)

theorem leads_append {last : Move} {after : List Deed} {deed : Deed}
    (h : Leads format settings move last after) (hmakes : last.Makes format settings deed)
    (later : Move) : Leads format settings move later (after ++ [deed]) := by
  cases after with
  | nil =>
      obtain rfl : move = last := h
      exact hmakes
  | cons => exact h

theorem Made.append {before after : List Deed} {deed latest : Deed} {last : Move}
    (h : Made format settings before after last deed)
    (hmakes : last.Makes format settings latest) (later : Move) :
    Made format settings before (after ++ [latest]) later deed := by
  cases h with
  | asked reply hbefore hleads => exact .asked reply hbefore (leads_append hleads hmakes later)
  | sent answer hbefore hleads => exact .sent answer hbefore (leads_append hleads hmakes later)

/-- The latest of some deeds is the one in question, or it comes behind that one. -/
theorem split_append {past before after : List Deed} {latest deed : Deed}
    (h : past ++ [latest] = before ++ deed :: after) :
    (past = before ∧ latest = deed ∧ after = []) ∨
      ∃ front, past = before ++ deed :: front ∧ after = front ++ [latest] := by
  rcases List.eq_nil_or_concat after with rfl | ⟨front, last, rfl⟩
  · obtain ⟨hpast, hlatest⟩ := List.append_inj' h rfl
    exact .inl ⟨hpast, List.singleton_inj.1 hlatest, rfl⟩
  · rw [List.concat_eq_append, ← List.cons_append, ← List.append_assoc] at h
    obtain ⟨hpast, hlatest⟩ := List.append_inj' h rfl
    refine .inr ⟨front, hpast, ?_⟩
    rw [List.concat_eq_append, List.singleton_inj.1 hlatest]

/-- Every deed on the way was the next move then, and it led to what followed. -/
theorem made (h : Getting format settings deeds move) {before after : List Deed} {deed : Deed}
    (hdeeds : deeds = before ++ deed :: after) : Made format settings before after move deed := by
  induction h generalizing after with
  | start => simp at hdeeds
  | @asked past room reply hpast ih =>
      rcases split_append hdeeds with ⟨rfl, rfl, rfl⟩ | ⟨front, hfront, rfl⟩
      · exact .asked reply hpast rfl
      · have hmakes : (Move.ask room).Makes format settings (.asked (.get format room) reply) := rfl
        exact (ih hfront).append hmakes _
  | @sent past owner answer hpast ih =>
      rcases split_append hdeeds with ⟨rfl, rfl, rfl⟩ | ⟨front, hfront, rfl⟩
      · exact .sent answer hpast rfl
      · have hmakes : (Move.send owner).Makes format settings
            (.sent owner (.renderFormat format) (some settings.renderTimeout) answer) :=
          ⟨rfl, rfl, rfl⟩
        exact (ih hfront).append hmakes _

/-! ## What follows a deed -/

namespace Leads

variable {outcome : Except ClientError Bytes} {last : Move} {after : List Deed}

/-- Nothing follows the end. -/
theorem of_stop (h : Leads format settings (.stop outcome) last after) :
    after = [] ∧ .stop outcome = last := by
  cases after with
  | nil => exact ⟨rfl, h⟩
  | cons => exact False.elim h

/-- A get that is to go on with an attempt goes on with it before it ends. -/
theorem of_ask {room : UInt32} (h : Leads format settings (.ask room) (.stop outcome) after) :
    ∃ reply rest, after = .asked (.get format room) reply :: rest := by
  cases after with
  | nil =>
      have hend : Move.ask room = .stop outcome := h
      cases hend
  | cons deed rest =>
      cases deed with
      | asked request reply =>
          obtain rfl : request = .get format room := h
          exact ⟨reply, rest, rfl⟩
      | sent | posted | refreshed => exact False.elim h

/-- A get that is to go on with a message to the owner goes on with it before it ends. -/
theorem of_send {owner : WindowId} (h : Leads format settings (.send owner) (.stop outcome) after) :
    ∃ answer rest,
      after = .sent owner (.renderFormat format) (some settings.renderTimeout) answer :: rest := by
  cases after with
  | nil =>
      have hend : Move.send owner = .stop outcome := h
      cases hend
  | cons deed rest =>
      cases deed with
      | sent window message limit answer =>
          obtain ⟨rfl, rfl, rfl⟩ := h
          exact ⟨answer, rest, rfl⟩
      | asked | posted | refreshed => exact False.elim h

end Leads

/-- A get does not end before it began. -/
theorem ne_nil {outcome : Except ClientError Bytes}
    (h : Getting format settings deeds (.stop outcome)) : deeds ≠ [] := by
  have hmove : ∀ {move}, Getting format settings deeds move → deeds = [] →
      ∃ room, move = .ask room := by
    intro move hgetting hnil
    cases hgetting with
    | start => exact ⟨_, rfl⟩
    | asked | sent => simp at hnil
  intro hnil
  obtain ⟨room, hroom⟩ := hmove h hnil
  cases hroom

end Getting

namespace Move

variable {format : Format} {settings : Settings} {past : List Deed} {request : Request}
  {reply : Except StoreError Reply}

/-- A payload that does not fit is asked for again with the room that it needs, but not after the
last attempt. -/
theorem onReply_of_overflow {total : UInt32}
    (h : (Deed.asked request reply).overflow? = some total) :
    onReply format settings past (Ask.taken Reply.data? reply) =
      if (totals past).length + 1 = settings.attempts then .stop (.error (.unavailable format))
      else .ask total := by
  rcases onReply_cases format settings past request reply with
    ⟨other, hoverflow, -, -, hnext⟩ | ⟨_, hnone, -⟩ | ⟨hnone, -⟩ | ⟨hnone, -⟩
  · rw [h] at hoverflow
    cases hoverflow
    exact hnext
  all_goals
    rw [hnone] at h
    cases h

/-- A payload that fits is the end. -/
theorem onReply_of_payload {payload : Bytes}
    (h : (Deed.asked request reply).payload? = some payload) :
    onReply format settings past (Ask.taken Reply.data? reply) = .stop (.ok payload) := by
  rcases onReply_cases format settings past request reply with
    ⟨_, -, hnone, -⟩ | ⟨other, -, hpayload, -, hnext⟩ | ⟨-, hnone, -⟩ | ⟨-, hnone, -⟩
  case inr.inl =>
    rw [h] at hpayload
    cases hpayload
    exact hnext
  all_goals
    rw [hnone] at h
    cases h

/-- A missing payload is asked of the owner, or it is the end. -/
theorem onReply_of_missing (h : (Deed.asked request reply).isMissing = true) :
    onReply format settings past (Ask.taken Reply.data? reply) =
      onMissing format past (Deed.asked request reply).owner? := by
  rcases onReply_cases format settings past request reply with
    ⟨_, -, -, hthere, -⟩ | ⟨_, -, -, hthere, -⟩ | ⟨-, -, -, hnext⟩ | ⟨-, -, hthere, -⟩
  case inr.inr.inl => exact hnext
  all_goals
    rw [hthere] at h
    cases h

/-- A get ends with a payload only if the reply holds it. -/
theorem payload_of_onReply {payload : Bytes}
    (h : onReply format settings past (Ask.taken Reply.data? reply) = .stop (.ok payload)) :
    (Deed.asked request reply).payload? = some payload := by
  rcases onReply_cases format settings past request reply with
    ⟨_, -, -, -, hnext⟩ | ⟨other, -, hpayload, -, hnext⟩ | ⟨-, -, -, hnext⟩ | ⟨-, -, -, _, -, hnext⟩
  all_goals rw [hnext] at h
  · split at h <;> cases h
  · cases h
    exact hpayload
  · rcases onMissing_cases format past (Deed.asked request reply).owner? with
      ⟨_, -, -, hmissing⟩ | ⟨-, hmissing⟩
    all_goals
      rw [hmissing] at h
      cases h
  · cases h

/-- There are no data only if the reply says that the payload is missing. -/
theorem isMissing_of_onReply
    (h : onReply format settings past (Ask.taken Reply.data? reply) =
      .stop (.error (.noData format))) : (Deed.asked request reply).isMissing = true := by
  rcases onReply_cases format settings past request reply with
    ⟨_, -, -, -, hnext⟩ | ⟨_, -, -, -, hnext⟩ | ⟨-, -, hmissing, -⟩ | ⟨-, -, -, cause, -, hnext⟩
  case inr.inr.inl => exact hmissing
  all_goals rw [hnext] at h
  · split at h <;> cases h
  · cases h
  · simp only [stop.injEq, Except.error.injEq] at h
    exact False.elim (ClientError.ofStore_ne_noData cause format h)

/-- The owner is asked only after the first reply that the payload is missing, if it names one. -/
theorem of_onReply_eq_send {owner : WindowId}
    (h : onReply format settings past (Ask.taken Reply.data? reply) = .send owner) :
    (Deed.asked request reply).isMissing = true ∧ past.any Deed.isMissing = false ∧
      (Deed.asked request reply).owner? = some owner := by
  rcases onReply_cases format settings past request reply with
    ⟨_, -, -, -, hnext⟩ | ⟨_, -, -, -, hnext⟩ | ⟨-, -, hmissing, hnext⟩ | ⟨-, -, -, _, -, hnext⟩
  all_goals rw [hnext] at h
  · split at h <;> cases h
  · cases h
  · rcases onMissing_cases format past (Deed.asked request reply).owner? with
      ⟨window, howner, hfirst, hsend⟩ | ⟨-, hstop⟩
    · rw [hsend] at h
      cases h
      exact ⟨hmissing, hfirst, howner⟩
    · rw [hstop] at h
      cases h
  · cases h

/-- A message to the owner is no end with a payload, and there are no data after it only if the
owner is no window. -/
theorem of_onAnswer_eq_stop {owner : WindowId} {answer : Except SendError Bool}
    {outcome : Except ClientError Bytes}
    (h : onAnswer format settings past owner answer = .stop outcome) :
    ∃ error, answer = .error error ∧ outcome = .error (error.unrendered format owner) := by
  cases answer with
  | ok => cases h
  | error error =>
      cases h
      exact ⟨error, rfl, rfl⟩

end Move

namespace Getting

variable {format : Format} {settings : Settings} {deeds : List Deed} {move : Move}
  {outcome : Except ClientError Bytes} {before after : List Deed} {deed : Deed}

/-- The owner is asked right after the first reply that the payload is missing. -/
theorem exists_of_send (h : Getting format settings deeds move) {owner : WindowId}
    (hmove : move = .send owner) :
    ∃ past deed, deeds = past ++ [deed] ∧ deed.isMissing = true ∧
      past.any Deed.isMissing = false ∧ deed.owner? = some owner := by
  cases h with
  | start => cases hmove
  | @asked past room reply _ => exact ⟨past, _, rfl, Move.of_onReply_eq_send hmove⟩
  | @sent past window answer _ => cases answer <;> cases hmove

/-- A get begins with an attempt in the first buffer. -/
theorem exists_first (h : Getting format settings deeds (.stop outcome)) :
    ∃ reply rest, deeds = .asked (.get format settings.initialBufferSize) reply :: rest := by
  have hleads : Leads format settings (.ask settings.initialBufferSize) (.stop outcome) deeds := by
    cases hdeeds : deeds with
    | nil =>
        subst hdeeds
        exact False.elim (h.ne_nil rfl)
    | cons deed rest =>
        cases h.made (hdeeds.trans (List.nil_append _).symm) with
        | asked reply hbefore => exact congrArg (Request.get format) (hbefore.room_eq rfl)
        | sent answer hbefore =>
            obtain ⟨past, missing, hnil, -⟩ := hbefore.exists_of_send rfl
            simp at hnil
  exact hleads.of_ask

/-- What follows a reply that a payload does not fit. -/
theorem leads_of_overflow (h : Getting format settings deeds (.stop outcome))
    (hsplit : deeds = before ++ deed :: after) {total : UInt32}
    (hoverflow : deed.overflow? = some total) :
    Leads format settings (if (totals before).length + 1 = settings.attempts then
      .stop (.error (.unavailable format)) else .ask total) (.stop outcome) after := by
  cases h.made hsplit with
  | asked reply _ hleads => rwa [Move.onReply_of_overflow hoverflow] at hleads
  | sent => cases hoverflow

/-- What follows a payload. -/
theorem leads_of_payload (h : Getting format settings deeds (.stop outcome))
    (hsplit : deeds = before ++ deed :: after) {payload : Bytes}
    (hpayload : deed.payload? = some payload) :
    Leads format settings (.stop (.ok payload)) (.stop outcome) after := by
  cases h.made hsplit with
  | asked reply _ hleads => rwa [Move.onReply_of_payload hpayload] at hleads
  | sent => cases hpayload

/-- What follows a reply that a payload is missing. -/
theorem leads_of_missing (h : Getting format settings deeds (.stop outcome))
    (hsplit : deeds = before ++ deed :: after) (hmissing : deed.isMissing = true) :
    Leads format settings (Move.onMissing format before deed.owner?) (.stop outcome) after := by
  cases h.made hsplit with
  | asked reply _ hleads => rwa [Move.onReply_of_missing hmissing] at hleads
  | sent => cases hmissing

/-- The last deed is one after which the get ends. -/
theorem exists_last (h : Getting format settings deeds (.stop outcome)) :
    ∃ before deed, deeds = before ++ [deed] ∧ Made format settings before [] (.stop outcome) deed := by
  rcases List.eq_nil_or_concat deeds with hnil | ⟨before, deed, hlast⟩
  · exact False.elim (h.ne_nil hnil)
  · rw [List.concat_eq_append] at hlast
    exact ⟨before, deed, hlast, h.made hlast⟩

/-- The last deed of a get that ends with a payload is to get that. -/
theorem exists_payload {payload : Bytes} (h : Getting format settings deeds (.stop (.ok payload))) :
    ∃ before deed, deeds = before ++ [deed] ∧ deed.payload? = some payload := by
  obtain ⟨before, deed, hdeeds, hmade⟩ := h.exists_last
  refine ⟨before, deed, hdeeds, ?_⟩
  cases hmade with
  | asked reply _ hend => exact Move.payload_of_onReply hend
  | sent answer _ hend =>
      obtain ⟨error, -, hnone⟩ := Move.of_onAnswer_eq_stop hend
      cases hnone

/-- The last deed of a get without data is to hear that the payload is missing, or that the owner is
no window. -/
theorem exists_missing (h : Getting format settings deeds (.stop (.error (.noData format)))) :
    ∃ before deed, deeds = before ++ [deed] ∧ (deed.isMissing = true ∨ ∃ owner window,
      deed = .sent owner (.renderFormat format) (some settings.renderTimeout)
        (.error (.invalidWindow window))) := by
  obtain ⟨before, deed, hdeeds, hmade⟩ := h.exists_last
  refine ⟨before, deed, hdeeds, ?_⟩
  cases hmade with
  | asked reply _ hend => exact .inl (Move.isMissing_of_onReply hend)
  | @sent owner answer _ hend =>
      obtain ⟨error, rfl, herror⟩ := Move.of_onAnswer_eq_stop hend
      cases error with
      | invalidWindow window => exact .inr ⟨owner, window, rfl⟩
      | timeout | hung => cases herror

end Getting

namespace Acting

/-- What came of a get: what was asked of the store and of windows meanwhile, and the result. -/
structure Attempted (format : Format) (client : Client) (deeds : List Deed)
    (result : Except ClientError Data) : Prop where
  /-- The client only asks for the payload and sends requests to render it. -/
  kinds : ∀ deed ∈ deeds, (∃ room reply, deed = .asked (.get format room) reply) ∨
    ∃ owner answer,
      deed = .sent owner (.renderFormat format) (some client.settings.renderTimeout) answer
  gets : deeds.countP Deed.isAsked ≤ client.settings.attempts + 1
  requests : deeds.countP Deed.isSent ≤ 1
  /-- The first attempt is always made, and it has the room chosen. -/
  first : ∃ reply rest,
    deeds = .asked (.get format client.settings.initialBufferSize) reply :: rest
  /-- An attempt has the room that was reported last, and the first ones the room chosen. -/
  room : ∀ before request reply after, deeds = before ++ .asked request reply :: after →
    request =
      .get format ((totals before).getLast?.getD client.settings.initialBufferSize)
  /-- The client gives up after so many replies that the payload does not fit, and then only. -/
  unavailable : result = .error (.unavailable format) ↔
    (totals deeds).length = client.settings.attempts
  overflow : ∀ before deed after, deeds = before ++ deed :: after → deed.overflow?.isSome = true →
    (after = [] ↔ (totals before).length + 1 = client.settings.attempts)
  /-- After any other such reply there is an attempt with the room that the payload needs. -/
  again : ∀ before deed after total, deeds = before ++ deed :: after →
    deed.overflow? = some total → (totals before).length + 1 ≠ client.settings.attempts →
    ∃ reply rest, after = .asked (.get format total) reply :: rest
  /-- A payload is the end, and there are no data without one. -/
  payload : ∀ before deed after payload, deeds = before ++ deed :: after →
    deed.payload? = some payload → after = [] ∧ result = decoded client.graphics format payload
  data : ∀ data, result = .ok data → ∃ before deed payload, deeds = before ++ [deed] ∧
    deed.payload? = some payload
  /-- A missing payload is the end, except that the owner is asked the first time. -/
  missing : ∀ before deed after, deeds = before ++ deed :: after → deed.isMissing = true →
    before.any Deed.isMissing = true ∨ deed.owner? = none →
    after = [] ∧ result = .error (.noData format)
  request : ∀ before deed after owner, deeds = before ++ deed :: after → deed.isMissing = true →
    before.any Deed.isMissing = false → deed.owner? = some owner →
    ∃ answer rest, after =
      .sent owner (.renderFormat format) (some client.settings.renderTimeout) answer :: rest
  /-- The owner is asked then only. -/
  requested : ∀ before owner message limit answer after,
    deeds = before ++ .sent owner message limit answer :: after →
    ∃ past deed, before = past ++ [deed] ∧ deed.isMissing = true ∧
      past.any Deed.isMissing = false ∧ deed.owner? = some owner
  /-- When the owner has answered, the payload is asked for again with the same room. -/
  answered : ∀ before owner message limit answer after,
    deeds = before ++ .sent owner message limit (.ok answer) :: after →
    ∃ reply rest, after = .asked (.get format (client.settings.room before)) reply :: rest
  /-- Without an answer from the owner, and without a reply from the store, the get fails. -/
  unanswered : ∀ before owner message limit error after,
    deeds = before ++ .sent owner message limit (.error error) :: after →
    after = [] ∧ result = .error (error.unrendered format owner)
  failed : ∀ before request reply after cause, deeds = before ++ .asked request reply :: after →
    Ask.taken Reply.data? reply = .error cause → after = [] ∧ result = .error (.ofStore cause)
  /-- There are no data only if the payload was missing in the end, or the owner is no window. -/
  noData : result = .error (.noData format) → ∃ before deed, deeds = before ++ [deed] ∧
    (deed.isMissing = true ∨ ∃ owner window,
      deed = .sent owner (.renderFormat format) (some client.settings.renderTimeout)
        (.error (.invalidWindow window)))

variable {format : Format} {client : Client} {deeds : List Deed}

/-- A payload that cannot be decoded is an error of its own. -/
theorem bind_decoded_eq_error_iff {outcome : Except ClientError Bytes} {error : ClientError}
    (herror : ∀ cause, error ≠ .payload format cause) :
    outcome.bind (decoded client.graphics format) = .error error ↔ outcome = .error error := by
  cases outcome with
  | error =>
      exact ⟨fun h => congrArg Except.error (Except.error.inj h),
        fun h => congrArg Except.error (Except.error.inj h)⟩
  | ok payload =>
      constructor
      · intro h
        have hdecoded : decoded client.graphics format payload = .error error := h
        unfold decoded at hdecoded
        cases hdecode : Data.decode client.graphics format payload with
        | error cause =>
            rw [hdecode] at hdecoded
            exact False.elim (herror cause (Except.error.inj hdecoded).symm)
        | ok =>
            rw [hdecode] at hdecoded
            cases hdecoded
      · intro h
        cases h

section

variable {outcome : Except ClientError Bytes}
  (h : Getting format client.settings deeds (.stop outcome)) {before after : List Deed}
  {deed : Deed} (hsplit : deeds = before ++ deed :: after)

include h hsplit

/-- A reply that the payload does not fit is the end if it is the last one that is put up with. -/
theorem eq_nil_iff_of_overflow (hsome : deed.overflow?.isSome = true) :
    after = [] ↔ (totals before).length + 1 = client.settings.attempts := by
  obtain ⟨total, htotal⟩ := Option.isSome_iff_exists.1 hsome
  have hleads := h.leads_of_overflow hsplit htotal
  split at hleads
  · rename_i hlast
    exact ⟨fun _ => hlast, fun _ => hleads.of_stop.1⟩
  · rename_i hearly
    obtain ⟨reply, rest, rfl⟩ := hleads.of_ask
    constructor
    · intro hnil
      cases hnil
    · intro hlast
      exact False.elim (hearly hlast)

theorem exists_again_of_overflow {total : UInt32} (htotal : deed.overflow? = some total)
    (hearly : (totals before).length + 1 ≠ client.settings.attempts) :
    ∃ reply rest, after = .asked (.get format total) reply :: rest := by
  have hleads := h.leads_of_overflow hsplit htotal
  rw [if_neg hearly] at hleads
  exact hleads.of_ask

/-- The payload that was got is the one that is decoded. -/
theorem eq_decoded_of_payload {payload : Bytes} (hpayload : deed.payload? = some payload) :
    after = [] ∧ outcome.bind (decoded client.graphics format) =
      decoded client.graphics format payload := by
  obtain ⟨rfl, hend⟩ := (h.leads_of_payload hsplit hpayload).of_stop
  cases hend
  exact ⟨rfl, rfl⟩

theorem eq_noData_of_missing (hmissing : deed.isMissing = true)
    (hlast : before.any Deed.isMissing = true ∨ deed.owner? = none) :
    after = [] ∧ outcome = .error (.noData format) := by
  have hleads := h.leads_of_missing hsplit hmissing
  have hstop : Move.onMissing format before deed.owner? = .stop (.error (.noData format)) := by
    rcases hlast with hseen | hnobody
    · exact Move.onMissing_of_seen format hseen _
    · rw [hnobody]
      rfl
  rw [hstop] at hleads
  obtain ⟨hnil, hend⟩ := hleads.of_stop
  cases hend
  exact ⟨hnil, rfl⟩

theorem exists_request_of_missing (hmissing : deed.isMissing = true)
    (hfirst : before.any Deed.isMissing = false) {owner : WindowId}
    (howner : deed.owner? = some owner) :
    ∃ answer rest, after =
      .sent owner (.renderFormat format) (some client.settings.renderTimeout) answer :: rest := by
  have hleads := h.leads_of_missing hsplit hmissing
  have hsend : Move.onMissing format before (some owner) = .send owner := if_neg (by simp [hfirst])
  rw [howner, hsend] at hleads
  exact hleads.of_send

end

section

variable {outcome : Except ClientError Bytes}
  (h : Getting format client.settings deeds (.stop outcome)) {before after : List Deed}

include h

/-- Nothing is done but to ask the store for the payload and to tell the owner to put it. -/
theorem kinds_of_getting {deed : Deed} (hdeed : deed ∈ deeds) :
    (∃ room reply, deed = .asked (.get format room) reply) ∨
      ∃ owner answer, deed =
        .sent owner (.renderFormat format) (some client.settings.renderTimeout) answer := by
  obtain ⟨before, after, hsplit⟩ := List.append_of_mem hdeed
  cases h.made hsplit with
  | asked reply => exact .inl ⟨_, reply, rfl⟩
  | sent answer => exact .inr ⟨_, answer, rfl⟩

/-- Each attempt has the room that the latest reply asked for. -/
theorem eq_get_room {request : Request} {reply : Except StoreError Reply}
    (hsplit : deeds = before ++ .asked request reply :: after) :
    request = .get format (client.settings.room before) := by
  cases h.made hsplit with
  | asked _ hbefore => exact congrArg (Request.get format) (hbefore.room_eq rfl)

/-- After a reply of the store that is no answer, the get fails. -/
theorem eq_ofStore_of_failed {request : Request} {reply : Except StoreError Reply}
    {cause : StoreError} (hsplit : deeds = before ++ .asked request reply :: after)
    (hfailed : Ask.taken Reply.data? reply = .error cause) :
    after = [] ∧ outcome = .error (.ofStore cause) := by
  cases h.made hsplit with
  | asked _ _ hleads =>
      rw [hfailed] at hleads
      obtain ⟨hnil, hend⟩ := hleads.of_stop
      cases hend
      exact ⟨hnil, rfl⟩

variable {owner : WindowId} {message : Message} {limit : Option Duration}

/-- The owner is told only after a first reply that the payload is missing, which named it. -/
theorem exists_missing_of_sent {answer : Except SendError Bool}
    (hsplit : deeds = before ++ .sent owner message limit answer :: after) :
    ∃ past deed, before = past ++ [deed] ∧ deed.isMissing = true ∧
      past.any Deed.isMissing = false ∧ deed.owner? = some owner := by
  cases h.made hsplit with
  | sent _ hbefore => exact hbefore.exists_of_send rfl

/-- When the owner has answered, the payload is asked for again with the same room. -/
theorem exists_again_of_sent {flag : Bool}
    (hsplit : deeds = before ++ .sent owner message limit (.ok flag) :: after) :
    ∃ reply rest, after = .asked (.get format (client.settings.room before)) reply :: rest := by
  cases h.made hsplit with
  | sent _ _ hleads => exact hleads.of_ask

/-- Without an answer from the owner, the get fails. -/
theorem eq_unrendered_of_sent {error : SendError}
    (hsplit : deeds = before ++ .sent owner message limit (.error error) :: after) :
    after = [] ∧ outcome = .error (error.unrendered format owner) := by
  cases h.made hsplit with
  | sent _ _ hleads =>
      obtain ⟨hnil, hend⟩ := hleads.of_stop
      cases hend
      exact ⟨hnil, rfl⟩

end

theorem attempted_of_getting {outcome : Except ClientError Bytes}
    (h : Getting format client.settings deeds (.stop outcome)) :
    Attempted format client deeds (outcome.bind (decoded client.graphics format)) where
  kinds := fun _ hdeed => kinds_of_getting h hdeed
  gets := h.tally.1
  requests := h.tally.2.1
  first := h.exists_first
  room := fun _ _ _ _ hsplit => eq_get_room h hsplit
  unavailable := (bind_decoded_eq_error_iff fun _ heq => by cases heq).trans h.tally.2.2
  overflow := fun _ _ _ hsplit hsome => eq_nil_iff_of_overflow h hsplit hsome
  again := fun _ _ _ _ hsplit htotal hearly => exists_again_of_overflow h hsplit htotal hearly
  payload := fun _ _ _ _ hsplit hpayload => eq_decoded_of_payload h hsplit hpayload
  data := by
    intro data hresult
    cases outcome with
    | error => cases hresult
    | ok payload =>
        obtain ⟨before, deed, hdeeds, hpayload⟩ := h.exists_payload
        exact ⟨before, deed, payload, hdeeds, hpayload⟩
  missing := by
    intro before deed after hsplit hmissing hlast
    obtain ⟨hnil, rfl⟩ := eq_noData_of_missing h hsplit hmissing hlast
    exact ⟨hnil, rfl⟩
  request := fun _ _ _ _ hsplit hmissing hfirst howner =>
    exists_request_of_missing h hsplit hmissing hfirst howner
  requested := fun _ _ _ _ _ _ hsplit => exists_missing_of_sent h hsplit
  answered := fun _ _ _ _ _ _ hsplit => exists_again_of_sent h hsplit
  unanswered := by
    intro before owner message limit error after hsplit
    obtain ⟨hnil, rfl⟩ := eq_unrendered_of_sent h hsplit
    exact ⟨hnil, rfl⟩
  failed := by
    intro before request reply after cause hsplit hfailed
    obtain ⟨hnil, rfl⟩ := eq_ofStore_of_failed h hsplit hfailed
    exact ⟨hnil, rfl⟩
  noData := by
    intro hresult
    obtain rfl := (bind_decoded_eq_error_iff fun _ heq => by cases heq).1 hresult
    exact h.exists_missing

/-- A payload that outgrows every room is given up at the last reply that is put up with. -/
theorem Attempted.eq_unavailable {result : Except ClientError Data}
    (h : Attempted format client deeds result)
    (houtgrows : ∀ deed ∈ deeds, deed.overflow?.isSome = true) :
    deeds.length = client.settings.attempts ∧ result = .error (.unavailable format) := by
  have htotals : (totals deeds).length = deeds.length :=
    List.filterMap_length_eq_length.2 houtgrows
  obtain ⟨reply, rest, hfirst⟩ := h.first
  obtain ⟨before, deed, hlast⟩ : ∃ before deed, deeds = before ++ [deed] := by
    rcases List.eq_nil_or_concat deeds with hnil | ⟨before, deed, hlast⟩
    · rw [hfirst] at hnil
      cases hnil
    · exact ⟨before, deed, hlast.trans (List.concat_eq_append ..)⟩
  have hdeed : deed.overflow?.isSome = true := houtgrows deed (by simp [hlast])
  have hattempts := (h.overflow before deed [] hlast hdeed).1 rfl
  have hlength : (totals deeds).length = client.settings.attempts := by
    obtain ⟨total, htotal⟩ := Option.isSome_iff_exists.1 hdeed
    rw [hlast, totals_append, htotal, List.length_append]
    exact hattempts
  exact ⟨htotals.symm.trans hlength, h.unavailable.2 hlength⟩

/-- Whatever the store replies and however windows answer, a get of a format that the client does
not derive ends, and it comes to this. -/
theorem get_attempts (hsource : client.sources.source? format = none)
    (hlogging : client.logging = false) :
    (get format).run.Always (fun result _ deeds => Attempted format client deeds result)
      client [] := by
  refine (always_get hsource hlogging).mono fun result later deeds hget => ?_
  obtain ⟨outcome, hgetting, rfl⟩ := hget
  exact attempted_of_getting hgetting

/-- A reply that a payload of a size does not fit. -/
def outgrown (total : UInt32) : Except StoreError Reply := .ok (.data ⟨.overflow, [], total, none⟩)

/-- A payload that has grown whenever the client asks for it is given up at the third reply. -/
theorem growing_payload_given_up :
    let format : Format := ⟨11⟩
    let client := Client.fresh .standard .empty false
    client.sources.source? format = none ∧ client.logging = false ∧
      Attempted format client
        [.asked (.get format 1024) (outgrown 2000), .asked (.get format 2000) (outgrown 2100),
          .asked (.get format 2100) (outgrown 2200)]
        (.error (.unavailable format)) := by
  intro format client
  have hsource : client.sources.source? format = none := by decide
  have hlogging : client.logging = false := rfl
  have hget := get_attempts hsource hlogging
  exact ⟨hsource, hlogging, hget (outgrown 2000) (outgrown 2100) (outgrown 2200)⟩

end Acting

end Pasteboard
