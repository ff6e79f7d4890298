import Pasteboard.Proofs.Exchange.Bodies

/-!
# How bodies are spelled

Decoding inverts encoding, and encoding inverts decoding but for two kinds of replies that may be
spelled in several ways: see `decoding_inverts_encoding`. Bodies delimit themselves, so a body that
is cut off or followed by something is never taken for another one: see `bodies_delimit_themselves`.
-/

namespace Pasteboard

open Fields

namespace Request

/-- A request that counts the null format counts all formats. -/
theorem decode_encode_countNull :
    decode (countFormats (some Format.null)).encode = .ok (countFormats none) := by
  have hcount : (countFormats (some Format.null)).Countable := trivial
  exact (takes_encode hcount).run

theorem encode_of_decode {body : Bytes} {request : Request} (h : decode body = .ok request) :
    request.encode = body :=
  (accepts_body.run h).1

/-- Requests have opcodes in the lower half. -/
theorem encode_eq_cons (request : Request) :
    ∃ opcode rest, request.encode = opcode :: rest ∧ opcode < 0x80 := by
  cases request <;> exact ⟨_, _, rfl, by decide⟩

end Request

namespace Reply

/-- The body flags a name otherwise than by one, or lists windows among which there are null
windows. -/
def Loose (body : Bytes) : Prop :=
  (∃ flag rest, body = 0x8a :: flag :: rest ∧ flag ≠ 0 ∧ flag ≠ 1) ∨
    ∃ values, body = 0x89 :: Bytes.ofWords values ∧ values.length < 4294967296 ∧ 0 ∈ values

/-- A list of words is spelled in one way. -/
theorem ofWords_inj {values others : List UInt32} (hvalues : values.length < 4294967296)
    (hothers : others.length < 4294967296) (h : Bytes.ofWords values = Bytes.ofWords others) :
    values = others := by
  have hrun := (takes_words hvalues).run
  rw [h, (takes_words hothers).run, Except.ok.injEq] at hrun
  exact hrun.symm

theorem zero_notMem_map_raw (windows : List WindowId) : 0 ∉ windows.map WindowId.raw := by
  intro hmem
  obtain ⟨window, -, hraw⟩ := List.mem_map.1 hmem
  exact window.raw_ne_zero hraw

/-- A list of windows is not written with null windows. -/
theorem encode_windows_ne {windows : List WindowId} {values : List UInt32}
    (hcount : windows.length < 4294967296) (hvalues : values.length < 4294967296)
    (hnull : 0 ∈ values) : (Reply.windows windows).encode ≠ 0x89 :: Bytes.ofWords values := by
  intro heq
  rw [encode, List.cons.injEq] at heq
  rw [← List.length_map WindowId.raw] at hcount
  rw [← ofWords_inj hcount hvalues heq.2] at hnull
  exact zero_notMem_map_raw windows hnull

/-- What a reply is written as is not spelled otherwise. -/
theorem not_loose_encode {reply : Reply} (hcount : reply.Countable) : ¬ Loose reply.encode := by
  rintro (⟨flag, rest, hbody, hzero, hone⟩ | ⟨values, hbody, hvalues, hnull⟩)
  · cases reply with
    | name value =>
        cases value with
        | none => exact hzero (List.cons.inj (List.cons.inj hbody).2).1.symm
        | some text => exact hone (List.cons.inj (List.cons.inj hbody).2).1.symm
    | viewer reply => cases reply <;> simp [encode] at hbody
    | _ => simp [encode] at hbody
  · cases reply with
    | windows windows => exact encode_windows_ne hcount hvalues hnull hbody
    | name value => cases value <;> simp [encode] at hbody
    | viewer reply => cases reply <;> simp [encode] at hbody
    | _ => simp [encode] at hbody

theorem Spells.countable {reply : Reply} {body : Bytes} (h : reply.Spells body) :
    reply.Countable := by
  cases h with
  | written hcount => exact hcount
  | flagged _ _ hlength => exact hlength
  | gapped _ hlength => exact Nat.lt_of_le_of_lt (List.length_filterMap_le ..) hlength

/-- A body that spells a reply is the one that the reply is written as unless it is loose. -/
theorem Spells.encode_eq_iff {reply : Reply} {body : Bytes} (h : reply.Spells body) :
    reply.encode = body ↔ ¬ Loose body := by
  have hcount := h.countable
  cases h with
  | written => exact iff_of_true rfl (not_loose_encode hcount)
  | flagged hzero hone =>
      refine iff_of_false (fun heq => ?_) (not_not_intro (.inl ⟨_, _, rfl, hzero, hone⟩))
      exact hone (List.cons.inj (List.cons.inj heq).2).1.symm
  | gapped hnull hlength =>
      exact iff_of_false (encode_windows_ne hcount hlength hnull)
        (not_not_intro (.inr ⟨_, rfl, hlength, hnull⟩))

/-- Replies have opcodes in the upper half. -/
theorem encode_eq_cons (reply : Reply) :
    ∃ opcode rest, reply.encode = opcode :: rest ∧ 0x80 ≤ opcode := by
  cases reply with
  | viewer reply => cases reply <;> exact ⟨_, _, rfl, by decide⟩
  | name value => cases value <;> exact ⟨_, _, rfl, by decide⟩
  | _ => exact ⟨_, _, rfl, by decide⟩

end Reply

/-- What was encoded is decoded again, but counting the null format becomes counting all formats.
What was decoded is encoded as the same body, but a reply of a loose body is encoded otherwise, and
still decoded from that. -/
theorem decoding_inverts_encoding :
    (∀ request : Request, request.Countable → request ≠ .countFormats (some Format.null) →
      Request.decode request.encode = .ok request) ∧
    Request.decode (Request.countFormats (some Format.null)).encode = .ok (.countFormats none) ∧
    (∀ reply : Reply, reply.Countable → Reply.decode reply.encode = .ok reply) ∧
    (∀ body request, Request.decode body = .ok request → request.encode = body) ∧
    ∀ body reply, Reply.decode body = .ok reply →
      (reply.encode = body ↔ ¬ Reply.Loose body) ∧ Reply.decode reply.encode = .ok reply := by
  refine ⟨fun request hcount hfaithful => Request.decode_encode_of_countable hcount hfaithful,
    Request.decode_encode_countNull, fun reply hcount => (Reply.takes_encode hcount).run,
    fun body request hdecode => Request.encode_of_decode hdecode, fun body reply hdecode => ?_⟩
  have hspells := Reply.accepts_body.run hdecode
  exact ⟨hspells.encode_eq_iff, (Reply.takes_encode hspells.countable).run⟩

/-- A list with a null window is decoded, and encoded without it. -/
theorem null_window_left_out :
    let request := Request.put Format.text [0x68, 0x69, 0]
    let body : Bytes := [0x89, 2, 0, 0, 0, 0, 0, 0, 0, 7, 0, 0, 0]
    let reply := Reply.windows [⟨7, by decide⟩]
    request.Countable ∧ Request.decode request.encode = .ok request ∧
      Reply.decode body = .ok reply ∧ Reply.Loose body ∧ reply.encode ≠ body ∧
      Reply.decode reply.encode = .ok reply := by
  intro request body reply
  have hcount : request.Countable := (by decide : 3 < 4294967296)
  have hdecode : Reply.decode body = .ok reply := rfl
  have hloose : Reply.Loose body := .inr ⟨[0, 7], rfl, by decide, by decide⟩
  obtain ⟨hrequest, -, -, -, hreply⟩ := decoding_inverts_encoding
  obtain ⟨hiff, hagain⟩ := hreply body reply hdecode
  exact ⟨hcount, hrequest request hcount (by simp [request]), hdecode, hloose,
    fun heq => hiff.1 heq hloose, hagain⟩

/-- The body says where it ends: a decoder misses something in each body that is cut off, and finds
left over whatever follows it. -/
def Delimits {α : Type} (decode : Bytes → Except BodyError α) (body : Bytes) : Prop :=
  (∀ cut, cut <+: body → cut ≠ body → decode cut = .error .truncated) ∧
    ∀ rest, rest ≠ [] → decode (body ++ rest) = .error (.trailingBytes rest.length)

theorem Fields.Takes.delimits {α : Type} {fields : Fields α} {body : Bytes} {value : α}
    (h : fields.Takes body value) : Delimits (Fields.run fields) body := by
  refine ⟨fun cut hcut hne => h.run_cut hcut ?_, fun rest hrest => h.run_append hrest⟩
  refine Nat.lt_of_le_of_ne hcut.length_le fun hlength => hne ?_
  exact hcut.eq_of_length hlength

/-- The body of some request or reply. -/
def IsBody (body : Bytes) : Prop :=
  (∃ request : Request, request.Countable ∧ request.encode = body) ∨
    ∃ reply : Reply, reply.Countable ∧ reply.encode = body

/-- Where a whole body is understood, it is no proper beginning of a body that delimits itself. -/
theorem Delimits.eq_of_begins {α : Type} {decode : Bytes → Except BodyError α} {body other : Bytes}
    (h : Delimits decode other) {value : α} (hbody : decode body = .ok value)
    (hbegins : body <+: other) : body = other := by
  refine Classical.byContradiction fun hne => ?_
  rw [h.1 body hbegins hne] at hbody
  cases hbody

theorem not_begins_of_opcode {opcode opcode' : UInt8} {rest rest' : Bytes} (h : opcode ≠ opcode') :
    ¬ opcode :: rest <+: opcode' :: rest' :=
  fun hbegins => h (List.cons_prefix_cons.1 hbegins).1

/-- A body that is cut off is found so, and what follows a body is counted. So no body is the
beginning of another one. -/
theorem bodies_delimit_themselves :
    (∀ request : Request, request.Countable → Delimits Request.decode request.encode) ∧
    (∀ reply : Reply, reply.Countable → Delimits Reply.decode reply.encode) ∧
    ∀ body other, IsBody body → IsBody other → body <+: other → body = other := by
  have hrequests : ∀ request : Request, request.Countable →
      Delimits Request.decode request.encode :=
    fun request hcount => (Request.takes_encode hcount).delimits
  have hreplies : ∀ reply : Reply, reply.Countable → Delimits Reply.decode reply.encode :=
    fun reply hcount => (Reply.takes_encode hcount).delimits
  refine ⟨hrequests, hreplies, ?_⟩
  rintro _ _ (⟨request, hcount, rfl⟩ | ⟨reply, hcount, rfl⟩)
    (⟨request', hcount', rfl⟩ | ⟨reply', hcount', rfl⟩) hbegins
  · exact (hrequests request' hcount').eq_of_begins (Request.takes_encode hcount).run hbegins
  · obtain ⟨opcode, rest, hopcode, hlow⟩ := request.encode_eq_cons
    obtain ⟨opcode', rest', hopcode', hhigh⟩ := reply'.encode_eq_cons
    rw [hopcode, hopcode'] at hbegins
    exact False.elim
      (not_begins_of_opcode (UInt8.ne_of_lt (UInt8.lt_of_lt_of_le hlow hhigh)) hbegins)
  · obtain ⟨opcode, rest, hopcode, hhigh⟩ := reply.encode_eq_cons
    obtain ⟨opcode', rest', hopcode', hlow⟩ := request'.encode_eq_cons
    rw [hopcode, hopcode'] at hbegins
    exact False.elim
      (not_begins_of_opcode (UInt8.ne_of_lt (UInt8.lt_of_lt_of_le hlow hhigh)).symm hbegins)
  · exact (hreplies reply' hcount').eq_of_begins (Reply.takes_encode hcount).run hbegins

/-- A payload that lacks its last byte is missed, and two bytes behind a list are left over. -/
theorem cut_payload_missed :
    let request := Request.put Format.text [0x68, 0x69, 0]
    let reply := Reply.formats [Format.text]
    request.Countable ∧ Request.decode request.encode.dropLast = .error .truncated ∧
      reply.Countable ∧ Reply.decode (reply.encode ++ [0, 0]) = .error (.trailingBytes 2) ∧
      IsBody request.encode ∧ IsBody reply.encode ∧ ¬ request.encode <+: reply.encode := by
  intro request reply
  have hrequest : request.Countable := (by decide : 3 < 4294967296)
  have hreply : reply.Countable := (by decide : 1 < 4294967296)
  obtain ⟨hrequests, hreplies, hbodies⟩ := bodies_delimit_themselves
  have hcut := (hrequests request hrequest).1 _ (List.dropLast_prefix request.encode) (by decide)
  have hrest := (hreplies reply hreply).2 [0, 0] (by decide)
  have hfirst : IsBody request.encode := .inl ⟨request, hrequest, rfl⟩
  have hsecond : IsBody reply.encode := .inr ⟨reply, hreply, rfl⟩
  refine ⟨hrequest, hcut, hreply, hrest, hfirst, hsecond, fun hbegins => ?_⟩
  have hne : request.encode ≠ reply.encode := by decide
  exact hne (hbodies _ _ hfirst hsecond hbegins)

end Pasteboard
