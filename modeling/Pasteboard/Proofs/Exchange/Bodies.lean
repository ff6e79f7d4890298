import Pasteboard.Exchange.Reply
import Pasteboard.Proofs.Exchange.Fields

/-!
# Bodies of requests and replies

One case for each kind of request and reply says that its fields take the bytes that it is written
as, `Request.takes_encode` and `Reply.takes_encode`, and one case for each opcode says what the
bytes spell that are accepted, `Request.accepts_body` and `Reply.accepts_body`. So a reply is
decoded from its body, and so is a request, unless it counts the null format: that is written as if
all formats were to be counted.
-/

namespace Pasteboard

open Fields

namespace Request

/-- The body says what the request is. -/
def Faithful (request : Request) : Prop := request ≠ countFormats (some Format.null)

/-- Byte strings are short enough for their counts. -/
def Countable : Request → Prop
  | put _ data => data.length < 4294967296
  | registerFormat name => (Utf8.encode name.toList).length < 4294967296
  | _ => True

/-- A short body has short byte strings in it. -/
theorem countable_of_length_encode {request : Request}
    (hlength : request.encode.length < 4294967296) : request.Countable := by
  cases request with
  | put format data =>
      simp only [encode, Bytes.counted, List.length_cons, List.length_append] at hlength
      simp only [Countable]
      omega
  | registerFormat name =>
      simp only [encode, Bytes.ofText, Bytes.counted, List.length_cons, List.length_append]
        at hlength
      simp only [Countable]
      omega
  | _ => trivial

/-- What the body of a request is understood as. -/
def understood : Request → Request
  | countFormats filter => countFormats (filter.filter (· != Format.null))
  | request => request

/-- Only a count of the null format is understood as something else. -/
theorem understood_of_faithful {request : Request} (hfaithful : request.Faithful) :
    request.understood = request := by
  cases request with
  | countFormats filter =>
      cases filter with
      | none => rfl
      | some format =>
          have hne : format ≠ Format.null := fun hnull => hfaithful (hnull ▸ rfl)
          simp [understood, hne]
  | _ => rfl

/-- Behind the opcode stand the fields that it announces. -/
theorem takes_of_fields {opcode : UInt8} {bytes : Bytes} {request : Request}
    (h : (fields opcode).Takes bytes request) :
    (byte >>= fields).Takes (opcode :: bytes) request :=
  (takes_byte opcode).bind h

/-- A request is taken from its body. -/
theorem takes_encode {request : Request} (hcount : request.Countable) :
    (byte >>= fields).Takes request.encode request.understood := by
  cases request with
  | openSession requestor =>
      exact takes_of_fields ((takes_window requestor).followed (takes_pure _))
  | closeSession | listFormats | info | listeners => exact takes_of_fields (takes_pure _)
  | claimOwnership owner => exact takes_of_fields ((takes_window owner).followed (takes_pure _))
  | put format data =>
      exact takes_of_fields
        ((takes_format format).bind ((takes_bytes hcount).followed (takes_pure _)))
  | get format bufferLen =>
      exact takes_of_fields
        ((takes_format format).bind ((takes_word bufferLen).followed (takes_pure _)))
  | enumerateFormats previous =>
      exact takes_of_fields ((takes_format previous).followed (takes_pure _))
  | countFormats filter =>
      refine takes_of_fields ((takes_format (filter.getD Format.null)).followed ?_)
      cases filter <;> exact takes_pure _
  | setViewer viewer previous =>
      exact takes_of_fields
        ((takes_window viewer).bind ((takes_window previous).followed (takes_pure _)))
  | releaseOwner owner =>
      exact takes_of_fields ((takes_requiredWindow owner).followed (takes_pure _))
  | addListener window | removeListener window =>
      exact takes_of_fields ((takes_requiredWindow window).followed (takes_pure _))
  | registerFormat name => exact takes_of_fields ((takes_text hcount).followed (takes_pure _))
  | formatName format => exact takes_of_fields ((takes_format format).followed (takes_pure _))

/-- A faithful request is decoded from its body. -/
theorem decode_encode_of_countable {request : Request} (hcount : request.Countable)
    (hfaithful : request.Faithful) : decode request.encode = .ok request := by
  have hrun := (takes_encode hcount).run
  rwa [understood_of_faithful hfaithful] at hrun

/-- A faithful request with a short body is decoded from it. -/
theorem decode_encode {request : Request} (hfaithful : request.Faithful)
    (hlength : request.encode.length < 4294967296) : decode request.encode = .ok request :=
  decode_encode_of_countable (countable_of_length_encode hlength) hfaithful

/-- The bytes are those that the request is written as. -/
def Spells (request : Request) (bytes : Bytes) : Prop :=
  request.encode = bytes ∧ request.Countable

/-- The fields behind an opcode spell a request together with it. -/
theorem accepts_fields (opcode : UInt8) :
    (fields opcode).Accepts fun request taken => request.Spells (opcode :: taken) := by
  unfold fields
  refine accepts_ite (fun h => ?openSession) fun _ => accepts_ite (fun h => ?closeSession) fun _ =>
    accepts_ite (fun h => ?claimOwnership) fun _ => accepts_ite (fun h => ?put) fun _ =>
    accepts_ite (fun h => ?get) fun _ => accepts_ite (fun h => ?enumerateFormats) fun _ =>
    accepts_ite (fun h => ?countFormats) fun _ => accepts_ite (fun h => ?listFormats) fun _ =>
    accepts_ite (fun h => ?info) fun _ => accepts_ite (fun h => ?setViewer) fun _ =>
    accepts_ite (fun h => ?releaseOwner) fun _ => accepts_ite (fun h => ?addListener) fun _ =>
    accepts_ite (fun h => ?removeListener) fun _ => accepts_ite (fun h => ?listeners) fun _ =>
    accepts_ite (fun h => ?registerFormat) fun _ => accepts_ite (fun h => ?formatName) fun _ =>
    accepts_throw _ _
  all_goals subst h
  case openSession | claimOwnership =>
    refine (accepts_window.mono fun window taken htaken => ?_).map
    exact ⟨by rw [htaken]; rfl, trivial⟩
  case closeSession | listFormats | info | listeners => exact accepts_pure ⟨rfl, trivial⟩
  case put =>
    refine accepts_format.bind fun format first hfirst => ?_
    refine (accepts_bytes.mono fun data second hsecond => ?_).map
    exact ⟨by rw [hfirst, hsecond.1]; rfl, hsecond.2⟩
  case get =>
    refine accepts_format.bind fun format first hfirst => ?_
    refine (accepts_word.mono fun bufferLen second hsecond => ?_).map
    exact ⟨by rw [hfirst, hsecond]; rfl, trivial⟩
  case enumerateFormats | formatName =>
    refine (accepts_format.mono fun format taken htaken => ?_).map
    exact ⟨by rw [htaken]; rfl, trivial⟩
  case countFormats =>
    refine (accepts_format.mono fun format taken htaken => ?_).map
    refine ⟨?_, trivial⟩
    rw [htaken]
    by_cases hnull : format = Format.null
    · rw [hnull]
      rfl
    · simp [encode, Option.filter, hnull]
  case setViewer =>
    refine accepts_window.bind fun viewer first hfirst => ?_
    refine (accepts_window.mono fun previous second hsecond => ?_).map
    exact ⟨by rw [hfirst, hsecond]; rfl, trivial⟩
  case releaseOwner | addListener | removeListener =>
    refine (accepts_requiredWindow.mono fun window taken htaken => ?_).map
    exact ⟨by rw [htaken]; rfl, trivial⟩
  case registerFormat =>
    refine (accepts_text.mono fun name taken htaken => ?_).map
    exact ⟨by rw [htaken.1]; rfl, htaken.2⟩

/-- A body that is accepted spells the request. -/
theorem accepts_body : (byte >>= fields).Accepts Spells := by
  refine accepts_byte.bind fun opcode first hfirst => ?_
  rw [hfirst]
  exact accepts_fields opcode

end Request

/-- A status is found by its code. -/
theorem Status.ofCode?_code (status : Status) : ofCode? status.code = some status := by
  cases status <;> rfl

/-- A status has one code only. -/
theorem Status.code_of_ofCode? {code : UInt8} {status : Status} (h : ofCode? code = some status) :
    code = status.code := by
  unfold ofCode? at h
  repeat' split at h
  all_goals
    cases h
    try assumption

namespace Reply

/-- Byte strings and lists are short enough for their counts. -/
def Countable : Reply → Prop
  | data reply => reply.data.length < 4294967296
  | formats values => values.length < 4294967296
  | windows values => values.length < 4294967296
  | name (some value) => (Utf8.encode value.toList).length < 4294967296
  | _ => True

/-- A list of words is at most as long as its bytes. -/
theorem length_lt_of_ofWords {values : List UInt32}
    (h : (Bytes.ofWords values).length < 4294967296) : values.length < 4294967296 := by
  rw [Bytes.ofWords, List.length_append, length_flatMap_ofU32] at h
  omega

/-- A short body has short byte strings and lists in it. -/
theorem countable_of_length_encode {reply : Reply}
    (hlength : reply.encode.length < 4294967296) : reply.Countable := by
  cases reply with
  | data reply =>
      simp only [encode, Bytes.counted, List.length_cons, List.length_append] at hlength
      simp only [Countable]
      omega
  | formats values =>
      rw [encode, List.length_cons] at hlength
      rw [Countable, ← List.length_map Format.id]
      exact length_lt_of_ofWords (Nat.lt_of_succ_lt hlength)
  | windows values =>
      rw [encode, List.length_cons] at hlength
      rw [Countable, ← List.length_map WindowId.raw]
      exact length_lt_of_ofWords (Nat.lt_of_succ_lt hlength)
  | name value =>
      cases value with
      | none => trivial
      | some text =>
          simp only [encode, Bytes.ofText, Bytes.counted, List.length_cons, List.length_append]
            at hlength
          simp only [Countable]
          omega
  | _ => trivial

/-- The status of a get is one byte. -/
theorem takes_getStatus (status : GetStatus) : getStatus.Takes [status.code] status := by
  refine (takes_byte status.code).followed ?_
  cases status <;> exact takes_pure _

/-- Behind the opcode stand the fields that it announces. -/
theorem takes_of_fields {opcode : UInt8} {bytes : Bytes} {reply : Reply}
    (h : (fields opcode).Takes bytes reply) :
    (byte >>= fields).Takes (opcode :: bytes) reply :=
  (takes_byte opcode).bind h

/-- Formats are their numbers. -/
theorem map_mk_map_id (values : List Format) : (values.map Format.id).map Format.mk = values := by
  rw [List.map_map]
  exact List.map_id values

/-- No window has the null number, so none is left out of a list that was written. -/
theorem filterMap_ofRaw?_map_raw (values : List WindowId) :
    (values.map WindowId.raw).filterMap WindowId.ofRaw? = values := by
  rw [List.filterMap_map]
  have hsome : WindowId.ofRaw? ∘ WindowId.raw = some :=
    funext fun window => WindowId.ofRaw?_rawOf (some window)
  rw [hsome, List.filterMap_some]

/-- A reply is taken from its body. -/
theorem takes_encode {reply : Reply} (hcount : reply.Countable) :
    (byte >>= fields).Takes reply.encode reply := by
  cases reply with
  | done => exact takes_of_fields (takes_pure _)
  | opened owner => exact takes_of_fields ((takes_window owner).followed (takes_pure _))
  | closed reply =>
      exact takes_of_fields
        ((takes_window reply.viewer).bind ((takes_window reply.owner).followed (takes_pure _)))
  | data reply =>
      exact takes_of_fields ((takes_getStatus reply.status).bind ((takes_word reply.total).bind
        ((takes_window reply.owner).bind ((takes_bytes hcount).followed (takes_pure _)))))
  | format value => exact takes_of_fields ((takes_format value).followed (takes_pure _))
  | count value => exact takes_of_fields ((takes_word value).followed (takes_pure _))
  | formats values =>
      rw [Countable, ← List.length_map Format.id] at hcount
      refine takes_of_fields ((takes_words hcount).followed ?_)
      rw [map_mk_map_id]
      exact takes_pure _
  | info value =>
      exact takes_of_fields ((takes_window value.owner).bind ((takes_window value.window).bind
        ((takes_window value.viewer).bind ((takes_word value.sequence).followed (takes_pure _)))))
  | viewer reply =>
      cases reply with
      | set oldViewer owner =>
          exact takes_of_fields ((takes_byte 0).bind
            ((takes_window oldViewer).bind ((takes_window owner).followed (takes_pure _))))
      | pending head =>
          exact takes_of_fields
            ((takes_byte 1).bind ((takes_requiredWindow head).followed (takes_pure _)))
  | windows values =>
      rw [Countable, ← List.length_map WindowId.raw] at hcount
      refine takes_of_fields ((takes_words hcount).followed ?_)
      rw [filterMap_ofRaw?_map_raw]
      exact takes_pure _
  | name value =>
      cases value with
      | none => exact takes_of_fields ((takes_byte 0).followed (takes_pure _))
      | some text =>
          exact takes_of_fields
            ((takes_byte 1).bind ((takes_text hcount).followed (takes_pure _)))
  | error status =>
      refine takes_of_fields ((takes_byte status.code).followed ?_)
      rw [Status.ofCode?_code]
      exact takes_pure _

/-- A reply is decoded from its body. -/
theorem decode_encode {reply : Reply} (hlength : reply.encode.length < 4294967296) :
    decode reply.encode = .ok reply :=
  (takes_encode (countable_of_length_encode hlength)).run

/-- The bytes are those that the reply is written as, or it is spelled otherwise: with another flag
in front of a name, or with null windows in a list. -/
inductive Spells : Reply → Bytes → Prop where
  | written {reply : Reply} : reply.Countable → Spells reply reply.encode
  | flagged {flag : UInt8} {value : String} : flag ≠ 0 → flag ≠ 1 →
      (Utf8.encode value.toList).length < 4294967296 →
      Spells (name (some value)) (0x8a :: flag :: Bytes.ofText value)
  | gapped {values : List UInt32} : 0 ∈ values → values.length < 4294967296 →
      Spells (windows (values.filterMap WindowId.ofRaw?)) (0x89 :: Bytes.ofWords values)

/-- A status of a get is spelled by one byte only. -/
theorem accepts_getStatus : getStatus.Accepts fun status taken => taken = [status.code] := by
  unfold getStatus
  refine accepts_byte.bind fun code first hfirst => ?_
  refine accepts_ite (fun h => ?_) fun _ => accepts_ite (fun h => ?_) fun _ =>
    accepts_ite (fun h => ?_) fun _ => accepts_throw _ _
  all_goals
    subst h
    exact accepts_pure (by rw [hfirst]; rfl)

/-- The fields of a get stand in this order: status, size, owner, data. -/
theorem accepts_getFields :
    getFields.Accepts fun reply taken => reply.Spells (0x83 :: taken) := by
  refine accepts_getStatus.bind fun status first hfirst => ?_
  refine accepts_word.bind fun total second hsecond => ?_
  refine accepts_window.bind fun owner third hthird => ?_
  refine (accepts_bytes.mono fun data fourth hfourth => ?_).map
  rw [hfirst, hsecond, hthird, hfourth.1]
  exact .written hfourth.2

/-- The overview names owner, window and viewer, and the number of changes. -/
theorem accepts_infoFields :
    infoFields.Accepts fun reply taken => reply.Spells (0x87 :: taken) := by
  refine accepts_window.bind fun owner first hfirst => ?_
  refine accepts_window.bind fun window second hsecond => ?_
  refine accepts_window.bind fun viewer third hthird => ?_
  refine (accepts_word.mono fun sequence fourth hfourth => ?_).map
  rw [hfirst, hsecond, hthird, hfourth]
  exact .written trivial

/-- A byte tells whether the viewer is set or it is up to the head. -/
theorem accepts_viewerFields :
    viewerFields.Accepts fun reply taken => reply.Spells (0x88 :: taken) := by
  unfold viewerFields
  refine accepts_byte.bind fun code first hfirst => ?_
  refine accepts_ite (fun h => ?set) fun _ => accepts_ite (fun h => ?pending) fun _ =>
    accepts_throw _ _
  all_goals subst h
  case set =>
    refine accepts_window.bind fun oldViewer second hsecond => ?_
    refine (accepts_window.mono fun owner third hthird => ?_).map
    rw [hfirst, hsecond, hthird]
    exact .written trivial
  case pending =>
    refine (accepts_requiredWindow.mono fun head second hsecond => ?_).map
    rw [hfirst, hsecond]
    exact .written trivial

/-- A byte tells whether there is a name; any but a null byte does. -/
theorem accepts_nameFields :
    nameFields.Accepts fun reply taken => reply.Spells (0x8a :: taken) := by
  unfold nameFields
  refine accepts_byte.bind fun flag first hfirst => ?_
  refine accepts_ite (fun h => ?_) fun hflag => ?_
  · subst h
    refine accepts_pure ?_
    rw [hfirst]
    exact .written trivial
  · refine (accepts_text.mono fun value second hsecond => ?_).map
    rw [hfirst, hsecond.1]
    by_cases hone : flag = 1
    · subst hone
      exact .written hsecond.2
    · exact .flagged hflag hone hsecond.2

/-- A refusal has one of the known codes. -/
theorem accepts_errorFields :
    errorFields.Accepts fun reply taken => reply.Spells (0xff :: taken) := by
  refine accepts_byte.bind fun code first hfirst => ?_
  cases hstatus : Status.ofCode? code with
  | none => exact accepts_throw _ _
  | some status =>
      refine accepts_pure ?_
      rw [hfirst, Status.code_of_ofCode? hstatus]
      exact .written trivial

/-- Without null windows, a list of words is one of windows. -/
theorem map_raw_filterMap_ofRaw? {values : List UInt32} (h : 0 ∉ values) :
    (values.filterMap WindowId.ofRaw?).map WindowId.raw = values := by
  induction values with
  | nil => rfl
  | cons value values ih =>
      rw [List.mem_cons, not_or] at h
      have hvalue : ¬ value = 0 := fun hnull => h.1 hnull.symm
      rw [List.filterMap_cons, WindowId.ofRaw?, dif_neg hvalue, List.map_cons, ih h.2]

/-- The words of a list spell formats. -/
theorem accepts_formatsFields : (do return formats ((← words).map Format.mk)).Accepts
    fun reply taken => reply.Spells (0x86 :: taken) := by
  refine (accepts_words.mono fun values taken htaken => ?_).map
  have hvalues : (values.map Format.mk).map Format.id = values := by
    rw [List.map_map]
    exact List.map_id values
  have hcount : (formats (values.map Format.mk)).Countable := by
    rw [Countable, List.length_map]
    exact htaken.2
  have hwritten := Spells.written hcount
  rw [encode, hvalues] at hwritten
  rwa [htaken.1]

/-- The words of a list spell windows, with gaps where there are null windows. -/
theorem accepts_windowsFields : (do return windows ((← words).filterMap WindowId.ofRaw?)).Accepts
    fun reply taken => reply.Spells (0x89 :: taken) := by
  refine (accepts_words.mono fun values taken htaken => ?_).map
  rw [htaken.1]
  by_cases hnull : 0 ∈ values
  · exact .gapped hnull htaken.2
  · have hcount : (windows (values.filterMap WindowId.ofRaw?)).Countable :=
      Nat.lt_of_le_of_lt (List.length_filterMap_le ..) htaken.2
    have hwritten := Spells.written hcount
    rwa [encode, map_raw_filterMap_ofRaw? hnull] at hwritten

/-- The fields behind an opcode spell a reply together with it. -/
theorem accepts_fields (opcode : UInt8) :
    (fields opcode).Accepts fun reply taken => reply.Spells (opcode :: taken) := by
  unfold fields
  refine accepts_ite (fun h => ?done) fun _ => accepts_ite (fun h => ?opened) fun _ =>
    accepts_ite (fun h => ?closed) fun _ => accepts_ite (fun h => ?data) fun _ =>
    accepts_ite (fun h => ?format) fun _ => accepts_ite (fun h => ?count) fun _ =>
    accepts_ite (fun h => ?formats) fun _ => accepts_ite (fun h => ?info) fun _ =>
    accepts_ite (fun h => ?viewer) fun _ => accepts_ite (fun h => ?windows) fun _ =>
    accepts_ite (fun h => ?name) fun _ => accepts_ite (fun h => ?error) fun _ =>
    accepts_throw _ _
  all_goals subst h
  case done => exact accepts_pure (.written trivial)
  case opened =>
    refine (accepts_window.mono fun owner taken htaken => ?_).map
    rw [htaken]
    exact .written trivial
  case closed =>
    refine accepts_window.bind fun viewer first hfirst => ?_
    refine (accepts_window.mono fun owner second hsecond => ?_).map
    rw [hfirst, hsecond]
    exact .written trivial
  case data => exact accepts_getFields
  case format =>
    refine (accepts_format.mono fun format taken htaken => ?_).map
    rw [htaken]
    exact .written trivial
  case count =>
    refine (accepts_word.mono fun count taken htaken => ?_).map
    rw [htaken]
    exact .written trivial
  case formats => exact accepts_formatsFields
  case info => exact accepts_infoFields
  case viewer => exact accepts_viewerFields
  case windows => exact accepts_windowsFields
  case name => exact accepts_nameFields
  case error => exact accepts_errorFields

/-- A body that is accepted spells the reply. -/
theorem accepts_body : (byte >>= fields).Accepts Spells := by
  refine accepts_byte.bind fun opcode first hfirst => ?_
  rw [hfirst]
  exact accepts_fields opcode

end Reply

end Pasteboard
