import Pasteboard.Exchange.Fields
import Pasteboard.Proofs.Text.Utf8

/-!
# Reading what was written

`Fields.Takes` says that a reader takes certain bytes off the front and gives a value, whatever
follows them, and that it misses something as long as they are not all there. Every field takes the
bytes that it is written as; byte strings, texts and lists must be shorter than 2^32, which is what
their counts hold. `Fields.Accepts` is about the other direction: whatever bytes a reader takes,
they spell the value in a certain way.
-/

namespace Pasteboard

namespace Fields

variable {α β : Type}

/-- The reader takes the bytes off the front and gives the value. It says so if they are cut off. -/
structure Takes (fields : Fields α) (bytes : Bytes) (value : α) : Prop where
  reads : ∀ rest, StateT.run fields (bytes ++ rest) = .ok (value, rest)
  misses : ∀ cut, cut <+: bytes → cut.length < bytes.length →
    StateT.run fields cut = .error .truncated

/-- A body that is read as a whole has nothing left over. -/
theorem Takes.run {fields : Fields α} {bytes : Bytes} {value : α} (h : fields.Takes bytes value) :
    Fields.run fields bytes = .ok value := by
  have hall := h.reads []
  rw [List.append_nil] at hall
  rw [Fields.run, hall]

/-- A body that is cut off is missing something. -/
theorem Takes.run_cut {fields : Fields α} {bytes cut : Bytes} {value : α}
    (h : fields.Takes bytes value) (hcut : cut <+: bytes) (hlength : cut.length < bytes.length) :
    Fields.run fields cut = .error .truncated := by
  rw [Fields.run, h.misses cut hcut hlength]

/-- What follows a body is left over. -/
theorem Takes.run_append {fields : Fields α} {bytes rest : Bytes} {value : α}
    (h : fields.Takes bytes value) (hrest : rest ≠ []) :
    Fields.run fields (bytes ++ rest) = .error (.trailingBytes rest.length) := by
  rw [Fields.run, h.reads]
  cases rest with
  | nil => exact False.elim (hrest rfl)
  | cons => rfl

/-- A value that is not read takes no bytes. -/
theorem takes_pure (value : α) : (pure value : Fields α).Takes [] value :=
  ⟨fun _ => rfl, fun _ _ hlength => False.elim (Nat.not_lt_zero _ hlength)⟩

/-- One reader after another takes the bytes of both. -/
theorem Takes.bind {fields : Fields α} {next : α → Fields β} {first second : Bytes} {value : α}
    {result : β} (h : fields.Takes first value) (hnext : (next value).Takes second result) :
    (fields >>= next).Takes (first ++ second) result where
  reads rest := by
    rw [StateT.run_bind, List.append_assoc, h.reads]
    exact hnext.reads rest
  misses cut hcut hlength := by
    rw [StateT.run_bind]
    by_cases hfirst : cut.length < first.length
    · have hwithin : cut <+: first :=
        List.prefix_of_prefix_length_le hcut (List.prefix_append first second) (Nat.le_of_lt hfirst)
      rw [h.misses cut hwithin hfirst]
      rfl
    · -- The first reader has all its bytes, and the second one misses some.
      obtain ⟨tail, rfl⟩ := List.prefix_of_prefix_length_le (List.prefix_append first second) hcut
        (Nat.le_of_not_lt hfirst)
      rw [List.prefix_append_right_inj] at hcut
      rw [List.length_append, List.length_append] at hlength
      rw [h.reads]
      exact hnext.misses tail hcut (Nat.lt_of_add_lt_add_left hlength)

/-- What a reader makes of its value without reading on. -/
theorem Takes.followed {fields : Fields α} {next : α → Fields β} {bytes : Bytes} {value : α}
    {result : β} (h : fields.Takes bytes value) (hnext : (next value).Takes [] result) :
    (fields >>= next).Takes bytes result := by
  have hboth := h.bind hnext
  rwa [List.append_nil] at hboth

/-- A reader of its own takes what it finds in front of anything, if it finds nothing in less. -/
theorem takes_ofOption {read? : Bytes → Option (α × Bytes)} {bytes : Bytes} {value : α}
    (h : ∀ rest, read? (bytes ++ rest) = some (value, rest))
    (hcut : ∀ cut : Bytes, cut.length < bytes.length → read? cut = none) :
    (ofOption read?).Takes bytes value where
  reads rest := by
    show ofOption read? (bytes ++ rest) = _
    rw [ofOption, h rest]
  misses cut _ hlength := by
    show ofOption read? cut = _
    rw [ofOption, hcut cut hlength]

/-- A byte is one byte. -/
theorem takes_byte (b : UInt8) : byte.Takes [b] b := by
  refine takes_ofOption (fun _ => rfl) fun cut hlength => ?_
  rw [List.length_singleton, Nat.lt_one_iff, List.length_eq_zero_iff] at hlength
  rw [hlength]

/-- A word is written as four bytes. -/
theorem takes_word (value : UInt32) : word.Takes (Bytes.ofU32 value) value := by
  refine takes_ofOption (fun rest => Bytes.u32?_ofU32 value rest) fun cut hlength => ?_
  rwa [Bytes.length_ofU32, ← Bytes.u32?_eq_none_iff] at hlength

/-- A format is written as a word. -/
theorem takes_format (value : Format) : format.Takes (Bytes.ofFormat value) value :=
  (takes_word value.id).followed (takes_pure value)

/-- A window is written as a word, which is null if there is none. -/
theorem takes_window (value : Option WindowId) : window.Takes (Bytes.ofWindow value) value := by
  refine (takes_word (WindowId.rawOf value)).followed ?_
  rw [WindowId.ofRaw?_rawOf]
  exact takes_pure value

/-- Where a window is required it is written in the same way. -/
theorem takes_requiredWindow (value : WindowId) :
    requiredWindow.Takes (Bytes.ofWindow (some value)) value :=
  (takes_window (some value)).followed (takes_pure value)

/-- As many bytes are taken as are asked for. -/
theorem takes_take? (data : Bytes) : (ofOption (take? data.length)).Takes data data := by
  refine takes_ofOption (fun rest => ?_) fun cut hlength => if_pos hlength
  rw [take?, if_neg, List.take_left, List.drop_left]
  rw [List.length_append]
  omega

/-- A byte string is written behind its length. -/
theorem takes_bytes {data : Bytes} (hlength : data.length < 4294967296) :
    bytes.Takes (Bytes.counted data) data := by
  refine (takes_word _).bind ?_
  rw [UInt32.toNat_ofNat_of_lt' hlength]
  exact takes_take? data

/-- A text is written as a byte string. -/
theorem takes_text {value : String}
    (hlength : (Utf8.encode value.toList).length < 4294967296) :
    text.Takes (Bytes.ofText value) value := by
  refine (takes_bytes hlength).followed ?_
  rw [Utf8.decode?_encode]
  show (pure (String.ofList value.toList) : Fields String).Takes [] value
  rw [String.ofList_toList]
  exact takes_pure value

/-- Words that are written one after another are read again. -/
theorem words?_flatMap (values : List UInt32) (rest : Bytes) :
    words? values.length (values.flatMap Bytes.ofU32 ++ rest) = some (values, rest) := by
  induction values with
  | nil => rfl
  | cons value values ih =>
      rw [List.flatMap_cons, List.append_assoc, List.length_cons, words?, Bytes.u32?_ofU32]
      simp only [Option.bind_eq_bind, Option.bind_some, ih]
      rfl

/-- Each word has four bytes. -/
theorem length_flatMap_ofU32 (values : List UInt32) :
    (values.flatMap Bytes.ofU32).length = 4 * values.length := by
  induction values with
  | nil => rfl
  | cons value values ih =>
      rw [List.flatMap_cons, List.length_append, Bytes.length_ofU32, ih, List.length_cons]
      omega

/-- As many words as are asked for, if there are bytes for them. -/
def wordsOf (count : Nat) : Fields (List UInt32) := do
  if (← get).length / 4 < count then throw .truncated
  ofOption (words? count)

/-- A list that is announced longer than the bytes allow is cut off, without reading it. -/
theorem run_wordsOf (count : Nat) (body : Bytes) :
    StateT.run (wordsOf count) body =
      if body.length / 4 < count then .error .truncated
      else ofOption (words? count) body := by
  simp only [wordsOf, StateT.run, bind, Except.bind, StateT.bind, get, getThe, MonadStateOf.get,
    StateT.get, pure, Except.pure]
  split <;> rfl

/-- A list is written behind its length. -/
theorem takes_words {values : List UInt32} (hlength : values.length < 4294967296) :
    words.Takes (Bytes.ofWords values) values := by
  refine (takes_word _).bind ?_
  rw [UInt32.toNat_ofNat_of_lt' hlength]
  show (wordsOf values.length).Takes _ _
  constructor
  · intro rest
    have hroom : ¬ (values.flatMap Bytes.ofU32 ++ rest).length / 4 < values.length := by
      rw [List.length_append, length_flatMap_ofU32]
      omega
    rw [run_wordsOf, if_neg hroom, ofOption, words?_flatMap]
  · intro cut _ hcut
    rw [length_flatMap_ofU32] at hcut
    rw [run_wordsOf, if_pos (by omega)]

/-- Whatever bytes the reader takes, they spell the value. -/
def Accepts (fields : Fields α) (spells : α → Bytes → Prop) : Prop :=
  ∀ body value rest, StateT.run fields body = .ok (value, rest) →
    ∃ taken, body = taken ++ rest ∧ spells value taken

/-- A body that is read as a whole spells the value. -/
theorem Accepts.run {fields : Fields α} {spells : α → Bytes → Prop} (h : fields.Accepts spells)
    {body : Bytes} {value : α} (hrun : Fields.run fields body = .ok value) : spells value body := by
  unfold Fields.run at hrun
  cases hreading : StateT.run fields body with
  | error => rw [hreading] at hrun; cases hrun
  | ok reading =>
      obtain ⟨result, rest⟩ := reading
      rw [hreading] at hrun
      cases rest with
      | cons => cases hrun
      | nil =>
          cases hrun
          obtain ⟨taken, htaken, hspells⟩ := h body value [] hreading
          rwa [htaken, List.append_nil]

/-- What bytes spell may be said with less. -/
theorem Accepts.mono {fields : Fields α} {spells weaker : α → Bytes → Prop}
    (h : fields.Accepts spells) (hweaker : ∀ value taken, spells value taken → weaker value taken) :
    fields.Accepts weaker := by
  intro body value rest hrun
  obtain ⟨taken, htaken, hspells⟩ := h body value rest hrun
  exact ⟨taken, htaken, hweaker value taken hspells⟩

/-- A value that is not read is spelled by no bytes. -/
theorem accepts_pure {spells : α → Bytes → Prop} {value : α} (h : spells value []) :
    (pure value : Fields α).Accepts spells := by
  intro body result rest hrun
  cases hrun
  exact ⟨[], rfl, h⟩

/-- A reader that fails accepts nothing. -/
theorem accepts_throw (error : BodyError) (spells : α → Bytes → Prop) :
    (throw error : Fields α).Accepts spells := by
  intro body result rest hrun
  cases hrun

/-- One reader after another takes what both take. -/
theorem Accepts.bind {fields : Fields α} {next : α → Fields β} {spells : α → Bytes → Prop}
    {spellsBoth : β → Bytes → Prop} (h : fields.Accepts spells)
    (hnext : ∀ value first, spells value first →
      (next value).Accepts fun result second => spellsBoth result (first ++ second)) :
    (fields >>= next).Accepts spellsBoth := by
  intro body result rest hrun
  rw [StateT.run_bind] at hrun
  cases hfirst : StateT.run fields body with
  | error => rw [hfirst] at hrun; cases hrun
  | ok reading =>
      obtain ⟨value, middle⟩ := reading
      rw [hfirst] at hrun
      obtain ⟨first, rfl, hvalue⟩ := h body value middle hfirst
      obtain ⟨second, rfl, hresult⟩ := hnext value first hvalue middle result rest hrun
      exact ⟨first ++ second, (List.append_assoc first second rest).symm, hresult⟩

/-- What a reader makes of its value without reading on. -/
theorem Accepts.map {fields : Fields α} {change : α → β} {spells : β → Bytes → Prop}
    (h : fields.Accepts fun value taken => spells (change value) taken) :
    (fields >>= fun value => pure (change value)).Accepts spells := by
  refine h.bind fun value first hvalue => accepts_pure ?_
  rwa [List.append_nil]

/-- A choice of two readers accepts what the chosen one does. -/
theorem accepts_ite {condition : Prop} [Decidable condition] {fields other : Fields α}
    {spells : α → Bytes → Prop} (h : condition → fields.Accepts spells)
    (hother : ¬ condition → other.Accepts spells) :
    (if condition then fields else other).Accepts spells := by
  split
  · exact h ‹_›
  · exact hother ‹_›

/-- A reader of its own accepts what it finds. -/
theorem accepts_ofOption {read? : Bytes → Option (α × Bytes)} {spells : α → Bytes → Prop}
    (h : ∀ body value rest, read? body = some (value, rest) →
      ∃ taken, body = taken ++ rest ∧ spells value taken) :
    (ofOption read?).Accepts spells := by
  intro body value rest hrun
  replace hrun : ofOption read? body = .ok (value, rest) := hrun
  unfold ofOption at hrun
  split at hrun
  · cases hrun
    exact h body value rest ‹_›
  · cases hrun

/-- A byte spells itself. -/
theorem accepts_byte : byte.Accepts fun b taken => taken = [b] := by
  refine accepts_ofOption fun body b rest hread => ?_
  cases body with
  | nil => cases hread
  | cons => cases hread; exact ⟨[b], rfl, rfl⟩

/-- Four bytes spell a word in one way only. -/
theorem accepts_word : word.Accepts fun value taken => taken = Bytes.ofU32 value :=
  accepts_ofOption fun _ value _ hread => ⟨Bytes.ofU32 value, Bytes.eq_of_u32? hread, rfl⟩

theorem accepts_format : format.Accepts fun value taken => taken = Bytes.ofFormat value :=
  accepts_word.map

/-- A window and its absence are spelled by different words. -/
theorem accepts_window : window.Accepts fun value taken => taken = Bytes.ofWindow value := by
  refine (accepts_word.mono fun value taken htaken => ?_).map
  rw [Bytes.ofWindow, WindowId.rawOf_ofRaw?, htaken]

/-- A null word is no window, so it is not accepted. -/
theorem accepts_requiredWindow :
    requiredWindow.Accepts fun value taken => taken = Bytes.ofWindow (some value) := by
  refine accepts_window.bind fun value first hfirst => ?_
  cases value with
  | none => exact accepts_throw _ _
  | some value => exact accepts_pure (by rw [hfirst, List.append_nil])

/-- A byte string is spelled by its length and itself. -/
theorem accepts_bytes : bytes.Accepts fun data taken =>
    taken = Bytes.counted data ∧ data.length < 4294967296 := by
  refine accepts_word.bind fun count first hfirst => accepts_ofOption fun body data rest hread => ?_
  simp only [take?, Option.ite_none_left_eq_some, Option.some.injEq, Prod.mk.injEq] at hread
  obtain ⟨hroom, rfl, rfl⟩ := hread
  have hlength : (body.take count.toNat).length = count.toNat := by
    rw [List.length_take]
    omega
  refine ⟨body.take count.toNat, (List.take_append_drop ..).symm, ?_, ?_⟩
  · rw [Bytes.counted, hlength, UInt32.ofNat_toNat, hfirst]
  · rw [hlength]
    exact count.toNat_lt

/-- A text is spelled in one way only, since each character is. -/
theorem accepts_text : text.Accepts fun value taken =>
    taken = Bytes.ofText value ∧ (Utf8.encode value.toList).length < 4294967296 := by
  refine accepts_bytes.bind fun data first hfirst => ?_
  cases hdecode : Utf8.decode? data with
  | none => exact accepts_throw _ _
  | some text =>
      refine accepts_pure ?_
      rw [List.append_nil, Bytes.ofText, String.toList_ofList, Utf8.encode_of_decode? hdecode]
      exact hfirst

/-- Words that were read are what stood there. -/
theorem eq_flatMap_of_words? {count : Nat} {body rest : Bytes} {values : List UInt32}
    (h : words? count body = some (values, rest)) :
    body = values.flatMap Bytes.ofU32 ++ rest ∧ values.length = count := by
  induction count generalizing body values with
  | zero =>
      cases h
      exact ⟨rfl, rfl⟩
  | succ count ih =>
      simp only [words?, Option.bind_eq_bind, Option.bind_eq_some_iff] at h
      obtain ⟨⟨value, middle⟩, hvalue, ⟨⟨values, rest⟩, hvalues, hcons⟩⟩ := h
      cases hcons
      obtain ⟨rfl, rfl⟩ := ih hvalues
      exact ⟨by rw [Bytes.eq_of_u32? hvalue, List.flatMap_cons, List.append_assoc], rfl⟩

/-- A list that was read has as many words as were asked for. -/
theorem accepts_wordsOf (count : Nat) : (wordsOf count).Accepts fun values taken =>
    taken = values.flatMap Bytes.ofU32 ∧ values.length = count := by
  have hread : (ofOption (words? count)).Accepts fun values taken =>
      taken = values.flatMap Bytes.ofU32 ∧ values.length = count :=
    accepts_ofOption fun body values rest hread =>
      ⟨_, (eq_flatMap_of_words? hread).1, rfl, (eq_flatMap_of_words? hread).2⟩
  intro body values rest hrun
  rw [run_wordsOf] at hrun
  split at hrun
  · cases hrun
  · exact hread body values rest hrun

/-- A list is spelled by its length and its words. -/
theorem accepts_words : words.Accepts fun values taken =>
    taken = Bytes.ofWords values ∧ values.length < 4294967296 := by
  refine accepts_word.bind fun count first hfirst => ?_
  refine Accepts.mono (accepts_wordsOf count.toNat) fun values taken htaken => ?_
  obtain ⟨rfl, hlength⟩ := htaken
  rw [Bytes.ofWords, hlength, UInt32.ofNat_toNat, hfirst]
  exact ⟨rfl, count.toNat_lt⟩

end Fields

end Pasteboard
