import Pasteboard.Proofs.Text.Utf8

/-!
# Broken parts of UTF-8

Where no character stands, a broken part is as long as it can be while some character still starts
that way, and one byte long if none does: `Utf8.Broken`. A byte string falls into characters and
broken parts in one way only, `Utf8.cut_unique`, which is how `Utf8.pieces` reads it,
`Utf8.Cut.pieces_eq`.
-/

namespace Pasteboard.Utf8

/-- Whether the bytes of some character start like this. -/
def Begins (bytes : Bytes) : Prop := ∃ c, bytes <+: encodeChar c

/-- A broken part in front of `rest`. -/
structure Broken (part rest : Bytes) : Prop where
  ne_nil : part ≠ []
  /-- No character stands there. -/
  no_char : ∀ c, ¬ encodeChar c <+: part ++ rest
  /-- It is the start of a character, or a single byte. -/
  start : Begins part ∨ part.length = 1
  /-- Nothing longer is the start of a character. -/
  longest : ∀ longer, longer <+: part ++ rest → part.length < longer.length → ¬ Begins longer

section

variable {lead b : UInt8} {more rest tail part bytes longer : Bytes}

/-- What stands in front in the beginning of a character is a beginning of it, too. -/
theorem Begins.mono (h : Begins longer) (hfront : bytes <+: longer) : Begins bytes := by
  obtain ⟨c, hc⟩ := h
  exact ⟨c, hfront.trans hc⟩

/-- Bytes that can be completed to a character are the start of it. -/
theorem begins_of_next (h : ∃ c, next lead (more ++ rest) = (some c, [])) :
    Begins (lead :: more) := by
  obtain ⟨c, hnext⟩ := h
  have hencode : lead :: (more ++ rest) = encodeChar c ++ [] := encodeChar_of_next hnext
  rw [List.append_nil] at hencode
  exact ⟨c, rest, hencode⟩

/-- Bytes that nothing completes to a character are not the start of one. -/
theorem not_begins (h : ∀ rest, (next lead (more ++ rest)).1 = none) : ¬ Begins (lead :: more) := by
  rintro ⟨c, rest, hencode⟩
  obtain ⟨first, others, hchar, hnext⟩ := next_encodeChar c []
  rw [← hencode, List.cons_append, List.cons.injEq] at hchar
  obtain ⟨rfl, rfl⟩ := hchar
  have hnone := h (rest ++ [])
  rw [← List.append_assoc, hnext] at hnone
  cases hnone

/-- Where no character is read, none stands. -/
theorem no_char_of_next (h : (next lead rest).1 = none) (c : Char) :
    ¬ encodeChar c <+: lead :: rest := by
  rintro ⟨rest, hchar⟩
  obtain ⟨first, others, hencode, hread⟩ := next_encodeChar c rest
  rw [hencode, List.cons_append, List.cons.injEq] at hchar
  obtain ⟨rfl, rfl⟩ := hchar
  rw [hread] at h
  cases h

/-- A part is broken if the bytes end behind it. -/
theorem broken_at_end (hnext : next lead more = (none, []))
    (hstart : Begins (lead :: more) ∨ more = []) : Broken (lead :: more) [] where
  ne_nil := List.cons_ne_nil _ _
  no_char := by
    rw [List.append_nil]
    exact no_char_of_next (congrArg Prod.fst hnext)
  start := hstart.imp_right fun hmore => by rw [hmore, List.length_singleton]
  longest := by
    intro longer hlonger hlength
    have hle := hlonger.length_le
    rw [List.append_nil] at hle
    omega

/-- A part is broken if its reader turns down the byte behind it, whatever follows. -/
theorem broken_in_front (hnext : ∀ rest, next lead (more ++ b :: rest) = (none, b :: rest))
    (hstart : Begins (lead :: more) ∨ more = []) (rest : Bytes) :
    Broken (lead :: more) (b :: rest) where
  ne_nil := List.cons_ne_nil _ _
  no_char := no_char_of_next (congrArg Prod.fst (hnext rest))
  start := hstart.imp_right fun hmore => by rw [hmore, List.length_singleton]
  longest := by
    -- Something longer that starts a character has the byte behind the part in it.
    intro longer hlonger hlength hbegins
    have hone : lead :: (more ++ [b]) <+: lead :: more ++ b :: rest := ⟨rest, by simp⟩
    have hlength : (lead :: (more ++ [b])).length ≤ longer.length := by
      simpa using Nat.succ_le_of_lt hlength
    have hmore : ¬ Begins (lead :: (more ++ [b])) := by
      refine not_begins fun rest => ?_
      rw [List.append_assoc, List.singleton_append, hnext]
    exact hmore (hbegins.mono (List.prefix_of_prefix_length_le hone hlonger hlength))

/-- So a broken part stands where the bytes end too early, -/
theorem exists_broken_at_end (hend : next lead more = (none, []))
    (hstart : Begins (lead :: more) ∨ more = []) (h : next lead more = (none, tail)) :
    ∃ part, lead :: more = part ++ tail ∧ Broken part tail := by
  obtain rfl : [] = tail := congrArg Prod.snd (hend.symm.trans h)
  exact ⟨lead :: more, (List.append_nil _).symm, broken_at_end hend hstart⟩

/-- and where a byte is turned down. -/
theorem exists_broken_in_front (hstop : ∀ rest, next lead (more ++ b :: rest) = (none, b :: rest))
    (hstart : Begins (lead :: more) ∨ more = [])
    (h : next lead (more ++ b :: rest) = (none, tail)) :
    ∃ part, lead :: (more ++ b :: rest) = part ++ tail ∧ Broken part tail := by
  obtain rfl : b :: rest = tail := congrArg Prod.snd ((hstop rest).symm.trans h)
  exact ⟨lead :: more, rfl, broken_in_front hstop hstart rest⟩

/-! ### Where reading stops -/

/-- First bytes in this range announce one byte more. -/
theorem next_eq_next2 (hlow : 0xc2 ≤ lead.toNat) (hhigh : lead.toNat < 0xe0) :
    next lead = next2 lead := by
  funext rest
  simp only [next, UInt8.lt_iff_toNat_lt, UInt8.reduceToNat]
  rw [if_neg (by omega), if_neg (by omega), if_pos hhigh]

/-- Those in the next range announce two. -/
theorem next_eq_next3 (hlow : 0xe0 ≤ lead.toNat) (hhigh : lead.toNat < 0xf0) :
    next lead = next3 lead := by
  funext rest
  simp only [next, UInt8.lt_iff_toNat_lt, UInt8.reduceToNat]
  rw [if_neg (by omega), if_neg (by omega), if_neg (by omega), if_pos hhigh]

/-- Those in the last range announce three. -/
theorem next_eq_next4 (hlow : 0xf0 ≤ lead.toNat) (hhigh : lead.toNat < 0xf5) :
    next lead = next4 lead := by
  funext rest
  simp only [next, UInt8.lt_iff_toNat_lt, UInt8.reduceToNat]
  rw [if_neg (by omega), if_neg (by omega), if_neg (by omega), if_neg (by omega), if_pos hhigh]

/-- If the second byte does not fit, only the first one is broken. -/
theorem next3_of_not_second (hb : isSecond lead b = false) (rest : Bytes) :
    next3 lead (b :: rest) = (none, b :: rest) := by
  cases rest <;> simp [next3, hb]

/-- So it is where three bytes are announced. -/
theorem next4_of_not_second (hb : isSecond lead b = false) (rest : Bytes) :
    next4 lead (b :: rest) = (none, b :: rest) := by
  match rest with
  | [] | [_] | _ :: _ :: _ => simp [next4, hb]

/-- If the third byte does not fit, the first two are broken. -/
theorem next4_of_not_third {third : UInt8} (hb : isSecond lead b = true)
    (hthird : isTail third = false) (rest : Bytes) :
    next4 lead (b :: third :: rest) = (none, third :: rest) := by
  cases rest <;> simp [next4, hb, hthird]

/-- A broken part behind the first byte of a character of two bytes. -/
theorem broken_of_next2 (hlow : 0xc2 ≤ lead.toNat) (hhigh : lead.toNat < 0xe0)
    (h : next lead rest = (none, tail)) :
    ∃ part, lead :: rest = part ++ tail ∧ Broken part tail := by
  have hnext := next_eq_next2 hlow hhigh
  match rest with
  | [] => exact exists_broken_at_end (by rw [hnext, next2]) (.inr rfl) h
  | b :: rest =>
      by_cases hb : isTail b = true
      · simp [hnext, next2, hb] at h
      · have hstop (rest : Bytes) : next lead ([] ++ b :: rest) = (none, b :: rest) := by
          simp [hnext, next2, hb]
        exact exists_broken_in_front hstop (.inr rfl) h

/-- Behind the first byte of a character of three bytes, a second byte that may follow it still
starts a character. -/
theorem begins_two_of_three (hlow : 0xe0 ≤ lead.toNat) (hhigh : lead.toNat < 0xf0)
    (hb : isSecond lead b = true) : Begins [lead, b] := by
  have hread : ∃ c, next lead ([b] ++ [0x80]) = (some c, []) := by
    simp [next_eq_next3 hlow hhigh, next3, hb, isTail]
  exact begins_of_next hread

/-- A broken part behind the first byte of a character of three bytes. -/
theorem broken_of_next3 (hlow : 0xe0 ≤ lead.toNat) (hhigh : lead.toNat < 0xf0)
    (h : next lead rest = (none, tail)) :
    ∃ part, lead :: rest = part ++ tail ∧ Broken part tail := by
  have hnext := next_eq_next3 hlow hhigh
  match rest with
  | [] => exact exists_broken_at_end (by rw [hnext, next3]) (.inr rfl) h
  | b :: rest =>
      by_cases hb : isSecond lead b = true
      · have htwo := begins_two_of_three hlow hhigh hb
        cases rest with
        | nil => exact exists_broken_at_end (by simp [hnext, next3, hb]) (.inl htwo) h
        | cons third rest =>
            by_cases hthird : isTail third = true
            · simp [hnext, next3, hb, hthird] at h
            · have hstop (rest : Bytes) :
                  next lead ([b] ++ third :: rest) = (none, third :: rest) := by
                simp [hnext, next3, hb, hthird]
              exact exists_broken_in_front hstop (.inl htwo) h
      · rw [Bool.not_eq_true] at hb
        have hstop (rest : Bytes) : next lead ([] ++ b :: rest) = (none, b :: rest) := by
          rw [hnext, List.nil_append, next3_of_not_second hb]
        exact exists_broken_in_front hstop (.inr rfl) h

/-- Behind the first byte of a character of four bytes, so does a second byte, -/
theorem begins_two_of_four (hlow : 0xf0 ≤ lead.toNat) (hhigh : lead.toNat < 0xf5)
    (hb : isSecond lead b = true) : Begins [lead, b] := by
  have hread : ∃ c, next lead ([b] ++ [0x80, 0x80]) = (some c, []) := by
    simp [next_eq_next4 hlow hhigh, next4, hb, isTail]
  exact begins_of_next hread

/-- and a third one. -/
theorem begins_three_of_four {third : UInt8} (hlow : 0xf0 ≤ lead.toNat) (hhigh : lead.toNat < 0xf5)
    (hb : isSecond lead b = true) (hthird : isTail third = true) : Begins [lead, b, third] := by
  have hlast : isTail 0x80 = true := rfl
  have hread : ∃ c, next lead ([b, third] ++ [0x80]) = (some c, []) := by
    simp only [next_eq_next4 hlow hhigh, List.cons_append, List.nil_append, next4, hb, hthird,
      hlast, Bool.not_true, Bool.false_eq_true, if_false, if_true]
    exact ⟨_, rfl⟩
  exact begins_of_next hread

/-- A broken part behind the first byte of a character of four bytes. -/
theorem broken_of_next4 (hlow : 0xf0 ≤ lead.toNat) (hhigh : lead.toNat < 0xf5)
    (h : next lead rest = (none, tail)) :
    ∃ part, lead :: rest = part ++ tail ∧ Broken part tail := by
  have hnext := next_eq_next4 hlow hhigh
  match rest with
  | [] => exact exists_broken_at_end (by rw [hnext, next4]) (.inr rfl) h
  | b :: rest =>
      by_cases hb : isSecond lead b = true
      · have htwo := begins_two_of_four hlow hhigh hb
        cases rest with
        | nil => exact exists_broken_at_end (by simp [hnext, next4, hb]) (.inl htwo) h
        | cons third rest =>
            by_cases hthird : isTail third = true
            · have hthree := begins_three_of_four hlow hhigh hb hthird
              cases rest with
              | nil =>
                  exact exists_broken_at_end (by simp [hnext, next4, hb, hthird]) (.inl hthree) h
              | cons fourth rest =>
                  by_cases hfourth : isTail fourth = true
                  · simp [hnext, next4, hb, hthird, hfourth] at h
                  · have hstop (rest : Bytes) :
                        next lead ([b, third] ++ fourth :: rest) = (none, fourth :: rest) := by
                      simp [hnext, next4, hb, hthird, hfourth]
                    exact exists_broken_in_front hstop (.inl hthree) h
            · rw [Bool.not_eq_true] at hthird
              have hstop (rest : Bytes) :
                  next lead ([b] ++ third :: rest) = (none, third :: rest) := by
                rw [hnext, List.singleton_append, next4_of_not_third hb hthird]
              exact exists_broken_in_front hstop (.inl htwo) h
      · rw [Bool.not_eq_true] at hb
        have hstop (rest : Bytes) : next lead ([] ++ b :: rest) = (none, b :: rest) := by
          rw [hnext, List.nil_append, next4_of_not_second hb]
        exact exists_broken_in_front hstop (.inr rfl) h

/-- What is not read as a character is read as a broken part. -/
theorem broken_of_next (h : next lead rest = (none, tail)) :
    ∃ part, lead :: rest = part ++ tail ∧ Broken part tail := by
  -- No character starts with such a byte.
  have hlead (hread : ∀ rest, next lead rest = (none, rest)) :
      ∃ part, lead :: rest = part ++ tail ∧ Broken part tail := by
    cases rest with
    | nil => exact exists_broken_at_end (hread []) (.inr rfl) h
    | cons b rest =>
        have hstop (rest : Bytes) : next lead ([] ++ b :: rest) = (none, b :: rest) :=
          hread (b :: rest)
        exact exists_broken_in_front hstop (.inr rfl) h
  -- The first byte says how long a character would be.
  by_cases hascii : lead.toNat < 0x80
  · simp [next, UInt8.lt_iff_toNat_lt, hascii] at h
  by_cases hone : lead.toNat < 0xc2
  · refine hlead fun rest => ?_
    simp only [next, UInt8.lt_iff_toNat_lt, UInt8.reduceToNat]
    rw [if_neg hascii, if_pos hone]
  by_cases htwo : lead.toNat < 0xe0
  · exact broken_of_next2 (Nat.le_of_not_lt hone) htwo h
  by_cases hthree : lead.toNat < 0xf0
  · exact broken_of_next3 (Nat.le_of_not_lt htwo) hthree h
  by_cases hfour : lead.toNat < 0xf5
  · exact broken_of_next4 (Nat.le_of_not_lt hthree) hfour h
  · refine hlead fun rest => ?_
    simp only [next, UInt8.lt_iff_toNat_lt, UInt8.reduceToNat]
    rw [if_neg hascii, if_neg hone, if_neg htwo, if_neg hthree, if_neg hfour]

end

/-! ### The one way to cut a byte string -/

section

variable {part part' rest rest' bytes : Bytes}

/-- No other broken part of the same bytes is longer. -/
theorem Broken.length_le (h : Broken part rest) (h' : Broken part' rest')
    (heq : part ++ rest = part' ++ rest') : part'.length ≤ part.length := by
  refine Nat.le_of_not_lt fun hlt => ?_
  have hlonger : part' <+: part ++ rest := ⟨rest', heq.symm⟩
  have hbegins : ¬ Begins part' := h.longest part' hlonger hlt
  have hone : part'.length = 1 := h'.start.resolve_left hbegins
  have hpos : 0 < part.length := List.length_pos_iff.2 h.ne_nil
  omega

/-- Only one broken part can stand at the front of a byte string. -/
theorem Broken.unique (h : Broken part rest) (h' : Broken part' rest')
    (heq : part ++ rest = part' ++ rest') : part = part' ∧ rest = rest' :=
  List.append_inj heq (Nat.le_antisymm (h'.length_le h heq.symm) (h.length_le h' heq))

/-- A broken part is read as one. -/
theorem Broken.pieces_append (h : Broken part rest) :
    pieces (part ++ rest) = none :: pieces rest := by
  cases part with
  | nil => exact absurd rfl h.ne_nil
  | cons lead more =>
      rw [List.cons_append, pieces_cons]
      cases hread : next lead (more ++ rest) with
      | mk found tail =>
          cases found with
          | some c =>
              have hchar := encodeChar_of_next hread
              exact absurd ⟨tail, hchar.symm⟩ (h.no_char c)
          | none =>
              obtain ⟨part', heq, hbroken⟩ := broken_of_next hread
              obtain ⟨-, rfl⟩ := h.unique hbroken heq
              rfl

/-- A part of a byte string. -/
inductive Part where
  | char (c : Char)
  | broken (bytes : Bytes)

/-- The character of a part. -/
def Part.char? : Part → Option Char
  | char c => some c
  | broken _ => none

/-- The bytes of a part, those of the replacement character if it is broken. -/
def Part.mended : Part → Bytes
  | char c => encodeChar c
  | broken _ => encodeChar '\uFFFD'

/-- How a byte string falls into characters and broken parts. -/
inductive Cut : Bytes → List Part → Prop
  | nil : Cut [] []
  | char {rest : Bytes} {parts : List Part} (c : Char) :
      Cut rest parts → Cut (encodeChar c ++ rest) (.char c :: parts)
  | broken {part rest : Bytes} {parts : List Part} :
      Broken part rest → Cut rest parts → Cut (part ++ rest) (.broken part :: parts)

variable {parts others : List Part}

/-- A byte string is read part by part. -/
theorem Cut.pieces_eq (h : Cut bytes parts) : pieces bytes = parts.map Part.char? := by
  induction h with
  | nil => simp [pieces, piecesAfter]
  | char c _ ih => rw [pieces_encodeChar_append, ih, List.map_cons, Part.char?]
  | broken hbroken _ ih => rw [hbroken.pieces_append, ih, List.map_cons, Part.char?]

/-- Every byte string can be cut. -/
theorem exists_cut (bytes : Bytes) : ∃ parts, Cut bytes parts := by
  match bytes with
  | [] => exact ⟨[], .nil⟩
  | lead :: rest =>
      cases hread : next lead rest with
      | mk found tail =>
          have hle : tail.length ≤ rest.length := by
            have hnext := next_length_le lead rest
            rwa [hread] at hnext
          obtain ⟨parts, hparts⟩ := exists_cut tail
          cases found with
          | some c =>
              rw [encodeChar_of_next hread]
              exact ⟨_, .char c hparts⟩
          | none =>
              obtain ⟨part, heq, hbroken⟩ := broken_of_next hread
              rw [heq]
              exact ⟨_, .broken hbroken hparts⟩
termination_by bytes.length
decreasing_by
  rw [List.length_cons]
  exact Nat.lt_succ_of_le hle

/-- It can be cut in one way only: what is read at its front tells which part stands there. -/
theorem Cut.unique (h : Cut bytes parts) (h' : Cut bytes others) : parts = others := by
  -- The other cut is of a byte string that is only equal to this one, hence the equations.
  induction h generalizing others with
  | nil =>
      generalize hbytes : ([] : Bytes) = bytes at h'
      have hread := h'.pieces_eq
      cases h' with
      | nil => rfl
      | char | broken => simp [← hbytes, pieces, piecesAfter] at hread
  | @char rest parts c _ ih =>
      generalize hbytes : encodeChar c ++ rest = bytes at h'
      have hread := h'.pieces_eq
      rw [← hbytes, pieces_encodeChar_append] at hread
      cases h' with
      | nil => cases hread
      | broken => cases hread
      | char c' hrest =>
          obtain ⟨rfl, -⟩ : c = c' ∧ _ := by simpa [Part.char?] using hread
          rw [ih (List.append_cancel_left hbytes ▸ hrest)]
  | @broken part rest parts hbroken _ ih =>
      generalize hbytes : part ++ rest = bytes at h'
      have hread := h'.pieces_eq
      rw [← hbytes, hbroken.pieces_append] at hread
      cases h' with
      | nil => cases hread
      | char => cases hread
      | broken hbroken' hrest =>
          obtain ⟨rfl, rfl⟩ := hbroken.unique hbroken' hbytes
          rw [ih hrest]

end

end Pasteboard.Utf8
