import Pasteboard.Text.Utf8

/-!
# UTF-8 of texts

Strict decoding gives back a text that was encoded, `Utf8.decode?_encode`, and nothing but what was
encoded, `Utf8.encode_of_decode?`. What counts is a single character: `Utf8.next` reads its bytes
whatever follows them, and reads it from no other bytes.
-/

namespace Pasteboard.Utf8

section

variable {lead b : UInt8}

/-- The bytes behind the first one of a character lie in this range. -/
theorem isTail_iff : isTail b = true ↔ 0x80 ≤ b.toNat ∧ b.toNat ≤ 0xbf := by
  simp only [isTail, UInt8.le_iff_toNat_le, UInt8.reduceToNat, Bool.and_eq_true, decide_eq_true_eq]

/-- The second byte keeps out longer spellings, surrogates and numbers past the last code point. -/
theorem isSecond_iff : isSecond lead b = true ↔
    0x80 ≤ b.toNat ∧ b.toNat ≤ 0xbf ∧ (lead.toNat = 0xe0 → 0xa0 ≤ b.toNat) ∧
      (lead.toNat = 0xed → b.toNat ≤ 0x9f) ∧ (lead.toNat = 0xf0 → 0x90 ≤ b.toNat) ∧
      (lead.toNat = 0xf4 → b.toNat ≤ 0x8f) := by
  simp only [isSecond, isTail, ← UInt8.toNat_inj, UInt8.le_iff_toNat_le, UInt8.reduceToNat]
  split
  · simp only [Bool.and_eq_true, decide_eq_true_eq]
    omega
  · split
    · simp only [Bool.and_eq_true, decide_eq_true_eq]
      omega
    · split
      · simp only [Bool.and_eq_true, decide_eq_true_eq]
        omega
      · split <;> simp only [Bool.and_eq_true, decide_eq_true_eq] <;> omega

end

section

variable {n : Nat}

/-- Bytes are compared like the numbers below 256 that they stand for. -/
theorem byte_lt (h : n < 256) {b : UInt8} : UInt8.ofNat n < b ↔ n < b.toNat := by
  rw [UInt8.lt_iff_toNat_lt, UInt8.toNat_ofNat_of_lt' h]

/-- Six bits behind the mark of a continuation. -/
theorem isTail_byte (n : Nat) : isTail (UInt8.ofNat (0x80 + n % 64)) = true := by
  have hbyte : 0x80 + n % 64 < 256 := by omega
  rw [isTail_iff, UInt8.toNat_ofNat_of_lt' hbyte]
  omega

/-- A number below 0x80 is a character of one byte. -/
theorem next_of_one (h : n < 0x80) (rest : Bytes) :
    next (UInt8.ofNat n) rest = (some (Char.ofNat n), rest) := by
  have hbyte : n < 256 := by omega
  have hlead : UInt8.ofNat n < 0x80 := (byte_lt hbyte).2 h
  rw [next, if_pos hlead, UInt8.toNat_ofNat_of_lt' hbyte]

/-- The next ones up to 0x800 are spread over two bytes. -/
theorem next_of_two (hlow : 0x80 ≤ n) (hhigh : n < 0x800) (rest : Bytes) :
    next (UInt8.ofNat (0xc0 + n / 64)) (UInt8.ofNat (0x80 + n % 64) :: rest) =
      (some (Char.ofNat n), rest) := by
  have hlead : 0xc0 + n / 64 < 256 := by omega
  have htail : 0x80 + n % 64 < 256 := by omega
  have hbranch : next (UInt8.ofNat (0xc0 + n / 64)) (UInt8.ofNat (0x80 + n % 64) :: rest) =
      next2 (UInt8.ofNat (0xc0 + n / 64)) (UInt8.ofNat (0x80 + n % 64) :: rest) := by
    simp only [next, byte_lt hlead, UInt8.reduceToNat]
    rw [if_neg (by omega), if_neg (by omega), if_pos (by omega)]
  have hnumber : (0xc0 + n / 64) % 32 * 64 + (0x80 + n % 64) % 64 = n := by omega
  rw [hbranch, next2, if_pos (isTail_byte n), UInt8.toNat_ofNat_of_lt' hlead,
    UInt8.toNat_ofNat_of_lt' htail, hnumber]

/-- The next ones up to 0x10000, without the surrogates, are spread over three bytes. -/
theorem next_of_three (hlow : 0x800 ≤ n) (hhigh : n < 0x10000)
    (hvalid : n < 0xd800 ∨ 0xdfff < n) (rest : Bytes) :
    next (UInt8.ofNat (0xe0 + n / 4096))
        (UInt8.ofNat (0x80 + n / 64 % 64) :: UInt8.ofNat (0x80 + n % 64) :: rest) =
      (some (Char.ofNat n), rest) := by
  have hlead : 0xe0 + n / 4096 < 256 := by omega
  have hmiddle : 0x80 + n / 64 % 64 < 256 := by omega
  have htail : 0x80 + n % 64 < 256 := by omega
  have hsecond : isSecond (UInt8.ofNat (0xe0 + n / 4096)) (UInt8.ofNat (0x80 + n / 64 % 64)) =
      true := by
    rw [isSecond_iff, UInt8.toNat_ofNat_of_lt' hlead, UInt8.toNat_ofNat_of_lt' hmiddle]
    omega
  have hbranch : next (UInt8.ofNat (0xe0 + n / 4096))
        (UInt8.ofNat (0x80 + n / 64 % 64) :: UInt8.ofNat (0x80 + n % 64) :: rest) =
      next3 (UInt8.ofNat (0xe0 + n / 4096))
        (UInt8.ofNat (0x80 + n / 64 % 64) :: UInt8.ofNat (0x80 + n % 64) :: rest) := by
    simp only [next, byte_lt hlead, UInt8.reduceToNat]
    rw [if_neg (by omega), if_neg (by omega), if_neg (by omega), if_pos (by omega)]
  have hnumber : (0xe0 + n / 4096) % 16 * 4096 + (0x80 + n / 64 % 64) % 64 * 64
      + (0x80 + n % 64) % 64 = n := by omega
  rw [hbranch, next3, hsecond, Bool.not_true, if_neg Bool.false_ne_true, if_pos (isTail_byte n),
    UInt8.toNat_ofNat_of_lt' hlead, UInt8.toNat_ofNat_of_lt' hmiddle,
    UInt8.toNat_ofNat_of_lt' htail, hnumber]

/-- The last ones are spread over four bytes. -/
theorem next_of_four (hlow : 0x10000 ≤ n) (hhigh : n < 0x110000) (rest : Bytes) :
    next (UInt8.ofNat (0xf0 + n / 262144))
        (UInt8.ofNat (0x80 + n / 4096 % 64) :: UInt8.ofNat (0x80 + n / 64 % 64) ::
          UInt8.ofNat (0x80 + n % 64) :: rest) =
      (some (Char.ofNat n), rest) := by
  have hlead : 0xf0 + n / 262144 < 256 := by omega
  have hfirst : 0x80 + n / 4096 % 64 < 256 := by omega
  have hmiddle : 0x80 + n / 64 % 64 < 256 := by omega
  have htail : 0x80 + n % 64 < 256 := by omega
  have hsecond : isSecond (UInt8.ofNat (0xf0 + n / 262144))
      (UInt8.ofNat (0x80 + n / 4096 % 64)) = true := by
    rw [isSecond_iff, UInt8.toNat_ofNat_of_lt' hlead, UInt8.toNat_ofNat_of_lt' hfirst]
    omega
  have hbranch : next (UInt8.ofNat (0xf0 + n / 262144))
        (UInt8.ofNat (0x80 + n / 4096 % 64) :: UInt8.ofNat (0x80 + n / 64 % 64) ::
          UInt8.ofNat (0x80 + n % 64) :: rest) =
      next4 (UInt8.ofNat (0xf0 + n / 262144))
        (UInt8.ofNat (0x80 + n / 4096 % 64) :: UInt8.ofNat (0x80 + n / 64 % 64) ::
          UInt8.ofNat (0x80 + n % 64) :: rest) := by
    simp only [next, byte_lt hlead, UInt8.reduceToNat]
    rw [if_neg (by omega), if_neg (by omega), if_neg (by omega), if_neg (by omega),
      if_pos (by omega)]
  have hnumber : (0xf0 + n / 262144) % 8 * 262144 + (0x80 + n / 4096 % 64) % 64 * 4096
      + (0x80 + n / 64 % 64) % 64 * 64 + (0x80 + n % 64) % 64 = n := by omega
  rw [hbranch, next4, hsecond, isTail_byte, Bool.not_true, if_neg Bool.false_ne_true,
    if_neg Bool.false_ne_true, if_pos (isTail_byte n), UInt8.toNat_ofNat_of_lt' hlead,
    UInt8.toNat_ofNat_of_lt' hfirst, UInt8.toNat_ofNat_of_lt' hmiddle,
    UInt8.toNat_ofNat_of_lt' htail, hnumber]

end

/-- The bytes of a character are read as that character, whatever follows them. -/
theorem next_encodeChar (c : Char) (rest : Bytes) :
    ∃ lead tail, encodeChar c = lead :: tail ∧ next lead (tail ++ rest) = (some c, rest) := by
  have hvalid : c.toNat < 0xd800 ∨ 0xdfff < c.toNat ∧ c.toNat < 0x110000 := c.valid
  have hchar : some (Char.ofNat c.toNat) = some c := by rw [Char.ofNat_toNat]
  rw [← hchar]
  simp only [encodeChar]
  split
  · exact ⟨_, _, rfl, next_of_one ‹_› rest⟩
  · split
    · exact ⟨_, _, rfl, next_of_two (by omega) ‹_› rest⟩
    · split
      · exact ⟨_, _, rfl, next_of_three (by omega) ‹_› (by omega) rest⟩
      · exact ⟨_, _, rfl, next_of_four (by omega) (by omega) rest⟩

section

variable {lead b : UInt8} {c : Char} {rest tail : Bytes}

/-- A byte is the number that it stands for. -/
theorem ofNat_eq_of_toNat {n : Nat} (h : n = b.toNat) : UInt8.ofNat n = b := by
  rw [h, UInt8.ofNat_toNat]

/-- A number that is no surrogate is that of a character. -/
theorem toNat_char {n : Nat} (h : n < 0xd800 ∨ 0xdfff < n ∧ n < 0x110000) :
    (Char.ofNat n).toNat = n := by
  have hvalid : n.isValidChar := h
  rw [Char.ofNat, dif_pos hvalid]
  rfl

/-- Two bytes that are read as a character are those that it is written as. -/
theorem encodeChar_of_next2 (hlow : 0xc2 ≤ lead.toNat) (hhigh : lead.toNat < 0xe0)
    (h : next2 lead rest = (some c, tail)) : lead :: rest = encodeChar c ++ tail := by
  match rest with
  | [] => simp [next2] at h
  | b :: rest =>
      by_cases htail : isTail b
      · simp only [next2, if_pos htail, Prod.mk.injEq, Option.some.injEq] at h
        obtain ⟨rfl, rfl⟩ := h
        rw [isTail_iff] at htail
        have hnumber := toNat_char (n := lead.toNat % 32 * 64 + b.toNat % 64) (by omega)
        simp only [encodeChar, hnumber]
        rw [if_neg (by omega), if_pos (by omega), ofNat_eq_of_toNat (b := lead) (by omega),
          ofNat_eq_of_toNat (b := b) (by omega)]
        rfl
      · simp [next2, htail] at h

theorem encodeChar_of_next3 (hlow : 0xe0 ≤ lead.toNat) (hhigh : lead.toNat < 0xf0)
    (h : next3 lead rest = (some c, tail)) : lead :: rest = encodeChar c ++ tail := by
  match rest with
  | [] | [_] => simp [next3] at h
  | second :: third :: rest =>
      by_cases hsecond : isSecond lead second
      · by_cases hthird : isTail third
        · simp only [next3, hsecond, hthird, Bool.not_true, Bool.false_eq_true, if_false, if_true,
            Prod.mk.injEq, Option.some.injEq] at h
          obtain ⟨rfl, rfl⟩ := h
          rw [isSecond_iff] at hsecond
          rw [isTail_iff] at hthird
          have hnumber := toNat_char
            (n := lead.toNat % 16 * 4096 + second.toNat % 64 * 64 + third.toNat % 64) (by omega)
          simp only [encodeChar, hnumber]
          rw [if_neg (by omega), if_neg (by omega), if_pos (by omega),
            ofNat_eq_of_toNat (b := lead) (by omega), ofNat_eq_of_toNat (b := second) (by omega),
            ofNat_eq_of_toNat (b := third) (by omega)]
          rfl
        · simp [next3, hsecond, hthird] at h
      · simp [next3, hsecond] at h

theorem encodeChar_of_next4 (hlow : 0xf0 ≤ lead.toNat) (hhigh : lead.toNat < 0xf5)
    (h : next4 lead rest = (some c, tail)) : lead :: rest = encodeChar c ++ tail := by
  match rest with
  | [] | [_] | [_, _] => simp [next4] at h
  | second :: third :: fourth :: rest =>
      by_cases hsecond : isSecond lead second
      · by_cases hthird : isTail third
        · by_cases hfourth : isTail fourth
          · simp only [next4, hsecond, hthird, hfourth, Bool.not_true, Bool.false_eq_true, if_false,
              if_true, Prod.mk.injEq, Option.some.injEq] at h
            obtain ⟨rfl, rfl⟩ := h
            rw [isSecond_iff] at hsecond
            rw [isTail_iff] at hthird hfourth
            have hnumber := toNat_char (n := lead.toNat % 8 * 262144 + second.toNat % 64 * 4096
              + third.toNat % 64 * 64 + fourth.toNat % 64) (by omega)
            simp only [encodeChar, hnumber]
            rw [if_neg (by omega), if_neg (by omega), if_neg (by omega),
              ofNat_eq_of_toNat (b := lead) (by omega), ofNat_eq_of_toNat (b := second) (by omega),
              ofNat_eq_of_toNat (b := third) (by omega), ofNat_eq_of_toNat (b := fourth) (by omega)]
            rfl
          · simp [next4, hsecond, hthird, hfourth] at h
        · simp [next4, hsecond, hthird] at h
      · simp [next4, hsecond] at h

/-- A character that was read stands at the front. -/
theorem encodeChar_of_next (h : next lead rest = (some c, tail)) :
    lead :: rest = encodeChar c ++ tail := by
  simp only [next, UInt8.lt_iff_toNat_lt, UInt8.reduceToNat] at h
  split at h
  · rename_i hascii
    simp only [Prod.mk.injEq, Option.some.injEq] at h
    obtain ⟨rfl, rfl⟩ := h
    have hnumber := toNat_char (n := lead.toNat) (by omega)
    simp only [encodeChar, hnumber]
    rw [if_pos hascii, UInt8.ofNat_toNat]
    rfl
  · split at h
    · simp at h
    · split at h
      · exact encodeChar_of_next2 (by omega) (by omega) h
      · split at h
        · exact encodeChar_of_next3 (by omega) (by omega) h
        · split at h
          · exact encodeChar_of_next4 (by omega) (by omega) h
          · simp at h

end

/-- Pieces that were already found only stand in front. -/
theorem piecesAfter_append (found before : List (Option Char)) (bytes : Bytes) :
    piecesAfter (found ++ before) bytes = before.reverse ++ piecesAfter found bytes := by
  fun_induction piecesAfter found bytes with
  | case1 found => rw [piecesAfter, List.reverse_append]
  | case2 found lead rest ih => rw [piecesAfter, ← List.cons_append, ih]

/-- The pieces are read one after another. -/
theorem pieces_cons (lead : UInt8) (rest : Bytes) :
    pieces (lead :: rest) = (next lead rest).1 :: pieces (next lead rest).2 := by
  have hfound := piecesAfter_append [] [(next lead rest).1] (next lead rest).2
  rw [pieces, piecesAfter]
  exact hfound

/-- A character that was written is the first piece of whatever follows it. -/
theorem pieces_encodeChar_append (c : Char) (rest : Bytes) :
    pieces (encodeChar c ++ rest) = some c :: pieces rest := by
  obtain ⟨lead, tail, hencode, hnext⟩ := next_encodeChar c rest
  rw [hencode, List.cons_append, pieces_cons, hnext]

/-- Texts are written one after another. -/
theorem encode_append (text rest : List Char) :
    encode (text ++ rest) = encode text ++ encode rest :=
  List.flatMap_append

/-- The pieces of a text that was encoded are its characters. -/
theorem pieces_encode (text : List Char) : pieces (encode text) = text.map some := by
  induction text with
  | nil => simp [encode, pieces, piecesAfter]
  | cons c text ih =>
      have hcons : encode (c :: text) = encodeChar c ++ encode text := List.flatMap_cons
      rw [hcons, pieces_encodeChar_append, ih, List.map_cons]

/-- A text that was encoded is decoded again. -/
theorem decode?_encode (text : List Char) : decode? (encode text) = some text := by
  simp [decode?, pieces_encode, List.filterMap_map]

/-- Lossy decoding gives it back as well. -/
theorem decodeLossy_encode (text : List Char) : decodeLossy (encode text) = text := by
  rw [decodeLossy, pieces_encode, List.map_map]
  exact List.map_id text

/-- Pieces that are all characters are just these. -/
theorem map_some_filterMap_of_all {pieces : List (Option Char)} (h : pieces.all Option.isSome) :
    (pieces.filterMap id).map some = pieces := by
  induction pieces with
  | nil => rfl
  | cons piece pieces ih =>
      rw [List.all_cons, Bool.and_eq_true] at h
      obtain ⟨c, rfl⟩ := Option.isSome_iff_exists.1 h.1
      exact congrArg (some c :: ·) (ih h.2)

/-- Strict decoding gives the pieces if none of them is broken. -/
theorem pieces_of_decode? {bytes : Bytes} {text : List Char} (h : decode? bytes = some text) :
    pieces bytes = text.map some := by
  simp only [decode?, Option.ite_none_right_eq_some, Option.some.injEq] at h
  rw [← h.2, map_some_filterMap_of_all h.1]

/-- A text that was decoded is encoded as the same bytes again. -/
theorem encode_of_decode? {bytes : Bytes} {text : List Char} (h : decode? bytes = some text) :
    encode text = bytes := by
  have hpieces := pieces_of_decode? h
  clear h
  induction text generalizing bytes with
  | nil =>
      cases bytes with
      | nil => rfl
      | cons lead rest =>
          rw [pieces_cons] at hpieces
          cases hpieces
  | cons c text ih =>
      cases bytes with
      | nil => simp [pieces, piecesAfter] at hpieces
      | cons lead rest =>
          rw [pieces_cons, List.map_cons, List.cons.injEq] at hpieces
          have hfirst : next lead rest = (some c, (next lead rest).2) := Prod.ext hpieces.1 rfl
          rw [encodeChar_of_next hfirst, ← ih hpieces.2, encode, List.flatMap_cons, encode]

end Pasteboard.Utf8
