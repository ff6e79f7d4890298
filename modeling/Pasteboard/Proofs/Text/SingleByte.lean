import Mathlib.Data.List.Forall2
import Mathlib.Data.List.Nodup
import Mathlib.Logic.ExistsUnique
import Pasteboard.Proofs.Text.Conversion

/-!
# Single-byte pages there and back

A single-byte page has a table of characters and a way back to the bytes, and the two fit together:
`CodePage.Invertible`. So a byte string survives apart from bytes without a character, and wide text
keeps the characters of the page and gets question marks for the others; both go there and back in
`CodePage.single_byte_round_trip`.
-/

namespace Pasteboard

theorem forall_byte {P : UInt8 → Prop} (h : ∀ n < 256, P (UInt8.ofNat n)) (b : UInt8) : P b := by
  have hb := h b.toNat b.toNat_lt
  rwa [UInt8.ofNat_toNat] at hb

namespace CodePage

/-- A table of characters and a way back. A hole has no character and stands for a question mark,
as do characters without a byte. -/
structure Invertible (decode : UInt8 → Char) (encode : Char → UInt8) (holes : List UInt8) :
    Prop where
  encode_decode : ∀ b, encode (decode b) = if b ∈ holes then 0x3f else b
  decode_hole : ∀ b ∈ holes, decode b = '?'
  decode_encode : ∀ c, decode (encode c) = c ∨ encode c = 0x3f
  decode_question : decode 0x3f = '?'

section

variable {decode : UInt8 → Char} {encode : Char → UInt8} {holes : List UInt8}

/-- A character of the table is found again, even if the byte was a hole. -/
theorem Invertible.decode_encode_decode (h : Invertible decode encode holes) (b : UInt8) :
    decode (encode (decode b)) = decode b := by
  rw [h.encode_decode]
  split
  · rename_i hhole
    rw [h.decode_question, h.decode_hole b hhole]
  · rfl

/-- Any other character becomes a question mark. -/
theorem Invertible.decode_encode_of_ne (h : Invertible decode encode holes) {c : Char}
    (hc : ∀ b, decode b ≠ c) : decode (encode c) = '?' := by
  have hquestion := (h.decode_encode c).resolve_left (hc (encode c))
  rw [hquestion, h.decode_question]

/-- What a character was turned into is not changed again. -/
theorem Invertible.encode_decode_encode (h : Invertible decode encode holes) (c : Char) :
    encode (decode (encode c)) = encode c := by
  rcases h.decode_encode c with hsame | hquestion
  · rw [hsame]
  · rw [hquestion, h.encode_decode, ite_self]

end

/-! ### The two pages -/

/-- The bytes without a character. -/
def holes : CodePage → List UInt8
  | windows1252 => [0x81, 0x8d, 0x8f, 0x90, 0x9d]
  | _ => []

theorem decodeByte_ascii (upper : List Char) {c : Char} (hc : c.toNat < 0x80) :
    decodeByte upper (UInt8.ofNat c.toNat) = c := by
  have hlt : c.toNat < 256 := by omega
  have hbyte := UInt8.toNat_ofNat_of_lt' hlt
  have hlow : UInt8.ofNat c.toNat < 0x80 := by
    rw [UInt8.lt_iff_toNat_lt, hbyte]
    exact hc
  rw [decodeByte, if_pos hlow, hbyte, Char.ofNat_toNat]

theorem decodeByte_upper (upper : List Char) {index : Nat} (hindex : index < 128) :
    decodeByte upper (UInt8.ofNat (0x80 + index)) = upper.getD index '?' := by
  have hlt : 0x80 + index < 256 := by omega
  have hbyte := UInt8.toNat_ofNat_of_lt' hlt
  have hhigh : ¬ UInt8.ofNat (0x80 + index) < 0x80 := by
    rw [UInt8.lt_iff_toNat_lt, hbyte]
    exact Nat.not_lt_of_le (Nat.le_add_right _ _)
  rw [decodeByte, if_neg hhigh, hbyte, Nat.add_sub_cancel_left]

/-- The characters that Windows-1252 encodes one by one stand in its table. -/
theorem invertible_windows1252 :
    Invertible (decodeByte upper1252) encode1252 windows1252.holes where
  encode_decode := forall_byte (by decide +kernel)
  decode_hole := by decide +kernel
  decode_encode := by
    have hlatin : ∀ n < 0x100, 0xa0 ≤ n →
        decodeByte upper1252 (UInt8.ofNat n) = Char.ofNat n := by decide +kernel
    intro c
    unfold encode1252
    split
    · rename_i hascii
      exact .inl (decodeByte_ascii upper1252 hascii)
    · split
      -- The last case is that of all characters which are not listed.
      rotate_right
      · split
        · rename_i hrange
          have hc := hlatin c.toNat (Nat.lt_succ_of_le hrange.2) hrange.1
          rw [Char.ofNat_toNat] at hc
          exact .inl hc
        · exact .inr rfl
      all_goals exact .inl (by decide +kernel)
  decode_question := by decide +kernel

section

variable {upper : List Char}

/-- A character that is searched and found is the one that its byte stands for. -/
theorem decodeByte_encodeByte (hlength : upper.length ≤ 128) (c : Char) :
    decodeByte upper (encodeByte upper c) = c ∨ encodeByte upper c = 0x3f := by
  unfold encodeByte
  split
  · rename_i hascii
    exact .inl (decodeByte_ascii upper hascii)
  · split
    · rename_i index hfound
      obtain ⟨hindex, hc, -⟩ := List.idxOf?_eq_some_iff.1 hfound
      rw [decodeByte_upper upper (Nat.lt_of_lt_of_le hindex hlength),
        List.getD_eq_getElem?_getD, List.getElem?_eq_getElem hindex]
      exact .inl hc
    · exact .inr rfl

/-- Where no character stands twice, each is found in its own place. -/
theorem encodeByte_decodeByte (hlength : upper.length = 128) (hnodup : upper.Nodup)
    (hbeyond : ∀ c ∈ upper, 0x80 ≤ c.toNat) (b : UInt8) :
    encodeByte upper (decodeByte upper b) = b := by
  by_cases hascii : b < 0x80
  · have hlow : b.toNat < 0x80 := UInt8.lt_iff_toNat_lt.1 hascii
    have hc : (Char.ofNat b.toNat).toNat = b.toNat := Utf8.toNat_char (by omega)
    rw [decodeByte, if_pos hascii, encodeByte, hc, if_pos hlow, UInt8.ofNat_toNat]
  · have hhigh : 0x80 ≤ b.toNat := Nat.le_of_not_lt fun h => hascii (UInt8.lt_iff_toNat_lt.2 h)
    have hb : b.toNat < 256 := b.toNat_lt
    have hindex : b.toNat - 0x80 < upper.length := by omega
    have hc : decodeByte upper b = upper[b.toNat - 0x80] := by
      rw [decodeByte, if_neg hascii, List.getD_eq_getElem?_getD, List.getElem?_eq_getElem hindex,
        Option.getD_some]
    have hnot : ¬ (decodeByte upper b).toNat < 0x80 := by
      rw [hc]
      exact Nat.not_lt_of_le (hbeyond _ (List.getElem_mem hindex))
    have hfound : upper.idxOf? (decodeByte upper b) = some (b.toNat - 0x80) := by
      refine List.idxOf?_eq_some_iff.2 ⟨hindex, hc.symm, fun first hfirst hsame => ?_⟩
      rw [hc, hnodup.getElem_inj_iff] at hsame
      exact absurd hsame (Nat.ne_of_lt hfirst)
    simp only [encodeByte, hnot, if_false, hfound]
    rw [Nat.add_sub_of_le hhigh, UInt8.ofNat_toNat]

end

/-- The characters of code page 437 are searched in its table. -/
theorem invertible_cp437 : Invertible (decodeByte upper437) (encodeByte upper437) cp437.holes where
  encode_decode b := by
    have hnodup : (upper437.map Char.toNat).Nodup := by decide +kernel
    have hbeyond : upper437.all (fun c => decide (0x80 ≤ c.toNat)) = true := by decide +kernel
    exact encodeByte_decodeByte rfl (List.Nodup.of_map _ hnodup)
      (fun c hc => of_decide_eq_true (List.all_eq_true.1 hbeyond c hc)) b
  decode_hole := by simp [holes]
  decode_encode := decodeByte_encodeByte (Nat.le_of_eq rfl)
  decode_question := by decide +kernel

variable {page : CodePage}

theorem exists_invertible (hpage : page ≠ utf8) :
    ∃ table back, Invertible table back page.holes ∧
      page.decode = List.map table ∧ page.encode = List.map back := by
  cases page with
  | windows1252 => exact ⟨_, _, invertible_windows1252, rfl, rfl⟩
  | cp437 => exact ⟨_, _, invertible_cp437, rfl, rfl⟩
  | utf8 => exact absurd rfl hpage

/-! ### There and back -/

/-- The characters that the bytes of a page stand for. -/
def repertoire (page : CodePage) : List Char :=
  (List.range 256).flatMap fun n => page.decode [UInt8.ofNat n]

/-- What a page keeps of a character or an unpaired surrogate. -/
def kept (page : CodePage) : Option Char → Char
  | some c => if c ∈ page.repertoire then c else '?'
  | none => '?'

section

variable {table : UInt8 → Char} {back : Char → UInt8}

theorem mem_repertoire (htable : page.decode = List.map table) {c : Char} :
    c ∈ page.repertoire ↔ ∃ b, table b = c := by
  simp only [repertoire, htable, List.map_cons, List.map_nil, List.mem_flatMap, List.mem_range,
    List.mem_singleton]
  constructor
  · rintro ⟨n, -, rfl⟩
    exact ⟨UInt8.ofNat n, rfl⟩
  · rintro ⟨b, rfl⟩
    exact ⟨b.toNat, b.toNat_lt, by rw [UInt8.ofNat_toNat]⟩

/-- The byte of a piece stands for what the page keeps of it. -/
theorem Invertible.decode_encode_getD {holes : List UInt8} (h : Invertible table back holes)
    (htable : page.decode = List.map table) (piece : Option Char) :
    table (back (piece.getD '?')) = page.kept piece := by
  cases piece with
  | none =>
      have hquestion := h.decode_encode_decode 0x3f
      rwa [h.decode_question] at hquestion
  | some c =>
      rw [Option.getD_some, kept]
      split
      · rename_i hmem
        obtain ⟨b, rfl⟩ := (mem_repertoire htable).1 hmem
        exact h.decode_encode_decode b
      · rename_i hmem
        exact h.decode_encode_of_ne fun b hb => hmem ((mem_repertoire htable).2 ⟨b, hb⟩)

end

/-- A single-byte page there and back. Bytes change only where they have no character. Wide text
takes a byte for each character or unpaired surrogate; read again it is what the page keeps of them,
and the bytes of that are the same. -/
theorem single_byte_round_trip (hpage : page ≠ utf8) :
    (∀ narrow, page.fromWide (page.toWide narrow) =
      narrow.map fun b => if b ∈ page.holes then 0x3f else b) ∧
    (∀ wide, (∃! found, Utf16.Cut wide found) ∧
      ∀ found, Utf16.Cut wide found →
        List.Forall₂ (fun piece b => page.decode [b] = [page.kept piece]) found
          (page.fromWide wide) ∧
        page.toWide (page.fromWide wide) = Utf16.encode (found.map page.kept) ∧
        page.fromWide (page.toWide (page.fromWide wide)) = page.fromWide wide) := by
  obtain ⟨table, back, hinvertible, htable, hback⟩ := exists_invertible hpage
  have hthere (narrow : Bytes) :
      page.fromWide (page.toWide narrow) = (narrow.map table).map back := by
    rw [toWide, fromWide_encode, htable, hback]
  refine ⟨?_, ?_⟩
  · intro narrow
    rw [hthere, List.map_map]
    exact List.map_congr_left fun b _ => hinvertible.encode_decode b
  · intro wide
    refine ⟨⟨Utf16.pieces wide, Utf16.cut_pieces wide, fun _ hcut => hcut.pieces_eq.symm⟩, ?_⟩
    intro found hcut
    have hwide : page.fromWide wide = found.map fun piece => back (piece.getD '?') := by
      rw [fromWide, hcut.pieces_eq, hback, List.map_map]
      rfl
    refine ⟨?_, ?_, ?_⟩
    · rw [hwide, List.forall₂_map_right_iff, List.forall₂_same]
      intro piece _
      rw [htable, List.map_singleton, hinvertible.decode_encode_getD htable]
    · rw [hwide, toWide, htable, List.map_map]
      exact congrArg Utf16.encode
        (List.map_congr_left fun piece _ => hinvertible.decode_encode_getD htable piece)
    · rw [hthere, hwide, List.map_map, List.map_map]
      exact List.map_congr_left fun piece _ => hinvertible.encode_decode_encode _

/-- A byte without a character becomes a question mark, and so do a character that is not in the
page and an unpaired surrogate. -/
theorem western_kept :
    windows1252 ≠ utf8 ∧
    windows1252.fromWide (windows1252.toWide [0x80, 0x81, 0x41]) = [0x80, 0x3f, 0x41] ∧
    windows1252.toWide (windows1252.fromWide [0x20ac, 0xd83d, 0xde00, 0xd800, 0x41]) =
      [0x20ac, 0x3f, 0x3f, 0x41] := by
  have hpage : windows1252 ≠ utf8 := by decide
  obtain ⟨hnarrow, hwide⟩ := single_byte_round_trip hpage
  have hbehind : ∀ second ∈ ([0x41] : List UInt16).head?, Utf16.isLow second = false := by
    intro second hsecond
    cases hsecond
    rfl
  have hcut : Utf16.Cut [0x20ac, 0xd83d, 0xde00, 0xd800, 0x41]
      [some '€', some '😀', none, some 'A'] :=
    .char '€' (.char '😀' (.high rfl hbehind (.char 'A' .nil)))
  have hkept := ((hwide _).2 _ hcut).2.1
  refine ⟨hpage, ?_, ?_⟩
  · rw [hnarrow]
    decide
  · rw [hkept]
    decide +kernel

end CodePage

end Pasteboard
