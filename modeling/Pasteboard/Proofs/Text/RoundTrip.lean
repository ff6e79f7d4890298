import Mathlib.Logic.ExistsUnique
import Pasteboard.Proofs.Text.Broken
import Pasteboard.Proofs.Text.Conversion

/-!
# UTF-8 there and back

Between wide text and UTF-8 only what is ill-formed changes: unpaired surrogates become question
marks, broken parts become replacement characters. `CodePage.utf8_round_trip` says so of all units
and all bytes, and that a string survives the way from wide text to narrow text.
-/

namespace Pasteboard

namespace Utf8

/-- A character has the bytes that the standard library gives it. -/
theorem encodeChar_eq (c : Char) : encodeChar c = String.utf8EncodeChar c := by
  have hvalid : c.toNat < 0xd800 ∨ 0xdfff < c.toNat ∧ c.toNat < 0x110000 := c.valid
  have hval : c.val.toNat = c.toNat := rfl
  simp only [encodeChar, String.utf8EncodeChar, hval, Nat.add_comm (_ % 64) 128]
  by_cases hone : c.toNat < 0x80
  · rw [if_pos hone, if_pos (by omega)]
  by_cases htwo : c.toNat < 0x800
  · have hlead : c.toNat / 64 % 32 + 192 = 0xc0 + c.toNat / 64 := by omega
    rw [if_neg hone, if_pos htwo, if_neg (by omega), if_pos (by omega), hlead]
  by_cases hthree : c.toNat < 0x10000
  · have hlead : c.toNat / 4096 % 16 + 224 = 0xe0 + c.toNat / 4096 := by omega
    rw [if_neg hone, if_neg htwo, if_pos hthree, if_neg (by omega), if_neg (by omega),
      if_pos (by omega), hlead]
  · have hlead : c.toNat / 262144 % 8 + 240 = 0xf0 + c.toNat / 262144 := by omega
    rw [if_neg hone, if_neg htwo, if_neg hthree, if_neg (by omega), if_neg (by omega),
      if_neg (by omega), hlead]

/-- A text has the bytes that the standard library gives it. -/
theorem toByteArray_encode (text : List Char) : (encode text).toByteArray = text.utf8Encode := by
  have hencode : encodeChar = String.utf8EncodeChar := funext encodeChar_eq
  rw [encode, hencode, List.utf8Encode]

theorem encode_toList (text : String) : encode text.toList = text.toUTF8.data.toList := by
  rw [String.toUTF8_eq_toByteArray, ← String.utf8Encode_toList, ← toByteArray_encode,
    List.toList_data_toByteArray]

/-- The replacement character stands for every broken part. -/
theorem Cut.encode_decodeLossy {bytes : Bytes} {parts : List Part} (h : Cut bytes parts) :
    encode (decodeLossy bytes) = parts.flatMap Part.mended := by
  have hpart (part : Part) : encodeChar (part.char?.getD '\uFFFD') = part.mended := by
    cases part <;> rfl
  rw [decodeLossy, h.pieces_eq, encode, List.map_map, List.flatMap_map]
  exact congrArg (fun bytesOf => parts.flatMap bytesOf) (funext hpart)

/-- Only a byte string that is the bytes of a text stays the same. -/
theorem encode_decodeLossy_iff {bytes : Bytes} :
    encode (decodeLossy bytes) = bytes ↔ bytes.toByteArray.IsValidUTF8 := by
  constructor
  · -- The result is the bytes of a text, whatever was read.
    intro hsame
    exact ⟨decodeLossy bytes, by rw [← toByteArray_encode, hsame]⟩
  · rintro ⟨text, hbytes⟩
    rw [← toByteArray_encode, List.toByteArray_inj] at hbytes
    rw [hbytes, decodeLossy_encode]

end Utf8

namespace CodePage

theorem utf8_toWide_fromWide (wide : List UInt16) :
    utf8.toWide (utf8.fromWide wide) = Utf16.mended none wide := by
  rw [toWide, fromWide, encode, decode, Utf8.decodeLossy_encode, Utf16.encode_pieces]

theorem utf8_fromWide_toWide (narrow : Bytes) :
    utf8.fromWide (utf8.toWide narrow) = Utf8.encode (Utf8.decodeLossy narrow) :=
  fromWide_encode utf8 (Utf8.decodeLossy narrow)

end CodePage

namespace Data

/-- The units of wide text and its final zero, as bytes. -/
def unicodePayload (text : String) : Bytes :=
  Utf16.toBytes (Utf16.encode (text.toList ++ ['\x00']))

theorem unicodeText_eq (text : String) : unicodeText text = bytes (unicodePayload text) := by
  have hzero : Utf16.toBytes (Utf16.encode ['\x00']) = [0, 0] := by decide
  rw [unicodeText, unicodePayload, Utf16.encode_append, Utf16.toBytes_append, hzero]

theorem ofBytes_unicodePayload (text : String) :
    Utf16.ofBytes (unicodePayload text) = Utf16.encode text.toList ++ [0] := by
  rw [unicodePayload, Utf16.ofBytes_toBytes, Utf16.encode_append]
  rfl

/-- A string that is converted from wide text has the bytes of its characters and a zero. -/
theorem convert_unicodeText (text : String) (settings : TextSettings) (graphics : Graphics)
    (hpage : settings.codePage Format.text = .utf8) :
    (unicodeText text).convert graphics Format.text Format.unicodeText settings =
      .ok (bytes (text.toUTF8.data.toList ++ [0]), graphics) := by
  have hbytes : settings.converted Format.text Format.unicodeText (unicodePayload text) =
      text.toUTF8.data.toList ++ [0] := by
    show (settings.codePage Format.text).fromWide (Utf16.ofBytes (unicodePayload text)) = _
    rw [hpage, unicodePayload, Utf16.ofBytes_toBytes, CodePage.fromWide_encode, CodePage.encode,
      Utf8.encode_append, Utf8.encode_toList]
    rfl
  rw [unicodeText_eq, convert_text graphics (by decide) (by decide) (by decide), hbytes]

end Data

/-- UTF-8 there and back. Units keep all but unpaired surrogates, bytes keep all but broken parts,
which leaves exactly the valid byte strings as they are; and a string that became wide text is its
units and a zero, from which narrow text has its bytes and a zero. -/
theorem CodePage.utf8_round_trip :
    (∀ wide, utf8.toWide (utf8.fromWide wide) = Utf16.mended none wide) ∧
    (∀ narrow,
      (∃! parts, Utf8.Cut narrow parts) ∧
      (∀ parts, Utf8.Cut narrow parts →
        utf8.fromWide (utf8.toWide narrow) = parts.flatMap Utf8.Part.mended) ∧
      (utf8.fromWide (utf8.toWide narrow) = narrow ↔ narrow.toByteArray.IsValidUTF8)) ∧
    (∀ text, ∃ payload,
      Data.unicodeText text = .bytes payload ∧
      Utf16.ofBytes payload = Utf16.encode text.toList ++ [0] ∧
      ∀ settings graphics, settings.codePage Format.text = utf8 →
        (Data.unicodeText text).convert graphics Format.text Format.unicodeText settings =
          .ok (.bytes (text.toUTF8.data.toList ++ [0]), graphics)) := by
  refine ⟨utf8_toWide_fromWide, ?_, ?_⟩
  · intro narrow
    obtain ⟨parts, hparts⟩ := Utf8.exists_cut narrow
    rw [utf8_fromWide_toWide]
    exact ⟨⟨parts, hparts, fun _ hothers => hothers.unique hparts⟩,
      fun _ hcut => hcut.encode_decodeLossy, Utf8.encode_decodeLossy_iff⟩
  · intro text
    exact ⟨Data.unicodePayload text, Data.unicodeText_eq text, Data.ofBytes_unicodePayload text,
      Data.convert_unicodeText text⟩

/-- A pair of surrogates between two halves keeps its place, three bytes of a character of four are
one broken part in front of an A, and the sign of the euro gets its three bytes. -/
theorem CodePage.utf8_halves_mended :
    utf8.toWide (utf8.fromWide [0xdc00, 0xd83d, 0xde00, 0xd800]) = [0x3f, 0xd83d, 0xde00, 0x3f] ∧
    utf8.fromWide (utf8.toWide [0xf0, 0x9f, 0x98, 0x41]) = [0xef, 0xbf, 0xbd, 0x41] ∧
    (Data.unicodeText "€").convert Graphics.empty Format.text Format.unicodeText
      ⟨0x0411, ⟨.utf8, .utf8⟩⟩ = .ok (.bytes [0xe2, 0x82, 0xac, 0], Graphics.empty) := by
  obtain ⟨hwide, hnarrow, htext⟩ := CodePage.utf8_round_trip
  refine ⟨hwide _, ?_, ?_⟩
  · have hbegins : Utf8.Begins [0xf0, 0x9f, 0x98] := ⟨'😀', [0x80], by decide⟩
    have hstop (rest : Bytes) :
        Utf8.next 0xf0 ([0x9f, 0x98] ++ 0x41 :: rest) = (none, 0x41 :: rest) := rfl
    have hbroken : Utf8.Broken [0xf0, 0x9f, 0x98] [0x41] :=
      Utf8.broken_in_front hstop (.inl hbegins) []
    have hcut : Utf8.Cut [0xf0, 0x9f, 0x98, 0x41] [.broken [0xf0, 0x9f, 0x98], .char 'A'] :=
      .broken hbroken (.char 'A' .nil)
    exact (hnarrow _).2.1 _ hcut
  · obtain ⟨_, -, -, hconvert⟩ := htext "€"
    exact hconvert ⟨0x0411, ⟨.utf8, .utf8⟩⟩ Graphics.empty (by decide)

end Pasteboard
