import Pasteboard.Conversion
import Pasteboard.Proofs.Text.Utf16

/-!
# Text in another format

A text is read as wide text and written in another format: `TextSettings.converted`. This is what
`Data.convert` makes of text, whatever its bytes: see `Data.convert_text`. No text vanishes on the
way, see `TextSettings.converted_ne_nil`.
-/

namespace Pasteboard

namespace Utf8

/-- Every character is written with a byte at least. -/
theorem encodeChar_ne_nil (c : Char) : encodeChar c ≠ [] := by
  simp only [encodeChar]
  repeat' split
  all_goals exact List.cons_ne_nil _ _

/-- Bytes are cut into some pieces. -/
theorem pieces_ne_nil {bytes : Bytes} (h : bytes ≠ []) : pieces bytes ≠ [] := by
  cases bytes with
  | nil => exact absurd rfl h
  | cons lead rest =>
      rw [pieces_cons]
      exact List.cons_ne_nil _ _

end Utf8

namespace Utf16

/-- Every character is written with a unit at least. -/
theorem encodeChar_ne_nil (c : Char) : encodeChar c ≠ [] := by
  simp only [encodeChar]
  split
  all_goals exact List.cons_ne_nil _ _

/-- Units are cut into some pieces. -/
theorem pieces_ne_nil {units : List UInt16} (h : units ≠ []) : pieces units ≠ [] := by
  intro hpieces
  cases cut_iff.2 hpieces
  exact h rfl

/-- Units that were found stay. -/
theorem length_le_unitsAfter (found : List UInt16) (bytes : Bytes) :
    found.length ≤ (unitsAfter found bytes).length := by
  fun_induction unitsAfter found bytes with
  | case1 found low high rest ih => exact Nat.le_trans (Nat.le_succ _) ih
  | case2 found bytes => simp

/-- Two bytes make a unit. -/
theorem ofBytes_ne_nil {bytes : Bytes} (h : 2 ≤ bytes.length) : ofBytes bytes ≠ [] := by
  match bytes with
  | low :: high :: rest =>
      exact List.ne_nil_of_length_pos (length_le_unitsAfter [_] rest)

/-- Some units are some bytes. -/
theorem toBytes_ne_nil {units : List UInt16} (h : units ≠ []) : toBytes units ≠ [] := by
  obtain ⟨unit, rest, hunits⟩ := List.exists_cons_of_ne_nil h
  rw [hunits, toBytes, List.flatMap_cons]
  exact List.cons_ne_nil _ _

end Utf16

namespace CodePage

variable {page : CodePage} {narrow : Bytes} {wide : List UInt16}

/-- Narrow text with a byte is wide text with a unit. -/
theorem toWide_ne_nil (h : narrow ≠ []) : page.toWide narrow ≠ [] := by
  have hdecode : page.decode narrow ≠ [] := by
    cases page with
    | windows1252 | cp437 => simpa [decode] using h
    | utf8 => simpa [decode, Utf8.decodeLossy] using Utf8.pieces_ne_nil h
  obtain ⟨c, rest, htext⟩ := List.exists_cons_of_ne_nil hdecode
  rw [toWide, htext, Utf16.encode, List.flatMap_cons]
  exact List.append_ne_nil_of_left_ne_nil (Utf16.encodeChar_ne_nil c) _

/-- A text goes through wide text to narrow text. -/
theorem fromWide_encode (page : CodePage) (text : List Char) :
    page.fromWide (Utf16.encode text) = page.encode text := by
  have htext : (text.map some).map (·.getD '?') = text := by
    rw [List.map_map]
    exact List.map_id text
  rw [fromWide, Utf16.pieces_encode, htext]

/-- Wide text with a unit is narrow text with a byte. -/
theorem fromWide_ne_nil (h : wide ≠ []) : page.fromWide wide ≠ [] := by
  obtain ⟨piece, rest, hpieces⟩ := List.exists_cons_of_ne_nil (Utf16.pieces_ne_nil h)
  rw [fromWide, hpieces]
  cases page with
  | windows1252 | cp437 => exact List.cons_ne_nil _ _
  | utf8 =>
      rw [encode, Utf8.encode, List.map_cons, List.flatMap_cons]
      exact List.append_ne_nil_of_left_ne_nil (Utf8.encodeChar_ne_nil _) _

end CodePage

namespace TextSettings

variable (settings : TextSettings)

/-- The wide text behind the payload of a text format. -/
def wide (source : Format) (text : Bytes) : List UInt16 :=
  if source = Format.unicodeText then Utf16.ofBytes text
  else (settings.codePage source).toWide text

/-- The payload of a text format for a wide text. -/
def written (target : Format) (wide : List UInt16) : Bytes :=
  if target = Format.unicodeText then Utf16.toBytes wide
  else (settings.codePage target).fromWide wide

/-- The payload of one text format made from that of another one. -/
def converted (target source : Format) (text : Bytes) : Bytes :=
  settings.written target (settings.wide source text)

end TextSettings

/-- A payload that holds some text: wide text has one unit at least. -/
def Format.HoldsText (source : Format) (text : Bytes) : Prop :=
  if source = Format.unicodeText then 2 ≤ text.length else text ≠ []

variable {settings : TextSettings} {target source : Format} {text : Bytes}

/-- A source that holds text is not empty. -/
theorem Format.HoldsText.ne_nil (h : source.HoldsText text) : text ≠ [] := by
  unfold Format.HoldsText at h
  split at h
  · rintro rfl
    cases h
  · exact h

/-- Only wide text can be so short that it holds no text. -/
theorem Format.exists_byte_of_not_holdsText (hne : text ≠ []) (h : ¬ source.HoldsText text) :
    source = Format.unicodeText ∧ ∃ byte, text = [byte] := by
  unfold Format.HoldsText at h
  split at h
  · rename_i hsource
    match text with
    | [] => exact absurd rfl hne
    | [byte] => exact ⟨hsource, byte, rfl⟩
    | _ :: _ :: _ => simp at h
  · exact absurd hne h

/-- Some text is made from some text. -/
theorem TextSettings.converted_ne_nil (h : source.HoldsText text) :
    settings.converted target source text ≠ [] := by
  have hwide : settings.wide source text ≠ [] := by
    unfold Format.HoldsText at h
    unfold wide
    split at h
    · rename_i hsource
      rw [if_pos hsource]
      exact Utf16.ofBytes_ne_nil h
    · rename_i hsource
      rw [if_neg hsource]
      exact CodePage.toWide_ne_nil h
  unfold converted written
  split
  · exact Utf16.toBytes_ne_nil hwide
  · exact CodePage.fromWide_ne_nil hwide

/-- Text is converted by reading and writing it again, unless it is wide and is to stay so. -/
theorem Data.convert_narrow (graphics : Graphics) (htarget : target ∈ Family.text.members)
    (hsource : source ∈ Family.text.members)
    (hnarrow : target ≠ Format.unicodeText ∨ source ≠ Format.unicodeText) :
    (bytes text).convert graphics target source settings =
      .ok (bytes (settings.converted target source text), graphics) := by
  simp only [Family.members, List.mem_cons, List.not_mem_nil, or_false] at htarget hsource
  rcases htarget with rfl | rfl | rfl <;> rcases hsource with rfl | rfl | rfl
  all_goals first
    | exact absurd rfl (hnarrow.elim id id)
    | rfl

/-- So every text can be converted to another format. -/
theorem Data.convert_text (graphics : Graphics) (htarget : target ∈ Family.text.members)
    (hsource : source ∈ Family.text.members) (hne : target ≠ source) :
    (bytes text).convert graphics target source settings =
      .ok (bytes (settings.converted target source text), graphics) := by
  refine convert_narrow graphics htarget hsource ?_
  by_cases hwide : target = Format.unicodeText
  · exact .inr fun hsource => hne (hwide.trans hsource.symm)
  · exact .inl hwide

end Pasteboard
