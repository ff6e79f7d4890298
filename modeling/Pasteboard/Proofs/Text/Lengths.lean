import Pasteboard.Proofs.Text.Conversion

/-!
# How long text gets

A character takes four bytes at most, or two units, and each piece of a text takes one byte or one
unit at least. So text gets longer by no more than a constant factor when it is written in another
format: see `CodePage.length_fromWide_le` and `CodePage.length_toWide_le`.
-/

namespace Pasteboard

/-- Pieces of a bounded length add up to a bounded one. -/
theorem length_flatMap_le {α β : Type} {change : α → List β} {size : Nat}
    (h : ∀ value, (change value).length ≤ size) (list : List α) :
    (list.flatMap change).length ≤ size * list.length := by
  induction list with
  | nil => simp
  | cons value rest ih =>
      have hvalue := h value
      rw [List.flatMap_cons, List.length_append, List.length_cons, Nat.mul_succ]
      omega

namespace Utf8

/-- A character is written with four bytes at most. -/
theorem length_encodeChar_le (c : Char) : (encodeChar c).length ≤ 4 := by
  simp only [encodeChar]
  repeat' split
  all_goals simp

/-- Each piece takes a byte. -/
theorem length_piecesAfter_le (found : List (Option Char)) (bytes : Bytes) :
    (piecesAfter found bytes).length ≤ found.length + bytes.length := by
  fun_induction piecesAfter found bytes with
  | case1 found => simp
  | case2 found lead rest ih =>
      have hrest := next_length_le lead rest
      rw [List.length_cons] at ih ⊢
      omega

/-- There is no more than one character for each byte. -/
theorem length_decodeLossy_le (bytes : Bytes) : (decodeLossy bytes).length ≤ bytes.length := by
  rw [decodeLossy, List.length_map]
  exact Nat.le_trans (length_piecesAfter_le [] bytes) (by simp)

end Utf8

namespace Utf16

/-- A character is written with two units at most. -/
theorem length_encodeChar_le (c : Char) : (encodeChar c).length ≤ 2 := by
  simp only [encodeChar]
  split <;> simp

/-- Each piece takes a unit. -/
theorem length_piecesAfter_le (found : List (Option Char)) (units : List UInt16) :
    (piecesAfter found units).length ≤ found.length + units.length := by
  fun_induction piecesAfter found units with
  | case1 found => simp
  | case2 found unit => split <;> simp
  | case3 | case4 | case5 | case6 =>
      rename_i ih
      simp only [List.length_cons] at ih ⊢
      omega

/-- Each unit takes two bytes. -/
theorem length_unitsAfter_le (found : List UInt16) (bytes : Bytes) :
    2 * (unitsAfter found bytes).length ≤ 2 * found.length + bytes.length := by
  fun_induction unitsAfter found bytes with
  | case1 found low high rest ih =>
      simp only [List.length_cons] at ih ⊢
      omega
  | case2 found bytes => simp

/-- A unit takes two bytes. -/
theorem length_ofBytes_le (bytes : Bytes) : 2 * (ofBytes bytes).length ≤ bytes.length :=
  Nat.le_trans (length_unitsAfter_le [] bytes) (by simp)

theorem length_toBytes_le (units : List UInt16) : (toBytes units).length ≤ 2 * units.length :=
  length_flatMap_le (fun unit => Nat.le_of_eq (Bytes.length_ofU16 unit)) units

end Utf16

namespace CodePage

variable (page : CodePage)

/-- Narrow text becomes two units for each byte at most. -/
theorem length_toWide_le (narrow : Bytes) : (page.toWide narrow).length ≤ 2 * narrow.length := by
  have hdecode : (page.decode narrow).length ≤ narrow.length := by
    cases page with
    | windows1252 | cp437 => simp [decode]
    | utf8 => exact Utf8.length_decodeLossy_le narrow
  have hwide := length_flatMap_le Utf16.length_encodeChar_le (page.decode narrow)
  rw [toWide, Utf16.encode]
  omega

/-- Wide text becomes four bytes for each unit at most. -/
theorem length_fromWide_le (wide : List UInt16) :
    (page.fromWide wide).length ≤ 4 * wide.length := by
  have hpieces : (Utf16.pieces wide).length ≤ wide.length :=
    Nat.le_trans (Utf16.length_piecesAfter_le [] wide) (by simp)
  have hencode (text : List Char) : (page.encode text).length ≤ 4 * text.length := by
    cases page with
    | windows1252 | cp437 =>
        rw [encode, List.length_map]
        omega
    | utf8 => exact length_flatMap_le Utf8.length_encodeChar_le text
  have hnarrow := hencode ((Utf16.pieces wide).map (·.getD '?'))
  rw [List.length_map] at hnarrow
  rw [fromWide]
  omega

end CodePage

end Pasteboard
