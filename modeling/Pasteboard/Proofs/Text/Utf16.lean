import Pasteboard.Proofs.Text.Utf8
import Pasteboard.Text.Utf16

/-!
# UTF-16 of any units

Units fall into characters and unpaired surrogates in one way only, which is how `Utf16.pieces`
reads them: `Utf16.cut_iff`. Two neighbours tell whether a surrogate is unpaired, so a text that was
read with question marks for those is the same units with every such place mended:
`Utf16.encode_pieces`.
-/

namespace Pasteboard.Utf16

section

variable {unit : UInt16}

/-- The first units of pairs lie in this range. -/
theorem isHigh_iff : isHigh unit = true ↔ 0xd800 ≤ unit.toNat ∧ unit.toNat ≤ 0xdbff := by
  simp only [isHigh, UInt16.le_iff_toNat_le, UInt16.reduceToNat, Bool.and_eq_true,
    decide_eq_true_eq]

/-- The second units of pairs lie in the range behind it. -/
theorem isLow_iff : isLow unit = true ↔ 0xdc00 ≤ unit.toNat ∧ unit.toNat ≤ 0xdfff := by
  simp only [isLow, UInt16.le_iff_toNat_le, UInt16.reduceToNat, Bool.and_eq_true,
    decide_eq_true_eq]

/-- No second unit is a first one. -/
theorem isHigh_eq_false_of_isLow (h : isLow unit = true) : isHigh unit = false := by
  rw [← Bool.not_eq_true, isHigh_iff]
  rw [isLow_iff] at h
  omega

theorem isLow_eq_false_of_isHigh (h : isHigh unit = true) : isLow unit = false := by
  rw [← Bool.not_eq_true, isLow_iff]
  rw [isHigh_iff] at h
  omega

end

/-! ### The units of a character -/

/-- A character is one unit of its own number or a pair of surrogates that stands for it. -/
theorem encodeChar_cases (c : Char) :
    (∃ unit, encodeChar c = [unit] ∧ isHigh unit = false ∧ isLow unit = false ∧
      Char.ofNat unit.toNat = c) ∨
    (∃ high low, encodeChar c = [high, low] ∧ isHigh high = true ∧ isLow low = true ∧
      ofPair high low = c) := by
  have hvalid : c.toNat < 0xd800 ∨ 0xdfff < c.toNat ∧ c.toNat < 0x110000 := c.valid
  by_cases hplain : c.toNat < 0x10000
  · have hunit : (UInt16.ofNat c.toNat).toNat = c.toNat := UInt16.toNat_ofNat_of_lt' hplain
    refine .inl ⟨UInt16.ofNat c.toNat, if_pos hplain, ?_, ?_, ?_⟩
    · rw [← Bool.not_eq_true, isHigh_iff, hunit]
      omega
    · rw [← Bool.not_eq_true, isLow_iff, hunit]
      omega
    · rw [hunit, Char.ofNat_toNat]
  · have hfirst : 0xd800 + (c.toNat - 0x10000) / 1024 < 0x10000 := by omega
    have hsecond : 0xdc00 + (c.toNat - 0x10000) % 1024 < 0x10000 := by omega
    have hhigh := UInt16.toNat_ofNat_of_lt' hfirst
    have hlow := UInt16.toNat_ofNat_of_lt' hsecond
    refine .inr ⟨_, _, if_neg hplain, ?_, ?_, ?_⟩
    · rw [isHigh_iff, hhigh]
      omega
    · rw [isLow_iff, hlow]
      omega
    · have hnumber : 0x10000 + (0xd800 + (c.toNat - 0x10000) / 1024 - 0xd800) * 1024 +
          (0xdc00 + (c.toNat - 0x10000) % 1024 - 0xdc00) = c.toNat := by omega
      rw [ofPair, hhigh, hlow, hnumber, Char.ofNat_toNat]

/-- A unit outside the surrogates is a character. -/
theorem encodeChar_ofNat {unit : UInt16} (hhigh : isHigh unit = false) (hlow : isLow unit = false) :
    encodeChar (Char.ofNat unit.toNat) = [unit] := by
  rw [← Bool.not_eq_true, isHigh_iff] at hhigh
  rw [← Bool.not_eq_true, isLow_iff] at hlow
  have hunit : unit.toNat < 0x10000 := unit.toNat_lt
  have hnumber : (Char.ofNat unit.toNat).toNat = unit.toNat := Utf8.toNat_char (by omega)
  simp only [encodeChar, hnumber]
  rw [if_pos hunit, UInt16.ofNat_toNat]

/-- A pair of surrogates is a character. -/
theorem encodeChar_ofPair {high low : UInt16} (hhigh : isHigh high = true)
    (hlow : isLow low = true) : encodeChar (ofPair high low) = [high, low] := by
  rw [isHigh_iff] at hhigh
  rw [isLow_iff] at hlow
  have hnumber : (ofPair high low).toNat =
      0x10000 + (high.toNat - 0xd800) * 1024 + (low.toNat - 0xdc00) := Utf8.toNat_char (by omega)
  have hfirst : 0xd800 + ((ofPair high low).toNat - 0x10000) / 1024 = high.toNat := by omega
  have hsecond : 0xdc00 + ((ofPair high low).toNat - 0x10000) % 1024 = low.toNat := by omega
  simp only [encodeChar, hfirst, hsecond, UInt16.ofNat_toNat]
  rw [if_neg (by omega)]

/-! ### Reading piece by piece -/

section

variable {unit high low : UInt16} {rest : List UInt16}

/-- Pieces that were already found only stand in front. -/
theorem piecesAfter_append (found before : List (Option Char)) (units : List UInt16) :
    piecesAfter (found ++ before) units = before.reverse ++ piecesAfter found units := by
  fun_induction piecesAfter found units with
  | case1 found => rw [piecesAfter, List.reverse_append]
  | case2 found unit =>
      rw [piecesAfter]
      split <;> simp
  | case3 found unit second rest hhigh hlow ih =>
      rw [piecesAfter, if_pos hhigh, if_pos hlow, ← List.cons_append, ih]
  | case4 found unit second rest hhigh hlow ih =>
      rw [piecesAfter, if_pos hhigh, if_neg hlow, ← List.cons_append, ih]
  | case5 found unit second rest hhigh hlow ih =>
      rw [piecesAfter, if_neg hhigh, if_pos hlow, ← List.cons_append, ih]
  | case6 found unit second rest hhigh hlow ih =>
      rw [piecesAfter, if_neg hhigh, if_neg hlow, ← List.cons_append, ih]

/-- A piece that is there already comes in front. -/
theorem piecesAfter_one (piece : Option Char) (units : List UInt16) :
    piecesAfter [piece] units = piece :: pieces units :=
  piecesAfter_append [] [piece] units

/-- A first and a second unit are one character. -/
theorem pieces_pair (hhigh : isHigh high = true) (hlow : isLow low = true) :
    pieces (high :: low :: rest) = some (ofPair high low) :: pieces rest := by
  rw [pieces, piecesAfter, if_pos hhigh, if_pos hlow, piecesAfter_one]

/-- A unit of neither kind is a character by itself. -/
theorem pieces_plain (hhigh : isHigh unit = false) (hlow : isLow unit = false) :
    pieces (unit :: rest) = some (Char.ofNat unit.toNat) :: pieces rest := by
  cases rest with
  | nil => simp [pieces, piecesAfter, hhigh, hlow]
  | cons second rest =>
      rw [pieces, piecesAfter, hhigh, hlow, if_neg Bool.false_ne_true, if_neg Bool.false_ne_true,
        piecesAfter_one]

/-- A first unit without a second one behind it is no character. -/
theorem pieces_high (hhigh : isHigh unit = true)
    (hrest : ∀ second ∈ rest.head?, isLow second = false) :
    pieces (unit :: rest) = none :: pieces rest := by
  cases rest with
  | nil => simp [pieces, piecesAfter, hhigh]
  | cons second rest =>
      rw [pieces, piecesAfter, if_pos hhigh, hrest second rfl, if_neg Bool.false_ne_true,
        piecesAfter_one]

/-- A second unit that no first one took is no character. -/
theorem pieces_low (hlow : isLow unit = true) :
    pieces (unit :: rest) = none :: pieces rest := by
  have hhigh := isHigh_eq_false_of_isLow hlow
  cases rest with
  | nil => simp [pieces, piecesAfter, hlow]
  | cons second rest =>
      rw [pieces, piecesAfter, hhigh, if_neg Bool.false_ne_true, if_pos hlow, piecesAfter_one]

/-- The units of a character are read as that character, whatever follows them. -/
theorem pieces_encodeChar_append (c : Char) (rest : List UInt16) :
    pieces (encodeChar c ++ rest) = some c :: pieces rest := by
  obtain ⟨unit, hencode, hhigh, hlow, rfl⟩ | ⟨high, low, hencode, hhigh, hlow, rfl⟩ :=
    encodeChar_cases c
  · rw [hencode]
    exact pieces_plain hhigh hlow
  · rw [hencode]
    exact pieces_pair hhigh hlow

end

/-- Texts are written one after another. -/
theorem encode_append (text rest : List Char) :
    encode (text ++ rest) = encode text ++ encode rest :=
  List.flatMap_append

/-- The pieces of a text that was encoded are its characters. -/
theorem pieces_encode (text : List Char) : pieces (encode text) = text.map some := by
  induction text with
  | nil => rfl
  | cons c text ih =>
      have hcons : encode (c :: text) = encodeChar c ++ encode text := List.flatMap_cons
      rw [hcons, pieces_encodeChar_append, ih, List.map_cons]

/-- How units fall into characters and, as `none`, unpaired surrogates. The first half of a pair is
unpaired if no second half follows; a second half is unpaired if no first half has taken it. -/
inductive Cut : List UInt16 → List (Option Char) → Prop
  | nil : Cut [] []
  | char {rest : List UInt16} {found : List (Option Char)} (c : Char) :
      Cut rest found → Cut (encodeChar c ++ rest) (some c :: found)
  | high {unit : UInt16} {rest : List UInt16} {found : List (Option Char)} :
      isHigh unit = true → (∀ second ∈ rest.head?, isLow second = false) → Cut rest found →
      Cut (unit :: rest) (none :: found)
  | low {unit : UInt16} {rest : List UInt16} {found : List (Option Char)} :
      isLow unit = true → Cut rest found → Cut (unit :: rest) (none :: found)

/-- There is one way only to cut units into characters, and reading finds it. -/
theorem Cut.pieces_eq {units : List UInt16} {found : List (Option Char)} (h : Cut units found) :
    pieces units = found := by
  induction h with
  | nil => rfl
  | char c _ ih => rw [pieces_encodeChar_append, ih]
  | high hhigh hrest _ ih => rw [pieces_high hhigh hrest, ih]
  | low hlow _ ih => rw [pieces_low hlow, ih]

/-- All units can be cut. -/
theorem cut_pieces (units : List UInt16) : Cut units (pieces units) := by
  match units with
  | [] => exact .nil
  | unit :: rest =>
      by_cases hlow : isLow unit = true
      · rw [pieces_low hlow]
        exact .low hlow (cut_pieces rest)
      · rw [Bool.not_eq_true] at hlow
        by_cases hhigh : isHigh unit = true
        · -- A first unit is a character only together with a second one behind it.
          match rest with
          | [] =>
              have hrest : ∀ next ∈ ([] : List UInt16).head?, isLow next = false := by simp
              rw [pieces_high hhigh hrest]
              exact .high hhigh hrest .nil
          | second :: rest =>
              by_cases hsecond : isLow second = true
              · have hchar := Cut.char (ofPair unit second) (cut_pieces rest)
                rw [encodeChar_ofPair hhigh hsecond] at hchar
                rw [pieces_pair hhigh hsecond]
                exact hchar
              · have hrest : ∀ next ∈ (second :: rest).head?, isLow next = false := by
                  simpa using hsecond
                rw [pieces_high hhigh hrest]
                exact .high hhigh hrest (cut_pieces (second :: rest))
        · rw [Bool.not_eq_true] at hhigh
          have hchar := Cut.char (Char.ofNat unit.toNat) (cut_pieces rest)
          rw [encodeChar_ofNat hhigh hlow] at hchar
          rw [pieces_plain hhigh hlow]
          exact hchar
termination_by units.length

/-- Units are read the one way they can be cut. -/
theorem cut_iff {units : List UInt16} {found : List (Option Char)} :
    Cut units found ↔ pieces units = found := by
  constructor
  · exact Cut.pieces_eq
  · rintro rfl
    exact cut_pieces units

/-! ### Neighbours -/

/-- Whether a unit between two neighbours is half of a pair without the other half. -/
def unpaired (before : Option UInt16) (unit : UInt16) (after : Option UInt16) : Bool :=
  isHigh unit && !after.any isLow || isLow unit && !before.any isHigh

/-- The unit in front of a place, where `front` stands in front of all units. -/
def unitBefore (front : Option UInt16) (units : List UInt16) : Nat → Option UInt16
  | 0 => front
  | place + 1 => units[place]?

/-- The units behind `front` with the unit of a question mark for every unpaired surrogate. -/
def mended (front : Option UInt16) (units : List UInt16) : List UInt16 :=
  units.mapIdx fun place unit =>
    if unpaired (unitBefore front units place) unit units[place + 1]? then 0x3f else unit

/-- Whether a unit stays depends on its neighbours alone. -/
theorem mended_cons (front : Option UInt16) (unit : UInt16) (rest : List UInt16) :
    mended front (unit :: rest) =
      (if unpaired front unit rest.head? then 0x3f else unit) :: mended (some unit) rest := by
  have hbefore (place : Nat) :
      unitBefore front (unit :: rest) (place + 1) = unitBefore (some unit) rest place := by
    cases place <;> rfl
  simp only [mended, List.mapIdx_cons, hbefore, List.getElem?_cons_succ]
  rw [unitBefore, List.head?_eq_getElem?]

/-- What is read with question marks for unpaired surrogates is the mended units, unless a first
half in front of them takes the first unit. -/
theorem Cut.encode_getD {units : List UInt16} {found : List (Option Char)} (h : Cut units found)
    (front : Option UInt16) (hfront : front.any isHigh = true → units.head?.any isLow = false) :
    encode (found.map (·.getD '?')) = mended front units := by
  induction h generalizing front with
  | nil => rfl
  | @char rest found c _ ih =>
      have hcons : encode ((some c :: found).map (·.getD '?')) =
          encodeChar c ++ encode (found.map (·.getD '?')) := List.flatMap_cons
      rw [hcons]
      obtain ⟨unit, hencode, hhigh, hlow, -⟩ | ⟨high, low, hencode, hhigh, hlow, -⟩ :=
        encodeChar_cases c
      · have hpaired : unpaired front unit rest.head? = false := by simp [unpaired, hhigh, hlow]
        rw [hencode, List.singleton_append, List.singleton_append, mended_cons, hpaired,
          ih (some unit) (by simp [hhigh])]
        rfl
      · -- Each half of a pair has the other one as its neighbour.
        have hlowhigh := isHigh_eq_false_of_isLow hlow
        have hfirst : unpaired front high (some low) = false := by
          simp [unpaired, hlow, isLow_eq_false_of_isHigh hhigh]
        have hsecond : unpaired (some high) low rest.head? = false := by
          simp [unpaired, hhigh, hlowhigh]
        rw [hencode]
        show high :: low :: encode (found.map (·.getD '?')) = mended front (high :: low :: rest)
        rw [mended_cons, mended_cons, List.head?_cons, hfirst, hsecond,
          ih (some low) (by simp [hlowhigh])]
        rfl
  | @high unit rest found hhigh hrest _ ih =>
      have hafter : rest.head?.any isLow = false := by
        cases hhead : rest.head? with
        | none => rfl
        | some second => exact hrest second hhead
      have hunpaired : unpaired front unit rest.head? = true := by simp [unpaired, hhigh, hafter]
      rw [mended_cons, hunpaired, ← ih (some unit) (fun _ => hafter)]
      rfl
  | @low unit rest found hlow _ ih =>
      -- A first half in front would have taken it.
      have hbefore : front.any isHigh = false := by
        rw [← Bool.not_eq_true]
        intro hhigh
        have hhead := hfront hhigh
        simp [hlow] at hhead
      have hunpaired : unpaired front unit rest.head? = true := by simp [unpaired, hlow, hbefore]
      rw [mended_cons, hunpaired,
        ← ih (some unit) (by simp [isHigh_eq_false_of_isLow hlow])]
      rfl

/-- A text read with question marks for unpaired surrogates is the mended units. -/
theorem encode_pieces (units : List UInt16) :
    encode ((pieces units).map (·.getD '?')) = mended none units :=
  (cut_pieces units).encode_getD none (by simp)

/-! ### Units as bytes -/

/-- Units are written one after another. -/
theorem toBytes_append (units rest : List UInt16) :
    toBytes (units ++ rest) = toBytes units ++ toBytes rest :=
  List.flatMap_append

/-- Units that were written are read again, behind those that were read before. -/
theorem unitsAfter_toBytes (found units : List UInt16) :
    unitsAfter found (toBytes units) = found.reverse ++ units := by
  induction units generalizing found with
  | nil => simp [toBytes, unitsAfter]
  | cons unit rest ih =>
      have hword : UInt16.ofNat (Bytes.toNat (Bytes.ofU16 unit)) = unit := by
        have hunit : unit.toNat < Nat.pow 256 2 := unit.toNat_lt
        rw [Bytes.ofU16, Bytes.toNat_ofNat, Nat.mod_eq_of_lt hunit, UInt16.ofNat_toNat]
      have hcons : toBytes (unit :: rest) = Bytes.ofU16 unit ++ toBytes rest := List.flatMap_cons
      have hstep : unitsAfter found (Bytes.ofU16 unit ++ toBytes rest) =
          unitsAfter (UInt16.ofNat (Bytes.toNat (Bytes.ofU16 unit)) :: found) (toBytes rest) := rfl
      rw [hcons, hstep, hword, ih]
      simp

/-- Units that were laid out as bytes are read again. -/
theorem ofBytes_toBytes (units : List UInt16) : ofBytes (toBytes units) = units :=
  unitsAfter_toBytes [] units

end Pasteboard.Utf16
