import Mathlib.Data.List.Induction
import Mathlib.Data.List.TakeWhile
import Pasteboard.Proofs.Text.Broken
import Pasteboard.Proofs.Text.SingleByte

/-!
# Where text ends

A text is often read up to its first null only. What stands in front of a null is converted without
a look at what follows, and the null stays one: `KeepsNull`, for characters, for units and for each
code page. So it makes no difference whether a payload is cut at its first null or what is made of
it: `Data.convert_beforeNull`.
-/

namespace Pasteboard

/-- A change that treats what stands in front of a first `null` on its own and turns the null, and
nothing else, into `null'`. -/
structure KeepsNull {α β : Type} (null : α) (null' : β) (change : List α → List β) : Prop where
  free : ∀ front, null ∉ front → null' ∉ change front
  split : ∀ front rest, null ∉ front →
    change (front ++ null :: rest) = change front ++ null' :: change rest

section

variable {α β γ : Type} {null : α} {null' : β} {null'' : γ} {change : List α → List β}

/-- Two changes that keep the null keep it one after the other. -/
theorem KeepsNull.comp {further : List β → List γ} (hfurther : KeepsNull null' null'' further)
    (h : KeepsNull null null' change) :
    KeepsNull null null'' (fun list => further (change list)) where
  free front hfront := hfurther.free _ (h.free front hfront)
  split front rest hfront := by
    rw [h.split front rest hfront, hfurther.split _ _ (h.free front hfront)]

/-- No null comes or goes. -/
theorem KeepsNull.mem_iff (h : KeepsNull null null' change) (list : List α) :
    null' ∈ change list ↔ null ∈ list := by
  constructor
  · intro hmem
    by_contra hfree
    exact h.free list hfree hmem
  · intro hmem
    obtain ⟨front, rest, rfl, hfront⟩ := List.eq_append_cons_of_mem hmem
    rw [h.split front rest hfront]
    exact List.mem_append_right _ List.mem_cons_self

variable [DecidableEq α] [DecidableEq β]

/-- Without a null all of a list is in front of it. -/
theorem takeWhile_ne_of_not_mem {list : List α} (h : null ∉ list) :
    list.takeWhile (· ≠ null) = list := by
  rw [List.takeWhile_eq_self_iff]
  intro value hvalue
  exact decide_eq_true (ne_of_mem_of_not_mem hvalue h)

/-- What is in front of the first null does not depend on what follows it. -/
theorem takeWhile_ne_append_cons {front : List α} (h : null ∉ front) (rest : List α) :
    (front ++ null :: rest).takeWhile (· ≠ null) = front := by
  rw [List.takeWhile_append_of_pos, List.takeWhile_cons_of_neg (by simp), List.append_nil]
  intro value hvalue
  exact decide_eq_true (ne_of_mem_of_not_mem hvalue h)

/-- It can be cut before or after. -/
theorem KeepsNull.takeWhile (h : KeepsNull null null' change) (list : List α) :
    change (list.takeWhile (· ≠ null)) = (change list).takeWhile (· ≠ null') := by
  by_cases hmem : null ∈ list
  · obtain ⟨front, rest, rfl, hfront⟩ := List.eq_append_cons_of_mem hmem
    rw [takeWhile_ne_append_cons hfront, h.split front rest hfront,
      takeWhile_ne_append_cons (h.free front hfront)]
  · rw [takeWhile_ne_of_not_mem hmem, takeWhile_ne_of_not_mem (h.free list hmem)]

end

section

variable {α β : Type} {null : α} {null' : β}

/-- Value by value, null for null. -/
theorem keepsNull_flatMap {change : α → List β} (hnull : change null = [null'])
    (hfree : ∀ value, null' ∈ change value → value = null) :
    KeepsNull null null' (List.flatMap change) where
  free front hfront hmem := by
    obtain ⟨value, hvalue, hnull'⟩ := List.mem_flatMap.1 hmem
    rw [hfree value hnull'] at hvalue
    exact hfront hvalue
  split front rest _ := by
    rw [List.flatMap_append, List.flatMap_cons, hnull, List.singleton_append]

/-- Changing each value by itself keeps the null if only the null becomes the null. -/
theorem keepsNull_map {change : α → β} (h : ∀ value, change value = null' ↔ value = null) :
    KeepsNull null null' (List.map change) where
  free front hfront hmem := by
    obtain ⟨value, hvalue, hnull'⟩ := List.mem_map.1 hmem
    rw [(h value).1 hnull'] at hvalue
    exact hfront hvalue
  split front rest _ := by
    rw [List.map_append, List.map_cons, (h null).2 rfl]

/-- What is read as null, with something else in place of what cannot be read. -/
theorem keepsNull_getD {other : β} (hother : other ≠ null') :
    KeepsNull (some null') null' (List.map (·.getD other)) := by
  refine keepsNull_map fun value => ?_
  cases value with
  | none => simpa using hother
  | some value => simp

/-- A beginning of a list either ends before the null or has the null in it. -/
theorem prefix_append_cons {front rest list : List α} (h : list <+: front ++ null :: rest) :
    list <+: front ∨ null ∈ list := by
  obtain ⟨tail, htail⟩ := h
  obtain ⟨more, hfront, -⟩ | ⟨more, rfl, hmore⟩ := List.append_eq_append_iff.1 htail
  · exact .inl ⟨more, hfront.symm⟩
  · cases more with
    | nil => exact .inl (by simp)
    | cons value more =>
        obtain ⟨rfl, -⟩ := List.cons.inj hmore
        exact .inr (List.mem_append_right _ List.mem_cons_self)

end

/-! ### UTF-8 -/

namespace Utf8

/-- Of all characters only the null has a zero among its bytes. -/
theorem eq_null_of_zero_mem {c : Char} (h : 0 ∈ encodeChar c) : c = '\x00' := by
  have hvalid : c.toNat < 0xd800 ∨ 0xdfff < c.toNat ∧ c.toNat < 0x110000 := c.valid
  have hbyte {n : Nat} (hn : n < 256) (hzero : 0 = UInt8.ofNat n) : n = 0 := by
    rw [← UInt8.toNat_ofNat_of_lt' hn, ← hzero]
    rfl
  have hnumber : c.toNat = 0 := by
    simp only [encodeChar] at h
    split at h
    · exact hbyte (by omega) (by simpa using h)
    · exfalso
      split at h
      · simp only [List.mem_cons, List.not_mem_nil, or_false] at h
        rcases h with h | h <;> have hzero := hbyte (by omega) h <;> omega
      · split at h
        · simp only [List.mem_cons, List.not_mem_nil, or_false] at h
          rcases h with h | h | h <;> have hzero := hbyte (by omega) h <;> omega
        · simp only [List.mem_cons, List.not_mem_nil, or_false] at h
          rcases h with h | h | h | h <;> have hzero := hbyte (by omega) h <;> omega
  rw [← Char.ofNat_toNat c, hnumber]

/-- No character but the null is written with a null byte. -/
theorem keepsNull_encode : KeepsNull '\x00' 0 encode :=
  keepsNull_flatMap rfl fun _ => eq_null_of_zero_mem

/-- So a zero starts no character but the null. -/
theorem Begins.length_le_one {bytes : Bytes} (h : Begins bytes) (hzero : 0 ∈ bytes) :
    bytes.length ≤ 1 := by
  obtain ⟨c, hc⟩ := h
  obtain rfl := eq_null_of_zero_mem (hc.subset hzero)
  exact hc.length_le

/-- A broken part is broken whatever stands behind a null. -/
theorem Broken.append_zero {part rest : Bytes} (h : Broken part rest) (hfree : 0 ∉ part ++ rest)
    (more : Bytes) : Broken part (rest ++ 0 :: more) where
  ne_nil := h.ne_nil
  no_char := by
    intro c hc
    rw [← List.append_assoc] at hc
    rcases prefix_append_cons hc with hfront | hzero
    · exact h.no_char c hfront
    · -- Only the null would have the zero in it, but something stands in front.
      obtain rfl := eq_null_of_zero_mem hzero
      cases part with
      | nil => exact h.ne_nil rfl
      | cons lead part =>
          obtain ⟨hlead, -⟩ := List.cons_prefix_cons.1 hc
          exact hfree (hlead ▸ List.mem_cons_self)
  start := h.start
  longest := by
    intro longer hlonger hlength hbegins
    rw [← List.append_assoc] at hlonger
    rcases prefix_append_cons hlonger with hfront | hzero
    · exact h.longest longer hfront hlength hbegins
    · have hshort := hbegins.length_le_one hzero
      have hpos : 0 < part.length := List.length_pos_iff.2 h.ne_nil
      omega

/-- A null is never taken into the part in front of it. -/
theorem pieces_split {front : Bytes} (hfront : 0 ∉ front) (rest : Bytes) :
    pieces (front ++ 0 :: rest) = pieces front ++ some '\x00' :: pieces rest := by
  obtain ⟨parts, hcut⟩ := exists_cut front
  induction hcut with
  | nil =>
      have hnil : pieces [] = [] := Cut.nil.pieces_eq
      rw [hnil]
      exact pieces_encodeChar_append '\x00' rest
  | char c _ ih =>
      have hrest := ih (fun hzero => hfront (List.mem_append_right _ hzero))
      rw [List.append_assoc, pieces_encodeChar_append, pieces_encodeChar_append, hrest,
        List.cons_append]
  | broken hbroken _ ih =>
      have hrest := ih (fun hzero => hfront (List.mem_append_right _ hzero))
      rw [List.append_assoc, (hbroken.append_zero hfront rest).pieces_append,
        hbroken.pieces_append, hrest, List.cons_append]

/-- Only a null byte is read as the null character. -/
theorem Cut.null_not_mem {bytes : Bytes} {parts : List Part} (h : Cut bytes parts)
    (hfree : 0 ∉ bytes) : some '\x00' ∉ parts.map Part.char? := by
  induction h with
  | nil => exact List.not_mem_nil
  | char c _ ih =>
      rw [List.mem_append, not_or] at hfree
      rw [List.map_cons, List.mem_cons, not_or]
      refine ⟨fun hnull => ?_, ih hfree.2⟩
      obtain rfl : '\x00' = c := Option.some.inj hnull
      exact hfree.1 List.mem_cons_self
  | broken _ _ ih =>
      rw [List.mem_append, not_or] at hfree
      rw [List.map_cons, List.mem_cons, not_or]
      exact ⟨Option.some_ne_none _, ih hfree.2⟩

/-- Cutting bytes into characters keeps the null, since what is in front of it is cut in the same
way. -/
theorem keepsNull_pieces : KeepsNull 0 (some '\x00') pieces where
  free front hfront := by
    obtain ⟨parts, hcut⟩ := exists_cut front
    rw [hcut.pieces_eq]
    exact hcut.null_not_mem hfront
  split _ rest hfront := pieces_split hfront rest

/-- Mending broken parts puts a replacement character for them, which is not the null. -/
theorem keepsNull_decodeLossy : KeepsNull 0 '\x00' decodeLossy :=
  (keepsNull_getD (by decide)).comp keepsNull_pieces

end Utf8

/-! ### UTF-16 -/

namespace Utf16

/-- In wide text, too, only the null is written with a null unit. -/
theorem eq_null_of_zero_mem {c : Char} (h : 0 ∈ encodeChar c) : c = '\x00' := by
  obtain ⟨unit, hencode, -, -, hc⟩ | ⟨high, low, hencode, hhigh, hlow, -⟩ := encodeChar_cases c
  · rw [hencode, List.mem_singleton] at h
    rw [← hc, ← h]
    rfl
  · rw [hencode, List.mem_cons, List.mem_singleton] at h
    rcases h with rfl | rfl
    · cases hhigh
    · cases hlow

/-- So writing wide text keeps the null. -/
theorem keepsNull_encode : KeepsNull '\x00' 0 encode :=
  keepsNull_flatMap rfl fun _ => eq_null_of_zero_mem

/-- A null is no second half of a pair. -/
theorem Cut.append_zero {front rest : List UInt16} {found after : List (Option Char)}
    (hfront : Cut front found) (hrest : Cut rest after) :
    Cut (front ++ 0 :: rest) (found ++ some '\x00' :: after) := by
  induction hfront with
  | nil => exact .char '\x00' hrest
  | char c _ ih =>
      rw [List.append_assoc]
      exact .char c ih
  | @high unit tail _ hhigh htail _ ih =>
      refine .high hhigh ?_ ih
      cases tail with
      | nil =>
          intro second hsecond
          obtain rfl : 0 = second := Option.some.inj hsecond
          rfl
      | cons second tail => exact htail
  | low hlow _ ih => exact .low hlow ih

/-- Only a null unit is read as the null character. -/
theorem Cut.null_not_mem {units : List UInt16} {found : List (Option Char)} (h : Cut units found)
    (hfree : 0 ∉ units) : some '\x00' ∉ found := by
  induction h with
  | nil => exact List.not_mem_nil
  | char c _ ih =>
      rw [List.mem_append, not_or] at hfree
      rw [List.mem_cons, not_or]
      refine ⟨fun hnull => ?_, ih hfree.2⟩
      obtain rfl : '\x00' = c := Option.some.inj hnull
      exact hfree.1 List.mem_cons_self
  | high _ _ _ ih | low _ _ ih =>
      rw [List.mem_cons, not_or] at hfree ⊢
      exact ⟨Option.some_ne_none _, ih hfree.2⟩

/-- Cutting units into characters keeps the null, as cutting bytes does. -/
theorem keepsNull_pieces : KeepsNull 0 (some '\x00') pieces where
  free front hfront := (cut_pieces front).null_not_mem hfront
  split front rest _ := ((cut_pieces front).append_zero (cut_pieces rest)).pieces_eq

end Utf16

/-! ### Code pages -/

namespace CodePage

/-- Only the byte zero stands for a null. -/
theorem decode_byte_eq_null_iff {page : CodePage} (hpage : page ≠ utf8) :
    ∀ b, page.decode [b] = ['\x00'] ↔ b = 0 := by
  cases page with
  | windows1252 | cp437 => exact forall_byte (by decide +kernel)
  | utf8 => exact absurd rfl hpage

variable (page : CodePage)

/-- Each code page reads only the null byte as the null character. -/
theorem keepsNull_decode : KeepsNull 0 '\x00' page.decode := by
  by_cases hpage : page = utf8
  · rw [hpage]
    exact Utf8.keepsNull_decodeLossy
  · obtain ⟨table, -, -, htable, -⟩ := exists_invertible hpage
    have hnull := decode_byte_eq_null_iff hpage
    simp only [htable, List.map_singleton, List.cons.injEq, and_true] at hnull
    rw [htable]
    exact keepsNull_map hnull

/-- Each code page writes only the null character as the null byte. -/
theorem keepsNull_encode : KeepsNull '\x00' 0 page.encode := by
  by_cases hpage : page = utf8
  · rw [hpage]
    exact Utf8.keepsNull_encode
  · obtain ⟨table, back, hinvertible, htable, hback⟩ := exists_invertible hpage
    have hnull := decode_byte_eq_null_iff hpage
    simp only [htable, List.map_singleton, List.cons.injEq, and_true] at hnull
    rw [hback]
    refine keepsNull_map fun c => ⟨fun hc => ?_, ?_⟩
    · -- A character that got the byte zero is the one which that byte stands for.
      have hsame := (hinvertible.decode_encode c).resolve_right (by rw [hc]; decide)
      rw [← hsame, hc]
      exact (hnull 0).2 rfl
    · rintro rfl
      have hzero := hinvertible.encode_decode 0
      rw [(hnull 0).2 rfl] at hzero
      rw [hzero, if_neg]
      cases page <;> decide

/-- Reading under a page and writing wide text keeps the null. -/
theorem keepsNull_toWide : KeepsNull 0 0 page.toWide :=
  Utf16.keepsNull_encode.comp page.keepsNull_decode

/-- Reading wide text and writing under a page keeps the null. -/
theorem keepsNull_fromWide : KeepsNull 0 0 page.fromWide :=
  page.keepsNull_encode.comp ((keepsNull_getD (by decide)).comp Utf16.keepsNull_pieces)

end CodePage

/-! ### Payloads -/

namespace Utf16

/-- Units that were already read only stand in front. -/
theorem unitsAfter_append (found before : List UInt16) (bytes : Bytes) :
    unitsAfter (found ++ before) bytes = before.reverse ++ unitsAfter found bytes := by
  fun_induction unitsAfter found bytes with
  | case1 found low high rest ih => rw [unitsAfter, ← List.cons_append, ih]
  | case2 found bytes hshort => rw [unitsAfter, List.reverse_append]; exact hshort

/-- Two bytes are one unit. -/
theorem ofBytes_cons (low high : UInt8) (rest : Bytes) :
    ofBytes (low :: high :: rest) = UInt16.ofNat (Bytes.toNat [low, high]) :: ofBytes rest :=
  unitsAfter_append [] [_] rest

/-- A unit is null only if both its bytes are. -/
theorem unit_eq_zero_iff {low high : UInt8} :
    UInt16.ofNat (Bytes.toNat [low, high]) = 0 ↔ low = 0 ∧ high = 0 := by
  have hlow : low.toNat < 256 := low.toNat_lt
  have hhigh : high.toNat < 256 := high.toNat_lt
  have hword : Bytes.toNat [low, high] = low.toNat + 256 * high.toNat := rfl
  have hlt : Bytes.toNat [low, high] < 0x10000 := by omega
  rw [← UInt16.toNat_inj, UInt16.toNat_ofNat_of_lt' hlt, ← UInt8.toNat_inj, ← UInt8.toNat_inj,
    hword, UInt16.toNat_zero, UInt8.toNat_zero]
  omega

/-- The bytes of wide text in front of its first zero unit; all of them if it has none. -/
def beforeNull : Bytes → Bytes
  | low :: high :: rest => if low = 0 ∧ high = 0 then [] else low :: high :: beforeNull rest
  | rest => rest

/-- The units in front of the first null unit are those of the bytes in front of it. -/
theorem ofBytes_beforeNull (bytes : Bytes) :
    ofBytes (beforeNull bytes) = (ofBytes bytes).takeWhile (· ≠ 0) := by
  induction bytes using List.twoStepInduction with
  | nil => rfl
  | singleton low => rfl
  | cons_cons low high rest ih _ =>
      rw [beforeNull, ofBytes_cons, List.takeWhile_cons]
      by_cases hzero : low = 0 ∧ high = 0
      · rw [if_pos hzero, if_neg (by simpa using unit_eq_zero_iff.2 hzero)]
        rfl
      · rw [if_neg hzero, if_pos (by simpa using mt unit_eq_zero_iff.1 hzero), ofBytes_cons, ih]

/-- A unit of its own stands in front of a null unit unless it is one. -/
theorem beforeNull_ofU16 (unit : UInt16) (rest : Bytes) :
    beforeNull (Bytes.ofU16 unit ++ rest) =
      if unit = 0 then [] else Bytes.ofU16 unit ++ beforeNull rest := by
  obtain ⟨low, high, hbytes⟩ := List.length_eq_two.1 (Bytes.length_ofU16 unit)
  have hread := Bytes.u16?_ofU16 unit []
  rw [hbytes] at hread
  obtain ⟨hunit, -⟩ := Prod.mk.inj (Option.some.inj hread)
  rw [hbytes, ← hunit]
  simp only [unit_eq_zero_iff]
  rfl

/-- Writing the units in front of the first null gives the bytes in front of the first null unit. -/
theorem beforeNull_toBytes (units : List UInt16) :
    beforeNull (toBytes units) = toBytes (units.takeWhile (· ≠ 0)) := by
  induction units with
  | nil => rfl
  | cons unit rest ih =>
      have hcons (tail : List UInt16) : toBytes (unit :: tail) = Bytes.ofU16 unit ++ toBytes tail :=
        List.flatMap_cons
      rw [hcons, beforeNull_ofU16, List.takeWhile_cons]
      by_cases hzero : unit = 0
      · rw [if_pos hzero, if_neg (by simpa using hzero)]
        rfl
      · rw [if_neg hzero, if_pos (by simpa using hzero), hcons, ih]

end Utf16

namespace Format

/-- The part of a text in a format that stands in front of its first null; all of it if there is
none. -/
def beforeNull (format : Format) (payload : Bytes) : Bytes :=
  if format = unicodeText then Utf16.beforeNull payload else payload.takeWhile (· ≠ 0)

/-- Whether a text in a format has a null. -/
def HoldsNull (format : Format) (payload : Bytes) : Prop :=
  if format = unicodeText then 0 ∈ Utf16.ofBytes payload else 0 ∈ payload

end Format

namespace TextSettings

variable (settings : TextSettings) (source target : Format)

/-- What a source holds in front of its null is read as the units in front of the first null. -/
theorem wide_beforeNull (payload : Bytes) :
    settings.wide source (source.beforeNull payload) =
      (settings.wide source payload).takeWhile (· ≠ 0) := by
  unfold wide Format.beforeNull
  split
  · exact Utf16.ofBytes_beforeNull payload
  · exact (settings.codePage source).keepsNull_toWide.takeWhile payload

/-- The units in front of the first null are written as what the target holds in front of
its null. -/
theorem written_takeWhile (units : List UInt16) :
    settings.written target (units.takeWhile (· ≠ 0)) =
      target.beforeNull (settings.written target units) := by
  unfold written Format.beforeNull
  split
  · exact (Utf16.beforeNull_toBytes units).symm
  · exact (settings.codePage target).keepsNull_fromWide.takeWhile units

/-- A source is read as units with a null if and only if it holds one. -/
theorem zero_mem_wide (payload : Bytes) :
    0 ∈ settings.wide source payload ↔ source.HoldsNull payload := by
  unfold wide Format.HoldsNull
  split
  · rfl
  · exact (settings.codePage source).keepsNull_toWide.mem_iff payload

/-- A target holds a null if and only if one was written. -/
theorem holdsNull_written (units : List UInt16) :
    target.HoldsNull (settings.written target units) ↔ 0 ∈ units := by
  unfold written Format.HoldsNull
  split
  · rw [Utf16.ofBytes_toBytes]
  · exact (settings.codePage target).keepsNull_fromWide.mem_iff units

/-- Cutting a text before it is converted is cutting what it is converted to. -/
theorem converted_beforeNull (payload : Bytes) :
    settings.converted target source (source.beforeNull payload) =
      target.beforeNull (settings.converted target source payload) := by
  rw [converted, wide_beforeNull, written_takeWhile, converted]

/-- So a null is neither lost nor made by a conversion. -/
theorem holdsNull_converted (payload : Bytes) :
    target.HoldsNull (settings.converted target source payload) ↔ source.HoldsNull payload := by
  rw [converted, holdsNull_written, zero_mem_wide]

/-- Wide text is what any text goes through. -/
theorem converted_through_wide (payload : Bytes) :
    settings.converted target Format.unicodeText
        (settings.converted Format.unicodeText source payload) =
      settings.converted target source payload :=
  congrArg (settings.written target) (Utf16.ofBytes_toBytes (settings.wide source payload))

end TextSettings

/-- A conversion of text neither adds nor drops nor moves its end, whatever the payload: cut at its
first null it is converted to what the whole payload is converted to, cut at the first null there,
and there is one exactly if there was one. Narrow text may as well be made wide first. -/
theorem Data.convert_beforeNull {source target : Format} (hsource : source ∈ Family.text.members)
    (htarget : target ∈ Family.text.members)
    (hnarrow : target ≠ Format.unicodeText ∨ source ≠ Format.unicodeText)
    (settings : TextSettings) (graphics : Graphics) (payload : Bytes) :
    ∃ result,
      (bytes payload).convert graphics target source settings = .ok (bytes result, graphics) ∧
      (bytes (source.beforeNull payload)).convert graphics target source settings =
        .ok (bytes (target.beforeNull result), graphics) ∧
      (target.HoldsNull result ↔ source.HoldsNull payload) ∧
      (target ≠ Format.unicodeText → source ≠ Format.unicodeText → ∃ wide,
        (bytes payload).convert graphics Format.unicodeText source settings =
          .ok (bytes wide, graphics) ∧
        (bytes wide).convert graphics target Format.unicodeText settings =
          .ok (bytes result, graphics)) := by
  have hwide : Format.unicodeText ∈ Family.text.members := by decide
  refine ⟨settings.converted target source payload, ?_, ?_, ?_, ?_⟩
  · exact convert_narrow graphics htarget hsource hnarrow
  · rw [convert_narrow graphics htarget hsource hnarrow, settings.converted_beforeNull]
  · exact settings.holdsNull_converted source target payload
  · intro htarget' hsource'
    refine ⟨settings.converted Format.unicodeText source payload, ?_, ?_⟩
    · exact convert_narrow graphics hwide hsource (.inr hsource')
    · rw [convert_narrow graphics htarget hwide (.inl htarget'), settings.converted_through_wide]

/-- Two bytes of a character of three, a null and one more byte: the null ends the broken part as
it ends the text. -/
theorem Data.convert_broken_beforeNull :
    (bytes [0xe2, 0x82, 0, 0xac]).convert Graphics.empty Format.oemText Format.text
        ⟨0x0411, ⟨.utf8, .windows1252⟩⟩ = .ok (bytes [0x3f, 0, 0x3f], Graphics.empty) ∧
    (bytes [0xe2, 0x82]).convert Graphics.empty Format.oemText Format.text
        ⟨0x0411, ⟨.utf8, .windows1252⟩⟩ = .ok (bytes [0x3f], Graphics.empty) := by
  let settings : TextSettings := ⟨0x0411, ⟨.utf8, .windows1252⟩⟩
  have hsource : Format.text ∈ Family.text.members := by decide
  have htarget : Format.oemText ∈ Family.text.members := by decide
  have hnarrow : Format.oemText ≠ Format.unicodeText ∨ Format.text ≠ Format.unicodeText := by
    decide
  have hbytes : settings.converted Format.oemText Format.text [0xe2, 0x82, 0, 0xac] =
      [0x3f, 0, 0x3f] := by decide +kernel
  have hwhole : (bytes [0xe2, 0x82, 0, 0xac]).convert Graphics.empty Format.oemText Format.text
      settings = .ok (bytes [0x3f, 0, 0x3f], Graphics.empty) := by
    rw [convert_narrow Graphics.empty htarget hsource hnarrow, hbytes]
  obtain ⟨result, hresult, hcut, -, -⟩ := convert_beforeNull hsource htarget hnarrow settings
    Graphics.empty [0xe2, 0x82, 0, 0xac]
  rw [hwhole] at hresult
  cases hresult
  exact ⟨hwhole, hcut⟩

end Pasteboard
