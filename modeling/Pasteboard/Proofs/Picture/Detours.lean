import Pasteboard.Proofs.Picture.Layouts

/-!
# Packed bitmaps moved more than once

Moving a packed bitmap to a layout again changes nothing, and a detour through the long layout is
not seen in the short one. A detour through the short layout loses what only the long one has room
for, and nothing else: see `Dib.moves_compose`. It all comes down to what is behind the shared
fields, which is cut or filled up once for each layout: `Dib.convert?_again`.
-/

namespace Pasteboard

namespace Bytes

variable {bytes : Bytes} {small large : Nat}

theorem take_resize (h : small ≤ large) : (resize large bytes).take small = resize small bytes := by
  have hzeros : min (small - (bytes.take large).length) (large - bytes.length)
      = small - bytes.length := by
    rw [List.length_take]
    omega
  rw [resize, resize, List.take_append, List.take_take, Nat.min_eq_left h, List.take_replicate,
    hzeros]

/-- A larger size in between is not seen. -/
theorem resize_resize (h : small ≤ large) :
    resize small (resize large bytes) = resize small bytes := by
  have hzeros : small - (resize large bytes).length = 0 := by
    rw [length_resize]
    omega
  rw [resize, hzeros, List.replicate_zero, List.append_nil, take_resize h]

theorem resize_of_length (h : bytes.length = small) : resize small bytes = bytes := by
  rw [resize, h, Nat.sub_self, List.replicate_zero, List.append_nil, List.take_of_length_le]
  exact Nat.le_of_eq h

/-- Two byte strings are equally long and differ at most from one place up to another. -/
structure AgreeOutside (first last : Nat) (bytes other : Bytes) : Prop where
  length : other.length = bytes.length
  front : other.take first = bytes.take first
  back : other.drop last = bytes.drop last

end Bytes

namespace DibHeader

variable {header : DibHeader} {layout first second : DibLayout} {source rest : Bytes}

/-- What a source has in front of its colours behind the shared fields. -/
def extras (header : DibHeader) (source : Bytes) : Bytes :=
  (source.take header.headerAndMasksSize).drop Dib.shortSize

/-- How much room a layout has behind the shared fields. -/
def room (header : DibHeader) (layout : DibLayout) : Nat :=
  (header.moved layout).headerAndMasksSize - Dib.shortSize

theorem front_eq_append : header.front layout source =
    header.writeShared layout ++ Bytes.resize (header.room layout) (header.extras source) := rfl

theorem room_short : header.room .short = header.masksSize := by
  rw [room, headerAndMasksSize_moved, Nat.add_sub_cancel_left]

theorem room_long : header.room .long = 84 := by
  rw [room, headerAndMasksSize_moved]
  rfl

/-- A moved bitmap has, in front of its colours, what there was room for. -/
theorem extras_moved :
    (header.moved layout).extras (header.front layout source ++ rest)
      = Bytes.resize (header.room layout) (header.extras source) := by
  rw [extras, List.take_left' length_front, front_eq_append, List.drop_left' length_writeShared]

/-- A header of the size that a layout has is that of the layout already. -/
theorem moved_of_size (hsize : header.size.toNat = layout.size) : header.moved layout = header := by
  have hword : UInt32.ofNat layout.size = header.size := by
    rw [← hsize, UInt32.ofNat_toNat]
  rw [moved, hword]

end DibHeader

namespace Dib

variable {source moved direct : Bytes} {layout first second : DibLayout} {header : DibHeader}

open DibHeader Bytes

theorem convert?_of_infoSize_lt (hparse : DibHeader.parse? source = some header)
    (hlong : header.infoSize < source.length) (layout : DibLayout) :
    convert? source layout =
      some (header.front layout source ++ source.drop header.headerAndMasksSize) :=
  convert?_eq_some_iff.2 ⟨header, hparse, hlong, rfl⟩

/-- Moved to one layout and then to another, a bitmap has the shared fields with the second size,
its extras cut or filled up for the first layout and then for the second one, and all that was
behind. -/
theorem convert?_again (hparse : DibHeader.parse? source = some header)
    (hlong : header.infoSize < source.length) (first second : DibLayout) :
    (convert? source first).bind (convert? · second) = some (header.writeShared second
      ++ resize (header.room second) (resize (header.room first) (header.extras source))
      ++ source.drop header.headerAndMasksSize) := by
  have hmoved : Moved first header source _ := moved_of_infoSize_lt hlong
  rw [convert?_of_infoSize_lt hparse hlong, Option.bind_some,
    convert?_of_infoSize_lt hmoved.parsed hmoved.pixels_follow, List.drop_left' length_front,
    front_eq_append, extras_moved]
  rfl

/-- A layout with no more room than the one in between gets the same as directly. -/
theorem convert?_again_of_room_le (hparse : DibHeader.parse? source = some header)
    (hlong : header.infoSize < source.length) (hroom : header.room second ≤ header.room first) :
    (convert? source first).bind (convert? · second) = convert? source second := by
  rw [convert?_again hparse hlong, convert?_of_infoSize_lt hparse hlong, resize_resize hroom,
    front_eq_append]

/-- A bitmap that has the layout already is not changed. -/
theorem convert?_of_size (hparse : DibHeader.parse? source = some header)
    (hlong : header.infoSize < source.length) (hsize : header.size.toNat = layout.size) :
    convert? source layout = some source := by
  obtain ⟨⟨rest, hread⟩, -, -⟩ := parse?_eq_some_iff.1 hparse
  have hmoved := moved_of_size hsize
  have hinfo := header.headerAndMasksSize_le_infoSize
  have hmasks := header.masks_le_headerAndMasksSize
  have hshared : header.writeShared layout = source.take shortSize := by
    have hfields : (Bytes.ofU32 header.size ++ header.fields).length = shortSize := by
      simp [shortSize]
    have hword : UInt32.ofNat layout.size = header.size := congrArg DibHeader.size hmoved
    rw [writeShared_eq, hword, eq_of_read? hread, ← List.append_assoc, List.take_left' hfields]
  have hextras : (header.extras source).length = header.room layout := by
    rw [extras, room, hmoved, List.length_drop, List.length_take, Nat.min_eq_left (by omega)]
  have hfront : header.front layout source = source.take header.headerAndMasksSize := by
    have htaken : source.take shortSize
        = (source.take header.headerAndMasksSize).take shortSize := by
      rw [List.take_take, Nat.min_eq_left (by omega)]
    rw [front_eq_append, resize_of_length hextras, hshared, htaken, extras, List.take_append_drop]
  rw [convert?_of_infoSize_lt hparse hlong, hfront, List.take_append_drop]

/-- The long header after a detour through the short layout is the one from before up to the end of
the masks. -/
theorem agreeOutside_detour (header : DibHeader) (extras back : Bytes) :
    AgreeOutside (shortSize + header.masksSize) longSize
      (header.writeShared .long ++ resize (header.room .long) extras ++ back)
      (header.writeShared .long
        ++ resize (header.room .long) (resize (header.room .short) extras) ++ back) := by
  have hroom : header.room .short ≤ header.room .long := by
    have hmasks := header.masksSize_le
    rw [room_short, room_long]
    omega
  have hfront (behind : Bytes) :
      (header.writeShared .long ++ resize (header.room .long) behind).length = longSize := by
    rw [List.length_append, length_writeShared, length_resize, room_long]
    rfl
  have htake (behind : Bytes) :
      (header.writeShared .long ++ resize (header.room .long) behind ++ back).take
          (shortSize + header.masksSize)
        = header.writeShared .long ++ resize header.masksSize behind := by
    have hmasks : header.masksSize ≤ header.room .long := room_short ▸ hroom
    rw [List.append_assoc, ← header.length_writeShared, List.take_length_add_append,
      List.take_append_of_le_length (by rw [length_resize]; exact hmasks), take_resize hmasks]
  constructor
  case length => rw [List.length_append, hfront, List.length_append, hfront]
  case front => rw [htake, htake, room_short, resize_resize (Nat.le_refl _)]
  case back => rw [List.drop_left' (hfront _), List.drop_left' (hfront _)]

/-- Whether a packed bitmap can be moved does not depend on the layout, and moving it once more does
not change it. The short layout gets the same by way of the long one; by way of the short one, the
long layout differs at most behind the shared fields and masks and in front of the colours. A bitmap
with the header of a layout is that of the layout already, and the short one survives the long
one. -/
theorem moves_compose (source : Bytes) :
    ((convert? source .short).isSome ↔ (convert? source .long).isSome) ∧
    ∀ header direct, DibHeader.parse? source = some header → convert? source .long = some direct →
      (∀ layout, (convert? source layout).bind (convert? · layout) = convert? source layout) ∧
      (convert? source .long).bind (convert? · .short) = convert? source .short ∧
      (∃ detour, (convert? source .short).bind (convert? · .long) = some detour ∧
        AgreeOutside (if header.compression = masked then 52 else 40) 124 direct detour) ∧
      (header.size = 40 → convert? source .short = some source ∧
        (convert? source .long).bind (convert? · .short) = some source) ∧
      (header.size = 124 → direct = source) := by
  constructor
  · have haccepted (layout : DibLayout) : (convert? source layout).isSome ↔
        ∃ header, DibHeader.parse? source = some header ∧ header.infoSize < source.length := by
      simp only [Option.isSome_iff_exists, convert?_eq_some_iff]
      constructor
      · rintro ⟨_, header, hparse, hlong, -⟩
        exact ⟨header, hparse, hlong⟩
      · rintro ⟨header, hparse, hlong⟩
        exact ⟨_, header, hparse, hlong, rfl⟩
    rw [haccepted, haccepted]
  · intro header direct hparse hdirect
    obtain ⟨found, hfound, hlong, rfl⟩ := convert?_eq_some_iff.1 hdirect
    cases hparse.symm.trans hfound
    -- The long layout has room for all that the short one keeps.
    have hlower : (convert? source .long).bind (convert? · .short) = convert? source .short := by
      refine convert?_again_of_room_le hparse hlong ?_
      have hmasks := header.masksSize_le
      rw [room_short, room_long]
      omega
    refine ⟨fun layout => convert?_again_of_room_le hparse hlong (Nat.le_refl _), hlower,
      ⟨_, convert?_again hparse hlong .short .long, ?_⟩, fun hsize => ?_, fun hsize => ?_⟩
    · have hplace :
          shortSize + header.masksSize = if header.compression = masked then 52 else 40 := by
        rw [masksSize]
        split <;> rfl
      rw [← hplace]
      exact agreeOutside_detour header (header.extras source) _
    · have hsame : convert? source .short = some source :=
        convert?_of_size hparse hlong (by rw [hsize]; rfl)
      exact ⟨hsame, hlower.trans hsame⟩
    · have hsame : convert? source .long = some source :=
        convert?_of_size hparse hlong (by rw [hsize]; rfl)
      exact Option.some.inj (hdirect.symm.trans hsame)

/-- One pixel of a single colour under the header of a layout, with zeros behind the fields. -/
def plainPixel (layout : DibLayout) : Bytes :=
  [UInt8.ofNat layout.size, 0, 0, 0, 1, 0, 0, 0, 1, 0, 0, 0, 1, 0, 8, 0, 0, 0, 0, 0, 4, 0, 0, 0,
    0, 0, 0, 0, 0, 0, 0, 0, 1, 0, 0, 0, 0, 0, 0, 0]
  ++ List.replicate (layout.size - shortSize) 0 ++ [0x33, 0x66, 0x99, 0] ++ [0, 0, 0, 0]

set_option maxRecDepth 2000 in
/-- The alpha mask of a masked pixel does not survive the short layout, but all else does. A plain
pixel under a short header survives the long layout, under a long one it is not changed by it. -/
theorem pixels_moved_twice :
    (∃ header direct detour, DibHeader.parse? maskedPixel = some header ∧
      convert? maskedPixel .long = some direct ∧
      (convert? maskedPixel .short).bind (convert? · .long) = some detour ∧
      direct[53]? = some 0x80 ∧ detour[53]? = some 0 ∧ AgreeOutside 52 124 direct detour ∧
      (convert? maskedPixel .long).bind (convert? · .short) = convert? maskedPixel .short) ∧
    (∃ header direct, DibHeader.parse? (plainPixel .short) = some header ∧ header.size = 40 ∧
      convert? (plainPixel .short) .long = some direct ∧
      (convert? (plainPixel .short) .long).bind (convert? · .short) = some (plainPixel .short)) ∧
    ∃ header direct, DibHeader.parse? (plainPixel .long) = some header ∧ header.size = 124 ∧
      convert? (plainPixel .long) .long = some direct ∧ direct = plainPixel .long := by
  refine ⟨?_, ?_, ?_⟩
  · obtain ⟨-, hlower, ⟨detour, hdetour, hagree⟩, -, -⟩ :=
      (moves_compose maskedPixel).2 _ _ rfl rfl
    have hfound : detour[53]? = some 0 := by
      cases hdetour
      rfl
    exact ⟨_, _, detour, rfl, rfl, hdetour, rfl, hfound, hagree, hlower⟩
  · obtain ⟨-, -, -, hback, -⟩ := (moves_compose (plainPixel .short)).2 _ _ rfl rfl
    exact ⟨_, _, rfl, rfl, rfl, (hback rfl).2⟩
  · obtain ⟨-, -, -, -, hsame⟩ := (moves_compose (plainPixel .long)).2 _ _ rfl rfl
    exact ⟨_, _, rfl, rfl, rfl, hsame rfl⟩

end Dib
end Pasteboard
