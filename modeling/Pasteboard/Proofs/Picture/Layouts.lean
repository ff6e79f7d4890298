import Pasteboard.Picture.Dib

/-!
# Packed bitmaps moved between layouts

A packed bitmap can be moved to a layout if and only if its header parses and pixels follow its
colours; what comes out has the fields, the masks, the colours and the pixels of the source, each
where its own header says: see `Dib.convert?_moves`. The size that the source claims may be any,
also between those of the two layouts, so that masks lie behind the header or inside it.
-/

namespace Pasteboard

namespace Bytes

variable {bytes front rest : Bytes} {first last size : Nat}

/-- The bytes from one place up to another, if the places lie in the byte string in this order. -/
def slice? (first last : Nat) (bytes : Bytes) : Option Bytes :=
  if first ≤ last ∧ last ≤ bytes.length then some ((bytes.take last).drop first) else none

/-- A slice between two places of the byte string is there. -/
theorem slice?_of_le (hfirst : first ≤ last) (hlast : last ≤ bytes.length) :
    slice? first last bytes = some ((bytes.take last).drop first) :=
  if_pos ⟨hfirst, hlast⟩

/-- A slice of the front does not depend on what follows. -/
theorem slice?_append_left (hlast : last ≤ front.length) :
    slice? first last (front ++ rest) = slice? first last front := by
  have hboth : last ≤ (front ++ rest).length := by
    rw [List.length_append]
    omega
  simp only [slice?, hlast, hboth, and_true, List.take_append_of_le_length hlast]

/-- A slice behind the front is the slice of the rest that lies as far from its beginning. -/
theorem slice?_append_right (front rest : Bytes) (first last : Nat) :
    slice? (front.length + first) (front.length + last) (front ++ rest)
      = slice? first last rest := by
  have hboth : (front.length + first ≤ front.length + last ∧
      front.length + last ≤ (front ++ rest).length) ↔ first ≤ last ∧ last ≤ rest.length := by
    rw [List.length_append]
    omega
  simp only [slice?, hboth, List.take_length_add_append, List.drop_length_add_append]

/-- A slice that ends before the cut is the same in the front part. -/
theorem slice?_take (hsize : last ≤ size) :
    slice? first last (bytes.take size) = slice? first last bytes := by
  have hlength : last ≤ (bytes.take size).length ↔ last ≤ bytes.length := by
    rw [List.length_take]
    omega
  simp only [slice?, hlength, List.take_take, Nat.min_eq_left hsize]

/-- A slice of the back part lies behind the cut in the whole. -/
theorem slice?_drop (hsize : size ≤ bytes.length) :
    slice? first last (bytes.drop size) = slice? (size + first) (size + last) bytes := by
  have hlength : (bytes.take size).length = size := List.length_take_of_le hsize
  have hsplit := slice?_append_right (bytes.take size) (bytes.drop size) first last
  rw [List.take_append_drop, hlength] at hsplit
  exact hsplit.symm

/-- Places that fit the size are not changed by cutting or filling up. -/
theorem slice?_resize (hsize : last ≤ size) (hlast : last ≤ bytes.length) :
    slice? first last (resize size bytes) = slice? first last bytes := by
  have htaken : last ≤ (bytes.take size).length := by
    rw [List.length_take]
    omega
  rw [resize, slice?_append_left htaken, slice?_take hsize]

/-- Cutting or filling up to a size gives that size. -/
@[simp] theorem length_resize : (resize size bytes).length = size := by
  rw [resize, List.length_append, List.length_take, List.length_replicate]
  omega

/-- A front that fits the size is kept. -/
theorem resize_append (hsize : front.length ≤ size) :
    resize size (front ++ rest) = front ++ resize (size - front.length) rest := by
  have hgap : size - (front ++ rest).length = size - front.length - rest.length := by
    rw [List.length_append]
    omega
  rw [resize, resize, List.take_append, List.take_of_length_le hsize, hgap, List.append_assoc]

/-- A signed word that was read stands at the front. -/
theorem eq_of_i32? {word : Int32} (h : i32? bytes = some (word, rest)) :
    bytes = ofI32 word ++ rest := by
  obtain ⟨⟨unsigned, rest'⟩, hread, hword⟩ := Option.map_eq_some_iff.1 h
  cases hword
  rw [eq_of_u32? hread]
  rfl

end Bytes

namespace DibHeader

variable {header : DibHeader} {bytes rest : Bytes} {layout : DibLayout}

/-- The header with the size of a layout. -/
def moved (header : DibHeader) (layout : DibLayout) : DibHeader :=
  { header with size := UInt32.ofNat layout.size }

/-- The shared fields behind the size. -/
def fields (header : DibHeader) : Bytes :=
  (header.writeShared .short).drop 4

/-- There are nine words behind the size. -/
@[simp] theorem length_fields : header.fields.length = 36 := by
  simp [fields, writeShared]

/-- A layout writes its own size and then the fields, which are the same under both. -/
theorem writeShared_eq :
    header.writeShared layout = Bytes.ofU32 (UInt32.ofNat layout.size) ++ header.fields := by
  rw [fields, writeShared, writeShared, List.drop_left' (Bytes.length_ofU32 _)]

/-- Fields that were read stand at the front, the claimed size before them. -/
theorem eq_of_read? (h : read? bytes = some (header, rest)) :
    bytes = Bytes.ofU32 header.size ++ (header.fields ++ rest) := by
  simp only [read?, bind, Option.bind_eq_some_iff, Prod.exists] at h
  obtain ⟨size, _, h₁, width, _, h₂, height, _, h₃, planes, _, h₄, bitCount, _, h₅, compression, _,
    h₆, sizeImage, _, h₇, xPels, _, h₈, yPels, _, h₉, clrUsed, _, h₁₀, clrImportant, _, h₁₁, h⟩ := h
  cases h
  rw [Bytes.eq_of_u32? h₁, Bytes.eq_of_i32? h₂, Bytes.eq_of_i32? h₃, Bytes.eq_of_u16? h₄,
    Bytes.eq_of_u16? h₅, Bytes.eq_of_u32? h₆, Bytes.eq_of_u32? h₇, Bytes.eq_of_i32? h₈,
    Bytes.eq_of_i32? h₉, Bytes.eq_of_u32? h₁₀, Bytes.eq_of_u32? h₁₁, fields, writeShared,
    List.drop_left' (Bytes.length_ofU32 _)]
  simp only [List.append_assoc]

/-- The fields that a layout writes are read again, with the size of the layout. -/
theorem read?_writeShared :
    read? (header.writeShared layout ++ rest) = some (header.moved layout, rest) := by
  simp [read?, writeShared, moved]

/-- A header is parsed if its fields are there, and the size that it claims covers them and is
covered by the bytes. -/
theorem parse?_eq_some_iff : parse? bytes = some header ↔
    (∃ rest, read? bytes = some (header, rest)) ∧
      Dib.shortSize ≤ header.size.toNat ∧ header.size.toNat ≤ bytes.length := by
  unfold parse?
  cases hread : read? bytes with
  | none => simp
  | some result =>
      obtain ⟨found, rest⟩ := result
      by_cases hsize : found.size.toNat < Dib.shortSize ∨ bytes.length < found.size.toNat
      · simp only [Bool.or_eq_true, decide_eq_true_eq, hsize, if_true, reduceCtorEq, false_iff]
        rintro ⟨⟨rest', hread'⟩, hbounds⟩
        cases hread'
        omega
      · simp only [Bool.or_eq_true, decide_eq_true_eq, hsize, if_false]
        constructor
        · intro hfound
          cases hfound
          exact ⟨⟨rest, rfl⟩, by omega⟩
        · rintro ⟨⟨rest', hread'⟩, -⟩
          cases hread'
          rfl

/-! ## Sizes under a layout -/

/-- After a move the size is that of the layout, whatever it was before. -/
@[simp] theorem toNat_size_moved : (header.moved layout).size.toNat = layout.size := by
  cases layout <;> rfl

@[simp] theorem colors_moved : (header.moved layout).colors = header.colors := rfl

@[simp] theorem masksSize_moved : (header.moved layout).masksSize = header.masksSize := rfl

/-- There are three masks of a word at most. -/
theorem masksSize_le : header.masksSize ≤ 12 := by
  unfold masksSize
  split <;> omega

/-- A masked bitmap has all three. -/
theorem masksSize_of_masked (h : header.compression = Dib.masked) : header.masksSize = 12 :=
  if_pos h

/-- The long layout has room for the masks, the short one is followed by them. -/
theorem headerAndMasksSize_moved : (header.moved layout).headerAndMasksSize =
    match layout with
    | .short => Dib.shortSize + header.masksSize
    | .long => Dib.longSize := by
  have hmasks := header.masksSize_le
  cases layout <;>
    simp only [headerAndMasksSize, toNat_size_moved, masksSize_moved, DibLayout.size, Dib.shortSize,
      Dib.longSize] <;> omega

/-- The claimed size is covered by header and masks. -/
theorem size_le_headerAndMasksSize : header.size.toNat ≤ header.headerAndMasksSize :=
  Nat.le_max_left ..

theorem masks_le_headerAndMasksSize :
    Dib.shortSize + header.masksSize ≤ header.headerAndMasksSize :=
  Nat.le_max_right ..

/-- Colours come behind the masks. -/
theorem headerAndMasksSize_le_infoSize : header.headerAndMasksSize ≤ header.infoSize :=
  Nat.le_add_right ..

/-- What a layout puts in front of colours and pixels: the fields, and what stood behind them in the
source as far as there is room. -/
def front (header : DibHeader) (layout : DibLayout) (source : Bytes) : Bytes :=
  header.writeShared layout ++
    Bytes.resize ((header.moved layout).headerAndMasksSize - Dib.shortSize)
      ((source.take header.headerAndMasksSize).drop Dib.shortSize)

/-- What a layout writes of the fields is as long as a short header. -/
theorem length_writeShared : (header.writeShared layout).length = Dib.shortSize := by
  simp [writeShared, Dib.shortSize]

/-- The front for a layout ends where its masks end. -/
theorem length_front {source : Bytes} :
    (header.front layout source).length = (header.moved layout).headerAndMasksSize := by
  have hroom := (header.moved layout).masks_le_headerAndMasksSize
  rw [front, List.length_append, length_writeShared, Bytes.length_resize]
  omega

end DibHeader

namespace Dib

variable {source result : Bytes} {layout : DibLayout} {header : DibHeader}

open DibHeader Bytes

/-- Setting the size in a header that is cut to its layout leaves the fields and what is behind. -/
theorem front_eq (hparse : DibHeader.parse? source = some header) :
    Bytes.ofU32 (UInt32.ofNat layout.size) ++
        (Bytes.resize (header.moved layout).headerAndMasksSize
          (source.take header.headerAndMasksSize)).drop 4
      = header.front layout source := by
  obtain ⟨⟨rest, hread⟩, -, -⟩ := parse?_eq_some_iff.1 hparse
  let fixed := Bytes.ofU32 header.size ++ header.fields
  have hfixed : fixed.length = Dib.shortSize := by
    simp [fixed, Dib.shortSize]
  have hsource : source = fixed ++ rest := by
    rw [List.append_assoc]
    exact eq_of_read? hread
  have hroom : fixed.length ≤ header.headerAndMasksSize := by
    rw [hfixed]
    exact Nat.le_trans (Nat.le_add_right ..) masks_le_headerAndMasksSize
  have htarget : fixed.length ≤ (header.moved layout).headerAndMasksSize := by
    rw [hfixed]
    exact Nat.le_trans (Nat.le_add_right ..) masks_le_headerAndMasksSize
  have htaken : source.take header.headerAndMasksSize
      = fixed ++ rest.take (header.headerAndMasksSize - fixed.length) := by
    rw [hsource, List.take_append, List.take_of_length_le hroom]
  have hbehind : (source.take header.headerAndMasksSize).drop Dib.shortSize
      = rest.take (header.headerAndMasksSize - fixed.length) := by
    rw [htaken, List.drop_left' hfixed]
  rw [front, hbehind, htaken, resize_append htarget, hfixed, writeShared_eq, List.append_assoc,
    List.append_assoc, List.drop_left' (Bytes.length_ofU32 _)]

/-- Given the header, a bitmap is moved unless no pixels follow its colours. -/
theorem convert?_of_parse? (hparse : DibHeader.parse? source = some header) :
    convert? source layout = if source.length ≤ header.infoSize then none
      else some (header.front layout source ++ source.drop header.headerAndMasksSize) := by
  cases layout <;> simp only [convert?, hparse, ← front_eq hparse, headerAndMasksSize_moved]

/-- What comes out is the front for the layout, and all that the source has behind its masks. -/
theorem convert?_eq_some_iff : convert? source layout = some result ↔
    ∃ header, DibHeader.parse? source = some header ∧ header.infoSize < source.length ∧
      result = header.front layout source ++ source.drop header.headerAndMasksSize := by
  cases hparse : DibHeader.parse? source with
  | none => simp [convert?, hparse]
  | some header =>
      rw [convert?_of_parse? hparse]
      by_cases hlong : source.length ≤ header.infoSize
      · simp [hlong, Nat.not_lt.2 hlong]
      · simp [hlong, Nat.not_le.1 hlong, eq_comm]

/-- What a packed bitmap keeps when it is moved to a layout. Every slice is there, and colours and
pixels are those between the places that each header gives. -/
structure Moved (layout : DibLayout) (header : DibHeader) (source result : Bytes) : Prop where
  parsed : DibHeader.parse? result = some (header.moved layout)
  pixels_follow : (header.moved layout).infoSize < result.length
  masks : header.compression = masked →
    ∃ masks, slice? 40 52 source = some masks ∧ slice? 40 52 result = some masks
  /-- What else stands behind the shared fields is kept as far as both sizes reach. -/
  extras : ∃ extras,
    slice? 40 (min header.headerAndMasksSize (header.moved layout).headerAndMasksSize) source
        = some extras ∧
      slice? 40 (min header.headerAndMasksSize (header.moved layout).headerAndMasksSize) result
        = some extras
  colors : ∃ colors,
    slice? header.headerAndMasksSize header.infoSize source = some colors ∧
      slice? (header.moved layout).headerAndMasksSize (header.moved layout).infoSize result
        = some colors
  pixels : ∃ pixels,
    slice? header.infoSize source.length source = some pixels ∧
      slice? (header.moved layout).infoSize result.length result = some pixels

/-- Behind the shared fields the front for a layout agrees with the source. -/
theorem slice?_front {last : Nat} (hfirst : 40 ≤ last) (hsource : last ≤ source.length)
    (hlast : last ≤ header.headerAndMasksSize)
    (hroom : last ≤ (header.moved layout).headerAndMasksSize) :
    slice? 40 last (header.front layout source) = slice? 40 last source := by
  obtain ⟨count, rfl⟩ := Nat.exists_eq_add_of_le hfirst
  have htaken : 40 + count ≤ (source.take header.headerAndMasksSize).length := by
    rw [List.length_take]
    omega
  have hbehind : count ≤ ((source.take header.headerAndMasksSize).drop shortSize).length := by
    rw [List.length_drop, shortSize]
    omega
  have hsize : count ≤ (header.moved layout).headerAndMasksSize - shortSize := by
    rw [shortSize]
    omega
  have hfront := slice?_append_right (header.writeShared layout)
    (resize ((header.moved layout).headerAndMasksSize - shortSize)
      ((source.take header.headerAndMasksSize).drop shortSize)) 0 count
  rw [length_writeShared] at hfront
  calc slice? 40 (40 + count) (header.front layout source)
      = slice? 0 count ((source.take header.headerAndMasksSize).drop shortSize) :=
        hfront.trans (slice?_resize hsize hbehind)
    _ = slice? 40 (40 + count) (source.take header.headerAndMasksSize) :=
        slice?_drop (Nat.le_trans (Nat.le_add_right 40 count) htaken)
    _ = slice? 40 (40 + count) source := slice?_take hlast

/-- What stands behind the fields of the source, and fits the layout, is there in the front. -/
theorem exists_slice?_front {last : Nat} (hfixed : header.headerAndMasksSize ≤ source.length)
    (hfirst : 40 ≤ last) (hlast : last ≤ header.headerAndMasksSize)
    (hroom : last ≤ (header.moved layout).headerAndMasksSize) :
    ∃ kept, slice? 40 last source = some kept ∧
      slice? 40 last (header.front layout source ++ source.drop header.headerAndMasksSize)
        = some kept := by
  have hsource := slice?_of_le hfirst (Nat.le_trans hlast hfixed)
  refine ⟨_, hsource, ?_⟩
  rw [slice?_append_left (length_front ▸ hroom),
    slice?_front hfirst (Nat.le_trans hlast hfixed) hlast hroom, hsource]

/-- A slice that lies behind the masks is found again behind the front. -/
theorem slice?_behind_front (layout : DibLayout) (first last : Nat)
    (h : header.headerAndMasksSize ≤ source.length) :
    slice? ((header.moved layout).headerAndMasksSize + first)
        ((header.moved layout).headerAndMasksSize + last)
        (header.front layout source ++ source.drop header.headerAndMasksSize)
      = slice? (header.headerAndMasksSize + first) (header.headerAndMasksSize + last) source := by
  have hright := slice?_append_right (header.front layout source)
    (source.drop header.headerAndMasksSize) first last
  rw [length_front] at hright
  exact hright.trans (slice?_drop h)

/-- What is put together for a layout is as long as its header, its masks and all behind the masks
of the source. -/
theorem length_front_append (layout : DibLayout) :
    (header.front layout source ++ source.drop header.headerAndMasksSize).length =
      (header.moved layout).headerAndMasksSize + (source.length - header.headerAndMasksSize) := by
  rw [List.length_append, length_front, List.length_drop]

/-- The header that is read again has the fields of the source and the size of the layout. -/
theorem parse?_front_append (layout : DibLayout) (rest : Bytes) :
    DibHeader.parse? (header.front layout source ++ rest) = some (header.moved layout) := by
  refine parse?_eq_some_iff.2 ⟨?_, ?_, ?_⟩
  · rw [front, List.append_assoc]
    exact ⟨_, read?_writeShared⟩
  · rw [toNat_size_moved]
    cases layout <;> decide
  · have hsize := (header.moved layout).size_le_headerAndMasksSize
    rw [List.length_append, length_front]
    omega

/-- What is put together for a layout keeps all that the layout has room for. -/
theorem moved_of_infoSize_lt (hlong : header.infoSize < source.length) :
    Moved layout header source
      (header.front layout source ++ source.drop header.headerAndMasksSize) := by
  have hinfo := header.headerAndMasksSize_le_infoSize
  have hmasks := header.masks_le_headerAndMasksSize
  have hroom := (header.moved layout).masks_le_headerAndMasksSize
  have hfixed : header.headerAndMasksSize ≤ source.length := by omega
  constructor
  case parsed => exact parse?_front_append layout _
  case pixels_follow =>
    rw [length_front_append, infoSize, colors_moved]
    rw [infoSize] at hlong
    omega
  case masks =>
    -- Masked bitmaps have room for all three masks behind the short header in both layouts.
    intro hmasked
    have hsame : (header.moved layout).masksSize = 12 := masksSize_of_masked hmasked
    rw [masksSize_of_masked hmasked, shortSize] at hmasks
    rw [hsame, shortSize] at hroom
    exact exists_slice?_front hfixed (by decide) hmasks hroom
  case extras =>
    rw [shortSize] at hmasks hroom
    exact exists_slice?_front hfixed (by omega) (Nat.min_le_left ..) (Nat.min_le_right ..)
  case colors =>
    have hcolors : slice? header.headerAndMasksSize header.infoSize source = some _ :=
      slice?_of_le hinfo (Nat.le_of_lt hlong)
    have hmoved := slice?_behind_front layout 0 (header.colors * 4) hfixed
    exact ⟨_, hcolors, hmoved.trans hcolors⟩
  case pixels =>
    have hpixels : slice? header.infoSize source.length source = some _ :=
      slice?_of_le (Nat.le_of_lt hlong) (Nat.le_refl _)
    have hmoved := slice?_behind_front layout (header.colors * 4)
      (source.length - header.headerAndMasksSize) hfixed
    rw [Nat.add_sub_of_le hfixed, ← length_front_append] at hmoved
    exact ⟨_, hpixels, hmoved.trans hpixels⟩

/-- A packed bitmap can be moved to a layout if and only if its header parses and pixels follow its
colours, and then masks, colours and pixels are where the new header says. -/
theorem convert?_moves (source : Bytes) (layout : DibLayout) :
    ((∃ result, convert? source layout = some result) ↔
      ∃ header, DibHeader.parse? source = some header ∧ header.infoSize < source.length) ∧
    ∀ header result, DibHeader.parse? source = some header →
      convert? source layout = some result → Moved layout header source result := by
  constructor
  · constructor
    · rintro ⟨result, hresult⟩
      obtain ⟨header, hparse, hlong, -⟩ := convert?_eq_some_iff.1 hresult
      exact ⟨header, hparse, hlong⟩
    · rintro ⟨header, hparse, hlong⟩
      exact ⟨_, convert?_eq_some_iff.2 ⟨header, hparse, hlong, rfl⟩⟩
  · intro header result hparse hresult
    obtain ⟨found, hfound, hlong, rfl⟩ := convert?_eq_some_iff.1 hresult
    cases hparse.symm.trans hfound
    exact moved_of_infoSize_lt hlong

/-- One masked pixel of 16 bits and one colour under a header of 56 bytes, which is longer than the
short one by the masks for red, green, blue and alpha. -/
def maskedPixel : Bytes :=
  [56, 0, 0, 0, 1, 0, 0, 0, 1, 0, 0, 0, 1, 0, 16, 0, 3, 0, 0, 0, 4, 0, 0, 0, 0, 0, 0, 0, 0, 0, 0, 0,
    1, 0, 0, 0, 0, 0, 0, 0] ++ [0, 0x7c, 0, 0, 0xe0, 3, 0, 0, 0x1f, 0, 0, 0, 0, 0x80, 0, 0]
    ++ [9, 8, 7, 0] ++ [0x34, 0x12, 0, 0]

/-- The alpha mask is lost in the short layout, the colour moves up and the pixel stays last. -/
theorem masked_pixel_moved : ∃ header result, DibHeader.parse? maskedPixel = some header ∧
    convert? maskedPixel .short = some result ∧ result.drop 52 = [9, 8, 7, 0, 0x34, 0x12, 0, 0] ∧
    Moved .short header maskedPixel result :=
  ⟨_, _, rfl, rfl, rfl, (convert?_moves maskedPixel .short).2 _ _ rfl rfl⟩

end Dib
end Pasteboard
