import Pasteboard.Proofs.Payload.Results
import Pasteboard.Proofs.Picture.Detours

/-!
# Bitmaps by any path

A bitmap with whole pixels has the same rows after it was a packed bitmap, `Object.ofDib?_packed`,
and a packed bitmap makes the same bitmap after it was moved to another layout,
`Dib.ofDib?_convert?`. So it does not matter which member of the raster family another one was made
from: `Data.raster_paths_agree`. Only the type, the planes and the row field of a bitmap header have
no place in a packed bitmap.
-/

namespace Pasteboard

namespace Bytes

variable {bytes : Bytes} {size stride count : Nat}

/-- No byte is lost between rows. -/
theorem flatten_rows (size : Nat) (bytes : Bytes) : (rows size bytes).flatten = bytes := by
  fun_induction rows size bytes with
  | case1 => rfl
  | case2 b rest ih => rw [List.flatten_cons, ih, List.cons_append, List.take_append_drop]

/-- Rows that were put together are cut apart again. -/
theorem rows_flatten (hsize : 0 < size) {list : List Bytes} (h : ∀ row ∈ list, row.length = size) :
    rows size list.flatten = list := by
  induction list with
  | nil => rw [List.flatten_nil, rows]
  | cons row list ih =>
      have hrow : row.length = size := h row List.mem_cons_self
      cases row with
      | nil => exact absurd hrow (Nat.ne_of_lt hsize)
      | cons b tail =>
          have htail : tail.length = size - 1 := by
            rw [← hrow, List.length_cons, Nat.add_sub_cancel]
          have hlist := ih fun row hmem => h row (List.mem_cons_of_mem _ hmem)
          rw [List.flatten_cons, List.cons_append, rows, List.take_left' htail,
            List.drop_left' htail, hlist]

/-- Rows that were filled up are cut back. -/
theorem flatMap_take_rows (hsize : 0 < size) (hstride : size ≤ stride)
    (h : bytes.length = size * count) :
    (rows stride ((rows size bytes).flatMap (resize stride))).flatMap (·.take size) = bytes := by
  have hrows := (length_rows hsize h).2
  have hfilled : ∀ row ∈ (rows size bytes).map (resize stride), row.length = stride := by
    intro row hrow
    obtain ⟨row, -, rfl⟩ := List.mem_map.1 hrow
    exact length_resize
  have hback : ∀ row ∈ rows size bytes, (resize stride row).take size = row := by
    intro row hrow
    rw [take_resize hstride, resize_of_length (hrows row hrow)]
  have hcut : rows stride ((rows size bytes).flatMap (resize stride)) =
      (rows size bytes).map (resize stride) := by
    rw [List.flatMap_def, rows_flatten (Nat.lt_of_lt_of_le hsize hstride) hfilled]
  rw [hcut, List.flatMap_map, List.flatMap_def, List.map_congr_left hback, List.map_id',
    flatten_rows]

/-- A slice up to the end is all that is behind its first place. -/
theorem drop_of_slice? {first : Nat} {slice : Bytes}
    (h : slice? first bytes.length bytes = some slice) : bytes.drop first = slice := by
  obtain ⟨-, hslice⟩ := Option.ite_none_right_eq_some.1 h
  rw [List.take_of_length_le (Nat.le_refl _)] at hslice
  exact Option.some.inj hslice

end Bytes

namespace DibHeader

variable (header : DibHeader) (layout : DibLayout)

/-- Whole pixels need neither masks nor colours. -/
theorem infoSize_ofSize {width height : Int32} {depth : UInt16} (hdepth : depth = 24 ∨ depth = 32) :
    ((ofSize width height depth).moved layout).infoSize = layout.size := by
  have hmasks : ((ofSize width height depth).moved layout).masksSize = 0 := rfl
  have hcolors : ((ofSize width height depth).moved layout).colors = 0 := by
    rcases hdepth with rfl | rfl <;> rfl
  rw [infoSize, headerAndMasksSize, hmasks, hcolors, toNat_size_moved]
  cases layout <;> rfl

end DibHeader

namespace Object

/-- The bitmap of a header and the bytes behind its colours. -/
def ofPixels? (dib : DibHeader) (pixels : Bytes) : Option Object :=
  let height := dib.height.toInt.natAbs
  let stride := Dib.rowStride dib.width dib.bitCount
  if dib.bitCount ≠ 24 ∧ dib.bitCount ≠ 32 then none
  else if pixels.length < stride * height then none
  else
    let stored := Bytes.rows stride (pixels.take (stride * height))
    let rows := if 0 < dib.height then stored.reverse else stored
    some (ofRows dib.width (Int32.ofNat height) dib.bitCount
      (rows.flatMap fun row => row.take (BitmapHeader.rowBytes dib.width dib.bitCount)))

/-- Of a packed bitmap only the fields and what is behind the colours count. -/
theorem ofDib?_eq_ofPixels? {bytes : Bytes} {dib : DibHeader}
    (hparse : DibHeader.parse? bytes = some dib) (hinfo : dib.infoSize ≤ bytes.length) :
    ofDib? bytes = ofPixels? dib (bytes.drop dib.infoSize) := by
  have hroom (size : Nat) :
      bytes.length < dib.infoSize + size ↔ (bytes.drop dib.infoSize).length < size := by
    rw [List.length_drop]
    omega
  simp only [ofDib?, hparse, ofPixels?, hroom]

theorem ofPixels?_moved (dib : DibHeader) (layout : DibLayout) (pixels : Bytes) :
    ofPixels? (dib.moved layout) pixels = ofPixels? dib pixels := rfl

/-- A positive height turned negative is as many rows, which are not turned over. -/
theorem neg_height {height : Int32} (h : 0 < height) :
    ¬ 0 < -height ∧ (-height).toInt.natAbs = height.toInt.natAbs ∧
      Int32.ofNat height.toInt.natAbs = height := by
  have hpos : 0 < height.toInt := Int32.lt_iff_toInt_lt.1 h
  have hhigh := height.toInt_lt
  have hneg : (-height).toInt = -height.toInt := by
    rw [Int32.toInt_neg, Int.bmod_def]
    split <;> omega
  refine ⟨?_, ?_, ?_⟩
  · rw [Int32.lt_iff_toInt_lt, hneg, Int32.toInt_zero]
    omega
  · rw [hneg, Int.natAbs_neg]
  · rw [← Int32.toInt_inj, Int32.toInt_ofNat_of_lt (by omega)]
    omega

theorem rowBytes_pos {width : Int32} {depth : UInt16} (hwidth : 0 < width)
    (hdepth : depth = 24 ∨ depth = 32) : 0 < BitmapHeader.rowBytes width depth := by
  have hpos : 0 < width.toInt := Int32.lt_iff_toInt_lt.1 hwidth
  have hbits : width.toInt.natAbs ≤ width.toInt.natAbs * depth.toNat := by
    refine Nat.le_mul_of_pos_right _ ?_
    rcases hdepth with rfl | rfl <;> decide
  unfold BitmapHeader.rowBytes
  omega

/-- A bitmap with whole pixels that was packed has the same rows under the header of its size. -/
theorem ofDib?_packed {header : BitmapHeader} {rows : Bytes} (layout : DibLayout)
    (hdepth : header.bitsPixel = 24 ∨ header.bitsPixel = 32) (hwidth : 0 < header.width)
    (hheight : 0 < header.height) (hrows : rows.length = header.bitsSize) :
    ofDib? (packed layout header rows) =
      some (ofRows header.width header.height header.bitsPixel rows) := by
  let size := BitmapHeader.rowBytes header.width header.bitsPixel
  let stride := Dib.rowStride header.width header.bitsPixel
  let body := (Bytes.rows size rows).flatMap (Bytes.resize stride)
  let dib := DibHeader.ofSize header.width (-header.height) header.bitsPixel
  have hsize : 0 < size := rowBytes_pos hwidth hdepth
  have hstride : size ≤ stride := rowBytes_le_rowStride header.width header.bitsPixel
  have hbody : body.length = stride * header.height.toInt.natAbs := by
    refine (Bytes.length_flatMap_rows hrows (fun hzero => ?_) fun _ _ => Bytes.length_resize).1
    exact absurd hzero (Nat.ne_of_gt hsize)
  -- What the rows were filled up with is cut off again.
  have hback : (Bytes.rows stride body).flatMap (·.take size) = rows :=
    Bytes.flatMap_take_rows hsize hstride hrows
  have hparse : DibHeader.parse? (packed layout header rows) = some (dib.moved layout) :=
    dib.parse?_write layout body
  have hinfo : (dib.write layout).length = (dib.moved layout).infoSize := by
    rw [DibHeader.infoSize_ofSize layout hdepth, DibHeader.length_write]
  have hbehind : (packed layout header rows).drop (dib.moved layout).infoSize = body :=
    List.drop_left' hinfo
  have hlong : (dib.moved layout).infoSize ≤ (packed layout header rows).length := by
    rw [packed, List.length_append, ← hinfo]
    exact Nat.le_add_right _ _
  obtain ⟨hdown, hcount, hheight'⟩ := neg_height hheight
  have hdepth' : ¬ (header.bitsPixel ≠ 24 ∧ header.bitsPixel ≠ 32) := by
    rintro ⟨h24, h32⟩
    exact hdepth.elim h24 h32
  -- Packed rows go down, which the height shows by its sign, so they are not turned around.
  rw [ofDib?_eq_ofPixels? hparse hlong, hbehind, ofPixels?_moved]
  simp only [ofPixels?, dib, DibHeader.ofSize, hdepth', hdown, hcount, hheight', if_false]
  rw [if_neg (by rw [hbody]; exact Nat.lt_irrefl _), List.take_of_length_le (Nat.le_of_eq hbody),
    hback]

end Object

/-- A packed bitmap that was moved to another layout makes the same bitmap, if it makes one. -/
theorem Dib.ofDib?_convert? {source result : Bytes} {layout : DibLayout}
    (h : Dib.convert? source layout = some result) :
    Object.ofDib? result = Object.ofDib? source := by
  obtain ⟨header, hparse, hlong, rfl⟩ := convert?_eq_some_iff.1 h
  have hmoved : Moved layout header source _ := moved_of_infoSize_lt hlong
  rw [Object.ofDib?_eq_ofPixels? hmoved.parsed (Nat.le_of_lt hmoved.pixels_follow),
    Object.ofDib?_eq_ofPixels? hparse (Nat.le_of_lt hlong), Object.ofPixels?_moved]
  obtain ⟨pixels, hsource, hresult⟩ := hmoved.pixels
  rw [Bytes.drop_of_slice? hsource, Bytes.drop_of_slice? hresult]

/-- The format of packed bitmaps in a layout. -/
def DibLayout.format : DibLayout → Format
  | short => Format.dib
  | long => Format.dibV5

theorem DibLayout.format_eq (layout : DibLayout) :
    layout.format = Format.dib ∨ layout.format = Format.dibV5 := by
  cases layout with
  | short => exact .inl rfl
  | long => exact .inr rfl

namespace Data

variable {graphics : Graphics} {handle : Handle} {header : BitmapHeader} {rows : Bytes}
  (h : graphics.Honest)

include h

/-- A bitmap is packed as its rows say. -/
theorem convert_bitmap_packed (layout : DibLayout) (text : TextSettings)
    (hobject : graphics.object? handle = some (.bitmap header rows)) :
    (bitmap handle).convert graphics layout.format Format.bitmap text =
      .ok (bytes (Object.packed layout header rows), graphics) := by
  have hne : Object.packed layout header rows ≠ [] := by
    refine List.append_ne_nil_of_left_ne_nil (List.ne_nil_of_length_pos ?_) _
    rw [DibHeader.length_write]
    cases layout <;> decide
  have hbits : (Object.bitmap header rows).bits? layout.kind =
      some (Object.packed layout header rows) := by
    cases layout <;> rfl
  have hfetch := Graphics.fetch?_of_object? h.misreports hobject hbits hne
  have hconvert : (bitmap handle).convert graphics layout.format Format.bitmap text =
      toPacked graphics layout.format Format.bitmap layout (bitmap handle) := by
    cases layout <;> rfl
  rw [hconvert, toPacked, hfetch]
  rfl

/-- A packed bitmap is unpacked to the bitmap that it makes, whichever of the two formats it has. -/
theorem convert_packed_bitmap (text : TextSettings) {source : Format}
    (hsource : source = Format.dib ∨ source = Format.dibV5) {flat : Bytes} {dib : DibHeader}
    (hparse : DibHeader.parse? flat = some dib) :
    (bytes flat).convert graphics Format.bitmap source text =
      (fun (handle, later) => (bitmap handle, later)) <$>
        orFail (.graphics Format.bitmap) ((Object.ofDib? flat).bind graphics.insert?) := by
  have hbuilt (layout : DibLayout) :
      graphics.reconstruct? layout.kind flat = (Object.ofDib? flat).bind graphics.insert? := by
    rw [h.reconstruct?_eq]
    cases layout <;> rfl
  have hconvert (source : Format) (layout : DibLayout) :
      toBitmap graphics Format.bitmap source layout (bytes flat) =
        (fun (handle, later) => (bitmap handle, later)) <$>
          orFail (.graphics Format.bitmap) ((Object.ofDib? flat).bind graphics.insert?) := by
    simp only [toBitmap, expectBytes, bytes?, orFail_some_bind, hparse, Option.isNone_some,
      Bool.false_eq_true, if_false, hbuilt]
    rfl
  rcases hsource with rfl | rfl
  · exact hconvert Format.dib .short
  · exact hconvert Format.dibV5 .long

/-- A bitmap with whole pixels is packed and unpacked under the header of its size. -/
theorem exists_convert_bitmap_back (layout : DibLayout) (text : TextSettings)
    (hobject : graphics.object? handle = some (.bitmap header rows))
    (hdepth : header.bitsPixel = 24 ∨ header.bitsPixel = 32) (hwidth : 0 < header.width)
    (hheight : 0 < header.height) (hrows : rows.length = header.bitsSize)
    (hroom : graphics.Spares 1) :
    ∃ flat copy later,
      (bitmap handle).convert graphics layout.format Format.bitmap text =
        .ok (bytes flat, graphics) ∧
      (bytes flat).convert graphics Format.bitmap layout.format text = .ok (bitmap copy, later) ∧
      graphics.Gains (.ofRows header.width header.height header.bitsPixel rows) copy later := by
  obtain ⟨copy, later, hinsert, hgains⟩ := Graphics.exists_insert? hroom
    (.ofRows header.width header.height header.bitsPixel rows)
  have hparse : DibHeader.parse? (Object.packed layout header rows) = some _ :=
    DibHeader.parse?_write _ layout _
  refine ⟨_, copy, later, convert_bitmap_packed h layout text hobject, ?_, hgains⟩
  rw [convert_packed_bitmap h text layout.format_eq hparse,
    Object.ofDib?_packed layout hdepth hwidth hheight hrows, Option.bind_some, hinsert]
  rfl

end Data

/-- Which member of the raster family another one is made from makes no difference. A bitmap with
whole pixels, all of whose rows are there, is packed, and unpacked it has the same rows under the
header of its size; so it is the same bitmap if that was its header. And a packed bitmap that can be
moved to a layout is unpacked, or refused, exactly as the moved one is. -/
theorem Data.raster_paths_agree {graphics : Graphics} (h : graphics.Honest) (text : TextSettings) :
    (∀ (handle : Handle) (header : BitmapHeader) (rows : Bytes) (layout : DibLayout),
      graphics.object? handle = some (.bitmap header rows) →
      (header.bitsPixel = 24 ∨ header.bitsPixel = 32) → 0 < header.width → 0 < header.height →
      rows.length = header.bitsSize → graphics.Spares 1 →
      ∃ flat copy later,
        (bitmap handle).convert graphics layout.format Format.bitmap text =
          .ok (bytes flat, graphics) ∧
        (bytes flat).convert graphics Format.bitmap layout.format text =
          .ok (bitmap copy, later) ∧
        later.object? copy =
          some (.ofRows header.width header.height header.bitsPixel rows) ∧
        (later.object? copy = graphics.object? handle ↔
          header = BitmapHeader.ofSize header.width header.height header.bitsPixel)) ∧
    (∀ (source : Format) (layout : DibLayout) (flat moved : Bytes),
      (source = Format.dib ∨ source = Format.dibV5) → Dib.convert? flat layout = some moved →
      (bytes flat).convert graphics Format.bitmap source text =
        (bytes moved).convert graphics Format.bitmap layout.format text) := by
  constructor
  · intro handle header rows layout hobject hdepth hwidth hheight hrows hroom
    obtain ⟨flat, copy, later, hpacked, hunpacked, hgains⟩ :=
      exists_convert_bitmap_back h layout text hobject hdepth hwidth hheight hrows hroom
    refine ⟨flat, copy, later, hpacked, hunpacked, hgains.found, ?_⟩
    rw [hgains.found, hobject, Option.some.injEq, Object.ofRows, Object.bitmap.injEq]
    exact ⟨fun hsame => hsame.1.symm, fun hsame => ⟨hsame.symm, rfl⟩⟩
  · intro source layout flat moved hsource hmoved
    obtain ⟨header, hparse, hlong, hresult⟩ := Dib.convert?_eq_some_iff.1 hmoved
    have hparse' : DibHeader.parse? moved = some (header.moved layout) := by
      rw [hresult]
      exact (Dib.moved_of_infoSize_lt hlong).parsed
    rw [convert_packed_bitmap h text hsource hparse,
      convert_packed_bitmap h text layout.format_eq hparse', Dib.ofDib?_convert? hmoved]

/-- A table with the same two rows of a pixel twice, the second time under a header with a type. -/
def Data.twoRows : Graphics :=
  let header := BitmapHeader.ofSize 1 2 24
  let rows := [1, 2, 3, 0, 4, 5, 6, 0]
  ⟨[.bitmap header rows, .bitmap { header with bmType := 1 } rows], [], []⟩

/-- The first bitmap comes back. The same rows packed from the bottom to the top, with a colour that
is not used in front of them, make a bitmap by way of either layout. -/
theorem Data.two_rows_agree :
    (∃ flat copy later,
      (bitmap .first).convert twoRows Format.dibV5 Format.bitmap
        ⟨Locale.enUS, CodePages.western⟩ = .ok (bytes flat, twoRows) ∧
      (bytes flat).convert twoRows Format.bitmap Format.dibV5
        ⟨Locale.enUS, CodePages.western⟩ = .ok (bitmap copy, later) ∧
      later.object? copy = twoRows.object? .first) ∧
    ∃ flat moved,
      Object.ofDib? flat = some (.ofRows 1 2 24 [1, 2, 3, 0, 4, 5, 6, 0]) ∧
      Dib.convert? flat .long = some moved ∧
      (bytes flat).convert twoRows Format.bitmap Format.dib ⟨Locale.enUS, CodePages.western⟩ =
        (bytes moved).convert twoRows Format.bitmap Format.dibV5
          ⟨Locale.enUS, CodePages.western⟩ := by
  have hroom : twoRows.Spares 1 := by
    unfold Graphics.Spares
    decide
  have hobject : twoRows.object? .first =
      some (.bitmap (BitmapHeader.ofSize 1 2 24) [1, 2, 3, 0, 4, 5, 6, 0]) := rfl
  have hhonest : twoRows.Honest := ⟨rfl, rfl⟩
  obtain ⟨hback, hmoved⟩ := raster_paths_agree hhonest ⟨Locale.enUS, CodePages.western⟩
  constructor
  · obtain ⟨flat, copy, later, hpacked, hunpacked, -, hsame⟩ := hback .first _ _ .long hobject
      (.inl rfl) (by decide) (by decide) (by decide) hroom
    exact ⟨flat, copy, later, hpacked, hunpacked, hsame.2 (by decide)⟩
  · let flat : Bytes :=
      [40, 0, 0, 0, 1, 0, 0, 0, 2, 0, 0, 0, 1, 0, 24, 0, 0, 0, 0, 0, 8, 0, 0, 0, 0, 0, 0, 0, 0, 0,
        0, 0, 1, 0, 0, 0, 0, 0, 0, 0] ++ [9, 8, 7, 0] ++ [4, 5, 6, 0, 1, 2, 3, 0]
    have hstored : Bytes.rows 4 ([[4, 5, 6, 0], [1, 2, 3, 0]] : List Bytes).flatten =
        [[4, 5, 6, 0], [1, 2, 3, 0]] := Bytes.rows_flatten (by decide) (by decide)
    have hbitmap : Object.ofDib? flat = some (.ofRows 1 2 24 ((Bytes.rows 4
        ([[4, 5, 6, 0], [1, 2, 3, 0]] : List Bytes).flatten).reverse.flatMap (·.take 4))) := rfl
    rw [hstored] at hbitmap
    exact ⟨flat, _, hbitmap, rfl, hmoved Format.dib .long flat _ (.inl rfl) rfl⟩

/-- The type of the second one is lost, although it has all that is asked for. -/
theorem Data.type_of_rows_lost :
    ∃ handle header rows flat copy later,
      twoRows.object? handle = some (.bitmap header rows) ∧ header.bitsPixel = 24 ∧
      0 < header.width ∧ 0 < header.height ∧
      BitmapHeader.rowBytes header.width header.bitsPixel < 2147483648 ∧
      rows.length = header.bitsSize ∧
      (bitmap handle).convert twoRows Format.dib Format.bitmap
        ⟨Locale.enUS, CodePages.western⟩ = .ok (bytes flat, twoRows) ∧
      (bytes flat).convert twoRows Format.bitmap Format.dib
        ⟨Locale.enUS, CodePages.western⟩ = .ok (bitmap copy, later) ∧
      later.object? copy ≠ twoRows.object? handle := by
  have hroom : twoRows.Spares 1 := by
    unfold Graphics.Spares
    decide
  have hobject : twoRows.object? ⟨2, by decide⟩ =
      some (.bitmap { BitmapHeader.ofSize 1 2 24 with bmType := 1 } [1, 2, 3, 0, 4, 5, 6, 0]) := rfl
  obtain ⟨flat, copy, later, hpacked, hunpacked, hgains⟩ := exists_convert_bitmap_back
    ⟨rfl, rfl⟩ .short ⟨Locale.enUS, CodePages.western⟩ hobject (.inl rfl) (by decide) (by decide)
    (by decide) hroom
  refine ⟨_, _, _, flat, copy, later, hobject, rfl, by decide, by decide, by decide, by decide,
    hpacked, hunpacked, ?_⟩
  rw [hgains.found, hobject]
  decide

end Pasteboard
