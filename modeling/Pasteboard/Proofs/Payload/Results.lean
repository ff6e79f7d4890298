import Pasteboard.Proofs.Payload.Conversions
import Pasteboard.Proofs.Picture.Layouts
import Pasteboard.Proofs.Picture.RowSizes
import Pasteboard.Proofs.Text.Lengths

/-!
# What conversions make

A value that was made from a payload is `Data.Carried` by it: it is not longer, and a bitmap has all
its rows. What a conversion makes of such a value has a flat form, which is longer by a constant
factor at most: `Data.flattens_of_convert`. Only wide text without a whole unit is an
exception. It becomes narrow text without a byte, see `Data.convert_half`.
-/

namespace Pasteboard

/-- Pieces of the same length add up. -/
theorem length_flatMap_eq {α β : Type} {change : α → List β} {size : Nat} {list : List α}
    (h : ∀ value ∈ list, (change value).length = size) :
    (list.flatMap change).length = size * list.length := by
  rw [List.length_flatMap, List.map_congr_left h, List.map_const', List.sum_replicate_nat,
    Nat.mul_comm]

/-- A byte string that is as long as so many rows is cut into these, all of them whole. -/
theorem Bytes.length_rows {size count : Nat} (hsize : 0 < size) {bytes : Bytes}
    (h : bytes.length = size * count) :
    (rows size bytes).length = count ∧ ∀ row ∈ rows size bytes, row.length = size := by
  induction count generalizing bytes with
  | zero =>
      obtain rfl : bytes = [] := List.eq_nil_of_length_eq_zero h
      simp [rows]
  | succ count ih =>
      rw [Nat.mul_succ] at h
      cases bytes with
      | nil =>
          rw [List.length_nil] at h
          omega
      | cons first rest =>
          rw [List.length_cons] at h
          have hrest : (rest.drop (size - 1)).length = size * count := by
            rw [List.length_drop]
            omega
          obtain ⟨hcount, hrows⟩ := ih hrest
          rw [rows]
          refine ⟨by rw [List.length_cons, hcount], fun row hrow => ?_⟩
          rcases List.mem_cons.1 hrow with rfl | hrow
          · rw [List.length_cons, List.length_take]
            omega
          · exact hrows row hrow

/-- If nothing is left of rows without bytes, rows of any size are cut or filled up to the same
length. -/
theorem Bytes.length_flatMap_rows {size count width : Nat} {bytes : Bytes}
    {change : Bytes → Bytes} (h : bytes.length = size * count) (hempty : size = 0 → width = 0)
    (hchange : ∀ row, row.length = size → (change row).length = width) :
    ((rows size bytes).flatMap change).length = width * count ∧
      ((rows size bytes).reverse.flatMap change).length = width * count := by
  rcases Nat.eq_zero_or_pos size with hzero | hpos
  · obtain rfl : bytes = [] := by
      rw [hzero, Nat.zero_mul] at h
      exact List.eq_nil_of_length_eq_zero h
    simp [rows, hempty hzero]
  · obtain ⟨hcount, hrows⟩ := length_rows hpos h
    constructor
    · rw [length_flatMap_eq fun row hrow => hchange row (hrows row hrow), hcount]
    · rw [length_flatMap_eq fun row hrow => hchange row (hrows row (List.mem_reverse.1 hrow)),
        List.length_reverse, hcount]

namespace Object

/-- The height of a bitmap that is made from a packed one is the same, whatever its sign. -/
theorem natAbs_ofNat_natAbs (height : Int32) :
    (Int32.ofNat height.toInt.natAbs).toInt.natAbs = height.toInt.natAbs := by
  have hlow := height.le_toInt
  have hhigh := height.toInt_lt
  -- The least height has no positive counterpart and comes back as itself.
  rw [Int32.toInt_ofNat', Int.bmod_def]
  simp only [Int32.size]
  split <;> omega

/-- The bitmap of a packed one has all its rows, and no more bytes than there are. -/
theorem exists_of_ofDib? {bytes : Bytes} {object : Object} (h : ofDib? bytes = some object) :
    ∃ header rows, object = bitmap header rows ∧ rows.length = header.bitsSize ∧
      rows.length ≤ bytes.length := by
  unfold ofDib? at h
  split at h
  · cases h
  · rename_i dib _
    dsimp only at h
    split at h
    · cases h
    · split at h
      · cases h
      · rename_i hlong
        cases h
        let stride := Dib.rowStride dib.width dib.bitCount
        let height := dib.height.toInt.natAbs
        have hrow : BitmapHeader.rowBytes dib.width dib.bitCount ≤ stride :=
          rowBytes_le_rowStride dib.width dib.bitCount
        have hroom : dib.infoSize + stride * height ≤ bytes.length := Nat.not_lt.1 hlong
        have hstored : ((bytes.drop dib.infoSize).take (stride * height)).length =
            stride * height := by
          rw [List.length_take, List.length_drop]
          omega
        -- The rows are cut to their pixels, and turned around if they go up.
        obtain ⟨hup, hdown⟩ := Bytes.length_flatMap_rows hstored
          (fun hzero => Nat.le_zero.1 (hzero ▸ hrow)) (fun row hlength => by
            rw [List.length_take, hlength, Nat.min_eq_left hrow])
        have hrows : BitmapHeader.rowBytes dib.width dib.bitCount * height ≤ stride * height :=
          Nat.mul_le_mul_right _ hrow
        refine ⟨_, _, rfl, ?_, ?_⟩
        · rw [BitmapHeader.bitsSize, BitmapHeader.ofSize, natAbs_ofNat_natAbs]
          split
          · exact hdown
          · exact hup
        · split
          · exact Nat.le_trans (Nat.le_of_eq hdown) (by omega)
          · exact Nat.le_trans (Nat.le_of_eq hup) (by omega)

/-- The frame takes sixteen bytes. -/
theorem exists_of_ofFrame (left top right bottom : Int32) (records : Bytes) :
    ∃ flat, ofFrame left top right bottom records = enhMetafile flat ∧
      flat.length = 16 + records.length := by
  refine ⟨_, rfl, ?_⟩
  simp only [List.length_append, Bytes.length_ofI32]
  omega

/-- A packed bitmap has a header, and rows that are at most twice as long. -/
theorem length_packed_le {layout : DibLayout} {header : BitmapHeader} {rows : Bytes}
    (hrows : rows.length = header.bitsSize) :
    (packed layout header rows).length ≤ 2 * rows.length + 124 := by
  let size := BitmapHeader.rowBytes header.width header.bitsPixel
  let stride := Dib.rowStride header.width header.bitsPixel
  let height := header.height.toInt.natAbs
  have hstride : stride ≤ 2 * size := rowStride_le_double header.width header.bitsPixel
  have hwide : stride * height ≤ 2 * (size * height) := by
    rw [← Nat.mul_assoc]
    exact Nat.mul_le_mul_right _ hstride
  have hempty : size = 0 → stride = 0 := by omega
  have hfilled : ((Bytes.rows size rows).flatMap (Bytes.resize stride)).length = stride * height :=
    (Bytes.length_flatMap_rows hrows hempty fun _ _ => Bytes.length_resize).1
  have hsize : layout.size ≤ 124 := by cases layout <;> decide
  have hlength : rows.length = size * height := hrows
  rw [packed, List.length_append, DibHeader.length_write]
  exact Nat.le_trans (Nat.add_le_add hsize (Nat.le_of_eq hfilled)) (by omega)

end Object

namespace Graphics

variable {graphics : Graphics} {kind : BitsKind} {handle : Handle} {object : Object} {bits : Bytes}

/-- Refusals have no part in reports of flat forms. -/
theorem honest_of_misreports (h : graphics.misreports = []) :
    Honest { graphics with refused := [] } := ⟨h, rfl⟩

/-- Without misreports a flat form is fetched unless it is empty. -/
theorem fetch?_of_misreports (h : graphics.misreports = []) :
    graphics.fetch? kind handle =
      ((graphics.object? handle).bind (Object.bits? kind)).filter fun bits => !bits.isEmpty :=
  (honest_of_misreports h).fetch?_eq

/-- A flat form of an object in the table is fetched, unless it is empty. -/
theorem fetch?_of_object? (h : graphics.misreports = [])
    (hobject : graphics.object? handle = some object) (hbits : object.bits? kind = some bits)
    (hne : bits ≠ []) : graphics.fetch? kind handle = some bits := by
  rw [fetch?_of_misreports h, hobject, Option.bind_some, hbits]
  simp [hne]

/-- The same, with an error for a form that is not there. -/
theorem fetch_of_object? (h : graphics.misreports = [])
    (hobject : graphics.object? handle = some object) (hbits : object.bits? kind = some bits)
    (hne : bits ≠ []) : graphics.fetch kind handle = .ok bits := by
  rw [fetch, fetch?_of_object? h hobject hbits hne]

/-- A flat form is extracted if its size is asked for. -/
theorem extract?_of_object? (h : graphics.misreports = [])
    (hobject : graphics.object? handle = some object) (hbits : object.bits? kind = some bits) :
    graphics.extract? kind handle bits.length = some bits := by
  have hextract : graphics.extract? kind handle bits.length =
      ((graphics.object? handle).bind (Object.bits? kind)).filter
        fun other => other.length == bits.length :=
    (honest_of_misreports h).extract?_eq bits.length
  rw [hextract, hobject, Option.bind_some, hbits]
  simp

/-- A flat form that is fetched is that of the object, and is not empty. -/
theorem eq_of_fetch? (h : graphics.misreports = [])
    (hobject : graphics.object? handle = some object)
    (hfetch : graphics.fetch? kind handle = some bits) :
    object.bits? kind = some bits ∧ bits ≠ [] := by
  rw [fetch?_of_misreports h, hobject, Option.bind_some, Option.filter_eq_some_iff] at hfetch
  exact ⟨hfetch.1, by simpa using hfetch.2⟩

end Graphics

namespace Data

variable {graphics later : Graphics} {format target source : Format} {data result : Data}
  {layout : DibLayout} {text : TextSettings} {handle : Handle} {header : BitmapHeader}
  {flat rows payload : Bytes}

/-! ## Flat forms of whole objects -/

/-- Bytes are their own flat form, unless there are none. -/
theorem flatten_bytes (hshape : format.shape = .memory) (hne : flat ≠ []) :
    (bytes flat).flatten graphics format = .ok flat := by
  simp [flatten, hshape, hne]

/-- A whole bitmap has a flat form: its header, and its rows behind it. -/
theorem flatten_bitmap (h : graphics.misreports = []) (hshape : format.shape = .bitmap)
    (hobject : graphics.object? handle = some (.bitmap header rows))
    (hrows : rows.length = header.bitsSize) :
    (bitmap handle).flatten graphics format = .ok (header.write ++ rows) := by
  have hheader : graphics.fetch .bitmapHeader handle = .ok header.write := by
    refine Graphics.fetch_of_object? h hobject rfl fun hnil => ?_
    have hlength := header.length_write
    rw [hnil] at hlength
    cases hlength
  have hparse : BitmapHeader.parse? header.write = some header := by
    simpa using header.parse?_write []
  have hextract : graphics.extract? .bitmapBits handle header.bitsSize = some rows := by
    rw [← hrows]
    exact Graphics.extract?_of_object? h hobject rfl
  simp only [flatten, hshape, encodeBitmap, hheader, hparse, hextract, bind, Except.bind]
  rfl

/-- An enhanced metafile is its own flat form, unless it is empty. -/
theorem flatten_enhMetafile (h : graphics.misreports = []) (hshape : format.shape = .enhMetafile)
    (hobject : graphics.object? handle = some (.enhMetafile flat)) (hne : flat ≠ []) :
    (enhMetafile handle).flatten graphics format = .ok flat := by
  simp only [flatten, hshape]
  exact Graphics.fetch_of_object? h hobject rfl hne

/-- A picture has the flat form of its metafile behind its header. -/
theorem flatten_metafilePict (h : graphics.misreports = []) (hshape : format.shape = .metafilePict)
    {pict : MetafilePict} (hmetafile : pict.metafile = some handle)
    (hobject : graphics.object? handle = some (.metafile flat)) (hne : flat ≠ []) :
    (metafilePict pict).flatten graphics format = .ok (pict.write ++ flat) := by
  simp only [flatten, hshape, encodePict, hmetafile]
  rw [Graphics.fetch_of_object? h hobject rfl hne]
  rfl

/-! ## Values made from payloads -/

/-- A value that was made from a payload: it is the payload, or its object is not longer, and a
bitmap has all its rows. -/
inductive Carried (graphics : Graphics) (payload : Bytes) : Data → Prop where
  | bytes : Carried graphics payload (bytes payload)
  | bitmap {handle : Handle} {header : BitmapHeader} {rows : Bytes} :
      graphics.object? handle = some (.bitmap header rows) → rows.length = header.bitsSize →
      rows.length ≤ payload.length → Carried graphics payload (bitmap handle)
  | palette {handle : Handle} : Carried graphics payload (palette handle)
  | enhMetafile {handle : Handle} {flat : Bytes} :
      graphics.object? handle = some (.enhMetafile flat) → flat.length ≤ payload.length →
      Carried graphics payload (enhMetafile handle)
  | metafilePict {pict : MetafilePict} {handle : Handle} {flat : Bytes} :
      pict.metafile = some handle → graphics.object? handle = some (.metafile flat) →
      flat.length ≤ payload.length → Carried graphics payload (metafilePict pict)

/-- A decoded bitmap has the rows that its header asks for, taken from the payload. -/
theorem carried_of_decodeBitmap (h : decodeBitmap graphics format payload = .ok (data, later)) :
    data.Carried later payload := by
  unfold decodeBitmap at h
  iterate 4 (split at h; · cases h)
  obtain ⟨handle, object, rfl, hobject, hgains⟩ := exists_of_rebuild bitmap h
  simp only [Object.ofBits?, Object.ofBitmapBits?] at hobject
  split at hobject
  · cases hobject
  · split at hobject
    · cases hobject
    · rename_i hlong
      cases hobject
      refine .bitmap hgains.found ?_ ?_ <;>
      · rw [List.length_take, List.length_drop]
        omega

/-- A decoded picture has the metafile behind its header, taken from the payload. -/
theorem carried_of_decodePict (h : decodePict graphics format payload = .ok (data, later)) :
    data.Carried later payload := by
  unfold decodePict at h
  split at h
  · cases h
  · split at h
    · cases h
    · rename_i pict _
      obtain ⟨handle, object, rfl, hobject, hgains⟩ := exists_of_rebuild
        (fun handle => metafilePict { pict with metafile := some handle }) h
      simp only [Object.ofBits?] at hobject
      split at hobject
      · cases hobject
      · cases hobject
        refine .metafilePict rfl hgains.found ?_
        rw [List.length_drop]
        omega

/-- A decoded value is carried by its payload. -/
theorem carried_of_decode (h : decode graphics format payload = .ok (data, later)) :
    data.Carried later payload := by
  unfold decode at h
  cases hshape : format.shape with
  | memory =>
      simp only [hshape] at h
      cases h
      exact .bytes
  | bitmap =>
      simp only [hshape] at h
      split at h
      · cases h
      · exact carried_of_decodeBitmap h
  | palette =>
      simp only [hshape, decodePalette] at h
      split at h
      · cases h
      · split at h
        · cases h
        · obtain ⟨handle, object, rfl, -, -⟩ := exists_of_rebuild palette h
          exact .palette
  | enhMetafile =>
      simp only [hshape] at h
      obtain ⟨handle, object, rfl, hobject, hgains⟩ := exists_of_rebuild enhMetafile h
      simp only [Object.ofBits?] at hobject
      split at hobject
      · cases hobject
      · cases hobject
        exact .enhMetafile hgains.found (Nat.le_refl _)
  | metafilePict =>
      simp only [hshape] at h
      exact carried_of_decodePict h

end Data

/-! ## Converted values -/

/-- The kind of value in which a member of a family comes. -/
def Form.shape : Form → Shape
  | wideText | narrowText | packed _ => .memory
  | bitmap => .bitmap
  | enhanced => .enhMetafile
  | picture => .metafilePict

/-- A member of a family has the shape of its form. -/
theorem Format.shape_of_form? {format : Format} {form : Form} (h : format.form? = some form) :
    format.shape = form.shape := by
  unfold form? at h
  split at h
  · rename_i hformat
    cases h
    rw [hformat]
    rfl
  · split at h
    · rename_i hformat
      cases h
      rcases hformat with rfl | rfl <;> rfl
    · iterate 5 (split at h; · rename_i hformat; cases h; rw [hformat]; rfl)
      cases h

/-- Wide text has one format only. -/
theorem Format.eq_of_form?_wideText {format : Format} (h : format.form? = some .wideText) :
    format = Format.unicodeText := by
  by_cases hformat : format = Format.unicodeText
  · exact hformat
  · unfold form? at h
    rw [if_neg hformat] at h
    iterate 6 (split at h; · cases h)
    cases h

namespace Data

variable {graphics later : Graphics} {target source : Format} {data result : Data}
  {layout : DibLayout} {text : TextSettings} {payload : Bytes}

/-- There is a flat form, which is longer than so many bytes by a constant factor at most. -/
def Flattens (graphics : Graphics) (format : Format) (size : Nat) (data : Data) : Prop :=
  ∃ payload, data.flatten graphics format = .ok payload ∧ payload.length ≤ 8 * size + 128

/-- What has a flat form can be put, unless that is too large. -/
theorem encode_of_flattens {format : Format} {size : Nat} (h : data.Flattens graphics format size) :
    (∃ payload, data.encode graphics format = .ok payload) ∨
      ∃ long, data.encode graphics format = .error (.tooLarge long) ∧ 4294967296 ≤ long ∧
        long ≤ 8 * size + 128 := by
  obtain ⟨payload, hflat, hlength⟩ := h
  rw [encode, hflat]
  by_cases hroom : payload.length < 4294967296
  · exact .inl ⟨payload, if_pos hroom⟩
  · exact .inr ⟨payload.length, if_neg hroom, Nat.not_lt.1 hroom, hlength⟩

/-- Bytes that a payload carries are the payload. -/
theorem Carried.eq_payload {flat : Bytes} (h : Carried graphics payload (.bytes flat)) :
    flat = payload := by
  cases h
  rfl

section

variable (h : graphics.misreports = [])

include h

/-- A bitmap that is made of a packed one has a flat form, and is not much longer. -/
theorem flattens_of_toBitmap (hcarried : data.Carried graphics payload)
    (hshape : target.shape = .bitmap)
    (hresult : toBitmap graphics target source layout data = .ok (result, later)) :
    result.Flattens later target payload.length := by
  unfold toBitmap at hresult
  obtain ⟨flat, hflat, hresult⟩ := exists_of_bind hresult
  have hdata := eq_of_expectBytes hflat
  split at hresult
  · cases hresult
  · obtain ⟨⟨handle, grown⟩, hbuilt, hresult⟩ := exists_of_bind hresult
    cases hresult
    obtain ⟨object, hobject, hgains⟩ := Graphics.exists_of_reconstruct? (eq_some_of_orFail hbuilt)
    have hdib : Object.ofDib? flat = some object := by cases layout <;> exact hobject
    obtain ⟨header, rows, rfl, hrows, hlength⟩ := Object.exists_of_ofDib? hdib
    refine ⟨_, flatten_bitmap (hgains.misreports.trans h) hshape hgains.found hrows, ?_⟩
    have hflat : flat = payload := Carried.eq_payload (hdata ▸ hcarried)
    subst hflat
    rw [List.length_append, header.length_write, BitmapHeader.headerSize]
    omega

/-- A packed bitmap that is made of a bitmap has a flat form, in which the rows are filled up to
whole words. -/
theorem flattens_of_toPacked (hcarried : data.Carried graphics payload)
    (hshape : target.shape = .memory)
    (hresult : toPacked graphics target source layout data = .ok (result, later)) :
    result.Flattens later target payload.length := by
  unfold toPacked at hresult
  split at hresult
  · obtain ⟨flat, hflat, hresult⟩ := exists_of_bind hresult
    cases hresult
    cases hcarried with
    | bitmap hobject hrows hsize =>
        obtain ⟨hbits, hne⟩ := Graphics.eq_of_fetch? h hobject (eq_some_of_orFail hflat)
        refine ⟨_, flatten_bytes hshape hne, ?_⟩
        cases layout with
        | short =>
            cases hbits
            exact Nat.le_trans (Object.length_packed_le hrows) (by omega)
        | long =>
            cases hbits
            exact Nat.le_trans (Object.length_packed_le hrows) (by omega)
  · cases hresult

omit h in
/-- A packed bitmap that is moved to another layout has a flat form. -/
theorem flattens_of_moved {flat : Bytes} (hshape : target.shape = .memory)
    (hmoved : Dib.convert? payload layout = some flat) :
    (bytes flat).Flattens later target payload.length := by
  obtain ⟨header, -, hlong, rfl⟩ := Dib.convert?_eq_some_iff.1 hmoved
  have hinfo := header.headerAndMasksSize_le_infoSize
  have hfront : (header.front layout payload).length ≤ 124 := by
    have hmasks := header.masksSize_le
    rw [DibHeader.length_front, DibHeader.headerAndMasksSize_moved]
    cases layout <;> simp only [Dib.shortSize, Dib.longSize] <;> omega
  refine ⟨_, flatten_bytes hshape fun hnil => ?_, ?_⟩
  · have hdropped := congrArg List.length (List.append_eq_nil_iff.1 hnil).2
    rw [List.length_drop, List.length_nil] at hdropped
    omega
  · rw [List.length_append, List.length_drop]
    omega

theorem flattens_of_toPicture (hcarried : data.Carried graphics payload)
    (hshape : target.shape = .metafilePict)
    (hresult : toPicture graphics target source data = .ok (result, later)) :
    result.Flattens later target payload.length := by
  unfold toPicture at hresult
  split at hresult
  · obtain ⟨frame, _, hresult⟩ := exists_of_bind hresult
    obtain ⟨left, _, hresult⟩ := exists_of_bind hresult
    obtain ⟨top, _, hresult⟩ := exists_of_bind hresult
    obtain ⟨right, _, hresult⟩ := exists_of_bind hresult
    obtain ⟨bottom, _, hresult⟩ := exists_of_bind hresult
    obtain ⟨bits, hbits, hresult⟩ := exists_of_bind hresult
    obtain ⟨⟨metafile, grown⟩, hbuilt, hresult⟩ := exists_of_bind hresult
    cases hresult
    cases hcarried with
    | enhMetafile hobject hsize =>
        obtain ⟨hform, hne⟩ := Graphics.eq_of_fetch? h hobject (eq_some_of_orFail hbits)
        cases hform
        obtain ⟨object, hmade, hgains⟩ :=
          Graphics.exists_of_reconstruct? (eq_some_of_orFail hbuilt)
        cases hmade
        refine ⟨_, flatten_metafilePict (hgains.misreports.trans h) hshape rfl hgains.found hne, ?_⟩
        rw [List.length_append, List.length_append, MetafilePict.length_write, List.length_drop,
          MetafilePict.headerSize, Object.mark, List.length_cons, List.length_cons,
          List.length_cons, List.length_nil]
        omega
  · cases hresult

/-- An enhanced metafile that is made of a picture has a flat form, since the frame is there even
without records. -/
theorem flattens_of_toEnhanced (hcarried : data.Carried graphics payload)
    (hshape : target.shape = .enhMetafile)
    (hresult : toEnhanced graphics target source data = .ok (result, later)) :
    result.Flattens later target payload.length := by
  unfold toEnhanced at hresult
  split at hresult
  · rename_i pict
    obtain ⟨metafile, hmetafile, hresult⟩ := exists_of_bind hresult
    obtain ⟨bits, hbits, hresult⟩ := exists_of_bind hresult
    obtain ⟨⟨handle, grown⟩, hbuilt, hresult⟩ := exists_of_bind hresult
    cases hresult
    cases hcarried with
    | metafilePict hpict hobject hsize =>
        cases hpict.symm.trans (eq_some_of_orFail hmetafile)
        obtain ⟨hform, -⟩ := Graphics.eq_of_fetch? h hobject (eq_some_of_orFail hbits)
        cases hform
        obtain ⟨object, hmade, hgains⟩ :=
          Graphics.exists_of_reconstruct? (eq_some_of_orFail hbuilt)
        obtain ⟨framed, hframed, hlength⟩ := Object.exists_of_ofFrame 0 0 pict.xExt pict.yExt
          (if Object.mark.isPrefixOf bits then bits.drop Object.mark.length else bits)
        rw [Object.ofBits?_winMetafile, hframed] at hmade
        cases hmade
        have hrecords : framed.length ≤ 16 + bits.length := by
          rw [hlength]
          split
          · rw [List.length_drop]
            omega
          · exact Nat.le_refl _
        have hne : framed ≠ [] := List.ne_nil_of_length_pos (by omega)
        refine ⟨_, flatten_enhMetafile (hgains.misreports.trans h) hshape hgains.found hne, ?_⟩
        omega
  · cases hresult

omit h in
/-- Narrow text that is made of wide text with a whole unit has a flat form. -/
theorem flattens_of_fromWide (hshape : target.shape = .memory) (page : CodePage)
    (hunits : Utf16.ofBytes payload ≠ []) :
    (bytes (page.fromWide (Utf16.ofBytes payload))).Flattens later target payload.length := by
  refine ⟨_, flatten_bytes hshape (CodePage.fromWide_ne_nil hunits), ?_⟩
  have hwide := Utf16.length_ofBytes_le payload
  have hnarrow := page.length_fromWide_le (Utf16.ofBytes payload)
  omega

omit h in
/-- So has narrow text that is made of narrow text under another page. -/
theorem flattens_of_between (hshape : target.shape = .memory) (page other : CodePage)
    (hne : payload ≠ []) :
    (bytes (other.fromWide (page.toWide payload))).Flattens later target payload.length := by
  refine ⟨_, flatten_bytes hshape (CodePage.fromWide_ne_nil (CodePage.toWide_ne_nil hne)), ?_⟩
  have hwide := page.length_toWide_le payload
  have hnarrow := other.length_fromWide_le (page.toWide payload)
  omega

omit h in
/-- So has wide text that is made of narrow text. -/
theorem flattens_of_toWide (hshape : target.shape = .memory) (page : CodePage)
    (hne : payload ≠ []) :
    (bytes (Utf16.toBytes (page.toWide payload))).Flattens later target payload.length := by
  refine ⟨_, flatten_bytes hshape (Utf16.toBytes_ne_nil (CodePage.toWide_ne_nil hne)), ?_⟩
  have hwide := page.length_toWide_le payload
  have htwice := Utf16.length_toBytes_le (page.toWide payload)
  omega

/-- What a conversion makes has a flat form, if text, from which it is made, holds a unit or a byte
at least. -/
theorem flattens_of_convert (hcarried : data.Carried graphics payload)
    (hholds : source.HoldsText payload)
    (hresult : data.convert graphics target source text = .ok (result, later)) :
    result.Flattens later target payload.length := by
  have hpayload {flat : Bytes} (hflat : data.expectBytes source = .ok flat) : flat = payload := by
    obtain rfl := eq_of_expectBytes hflat
    exact hcarried.eq_payload
  unfold convert at hresult
  -- One case for each pair of forms, the first three for text.
  split at hresult
  · rename_i htarget hsource
    obtain ⟨wide, hwide, hresult⟩ := exists_of_bind hresult
    cases hresult
    obtain rfl := hpayload hwide
    rw [Format.HoldsText, if_pos (Format.eq_of_form?_wideText hsource)] at hholds
    exact flattens_of_fromWide (Format.shape_of_form? htarget) _ (Utf16.ofBytes_ne_nil hholds)
  · rename_i htarget hsource
    obtain ⟨narrow, hflat, hresult⟩ := exists_of_bind hresult
    cases hresult
    obtain rfl := hpayload hflat
    exact flattens_of_between (Format.shape_of_form? htarget) _ _ hholds.ne_nil
  · rename_i htarget hsource
    obtain ⟨narrow, hflat, hresult⟩ := exists_of_bind hresult
    cases hresult
    obtain rfl := hpayload hflat
    exact flattens_of_toWide (Format.shape_of_form? htarget) _ hholds.ne_nil
  · rename_i htarget hsource
    exact flattens_of_toBitmap h hcarried (Format.shape_of_form? htarget) hresult
  · rename_i htarget hsource
    exact flattens_of_toPacked h hcarried (Format.shape_of_form? htarget) hresult
  · rename_i htarget hsource
    obtain ⟨flat, hflat, hresult⟩ := exists_of_bind hresult
    obtain ⟨moved, hmoved, hresult⟩ := exists_of_bind hresult
    cases hresult
    obtain rfl := hpayload hflat
    exact flattens_of_moved (Format.shape_of_form? htarget) (eq_some_of_orFail hmoved)
  · rename_i htarget hsource
    exact flattens_of_toPicture h hcarried (Format.shape_of_form? htarget) hresult
  · rename_i htarget hsource
    exact flattens_of_toEnhanced h hcarried (Format.shape_of_form? htarget) hresult
  · cases hresult

end

/-- Wide text is converted to narrow text only. -/
theorem narrow_of_convert
    (hresult : data.convert graphics target Format.unicodeText text = .ok (result, later)) :
    target = Format.text ∨ target = Format.oemText := by
  have hsource : Format.unicodeText.form? = some .wideText := rfl
  unfold convert at hresult
  rw [hsource] at hresult
  cases htarget : target.form? with
  | none => simp [htarget] at hresult
  | some form =>
      cases form with
      | narrowText =>
          unfold Format.form? at htarget
          split at htarget
          · cases htarget
          · split at htarget
            · assumption
            · iterate 5 (split at htarget; · cases htarget)
              cases htarget
      | wideText | bitmap | packed | enhanced | picture => simp [htarget] at hresult

/-- Half a unit of wide text is converted to no text. -/
theorem convert_half (graphics : Graphics) (text : TextSettings) (byte : UInt8)
    (htarget : target = Format.text ∨ target = Format.oemText) :
    (bytes [byte]).convert graphics target Format.unicodeText text = .ok (bytes [], graphics) := by
  have hnarrowed : narrowed text target [] = bytes [] := by
    unfold narrowed CodePage.fromWide
    cases text.codePage target <;> rfl
  rcases htarget with rfl | rfl
  all_goals exact congrArg (fun data => Except.ok (data, graphics)) hnarrowed

/-- Nothing else is made of it. -/
theorem eq_of_convert_half {byte : UInt8} (hcarried : data.Carried graphics [byte])
    (hresult : data.convert graphics target Format.unicodeText text = .ok (result, later)) :
    (target = Format.text ∨ target = Format.oemText) ∧ result = bytes [] := by
  have htarget := narrow_of_convert hresult
  refine ⟨htarget, ?_⟩
  cases hcarried with
  | bytes =>
      rw [convert_half graphics text byte htarget] at hresult
      cases hresult
      rfl
  | bitmap | palette | enhMetafile | metafilePict =>
      rcases htarget with rfl | rfl <;> cases hresult

/-- Nothing is converted to the null format. -/
theorem ne_null_of_convert
    (hresult : data.convert graphics target source text = .ok (result, later)) :
    target ≠ Format.null := by
  rintro rfl
  cases hresult

end Data

end Pasteboard
