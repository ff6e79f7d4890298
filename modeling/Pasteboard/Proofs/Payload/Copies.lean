import Pasteboard.Proofs.Payload.Encoding
import Pasteboard.Proofs.Payload.Tables

/-!
# Values that travel

A payload made of a value in one table of graphics objects gives the value again in any other table:
see `Data.decode_of_encode`. A graphics object comes under a handle that was free, a palette without
what is left over after its whole entries, and nothing else in the table changes.
-/

namespace Pasteboard

/-- A bitmap has the header of its size and rows below two gibibytes; an enhanced metafile has its
frame. -/
def Object.Sound : Object → Prop
  | bitmap header _ =>
    header = BitmapHeader.ofSize header.width header.height header.bitsPixel ∧
      BitmapHeader.rowBytes header.width header.bitsPixel < 2147483648
  | enhMetafile data => 16 ≤ data.length
  | palette _ | metafile _ => True

namespace Object

/-- A bitmap that is made of rows is sound if one row is short enough. -/
theorem sound_ofRows {width height : Int32} {bitsPixel : UInt16} (bits : Bytes)
    (hrow : BitmapHeader.rowBytes width bitsPixel < 2147483648) :
    (ofRows width height bitsPixel bits).Sound :=
  ⟨rfl, hrow⟩

/-- An enhanced metafile with a frame has the bytes of the frame at least. -/
theorem sound_ofFrame (left top right bottom : Int32) (records : Bytes) :
    (ofFrame left top right bottom records).Sound := by
  simp only [ofFrame, Sound, List.length_append, Bytes.length_ofI32]
  omega

/-- The bitmap of a packed one is sound if its rows are short enough. -/
theorem sound_ofDib? {bytes : Bytes} {object : Object} (h : ofDib? bytes = some object)
    (hrow : ∀ dib, DibHeader.parse? bytes = some dib →
      BitmapHeader.rowBytes dib.width dib.bitCount < 2147483648) : object.Sound := by
  unfold ofDib? at h
  split at h
  · cases h
  · rename_i dib hdib
    dsimp only at h
    split at h
    · cases h
    · split at h
      · cases h
      · cases h
        exact sound_ofRows _ (hrow dib hdib)

/-- What is rebuilt from other flat forms than bitmap rows is sound, if the rows of packed bitmaps
are short enough. -/
theorem sound_ofBits? {kind : BitsKind} {bytes : Bytes} {object : Object}
    (h : ofBits? kind bytes = some object) (hkind : kind ≠ .bitmapBits)
    (hrow : kind = .dib ∨ kind = .dibV5 → ∀ dib, DibHeader.parse? bytes = some dib →
      BitmapHeader.rowBytes dib.width dib.bitCount < 2147483648) : object.Sound := by
  cases kind with
  | bitmapBits => exact False.elim (hkind rfl)
  | dib => exact sound_ofDib? h (hrow (.inl rfl))
  | dibV5 => exact sound_ofDib? h (hrow (.inr rfl))
  | palette =>
      simp only [ofBits?] at h
      split at h
      · cases h
      · cases h
        trivial
  | enhMetafile =>
      simp only [ofBits?] at h
      split at h
      · cases h
      · rename_i hframe
        cases h
        exact Nat.not_lt.1 hframe
  | metafile =>
      simp only [ofBits?] at h
      split at h
      · cases h
      · cases h
        trivial
  | winMetafile =>
      simp only [ofBits?, ofPicture?] at h
      split at h
      · cases h
      · cases h
        exact sound_ofFrame ..
  | bitmapHeader | enhMetafileFrame => cases h

/-- Only a palette has palette bits, and they are its entries. -/
theorem bits?_palette_iff {object : Object} {bits : Bytes} :
    object.bits? .palette = some bits ↔ object = palette bits := by
  cases object <;> simp [bits?]

/-- Only an enhanced metafile has the bits of one. -/
theorem bits?_enhMetafile_iff {object : Object} {bits : Bytes} :
    object.bits? .enhMetafile = some bits ↔ object = enhMetafile bits := by
  cases object <;> simp [bits?]

/-- Only a metafile has the bits of one. -/
theorem bits?_metafile_iff {object : Object} {bits : Bytes} :
    object.bits? .metafile = some bits ↔ object = metafile bits := by
  cases object <;> simp [bits?]

/-- Only a bitmap has a header. -/
theorem exists_of_bits?_bitmapHeader {object : Object} {flat : Bytes}
    (h : object.bits? .bitmapHeader = some flat) :
    ∃ header bits, object = bitmap header bits ∧ flat = header.write := by
  cases object with
  | bitmap header bits => exact ⟨header, bits, rfl, (Option.some.inj h).symm⟩
  | palette | enhMetafile | metafile => simp [bits?] at h

/-- The size that a sound header gives in its own row field is that of the pixel rows. -/
theorem Sound.widthBytes_eq {header : BitmapHeader} {bits : Bytes}
    (h : (bitmap header bits).Sound) :
    header.bits = 0 ∧ header.widthBytes.toInt =
      BitmapHeader.rowBytes header.width header.bitsPixel := by
  rw [h.1]
  exact ⟨rfl, Int32.toInt_ofNat_of_lt h.2⟩

end Object

variable {sender receiver graphics later : Graphics} {format : Format} {payload : Bytes}
  {handle : Handle}

namespace Data

/-! ## What a payload holds -/

/-- An encoded bitmap is one in the table, with all its rows. -/
theorem exists_of_encodeBitmap (hsender : sender.Honest)
    (h : encodeBitmap sender handle = .ok payload) :
    ∃ header bits, sender.object? handle = some (.bitmap header bits) ∧
      bits.length = header.bitsSize ∧ payload = header.write ++ bits := by
  unfold encodeBitmap at h
  cases hfetch : sender.fetch .bitmapHeader handle with
  | error => simp [hfetch, bind, Except.bind] at h
  | ok flat =>
      simp only [hfetch, bind, Except.bind] at h
      obtain ⟨object, hobject, hflat, _⟩ := hsender.exists_of_fetch hfetch
      obtain ⟨header, bits, rfl, rfl⟩ := Object.exists_of_bits?_bitmapHeader hflat
      have hparse := header.parse?_write []
      rw [List.append_nil] at hparse
      simp only [hparse, hsender.extract?_eq, Graphics.bits?, hobject, Option.bind_some,
        Object.bits?] at h
      split at h
      · cases h
      · rename_i found hfound
        cases h
        obtain ⟨hfound, hlength⟩ := Option.filter_eq_some_iff.1 hfound
        cases hfound
        exact ⟨header, bits, hobject, by simpa using hlength, rfl⟩

/-- An encoded palette is one in the table, without the rest of an entry that is not whole. -/
theorem exists_of_encodePalette (hsender : sender.Honest)
    (h : encodePalette sender handle = .ok payload) :
    ∃ entries, sender.object? handle = some (.palette entries) ∧ entries.length / 4 < 65536 ∧
      payload = Bytes.ofU16 0x300 ++ Bytes.ofU16 (UInt16.ofNat (entries.length / 4)) ++
        entries.take (entries.length / 4 * 4) := by
  unfold encodePalette at h
  cases hfetch : sender.fetch .palette handle with
  | error => simp [hfetch, bind, Except.bind] at h
  | ok entries =>
      simp only [hfetch, bind, Except.bind] at h
      obtain ⟨object, hobject, hflat, _⟩ := hsender.exists_of_fetch hfetch
      obtain rfl := Object.bits?_palette_iff.1 hflat
      split at h
      · rename_i hcount
        cases h
        exact ⟨entries, hobject, hcount, rfl⟩
      · cases h

/-- An encoded picture names a metafile in the table that is not empty. -/
theorem exists_of_encodePict (hsender : sender.Honest) {pict : MetafilePict}
    (h : encodePict sender format pict = .ok payload) :
    ∃ handle bits, pict.metafile = some handle ∧ sender.object? handle = some (.metafile bits) ∧
      bits ≠ [] ∧ payload = pict.write ++ bits := by
  unfold encodePict at h
  split at h
  · cases h
  · rename_i handle hmetafile
    cases hfetch : sender.fetch .metafile handle with
    | error => simp [hfetch, bind, Except.bind] at h
    | ok bits =>
        simp only [hfetch, bind, Except.bind] at h
        cases h
        obtain ⟨object, hobject, hflat, hne⟩ := hsender.exists_of_fetch hfetch
        obtain rfl := Object.bits?_metafile_iff.1 hflat
        exact ⟨handle, bits, hmetafile, hobject, hne, rfl⟩

/-- A fetched enhanced metafile is one in the table. -/
theorem object?_of_fetch_enhMetafile (hsender : sender.Honest)
    (h : sender.fetch .enhMetafile handle = .ok payload) :
    sender.object? handle = some (.enhMetafile payload) := by
  obtain ⟨object, hobject, hflat, _⟩ := hsender.exists_of_fetch h
  rw [hobject, Object.bits?_enhMetafile_iff.1 hflat]

/-! ## What is rebuilt from it -/

section

variable (hreceiver : receiver.Honest) (hroom : receiver.Spares 1)

include hreceiver hroom

/-- The payload of a sound bitmap is decoded to an equal one. -/
theorem decodeBitmap_write {header : BitmapHeader} {bits : Bytes} (format : Format)
    (hsound : (Object.bitmap header bits).Sound) (hlength : bits.length = header.bitsSize) :
    ∃ handle later, decodeBitmap receiver format (header.write ++ bits) =
        .ok (bitmap handle, later) ∧
      receiver.Gains (.bitmap header bits) handle later := by
  have hsize : (header.write ++ bits).length = BitmapHeader.headerSize + header.bitsSize := by
    rw [List.length_append, header.length_write, hlength]
  have hobject :
      Object.ofBits? .bitmapBits (header.write ++ bits) = some (.bitmap header bits) := by
    have hdrop : (header.write ++ bits).drop BitmapHeader.headerSize = bits :=
      List.drop_left' header.length_write
    have htake : bits.take header.bitsSize = bits := List.take_of_length_le (Nat.le_of_eq hlength)
    simp only [Object.ofBits?, Object.ofBitmapBits?, BitmapHeader.parse?_write, hsize,
      Nat.lt_irrefl, if_false, hdrop, htake]
  obtain ⟨handle, later, hrebuild, hgains⟩ := hreceiver.exists_rebuild hroom format hobject
  obtain ⟨hbits, hrow⟩ := hsound.widthBytes_eq
  refine ⟨handle, later, ?_, hgains⟩
  have hnonneg : ¬ header.widthBytes < 0 := by
    rw [Int32.lt_iff_toInt_lt, hrow]
    exact Int.not_lt.2 (Int.natCast_nonneg _)
  have hfits : ¬ (header.write ++ bits).length - BitmapHeader.headerSize <
      header.widthBytes.toInt.toNat * header.height.toInt.natAbs := by
    rw [hsize, Nat.add_sub_cancel_left, hrow, Int.toNat_natCast]
    exact Nat.lt_irrefl _
  rw [decodeBitmap, BitmapHeader.parse?_write]
  simp only [hnonneg, if_false, hfits, hbits, ne_eq, not_true_eq_false, hrebuild]
  rfl

/-- The payload of a palette is decoded to one with the same whole entries. -/
theorem decodePalette_take (format : Format) {entries : Bytes}
    (hcount : entries.length / 4 < 65536) :
    ∃ handle later, decodePalette receiver format
        (Bytes.ofU16 0x300 ++ Bytes.ofU16 (UInt16.ofNat (entries.length / 4)) ++
          entries.take (entries.length / 4 * 4)) = .ok (palette handle, later) ∧
      receiver.Gains (.palette (entries.take (entries.length / 4 * 4))) handle later := by
  generalize hwhole : entries.take (entries.length / 4 * 4) = whole
  have hlength : whole.length = entries.length / 4 * 4 := by
    rw [← hwhole, List.length_take]
    omega
  have hnumber : (UInt16.ofNat (entries.length / 4)).toNat = entries.length / 4 :=
    UInt16.toNat_ofNat_of_lt' hcount
  have hdrop :
      (Bytes.ofU16 0x300 ++ (Bytes.ofU16 (UInt16.ofNat (entries.length / 4)) ++ whole)).drop 2 =
        Bytes.ofU16 (UInt16.ofNat (entries.length / 4)) ++ whole :=
    List.drop_left' (Bytes.length_ofU16 _)
  have hsize : (Bytes.ofU16 0x300 ++ (Bytes.ofU16 (UInt16.ofNat (entries.length / 4)) ++
      whole)).length = 4 + entries.length / 4 * 4 := by
    simp only [List.length_append, Bytes.length_ofU16, hlength]
    omega
  have hobject : Object.ofBits? .palette
      (Bytes.ofU16 0x300 ++ (Bytes.ofU16 (UInt16.ofNat (entries.length / 4)) ++ whole)) =
      some (.palette whole) := by
    have hfull : ¬ 4 + entries.length / 4 * 4 < 4 := by omega
    have hrest : (Bytes.ofU16 0x300 ++ (Bytes.ofU16 (UInt16.ofNat (entries.length / 4)) ++
        whole)).drop 4 = whole := by
      rw [← List.append_assoc]
      exact List.drop_left' (by simp)
    simp only [Object.ofBits?, hsize, hfull, if_false, hrest]
  obtain ⟨handle, later, hrebuild, hgains⟩ := hreceiver.exists_rebuild hroom format hobject
  refine ⟨handle, later, ?_, hgains⟩
  rw [List.append_assoc, decodePalette, hdrop, Bytes.u16?_ofU16]
  simp only [hnumber, hsize, Nat.lt_irrefl, if_false]
  rw [List.take_of_length_le (Nat.le_of_eq hsize), hrebuild]
  rfl

/-- The payload of a picture is decoded to one with an equal metafile. -/
theorem decodePict_write (format : Format) (pict : MetafilePict) {bits : Bytes} (hne : bits ≠ []) :
    ∃ handle later, decodePict receiver format (pict.write ++ bits) =
        .ok (metafilePict { pict with metafile := some handle }, later) ∧
      receiver.Gains (.metafile bits) handle later := by
  have hobject : Object.ofBits? .metafile bits = some (.metafile bits) := by
    simp [Object.ofBits?, hne]
  obtain ⟨handle, later, hrebuild, hgains⟩ := hreceiver.exists_rebuild hroom format hobject
  refine ⟨handle, later, ?_, hgains⟩
  have hdrop : (pict.write ++ bits).drop MetafilePict.headerSize = bits :=
    List.drop_left' pict.length_write
  have hfull : ¬ (pict.write ++ bits).length ≤ MetafilePict.headerSize := by
    have hpos := List.length_pos_iff.2 hne
    rw [List.length_append, pict.length_write]
    omega
  rw [decodePict, if_neg hfull, MetafilePict.parse?_write, hdrop, hrebuild]
  rfl

end

/-! ## The round trip -/

/-- The second value, in the table that the receiver has later, is a copy of the first one, in the
table of the sender. -/
inductive Copies (sender receiver later : Graphics) : Data → Data → Prop where
  | bytes (data : Bytes) : later = receiver → Copies sender receiver later (bytes data) (bytes data)
  | bitmap {handle copy : Handle} {object : Object} :
      sender.object? handle = some object → receiver.Gains object copy later →
      Copies sender receiver later (bitmap handle) (bitmap copy)
  | palette {handle copy : Handle} {entries : Bytes} :
      sender.object? handle = some (.palette entries) →
      receiver.Gains (.palette (entries.take (entries.length / 4 * 4))) copy later →
      Copies sender receiver later (palette handle) (palette copy)
  | enhMetafile {handle copy : Handle} {object : Object} :
      sender.object? handle = some object → receiver.Gains object copy later →
      Copies sender receiver later (enhMetafile handle) (enhMetafile copy)
  | metafilePict {pict : MetafilePict} {handle copy : Handle} {object : Object} :
      pict.metafile = some handle → sender.object? handle = some object →
      receiver.Gains object copy later →
      Copies sender receiver later (metafilePict pict)
        (metafilePict { pict with metafile := some copy })

/-- Nothing that was in the table changes. -/
theorem Copies.kept {data copy : Data} (h : Copies sender receiver later data copy)
    {other : Handle} {old : Object} (hother : receiver.object? other = some old) :
    later.object? other = some old := by
  cases h with
  | bytes _ hlater => rwa [hlater]
  | bitmap _ hgains | palette _ hgains | enhMetafile _ hgains | metafilePict _ _ hgains =>
      exact hgains.kept hother

/-- What a payload of a sound value is decoded to is a copy of the value. -/
theorem exists_copy_of_encode (hsender : sender.Honest) (hreceiver : receiver.Honest)
    (hroom : receiver.Spares 1) (hformat : format ≠ Format.dspBitmap) {data : Data}
    (hsound : ∀ handle object, data.handle? = some handle → sender.object? handle = some object →
      object.Sound)
    (h : data.encode sender format = .ok payload) :
    ∃ copy later, decode receiver format payload = .ok (copy, later) ∧
      Copies sender receiver later data copy := by
  have hflat := flatten_of_encode h
  unfold flatten at hflat
  unfold decode
  -- One case for each kind of value that fits the format; encoder and decoder split alike.
  split at hflat
  · rename_i handle hshape
    obtain ⟨header, bits, hobject, hlength, rfl⟩ := exists_of_encodeBitmap hsender hflat
    obtain ⟨copy, later, hdecode, hgains⟩ := decodeBitmap_write hreceiver hroom format
      (hsound handle _ rfl hobject) hlength
    simp only [hshape, if_neg hformat, hdecode]
    exact ⟨_, _, rfl, .bitmap hobject hgains⟩
  · rename_i handle hshape
    obtain ⟨entries, hobject, hcount, rfl⟩ := exists_of_encodePalette hsender hflat
    obtain ⟨copy, later, hdecode, hgains⟩ := decodePalette_take hreceiver hroom format hcount
    simp only [hshape, hdecode]
    exact ⟨_, _, rfl, .palette hobject hgains⟩
  · rename_i handle hshape
    have hobject := object?_of_fetch_enhMetafile hsender hflat
    have hframe : ¬ payload.length < 16 := Nat.not_lt.2 (hsound handle _ rfl hobject)
    have hbuilt : Object.ofBits? .enhMetafile payload = some (.enhMetafile payload) := if_neg hframe
    obtain ⟨copy, later, hrebuild, hgains⟩ := hreceiver.exists_rebuild hroom format hbuilt
    simp only [hshape, hrebuild]
    exact ⟨_, _, rfl, .enhMetafile hobject hgains⟩
  · rename_i pict hshape
    obtain ⟨handle, bits, hmetafile, hobject, hne, rfl⟩ := exists_of_encodePict hsender hflat
    obtain ⟨copy, later, hdecode, hgains⟩ := decodePict_write hreceiver hroom format pict hne
    simp only [hshape, hdecode]
    exact ⟨_, _, rfl, .metafilePict hmetafile hobject hgains⟩
  · rename_i hshape
    split at hflat
    · cases hflat
    · cases hflat
      simp only [hshape]
      exact ⟨_, _, rfl, .bytes _ rfl⟩
  · cases hflat

/-- A payload that is made of a value gives a copy of the value in any other table, whatever kind of
value it is, as long as the format is not for bitmaps of others. The payload is not empty, and the
objects that were in the other table stay as they were. -/
theorem decode_of_encode (hsender : sender.Honest) (hreceiver : receiver.Honest)
    (hroom : receiver.Spares 1) (hformat : format ≠ Format.dspBitmap) {data : Data}
    (hsound : ∀ handle object, data.handle? = some handle → sender.object? handle = some object →
      object.Sound)
    (h : data.encode sender format = .ok payload) :
    payload ≠ [] ∧ ∃ copy later, decode receiver format payload = .ok (copy, later) ∧
      Copies sender receiver later data copy ∧
      ∀ other old, receiver.object? other = some old → later.object? other = some old := by
  obtain ⟨copy, later, hdecode, hcopies⟩ :=
    exists_copy_of_encode hsender hreceiver hroom hformat hsound h
  exact ⟨encode_ne_nil h, copy, later, hdecode, hcopies,
    fun other old hother => hcopies.kept hother⟩

/-- A table with one pixel under its only handle. -/
def pixel : Graphics := ⟨[.ofRows 1 1 24 [1, 2, 3, 0]], [], []⟩

/-- The pixel comes to a table with a palette. -/
theorem pixel_travels :
    ∃ payload copy later, (bitmap ⟨1, by decide⟩).encode pixel Format.bitmap = .ok payload ∧
      payload ≠ [] ∧
      decode ⟨[.palette [9]], [], []⟩ Format.bitmap payload = .ok (copy, later) ∧
      Copies pixel ⟨[.palette [9]], [], []⟩ later (bitmap ⟨1, by decide⟩) copy := by
  have hsound : ∀ handle object, (bitmap ⟨1, by decide⟩).handle? = some handle →
      pixel.object? handle = some object → object.Sound := by
    rintro handle object ⟨⟩ ⟨⟩
    exact Object.sound_ofRows _ (by decide)
  have hroom : Graphics.Spares ⟨[.palette [9]], [], []⟩ 1 := by
    unfold Graphics.Spares
    decide
  have hformat : Format.bitmap ≠ Format.dspBitmap := by decide
  obtain ⟨hne, copy, later, hdecode, hcopies, _⟩ :=
    decode_of_encode ⟨rfl, rfl⟩ ⟨rfl, rfl⟩ hroom hformat hsound rfl
  exact ⟨_, copy, later, rfl, hne, hdecode, hcopies⟩

end Data

end Pasteboard
