import Pasteboard.Conversion
import Pasteboard.Proofs.Payload.Sights

/-!
# Conversions without the numbers of handles

What is seen of a converted value depends on what is seen of the value that it is made from:
`Data.seen_convert`. A conversion gives a byte string, or an object that is rebuilt from a flat
form, `Data.Rebuilt`; so it adds one object to the table at most, and a sound one if the rows of
packed bitmaps are short enough.
-/

namespace Pasteboard

/-- What is done with a reconstructed object depends on the flat form alone, if it does not depend
on the handle. -/
theorem Graphics.Honest.reconstruct?_bind {α : Type} {graphics : Graphics} {kind : BitsKind}
    {bytes : Bytes} (h : graphics.Honest) (hroom : graphics.Spares 1) (error : ConversionError)
    {next : Handle × Graphics → Except ConversionError α}
    {seen : Object → Except ConversionError α}
    (hnext : ∀ object handle later, graphics.Gains object handle later →
      next (handle, later) = seen object) :
    orFail error (graphics.reconstruct? kind bytes) >>= next =
      orFail error (Object.ofBits? kind bytes) >>= seen := by
  rw [h.reconstruct?_eq]
  cases Object.ofBits? kind bytes with
  | none => rfl
  | some object =>
      obtain ⟨handle, later, hinsert, hgains⟩ := Graphics.exists_insert? hroom object
      rw [Option.bind_some, hinsert]
      exact hnext object handle later hgains

/-- The enhanced metafile behind a picture header has the extents of the picture. -/
theorem Object.ofBits?_winMetafile (pict : MetafilePict) (bits : Bytes) :
    ofBits? .winMetafile (pict.write ++ bits) = some (ofFrame 0 0 pict.xExt pict.yExt
      (if mark.isPrefixOf bits then bits.drop mark.length else bits)) := by
  simp only [ofBits?, ofPicture?, MetafilePict.parse?_write]
  rw [List.drop_left' pict.length_write]

namespace Data

variable {graphics later : Graphics} {format target source : Format} {data result : Data}
  {layout : DibLayout} {text : TextSettings}

/-- What is seen of the value that another one is converted to. -/
def converted (target source : Format) (text : TextSettings) (sight : Sight) :
    Except ConversionError Sight :=
  seen <$> sight.1.convert (.solo sight.2) target source text

/-- What is found is worked with. -/
theorem orFail_some_bind {α β : Type} (error : ConversionError) (value : α)
    (next : α → Except ConversionError β) : orFail error (some value) >>= next = next value := rfl

/-- A value of bytes has no handle. -/
@[simp] theorem bytes?_nameless (data : Data) : data.nameless.bytes? = data.bytes? := by
  cases data <;> rfl

section

variable (h : graphics.Honest) (hroom : graphics.Spares 1)

include h hroom

/-- What is done with a reconstructed object is seen to depend on the flat form alone. -/
theorem seen_reconstruct (error : ConversionError) {kind : BitsKind} {flat other : Bytes}
    (hflat : Object.ofBits? kind flat = Object.ofBits? kind other) (object : Option Object)
    (wrap : Handle → Data) (hhandle : ∀ handle, (wrap handle).handle? = some handle)
    (hname : ∀ handle, (wrap handle).nameless = (wrap .first).nameless) :
    (seen <$> do
      let (handle, later) ← orFail error (graphics.reconstruct? kind flat)
      return (wrap handle, later)) =
    (seen <$> do
      let (handle, later) ← orFail error ((Graphics.solo object).reconstruct? kind other)
      return (wrap handle, later)) := by
  have hgained {table : Graphics} (object : Object) (handle : Handle) (later : Graphics)
      (hgains : table.Gains object handle later) :
      seen <$> (pure (wrap handle, later) : Except ConversionError _) =
        .ok ((wrap .first).nameless, some object) := by
    show Except.ok (sight later (wrap handle)) = _
    rw [sight, hname, hhandle, Option.bind_some, hgains.found]
  rw [map_bind, map_bind]
  refine (h.reconstruct?_bind hroom error hgained).trans ?_
  rw [hflat]
  exact ((Graphics.honest_solo object).reconstruct?_bind (Graphics.spares_solo object) error
    hgained).symm

/-- The bitmap that is made of a packed one depends on what is seen of that. -/
theorem seen_toBitmap (target source : Format) (layout : DibLayout) (data : Data) :
    seen <$> toBitmap graphics target source layout data =
      seen <$> toBitmap (.solo (data.sight graphics).2) target source layout data.nameless := by
  unfold toBitmap
  rw [expectBytes, expectBytes, bytes?_nameless]
  cases data.bytes? with
  | none => rfl
  | some flat =>
      by_cases hparse : (DibHeader.parse? flat).isNone
      · simp only [orFail, hparse, if_true, bind, Except.bind]
        rfl
      · simp only [orFail, bind, Except.bind, hparse, Bool.false_eq_true, if_false]
        exact seen_reconstruct h hroom _ rfl _ bitmap (fun _ => rfl) fun _ => rfl

omit hroom in
theorem seen_toPacked (target source : Format) (layout : DibLayout) (data : Data) :
    seen <$> toPacked graphics target source layout data =
      seen <$> toPacked (.solo (data.sight graphics).2) target source layout data.nameless := by
  cases data with
  | bitmap handle =>
      simp only [toPacked, sight, nameless, handle?, Option.bind_some, h.fetch?_solo, map_bind]
      rfl
  | bytes | palette | enhMetafile | metafilePict => rfl

theorem seen_toPicture (target source : Format) (data : Data) :
    seen <$> toPicture graphics target source data =
      seen <$> toPicture (.solo (data.sight graphics).2) target source data.nameless := by
  cases data with
  | enhMetafile handle =>
      simp only [toPicture, sight, nameless, handle?, Option.bind_some, h.fetch?_solo, map_bind]
      refine bind_congr fun frame => bind_congr fun left => bind_congr fun top =>
        bind_congr fun right => bind_congr fun bottom => bind_congr fun bits => ?_
      rw [← map_bind, ← map_bind]
      exact seen_reconstruct h hroom _ rfl _ (fun handle => metafilePict
        ⟨MetafilePict.isotropic, right.1 - left.1, bottom.1 - top.1, some handle⟩) (fun _ => rfl)
        fun _ => rfl
  | bytes | palette | bitmap | metafilePict => rfl

/-- The enhanced metafile of a picture does not depend on the handle of the picture. -/
theorem seen_toEnhanced (target source : Format) (data : Data) :
    seen <$> toEnhanced graphics target source data =
      seen <$> toEnhanced (.solo (data.sight graphics).2) target source data.nameless := by
  cases data with
  | metafilePict pict =>
      cases hmetafile : pict.metafile with
      | none => simp [toEnhanced, nameless, hmetafile, orFail, bind, Except.bind]
      | some handle =>
          simp only [toEnhanced, sight, nameless, handle?, hmetafile, Option.map_some,
            Option.bind_some, orFail_some_bind, h.fetch?_solo]
          rw [map_bind, map_bind]
          refine bind_congr fun bits => seen_reconstruct h hroom _ ?_ _ enhMetafile (fun _ => rfl)
            fun _ => rfl
          rw [Object.ofBits?_winMetafile, Object.ofBits?_winMetafile]
  | bytes | palette | bitmap | enhMetafile => rfl

/-- What is seen of a converted value depends on what is seen of the value. -/
theorem seen_convert (target source : Format) (data : Data) (text : TextSettings) :
    seen <$> data.convert graphics target source text =
      converted target source text (data.sight graphics) := by
  have hbytes : (data.sight graphics).1.bytes? = data.bytes? := bytes?_nameless data
  unfold converted convert
  split
  · rw [expectBytes, expectBytes, hbytes]
    cases data.bytes? <;> rfl
  · rw [expectBytes, expectBytes, hbytes]
    cases data.bytes? <;> rfl
  · rw [expectBytes, expectBytes, hbytes]
    cases data.bytes? <;> rfl
  · exact seen_toBitmap h hroom _ _ _ data
  · exact seen_toPacked h _ _ _ data
  · rename_i layout _ _ _
    rw [expectBytes, expectBytes, hbytes]
    cases data.bytes? with
    | none => rfl
    | some flat =>
        simp only [orFail_some_bind]
        cases Dib.convert? flat layout <;> rfl
  · exact seen_toPicture h hroom _ _ data
  · exact seen_toEnhanced h hroom _ _ data
  · rfl

end

/-- What did not fail was found. -/
theorem eq_some_of_orFail {α : Type} {error : ConversionError} {found : Option α} {value : α}
    (h : orFail error found = .ok value) : found = some value := by
  cases found with
  | none => cases h
  | some found => rw [Except.ok.inj h]

/-- A value that is expected to be bytes is bytes. -/
theorem eq_of_expectBytes {flat : Bytes} (h : data.expectBytes format = .ok flat) :
    data = bytes flat := by
  have hvalue : data.bytes? = some flat := eq_some_of_orFail h
  cases data with
  | bytes data => rw [Option.some.inj hvalue]
  | bitmap | palette | enhMetafile | metafilePict => cases hvalue

/-- Two formats hold packed bitmaps, one for each layout. -/
theorem eq_dib_of_form? {format : Format} {layout : DibLayout}
    (h : format.form? = some (.packed layout)) : format = Format.dib ∨ format = Format.dibV5 := by
  by_cases hdib : format = Format.dib
  · exact .inl hdib
  · by_cases hlong : format = Format.dibV5
    · exact .inr hlong
    · unfold Format.form? at h
      simp only [hdib, hlong, if_false] at h
      iterate 5 (split at h; · cases h)
      cases h

/-- The table took the object of a flat form, and the value names it. -/
def Rebuilt (graphics : Graphics) (kind : BitsKind) (flat : Bytes) (result : Data)
    (later : Graphics) : Prop :=
  ∃ handle object, result.handle? = some handle ∧ Object.ofBits? kind flat = some object ∧
    graphics.Gains object handle later

/-- A value that names a handle which the table gave is rebuilt from the flat form. -/
theorem rebuilt_of_orFail {error : ConversionError} {kind : BitsKind} {flat : Bytes}
    {handle : Handle} (h : orFail error (graphics.reconstruct? kind flat) = .ok (handle, later))
    (hresult : result.handle? = some handle) : Rebuilt graphics kind flat result later := by
  obtain ⟨object, hobject, hgains⟩ := Graphics.exists_of_reconstruct? (eq_some_of_orFail h)
  exact ⟨handle, object, hresult, hobject, hgains⟩

/-- A packed bitmap is rebuilt from the value itself. -/
theorem rebuilt_of_toBitmap
    (h : toBitmap graphics target source layout data = .ok (result, later)) :
    ∃ flat, data = bytes flat ∧ Rebuilt graphics layout.kind flat result later := by
  unfold toBitmap at h
  obtain ⟨flat, hflat, h⟩ := exists_of_bind h
  split at h
  · cases h
  · obtain ⟨⟨handle, grown⟩, hbuilt, h⟩ := exists_of_bind h
    cases h
    exact ⟨flat, eq_of_expectBytes hflat, rebuilt_of_orFail hbuilt rfl⟩

/-- A picture that was made names a metafile that the table took. -/
theorem rebuilt_of_toPicture (h : toPicture graphics target source data = .ok (result, later)) :
    ∃ flat, Rebuilt graphics .metafile flat result later := by
  unfold toPicture at h
  split at h
  · obtain ⟨frame, _, h⟩ := exists_of_bind h
    obtain ⟨left, _, h⟩ := exists_of_bind h
    obtain ⟨top, _, h⟩ := exists_of_bind h
    obtain ⟨right, _, h⟩ := exists_of_bind h
    obtain ⟨bottom, _, h⟩ := exists_of_bind h
    obtain ⟨bits, _, h⟩ := exists_of_bind h
    obtain ⟨⟨handle, grown⟩, hbuilt, h⟩ := exists_of_bind h
    cases h
    exact ⟨bits, rebuilt_of_orFail hbuilt rfl⟩
  · cases h

/-- An enhanced metafile that was made is one that the table took. -/
theorem rebuilt_of_toEnhanced (h : toEnhanced graphics target source data = .ok (result, later)) :
    ∃ flat, Rebuilt graphics .winMetafile flat result later := by
  unfold toEnhanced at h
  split at h
  · obtain ⟨metafile, _, h⟩ := exists_of_bind h
    obtain ⟨bits, _, h⟩ := exists_of_bind h
    obtain ⟨⟨handle, grown⟩, hbuilt, h⟩ := exists_of_bind h
    cases h
    exact ⟨_, rebuilt_of_orFail hbuilt rfl⟩
  · cases h

/-- A packed bitmap that is made from a bitmap adds no object. -/
theorem eq_of_toPacked (h : toPacked graphics target source layout data = .ok (result, later)) :
    ∃ flat, result = bytes flat ∧ later = graphics := by
  unfold toPacked at h
  split at h
  · obtain ⟨flat, _, h⟩ := exists_of_bind h
    cases h
    exact ⟨_, rfl, rfl⟩
  · cases h

/-- A conversion gives a byte string, or an object rebuilt from a flat form; a packed bitmap is
rebuilt from the value itself. -/
theorem exists_of_convert (h : data.convert graphics target source text = .ok (result, later)) :
    (∃ flat, result = bytes flat ∧ later = graphics) ∨
      ∃ kind flat, Rebuilt graphics kind flat result later ∧ kind ≠ .bitmapBits ∧
        (kind = .dib ∨ kind = .dibV5 →
          data = bytes flat ∧ (source = Format.dib ∨ source = Format.dibV5)) := by
  unfold convert at h
  -- One case for each pair of forms; text and packed bitmaps in another layout need no object.
  split at h
  · obtain ⟨wide, _, h⟩ := exists_of_bind h
    cases h
    exact .inl ⟨_, rfl, rfl⟩
  · obtain ⟨narrow, _, h⟩ := exists_of_bind h
    cases h
    exact .inl ⟨_, rfl, rfl⟩
  · obtain ⟨narrow, _, h⟩ := exists_of_bind h
    cases h
    exact .inl ⟨_, rfl, rfl⟩
  · rename_i layout _ hsource
    obtain ⟨flat, hflat, hbuilt⟩ := rebuilt_of_toBitmap h
    exact .inr ⟨layout.kind, flat, hbuilt, by cases layout <;> decide, fun _ =>
      ⟨hflat, eq_dib_of_form? hsource⟩⟩
  · exact .inl (eq_of_toPacked h)
  · obtain ⟨flat, _, h⟩ := exists_of_bind h
    obtain ⟨moved, _, h⟩ := exists_of_bind h
    cases h
    exact .inl ⟨_, rfl, rfl⟩
  · obtain ⟨flat, hbuilt⟩ := rebuilt_of_toPicture h
    exact .inr ⟨.metafile, flat, hbuilt, by decide, by simp⟩
  · obtain ⟨flat, hbuilt⟩ := rebuilt_of_toEnhanced h
    exact .inr ⟨.winMetafile, flat, hbuilt, by decide, by simp⟩
  · cases h

/-- A converted value adds one object at most. -/
theorem grows_of_convert (h : data.convert graphics target source text = .ok (result, later)) :
    graphics.Grows 1 later := by
  rcases exists_of_convert h with ⟨_, _, rfl⟩ | ⟨_, _, ⟨_, _, _, _, hgains⟩, _⟩
  · exact .refl _ _
  · exact hgains.grows

/-- A converted value has a sound object, if the rows of packed bitmaps are short enough. -/
theorem sound_of_convert (h : data.convert graphics target source text = .ok (result, later))
    (hrow : source = Format.dib ∨ source = Format.dibV5 → ∀ flat dib, data = bytes flat →
      DibHeader.parse? flat = some dib →
      BitmapHeader.rowBytes dib.width dib.bitCount < 2147483648)
    (handle : Handle) (object : Object) (hhandle : result.handle? = some handle)
    (hobject : later.object? handle = some object) : object.Sound := by
  rcases exists_of_convert h with ⟨_, rfl, _⟩ |
    ⟨kind, flat, ⟨rebuilt, built, hrebuilt, hbuilt, hgains⟩, hkind, hflat⟩
  · cases hhandle
  · obtain rfl : rebuilt = handle := Option.some.inj (hrebuilt.symm.trans hhandle)
    obtain rfl : built = object := Option.some.inj (hgains.found.symm.trans hobject)
    exact Object.sound_ofBits? hbuilt hkind fun hpacked dib hdib =>
      hrow (hflat hpacked).2 flat dib (hflat hpacked).1 hdib

end Data

end Pasteboard
