import Pasteboard.Proofs.Payload.Results

/-!
# Drawings there and back

An enhanced metafile that becomes a picture and is made enhanced again keeps its records and the
size of its frame; a picture that is made enhanced and a picture again keeps its extents and its
metafile, which starts with the mark from then on: `Data.drawings_there_and_back`. In between the
value may also be sent to another table, `Data.Reaches`.
-/

namespace Pasteboard

namespace Object

/-- What is behind the mark, or all of it if there is none. -/
def unmarked (bits : Bytes) : Bytes :=
  if mark.isPrefixOf bits then bits.drop mark.length else bits

/-- A mark that was added is the one that is taken off. -/
theorem unmarked_mark (records : Bytes) : unmarked (mark ++ records) = records := by
  have hmarked : mark.isPrefixOf (mark ++ records) = true :=
    List.isPrefixOf_iff_prefix.2 (List.prefix_append mark records)
  rw [unmarked, if_pos hmarked, List.drop_left]

/-- Taken off and added again, the mark is there in any case. -/
theorem mark_unmarked (bits : Bytes) :
    mark ++ unmarked bits = if mark.isPrefixOf bits then bits else mark ++ bits := by
  unfold unmarked
  split
  · rename_i hmarked
    obtain ⟨rest, rfl⟩ := List.isPrefixOf_iff_prefix.1 hmarked
    rw [List.drop_left]
  · rfl

variable (left top right bottom : Int32) (records : Bytes)

/-- The flat form of a frame. -/
def frame : Bytes :=
  Bytes.ofI32 left ++ (Bytes.ofI32 top ++ (Bytes.ofI32 right ++ Bytes.ofI32 bottom))

theorem length_frame : (frame left top right bottom).length = 16 := by
  simp [frame]

theorem ofFrame_eq : ofFrame left top right bottom records =
    enhMetafile (frame left top right bottom ++ records) := by
  simp only [ofFrame, frame, List.append_assoc]

theorem bits?_enhMetafileFrame : (ofFrame left top right bottom records).bits? .enhMetafileFrame =
    some (frame left top right bottom) := by
  rw [ofFrame_eq, bits?, List.take_left' (length_frame left top right bottom)]

theorem bits?_winMetafile :
    (ofFrame left top right bottom records).bits? .winMetafile = some (mark ++ records) := by
  rw [ofFrame_eq, bits?, List.drop_left' (length_frame left top right bottom)]

end Object

/-- A sound object that a table took is sound under its handle. -/
theorem Graphics.Gains.sound {graphics later : Graphics} {object : Object} {handle : Handle}
    (h : graphics.Gains object handle later) (hsound : object.Sound) (found : Handle)
    (other : Object) (hhandle : some handle = some found)
    (hother : later.object? found = some other) : other.Sound := by
  cases hhandle
  cases h.found.symm.trans hother
  exact hsound

namespace Data

variable {graphics later held : Graphics} {format : Format} {data copy : Data} {object : Object}
  {handle : Handle} {pict : MetafilePict}

/-! ## One conversion -/

section

variable (h : graphics.Honest) (hroom : graphics.Spares 1) (text : TextSettings)

include h hroom

/-- The picture of an enhanced metafile has the size of its frame, and a metafile with the mark. -/
theorem exists_convert_enhMetafile {left top right bottom : Int32} {records : Bytes}
    (hobject : graphics.object? handle = some (.ofFrame left top right bottom records)) :
    ∃ metafile later,
      (enhMetafile handle).convert graphics Format.metafilePict Format.enhMetafile text =
        .ok (metafilePict ⟨MetafilePict.isotropic, right - left, bottom - top, some metafile⟩,
          later) ∧
      graphics.Gains (.metafile (Object.mark ++ records)) metafile later := by
  obtain ⟨metafile, later, hinsert, hgains⟩ :=
    Graphics.exists_insert? hroom (.metafile (Object.mark ++ records))
  refine ⟨metafile, later, ?_, hgains⟩
  have hframe : graphics.fetch? .enhMetafileFrame handle =
      some (Object.frame left top right bottom) :=
    Graphics.fetch?_of_object? h.misreports hobject (Object.bits?_enhMetafileFrame ..)
      (List.ne_nil_of_length_pos (by rw [Object.length_frame]; decide))
  have hbits : graphics.fetch? .winMetafile handle = some (Object.mark ++ records) :=
    Graphics.fetch?_of_object? h.misreports hobject (Object.bits?_winMetafile ..)
      (List.cons_ne_nil _ _)
  have hbuilt : graphics.reconstruct? .metafile (Object.mark ++ records) =
      some (metafile, later) := by
    rw [h.reconstruct?_eq, ← hinsert]
    rfl
  have hlast : Bytes.i32? (Bytes.ofI32 bottom) = some (bottom, []) := by
    simpa using Bytes.i32?_ofI32 bottom []
  show toPicture graphics Format.metafilePict Format.enhMetafile (enhMetafile handle) = _
  simp only [toPicture, hframe, hbits, hbuilt, orFail_some_bind, Object.frame, Bytes.i32?_ofI32,
    hlast]
  rfl

/-- The enhanced metafile of a picture has a frame of its extents, and the records behind the
mark. -/
theorem exists_convert_metafilePict {bits : Bytes} (hmetafile : pict.metafile = some handle)
    (hobject : graphics.object? handle = some (.metafile bits)) (hne : bits ≠ []) :
    ∃ copy later,
      (metafilePict pict).convert graphics Format.enhMetafile Format.metafilePict text =
        .ok (enhMetafile copy, later) ∧
      graphics.Gains (.ofFrame 0 0 pict.xExt pict.yExt (Object.unmarked bits)) copy later := by
  obtain ⟨copy, later, hinsert, hgains⟩ :=
    Graphics.exists_insert? hroom (.ofFrame 0 0 pict.xExt pict.yExt (Object.unmarked bits))
  refine ⟨copy, later, ?_, hgains⟩
  have hbits : graphics.fetch? .metafile handle = some bits :=
    Graphics.fetch?_of_object? h.misreports hobject rfl hne
  have hbuilt : graphics.reconstruct? .winMetafile (pict.write ++ bits) = some (copy, later) := by
    rw [h.reconstruct?_eq, Object.ofBits?_winMetafile, Option.bind_some]
    exact hinsert
  show toEnhanced graphics Format.enhMetafile Format.metafilePict (metafilePict pict) = _
  simp only [toEnhanced, hmetafile, hbits, hbuilt, orFail_some_bind]
  rfl

end

/-! ## The way between -/

/-- A value can be sent from a table: it has a payload unless that is too large, and any other table
with room takes the payload. -/
structure Sendable (format : Format) (data : Data) (graphics : Graphics) : Prop where
  encodes : (∃ payload, data.encode graphics format = .ok payload) ∨
    ∃ size, data.encode graphics format = .error (.tooLarge size) ∧ 4294967296 ≤ size
  decodes : ∀ payload receiver, data.encode graphics format = .ok payload → receiver.Honest →
    receiver.Spares 1 → ∃ copy later, decode receiver format payload = .ok (copy, later)

/-- A value is where it is, or what it was decoded to in a table with room for two objects. -/
inductive Reaches (format : Format) (data : Data) (graphics : Graphics) :
    Data → Graphics → Prop where
  | stays : Reaches format data graphics data graphics
  | sent {payload : Bytes} {copy : Data} {receiver later : Graphics} :
      data.encode graphics format = .ok payload → receiver.Honest → receiver.Spares 2 →
      decode receiver format payload = .ok (copy, later) →
      Reaches format data graphics copy later

/-- A flat form that is not too large is a payload. -/
theorem encode_of_flatten {payload : Bytes} (hflat : data.flatten graphics format = .ok payload) :
    data.encode graphics format = .ok payload ∨
      data.encode graphics format = .error (.tooLarge payload.length) ∧
        4294967296 ≤ payload.length := by
  rw [encode, hflat]
  by_cases hroom : payload.length < 4294967296
  · exact .inl (if_pos hroom)
  · exact .inr ⟨if_neg hroom, Nat.not_lt.1 hroom⟩

/-- A flat form of a value with a sound object can be sent. -/
theorem sendable_of_flatten (h : graphics.Honest) (hformat : format ≠ Format.dspBitmap)
    (hsound : ∀ handle object, data.handle? = some handle →
      graphics.object? handle = some object → object.Sound)
    {payload : Bytes} (hflat : data.flatten graphics format = .ok payload) :
    Sendable format data graphics where
  encodes := (encode_of_flatten hflat).imp (fun hencode => ⟨_, hencode⟩)
    fun hlarge => ⟨_, hlarge⟩
  decodes := by
    intro payload receiver hencode hreceiver hroom
    obtain ⟨copy, later, hdecode, -⟩ :=
      exists_copy_of_encode h hreceiver hroom hformat hsound hencode
    exact ⟨copy, later, hdecode⟩

/-- Whichever way it came, what is seen of the value is the same, and its table has room. -/
theorem Reaches.sight_eq (hreaches : Reaches format data graphics copy held) (h : graphics.Honest)
    (hroom : graphics.Spares 1) (hformat : format ≠ Format.dspBitmap)
    (hpalette : ∀ handle, data ≠ palette handle)
    (hsound : ∀ handle object, data.handle? = some handle →
      graphics.object? handle = some object → object.Sound) :
    copy.sight held = data.sight graphics ∧ held.Honest ∧ held.Spares 1 := by
  cases hreaches with
  | stays => exact ⟨rfl, h, hroom⟩
  | sent hencode hreceiver hspare hdecode =>
      have hone := hspare.mono (Nat.le_succ 1)
      obtain ⟨value, later, hvalue, hcopies⟩ :=
        exists_copy_of_encode h hreceiver hone hformat hsound hencode
      cases hvalue.symm.trans hdecode
      have hgrows := grows_of_decode hdecode
      exact ⟨hcopies.sight_eq hpalette, hgrows.honest hreceiver, hgrows.spares hspare⟩

theorem eq_of_sight_enhMetafile (hsight : data.sight graphics = (enhMetafile .first, some object)) :
    ∃ handle, data = enhMetafile handle ∧ graphics.object? handle = some object := by
  obtain ⟨hname, hobject⟩ := Prod.mk.inj hsight
  cases data with
  | enhMetafile handle => exact ⟨handle, rfl, hobject⟩
  | bytes | bitmap | palette | metafilePict => cases hname

theorem eq_of_sight_metafilePict
    (hsight : data.sight graphics = (metafilePict pict, some object)) :
    ∃ handle, data = metafilePict { pict with metafile := some handle } ∧
      graphics.object? handle = some object := by
  obtain ⟨hname, hobject⟩ := Prod.mk.inj hsight
  cases data with
  | metafilePict other =>
      obtain ⟨handle, hmetafile, hobject⟩ := Option.bind_eq_some_iff.1 hobject
      refine ⟨handle, ?_, hobject⟩
      cases hname
      have hother : other.metafile = some handle := hmetafile
      show metafilePict other = metafilePict { other with metafile := some handle }
      rw [← hother]
  | bytes | bitmap | palette | enhMetafile => cases hname

/-! ## There and back -/

/-- The picture of an enhanced metafile can be sent, and wherever it gets to it is made into an
enhanced metafile with the same records and a frame of the same size, its corner at zero. -/
theorem enhMetafile_there_and_back (h : graphics.Honest) (hroom : graphics.Spares 2)
    (text : TextSettings) {left top right bottom : Int32} {records : Bytes}
    (hobject : graphics.object? handle = some (.ofFrame left top right bottom records)) :
    ∃ drawn later,
      (enhMetafile handle).convert graphics Format.metafilePict Format.enhMetafile text =
        .ok (drawn, later) ∧
      Sendable Format.metafilePict drawn later ∧
      ∀ copy held settings, Reaches Format.metafilePict drawn later copy held → ∃ back last,
        copy.convert held Format.enhMetafile Format.metafilePict settings =
          .ok (enhMetafile back, last) ∧
        last.object? back =
          some (.ofFrame 0 0 (right - left) (bottom - top) records) := by
  obtain ⟨metafile, later, hconvert, hgains⟩ := exists_convert_enhMetafile h
    (hroom.mono (Nat.le_succ 1)) text hobject
  have hlater := hgains.grows.honest h
  have hspare : later.Spares 1 := hgains.grows.spares hroom
  have hsound := hgains.sound trivial
  refine ⟨_, later, hconvert, ?_, ?_⟩
  · exact sendable_of_flatten hlater (by decide) hsound
      (flatten_metafilePict hlater.misreports rfl rfl hgains.found (List.cons_ne_nil _ _))
  · intro copy held settings hreaches
    obtain ⟨hsight, hheld, hleft⟩ := hreaches.sight_eq hlater hspare (by decide)
      (fun _ => by simp) hsound
    have hseen : copy.sight held = (metafilePict ⟨MetafilePict.isotropic, right - left,
        bottom - top, some .first⟩, some (.metafile (Object.mark ++ records))) := by
      rw [hsight, ← hgains.found]
      rfl
    obtain ⟨moved, rfl, hmoved⟩ := eq_of_sight_metafilePict hseen
    have hnamed : MetafilePict.metafile ⟨MetafilePict.isotropic, right - left, bottom - top,
        some moved⟩ = some moved := rfl
    obtain ⟨back, last, hback, hlast⟩ := exists_convert_metafilePict hheld hleft settings hnamed
      hmoved (List.cons_ne_nil _ _)
    refine ⟨back, last, hback, ?_⟩
    rw [hlast.found, Object.unmarked_mark]

/-- The enhanced metafile of a picture can be sent, and wherever it gets to it is made into a
picture with the same extents and the metafile with the mark. -/
theorem metafilePict_there_and_back (h : graphics.Honest) (hroom : graphics.Spares 2)
    (text : TextSettings) {bits : Bytes} (hmetafile : pict.metafile = some handle)
    (hobject : graphics.object? handle = some (.metafile bits)) (hne : bits ≠ []) :
    ∃ drawn later,
      (metafilePict pict).convert graphics Format.enhMetafile Format.metafilePict text =
        .ok (drawn, later) ∧
      Sendable Format.enhMetafile drawn later ∧
      ∀ copy held settings, Reaches Format.enhMetafile drawn later copy held → ∃ back last,
        copy.convert held Format.metafilePict Format.enhMetafile settings =
          .ok (metafilePict ⟨MetafilePict.isotropic, pict.xExt, pict.yExt, some back⟩, last) ∧
        last.object? back =
          some (.metafile (if Object.mark.isPrefixOf bits then bits else Object.mark ++ bits)) := by
  obtain ⟨drawing, later, hconvert, hgains⟩ := exists_convert_metafilePict h
    (hroom.mono (Nat.le_succ 1)) text hmetafile hobject hne
  have hlater := hgains.grows.honest h
  have hspare : later.Spares 1 := hgains.grows.spares hroom
  have hsound := hgains.sound (Object.sound_ofFrame 0 0 pict.xExt pict.yExt _)
  refine ⟨_, later, hconvert, ?_, ?_⟩
  · have hflat : Object.ofFrame 0 0 pict.xExt pict.yExt (Object.unmarked bits) = .enhMetafile _ :=
      Object.ofFrame_eq ..
    have hfound := hgains.found
    rw [hflat] at hfound
    refine sendable_of_flatten hlater (by decide) hsound
      (flatten_enhMetafile hlater.misreports rfl hfound (List.ne_nil_of_length_pos ?_))
    rw [List.length_append, Object.length_frame]
    omega
  · intro copy held settings hreaches
    obtain ⟨hsight, hheld, hleft⟩ := hreaches.sight_eq hlater hspare (by decide)
      (fun _ => by simp) hsound
    have hseen : copy.sight held = (enhMetafile .first,
        some (.ofFrame 0 0 pict.xExt pict.yExt (Object.unmarked bits))) := by
      rw [hsight, ← hgains.found]
      rfl
    obtain ⟨moved, rfl, hmoved⟩ := eq_of_sight_enhMetafile hseen
    obtain ⟨back, last, hback, hlast⟩ := exists_convert_enhMetafile hheld hleft settings hmoved
    rw [Int32.sub_zero, Int32.sub_zero] at hback
    refine ⟨back, last, hback, ?_⟩
    rw [hlast.found, Object.mark_unmarked]

/-- A table with an enhanced metafile of the widest frame, whose records look like the mark, and a
metafile with the mark twice. -/
def marked : Graphics :=
  ⟨[.ofFrame (-2147483648) 9 2147483647 5 Object.mark, .metafile (Object.mark ++ Object.mark)], [],
    []⟩

end Data
end Pasteboard
