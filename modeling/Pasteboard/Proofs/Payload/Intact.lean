import Pasteboard.Proofs.Payload.Conversions
import Pasteboard.Proofs.Payload.InPlace

/-!
# Values made whole or not at all

A value that is decoded or converted names the one object that the table took for it, and otherwise
the table took none: `Graphics.Receives`. Where decoding or converting fails, the table is as it
was, and where a flat form is not given in the size that it is asked for in, there is no payload:
`Data.made_whole_or_not_at_all`. This holds for any table, whatever it reports and refuses.
-/

namespace Pasteboard

/-- Handles stand for places of their own. -/
theorem Handle.eq_of_place {handle other : Handle}
    (h : handle.raw.toNat - 1 = other.raw.toNat - 1) : handle = other := by
  have hpos (some : Handle) : some.raw.toNat ≠ 0 := fun hzero =>
    some.raw_ne_zero (UInt32.toNat_inj.1 hzero)
  have hraw : handle.raw = other.raw := UInt32.toNat_inj.1 (by
    have := hpos handle
    have := hpos other
    omega)
  cases handle
  cases other
  cases hraw
  rfl

namespace Graphics

variable {graphics later : Graphics} {object found : Object} {handle other : Handle} {value : Data}

/-- Behind the objects that were there, there is one place in which an object can be found. -/
theorem Gains.place_eq (h : graphics.Gains object handle later)
    (hfree : graphics.object? other = none) (hfound : later.object? other = some found) :
    other.raw.toNat - 1 = graphics.objects.length := by
  have hbehind : graphics.objects.length ≤ other.raw.toNat - 1 := List.getElem?_eq_none_iff.1 hfree
  obtain ⟨hlt, -⟩ := List.getElem?_eq_some_iff.1 hfound
  rw [h.objects, List.length_append, List.length_singleton] at hlt
  omega

/-- Only the handle of the object that was taken stands for an object by now. -/
theorem Gains.eq_of_found (h : graphics.Gains object handle later)
    (hfree : graphics.object? other = none) (hfound : later.object? other = some found) :
    other = handle :=
  Handle.eq_of_place ((h.place_eq hfree hfound).trans (h.place_eq h.fresh h.found).symm)

/-- The table took the object that the value names, and no other. -/
structure Receives (graphics : Graphics) (value : Data) (later : Graphics) : Prop where
  /-- One object was added at most, and nothing else about the table is different. -/
  grows : graphics.Grows 1 later
  kept : ∀ handle object, graphics.object? handle = some object →
    later.object? handle = some object
  fresh : ∀ handle, value.handle? = some handle →
    graphics.object? handle = none ∧ ∃ object, later.object? handle = some object
  named : ∀ handle object, graphics.object? handle = none → later.object? handle = some object →
    value.handle? = some handle

/-- A value without an object leaves the table as it was. -/
theorem receives_refl (hvalue : value.handle? = none) : graphics.Receives value graphics where
  grows := .refl _ _
  kept := fun _ _ hfound => hfound
  fresh := fun handle hhandle => by
    rw [hvalue] at hhandle
    cases hhandle
  named := fun handle object hfree hfound => by
    rw [hfree] at hfound
    cases hfound

theorem Gains.receives (h : graphics.Gains object handle later)
    (hvalue : value.handle? = some handle) : graphics.Receives value later where
  grows := h.grows
  kept := fun _ _ hfound => h.kept hfound
  fresh := fun other hother => by
    obtain rfl : handle = other := Option.some.inj (hvalue.symm.trans hother)
    exact ⟨h.fresh, object, h.found⟩
  named := fun other found hfree hfound => by rw [hvalue, h.eq_of_found hfree hfound]

end Graphics

namespace Data

open Graphics (Filling Remains)

variable {graphics later : Graphics} {format target source : Format} {payload : Bytes}
  {data value : Data} {text : TextSettings}

theorem receives_of_decode (h : decode graphics format payload = .ok (value, later)) :
    graphics.Receives value later := by
  rcases exists_of_decode h with ⟨rfl, rfl⟩ | ⟨handle, object, hvalue, hgains⟩
  · exact Graphics.receives_refl rfl
  · exact hgains.receives hvalue

theorem receives_of_convert (h : data.convert graphics target source text = .ok (value, later)) :
    graphics.Receives value later := by
  rcases exists_of_convert h with
    ⟨flat, rfl, rfl⟩ | ⟨kind, flat, ⟨handle, object, hvalue, -, hgains⟩, -⟩
  · exact Graphics.receives_refl rfl
  · exact hgains.receives hvalue

/-- Decoding and converting leave the table as it was where they fail. Where they succeed, every
object is still there, and the table took the one that the value names, if it names one, under a
handle that was free. Encoding never gives an empty payload; it gives the same whatever failed
extractions leave in their buffers, and an error if a flat form is not given in the size that was
reported for it or that the header of a bitmap gives. -/
theorem made_whole_or_not_at_all (graphics : Graphics) (remains : Remains)
    (format target source : Format) (payload : Bytes) (data : Data) (text : TextSettings) :
    (decodeInPlace format payload).Settles graphics (decode graphics format payload) ∧
      (∀ value later, decode graphics format payload = .ok (value, later) →
        graphics.Receives value later) ∧
      (data.convertInPlace remains target source text).Settles graphics
        (data.convert graphics target source text) ∧
      (∀ value later, data.convert graphics target source text = .ok (value, later) →
        graphics.Receives value later) ∧
      Filling.Gives graphics (data.encodeInto graphics remains format)
        (data.encode graphics format) ∧
      ∀ flat, data.encode graphics format = .ok flat → flat ≠ [] :=
  ⟨settles_decode format payload, fun _ _ => receives_of_decode,
    settles_convert remains data text target source, fun _ _ => receives_of_convert,
    gives_encode remains format data, fun _ => encode_ne_nil⟩

/-- A palette and an enhanced metafile, in a table that reports too large a size for the palette and
refuses enhanced metafiles. -/
def misreporting : Graphics where
  objects := [.palette [1, 2, 3, 4], .ofFrame 0 0 6 4 [8, 9]]
  misreports := [⟨.palette, .first, some 8, none⟩]
  refused := [.enhMetafile]

/-- The palette has no payload, but a copy of it is taken; the enhanced metafile has a payload and
becomes a picture, but a copy of it is refused. -/
theorem palette_unavailable_metafile_refused :
    ∃ third : Handle,
      (∃ later, decode misreporting Format.palette [0, 3, 1, 0, 1, 2, 3, 4] =
          .ok (palette third, later) ∧ misreporting.Receives (palette third) later) ∧
        (palette .first).encode misreporting Format.palette =
          .error (.objectUnavailable .first .palette) ∧
        ∃ second flat, (enhMetafile second).encode misreporting Format.enhMetafile = .ok flat ∧
          flat ≠ [] ∧
          ((decodeInPlace Format.enhMetafile flat).runOn misreporting).2 = misreporting ∧
          ∃ later, (enhMetafile second).convert misreporting Format.metafilePict Format.enhMetafile
              ⟨Locale.enUS, CodePages.western⟩ =
              .ok (metafilePict ⟨MetafilePict.isotropic, 6, 4, some third⟩, later) ∧
            misreporting.Receives (metafilePict ⟨MetafilePict.isotropic, 6, 4, some third⟩)
              later := by
  let text : TextSettings := ⟨Locale.enUS, CodePages.western⟩
  let second : Handle := ⟨2, by decide⟩
  let flat : Bytes := [0, 0, 0, 0, 0, 0, 0, 0, 6, 0, 0, 0, 4, 0, 0, 0, 8, 9]
  obtain ⟨-, hpalette, -, -, hunavailable, -⟩ := made_whole_or_not_at_all misreporting
    (fun _ _ buffer => buffer) Format.palette Format.bitmap Format.dib [0, 3, 1, 0, 1, 2, 3, 4]
    (palette .first) text
  obtain ⟨hrefused, -, -, hpicture, -, hflat⟩ := made_whole_or_not_at_all misreporting
    (fun _ _ buffer => buffer) Format.enhMetafile Format.metafilePict Format.enhMetafile flat
    (enhMetafile second) text
  refine ⟨⟨3, by decide⟩, ⟨_, rfl, hpalette _ _ rfl⟩, ?_, second, flat, rfl, hflat _ rfl, ?_, _,
    rfl, hpicture _ _ rfl⟩
  · obtain ⟨more, hrun, hmore⟩ := hunavailable []
    have hasked : more = [⟨.palette, .first, 8⟩] := (congrArg Prod.snd hrun).symm
    exact hmore ⟨.palette, .first, 8⟩ (by rw [hasked]; exact List.mem_singleton_self _) (by decide)
  · exact congrArg Prod.snd hrefused

end Data

end Pasteboard
