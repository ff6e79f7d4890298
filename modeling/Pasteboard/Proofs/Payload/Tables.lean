import Pasteboard.Payload

/-!
# Tables without faults

A table of graphics objects is `Honest` if it reports every flat form as it is and refuses none.
Such a table gives the flat forms that its objects have, and takes every object that a flat form
describes under a handle that was free before: `Graphics.Gains`.
-/

namespace Pasteboard

namespace Graphics

/-- Every flat form is reported as it is, and none is refused. -/
structure Honest (graphics : Graphics) : Prop where
  misreports : graphics.misreports = []
  refused : graphics.refused = []

/-- There are handles left for so many more objects. -/
def Spares (graphics : Graphics) (count : Nat) : Prop :=
  graphics.objects.length + count < 4294967296

/-- The table took an object under a handle that was free. -/
structure Gains (graphics : Graphics) (object : Object) (handle : Handle) (later : Graphics) :
    Prop where
  fresh : graphics.object? handle = none
  found : later.object? handle = some object
  objects : later.objects = graphics.objects ++ [object]
  misreports : later.misreports = graphics.misreports
  refused : later.refused = graphics.refused

variable {graphics later : Graphics} {object : Object} {handle : Handle} {kind : BitsKind}
  {bytes : Bytes}

theorem honest_empty : empty.Honest := ⟨rfl, rfl⟩

theorem Spares.mono {count fewer : Nat} (h : graphics.Spares count) (hle : fewer ≤ count) :
    graphics.Spares fewer :=
  Nat.lt_of_le_of_lt (Nat.add_le_add_left hle _) h

/-- The objects that were there are unchanged. -/
theorem Gains.kept (h : graphics.Gains object handle later) {other : Handle} {old : Object}
    (hother : graphics.object? other = some old) : later.object? other = some old := by
  obtain ⟨hlt, _⟩ := List.getElem?_eq_some_iff.1 hother
  rwa [object?, h.objects, List.getElem?_append_left hlt]

/-- An object is taken under the next handle. -/
theorem gains_of_insert? (h : graphics.insert? object = some (handle, later)) :
    graphics.Gains object handle later := by
  unfold insert? at h
  split at h
  · rename_i hroom
    have hnumber : (UInt32.ofNat (graphics.objects.length + 1)).toNat - 1 =
        graphics.objects.length := by
      rw [UInt32.toNat_ofNat_of_lt' hroom, Nat.add_sub_cancel]
    cases h
    refine ⟨?_, ?_, rfl, rfl, rfl⟩
    · rw [object?, hnumber, List.getElem?_eq_none (Nat.le_refl _)]
    · rw [object?, hnumber, List.getElem?_concat_length]
  · cases h

/-- A table with a handle left takes any object. -/
theorem exists_insert? (hroom : graphics.Spares 1) (object : Object) :
    ∃ handle later, graphics.insert? object = some (handle, later) ∧
      graphics.Gains object handle later := by
  have hinsert : ∃ handle later, graphics.insert? object = some (handle, later) :=
    ⟨_, _, dif_pos hroom⟩
  obtain ⟨handle, later, hinsert⟩ := hinsert
  exact ⟨handle, later, hinsert, gains_of_insert? hinsert⟩

/-- What is reconstructed is the object of the flat form. -/
theorem exists_of_reconstruct? (h : graphics.reconstruct? kind bytes = some (handle, later)) :
    ∃ object, Object.ofBits? kind bytes = some object ∧ graphics.Gains object handle later := by
  unfold reconstruct? at h
  split at h
  · cases h
  · obtain ⟨object, hobject, hinsert⟩ := Option.bind_eq_some_iff.1 h
    exact ⟨object, hobject, gains_of_insert? hinsert⟩

namespace Honest

variable (h : graphics.Honest)

include h

theorem misreport?_eq : graphics.misreport? kind handle = none := by
  rw [misreport?, h.misreports, List.find?_nil]

theorem extract?_eq (size : Nat) :
    graphics.extract? kind handle size =
      (graphics.bits? kind handle).filter fun bits => bits.length == size := by
  rw [extract?, h.misreport?_eq]
  rfl

/-- A flat form is given as it is, unless it is empty. -/
theorem fetch?_eq :
    graphics.fetch? kind handle =
      (graphics.bits? kind handle).filter fun bits => !bits.isEmpty := by
  have hsize : graphics.querySize kind handle =
      ((graphics.bits? kind handle).map List.length).getD 0 := by
    rw [querySize, h.misreport?_eq]
  rw [fetch?, h.extract?_eq, hsize]
  cases graphics.bits? kind handle with
  | none => rfl
  | some bits => cases bits <;> simp [Option.filter]

theorem reconstruct?_eq :
    graphics.reconstruct? kind bytes = (Object.ofBits? kind bytes).bind graphics.insert? := by
  rw [reconstruct?, h.refused]
  rfl

/-- A flat form that is given is that of an object in the table. -/
theorem exists_of_fetch (hfetch : graphics.fetch kind handle = .ok bytes) :
    ∃ object, graphics.object? handle = some object ∧ object.bits? kind = some bytes ∧
      bytes ≠ [] := by
  unfold Graphics.fetch at hfetch
  cases hfound : graphics.fetch? kind handle with
  | none => simp [hfound] at hfetch
  | some bits =>
      simp only [hfound, Except.ok.injEq] at hfetch
      subst hfetch
      rw [h.fetch?_eq, Option.filter_eq_some_iff, bits?] at hfound
      obtain ⟨object, hobject, hbits⟩ := Option.bind_eq_some_iff.1 hfound.1
      exact ⟨object, hobject, hbits, by simpa using hfound.2⟩

/-- The object of a flat form is rebuilt under a free handle. -/
theorem exists_rebuild (hroom : graphics.Spares 1) (format : Format)
    (hobject : Object.ofBits? kind bytes = some object) :
    ∃ handle later, Data.rebuild graphics format kind bytes = .ok (handle, later) ∧
      graphics.Gains object handle later := by
  obtain ⟨handle, later, hinsert, hgains⟩ := exists_insert? hroom object
  refine ⟨handle, later, ?_, hgains⟩
  rw [Data.rebuild, h.reconstruct?_eq, hobject, Option.bind_some, hinsert]

end Honest

end Graphics

end Pasteboard
