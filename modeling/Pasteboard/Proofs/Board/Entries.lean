import Pasteboard.Board

/-!
# Looking entries up

What the look-up of a format gives after an entry was put, and how it fits the list of formats.
-/

namespace Pasteboard

/-- A look-up stops at the first entry if that has the key. -/
theorem lookup_cons_eq_ite {κ ν : Type} [DecidableEq κ] (entry : κ × ν) (rest : List (κ × ν))
    (key : κ) :
    (entry :: rest).lookup key = if key = entry.1 then some entry.2 else rest.lookup key := by
  rw [List.lookup_cons]
  by_cases h : key = entry.1
  · simp [h]
  · rw [if_neg h, beq_false_of_ne h]

namespace Entries

variable {entries : Entries} {format other : Format} {data : Bytes}

theorem lookup_insertInto (format other : Format) (data : Bytes) (list : List (Format × Bytes)) :
    (insertInto format data list).lookup other =
      if other = format then some data else list.lookup other := by
  induction list with
  | nil => exact lookup_cons_eq_ite _ _ _
  | cons head rest ih =>
      unfold insertInto
      split
      · exact lookup_cons_eq_ite _ _ _
      · split
        · rename_i heq
          simp only [lookup_cons_eq_ite, ← heq]
          split <;> rfl
        · rename_i hne
          simp only [lookup_cons_eq_ite, ih]
          by_cases h : other = head.1
          · have hother : other ≠ format := fun hsame => hne (hsame ▸ h)
            rw [if_pos h, if_neg hother, if_pos h]
          · rw [if_neg h, if_neg h]

/-- An entry that was put is found, and the others are as they were. -/
@[simp] theorem find?_insert (entries : Entries) (format other : Format) (data : Bytes) :
    (entries.insert format data).find? other =
      if other = format then some data else entries.find? other :=
  lookup_insertInto format other data entries.list

@[simp] theorem find?_empty (format : Format) : empty.find? format = none := rfl

/-- An absent format comes as one more entry. -/
theorem length_insertInto {list : List (Format × Bytes)} (habsent : list.lookup format = none)
    (data : Bytes) : (insertInto format data list).length = list.length + 1 := by
  induction list with
  | nil => rfl
  | cons head rest ih =>
      rw [lookup_cons_eq_ite] at habsent
      unfold insertInto
      split
      · rfl
      · split
        · rename_i heq
          rw [if_pos heq] at habsent
          cases habsent
        · rename_i hne
          rw [if_neg hne] at habsent
          rw [List.length_cons, List.length_cons, ih habsent]

/-- A format that is neither missing nor a placeholder has a payload. -/
theorem exists_of_getD_ne_nil (h : (entries.find? format).getD [] ≠ []) :
    ∃ payload, entries.find? format = some payload ∧ payload ≠ [] := by
  cases hfind : entries.find? format with
  | none => simp [hfind] at h
  | some payload =>
      rw [hfind] at h
      exact ⟨payload, rfl, h⟩

/-- The formats listed are those that are found. -/
theorem contains_formats (entries : Entries) (format : Format) :
    entries.formats.contains format = (entries.find? format).isSome := by
  simp only [formats, find?]
  induction entries.list with
  | nil => rfl
  | cons head rest ih =>
      rw [lookup_cons_eq_ite, List.map_cons, List.contains_cons, ih]
      by_cases h : format = head.1
      · simp [h]
      · simp [h]

end Entries

end Pasteboard
