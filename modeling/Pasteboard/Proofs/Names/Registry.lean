import Mathlib.Data.List.Dedup
import Pasteboard.Board
import Pasteboard.Client.State

/-!
# Registrations on record

A `Registry` is the history of the registrations that succeeded, each with the name asked for and
the format given. `Registry.ListedBy` says how it fits the names that the store keeps, of which
there is one for each format. What the store answers can then be read off the history alone:
`ListedBy.format?_eq`, `ListedBy.spelling?_eq` and `ListedBy.distinct_eq`.
-/

namespace Pasteboard

/-- The letters of a name without regard to the case of ASCII letters. -/
def folded (name : String) : List Char := name.toList.map Char.toLower

theorem sameName_iff {first second : String} :
    sameName first second = true ↔ folded first = folded second := by
  rw [sameName, beq_iff_eq, folded, folded]

/-! ## The formats of names -/

namespace Board

variable {index other : Nat}

theorem toNat_registered (h : index < Format.registeredCapacity) :
    (registered index).id.toNat = Format.registeredFirst.toNat + index := by
  have hindex : index < 0x4000 := h
  show ((0xc000 : UInt32) + UInt32.ofNat index).toNat = (0xc000 : UInt32).toNat + index
  rw [UInt32.toNat_add, UInt32.toNat_ofNat]
  show (0xc000 + index % 2 ^ 32) % 2 ^ 32 = 0xc000 + index
  omega

theorem registered_inj (hindex : index < Format.registeredCapacity)
    (hother : other < Format.registeredCapacity) (h : registered index = registered other) :
    index = other := by
  have hnumber : (registered index).id.toNat = (registered other).id.toNat := by rw [h]
  rw [toNat_registered hindex, toNat_registered hother] at hnumber
  omega

/-- The formats of names are the ones in the range set aside for them. -/
theorem isRegistered_iff {format : Format} :
    format.isRegistered = true ↔ ∃ index < Format.registeredCapacity, format = registered index := by
  have hfirst : Format.registeredFirst.toNat = 0xc000 := rfl
  have hlast : Format.registeredLast.toNat = 0xffff := rfl
  have hcapacity : Format.registeredCapacity = 0x4000 := rfl
  rw [Format.isRegistered, Bool.and_eq_true, decide_eq_true_iff, decide_eq_true_iff,
    UInt32.le_iff_toNat_le, UInt32.le_iff_toNat_le]
  constructor
  · rintro ⟨hle, hge⟩
    have hroom : format.id.toNat - 0xc000 < Format.registeredCapacity := by omega
    refine ⟨format.id.toNat - 0xc000, hroom, Format.ext (UInt32.toNat_inj.1 ?_)⟩
    rw [toNat_registered hroom]
    omega
  · rintro ⟨index, hindex, rfl⟩
    rw [toNat_registered hindex]
    omega

/-- A name is found, or there is room for it, or there is not. -/
theorem registerFormat_cases (board : Board) (name : String) :
    (∃ index, board.names.findIdx? (sameName name) = some index ∧
      board.registerFormat name = (.format (registered index), board)) ∨
    (board.names.findIdx? (sameName name) = none ∧
      board.names.length < Format.registeredCapacity ∧
      board.registerFormat name = (.format (registered board.names.length),
        { board with names := board.names ++ [name] })) ∨
    (board.names.findIdx? (sameName name) = none ∧
      Format.registeredCapacity ≤ board.names.length ∧
      board.registerFormat name = (.error .invalidParameter, board)) := by
  unfold registerFormat
  cases hfind : board.names.findIdx? (sameName name) with
  | some index => exact .inl ⟨index, rfl, rfl⟩
  | none =>
      by_cases hfull : Format.registeredCapacity ≤ board.names.length
      · exact .inr (.inr ⟨rfl, hfull, if_pos hfull⟩)
      · exact .inr (.inl ⟨rfl, Nat.not_le.1 hfull, if_neg hfull⟩)

end Board

/-- The registrations that succeeded, the earliest first. -/
abbrev Registry := List (String × Format)

namespace Registry

/-- The format given for a name, whatever its case. -/
def format? (registry : Registry) (name : String) : Option Format :=
  (registry.find? fun entry => sameName name entry.1).map Prod.snd

/-- The name for which a format was given first. -/
def spelling? (registry : Registry) (format : Format) : Option String :=
  (registry.find? fun entry => entry.2 = format).map Prod.fst

/-- How many names were given a format, up to case. -/
def distinct (registry : Registry) : Nat := (registry.map fun entry => folded entry.1).dedup.length

/-- What another registration comes to. -/
def outcome (registry : Registry) (name : String) : Except ClientError Format :=
  if name.isEmpty then .error (.store (.refused .invalidParameter))
  else match registry.format? name with
    | some format => .ok format
    | none =>
      if registry.distinct < Format.registeredCapacity then .ok (Board.registered registry.distinct)
      else .error (.store (.refused .invalidParameter))

/-- The history after another registration, which counts if it succeeds. -/
def add (registry : Registry) (name : String) : Except ClientError Format → Registry
  | .ok format => registry ++ [(name, format)]
  | .error _ => registry

/-- The names of a store fit the history: no two are the same, each was the first to be given its
format, and whatever was given is the format of such a name. -/
structure ListedBy (registry : Registry) (names : List String) : Prop where
  differ : names.Pairwise fun first second => ¬ sameName first second = true
  room : names.length ≤ Format.registeredCapacity
  given : ∀ entry ∈ registry, ∃ index, ∃ h : index < names.length,
    entry.2 = Board.registered index ∧ sameName entry.1 names[index] = true
  first : ∀ index, ∀ h : index < names.length,
    registry.spelling? (Board.registered index) = some names[index]

theorem mem_of_spelling? {registry : Registry} {name : String} {format : Format}
    (h : registry.spelling? format = some name) : (name, format) ∈ registry := by
  obtain ⟨⟨spelling, given⟩, hfind, hname⟩ := Option.map_eq_some_iff.1 h
  have hformat : given = format := by simpa using List.find?_some hfind
  cases hformat
  cases hname
  exact List.mem_of_find?_eq_some hfind

/-- Later registrations do not take a format from its first name. -/
theorem spelling?_append {registry : Registry} {name : String} {format : Format}
    (h : registry.spelling? format = some name) (later : Registry) :
    (registry ++ later).spelling? format = some name := by
  obtain ⟨entry, hfind, hname⟩ := Option.map_eq_some_iff.1 h
  rw [spelling?, List.find?_append, hfind, Option.some_or, Option.map_some, hname]

theorem listedBy_nil : ListedBy [] [] where
  differ := .nil
  room := Nat.zero_le _
  given _ hentry := False.elim (List.not_mem_nil hentry)
  first index h := False.elim (Nat.not_lt_zero index h)

namespace ListedBy

variable {registry : Registry} {names : List String} (h : registry.ListedBy names)

include h

/-- Names at different places differ. -/
theorem index_eq {index other : Nat} (hindex : index < names.length) (hother : other < names.length)
    (hsame : sameName names[index] names[other] = true) : index = other := by
  rcases Nat.lt_trichotomy index other with hlt | heq | hgt
  · exact False.elim (List.pairwise_iff_getElem.1 h.differ index other hindex hother hlt hsame)
  · exact heq
  · rw [sameName_iff] at hsame
    refine False.elim (List.pairwise_iff_getElem.1 h.differ other index hother hindex hgt ?_)
    rw [sameName_iff, hsame]

/-- The name that the store finds was registered before, with the format of its place. -/
theorem mem_of_getElem {index : Nat} (hindex : index < names.length) :
    (names[index], Board.registered index) ∈ registry :=
  mem_of_spelling? (h.first index hindex)

/-- The store finds the name for which a format was given. -/
theorem format?_eq (name : String) :
    registry.format? name = (names.findIdx? (sameName name)).map Board.registered := by
  cases hfind : names.findIdx? (sameName name) with
  | none =>
      have hnone : registry.find? (fun entry => sameName name entry.1) = none := by
        rw [List.find?_eq_none]
        intro entry hentry hsame
        obtain ⟨index, hindex, -, hlisted⟩ := h.given entry hentry
        have hdiffers := List.findIdx?_eq_none_iff.1 hfind names[index] (List.getElem_mem hindex)
        rw [sameName_iff] at hsame hlisted
        rw [← Bool.not_eq_true, sameName_iff] at hdiffers
        exact hdiffers (hsame.trans hlisted)
      rw [format?, hnone, Option.map_none, Option.map_none]
  | some index =>
      obtain ⟨hindex, hsame, -⟩ := List.findIdx?_eq_some_iff_getElem.1 hfind
      have hsome : (registry.find? fun entry => sameName name entry.1).isSome = true := by
        rw [List.find?_isSome]
        exact ⟨_, h.mem_of_getElem hindex, hsame⟩
      obtain ⟨entry, hentry⟩ := Option.isSome_iff_exists.1 hsome
      -- Whichever registration of the name comes first, its format is the one of the same place.
      obtain ⟨other, hother, hformat, hlisted⟩ := h.given entry (List.mem_of_find?_eq_some hentry)
      have hplace : index = other := by
        have hnamed := List.find?_some hentry
        simp only [sameName_iff] at hsame hnamed hlisted
        refine h.index_eq hindex hother (sameName_iff.2 ?_)
        rw [← hsame, hnamed, hlisted]
      rw [format?, hentry, Option.map_some, Option.map_some, hformat, hplace]

theorem isRegistered {entry : String × Format} (hentry : entry ∈ registry) :
    entry.2.isRegistered = true := by
  obtain ⟨index, hindex, hformat, -⟩ := h.given entry hentry
  exact Board.isRegistered_iff.2 ⟨index, Nat.lt_of_lt_of_le hindex h.room, hformat⟩

/-- Two registrations gave the same format if and only if they were for the same name. -/
theorem format_eq_iff {first second : String × Format} (hfirst : first ∈ registry)
    (hsecond : second ∈ registry) :
    first.2 = second.2 ↔ sameName first.1 second.1 = true := by
  obtain ⟨index, hindex, hformat, hlisted⟩ := h.given first hfirst
  obtain ⟨other, hother, hformat', hlisted'⟩ := h.given second hsecond
  rw [hformat, hformat']
  rw [sameName_iff] at hlisted hlisted'
  constructor
  · intro hsame
    obtain rfl := Board.registered_inj (Nat.lt_of_lt_of_le hindex h.room)
      (Nat.lt_of_lt_of_le hother h.room) hsame
    rw [sameName_iff, hlisted, hlisted']
  · intro hsame
    rw [sameName_iff, hlisted, hlisted', ← sameName_iff] at hsame
    rw [h.index_eq hindex hother hsame]

/-- The store names a format as its first registration did. -/
theorem spelling?_eq {board : Board} (hnames : board.names = names) (format : Format) :
    registry.spelling? format = board.formatName format := by
  cases hspelling : registry.spelling? format with
  | some name =>
      have hmem := mem_of_spelling? hspelling
      obtain ⟨index, hindex, hformat, -⟩ := h.given _ hmem
      have hroom := Nat.lt_of_lt_of_le hindex h.room
      change format = Board.registered index at hformat
      have hfirst := h.first index hindex
      rw [← hformat, hspelling] at hfirst
      rw [Board.formatName, if_pos (h.isRegistered hmem), hnames, hformat,
        Board.toNat_registered hroom, Nat.add_sub_cancel_left, List.getElem?_eq_getElem hindex]
      exact hfirst
  | none =>
      rw [Board.formatName]
      split
      · rename_i hregistered
        obtain ⟨index, hindex, rfl⟩ := Board.isRegistered_iff.1 hregistered
        rw [Board.toNat_registered hindex, Nat.add_sub_cancel_left, hnames]
        refine (List.getElem?_eq_none (Nat.not_lt.1 fun hlt => ?_)).symm
        rw [h.first index hlt] at hspelling
        cases hspelling
      · rfl

/-- The store keeps one name of those that differ in case only. -/
theorem distinct_eq : registry.distinct = names.length := by
  have hfolded : (names.map folded).Nodup := by
    refine List.pairwise_map.2 (h.differ.imp fun hdiffers hsame => hdiffers ?_)
    exact sameName_iff.2 hsame
  have hperm : (registry.map fun entry => folded entry.1).dedup.Perm (names.map folded) := by
    refine (List.perm_ext_iff_of_nodup (List.nodup_dedup _) hfolded).2 fun letters => ?_
    rw [List.mem_dedup, List.mem_map, List.mem_map]
    constructor
    · rintro ⟨entry, hentry, rfl⟩
      obtain ⟨index, hindex, -, hlisted⟩ := h.given entry hentry
      exact ⟨names[index], List.getElem_mem hindex, (sameName_iff.1 hlisted).symm⟩
    · rintro ⟨name, hname, rfl⟩
      obtain ⟨index, hindex, rfl⟩ := List.getElem_of_mem hname
      exact ⟨_, h.mem_of_getElem hindex, rfl⟩
  rw [distinct, hperm.length_eq, List.length_map]

/-- A registration of a name that is known adds no name. -/
theorem again {name : String} {index : Nat}
    (hfind : names.findIdx? (sameName name) = some index) :
    ListedBy (registry ++ [(name, Board.registered index)]) names where
  differ := h.differ
  room := h.room
  given entry hentry := by
    rcases List.mem_append.1 hentry with hentry | hentry
    · exact h.given entry hentry
    · obtain rfl := List.mem_singleton.1 hentry
      obtain ⟨hindex, hsame, -⟩ := List.findIdx?_eq_some_iff_getElem.1 hfind
      exact ⟨index, hindex, rfl, hsame⟩
  first other hother := spelling?_append (h.first other hother) _

/-- A registration of a new name adds the name. -/
theorem grow {name : String} (hfind : names.findIdx? (sameName name) = none)
    (hroom : names.length < Format.registeredCapacity) :
    ListedBy (registry ++ [(name, Board.registered names.length)]) (names ++ [name]) where
  differ := by
    refine List.pairwise_append.2 ⟨h.differ, List.pairwise_singleton _ _, ?_⟩
    intro known hknown new hnew hsame
    obtain rfl := List.mem_singleton.1 hnew
    have hdiffers := List.findIdx?_eq_none_iff.1 hfind known hknown
    rw [← Bool.not_eq_true, sameName_iff] at hdiffers
    exact hdiffers (sameName_iff.1 hsame).symm
  room := by
    rw [List.length_append]
    exact hroom
  given entry hentry := by
    rcases List.mem_append.1 hentry with hentry | hentry
    · obtain ⟨index, hindex, hformat, hlisted⟩ := h.given entry hentry
      refine ⟨index, by rw [List.length_append]; omega, hformat, ?_⟩
      rwa [List.getElem_append_left hindex]
    · obtain rfl := List.mem_singleton.1 hentry
      exact ⟨names.length, by simp, rfl, by simp [sameName_iff]⟩
  first index hindex := by
    rw [List.length_append, List.length_singleton] at hindex
    by_cases hlt : index < names.length
    · rw [List.getElem_append_left hlt]
      exact spelling?_append (h.first index hlt) _
    · -- The new format was not given before, as it is the one of no other place.
      obtain rfl : index = names.length := by omega
      have hnew : registry.find? (fun entry => entry.2 = Board.registered names.length) = none := by
        rw [List.find?_eq_none]
        intro entry hentry hformat
        obtain ⟨other, hother, hgiven, -⟩ := h.given entry hentry
        rw [hgiven, decide_eq_true_iff] at hformat
        have hsame := Board.registered_inj (Nat.lt_trans hother hroom) hroom hformat
        omega
      simp [spelling?, List.find?_append, hnew]

end ListedBy

end Registry

end Pasteboard
