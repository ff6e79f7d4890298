import Pasteboard.Client.Listing
import Pasteboard.Proofs.Board.Entries
import Pasteboard.Proofs.Call.Ends

/-!
# What is on the board

A client can go through the formats one by one, have them listed or counted, ask for one of them or
for the first of several. Each is another request, but all tell of the same formats, which the board
keeps in ascending order: `World.observers_agree`. Going through them starts and ends with the null
format, so it needs a board without an entry for that one.
-/

namespace Pasteboard

/-- An ascending list of numbers between two bounds is no longer than there are numbers. -/
theorem length_le_of_ascending {low high : Nat} {list : List Nat} (h : list.Pairwise (· < ·))
    (hlow : ∀ n ∈ list, low ≤ n) (hhigh : ∀ n ∈ list, n < high) : list.length ≤ high - low := by
  induction list generalizing low with
  | nil => exact Nat.zero_le _
  | cons head rest ih =>
      rw [List.pairwise_cons] at h
      have hhead := hlow head List.mem_cons_self
      have hlast := hhigh head List.mem_cons_self
      have hrest := ih h.2 h.1 fun n hn => hhigh n (List.mem_cons_of_mem _ hn)
      rw [List.length_cons]
      omega

namespace Entries

variable (entries : Entries) {front rest : List Format} {format previous : Format}

/-- Formats are listed in the order of their numbers. -/
theorem formats_ascend : entries.formats.Pairwise fun a b => a.id < b.id :=
  List.pairwise_map.2 entries.sorted

/-- A format is listed if and only if there is an entry under it. -/
theorem mem_formats_iff : format ∈ entries.formats ↔ (entries.find? format).isSome := by
  rw [← contains_formats, List.contains_iff_mem]

variable {entries} (hnull : entries.find? Format.null = none)

include hnull

/-- The null format is not listed where nothing is stored under it. -/
theorem null_not_mem_formats : Format.null ∉ entries.formats := by
  rw [mem_formats_iff, hnull]
  exact Bool.false_ne_true

/-- So every listed format has a positive number. -/
theorem id_pos (hformat : format ∈ entries.formats) : 0 < format.id := by
  have hzero : format.id ≠ 0 := by
    intro hid
    obtain rfl : format = Format.null := Format.ext hid
    exact null_not_mem_formats hnull hformat
  rw [UInt32.lt_iff_toNat_lt]
  exact Nat.pos_of_ne_zero fun hid => hzero (UInt32.toNat_inj.1 hid)

/-- All formats but the null format can be on the board, and still be counted. -/
theorem toNat_count : (UInt32.ofNat entries.list.length).toNat = entries.formats.length := by
  have hascend : (entries.formats.map fun format => format.id.toNat).Pairwise (· < ·) :=
    List.pairwise_map.2 (entries.formats_ascend.imp UInt32.lt_iff_toNat_lt.1)
  have hlow : ∀ n ∈ entries.formats.map fun format => format.id.toNat, 1 ≤ n := by
    intro n hn
    obtain ⟨format, hformat, rfl⟩ := List.mem_map.1 hn
    exact UInt32.lt_iff_toNat_lt.1 (id_pos hnull hformat)
  have hhigh : ∀ n ∈ entries.formats.map fun format => format.id.toNat, n < 4294967296 := by
    intro n hn
    obtain ⟨format, -, rfl⟩ := List.mem_map.1 hn
    exact format.id.toNat_lt
  have hcount := length_le_of_ascending hascend hlow hhigh
  have hlength : entries.formats.length = entries.list.length := List.length_map _
  rw [List.length_map, hlength] at hcount
  have hroom : entries.list.length < 4294967296 := Nat.lt_of_le_of_lt hcount (by decide)
  rw [UInt32.toNat_ofNat_of_lt' hroom, hlength]

omit hnull

/-- After some of the formats comes the first of the others. -/
theorem after?_eq_head? (hlist : entries.formats = front ++ rest)
    (hfront : ∀ format ∈ front, format.id ≤ previous.id)
    (hrest : ∀ format ∈ rest, previous.id < format.id) : entries.after? previous = rest.head? := by
  have hpassed : front.find? (fun format => decide (previous.id < format.id)) = none := by
    rw [List.find?_eq_none]
    intro format hformat
    simpa using hfront format hformat
  rw [after?, hlist, List.find?_append, hpassed, Option.none_or]
  cases rest with
  | nil => rfl
  | cons format rest =>
      have hnext := hrest format List.mem_cons_self
      simp [hnext]

/-- What comes after a format is not the null format. -/
theorem ne_null_of_after? (h : entries.after? previous = some format) : format ≠ Format.null := by
  rintro rfl
  have hlater : previous.id < Format.null.id := by simpa using List.find?_some h
  exact absurd hlater UInt32.not_lt_zero

end Entries

/-- The first of the formats wanted that is present. -/
def PriorityFormat.among (present wanted : List Format) : PriorityFormat :=
  match wanted.find? present.contains with
  | some format => .found format
  | none => .noneAvailable

namespace World

open Call

variable {medium : Medium} {place : Nat} {world : World} {previous : Format}

/-- The client gets a value, and the board stays as it is. -/
def Tells {α : Type} (medium : Medium) (place : Nat) (world : World) (acting : Acting α)
    (value : α) : Prop :=
  acting.run.Ends medium place
    (fun result later => result = .ok value ∧ later.board = world.board) world

/-- Asked again and again for the format after the previous one, the client gets these formats and
then none. -/
inductive Enumerates (medium : Medium) (place : Nat) : World → Format → List Format → Prop where
  | last {world later : World} {previous : Format} :
      (Acting.enumerate previous).run.run medium place world = (.ok none, later) →
      Enumerates medium place world previous []
  | next {world later : World} {previous format : Format} {rest : List Format} :
      (Acting.enumerate previous).run.run medium place world = (.ok (some format), later) →
      Enumerates medium place later format rest →
      Enumerates medium place world previous (format :: rest)

/-- There is only one way to go through the formats. -/
theorem Enumerates.unique {formats others : List Format}
    (h : Enumerates medium place world previous formats)
    (hothers : Enumerates medium place world previous others) : formats = others := by
  induction h generalizing others with
  | last hrun =>
      cases hothers with
      | last => rfl
      | next hother => cases hrun.symm.trans hother
  | next hrun _ ih =>
      cases hothers with
      | last hother => cases hrun.symm.trans hother
      | next hother hrest =>
          cases hrun.symm.trans hother
          rw [ih hrest]

section

variable (hanswer : medium.answer = consult)

include hanswer

/-- An open session tells the format after a given one. -/
theorem tells_enumerate (hopen : world.board.isOpenBy (clientId place) = true)
    (previous : Format) :
    Tells medium place world (Acting.enumerate previous)
      (world.board.entries.after? previous) := by
  have hboard : world.board.enumerate (clientId place) previous =
      (.format ((world.board.entries.after? previous).getD Format.null), world.board) := by
    rw [Board.enumerate, hopen]
    rfl
  unfold Tells Acting.enumerate
  simp only [Ask.format, ends_acting_bind, ends_ofAsking, ends_expect, hanswer, consult,
    Board.handle, hboard]
  cases hnext : world.board.entries.after? previous with
  | none => exact ⟨rfl, rfl⟩
  | some format =>
      have hformat := Entries.ne_null_of_after? hnext
      exact ⟨congrArg Except.ok (if_neg hformat), rfl⟩

/-- Whatever of the formats is left comes in order. -/
theorem enumerates (hopen : world.board.isOpenBy (clientId place) = true) {front rest : List Format}
    (hlist : world.board.entries.formats = front ++ rest)
    (hfront : ∀ format ∈ front, format.id ≤ previous.id)
    (hrest : ∀ format ∈ rest, previous.id < format.id) :
    Enumerates medium place world previous rest := by
  induction rest generalizing front previous world with
  | nil =>
      have hafter := Entries.after?_eq_head? hlist hfront hrest
      obtain ⟨hresult, -⟩ := tells_enumerate hanswer hopen previous
      rw [hafter] at hresult
      exact .last (Prod.ext hresult rfl)
  | cons format rest ih =>
      have hafter := Entries.after?_eq_head? hlist hfront hrest
      obtain ⟨hresult, hboard⟩ := tells_enumerate hanswer hopen previous
      rw [hafter] at hresult
      refine .next (Prod.ext hresult rfl) ?_
      -- The format moves from what is left to what was passed.
      have hascend := world.board.entries.formats_ascend
      rw [hlist, List.pairwise_append, List.pairwise_cons] at hascend
      have hpassed : ∀ other ∈ front ++ [format], other.id ≤ format.id := by
        intro other hother
        rcases List.mem_append.1 hother with hother | hother
        · exact UInt32.le_of_lt (hascend.2.2 other hother format List.mem_cons_self)
        · rw [List.mem_singleton.1 hother]
          exact UInt32.le_refl _
      rw [← hboard] at hopen hlist
      exact ih hopen (by rw [hlist, List.append_assoc, List.singleton_append]) hpassed
        hascend.2.1.1

/-- A client is told the list of all formats. -/
theorem tells_formats (world : World) :
    Tells medium place world Acting.formats world.board.entries.formats := by
  unfold Tells Acting.formats
  simp only [Acting.refresh, Ask.listFormats, ends_acting_bind, ends_lift, ends_ofAsking,
    ends_expect, hanswer]
  exact ⟨rfl, rfl⟩

/-- It is told their number. -/
theorem tells_count (world : World) :
    Tells medium place world Acting.count (world.board.count none) := by
  unfold Tells Acting.count
  simp only [Acting.refresh, Ask.countFormats, ends_acting_bind, ends_lift, ends_ofAsking,
    ends_expect, hanswer]
  exact ⟨rfl, rfl⟩

/-- It is told whether a format is listed. -/
theorem tells_contains (hnull : world.board.entries.find? Format.null = none) (format : Format) :
    Tells medium place world (Acting.contains format)
      (world.board.entries.formats.contains format) := by
  have hfound := Entries.contains_formats world.board.entries format
  unfold Tells Acting.contains
  split
  · rename_i hformat
    rw [hformat, hnull] at hfound
    rw [hformat, hfound]
    exact ⟨rfl, rfl⟩
  · simp only [Acting.refresh, Ask.countFormats, ends_acting_bind, ends_lift, ends_ofAsking,
      ends_expect, hanswer]
    refine ⟨congrArg Except.ok ?_, rfl⟩
    show decide (0 < if (world.board.entries.find? format).isSome then (1 : UInt32) else 0) = _
    rw [hfound]
    cases (world.board.entries.find? format).isSome <;> rfl

/-- The first of some formats that is there, if any is. -/
theorem tells_firstPresent (hnull : world.board.entries.find? Format.null = none)
    (wanted : List Format) :
    Tells medium place world (Acting.firstPresent wanted)
      (.among world.board.entries.formats wanted) := by
  induction wanted generalizing world with
  | nil => exact ⟨rfl, rfl⟩
  | cons format wanted ih =>
      unfold Tells Acting.firstPresent
      rw [ends_acting_bind]
      refine (tells_contains hanswer hnull format).mono fun result later hlater => ?_
      obtain ⟨rfl, hboard⟩ := hlater
      cases hformat : world.board.entries.formats.contains format with
      | true =>
          rw [PriorityFormat.among, List.find?_cons_of_pos hformat]
          exact ⟨rfl, hboard⟩
      | false =>
          -- Asking changes nothing on the board, so the rest is asked of the same formats.
          rw [← hboard] at hnull
          have hrest := ih hnull
          rw [hboard] at hrest
          have habsent : ¬ world.board.entries.formats.contains format = true := by
            rw [hformat]
            exact Bool.false_ne_true
          rw [PriorityFormat.among, List.find?_cons_of_neg habsent]
          exact hrest.mono fun _ last hlast => ⟨hlast.1, hlast.2.trans hboard⟩

/-- It is told which of the formats that it wants is listed, or that none are. -/
theorem tells_priorityFormat (hnull : world.board.entries.find? Format.null = none)
    (wanted : List Format) :
    Tells medium place world (Acting.priorityFormat wanted)
      (if world.board.entries.formats = [] then .empty
        else .among world.board.entries.formats wanted) := by
  unfold Tells Acting.priorityFormat
  rw [ends_acting_bind]
  refine (tells_count hanswer world).mono fun result later hlater => ?_
  obtain ⟨rfl, hboard⟩ := hlater
  have hcount : world.board.count none = 0 ↔ world.board.entries.formats = [] := by
    rw [← UInt32.toNat_inj, Board.count, Entries.toNat_count hnull, UInt32.toNat_zero,
      List.length_eq_zero_iff]
  simp only [hcount]
  split
  · exact ⟨rfl, hboard⟩
  · rw [← hboard] at hnull
    have hfirst : Tells medium place later (Acting.firstPresent wanted) _ :=
      tells_firstPresent hanswer hnull wanted
    rw [hboard] at hfirst
    exact hfirst.mono fun _ last hlast => ⟨hlast.1, hlast.2.trans hboard⟩

/-- A client that has the board open gets one answer, however it asks what is there. Going through
the formats from the null format on, it gets finitely many in ascending order and none but these;
they are the ones that are listed, as many as are counted, and each format is there that is one of
them, as a payload or as a placeholder. The first of several formats is found among them, if there
are any. The board must have no entry for the null format. -/
theorem observers_agree (hopen : world.board.isOpenBy (clientId place) = true)
    (hnull : world.board.entries.find? Format.null = none) :
    ∃ present,
      present.Pairwise (fun a b => a.id < b.id) ∧
      (∀ format, format ∈ present ↔ (world.board.entries.find? format).isSome) ∧
      (∀ formats, Enumerates medium place world Format.null formats ↔ formats = present) ∧
      Tells medium place world Acting.formats present ∧
      (∃ count, Tells medium place world Acting.count count ∧ count.toNat = present.length) ∧
      (∀ format, Tells medium place world (Acting.contains format) (decide (format ∈ present))) ∧
      (∀ wanted, Tells medium place world (Acting.priorityFormat wanted)
        (if present = [] then .empty else .among present wanted)) := by
  have hwalk : Enumerates medium place world Format.null world.board.entries.formats :=
    enumerates hanswer hopen (List.nil_append _).symm (by simp)
      fun format hformat => Entries.id_pos hnull hformat
  refine ⟨world.board.entries.formats, world.board.entries.formats_ascend, ?_, ?_,
    tells_formats hanswer world, ?_, ?_, ?_⟩
  · exact fun format => Entries.mem_formats_iff world.board.entries
  · intro formats
    constructor
    · exact fun hformats => hformats.unique hwalk
    · rintro rfl
      exact hwalk
  · exact ⟨_, tells_count hanswer world, Entries.toNat_count hnull⟩
  · intro format
    rw [← List.contains_eq_mem]
    exact tells_contains hanswer hnull format
  · exact fun wanted => tells_priorityFormat hanswer hnull wanted

end

/-- A board that the first client has open, with text, its placeholder in the other narrow format,
and an entry under the largest number. -/
def crowded : World :=
  let entries := ((Entries.empty.insert ⟨0xffffffff⟩ [1]).insert Format.oemText []).insert
    Format.text [0x68, 0]
  gathering { Board.empty with entries := entries, session := some (clientId 0, none) } 1 []

/-- The placeholder counts and is listed, the largest number is the last one, and it is found where
the null format and an absent one are asked for first. -/
theorem crowded_observed :
    let medium := crowded.medium consult
    crowded.board.isOpenBy (clientId 0) = true ∧
    crowded.board.entries.find? Format.null = none ∧
    Enumerates medium 0 crowded Format.null [Format.text, Format.oemText, ⟨0xffffffff⟩] ∧
    (∃ count, Tells medium 0 crowded Acting.count count ∧ count.toNat = 3) ∧
    Tells medium 0 crowded (Acting.contains Format.oemText) true ∧
    Tells medium 0 crowded
      (Acting.priorityFormat [Format.null, Format.unicodeText, ⟨0xffffffff⟩, Format.text])
      (.found ⟨0xffffffff⟩) := by
  intro medium
  have hanswer : medium.answer = consult := rfl
  have hopen : crowded.board.isOpenBy (clientId 0) = true := rfl
  have hnull : crowded.board.entries.find? Format.null = none := rfl
  obtain ⟨present, -, -, hwalk, hformats, hcount, hcontains, hpriority⟩ :=
    observers_agree hanswer hopen hnull
  have hlist : Except.ok present = .ok [Format.text, Format.oemText, ⟨0xffffffff⟩] :=
    hformats.1.symm
  cases hlist
  exact ⟨hopen, hnull, (hwalk _).2 rfl, hcount, hcontains Format.oemText, hpriority _⟩

end World

end Pasteboard
