import Pasteboard.Derivation
import Pasteboard.Text.CodePage
import Pasteboard.Proofs.Board.Requests

/-!
# Plans and what they make of the board

A plan derives absent formats from present ones. Carrying it out puts the locale, if text has none,
and an empty payload under every target. `Board.find?_planned` says which entry a format then has,
and `Board.backed_planned_iff` when the client can derive all that is offered.
-/

namespace Pasteboard

namespace Sources

variable {sources : Sources} {target source format : Format}

/-- A derivation that is removed is gone, and the others stay. -/
theorem source?_remove (sources : Sources) (target format : Format) :
    (sources.remove target).source? format =
      if format = target then none else sources.source? format := by
  simp only [source?, remove]
  induction sources.entries with
  | nil => simp
  | cons entry rest ih =>
      rw [List.filter_cons]
      by_cases hentry : entry.1 = target
      · simp only [hentry, bne_self_eq_false, Bool.false_eq_true, if_false, ih, lookup_cons_eq_ite]
        split <;> rfl
      · have hkept : (entry.1 != target) = true := by simpa using hentry
        simp only [hkept, if_true, lookup_cons_eq_ite, ih]
        by_cases hformat : format = entry.1
        · have hne : format ≠ target := fun h => hentry (hformat ▸ h)
          simp [hformat, hentry]
        · simp [hformat]

/-- A derivation that is recorded takes the place of any earlier one of the target. -/
theorem source?_record (sources : Sources) (target source format : Format) :
    (sources.record target source).source? format =
      if format = target then some source else sources.source? format := by
  rw [source?, record, lookup_cons_eq_ite]
  by_cases hformat : format = target
  · rw [if_pos hformat, if_pos hformat]
  · rw [if_neg hformat, if_neg hformat]
    have hremove := source?_remove sources target format
    rwa [if_neg hformat] at hremove

/-- It does not matter whether a format was forgotten before it is recorded. -/
theorem record_remove (sources : Sources) (target source : Format) :
    (sources.remove target).record target source = sources.record target source := by
  simp [record, remove, List.filter_filter]

/-- The formats that a list of derivations makes derivable, later ones taking the place of earlier
ones. -/
def recordAll (sources : Sources) (derivations : List Derivation) : Sources :=
  derivations.foldl (fun sources derivation =>
    sources.record derivation.target derivation.source) sources

/-- What is derivable after several were recorded is one of these or was so before. -/
theorem mem_of_source?_recordAll {derivations : List Derivation}
    (h : (sources.recordAll derivations).source? format = some source) :
    ⟨format, source⟩ ∈ derivations ∨ sources.source? format = some source := by
  induction derivations generalizing sources with
  | nil => exact .inr h
  | cons derivation rest ih =>
      rcases ih h with hmem | hbefore
      · exact .inl (List.mem_cons_of_mem _ hmem)
      · rw [source?_record] at hbefore
        split at hbefore
        · rename_i hformat
          obtain rfl := Option.some.inj hbefore
          exact .inl (hformat ▸ List.mem_cons_self)
        · exact .inr hbefore

/-- The target of each recorded derivation is derivable, and so is what was. -/
theorem isSome_source?_recordAll (sources : Sources) (derivations : List Derivation)
    (h : (∃ derivation ∈ derivations, derivation.target = format) ∨
      (sources.source? format).isSome = true) :
    ((sources.recordAll derivations).source? format).isSome = true := by
  induction derivations generalizing sources with
  | nil =>
      rcases h with ⟨derivation, hmem, _⟩ | h
      · exact False.elim (List.not_mem_nil hmem)
      · exact h
  | cons derivation rest ih =>
      apply ih
      rw [source?_record]
      rcases h with ⟨other, hmem, htarget⟩ | h
      · rcases List.mem_cons.1 hmem with rfl | hmem
        · exact .inr (by simp [htarget])
        · exact .inl ⟨other, hmem, htarget⟩
      · right
        split
        · rfl
        · exact h

end Sources

section

variable {present : Format → Bool} {derivation : Derivation}

/-- A derivation within a family leads from a present member to an absent one. -/
theorem Family.mem_derivations {family : Family} (h : derivation ∈ family.derivations present) :
    (derivation.target ∈ family.members ∧ derivation.source ∈ family.members) ∧
      present derivation.target = false ∧ present derivation.source = true := by
  unfold Family.derivations at h
  cases hfind : family.members.find? present with
  | none => simp [hfind] at h
  | some source =>
      rw [hfind] at h
      obtain ⟨target, htarget, rfl⟩ := List.mem_map.1 h
      obtain ⟨hmem, habsent⟩ := List.mem_filter.1 htarget
      exact ⟨⟨hmem, List.mem_of_find?_eq_some hfind⟩, by simpa using habsent,
        List.find?_some hfind⟩

/-- Neither the null format nor the locale is derivable. -/
theorem Family.ne_of_mem_members {family : Family} {format : Format} (h : format ∈ family.members) :
    format ≠ Format.null ∧ format ≠ Format.locale := by
  have hall : ∀ family ∈ Family.all, ∀ format ∈ family.members,
      format ≠ Format.null ∧ format ≠ Format.locale := by decide
  exact hall family (by cases family <;> decide) format h

/-- A planned derivation leads from a present format to an absent one. -/
theorem Plan.mem_derivations (h : derivation ∈ (Plan.of present).derivations) :
    derivation.target ≠ Format.null ∧ derivation.target ≠ Format.locale ∧
      present derivation.target = false ∧ present derivation.source = true := by
  obtain ⟨family, _, hmem⟩ := List.mem_flatMap.1 h
  obtain ⟨⟨hmember, _⟩, habsent, hpresent⟩ := Family.mem_derivations hmem
  obtain ⟨hnull, hlocale⟩ := Family.ne_of_mem_members hmember
  exact ⟨hnull, hlocale, habsent, hpresent⟩

/-- A planned derivation stays within a family. -/
theorem Plan.related (h : derivation ∈ (Plan.of present).derivations) :
    ∃ family : Family, derivation.target ∈ family.members ∧ derivation.source ∈ family.members := by
  obtain ⟨family, _, hmem⟩ := List.mem_flatMap.1 h
  exact ⟨family, (Family.mem_derivations hmem).1⟩

/-- The locale is set only where it is absent. -/
theorem Plan.locale_absent (h : (Plan.of present).setLocale = true) :
    present Format.locale = false := by
  simp only [Plan.of, Bool.and_eq_true, Bool.not_eq_true'] at h
  exact h.2

end

namespace Board

variable {board : Board} {format : Format} {derivations : List Derivation} {locale : Locale}

/-- What can be added to the board. -/
def plan (board : Board) : Plan := .of board.entries.formats.contains

/-- The board with the locale, if the plan sets it. -/
def located (board : Board) (plan : Plan) (locale : Locale) : Board :=
  if plan.setLocale then board.stored Format.locale (Bytes.ofU32 locale) else board

/-- The board with an empty payload under every target. -/
def offered (board : Board) (derivations : List Derivation) : Board :=
  derivations.foldl (fun board derivation => board.stored derivation.target []) board

/-- The board after its plan was carried out. -/
def planned (board : Board) (locale : Locale) : Board :=
  (board.located board.plan locale).offered board.plan.derivations

/-- Each target gets an empty entry, and all other entries stay. -/
theorem find?_offered (board : Board) (derivations : List Derivation) (format : Format) :
    (board.offered derivations).entries.find? format =
      if ∃ derivation ∈ derivations, derivation.target = format then some []
      else board.entries.find? format := by
  induction derivations generalizing board with
  | nil => simp [offered]
  | cons derivation rest ih =>
      show ((board.stored derivation.target []).offered rest).entries.find? format = _
      rw [ih, stored, Entries.find?_insert]
      by_cases hrest : ∃ other ∈ rest, other.target = format
      · simp [hrest]
      · by_cases htarget : derivation.target = format
        · simp [htarget]
        · simp [hrest, htarget, Ne.symm htarget]

/-- What putting leaves alone. -/
structure Agrees (board later : Board) : Prop where
  session : later.session = board.session
  owner : later.owner = board.owner
  ownerClient : later.ownerClient = board.ownerClient
  viewer : later.viewer = board.viewer
  listeners : later.listeners = board.listeners
  openSequence : later.openSequence = board.openSequence
  growth : later.growth = board.growth

/-- Boards agree with each other from one to the next. -/
theorem Agrees.trans {now later : Board} (h : board.Agrees now) (hlater : now.Agrees later) :
    board.Agrees later where
  session := hlater.session.trans h.session
  owner := hlater.owner.trans h.owner
  ownerClient := hlater.ownerClient.trans h.ownerClient
  viewer := hlater.viewer.trans h.viewer
  listeners := hlater.listeners.trans h.listeners
  openSequence := hlater.openSequence.trans h.openSequence
  growth := hlater.growth.trans h.growth

/-- An entry that is stored leaves the rest of the board alone. -/
theorem agrees_stored (board : Board) (format : Format) (data : Bytes) :
    board.Agrees (board.stored format data) :=
  ⟨rfl, rfl, rfl, rfl, rfl, rfl, rfl⟩

theorem agrees_offered (board : Board) (derivations : List Derivation) :
    board.Agrees (board.offered derivations) := by
  induction derivations generalizing board with
  | nil => exact ⟨rfl, rfl, rfl, rfl, rfl, rfl, rfl⟩
  | cons derivation rest ih => exact (board.agrees_stored derivation.target []).trans (ih _)

theorem agrees_located (board : Board) (plan : Plan) (locale : Locale) :
    board.Agrees (board.located plan locale) := by
  unfold located
  split
  · exact board.agrees_stored _ _
  · exact ⟨rfl, rfl, rfl, rfl, rfl, rfl, rfl⟩

/-- The placeholders and the locale of a plan leave the rest of the board alone. -/
theorem agrees_planned (board : Board) (locale : Locale) : board.Agrees (board.planned locale) :=
  (board.agrees_located board.plan locale).trans (agrees_offered _ _)

/-- Boards that agree are open to the same clients. -/
theorem Agrees.isOpenBy {later : Board} (h : board.Agrees later) (client : ClientId) :
    later.isOpenBy client = board.isOpenBy client := by
  rw [Board.isOpenBy, h.session, Board.isOpenBy]

/-- Every target of the plan has an empty payload, the locale is there if the plan sets it, and all
else is as before. -/
theorem find?_planned (board : Board) (locale : Locale) (format : Format) :
    (board.planned locale).entries.find? format =
      if ∃ derivation ∈ board.plan.derivations, derivation.target = format then some []
      else if board.plan.setLocale ∧ format = Format.locale then some (Bytes.ofU32 locale)
      else board.entries.find? format := by
  rw [planned, find?_offered]
  congr 1
  unfold located
  by_cases hset : board.plan.setLocale = true
  · simp [hset, stored]
  · simp [hset]

/-- A format that is present keeps its entry while the plan is carried out. -/
theorem find?_planned_of_isSome (locale : Locale)
    (h : (board.entries.find? format).isSome = true) :
    (board.planned locale).entries.find? format = board.entries.find? format := by
  have hpresent : board.entries.formats.contains format = true := by
    rwa [Entries.contains_formats]
  rw [find?_planned, if_neg, if_neg]
  · rintro ⟨hset, rfl⟩
    rw [Plan.locale_absent hset] at hpresent
    exact Bool.false_ne_true hpresent
  · rintro ⟨derivation, hmem, rfl⟩
    rw [(Plan.mem_derivations hmem).2.2.1] at hpresent
    exact Bool.false_ne_true hpresent

/-- A format that is present is not derived by the plan. -/
theorem source?_plan_of_isSome (h : (board.entries.find? format).isSome = true) :
    (Sources.empty.recordAll board.plan.derivations).source? format = none := by
  cases hsource : (Sources.empty.recordAll board.plan.derivations).source? format with
  | none => rfl
  | some source =>
      rcases Sources.mem_of_source?_recordAll hsource with hmem | hnone
      · have habsent := (Plan.mem_derivations hmem).2.2.1
        rw [Entries.contains_formats, h] at habsent
        cases habsent
      · cases hnone

/-- No entry is a placeholder. -/
def Full (board : Board) : Prop := ∀ format, board.entries.find? format ≠ some []

/-- Every placeholder is derivable from an entry that has a payload. -/
def Backed (board : Board) (sources : Sources) : Prop :=
  ∀ format, board.entries.find? format = some [] →
    ∃ source payload, sources.source? format = some source ∧
      board.entries.find? source = some payload ∧ payload ≠ []

/-- Carrying a plan out backs all placeholders if and only if there was none before: a placeholder
counts as present, so it is no target. -/
theorem backed_planned_iff (board : Board) (locale : Locale) :
    (board.planned locale).Backed (Sources.empty.recordAll board.plan.derivations) ↔
      board.Full := by
  constructor
  · intro hbacked format hplaceholder
    have hpresent : (board.entries.find? format).isSome = true := by rw [hplaceholder]; rfl
    -- The placeholder stays, but the plan has no source for a format that is present.
    have hkept := (find?_planned_of_isSome locale hpresent).trans hplaceholder
    obtain ⟨source, payload, hsource, _, _⟩ := hbacked format hkept
    rw [source?_plan_of_isSome hpresent] at hsource
    cases hsource
  · intro hfull format hplaceholder
    rw [find?_planned] at hplaceholder
    split at hplaceholder
    · -- A new placeholder is a target of the plan, and its source was present before.
      rename_i htarget
      obtain ⟨source, hsource⟩ := Option.isSome_iff_exists.1
        (Sources.empty.isSome_source?_recordAll _ (.inl htarget))
      rcases Sources.mem_of_source?_recordAll hsource with hmem | hnone
      · have hpresent := (Plan.mem_derivations hmem).2.2.2
        rw [Entries.contains_formats] at hpresent
        obtain ⟨payload, hpayload⟩ := Option.isSome_iff_exists.1 hpresent
        refine ⟨source, payload, hsource, ?_, ?_⟩
        · exact (find?_planned_of_isSome locale hpresent).trans hpayload
        · rintro rfl
          exact hfull source hpayload
      · cases hnone
    · split at hplaceholder
      · have hlength := Bytes.length_ofU32 locale
        rw [Option.some.inj hplaceholder] at hlength
        cases hlength
      · exact False.elim (hfull format hplaceholder)

end Board

end Pasteboard
