import Pasteboard.Proofs.Call.Ends
import Pasteboard.Proofs.Client.Closing
import Pasteboard.Proofs.Client.Tasks

/-!
# What closing adds to the board

A client that changed something completes the board when it closes: absent members of a family that
is present are promised, text gets a locale, and nothing that is there is touched. `Entries.origin?`
and `Entries.completion?` say what that comes to for a set of entries, without planning anything.
The main theorem, `World.close_completes_board`, says that a successful close leaves exactly this
board, exactly these derivations, and nothing for another plan to add.
-/

namespace Pasteboard

open Call

namespace Entries

/-- The richest member of a family that is there. -/
def richest? (entries : Entries) (family : Family) : Option Format :=
  family.members.find? entries.formats.contains

/-- What an absent format can be derived from. -/
def origin? (entries : Entries) (format : Format) : Option Format :=
  if (entries.find? format).isSome then none else format.family?.bind entries.richest?

/-- The payload that closing adds under a format: none under a format that is there, a placeholder
under one that can be derived, and the locale if there is text. -/
def completion? (entries : Entries) (locale : Locale) (format : Format) : Option Bytes :=
  if (entries.find? format).isSome then none
  else if (entries.origin? format).isSome then some []
  else if format = Format.locale ∧ (entries.richest? .text).isSome then some (Bytes.ofU32 locale)
  else none

end Entries

/-! ## Plans described by their entries -/

namespace Family

variable {family : Family} {format : Format}

/-- No format belongs to two families. -/
theorem family?_eq_some_iff : format.family? = some family ↔ format ∈ family.members := by
  constructor
  · intro h
    simpa using List.find?_some h
  · intro h
    have hall : ∀ family ∈ Family.all, ∀ format ∈ family.members, format.family? = some family := by
      decide
    exact hall family (by cases family <;> decide) format h

/-- The derivations within a family lead from its first present member to all absent ones. -/
theorem mem_derivations_iff {present : Format → Bool} {derivation : Derivation} :
    derivation ∈ family.derivations present ↔
      present derivation.target = false ∧ derivation.target ∈ family.members ∧
        family.members.find? present = some derivation.source := by
  unfold Family.derivations
  cases hfind : family.members.find? present with
  | none => simp
  | some source =>
      rw [List.mem_map]
      constructor
      · rintro ⟨target, htarget, rfl⟩
        obtain ⟨hmember, habsent⟩ := List.mem_filter.1 htarget
        exact ⟨by simpa using habsent, hmember, rfl⟩
      · rintro ⟨habsent, hmember, hsource⟩
        obtain rfl := Option.some.inj hsource
        exact ⟨derivation.target, List.mem_filter.2 ⟨hmember, by simp [habsent]⟩, rfl⟩

end Family

namespace Plan

/-- No format is derived twice. -/
theorem nodup_targets (present : Format → Bool) :
    ((Plan.of present).derivations.map Derivation.target).Nodup := by
  have hsublist (family : Family) :
      ((family.derivations present).map Derivation.target).Sublist family.members := by
    unfold Family.derivations
    cases family.members.find? present with
    | none => exact List.nil_sublist _
    | some source =>
        have htargets : (fun target => (⟨target, source⟩ : Derivation).target) = id := rfl
        simp only [List.map_map, Function.comp_def, htargets, List.map_id]
        exact List.filter_sublist
  have hmembers : (Family.all.flatMap Family.members).Nodup := by decide
  refine List.Nodup.sublist ?_ hmembers
  simp only [Plan.of, Family.all, List.flatMap_cons, List.flatMap_nil, List.append_nil,
    List.map_append]
  exact (hsublist .text).append ((hsublist .raster).append (hsublist .vector))

end Plan

namespace Board

variable {board : Board} {format source : Format} {locale : Locale}

/-- The plan for a board derives what can be derived, each format from its origin. -/
theorem mem_plan_iff {derivation : Derivation} :
    derivation ∈ board.plan.derivations ↔
      board.entries.origin? derivation.target = some derivation.source := by
  constructor
  · intro hmem
    obtain ⟨family, -, hderived⟩ := List.mem_flatMap.1 hmem
    obtain ⟨habsent, hmember, hsource⟩ := Family.mem_derivations_iff.1 hderived
    rw [Entries.contains_formats] at habsent
    rw [Entries.origin?, habsent, Family.family?_eq_some_iff.2 hmember]
    exact hsource
  · intro horigin
    rw [Entries.origin?] at horigin
    split at horigin
    · cases horigin
    · rename_i habsent
      obtain ⟨family, hfamily, hsource⟩ := Option.bind_eq_some_iff.1 horigin
      have hall : family ∈ Family.all := by cases family <;> decide
      refine List.mem_flatMap.2 ⟨family, hall, Family.mem_derivations_iff.2 ⟨?_, ?_, hsource⟩⟩
      · rw [Entries.contains_formats]
        exact Bool.eq_false_iff.2 habsent
      · exact Family.family?_eq_some_iff.1 hfamily

/-- A format is a target of the plan if and only if the board has an origin for it. -/
theorem exists_target_iff :
    (∃ derivation ∈ board.plan.derivations, derivation.target = format) ↔
      (board.entries.origin? format).isSome = true := by
  rw [Option.isSome_iff_exists]
  constructor
  · rintro ⟨derivation, hmem, rfl⟩
    exact ⟨derivation.source, mem_plan_iff.1 hmem⟩
  · rintro ⟨source, hsource⟩
    exact ⟨⟨format, source⟩, mem_plan_iff.2 hsource, rfl⟩

/-- The client remembers for every derived format its origin, and nothing else. -/
theorem source?_plan (board : Board) (format : Format) :
    (Sources.empty.recordAll board.plan.derivations).source? format =
      board.entries.origin? format := by
  have hknown : ∀ source,
      (Sources.empty.recordAll board.plan.derivations).source? format = some source →
        board.entries.origin? format = some source := by
    intro source hsource
    rcases Sources.mem_of_source?_recordAll hsource with hmem | hnone
    · exact mem_plan_iff.1 hmem
    · cases hnone
  cases hsource : (Sources.empty.recordAll board.plan.derivations).source? format with
  | some source => exact (hknown source hsource).symm
  | none =>
      cases horigin : board.entries.origin? format with
      | none => rfl
      | some origin =>
          -- A format that can be derived is a target, and targets are remembered.
          have htarget := exists_target_iff.2 (Option.isSome_of_eq_some horigin)
          have hsome := Sources.empty.isSome_source?_recordAll board.plan.derivations
            (.inl htarget)
          rw [hsource] at hsome
          cases hsome

/-- The plan puts a locale where there is text without one. -/
theorem setLocale_iff :
    board.plan.setLocale = true ↔ (board.entries.richest? .text).isSome = true ∧
      (board.entries.find? Format.locale).isSome = false := by
  rw [plan, Plan.of, Entries.richest?, List.isSome_find?, Entries.contains_formats,
    Bool.and_eq_true, Bool.not_eq_true']

/-- Carrying the plan out keeps every entry and adds what completes them. -/
theorem find?_planned_eq (board : Board) (locale : Locale) (format : Format) :
    (board.planned locale).entries.find? format =
      (board.entries.find? format).or (board.entries.completion? locale format) := by
  cases hfind : board.entries.find? format with
  | some payload =>
      have hpresent := Option.isSome_of_eq_some hfind
      rw [find?_planned_of_isSome locale hpresent, hfind, Option.some_or]
  | none =>
      simp only [find?_planned, exists_target_iff, setLocale_iff, hfind, Option.none_or,
        Entries.completion?, Option.isSome_none, Bool.false_eq_true, if_false]
      by_cases hlocale : format = Format.locale
      · subst hlocale
        simp [hfind]
      · simp [hlocale]

/-! ## How much is added -/

/-- As many entries were added as changes were counted. -/
def Fills (board later : Board) : Prop :=
  ∃ count, later.entries.list.length = board.entries.list.length + count ∧
    later.sequence = board.sequence + UInt32.ofNat count

/-- A board fills itself. -/
theorem Fills.refl (board : Board) : board.Fills board := ⟨0, rfl, by simp⟩

/-- Boards fill each other from one to the next. -/
theorem Fills.trans {now later : Board} (h : board.Fills now) (hlater : now.Fills later) :
    board.Fills later := by
  obtain ⟨first, hlength, hsequence⟩ := h
  obtain ⟨second, hlength', hsequence'⟩ := hlater
  refine ⟨first + second, ?_, ?_⟩
  · omega
  · rw [hsequence', hsequence, UInt32.ofNat_add, UInt32.add_assoc]

/-- An entry under a format that was absent fills the board. -/
theorem fills_stored {data : Bytes} (habsent : board.entries.find? format = none) :
    board.Fills (board.stored format data) :=
  ⟨1, Entries.length_insertInto habsent data, rfl⟩

theorem fills_located (board : Board) (locale : Locale) :
    board.Fills (board.located board.plan locale) := by
  unfold located
  split
  · rename_i hset
    refine fills_stored ?_
    rw [← Option.not_isSome_iff_eq_none, (setLocale_iff.1 hset).2]
    exact Bool.false_ne_true
  · exact .refl board

/-- Offering different absent formats adds one entry for each. -/
theorem fills_offered {derivations : List Derivation}
    (hnodup : (derivations.map Derivation.target).Nodup)
    (habsent : ∀ derivation ∈ derivations, board.entries.find? derivation.target = none) :
    board.Fills (board.offered derivations) := by
  induction derivations generalizing board with
  | nil => exact .refl board
  | cons derivation rest ih =>
      rw [List.map_cons, List.nodup_cons] at hnodup
      refine (fills_stored (habsent derivation List.mem_cons_self)).trans (ih hnodup.2 ?_)
      intro other hmem
      have hne : other.target ≠ derivation.target := by
        intro hsame
        exact hnodup.1 (hsame ▸ List.mem_map_of_mem hmem)
      rw [stored, Entries.find?_insert, if_neg hne]
      exact habsent other (List.mem_cons_of_mem _ hmem)

/-- Carrying the plan out counts as many changes as it adds entries. -/
theorem fills_planned (board : Board) (locale : Locale) : board.Fills (board.planned locale) := by
  refine (board.fills_located locale).trans (fills_offered (Plan.nodup_targets _) ?_)
  intro derivation hmem
  obtain ⟨-, hlocale, habsent, -⟩ := Plan.mem_derivations hmem
  rw [Entries.contains_formats] at habsent
  have hbefore : board.entries.find? derivation.target = none := by
    simpa using habsent
  unfold located
  split
  · rw [stored, Entries.find?_insert, if_neg hlocale, hbefore]
  · exact hbefore

end Board

/-! ## Nothing is left to add -/

namespace Entries

variable {entries : Entries} {family : Family} {format : Format}

/-- A family has a richest member if and only if one is present. -/
theorem isSome_richest?_iff :
    (entries.richest? family).isSome = true ↔
      ∃ member ∈ family.members, (entries.find? member).isSome = true := by
  simp [richest?, List.find?_isSome, ← contains_formats]

/-- An absent member of a family has its richest member as the origin. -/
theorem origin?_of_mem (habsent : (entries.find? format).isSome = false)
    (hmember : format ∈ family.members) : entries.origin? format = entries.richest? family := by
  rw [origin?, habsent, Family.family?_eq_some_iff.2 hmember, Option.bind_some]
  exact if_neg Bool.false_ne_true

/-- An absent member is promised if and only if its family is present. -/
theorem isSome_completion?_of_mem (habsent : (entries.find? format).isSome = false)
    (hmember : format ∈ family.members) (locale : Locale) :
    (entries.completion? locale format).isSome = (entries.richest? family).isSome := by
  have hlocale : format ≠ Format.locale := (Family.ne_of_mem_members hmember).2
  rw [completion?, origin?_of_mem habsent hmember, habsent]
  cases (entries.richest? family).isSome <;> simp [hlocale]

end Entries

namespace Board

variable {board : Board} {locale : Locale}

/-- Only families that are present are completed. -/
theorem isSome_richest?_of_planned {family : Family}
    (h : ((board.planned locale).entries.richest? family).isSome = true) :
    (board.entries.richest? family).isSome = true := by
  obtain ⟨member, hmember, hpresent⟩ := Entries.isSome_richest?_iff.1 h
  cases hbefore : (board.entries.find? member).isSome with
  | true => exact Entries.isSome_richest?_iff.2 ⟨member, hmember, hbefore⟩
  | false =>
      rw [find?_planned_eq, Option.isSome_or, hbefore, Bool.false_or] at hpresent
      rwa [Entries.isSome_completion?_of_mem hbefore hmember] at hpresent

/-- A completed board leaves nothing to derive. -/
theorem origin?_planned (board : Board) (locale : Locale) (format : Format) :
    (board.planned locale).entries.origin? format = none := by
  cases hafter : ((board.planned locale).entries.find? format).isSome with
  | true => rw [Entries.origin?, if_pos hafter]
  | false =>
      cases hfamily : format.family? with
      | none => simp [Entries.origin?, hfamily]
      | some family =>
          have hmember := Family.family?_eq_some_iff.1 hfamily
          rw [Entries.origin?_of_mem hafter hmember, ← Option.not_isSome_iff_eq_none]
          intro hsome
          -- If the family is present, then it was so before, and the format was promised.
          have hfamily := isSome_richest?_of_planned hsome
          rw [find?_planned_eq, Option.isSome_or, Bool.or_eq_false_iff] at hafter
          rw [Entries.isSome_completion?_of_mem hafter.1 hmember, hfamily] at hafter
          cases hafter.2

/-- There is nothing to add to a board whose plan was carried out. -/
theorem plan_planned (board : Board) (locale : Locale) :
    (board.planned locale).plan.isEmpty = true := by
  have hderivations : (board.planned locale).plan.derivations = [] := by
    rw [List.eq_nil_iff_forall_not_mem]
    intro derivation hmem
    rw [mem_plan_iff, origin?_planned] at hmem
    cases hmem
  have hlocale : ¬ (board.planned locale).plan.setLocale = true := by
    intro hset
    obtain ⟨htext, habsent⟩ := setLocale_iff.1 hset
    rw [find?_planned_eq, Option.isSome_or, Bool.or_eq_false_iff] at habsent
    have hadded := habsent.2
    rw [Entries.completion?, if_neg (by simp [habsent.1])] at hadded
    split at hadded
    · cases hadded
    · rw [if_pos ⟨rfl, isSome_richest?_of_planned htext⟩] at hadded
      cases hadded
  simp [Plan.isEmpty, hderivations, hlocale]

end Board

namespace World

variable {world : World} {place : Nat}

/-- The client is there, and the session is not the client's. -/
def ShutOut (world : World) (place : Nat) : Prop :=
  world.Present place ∧ world.board.isOpenBy (clientId place) = false

/-- A client stays shut out while the session of the other one goes on. -/
theorem ShutOut.evolves (h : world.ShutOut place) {board : Board} {client : Client}
    {told : List Event} {asked : List Request} {now : World}
    (hevolves : world.Evolves place board client told asked now)
    (hsession : board.session = world.board.session) : now.ShutOut place := by
  refine ⟨hevolves.present_iff.2 h.1, ?_⟩
  rw [hevolves.board_eq, Board.isOpenBy, hsession]
  exact h.2

/-- Planning neither opens a session nor ends one, also where the puts are refused or where they are
not because the client acts for the owner. -/
theorem plans_shutOut (place : Nat) : Setting.silent.Plans place (ShutOut · place) where
  lists := keeps_expect fun _ h => h.evolves ((Evolves.start h.1).consult .listFormats) rfl
  note entry _ h := h.evolves ((Evolves.start h.1).note entry) rfl
  modify change _ _ _ h := h.evolves ((Evolves.start h.1).modify change) rfl
  puts format payload world h := by
    have hstart := Evolves.start h.1
    by_cases haccepted : world.board.Admits (clientId place) ∧ format ≠ Format.null
    · exact Acting.ensures_putBytes rfl hstart payload haccepted.1 haccepted.2
        fun names later _ hlater => h.evolves hlater rfl
    · exact Acting.ensures_putBytes_refused rfl hstart payload haccepted
        fun error later hlater => h.evolves hlater rfl

/-- A client that changed something but has no session with the store cannot close one. -/
theorem ends_closeSession_of_shutOut {medium : Medium} (hanswer : medium.answer = consult)
    (h : world.ShutOut place) (hchanged : (world.client place).session.any (·.changed) = true) :
    Acting.closeSession.run.Ends medium place (fun result _ => result = .error .notOpen) world := by
  have hclose : Acting.closeSession.run.Ensures .silent place
      (fun result _ => result = .error .notOpen) world := by
    rw [Acting.closeSession_eq]
    simp only [ensures_acting_bind, ensures_lift, ensures_client, hchanged, if_true]
    refine ((plans_shutOut place).keeps_planDerivations world h).mono fun _ later hlater => ?_
    exact Acting.ensures_finishSession_refused rfl (.start hlater.1) _ hlater.2 fun _ _ => rfl
  exact (hclose.ends hanswer).1

/-- A client that changed something and has the session carries the plan for the board out. -/
theorem ends_closeSession_of_changed {medium : Medium} (hanswer : medium.answer = consult)
    (hpresent : world.Present place) (hopen : world.board.isOpenBy (clientId place) = true)
    (hchanged : (world.client place).session.any (·.changed) = true) :
    Acting.closeSession.run.Ends medium place (fun result later =>
      (∃ reply, result = .ok reply) ∧
        later.board =
          (world.board.planned (world.client place).settings.defaultLocale).closed ∧
        (later.client place).sources = Sources.empty.recordAll world.board.plan.derivations)
      world := by
  obtain ⟨window, hsession⟩ := (world.client place).session_of_changed hchanged
  have hclose : Acting.closeSession.run.Ensures .silent place (fun result later =>
      (∃ reply, result = .ok reply) ∧
        later.board =
          (world.board.planned (world.client place).settings.defaultLocale).closed ∧
        (later.client place).sources = Sources.empty.recordAll world.board.plan.derivations)
      world := by
    refine Acting.ensures_closeSession_changed rfl (Evolves.start hpresent) hopen hsession ?_
    intro more later planned hplanned hlater
    refine ⟨⟨_, rfl⟩, ?_, ?_⟩
    · rw [hlater.board_eq, hplanned]
    · rw [hlater.client_eq]
      rfl
  exact (hclose.ends hanswer).1

/-- A client that changed something closes its session, whatever is on the board, and that succeeds
if the store's session is the client's. Then every entry is as it was, exactly the completing ones
are added, and each counts as one change; the client can derive exactly what was promised, each
format from the richest member of its family that was there; and another plan would add nothing. -/
theorem close_completes_board {medium : Medium} (hanswer : medium.answer = consult)
    (hpresent : world.Present place)
    (hchanged : (world.client place).session.any (·.changed) = true) :
    ∃ result later,
      Acting.closeSession.run.run medium place world = (result, later) ∧
      ((∃ reply, result = .ok reply) ↔ world.board.isOpenBy (clientId place) = true) ∧
      ∀ reply, result = .ok reply →
        (∀ format, later.board.entries.find? format =
          (world.board.entries.find? format).or
            (world.board.entries.completion? (world.client place).settings.defaultLocale format)) ∧
        (∀ format, (later.client place).sources.source? format =
          world.board.entries.origin? format) ∧
        (∃ added,
          later.board.entries.formats.length = world.board.entries.formats.length + added ∧
            later.board.sequence = world.board.sequence + UInt32.ofNat added) ∧
        later.board.plan.isEmpty = true := by
  obtain ⟨result, later, hclose⟩ : ∃ result later,
      Acting.closeSession.run.run medium place world = (result, later) := ⟨_, _, Prod.ext rfl rfl⟩
  refine ⟨result, later, hclose, ?_⟩
  -- If the session is another client's, every request of the plan is refused, and so is closing.
  cases hopen : world.board.isOpenBy (clientId place) with
  | false =>
      have hrefused := ends_closeSession_of_shutOut hanswer ⟨hpresent, hopen⟩ hchanged
      rw [Ends, hclose] at hrefused
      obtain rfl : result = .error .notOpen := hrefused
      refine ⟨iff_of_false ?_ Bool.false_ne_true, ?_⟩
      · rintro ⟨reply, hreply⟩
        cases hreply
      · intro reply hreply
        cases hreply
  | true =>
      have hcarried := ends_closeSession_of_changed hanswer hpresent hopen hchanged
      rw [Ends, hclose] at hcarried
      obtain ⟨hreply, hboard, hsources⟩ := hcarried
      let locale := (world.client place).settings.defaultLocale
      refine ⟨iff_of_true hreply rfl, fun _ _ => ⟨?_, ?_, ?_, ?_⟩⟩
      · intro format
        rw [hboard]
        exact world.board.find?_planned_eq locale format
      · intro format
        rw [hsources]
        exact world.board.source?_plan format
      · obtain ⟨added, hlength, hsequence⟩ := world.board.fills_planned locale
        rw [hboard]
        refine ⟨added, ?_, hsequence⟩
        show ((world.board.planned locale).entries.list.map Prod.fst).length =
          (world.board.entries.list.map Prod.fst).length + added
        rw [List.length_map, List.length_map, hlength]
      · rw [hboard]
        exact world.board.plan_planned locale

/-- Narrow text, a placeholder for a packed bitmap and something else are on the board. The first
client has it open and changed something. -/
def halfFilled : World :=
  (gathering { Board.empty with
    entries := ((Entries.empty.insert Format.text [0x68, 0]).insert Format.dib []).insert ⟨4⟩ [1]
    session := some (clientId 0, none)
    sequence := 7 } 1 []).updateMember 0 fun member =>
      { member with client := { member.client with session := some ⟨none, true⟩ } }

/-- Five formats are promised and the locale is set, which makes six changes. -/
theorem half_filled_board_completed :
    halfFilled.Present 0 ∧ (halfFilled.client 0).session.any (·.changed) = true ∧
      ∃ reply later,
        Acting.closeSession.run.run (halfFilled.medium consult) 0 halfFilled = (.ok reply, later) ∧
        later.board.entries.find? Format.text = some [0x68, 0] ∧
        later.board.entries.find? Format.unicodeText = some [] ∧
        later.board.entries.find? Format.locale = some [9, 4, 0, 0] ∧
        later.board.entries.find? Format.enhMetafile = none ∧
        (later.client 0).sources.source? Format.bitmap = some Format.dib ∧
        later.board.plan.isEmpty = true := by
  have hanswer : (halfFilled.medium consult).answer = consult := rfl
  have hpresent : halfFilled.Present 0 := rfl
  have hopen : halfFilled.board.isOpenBy (clientId 0) = true := by decide
  have hchanged : (halfFilled.client 0).session.any (·.changed) = true := by decide
  obtain ⟨result, later, hclose, hsuccess, hcompleted⟩ :=
    close_completes_board hanswer hpresent hchanged
  obtain ⟨reply, rfl⟩ := hsuccess.2 hopen
  obtain ⟨hentries, hsources, -, hplan⟩ := hcompleted reply rfl
  refine ⟨hpresent, hchanged, reply, later, hclose, ?_, ?_, ?_, ?_, ?_, hplan⟩
  · rw [hentries]
    decide
  · rw [hentries]
    decide
  · rw [hentries]
    decide
  · rw [hentries]
    decide
  · rw [hsources]
    decide

end World

end Pasteboard
