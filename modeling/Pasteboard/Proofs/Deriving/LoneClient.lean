import Pasteboard.Proofs.Board.Plans
import Pasteboard.Proofs.World.Interleaving

/-!
# What a client that is alone derives

A single client works on a board with any entries and begins without derivations. Whatever it does,
every derivation that it remembers leads from a format on the board to an empty entry of another
member of the same family, and no further derivation leads to the source: see
`World.sources_supported`. So rendering never takes two derivations.
-/

namespace Pasteboard

open Call World

variable {setting : Setting} {place : Nat} {world now : World} {board later : Board}
  {client : Client} {told : List Event} {asked : List Request} {sources : Sources}
  {format target source : Format}

namespace Board

/-- The board bears out that a format is derived from another one. -/
structure Supports (board : Board) (sources : Sources) (target source : Format) : Prop where
  ne : target ≠ source
  related : ∃ family : Family, target ∈ family.members ∧ source ∈ family.members
  placeholder : board.entries.find? target = some []
  listed : (board.entries.find? source).isSome = true
  /-- The source is not derived itself. -/
  original : sources.source? source = none

/-- The board bears out all derivations. -/
def Grounds (board : Board) (sources : Sources) : Prop :=
  ∀ target source, sources.source? target = some source → board.Supports sources target source

/-- Empty entries stay empty, and no entry goes away. -/
structure Retains (board later : Board) : Prop where
  placeholder : ∀ format, board.entries.find? format = some [] →
    later.entries.find? format = some []
  listed : ∀ format, (board.entries.find? format).isSome = true →
    (later.entries.find? format).isSome = true

/-- A board with the same entries retains them. -/
theorem retains_of_entries_eq (h : later.entries = board.entries) : board.Retains later where
  placeholder format hfind := by rwa [h]
  listed format hfind := by rwa [h]

/-- An entry that grows had a payload before. -/
theorem retains_insert {payload grown : Bytes}
    (hfind : board.entries.find? format = some payload) (hne : payload ≠ []) :
    board.Retains { board with entries := board.entries.insert format grown } where
  placeholder other hother := by
    have hdifferent : other ≠ format := by
      rintro rfl
      rw [hfind, Option.some.injEq] at hother
      exact hne hother
    rw [Entries.find?_insert, if_neg hdifferent, hother]
  listed other hother := by
    rw [Entries.find?_insert]
    split
    · rfl
    · exact hother

/-- A get changes an entry only if that grows, which takes a payload. -/
theorem handle_get_retains (board : Board) (client : ClientId) (format : Format)
    (bufferLen : UInt32) : board.Retains (board.handle client (.get format bufferLen)).2 := by
  simp only [handle, get]
  split
  · exact retains_of_entries_eq rfl
  · split
    · exact retains_of_entries_eq rfl
    · rename_i payload hfind
      split
      · exact retains_of_entries_eq rfl
      · rename_i hoverflow
        split
        · refine retains_insert hfind ?_
          rintro rfl
          exact hoverflow (UInt32.zero_le)
        · exact retains_of_entries_eq rfl

/-- A steady request makes no entry go away, and only entries with a payload grow. -/
theorem handle_retains {client : ClientId} {request : Request} (h : request.IsSteady) :
    board.Retains (board.handle client request).2 := by
  by_cases hget : ∃ format bufferLen, request = .get format bufferLen
  · obtain ⟨format, bufferLen, rfl⟩ := hget
    exact board.handle_get_retains client format bufferLen
  · exact retains_of_entries_eq
      (handle_entries h fun format bufferLen heq => hget ⟨format, bufferLen, heq⟩)

/-- Without derivations there is nothing to be borne out. -/
theorem grounds_empty (board : Board) : board.Grounds .empty := by
  intro target source hsource
  cases hsource

/-- What a board bears out is still borne out where its entries are retained. -/
theorem Grounds.retained (h : board.Grounds sources) (hlater : board.Retains later) :
    later.Grounds sources := by
  intro target source hsource
  have hsupports := h target source hsource
  exact ⟨hsupports.ne, hsupports.related, hlater.placeholder _ hsupports.placeholder,
    hlater.listed _ hsupports.listed, hsupports.original⟩

/-- A format that is put is not derived any more; the others still are. -/
theorem Grounds.stored (h : board.Grounds sources) (format : Format) (payload : Bytes) :
    (board.stored format payload).Grounds (sources.remove format) := by
  intro target source hsource
  rw [Sources.source?_remove] at hsource
  split at hsource
  · cases hsource
  · rename_i htarget
    have hsupports := h target source hsource
    refine ⟨hsupports.ne, hsupports.related, ?_, ?_, ?_⟩
    · rw [Board.stored, Entries.find?_insert, if_neg htarget, hsupports.placeholder]
    · rw [Board.stored, Entries.find?_insert]
      split
      · rfl
      · exact hsupports.listed
    · rw [Sources.source?_remove, hsupports.original, ite_self]

/-- A plan that was carried out is borne out. -/
theorem grounds_planned (board : Board) (locale : Locale) :
    (board.planned locale).Grounds (Sources.empty.recordAll board.plan.derivations) := by
  intro target source hsource
  have hmem : ⟨target, source⟩ ∈ board.plan.derivations := by
    rcases Sources.mem_of_source?_recordAll hsource with hmem | hnone
    · exact hmem
    · cases hnone
  obtain ⟨_, _, habsent, hpresent⟩ := Plan.mem_derivations hmem
  rw [Entries.contains_formats] at habsent hpresent
  refine ⟨?_, Plan.related hmem, ?_, ?_, source?_plan_of_isSome hpresent⟩
  · rintro rfl
    rw [habsent] at hpresent
    cases hpresent
  · rw [find?_planned, if_pos ⟨_, hmem, rfl⟩]
  · rw [find?_planned_of_isSome locale hpresent, hpresent]

end Board

namespace World

/-- The client at the place is the only one, the windows take regular steps, and the store knows of
the session that the client has. -/
structure Lone (place : Nat) (world : World) : Prop where
  present : world.Present place
  single : ∀ other, world.Present other → other = place
  allows : world.Allows Step.Regular
  holding : (world.client place).session.isSome = true →
    world.board.isOpenBy (clientId place) = true

/-- The board bears out all derivations that the only client remembers. -/
structure Grounded (place : Nat) (world : World) : Prop extends Lone place world where
  grounds : world.board.Grounds (world.client place).sources

namespace Grounded

variable (h : world.Grounded place)

include h

/-- The derivations are borne out as long as board and clients are the same. -/
theorem of_members_eq {later : World} (hboard : later.board = world.board)
    (hmembers : later.members = world.members) (hallows : later.Allows Step.Regular) :
    later.Grounded place where
  present := (present_congr hmembers place).2 h.present
  single other hother := h.single other ((present_congr hmembers other).1 hother)
  allows := hallows
  holding := by
    rw [client_congr hmembers, hboard]
    exact h.holding
  grounds := by
    rw [client_congr hmembers, hboard]
    exact h.grounds

/-- They are borne out again after what the client does, if its own are. -/
theorem evolves (hnow : world.Evolves place board client told asked now)
    (hholding : client.session.isSome = true → board.isOpenBy (clientId place) = true)
    (hgrounds : board.Grounds client.sources) : now.Grounded place where
  present := hnow.present_iff.2 h.present
  single other hother := h.single other (hnow.present_iff.1 hother)
  allows := hnow.allows h.allows
  holding := by
    rw [hnow.client_eq, hnow.board_eq]
    exact hholding
  grounds := by
    rw [hnow.client_eq, hnow.board_eq]
    exact hgrounds

/-- It does not matter who is busy. -/
theorem setBusy (other : Nat) (busy : Bool) : (world.setBusy other busy).Grounded place where
  present := (present_updateMember world other _).2 h.present
  single another hanother := h.single another ((present_updateMember world other _).1 hanother)
  allows := h.allows
  holding := by
    rw [client_setBusy]
    exact h.holding
  grounds := by
    rw [client_setBusy]
    exact h.grounds

end Grounded

/-- Nothing that leaves session, contents and derivations alone ends that they are borne out. -/
theorem abides_grounded (place : Nat) :
    (Setting.keeping consult (Grounded place)).Abides place (Grounded place) where
  stirs world later h hstirs hallows :=
    h.of_members_eq hstirs.board hstirs.members (hallows h.allows)
  steady world request hsteady h := by
    refine h.evolves ((Evolves.start h.present).consult request) (fun hsome => ?_)
      (h.grounds.retained (Board.handle_retains hsteady))
    rw [Board.isOpenBy, (Board.handle_of_isSteady hsteady).1]
    exact h.holding hsome
  graphics world graphics h :=
    h.evolves ((Evolves.start h.present).setClient _) h.holding h.grounds
  ready world h := h
  shift _ _ _ _ later _ hlater := hlater

section

variable (h : world.Grounded place)

include h

/-- A session begins with the derivations that there are, or with none if another client closed the
one before. -/
theorem Grounded.ensures_openSession (window : Option WindowId) :
    (Acting.openSession window).run.Ensures (.keeping consult (Grounded place)) place
      (fun _ later => later.Grounded place) world := by
  have hstart := Evolves.start h.present
  cases hsession : world.board.session with
  | none =>
      refine Acting.ensures_openSession rfl hstart window hsession fun later hlater =>
        h.evolves hlater (fun _ => Board.isOpenBy_iff.2 ⟨window, rfl⟩) ?_
      simp only [Client.opened]
      split
      · exact Board.grounds_empty _
      · exact h.grounds.retained (Board.retains_of_entries_eq rfl)
  | some session =>
      have hbusy : world.board.session.isSome = true := by rw [hsession, Option.isSome_some]
      exact Acting.ensures_openSession_busy rfl hstart window hbusy
        fun later hlater => h.evolves hlater h.holding h.grounds

/-- After a session with changes the board bears out the new plan, else the plan from before. -/
theorem Grounded.ensures_closeSession :
    Acting.closeSession.run.Ensures (.keeping consult (Grounded place)) place
      (fun _ later => later.Grounded place) world := by
  have hstart := Evolves.start h.present
  have hclosed {board : Board} {client : Client} :
      client.closed.session.isSome = true → board.isOpenBy (clientId place) = true := by
    intro hsome
    cases hsome
  cases hchanged : (world.client place).session.any (·.changed) with
  | true =>
      obtain ⟨window, hsession⟩ := (world.client place).session_of_changed hchanged
      refine Acting.ensures_closeSession_changed rfl hstart
        (h.holding (Option.isSome_of_any hchanged)) hsession
        fun more later planned hplanned hlater => h.evolves hlater hclosed ?_
      rw [hplanned]
      exact (world.board.grounds_planned _).retained (Board.retains_of_entries_eq rfl)
  | false =>
      refine Acting.ensures_closeSession_unchanged hstart hchanged ?_
      cases hopen : world.board.isOpenBy (clientId place) with
      | true =>
          exact Acting.ensures_finishSession rfl hstart _ hopen fun later hlater =>
            h.evolves hlater hclosed (h.grounds.retained (Board.retains_of_entries_eq rfl))
      | false =>
          exact Acting.ensures_finishSession_refused rfl hstart _ hopen
            fun later hlater => h.evolves hlater hclosed h.grounds

/-- What is put is not derived any more, and it takes no source away. -/
theorem Grounded.ensures_putBytes (format : Format) (payload : Bytes) :
    (Acting.putBytes format payload).run.Ensures (.keeping consult (Grounded place)) place
      (fun _ later => later.Grounded place) world := by
  have hstart := Evolves.start h.present
  by_cases haccepted : world.board.Admits (clientId place) ∧ format ≠ Format.null
  · refine Acting.ensures_putBytes rfl hstart payload haccepted.1 haccepted.2
      fun names later _ hlater => h.evolves hlater (fun hsome => ?_)
        (h.grounds.stored format payload)
    rw [Client.isSome_session_stored] at hsome
    exact h.holding hsome
  · exact Acting.ensures_putBytes_refused rfl hstart payload haccepted
      fun error later hlater => h.evolves hlater h.holding h.grounds

/-- A claim clears the derivations together with the board, unless it is refused. -/
theorem Grounded.ensures_takeOver (viewer owner : Option WindowId) :
    (Acting.takeOver viewer owner).run.Ensures (.keeping consult (Grounded place)) place
      (fun _ later => later.Grounded place) world := by
  have hstart := Evolves.start h.present
  cases hopen : world.board.isOpenBy (clientId place) with
  | true =>
      exact Acting.ensures_takeOver rfl hstart viewer owner hopen
        fun later hlater => h.evolves hlater (fun _ => hopen) (Board.grounds_empty _)
  | false =>
      exact Acting.ensures_takeOver_refused rfl hstart viewer owner hopen
        fun later hlater => h.evolves hlater h.holding h.grounds

end

/-- No operation of the client leaves a derivation that the board does not bear out. -/
theorem upholds_grounded (place : Nat) :
    (Setting.keeping consult (Grounded place)).Upholds place (Grounded place) where
  toAbides := abides_grounded place
  opens window _ h := h.ensures_openSession window
  closes _ h := h.ensures_closeSession
  puts format payload _ h := h.ensures_putBytes format payload
  takesOver viewer owner _ h := h.ensures_takeOver viewer owner

/-- So they are borne out whatever happens, also in the middle of an operation. -/
theorem lasting_grounded (place : Nat) : Lasting (Grounded place) where
  allows _ h := h.allows
  stirs _ _ h hstirs hallows := h.of_members_eq hstirs.board hstirs.members hallows
  busy _ other busy h := h.setBusy other busy
  task other task world hregular h hpresent := by
    obtain rfl := h.single other hpresent
    exact (upholds_grounded other).keeps_run task hregular world h

end World

/-- A format that the board lists is found to be there. -/
theorem Acting.ensures_contains (hanswer : setting.answer = consult)
    (hpresent : world.Present place) (hformat : format ≠ Format.null)
    (hlisted : (world.board.entries.find? format).isSome = true) :
    (contains format).run.Ensures setting place (fun result _ => result = .ok true) world := by
  simp only [contains, if_neg hformat, refresh, Ask.countFormats, ensures_acting_bind,
    ensures_lift, Ensures, ensures_ofAsking]
  refine ensures_ask hanswer ((Evolves.start hpresent).record .refreshed) _ _ fun later _ => ?_
  simp only [Board.handle, Board.count, hlisted, if_true, Reply.outcome, Ask.taken, mapError_ok]
  rfl

/-- Whatever a client does that is alone on a board with any entries and began without derivations,
also in the middle of an operation: the board bears out every derivation that it remembers, and a
format that it derives is found to be there. -/
theorem World.sources_supported {start : World} (hstart : start.Lone place)
    (hempty : (start.client place).sources = .empty) (hworld : start.Arises world)
    (hsource : (world.client place).sources.source? target = some source) :
    world.board.Supports (world.client place).sources target source ∧
      target ∈ world.board.entries.formats ∧ source ∈ world.board.entries.formats ∧
      ∀ depth, ((Acting.contains target).run.run ⟨consult, send consult depth⟩ place world).1 =
        .ok true := by
  have hgrounded : start.Grounded place := by
    refine ⟨hstart, ?_⟩
    rw [hempty]
    exact start.board.grounds_empty
  have h := (lasting_grounded place).of_arises hworld hgrounded
  have hsupports := h.grounds target source hsource
  have htarget : (world.board.entries.find? target).isSome = true := by
    rw [hsupports.placeholder, Option.isSome_some]
  obtain ⟨family, hmember, _⟩ := hsupports.related
  refine ⟨hsupports, ?_, ?_, fun depth => ?_⟩
  · rwa [← List.contains_iff_mem, Entries.contains_formats]
  · rw [← List.contains_iff_mem, Entries.contains_formats, hsupports.listed]
  · exact (Acting.ensures_contains rfl h.present (Family.ne_of_mem_members hmember).1 htarget).run
      ((lasting_grounded place).fits depth)

/-- A client that has not done anything yet, and a board with an entry. -/
def World.beginning : World :=
  gathering { Board.empty with entries := .insert .empty ⟨4⟩ [1] } 1 []

/-- The client puts wide text and closes. -/
def World.offering : World :=
  beginning.after
    [.task 0 (.openSession none), .task 0 (.put Format.unicodeText (.bytes [0x68, 0, 0, 0])),
      .task 0 .closeSession]

/-- Narrow text is derived from it then. -/
theorem World.narrow_text_supported :
    beginning.Lone 0 ∧ (beginning.client 0).sources = .empty ∧ beginning.Arises offering ∧
      (offering.client 0).sources.source? Format.text = some Format.unicodeText ∧
      offering.board.Supports (offering.client 0).sources Format.text Format.unicodeText := by
  have hstart : beginning.Lone 0 := by
    refine ⟨rfl, fun other hother => ?_, allows_gathering _ _ _, fun hsome => ?_⟩
    · cases other with
      | zero => rfl
      | succ other => cases hother
    · cases hsome
  have hworld : beginning.Arises offering := by
    refine Arises.start.after ?_
    simp [Step.Regular, Task.Regular]
  have hsource : (offering.client 0).sources.source? Format.text = some Format.unicodeText := rfl
  exact ⟨hstart, rfl, hworld, hsource, (sources_supported hstart rfl hworld hsource).1⟩

end Pasteboard
