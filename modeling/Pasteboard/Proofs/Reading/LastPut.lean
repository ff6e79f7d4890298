import Pasteboard.Proofs.Opening.OneSession
import Pasteboard.Proofs.Payload.Encoding
import Pasteboard.Proofs.Reading.StoredPayload

/-!
# Getting what was put last

One client writes and any others read, in any order of their operations among inert windows. What
the writer put last under a format since its last claim is written in a ledger that goes by the
outcomes of the tasks alone. Whoever has the clipboard open gets what the ledger says: see
`World.gets_of_ledger`. The invariant is `World.Records`: no format in the ledger is derivable.
-/

namespace Pasteboard

open Call World

/-- For each format the byte string that was put last since the last claim, if that is known. -/
abbrev Ledger := Format → Option Bytes

/-- Nothing is known. -/
def Ledger.blank : Ledger := fun _ => none

/-- The ledger with another entry for a format. -/
def Ledger.enter (ledger : Ledger) (format : Format) (entry : Option Bytes) : Ledger :=
  fun other => if other = format then entry else ledger other

mutual

/-- The ledger after a task came out in a way. A rendering on demand makes the target unknown,
whether or not it succeeds. -/
def Task.enter (ledger : Ledger) : Task → Outcome → Ledger
  | .claim _, .done _ => .blank
  | .put format data, .done _ => ledger.enter format data.bytes?
  | .putDelayed format, .done _ => ledger.enter format none
  | .render target _, _ => ledger.enter target none
  | .session _ tasks _, .session outcomes _ _ => Task.enterAll ledger tasks outcomes
  | _, _ => ledger

/-- The ledger after tasks came out. -/
def Task.enterAll (ledger : Ledger) : List Task → List Outcome → Ledger
  | task :: rest, outcome :: outcomes => Task.enterAll (task.enter ledger outcome) rest outcomes
  | _, _ => ledger

end

mutual

/-- A regular task that claims, puts or renders on demand only if the client may write. -/
def Task.Within (writes : Prop) : Task → Prop
  | .session _ tasks _ => Task.AllWithin writes tasks
  | .claim _ | .put _ _ | .putDelayed _ | .render _ _ => writes
  | .ask _ _ => False
  | _ => True

/-- Such tasks. -/
def Task.AllWithin (writes : Prop) : List Task → Prop
  | [] => True
  | task :: rest => task.Within writes ∧ Task.AllWithin writes rest

end

/-- A task of the writer, or one of another client that does not write. -/
def Step.Within (writer : Nat) : Step → Prop
  | .task place operation => operation.Within (place = writer)
  | _ => False

/-- The ledger after a step. -/
def Step.enter (ledger : Ledger) : Step → Outcome → Ledger
  | .task _ operation, outcome => operation.enter ledger outcome
  | _, _ => ledger

/-- The ledger after steps. -/
def Step.enterAll (ledger : Ledger) : List Step → List Outcome → Ledger
  | step :: rest, outcome :: outcomes => Step.enterAll (step.enter ledger outcome) rest outcomes
  | _, _ => ledger

/-- The ledger of a run. -/
def World.ledger (start : World) (steps : List Step) : Ledger :=
  Step.enterAll .blank steps (start.performAll (start.medium consult) steps).1

variable {clients writer place : Nat} {ledger ledger' : Ledger} {world now : World} {board : Board}
  {client : Client} {told : List Event} {asked : List Request} {format target source : Format}
  {payload : Bytes}

namespace World

/-- The store holds a byte string under a format, and the writer does not take the format to be
derivable. -/
structure Holds (world : World) (writer : Nat) (format : Format) (payload : Bytes) : Prop where
  ne_nil : payload ≠ []
  shape : format.shape = .memory
  find : world.board.entries.find? format = some payload
  underived : (world.client writer).sources.source? format = none

/-- The store holds what the ledger says. Clients other than the writer changed nothing in their
sessions and derive nothing. -/
structure Records (clients writer : Nat) (ledger : Ledger) (world : World) : Prop where
  attuned : world.Attuned clients
  undisturbed : world.Undisturbed
  readers : ∀ place, place ≠ writer → (world.client place).sources = .empty ∧
    (world.client place).session.any (·.changed) = false
  holds : ∀ format payload, ledger format = some payload → world.Holds writer format payload

/-- What one client does disturbs nobody if it lets nothing grow and keeps its settings. -/
theorem Undisturbed.evolves (h : world.Undisturbed)
    (hnow : world.Evolves place board client told asked now)
    (hgrowth : board.growth = world.board.growth)
    (hsettings : client.settings = (world.client place).settings) : now.Undisturbed where
  inert := hnow.allows h.inert
  growth := by rw [hnow.board_eq, hgrowth, h.growth]
  retries other := by
    by_cases hother : other = place
    · rw [hother, hnow.client_eq, hsettings]
      exact h.retries place
    · rw [hnow.client_of_ne hother]
      exact h.retries other

/-- An entry is still there as long as it is on the board and the writer does not derive it. -/
theorem Holds.evolves (h : world.Holds writer format payload)
    (hnow : world.Evolves place board client told asked now)
    (hfind : board.entries.find? format = some payload)
    (hunderived : place = writer → client.sources.source? format = none) :
    now.Holds writer format payload where
  ne_nil := h.ne_nil
  shape := h.shape
  find := by rw [hnow.board_eq, hfind]
  underived := by
    by_cases hplace : place = writer
    · subst hplace
      rw [hnow.client_eq, hunderived rfl]
    · rw [hnow.client_of_ne (Ne.symm hplace), h.underived]

namespace Records

variable (h : world.Records clients writer ledger)

include h

/-- What is known less of is still recorded. -/
theorem mono (hledger : ∀ format payload, ledger' format = some payload →
    ledger format = some payload) : world.Records clients writer ledger' where
  attuned := h.attuned
  undisturbed := h.undisturbed
  readers := h.readers
  holds format payload hentry := h.holds format payload (hledger format payload hentry)

/-- A ledger without entries is right of every world. -/
theorem blank : world.Records clients writer .blank :=
  h.mono fun _ _ hentry => by cases hentry

/-- It is never wrong to know less. -/
theorem unknown (format : Format) : world.Records clients writer (ledger.enter format none) := by
  refine h.mono fun other payload hentry => ?_
  rw [Ledger.enter] at hentry
  split at hentry
  · cases hentry
  · exact hentry

/-- The records are those of another ledger if all its entries are there and readers have put
nothing. -/
theorem evolves (hnow : world.Evolves place board client told asked now)
    (hattuned : now.Attuned clients) (hgrowth : board.growth = world.board.growth)
    (hsettings : client.settings = (world.client place).settings)
    (hreader : place ≠ writer →
      client.sources = .empty ∧ client.session.any (·.changed) = false)
    (hholds : ∀ format payload, ledger' format = some payload →
      now.Holds writer format payload) : now.Records clients writer ledger' where
  attuned := hattuned
  undisturbed := h.undisturbed.evolves hnow hgrowth hsettings
  readers other hother := by
    by_cases hplace : other = place
    · subst hplace
      rw [hnow.client_eq]
      exact hreader hother
    · rw [hnow.client_of_ne hplace]
      exact h.readers other hother
  holds := hholds

/-- What leaves the session, the entries and the derivations alone. -/
theorem quiet (hnow : world.Evolves place board client told asked now)
    (hsession : board.session = world.board.session)
    (hentries : board.entries = world.board.entries) (hgrowth : board.growth = world.board.growth)
    (hclient : client = { world.client place with graphics := client.graphics }) :
    now.Records clients writer ledger := by
  have hsame : client.settings = (world.client place).settings ∧
      client.session = (world.client place).session ∧
      client.sources = (world.client place).sources := by
    rw [hclient]
    exact ⟨rfl, rfl, rfl⟩
  obtain ⟨hsettings, hown, hsources⟩ := hsame
  refine h.evolves hnow (h.attuned.quiet hnow hsession ?_) hgrowth hsettings (fun hreader => ?_)
    fun format payload hentry => ?_
  · rw [Client.isOpen, hown, Client.isOpen]
  · rw [hsources, hown]
    exact h.readers place hreader
  · have hheld := h.holds format payload hentry
    refine hheld.evolves hnow (by rw [hentries, hheld.find]) fun hplace => ?_
    rw [hsources, hplace, hheld.underived]

/-- What leaves the board and the client alone leaves the records. -/
theorem unchanged (hnow : world.Evolves place world.board (world.client place) told asked now) :
    now.Records clients writer ledger :=
  h.quiet hnow rfl rfl rfl rfl

theorem glances (hnow : world.Glances place world.board (world.client place) now) :
    now.Records clients writer ledger := by
  obtain ⟨_, graphics, told, asked, hnow⟩ := hnow
  exact h.quiet hnow rfl rfl rfl rfl

theorem stirs {later : World} (hstirs : world.Stirs later) (hinert : later.Inert) :
    later.Records clients writer ledger where
  attuned := h.attuned.stirs hstirs hinert.allows
  undisturbed := h.undisturbed.stirs hstirs hinert
  readers other hother := by
    rw [client_congr hstirs.members]
    exact h.readers other hother
  holds format payload hentry := by
    have hheld := h.holds format payload hentry
    refine ⟨hheld.ne_nil, hheld.shape, ?_, ?_⟩
    · rw [hstirs.board, hheld.find]
    · rw [client_congr hstirs.members, hheld.underived]

/-- It does not matter to the records who is busy. -/
theorem setBusy (place : Nat) (busy : Bool) :
    (world.setBusy place busy).Records clients writer ledger where
  attuned := h.attuned.setBusy place busy
  undisturbed := h.undisturbed.setBusy place busy
  readers other hother := by
    rw [client_setBusy]
    exact h.readers other hother
  holds format payload hentry := by
    have hheld := h.holds format payload hentry
    refine ⟨hheld.ne_nil, hheld.shape, hheld.find, ?_⟩
    rw [client_setBusy, hheld.underived]

/-- The writer put a payload, and the ledger knows it or nothing. -/
theorem stored (hnow : world.Evolves writer (world.board.stored format payload) client told asked
      now)
    (hclient : client =
      Client.stored { world.client writer with graphics := client.graphics } format)
    {entry : Option Bytes}
    (hentry : ∀ data, entry = some data → data ≠ [] ∧ format.shape = .memory ∧ payload = data) :
    now.Records clients writer (ledger.enter format entry) := by
  have hsources (other : Format) : client.sources.source? other =
      if other = format then none else (world.client writer).sources.source? other := by
    rw [hclient]
    exact Sources.source?_remove _ _ _
  refine h.evolves hnow (h.attuned.quiet hnow rfl ?_) rfl (by rw [hclient]; rfl)
    (fun hreader => False.elim (hreader rfl)) fun other data hdata => ?_
  · rw [hclient]
    exact Client.isSome_session_stored _ _
  · rw [Ledger.enter] at hdata
    split at hdata
    · rename_i hother
      obtain ⟨hne, hshape, rfl⟩ := hentry data hdata
      subst hother
      refine ⟨hne, hshape, ?_, ?_⟩
      · rw [hnow.board_eq, Board.stored, Entries.find?_insert, if_pos rfl]
      · rw [hnow.client_eq, hsources, if_pos rfl]
    · rename_i hother
      have hheld := h.holds other data hdata
      refine hheld.evolves hnow ?_ fun _ => ?_
      · rw [Board.stored, Entries.find?_insert, if_neg hother, hheld.find]
      · rw [hsources, if_neg hother, hheld.underived]

end Records

/-- When all clients are at rest, nothing is known yet. -/
theorem AtRest.records {start : World} (h : start.AtRest clients) (hstart : start.Undisturbed)
    (hreaders : ∀ place, place ≠ writer → (start.client place).sources = .empty) :
    start.Records clients writer .blank where
  attuned := h.attuned
  undisturbed := hstart
  readers place hplace := ⟨hreaders place hplace, by rw [h.sessions place, Option.any_none]⟩
  holds _ _ hentry := by cases hentry

/-- What clients do aside leaves the records alone. -/
theorem abides_records (hplace : place < clients) :
    Setting.inert.Abides place (Records clients writer ledger) where
  stirs world later h hstirs hallows := h.stirs hstirs (hallows h.undisturbed.inert)
  steady world request hsteady h := by
    have hstart := Evolves.start (h.attuned.complete.present place hplace)
    exact h.quiet (hstart.consult request) (Board.handle_of_isSteady hsteady).1
      (Board.handle_entries_of_growth hsteady h.undisturbed.growth)
      (Board.handle_growth _ _ _) rfl
  graphics world graphics h := by
    have hstart := Evolves.start (h.attuned.complete.present place hplace)
    exact h.quiet (hstart.setClient _) rfl rfl rfl rfl
  ready world h := h.undisturbed.inert
  shift _ _ _ world later h hshift := h.stirs hshift.1 hshift.2

end World

namespace Acting

section

variable (h : world.Records clients writer ledger) (hplace : place < clients)

include h hplace

/-- Opening a session writes nothing. -/
theorem records_openSession (window : Option WindowId) :
    (openSession window).run.Ensures .inert place
      (fun _ later => later.Records clients writer ledger) world := by
  have hstart := Evolves.start (h.attuned.complete.present place hplace)
  cases hsession : world.board.session with
  | none =>
      refine ensures_openSession rfl hstart window hsession fun later hlater => ?_
      have hforgets (format : Format) (hnone : (world.client place).sources.source? format = none) :
          ((world.client place).opened world.board.owner window).sources.source? format = none := by
        simp only [Client.opened]
        split
        · rfl
        · exact hnone
      refine h.evolves hlater (h.attuned.openSession hsession hlater) rfl rfl (fun hreader => ?_)
        fun format payload hentry => ?_
      · refine ⟨?_, rfl⟩
        simp only [Client.opened, (h.readers place hreader).1, ite_self]
      · have hheld := h.holds format payload hentry
        refine hheld.evolves hlater hheld.find fun hwriter => hforgets format ?_
        rw [hwriter, hheld.underived]
  | some session =>
      have hbusy : world.board.session.isSome = true := by rw [hsession, Option.isSome_some]
      exact ensures_openSession_busy rfl hstart window hbusy fun later hlater => h.unchanged hlater

/-- A client that ends its session keeps what the store holds and what it derives. -/
theorem records_finishSession (session : Option Session) :
    (finishSession session).run.Ensures .inert place
      (fun _ later => later.Records clients writer ledger) world := by
  have hstart := Evolves.start (h.attuned.complete.present place hplace)
  have hended {later : World} {board : Board} {told : List Event} {asked : List Request}
      (hlater : world.Evolves place board (world.client place).closed told asked later)
      (hattuned : later.Attuned clients) (hentries : board.entries = world.board.entries)
      (hgrowth : board.growth = world.board.growth) : later.Records clients writer ledger := by
    refine h.evolves hlater hattuned hgrowth rfl (fun hreader => ?_) fun format payload hentry => ?_
    · exact ⟨(h.readers place hreader).1, rfl⟩
    · have hheld := h.holds format payload hentry
      refine hheld.evolves hlater (by rw [hentries, hheld.find]) fun hwriter => ?_
      rw [Client.closed, hwriter, hheld.underived]
  cases hopen : world.board.isOpenBy (clientId place) with
  | true =>
      exact ensures_finishSession rfl hstart session hopen fun later hlater =>
        hended hlater (h.attuned.closeSession hopen hlater rfl) rfl rfl
  | false =>
      exact ensures_finishSession_refused rfl hstart session hopen fun later hlater =>
        hended hlater (h.attuned.closeSession_refused hopen hlater) rfl rfl

/-- A plan is only about formats that are absent, and what the ledger knows is present. -/
theorem records_closeSession :
    closeSession.run.Ensures .inert place
      (fun _ later => later.Records clients writer ledger) world := by
  have hstart := Evolves.start (h.attuned.complete.present place hplace)
  cases hchanged : (world.client place).session.any (·.changed) with
  | false =>
      exact ensures_closeSession_unchanged hstart hchanged (records_finishSession h hplace _)
  | true =>
      have hopen := h.attuned.isOpenBy_of_changed hchanged
      obtain ⟨window, hsession⟩ := (world.client place).session_of_changed hchanged
      refine ensures_closeSession_changed rfl hstart hopen hsession
        fun more later planned hplanned hlater => ?_
      have hagrees := world.board.agrees_planned (world.client place).settings.defaultLocale
      rw [← hplanned] at hagrees
      refine h.evolves hlater (h.attuned.closeSession hopen hlater rfl) hagrees.growth rfl
        (fun hreader => ?_) fun format payload hentry => ?_
      · rw [(h.readers place hreader).2] at hchanged
        cases hchanged
      · have hheld := h.holds format payload hentry
        have hpresent : (world.board.entries.find? format).isSome = true := by
          rw [hheld.find, Option.isSome_some]
        refine hheld.evolves hlater ?_ fun _ => ?_
        · rw [hplanned]
          exact (Board.find?_planned_of_isSome _ hpresent).trans hheld.find
        · exact Board.source?_plan_of_isSome hpresent

/-- Leaving a session writes nothing, whatever comes of closing. -/
theorem records_leaveSession :
    leaveSession.Ensures .inert place
      (fun _ later => later.Records clients writer ledger) world := by
  rw [leaveSession, ensures_bind]
  refine (records_closeSession h hplace).mono fun result later hlater => ?_
  cases result with
  | ok => exact hlater
  | error => exact (abides_records hplace).tolerates.keeps_warn _ later hlater

end

section Writer

variable (h : world.Records clients place ledger) (hplace : place < clients)

include h hplace

/-- A payload that the writer puts goes into the ledger if the put succeeds. -/
theorem records_putBytes {entry : Option Bytes}
    (hentry : ∀ data, entry = some data → data ≠ [] ∧ format.shape = .memory ∧ payload = data) :
    (putBytes format payload).run.Ensures .inert place (fun result later =>
      later.Records clients place
        (match result with | .ok _ => ledger.enter format entry | .error _ => ledger)) world := by
  have hstart := Evolves.start (h.attuned.complete.present place hplace)
  by_cases haccepted : world.board.Admits (clientId place) ∧ format ≠ Format.null
  · exact ensures_putBytes rfl hstart payload haccepted.1 haccepted.2
      fun names later _ hlater => h.stored hlater rfl hentry
  · exact ensures_putBytes_refused rfl hstart payload haccepted
      fun error later hlater => h.unchanged hlater

/-- A value that was put is entered under its format, and nothing is entered if putting failed. -/
theorem records_put (data : Data) :
    (put format data).run.Ensures .inert place (fun result later =>
      later.Records clients place (match result with
        | .ok _ => ledger.enter format data.bytes?
        | .error _ => ledger)) world := by
  have hstart := Evolves.start (h.attuned.complete.present place hplace)
  refine ensures_put hstart data (fun error => h) fun payload hencode => ?_
  refine records_putBytes h hplace fun block hblock => ?_
  obtain rfl : data = .bytes block := by
    cases data with
    | bytes => rw [Data.bytes?, Option.some.injEq] at hblock; rw [hblock]
    | _ => cases hblock
  obtain ⟨hshape, rfl⟩ := Data.encode_bytes hencode
  exact ⟨Data.encode_ne_nil hencode, hshape, rfl⟩

/-- A rendering makes its target unknown, and nothing else. -/
theorem records_renderFrom (target source : Format) :
    (renderFrom target source).run.Ensures .inert place
      (fun _ later => later.Records clients place (ledger.enter target none)) world := by
  have hstart := Evolves.start (h.attuned.complete.present place hplace)
  refine ensures_renderFrom (hstart.glances h.undisturbed.inert) h.undisturbed.growth
    (fun error later hlater => (h.glances hlater).unknown target)
    fun data payload graphics told asked later _ hlater => ?_
  refine h.stored hlater rfl fun data hnone => ?_
  cases hnone

/-- Once the writer has taken over, the ledger begins again; if it was refused, the
ledger stands. -/
theorem records_takeOver (viewer owner : Option WindowId) :
    (takeOver viewer owner).run.Ensures .inert place (fun result later =>
      later.Records clients place
        (match result with | .ok _ => .blank | .error _ => ledger)) world := by
  have hstart := Evolves.start (h.attuned.complete.present place hplace)
  cases hopen : world.board.isOpenBy (clientId place) with
  | true =>
      refine ensures_takeOver rfl hstart viewer owner hopen fun later hlater => ?_
      refine h.evolves hlater ?_ rfl rfl (fun hreader => False.elim (hreader rfl))
        fun format payload hentry => by cases hentry
      exact h.attuned.quiet hlater rfl (Client.isSome_session_claimed _)
  | false =>
      exact ensures_takeOver_refused rfl hstart viewer owner hopen
        fun later hlater => h.unchanged hlater

/-- The same holds of a claim with the message that goes to the owner before. -/
theorem records_claimOwnership (owner : Option WindowId) :
    (claimOwnership owner).run.Ensures .inert place (fun result later =>
      later.Records clients place
        (match result with | .ok _ => .blank | .error _ => ledger)) world := by
  have habides : Setting.inert.Abides place (Records clients place ledger) :=
    abides_records hplace
  have hinfo : (ofAsking Ask.info).run.Keeps .inert place (Records clients place ledger) :=
    habides.keeps_asking trivial
  rw [claimOwnership_eq, ensures_acting_bind]
  refine (hinfo world h).mono fun result later hlater => ?_
  cases result with
  | error => exact hlater
  | ok info =>
      cases hprevious : info.owner with
      | none =>
          simp only [hprevious]
          exact records_takeOver hlater hplace _ _
      | some previous =>
          simp only [hprevious, ensures_acting_bind, ensures_lift]
          exact (habides.keeps_dismiss previous later hlater).mono
            fun _ dismissed hdismissed => records_takeOver hdismissed hplace _ _

end Writer

/-- Getting changes no entry that the ledger knows, because none of them is derived. -/
theorem records_get (h : world.Records clients writer ledger) (hplace : place < clients) :
    (get format).run.Ensures .inert place
      (fun _ later => later.Records clients writer ledger) world := by
  have habides : Setting.inert.Abides place (Records clients writer ledger) :=
    abides_records hplace
  cases hsource : (world.client place).sources.source? format with
  | none => exact ensures_get_of_none rfl hsource (keeps_fetch habides.tolerates format world h)
  | some source =>
      have hwriter : place = writer := by
        refine Decidable.byContradiction fun hreader => ?_
        rw [(h.readers place hreader).1] at hsource
        cases hsource
      subst hwriter
      refine ensures_get_of_some rfl hsource ?_
      refine (records_renderFrom h hplace format source).mono fun _ later hlater => ?_
      refine hlater.mono fun other payload hentry => ?_
      have hother : other ≠ format := by
        rintro rfl
        rw [(h.holds other payload hentry).underived] at hsource
        cases hsource
      rw [Ledger.enter, if_neg hother, hentry]

end Acting

namespace Task

/-- A guarded session leaves the records that its tasks make. -/
theorem records_session {ledger : Ledger} {world : World}
    (h : world.Records clients writer ledger) (hplace : place < clients)
    (window : Option WindowId) (close : Bool) {tasks : List Task}
    (htasks : ∀ {opened : World}, opened.Records clients writer ledger →
      (runAll tasks).Ensures .inert place
        (fun outcomes later => later.Records clients writer (enterAll ledger tasks outcomes))
        opened) :
    (Task.session window tasks close).run.Ensures .inert place (fun outcome later =>
      later.Records clients writer ((Task.session window tasks close).enter ledger outcome))
      world := by
  rw [Task.run, ensures_bind]
  refine (Acting.records_openSession h hplace window).mono fun result opened hopened => ?_
  cases result with
  | error => exact hopened
  | ok =>
      simp only [ensures_bind, ensures_client]
      refine (htasks hopened).mono fun outcomes after hafter => ?_
      cases close with
      | true =>
          rw [if_pos rfl, ensures_bind]
          exact (Acting.records_closeSession hafter hplace).mono fun _ _ hlater => hlater
      | false =>
          rw [if_neg Bool.false_ne_true, ensures_bind]
          exact (Acting.records_leaveSession hafter hplace).mono fun _ _ hlater => hlater

mutual

/-- Whatever comes of a task, the records are those of the ledger that its outcome makes. -/
theorem records_run {ledger : Ledger} {world : World}
    (h : world.Records clients writer ledger) (hplace : place < clients) (task : Task)
    (hwithin : task.Within (place = writer)) :
    task.run.Ensures .inert place
      (fun outcome later => later.Records clients writer (task.enter ledger outcome)) world := by
  -- The tasks that write are the writer's own; the others enter nothing.
  cases task with
  | openSession window =>
      rw [Task.run, ensures_outcome]
      exact Acting.records_openSession h hplace window
  | closeSession =>
      rw [Task.run, ensures_outcome]
      exact Acting.records_closeSession h hplace
  | session window tasks close =>
      exact records_session h hplace window close fun hopened =>
        records_runAll hopened hplace tasks hwithin
  | claim owner =>
      obtain rfl : place = writer := hwithin
      rw [Task.run, ensures_outcome]
      refine (Acting.records_claimOwnership h hplace owner).mono fun result later hlater => ?_
      cases result <;> exact hlater
  | put format data =>
      obtain rfl : place = writer := hwithin
      rw [Task.run, ensures_outcome]
      refine (Acting.records_put h hplace data).mono fun result later hlater => ?_
      cases result <;> exact hlater
  | putDelayed format =>
      obtain rfl : place = writer := hwithin
      rw [Task.run, ensures_outcome]
      have hnone : ∀ data, (none : Option Bytes) = some data →
          data ≠ [] ∧ format.shape = .memory ∧ [] = data := fun data hdata => by cases hdata
      refine (Acting.records_putBytes h hplace hnone).mono fun result later hlater => ?_
      cases result <;> exact hlater
  | get format =>
      rw [Task.run, ensures_dataOutcome]
      exact Acting.records_get h hplace
  | render target source =>
      obtain rfl : place = writer := hwithin
      rw [Task.run, ensures_dataOutcome]
      exact Acting.records_renderFrom h hplace target source
  | ask => exact False.elim hwithin
  | _ =>
      have habides : Setting.inert.Abides place (Records clients writer ledger) :=
        abides_records hplace
      refine habides.keeps_aside ?_ world h
      trivial

/-- Tasks done one after another enter what each of them enters. -/
theorem records_runAll {ledger : Ledger} {world : World}
    (h : world.Records clients writer ledger) (hplace : place < clients) (tasks : List Task)
    (hwithin : Task.AllWithin (place = writer) tasks) :
    (runAll tasks).Ensures .inert place
      (fun outcomes later => later.Records clients writer (enterAll ledger tasks outcomes))
      world := by
  cases tasks with
  | nil => exact h
  | cons task rest =>
      rw [runAll, ensures_bind]
      refine (records_run h hplace task hwithin.1).mono fun outcome later hlater => ?_
      rw [ensures_bind]
      exact (records_runAll hlater hplace rest hwithin.2).mono fun outcomes after hafter => hafter

end

end Task

namespace World

/-- A task that a client does not do makes at most less known. -/
theorem Records.idle (h : world.Records clients writer ledger) (task : Task) {outcome : Outcome}
    (houtcome : outcome = .gone ∨ outcome = .busy) :
    world.Records clients writer (task.enter ledger outcome) := by
  cases task with
  | render target => exact h.unknown target
  | _ => rcases houtcome with rfl | rfl <;> exact h

/-- One step of the writer or of a reader enters what its task enters, also if the client was busy
or gone. -/
theorem Records.perform (h : world.Records clients writer ledger) (depth : Nat) {step : Step}
    (hstep : step.Within writer) :
    (world.perform ⟨consult, send consult depth⟩ step).2.Records clients writer
      (step.enter ledger (world.perform ⟨consult, send consult depth⟩ step).1) := by
  cases step with
  | board | tamper | fault | setWindow | pump | disconnect => exact False.elim hstep
  | task place task =>
      by_cases hidle : world.Idle place
      · have hplace := h.attuned.complete.lt_of_present hidle.present
        refine act_of_ensures (Setting.fits_inert depth) hidle task
          (fun outcome later => later.Records clients writer (task.enter ledger outcome)) ?_
        exact (Task.records_run (h.setBusy place true) hplace task hstep).mono
          fun outcome later hlater => hlater.setBusy place false
      · simp only [World.perform, act]
        cases hmember : world.member? place with
        | none => exact h.idle task (.inl rfl)
        | some member =>
            have hbusy : member.busy = true := by
              refine Decidable.byContradiction fun hfree => ?_
              exact hidle ⟨member, hmember, by simpa using hfree⟩
            simp only [hbusy, if_true]
            exact h.idle task (.inr rfl)

/-- So after any steps the ledger is the one that can be read off their outcomes. -/
theorem Records.performAll (h : world.Records clients writer ledger) (depth : Nat)
    {steps : List Step} (hsteps : ∀ step ∈ steps, step.Within writer) :
    (world.performAll ⟨consult, send consult depth⟩ steps).2.Records clients writer
      (Step.enterAll ledger steps (world.performAll ⟨consult, send consult depth⟩ steps).1) := by
  induction steps generalizing world ledger with
  | nil => exact h
  | cons step rest ih =>
      exact ih (h.perform depth (hsteps step List.mem_cons_self))
        fun other hmem => hsteps other (List.mem_cons_of_mem _ hmem)

/-- In a run of one writer and any readers among inert windows, whoever has the clipboard open gets
the byte string that the writer put last since its last claim, whatever was planned or derived
since. -/
theorem gets_of_ledger {start : World} (hrest : start.AtRest clients) (hstart : start.Undisturbed)
    (hreaders : ∀ place, place ≠ writer → (start.client place).sources = .empty)
    {steps : List Step} (hsteps : ∀ step ∈ steps, step.Within writer)
    (hlast : start.ledger steps format = some payload) (hidle : (start.after steps).Idle place)
    (hopen : (start.after steps).board.isOpenBy (clientId place) = true) :
    (start.after steps).Gets place format payload := by
  have h : (start.after steps).Records clients writer (start.ledger steps) :=
    (hrest.records hstart hreaders).performAll start.nesting hsteps
  have hheld := h.holds format payload hlast
  refine Acting.gets_of_source?_none h.undisturbed hidle hopen hheld.shape hheld.find hheld.ne_nil
    ?_
  by_cases hplace : place = writer
  · rw [hplace, hheld.underived]
  · rw [(h.readers place hplace).1]
    rfl

/-- The first client takes over, puts wide text and closes. Later it gets narrow text, which is
derived and stored. The second client opens the clipboard in the end. -/
def publishing : List Step :=
  [.task 0 (.session (some firstWindow) [.claim (some firstWindow),
      .put Format.unicodeText (.bytes [0x68, 0, 0x69, 0, 0, 0])] true),
    .task 1 (.session none [.get Format.oemText] false),
    .task 0 (.session none [.get Format.text] true),
    .task 1 (.openSession (some secondWindow))]

/-- The second client gets the wide text then. -/
theorem published_text_got_by_reader :
    let start := gathering .empty 2 []
    start.AtRest 2 ∧ start.Undisturbed ∧ (∀ step ∈ publishing, step.Within 0) ∧
      start.ledger publishing Format.unicodeText = some [0x68, 0, 0x69, 0, 0, 0] ∧
      (start.after publishing).board.entries.find? Format.text = some [0x68, 0x69, 0] ∧
      (start.after publishing).Gets 1 Format.unicodeText [0x68, 0, 0x69, 0, 0, 0] := by
  have hclient (place : Nat) :
      (gathering .empty 2 []).client place = .fresh .standard .empty false :=
    client_gathering _ _ _ place
  have hrest : (gathering .empty 2 []).AtRest 2 := by
    refine ⟨⟨rfl, fun place hplace => present_gathering .empty _ hplace⟩, allows_gathering _ _ _,
      fun place => ?_, rfl⟩
    rw [hclient]
    rfl
  have hstart : (gathering .empty 2 []).Undisturbed := by
    refine ⟨allows_gathering _ _ _, rfl, fun place => ?_⟩
    rw [hclient]
    decide
  have hsteps : ∀ step ∈ publishing, step.Within 0 := by
    simp [publishing, Step.Within, Task.Within, Task.AllWithin]
  have hlast : (gathering .empty 2 []).ledger publishing Format.unicodeText =
      some [0x68, 0, 0x69, 0, 0, 0] := by decide +kernel
  have hidle : ((gathering .empty 2 []).after publishing).Idle 1 := by
    have hfree : (((gathering .empty 2 []).after publishing).member? 1).any
        (fun member => !member.busy) = true := by decide +kernel
    obtain ⟨member, hmember, hbusy⟩ := (Option.any_eq_true _ _).1 hfree
    exact ⟨member, hmember, by simpa using hbusy⟩
  have hgets := gets_of_ledger hrest hstart (fun place _ => by rw [hclient]; rfl) hsteps hlast
    hidle (by decide +kernel)
  exact ⟨hrest, hstart, hsteps, hlast, by decide +kernel, hgets⟩

end World

end Pasteboard
