import Pasteboard.Proofs.Client.Idle
import Pasteboard.Proofs.Client.Rendering

/-!
# Placeholders of a client that is alone

A single client works on a board without entries among inert windows, claims it for a window before
it puts anything, and puts values in open sessions. Whenever no session is open, every placeholder
is derivable from an entry with a payload if and only if the latest closing that carried a plan out
found no placeholder: see `SoloRun.backed_iff`. A closing that finds some takes them for data and
forgets where they come from.
-/

namespace Pasteboard

open Call World

/-- What holds of the board and the client. The board `latest` is the one that the latest plan was
made for. -/
structure Consistent (place : Nat) (board : Board) (client : Client) (latest : Option Board) :
    Prop where
  growth : board.growth = []
  closed : client.session = none → board.session = none
  opened : client.session.isSome = true → board.isOpenBy (clientId place) = true
  unowned : board.owner = none → (∀ format, board.entries.find? format = none) ∧
    client.sources = .empty ∧ client.session.any (·.changed) = false ∧ latest = none
  backed : client.session.any (·.changed) = false →
    (board.Backed client.sources ↔ ∀ before, latest = some before → before.Full)

namespace Consistent

variable {place : Nat} {board : Board} {client : Client} {latest : Option Board}
  (h : Consistent place board client latest)

include h

/-- Graphics objects do not matter. -/
theorem graphics (graphics : Graphics) :
    Consistent place board { client with graphics := graphics } latest :=
  ⟨h.growth, h.closed, h.opened, h.unowned, h.backed⟩

/-- The store and the client agree on whether its session is open. -/
theorem isOpenBy_eq : board.isOpenBy (clientId place) = client.session.isSome := by
  cases hsession : client.session with
  | none => exact Board.isOpenBy_eq_false_of_none (h.closed hsession)
  | some session => exact h.opened (by rw [hsession]; rfl)

/-- Opening keeps the two consistent, with no change marked yet. -/
theorem openSession (hsession : board.session = none) (window : Option WindowId) :
    Consistent place (board.opened (clientId place) window) (client.opened board.owner window)
      latest := by
  have hclosed : client.session = none := by
    have hopen := h.isOpenBy_eq
    rw [Board.isOpenBy_eq_false_of_none hsession] at hopen
    exact Option.isSome_eq_false_iff.1 hopen.symm |> Option.isNone_iff_eq_none.1
  have hquiet : client.session.any (·.changed) = false := by rw [hclosed]; rfl
  refine ⟨h.growth, ?_, fun _ => Board.isOpenBy_iff.2 ⟨window, rfl⟩, ?_, fun _ => ?_⟩
  · intro hnone
    cases hnone
  · intro hnone
    obtain ⟨hentries, _, _, hlatest⟩ := h.unowned hnone
    refine ⟨hentries, ?_, rfl, hlatest⟩
    have hnone' : board.owner = none := hnone
    simp [Client.opened, hnone']
  · cases howner : board.owner with
    | none =>
        obtain ⟨_, hsources, _, _⟩ := h.unowned howner
        have hbacked := h.backed hquiet
        rw [hsources] at hbacked
        exact hbacked
    | some owner => exact h.backed hquiet

/-- A claim empties the board and marks a change. -/
theorem claim {session : Session} (hsession : client.session = some session) (owner : WindowId) :
    Consistent place (board.claimed (clientId place) (some owner)) client.claimed latest := by
  have hchanged : client.claimed.session = some { session with changed := true } := by
    simp [Client.claimed, Client.markChanged, hsession]
  refine ⟨h.growth, ?_, fun _ => h.opened (by rw [hsession]; rfl), ?_, ?_⟩
  · rw [hchanged]
    intro hnone
    cases hnone
  · intro hnone
    cases hnone
  · rw [hchanged]
    intro hquiet
    cases hquiet

/-- What is put is on the board, is not derived any more, and marks a change. -/
theorem stored {session : Session} (hsession : client.session = some session)
    (howner : board.owner.isSome = true) (format : Format) (payload : Bytes) :
    Consistent place (board.stored format payload) (client.stored format) latest := by
  have hchanged : (client.stored format).session = some { session with changed := true } := by
    simp [Client.stored, Client.markChanged, hsession]
  refine ⟨h.growth, ?_, fun _ => h.opened (by rw [hsession]; rfl), fun hnone => ?_, ?_⟩
  · rw [hchanged]
    intro hnone
    cases hnone
  · have hnone' : board.owner = none := hnone
    rw [hnone'] at howner
    cases howner
  · rw [hchanged]
    intro hquiet
    cases hquiet

/-- After a session without changes nothing is planned. -/
theorem close (hquiet : client.session.any (·.changed) = false) :
    Consistent place board.closed client.closed latest := by
  refine ⟨h.growth, fun _ => rfl, ?_, ?_, fun _ => h.backed hquiet⟩
  · intro hsome
    cases hsome
  · intro hnone
    obtain ⟨hentries, hsources, _, hlatest⟩ := h.unowned hnone
    exact ⟨hentries, hsources, rfl, hlatest⟩

/-- After a session with changes the board is the one from before with the plan carried out. -/
theorem plan {window : Option WindowId} (hsession : client.session = some ⟨window, true⟩) :
    Consistent place (board.planned client.settings.defaultLocale).closed
      (Client.closed { client with sources := Sources.empty.recordAll board.plan.derivations })
      (some board) := by
  have hagrees := board.agrees_planned client.settings.defaultLocale
  refine ⟨hagrees.growth.trans h.growth, fun _ => rfl, ?_, fun hnone => ?_, fun _ => ?_⟩
  · intro hsome
    cases hsome
  · obtain ⟨_, _, hquiet, _⟩ := h.unowned (hagrees.owner.symm.trans hnone)
    rw [hsession] at hquiet
    cases hquiet
  · refine (board.backed_planned_iff client.settings.defaultLocale).trans ⟨?_, fun hfull => ?_⟩
    · rintro hfull before hbefore
      cases hbefore
      exact hfull
    · exact hfull board rfl

end Consistent

/-- The client at the place is alone with inert windows and consistent with the board. -/
structure World.Alone (world : World) (place : Nat) (latest : Option Board) : Prop where
  inert : world.Inert
  idle : world.Idle place
  consistent : Consistent place world.board (world.client place) latest

/-- From a world, the client at the place came to one in which it is consistent with the board. -/
def World.Leads (world : World) (place : Nat) (latest : Option Board) (later : World) : Prop :=
  ∃ board client told asked, world.Evolves place board client told asked later ∧
    Consistent place board client latest

namespace World

variable {place : Nat} {world now after : World} {board : Board} {client : Client}
  {told : List Event} {asked : List Request} {latest next : Option Board}

/-- A task that leads to consistency keeps the client alone. -/
theorem Alone.act (h : world.Alone place latest) (depth : Nat) {task : Task}
    (htask : task.run.Ensures .inert place
      (fun _ later => (world.setBusy place true).Leads place next later)
      (world.setBusy place true)) :
    (world.act ⟨World.consult, World.send World.consult depth⟩ place task).2.Alone place next := by
  have hrests : world.Rests place world.board (world.client place) := ⟨h.inert, h.idle, rfl, rfl⟩
  obtain ⟨board, client, hlater, hconsistent⟩ := hrests.act depth htask
  refine ⟨hlater.inert, hlater.idle, ?_⟩
  rwa [hlater.board_eq, hlater.client_eq]

end World

namespace Task

variable {place : Nat} {world now : World} {board : Board} {client : Client} {told : List Event}
  {asked : List Request} {latest : Option Board}

section

variable (h : world.Evolves place board client told asked now)
  (hconsistent : Consistent place board client latest)

include h hconsistent

/-- Opening leads on to a consistent board, and the latest plan stands. -/
theorem leads_openSession (window : Option WindowId) :
    (Task.openSession window).run.Ensures .inert place
      (fun _ later => world.Leads place latest later) now := by
  rw [Task.run, ensures_outcome]
  cases hsession : board.session with
  | none =>
      exact Acting.ensures_openSession rfl h window hsession fun later hlater =>
        ⟨_, _, _, _, hlater, hconsistent.openSession hsession window⟩
  | some holder =>
      refine Acting.ensures_openSession_busy rfl h window (by rw [hsession]; rfl)
        fun later hlater => ?_
      exact ⟨_, _, _, _, hlater, hconsistent⟩

theorem leads_takeOver (viewer : Option WindowId) (owner : WindowId) :
    (Acting.takeOver viewer (some owner)).run.Ensures .inert place
      (fun _ later => world.Leads place latest later) now := by
  have hopen := hconsistent.isOpenBy_eq
  cases hsession : client.session with
  | none =>
      rw [hsession] at hopen
      exact Acting.ensures_takeOver_refused rfl h viewer (some owner) hopen fun later hlater =>
        ⟨_, _, _, _, hlater, hconsistent⟩
  | some session =>
      rw [hsession] at hopen
      exact Acting.ensures_takeOver rfl h viewer (some owner) hopen fun later hlater =>
        ⟨_, _, _, _, hlater, hconsistent.claim hsession owner⟩

/-- A claim leads on to a consistent board; its message changes nothing among inert windows. -/
theorem leads_claim (hinert : world.Inert) (owner : WindowId) :
    (Task.claim (some owner)).run.Ensures .inert place
      (fun _ later => world.Leads place latest later) now := by
  rw [Task.run, ensures_outcome]
  exact Acting.ensures_claimOwnership_of_inert h hinert (some owner) fun told asked later hlater =>
    leads_takeOver hlater hconsistent _ owner

/-- Putting a value leads on to a consistent board, whether it can be encoded or not. -/
theorem leads_put {session : Session} (hsession : client.session = some session)
    (howner : board.owner.isSome = true) (format : Format) (data : Data) :
    (Task.put format data).run.Ensures .inert place
      (fun _ later => world.Leads place latest later) now := by
  have hopen := hconsistent.isOpenBy_eq
  rw [hsession] at hopen
  rw [Task.run, ensures_outcome]
  refine Acting.ensures_put h data (fun error => ⟨_, _, _, _, h, hconsistent⟩)
    fun payload _ => ?_
  by_cases hformat : format = Format.null
  · exact Acting.ensures_putBytes_refused rfl h payload (fun haccepted => haccepted.2 hformat)
      fun error later hlater => ⟨_, _, _, _, hlater, hconsistent⟩
  · exact Acting.ensures_putBytes rfl h payload (.inl hopen) hformat fun names later _ hlater =>
      ⟨_, _, _, _, hlater, hconsistent.stored hsession howner format payload⟩

/-- Closing without changes leads on to a consistent board with the latest plan. -/
theorem leads_close (hquiet : client.session.any (·.changed) = false) :
    Task.closeSession.run.Ensures .inert place
      (fun _ later => world.Leads place latest later) now := by
  rw [Task.run, ensures_outcome]
  refine Acting.ensures_closeSession_unchanged h hquiet ?_
  cases hopen : board.isOpenBy (clientId place) with
  | true =>
      exact Acting.ensures_finishSession rfl h _ hopen fun later hlater =>
        ⟨_, _, _, _, hlater, hconsistent.close hquiet⟩
  | false =>
      have hclosed : client.closed = client := by
        rw [hconsistent.isOpenBy_eq, Option.isSome_eq_false_iff, Option.isNone_iff_eq_none] at hopen
        rw [Client.closed, ← hopen]
      refine Acting.ensures_finishSession_refused rfl h _ hopen fun later hlater =>
        ⟨_, _, _, _, hlater, ?_⟩
      rwa [hclosed]

/-- Closing with changes carries out a plan for the board as it is, which is the latest one then. -/
theorem leads_plan (hchanged : client.session.any (·.changed) = true) :
    Task.closeSession.run.Ensures .inert place
      (fun _ later => world.Leads place (some board) later) now := by
  obtain ⟨window, hsession⟩ := client.session_of_changed hchanged
  have hopen := hconsistent.isOpenBy_eq
  rw [hsession] at hopen
  rw [Task.run, ensures_outcome]
  refine Acting.ensures_closeSession_changed rfl h hopen hsession
    fun more later planned hplanned hlater => ⟨_, _, _, _, hlater, ?_⟩
  subst hplanned
  exact hconsistent.plan hsession

/-- A get leads on as well: what it renders is put. -/
theorem leads_get (hinert : world.Inert) (format : Format) :
    (Task.get format).run.Ensures .inert place
      (fun _ later => world.Leads place latest later) now := by
  rw [Task.run, ensures_dataOutcome]
  have hglance : ∀ later, world.Glances place board client later →
      world.Leads place latest later := by
    rintro later ⟨_, graphics, told, asked, hlater⟩
    exact ⟨_, _, _, _, hlater, hconsistent.graphics graphics⟩
  cases hsource : client.sources.source? format with
  | none =>
      refine Acting.ensures_get_of_none h.client_eq hsource ?_
      refine (Acting.keeps_fetch (tolerates_glances hconsistent.growth) format now
        (h.glances hinert)).mono fun result later hlater => hglance later hlater
  | some source =>
      refine Acting.ensures_get_of_some h.client_eq hsource ?_
      cases hsession : client.session with
      | none =>
          have hopen := hconsistent.isOpenBy_eq
          rw [hsession] at hopen
          exact Acting.ensures_renderFrom_of_not_open rfl h hopen fun asked' error later hlater =>
            ⟨_, _, _, _, hlater, hconsistent⟩
      | some session =>
          -- Nothing is derivable before the first claim.
          have howner : board.owner.isSome = true := by
            cases howner : board.owner with
            | none =>
                rw [(hconsistent.unowned howner).2.1] at hsource
                cases hsource
            | some owner => rfl
          refine Acting.ensures_renderFrom (h.glances hinert) hconsistent.growth
            (fun error later hlater => hglance later hlater)
            fun data payload graphics told asked later _ hlater => ⟨_, _, _, _, hlater, ?_⟩
          exact (hconsistent.graphics graphics).stored hsession howner format payload

end

end Task

/-- The runs of the client at a place that is alone: sessions, claims for a window, puts of values
once the board has an owner, and gets, in any order. The board before the latest closing of a
changed session is remembered. -/
inductive SoloRun (start : World) (place : Nat) : Option Board → World → Prop where
  | start : SoloRun start place none start
  | openSession {latest : Option Board} {world : World} (window : Option WindowId) :
      SoloRun start place latest world →
      SoloRun start place latest (world.does place [.openSession window])
  | claim {latest : Option Board} {world : World} (owner : WindowId) :
      SoloRun start place latest world →
      SoloRun start place latest (world.does place [.claim (some owner)])
  | put {latest : Option Board} {world : World} (format : Format) (data : Data) :
      SoloRun start place latest world →
      world.board.isOpenBy (clientId place) = true → world.board.owner.isSome = true →
      SoloRun start place latest (world.does place [.put format data])
  | get {latest : Option Board} {world : World} (format : Format) :
      SoloRun start place latest world →
      SoloRun start place latest (world.does place [.get format])
  | close {latest : Option Board} {world : World} :
      SoloRun start place latest world →
      (world.client place).session.any (·.changed) = false →
      SoloRun start place latest (world.does place [.closeSession])
  | plan {latest : Option Board} {world : World} :
      SoloRun start place latest world →
      (world.client place).session.any (·.changed) = true →
      SoloRun start place (some world.board) (world.does place [.closeSession])

/-- A client that has done nothing yet, among inert windows, over a board without entries that
nobody has open or owns. -/
structure World.Blank (world : World) (place : Nat) : Prop where
  inert : world.Inert
  idle : world.Idle place
  entries : world.board.entries = .empty
  free : world.board.session = none
  unowned : world.board.owner = none
  growth : world.board.growth = []
  session : (world.client place).session = none
  sources : (world.client place).sources = .empty

namespace SoloRun

variable {start world : World} {place : Nat} {latest : Option Board}

/-- In every run the client stays consistent with the board. -/
theorem alone (hstart : start.Blank place) (h : SoloRun start place latest world) :
    world.Alone place latest := by
  induction h with
  | start =>
      have hquiet : (start.client place).session.any (·.changed) = false := by
        rw [hstart.session]
        rfl
      have hfind (format : Format) : start.board.entries.find? format = none := by
        rw [hstart.entries, Entries.find?_empty]
      -- At the start both sides are empty, and there is no plan to be backed.
      refine ⟨hstart.inert, hstart.idle, hstart.growth, fun _ => hstart.free, ?_, ?_, ?_⟩
      · rw [hstart.session]
        intro hsome
        cases hsome
      · intro _
        exact ⟨hfind, hstart.sources, hquiet, rfl⟩
      · intro _
        constructor
        · intro _ before hbefore
          cases hbefore
        · intro _ format hplaceholder
          rw [hfind] at hplaceholder
          cases hplaceholder
  | openSession window _ ih =>
      exact ih.act _ (Task.leads_openSession ih.idle.start ih.consistent window)
  | claim owner _ ih =>
      exact ih.act _ (Task.leads_claim ih.idle.start ih.consistent ih.inert owner)
  | put format data _ hopen howner ih =>
      rw [ih.consistent.isOpenBy_eq] at hopen
      obtain ⟨session, hsession⟩ := Option.isSome_iff_exists.1 hopen
      exact ih.act _ (Task.leads_put ih.idle.start ih.consistent hsession howner format data)
  | get format _ ih =>
      exact ih.act _ (Task.leads_get ih.idle.start ih.consistent ih.inert format)
  | close _ hquiet ih => exact ih.act _ (Task.leads_close ih.idle.start ih.consistent hquiet)
  | plan _ hchanged ih => exact ih.act _ (Task.leads_plan ih.idle.start ih.consistent hchanged)

/-- Whenever no session is open, every placeholder is derivable from an entry with a payload if and
only if the latest plan was made for a board without placeholders. -/
theorem backed_iff (hstart : start.Blank place) (h : SoloRun start place latest world)
    (hrest : world.board.session = none) :
    world.board.Backed (world.client place).sources ↔
      ∀ before, latest = some before → before.Full := by
  obtain ⟨_, _, hconsistent⟩ := h.alone hstart
  refine hconsistent.backed ?_
  have hopen := hconsistent.isOpenBy_eq
  rw [Board.isOpenBy_eq_false_of_none hrest] at hopen
  rw [Option.isNone_iff_eq_none.1 (Option.isSome_eq_false_iff.1 hopen.symm)]
  rfl

/-- A client claims the board and puts wide text. -/
def filling : List Task :=
  [.openSession (some firstWindow), .claim (some firstWindow),
    .put Format.unicodeText (.bytes [0x68, 0, 0x69, 0, 0, 0])]

/-- The other texts are offered when the session is closed. They are still derivable after a session
that changes nothing. -/
theorem backed_after_quiet_session :
    let start := World.gathering .empty 1 []
    let filled := start.does 0 filling
    let world := filled.does 0 [.closeSession, .openSession none, .closeSession]
    SoloRun start 0 (some filled.board) world ∧ world.board.session = none ∧
      world.board.entries.find? Format.text = some [] ∧
      world.board.Backed (world.client 0).sources := by
  have hstart : (World.gathering .empty 1 []).Blank 0 :=
    ⟨allows_gathering _ _ _, ⟨_, rfl, rfl⟩, rfl, rfl, rfl, rfl, rfl, rfl⟩
  have hrun : SoloRun (World.gathering .empty 1 []) 0
      (some ((World.gathering .empty 1 []).does 0 filling).board)
      (((World.gathering .empty 1 []).does 0 filling).does 0
        [.closeSession, .openSession none, .closeSession]) :=
    .close (.openSession none (.plan (.put _ _ (.claim _ (.openSession _ .start)) rfl rfl) rfl)) rfl
  have hfull : ((World.gathering .empty 1 []).does 0 filling).board.Full := by
    intro format hplaceholder
    have hlist : ((World.gathering .empty 1 []).does 0 filling).board.entries.list =
        [(Format.unicodeText, [0x68, 0, 0x69, 0, 0, 0])] := rfl
    rw [Entries.find?, hlist, lookup_cons_eq_ite] at hplaceholder
    split at hplaceholder
    · cases hplaceholder
    · cases hplaceholder
  have hbacked := (hrun.backed_iff hstart rfl).2 fun before hbefore => by
    cases hbefore
    exact hfull
  exact ⟨hrun, rfl, rfl, hbacked⟩

/-- If a later session puts something else, the other texts are still there as placeholders, but
nothing is derivable any more. -/
theorem placeholders_orphaned_by_later_put :
    let start := World.gathering .empty 1 []
    let world := (start.does 0 filling).does 0
      [.closeSession, .openSession none, .put ⟨4⟩ (.bytes [1]), .closeSession]
    (∃ latest, SoloRun start 0 latest world) ∧ world.board.session = none ∧
      world.board.entries.find? Format.text = some [] ∧ (world.client 0).sources = .empty ∧
      ¬ world.board.Backed (world.client 0).sources := by
  have hrun : SoloRun (World.gathering .empty 1 []) 0
      (some (((World.gathering .empty 1 []).does 0 filling).does 0
        [.closeSession, .openSession none, .put ⟨4⟩ (.bytes [1])]).board)
      (((World.gathering .empty 1 []).does 0 filling).does 0
        [.closeSession, .openSession none, .put ⟨4⟩ (.bytes [1]), .closeSession]) :=
    .plan (.put _ _ (.openSession _
      (.plan (.put _ _ (.claim _ (.openSession _ .start)) rfl rfl) rfl)) rfl rfl) rfl
  refine ⟨⟨_, hrun⟩, rfl, rfl, rfl, fun hbacked => ?_⟩
  obtain ⟨source, payload, hsource, _, _⟩ := hbacked Format.text rfl
  cases hsource

end SoloRun

end Pasteboard
