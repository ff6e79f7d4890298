import Pasteboard.Proofs.World.Coherence

/-!
# One session at a time

A client remembers whether it has the clipboard open, and the store remembers whose session is open.
However the clients go about it, the two are the same: `World.Attuned` is the agreement and
`World.lasting_attuned` says that nothing ends it. So there is one session at most, opening succeeds
exactly if there is none, and closing, also by leaving a session, ends nobody else's: see
`World.sessions_agree`.
-/

namespace Pasteboard

open Call World

variable {setting : Setting} {place other clients : Nat} {world now : World} {board : Board}
  {client : Client} {told : List Event} {asked : List Request}

/-- All clients are there and the windows take regular steps. A client has a session exactly if the
store's session is that of the client, and the store has no session but that of a client. -/
structure World.Attuned (clients : Nat) (world : World) : Prop where
  complete : world.Complete clients
  allows : world.Allows Step.Regular
  agrees : ∀ place, (world.client place).isOpen = world.board.isOpenBy (clientId place)
  known : world.board.session.isSome = true →
    ∃ place, world.board.isOpenBy (clientId place) = true

/-- A board is open to one client only. -/
theorem Board.isOpenBy_of_ne (hplace : board.isOpenBy (clientId place) = true)
    (hne : other ≠ place) : board.isOpenBy (clientId other) = false := by
  cases hother : board.isOpenBy (clientId other) with
  | false => rfl
  | true => exact False.elim (hne (Board.eq_of_isOpenBy hother hplace))

namespace World

namespace Attuned

variable (h : world.Attuned clients)

include h

/-- Clients stay attuned if the one that acts agrees with the board on its session and nobody else's
is touched. -/
theorem evolves (hnow : world.Evolves place board client told asked now)
    (hself : client.isOpen = board.isOpenBy (clientId place))
    (hothers : ∀ other, other ≠ place →
      board.isOpenBy (clientId other) = world.board.isOpenBy (clientId other))
    (hknown : board.session.isSome = true → ∃ place, board.isOpenBy (clientId place) = true) :
    now.Attuned clients where
  complete := h.complete.evolves hnow
  allows := hnow.allows h.allows
  agrees other := by
    rw [hnow.board_eq]
    by_cases hne : other = place
    · rw [hne, hnow.client_eq, hself]
    · rw [hnow.client_of_ne hne, hothers other hne, h.agrees other]
  known := by rwa [hnow.board_eq]

/-- What leaves the store's session and the client's alone. -/
theorem quiet (hnow : world.Evolves place board client told asked now)
    (hsession : board.session = world.board.session)
    (hclient : client.isOpen = (world.client place).isOpen) : now.Attuned clients := by
  have hsame (other : Nat) :
      board.isOpenBy (clientId other) = world.board.isOpenBy (clientId other) := by
    simp only [Board.isOpenBy, hsession]
  refine h.evolves hnow ?_ (fun other _ => hsame other) fun hsome => ?_
  · rw [hclient, h.agrees, hsame]
  · rw [hsession] at hsome
    obtain ⟨holder, hholder⟩ := h.known hsome
    exact ⟨holder, by rw [hsame, hholder]⟩

/-- A session that is opened is known to both sides. -/
theorem openSession (hsession : world.board.session = none) {window : Option WindowId}
    (hnow : world.Evolves place (world.board.opened (clientId place) window)
      ((world.client place).opened world.board.owner window) told asked now) :
    now.Attuned clients := by
  have hopen : (world.board.opened (clientId place) window).isOpenBy (clientId place) = true :=
    Board.isOpenBy_iff.2 ⟨window, rfl⟩
  refine h.evolves hnow hopen.symm (fun other hne => ?_) fun _ => ⟨place, hopen⟩
  rw [Board.isOpenBy_of_ne hopen hne, Board.isOpenBy_eq_false_of_none hsession]

/-- A session that is closed is known to be over on both sides. -/
theorem closeSession (hopen : world.board.isOpenBy (clientId place) = true)
    (hnow : world.Evolves place board client.closed told asked now)
    (hsession : board.session = none) : now.Attuned clients := by
  have hfree (other : Nat) : board.isOpenBy (clientId other) = false :=
    Board.isOpenBy_eq_false_of_none hsession
  refine h.evolves hnow (hfree place).symm (fun other hne => ?_) fun hsome => ?_
  · rw [Board.isOpenBy_of_ne hopen hne, hfree]
  · rw [hsession] at hsome
    cases hsome

/-- A client that is refused when it closes had no session anyway. -/
theorem closeSession_refused (hopen : world.board.isOpenBy (clientId place) = false)
    (hnow : world.Evolves place world.board (world.client place).closed told asked now) :
    now.Attuned clients := by
  refine h.quiet hnow rfl ?_
  rw [h.agrees, hopen]
  rfl

/-- What happens besides requests opens and closes no session. -/
theorem stirs {later : World} (hstirs : world.Stirs later) (hallows : later.Allows Step.Regular) :
    later.Attuned clients where
  complete := h.complete.of_members_eq hstirs.members
  allows := hallows
  agrees place := by
    rw [client_congr hstirs.members, hstirs.board]
    exact h.agrees place
  known := by
    rw [hstirs.board]
    exact h.known

/-- It does not matter who is busy. -/
theorem setBusy (place : Nat) (busy : Bool) : (world.setBusy place busy).Attuned clients where
  complete := h.complete.updateMember place _
  allows := h.allows
  agrees other := by
    rw [client_setBusy]
    exact h.agrees other
  known := h.known

/-- The store has no session exactly if no client has one. -/
theorem session_eq_none_iff :
    world.board.session = none ↔ ∀ place, (world.client place).isOpen = false := by
  constructor
  · intro hnone place
    rw [h.agrees, Board.isOpenBy_eq_false_of_none hnone]
  · intro hclosed
    cases hsession : world.board.session with
    | none => rfl
    | some session =>
        obtain ⟨holder, hholder⟩ := h.known (by rw [hsession, Option.isSome_some])
        rw [← h.agrees, hclosed holder] at hholder
        cases hholder

/-- A client that remembers a change has its session open. -/
theorem isOpenBy_of_changed (hchanged : (world.client place).session.any (·.changed) = true) :
    world.board.isOpenBy (clientId place) = true := by
  rw [← h.agrees, Client.isOpen]
  exact Option.isSome_of_any hchanged

end Attuned

/-- Clients at rest have no session, and the board has none. -/
theorem AtRest.attuned (h : world.AtRest clients) : world.Attuned clients where
  complete := h.complete
  allows := h.allows
  agrees place := by
    rw [Board.isOpenBy_eq_false_of_none h.free, Client.isOpen, h.sessions place]
    rfl
  known hsome := by
    rw [h.free] at hsome
    cases hsome

/-- Clients stay attuned in all that leaves the sessions alone. -/
theorem bears_attuned (hplace : place < clients) :
    (Setting.keeping consult (Attuned clients)).Bears place (Attuned clients) where
  stirs world later h hstirs hallows := h.stirs hstirs (hallows h.allows)
  steady world request hsteady h :=
    h.quiet ((Evolves.start (h.complete.present place hplace)).consult request)
      (Board.handle_of_isSteady hsteady).1 rfl
  modify world client _ hsession h :=
    h.quiet ((Evolves.start (h.complete.present place hplace)).setClient client) rfl
      (by rw [Client.isOpen, hsession, Client.isOpen])
  ready world h := h
  shift _ _ _ _ later _ hlater := hlater

/-- No operation of a client ends the agreement. -/
theorem sustains_attuned (hplace : place < clients) :
    (Setting.keeping consult (Attuned clients)).Sustains place (Attuned clients) where
  toBears := bears_attuned hplace
  opens window world h := by
    have hstart := Evolves.start (h.complete.present place hplace)
    -- The store decides, and the client notes a session only if it is granted.
    cases hsession : world.board.session with
    | none =>
        exact Acting.ensures_openSession rfl hstart window hsession
          fun later hlater => h.openSession hsession hlater
    | some session =>
        have hbusy : world.board.session.isSome = true := by rw [hsession, Option.isSome_some]
        exact Acting.ensures_openSession_busy rfl hstart window hbusy
          fun later hlater => h.quiet hlater rfl rfl
  puts format payload world h := by
    have hstart := Evolves.start (h.complete.present place hplace)
    by_cases haccepted : world.board.Admits (clientId place) ∧ format ≠ Format.null
    · exact Acting.ensures_putBytes rfl hstart payload haccepted.1 haccepted.2
        fun names later _ hlater => h.quiet hlater rfl (Client.isSome_session_stored _ _)
    · exact Acting.ensures_putBytes_refused rfl hstart payload haccepted
        fun error later hlater => h.quiet hlater rfl rfl
  takesOver viewer owner world h := by
    have hstart := Evolves.start (h.complete.present place hplace)
    cases hopen : world.board.isOpenBy (clientId place) with
    | true =>
        exact Acting.ensures_takeOver rfl hstart viewer owner hopen
          fun later hlater => h.quiet hlater rfl (Client.isSome_session_claimed _)
    | false =>
        exact Acting.ensures_takeOver_refused rfl hstart viewer owner hopen
          fun later hlater => h.quiet hlater rfl rfl
  finishes session world h := by
    have hstart := Evolves.start (h.complete.present place hplace)
    cases hopen : world.board.isOpenBy (clientId place) with
    | true =>
        exact Acting.ensures_finishSession rfl hstart session hopen
          fun later hlater => h.closeSession hopen hlater rfl
    | false =>
        exact Acting.ensures_finishSession_refused rfl hstart session hopen
          fun later hlater => h.closeSession_refused hopen hlater

/-- So they stay attuned whatever they do, one after another or in between. -/
theorem lasting_attuned (clients : Nat) : Lasting (Attuned clients) where
  allows _ h := h.allows
  stirs _ _ h hstirs hallows := h.stirs hstirs hallows
  busy _ place busy h := h.setBusy place busy
  task place task world hregular h hpresent := by
    have hplace := h.complete.lt_of_present hpresent
    exact (sustains_attuned hplace).keeps_run task hregular world h

end World

/-- From the first world, the client at the place came to one in which it has no session; the
sessions of the others are as they were. -/
structure World.Released (world : World) (place : Nat) (later : World) : Prop where
  closed : (later.client place).isOpen = false
  gone : later.board.isOpenBy (clientId place) = false
  others : ∀ other, other ≠ place →
    later.board.isOpenBy (clientId other) = world.board.isOpenBy (clientId other)

namespace World.Released

/-- The client ended its session. -/
theorem of_closed (hopen : world.board.isOpenBy (clientId place) = true)
    (hnow : world.Evolves place board client.closed told asked now)
    (hboard : board.session = none) : world.Released place now where
  closed := by
    rw [hnow.client_eq]
    rfl
  gone := by rw [hnow.board_eq, Board.isOpenBy_eq_false_of_none hboard]
  others other hne := by
    rw [hnow.board_eq, Board.isOpenBy_eq_false_of_none hboard, Board.isOpenBy_of_ne hopen hne]

/-- The client had no session with the store. -/
theorem of_refused (hopen : world.board.isOpenBy (clientId place) = false)
    (hnow : world.Evolves place world.board client.closed told asked now) :
    world.Released place now where
  closed := by
    rw [hnow.client_eq]
    rfl
  gone := by rw [hnow.board_eq, hopen]
  others other _ := by rw [hnow.board_eq]

/-- A client stays released when a note is left. -/
theorem note {later : World} (h : world.Released place later) (entry : Note) :
    world.Released place (later.note entry) := by
  have hstirs := Stirs.note later entry
  refine ⟨?_, ?_, fun other hne => ?_⟩
  · rw [client_congr hstirs.members, h.closed]
  · rw [hstirs.board, h.gone]
  · rw [hstirs.board, h.others other hne]

end World.Released

namespace Acting

/-- Closing releases the client, whether or not it had a session. -/
theorem ensures_released (hanswer : setting.answer = consult) (h : world.Attuned clients)
    (hpresent : world.Present place) :
    closeSession.run.Ensures setting place (fun _ later => world.Released place later) world := by
  have hstart := Evolves.start hpresent
  cases hchanged : (world.client place).session.any (·.changed) with
  | true =>
      have hopen := h.isOpenBy_of_changed hchanged
      obtain ⟨window, hsession⟩ := (world.client place).session_of_changed hchanged
      exact ensures_closeSession_changed hanswer hstart hopen hsession
        fun more later planned _ hlater => .of_closed hopen hlater rfl
  | false =>
      refine ensures_closeSession_unchanged hstart hchanged ?_
      cases hopen : world.board.isOpenBy (clientId place) with
      | true =>
          exact ensures_finishSession hanswer hstart _ hopen
            fun later hlater => .of_closed hopen hlater rfl
      | false =>
          exact ensures_finishSession_refused hanswer hstart _ hopen
            fun later hlater => .of_refused hopen hlater

/-- So does leaving a session. -/
theorem ensures_released_of_leave (hanswer : setting.answer = consult)
    (h : world.Attuned clients) (hpresent : world.Present place) :
    leaveSession.Ensures setting place (fun _ later => world.Released place later) world := by
  rw [leaveSession, ensures_bind]
  refine (ensures_released hanswer h hpresent).mono fun result later hlater => ?_
  cases result with
  | ok => exact hlater
  | error => exact hlater.note _

end Acting

/-- After a session around regular tasks the client has none, whatever became of the tasks. -/
theorem Task.ensures_released_of_session (hplace : place < clients) (h : world.Attuned clients)
    (window : Option WindowId) {tasks : List Task} (hregular : Task.AllRegular tasks)
    (close : Bool) :
    (Task.session window tasks close).run.Ensures (.keeping consult (World.Attuned clients)) place
      (fun outcome later =>
        (∃ outcomes inside closing, outcome = .session outcomes inside closing) →
          (later.client place).isOpen = false ∧
            later.board.isOpenBy (clientId place) = false) world := by
  have hsustains := sustains_attuned hplace
  rw [Task.run, ensures_bind]
  refine (hsustains.opens window world h).mono fun result opened hopened => ?_
  cases result with
  | error error =>
      rintro ⟨outcomes, inside, closing, houtcome⟩
      cases houtcome
  | ok =>
      simp only [ensures_bind]
      -- Whatever happens inside, the agreement is there when the session is to end.
      refine (hsustains.upholds.keeps_runAll tasks hregular opened hopened).mono
        fun outcomes after hafter => ?_
      have hpresent := hafter.complete.present place hplace
      simp only [ensures_client]
      cases close with
      | true =>
          rw [if_pos rfl, ensures_bind]
          exact (Acting.ensures_released rfl hafter hpresent).mono
            fun result later hlater _ => ⟨hlater.closed, hlater.gone⟩
      | false =>
          rw [if_neg Bool.false_ne_true, ensures_bind]
          exact (Acting.ensures_released_of_leave rfl hafter hpresent).mono
            fun result later hlater _ => ⟨hlater.closed, hlater.gone⟩

/-- Opening succeeds exactly if the store has no session. Then the session is the client's; else
neither the store nor the client changes. -/
theorem Acting.ensures_openSession_iff (hanswer : setting.answer = consult)
    (hpresent : world.Present place) (window : Option WindowId) :
    (openSession window).run.Ensures setting place (fun result later =>
      (result = .ok () ↔ world.board.session = none) ∧
        (result = .ok () → later.board.isOpenBy (clientId place) = true) ∧
        (result ≠ .ok () →
          later.board = world.board ∧ later.client place = world.client place)) world := by
  have hstart := Evolves.start hpresent
  cases hsession : world.board.session with
  | none =>
      refine ensures_openSession hanswer hstart window hsession fun later hlater => ?_
      refine ⟨iff_of_true rfl rfl, fun _ => ?_, fun hne => False.elim (hne rfl)⟩
      rw [hlater.board_eq]
      exact Board.isOpenBy_iff.2 ⟨window, rfl⟩
  | some session =>
      have hbusy : world.board.session.isSome = true := by rw [hsession, Option.isSome_some]
      refine ensures_openSession_busy hanswer hstart window hbusy fun later hlater => ?_
      refine ⟨iff_of_false ?_ (Option.some_ne_none session), fun hok => ?_, fun _ => ?_⟩
      · intro hok
        cases hok
      · cases hok
      · exact ⟨hlater.board_eq, hlater.client_eq⟩

namespace World

/-- What the client at the place brings about by opening, closing and leaving sessions, with
messages nested so deep at most. -/
structure KeepsToOwnSession (world : World) (depth place : Nat) : Prop where
  /-- It can open exactly if the store has no session, and changes nothing if it is refused. -/
  opening : ∀ window result after,
    (Acting.openSession window).run.run ⟨consult, send consult depth⟩ place world =
        (result, after) →
      (result = .ok () ↔ world.board.session = none) ∧
        (result = .ok () → after.board.isOpenBy (clientId place) = true) ∧
        (result ≠ .ok () → after.board = world.board ∧ after.client place = world.client place)
  /-- Closing ends no session but its own. -/
  closing : ∀ result after,
    Acting.closeSession.run.run ⟨consult, send consult depth⟩ place world = (result, after) →
      world.Released place after
  /-- Leaving ends no session but its own. -/
  leaving : world.Released place
    (Acting.leaveSession.run ⟨consult, send consult depth⟩ place world).2
  /-- It has no session after one around any tasks. -/
  around : ∀ window tasks close outcomes inside closing after, Task.AllRegular tasks →
    (Task.session window tasks close).run.run ⟨consult, send consult depth⟩ place world =
        (.session outcomes inside closing, after) →
      (after.client place).isOpen = false ∧ after.board.isOpenBy (clientId place) = false

/-- Attuned clients keep to their own sessions: this is one clause of it after another. -/
theorem Attuned.keepsToOwnSession (h : world.Attuned clients) (depth : Nat)
    (hpresent : world.Present place) : world.KeepsToOwnSession depth place := by
  have hplace := h.complete.lt_of_present hpresent
  have hfits := (lasting_attuned clients).fits depth
  constructor
  · intro window result after hrun
    have hdone := (Acting.ensures_openSession_iff rfl hpresent window).run hfits
    rwa [hrun] at hdone
  · intro result after hrun
    have hdone := (Acting.ensures_released rfl h hpresent).run hfits
    rwa [hrun] at hdone
  · exact (Acting.ensures_released_of_leave rfl h hpresent).run hfits
  · intro window tasks close outcomes inside closing after hregular hrun
    have hdone := (Task.ensures_released_of_session hplace h window hregular close).run hfits
    rw [hrun] at hdone
    exact hdone ⟨outcomes, inside, closing, rfl⟩

/-- Whatever clients do on one board, also in the middle of messages: a client has the clipboard
open exactly if the store's session is its own, so one client at most has it, and the store has no
session exactly if nobody has the clipboard open. Each client keeps to its own session. -/
theorem sessions_agree {start : World} (hstart : start.AtRest clients)
    (hworld : start.Arises world) :
    (∀ place, (world.client place).isOpen = world.board.isOpenBy (clientId place)) ∧
      (∀ place other, (world.client place).isOpen = true → (world.client other).isOpen = true →
        place = other) ∧
      (world.board.session = none ↔ ∀ place, (world.client place).isOpen = false) ∧
      ∀ depth place, world.Present place → world.KeepsToOwnSession depth place := by
  have h := (lasting_attuned clients).of_arises hworld hstart.attuned
  refine ⟨h.agrees, fun place other hplace hother => ?_, h.session_eq_none_iff,
    fun depth place hpresent => h.keepsToOwnSession depth hpresent⟩
  rw [h.agrees] at hplace hother
  exact Board.eq_of_isOpenBy hplace hother

/-- A window that opens and closes the clipboard for the first client when it is asked to let go. -/
def meddler : WindowScript Step where
  id := firstWindow
  answer := true
  trouble := none
  viewer := none
  handlers :=
    [⟨"DestroyClipboard", none, [.task 0 (.openSession none), .task 0 .closeSession], none⟩]

/-- The first client took the board over. In a session of its own the second one took it over from
it, and the window of the first one meddled. -/
def takenOver : World :=
  (gathering .empty 2 [meddler]).after [.task 0 (.openSession (some firstWindow)),
    .task 0 (.claim (some firstWindow)), .task 0 .closeSession,
    .task 1 (.openSession (some secondWindow)), .task 1 (.claim (some secondWindow))]

/-- Only the second client has the clipboard open after that. -/
theorem session_outlasts_meddling :
    (gathering .empty 2 [meddler]).AtRest 2 ∧ (gathering .empty 2 [meddler]).Arises takenOver ∧
      (takenOver.client 1).isOpen = true ∧ takenOver.board.isOpenBy (clientId 1) = true ∧
      (∀ place, (takenOver.client place).isOpen = true → place = 1) ∧
      takenOver.board.session ≠ none ∧ takenOver.KeepsToOwnSession 1 0 := by
  have hstart : (gathering .empty 2 [meddler]).AtRest 2 := by
    refine ⟨⟨rfl, fun place hplace => present_gathering .empty _ hplace⟩, fun script hscript => ?_,
      fun place => ?_, rfl⟩
    · obtain rfl : script = meddler := List.mem_singleton.1 hscript
      simp [meddler, WindowScript.Allows, Step.Regular, Task.Regular]
    · rw [client_gathering]
      rfl
  have hworld : (gathering .empty 2 [meddler]).Arises takenOver := by
    refine Arises.start.after ?_
    simp [Step.Regular, Task.Regular]
  obtain ⟨hagrees, hunique, hnone, hkeeps⟩ := sessions_agree hstart hworld
  have hopen : (takenOver.client 1).isOpen = true := rfl
  have hholds : takenOver.board.isOpenBy (clientId 1) = true := by rw [← hagrees, hopen]
  refine ⟨hstart, hworld, hopen, hholds, fun place hplace => hunique place 1 hplace hopen,
    fun hfree => ?_, hkeeps 1 0 rfl⟩
  rw [hnone.1 hfree 1] at hopen
  cases hopen

end World

end Pasteboard
