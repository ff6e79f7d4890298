import Pasteboard.Proofs.Client.Closing
import Pasteboard.Proofs.Client.Requesting
import Pasteboard.Proofs.Payload.Encoding

/-!
# What the tasks of an idle client make of the board

Among inert windows nothing but the task itself happens while an idle client does one. So the board
and the client after it are known exactly, `World.Rests`, and tasks can be followed one by one. A
put of a byte string is followed in any medium, since it sends no message.
-/

namespace Pasteboard

open Call World

variable {place : Nat} {world now later : World} {board board' : Board} {client client' : Client}
  {told : List Event} {asked : List Request} {format : Format} {payload : Bytes}

/-- The previous owner is asked to let go, which changes nothing among inert windows. -/
theorem Acting.ensures_claimOwnership_of_inert
    (h : world.Evolves place board client told asked now) (hinert : world.Inert)
    (owner : Option WindowId) {goal : Except ClientError Unit → World → Prop}
    (hgoal : ∀ told asked later, world.Evolves place board client told asked later →
      (takeOver board.viewer owner).run.Ensures .inert place goal later) :
    (claimOwnership owner).run.Ensures .inert place goal now := by
  rw [claimOwnership_eq]
  simp only [Ask.info, ensures_acting_bind, ensures_ofAsking]
  refine ensures_ask rfl h _ _ fun later hlater => ?_
  simp only [Board.handle, Reply.outcome, Ask.taken, mapError_ok, Board.info]
  cases howner : board.owner with
  | none => exact hgoal _ _ _ hlater
  | some previous =>
      rw [ensures_acting_bind, ensures_lift]
      refine ensures_dismiss (fun entry => (hlater.note entry).allows hinert)
        fun entry sent hsent => ?_
      obtain ⟨more, hmore⟩ := (hlater.note entry).inert hsent
      exact ⟨hgoal _ _ _ hmore, fun warning => hgoal _ _ _ (hmore.note warning)⟩

namespace World

section Putting

variable (medium : Medium) (hanswer : medium.answer = consult) (hidle : world.Idle place)

include hidle hanswer

/-- An admitted client puts a byte string that is accepted. -/
theorem act_put_of_accepts (hadmits : world.board.Admits (clientId place))
    (hmemory : format.shape = .memory) (haccepts : format.Accepts payload) :
    ∃ asked, world.Evolves place (world.board.stored format payload)
        ((world.client place).stored format) [] asked
        (world.act medium place (.put format (.bytes payload))).2 ∧
      (world.act medium place (.put format (.bytes payload))).2.windows = world.windows := by
  refine act_of_ends medium hidle _ (fun _ later => ∃ asked, world.Evolves place
    (world.board.stored format payload) ((world.client place).stored format) [] asked later ∧
    later.windows = world.windows) ?_
  rw [Task.run, Task.ends_outcome]
  refine (Acting.ends_put hanswer hidle.start hadmits haccepts.ne_null _).mono
    fun result later hlater => ?_
  obtain ⟨hwindows, hlater⟩ := hlater
  have hencode := Data.encode_of_accepts (world.client place).graphics hmemory haccepts
  cases result with
  | ok =>
      obtain ⟨encoded, asked, hencoded, hlater⟩ := hlater
      obtain rfl : payload = encoded := by simpa [hencode] using hencoded
      exact ⟨asked, hidle.evolves hlater, hwindows⟩
  | error =>
      obtain ⟨cause, herror, _⟩ := hlater
      rw [hencode] at herror
      cases herror

/-- A put of what is not accepted changes nothing. -/
theorem act_put_of_not_accepts (hrefused : ¬ format.Accepts payload) :
    ∃ asked, world.Evolves place world.board (world.client place) [] asked
        (world.act medium place (.put format (.bytes payload))).2 ∧
      (world.act medium place (.put format (.bytes payload))).2.windows = world.windows := by
  refine act_of_ends medium hidle _ (fun _ later => ∃ asked, world.Evolves place world.board
    (world.client place) [] asked later ∧ later.windows = world.windows) ?_
  rw [Task.run, Task.ends_outcome]
  have hput : (Acting.put format (.bytes payload)).run.Ensures .silent place (fun _ later =>
      ∃ asked, (world.setBusy place true).Evolves place world.board (world.client place) []
        asked later) (world.setBusy place true) := by
    refine Acting.ensures_put hidle.start (.bytes payload) (fun _ => ⟨[], hidle.start⟩)
      fun payload hencode => ?_
    refine Acting.ensures_putBytes_refused rfl hidle.start payload (fun hadmits => ?_)
      fun error later hlater => ⟨_, hlater⟩
    exact hrefused (Data.accepts_of_encode hadmits.2 hencode)
  refine (hput.ends hanswer).mono fun result later hlater => ?_
  obtain ⟨⟨asked, hlater⟩, hwindows⟩ := hlater
  exact ⟨asked, hidle.evolves hlater, hwindows⟩

end Putting

/-- From the world, the client at the place came to a board and a state with the property. -/
def Attains (world : World) (place : Nat) (property : Board → Client → Prop) (later : World) :
    Prop :=
  ∃ board client told asked, world.Evolves place board client told asked later ∧
    property board client

/-- What holds of the board and the client in the end is attained. -/
theorem Evolves.attains {property : Board → Client → Prop}
    (h : world.Evolves place board client told asked later) (hproperty : property board client) :
    world.Attains place property later :=
  ⟨board, client, told, asked, h, hproperty⟩

/-- The client at the place is idle among inert windows; this is the board, and this the client. -/
structure Rests (world : World) (place : Nat) (board : Board) (client : Client) : Prop where
  inert : world.Inert
  idle : world.Idle place
  board_eq : world.board = board
  client_eq : world.client place = client

/-- Tasks are done one after the other. -/
theorem does_append (world : World) (place : Nat) (first rest : List Task) :
    world.does place (first ++ rest) = (world.does place first).does place rest := by
  rw [does, List.foldl_append, does, does]

/-- Tasks are done one after another. -/
theorem does_cons (world : World) (place : Nat) (task : Task) (rest : List Task) :
    world.does place (task :: rest) = (world.does place [task]).does place rest := rfl

namespace Rests

/-- The client rests where its task left it. -/
theorem evolves (h : world.Rests place board client)
    (hlater : world.Evolves place board' client' told asked later) :
    later.Rests place board' client' :=
  ⟨hlater.allows h.inert, hlater.idle h.idle, hlater.board_eq, hlater.client_eq⟩

variable (h : world.Rests place board client)

include h

/-- A task begins with nothing told and nothing asked. -/
theorem start :
    (world.setBusy place true).Evolves place board client [] [] (world.setBusy place true) := by
  have hstart := h.idle.start
  rwa [h.board_eq, h.client_eq] at hstart

/-- What a task attains is what the client rests at after it. -/
theorem act (depth : Nat) {task : Task} {goal : Outcome → Board → Client → Prop}
    (htask : task.run.Ensures .inert place
      (fun outcome later => (world.setBusy place true).Attains place (goal outcome) later)
      (world.setBusy place true)) :
    ∃ board' client',
      (world.act ⟨consult, send consult depth⟩ place task).2.Rests place board' client' ∧
        goal (world.act ⟨consult, send consult depth⟩ place task).1 board' client' := by
  refine act_of_ensures (Setting.fits_inert depth) h.idle task (fun outcome later =>
    ∃ board' client', later.Rests place board' client' ∧ goal outcome board' client')
    (htask.mono fun outcome later hlater => ?_)
  obtain ⟨board', client', told, asked, hevolves, hgoal⟩ := hlater
  exact ⟨board', client', h.evolves (h.idle.evolves hevolves), hgoal⟩

/-- What a task certainly leads to. -/
theorem does {task : Task}
    (htask : task.run.Ensures .inert place
      (fun _ later => ∃ told asked,
        (world.setBusy place true).Evolves place board' client' told asked later)
      (world.setBusy place true)) :
    (world.does place [task]).Rests place board' client' := by
  have hattains : task.run.Ensures .inert place (fun _ later =>
      (world.setBusy place true).Attains place
        (fun after state => after = board' ∧ state = client') later)
      (world.setBusy place true) := by
    refine htask.mono fun outcome later hlater => ?_
    obtain ⟨told, asked, hlater⟩ := hlater
    exact hlater.attains ⟨rfl, rfl⟩
  obtain ⟨after, state, hrests, hboard, hclient⟩ := h.act _ hattains
  rw [hboard, hclient] at hrests
  exact hrests

/-- A client that rests opens a session if there is none. -/
theorem openSession (hfree : board.session = none) (window : Option WindowId) :
    (world.does place [.openSession window]).Rests place (board.opened (clientId place) window)
      (client.opened board.owner window) := by
  refine h.does ?_
  rw [Task.run, Task.ensures_outcome]
  exact Acting.ensures_openSession rfl h.start window hfree fun later hlater => ⟨_, _, hlater⟩

/-- It claims the board in its session. -/
theorem claim (hopen : board.isOpenBy (clientId place) = true) (owner : Option WindowId) :
    (world.does place [.claim owner]).Rests place (board.claimed (clientId place) owner)
      client.claimed := by
  have hinert : (world.setBusy place true).Inert := h.inert
  refine h.does ?_
  rw [Task.run, Task.ensures_outcome]
  exact Acting.ensures_claimOwnership_of_inert h.start hinert owner fun told asked later hlater =>
    Acting.ensures_takeOver rfl hlater _ _ hopen fun last hlast => ⟨_, _, hlast⟩

/-- It puts a payload that its format accepts. -/
theorem put (hopen : board.isOpenBy (clientId place) = true) (hmemory : format.shape = .memory)
    (haccepts : format.Accepts payload) :
    (world.does place [.put format (.bytes payload)]).Rests place (board.stored format payload)
      (client.stored format) := by
  have hadmits : world.board.Admits (clientId place) := .inl (by rwa [h.board_eq])
  obtain ⟨asked, hlater, _⟩ := act_put_of_accepts (world.medium consult) rfl h.idle hadmits hmemory
    haccepts
  rw [h.board_eq, h.client_eq] at hlater
  exact h.evolves hlater

/-- It puts nothing that its format does not accept. -/
theorem put_refused (hrefused : ¬ format.Accepts payload) :
    (world.does place [.put format (.bytes payload)]).Rests place board client := by
  obtain ⟨asked, hlater, _⟩ :=
    act_put_of_not_accepts (world.medium consult) rfl h.idle hrefused
  rw [h.board_eq, h.client_eq] at hlater
  exact h.evolves hlater

/-- Closing after a change offers what can be derived. -/
theorem closeSession (hopen : board.isOpenBy (clientId place) = true) {window : Option WindowId}
    (hsession : client.session = some ⟨window, true⟩) :
    (world.does place [.closeSession]).Rests place
      (board.planned client.settings.defaultLocale).closed
      (Client.closed
        { client with sources := Sources.empty.recordAll board.plan.derivations }) := by
  refine h.does ?_
  rw [Task.run, Task.ensures_outcome]
  refine Acting.ensures_closeSession_changed rfl h.start hopen hsession
    fun more later planned hplanned hlater => ?_
  subst hplanned
  exact ⟨_, _, hlater⟩

end Rests

end World

end Pasteboard
