import Pasteboard.Proofs.Viewers.Passing
import Pasteboard.Proofs.World.Tasks

/-!
# Tasks that change the chain

A client makes a window the head of the chain, or takes a viewer out of it: the store replaces its
head itself, and names it if the viewer that leaves is another one, which is then up to the viewers.
What comes of it is known where the nodes lead past viewers that are `Awake`: see
`Idle.act_setViewer`, `Idle.act_changeChain_of_head` and `Idle.act_changeChain_of_halts`.
-/

namespace Pasteboard

open World

variable {medium : Medium} {place : Nat} {world later asked : World}
  {window viewer head removed : WindowId} {next old owner last holder : Option WindowId}
  {front viewers : List WindowId} {result : Except SendError Bool}

namespace Board

variable {board : Board}

/-- The store makes a window the head of the chain if it is not asked to expect another head. -/
theorem setViewer_of_eq {previous : Option WindowId}
    (hprevious : previous = none ∨ board.viewer = previous) (next : Option WindowId) :
    board.setViewer next previous =
      (.viewer (.set board.viewer board.owner), { board with viewer := next }) := by
  refine if_neg fun h => ?_
  rcases hprevious with rfl | hviewer
  · exact Bool.noConfusion h.1
  · exact h.2 hviewer

/-- The store names the head of the chain if it is asked to expect another one. -/
theorem setViewer_of_ne (hhead : board.viewer = some head) (hother : head ≠ removed)
    (next : Option WindowId) :
    board.setViewer next (some removed) = (.viewer (.pending head), board) := by
  have hviewer : board.viewer ≠ some removed := by
    rw [hhead]
    exact fun h => hother (Option.some.inj h)
  rw [setViewer, if_pos ⟨rfl, hviewer⟩, hhead]

/-- A store without a head cannot be asked to expect one. -/
theorem setViewer_of_none (hhead : board.viewer = none)
    (next : Option WindowId) (removed : WindowId) :
    board.setViewer next (some removed) = (.error .invalidParameter, board) := by
  have hother : board.viewer ≠ some removed := by
    rw [hhead]
    exact (Option.some_ne_none removed).symm
  rw [Board.setViewer, if_pos ⟨rfl, hother⟩, hhead]

end Board

namespace World

theorem consult_setViewer (world : World) (place : Nat) {board : Board} {reply : ViewerReply}
    {previous : Option WindowId}
    (h : world.board.setViewer next previous = (.viewer reply, board)) :
    world.consult place (.setViewer next previous) =
      (.ok (.viewer reply), { world with
        board := board, requests := world.requests ++ [Request.setViewer next previous] }) := by
  rw [consult, Board.handle, h]
  rfl

/-- Notes were taken and messages posted, and nothing else happened. -/
def Announces (world later : World) : Prop :=
  ∃ posts events log, later = { world with posts := posts, events := events, log := log }

theorem Announces.refl (world : World) : world.Announces world := ⟨_, _, _, rfl⟩

theorem Announces.note (h : world.Announces later) (entry : Note) :
    world.Announces (later.note entry) := by
  obtain ⟨posts, events, _, rfl⟩ := h
  unfold World.note
  split
  · exact ⟨posts, events, _, rfl⟩
  · exact ⟨posts, events, _, rfl⟩

theorem Announces.post (h : world.Announces later) (window : WindowId) (message : Message) :
    world.Announces (later.post window message).2 := by
  obtain ⟨_, _, log, rfl⟩ := h
  unfold World.post
  dsimp only
  split
  · exact ⟨_, _, log, rfl⟩
  · exact ⟨_, _, log, rfl⟩

end World

namespace Task

/-- The window took the place of the head, and is told what is on the clipboard. -/
theorem run_setViewer
    (hreply : medium.answer world place (.setViewer (some window) none) =
      (.ok (.viewer (.set old owner)), asked)) :
    ∃ told, asked.Announces told ∧
      (setViewer (some window)).run.run medium place world = (.done (.window old), told) := by
  show ∃ told, _ ∧ (Call.ask _ _ : Call Outcome).run medium place world = _
  rw [Call.run, hreply]
  show ∃ told, _ ∧ (Call.note _ (.note _ (.post window (.drawClipboard owner) _)) :
    Call Outcome).run medium place asked = _
  rw [Call.run, Call.run, Call.run]
  -- Whether the message was posted only decides on one more note.
  generalize hnote : (asked.note _).note _ = noted
  have hnoted : asked.Announces noted := by
    rw [← hnote]
    exact ((Announces.refl asked).note _).note _
  have hposted := hnoted.post window (.drawClipboard owner)
  cases hpost : noted.post window (.drawClipboard owner) with
  | mk outcome told =>
      rw [hpost] at hposted
      cases outcome with
      | ok => exact ⟨told, hposted, rfl⟩
      | error => exact ⟨_, hposted.note _, rfl⟩

/-- The viewer that leaves was the head. -/
theorem run_changeChain_of_set
    (hreply : medium.answer world place (.setViewer next (some removed)) =
      (.ok (.viewer (.set old owner)), asked)) :
    (changeChain removed next).run.run medium place world = (.done (.flag true), asked) := by
  show (Call.ask _ _ : Call Outcome).run medium place world = _
  rw [Call.run, hreply]
  rfl

/-- The outcome of a change of the chain that the viewers saw to. -/
def answered : Except SendError Bool → Outcome
  | .ok answer => .done (.flag answer)
  | .error error => .failed (.window error)

/-- Another viewer is the head and sees to the change. -/
theorem run_changeChain_of_result
    (hreply : medium.answer world place (.setViewer next (some removed)) =
      (.ok (.viewer (.pending head)), asked))
    (hsend : medium.send head (.changeChain removed next) none
      (asked.note (Notice.forwarding removed head)) = (result, later)) :
    (changeChain removed next).run.run medium place world = (answered result, later) := by
  show (Call.ask _ _ : Call Outcome).run medium place world = _
  rw [Call.run, hreply]
  show (Call.note _ (.send head _ none _) : Call Outcome).run medium place asked = _
  rw [Call.run, Call.run, hsend]
  cases result <;> rfl

/-- The store does not know a head that could see to the change. -/
theorem run_changeChain_of_refused {error : StoreError}
    (hreply : medium.answer world place (.setViewer next (some removed)) = (.error error, asked)) :
    (changeChain removed next).run.run medium place world =
      (.failed (.ofStore error), asked) := by
  show (Call.ask _ _ : Call Outcome).run medium place world = _
  rw [Call.run, hreply]
  rfl

end Task

namespace World

/-- An idle client does a task as the call behind it says, and is idle again. -/
theorem Idle.act_of_run {medium : Medium} {task : Task} {outcome : Outcome}
    (hidle : world.Idle place)
    (hrun : task.run.run medium place (world.setBusy place true) = (outcome, later))
    (hmembers : later.members = (world.setBusy place true).members) :
    world.act medium place task = (outcome, { later with members := world.members }) := by
  have hrestored := hidle.setBusy_setClient (world.client place)
  rw [← client_setBusy world place place true, setClient_client, client_setBusy, setClient_client]
    at hrestored
  have hlater : later.setBusy place false = { later with members := world.members } := by
    have hlist := congrArg World.members hrestored
    rw [setBusy, updateMember, hmembers]
    exact congrArg (fun members => { later with members := members }) hlist
  obtain ⟨member, hmember, hbusy⟩ := hidle
  rw [act, hmember]
  simp only [hbusy, Bool.false_eq_true, if_false]
  show ((task.run.run medium place (world.setBusy place true)).1,
    (task.run.run medium place (world.setBusy place true)).2.setBusy place false) = _
  rw [hrun, hlater]

/-- A client that makes a window the head of the chain gets the head that was there. -/
theorem Idle.act_setViewer (hidle : world.Idle place) (window : WindowId) :
    ∃ posts events requests log,
      world.act (world.medium World.consult) place (.setViewer (some window)) =
        (.done (.window world.board.viewer), { world with
          board := { world.board with viewer := some window }, posts := posts, events := events,
          requests := requests, log := log }) := by
  have hreply : (world.medium World.consult).answer (world.setBusy place true) place
      (.setViewer (some window) none) = _ :=
    consult_setViewer _ place (Board.setViewer_of_eq (.inl rfl) _)
  obtain ⟨_, ⟨posts, events, log, rfl⟩, hrun⟩ := Task.run_setViewer hreply
  exact ⟨posts, events, _, log, hidle.act_of_run hrun rfl⟩

/-- A client that takes the head out of the chain has the store do it. -/
theorem Idle.act_changeChain_of_head (hidle : world.Idle place)
    (hhead : world.board.viewer = some removed) (next : Option WindowId) :
    ∃ requests, world.act (world.medium World.consult) place (.changeChain removed next) =
      (.done (.flag true), { world with
        board := { world.board with viewer := next }, requests := requests }) := by
  have hreply : (world.medium World.consult).answer (world.setBusy place true) place
      (.setViewer next (some removed)) = _ :=
    consult_setViewer _ place (Board.setViewer_of_eq (.inr hhead) _)
  exact ⟨_, hidle.act_of_run (Task.run_changeChain_of_set hreply) rfl⟩

/-- The client gets what comes of the change where it stops. -/
theorem Idle.act_changeChain_of_halts (hidle : world.Idle place)
    (hhead : world.board.viewer = some head) (hother : head ≠ removed)
    (h : world.Route (some head) viewers last) (hawake : world.Awake viewers)
    (hkept : removed ∉ viewers) (hhalts : world.Halts removed viewers last result holder)
    (hnode : ∀ stop, last = some stop → (world.script stop).trouble = none → stop ≠ removed →
      ∃ link, world.viewer? stop = some link) (next : Option WindowId) :
    ∃ told, world.Unaltered told ∧ ∀ depth, viewers.length < depth →
      world.act ⟨World.consult, World.send World.consult depth⟩ place (.changeChain removed next) =
        (Task.answered result, told.assign holder next) := by
  -- The head is told while the client is busy with its task and the store has been asked.
  let busy := world.setBusy place true
  let asked := { busy with requests := busy.requests ++ [Request.setViewer next (some removed)] }
  have hreply : World.consult busy place (.setViewer next (some removed)) =
      (.ok (.viewer (.pending head)), asked) :=
    consult_setViewer busy place (Board.setViewer_of_ne hhead hother next)
  obtain ⟨log, hnote⟩ := asked.exists_note (Notice.forwarding removed head)
  let waiting := { asked with log := log }
  have hroute : waiting.Route (some head) viewers last := h.of_windows_eq rfl
  have hready : waiting.Awake viewers := hawake.of_windows_eq rfl rfl
  have hstop : waiting.Halts removed viewers last result holder := by
    cases hhalts with
    | ended hviewers => exact .ended hviewers
    | closed hlast => exact .closed hlast
    | refused hother hrefusal => exact .refused hother hrefusal
  obtain ⟨_, ⟨events, requests, log', rfl⟩, hsend⟩ :=
    send_of_halts World.consult hroute hready hkept hstop hnode next
  refine ⟨{ world with events := events, requests := requests, log := log' }, ⟨_, _, _, rfl⟩,
    fun depth hdepth => ?_⟩
  obtain ⟨depth, rfl⟩ := Nat.exists_eq_add_one_of_ne_zero (Nat.ne_zero_of_lt hdepth)
  have hpending := (congrArg (World.send World.consult (depth + 1) head
    (.changeChain removed next) none) hnote).trans (hsend depth (Nat.le_of_lt_succ hdepth))
  have hrun : (Task.changeChain removed next).run.run
      ⟨World.consult, World.send World.consult (depth + 1)⟩ place busy =
        (Task.answered result, _) :=
    Task.run_changeChain_of_result hreply hpending
  cases holder with
  | none => exact hidle.act_of_run hrun rfl
  | some viewer => exact hidle.act_of_run hrun rfl

/-- The last viewer of a way from the head closes the gap in front of it; if the chain ends there,
nothing changes. -/
theorem Idle.act_changeChain_of_route (hidle : world.Idle place)
    (h : world.Route world.board.viewer (front ++ [viewer]) last)
    (hlast : last = none ∨ last = some removed) (hkept : removed ∉ front ++ [viewer])
    (hawake : world.Awake (front ++ [viewer])) (next : Option WindowId) :
    ∃ told, world.Unaltered told ∧
      world.act (world.medium World.consult) place (.changeChain removed next) =
        (.done (.flag last.isSome), if last.isSome then told.setNext viewer next else told) := by
  obtain ⟨head, hmem, hhead⟩ := h.exists_first (by simp)
  have hother : head ≠ removed := fun hsame => hkept (hsame ▸ hmem)
  have hdepth := h.length_lt_nesting hawake.nodup
  rw [hhead] at h
  have hnode : ∀ stop, last = some stop → (world.script stop).trouble = none → stop ≠ removed →
      ∃ link, world.viewer? stop = some link := by
    rintro stop rfl - hstop
    rcases hlast with hlast | hlast
    · cases hlast
    · exact absurd (Option.some.inj hlast) hstop
  rcases hlast with rfl | rfl
  · obtain ⟨told, hsame, hact⟩ := hidle.act_changeChain_of_halts hhead hother h hawake hkept
      (.ended (by simp)) hnode next
    exact ⟨told, hsame, hact _ hdepth⟩
  · obtain ⟨told, hsame, hact⟩ := hidle.act_changeChain_of_halts hhead hother h hawake hkept
      (.closed List.getLast?_concat) hnode next
    exact ⟨told, hsame, hact _ hdepth⟩

end World

end Pasteboard
