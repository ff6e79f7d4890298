import Pasteboard.Proofs.World.Coherence

/-!
# Who is told when a session ends

The head of the chain of viewers is told by the store's count of changes, the listeners and the plan
go by what the client itself changed. So a close tells everybody alike if and only if the client
changed something or nobody did: see `Acting.close_announced_iff`.
-/

namespace Pasteboard

open Call World

/-- A close led from the first world to the second one and told everybody alike: a change since the
session was opened had a plan made and the listeners told, and had the head of the chain of viewers
told; otherwise neither happened. -/
def World.Announced (world after : World) : Prop :=
  ∃ told asked, after.events = world.events ++ told ∧ after.requests = world.requests ++ asked ∧
    (after.board.sequence ≠ world.board.openSequence ↔
      .listFormats ∈ asked ∧
        ∀ listener ∈ world.board.listeners, .posted listener .clipboardUpdate ∈ told) ∧
    ∀ head, world.board.viewer = some head →
      (after.board.sequence ≠ world.board.openSequence ↔
        ∃ owner, .posted head (.drawClipboard owner) ∈ told)

variable {place clients : Nat} {world now : World} {board : Board} {client : Client}
  {told : List Event} {asked : List Request}

/-- What was told and asked on the way decides. -/
theorem World.Evolves.announced_iff (h : world.Evolves place board client told asked now) :
    world.Announced now ↔
      (board.sequence ≠ world.board.openSequence ↔
        .listFormats ∈ asked ∧
          ∀ listener ∈ world.board.listeners, .posted listener .clipboardUpdate ∈ told) ∧
      ∀ head, world.board.viewer = some head →
        (board.sequence ≠ world.board.openSequence ↔
          ∃ owner, .posted head (.drawClipboard owner) ∈ told) := by
  rw [Announced, h.events_eq, h.requests_eq, h.board_eq]
  constructor
  · rintro ⟨told', asked', htold, hasked, hannounced⟩
    rw [List.append_cancel_left_eq] at htold hasked
    rwa [htold, hasked]
  · intro hannounced
    exact ⟨told, asked, rfl, rfl, hannounced⟩

namespace Acting

variable {setting : Setting}

/-- A client that changed something tells everybody if the store counted a change. -/
theorem ensures_announced_of_changed (hanswer : setting.answer = consult)
    (hpresent : world.Present place) (hopen : world.board.isOpenBy (clientId place) = true)
    (hcounted : world.Counted) (hchanged : world.Changed place) :
    closeSession.run.Ensures setting place (fun _ later =>
      later.requests.countP Request.isChange < UInt32.size → world.Announced later) world := by
  obtain ⟨window, hsession⟩ := (world.client place).session_of_changed hchanged
  refine ensures_closeSession_changed hanswer (.start hpresent) hopen hsession
    fun more later planned hplanned hlater hbound => ?_
  have hagrees := world.board.agrees_planned (world.client place).settings.defaultLocale
  rw [← hplanned] at hagrees
  -- The puts of the plan are counted as well, so the bound is on the requests up to the end.
  have hsequence : planned.sequence ≠ world.board.openSequence := by
    show planned.closed.sequence ≠ world.board.openSequence
    exact hcounted.sequence_ne hlater hchanged hbound
  rw [hlater.announced_iff]
  refine ⟨iff_of_true hsequence ⟨by simp, fun listener hlistener => ?_⟩, fun head hhead => ?_⟩
  · simp [Notice.mem_listenerEvents, hlistener]
  · have hviewer : planned.farewell.viewer = some head := by
      simp [Board.farewell, hagrees.openSequence, hsequence, hagrees.viewer, hhead]
    refine iff_of_true hsequence ⟨planned.farewell.owner, ?_⟩
    exact List.mem_append_left _ (Notice.mem_headEvents.2 ⟨hviewer, rfl⟩)

/-- A client that changed nothing makes no plan and tells no listener. It tells the head of the
chain of viewers if the store counted a change of somebody else. -/
theorem ensures_announced_iff_of_unchanged (hanswer : setting.answer = consult)
    (hpresent : world.Present place) (hopen : world.board.isOpenBy (clientId place) = true)
    (hchanged : ¬ world.Changed place) :
    closeSession.run.Ensures setting place (fun _ later =>
      world.Announced later ↔ world.board.sequence = world.board.openSequence) world := by
  rw [Changed, Bool.not_eq_true] at hchanged
  refine ensures_closeSession_unchanged (.start hpresent) hchanged ?_
  refine ensures_finishSession hanswer (.start hpresent) _ hopen fun later hlater => ?_
  rw [hlater.announced_iff, hchanged]
  by_cases hsequence : world.board.sequence = world.board.openSequence
  · simp [Board.closed, Board.farewell, Notice.headEvents, hsequence]
  · simp [Board.closed, hsequence]

/-- A client without an open session is refused. -/
theorem ensures_closeSession_of_not_open (hanswer : setting.answer = consult)
    (hpresent : world.Present place) (hopen : world.board.isOpenBy (clientId place) = false)
    (hchanged : ¬ world.Changed place) :
    closeSession.run.Ensures setting place (fun result _ => result = .error .notOpen) world := by
  rw [Changed, Bool.not_eq_true] at hchanged
  refine ensures_closeSession_unchanged (.start hpresent) hchanged ?_
  exact ensures_finishSession_refused hanswer (.start hpresent) _ hopen fun _ _ => rfl

/-- However several clients come to close a session, with fewer requests for a change than the store
can count: the close tells everybody alike if and only if the client changed something itself or
nobody did. -/
theorem close_announced_iff {start after : World} {clients depth : Nat} {reply : CloseReply}
    (hstart : start.AtRest clients) (hworld : start.Arises world) (hpresent : world.Present place)
    (hclose : closeSession.run.run ⟨consult, send consult depth⟩ place world = (.ok reply, after))
    (hbound : after.requests.countP Request.isChange < UInt32.size) :
    world.Announced after ↔
      world.Changed place ∨ world.board.sequence = world.board.openSequence := by
  have hcoherent := (lasting_coherent clients).of_arises hworld hstart.coherent
  have hfits := (lasting_coherent clients).fits depth
  cases hopen : world.board.isOpenBy (clientId place) with
  | true =>
      have hcounted := hcoherent.counted (Board.isSome_session_of_isOpenBy hopen)
      by_cases hchanged : world.Changed place
      · have hdone := (ensures_announced_of_changed rfl hpresent hopen hcounted hchanged).run hfits
        rw [hclose] at hdone
        exact iff_of_true (hdone hbound) (.inl hchanged)
      · have hdone := (ensures_announced_iff_of_unchanged rfl hpresent hopen hchanged).run hfits
        rw [hclose] at hdone
        rw [hdone]
        exact (or_iff_right hchanged).symm
  | false =>
      -- A client that remembers a change has a session, so this one makes no plan and is refused.
      have hchanged : ¬ world.Changed place := by
        intro hchanged
        have hholds := hcoherent.holding place (Option.isSome_of_any hchanged)
        rw [hopen] at hholds
        cases hholds
      have hdone := (ensures_closeSession_of_not_open rfl hpresent hopen hchanged).run hfits
      rw [hclose] at hdone
      cases hdone

/-- The listener of the scenario. -/
def listening : WindowId := ⟨30, by decide⟩

/-- The viewer of the scenario. -/
def viewing : WindowId := ⟨40, by decide⟩

/-- A listener and a viewer wait for changes. -/
def watched : Board := { Board.empty with listeners := [listening], viewer := some viewing }

/-- A window that puts narrow text for the first client when it is asked to render it. -/
def renderer : WindowScript Step where
  id := firstWindow
  answer := true
  trouble := none
  viewer := none
  handlers :=
    [⟨"RenderFormat", some Format.text, [.task 0 (.put Format.text (.bytes [0x68, 0x69]))], none⟩]

/-- Two clients, the window of the first one being the renderer. -/
def watchedStart : World := World.gathering watched 2 [renderer]

theorem atRest_watchedStart : watchedStart.AtRest 2 := by
  refine ⟨⟨rfl, fun place hplace => ?_⟩, fun script hscript => ?_, fun place => ?_, rfl⟩
  · exact present_gathering watched [renderer] hplace
  · obtain rfl : script = renderer := List.mem_singleton.1 hscript
    simp [renderer, WindowScript.Allows, Step.Regular, Task.Regular]
  · rw [watchedStart, client_gathering]
    rfl

/-- The first client put a value. -/
def afterPut : World :=
  watchedStart.after [.task 0 (.openSession (some firstWindow)),
    .task 0 (.claim (some firstWindow)), .task 0 (.put ⟨4⟩ (.bytes [1]))]

/-- It tells the viewer and the listener. -/
theorem close_announced_after_put :
    (closeSession.run.run ⟨consult, send consult 1⟩ 0 afterPut).1 =
        .ok ⟨some viewing, some firstWindow⟩ ∧
      afterPut.board.sequence = 2 ∧ afterPut.board.openSequence = 0 ∧
      afterPut.Announced (closeSession.run.run ⟨consult, send consult 1⟩ 0 afterPut).2 := by
  have hreply : (closeSession.run.run ⟨consult, send consult 1⟩ 0 afterPut).1 =
      .ok ⟨some viewing, some firstWindow⟩ := rfl
  have hworld : watchedStart.Arises afterPut := by
    refine Arises.start.after ?_
    simp [Step.Regular, Task.Regular]
  have hclose : closeSession.run.run ⟨consult, send consult 1⟩ 0 afterPut =
      (.ok ⟨some viewing, some firstWindow⟩,
        (closeSession.run.run ⟨consult, send consult 1⟩ 0 afterPut).2) := Prod.ext hreply rfl
  have hpresent : afterPut.Present 0 := rfl
  have hcount : (closeSession.run.run ⟨consult, send consult 1⟩ 0
      afterPut).2.requests.countP Request.isChange < UInt32.size := by
    have htwo : (closeSession.run.run ⟨consult, send consult 1⟩ 0
        afterPut).2.requests.countP Request.isChange = 2 := rfl
    rw [htwo]
    decide
  have hannounced := close_announced_iff atRest_watchedStart hworld hpresent hclose hcount
  exact ⟨hreply, rfl, rfl, hannounced.2 (.inl rfl)⟩

/-- The first client promised texts. The second one got one of them, so that the first one put it in
the middle of the second one's session. -/
def afterRendering : World :=
  watchedStart.after [.task 0 (.openSession (some firstWindow)),
    .task 0 (.claim (some firstWindow)), .task 0 (.putDelayed Format.text),
    .task 0 (.putDelayed Format.oemText), .task 0 (.putDelayed Format.unicodeText),
    .task 0 .closeSession, .task 1 (.openSession none), .task 1 (.get Format.text)]

/-- When the second client closes its session, the viewer is told of the change, but no plan is made
and the listener is not told. -/
theorem listeners_not_told_after_rendering :
    let result := closeSession.run.run ⟨consult, send consult 1⟩ 1 afterRendering
    watchedStart.AtRest 2 ∧ watchedStart.Arises afterRendering ∧
      result.1 = .ok ⟨some viewing, some firstWindow⟩ ∧
      result.2.requests.countP Request.isChange < UInt32.size ∧
      afterRendering.board.openSequence = 5 ∧ result.2.board.sequence = 6 ∧
      result.2.events = afterRendering.events ++
        [.posted viewing (.drawClipboard (some firstWindow))] ∧
      result.2.requests = afterRendering.requests ++ [.closeSession] ∧
      ¬ afterRendering.Announced result.2 := by
  intro result
  have hworld : watchedStart.Arises afterRendering := by
    refine Arises.start.after ?_
    simp [Step.Regular, Task.Regular]
  have hcount : (closeSession.run.run ⟨consult, send consult 1⟩ 1
      afterRendering).2.requests.countP Request.isChange < UInt32.size := by
    have hsix : (closeSession.run.run ⟨consult, send consult 1⟩ 1
        afterRendering).2.requests.countP Request.isChange = 6 := rfl
    rw [hsix]
    decide
  have hasked : result.2.requests = afterRendering.requests ++ [.closeSession] := rfl
  refine ⟨atRest_watchedStart, hworld, rfl, hcount, rfl, rfl, rfl, hasked, ?_⟩
  rintro ⟨told, asked, _, hrequests, hlisteners, _⟩
  rw [hasked, List.append_cancel_left_eq] at hrequests
  have hplanned := (hlisteners.1 (by decide)).1
  simp [← hrequests] at hplanned

end Acting

end Pasteboard
