import Pasteboard.Proofs.Client.Idle
import Pasteboard.Proofs.Reading.Retained

/-!
# Data that are put on request

A client gets a format whose data are missing. The owner's window is asked for them, and the client
that made the claim puts them in the middle of the other one's session: see
`World.data_put_on_request`. From then on the data are there, `World.Retains`, and stay there while
nobody puts anything else in their place.
-/

namespace Pasteboard

open Call World
open Acting (fetchWith)

/-- A message that somebody waits for. -/
def Event.IsSent : Event → Bool
  | .sent _ _ _ => true
  | _ => false

/-- What is got under a format for memory blocks if nobody is asked for it any more. -/
def Board.found (board : Board) (format : Format) : Except ClientError Data :=
  if (board.entries.find? format).getD [] = [] then .error (.noData format)
  else .ok (.bytes ((board.entries.find? format).getD []))

namespace World

/-- The messages that somebody waited for. -/
def sent (world : World) : List Event := world.events.filter Event.IsSent

/-- The reader has its session open and finds nothing under a format, which it does not derive. The
owner's window is well, and its client, the claimer, is somebody else. -/
structure Lacks (reader claimer : Nat) (owner : WindowId) (format : Format) (world : World) :
    Prop where
  idle : world.Idle reader
  opened : world.board.isOpenBy (clientId reader) = true
  growth : world.board.growth = []
  retries : 2 ≤ (world.client reader).settings.overflowRetries
  underived : (world.client reader).sources.source? format = none
  missing : (world.board.entries.find? format).getD [] = []
  memory : format.shape = .memory
  owned : world.board.owner = some owner
  claimed : world.board.ownerClient = some (clientId claimer)
  other : claimer ≠ reader
  free : world.Idle claimer
  well : (world.script owner).trouble = none

variable {answer : Answering} {medium : Medium} {world now later : World}
  {place reader claimer : Nat} {owner window : WindowId} {format : Format} {payload data : Bytes}

/-- After the message the reader's world is the same but for the board. -/
structure Answered (world : World) (reader : Nat) (board : Board) (event : Event) (later : World) :
    Prop where
  present : later.Present reader
  client_eq : later.client reader = world.client reader
  board_eq : later.board = board
  windows_eq : later.windows = world.windows
  sent_eq : later.sent = world.sent ++ [event]

/-- Events that are no messages sent add none. -/
theorem sent_of_events {told : List Event} (h : later.events = world.events ++ told)
    (htold : told.filter Event.IsSent = []) : later.sent = world.sent := by
  rw [sent, h, List.filter_append, htold, List.append_nil, sent]

namespace Answered

variable {board : Board} {event : Event} {asked : List Request}

/-- Processing of a message ends with a record of it. -/
theorem handled (h : world.Answered reader board event now) (outcomes : List Outcome) :
    world.Answered reader board event (now.record (.handled window outcomes)) :=
  ⟨h.present, h.client_eq, h.board_eq, h.windows_eq, (sent_of_events rfl rfl).trans h.sent_eq⟩

/-- The reader goes on from there, with nothing told and nothing asked yet. -/
theorem start (h : world.Answered reader board event now) :
    now.Evolves reader board (world.client reader) [] [] now := by
  have hstart := Evolves.start h.present
  rwa [h.client_eq, h.board_eq] at hstart

/-- What the reader does without a message leaves it at that. -/
theorem trans (h : world.Answered reader board event now)
    (hlater : now.Evolves reader board (world.client reader) [] asked later)
    (hwindows : later.windows = now.windows) : world.Answered reader board event later :=
  ⟨hlater.present_iff.2 h.present, hlater.client_eq, hlater.board_eq,
    hwindows.trans h.windows_eq, (sent_of_events hlater.events_eq rfl).trans h.sent_eq⟩

/-- It does not matter whether the reader is busy. -/
theorem setBusy (h : world.Answered reader board event now) (busy : Bool) :
    world.Answered reader board event (now.setBusy reader busy) :=
  ⟨h.present.setBusy busy, (client_setBusy now reader reader busy).trans h.client_eq, h.board_eq,
    h.windows_eq, h.sent_eq⟩

end Answered

/-- The clients do nothing about the message, or they try to put what is not accepted. -/
def PutsNothing (claimer : Nat) (format : Format) (steps : List Step) : Prop :=
  steps = [] ∨ ∃ data, steps = [.task claimer (.put format (.bytes data))] ∧ ¬ format.Accepts data

namespace Lacks

variable {board : Board} {client : Client} {asked asked' : List Request}
  (h : world.Lacks reader claimer owner format)

include h

/-- The message with which the reader asks for the data. -/
abbrev request (_ : world.Lacks reader claimer owner format) : Event :=
  .sent owner (.renderFormat format) (some (world.client reader).settings.renderTimeout)

section Asked

variable (hnow : (world.setBusy reader true).Evolves reader world.board (world.client reader) []
  asked now) (hwindows : now.windows = world.windows)

include hnow

/-- The owner's client is not the one that waits. -/
theorem idle_claimer (event : Event) : (now.record event).Idle claimer := by
  have hidle : now.Idle claimer := by
    refine hnow.idle_of_ne h.other ?_
    rw [Idle, World.setBusy, member?_updateMember_of_ne world _ h.other]
    exact h.free
  exact hidle

include hwindows

/-- What the claimer does about the message changes the board for the reader, and nothing else. -/
theorem answered {event : Event} (hsent : event.IsSent = true)
    (hlater : (now.record event).Evolves claimer board client [] asked' later)
    (hsame : later.windows = now.windows) : world.Answered reader board event later where
  present := by
    rw [hlater.present_iff]
    exact hnow.present_iff.2 (h.idle.present.setBusy true)
  client_eq := by
    rw [hlater.client_of_ne h.other.symm]
    exact hnow.client_eq
  board_eq := hlater.board_eq
  windows_eq := hsame.trans hwindows
  sent_eq := by
    rw [sent_of_events hlater.events_eq rfl, sent, record, hnow.events_eq]
    simp [sent, hsent, World.setBusy, updateMember]

omit hnow in
/-- The owner's window answers a request for data, and what clients do about it decides what the
reader finds. -/
theorem exists_send {steps : List Step}
    (hreaction : world.reaction owner (.renderFormat format) = steps) (depth : Nat)
    (hsteps : world.Answered reader board h.request
      ((now.record h.request).performAll ⟨consult, send consult depth⟩ steps).2) :
    ∃ flag later, send consult (depth + 1) owner (.renderFormat format)
        (some (world.client reader).settings.renderTimeout) now = (.ok flag, later) ∧
      world.Answered reader board h.request later := by
  have hscript : now.script owner = world.script owner := by rw [script, hwindows, script]
  refine send_renderFormat (by rw [hscript, h.well]) depth _
    (fun later => world.Answered reader board h.request later) ?_
    fun _ outcomes hanswered => hanswered.handled outcomes
  rw [reaction, hscript, ← reaction, hreaction]
  exact hsteps

/-- A message to an owner that puts the payload leaves it on the board. -/
theorem send_of_put (hreaction : world.reaction owner (.renderFormat format) =
      [.task claimer (.put format (.bytes data))]) (haccepts : format.Accepts data) (depth : Nat) :
    ∃ flag later, send consult (depth + 1) owner (.renderFormat format)
        (some (world.client reader).settings.renderTimeout) now = (.ok flag, later) ∧
      world.Answered reader (world.board.stored format data) h.request later := by
  refine h.exists_send hwindows hreaction depth ?_
  have hboard : (now.record h.request).board = world.board := hnow.board_eq
  obtain ⟨_, hlater, hsame⟩ := act_put_of_accepts ⟨consult, send consult depth⟩ rfl
    (h.idle_claimer hnow h.request) (.inr (by rw [hboard, h.claimed])) h.memory haccepts
  rw [hboard] at hlater
  exact h.answered hnow hwindows rfl hlater hsame

/-- A message to an owner that puts nothing leaves the board as it is. -/
theorem send_of_nothing
    (hreaction : PutsNothing claimer format (world.reaction owner (.renderFormat format)))
    (depth : Nat) :
    ∃ flag later, send consult (depth + 1) owner (.renderFormat format)
        (some (world.client reader).settings.renderTimeout) now = (.ok flag, later) ∧
      world.Answered reader world.board h.request later := by
  have hidle := h.idle_claimer hnow h.request
  have hboard : (now.record h.request).board = world.board := hnow.board_eq
  rcases hreaction with hnone | ⟨data, hput, hrefused⟩
  · refine h.exists_send hwindows hnone depth ?_
    have hstart := Evolves.start hidle.present
    rw [hboard] at hstart
    exact h.answered hnow hwindows rfl hstart rfl
  · refine h.exists_send hwindows hput depth ?_
    obtain ⟨_, hlater, hsame⟩ := act_put_of_not_accepts ⟨consult, send consult depth⟩ rfl hidle
      hrefused
    rw [hboard] at hlater
    exact h.answered hnow hwindows rfl hlater hsame

end Asked

/-- The reader asks for the data once, and looks at what it finds then. -/
theorem ends_get (hgrowth : board.growth = []) (hopen : board.isOpenBy (clientId reader) = true)
    (depth : Nat)
    (hsend : ∀ asked now, (world.setBusy reader true).Evolves reader world.board
      (world.client reader) [] asked now → now.windows = world.windows →
      ∃ flag later, send consult (depth + 1) owner (.renderFormat format)
          (some (world.client reader).settings.renderTimeout) now = (.ok flag, later) ∧
        world.Answered reader board h.request later) :
    (Acting.get format).run.Ends ⟨consult, send consult (depth + 1)⟩ reader
      (fun result later => result = board.found format ∧
        world.Answered reader board h.request later) (world.setBusy reader true) := by
  simp only [Acting.get, ends_acting_bind, ends_lift, ends_client, client_setBusy, h.underived]
  simp only [Acting.fetch, ends_acting_bind]
  refine Acting.ends_fetchBytes_of_missing rfl h.idle.start h.growth h.opened h.missing h.owned
    h.retries fun asked now hnow hwindows answer later hsent => ?_
  obtain ⟨flag, later, hanswer, hlater⟩ := hsend asked now hnow hwindows
  obtain ⟨rfl, rfl⟩ := Prod.mk.inj (hanswer.symm.trans hsent)
  intro limit left bufferLen
  -- The reader looks once more at what the owner's answer left on the board.
  by_cases hmissing : (board.entries.find? format).getD [] = []
  · refine Acting.ends_fetchWith_of_missing rfl ?_ ?_ ?_
    · rwa [hlater.board_eq]
    · rwa [hlater.board_eq]
    · refine ⟨by rw [Board.found, if_pos hmissing], ?_⟩
      have hlooked := hlater.start.consult (.get format bufferLen)
      rw [Board.handle_get_board format _ hgrowth] at hlooked
      exact hlater.trans hlooked rfl
  · obtain ⟨payload, hpayload, hne⟩ := Entries.exists_of_getD_ne_nil hmissing
    have hfound : board.found format = .ok (.bytes payload) := by
      rw [Board.found, if_neg hmissing, hpayload, Option.getD_some]
    have hgot : (fetchWith format limit (fun _ _ _ => throw (.noData format)) (left + 2)
        bufferLen).run.Ensures .silent reader (fun result final => result = .ok payload ∧ ∃ asked,
          later.Evolves reader board (world.client reader) [] asked final) later :=
      Acting.ensures_fetchWith_of_find? rfl hlater.start hgrowth hopen hpayload hne
        fun asked final hfinal => ⟨rfl, asked, hfinal⟩
    refine (hgot.ends rfl).mono fun result final hfinal => ?_
    obtain ⟨⟨rfl, asked, hfinal⟩, hsame⟩ := hfinal
    simp only [ends_lift, ends_client, ends_ofResult, Data.decode, h.memory, mapError_ok,
      ends_modify]
    have hkept := hfinal.modify fun client => { client with graphics := client.graphics }
    exact ⟨hfound.symm, hlater.trans hkept hsame⟩

/-- After the one request, the get comes to what the reader finds on the board. -/
theorem get (hgrowth : board.growth = []) (hopen : board.isOpenBy (clientId reader) = true)
    (depth : Nat)
    (hsend : ∀ asked now, (world.setBusy reader true).Evolves reader world.board
      (world.client reader) [] asked now → now.windows = world.windows →
      ∃ flag later, send consult (depth + 1) owner (.renderFormat format)
          (some (world.client reader).settings.renderTimeout) now = (.ok flag, later) ∧
        world.Answered reader board h.request later) :
    ∃ later, world.act ⟨consult, send consult (depth + 1)⟩ reader (.get format) =
        (.ofResult (fun data => .data data none) (board.found format), later) ∧
      later.Idle reader ∧ world.Answered reader board h.request later := by
  have hdone := act_of_ends ⟨consult, send consult (depth + 1)⟩ h.idle (.get format)
    (fun outcome later =>
      outcome = .ofResult (fun data => .data data none) (board.found format) ∧
        later.Idle reader ∧ world.Answered reader board h.request later) (by
      rw [Task.run, Task.ends_dataOutcome]
      refine (h.ends_get hgrowth hopen depth hsend).mono fun result later hlater => ?_
      obtain ⟨rfl, hlater⟩ := hlater
      refine ⟨?_, hlater.present.idle, hlater.setBusy false⟩
      unfold Board.found
      split <;> rfl)
  exact ⟨_, Prod.ext hdone.1 rfl, hdone.2⟩

/-- So a get comes to the payload, which is on the board from then on. -/
theorem get_of_put (hreaction : world.reaction owner (.renderFormat format) =
      [.task claimer (.put format (.bytes data))]) (haccepts : format.Accepts data) (depth : Nat) :
    ∃ later, world.act ⟨consult, send consult (depth + 1)⟩ reader (.get format) =
        (.done (.data (.bytes data) none), later) ∧
      later.Idle reader ∧ later.Retains reader format data ∧
      world.Answered reader (world.board.stored format data) h.request later := by
  have hstored : (world.board.stored format data).entries.find? format = some data := by
    rw [Board.stored, Entries.find?_insert, if_pos rfl]
  have hgrowth : (world.board.stored format data).growth = [] := h.growth
  have hopen : (world.board.stored format data).isOpenBy (clientId reader) = true := h.opened
  obtain ⟨later, hact, hidle, hlater⟩ := h.get hgrowth hopen depth fun asked now hnow hwindows =>
    h.send_of_put hnow hwindows hreaction haccepts depth
  rw [Board.found, hstored, Option.getD_some, if_neg haccepts.ne_nil] at hact
  refine ⟨later, hact, hidle, ⟨?_, ?_, ?_, ?_, ?_⟩, hlater⟩
  · rw [hlater.board_eq, hopen]
  · rw [hlater.board_eq, hgrowth]
  · rw [hlater.client_eq]
    exact h.retries
  · rw [hlater.client_eq, h.underived]
  · rw [hlater.board_eq, hstored]

/-- So a get comes to no data, after one message. -/
theorem get_of_nothing
    (hreaction : PutsNothing claimer format (world.reaction owner (.renderFormat format)))
    (depth : Nat) :
    ∃ later, world.act ⟨consult, send consult (depth + 1)⟩ reader (.get format) =
        (.failed (.noData format), later) ∧ world.Answered reader world.board h.request later := by
  obtain ⟨later, hact, _, hlater⟩ := h.get h.growth h.opened depth fun asked now hnow hwindows =>
    h.send_of_nothing hnow hwindows hreaction depth
  rw [Board.found, if_pos h.missing] at hact
  exact ⟨later, hact, hlater⟩

end Lacks

/-- A get of the client at the place gives the payload and sends no message. -/
def GetsQuietly (world : World) (place : Nat) (format : Format) (payload : Bytes) : Prop :=
  ∃ later, world.act (world.medium consult) place (.get format) =
    (.done (.data (.bytes payload) none), later) ∧ later.events = world.events

/-- A client gets a format for memory blocks whose data are missing and not derivable, and the
owner's window is well. If it has the owner's client put data, these are got after one request,
whatever the window answers; further gets find them, also if other things are done in between that
spare them. If nothing is put, the get fails after the same request, and the board is as it was. -/
theorem data_put_on_request (h : world.Lacks reader claimer owner format) :
    (∀ data, world.reaction owner (.renderFormat format) =
        [.task claimer (.put format (.bytes data))] → format.Accepts data →
      ∃ later, world.act (world.medium consult) reader (.get format) =
          (.done (.data (.bytes data) none), later) ∧
        later.sent = world.sent ++ [.sent owner (.renderFormat format)
          (some (world.client reader).settings.renderTimeout)] ∧
        (∀ count, (later.after (List.replicate count (.task reader (.get format)))).events =
            later.events ∧
          (later.after (List.replicate count (.task reader (.get format)))).GetsQuietly reader
            format data) ∧
        (world.Allows (Step.Spares reader format data) →
          ∀ steps, (∀ step ∈ steps, Step.Spares reader format data step) →
            (later.after steps).Idle reader → (later.after steps).GetsQuietly reader format data)) ∧
    (PutsNothing claimer format (world.reaction owner (.renderFormat format)) →
      ∃ later, world.act (world.medium consult) reader (.get format) =
          (.failed (.noData format), later) ∧
        later.sent = world.sent ++ [.sent owner (.renderFormat format)
          (some (world.client reader).settings.renderTimeout)] ∧
        later.board = world.board) := by
  have hquiet {now : World} {data : Bytes} (hidle : now.Idle reader)
      (hretains : now.Retains reader format data) (hne : data ≠ []) :
      now.GetsQuietly reader format data := by
    obtain ⟨later, hact, hevents, _⟩ := hretains.get (now.medium consult) rfl hidle h.memory hne
    exact ⟨later, hact, hevents⟩
  refine ⟨fun data hreaction haccepts => ?_, fun hreaction => ?_⟩
  · obtain ⟨later, hact, hidle, hretains, hlater⟩ := h.get_of_put hreaction haccepts _
    refine ⟨later, hact, hlater.sent_eq, fun count => ?_, fun hallows steps hsteps hfree => ?_⟩
    · obtain ⟨hevents, hfree, hkept⟩ :=
        hretains.performAll_gets (later.medium consult) rfl hidle h.memory haccepts.ne_nil count
      exact ⟨hevents, hquiet hfree hkept haccepts.ne_nil⟩
    · exact hquiet hfree (hretains.after (hallows.of_windows_eq hlater.windows_eq) hsteps)
        haccepts.ne_nil
  · obtain ⟨later, hact, hlater⟩ := h.get_of_nothing hreaction _
    exact ⟨later, hact, hlater.sent_eq, hlater.board_eq⟩

/-- A window that has the first client put three bytes when it is asked for them, and denies it. -/
def denier : WindowScript Step where
  id := firstWindow
  answer := true
  trouble := none
  viewer := none
  handlers := [⟨"RenderFormat", some ⟨4⟩, [.task 0 (.put ⟨4⟩ (.bytes [1, 2, 3]))], some false⟩]

/-- The first client took the board over and promised the bytes. The second one has the clipboard
open. -/
def awaiting : World :=
  (gathering .empty 2 [denier]).after [.task 0 (.openSession (some firstWindow)),
    .task 0 (.claim (some firstWindow)), .task 0 (.putDelayed ⟨4⟩), .task 0 .closeSession,
    .task 1 (.openSession none)]

/-- The second client gets the bytes, and gets them again after it asked for others in vain. -/
theorem promised_bytes_put :
    awaiting.Lacks 1 0 firstWindow ⟨4⟩ ∧ awaiting.Lacks 1 0 firstWindow ⟨5⟩ ∧
      (∃ later, awaiting.act (awaiting.medium consult) 1 (.get ⟨4⟩) =
          (.done (.data (.bytes [1, 2, 3]) none), later) ∧
        later.sent = awaiting.sent ++ [.sent firstWindow (.renderFormat ⟨4⟩) (some ⟨5000⟩)] ∧
        (later.after [.task 1 (.get ⟨5⟩)]).GetsQuietly 1 ⟨4⟩ [1, 2, 3]) ∧
      ∃ later, awaiting.act (awaiting.medium consult) 1 (.get ⟨5⟩) =
          (.failed (.noData ⟨5⟩), later) ∧
        later.sent = awaiting.sent ++ [.sent firstWindow (.renderFormat ⟨5⟩) (some ⟨5000⟩)] ∧
        later.board = awaiting.board := by
  have hbytes : awaiting.Lacks 1 0 firstWindow ⟨4⟩ :=
    ⟨⟨_, rfl, rfl⟩, rfl, rfl, by decide, rfl, rfl, rfl, rfl, rfl, by decide, ⟨_, rfl, rfl⟩, rfl⟩
  have hnothing : awaiting.Lacks 1 0 firstWindow ⟨5⟩ :=
    ⟨⟨_, rfl, rfl⟩, rfl, rfl, by decide, rfl, rfl, rfl, rfl, rfl, by decide, ⟨_, rfl, rfl⟩, rfl⟩
  have haccepts : Format.Accepts ⟨4⟩ [1, 2, 3] := ⟨by decide, by decide, by decide⟩
  have hallows : awaiting.Allows (Step.Spares 1 ⟨4⟩ [1, 2, 3]) := by
    intro script hscript handler hhandler step hstep
    obtain rfl : script = denier := List.mem_singleton.1 hscript
    obtain rfl := List.mem_singleton.1 hhandler
    obtain rfl := List.mem_singleton.1 hstep
    exact .put fun _ => rfl
  obtain ⟨later, hact, hsent, _, hagain⟩ :=
    (data_put_on_request hbytes).1 [1, 2, 3] rfl haccepts
  refine ⟨hbytes, hnothing, ⟨later, hact, hsent, ?_⟩,
    (data_put_on_request hnothing).2 (.inl rfl)⟩
  obtain rfl : (awaiting.act (awaiting.medium consult) 1 (.get ⟨4⟩)).2 = later := by rw [hact]
  refine hagain hallows _ (fun step hstep => ?_) ⟨_, rfl, rfl⟩
  obtain rfl := List.mem_singleton.1 hstep
  exact .get

end World

end Pasteboard
