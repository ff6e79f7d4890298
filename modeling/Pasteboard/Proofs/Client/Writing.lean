import Pasteboard.Proofs.Board.Requests
import Pasteboard.Proofs.Call.Operations

/-!
# Opening, putting and claiming

What the writing operations make of the board and of the client, if the store has no faults. Each
operation is described by the stretch of work that it adds to one that already happened.
-/

namespace Pasteboard

namespace Client

/-- The client after it opened a session. -/
def opened (client : Client) (owner window : Option WindowId) : Client :=
  { client with
    sources := if owner.isNone then .empty else client.sources
    session := some ⟨window, false⟩ }

/-- The client after it put a payload. -/
def stored (client : Client) (format : Format) : Client :=
  { client with sources := client.sources.remove format }.markChanged

/-- The client after it took the board over. -/
def claimed (client : Client) : Client :=
  { client with sources := .empty }.markChanged

/-- A session in which something changed is still one. -/
@[simp] theorem isSome_session_markChanged (client : Client) :
    client.markChanged.session.isSome = client.session.isSome := by
  simp [markChanged]

@[simp] theorem isSome_session_stored (client : Client) (format : Format) :
    (client.stored format).session.isSome = client.session.isSome := by
  simp [stored]

@[simp] theorem isSome_session_claimed (client : Client) :
    client.claimed.session.isSome = client.session.isSome := by
  simp [claimed]

end Client

/-- What the head of the chain of viewers is told. -/
def Notice.headEvents (viewer owner : Option WindowId) : List Event :=
  viewer.toList.map fun head => .posted head (.drawClipboard owner)

/-- What the listeners are told. -/
def Notice.listenerEvents (listeners : List WindowId) : List Event :=
  listeners.map fun listener => .posted listener .clipboardUpdate

namespace Notice

/-- The head is told of the owner, if there is a head. -/
theorem mem_headEvents {viewer owner owner' : Option WindowId} {head : WindowId} :
    .posted head (.drawClipboard owner') ∈ headEvents viewer owner ↔
      viewer = some head ∧ owner' = owner := by
  cases viewer <;> simp [headEvents, eq_comm]

/-- All listeners are told that the contents changed. -/
theorem mem_listenerEvents {listeners : List WindowId} {window : WindowId} {message : Message} :
    .posted window message ∈ listenerEvents listeners ↔
      window ∈ listeners ∧ message = .clipboardUpdate := by
  simp only [listenerEvents, List.mem_map, Event.posted.injEq]
  constructor
  · rintro ⟨listener, hmem, rfl, rfl⟩
    exact ⟨hmem, rfl⟩
  · rintro ⟨hmem, rfl⟩
    exact ⟨window, hmem, rfl, rfl⟩

end Notice

open Call World

variable {setting : Setting} {place : Nat} {world now : World} {board : Board}
  {client : Client} {told : List Event} {asked : List Request}

namespace Notice

/-- Telling the head leaves a message with it and nothing else. -/
theorem ensures_notifyHead (h : world.Evolves place board client told asked now)
    (viewer owner : Option WindowId) {goal : Unit → World → Prop}
    (hgoal : ∀ later,
      world.Evolves place board client (told ++ headEvents viewer owner) asked later →
      goal () later) :
    (notifyHead viewer owner).Ensures setting place goal now := by
  cases viewer with
  | none => exact hgoal now (by simpa [headEvents] using h)
  | some head =>
      simp only [notifyHead, notifyViewer, ensures_bind, ensures_trace, Ensures]
      have hpost (entry : Note) := (h.note entry).post head (.drawClipboard owner)
      split
      · exact hgoal _ (hpost _)
      · exact hgoal _ ((hpost _).note _)

/-- Telling the listeners leaves a message with each of them. -/
theorem ensures_notifyListeners (h : world.Evolves place board client told asked now)
    (listeners : List WindowId) {goal : Unit → World → Prop}
    (hgoal : ∀ later,
      world.Evolves place board client (told ++ listenerEvents listeners) asked later →
      goal () later) :
    (notifyListeners listeners).Ensures setting place goal now := by
  induction listeners generalizing told now with
  | nil => exact hgoal now (by simpa [listenerEvents] using h)
  | cons listener rest ih =>
      simp only [notifyListeners, notifyListener, ensures_bind, ensures_trace, Ensures]
      have hpost (entry : Note) := (h.note entry).post listener .clipboardUpdate
      have hgoal' : ∀ later, world.Evolves place board client
          (told ++ [.posted listener .clipboardUpdate] ++ listenerEvents rest) asked later →
          goal () later := by
        intro later hlater
        exact hgoal later (by simpa [listenerEvents] using hlater)
      split
      · exact ih (hpost _) hgoal'
      · exact ih ((hpost _).note _) hgoal'

end Notice

namespace Acting

/-- Opening a free board succeeds. -/
theorem ensures_openSession (hanswer : setting.answer = World.consult)
    (h : world.Evolves place board client told asked now) (window : Option WindowId)
    {goal : Except ClientError Unit → World → Prop} (hsession : board.session = none)
    (hgoal : ∀ later,
      world.Evolves place (board.opened (clientId place) window)
        (client.opened board.owner window) (told ++ [.refreshed])
        (asked ++ [.openSession window]) later →
      goal (.ok ()) later) :
    (openSession window).run.Ensures setting place goal now := by
  simp only [openSession, Ask.openSession, ensures_acting_bind, ensures_lift, Ensures,
    ensures_ofAsking, ensures_trace, ensures_modify]
  refine ensures_ask hanswer (h.record .refreshed) _ _ fun later hlater => ?_
  rw [Board.handle_openSession_of_none window hsession] at hlater ⊢
  exact hgoal _ ((hlater.note _).modify (·.opened board.owner window))

/-- Opening a board with a session is refused and changes nothing. -/
theorem ensures_openSession_busy (hanswer : setting.answer = World.consult)
    (h : world.Evolves place board client told asked now) (window : Option WindowId)
    {goal : Except ClientError Unit → World → Prop} (hsession : board.session.isSome = true)
    (hgoal : ∀ later,
      world.Evolves place board client (told ++ [.refreshed])
        (asked ++ [.openSession window]) later →
      goal (.error .alreadyOpen) later) :
    (openSession window).run.Ensures setting place goal now := by
  simp only [openSession, Ask.openSession, ensures_acting_bind, ensures_lift, Ensures,
    ensures_ofAsking]
  refine ensures_ask hanswer (h.record .refreshed) _ _ fun later hlater => ?_
  rw [Board.handle_openSession_of_isSome window hsession] at hlater ⊢
  exact hgoal later hlater

/-- Naming a format in the log takes at most a request for its name. -/
theorem ensures_traceLabelled (hanswer : setting.answer = World.consult)
    (h : world.Evolves place board client told asked now) (front : String) (format : Format)
    {goal : Unit → World → Prop}
    (hgoal : ∀ names later, (∀ request ∈ names, request.IsNaming) →
      world.Evolves place board client told (asked ++ names) later → goal () later) :
    (traceLabelled front format).Ensures setting place goal now := by
  have hquiet : ∀ later, world.Evolves place board client told asked later → goal () later := by
    intro later hlater
    exact hgoal [] later (by simp) (by simpa using hlater)
  simp only [traceLabelled, ensures_bind, ensures_client]
  split
  · simp only [ensures_bind, label]
    split
    · simp only [ensures_bind, Ask.formatName]
      refine ensures_ask hanswer h _ _ fun later hlater => ?_
      have hnamed (entry : Note) := hgoal [.formatName format] _
        (by simp [Request.IsNaming]) (hlater.note entry)
      split
      · exact hnamed _
      · exact hnamed _
    · exact hquiet _ (h.note _)
  · exact hquiet _ h

/-- A put that is accepted stores the payload, and the format is not derived any more. -/
theorem ensures_putBytes (hanswer : setting.answer = World.consult)
    (h : world.Evolves place board client told asked now) {format : Format} (payload : Bytes)
    {goal : Except ClientError Unit → World → Prop} (hadmits : board.Admits (clientId place))
    (hformat : format ≠ Format.null)
    (hgoal : ∀ names later, (∀ request ∈ names, request.IsNaming) →
      world.Evolves place (board.stored format payload) (client.stored format) told
        (asked ++ .put format payload :: names) later →
      goal (.ok ()) later) :
    (putBytes format payload).run.Ensures setting place goal now := by
  simp only [putBytes, Ask.acknowledge, ensures_acting_bind, ensures_ofAsking, ensures_lift]
  refine ensures_ask hanswer h _ _ fun later hlater => ?_
  rw [Board.handle_put payload hadmits hformat] at hlater ⊢
  refine ensures_traceLabelled hanswer hlater _ format fun names named hnames hnamed => ?_
  have hstored := hnamed.modify (·.stored format)
  rw [List.append_assoc] at hstored
  exact hgoal names _ hnames hstored

/-- A put that is refused changes nothing. -/
theorem ensures_putBytes_refused (hanswer : setting.answer = World.consult)
    (h : world.Evolves place board client told asked now) {format : Format} (payload : Bytes)
    {goal : Except ClientError Unit → World → Prop}
    (hrefused : ¬ (board.Admits (clientId place) ∧ format ≠ Format.null))
    (hgoal : ∀ error later,
      world.Evolves place board client told (asked ++ [.put format payload]) later →
      goal (.error error) later) :
    (putBytes format payload).run.Ensures setting place goal now := by
  simp only [putBytes, Ask.acknowledge, ensures_acting_bind, ensures_ofAsking]
  refine ensures_ask hanswer h _ _ fun later hlater => ?_
  obtain ⟨status, hhandle⟩ := Board.handle_put_of_not payload hrefused
  rw [hhandle] at hlater ⊢
  exact hgoal _ later hlater

/-- Putting a value is putting its payload, if it has one. -/
theorem ensures_put (h : world.Evolves place board client told asked now) {format : Format}
    (data : Data) {goal : Except ClientError Unit → World → Prop}
    (herror : ∀ error, goal (.error error) now)
    (hgoal : ∀ payload, data.encode client.graphics format = .ok payload →
      (putBytes format payload).run.Ensures setting place goal now) :
    (put format data).run.Ensures setting place goal now := by
  simp only [put, ensures_acting_bind, ensures_lift, ensures_client, ensures_ofResult,
    h.client_eq]
  cases hencode : data.encode client.graphics format with
  | error error => exact herror _
  | ok payload => exact hgoal payload hencode

/-- Putting a value fails without a trace, or stores its payload. -/
theorem ensures_put_or_fail (hanswer : setting.answer = World.consult)
    (h : world.Evolves place board client told asked now) {format : Format} (data : Data)
    {goal : Except ClientError Unit → World → Prop}
    (hfail : ∀ error asked' later, world.Evolves place board client told asked' later →
      goal (.error error) later)
    (hstored : ∀ payload asked' later, data.encode client.graphics format = .ok payload →
      world.Evolves place (board.stored format payload) (client.stored format) told asked' later →
      goal (.ok ()) later) :
    (put format data).run.Ensures setting place goal now := by
  refine ensures_put h data (fun error => hfail error asked now h) fun payload hencode => ?_
  by_cases haccepted : board.Admits (clientId place) ∧ format ≠ Format.null
  · exact ensures_putBytes hanswer h payload haccepted.1 haccepted.2
      fun _ later _ hlater => hstored payload _ later hencode hlater
  · exact ensures_putBytes_refused hanswer h payload haccepted
      fun error later hlater => hfail error _ later hlater

/-- The part of a claim that comes after the previous owner was asked to let go. -/
def takeOver (viewer owner : Option WindowId) : Acting Unit := do
  ofAsking (Ask.acknowledge (.claimOwnership owner))
  Call.trace (WindowId.shownOption owner ++ " now owns the clipboard")
  Call.modify Client.claimed
  Notice.notifyHead viewer owner

/-- A claim dismisses the former owner, if there is one, and takes over. -/
theorem claimOwnership_eq (owner : Option WindowId) :
    claimOwnership owner = (do
      let info ← ofAsking Ask.info
      match info.owner with
      | some previous => dismiss previous
      | none => pure ()
      takeOver info.viewer owner) := rfl

/-- The client whose session is open takes the board over. -/
theorem ensures_takeOver (hanswer : setting.answer = World.consult)
    (h : world.Evolves place board client told asked now) (viewer owner : Option WindowId)
    {goal : Except ClientError Unit → World → Prop}
    (hopen : board.isOpenBy (clientId place) = true)
    (hgoal : ∀ later,
      world.Evolves place (board.claimed (clientId place) owner) client.claimed
        (told ++ Notice.headEvents viewer owner) (asked ++ [.claimOwnership owner]) later →
      goal (.ok ()) later) :
    (takeOver viewer owner).run.Ensures setting place goal now := by
  simp only [takeOver, Ask.acknowledge, ensures_acting_bind, ensures_ofAsking, ensures_lift,
    ensures_trace, ensures_modify]
  refine ensures_ask hanswer h _ _ fun later hlater => ?_
  rw [Board.handle_claimOwnership owner hopen] at hlater ⊢
  exact Notice.ensures_notifyHead ((hlater.note _).modify Client.claimed) viewer owner
    fun later hlater => hgoal later hlater

/-- Any other client is refused and tells nobody. -/
theorem ensures_takeOver_refused (hanswer : setting.answer = World.consult)
    (h : world.Evolves place board client told asked now) (viewer owner : Option WindowId)
    {goal : Except ClientError Unit → World → Prop}
    (hopen : board.isOpenBy (clientId place) = false)
    (hgoal : ∀ later,
      world.Evolves place board client told (asked ++ [.claimOwnership owner]) later →
      goal (.error .notOpen) later) :
    (takeOver viewer owner).run.Ensures setting place goal now := by
  simp only [takeOver, Ask.acknowledge, ensures_acting_bind, ensures_ofAsking]
  refine ensures_ask hanswer h _ _ fun later hlater => ?_
  rw [Board.handle_claimOwnership_of_not owner hopen] at hlater ⊢
  exact hgoal later hlater

/-- Asking the previous owner to let go is one message, whatever comes of it. -/
theorem ensures_dismiss {previous : WindowId} {goal : Unit → World → Prop}
    (hready : ∀ entry, setting.ready (now.note entry))
    (hgoal : ∀ entry later,
      setting.shift previous .destroyClipboard (some (now.client place).settings.destroyTimeout)
        (now.note entry) later →
      goal () later ∧ ∀ warning, goal () (later.note warning)) :
    (dismiss previous).Ensures setting place goal now := by
  simp only [dismiss, ensures_bind, ensures_trace, ensures_client, Ensures, client_note]
  refine ⟨hready _, fun answer later hshift => ?_⟩
  obtain ⟨hquiet, hwarned⟩ := hgoal _ later hshift
  cases answer with
  | ok => exact hquiet
  | error => exact hwarned _

end Acting

end Pasteboard
