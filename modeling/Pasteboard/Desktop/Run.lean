import Pasteboard.Desktop.World

/-!
# Running scenarios

`Call.run` carries out what a client does against a world. A message that is sent is processed at
once: by the viewer that the window is, else by the handler that fits, whose steps may in turn make
other clients send messages. `World.send` is that processing down to a depth that no scenario
reaches, since every level keeps one more client or viewer busy.
-/

namespace Pasteboard

/-- How a request of the client at a place is answered. -/
abbrev Answering := World → Nat → Request → Except StoreError Reply × World

/-- How a message that is sent is processed. -/
abbrev Sending := WindowId → Message → Option Duration → World → Except SendError Bool × World

/-- What carries out the requests and messages of clients. -/
structure Medium where
  answer : Answering
  send : Sending

/-- Carries out what the client at a place does. -/
def Call.run {α : Type} (medium : Medium) (place : Nat) : Call α → World → α × World
  | .done value, world => (value, world)
  | .ask request next, world =>
    let (reply, world) := medium.answer world place request
    (next reply).run medium place world
  | .send window message limit next, world =>
    let (answer, world) := medium.send window message limit world
    (next answer).run medium place world
  | .post window message next, world =>
    let (outcome, world) := world.post window message
    (next outcome).run medium place world
  | .refresh next, world => next.run medium place (world.record .refreshed)
  | .note entry next, world => next.run medium place (world.note entry)
  | .read next, world =>
    let client := ((world.member? place).map Member.client).getD (.fresh .standard .empty false)
    (next client).run medium place world
  | .write client next, world =>
    next.run medium place (world.updateMember place fun member => { member with client := client })

/-- One call after another runs in the world that the first one leaves. -/
theorem Call.run_bind {α β : Type} (medium : Medium) (place : Nat) (call : Call α)
    (rest : α → Call β) (world : World) :
    (call >>= rest).run medium place world =
      (rest (call.run medium place world).1).run medium place (call.run medium place world).2 := by
  induction call generalizing world with
  | done => rfl
  | ask _ _ ih | send _ _ _ _ ih | post _ _ _ ih | read _ ih => exact ih _ _
  | refresh _ ih | note _ _ ih | write _ _ ih => exact ih _

namespace World

/-- Has a viewer pass a notice of a change on. -/
def passDraw (send : Sending) (world : World) (next owner : Option WindowId) :
    Except SendError Unit × World :=
  match next with
  | none => (.ok (), world)
  | some next =>
    let (answer, world) := send next (.drawClipboard owner) none world
    (answer.map fun _ => (), world)

/-- Has a viewer react to a change of the chain. -/
def passChange (send : Sending) (world : World) (window : WindowId) (successor : Option WindowId)
    (removed : WindowId) (next : Option WindowId) : Except SendError Bool × World :=
  match ChainReaction.of successor removed with
  | .splice => (.ok true, (world.note (Notice.splicing window removed)).setNext window next)
  | .forward successor =>
    send successor (.changeChain removed next) none
      (world.note (Notice.forwarding removed successor))
  | .unknown => (.ok false, world)

/-- Keeps a viewer busy with a message. A busy viewer is hung to anyone else. -/
def occupied {α : Type} (world : World) (window : WindowId)
    (work : World → Except SendError α × World) : Except SendError α × World :=
  if world.handling.contains window then (.error .hung, world)
  else
    let (result, world) := work { world with handling := window :: world.handling }
    (result, { world with handling := world.handling.erase window })

/-- Has a viewer process a notice of a change. -/
def draw (send : Sending) (world : World) (window : WindowId) (next owner : Option WindowId) :
    Except SendError Unit × World :=
  world.occupied window fun world => world.passDraw send next owner

/-- Has a viewer process a change of the chain. -/
def changeChain (send : Sending) (world : World) (window : WindowId)
    (successor : Option WindowId) (removed : WindowId) (next : Option WindowId) :
    Except SendError Bool × World :=
  world.occupied window fun world => world.passChange send window successor removed next

/-- Has a client do a task, unless it went away or is busy. -/
def act (medium : Medium) (world : World) (place : Nat) (task : Task) : Outcome × World :=
  match world.member? place with
  | none => (.gone, world)
  | some member =>
    if member.busy then (.busy, world)
    else
      let (outcome, world) := task.run.run medium place
        (world.updateMember place fun member => { member with busy := true })
      (outcome, world.updateMember place fun member => { member with busy := false })

/-- Has windows process what was posted to them: viewers pass notices on, all else is dropped. -/
def pumpAll (medium : Medium) (world : World) : List (WindowId × Message) → World
  | [] => world
  | (window, .drawClipboard owner) :: rest =>
    match world.viewer? window with
    | some next =>
      let (result, world) := world.draw medium.send window next owner
      pumpAll medium (world.record (.drawn window result)) rest
    | none => pumpAll medium world rest
  | _ :: rest => pumpAll medium world rest

/-- Has the windows process all that was posted so far. -/
def pump (medium : Medium) (world : World) : World :=
  { world with posts := [] }.pumpAll medium world.posts

/-- Takes a client away, unless it is busy. -/
def disconnect (world : World) (place : Nat) : Outcome × World :=
  match world.member? place with
  | none => (.gone, world)
  | some member =>
    if member.busy then (.busy, world)
    else
      (.done .nothing,
        { world with
          board := world.board.disconnect (clientId place), members := world.members.set place none })

/-- Performs a step. -/
def perform (medium : Medium) (world : World) : Step → Outcome × World
  | .task place task => world.act medium place task
  | .board => (.done (.board world.board), world)
  | .tamper change => (.done .nothing, { world with board := world.board.tamper change })
  | .fault fault => (.done .nothing, { world with faults := world.faults ++ [fault] })
  | .setWindow script => (.done .nothing, world.setWindow script)
  | .pump => (.done .nothing, world.pump medium)
  | .disconnect place => world.disconnect place

/-- Performs steps one after another. -/
def performAll (medium : Medium) (world : World) : List Step → List Outcome × World
  | [] => ([], world)
  | step :: rest =>
    let (outcome, world) := world.perform medium step
    let (outcomes, world) := world.performAll medium rest
    (outcome :: outcomes, world)

/-- Has a window without a viewer's part in a message process it by its handlers. -/
def handle (medium : Medium) (world : World) (window : WindowId) (message : Message) :
    Except SendError Bool × World :=
  let script := world.script window
  match script.handlers.find? (·.fits message) with
  | none => (.ok script.answer, world)
  | some handler =>
    let (outcomes, world) := world.performAll medium handler.steps
    (.ok (handler.answer.getD script.answer), world.record (.handled window outcomes))

/-- Has a window process a message that was sent to it. -/
def process (medium : Medium) (world : World) (window : WindowId) (message : Message) :
    Except SendError Bool × World :=
  match world.viewer? window, message with
  | some next, .drawClipboard owner =>
    let (result, world) := world.draw medium.send window next owner
    (result.map fun _ => true, world)
  | some successor, .changeChain removed next =>
    world.changeChain medium.send window successor removed next
  | _, _ => world.handle medium window message

/-- Sends a message. At depth zero windows do not answer any more. -/
def send (answer : Answering) : Nat → Sending
  | 0, _, _, _, world => (.error .hung, world)
  | depth + 1, window, message, limit, world =>
    let world := world.record (.sent window message limit)
    match (world.script window).trouble with
    | some .invalid => (.error (.invalidWindow window), world)
    | some .timeout => (.error (.timeout (limit.getD ⟨0⟩)), world)
    | some .hung => (.error .hung, world)
    | none => world.process ⟨answer, send answer depth⟩ window message

end World

/-- The medium in which requests are answered in a way and messages are processed as deep as a world
needs. -/
def World.medium (world : World) (answer : Answering) : Medium :=
  ⟨answer, World.send answer world.nesting⟩

/-- A step of a scenario and the client to look at after it. -/
structure Scene where
  step : Step
  watched : Nat

/-- What a step of a scenario showed. -/
structure Report where
  outcome : Outcome
  events : List Event
  requests : List Request
  sequence : UInt32
  /-- Whether the client that is looked at has the clipboard open, and the formats it can derive;
  nothing if it went away. -/
  standing : Option (Bool × List Derivation)

namespace World

/-- Performs a step and reports what happened meanwhile. -/
def observe (answer : Answering) (world : World) (scene : Scene) : Report × World :=
  let (outcome, world) :=
    { world with events := [], requests := [] }.perform (world.medium answer) scene.step
  (⟨outcome, world.events, world.requests, world.board.sequence,
    (world.member? scene.watched).map fun member =>
      (member.client.isOpen, member.client.sources.toList)⟩, world)

/-- Performs the steps of a scenario. -/
def observeAll (answer : Answering) (world : World) : List Scene → List Report × World
  | [] => ([], world)
  | scene :: rest =>
    let (report, world) := world.observe answer scene
    let (reports, world) := world.observeAll answer rest
    (report :: reports, world)

end World

/-- A step of a scenario about viewers and listeners alone. -/
inductive NoticeStep where
  /-- A viewer processes a notice of a change. -/
  | draw (window : WindowId) (owner : Option WindowId)
  /-- A viewer processes a change of the chain. -/
  | changeChain (window removed : WindowId) (next : Option WindowId)
  /-- A viewer is asked to process a change of the chain. -/
  | relay (window removed : WindowId) (next : Option WindowId)
  | notifyViewer (window : WindowId) (owner : Option WindowId)
  | notifyListeners (listeners : List WindowId)
  | pump
  | setWindow (script : WindowScript Step)

/-- What a step about viewers and listeners showed. -/
structure NoticeReport where
  /-- The answer of a viewer, without a value if it was asked to draw; nothing if nobody was asked.
  -/
  result : Option (Except SendError (Option Bool))
  events : List Event
  chain : List (WindowId × Option WindowId)

namespace World

/-- Performs a step about viewers and listeners. -/
def performNotice (medium : Medium) (world : World) :
    NoticeStep → Option (Except SendError (Option Bool)) × World
  | .draw window owner =>
    match world.viewer? window with
    | none => (none, world)
    | some next =>
      let (result, world) := world.draw medium.send window next owner
      (some (result.map fun _ => none), world)
  | .changeChain window removed next =>
    match world.viewer? window with
    | none => (none, world)
    | some successor =>
      let (result, world) := world.changeChain medium.send window successor removed next
      (some (result.map some), world)
  | .relay window removed next =>
    let (result, world) := (Notice.relayChange window removed next).run medium 0 world
    (some (result.map some), world)
  | .notifyViewer window owner => (none, ((Notice.notifyViewer window owner).run medium 0 world).2)
  | .notifyListeners listeners => (none, ((Notice.notifyListeners listeners).run medium 0 world).2)
  | .pump => (none, world.pump medium)
  | .setWindow script => (none, world.setWindow script)

/-- Performs the steps of a scenario about viewers and listeners. -/
def observeNotices (world : World) : List NoticeStep → List NoticeReport × World
  | [] => ([], world)
  | step :: rest =>
    let (result, world) := { world with events := [] }.performNotice (world.medium World.exchange) step
    let (reports, later) := world.observeNotices rest
    (⟨result, world.events, world.chain⟩ :: reports, later)

end World

end Pasteboard
