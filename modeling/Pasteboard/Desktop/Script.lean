import Pasteboard.Board
import Pasteboard.Client.Listing
import Pasteboard.Client.Reading

/-!
# Scripts

A scenario tells clients what to do and windows how to answer. A `Task` is something one client
does; a `Step` is a task of some client, or a change of the surroundings. The handlers of a window
are steps again, which run while the sender of the message waits.
-/

namespace Pasteboard

/-- A graphics object to create. -/
inductive Blueprint where
  | object (object : Object)
  /-- The object of a flat form. -/
  | flat (kind : BitsKind) (bits : Bytes)
deriving DecidableEq

/-- Adds an object to a graphics table. -/
def Graphics.build? (graphics : Graphics) : Blueprint → Option (Handle × Graphics)
  | .object object => graphics.insert? object
  | .flat kind bits => graphics.rebuild? kind bits

/-- A graphics table filled from blueprints, with its misreports and refusals. -/
def Graphics.assemble (blueprints : List Blueprint) (misreports : List Misreport)
    (refused : List BitsKind) : Graphics :=
  let filled := blueprints.foldl
    (fun (graphics : Graphics) blueprint => ((graphics.build? blueprint).map (·.2)).getD graphics)
    Graphics.empty
  { filled with misreports := misreports, refused := refused }

/-- Something that a client does. -/
inductive Task where
  | openSession (window : Option WindowId)
  | closeSession
  /-- A session around other tasks, closed in the end or simply left. -/
  | session (window : Option WindowId) (tasks : List Task) (close : Bool)
  | claim (owner : Option WindowId)
  | put (format : Format) (data : Data)
  | putDelayed (format : Format)
  | get (format : Format)
  | render (target source : Format)
  | enumerate (previous : Format)
  | count
  | contains (format : Format)
  | formats
  | priority (formats : List Format)
  | info
  | owner
  | openWindow
  | viewer
  | sequence
  | register (name : String)
  | name (format : Format)
  | release (owner : WindowId)
  | setViewer (window : Option WindowId)
  | changeChain (removed : WindowId) (next : Option WindowId)
  | addListener (window : WindowId)
  | removeListener (window : WindowId)
  | create (blueprint : Blueprint)
  | object (handle : Option Handle)
  /-- A request straight to the store, with a reply of its own kind or with any reply. -/
  | ask (request : Request) (anyReply : Bool)

/-- Why a window does not process messages. -/
inductive Trouble where
  /-- It does not exist. -/
  | invalid
  /-- It lets every time limit pass. -/
  | timeout
  | hung
deriving DecidableEq

/-- What a window does on a kind of message. -/
structure Handler (σ : Type) where
  /-- The name of the kind of message. -/
  message : String
  /-- The format that the message must ask for, if it matters. -/
  format : Option Format
  steps : List σ
  answer : Option Bool

/-- Whether a handler is for a message. -/
def Handler.fits {σ : Type} (handler : Handler σ) (message : Message) : Bool :=
  handler.message == message.name && handler.format.all (· == message.format)

/-- How a window behaves. -/
structure WindowScript (σ : Type) where
  id : WindowId
  answer : Bool
  trouble : Option Trouble
  /-- If the window is a viewer, the next viewer. -/
  viewer : Option (Option WindowId)
  handlers : List (Handler σ)

/-- A window that answers every message and does nothing else. -/
def WindowScript.plain {σ : Type} (id : WindowId) : WindowScript σ := ⟨id, true, none, none, []⟩

/-- What the store answers instead of the truth. -/
inductive FaultAnswer where
  | reply (reply : Reply)
  /-- A frame with this body. -/
  | body (body : Bytes)
  /-- Some bytes, and nothing more for ever. -/
  | stream (bytes : Bytes) (ending : Ending)
deriving DecidableEq

/-- A fault of the store. -/
structure Fault where
  /-- The name of the kind of request that is hit; any kind if absent. -/
  request : Option String
  /-- How many requests are let through first. -/
  skip : Nat
  /-- How many requests are hit. -/
  times : Nat
  answer : FaultAnswer
deriving DecidableEq

/-- The answer of the first fault that is about a request, and the faults that are left. A fault
that still lets requests through keeps later ones from being looked at. -/
def Fault.select (request : Request) : List Fault → Option FaultAnswer × List Fault
  | [] => (none, [])
  | fault :: rest =>
    if fault.request.all (· == request.name) then
      if 0 < fault.skip then (none, { fault with skip := fault.skip - 1 } :: rest)
      else if fault.times ≤ 1 then (some fault.answer, rest)
      else (some fault.answer, { fault with times := fault.times - 1 } :: rest)
    else
      let (answer, rest) := select request rest
      (answer, fault :: rest)

/-- A step of a scenario. -/
inductive Step where
  | task (client : Nat) (task : Task)
  /-- Looks at the board. -/
  | board
  /-- Changes the board behind its clients' backs. -/
  | tamper (change : Tampering)
  | fault (fault : Fault)
  | setWindow (script : WindowScript Step)
  /-- Has the windows process what was posted. -/
  | pump
  /-- A client goes away. -/
  | disconnect (client : Nat)

/-- What came out of a step. -/
inductive Value where
  | nothing
  | flag (flag : Bool)
  | number (number : UInt32)
  | window (window : Option WindowId)
  | format (format : Format)
  | optionalFormat (format : Option Format)
  | formats (formats : List Format)
  | priority (priority : PriorityFormat)
  | closed (reply : CloseReply)
  | data (data : Data) (object : Option Object)
  | info (info : StoreInfo)
  | name (name : Option String)
  | handle (handle : Option Handle)
  | object (object : Option Object)
  /-- A reply, to be shown whole or by what it holds. -/
  | reply (reply : Reply) (whole : Bool)
  | board (board : Board)

/-- How a step came out. -/
inductive Outcome where
  | done (value : Value)
  | failed (error : ClientError)
  | refused (error : StoreError)
  /-- A session with the outcomes of its tasks, whether it was still open in the end, and how
  closing it came out if it was not simply left. -/
  | session (outcomes : List Outcome) (openInside : Bool)
      (close : Option (Except ClientError CloseReply))
  /-- The client went away before. -/
  | gone
  /-- The client is in the middle of something else. -/
  | busy

namespace Task

/-- The value of a call that can fail, as an outcome. -/
def outcome {α : Type} (value : α → Value) (acting : Acting α) : Call Outcome := do
  match ← acting.run with
  | .ok result => return .done (value result)
  | .error error => return .failed error

/-- A value of a client with its graphics object, as an outcome. -/
def dataOutcome (acting : Acting Data) : Call Outcome := do
  match ← acting.run with
  | .ok data =>
    let graphics := (← Call.client).graphics
    return .done (.data data (data.handle?.bind graphics.object?))
  | .error error => return .failed error

/-- Creates a graphics object. -/
def build (blueprint : Blueprint) : Call Outcome := do
  match (← Call.client).graphics.build? blueprint with
  | some (handle, graphics) =>
    Call.modify fun client => { client with graphics := graphics }
    return .done (.handle (some handle))
  | none => return .done (.handle none)

/-- A request straight to the store. -/
def straight (request : Request) (anyReply : Bool) : Call Outcome := do
  let asking := if anyReply then Ask.anything request else Ask.reply request
  let whole := anyReply || match request with
    | .get _ _ | .setViewer _ _ | .listeners => true
    | _ => false
  match ← asking.run with
  | .ok reply => return .done (.reply reply whole)
  | .error error => return .refused error

mutual

/-- Does a task. -/
def run : Task → Call Outcome
  | openSession window => outcome (fun _ => .nothing) (Acting.openSession window)
  | closeSession => outcome .closed Acting.closeSession
  | session window tasks close => do
    match ← (Acting.openSession window).run with
    | .error error => return .failed error
    | .ok () =>
      let outcomes ← runAll tasks
      let openInside := (← Call.client).isOpen
      if close then
        let result ← Acting.closeSession.run
        return .session outcomes openInside (some result)
      else
        Acting.leaveSession
        return .session outcomes openInside none
  | claim window => outcome (fun _ => .nothing) (Acting.claimOwnership window)
  | put format data => outcome (fun _ => .nothing) (Acting.put format data)
  | putDelayed format => outcome (fun _ => .nothing) (Acting.putDelayed format)
  | get format => dataOutcome (Acting.get format)
  | render target source => dataOutcome (Acting.renderFrom target source)
  | enumerate previous => outcome .optionalFormat (Acting.enumerate previous)
  | count => outcome .number Acting.count
  | contains format => outcome .flag (Acting.contains format)
  | formats => outcome .formats Acting.formats
  | priority wanted => outcome .priority (Acting.priorityFormat wanted)
  | info => outcome .info Acting.info
  | owner => outcome (fun known => .window known.owner) Acting.info
  | openWindow => outcome (fun known => .window known.window) Acting.info
  | viewer => outcome (fun known => .window known.viewer) Acting.info
  | sequence => outcome (fun known => .number known.sequence) Acting.info
  | register text => outcome .format (Acting.registerFormat text)
  | name format => outcome .name (Acting.formatName format)
  | release window => outcome (fun _ => .nothing) (Acting.releaseOwner window)
  | setViewer window => outcome .window (Acting.setViewer window)
  | changeChain removed next => outcome .flag (Acting.changeChain removed next)
  | addListener window => outcome (fun _ => .nothing) (Acting.addListener window)
  | removeListener window => outcome (fun _ => .nothing) (Acting.removeListener window)
  | create blueprint => build blueprint
  | object handle => do
    let graphics := (← Call.client).graphics
    return .done (.object (handle.bind graphics.object?))
  | ask request anyReply => straight request anyReply

/-- Does tasks one after another. -/
def runAll : List Task → Call (List Outcome)
  | [] => return []
  | task :: rest => do
    let outcome ← task.run
    return outcome :: (← runAll rest)

end

end Task

mutual

/-- How many windows a step may set, those set by handlers of the windows it sets included. -/
def Step.windowCount : Step → Nat
  | .setWindow ⟨_, _, _, _, handlers⟩ => 1 + handlersWindowCount handlers
  | _ => 0

/-- How many windows the steps of handlers may set. -/
def Step.handlersWindowCount : List (Handler Step) → Nat
  | [] => 0
  | ⟨_, _, steps, _⟩ :: rest => Step.stepsWindowCount steps + Step.handlersWindowCount rest

/-- How many windows steps may set. -/
def Step.stepsWindowCount : List Step → Nat
  | [] => 0
  | step :: rest => step.windowCount + Step.stepsWindowCount rest

end

end Pasteboard
