import Pasteboard.Exchange.Request

/-!
# Replies

What the store answers, how it is laid out in a message body, and how it is spelled in diagnostics.
-/

namespace Pasteboard

/-- Whom to notify once a session closes or an owner goes away. -/
structure CloseReply where
  viewer : Option WindowId
  owner : Option WindowId
deriving DecidableEq

/-- How a request for a payload came out. -/
inductive GetStatus where
  /-- The payload fits; an empty one is a placeholder. -/
  | ok
  /-- The payload does not fit and its size is reported. -/
  | overflow
  | notFound
deriving DecidableEq

/-- The answer to a request for a payload. -/
structure GetReply where
  status : GetStatus
  data : Bytes
  total : UInt32
  owner : Option WindowId
deriving DecidableEq

/-- What the store knows beside its entries. -/
structure StoreInfo where
  owner : Option WindowId
  window : Option WindowId
  viewer : Option WindowId
  sequence : UInt32
deriving DecidableEq

/-- The answer to a change of the head of the chain of viewers. -/
inductive ViewerReply where
  /-- The head was replaced. -/
  | set (oldViewer owner : Option WindowId)
  /-- The head is another window, which has to pass the change on. -/
  | pending (viewer : WindowId)
deriving DecidableEq

/-- Failure codes. -/
inductive Status where
  | alreadyOpen
  | notOpen
  | notOwner
  | accessDenied
  | invalidParameter
  | notFound
deriving DecidableEq

namespace Status

/-- All failure codes. -/
def all : List Status :=
  [alreadyOpen, notOpen, notOwner, accessDenied, invalidParameter, notFound]

/-- The number of a failure code. -/
def code : Status → UInt8
  | alreadyOpen => 1
  | notOpen => 2
  | notOwner => 3
  | accessDenied => 4
  | invalidParameter => 5
  | notFound => 6

/-- The failure code with a number. -/
def ofCode? (code : UInt8) : Option Status :=
  if code = 1 then some alreadyOpen
  else if code = 2 then some notOpen
  else if code = 3 then some notOwner
  else if code = 4 then some accessDenied
  else if code = 5 then some invalidParameter
  else if code = 6 then some notFound
  else none

/-- The name of a failure code. -/
def name : Status → String
  | alreadyOpen => "AlreadyOpen"
  | notOpen => "NotOpen"
  | notOwner => "NotOwner"
  | accessDenied => "AccessDenied"
  | invalidParameter => "InvalidParameter"
  | notFound => "NotFound"

/-- The wording of a failure. -/
def message : Status → String
  | alreadyOpen => "The clipboard is already open"
  | notOpen => "The clipboard is not open"
  | notOwner => "The caller does not own the clipboard"
  | accessDenied => "The clipboard is open by someone else"
  | invalidParameter => "Invalid parameter"
  | notFound => "Not found"

end Status

/-- A reply of the store. -/
inductive Reply where
  | done
  | opened (owner : Option WindowId)
  | closed (reply : CloseReply)
  | data (reply : GetReply)
  | format (format : Format)
  | count (count : UInt32)
  | formats (formats : List Format)
  | info (info : StoreInfo)
  | viewer (reply : ViewerReply)
  | windows (windows : List WindowId)
  | name (name : Option String)
  | error (status : Status)
deriving DecidableEq

/-- The number of a status. -/
def GetStatus.code : GetStatus → UInt8
  | ok => 0
  | overflow => 1
  | notFound => 2

namespace Reply

/-- The body of a reply. -/
def encode : Reply → Bytes
  | done => [0x80]
  | opened owner => 0x81 :: Bytes.ofWindow owner
  | closed reply => 0x82 :: (Bytes.ofWindow reply.viewer ++ Bytes.ofWindow reply.owner)
  | data reply =>
    0x83 :: reply.status.code :: (Bytes.ofU32 reply.total ++ (Bytes.ofWindow reply.owner
      ++ Bytes.counted reply.data))
  | format value => 0x84 :: Bytes.ofFormat value
  | count value => 0x85 :: Bytes.ofU32 value
  | formats values => 0x86 :: Bytes.ofWords (values.map Format.id)
  | info value =>
    0x87 :: (Bytes.ofWindow value.owner ++ (Bytes.ofWindow value.window
      ++ (Bytes.ofWindow value.viewer ++ Bytes.ofU32 value.sequence)))
  | viewer (.set oldViewer owner) => 0x88 :: 0 :: (Bytes.ofWindow oldViewer ++ Bytes.ofWindow owner)
  | viewer (.pending head) => 0x88 :: 1 :: Bytes.ofWindow (some head)
  | windows values => 0x89 :: Bytes.ofWords (values.map WindowId.raw)
  | name (some value) => 0x8a :: 1 :: Bytes.ofText value
  | name none => [0x8a, 0]
  | error status => [0xff, status.code]

/-- The status of an answer to a request for a payload. -/
def getStatus : Fields GetStatus := do
  let code ← Fields.byte
  if code = 0 then return .ok
  else if code = 1 then return .overflow
  else if code = 2 then return .notFound
  else throw (.unknownCode .getStatus code)

/-- An answer to a request for a payload. -/
def getFields : Fields Reply := do
  let status ← getStatus
  let total ← Fields.word
  let owner ← Fields.window
  return data ⟨status, ← Fields.bytes, total, owner⟩

/-- What the store knows beside its entries. -/
def infoFields : Fields Reply := do
  let owner ← Fields.window
  let window ← Fields.window
  let viewer ← Fields.window
  return info ⟨owner, window, viewer, ← Fields.word⟩

/-- An answer about the head of the chain of viewers. -/
def viewerFields : Fields Reply := do
  let code ← Fields.byte
  if code = 0 then return viewer (.set (← Fields.window) (← Fields.window))
  else if code = 1 then return viewer (.pending (← Fields.requiredWindow))
  else throw (.unknownCode .viewerReply code)

/-- An optional name; any flag but zero says that there is one. -/
def nameFields : Fields Reply := do
  if (← Fields.byte) = 0 then return name none else return name (some (← Fields.text))

/-- A failure code. -/
def errorFields : Fields Reply := do
  let code ← Fields.byte
  match Status.ofCode? code with
  | some status => return error status
  | none => throw (.unknownCode .status code)

/-- The fields behind an opcode. A list of windows may hold null windows, which are left out. -/
def fields (opcode : UInt8) : Fields Reply :=
  if opcode = 0x80 then return done
  else if opcode = 0x81 then return opened (← Fields.window)
  else if opcode = 0x82 then return closed ⟨← Fields.window, ← Fields.window⟩
  else if opcode = 0x83 then getFields
  else if opcode = 0x84 then return format (← Fields.format)
  else if opcode = 0x85 then return count (← Fields.word)
  else if opcode = 0x86 then return formats ((← Fields.words).map (⟨·⟩))
  else if opcode = 0x87 then infoFields
  else if opcode = 0x88 then viewerFields
  else if opcode = 0x89 then return windows ((← Fields.words).filterMap WindowId.ofRaw?)
  else if opcode = 0x8a then nameFields
  else if opcode = 0xff then errorFields
  else throw (.unknownOpcode opcode)

/-- The reply of a body. -/
def decode (body : Bytes) : Except BodyError Reply :=
  Fields.run (Fields.byte >>= fields) body

/-- How a reply is spelled in diagnostics. -/
def shown : Reply → String
  | done => "Done"
  | opened owner => Spelled.record "Opened" [("owner", WindowId.shownOption owner)]
  | closed reply =>
    Spelled.wrapped "Closed" (Spelled.record "CloseReply"
      [("viewer", WindowId.shownOption reply.viewer), ("owner", WindowId.shownOption reply.owner)])
  | data reply =>
    let status := match reply.status with
      | .ok => "Ok"
      | .overflow => "Overflow"
      | .notFound => "NotFound"
    Spelled.wrapped "Data" (Spelled.record "GetReply"
      [("status", status), ("data", Spelled.list (fun b => toString b.toNat) reply.data),
       ("total", toString reply.total.toNat), ("owner", WindowId.shownOption reply.owner)])
  | format value => Spelled.wrapped "Format" value.shown
  | count value => Spelled.wrapped "Count" (toString value.toNat)
  | formats values => Spelled.wrapped "Formats" (Spelled.list Format.shown values)
  | info value =>
    Spelled.wrapped "Info" (Spelled.record "StoreInfo"
      [("owner", WindowId.shownOption value.owner), ("window", WindowId.shownOption value.window),
       ("viewer", WindowId.shownOption value.viewer),
       ("sequence", toString value.sequence.toNat)])
  | viewer (.set oldViewer owner) =>
    Spelled.wrapped "Viewer" (Spelled.record "Set"
      [("old_viewer", WindowId.shownOption oldViewer), ("owner", WindowId.shownOption owner)])
  | viewer (.pending head) =>
    Spelled.wrapped "Viewer" (Spelled.record "Pending" [("viewer", head.shown)])
  | windows values => Spelled.wrapped "Windows" (Spelled.list WindowId.shown values)
  | name value => Spelled.wrapped "Name" (Spelled.option quote value)
  | error status => Spelled.wrapped "Error" status.name

/-- Whether a reply is of the kind that a request calls for. -/
def answers : Reply → Request → Bool
  | opened _, .openSession _ => true
  | closed _, .closeSession => true
  | done, .claimOwnership _ => true
  | done, .put _ _ => true
  | data _, .get _ _ => true
  | format _, .enumerateFormats _ => true
  | count _, .countFormats _ => true
  | formats _, .listFormats => true
  | info _, .info => true
  | viewer _, .setViewer _ _ => true
  | closed _, .releaseOwner _ => true
  | done, .addListener _ => true
  | done, .removeListener _ => true
  | windows _, .listeners => true
  | format _, .registerFormat _ => true
  | name _, .formatName _ => true
  | _, _ => false

end Reply

end Pasteboard
