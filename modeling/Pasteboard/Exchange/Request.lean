import Pasteboard.Exchange.Fields

/-!
# Requests

What a client asks of the store, and how it is laid out in a message body.
-/

namespace Pasteboard

/-- A request to the store. -/
inductive Request where
  | openSession (requestor : Option WindowId)
  | closeSession
  | claimOwnership (owner : Option WindowId)
  | put (format : Format) (data : Bytes)
  | get (format : Format) (bufferLen : UInt32)
  | enumerateFormats (previous : Format)
  | countFormats (filter : Option Format)
  | listFormats
  | info
  | setViewer (viewer previous : Option WindowId)
  | releaseOwner (owner : WindowId)
  | addListener (window : WindowId)
  | removeListener (window : WindowId)
  | listeners
  | registerFormat (name : String)
  | formatName (format : Format)
deriving DecidableEq

namespace Request

/-- The name of a kind of request. -/
def name : Request → String
  | openSession _ => "OpenSession"
  | closeSession => "CloseSession"
  | claimOwnership _ => "ClaimOwnership"
  | put _ _ => "Put"
  | get _ _ => "Get"
  | enumerateFormats _ => "EnumerateFormats"
  | countFormats _ => "CountFormats"
  | listFormats => "ListFormats"
  | info => "Info"
  | setViewer _ _ => "SetViewer"
  | releaseOwner _ => "ReleaseOwner"
  | addListener _ => "AddListener"
  | removeListener _ => "RemoveListener"
  | listeners => "Listeners"
  | registerFormat _ => "RegisterFormat"
  | formatName _ => "FormatName"

/-- The body of a request. A missing filter is written as the null format. -/
def encode : Request → Bytes
  | openSession requestor => 0x01 :: Bytes.ofWindow requestor
  | closeSession => [0x02]
  | claimOwnership owner => 0x03 :: Bytes.ofWindow owner
  | put format data => 0x04 :: (Bytes.ofFormat format ++ Bytes.counted data)
  | get format bufferLen => 0x05 :: (Bytes.ofFormat format ++ Bytes.ofU32 bufferLen)
  | enumerateFormats previous => 0x06 :: Bytes.ofFormat previous
  | countFormats filter => 0x07 :: Bytes.ofFormat (filter.getD Format.null)
  | listFormats => [0x08]
  | info => [0x09]
  | setViewer viewer previous => 0x0a :: (Bytes.ofWindow viewer ++ Bytes.ofWindow previous)
  | releaseOwner owner => 0x0b :: Bytes.ofWindow (some owner)
  | addListener window => 0x0c :: Bytes.ofWindow (some window)
  | removeListener window => 0x0d :: Bytes.ofWindow (some window)
  | listeners => [0x0e]
  | registerFormat name => 0x0f :: Bytes.ofText name
  | formatName format => 0x10 :: Bytes.ofFormat format

/-- The fields behind an opcode. -/
def fields (opcode : UInt8) : Fields Request :=
  if opcode = 0x01 then return openSession (← Fields.window)
  else if opcode = 0x02 then return closeSession
  else if opcode = 0x03 then return claimOwnership (← Fields.window)
  else if opcode = 0x04 then return put (← Fields.format) (← Fields.bytes)
  else if opcode = 0x05 then return get (← Fields.format) (← Fields.word)
  else if opcode = 0x06 then return enumerateFormats (← Fields.format)
  else if opcode = 0x07 then
    return countFormats ((some (← Fields.format)).filter (· != Format.null))
  else if opcode = 0x08 then return listFormats
  else if opcode = 0x09 then return info
  else if opcode = 0x0a then return setViewer (← Fields.window) (← Fields.window)
  else if opcode = 0x0b then return releaseOwner (← Fields.requiredWindow)
  else if opcode = 0x0c then return addListener (← Fields.requiredWindow)
  else if opcode = 0x0d then return removeListener (← Fields.requiredWindow)
  else if opcode = 0x0e then return listeners
  else if opcode = 0x0f then return registerFormat (← Fields.text)
  else if opcode = 0x10 then return formatName (← Fields.format)
  else throw (.unknownOpcode opcode)

/-- The request of a body. -/
def decode (body : Bytes) : Except BodyError Request :=
  Fields.run (Fields.byte >>= fields) body

end Request

end Pasteboard
