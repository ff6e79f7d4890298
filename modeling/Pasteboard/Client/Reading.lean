import Pasteboard.Client.Writing

/-!
# Reading the clipboard

A payload is got with a buffer that grows to the size the store reports. A payload that is missing
is requested once from the owner. A format that is known to be derivable is rendered from its source
and put, so that it need not be derived again.
-/

namespace Pasteboard.Acting

/-- Asks the owner to put the data of a format now. -/
def requestRender (owner : WindowId) (format : Format) : Acting Unit := do
  Call.trace ("Asking " ++ owner.shown ++ " to render " ++ format.shown)
  let limit := (← Call.client).settings.renderTimeout
  let answer ← (Call.send owner (.renderFormat format) (some limit) .done : Call _)
  match answer with
  | .ok _ => return ()
  | .error (.invalidWindow window) =>
    Call.warn ("Couldn't ask " ++ owner.shown ++ " to render " ++ format.shown ++ ": "
      ++ SendError.message (.invalidWindow window))
    throw (.noData format)
  | .error error =>
    Call.warn ("The clipboard owner " ++ owner.shown ++ " did not render " ++ format.shown ++ ": "
      ++ error.message)
    throw (.renderTimeout format owner)

/-- Gets a payload, giving up at the last of `limit` replies that it does not fit. What to do about
a missing payload is up to `missing`, which is told how many such replies are left, the buffer size
and the owner. -/
def fetchWith (format : Format) (limit : Nat)
    (missing : Nat → UInt32 → Option WindowId → Acting Bytes) : Nat → UInt32 → Acting Bytes
  | 0, _ => throw (.unavailable format)
  | left + 1, bufferLen => do
    let reply ← ofAsking (Ask.get format bufferLen)
    match reply.status with
    | .overflow =>
      if left = 0 then
        Call.warn ("Giving up on " ++ format.shown ++ " after " ++ toString limit
          ++ " size changes")
        throw (.unavailable format)
      Call.trace (format.shown ++ " needs " ++ toString reply.total.toNat ++ " bytes, retrying")
      fetchWith format limit missing left reply.total
    | .ok =>
      if reply.data.isEmpty then missing (left + 1) bufferLen reply.owner
      else
        traceLabelled ("Got " ++ toString reply.data.length ++ " bytes of ") format
        return reply.data
    | .notFound => missing (left + 1) bufferLen reply.owner

/-- Gets a payload; one that is missing is requested from the owner once. -/
def fetchBytes (format : Format) : Acting Bytes := do
  let settings := (← Call.client).settings
  let limit := max settings.overflowRetries.toNat 1
  let afterRequest := fetchWith format limit fun _ _ _ => throw (.noData format)
  let request : Nat → UInt32 → Option WindowId → Acting Bytes := fun left bufferLen owner =>
    match owner with
    | some owner => do
      requestRender owner format
      afterRequest left bufferLen
    | none => throw (.noData format)
  fetchWith format limit request limit settings.initialBufferSize

/-- Gets a value. -/
def fetch (format : Format) : Acting Data := do
  let payload ← fetchBytes format
  let (data, graphics) ←
    ofResult (.payload format) (Data.decode (← Call.client).graphics format payload)
  Call.modify fun client => { client with graphics := graphics }
  return data

/-- The locale of the text on the clipboard, else the default one. -/
def locale : Call Locale := do
  let fallback := (← Call.client).settings.defaultLocale
  match ← (fetchBytes Format.locale).run with
  | .ok payload => return ((Bytes.u32? payload).map (·.1)).getD fallback
  | .error _ => return fallback

/-- How to read text when a format is rendered. -/
def textSettings (target : Format) : Call TextSettings := do
  let settings := (← Call.client).settings
  let locale ← if target.family? = some .text then locale else pure settings.defaultLocale
  return ⟨locale, settings.defaultPages⟩

/-- Renders one format from another one and puts the result. -/
def renderFrom (target source : Format) : Acting Data := do
  Call.trace ("Rendering " ++ target.shown ++ " from " ++ source.shown)
  let data ← fetch source
  let text ← textSettings target
  let (rendered, graphics) ←
    ofResult (.render target source) (data.convert (← Call.client).graphics target source text)
  Call.modify fun client => { client with graphics := graphics }
  put target rendered
  return rendered

/-- Gets a value, rendering it if the format is derivable. -/
def get (format : Format) : Acting Data := do
  match (← Call.client).sources.source? format with
  | some source => renderFrom format source
  | none => fetch format

end Pasteboard.Acting
