import Pasteboard.Proofs.Board.Requests
import Pasteboard.Proofs.Call.Operations

/-!
# What calls keep

A call `Keeps` a property of worlds if the property outlasts it, whatever the windows do while it
waits for them. Calls that only look around keep whatever the single things that they do keep:
`Setting.Tolerates` lists these.
-/

namespace Pasteboard

open Acting (ofAsking ofResult)

namespace Call

variable {α β : Type} {setting : Setting} {place : Nat} {property : World → Prop}

/-- Whatever happens while it waits, the call keeps a property of worlds. -/
def Keeps (setting : Setting) (place : Nat) (property : World → Prop) (call : Call α) : Prop :=
  ∀ world, property world → call.Ensures setting place (fun _ later => property later) world

/-- Nothing happens in a call that has ended. -/
theorem keeps_done (value : α) : (done value).Keeps setting place property :=
  fun _ h => h

/-- What two calls keep, they keep one after another. -/
theorem keeps_bind {call : Call α} {rest : α → Call β} (hcall : call.Keeps setting place property)
    (hrest : ∀ value, (rest value).Keeps setting place property) :
    (call >>= rest).Keeps setting place property := by
  intro world h
  rw [ensures_bind]
  exact (hcall world h).mono fun value later hlater => hrest value later hlater

/-- Looking at the client changes no world. -/
theorem keeps_client {rest : Client → Call α}
    (hrest : ∀ client, (rest client).Keeps setting place property) :
    (client >>= rest).Keeps setting place property :=
  keeps_bind (fun _ h => h) hrest

theorem keeps_throw (error : ClientError) :
    (throw error : Acting α).run.Keeps setting place property :=
  fun _ h => h

/-- If the first operation fails, the second one does not even begin. -/
theorem keeps_acting_bind {acting : Acting α} {rest : α → Acting β}
    (hacting : acting.run.Keeps setting place property)
    (hrest : ∀ value, (rest value).run.Keeps setting place property) :
    (acting >>= rest).run.Keeps setting place property := by
  intro world h
  rw [ensures_acting_bind]
  refine (hacting world h).mono fun result later hlater => ?_
  cases result with
  | ok value => exact hrest value later hlater
  | error => exact hlater

/-- A call keeps as an operation what it keeps by itself. -/
theorem keeps_lift {call : Call α} (hcall : call.Keeps setting place property) :
    (liftM call : Acting α).run.Keeps setting place property := by
  intro world h
  rw [ensures_lift]
  exact hcall world h

/-- What a client computes by itself changes no world. -/
theorem keeps_ofResult {ε : Type} (fail : ε → ClientError) (result : Except ε α) :
    (ofResult fail result).run.Keeps setting place property := by
  intro world h
  rw [ensures_ofResult]
  exact h

/-- Reading an error of the store as one of the client changes no world. -/
theorem keeps_ofAsking {asking : Asking α} (hasking : asking.run.Keeps setting place property) :
    (ofAsking asking).run.Keeps setting place property := by
  intro world h
  rw [ensures_ofAsking]
  exact hasking world h

/-- A question keeps what the answer to its request keeps. -/
theorem keeps_expect {request : Request} {want : Reply → Option α}
    (hanswer : ∀ world, property world → property (setting.answer world place request).2) :
    (Ask.expect request want).run.Keeps setting place property := by
  intro world h
  rw [ensures_expect]
  exact hanswer world h

end Call

/-- The property outlasts all that a client does in the setting while it looks around: notes,
reading requests, changes of its graphics objects, and messages that it waits for. -/
structure Setting.Tolerates (setting : Setting) (place : Nat) (property : World → Prop) : Prop where
  note : ∀ world entry, property world → property (world.note entry)
  reading : ∀ world request, request.IsReading → property world →
    property (setting.answer world place request).2
  graphics : ∀ world graphics, property world →
    property (world.setClient place { world.client place with graphics := graphics })
  ready : ∀ world, property world → setting.ready world
  shift : ∀ window message limit world later, property world →
    setting.shift window message limit world later → property later

namespace Setting.Tolerates

open Call

variable {setting : Setting} {place : Nat} {property : World → Prop}
  (h : setting.Tolerates place property)

include h

/-- A tolerated property outlasts a note. -/
theorem keeps_note (entry : Note) {α : Type} {rest : Call α}
    (hrest : rest.Keeps setting place property) :
    (Call.note entry rest).Keeps setting place property :=
  fun world hworld => hrest _ (h.note world entry hworld)

theorem keeps_trace (text : String) : (trace text).Keeps setting place property :=
  h.keeps_note _ (keeps_done ())

theorem keeps_warn (text : String) : (warn text).Keeps setting place property :=
  h.keeps_note _ (keeps_done ())

/-- It outlasts a message that is waited for, so only what is done with the answer is left
to check. -/
theorem keeps_send {α : Type} {window : WindowId} {message : Message} {limit : Option Duration}
    {rest : Except SendError Bool → Call α}
    (hrest : ∀ answer, (rest answer).Keeps setting place property) :
    (Call.send window message limit rest).Keeps setting place property :=
  fun world hworld => ⟨h.ready world hworld, fun answer later hlater =>
    hrest answer later (h.shift window message limit world later hworld hlater)⟩

/-- It outlasts a question that changes nothing on the board. -/
theorem keeps_reading {α : Type} {request : Request} {want : Reply → Option α}
    (hreading : request.IsReading) : (Ask.expect request want).run.Keeps setting place property :=
  keeps_expect fun world hworld => h.reading world request hreading hworld

/-- It outlasts a change of the client's graphics objects. -/
theorem keeps_setGraphics (graphics : Graphics) :
    (modify fun client => { client with graphics := graphics }).Keeps setting place property :=
  fun world hworld => h.graphics world graphics hworld

/-- It outlasts a trace that names a format, for which the store may be asked for the name. -/
theorem keeps_traceLabelled (front : String) (format : Format) :
    (Acting.traceLabelled front format).Keeps setting place property := by
  refine keeps_client fun client => ?_
  split
  · refine keeps_bind ?_ fun name => h.keeps_trace _
    unfold Acting.label
    split
    · refine keeps_bind (h.keeps_reading trivial) fun result => ?_
      split <;> exact keeps_done _
    · exact keeps_done _
  · exact keeps_done ()

end Setting.Tolerates

end Pasteboard
