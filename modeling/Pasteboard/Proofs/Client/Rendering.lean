import Pasteboard.Proofs.Client.Reading
import Pasteboard.Proofs.Payload.Encoding
import Pasteboard.Proofs.World.Inert

/-!
# Rendering among inert windows

A client that only looks around among inert windows ends up where it began: `World.Glances`. Getting
a format that is not derivable is such a glance; rendering one that is derivable is a glance, after
which the result is put.
-/

namespace Pasteboard

open Call World

variable {place : Nat} {world now : World} {board : Board} {client : Client} {told : List Event}
  {asked : List Request}

/-- Among inert windows, the client at the place did nothing but look around: the board is this one,
and the client is this one but for its graphics objects. -/
def World.Glances (world : World) (place : Nat) (board : Board) (client : Client) (now : World) :
    Prop :=
  world.Inert ∧ ∃ graphics told asked,
    world.Evolves place board { client with graphics := graphics } told asked now

theorem World.Evolves.glances (h : world.Evolves place board client told asked now)
    (hinert : world.Inert) : world.Glances place board client now :=
  ⟨hinert, client.graphics, told, asked, h⟩

/-- Looking around changes nothing, as long as no entry is set to grow. -/
theorem World.tolerates_glances (hgrowth : board.growth = []) :
    Setting.inert.Tolerates place (world.Glances place board client) where
  note now entry h := by
    obtain ⟨hinert, graphics, told, asked, h⟩ := h
    exact ⟨hinert, graphics, told, asked, h.note entry⟩
  reading now request hreading h := by
    obtain ⟨hinert, graphics, told, asked, h⟩ := h
    have hlater := h.consult request
    rw [Board.handle_of_isReading hreading hgrowth] at hlater
    exact ⟨hinert, graphics, told, _, hlater⟩
  graphics now objects h := by
    obtain ⟨hinert, graphics, told, asked, h⟩ := h
    refine ⟨hinert, objects, told, asked, ?_⟩
    rw [h.client_eq]
    exact h.setClient _
  ready now h := by
    obtain ⟨hinert, graphics, told, asked, h⟩ := h
    exact h.allows hinert
  shift _ _ _ now later h hshift := by
    obtain ⟨hinert, graphics, told, asked, h⟩ := h
    obtain ⟨more, hmore⟩ := h.inert hshift
    exact ⟨hinert, graphics, _, asked, hmore⟩

namespace Acting

variable {format target source : Format}

/-- A format that is not derivable is fetched. -/
theorem ensures_get_of_none {setting : Setting} (h : now.client place = client)
    {goal : Except ClientError Data → World → Prop}
    (hsource : client.sources.source? format = none)
    (hgoal : (fetch format).run.Ensures setting place goal now) :
    (get format).run.Ensures setting place goal now := by
  simp only [get, ensures_acting_bind, ensures_lift, ensures_client, h, hsource]
  exact hgoal

/-- A format that is derivable is rendered, whatever the store holds under it. -/
theorem ensures_get_of_some {setting : Setting} (h : now.client place = client)
    {goal : Except ClientError Data → World → Prop}
    (hsource : client.sources.source? format = some source)
    (hgoal : (renderFrom format source).run.Ensures setting place goal now) :
    (get format).run.Ensures setting place goal now := by
  simp only [get, ensures_acting_bind, ensures_lift, ensures_client, h, hsource]
  exact hgoal

/-- The payload of a memory format is its value. -/
theorem ensures_fetch_of_find? {setting : Setting} (hanswer : setting.answer = World.consult)
    (h : world.Evolves place board client told asked now) {payload : Bytes}
    {goal : Except ClientError Data → World → Prop}
    (hgrowth : board.growth = []) (hopen : board.isOpenBy (clientId place) = true)
    (hshape : format.shape = .memory) (hpayload : board.entries.find? format = some payload)
    (hne : payload ≠ []) (hretries : 2 ≤ client.settings.overflowRetries)
    (hgoal : ∀ asked' later, world.Evolves place board client told asked' later →
      goal (.ok (.bytes payload)) later) :
    (fetch format).run.Ensures setting place goal now := by
  simp only [fetch, ensures_acting_bind]
  refine ensures_fetchBytes_of_find? hanswer h hgrowth hopen hpayload hne hretries
    fun asked' later hlater => ?_
  simp only [ensures_lift, ensures_client, ensures_ofResult, Data.decode, hshape, mapError_ok,
    ensures_modify]
  refine hgoal asked' _ ?_
  exact hlater.modify fun client => { client with graphics := client.graphics }

/-- A client whose session is not open renders nothing. -/
theorem ensures_renderFrom_of_not_open {setting : Setting}
    (hanswer : setting.answer = World.consult)
    (h : world.Evolves place board client told asked now)
    {goal : Except ClientError Data → World → Prop}
    (hopen : board.isOpenBy (clientId place) = false)
    (hgoal : ∀ asked' error later, world.Evolves place board client told asked' later →
      goal (.error error) later) :
    (renderFrom target source).run.Ensures setting place goal now := by
  simp only [renderFrom, fetch, ensures_acting_bind, ensures_lift, ensures_trace]
  exact ensures_fetchBytes_of_not_open hanswer (h.note _) hopen hgoal

/-- A rendering fails without a trace, or puts a payload under the target. -/
theorem ensures_renderFrom (h : world.Glances place board client now)
    (hgrowth : board.growth = []) {goal : Except ClientError Data → World → Prop}
    (hfail : ∀ error later, world.Glances place board client later → goal (.error error) later)
    (hput : ∀ data payload graphics told asked later, payload ≠ [] →
      world.Evolves place (board.stored target payload)
        (Client.stored { client with graphics := graphics } target) told asked later →
      goal (.ok data) later) :
    (renderFrom target source).run.Ensures .inert place goal now := by
  rw [renderFrom_eq, ensures_acting_bind]
  refine (keeps_rendered (tolerates_glances hgrowth) target source now h).mono
    fun result later hlater => ?_
  cases result with
  | error error => exact hfail error later hlater
  | ok data =>
      obtain ⟨hinert, graphics, told, asked, hlater⟩ := hlater
      simp only [ensures_acting_bind]
      refine ensures_put_or_fail rfl hlater data
        (fun error _ refused hrefused => hfail error refused (hrefused.glances hinert))
        fun payload asked' stored hencode hstored => ?_
      exact hput data payload graphics told asked' stored (Data.encode_ne_nil hencode) hstored

end Acting

end Pasteboard
