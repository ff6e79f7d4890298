import Pasteboard.Proofs.Call.Keeps
import Pasteboard.Proofs.Client.Writing

/-!
# Getting payloads
-/

namespace Pasteboard

/-- There is at least one attempt to get a payload. -/
theorem Settings.exists_attempt (settings : Settings) :
    ∃ left, max settings.overflowRetries.toNat 1 = left + 1 :=
  ⟨max settings.overflowRetries.toNat 1 - 1, by omega⟩

theorem Settings.exists_attempts {settings : Settings} (h : 2 ≤ settings.overflowRetries) :
    ∃ left, max settings.overflowRetries.toNat 1 = left + 2 := by
  have htwo : 2 ≤ settings.overflowRetries.toNat := h
  exact ⟨settings.overflowRetries.toNat - 2, by omega⟩

open Call World

variable {setting : Setting} {place : Nat} {property : World → Prop}

namespace Acting

/-- The part of a rendering that comes before the result is put. -/
def rendered (target source : Format) : Acting Data := do
  Call.trace ("Rendering " ++ target.shown ++ " from " ++ source.shown)
  let data ← fetch source
  let text ← textSettings target
  let (rendered, graphics) ←
    ofResult (.render target source) (data.convert (← Call.client).graphics target source text)
  Call.modify fun client => { client with graphics := graphics }
  return rendered

theorem renderFrom_eq (target source : Format) :
    renderFrom target source = (do
      let data ← rendered target source
      put target data
      return data) := by
  simp [renderFrom, rendered]

section Tolerates

variable (h : setting.Tolerates place property)

include h

theorem keeps_requestRender (owner : WindowId) (format : Format) :
    (requestRender owner format).run.Keeps setting place property := by
  refine keeps_acting_bind (keeps_lift (h.keeps_trace _)) fun _ => ?_
  refine keeps_acting_bind (keeps_lift (keeps_client keeps_done)) fun client => ?_
  refine keeps_acting_bind (keeps_lift (h.keeps_send keeps_done)) fun answer => ?_
  split
  · exact keeps_done _
  · exact keeps_acting_bind (keeps_lift (h.keeps_warn _)) fun _ => keeps_throw _
  · exact keeps_acting_bind (keeps_lift (h.keeps_warn _)) fun _ => keeps_throw _

theorem keeps_fetchWith {format : Format} {limit : Nat}
    {missing : Nat → UInt32 → Option WindowId → Acting Bytes}
    (hmissing : ∀ left bufferLen owner,
      (missing left bufferLen owner).run.Keeps setting place property)
    (left : Nat) (bufferLen : UInt32) :
    (fetchWith format limit missing left bufferLen).run.Keeps setting place property := by
  induction left generalizing bufferLen with
  | zero => exact keeps_throw _
  | succ left ih =>
      refine keeps_acting_bind (keeps_ofAsking (h.keeps_reading trivial)) fun reply => ?_
      split
      · have hretry (text : String) :=
          keeps_acting_bind (keeps_lift (h.keeps_trace text)) fun _ => ih reply.total
        split
        · refine keeps_acting_bind (keeps_lift (h.keeps_warn _)) fun _ => ?_
          exact keeps_acting_bind (keeps_throw _) fun _ => hretry _
        · exact hretry _
      · split
        · exact hmissing _ _ _
        · exact keeps_acting_bind (keeps_lift (h.keeps_traceLabelled _ _)) fun _ => keeps_done _
      · exact hmissing _ _ _

theorem keeps_fetchBytes (format : Format) :
    (fetchBytes format).run.Keeps setting place property := by
  refine keeps_acting_bind (keeps_lift (keeps_client keeps_done)) fun client => ?_
  refine keeps_fetchWith h (fun left bufferLen owner => ?_) _ _
  cases owner with
  | none => exact keeps_throw _
  | some owner =>
      refine keeps_acting_bind (keeps_requestRender h owner format) fun _ => ?_
      exact keeps_fetchWith h (fun _ _ _ => keeps_throw _) _ _

theorem keeps_fetch (format : Format) : (fetch format).run.Keeps setting place property := by
  refine keeps_acting_bind (keeps_fetchBytes h format) fun payload => ?_
  refine keeps_acting_bind (keeps_lift (keeps_client keeps_done)) fun client => ?_
  refine keeps_acting_bind (keeps_ofResult _ _) fun decoded => ?_
  exact keeps_acting_bind (keeps_lift (h.keeps_setGraphics _)) fun _ => keeps_done _

theorem keeps_textSettings (target : Format) :
    (textSettings target).Keeps setting place property := by
  have hlocale : locale.Keeps setting place property := by
    refine keeps_client fun client => keeps_bind (keeps_fetchBytes h _) fun payload => ?_
    split <;> exact keeps_done _
  refine keeps_client fun client => ?_
  dsimp only
  split
  · exact keeps_bind hlocale fun locale => keeps_done _
  · exact keeps_bind (keeps_done _) fun locale => keeps_done _

/-- A rendering looks around until its result is put. -/
theorem keeps_rendered (target source : Format) :
    (rendered target source).run.Keeps setting place property := by
  refine keeps_acting_bind (keeps_lift (h.keeps_trace _)) fun _ => ?_
  refine keeps_acting_bind (keeps_fetch h source) fun data => ?_
  refine keeps_acting_bind (keeps_lift (keeps_textSettings h target)) fun text => ?_
  refine keeps_acting_bind (keeps_lift (keeps_client keeps_done)) fun client => ?_
  refine keeps_acting_bind (keeps_ofResult _ _) fun converted => ?_
  exact keeps_acting_bind (keeps_lift (h.keeps_setGraphics _)) fun _ => keeps_done _

end Tolerates

section Present

variable {world now : World} {board : Board} {client : Client} {told : List Event}
  {asked : List Request} {format : Format} {payload : Bytes}
  {goal : Except ClientError Bytes → World → Prop}

/-- A payload that fits is got at once. -/
theorem ensures_fetchWith_of_le (hanswer : setting.answer = World.consult)
    (h : world.Evolves place board client told asked now)
    (hgrowth : board.growth = []) (hopen : board.isOpenBy (clientId place) = true)
    (hpayload : board.entries.find? format = some payload) (hne : payload ≠ [])
    {limit left : Nat} {missing : Nat → UInt32 → Option WindowId → Acting Bytes}
    {bufferLen : UInt32} (hfits : UInt32.ofNat payload.length ≤ bufferLen)
    (hgoal : ∀ asked' later, world.Evolves place board client told asked' later →
      goal (.ok payload) later) :
    (fetchWith format limit missing (left + 1) bufferLen).run.Ensures setting place goal now := by
  simp only [fetchWith, Ask.get, ensures_acting_bind, ensures_ofAsking]
  refine ensures_ask hanswer h _ _ fun later hlater => ?_
  rw [Board.handle_get_board format bufferLen hgrowth] at hlater
  rw [Board.handle_get_of_le hopen hpayload hfits]
  simp only [Reply.outcome, Ask.taken, mapError_ok]
  have hfull : payload.isEmpty = false := by simpa using hne
  simp only [hfull, Bool.false_eq_true, if_false, ensures_acting_bind, ensures_lift]
  exact ensures_traceLabelled hanswer hlater _ format fun names named _ hnamed =>
    hgoal _ named hnamed

/-- A client whose session is not open gets nothing. -/
theorem ensures_fetchBytes_of_not_open (hanswer : setting.answer = World.consult)
    (h : world.Evolves place board client told asked now)
    (hopen : board.isOpenBy (clientId place) = false)
    (hgoal : ∀ asked' error later, world.Evolves place board client told asked' later →
      goal (.error error) later) :
    (fetchBytes format).run.Ensures setting place goal now := by
  simp only [fetchBytes, ensures_acting_bind, ensures_lift, ensures_client, h.client_eq]
  obtain ⟨left, hleft⟩ := client.settings.exists_attempt
  rw [hleft, fetchWith]
  simp only [Ask.get, ensures_acting_bind, ensures_ofAsking]
  refine ensures_ask hanswer h _ _ fun later hlater => ?_
  rw [Board.handle_get_of_not_open format _ hopen] at hlater ⊢
  exact hgoal _ _ later hlater

/-- With two attempts left, a payload that is there is got, and nobody else is involved. -/
theorem ensures_fetchWith_of_find? (hanswer : setting.answer = World.consult)
    (h : world.Evolves place board client told asked now)
    (hgrowth : board.growth = []) (hopen : board.isOpenBy (clientId place) = true)
    (hpayload : board.entries.find? format = some payload) (hne : payload ≠ [])
    {limit left : Nat} {missing : Nat → UInt32 → Option WindowId → Acting Bytes}
    {bufferLen : UInt32}
    (hgoal : ∀ asked' later, world.Evolves place board client told asked' later →
      goal (.ok payload) later) :
    (fetchWith format limit missing (left + 2) bufferLen).run.Ensures setting place goal now := by
  by_cases hfits : UInt32.ofNat payload.length ≤ bufferLen
  · exact ensures_fetchWith_of_le hanswer h hgrowth hopen hpayload hne hfits hgoal
  · -- The first answer tells the size, and the second attempt has room for just that.
    rw [fetchWith]
    simp only [Ask.get, ensures_acting_bind, ensures_ofAsking]
    refine ensures_ask hanswer h _ _ fun later hlater => ?_
    rw [Board.handle_get_board format _ hgrowth] at hlater
    rw [Board.handle_get_of_not_le hopen hpayload hfits]
    simp only [Reply.outcome, Ask.taken, mapError_ok, Nat.succ_ne_zero, if_false]
    rw [ensures_acting_bind, ensures_lift, ensures_trace]
    exact ensures_fetchWith_of_le hanswer (hlater.note _) hgrowth hopen hpayload hne
      (UInt32.le_refl _) hgoal

/-- With at least two attempts, a payload that is there is got, and nobody else is involved. -/
theorem ensures_fetchBytes_of_find? (hanswer : setting.answer = World.consult)
    (h : world.Evolves place board client told asked now)
    (hgrowth : board.growth = []) (hopen : board.isOpenBy (clientId place) = true)
    (hpayload : board.entries.find? format = some payload) (hne : payload ≠ [])
    (hretries : 2 ≤ client.settings.overflowRetries)
    (hgoal : ∀ asked' later, world.Evolves place board client told asked' later →
      goal (.ok payload) later) :
    (fetchBytes format).run.Ensures setting place goal now := by
  simp only [fetchBytes, ensures_acting_bind, ensures_lift, ensures_client, h.client_eq]
  obtain ⟨left, hleft⟩ := Settings.exists_attempts hretries
  rw [hleft]
  exact ensures_fetchWith_of_find? hanswer h hgrowth hopen hpayload hne hgoal

end Present

end Acting

end Pasteboard
