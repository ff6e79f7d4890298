import Pasteboard.Proofs.Board.Plans
import Pasteboard.Proofs.Client.Writing

/-!
# Closing

A client that changed something plans the derivations, ends its session and tells of the change; one
that changed nothing only ends its session. `Acting.ensures_closeSession_changed` and
`Acting.ensures_closeSession_unchanged` describe the two for the client whose session is open.
-/

namespace Pasteboard

open Call World
open Acting (ofResult)

variable {setting : Setting} {place : Nat} {world now : World} {board : Board}
  {client : Client} {told : List Event} {asked : List Request}

/-- The client after its session is over. -/
def Client.closed (client : Client) : Client := { client with session := none }

/-- The session of a client that remembers a change. -/
theorem Client.session_of_changed (client : Client)
    (h : client.session.any (·.changed) = true) :
    ∃ window, client.session = some ⟨window, true⟩ := by
  obtain ⟨session, hsession, hchanged⟩ := (Option.any_eq_true _ _).1 h
  obtain ⟨window, changed⟩ := session
  dsimp only at hchanged
  exact ⟨window, by rw [hsession, hchanged]⟩

/-- Once a session changed something, a put only makes the client forget a derivation. -/
theorem Client.stored_of_changed (client : Client) {window : Option WindowId}
    (hsession : client.session = some ⟨window, true⟩) (format : Format) :
    client.stored format = { client with sources := client.sources.remove format } := by
  simp [Client.stored, Client.markChanged, hsession]

namespace Acting

section Planning

variable {window : Option WindowId}

theorem ensures_addLocale (hanswer : setting.answer = World.consult)
    (h : world.Evolves place board client told asked now) {goal : Unit → World → Prop}
    (hopen : board.isOpenBy (clientId place) = true)
    (hgoal : ∀ more later,
      world.Evolves place
        (board.stored Format.locale (Bytes.ofU32 client.settings.defaultLocale))
        (client.stored Format.locale) told (asked ++ more) later →
      goal () later) :
    addLocale.Ensures setting place goal now := by
  simp only [addLocale, ensures_bind, ensures_client, h.client_eq]
  exact ensures_putBytes hanswer h _ (.inl hopen) (by decide) fun names later _ hlater =>
    hgoal _ later hlater

/-- An offer puts an empty payload and remembers the source. -/
theorem ensures_offer (hanswer : setting.answer = World.consult)
    (h : world.Evolves place board client told asked now) {derivation : Derivation}
    {goal : Unit → World → Prop} (hopen : board.isOpenBy (clientId place) = true)
    (hsession : client.session = some ⟨window, true⟩)
    (htarget : derivation.target ≠ Format.null)
    (hgoal : ∀ more later,
      world.Evolves place (board.stored derivation.target [])
        { client with sources := client.sources.record derivation.target derivation.source } told
        (asked ++ more) later →
      goal () later) :
    (offer derivation).Ensures setting place goal now := by
  simp only [offer, ensures_bind]
  refine ensures_putBytes hanswer h [] (.inl hopen) htarget fun names later _ hlater => ?_
  have hrecorded := hlater.modify fun client =>
    { client with sources := client.sources.record derivation.target derivation.source }
  rw [Client.stored_of_changed _ hsession, Sources.record_remove] at hrecorded
  exact hgoal _ _ hrecorded

theorem ensures_offerAll (hanswer : setting.answer = World.consult)
    (h : world.Evolves place board client told asked now) {derivations : List Derivation}
    {goal : Unit → World → Prop} (hopen : board.isOpenBy (clientId place) = true)
    (hsession : client.session = some ⟨window, true⟩)
    (htargets : ∀ derivation ∈ derivations, derivation.target ≠ Format.null)
    (hgoal : ∀ more later,
      world.Evolves place (board.offered derivations)
        { client with sources := client.sources.recordAll derivations } told (asked ++ more) later →
      goal () later) :
    (offerAll derivations).Ensures setting place goal now := by
  induction derivations generalizing board client asked now with
  | nil => exact hgoal [] now (by rwa [List.append_nil])
  | cons derivation rest ih =>
      simp only [offerAll, ensures_bind]
      refine ensures_offer hanswer h hopen hsession (htargets derivation List.mem_cons_self)
        fun more later hlater => ?_
      refine ih hlater hopen hsession
        (fun other hmem => htargets other (List.mem_cons_of_mem _ hmem)) fun rest end_ hend => ?_
      rw [List.append_assoc] at hend
      exact hgoal _ end_ hend

/-- In an open session that changed something, the plan for the board is carried out and the client
remembers nothing but its derivations. -/
theorem ensures_planDerivations (hanswer : setting.answer = World.consult)
    (h : world.Evolves place board client told asked now) {goal : Unit → World → Prop}
    (hopen : board.isOpenBy (clientId place) = true)
    (hsession : client.session = some ⟨window, true⟩)
    (hgoal : ∀ more later,
      world.Evolves place (board.planned client.settings.defaultLocale)
        { client with sources := Sources.empty.recordAll board.plan.derivations } told
        (asked ++ .listFormats :: more) later →
      goal () later) :
    planDerivations.Ensures setting place goal now := by
  simp only [planDerivations, Ask.listFormats, ensures_bind]
  refine ensures_ask hanswer h _ _ fun later hlater => ?_
  simp only [Board.handle, Reply.outcome, Ask.taken, ensures_bind, ensures_debug, ensures_modify]
  -- The client forgets all its derivations before it records those of the plan.
  have hcleared := (hlater.note ⟨.debug, "Synthesis plan: " ++ board.plan.shown⟩).modify
    fun client => { client with sources := .empty }
  have hoffers : ∀ more ready,
      world.Evolves place (board.located board.plan client.settings.defaultLocale)
        { client with sources := .empty } told (asked ++ [.listFormats] ++ more) ready →
      (offerAll board.plan.derivations).Ensures setting place goal ready := by
    intro more ready hready
    have hagrees := board.agrees_located board.plan client.settings.defaultLocale
    refine ensures_offerAll hanswer hready (by rwa [hagrees.isOpenBy]) hsession
      (fun derivation hmem => (Plan.mem_derivations hmem).1) fun rest later hlater => ?_
    refine hgoal (more ++ rest) later ?_
    simpa [Board.planned] using hlater
  split
  · rename_i hset
    rw [ensures_bind]
    refine ensures_addLocale hanswer hcleared hopen fun more ready hready => hoffers more ready ?_
    have hstored : Client.stored { client with sources := .empty } Format.locale =
        { client with sources := .empty } :=
      Client.stored_of_changed { client with sources := .empty } hsession Format.locale
    rw [hstored] at hready
    change board.plan.setLocale = true at hset
    rwa [Board.located, if_pos hset]
  · rename_i hset
    refine hoffers [] _ ?_
    change ¬ board.plan.setLocale = true at hset
    rwa [Board.located, if_neg hset, List.append_nil]

end Planning

/-- The part of closing that comes after the derivations were planned. -/
def finishSession (session : Option Session) : Acting CloseReply := do
  let result ← (Ask.finish .closeSession).run
  Call.modify Client.closed
  let reply ← ofResult .ofStore result
  Call.trace ("Closed the clipboard of " ++ WindowId.shownOption (session.bind (·.window))
    ++ ", viewer " ++ WindowId.shownOption reply.viewer ++ ", owner "
    ++ WindowId.shownOption reply.owner)
  Notice.notifyHead reply.viewer reply.owner
  if session.any (·.changed) then tellListeners
  return reply

theorem closeSession_eq :
    closeSession = (do
      let session := (← Call.client).session
      if session.any (·.changed) then planDerivations
      finishSession session) := rfl

theorem ensures_tellListeners (hanswer : setting.answer = World.consult)
    (h : world.Evolves place board client told asked now) {goal : Unit → World → Prop}
    (hgoal : ∀ later,
      world.Evolves place board client (told ++ Notice.listenerEvents board.listeners)
        (asked ++ [.listeners]) later →
      goal () later) :
    tellListeners.Ensures setting place goal now := by
  simp only [tellListeners, Ask.listeners, ensures_bind]
  refine ensures_ask hanswer h _ _ fun later hlater => ?_
  exact Notice.ensures_notifyListeners hlater board.listeners hgoal

/-- The client whose session is open closes it. The listeners are told only if it changed something,
the head of the chain of viewers only if anybody did. -/
theorem ensures_finishSession (hanswer : setting.answer = World.consult)
    (h : world.Evolves place board client told asked now) (session : Option Session)
    {goal : Except ClientError CloseReply → World → Prop}
    (hopen : board.isOpenBy (clientId place) = true)
    (hgoal : ∀ later,
      world.Evolves place board.closed client.closed
        (told ++ Notice.headEvents board.farewell.viewer board.farewell.owner ++
          if session.any (·.changed) then Notice.listenerEvents board.listeners else [])
        (asked ++ .closeSession :: if session.any (·.changed) then [.listeners] else []) later →
      goal (.ok board.farewell) later) :
    (finishSession session).run.Ensures setting place goal now := by
  simp only [finishSession, Ask.finish, ensures_acting_bind, ensures_lift]
  refine ensures_ask hanswer h _ _ fun later hlater => ?_
  rw [Board.handle_closeSession hopen] at hlater ⊢
  simp only [Reply.outcome, Ask.taken, ensures_modify, ensures_ofResult, mapError_ok,
    ensures_trace]
  refine Notice.ensures_notifyHead ((hlater.modify Client.closed).note _) _ _
    fun later hlater => ?_
  split
  · rename_i hchanged
    simp only [hchanged, if_true] at hgoal
    rw [ensures_acting_bind, ensures_lift]
    refine ensures_tellListeners hanswer hlater fun later hlater => hgoal later ?_
    simpa [Board.closed] using hlater
  · rename_i hchanged
    simp only [hchanged] at hgoal
    exact hgoal later (by simpa using hlater)

/-- Any other client is refused; for itself it has no session any more. -/
theorem ensures_finishSession_refused (hanswer : setting.answer = World.consult)
    (h : world.Evolves place board client told asked now) (session : Option Session)
    {goal : Except ClientError CloseReply → World → Prop}
    (hopen : board.isOpenBy (clientId place) = false)
    (hgoal : ∀ later,
      world.Evolves place board client.closed told (asked ++ [.closeSession]) later →
      goal (.error .notOpen) later) :
    (finishSession session).run.Ensures setting place goal now := by
  simp only [finishSession, Ask.finish, ensures_acting_bind, ensures_lift]
  refine ensures_ask hanswer h _ _ fun later hlater => ?_
  rw [Board.handle_closeSession_of_not hopen] at hlater ⊢
  exact hgoal _ (hlater.modify Client.closed)

/-- Closing a session that changed nothing is ending it. -/
theorem ensures_closeSession_unchanged (h : world.Evolves place board client told asked now)
    {goal : Except ClientError CloseReply → World → Prop}
    (hsession : client.session.any (·.changed) = false)
    (hgoal : (finishSession client.session).run.Ensures setting place goal now) :
    closeSession.run.Ensures setting place goal now := by
  rw [closeSession_eq]
  simp only [ensures_acting_bind, ensures_lift, ensures_client, h.client_eq, hsession,
    Bool.false_eq_true, if_false]
  exact hgoal

/-- Closing a session that changed something carries the plan out, ends the session and tells the
listeners. -/
theorem ensures_closeSession_changed (hanswer : setting.answer = World.consult)
    (h : world.Evolves place board client told asked now) {window : Option WindowId}
    {goal : Except ClientError CloseReply → World → Prop}
    (hopen : board.isOpenBy (clientId place) = true)
    (hsession : client.session = some ⟨window, true⟩)
    (hgoal : ∀ more later planned, planned = board.planned client.settings.defaultLocale →
      world.Evolves place planned.closed
        (Client.closed { client with sources := Sources.empty.recordAll board.plan.derivations })
        (told ++ Notice.headEvents planned.farewell.viewer planned.farewell.owner ++
          Notice.listenerEvents board.listeners)
        (asked ++ .listFormats :: more ++ [.closeSession, .listeners]) later →
      goal (.ok planned.farewell) later) :
    closeSession.run.Ensures setting place goal now := by
  have hagrees := board.agrees_planned client.settings.defaultLocale
  rw [closeSession_eq]
  simp only [ensures_acting_bind, ensures_lift, ensures_client, h.client_eq, hsession,
    Option.any_some, if_true]
  refine ensures_planDerivations hanswer h hopen hsession fun more later hlater => ?_
  refine ensures_finishSession hanswer hlater _ (by rwa [hagrees.isOpenBy]) fun last hlast => ?_
  simp only [Option.any_some, if_true, hagrees.listeners] at hlast
  exact hgoal more last _ rfl hlast

end Acting

end Pasteboard
