import Pasteboard.Proofs.Call.Ends
import Pasteboard.Proofs.Client.Reading
import Pasteboard.Proofs.World.Inert

/-!
# Asking the owner for missing data

A payload that is missing is requested from the owner, once: `Acting.awaited` is that request and
what comes after it. Among inert windows nothing is rendered, and `World.unanswered` is the error
that the client gets instead.
-/

namespace Pasteboard

open Call World

variable {medium : Medium} {place : Nat} {world now : World} {board : Board} {client : Client}
  {told : List Event} {asked : List Request} {format : Format}

/-- The failure of a get whose request to the owner fails. -/
def SendError.unrendered (format : Format) (owner : WindowId) : SendError → ClientError
  | .invalidWindow _ => .noData format
  | .timeout _ | .hung => .renderTimeout format owner

namespace Acting

/-- What is done about a missing payload: the owner is asked for it, and it is got again. -/
def awaited (format : Format) (limit left : Nat) (bufferLen : UInt32) :
    Option WindowId → Acting Bytes
  | some owner => do
    requestRender owner format
    fetchWith format limit (fun _ _ _ => throw (.noData format)) left bufferLen
  | none => throw (.noData format)

/-- A fetch makes its attempts with the settings of the client, and those that are left after the
owner was asked. -/
theorem fetchBytes_eq (format : Format) :
    fetchBytes format = (do
      let settings := (← Call.client).settings
      let limit := max settings.overflowRetries.toNat 1
      fetchWith format limit (awaited format limit) limit settings.initialBufferSize) := by
  have hawaited (limit : Nat) : awaited format limit = fun left bufferLen owner => match owner with
      | some owner => do
        requestRender owner format
        fetchWith format limit (fun _ _ _ => throw (.noData format)) left bufferLen
      | none => throw (.noData format) := by
    funext left bufferLen owner
    cases owner <;> rfl
  simp only [hawaited]
  rfl

/-- If there is no payload, it is left to `missing` what to do. -/
theorem ends_fetchWith_of_missing (hanswer : medium.answer = World.consult)
    (hopen : world.board.isOpenBy (clientId place) = true)
    (hmissing : (world.board.entries.find? format).getD [] = [])
    {limit left : Nat} {missing : Nat → UInt32 → Option WindowId → Acting Bytes}
    {bufferLen : UInt32} {goal : Except ClientError Bytes → World → Prop}
    (hgoal : (missing (left + 1) bufferLen world.board.owner).run.Ends medium place goal
      (world.consult place (.get format bufferLen)).2) :
    (fetchWith format limit missing (left + 1) bufferLen).run.Ends medium place goal world := by
  have hreply : (world.consult place (.get format bufferLen)).1 =
      .ok (.data ⟨if (world.board.entries.find? format).isSome then .ok else .notFound, [], 0,
        world.board.owner⟩) := by
    show Reply.outcome (world.board.handle (clientId place) (.get format bufferLen)).1 = _
    rw [Board.handle_get_of_missing hopen hmissing]
    rfl
  rw [fetchWith]
  simp only [Ask.get, ends_acting_bind, ends_ofAsking, ends_expect, hanswer, hreply, Ask.taken,
    mapError_ok]
  cases world.board.entries.find? format <;> exact hgoal

/-- A request to the owner is one message, with a note before it and another one if it fails. -/
theorem ends_requestRender (owner : WindowId)
    {goal : Except ClientError Unit → World → Prop}
    (hgoal : ∀ entry answer later,
      medium.send owner (.renderFormat format) (some (world.client place).settings.renderTimeout)
        (world.note entry) = (answer, later) →
      match answer with
      | .ok _ => goal (.ok ()) later
      | .error error => ∀ warning, goal (.error (error.unrendered format owner))
          (later.note warning)) :
    (requestRender owner format).run.Ends medium place goal world := by
  simp only [requestRender, ends_acting_bind, ends_lift, ends_trace, ends_client, ends_send,
    ends_done, client_note]
  generalize hsent : medium.send owner (.renderFormat format)
    (some (world.client place).settings.renderTimeout) (world.note _) = sent
  obtain ⟨answer, later⟩ := sent
  have hlater := hgoal _ answer later hsent
  cases answer with
  | ok answer => exact hlater
  | error error =>
      cases error with
      | invalidWindow window =>
          simp only [ends_acting_bind, ends_lift, ends_warn, ends_throw]
          exact hlater _
      | timeout | hung =>
          simp only [ends_acting_bind, ends_lift, ends_warn, ends_throw]
          exact hlater _

/-- A client that gets a missing payload asks the owner for it and then looks again, with as much
room as before. -/
theorem ends_fetchBytes_of_missing (hanswer : medium.answer = World.consult)
    (h : world.Evolves place board client told asked now) (hgrowth : board.growth = [])
    (hopen : board.isOpenBy (clientId place) = true)
    (hmissing : (board.entries.find? format).getD [] = []) {owner : WindowId}
    (howner : board.owner = some owner) (hretries : 2 ≤ client.settings.overflowRetries)
    {goal : Except ClientError Bytes → World → Prop}
    (hgoal : ∀ asked' noted, world.Evolves place board client told asked' noted →
      noted.windows = now.windows → ∀ answer later,
      medium.send owner (.renderFormat format) (some client.settings.renderTimeout) noted =
        (answer, later) →
      match answer with
      | .ok _ => ∀ limit left bufferLen, (fetchWith format limit
          (fun _ _ _ => throw (.noData format)) (left + 2) bufferLen).run.Ends medium place goal
          later
      | .error error => ∀ warning, goal (.error (error.unrendered format owner))
          (later.note warning)) :
    (fetchBytes format).run.Ends medium place goal now := by
  have hboard := h.board_eq
  obtain ⟨left, hleft⟩ := Settings.exists_attempts hretries
  rw [fetchBytes_eq]
  simp only [ends_acting_bind, ends_lift, ends_client, h.client_eq, hleft]
  refine ends_fetchWith_of_missing hanswer ?_ ?_ ?_
  · rwa [hboard]
  · rwa [hboard]
  · rw [hboard, howner, awaited, ends_acting_bind]
    have hasked := h.consult (.get format client.settings.initialBufferSize)
    rw [Board.handle_get_board format _ hgrowth] at hasked
    refine ends_requestRender owner fun entry answer later hsent => ?_
    rw [hasked.client_eq] at hsent
    have hlater := hgoal _ _ (hasked.note entry) (note_windows _ entry) answer later hsent
    cases answer with
    | ok => exact hlater _ left _
    | error => exact hlater

end Acting

/-! ## What the owner's window does -/

namespace World

/-- What a window has clients do about a message. -/
def reaction (world : World) (window : WindowId) (message : Message) : List Step :=
  (((world.script window).handlers.find? (·.fits message)).map Handler.steps).getD []

/-- A window that is well processes a request for data by having clients do something. -/
theorem send_renderFormat {answer : Answering} {window : WindowId}
    (hwell : (world.script window).trouble = none) (depth : Nat)
    (limit : Option Duration) (property : World → Prop)
    (hsteps : property ((world.record (.sent window (.renderFormat format) limit)).performAll
      ⟨answer, send answer depth⟩ (world.reaction window (.renderFormat format))).2)
    (hhandled : ∀ world outcomes, property world →
      property (world.record (.handled window outcomes))) :
    ∃ flag later, send answer (depth + 1) window (.renderFormat format) limit world =
      (.ok flag, later) ∧ property later := by
  have hscript : (world.record (.sent window (.renderFormat format) limit)).script window =
      world.script window := rfl
  have hprocess (medium : Medium) (world : World) :
      world.process medium window (.renderFormat format) =
        world.handle medium window (.renderFormat format) := by
    unfold World.process
    cases world.viewer? window <;> rfl
  simp only [send, hscript, hwell, hprocess, handle]
  unfold reaction at hsteps
  cases hfind : (world.script window).handlers.find? (·.fits (.renderFormat format)) with
  | none =>
      rw [hfind] at hsteps
      exact ⟨_, _, rfl, hsteps⟩
  | some handler =>
      rw [hfind] at hsteps
      exact ⟨_, _, rfl, hhandled _ _ hsteps⟩

end World

/-! ## Putting a value -/

/-- A value that the client may put either has no payload, or is stored. -/
theorem Acting.ends_put (hanswer : medium.answer = World.consult)
    (h : world.Evolves place board client told asked now) (hadmits : board.Admits (clientId place))
    (hformat : format ≠ Format.null) (data : Data) :
    (put format data).run.Ends medium place (fun result later => later.windows = now.windows ∧
      match result with
      | .ok () => ∃ payload asked', data.encode client.graphics format = .ok payload ∧
          world.Evolves place (board.stored format payload) (client.stored format) told asked' later
      | .error error => ∃ cause, data.encode client.graphics format = .error cause ∧
          error = .payload format cause ∧
            world.Evolves place board client told asked later) now := by
  simp only [put, ends_acting_bind, ends_lift, ends_client, ends_ofResult, h.client_eq]
  cases hencode : data.encode client.graphics format with
  | error cause => exact ⟨trivial, cause, rfl, rfl, h⟩
  | ok payload =>
      have hstored : (putBytes format payload).run.Ensures .silent place (fun result later =>
          result = .ok () ∧ ∃ asked', world.Evolves place (board.stored format payload)
            (client.stored format) told asked' later) now :=
        ensures_putBytes rfl h payload hadmits hformat fun _ _ _ hlater => ⟨rfl, _, hlater⟩
      refine (hstored.ends hanswer).mono fun result later hlater => ?_
      obtain ⟨⟨rfl, asked', hlater⟩, hwindows⟩ := hlater
      exact ⟨hwindows, payload, asked', rfl, hlater⟩

/-! ## Among inert windows -/

/-- What comes of a get if the data are missing and the owner does nothing. -/
def World.unanswered (world : World) (format : Format) : Option WindowId → ClientError
  | none => .noData format
  | some owner =>
    match (world.script owner).trouble with
    | none | some .invalid => .noData format
    | some .timeout | some .hung => .renderTimeout format owner

namespace World

/-- Inert windows do nothing on any message. -/
theorem Inert.reaction_eq_nil (h : world.Inert) (window : WindowId) (message : Message) :
    world.reaction window message = [] := by
  unfold reaction
  cases hfind : (world.script window).handlers.find? (·.fits message) with
  | none => rfl
  | some handler =>
      exact List.eq_nil_iff_forall_not_mem.2 fun step hstep =>
        h.script window handler (List.mem_of_find?_eq_some hfind) step hstep

/-- A request for data to an inert window succeeds or fails for the trouble that the window has. -/
theorem send_renderFormat_of_inert (h : world.Inert) (depth : Nat) (window : WindowId)
    (format : Format) (limit : Option Duration) {answer : Except SendError Bool} {later : World}
    (hsend : World.send World.consult (depth + 1) window (.renderFormat format) limit world =
      (answer, later)) :
    later.windows = world.windows ∧ match answer with
      | .ok _ => world.unanswered format (some window) = .noData format
      | .error error => error.unrendered format window = world.unanswered format (some window) := by
  cases htrouble : (world.script window).trouble with
  | none =>
      have hsteps : ((world.record (.sent window (.renderFormat format) limit)).performAll
          ⟨consult, World.send consult depth⟩
            (world.reaction window (.renderFormat format))).2.windows = world.windows := by
        rw [h.reaction_eq_nil]
        rfl
      obtain ⟨flag, ended, hended, hwindows⟩ := send_renderFormat htrouble depth limit
        (fun ended => ended.windows = world.windows) hsteps fun _ _ hwindows => hwindows
      obtain ⟨rfl, rfl⟩ := Prod.mk.inj (hended.symm.trans hsend)
      exact ⟨hwindows, by simp [unanswered, htrouble]⟩
  | some trouble =>
      have hscript : (world.record (.sent window (.renderFormat format) limit)).script window =
          world.script window := rfl
      simp only [World.send, hscript] at hsend
      cases trouble <;>
      · simp only [htrouble, Prod.mk.injEq] at hsend
        obtain ⟨rfl, rfl⟩ := hsend
        exact ⟨rfl, by simp [unanswered, htrouble, SendError.unrendered]⟩

/-- What a client gets under a format: the payload that is there, or what comes of asking for it. -/
def payload (world : World) (format : Format) : Except ClientError Bytes :=
  if (world.board.entries.find? format).getD [] = [] then
    .error (world.unanswered format world.board.owner)
  else .ok ((world.board.entries.find? format).getD [])

/-- A payload that can be fetched is on the board. -/
theorem find?_of_payload {payload : Bytes} (h : world.payload format = .ok payload) :
    world.board.entries.find? format = some payload := by
  unfold World.payload at h
  split at h
  · cases h
  · rename_i hne
    cases hfind : world.board.entries.find? format with
    | none => simp [hfind] at hne
    | some found =>
        rw [hfind] at h
        rw [← Except.ok.inj h]
        rfl

/-- From the first world, the client came to this board and this state of its own, and windows
behave as they did. -/
def Reaches (world : World) (place : Nat) (board : Board) (client : Client) (now : World) : Prop :=
  now.windows = world.windows ∧ ∃ told asked, world.Evolves place board client told asked now

/-- What happens among the same windows is reached. -/
theorem Evolves.reaches (h : world.Evolves place board client told asked now)
    (hwindows : now.windows = world.windows) : world.Reaches place board client now :=
  ⟨hwindows, told, asked, h⟩

namespace Reaches

variable (h : world.Reaches place board client now)

include h

theorem board_eq : now.board = board := by
  obtain ⟨_, _, _, h⟩ := h
  exact h.board_eq

theorem client_eq : now.client place = client := by
  obtain ⟨_, _, _, h⟩ := h
  exact h.client_eq

/-- Getting a payload leaves the board as it is, as long as no entry is set to grow. -/
theorem consult_get (hgrowth : board.growth = []) (format : Format) (bufferLen : UInt32) :
    world.Reaches place board client (now.consult place (.get format bufferLen)).2 := by
  obtain ⟨hwindows, told, asked, h⟩ := h
  have hlater := h.consult (.get format bufferLen)
  rw [Board.handle_get_board format bufferLen hgrowth] at hlater
  exact ⟨hwindows, told, _, hlater⟩

theorem note (entry : Note) : world.Reaches place board client (now.note entry) := by
  obtain ⟨hwindows, told, asked, h⟩ := h
  exact ⟨(note_windows now entry).trans hwindows, told, asked, h.note entry⟩

/-- The client may change what it knows. -/
theorem modify (change : Client → Client) :
    world.Reaches place board (change client)
      (now.setClient place (change (now.client place))) := by
  obtain ⟨hwindows, told, asked, h⟩ := h
  exact ⟨hwindows, told, asked, h.modify change⟩

end Reaches

/-- Where a client begins a task. -/
theorem Idle.reaches (h : world.Idle place) :
    (world.setBusy place true).Reaches place world.board (world.client place)
      (world.setBusy place true) :=
  h.start.reaches rfl

/-- What a client came to during a task it came to between its idle times. -/
theorem Idle.reached (hidle : world.Idle place)
    (h : (world.setBusy place true).Reaches place board client now) :
    world.Reaches place board client (now.setBusy place false) := by
  obtain ⟨hwindows, told, asked, h⟩ := h
  exact ⟨hwindows, told, asked, hidle.evolves h⟩

/-- What an owner leaves unanswered depends on the windows alone. -/
theorem unanswered_congr {later : World} (hwindows : later.windows = world.windows)
    (owner : Option WindowId) : later.unanswered format owner = world.unanswered format owner := by
  cases owner with
  | none => rfl
  | some owner => rw [unanswered, script, hwindows, unanswered, script]

/-- What a client gets depends on the entry, the owner and the windows. -/
theorem payload_congr {later : World} (hwindows : later.windows = world.windows)
    (howner : later.board.owner = world.board.owner)
    (hentry : later.board.entries.find? format = world.board.entries.find? format) :
    later.payload format = world.payload format := by
  rw [payload, hentry, howner, unanswered_congr hwindows, payload]

end World

namespace Acting

/-- A client gets nothing under a format that nobody can be asked for. -/
theorem ends_fetchBytes_of_ownerless (h : world.Reaches place board client now)
    (hanswer : medium.answer = World.consult) (hgrowth : board.growth = [])
    (hopen : board.isOpenBy (clientId place) = true)
    (hmissing : (board.entries.find? format).getD [] = []) (howner : board.owner = none) :
    (fetchBytes format).run.Ends medium place (fun result later =>
      result = .error (.noData format) ∧ world.Reaches place board client later) now := by
  have hboard := h.board_eq
  obtain ⟨left, hleft⟩ := client.settings.exists_attempt
  rw [fetchBytes_eq]
  simp only [ends_acting_bind, ends_lift, ends_client, h.client_eq, hleft]
  refine ends_fetchWith_of_missing hanswer ?_ ?_ ?_
  · rwa [hboard]
  · rwa [hboard]
  · rw [hboard, howner]
    exact ⟨rfl, h.consult_get hgrowth _ _⟩

/-- Inert windows that are asked for missing data leave them missing. -/
theorem ends_fetchBytes_of_owned (h : world.Reaches place board client now) (hinert : world.Inert)
    (hgrowth : board.growth = []) (hopen : board.isOpenBy (clientId place) = true)
    (hmissing : (board.entries.find? format).getD [] = []) {owner : WindowId}
    (howner : board.owner = some owner) (hretries : 2 ≤ client.settings.overflowRetries)
    (depth : Nat) :
    (fetchBytes format).run.Ends ⟨World.consult, World.send World.consult (depth + 1)⟩ place
      (fun result later => result = .error (world.unanswered format (some owner)) ∧
        world.Reaches place board client later) now := by
  obtain ⟨hwindows, told, asked, hnow⟩ := h
  refine ends_fetchBytes_of_missing rfl hnow hgrowth hopen hmissing howner hretries
    fun asked' noted hnoted hsame answer later hsent => ?_
  have hinert := hnoted.allows hinert
  obtain ⟨hkept, hanswer⟩ := send_renderFormat_of_inert hinert depth owner format _ hsent
  rw [unanswered_congr (hsame.trans hwindows)] at hanswer
  have hlater : world.Reaches place board client later := by
    have hshift := (Setting.fits_inert (depth + 1)).send owner (.renderFormat format)
      (some client.settings.renderTimeout) noted hinert
    rw [hsent] at hshift
    obtain ⟨more, hmore⟩ := hnoted.inert hshift
    exact hmore.reaches (hkept.trans (hsame.trans hwindows))
  cases answer with
  | error error => exact fun warning => ⟨congrArg Except.error hanswer, hlater.note warning⟩
  | ok flag =>
      intro limit left bufferLen
      refine ends_fetchWith_of_missing rfl ?_ ?_ ?_
      · rwa [hlater.board_eq]
      · rwa [hlater.board_eq]
      · exact ⟨congrArg Except.error hanswer.symm, hlater.consult_get hgrowth _ _⟩

/-- Among inert windows a client gets the payload that is there, or asks for it in vain. -/
theorem ends_fetchBytes_of_inert (h : world.Reaches place board client now) (hinert : world.Inert)
    (hgrowth : board.growth = []) (hopen : board.isOpenBy (clientId place) = true)
    (hretries : 2 ≤ client.settings.overflowRetries) (depth : Nat) (format : Format) :
    (fetchBytes format).run.Ends ⟨World.consult, World.send World.consult (depth + 1)⟩ place
      (fun result later => result = now.payload format ∧ world.Reaches place board client later)
      now := by
  have hboard := h.board_eq
  by_cases hmissing : (board.entries.find? format).getD [] = []
  · rw [World.payload, hboard, if_pos hmissing, unanswered_congr h.1]
    cases howner : board.owner with
    | none => exact ends_fetchBytes_of_ownerless h rfl hgrowth hopen hmissing howner
    | some owner =>
        exact ends_fetchBytes_of_owned h hinert hgrowth hopen hmissing howner hretries depth
  · obtain ⟨hwindows, told, asked, hnow⟩ := h
    obtain ⟨payload, hpayload, hne⟩ := Entries.exists_of_getD_ne_nil hmissing
    have hfound : now.payload format = .ok payload := by
      rw [World.payload, hboard, if_neg hmissing, hpayload, Option.getD_some]
    have hgot : (fetchBytes format).run.Ensures .silent place (fun result later =>
        result = .ok payload ∧ ∃ asked, world.Evolves place board client told asked later) now :=
      ensures_fetchBytes_of_find? rfl hnow hgrowth hopen hpayload hne hretries
        fun _ _ hlater => ⟨rfl, _, hlater⟩
    refine (hgot.ends rfl).mono fun result later hlater => ?_
    obtain ⟨⟨hresult, _, hlater⟩, hsame⟩ := hlater
    exact ⟨hresult.trans hfound.symm, hlater.reaches (hsame.trans hwindows)⟩

end Acting

end Pasteboard
