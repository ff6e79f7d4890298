import Pasteboard.Proofs.Client.Writing
import Pasteboard.Proofs.World.Steps
import Pasteboard.Proofs.World.Tasks

/-!
# Claims that the store refuses

A client that claims the clipboard asks the previous owner to let go before the store decides. So a
claim that fails goes unnoticed if and only if nobody owned the clipboard: see
`Acting.refused_claim_unnoticed_iff`. What the previous owner does meanwhile is left open; all that
is used of it is that what happened stays on the record.
-/

namespace Pasteboard

open Call World

/-- Somebody was told to let go of the clipboard, or was told anything without being waited for. -/
def Event.IsNotice : Event → Prop
  | .posted _ _ | .sent _ .destroyClipboard _ => True
  | _ => False

/-- Between two worlds nobody was given notice, the store kept the entries, the owner and the count
of changes, and the client at the place kept its derivations and its session. -/
structure World.Unnoticed (world : World) (place : Nat) (after : World) : Prop where
  told : ∃ told, after.events = world.events ++ told ∧ ∀ event ∈ told, ¬ event.IsNotice
  entries : after.board.entries = world.board.entries
  owner : after.board.owner = world.board.owner
  sequence : after.board.sequence = world.board.sequence
  sources : (after.client place).sources = (world.client place).sources
  session : (after.client place).session = (world.client place).session

section Record

variable {place : Nat} {world : World} {base : List Event}

theorem World.prefix_post (h : base <+: world.events) (window : WindowId) (message : Message) :
    base <+: (world.post window message).2.events := by
  have hrecord : base <+: (world.record (.posted window message)).events :=
    h.trans (List.prefix_append _ _)
  simp only [World.post]
  split <;> exact hrecord

/-- Whatever a client does, what is on the record stays there. -/
theorem Call.ensures_prefix {α : Type} {setting : Setting}
    (hanswer : setting.answer = World.consult)
    (hready : ∀ world, base <+: world.events → setting.ready world)
    (hshift : ∀ window message limit world later, base <+: world.events →
      setting.shift window message limit world later → base <+: later.events)
    (call : Call α) (h : base <+: world.events) :
    call.Ensures setting place (fun _ later => base <+: later.events) world := by
  induction call generalizing world with
  | done => exact h
  | ask request next ih =>
      simp only [Ensures, hanswer]
      exact ih _ h
  | send window message limit next ih =>
      exact ⟨hready world h, fun answer later hlater =>
        ih answer (hshift window message limit world later h hlater)⟩
  | post window message next ih => exact ih _ (World.prefix_post h window message)
  | refresh next ih => exact ih (h.trans (List.prefix_append _ _))
  | note entry next ih => exact ih (h.trans (Stirs.note world entry).events)
  | read next ih => exact ih _ h
  | write client next ih => exact ih h

/-- Nothing that happens takes anything off the record. -/
theorem World.kept_prefix (base : List Event) :
    Kept (fun _ => True) World.consult fun world => base <+: world.events where
  hereditary _ _ _ _ _ _ := trivial
  allows _ _ _ _ _ _ _ _ := trivial
  stirs _ _ h hstirs _ := h.trans hstirs.events
  busy _ _ _ _ _ h := h
  task medium place task world hanswer hsend _ h _ := by
    have hfits := Setting.fits_keeping hsend
    rw [hanswer] at hfits
    exact (Call.ensures_prefix rfl (fun _ h => h) (fun _ _ _ _ _ _ h => h) task.run h).run hfits
  tamper _ _ _ h := h
  disconnect world place _ h := by
    unfold World.disconnect
    split
    · exact h
    · split <;> exact h

end Record

/-- The surroundings in which a message is on the record once it was sent. -/
def Setting.recording : Setting where
  answer := World.consult
  ready _ := True
  shift window message limit world later :=
    world.events ++ [.sent window message limit] <+: later.events

theorem Setting.fits_recording (depth : Nat) :
    Medium.Fits ⟨World.consult, World.send World.consult (depth + 1)⟩ .recording where
  answer := rfl
  send window message limit world _ := by
    have hkept := World.kept_prefix (world.events ++ [.sent window message limit])
    exact hkept.weathered.send_succ (hkept.weathered.send depth) (List.prefix_refl _)

namespace Acting

variable {place : Nat} {world after now : World} {owner : Option WindowId} {error : ClientError}

/-- If nobody owns the clipboard, a claim fails only for a client whose session is not open, and
then nothing happens. -/
theorem ensures_claimOwnership_of_none
    {board : Board} {client : Client} (h : world.Evolves place board client [] [] now)
    (hnone : board.owner = none) (owner : Option WindowId) :
    (claimOwnership owner).run.Ensures .recording place (fun result later =>
      ∀ error, result = .error error →
        world.Evolves place board client [] [.info, .claimOwnership owner] later) now := by
  simp only [claimOwnership_eq, Ask.info, ensures_acting_bind, ensures_ofAsking]
  refine ensures_ask rfl h _ _ fun later hlater => ?_
  simp only [Board.handle, Reply.outcome, Ask.taken, mapError_ok, Board.info, hnone]
  cases hopen : board.isOpenBy (clientId place) with
  | true =>
      refine ensures_takeOver rfl hlater _ owner hopen fun _ _ => ?_
      intro error herror
      cases herror
  | false => exact ensures_takeOver_refused rfl hlater _ owner hopen fun _ hend _ _ => hend

/-- If there is an owner, the claim has it on record that the owner was told to let go, whether or
not it succeeds. -/
theorem ensures_claimOwnership_of_some
    {board : Board} {client : Client} (h : world.Evolves place board client [] [] now)
    {previous : WindowId} (hsome : board.owner = some previous) (owner : Option WindowId) :
    (claimOwnership owner).run.Ensures .recording place (fun _ later =>
      ∃ limit, world.events ++ [.sent previous .destroyClipboard limit] <+: later.events) now := by
  simp only [claimOwnership_eq, Ask.info, ensures_acting_bind, ensures_ofAsking]
  refine ensures_ask rfl h _ _ fun later hlater => ?_
  simp only [Board.handle, Reply.outcome, Ask.taken, mapError_ok, Board.info, hsome]
  rw [ensures_acting_bind, ensures_lift]
  -- From the moment the message is sent, only the record is followed.
  have hrest : ∀ (sent : World) (limit : Option Duration),
      world.events ++ [.sent previous .destroyClipboard limit] <+: sent.events →
      (takeOver board.viewer owner).run.Ensures .recording place (fun _ later =>
        ∃ limit, world.events ++ [.sent previous .destroyClipboard limit] <+: later.events)
        sent := by
    intro sent limit hsent
    refine (Call.ensures_prefix rfl (fun _ _ => trivial) ?_ _ hsent).mono fun _ _ hend =>
      ⟨limit, hend⟩
    intro window message limit world later hbase hlater
    exact hbase.trans ((List.prefix_append _ _).trans hlater)
  refine ensures_dismiss (fun _ => trivial) fun entry sent hsent => ?_
  have hevents := (hlater.note entry).events_eq
  rw [List.append_nil] at hevents
  simp only [Setting.recording, hevents] at hsent
  exact ⟨hrest _ _ hsent, fun warning => hrest _ _ (hsent.trans (Stirs.note _ _).events)⟩

/-- If a refused claim went unnoticed, then nobody owned the clipboard. -/
theorem owner_eq_none_of_unnoticed (hidle : world.Idle place) (depth : Nat)
    (hrefused : world.act ⟨World.consult, World.send World.consult (depth + 1)⟩ place
      (.claim owner) = (.failed error, after))
    (hquiet : world.Unnoticed place after) : world.board.owner = none := by
  cases howner : world.board.owner with
  | none => rfl
  | some previous =>
      have htold := act_of_ensures (Setting.fits_recording depth) hidle (.claim owner)
        (fun _ later =>
          ∃ limit, world.events ++ [.sent previous .destroyClipboard limit] <+: later.events)
        (by
          rw [Task.run, Task.ensures_outcome]
          exact ensures_claimOwnership_of_some hidle.start howner owner)
      rw [hrefused] at htold
      obtain ⟨limit, rest, hrest⟩ := htold
      obtain ⟨told, htold, hnone⟩ := hquiet.told
      -- The message to the owner is the first thing that was told since.
      rw [htold, List.append_assoc, List.append_cancel_left_eq] at hrest
      have hmem : Event.sent previous .destroyClipboard limit ∈ told := by
        rw [← hrest]
        exact List.mem_cons_self
      exact False.elim (hnone _ hmem trivial)

/-- If nobody owned the clipboard, then a refused claim goes unnoticed. -/
theorem unnoticed_of_owner_eq_none (hidle : world.Idle place) (depth : Nat)
    (hrefused : world.act ⟨World.consult, World.send World.consult (depth + 1)⟩ place
      (.claim owner) = (.failed error, after))
    (hnone : world.board.owner = none) : world.Unnoticed place after := by
  have hdone := act_of_ensures (Setting.fits_recording depth) hidle (.claim owner)
    (fun outcome later => ∀ error, outcome = .failed error →
      world.Evolves place world.board (world.client place) [] [.info, .claimOwnership owner] later)
    (by
      rw [Task.run, Task.ensures_outcome]
      refine (ensures_claimOwnership_of_none hidle.start hnone owner).mono
        fun result later hresult error herror => ?_
      cases result with
      | ok => cases herror
      | error error => exact hidle.evolves (hresult error rfl))
  rw [hrefused] at hdone
  have hend := hdone error rfl
  exact {
    told := ⟨[], hend.events_eq, fun event hevent => False.elim (List.not_mem_nil hevent)⟩
    entries := by rw [hend.board_eq]
    owner := by rw [hend.board_eq]
    sequence := by rw [hend.board_eq]
    sources := by rw [hend.client_eq]
    session := by rw [hend.client_eq] }

/-- A claim that the store refuses goes unnoticed if and only if nobody owned the clipboard: a
previous owner is told that it lost the clipboard before the store decides. -/
theorem refused_claim_unnoticed_iff (depth : Nat)
    (hrefused : world.act ⟨World.consult, World.send World.consult (depth + 1)⟩ place
      (.claim owner) = (.failed error, after)) :
    world.Unnoticed place after ↔ world.board.owner = none := by
  have hidle : world.Idle place := by
    apply idle_of_act hrefused
    · intro hgone
      cases hgone
    · intro hbusy
      cases hbusy
  constructor
  · intro hquiet
    exact owner_eq_none_of_unnoticed hidle depth hrefused hquiet
  · intro hnone
    exact unnoticed_of_owner_eq_none hidle depth hrefused hnone

/-- Nobody owns an empty board, and the claim of a client that did not open it goes unnoticed. -/
theorem refused_claim_unnoticed_of_empty_board :
    let start := World.gathering .empty 1 []
    let result := start.act (start.medium World.consult) 0 (.claim (some firstWindow))
    result.1 = .failed .notOpen ∧ start.Unnoticed 0 result.2 := by
  intro start result
  have hrefused : start.act (start.medium World.consult) 0 (.claim (some firstWindow)) =
      (.failed .notOpen, result.2) := Prod.ext rfl rfl
  exact ⟨rfl, (refused_claim_unnoticed_iff 1 hrefused).2 rfl⟩

/-- One client owns the clipboard. Another one claims it without a session: the claim is refused,
and the owner was told that it lost the clipboard. -/
theorem owner_dismissed_by_refused_claim :
    let owned := (World.gathering .empty 2 []).after
      [.task 0 (.openSession (some firstWindow)), .task 0 (.claim (some firstWindow)),
        .task 0 .closeSession]
    let result := owned.act (owned.medium World.consult) 1 (.claim (some secondWindow))
    result.1 = .failed .notOpen ∧
      result.2.events =
        owned.events ++ [.sent firstWindow .destroyClipboard (some ⟨5000⟩)] ∧
      ¬ owned.Unnoticed 1 result.2 := by
  intro owned result
  have hevents : result.2.events =
      owned.events ++ [.sent firstWindow .destroyClipboard (some ⟨5000⟩)] := rfl
  refine ⟨rfl, hevents, fun hquiet => ?_⟩
  obtain ⟨told, htold, hnone⟩ := hquiet.told
  rw [hevents, List.append_cancel_left_eq] at htold
  have hnotice : Event.IsNotice (.sent firstWindow .destroyClipboard (some ⟨5000⟩)) := trivial
  exact hnone _ (htold ▸ List.mem_cons_self) hnotice

end Acting

end Pasteboard
