import Pasteboard.Proofs.World.Interleaving

/-!
# Sessions of clients and of the store

A client remembers its session and whether it changed something in it; the store remembers whose
session is open, and counts what anybody changed. As long as the clients do regular tasks the two
agree: `World.Coherent` is the agreement, and `World.lasting_coherent` says that nothing ends it.
-/

namespace Pasteboard

open Call World

/-- Two clients do not have the same session. -/
theorem Board.eq_of_isOpenBy {board : Board} {place other : Nat}
    (hplace : board.isOpenBy (clientId place) = true)
    (hother : board.isOpenBy (clientId other) = true) : place = other := by
  obtain ⟨_, hplace⟩ := Board.isOpenBy_iff.1 hplace
  obtain ⟨_, hother⟩ := Board.isOpenBy_iff.1 hother
  rw [hplace, Option.some.injEq, Prod.mk.injEq] at hother
  exact Nat.succ.inj hother.1

/-- The client at the place remembers that its session changed something. -/
def World.Changed (world : World) (place : Nat) : Prop :=
  (world.client place).session.any (·.changed) = true

/-- The store's count went on from the opening of the session by accepted changes, and there was one
if a client remembers one. -/
def World.Counted (world : World) : Prop :=
  ∃ count, count ≤ world.requests.countP Request.isChange ∧
    world.board.sequence = world.board.openSequence + UInt32.ofNat count ∧
    ∀ place, world.Changed place → 0 < count

namespace World

variable {place clients : Nat} {world now : World} {board : Board} {client : Client}
  {told : List Event} {asked : List Request}

/-- The count goes on while the session stays the same. A change that the client remembers is an
accepted one. -/
theorem Counted.evolves (h : world.Counted)
    (hnow : world.Evolves place board client told asked now)
    (hopening : board.openSequence = world.board.openSequence)
    {more : Nat} (hmore : more ≤ asked.countP Request.isChange)
    (hsequence : board.sequence = world.board.sequence + UInt32.ofNat more)
    (hchanged : client.session.any (·.changed) = true → world.Changed place ∨ 0 < more) :
    now.Counted := by
  obtain ⟨count, hcount, hworld, hpositive⟩ := h
  refine ⟨count + more, ?_, ?_, fun other hother => ?_⟩
  · rw [hnow.requests_eq, List.countP_append]
    omega
  · rw [hnow.board_eq, hsequence, hopening, hworld, UInt32.ofNat_add, UInt32.add_assoc]
  · -- Only the client at the place can have come to remember a change.
    by_cases hne : other = place
    · subst hne
      rw [Changed, hnow.client_eq] at hother
      rcases hchanged hother with hbefore | hpos
      · have hcount := hpositive other hbefore
        omega
      · omega
    · rw [Changed, hnow.client_of_ne hne] at hother
      have hcount := hpositive other hother
      omega

/-- If a client remembers a change, then the count differs from that at the opening of the session
as long as it cannot have come round. -/
theorem Counted.sequence_ne (h : world.Counted)
    (hnow : world.Evolves place board client told asked now) (hchanged : world.Changed place)
    (hbound : now.requests.countP Request.isChange < UInt32.size) :
    board.sequence ≠ world.board.openSequence := by
  obtain ⟨count, hcount, hworld, hpositive⟩ := h
  obtain ⟨more, hmore, hboard⟩ := hnow.counted
  have hpos := hpositive place hchanged
  have hlt : count + more < UInt32.size := by
    rw [hnow.requests_eq, List.countP_append] at hbound
    omega
  have hsum : board.sequence = world.board.openSequence + UInt32.ofNat (count + more) := by
    rw [UInt32.ofNat_add, ← UInt32.add_assoc, ← hworld]
    exact hboard
  intro hsame
  rw [hsum] at hsame
  have hzero := congrArg UInt32.toNat (UInt32.add_eq_left.1 hsame)
  rw [UInt32.toNat_ofNat_of_lt' hlt, UInt32.toNat_zero] at hzero
  omega

/-- A client that has a session has it with the store. -/
def Holding (world : World) : Prop :=
  ∀ place, (world.client place).session.isSome = true →
    world.board.isOpenBy (clientId place) = true

/-- All clients are there, the windows take regular steps, the sessions of the clients are those of
the store, and while one is open the store and its client agree on whether there was a change. -/
structure Coherent (clients : Nat) (world : World) : Prop where
  complete : world.Complete clients
  allows : world.Allows Step.Regular
  holding : world.Holding
  counted : world.board.session.isSome = true → world.Counted

namespace Coherent

variable (h : world.Coherent clients)

include h

theorem of_counted (hnow : world.Evolves place board client told asked now)
    (hholding : now.Holding) (hcounted : board.session.isSome = true → now.Counted) :
    now.Coherent clients where
  complete := h.complete.evolves hnow
  allows := hnow.allows h.allows
  holding := hholding
  counted hopen := by
    rw [hnow.board_eq] at hopen
    exact hcounted hopen

/-- The sessions stay the same if the store's does and the client gets none. -/
theorem holding_of_evolves (hnow : world.Evolves place board client told asked now)
    (hsession : board.session = world.board.session)
    (hclient : client.session.isSome = true → (world.client place).session.isSome = true) :
    now.Holding := by
  intro other hother
  have hopenBy : now.board.isOpenBy (clientId other) = world.board.isOpenBy (clientId other) := by
    simp only [hnow.board_eq, Board.isOpenBy, hsession]
  rw [hopenBy]
  by_cases hne : other = place
  · subst hne
    rw [hnow.client_eq] at hother
    exact h.holding other (hclient hother)
  · rw [hnow.client_of_ne hne] at hother
    exact h.holding other hother

/-- Nobody has a session but the client at the place. -/
theorem session_of_ne {other : Nat} (hne : other ≠ place)
    (hsession : world.board.session = none ∨ world.board.isOpenBy (clientId place) = true) :
    ¬ (world.client other).session.isSome = true := by
  intro hother
  have hopen := h.holding other hother
  rcases hsession with hnone | hplace
  · rw [Board.isOpenBy_eq_false_of_none hnone] at hopen
    cases hopen
  · exact hne (Board.eq_of_isOpenBy hopen hplace)

/-- What leaves the session and the count alone, and gives the client nothing to remember. -/
theorem quiet (hnow : world.Evolves place board client told asked now)
    (hsession : board.session = world.board.session)
    (hopening : board.openSequence = world.board.openSequence)
    (hsequence : board.sequence = world.board.sequence)
    (hclient : client.session = (world.client place).session ∨ client.session = none) :
    now.Coherent clients := by
  refine h.of_counted hnow (h.holding_of_evolves hnow hsession ?_) fun hopen => ?_
  · intro hsome
    rcases hclient with hsame | hnone
    · rwa [hsame] at hsome
    · rw [hnone] at hsome
      cases hsome
  · rw [hsession] at hopen
    refine (h.counted hopen).evolves hnow hopening (Nat.zero_le _) (by simp [hsequence]) ?_
    intro hchanged
    rcases hclient with hsame | hnone
    · rw [hsame] at hchanged
      exact .inl hchanged
    · rw [hnone] at hchanged
      cases hchanged

/-- What adds one to the count with a request for a change. -/
theorem change (hnow : world.Evolves place board client told asked now)
    (hsession : board.session = world.board.session)
    (hopening : board.openSequence = world.board.openSequence)
    (hsequence : board.sequence = world.board.sequence + 1)
    (hclient : client.session.isSome = (world.client place).session.isSome)
    (hasked : 0 < asked.countP Request.isChange) : now.Coherent clients := by
  refine h.of_counted hnow (h.holding_of_evolves hnow hsession ?_) fun hopen => ?_
  · intro hsome
    rwa [← hclient]
  · rw [hsession] at hopen
    exact (h.counted hopen).evolves hnow hopening hasked hsequence fun _ => .inr Nat.one_pos

theorem stirs {later : World} (hstirs : world.Stirs later) (hallows : later.Allows Step.Regular) :
    later.Coherent clients where
  complete := h.complete.of_members_eq hstirs.members
  allows := hallows
  holding place := by
    rw [client_congr hstirs.members, hstirs.board]
    exact h.holding place
  counted hopen := by
    rw [hstirs.board] at hopen
    obtain ⟨count, hcount, hsequence, hpositive⟩ := h.counted hopen
    refine ⟨count, ?_, ?_, fun place => ?_⟩
    · rw [hstirs.requests]
      exact hcount
    · rw [hstirs.board]
      exact hsequence
    · rw [Changed, client_congr hstirs.members]
      exact hpositive place

theorem setBusy (place : Nat) (busy : Bool) : (world.setBusy place busy).Coherent clients where
  complete := h.complete.updateMember place _
  allows := h.allows
  holding other := by
    rw [client_setBusy]
    exact h.holding other
  counted hopen := by
    obtain ⟨count, hcount, hsequence, hpositive⟩ := h.counted hopen
    refine ⟨count, hcount, hsequence, fun other hother => ?_⟩
    rw [Changed, client_setBusy] at hother
    exact hpositive other hother

theorem start (hplace : place < clients) :
    world.Evolves place world.board (world.client place) [] [] world :=
  .start (h.complete.present place hplace)

/-- Where the store had no session the client opens one: it remembers no change, and the count
starts anew. -/
theorem openSession (hsession : world.board.session = none) {window : Option WindowId}
    (hnow : world.Evolves place (world.board.opened (clientId place) window)
      ((world.client place).opened world.board.owner window) told asked now) :
    now.Coherent clients := by
  refine h.of_counted hnow ?_ fun _ => ?_
  · intro other hother
    by_cases hne : other = place
    · subst hne
      rw [hnow.board_eq, Board.isOpenBy_iff]
      exact ⟨window, rfl⟩
    · rw [hnow.client_of_ne hne] at hother
      exact False.elim (h.session_of_ne hne (.inl hsession) hother)
  · refine ⟨0, Nat.zero_le _, by simp [hnow.board_eq, Board.opened], ?_⟩
    intro other hchanged
    by_cases hne : other = place
    · subst hne
      rw [Changed, hnow.client_eq] at hchanged
      cases hchanged
    · rw [Changed, hnow.client_of_ne hne] at hchanged
      exact False.elim (h.session_of_ne hne (.inl hsession) (Option.isSome_of_any hchanged))

/-- Where the client's session was open the client ends it. -/
theorem closeSession (hopen : world.board.isOpenBy (clientId place) = true)
    (hnow : world.Evolves place world.board.closed (world.client place).closed told asked now) :
    now.Coherent clients := by
  refine h.of_counted hnow ?_ ?_
  · intro other hother
    by_cases hne : other = place
    · rw [hne, hnow.client_eq] at hother
      cases hother
    · rw [hnow.client_of_ne hne] at hother
      exact False.elim (h.session_of_ne hne (.inr hopen) hother)
  · intro hsession
    cases hsession

end Coherent

/-- All clients are there, the windows take regular steps, and nobody has a session. -/
structure AtRest (clients : Nat) (world : World) : Prop where
  complete : world.Complete clients
  allows : world.Allows Step.Regular
  sessions : ∀ place, (world.client place).session = none
  free : world.board.session = none

theorem AtRest.coherent (h : world.AtRest clients) : world.Coherent clients where
  complete := h.complete
  allows := h.allows
  holding place hsession := by
    rw [h.sessions place] at hsession
    cases hsession
  counted hopen := by
    rw [h.free] at hopen
    cases hopen

/-- What a client does without changing the session or the contents. -/
theorem bears_coherent (hplace : place < clients) :
    (Setting.keeping consult (Coherent clients)).Bears place (Coherent clients) where
  stirs world later h hstirs hallows := h.stirs hstirs (hallows h.allows)
  steady world request hsteady h := by
    obtain ⟨hsession, hsequence, hopening⟩ := Board.handle_of_isSteady hsteady
    exact h.quiet ((h.start hplace).consult request) hsession hopening hsequence (.inl rfl)
  modify world client _ hsession h :=
    h.quiet ((h.start hplace).setClient client) rfl rfl rfl (.inl hsession)
  ready world h := h
  shift _ _ _ _ later _ hlater := hlater

/-- No operation of a client ends the agreement. -/
theorem sustains_coherent (hplace : place < clients) :
    (Setting.keeping consult (Coherent clients)).Sustains place (Coherent clients) where
  toBears := bears_coherent hplace
  opens window world h := by
    cases hsession : world.board.session with
    | none =>
        exact Acting.ensures_openSession rfl (h.start hplace) window hsession
          fun later hlater => h.openSession hsession hlater
    | some session =>
        have hbusy : world.board.session.isSome = true := by rw [hsession, Option.isSome_some]
        exact Acting.ensures_openSession_busy rfl (h.start hplace) window hbusy
          fun later hlater => h.quiet hlater rfl rfl rfl (.inl rfl)
  puts format payload world h := by
    by_cases haccepted : world.board.Admits (clientId place) ∧ format ≠ Format.null
    · refine Acting.ensures_putBytes rfl (h.start hplace) payload haccepted.1 haccepted.2
        fun names later _ hlater => h.change hlater rfl rfl rfl (by simp) ?_
      simp [Request.isChange]
    · exact Acting.ensures_putBytes_refused rfl (h.start hplace) payload haccepted
        fun error later hlater => h.quiet hlater rfl rfl rfl (.inl rfl)
  takesOver viewer owner world h := by
    cases hopen : world.board.isOpenBy (clientId place) with
    | true =>
        exact Acting.ensures_takeOver rfl (h.start hplace) viewer owner hopen
          fun later hlater => h.change hlater rfl rfl rfl (by simp) Nat.one_pos
    | false =>
        exact Acting.ensures_takeOver_refused rfl (h.start hplace) viewer owner hopen
          fun later hlater => h.quiet hlater rfl rfl rfl (.inl rfl)
  finishes session world h := by
    cases hopen : world.board.isOpenBy (clientId place) with
    | true =>
        exact Acting.ensures_finishSession rfl (h.start hplace) session hopen
          fun later hlater => h.closeSession hopen hlater
    | false =>
        exact Acting.ensures_finishSession_refused rfl (h.start hplace) session hopen
          fun later hlater => h.quiet hlater rfl rfl rfl (.inr rfl)

theorem lasting_coherent (clients : Nat) : Lasting (Coherent clients) where
  allows _ h := h.allows
  stirs _ _ h hstirs hallows := h.stirs hstirs hallows
  busy _ place busy h := h.setBusy place busy
  task place task world hregular h hpresent := by
    have hplace := h.complete.lt_of_present hpresent
    exact (sustains_coherent hplace).keeps_run task hregular world h

end World

end Pasteboard
