import Pasteboard.Proofs.Client.Rendering
import Pasteboard.Proofs.Client.Tasks
import Pasteboard.Proofs.World.Tasks

/-!
# Getting what the store holds

Several clients work on one board among inert windows. A client with an open session gets a payload
that the store holds, and changes nothing, if and only if it does not take the format to be
derivable: see `Acting.get_stored_iff`. A derivation that it remembers from an earlier session hides
the payload of another client, or replaces it.
-/

namespace Pasteboard

open Call World

/-- The windows are inert, no entry is set to grow, and every client makes at least two attempts to
get a payload. -/
structure World.Undisturbed (world : World) : Prop where
  inert : world.Inert
  growth : world.board.growth = []
  retries : ∀ place, 2 ≤ (world.client place).settings.overflowRetries

namespace World

variable {world : World} {place : Nat} {client : Client}

/-- A change of a client that leaves its settings alone changes nobody's settings. -/
theorem settings_setClient (h : client.settings = (world.client place).settings) (other : Nat) :
    ((world.setClient place client).client other).settings = (world.client other).settings := by
  by_cases hother : other = place
  · subst hother
    by_cases hpresent : world.Present other
    · rw [client_setClient hpresent, h]
    · have hnone : world.member? other = none := by simpa [Present] using hpresent
      simp [World.client, setClient, member?_updateMember, hnone]
  · rw [World.client, setClient, member?_updateMember_of_ne world _ hother, World.client]

theorem Undisturbed.setBusy (h : world.Undisturbed) (place : Nat) (busy : Bool) :
    (world.setBusy place busy).Undisturbed where
  inert := h.inert
  growth := h.growth
  retries other := by
    rw [client_setBusy]
    exact h.retries other

theorem Undisturbed.stirs {later : World} (h : world.Undisturbed) (hstirs : world.Stirs later)
    (hinert : later.Inert) : later.Undisturbed where
  inert := hinert
  growth := by rw [hstirs.board, h.growth]
  retries other := by
    rw [client_congr hstirs.members]
    exact h.retries other

theorem Undisturbed.consult (h : world.Undisturbed) (place : Nat) (request : Request) :
    (world.consult place request).2.Undisturbed where
  inert := h.inert
  growth := by
    show (world.board.handle (clientId place) request).2.growth = []
    rw [Board.handle_growth, h.growth]
  retries := h.retries

theorem Undisturbed.setClient (h : world.Undisturbed)
    (hsettings : client.settings = (world.client place).settings) :
    (world.setClient place client).Undisturbed where
  inert := h.inert
  growth := h.growth
  retries other := by
    rw [settings_setClient hsettings]
    exact h.retries other

/-- Clients keep each other undisturbed. -/
theorem sustains_undisturbed (place : Nat) : Setting.inert.Sustains place Undisturbed := by
  have hbears : Setting.inert.Bears place Undisturbed := {
    stirs := fun world later h hstirs hallows => h.stirs hstirs (hallows h.inert)
    steady := fun world request _ h => h.consult place request
    modify := fun world client hsettings _ h => h.setClient hsettings
    ready := fun world h => h.inert
    shift := fun _ _ _ world later h hshift => h.stirs hshift.1 hshift.2 }
  refine hbears.sustains ?_ ?_
  · intro world request h
    exact h.consult place request
  · intro world client hsettings h
    exact h.setClient hsettings

theorem Undisturbed.after {start : World} (h : start.Undisturbed) {steps : List Step}
    (hsteps : ∀ step ∈ steps, step.IsOperation) : (start.after steps).Undisturbed := by
  refine performAll_keeps (fun step hmem world hworld => ?_) h
  have hoperation := hsteps step hmem
  cases step with
  | task place task =>
      exact act_keeps (Setting.fits_inert _) (fun _ busy hworld => hworld.setBusy place busy)
        ((sustains_undisturbed place).keeps_run task hoperation) hworld
  | board | tamper | fault | setWindow | pump | disconnect => exact False.elim hoperation

end World

/-- A get of the client at the place gives the payload and leaves the entries and the count of
changes alone. -/
def World.Gets (world : World) (place : Nat) (format : Format) (payload : Bytes) : Prop :=
  ∃ later, world.act (world.medium World.consult) place (.get format) =
      (.done (.data (.bytes payload) none), later) ∧
    later.board.entries = world.board.entries ∧ later.board.sequence = world.board.sequence

namespace Acting

variable {world : World} {place : Nat} {format source : Format} {payload : Bytes}

/-- A payload that the store holds is got, if the client does not derive the format. -/
theorem gets_of_source?_none (hworld : world.Undisturbed) (hidle : world.Idle place)
    (hopen : world.board.isOpenBy (clientId place) = true) (hshape : format.shape = .memory)
    (hfind : world.board.entries.find? format = some payload) (hne : payload ≠ [])
    (hsource : (world.client place).sources.source? format = none) :
    world.Gets place format payload := by
  have hdone := act_of_ensures (Setting.fits_inert world.nesting) hidle (.get format)
    (fun outcome later => outcome = .done (.data (.bytes payload) none) ∧
      later.board.entries = world.board.entries ∧ later.board.sequence = world.board.sequence)
    (by
      rw [Task.run, Task.ensures_dataOutcome]
      refine ensures_get_of_none hidle.start.client_eq hsource ?_
      refine ensures_fetch_of_find? rfl hidle.start hworld.growth hopen hshape hfind hne
        (hworld.retries place) fun asked later hlater => ?_
      exact ⟨rfl, by rw [(hidle.evolves hlater).board_eq], by rw [(hidle.evolves hlater).board_eq]⟩)
  exact ⟨_, Prod.ext hdone.1 rfl, hdone.2⟩

/-- A derivable format is rendered anew, which fails or puts the result. -/
theorem not_gets_of_source?_some (hworld : world.Undisturbed) (hidle : world.Idle place)
    (hsource : (world.client place).sources.source? format = some source) :
    ¬ world.Gets place format payload := by
  have hdone := act_of_ensures (Setting.fits_inert world.nesting) hidle (.get format)
    (fun outcome later => (∃ error, outcome = .failed error) ∨
      later.board.sequence = world.board.sequence + 1)
    (by
      rw [Task.run, Task.ensures_dataOutcome]
      refine ensures_get_of_some hidle.start.client_eq hsource ?_
      refine ensures_renderFrom (hidle.start.glances hworld.inert) hworld.growth
        (fun error _ _ => .inl ⟨error, rfl⟩)
        fun data payload graphics told asked later _ hlater => .inr ?_
      rw [(hidle.evolves hlater).board_eq]
      rfl)
  -- A get would have to succeed without the put that every rendering ends with.
  rintro ⟨later, hact, _, hsequence⟩
  have hmedium : world.act ⟨World.consult, World.send World.consult world.nesting⟩ place
      (.get format) = (.done (.data (.bytes payload) none), later) := hact
  rw [hmedium] at hdone
  rcases hdone with ⟨error, herror⟩ | hnext
  · cases herror
  · rw [hsequence] at hnext
    exact absurd (UInt32.add_eq_left.1 hnext.symm) (by decide)

/-- In a run of any clients among inert windows, a client whose session is open gets what the store
holds, and changes nothing, if and only if it does not take the format to be derivable. -/
theorem get_stored_iff {start : World} (hstart : start.Undisturbed) {steps : List Step}
    (hsteps : ∀ step ∈ steps, step.IsOperation) (hidle : (start.after steps).Idle place)
    (hopen : (start.after steps).board.isOpenBy (clientId place) = true)
    (hshape : format.shape = .memory)
    (hfind : (start.after steps).board.entries.find? format = some payload) (hne : payload ≠ []) :
    (start.after steps).Gets place format payload ↔
      ((start.after steps).client place).sources.source? format = none := by
  have hworld := hstart.after hsteps
  constructor
  · intro hgets
    cases hsource : ((start.after steps).client place).sources.source? format with
    | none => rfl
    | some source => exact False.elim (not_gets_of_source?_some hworld hidle hsource hgets)
  · exact gets_of_source?_none hworld hidle hopen hshape hfind hne

/-- One client puts wide text. Another one takes over and puts four bytes under a format. The first
one opens the clipboard again. -/
def handOver (format : Format) : List Step :=
  [.task 0 (.openSession (some firstWindow)), .task 0 (.claim (some firstWindow)),
    .task 0 (.put Format.unicodeText (.bytes [0x6f, 0, 0x6c, 0, 0x64, 0, 0, 0])),
    .task 0 .closeSession,
    .task 1 (.openSession (some secondWindow)), .task 1 (.claim (some secondWindow)),
    .task 1 (.put format (.bytes [0x6e, 0x65, 0x77, 0])), .task 1 .closeSession,
    .task 0 (.openSession (some firstWindow))]

/-- The first client derives narrow text, but not the format that the second one put. -/
theorem get_stored_of_other_client :
    let world := (World.gathering .empty 2 []).after (handOver ⟨4⟩)
    (world.client 0).sources.source? Format.text = some Format.unicodeText ∧
      (world.client 0).sources.source? ⟨4⟩ = none ∧ world.Gets 0 ⟨4⟩ [0x6e, 0x65, 0x77, 0] := by
  have hstart : (World.gathering .empty 2 []).Undisturbed := by
    refine ⟨allows_gathering _ _ _, rfl, fun place => ?_⟩
    rw [client_gathering]
    decide
  have hsteps : ∀ step ∈ handOver ⟨4⟩, step.IsOperation := by
    simp [handOver, Step.IsOperation, Task.Regular]
  have hidle : ((World.gathering .empty 2 []).after (handOver ⟨4⟩)).Idle 0 := ⟨_, rfl, rfl⟩
  have hfind : ((World.gathering .empty 2 []).after (handOver ⟨4⟩)).board.entries.find? ⟨4⟩ =
      some [0x6e, 0x65, 0x77, 0] := rfl
  have hgets := get_stored_iff hstart hsteps hidle rfl rfl hfind (List.cons_ne_nil _ _)
  exact ⟨rfl, rfl, hgets.2 rfl⟩

/-- If the second client puts narrow text, the first one does not get it: it still means to render
it from wide text, of which there is only a placeholder. -/
theorem stored_text_hidden_by_derivation :
    let world := (World.gathering .empty 2 []).after (handOver Format.text)
    world.board.isOpenBy (clientId 0) = true ∧ Format.text.shape = .memory ∧
      world.board.entries.find? Format.text = some [0x6e, 0x65, 0x77, 0] ∧
      (world.act (world.medium World.consult) 0 (.get Format.text)).1 =
        .failed (.noData Format.unicodeText) ∧
      ¬ world.Gets 0 Format.text [0x6e, 0x65, 0x77, 0] := by
  intro world
  have hfailed : (world.act (world.medium World.consult) 0 (.get Format.text)).1 =
      .failed (.noData Format.unicodeText) := rfl
  refine ⟨rfl, rfl, rfl, hfailed, ?_⟩
  rintro ⟨later, hact, _⟩
  rw [hact] at hfailed
  cases hfailed

end Acting

end Pasteboard
