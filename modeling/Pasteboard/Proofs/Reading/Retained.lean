import Pasteboard.Proofs.Call.Ends
import Pasteboard.Proofs.Client.Rendering
import Pasteboard.Proofs.Client.Tasks

/-!
# Data that are there

A client whose session is open gets a payload that is there without sending a message, again and
again: `World.Retains.get`. The payload stays there as long as everybody spares it, see
`World.Retains.after`: windows may have clients put other formats meanwhile, and the client itself
may get and render what it likes.
-/

namespace Pasteboard

open Call World

/-- A step that leaves a payload under a format alone. Only the client at the place gets anything;
others may put, but under that format the same payload at most. -/
inductive Step.Spares (place : Nat) (format : Format) (payload : Bytes) : Step → Prop where
  | aside {other : Nat} {task : Task} : task.IsAside →
      Spares place format payload (.task other task)
  | get {wanted : Format} : Spares place format payload (.task place (.get wanted))
  | put {other : Nat} {wanted : Format} {data : Data} : (wanted = format → data = .bytes payload) →
      Spares place format payload (.task other (.put wanted data))
  | putDelayed {other : Nat} {wanted : Format} : wanted ≠ format →
      Spares place format payload (.task other (.putDelayed wanted))

namespace World

/-- The client at the place, whose session is open, finds this payload under a format, which it does
not derive. -/
structure Retains (place : Nat) (format : Format) (payload : Bytes) (world : World) : Prop where
  opened : world.board.isOpenBy (clientId place) = true
  growth : world.board.growth = []
  retries : 2 ≤ (world.client place).settings.overflowRetries
  underived : (world.client place).sources.source? format = none
  found : world.board.entries.find? format = some payload

namespace Retains

variable {world later : World} {place other : Nat} {format wanted : Format}
  {payload stored : Bytes} {client : Client}

/-- A payload that is there is got without a message, and stays there. -/
theorem get (h : world.Retains place format payload) (medium : Medium)
    (hanswer : medium.answer = consult) (hidle : world.Idle place)
    (hmemory : format.shape = .memory) (hne : payload ≠ []) :
    ∃ later, world.act medium place (.get format) = (.done (.data (.bytes payload) none), later) ∧
      later.events = world.events ∧ later.Idle place ∧ later.Retains place format payload := by
  have hgot : (Acting.get format).run.Ensures .silent place (fun result later =>
      result = .ok (.bytes payload) ∧ ∃ asked, (world.setBusy place true).Evolves place world.board
        (world.client place) [] asked later) (world.setBusy place true) := by
    refine Acting.ensures_get_of_none hidle.start.client_eq h.underived ?_
    exact Acting.ensures_fetch_of_find? rfl hidle.start h.growth h.opened hmemory h.found hne
      h.retries fun _ _ hlater => ⟨rfl, _, hlater⟩
  have hdone := act_of_ends medium hidle (.get format)
    (fun outcome later => outcome = .done (.data (.bytes payload) none) ∧
      ∃ asked, world.Evolves place world.board (world.client place) [] asked later) (by
      rw [Task.run, Task.ends_dataOutcome]
      refine (hgot.ends hanswer).mono fun result later hlater => ?_
      obtain ⟨⟨rfl, asked, hlater⟩, _⟩ := hlater
      exact ⟨rfl, asked, hidle.evolves hlater⟩)
  obtain ⟨houtcome, asked, hlater⟩ := hdone
  refine ⟨_, Prod.ext houtcome rfl, by rw [hlater.events_eq, List.append_nil], hlater.idle hidle,
    ?_, ?_, ?_, ?_, ?_⟩
  · rw [hlater.board_eq, h.opened]
  · rw [hlater.board_eq, h.growth]
  · rw [hlater.client_eq]
    exact h.retries
  · rw [hlater.client_eq, h.underived]
  · rw [hlater.board_eq, h.found]

/-- So it is got as often as the client likes. -/
theorem performAll_gets (h : world.Retains place format payload) (medium : Medium)
    (hanswer : medium.answer = consult) (hidle : world.Idle place)
    (hmemory : format.shape = .memory) (hne : payload ≠ []) (count : Nat) :
    (world.performAll medium (List.replicate count (.task place (.get format)))).2.events =
        world.events ∧
      (world.performAll medium (List.replicate count (.task place (.get format)))).2.Idle place ∧
      (world.performAll medium (List.replicate count (.task place (.get format)))).2.Retains place
        format payload := by
  induction count generalizing world with
  | zero => exact ⟨rfl, hidle, h⟩
  | succ count ih =>
      obtain ⟨later, hact, hevents, hlater, hretains⟩ := h.get medium hanswer hidle hmemory hne
      rw [List.replicate_succ, World.performAll, World.perform, hact, ← hevents]
      exact ih hretains hlater

/-- Nothing else of the world matters. -/
theorem congr (h : world.Retains place format payload) (hboard : later.board = world.board)
    (hclient : later.client place = world.client place) : later.Retains place format payload where
  opened := by rw [hboard, h.opened]
  growth := by rw [hboard, h.growth]
  retries := by
    rw [hclient]
    exact h.retries
  underived := by rw [hclient, h.underived]
  found := by rw [hboard, h.found]

/-- A change of a client keeps the payload, if none of its settings changes and it does not begin to
derive the format. -/
theorem setClient (h : world.Retains place format payload)
    (hsettings : client.settings = (world.client other).settings)
    (hunderived : (world.client other).sources.source? format = none →
      client.sources.source? format = none) :
    (world.setClient other client).Retains place format payload := by
  by_cases hself : place = other ∧ world.Present other
  · obtain ⟨rfl, hpresent⟩ := hself
    refine ⟨h.opened, h.growth, ?_, ?_, h.found⟩
    · rw [client_setClient hpresent, hsettings]
      exact h.retries
    · rw [client_setClient hpresent, hunderived h.underived]
  · refine h.congr rfl ?_
    by_cases hplace : place = other
    · subst hplace
      have hnone : world.member? place = none := by simpa [Present] using hself
      simp [World.client, World.setClient, member?_updateMember, hnone]
    · rw [World.client, World.setClient, member?_updateMember_of_ne world _ hplace, World.client]

/-- So does a request that does not change the contents. -/
theorem consult_steady (h : world.Retains place format payload) {request : Request}
    (hsteady : request.IsSteady) :
    (world.consult other request).2.Retains place format payload where
  opened := by
    show (world.board.handle (clientId other) request).2.isOpenBy (clientId place) = true
    rw [Board.isOpenBy, (Board.handle_of_isSteady hsteady).1]
    exact h.opened
  growth := (Board.handle_growth world.board _ _).trans h.growth
  retries := h.retries
  underived := h.underived
  found := by
    show (world.board.handle (clientId other) request).2.entries.find? format = some payload
    rw [Board.handle_entries_of_growth hsteady h.growth, h.found]

/-- So does a put that would store the same payload, if any. -/
theorem consult_put (h : world.Retains place format payload)
    (hsame : wanted = format → stored = payload) :
    (world.consult other (.put wanted stored)).2.Retains place format payload := by
  by_cases haccepted : world.board.Admits (clientId other) ∧ wanted ≠ Format.null
  · have hboard : (world.consult other (.put wanted stored)).2.board =
        world.board.stored wanted stored := by
      rw [World.consult, Board.handle_put stored haccepted.1 haccepted.2]
    refine ⟨?_, ?_, h.retries, h.underived, ?_⟩
    · rw [hboard]
      exact h.opened
    · rw [hboard]
      exact h.growth
    · rw [hboard, Board.stored, Entries.find?_insert]
      split
      · rename_i heq
        rw [hsame heq.symm]
      · exact h.found
  · obtain ⟨status, hhandle⟩ := Board.handle_put_of_not stored haccepted
    exact h.congr (by rw [World.consult, hhandle]) rfl

end Retains

/-- The payload is there, and no window has clients do anything but spare it. -/
structure Guarded (place : Nat) (format : Format) (payload : Bytes) (world : World) : Prop where
  retains : world.Retains place format payload
  allows : world.Allows (Step.Spares place format payload)

section Guarded

variable {place other : Nat} {format wanted : Format} {payload stored : Bytes}

theorem abides_guarded (place other : Nat) (format : Format) (payload : Bytes) :
    (Setting.keeping consult (Guarded place format payload)).Abides other
      (Guarded place format payload) where
  stirs _ _ h hstirs hallows :=
    ⟨h.retains.congr hstirs.board (client_congr hstirs.members place), hallows h.allows⟩
  steady _ _ hsteady h := ⟨h.retains.consult_steady hsteady, h.allows⟩
  graphics _ _ h := ⟨h.retains.setClient rfl id, h.allows⟩
  ready _ h := h
  shift _ _ _ _ _ _ hlater := hlater

theorem keeps_putBytes_guarded (hsame : wanted = format → stored = payload) :
    (Acting.putBytes wanted stored).run.Keeps (.keeping consult (Guarded place format payload))
      other (Guarded place format payload) := by
  have htolerates := (abides_guarded place other format payload).tolerates
  refine keeps_acting_bind (keeps_ofAsking (keeps_expect fun _ h =>
    ⟨h.retains.consult_put hsame, h.allows⟩)) fun _ => ?_
  refine keeps_acting_bind (keeps_lift (htolerates.keeps_traceLabelled _ _)) fun _ => ?_
  refine keeps_lift fun _ h => ⟨h.retains.setClient rfl fun hunderived => ?_, h.allows⟩
  refine (Sources.source?_remove _ wanted format).trans ?_
  rw [hunderived, ite_self]

theorem keeps_put_guarded {data : Data} (hsame : wanted = format → data = .bytes payload) :
    (Acting.put wanted data).run.Keeps (.keeping consult (Guarded place format payload)) other
      (Guarded place format payload) := by
  intro world h
  simp only [Acting.put, ensures_acting_bind, ensures_lift, ensures_client, ensures_ofResult]
  cases hencode : data.encode (world.client other).graphics wanted with
  | error => exact h
  | ok stored =>
      refine keeps_putBytes_guarded (fun heq => ?_) world h
      rw [hsame heq] at hencode
      exact (Data.encode_bytes hencode).2

/-- What the client gets is looked up, or rendered under a format that it derives. -/
theorem keeps_get_guarded (wanted : Format) :
    (Acting.get wanted).run.Keeps (.keeping consult (Guarded place format payload)) place
      (Guarded place format payload) := by
  have htolerates := (abides_guarded place place format payload).tolerates
  intro world h
  cases hsource : (world.client place).sources.source? wanted with
  | none =>
      exact Acting.ensures_get_of_none rfl hsource
        (Acting.keeps_fetch htolerates wanted world h)
  | some source =>
      -- The format under which the payload is there is not one of the derivable ones.
      have hne : wanted ≠ format := by
        rintro rfl
        rw [h.retains.underived] at hsource
        cases hsource
      refine Acting.ensures_get_of_some rfl hsource ?_
      rw [Acting.renderFrom_eq]
      refine keeps_acting_bind (Acting.keeps_rendered htolerates wanted source) (fun data => ?_)
        world h
      exact keeps_acting_bind (keeps_put_guarded fun heq => absurd heq hne) fun _ => keeps_done _

/-- No step that spares the payload ends its being there. -/
theorem kept_guarded :
    Kept (Step.Spares place format payload) consult (Guarded place format payload) where
  hereditary _ h := nomatch h
  allows _ h := h.allows
  stirs _ _ h hstirs hallows :=
    ⟨h.retains.congr hstirs.board (client_congr hstirs.members place), hallows⟩
  busy world busyPlace _ busy _ h :=
    ⟨h.retains.congr rfl (client_setBusy world busyPlace place busy), h.allows⟩
  task medium actor task world hanswer hsend hspares h _ := by
    have hfits := Setting.fits_keeping hsend
    rw [hanswer] at hfits
    have hkeeps : task.run.Keeps (.keeping consult (Guarded place format payload)) actor
        (Guarded place format payload) := by
      cases hspares with
      | aside haside => exact (abides_guarded _ actor _ _).keeps_aside haside
      | get => exact Setting.Abides.keeps_dataOutcome (keeps_get_guarded _)
      | put hsame => exact Setting.Abides.keeps_outcome _ (keeps_put_guarded hsame)
      | putDelayed hne =>
          exact Setting.Abides.keeps_outcome _ (keeps_putBytes_guarded fun heq => absurd heq hne)
    exact (hkeeps world h).run hfits
  tamper _ _ h := nomatch h
  disconnect _ _ h := nomatch h

end Guarded

/-- A payload is there after any steps that spare it, if the windows spare it too. -/
theorem Retains.after {world : World} {place : Nat} {format : Format} {payload : Bytes}
    (h : world.Retains place format payload)
    (hallows : world.Allows (Step.Spares place format payload))
    {steps : List Step} (hsteps : ∀ step ∈ steps, Step.Spares place format payload step) :
    (world.after steps).Retains place format payload :=
  (kept_guarded.weathered.performAll (kept_guarded.weathered.send world.nesting) rfl
    ⟨h, hallows⟩ hsteps).retains

end World

end Pasteboard
