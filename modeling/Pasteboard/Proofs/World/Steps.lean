import Pasteboard.Proofs.World.Evolution

/-!
# What steps and messages keep

While a message is processed, the handlers of windows may have other clients do anything. A property
of worlds is `Weathered` if no single thing that can happen ends it. `Weathered.send` and
`Weathered.perform` then say that it outlasts the processing of a message at any depth, and every
step. It is enough that the property is `Kept`, which takes the tasks of clients apart from whether
they are busy: see `Kept.weathered`.
-/

namespace Pasteboard

namespace World

variable {kind : Step → Prop} {world : World}

/-- Nothing that happens by steps of a kind ends the property. A step that sets a window must set
one whose handlers are of the kind again. -/
structure Weathered (kind : Step → Prop) (answer : Answering) (property : World → Prop) : Prop where
  hereditary : ∀ script, kind (.setWindow script) → script.Allows kind
  allows : ∀ world, property world → world.Allows kind
  stirs : ∀ world later, property world → world.Stirs later → later.Allows kind → property later
  act : ∀ medium place task world, medium.answer = answer →
    (∀ window message limit world, property world →
      property (medium.send window message limit world).2) →
    kind (.task place task) → property world → property (world.act medium place task).2
  tamper : ∀ world change, kind (.tamper change) → property world →
    property { world with board := world.board.tamper change }
  disconnect : ∀ world place, kind (.disconnect place) → property world →
    property (world.disconnect place).2

namespace Weathered

variable {answer : Answering} {property : World → Prop} {medium : Medium}
  (h : Weathered kind answer property)

include h

/-- The windows may go about their business as long as their handlers stay the same. -/
theorem stirs_of_windows_eq {later : World} (hworld : property world) (hstirs : world.Stirs later)
    (hwindows : later.windows = world.windows) : property later :=
  h.stirs world later hworld hstirs ((h.allows world hworld).of_windows_eq hwindows)

/-- The property outlasts an event that is recorded. -/
theorem record (hworld : property world) (event : Event) : property (world.record event) :=
  h.stirs_of_windows_eq hworld (.record world event) rfl

/-- It outlasts a note. -/
theorem note (hworld : property world) (entry : Note) : property (world.note entry) :=
  h.stirs_of_windows_eq hworld (.note world entry) (note_windows world entry)

/-- It outlasts that other windows are handling messages. -/
theorem handling (hworld : property world) (windows : List WindowId) :
    property { world with handling := windows } :=
  h.stirs_of_windows_eq hworld ⟨rfl, rfl, rfl, List.prefix_refl _⟩ rfl

/-- It outlasts what a window does while it is occupied, if it outlasts the work itself. -/
theorem occupied {α : Type} (hworld : property world) (window : WindowId)
    {work : World → Except SendError α × World}
    (hwork : ∀ world, property world → property (work world).2) :
    property (world.occupied window work).2 := by
  unfold World.occupied
  split
  · exact hworld
  · exact h.handling (hwork _ (h.handling hworld _)) _

variable (hsend : ∀ window message limit world, property world →
  property (medium.send window message limit world).2)

include hsend

/-- It outlasts a draw that is passed on along the chain. -/
theorem draw (hworld : property world) (window : WindowId) (next owner : Option WindowId) :
    property (world.draw medium.send window next owner).2 := by
  refine h.occupied hworld window fun world hworld => ?_
  cases next with
  | none => exact hworld
  | some next => exact hsend _ _ _ world hworld

/-- It outlasts a change that is passed on along the chain. -/
theorem changeChain (hworld : property world) (window : WindowId) (successor : Option WindowId)
    (removed : WindowId) (next : Option WindowId) :
    property (world.changeChain medium.send window successor removed next).2 := by
  refine h.occupied hworld window fun world hworld => ?_
  unfold World.passChange
  split
  · have hnoted := h.note hworld (Notice.splicing window removed)
    exact h.stirs _ _ hnoted ⟨rfl, rfl, rfl, List.prefix_refl _⟩
      ((h.allows _ hnoted).setNext window next)
  · exact hsend _ _ _ _ (h.note hworld _)
  · exact hworld

/-- It outlasts posted messages that are handled one after another. -/
theorem pumpAll (hworld : property world) (posts : List (WindowId × Message)) :
    property (world.pumpAll medium posts) := by
  fun_induction World.pumpAll medium world posts with
  | case1 => exact hworld
  | case2 world window owner rest next hviewer result later hdraw ih =>
      have hlater := h.draw hsend hworld window next owner
      rw [hdraw] at hlater
      exact ih (h.record hlater _)
  | case3 _ _ _ _ _ ih => exact ih hworld
  | case4 _ _ _ _ ih => exact ih hworld

/-- A step of the kind keeps the property, if messages do. -/
theorem performIn (hanswer : medium.answer = answer) (hworld : property world) {step : Step}
    (hstep : kind step) : property (world.perform medium step).2 := by
  cases step with
  | task place task => exact h.act medium place task world hanswer hsend hstep hworld
  | board => exact hworld
  | tamper change => exact h.tamper world change hstep hworld
  | fault fault =>
      exact h.stirs_of_windows_eq hworld ⟨rfl, rfl, rfl, List.prefix_refl _⟩ rfl
  | setWindow script =>
      exact h.stirs _ _ hworld ⟨rfl, rfl, rfl, List.prefix_refl _⟩
        ((h.allows _ hworld).setWindow (h.hereditary script hstep))
  | pump =>
      refine h.pumpAll hsend ?_ _
      exact h.stirs_of_windows_eq hworld ⟨rfl, rfl, rfl, List.prefix_refl _⟩ rfl
  | disconnect place => exact h.disconnect world place hstep hworld

/-- It outlasts steps of a kind that it outlasts, one after another. -/
theorem performAll (hanswer : medium.answer = answer) (hworld : property world)
    {steps : List Step} (hsteps : ∀ step ∈ steps, kind step) :
    property (world.performAll medium steps).2 := by
  induction steps generalizing world with
  | nil => exact hworld
  | cons step rest ih =>
      have hstep := h.performIn hsend hanswer hworld (hsteps step List.mem_cons_self)
      exact ih hstep fun other hmem => hsteps other (List.mem_cons_of_mem _ hmem)

/-- It outlasts what a window does on a message. -/
theorem process (hanswer : medium.answer = answer) (hworld : property world)
    (window : WindowId) (message : Message) :
    property (world.process medium window message).2 := by
  have hhandle : property (world.handle medium window message).2 := by
    unfold World.handle
    cases hfind : (world.script window).handlers.find? (·.fits message) with
    | none => simpa only [hfind] using hworld
    | some handler =>
        have hsteps : ∀ step ∈ handler.steps, kind step :=
          (h.allows world hworld).script window handler (List.mem_of_find?_eq_some hfind)
        simpa only [hfind] using h.record (h.performAll hsend hanswer hworld hsteps) _
  unfold World.process
  split
  · exact h.draw hsend hworld _ _ _
  · exact h.changeChain hsend hworld _ _ _ _
  · exact hhandle

omit hsend in
/-- What holds once a message is on its way holds after it was processed, if the messages that are
sent meanwhile keep it. -/
theorem send_succ {depth : Nat} {window : WindowId} {message : Message} {limit : Option Duration}
    (hsend : ∀ window message limit world, property world →
      property (World.send answer depth window message limit world).2)
    (hrecord : property (world.record (.sent window message limit))) :
    property (World.send answer (depth + 1) window message limit world).2 := by
  simp only [World.send]
  split
  · exact hrecord
  · exact hrecord
  · exact hrecord
  · have hmedium : ∀ window message limit world, property world →
        property (Medium.send ⟨answer, World.send answer depth⟩ window message limit world).2 :=
      hsend
    exact h.process hmedium rfl hrecord window message

omit hsend in
/-- The processing of a message keeps the property, however deep messages are nested. -/
theorem send (depth : Nat) (window : WindowId) (message : Message) (limit : Option Duration)
    (world : World) (hworld : property world) :
    property (World.send answer depth window message limit world).2 := by
  induction depth generalizing world window message limit with
  | zero => exact hworld
  | succ depth ih => exact h.send_succ ih (h.record hworld _)

omit hsend in
/-- A step of the kind keeps the property. -/
theorem perform (depth : Nat) (hworld : property world) {step : Step} (hstep : kind step) :
    property (world.perform ⟨answer, World.send answer depth⟩ step).2 :=
  h.performIn (h.send depth) rfl hworld hstep

end Weathered

/-- Nothing that happens by steps of a kind ends the property: neither what the call behind a task
does, nor that a client begins a task or is done with it. -/
structure Kept (kind : Step → Prop) (answer : Answering) (property : World → Prop) : Prop where
  hereditary : ∀ script, kind (.setWindow script) → script.Allows kind
  allows : ∀ world, property world → world.Allows kind
  stirs : ∀ world later, property world → world.Stirs later → later.Allows kind → property later
  busy : ∀ world place task busy, kind (.task place task) → property world →
    property (world.updateMember place fun member => { member with busy := busy })
  task : ∀ medium place task world, medium.answer = answer →
    (∀ window message limit world, property world →
      property (medium.send window message limit world).2) →
    kind (.task place task) → property world → world.Present place →
    property (task.run.run medium place world).2
  tamper : ∀ world change, kind (.tamper change) → property world →
    property { world with board := world.board.tamper change }
  disconnect : ∀ world place, kind (.disconnect place) → property world →
    property (world.disconnect place).2

/-- What the call behind a task keeps is kept by the task, which only an idle client does. -/
theorem Kept.weathered {answer : Answering} {property : World → Prop}
    (h : Kept kind answer property) : Weathered kind answer property where
  hereditary := h.hereditary
  allows := h.allows
  stirs := h.stirs
  act medium place task world hanswer hsend htask hworld := by
    unfold World.act
    cases hmember : world.member? place with
    | none => exact hworld
    | some member =>
        have hpresent : (world.updateMember place fun member =>
            { member with busy := true }).Present place := by
          simp [Present, member?_updateMember, hmember]
        simp only
        split
        · exact hworld
        · exact h.busy _ place task false htask (h.task medium place task _ hanswer hsend htask
            (h.busy world place task true htask hworld) hpresent)
  tamper := h.tamper
  disconnect := h.disconnect

end World

/-- The surroundings in which all that is known of the world while a client works is a property,
which the windows keep. -/
def Setting.keeping (answer : Answering) (property : World → Prop) : Setting where
  answer := answer
  ready := property
  shift _ _ _ _ later := property later

/-- A medium fits the setting that keeps what its messages keep. -/
theorem Setting.fits_keeping {medium : Medium} {property : World → Prop}
    (hsend : ∀ window message limit world, property world →
      property (medium.send window message limit world).2) :
    medium.Fits (.keeping medium.answer property) :=
  ⟨rfl, hsend⟩

end Pasteboard
