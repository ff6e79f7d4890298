import Pasteboard.Proofs.Client.Closing
import Pasteboard.Proofs.Client.Reading
import Pasteboard.Proofs.World.Windows

/-!
# What tasks keep

Every task but a raw request is put together from a few operations that change the board's session,
its contents or what the client derives, and from requests that leave all these alone. A setting
`Upholds` a property if none of these ends it, and then no task does: see
`Setting.Upholds.keeps_run`. For a property that does not depend on what clients derive it is enough
that the setting `Sustains` it, which says less about closing.
-/

namespace Pasteboard

open Call World
open Acting (ofAsking ofResult)

mutual

/-- A task that goes through the operations of a client, with no raw request. -/
def Task.Regular : Task → Prop
  | .session _ tasks _ => Task.AllRegular tasks
  | .ask _ _ => False
  | _ => True

/-- Regular tasks. -/
def Task.AllRegular : List Task → Prop
  | [] => True
  | task :: rest => task.Regular ∧ Task.AllRegular rest

end

/-- A step in which a client does a regular task. -/
def Step.IsOperation : Step → Prop
  | .task _ operation => operation.Regular
  | _ => False

/-- A task that leaves the session, the contents and what the client derives alone. -/
def Task.IsAside : Task → Prop
  | .openSession _ | .closeSession | .session _ _ _ | .claim _ | .put _ _ | .putDelayed _ | .get _
  | .render _ _ | .ask _ _ => False
  | _ => True

/-- The property outlasts what clients do in the setting aside from changing the board's session,
its contents or what they derive: notes, events, steady requests, changes of their graphics objects,
and messages that they wait for. -/
structure Setting.Abides (setting : Setting) (place : Nat) (property : World → Prop) : Prop where
  stirs : ∀ world later, property world → world.Stirs later →
    (∀ {kind : Step → Prop}, world.Allows kind → later.Allows kind) → property later
  steady : ∀ world request, request.IsSteady → property world →
    property (setting.answer world place request).2
  graphics : ∀ world graphics, property world →
    property (world.setClient place { world.client place with graphics := graphics })
  ready : ∀ world, property world → setting.ready world
  shift : ∀ window message limit world later, property world →
    setting.shift window message limit world later → property later

/-- The property outlasts all that clients do in the setting by regular tasks. -/
structure Setting.Upholds (setting : Setting) (place : Nat) (property : World → Prop) : Prop
    extends setting.Abides place property where
  opens : ∀ window, (Acting.openSession window).run.Keeps setting place property
  closes : Acting.closeSession.run.Keeps setting place property
  puts : ∀ format payload, (Acting.putBytes format payload).run.Keeps setting place property
  takesOver : ∀ viewer owner, (Acting.takeOver viewer owner).run.Keeps setting place property

/-- The property outlasts what clients do in the setting without changing the board's session or
contents: notes, events, steady requests, changes of a client that leave its settings and its
session alone, and messages that it waits for. -/
structure Setting.Bears (setting : Setting) (place : Nat) (property : World → Prop) : Prop where
  stirs : ∀ world later, property world → world.Stirs later →
    (∀ {kind : Step → Prop}, world.Allows kind → later.Allows kind) → property later
  steady : ∀ world request, request.IsSteady → property world →
    property (setting.answer world place request).2
  modify : ∀ world client, client.settings = (world.client place).settings →
    client.session = (world.client place).session → property world →
    property (world.setClient place client)
  ready : ∀ world, property world → setting.ready world
  shift : ∀ window message limit world later, property world →
    setting.shift window message limit world later → property later

/-- The property outlasts all that clients do in the setting by regular tasks, whatever they
derive. -/
structure Setting.Sustains (setting : Setting) (place : Nat) (property : World → Prop) : Prop
    extends setting.Bears place property where
  opens : ∀ window, (Acting.openSession window).run.Keeps setting place property
  puts : ∀ format payload, (Acting.putBytes format payload).run.Keeps setting place property
  takesOver : ∀ viewer owner, (Acting.takeOver viewer owner).run.Keeps setting place property
  finishes : ∀ session, (Acting.finishSession session).run.Keeps setting place property

/-- The property outlasts what clients do in the setting to plan derivations. -/
structure Setting.Plans (setting : Setting) (place : Nat) (property : World → Prop) : Prop where
  lists : Ask.listFormats.run.Keeps setting place property
  note : ∀ entry, (Call.note entry (.done ())).Keeps setting place property
  modify : ∀ change : Client → Client, (∀ client, (change client).settings = client.settings) →
    (∀ client, (change client).session = client.session) →
    (Call.modify change).Keeps setting place property
  puts : ∀ format payload, (Acting.putBytes format payload).run.Keeps setting place property

variable {setting : Setting} {place : Nat} {property : World → Prop}

namespace Setting.Abides

section

variable (h : setting.Abides place property)

include h

/-- What a setting abides by it tolerates, since reading requests are steady. -/
theorem tolerates : setting.Tolerates place property where
  note world entry hworld := by
    refine h.stirs world _ hworld (.note world entry) fun hallows => ?_
    exact hallows.of_windows_eq (note_windows world entry)
  reading world request hreading := h.steady world request hreading.isSteady
  graphics := h.graphics
  ready := h.ready
  shift := h.shift

/-- A steady question does not end the property. -/
theorem keeps_steady {α : Type} {request : Request} {want : Reply → Option α}
    (hsteady : request.IsSteady) : (Ask.expect request want).run.Keeps setting place property :=
  keeps_expect fun world hworld => h.steady world request hsteady hworld

theorem keeps_asking {α : Type} {request : Request} {want : Reply → Option α}
    (hsteady : request.IsSteady) :
    (ofAsking (Ask.expect request want)).run.Keeps setting place property :=
  keeps_ofAsking (h.keeps_steady hsteady)

/-- A refresh is only recorded. -/
theorem keeps_refresh : (Call.refresh (.done ())).Keeps setting place property :=
  fun world hworld => h.stirs world _ hworld (.record world .refreshed) fun hallows => hallows

/-- A message may be posted, since nobody handles it before the client is done. -/
theorem keeps_post {window : WindowId} {message : Message}
    {rest : Except SendError Unit → Call Unit}
    (hrest : ∀ outcome, (rest outcome).Keeps setting place property) :
    (Call.post window message rest).Keeps setting place property := by
  intro world hworld
  apply hrest
  have hrecord : property (world.record (.posted window message)) :=
    h.stirs world _ hworld (.record world _) fun hallows => hallows
  simp only [World.post]
  split
  · exact hrecord
  · exact h.stirs _ _ hrecord ⟨rfl, rfl, rfl, List.prefix_refl _⟩ fun hallows => hallows

/-- So the head may be told of a draw. -/
theorem keeps_notifyHead (viewer owner : Option WindowId) :
    (Notice.notifyHead viewer owner).Keeps setting place property := by
  cases viewer with
  | none => exact keeps_done ()
  | some head =>
      refine keeps_bind (h.tolerates.keeps_trace _) fun _ => h.keeps_post fun outcome => ?_
      cases outcome with
      | ok => exact keeps_done ()
      | error => exact h.tolerates.keeps_warn _

/-- Listeners are asked for and told one after another, and a failure is only noted. -/
theorem keeps_tellListeners : Acting.tellListeners.Keeps setting place property := by
  refine keeps_bind (h.keeps_steady trivial) fun result => ?_
  split
  · rename_i listeners
    induction listeners with
    | nil => exact keeps_done ()
    | cons listener rest ih =>
        refine keeps_bind (keeps_bind (h.tolerates.keeps_trace _) fun _ => ?_) fun _ => ih
        refine h.keeps_post fun outcome => ?_
        cases outcome with
        | ok => exact keeps_done ()
        | error => exact h.tolerates.keeps_warn _
  · exact h.tolerates.keeps_warn _

/-- The former owner is told of its loss, whatever it does then. -/
theorem keeps_dismiss (previous : WindowId) :
    (Acting.dismiss previous).Keeps setting place property := by
  refine keeps_bind (h.tolerates.keeps_trace _) fun _ => keeps_client fun client => ?_
  refine h.tolerates.keeps_send fun answer => ?_
  cases answer with
  | ok => exact keeps_done ()
  | error => exact h.tolerates.keeps_warn _

/-- An owner renders what it has to and is released, which leaves the contents alone. -/
theorem keeps_releaseOwner (owner : WindowId) :
    (Acting.releaseOwner owner).run.Keeps setting place property := by
  refine keeps_acting_bind (keeps_lift (h.tolerates.keeps_trace _)) fun _ => ?_
  refine keeps_acting_bind (keeps_lift (h.tolerates.keeps_send fun answer => ?_)) fun _ => ?_
  · cases answer with
    | ok => exact keeps_done ()
    | error => exact h.tolerates.keeps_warn _
  · refine keeps_acting_bind (h.keeps_asking trivial) fun reply => ?_
    exact keeps_lift (h.keeps_notifyHead _ _)

/-- Counting is a refresh and a question. -/
theorem keeps_count : Acting.count.run.Keeps setting place property :=
  keeps_acting_bind (keeps_lift h.keeps_refresh) fun _ => h.keeps_asking trivial

theorem keeps_contains (format : Format) :
    (Acting.contains format).run.Keeps setting place property := by
  unfold Acting.contains
  split
  · exact keeps_done _
  · refine keeps_acting_bind (keeps_lift h.keeps_refresh) fun _ => ?_
    exact keeps_acting_bind (h.keeps_asking trivial) fun count => keeps_done _

/-- One format after another is looked for, until one is found. -/
theorem keeps_firstPresent (formats : List Format) :
    (Acting.firstPresent formats).run.Keeps setting place property := by
  induction formats with
  | nil => exact keeps_done _
  | cons format rest ih =>
      refine keeps_acting_bind (h.keeps_contains format) fun found => ?_
      split
      · exact keeps_done _
      · exact ih

/-- An empty board is found out by counting first. -/
theorem keeps_priorityFormat (formats : List Format) :
    (Acting.priorityFormat formats).run.Keeps setting place property := by
  refine keeps_acting_bind h.keeps_count fun count => ?_
  split
  · exact keeps_done _
  · exact h.keeps_firstPresent formats

/-- Registering gives a name a number and no entry. -/
theorem keeps_registerFormat (name : String) :
    (Acting.registerFormat name).run.Keeps setting place property := by
  unfold Acting.registerFormat
  split
  · exact keeps_throw _
  · refine keeps_acting_bind (h.keeps_asking trivial) fun format => ?_
    exact keeps_acting_bind (keeps_lift (h.tolerates.keeps_trace _)) fun _ => keeps_done _

/-- The head of the chain may be replaced, and told to draw. -/
theorem keeps_setViewer (window : Option WindowId) :
    (Acting.setViewer window).run.Keeps setting place property := by
  refine keeps_acting_bind (h.keeps_asking trivial) fun reply => ?_
  split
  · refine keeps_acting_bind (keeps_lift (h.tolerates.keeps_trace _)) fun _ => ?_
    exact keeps_acting_bind (keeps_lift (h.keeps_notifyHead _ _)) fun _ => keeps_done _
  · exact keeps_throw _

/-- A viewer may be taken out of the chain, by the store or by the viewers. -/
theorem keeps_changeChain (removed : WindowId) (next : Option WindowId) :
    (Acting.changeChain removed next).run.Keeps setting place property := by
  refine keeps_acting_bind (h.keeps_asking trivial) fun reply => ?_
  split
  · exact keeps_done _
  · refine keeps_acting_bind (keeps_lift ?_) fun answer => keeps_ofResult _ _
    exact h.tolerates.keeps_note _ (h.tolerates.keeps_send keeps_done)

/-- A name is asked for, if there can be one. -/
theorem keeps_formatName (format : Format) :
    (Acting.formatName format).run.Keeps setting place property := by
  unfold Acting.formatName
  split
  · exact h.keeps_asking trivial
  · exact keeps_done _

/-- An object is built in the client's own table. -/
theorem keeps_build (blueprint : Blueprint) :
    (Task.build blueprint).Keeps setting place property := by
  refine keeps_client fun client => ?_
  split
  · exact keeps_bind (h.tolerates.keeps_setGraphics _) fun _ => keeps_done _
  · exact keeps_done _

end

/-- The outcome of a task is only read off the result of its operation. -/
theorem keeps_outcome {α : Type} (value : α → Value) {acting : Acting α}
    (hacting : acting.run.Keeps setting place property) :
    (Task.outcome value acting).Keeps setting place property := by
  refine keeps_bind hacting fun result => ?_
  split <;> exact keeps_done _

/-- For a value the object behind its handle is read as well. -/
theorem keeps_dataOutcome {acting : Acting Data}
    (hacting : acting.run.Keeps setting place property) :
    (Task.dataOutcome acting).Keeps setting place property := by
  refine keeps_bind hacting fun result => ?_
  split
  · exact keeps_client fun client => keeps_done _
  · exact keeps_done _

/-- No task aside ends a property that the setting abides by. -/
theorem keeps_aside (h : setting.Abides place property) {task : Task} (haside : task.IsAside) :
    task.run.Keeps setting place property := by
  cases task with
  | openSession | closeSession | session | claim | put | putDelayed | get | render | ask =>
      exact False.elim haside
  | enumerate previous =>
      exact keeps_outcome _ (keeps_acting_bind (h.keeps_asking trivial) fun _ => keeps_done _)
  | count => exact keeps_outcome _ h.keeps_count
  | contains format => exact keeps_outcome _ (h.keeps_contains format)
  | formats =>
      exact keeps_outcome _
        (keeps_acting_bind (keeps_lift h.keeps_refresh) fun _ => h.keeps_asking trivial)
  | priority wanted => exact keeps_outcome _ (h.keeps_priorityFormat wanted)
  | info | owner | openWindow | viewer | sequence =>
      exact keeps_outcome _ (h.keeps_asking trivial)
  | register text => exact keeps_outcome _ (h.keeps_registerFormat text)
  | name format => exact keeps_outcome _ (h.keeps_formatName format)
  | release window => exact keeps_outcome _ (h.keeps_releaseOwner window)
  | setViewer window => exact keeps_outcome _ (h.keeps_setViewer window)
  | changeChain removed next => exact keeps_outcome _ (h.keeps_changeChain removed next)
  | addListener window => exact keeps_outcome _ (h.keeps_asking trivial)
  | removeListener window => exact keeps_outcome _ (h.keeps_asking trivial)
  | create blueprint => exact h.keeps_build blueprint
  | object handle => exact keeps_client fun client => keeps_done _

end Setting.Abides

namespace Setting.Upholds

open Setting.Abides (keeps_outcome keeps_dataOutcome)

section

variable (h : setting.Upholds place property)

include h

/-- Leaving is closing, with a note if that fails. -/
theorem keeps_leaveSession : Acting.leaveSession.Keeps setting place property := by
  refine keeps_bind h.closes fun result => ?_
  split
  · exact keeps_done ()
  · exact h.tolerates.keeps_warn _

/-- The former owner is told before the store is asked. -/
theorem keeps_claimOwnership (owner : Option WindowId) :
    (Acting.claimOwnership owner).run.Keeps setting place property := by
  rw [Acting.claimOwnership_eq]
  refine keeps_acting_bind (h.keeps_asking trivial) fun info => ?_
  dsimp only
  split
  · exact keeps_acting_bind (keeps_lift (h.keeps_dismiss _)) fun _ => h.takesOver _ _
  · exact h.takesOver _ _

/-- A value is encoded before anything is put. -/
theorem keeps_put (format : Format) (data : Data) :
    (Acting.put format data).run.Keeps setting place property := by
  refine keeps_acting_bind (keeps_lift (keeps_client keeps_done)) fun client => ?_
  exact keeps_acting_bind (keeps_ofResult _ _) fun payload => h.puts _ _

/-- What is rendered is put like any other value. -/
theorem keeps_renderFrom (target source : Format) :
    (Acting.renderFrom target source).run.Keeps setting place property := by
  rw [Acting.renderFrom_eq]
  refine keeps_acting_bind (Acting.keeps_rendered h.tolerates target source) fun data => ?_
  exact keeps_acting_bind (h.keeps_put target data) fun _ => keeps_done _

/-- A get fetches, or renders and puts. -/
theorem keeps_get (format : Format) : (Acting.get format).run.Keeps setting place property := by
  refine keeps_acting_bind (keeps_lift (keeps_client keeps_done)) fun client => ?_
  split
  · exact h.keeps_renderFrom _ _
  · exact Acting.keeps_fetch h.tolerates format

end

mutual

/-- No regular task ends a property that the setting upholds. -/
theorem keeps_run (h : setting.Upholds place property) (task : Task) (hregular : task.Regular) :
    task.run.Keeps setting place property := by
  cases task with
  | openSession window => exact keeps_outcome _ (h.opens window)
  | closeSession => exact keeps_outcome _ h.closes
  | session window tasks close =>
      refine keeps_bind (h.opens window) fun result => ?_
      split
      · exact keeps_done _
      · refine keeps_bind (h.keeps_runAll tasks hregular) fun outcomes => ?_
        refine keeps_client fun client => ?_
        dsimp only
        split
        · exact keeps_bind h.closes fun _ => keeps_done _
        · exact keeps_bind h.keeps_leaveSession fun _ => keeps_done _
  | claim window => exact keeps_outcome _ (h.keeps_claimOwnership window)
  | put format data => exact keeps_outcome _ (h.keeps_put format data)
  | putDelayed format => exact keeps_outcome _ (h.puts format [])
  | get format => exact keeps_dataOutcome (h.keeps_get format)
  | render target source => exact keeps_dataOutcome (h.keeps_renderFrom target source)
  | ask request anyReply => exact False.elim hregular
  | _ => exact h.keeps_aside trivial

/-- No list of regular tasks ends the property either. -/
theorem keeps_runAll (h : setting.Upholds place property) (tasks : List Task)
    (hregular : Task.AllRegular tasks) :
    (Task.runAll tasks).Keeps setting place property := by
  cases tasks with
  | nil => exact keeps_done _
  | cons task rest =>
      refine keeps_bind (h.keeps_run task hregular.1) fun outcome => ?_
      exact keeps_bind (h.keeps_runAll rest hregular.2) fun outcomes => keeps_done _

end

end Setting.Upholds

namespace Setting.Bears

variable (h : setting.Bears place property)

include h

/-- Changes of graphics objects are among the changes of a client that are borne. -/
theorem abides : setting.Abides place property where
  stirs := h.stirs
  steady := h.steady
  graphics world _ := h.modify world _ rfl rfl
  ready := h.ready
  shift := h.shift

/-- A change of the client that leaves settings and session alone is borne. -/
theorem keeps_modify {change : Client → Client}
    (hsettings : ∀ client, (change client).settings = client.settings)
    (hsession : ∀ client, (change client).session = client.session) :
    (Call.modify change).Keeps setting place property :=
  fun world hworld => h.modify world _ (hsettings _) (hsession _) hworld

/-- If the property also outlasts every other request and every change of a client that leaves its
settings alone, then it is sustained. -/
theorem sustains
    (hask : ∀ world request, property world → property (setting.answer world place request).2)
    (hmodify : ∀ world client, client.settings = (world.client place).settings → property world →
      property (world.setClient place client)) : setting.Sustains place property := by
  have hasking {α : Type} (request : Request) (want : Reply → Option α) :
      (Ask.expect request want).run.Keeps setting place property :=
    keeps_expect fun world hworld => hask world request hworld
  have hchange (change : Client → Client)
      (hsettings : ∀ client, (change client).settings = client.settings) :
      (Call.modify change).Keeps setting place property :=
    fun world hworld => hmodify world _ (hsettings _) hworld
  have htolerates := h.abides.tolerates
  -- Each operation is one request, a change of the client, and notes.
  refine { h with opens := ?_, puts := ?_, takesOver := ?_, finishes := ?_ }
  · intro window
    refine keeps_acting_bind (keeps_lift h.abides.keeps_refresh) fun _ => ?_
    refine keeps_acting_bind (keeps_ofAsking (hasking _ _)) fun owner => ?_
    refine keeps_acting_bind (keeps_lift (htolerates.keeps_trace _)) fun _ => ?_
    exact keeps_lift (hchange _ fun _ => rfl)
  · intro format payload
    refine keeps_acting_bind (keeps_ofAsking (hasking _ _)) fun _ => ?_
    refine keeps_acting_bind (keeps_lift (htolerates.keeps_traceLabelled _ _)) fun _ => ?_
    exact keeps_lift (hchange _ fun _ => rfl)
  · intro viewer owner
    refine keeps_acting_bind (keeps_ofAsking (hasking _ _)) fun _ => ?_
    refine keeps_acting_bind (keeps_lift (htolerates.keeps_trace _)) fun _ => ?_
    refine keeps_acting_bind (keeps_lift (hchange _ fun _ => rfl)) fun _ => ?_
    exact keeps_lift (h.abides.keeps_notifyHead viewer owner)
  · intro session
    refine keeps_acting_bind (keeps_lift (hasking _ _)) fun result => ?_
    refine keeps_acting_bind (keeps_lift (hchange _ fun _ => rfl)) fun _ => ?_
    refine keeps_acting_bind (keeps_ofResult _ _) fun reply => ?_
    refine keeps_acting_bind (keeps_lift (htolerates.keeps_trace _)) fun _ => ?_
    refine keeps_acting_bind (keeps_lift (h.abides.keeps_notifyHead _ _)) fun _ => ?_
    dsimp only
    split
    · exact keeps_acting_bind (keeps_lift h.abides.keeps_tellListeners) fun _ => keeps_done _
    · exact keeps_done _

end Setting.Bears

namespace Setting.Plans

variable (h : setting.Plans place property)

include h

/-- A locale is put, or a failure to do so noted. -/
theorem keeps_addLocale : Acting.addLocale.Keeps setting place property := by
  refine keeps_client fun client => keeps_bind (h.puts _ _) fun result => ?_
  split
  · exact keeps_done ()
  · exact h.note _

/-- One placeholder after another is put and remembered, or a failure noted. -/
theorem keeps_offerAll (derivations : List Derivation) :
    (Acting.offerAll derivations).Keeps setting place property := by
  induction derivations with
  | nil => exact keeps_done ()
  | cons derivation rest ih =>
      refine keeps_bind (keeps_bind (h.puts _ _) fun result => ?_) fun _ => ih
      split
      · exact h.modify _ (fun _ => rfl) fun _ => rfl
      · exact h.note _

/-- A plan lists the formats and puts the locale and the placeholders. -/
theorem keeps_planDerivations : Acting.planDerivations.Keeps setting place property := by
  refine keeps_bind h.lists fun result => ?_
  split
  · exact h.note _
  · refine keeps_bind (h.note _) fun _ => ?_
    refine keeps_bind (h.modify _ (fun _ => rfl) fun _ => rfl) fun _ => ?_
    split
    · exact keeps_bind h.keeps_addLocale fun _ => h.keeps_offerAll _
    · exact h.keeps_offerAll _

end Setting.Plans

namespace Setting.Sustains

variable (h : setting.Sustains place property)

include h

/-- What a setting sustains outlasts the planning at a close. -/
theorem plans : setting.Plans place property where
  lists := h.abides.keeps_steady trivial
  note entry := h.abides.tolerates.keeps_note entry (keeps_done ())
  modify _ hsettings hsession := h.keeps_modify hsettings hsession
  puts := h.puts

/-- So it outlasts closing: planning, if there were changes, and finishing. -/
theorem keeps_closeSession : Acting.closeSession.run.Keeps setting place property := by
  rw [Acting.closeSession_eq]
  refine keeps_acting_bind (keeps_lift (keeps_client keeps_done)) fun client => ?_
  dsimp only
  split
  · exact keeps_acting_bind (keeps_lift h.plans.keeps_planDerivations) fun _ => h.finishes _
  · exact h.finishes _

/-- What a setting sustains it upholds. -/
theorem upholds : setting.Upholds place property where
  toAbides := h.abides
  opens := h.opens
  closes := h.keeps_closeSession
  puts := h.puts
  takesOver := h.takesOver

/-- No regular task ends a property that the setting sustains. -/
theorem keeps_run (task : Task) (hregular : task.Regular) :
    task.run.Keeps setting place property :=
  h.upholds.keeps_run task hregular

end Setting.Sustains

end Pasteboard
