import Pasteboard.Desktop.Run

/-!
# Windows between themselves

What windows do while they process messages, as far as no client takes part: `World.Stirs`. The
steps that their handlers may take are restricted by `World.Allows`.
-/

namespace Pasteboard

namespace World

/-- The windows went about their business: they told of more events, but the board, the clients and
the requests are the same. -/
structure Stirs (world later : World) : Prop where
  board : later.board = world.board
  members : later.members = world.members
  requests : later.requests = world.requests
  events : world.events <+: later.events

/-- An event that is recorded leaves the board, the clients and the requests alone. -/
theorem Stirs.record (world : World) (event : Event) : world.Stirs (world.record event) :=
  ⟨rfl, rfl, rfl, List.prefix_append _ _⟩

theorem Stirs.note (world : World) (entry : Note) : world.Stirs (world.note entry) := by
  unfold World.note
  split <;> exact ⟨rfl, rfl, rfl, List.prefix_refl _⟩

/-- A note changes no window. -/
theorem note_windows (world : World) (entry : Note) :
    (world.note entry).windows = world.windows := by
  unfold World.note
  split <;> rfl

end World

/-- Every step of the window's handlers is of a kind. -/
def WindowScript.Allows (kind : Step → Prop) (script : WindowScript Step) : Prop :=
  ∀ handler ∈ script.handlers, ∀ step ∈ handler.steps, kind step

namespace World

/-- Every step of any handler is of a kind. -/
def Allows (kind : Step → Prop) (world : World) : Prop :=
  ∀ script ∈ world.windows, script.Allows kind

variable {kind : Step → Prop} {world : World}

/-- What windows are allowed to do depends on the list of windows alone. -/
theorem Allows.of_windows_eq {later : World} (h : world.Allows kind)
    (hwindows : later.windows = world.windows) : later.Allows kind := by
  simpa only [Allows, hwindows] using h

/-- A window without a script of its own does nothing, so it is allowed. -/
theorem Allows.script (h : world.Allows kind) (window : WindowId) :
    (world.script window).Allows kind := by
  unfold World.script
  cases hfind : world.windows.find? fun script => script.id == window with
  | none => exact fun handler hmem => False.elim (List.not_mem_nil hmem)
  | some script => exact h script (List.mem_of_find?_eq_some hfind)

/-- A window may be set to a script that is allowed. -/
theorem Allows.setWindow (h : world.Allows kind) {script : WindowScript Step}
    (hscript : script.Allows kind) : (world.setWindow script).Allows kind := by
  intro other hmem
  rcases List.mem_cons.1 hmem with rfl | hmem
  · exact hscript
  · exact h other (List.mem_filter.1 hmem).1

/-- A link of the chain may be assigned, since it is no step. -/
theorem Allows.setNext (h : world.Allows kind) (window : WindowId) (next : Option WindowId) :
    (world.setNext window next).Allows kind := by
  intro other hmem
  obtain ⟨script, hscript, rfl⟩ := List.mem_map.1 hmem
  have hallowed := h script hscript
  split <;> exact hallowed

end World

end Pasteboard
