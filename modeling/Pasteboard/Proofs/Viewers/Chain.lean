import Mathlib.Data.List.Perm.Subperm
import Pasteboard.Proofs.World.Windows

/-!
# Chains of viewers

The node of a viewer knows the next viewer. `World.Route` says which viewers one comes past if one
follows the nodes, and what comes behind them: a list segment in the windows of a world. A viewer
that closes a gap takes another viewer's place in such a segment: `World.Route.splice`.
-/

namespace Pasteboard

namespace World

variable {world later : World} {window other : WindowId} {first middle last next : Option WindowId}
  {viewers front : List WindowId}

/-- What a window does is found in the list of windows alone. -/
theorem script_congr (h : later.windows = world.windows) (window : WindowId) :
    later.script window = world.script window := by
  rw [script, h, script]

theorem viewer?_congr (h : later.windows = world.windows) (window : WindowId) :
    later.viewer? window = world.viewer? window := by
  rw [viewer?, script_congr h, viewer?]

/-- The behaviour that a window was given, if it was given one. -/
def script? (world : World) (window : WindowId) : Option (WindowScript Step) :=
  world.windows.find? fun script => script.id == window

/-- A window without a script of its own is a plain one. -/
theorem script_eq_getD (world : World) (window : WindowId) :
    world.script window = (world.script? window).getD (.plain window) := rfl

/-- A script that is found for a window is its own. -/
theorem id_of_script? {script : WindowScript Step} (h : world.script? window = some script) :
    script.id = window := by
  simpa using List.find?_some h

theorem id_script (world : World) (window : WindowId) : (world.script window).id = window := by
  rw [script_eq_getD]
  cases hscript : world.script? window with
  | none => rfl
  | some script => exact id_of_script? hscript

/-- A script that is set is that of its window, and no other window has another one. -/
theorem script_setWindow (world : World) (script : WindowScript Step) (window : WindowId) :
    (world.setWindow script).script window =
      if script.id = window then script else world.script window := by
  have hscript : (world.setWindow script).script? window =
      if script.id = window then some script else world.script? window := by
    show (script :: world.windows.filter fun old => old.id != script.id).find? _ = _
    split
    · rename_i hid
      exact List.find?_cons_of_pos (by simp [hid])
    · -- What the new behaviour takes the place of belongs to another window than the one looked up.
      rename_i hid
      rw [List.find?_cons_of_neg (by simp [hid]), List.find?_filter, script?]
      congr 1
      funext old
      by_cases hold : old.id = window
      · simp [hold, Ne.symm hid]
      · simp [hold]
  rw [script_eq_getD, hscript]
  split <;> rfl

/-- A viewer was given a behaviour. -/
theorem script?_of_viewer? (hviewer : world.viewer? window = some next) :
    world.script? window = some (world.script window) := by
  rw [viewer?, script_eq_getD] at hviewer
  rw [script_eq_getD]
  cases hscript : world.script? window with
  | none =>
      rw [hscript] at hviewer
      cases hviewer
  | some script => rfl

/-- Assigning a link changes the node of one window, and nothing else of it. -/
theorem script?_setNext (world : World) (window : WindowId) (next : Option WindowId)
    (other : WindowId) :
    (world.setNext window next).script? other = (world.script? other).map fun script =>
      if script.id = window then { script with viewer := some next } else script := by
  have hsame : ∀ script : WindowScript Step,
      ((if script.id = window then { script with viewer := some next } else script).id == other) =
        (script.id == other) := by
    intro script
    split <;> rfl
  rw [script?, setNext, List.find?_map, script?]
  simp only [Function.comp_def, hsame]

/-- A viewer that gets another next viewer is the same in all else, and so are the other windows. -/
theorem script_setNext (hviewer : world.viewer? window = some middle) (next : Option WindowId)
    (other : WindowId) :
    (world.setNext window next).script other =
      if other = window then { world.script window with viewer := some next }
      else world.script other := by
  rw [script_eq_getD, script?_setNext]
  split
  · rename_i hother
    subst hother
    rw [script?_of_viewer? hviewer, Option.map_some, if_pos (id_script world other),
      Option.getD_some]
  · rename_i hother
    rw [script_eq_getD]
    cases hscript : world.script? other with
    | none => rfl
    | some script =>
        have hid : script.id ≠ window := by
          rw [id_of_script? hscript]
          exact hother
        rw [Option.map_some, if_neg hid, Option.getD_some]

/-- A link that is assigned leads to the next viewer, and all other links are the same. -/
theorem viewer?_setNext (hviewer : world.viewer? window = some middle) (next : Option WindowId)
    (other : WindowId) :
    (world.setNext window next).viewer? other =
      if other = window then some next else world.viewer? other := by
  rw [viewer?, script_setNext hviewer]
  split <;> rfl

/-- A window in trouble stays so when a link is assigned, and no other one gets into it. -/
theorem trouble_setNext (hviewer : world.viewer? window = some middle) (next : Option WindowId)
    (other : WindowId) :
    ((world.setNext window next).script other).trouble = (world.script other).trouble := by
  rw [script_setNext hviewer]
  split
  · rename_i hother
    rw [hother]
  · rfl

/-- Messages can be nested as deep as there are windows at least. -/
theorem length_le_stepsWindowCount (scripts : List (WindowScript Step)) :
    scripts.length ≤ Step.stepsWindowCount (scripts.map .setWindow) := by
  induction scripts with
  | nil => exact Nat.zero_le _
  | cons script scripts ih =>
      rw [List.map_cons, Step.stepsWindowCount, Step.windowCount, List.length_cons]
      omega

/-- From a first viewer on, the nodes lead past these viewers to what comes behind them. -/
inductive Route (world : World) : Option WindowId → List WindowId → Option WindowId → Prop where
  | nil (first : Option WindowId) : Route world first [] first
  | cons {window : WindowId} {next last : Option WindowId} {viewers : List WindowId} :
      world.viewer? window = some next → Route world next viewers last →
      Route world (some window) (window :: viewers) last

namespace Route

/-- A route is continued by another one from where it ended. -/
theorem append {back : List WindowId} (h : world.Route first front middle)
    (hback : world.Route middle back last) : world.Route first (front ++ back) last := by
  induction h with
  | nil => exact hback
  | cons hviewer _ ih => exact .cons hviewer (ih hback)

/-- A route is cut at any of its viewers. -/
theorem split {back : List WindowId} (h : world.Route first (front ++ back) last) :
    ∃ middle, world.Route first front middle ∧ world.Route middle back last := by
  induction front generalizing first with
  | nil => exact ⟨first, .nil first, h⟩
  | cons window front ih =>
      cases h with
      | cons hviewer hrest =>
          obtain ⟨middle, hfront, hback⟩ := ih hrest
          exact ⟨middle, .cons hviewer hfront, hback⟩

/-- The way from some viewers begins with one of them. -/
theorem exists_first (h : world.Route first viewers last) (hviewers : viewers ≠ []) :
    ∃ window ∈ viewers, first = some window := by
  cases h with
  | nil => exact False.elim (hviewers rfl)
  | cons => exact ⟨_, List.mem_cons_self, rfl⟩

/-- The last viewer of a way knows what comes behind it. -/
theorem viewer?_last (h : world.Route first (front ++ [window]) last) :
    world.viewer? window = some last := by
  obtain ⟨_, _, hlast⟩ := h.split
  cases hlast with
  | cons hviewer hrest =>
      cases hrest
      exact hviewer

/-- Every window on the way is a viewer. -/
theorem viewer?_of_mem (h : world.Route first viewers last) (hmem : window ∈ viewers) :
    ∃ next, world.viewer? window = some next := by
  induction h with
  | nil => cases hmem
  | cons hviewer _ ih =>
      rcases List.mem_cons.1 hmem with rfl | hmem
      · exact ⟨_, hviewer⟩
      · exact ih hmem

/-- Only the nodes on the way matter. -/
theorem congr (h : world.Route first viewers last)
    (hsame : ∀ window ∈ viewers, later.viewer? window = world.viewer? window) :
    later.Route first viewers last := by
  induction h with
  | nil => exact .nil _
  | cons hviewer _ ih =>
      refine .cons ?_ (ih fun window hmem => hsame window (List.mem_cons_of_mem _ hmem))
      rw [hsame _ List.mem_cons_self, hviewer]

/-- Routes are found in the list of windows alone. -/
theorem of_windows_eq (h : world.Route first viewers last)
    (hwindows : later.windows = world.windows) : later.Route first viewers last :=
  h.congr fun window _ => viewer?_congr hwindows window

/-- There are as many windows as viewers on the way, or more. -/
theorem length_le (h : world.Route first viewers last) (hnodup : viewers.Nodup) :
    viewers.length ≤ world.windows.length := by
  have hsubset : viewers ⊆ world.windows.map WindowScript.id := by
    intro window hmem
    obtain ⟨next, hviewer⟩ := h.viewer?_of_mem hmem
    rw [← id_script world window]
    exact List.mem_map_of_mem (List.mem_of_find?_eq_some (script?_of_viewer? hviewer))
  have hlength := (hnodup.subperm hsubset).length_le
  rwa [List.length_map] at hlength

/-- Messages can be nested deeper than there are viewers on the way. -/
theorem length_lt_nesting (h : world.Route first viewers last) (hnodup : viewers.Nodup) :
    viewers.length < world.nesting := by
  have hwindows := h.length_le hnodup
  have hcount := length_le_stepsWindowCount world.windows
  rw [nesting]
  omega

/-- If the last viewer of a way gets another next viewer, the way goes on there. -/
theorem splice {back : List WindowId} (h : world.Route first (front ++ [window]) middle)
    (hback : world.Route next back last) (hnodup : (front ++ [window] ++ back).Nodup) :
    (world.setNext window next).Route first (front ++ [window] ++ back) last := by
  have hviewer := h.viewer?_last
  have hkept : ∀ other, other ≠ window →
      (world.setNext window next).viewer? other = world.viewer? other := by
    intro other hne
    rw [viewer?_setNext hviewer, if_neg hne]
  have hnode : (world.setNext window next).viewer? window = some next := by
    rw [viewer?_setNext hviewer, if_pos rfl]
  obtain ⟨hway, -, hbehind⟩ := List.nodup_append.1 hnodup
  obtain ⟨-, -, hbefore⟩ := List.nodup_append.1 hway
  have hrest : (world.setNext window next).Route next back last :=
    hback.congr fun other hmem => hkept other fun hother =>
      hbehind window (List.mem_append_right _ List.mem_cons_self) other hmem hother.symm
  obtain ⟨_, hfront, hlast⟩ := h.split
  cases hlast
  have hfirst : (world.setNext window next).Route first front (some window) :=
    hfront.congr fun other hmem => hkept other (hbefore other hmem window List.mem_cons_self)
  exact (hfirst.append (.cons hnode (.nil next))).append hrest

end Route

end World

end Pasteboard
