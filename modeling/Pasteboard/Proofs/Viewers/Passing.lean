import Pasteboard.Proofs.Viewers.Chain

/-!
# Messages that go down a chain

A viewer passes on what it is told and waits until the next viewer is done with it. Where the nodes
lead past viewers that are `Awake`, a notice reaches one after another (`passDraw_of_route`), and a
change of the chain gets as far as to a place where it stops, `Halts`: in front of the viewer that
leaves, at the end of the chain, or where a window refuses it (`send_of_halts`).
-/

namespace Pasteboard

namespace World

/-- Nothing is different but what is on record. -/
def Unaltered (world later : World) : Prop :=
  ∃ events requests log,
    later = { world with events := events, requests := requests, log := log }

theorem exists_note (world : World) (entry : Note) :
    ∃ log, world.note entry = { world with log := log } := by
  unfold note
  split
  · exact ⟨_, rfl⟩
  · exact ⟨_, rfl⟩

/-- The viewers are different ones that can be reached and have nothing to do. -/
structure Awake (world : World) (viewers : List WindowId) : Prop where
  nodup : viewers.Nodup
  free : ∀ window ∈ viewers, window ∉ world.handling
  reachable : ∀ window ∈ viewers, (world.script window).trouble = none

variable {world later : World} {answer : Answering} {depth : Nat} {medium : Medium}
  {window viewer successor removed : WindowId} {first last behind next holder : Option WindowId}
  {viewers : List WindowId} {result : Except SendError Bool} {error : SendError}

theorem Awake.of_windows_eq (h : world.Awake viewers) (hwindows : later.windows = world.windows)
    (hhandling : later.handling = world.handling) : later.Awake viewers where
  nodup := h.nodup
  free := by
    rw [hhandling]
    exact h.free
  reachable window hmem := by
    rw [script_congr hwindows]
    exact h.reachable window hmem

/-- While the first viewer is busy, the ones behind it are not. -/
theorem Awake.tail (h : world.Awake (window :: viewers)) (hwindows : later.windows = world.windows)
    (hhandling : later.handling = window :: world.handling) : later.Awake viewers where
  nodup := (List.nodup_cons.1 h.nodup).2
  free other hmem := by
    rw [hhandling, List.mem_cons, not_or]
    exact ⟨fun hother => (List.nodup_cons.1 h.nodup).1 (hother ▸ hmem),
      h.free other (List.mem_cons_of_mem _ hmem)⟩
  reachable other hmem := by
    rw [script_congr hwindows]
    exact h.reachable other (List.mem_cons_of_mem _ hmem)

/-- A window that was sent a message is at work on it. -/
def attending (world : World) (window : WindowId) (message : Message) (limit : Option Duration) :
    World :=
  { world.record (.sent window message limit) with handling := window :: world.handling }

theorem send_of_reachable (htrouble : (world.script window).trouble = none) (message : Message)
    (limit : Option Duration) :
    send answer (depth + 1) window message limit world =
      (world.record (.sent window message limit)).process ⟨answer, send answer depth⟩ window
        message := by
  have hsame : ((world.record (.sent window message limit)).script window).trouble = none :=
    htrouble
  simp only [send, hsame]

/-- A viewer that has nothing to do passes a notice on. -/
theorem process_draw {owner : Option WindowId} {result : Except SendError Unit}
    (hviewer : world.viewer? window = some next) (hfree : window ∉ world.handling)
    (hpass : { world with handling := window :: world.handling }.passDraw medium.send next owner =
      (result, later)) :
    world.process medium window (.drawClipboard owner) =
      (result.map fun _ => true, { later with handling := later.handling.erase window }) := by
  simp only [process, hviewer, draw, occupied, List.contains_eq_mem, hfree, decide_false,
    Bool.false_eq_true, if_false, hpass]

/-- A viewer that has nothing to do reacts to a change of the chain. -/
theorem process_change {behind : Option WindowId} {result : Except SendError Bool}
    (hviewer : world.viewer? window = some behind) (hfree : window ∉ world.handling)
    (hpass : { world with handling := window :: world.handling }.passChange medium.send window
      behind removed next = (result, later)) :
    world.process medium window (.changeChain removed next) =
      (result, { later with handling := later.handling.erase window }) := by
  simp only [process, hviewer, changeChain, occupied, List.contains_eq_mem, hfree, decide_false,
    Bool.false_eq_true, if_false, hpass]

theorem send_draw {owner : Option WindowId} {limit : Option Duration}
    {result : Except SendError Unit} (hviewer : world.viewer? window = some next)
    (hawake : world.Awake (window :: viewers))
    (hpass : (world.attending window (.drawClipboard owner) limit).passDraw (send answer depth) next
      owner = (result, later)) :
    send answer (depth + 1) window (.drawClipboard owner) limit world =
      (result.map fun _ => true, { later with handling := later.handling.erase window }) :=
  (send_of_reachable (hawake.reachable window List.mem_cons_self) _ _).trans
    (process_draw hviewer (hawake.free window List.mem_cons_self) hpass)

theorem send_change {behind : Option WindowId} {limit : Option Duration}
    {result : Except SendError Bool} (hviewer : world.viewer? window = some behind)
    (hawake : world.Awake (window :: viewers))
    (hpass : (world.attending window (.changeChain removed next) limit).passChange
      (send answer depth) window behind removed next = (result, later)) :
    send answer (depth + 1) window (.changeChain removed next) limit world =
      (result, { later with handling := later.handling.erase window }) :=
  (send_of_reachable (hawake.reachable window List.mem_cons_self) _ _).trans
    (process_change hviewer (hawake.free window List.mem_cons_self) hpass)

/-- A notice that is passed on is sent to every viewer of the chain, one after another. -/
theorem passDraw_of_route (answer : Answering) (h : world.Route first viewers none)
    (hawake : world.Awake viewers) (hdepth : viewers.length ≤ depth) (owner : Option WindowId) :
    world.passDraw (send answer depth) first owner =
      (.ok (), { world with
        events := world.events ++ viewers.map fun viewer =>
          .sent viewer (.drawClipboard owner) none }) := by
  induction viewers generalizing first world depth with
  | nil =>
      cases h
      rw [List.map_nil, List.append_nil]
      rfl
  | cons viewer viewers ih =>
      obtain ⟨depth, rfl⟩ := Nat.exists_eq_add_one_of_ne_zero (Nat.ne_zero_of_lt hdepth)
      cases h with
      | cons hviewer hrest =>
          -- While the next viewer passes the notice on, it is busy and the ones behind it are not.
          let busy := world.attending viewer (.drawClipboard owner) none
          have hroute : busy.Route _ viewers none := hrest.of_windows_eq rfl
          have hbusy : busy.Awake viewers := hawake.tail rfl rfl
          have hpass := ih hroute hbusy (Nat.le_of_succ_le_succ hdepth)
          rw [passDraw, send_draw hviewer hawake hpass]
          simp only [busy, attending, record, List.erase_cons_head, List.append_assoc,
            List.cons_append, List.nil_append, List.map_cons]
          rfl

/-- A viewer with the one that leaves behind it closes the gap. -/
theorem passChange_last (world : World) (window removed : WindowId) (next : Option WindowId) :
    ∃ log, ∀ send : Sending, world.passChange send window (some removed) removed next =
      (.ok true, { world with log := log }.setNext window next) := by
  obtain ⟨log, hnote⟩ := exists_note world (Notice.splicing window removed)
  refine ⟨log, fun send => ?_⟩
  simp only [passChange, ChainReaction.of, if_true, hnote]

/-- A viewer further in front passes the change on. -/
theorem passChange_forward (world : World) (window : WindowId) (hother : successor ≠ removed)
    (next : Option WindowId) :
    ∃ log, ∀ send : Sending, world.passChange send window (some successor) removed next =
      send successor (.changeChain removed next) none { world with log := log } := by
  obtain ⟨log, hnote⟩ := exists_note world (Notice.forwarding removed successor)
  exact ⟨log, fun send => by simp only [passChange, ChainReaction.of, if_neg hother, hnote]⟩

/-- Why a window does not take a change on from these viewers, which are busy with it. -/
def refusal? (world : World) (viewers : List WindowId) (window : WindowId) : Option SendError :=
  match (world.script window).trouble with
  | some .invalid => some (.invalidWindow window)
  | some .timeout => some (.timeout ⟨0⟩)
  | some .hung => some .hung
  | none => if window ∈ world.handling ∨ window ∈ viewers then some .hung else none

/-- A change of the chain stops behind these viewers: there the chain ends, or comes to the viewer
that leaves, so that the last viewer in front closes the gap, or to a window that refuses. -/
inductive Halts (world : World) (removed : WindowId) (viewers : List WindowId) :
    Option WindowId → Except SendError Bool → Option WindowId → Prop where
  | ended : viewers ≠ [] → Halts world removed viewers none (.ok false) none
  | closed {viewer : WindowId} : viewers.getLast? = some viewer →
      Halts world removed viewers (some removed) (.ok true) (some viewer)
  | refused {window : WindowId} {error : SendError} : window ≠ removed →
      world.refusal? viewers window = some error →
      Halts world removed viewers (some window) (.error error) none

/-- Gives a viewer another next viewer, if there is one to get it. -/
def assign (world : World) (holder next : Option WindowId) : World :=
  match holder with
  | some viewer => world.setNext viewer next
  | none => world

theorem send_of_refusal (hrefusal : world.refusal? [] window = some error)
    (hnode : (world.script window).trouble = none → ∃ link, world.viewer? window = some link)
    (answer : Answering) (depth : Nat) (removed : WindowId) (next : Option WindowId) :
    send answer (depth + 1) window (.changeChain removed next) none world =
      (.error error, world.record (.sent window (.changeChain removed next) none)) := by
  have hsame : (world.record (.sent window (.changeChain removed next) none)).script window =
      world.script window := rfl
  unfold refusal? at hrefusal
  cases htrouble : (world.script window).trouble with
  | some trouble =>
      cases trouble <;> simp only [htrouble, Option.some.injEq] at hrefusal <;>
        simp only [send, hsame, htrouble, ← hrefusal, Option.getD_none]
  | none =>
      obtain ⟨link, hviewer⟩ := hnode htrouble
      simp only [htrouble, List.not_mem_nil, or_false, Option.ite_none_right_eq_some,
        Option.some.injEq] at hrefusal
      obtain ⟨hbusy, rfl⟩ := hrefusal
      rw [send_of_reachable htrouble]
      let told := world.record (.sent window (.changeChain removed next) none)
      have hlink : told.viewer? window = some link := hviewer
      have hcontains : told.handling.contains window = true := by
        rw [List.contains_eq_mem]
        exact decide_eq_true hbusy
      simp only [told, process, hlink, World.changeChain, occupied, hcontains, if_true]

/-- A window that a busy viewer tells is refused the change as if that viewer had been among those
in front. -/
theorem refusal?_of_busy {busy : World} (hwindows : busy.windows = world.windows)
    (hhandling : busy.handling = viewer :: world.handling) (viewers : List WindowId)
    (window : WindowId) :
    busy.refusal? viewers window = world.refusal? (viewer :: viewers) window := by
  have hmem : (window ∈ viewer :: world.handling ∨ window ∈ viewers) ↔
      (window ∈ world.handling ∨ window ∈ viewer :: viewers) := by
    simp only [List.mem_cons, or_assoc, or_left_comm]
  simp only [refusal?, script_congr hwindows, hhandling, hmem]

/-- The first viewer on the way sees to the change itself, or passes it on and is busy. -/
theorem Halts.step (h : world.Halts removed (window :: viewers) last result holder)
    (hroute : world.Route behind viewers last) (hkept : removed ∉ viewers) :
    (behind = none ∧ result = .ok false ∧ holder = none) ∨
      (behind = some removed ∧ result = .ok true ∧ holder = some window) ∨
      ∃ successor, behind = some successor ∧ successor ≠ removed ∧
        ∀ busy : World, busy.windows = world.windows → busy.handling = window :: world.handling →
          busy.Halts removed viewers last result holder := by
  cases hroute with
  | nil =>
      cases h with
      | ended => exact .inl ⟨rfl, rfl, rfl⟩
      | closed hlast =>
          cases hlast
          exact .inr (.inl ⟨rfl, rfl, rfl⟩)
      | refused hother hrefusal =>
          refine .inr (.inr ⟨_, rfl, hother, fun busy hwindows hhandling => .refused hother ?_⟩)
          rw [refusal?_of_busy hwindows hhandling, hrefusal]
  | @cons second _ _ rest =>
      have hother : second ≠ removed := fun hsame => hkept (hsame ▸ List.mem_cons_self)
      refine .inr (.inr ⟨second, rfl, hother, fun busy hwindows hhandling => ?_⟩)
      cases h with
      | ended => exact .ended (List.cons_ne_nil _ _)
      | closed hlast => exact .closed (by rw [← hlast, List.getLast?_cons_cons])
      | refused hother hrefusal =>
          exact .refused hother (by rw [refusal?_of_busy hwindows hhandling, hrefusal])

/-- A change of the chain is passed on as far as it gets, and comes back with the result from there,
however deep messages can be nested beyond that. -/
theorem send_of_halts (answer : Answering) (h : world.Route (some window) viewers last)
    (hawake : world.Awake viewers) (hkept : removed ∉ viewers)
    (hhalts : world.Halts removed viewers last result holder)
    (hnode : ∀ stop, last = some stop → (world.script stop).trouble = none → stop ≠ removed →
      ∃ link, world.viewer? stop = some link) (next : Option WindowId) :
    ∃ told, world.Unaltered told ∧ ∀ depth, viewers.length ≤ depth →
      send answer (depth + 1) window (.changeChain removed next) none world =
        (result, told.assign holder next) := by
  -- The world changes with the induction: behind each viewer that passes it on one more is busy.
  induction viewers generalizing window world with
  | nil =>
      cases h
      cases hhalts with
      | closed hlast => cases hlast
      | refused hother hrefusal =>
          refine ⟨world.record (.sent window (.changeChain removed next) none),
            ⟨_, _, _, rfl⟩, fun depth _ => ?_⟩
          exact send_of_refusal hrefusal (fun htrouble => hnode _ rfl htrouble hother) answer
            depth removed next
  | cons window viewers ih =>
      cases h with
      | cons hviewer hrest =>
          let told := world.record (.sent window (.changeChain removed next) none)
          let busy := world.attending window (.changeChain removed next) none
          rcases hhalts.step hrest fun hmem => hkept (List.mem_cons_of_mem _ hmem) with
            ⟨rfl, rfl, rfl⟩ | ⟨rfl, rfl, rfl⟩ | ⟨successor, rfl, hother, hrests⟩
          · refine ⟨told, ⟨_, _, _, rfl⟩, fun depth _ => ?_⟩
            have hpass : busy.passChange (send answer depth) window none removed next =
                (.ok false, busy) := rfl
            rw [send_change hviewer hawake hpass]
            simp [told, busy, attending, assign, record]
          · obtain ⟨log, hclose⟩ := busy.passChange_last window removed next
            refine ⟨{ told with log := log }, ⟨_, _, _, rfl⟩, fun depth _ => ?_⟩
            rw [send_change hviewer hawake (hclose _)]
            simp [told, busy, attending, assign, record, setNext]
          · -- The viewer is busy until the answer is back, so the rest of the route is met from there.
            obtain ⟨log, hforward⟩ := busy.passChange_forward window hother next
            have hroute : World.Route { busy with log := log } (some successor) viewers last :=
              hrest.of_windows_eq rfl
            have hready : World.Awake { busy with log := log } viewers := hawake.tail rfl rfl
            obtain ⟨_, ⟨events, requests, log', rfl⟩, hsend⟩ := ih hroute hready
              (fun hmem => hkept (List.mem_cons_of_mem _ hmem)) (hrests _ rfl rfl) hnode
            refine ⟨{ world with events := events, requests := requests, log := log' },
              ⟨_, _, _, rfl⟩, fun depth hdepth => ?_⟩
            obtain ⟨depth, rfl⟩ := Nat.exists_eq_add_one_of_ne_zero (Nat.ne_zero_of_lt hdepth)
            have hsent := (hforward _).trans (hsend depth (Nat.le_of_succ_le_succ hdepth))
            rw [send_change hviewer hawake hsent]
            cases holder <;> simp [busy, attending, assign, record, setNext]

end World

end Pasteboard
