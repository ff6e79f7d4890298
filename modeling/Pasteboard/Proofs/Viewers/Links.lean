import Pasteboard.Proofs.Viewers.Tasks

/-!
# Links that a change of the chain assigns

The nodes of viewers may lead anywhere: in a circle, to windows that do not answer, or to none.
A change of the chain follows them from the head, and each viewer that passes it on stays busy until
the answer is back. Whatever there is on the way, the change comes to an end, and it assigns no link
but the first one that leads to the viewer that leaves: see `World.change_assigns_first_link`.
-/

namespace Pasteboard

open World

variable {world later : World} {place : Nat} {window viewer removed : WindowId}
  {last : Option WindowId} {viewers : List WindowId}

namespace World

/-- The links of a chain: the head that the store knows, and the next viewer of each node. -/
def link? (world : World) : Option WindowId → Option (Option WindowId)
  | none => some world.board.viewer
  | some window => world.viewer? window

/-- From the head on, the first link that leads to a window is that of the last viewer in front of
it, or that of the store. -/
def FirstLink (world : World) (target : WindowId) (holder : Option WindowId) : Prop :=
  ∃ viewers, world.Route world.board.viewer viewers (some target) ∧ target ∉ viewers ∧
    viewers.getLast? = holder

/-- Wherever the nodes of live viewers lead to from the head, there is a viewer again, unless the
window does not process messages. -/
def Linked (world : World) : Prop :=
  ∀ viewers window, world.Route world.board.viewer viewers (some window) →
    (∀ viewer ∈ viewers, (world.script viewer).trouble = none) →
    (world.script window).trouble = none → ∃ link, world.viewer? window = some link

theorem refusal?_eq_none_iff : world.refusal? viewers window = none ↔
    (world.script window).trouble = none ∧ window ∉ world.handling ∧ window ∉ viewers := by
  unfold refusal?
  cases (world.script window).trouble with
  | some trouble => cases trouble <;> simp
  | none => simp [not_or]

theorem awake_nil (world : World) : world.Awake [] :=
  ⟨List.nodup_nil, fun _ hmem => False.elim (List.not_mem_nil hmem),
    fun _ hmem => False.elim (List.not_mem_nil hmem)⟩

theorem Awake.concat (h : world.Awake viewers) (hrefusal : world.refusal? viewers window = none) :
    world.Awake (viewers ++ [window]) := by
  obtain ⟨htrouble, hfree, hnew⟩ := refusal?_eq_none_iff.1 hrefusal
  constructor
  case nodup =>
    refine List.nodup_append.2 ⟨h.nodup, List.pairwise_singleton _ window, ?_⟩
    exact fun other hmem _ hlast hsame => hnew (List.mem_singleton.1 hlast ▸ hsame ▸ hmem)
  case free =>
    intro other hmem
    rcases List.mem_append.1 hmem with hmem | hmem
    · exact h.free other hmem
    · rwa [List.mem_singleton.1 hmem]
  case reachable =>
    intro other hmem
    rcases List.mem_append.1 hmem with hmem | hmem
    · exact h.reachable other hmem
    · rwa [List.mem_singleton.1 hmem]

/-- Since no viewer is passed twice, the way from the head comes to a place where a change stops. -/
theorem Linked.exists_halts (hlinked : world.Linked) (removed : WindowId) (count : Nat)
    (h : world.Route world.board.viewer viewers last) (hawake : world.Awake viewers)
    (hkept : removed ∉ viewers) (hcount : world.windows.length < viewers.length + count) :
    ∃ viewers last, world.Route world.board.viewer viewers last ∧ world.Awake viewers ∧
      removed ∉ viewers ∧ (viewers = [] ∧ (last = none ∨ last = some removed) ∨
        ∃ result holder, world.Halts removed viewers last result holder) := by
  -- No viewer is on the way twice, so there are no more on it than windows.
  induction count generalizing viewers last with
  | zero =>
      have hlength := h.length_le hawake.nodup
      omega
  | succ count ih =>
      cases last with
      | none =>
          refine ⟨viewers, none, h, hawake, hkept, ?_⟩
          by_cases hviewers : viewers = []
          · exact .inl ⟨hviewers, .inl rfl⟩
          · exact .inr ⟨_, _, .ended hviewers⟩
      | some window =>
          by_cases hsame : window = removed
          · subst hsame
            refine ⟨viewers, some window, h, hawake, hkept, ?_⟩
            by_cases hviewers : viewers = []
            · exact .inl ⟨hviewers, .inr rfl⟩
            · exact .inr ⟨_, _, .closed (List.getLast?_eq_some_getLast hviewers)⟩
          · cases hrefusal : world.refusal? viewers window with
            | some error =>
                exact ⟨viewers, some window, h, hawake, hkept,
                  .inr ⟨_, _, .refused hsame hrefusal⟩⟩
            | none =>
                obtain ⟨link, hviewer⟩ := hlinked viewers window h hawake.reachable
                  (refusal?_eq_none_iff.1 hrefusal).1
                refine ih (h.append (.cons hviewer (.nil link))) (hawake.concat hrefusal) ?_ ?_
                · simpa [List.mem_append, not_or] using ⟨hkept, Ne.symm hsame⟩
                · rw [List.length_append, List.length_singleton]
                  omega

/-- How a change of the chain comes out, and which link it assigns, if it assigns one. -/
inductive Settles (world : World) (removed : WindowId) :
    Outcome → Option (Option WindowId) → Prop where
  | headless : world.board.viewer = none →
      Settles world removed (.failed (.store (.refused .invalidParameter))) none
  | atHead : world.board.viewer = some removed →
      Settles world removed (.done (.flag true)) (some none)
  | below {head : WindowId} {viewers : List WindowId} {last holder : Option WindowId}
      {result : Except SendError Bool} : world.board.viewer = some head → head ≠ removed →
      world.Route (some head) viewers last → world.Awake viewers → removed ∉ viewers →
      world.Halts removed viewers last result holder →
      Settles world removed (Task.answered result) (holder.map some)

theorem Linked.exists_settles (hlinked : world.Linked) (removed : WindowId) :
    ∃ outcome assigned, world.Settles removed outcome assigned := by
  obtain ⟨viewers, last, hroute, hawake, hkept, hstop⟩ := hlinked.exists_halts removed
    (world.windows.length + 1) (.nil _) world.awake_nil List.not_mem_nil (by simp)
  cases hhead : world.board.viewer with
  | none => exact ⟨_, _, .headless hhead⟩
  | some head =>
      by_cases hsame : head = removed
      · exact ⟨_, _, .atHead (hsame ▸ hhead)⟩
      · rcases hstop with ⟨rfl, hlast⟩ | ⟨result, holder, hhalts⟩
        · rw [hhead] at hroute
          cases hroute
          rcases hlast with hlast | hlast
          · cases hlast
          · exact absurd (Option.some.inj hlast) hsame
        · rw [hhead] at hroute
          exact ⟨_, _, .below hhead hsame hroute hawake hkept hhalts⟩

/-- A link that a change assigned leads to the next viewer now, and all others are the same. -/
theorem link?_assign (hviewer : ∃ link, world.viewer? viewer = some link)
    (next other : Option WindowId) :
    (world.assign (some viewer) next).link? other =
      if other = some viewer then some next else world.link? other := by
  obtain ⟨link, hviewer⟩ := hviewer
  cases other with
  | none => rw [if_neg (Option.some_ne_none viewer).symm]; rfl
  | some window =>
      show (world.setNext viewer next).viewer? window = _
      rw [viewer?_setNext hviewer]
      simp only [Option.some.injEq]
      rfl

theorem link?_congr (hboard : later.board = world.board) (hwindows : later.windows = world.windows)
    (holder : Option WindowId) : later.link? holder = world.link? holder := by
  cases holder with
  | none => rw [link?, hboard]; rfl
  | some window => exact viewer?_congr hwindows window

/-- Only the link given, if one is given, is another one than before: the next viewer stands
there. -/
def AssignsOnly (world later : World) (assigned : Option (Option WindowId))
    (next : Option WindowId) : Prop :=
  ∀ holder, later.link? holder =
    if assigned = some holder then some next else world.link? holder

theorem assignsOnly_none (hboard : later.board = world.board)
    (hwindows : later.windows = world.windows) (next : Option WindowId) :
    world.AssignsOnly later none next := by
  intro holder
  rw [if_neg (Option.some_ne_none holder).symm, link?_congr hboard hwindows]

/-- Where a change stops, only the link that closes the gap is assigned, if there is one
to close. -/
theorem Halts.assignsOnly {result : Except SendError Bool} {holder : Option WindowId}
    {start : Option WindowId} {told : World}
    (h : world.Halts removed viewers last result holder)
    (hroute : world.Route start viewers last) (hboard : told.board = world.board)
    (hwindows : told.windows = world.windows) (next : Option WindowId) :
    world.AssignsOnly (told.assign holder next) (holder.map some) next := by
  cases h with
  | ended => exact assignsOnly_none hboard hwindows next
  | refused => exact assignsOnly_none hboard hwindows next
  | @closed viewer hlast =>
      have hviewer : ∃ link, told.viewer? viewer = some link := by
        rw [viewer?_congr hwindows]
        exact hroute.viewer?_of_mem (List.mem_of_getLast? hlast)
      intro link
      rw [link?_assign hviewer, link?_congr hboard hwindows]
      simp only [Option.map_some, Option.some.injEq, eq_comm]

/-- Without a head the store refuses a change, and nothing is assigned. -/
theorem Idle.act_changeChain_of_headless (hidle : world.Idle place)
    (hhead : world.board.viewer = none) (removed : WindowId) (next : Option WindowId) :
    ∃ later, world.AssignsOnly later none next ∧ ∀ depth,
      world.act ⟨World.consult, World.send World.consult depth⟩ place (.changeChain removed next) =
        (.failed (.store (.refused .invalidParameter)), later) := by
  let busy := world.setBusy place true
  let request := Request.setViewer next (some removed)
  let asked := { busy with requests := busy.requests ++ [request] }
  have hreply : World.consult busy place request =
      (.error (.refused .invalidParameter), asked) := by
    have hrefused : busy.board.setViewer next (some removed) = _ :=
      Board.setViewer_of_none hhead next removed
    rw [consult, Board.handle, hrefused]
    rfl
  refine ⟨{ asked with members := world.members }, assignsOnly_none rfl rfl next,
    fun depth => hidle.act_of_run ?_ rfl⟩
  exact Task.run_changeChain_of_refused
    (show (⟨World.consult, World.send World.consult depth⟩ : Medium).answer busy place _ = _
      from hreply)

/-- The client learns how the change came out, and only the link that is to be assigned is. -/
theorem Settles.act {outcome : Outcome} {assigned : Option (Option WindowId)}
    (h : world.Settles removed outcome assigned) (hidle : world.Idle place)
    (hlinked : world.Linked) (next : Option WindowId) :
    ∃ later, world.AssignsOnly later assigned next ∧ ∀ depth, world.nesting ≤ depth →
      world.act ⟨World.consult, World.send World.consult depth⟩ place (.changeChain removed next) =
        (outcome, later) := by
  cases h with
  | headless hhead =>
      obtain ⟨later, honly, hact⟩ := hidle.act_changeChain_of_headless hhead removed next
      exact ⟨later, honly, fun depth _ => hact depth⟩
  | atHead hhead =>
      have hreply : World.consult (world.setBusy place true) place
          (.setViewer next (some removed)) = _ :=
        consult_setViewer _ place (Board.setViewer_of_eq (.inr hhead) _)
      refine ⟨_, fun holder => ?_, fun depth _ =>
        hidle.act_of_run (Task.run_changeChain_of_set hreply) rfl⟩
      cases holder with
      | none => rfl
      | some window => rfl
  | @below head viewers last holder result hhead hother hroute hawake hkept hhalts =>
      have hdepth := hroute.length_lt_nesting hawake.nodup
      have hnode : ∀ stop, last = some stop → (world.script stop).trouble = none → stop ≠ removed →
          ∃ link, world.viewer? stop = some link := by
        rintro stop rfl htrouble -
        rw [← hhead] at hroute
        exact hlinked viewers stop hroute hawake.reachable htrouble
      obtain ⟨told, ⟨events, requests, log, htold⟩, hact⟩ :=
        hidle.act_changeChain_of_halts hhead hother hroute hawake hkept hhalts hnode next
      exact ⟨_, hhalts.assignsOnly hroute (by rw [htold]) (by rw [htold]) next,
        fun depth hmore => hact depth (Nat.lt_of_lt_of_le hdepth hmore)⟩

theorem Settles.outcome_cases {outcome : Outcome} {assigned : Option (Option WindowId)}
    (h : world.Settles removed outcome assigned) :
    (outcome = .done (.flag true) ∧ ∃ viewers,
        world.Route world.board.viewer viewers (some removed) ∧ removed ∉ viewers ∧
        world.Awake viewers ∧ assigned = some viewers.getLast?) ∨
      ((outcome = .done (.flag false) ∨ ∃ error, outcome = .failed error) ∧ assigned = none) := by
  cases h with
  | headless => exact .inr ⟨.inr ⟨_, rfl⟩, rfl⟩
  | atHead hhead =>
      exact .inl ⟨rfl, [], hhead ▸ .nil _, List.not_mem_nil, world.awake_nil, rfl⟩
  | below hhead hother hroute hawake hkept hhalts =>
      rw [← hhead] at hroute
      cases hhalts with
      | ended => exact .inr ⟨.inl rfl, rfl⟩
      | refused => exact .inr ⟨.inr ⟨_, rfl⟩, rfl⟩
      | closed hlast => exact .inl ⟨rfl, _, hroute, hkept, hawake, by rw [hlast]; rfl⟩

/-- Where live viewers that are not busy lead to the one that leaves, the first link there is
assigned. -/
theorem settles_of_route (h : world.Route world.board.viewer viewers (some removed))
    (hkept : removed ∉ viewers) (hawake : world.Awake viewers) :
    ∃ assigned, world.Settles removed (.done (.flag true)) assigned := by
  by_cases hviewers : viewers = []
  · subst hviewers
    generalize hhead : world.board.viewer = head at h
    cases h
    exact ⟨_, .atHead hhead⟩
  · obtain ⟨head, hmem, hhead⟩ := h.exists_first hviewers
    rw [hhead] at h
    have hother : head ≠ removed := fun hsame => hkept (hsame ▸ hmem)
    exact ⟨_, .below hhead hother h hawake hkept
      (.closed (List.getLast?_eq_some_getLast hviewers))⟩

/-- Wherever the nodes lead, a change of the chain comes to an end, so that it makes no difference
if messages can be nested deeper still. It takes a viewer out if and only if viewers that are awake
lead to it; then the first link that leads there is assigned the next viewer, and no other link is.
If the client gets a failure, or hears that nobody knew the viewer, all links are as they were. -/
theorem change_assigns_first_link (hidle : world.Idle place) (hlinked : world.Linked)
    (removed : WindowId) (next : Option WindowId) :
    ∃ outcome later,
      (∀ depth, world.nesting ≤ depth →
        world.act ⟨World.consult, World.send World.consult depth⟩ place
          (.changeChain removed next) = (outcome, later)) ∧
      (outcome = .done (.flag true) ∧ (∃ holder, world.FirstLink removed holder ∧
          later.link? holder = some next ∧
          ∀ other, other ≠ holder → later.link? other = world.link? other) ∨
        (outcome = .done (.flag false) ∨ ∃ error, outcome = .failed error) ∧
          ∀ holder, later.link? holder = world.link? holder) ∧
      (outcome = .done (.flag true) ↔ ∃ viewers,
        world.Route world.board.viewer viewers (some removed) ∧ removed ∉ viewers ∧
          world.Awake viewers) := by
  obtain ⟨outcome, assigned, hsettles⟩ := hlinked.exists_settles removed
  obtain ⟨later, honly, hact⟩ := hsettles.act hidle hlinked next
  refine ⟨outcome, later, hact, ?_, ?_⟩
  · rcases hsettles.outcome_cases with ⟨htrue, viewers, hroute, hkept, -, rfl⟩ | ⟨hfalse, rfl⟩
    · refine .inl ⟨htrue, _, ⟨viewers, hroute, hkept, rfl⟩, ?_, fun other hother => ?_⟩
      · rw [honly, if_pos rfl]
      · rw [honly, if_neg fun hsame => hother (Option.some.inj hsame).symm]
    · refine .inr ⟨hfalse, fun holder => ?_⟩
      rw [honly, if_neg (Option.some_ne_none holder).symm]
  · constructor
    · intro htrue
      rcases hsettles.outcome_cases with ⟨-, viewers, hroute, hkept, hawake, -⟩ | ⟨hfalse, -⟩
      · exact ⟨viewers, hroute, hkept, hawake⟩
      · rcases hfalse with rfl | ⟨error, rfl⟩
        · cases htrue
        · cases htrue
    · -- A task comes to one outcome only, and where there is such a route it comes to this one.
      rintro ⟨viewers, hroute, hkept, hawake⟩
      obtain ⟨_, htrue⟩ := settles_of_route hroute hkept hawake
      obtain ⟨_, -, hact'⟩ := htrue.act hidle hlinked next
      have hsame := (hact _ (Nat.le_refl _)).symm.trans (hact' _ (Nat.le_refl _))
      exact congrArg Prod.fst hsame

/-- Two viewers that are each other's next one, the first of them at the head. -/
def circle : World :=
  gathering { Board.empty with viewer := some firstWindow } 1
    [{ WindowScript.plain firstWindow with viewer := some (some secondWindow) },
      { WindowScript.plain secondWindow with viewer := some (some firstWindow) }]

/-- The viewers in the circle lead to each other only. -/
theorem circle_route {start : Option WindowId} (h : circle.Route start viewers last)
    (hstart : start = some firstWindow ∨ start = some secondWindow) :
    last = some firstWindow ∨ last = some secondWindow := by
  have hfirst : circle.viewer? firstWindow = some (some secondWindow) := rfl
  have hsecond : circle.viewer? secondWindow = some (some firstWindow) := rfl
  induction h with
  | nil => exact hstart
  | cons hviewer _ ih =>
      rcases hstart with hstart | hstart
      · cases hstart
        cases hfirst.symm.trans hviewer
        exact ih (.inr rfl)
      · cases hstart
        cases hsecond.symm.trans hviewer
        exact ih (.inl rfl)

theorem circle_linked : circle.Linked := by
  intro viewers window hroute _ _
  rcases circle_route hroute (.inl rfl) with hwindow | hwindow
  · cases hwindow
    exact ⟨some secondWindow, rfl⟩
  · cases hwindow
    exact ⟨some firstWindow, rfl⟩

/-- From the head of the circle, the first viewer is the last one in front of the second. -/
theorem getLast?_circle (h : circle.Route circle.board.viewer viewers (some secondWindow))
    (hkept : secondWindow ∉ viewers) : viewers.getLast? = some firstWindow := by
  have hfirst : circle.viewer? firstWindow = some (some secondWindow) := rfl
  generalize hhead : circle.board.viewer = head at h
  generalize htarget : some secondWindow = target at h
  cases h with
  | nil => exact absurd (hhead.trans htarget.symm) (by decide)
  | cons hviewer hrest =>
      cases Option.some.inj hhead
      cases hfirst.symm.trans hviewer
      cases hrest with
      | nil => rfl
      | cons => exact absurd (List.mem_cons_of_mem _ List.mem_cons_self) hkept

/-- A window outside the circle is looked for once around, until the first viewer is found busy;
one of the two in the circle is taken out of it. -/
theorem circle_followed_once :
    let outside : WindowId := ⟨30, by decide⟩
    circle.Idle 0 ∧ circle.Linked ∧
      (∃ later, (∀ depth, circle.nesting ≤ depth →
          circle.act ⟨World.consult, World.send World.consult depth⟩ 0 (.changeChain outside none) =
            (.failed (.window .hung), later)) ∧
        ∀ holder, later.link? holder = circle.link? holder) ∧
      ∃ later, (∀ depth, circle.nesting ≤ depth →
          circle.act ⟨World.consult, World.send World.consult depth⟩ 0
            (.changeChain secondWindow none) = (.done (.flag true), later)) ∧
        later.link? (some firstWindow) = some none ∧
        ∀ other, other ≠ some firstWindow → later.link? other = circle.link? other := by
  intro outside
  have hidle : circle.Idle 0 := ⟨_, rfl, rfl⟩
  refine ⟨hidle, circle_linked, ?_, ?_⟩
  · obtain ⟨outcome, later, hact, hlinks, -⟩ :=
      change_assigns_first_link hidle circle_linked outside none
    have houtcome : outcome = .failed (.window .hung) :=
      (congrArg Prod.fst (hact _ (Nat.le_refl _))).symm
    subst houtcome
    rcases hlinks with ⟨htrue, -⟩ | ⟨-, hsame⟩
    · cases htrue
    · exact ⟨later, hact, hsame⟩
  · obtain ⟨outcome, later, hact, hlinks, htrue⟩ :=
      change_assigns_first_link hidle circle_linked secondWindow none
    have houtcome : outcome = .done (.flag true) :=
      (congrArg Prod.fst (hact _ (Nat.le_refl _))).symm
    subst houtcome
    rcases hlinks with ⟨-, holder, ⟨viewers, hroute, hkept, rfl⟩, hlink, hothers⟩ | ⟨hfalse, -⟩
    · have hlast := getLast?_circle hroute hkept
      rw [hlast] at hlink hothers
      exact ⟨later, hact, hlink, hothers⟩
    · rcases hfalse with hfalse | ⟨error, hfalse⟩
      · cases hfalse
      · cases hfalse

end World
end Pasteboard
