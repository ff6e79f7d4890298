import Pasteboard.Proofs.Viewers.Tasks

/-!
# Viewers that come and go

A viewer joins at the head of the chain and its node takes up the head that was there; a viewer
leaves by giving its place to the next one of its node. However viewers come and go, the store and
their nodes describe the viewers that are there, the latest first: see `viewers_in_chain`.
What keeps a chain in order is `Chained`; a single viewer that comes or goes keeps it by
`Chained.enrol` and `Chained.withdraw`.
-/

namespace Pasteboard

namespace World

/-- Gives a window a node with a next viewer. -/
def giveNode (world : World) (window : WindowId) (next : Option WindowId) : World :=
  world.setWindow { world.script window with viewer := some next }

/-- Has a client make a window the head of the chain, and gives the window a node with the head that
was there. -/
def enrol (world : World) (place : Nat) (window : WindowId) : World :=
  match world.act (world.medium World.consult) place (.setViewer (some window)) with
  | (.done (.window oldHead), later) => later.giveNode window oldHead
  | (_, later) => later

/-- Has a client take a window out of the chain, in favour of the next viewer of its node. -/
def withdraw (world : World) (place : Nat) (window : WindowId) : Outcome × World :=
  world.act (world.medium World.consult) place
    (.changeChain window (world.viewer? window).join)

/-- Worlds after viewers came and went, by the doing of any idle clients, with those that are there.
Whoever comes can be reached. -/
inductive Enrolment (start : World) : List WindowId → World → Prop where
  | start : Enrolment start [] start
  | join {viewers : List WindowId} {world : World} {place : Nat} {window : WindowId} :
      Enrolment start viewers world → start.Idle place →
      (start.script window).trouble = none → window ∉ viewers →
      Enrolment start (window :: viewers) (world.enrol place window)
  | leave {viewers : List WindowId} {world : World} {place : Nat} {window : WindowId} :
      Enrolment start viewers world → start.Idle place → window ∈ viewers →
      Enrolment start (viewers.erase window) (world.withdraw place window).2

variable {start world later : World} {place : Nat} {window viewer : WindowId}
  {next : Option WindowId} {front viewers : List WindowId}

theorem script_giveNode (world : World) (window : WindowId) (next : Option WindowId)
    (other : WindowId) :
    (world.giveNode window next).script other =
      if other = window then { world.script window with viewer := some next }
      else world.script other := by
  rw [giveNode, script_setWindow]
  simp only [id_script, eq_comm]

theorem viewer?_giveNode (world : World) (window : WindowId) (next : Option WindowId)
    (other : WindowId) :
    (world.giveNode window next).viewer? other =
      if other = window then some next else world.viewer? other := by
  rw [viewer?, script_giveNode]
  split <;> rfl

/-- The chain of the store and the nodes is that of these viewers, which are different ones that can
be reached and have nothing to do. -/
structure Chained (world : World) (viewers : List WindowId) : Prop where
  route : world.Route world.board.viewer viewers none
  awake : world.Awake viewers

/-- The clients are the same, and the same windows can be reached and are busy. -/
structure Likewise (world later : World) : Prop where
  members : later.members = world.members
  handling : later.handling = world.handling
  trouble : ∀ window, (later.script window).trouble = (world.script window).trouble

theorem Likewise.trans {last : World} (h : world.Likewise later) (hlast : later.Likewise last) :
    world.Likewise last where
  members := by rw [hlast.members, h.members]
  handling := by rw [hlast.handling, h.handling]
  trouble window := by rw [hlast.trouble, h.trouble]

theorem Likewise.idle (h : world.Likewise later) (hidle : world.Idle place) : later.Idle place := by
  obtain ⟨member, hmember, hbusy⟩ := hidle
  exact ⟨member, by rw [member?_congr h.members, hmember], hbusy⟩

theorem Awake.sublist (h : world.Awake viewers) (hfront : front.Sublist viewers) :
    world.Awake front where
  nodup := h.nodup.sublist hfront
  free window hmem := h.free window (hfront.subset hmem)
  reachable window hmem := h.reachable window (hfront.subset hmem)

theorem Likewise.awake (h : world.Likewise later) (hawake : world.Awake viewers) :
    later.Awake viewers where
  nodup := hawake.nodup
  free := by
    rw [h.handling]
    exact hawake.free
  reachable window hmem := by
    rw [h.trouble]
    exact hawake.reachable window hmem

/-- A window that joins becomes the first of the chain. -/
theorem Chained.enrol (h : world.Chained viewers) (hidle : world.Idle place)
    (hawake : world.Awake (window :: viewers)) :
    (world.enrol place window).Chained (window :: viewers) ∧
      world.Likewise (world.enrol place window) := by
  obtain ⟨posts, events, requests, log, hact⟩ := hidle.act_setViewer window
  let later : World := { world with
    board := { world.board with viewer := some window }, posts := posts, events := events,
    requests := requests, log := log }
  have henrol : world.enrol place window = later.giveNode window world.board.viewer := by
    rw [World.enrol, hact]
  have hlike : world.Likewise (later.giveNode window world.board.viewer) := by
    refine ⟨rfl, rfl, fun other => ?_⟩
    rw [script_giveNode]
    split
    · rename_i hother
      rw [hother]
      rfl
    · rfl
  -- The new node is that of no viewer in the chain, so their links are as they were.
  have hnew : ∀ other ∈ viewers, other ≠ window := fun other hmem hother =>
    (List.nodup_cons.1 hawake.nodup).1 (hother ▸ hmem)
  rw [henrol]
  refine ⟨⟨.cons ?_ (h.route.congr fun other hmem => ?_), hlike.awake hawake⟩, hlike⟩
  · rw [viewer?_giveNode, if_pos rfl]
  · rw [viewer?_giveNode, if_neg (hnew other hmem)]
    rfl

/-- If the first viewer leaves, the store replaces the head. -/
theorem Chained.withdraw_first (h : world.Chained (window :: viewers)) (hidle : world.Idle place) :
    ∃ later, world.withdraw place window = (.done (.flag true), later) ∧ later.Chained viewers ∧
      world.Likewise later := by
  obtain ⟨hroute, hawake⟩ := h
  generalize hhead : world.board.viewer = head at hroute
  cases hroute with
  | @cons _ next _ _ hviewer hrest =>
      obtain ⟨requests, hact⟩ := hidle.act_changeChain_of_head hhead next
      rw [World.withdraw, hviewer, Option.join_some, hact]
      have hlike : world.Likewise { world with
          board := { world.board with viewer := next }, requests := requests } :=
        ⟨rfl, rfl, fun _ => rfl⟩
      exact ⟨_, rfl, ⟨hrest.of_windows_eq rfl,
        hlike.awake (hawake.sublist (List.sublist_cons_self window viewers))⟩, hlike⟩

/-- If another viewer leaves, the one in front of it closes the gap. -/
theorem Chained.withdraw_behind {back : List WindowId}
    (h : world.Chained (front ++ [viewer] ++ window :: back)) (hidle : world.Idle place) :
    ∃ later, world.withdraw place window = (.done (.flag true), later) ∧
      later.Chained (front ++ [viewer] ++ back) ∧ world.Likewise later := by
  obtain ⟨hroute, hawake⟩ := h
  have hfirst := hawake.sublist (List.sublist_append_left (front ++ [viewer]) (window :: back))
  have hless := hawake.sublist ((List.Sublist.refl (front ++ [viewer])).append
    (List.sublist_cons_self window back))
  have hkept : window ∉ front ++ [viewer] := fun hmem =>
    (List.nodup_append.1 hawake.nodup).2.2 window hmem window List.mem_cons_self rfl
  obtain ⟨_, hfront, hback⟩ := hroute.split
  cases hback with
  | @cons _ next _ _ hviewer hback =>
      obtain ⟨_, ⟨events, requests, log, rfl⟩, hact⟩ :=
        hidle.act_changeChain_of_route hfront (.inr rfl) hkept hfirst next
      rw [World.withdraw, hviewer, Option.join_some, hact]
      let told : World := { world with events := events, requests := requests, log := log }
      have hnode : told.viewer? viewer = some (some window) := hfront.viewer?_last
      have hlike : world.Likewise (told.setNext viewer next) :=
        ⟨rfl, rfl, fun other => by rw [trouble_setNext hnode]; rfl⟩
      have hspliced : (told.setNext viewer next).Route world.board.viewer
          (front ++ [viewer] ++ back) none :=
        Route.splice (hfront.of_windows_eq rfl) (hback.of_windows_eq rfl) hless.nodup
      exact ⟨_, rfl, ⟨hspliced, hlike.awake hless⟩, hlike⟩

/-- A viewer that leaves is gone from the chain. -/
theorem Chained.withdraw (h : world.Chained viewers) (hidle : world.Idle place)
    (hmem : window ∈ viewers) :
    ∃ later, world.withdraw place window = (.done (.flag true), later) ∧
      later.Chained (viewers.erase window) ∧ world.Likewise later := by
  obtain ⟨front, back, rfl⟩ := List.append_of_mem hmem
  have hkept : window ∉ front := fun hmem =>
    (List.nodup_append.1 h.awake.nodup).2.2 window hmem window List.mem_cons_self rfl
  rw [List.erase_append_right _ hkept, List.erase_cons_head]
  rcases List.eq_nil_or_concat' front with rfl | ⟨front, viewer, rfl⟩
  · exact h.withdraw_first hidle
  · exact h.withdraw_behind hidle

/-- A window that is not in the chain cannot be taken out of it: the last viewer says so, and
nothing changes. -/
theorem Chained.act_changeChain_of_not_mem (h : world.Chained viewers) (hidle : world.Idle place)
    (hviewers : viewers ≠ []) (hmem : window ∉ viewers) (next : Option WindowId) :
    ∃ later, world.Unaltered later ∧
      world.act (world.medium World.consult) place (.changeChain window next) =
        (.done (.flag false), later) := by
  obtain ⟨hroute, hawake⟩ := h
  rcases List.eq_nil_or_concat' viewers with rfl | ⟨front, viewer, rfl⟩
  · exact False.elim (hviewers rfl)
  · exact hidle.act_changeChain_of_route hroute (.inl rfl) hmem hawake next

/-- A notice that a viewer processes is sent to each of those behind it in turn. -/
theorem Chained.process_draw {rest : List WindowId}
    (h : world.Chained (front ++ viewer :: rest)) (owner : Option WindowId) :
    world.process (world.medium World.consult) viewer (.drawClipboard owner) =
      (.ok true, { world with
        events := world.events ++ rest.map fun behind =>
          .sent behind (.drawClipboard owner) none }) := by
  obtain ⟨hroute, hawake⟩ := h
  have hdepth : rest.length ≤ world.nesting := by
    have hlength := hroute.length_lt_nesting hawake.nodup
    rw [List.length_append, List.length_cons] at hlength
    omega
  have hlast : world.Awake (viewer :: rest) := hawake.sublist (List.sublist_append_right _ _)
  obtain ⟨_, _, hback⟩ := hroute.split
  cases hback with
  | cons hviewer hrest =>
      let busy := { world with handling := viewer :: world.handling }
      have hroute : busy.Route _ rest none := hrest.of_windows_eq rfl
      have hbusy : busy.Awake rest := hlast.tail rfl rfl
      have hpass := passDraw_of_route World.consult hroute hbusy hdepth owner
      rw [World.process_draw hviewer (hlast.free viewer List.mem_cons_self) hpass]
      simp only [List.erase_cons_head, busy]
      rfl

/-- Viewers that come and go keep the chain in order. -/
theorem Enrolment.chained (h : start.Enrolment viewers world) (hviewer : start.board.viewer = none)
    (hhandling : start.handling = []) : world.Chained viewers ∧ start.Likewise world := by
  induction h with
  | start =>
      refine ⟨⟨?_, List.nodup_nil, ?_, ?_⟩, rfl, rfl, fun _ => rfl⟩
      · rw [hviewer]
        exact .nil none
      · exact fun _ hmem => False.elim (List.not_mem_nil hmem)
      · exact fun _ hmem => False.elim (List.not_mem_nil hmem)
  | @join viewers world place window _ hidle hreachable hnew ih =>
      obtain ⟨hchained, hlike⟩ := ih
      -- Who is reachable and who is busy is the same as at the start.
      have hawake : world.Awake (window :: viewers) := by
        refine ⟨List.nodup_cons.2 ⟨hnew, hchained.awake.nodup⟩,
          List.forall_mem_cons.2 ⟨?_, hchained.awake.free⟩,
          List.forall_mem_cons.2 ⟨?_, hchained.awake.reachable⟩⟩
        · rw [hlike.handling, hhandling]
          exact List.not_mem_nil
        · rw [hlike.trouble, hreachable]
      obtain ⟨hlater, hsame⟩ := hchained.enrol (hlike.idle hidle) hawake
      exact ⟨hlater, hlike.trans hsame⟩
  | leave _ hidle hmem ih =>
      obtain ⟨hchained, hlike⟩ := ih
      obtain ⟨later, hleave, hlater, hsame⟩ := hchained.withdraw (hlike.idle hidle) hmem
      rw [hleave]
      exact ⟨hlater, hlike.trans hsame⟩

/-- Whenever viewers came and went, the nodes lead from the head of the chain past those that are
there, the latest first and each of them once, and end. Any of them may leave; a window that is not
there may not, and its leaving changes nothing. A notice that one of them processes is sent once to
each of those behind it, in the order of the chain, and none of them fails to process it: one that
the head processes comes to all viewers. -/
theorem viewers_in_chain (hviewer : start.board.viewer = none) (hhandling : start.handling = [])
    (h : start.Enrolment viewers world) :
    world.Route world.board.viewer viewers none ∧ world.Awake viewers ∧
      (∀ place window, start.Idle place → window ∈ viewers →
        (world.withdraw place window).1 = .done (.flag true)) ∧
      (∀ place window next, start.Idle place → viewers ≠ [] → window ∉ viewers →
        ∃ later, world.Unaltered later ∧
          world.act (world.medium World.consult) place (.changeChain window next) =
            (.done (.flag false), later)) ∧
      ∀ front viewer rest owner, viewers = front ++ viewer :: rest →
        world.process (world.medium World.consult) viewer (.drawClipboard owner) =
          (.ok true, { world with
            events := world.events ++ rest.map fun behind =>
              .sent behind (.drawClipboard owner) none }) := by
  obtain ⟨hchained, hlike⟩ := h.chained hviewer hhandling
  refine ⟨hchained.route, hchained.awake, ?_, ?_, ?_⟩
  · intro place window hidle hmem
    obtain ⟨later, hleave, -⟩ := hchained.withdraw (hlike.idle hidle) hmem
    rw [hleave]
  · intro place window next hidle hviewers hmem
    exact hchained.act_changeChain_of_not_mem (hlike.idle hidle) hviewers hmem next
  · rintro front viewer rest owner rfl
    exact hchained.process_draw owner

/-- Two clients have three windows join, and the second one leaves. -/
theorem second_of_three_leaves :
    let third : WindowId := ⟨30, by decide⟩
    let start := gathering .empty 2 []
    let crowd := ((start.enrol 0 firstWindow).enrol 1 secondWindow).enrol 0 third
    let world := (crowd.withdraw 1 secondWindow).2
    start.board.viewer = none ∧ start.handling = [] ∧ start.Enrolment [third, firstWindow] world ∧
      world.Route world.board.viewer [third, firstWindow] none ∧
      (world.withdraw 0 firstWindow).1 = .done (.flag true) ∧
      (∃ later, world.Unaltered later ∧
        world.act (world.medium World.consult) 1 (.changeChain secondWindow none) =
          (.done (.flag false), later)) ∧
      world.process (world.medium World.consult) third (.drawClipboard none) =
        (.ok true, { world with
          events := world.events ++ [.sent firstWindow (.drawClipboard none) none] }) := by
  intro third start crowd world
  have hidle : ∀ place < 2, start.Idle place := by
    intro place hplace
    exact ⟨_, by rw [member?, getElem?_members_gathering, if_pos hplace]; rfl, rfl⟩
  have hcrowd : start.Enrolment [third, secondWindow, firstWindow] crowd :=
    .join (.join (.join .start (hidle 0 (by decide)) rfl (by decide)) (hidle 1 (by decide)) rfl
      (by decide)) (hidle 0 (by decide)) rfl (by decide)
  have h : start.Enrolment [third, firstWindow] world :=
    hcrowd.leave (hidle 1 (by decide))
      (by decide : secondWindow ∈ [third, secondWindow, firstWindow])
  obtain ⟨hroute, -, hleave, hstay, hdraw⟩ := viewers_in_chain rfl rfl h
  exact ⟨rfl, rfl, h, hroute, hleave 0 firstWindow (hidle 0 (by decide)) (by decide),
    hstay 1 secondWindow none (hidle 1 (by decide)) (by decide) (by decide),
    hdraw [] third [firstWindow] none rfl⟩

end World

end Pasteboard
