import Pasteboard.Proofs.World.Coupling

/-!
# What comes out alike

A medium that weighs all bodies mirrors another medium if requests and messages come out alike in
both, from coupled worlds and as long as no body is over the limit. Then so does every step: see
`Medium.Mirrors.performAll`. It is enough to look at requests: see `Medium.mirrors_of_answers`.
-/

namespace Pasteboard

open World

variable {α β : Type} {base first second : World} {medium mirror : Medium} {place : Nat}

/-- Both come out with one value, which satisfies the goal, and in coupled worlds, unless the store
turned away from a client in the second one. -/
def Alike (base : World) (goal : α → Prop) (first second : α × World) : Prop :=
  second.2.Deserted ∨ first.1 = second.1 ∧ goal first.1 ∧ Coupled base first.2 second.2

/-- What goes on from results that agree agrees as well, if the store never turns back to
a client. -/
theorem Alike.bind {middle : α → Prop} {goal : β → Prop} {first second : α × World}
    (h : Alike base middle first second) (next other : α → World → β × World)
    (hdeserted : ∀ value world, world.Deserted → (other value world).2.Deserted)
    (hnext : ∀ value one two, middle value → Coupled base one two →
      Alike base goal (next value one) (other value two)) :
    Alike base goal (next first.1 first.2) (other second.1 second.2) := by
  rcases h with hsecond | ⟨hvalue, hmiddle, hcoupled⟩
  · exact .inl (hdeserted _ _ hsecond)
  · rw [← hvalue]
    exact hnext _ _ _ hmiddle hcoupled

/-- What is done alike with results that agree. -/
theorem Alike.finish {middle : α → Prop} {goal : β → Prop} {first second : α × World}
    (h : Alike base middle first second) (step : α → World → β × World)
    (hdeserted : ∀ value world, world.Deserted → (step value world).2.Deserted)
    (hstep : ∀ value one two, middle value → Coupled base one two →
      (step value one).1 = (step value two).1 ∧ goal (step value one).1 ∧
        Coupled base (step value one).2 (step value two).2) :
    Alike base goal (step first.1 first.2) (step second.1 second.2) :=
  h.bind step step hdeserted fun value one two hmiddle hcoupled =>
    .inr (hstep value one two hmiddle hcoupled)

/-- From coupled worlds, what one answer gives is what weighing gives. -/
def Answering.Mirrored (base : World) (answer : Answering) : Prop :=
  ∀ place request first second, Coupled base first second → base.Present place →
    request.Faithful →
    Alike base request.Settles (answer first place request) (weigh second place request)

/-- From coupled worlds, requests and messages come out alike in both media, the second of which
weighs all bodies. -/
structure Medium.Mirrors (base : World) (medium mirror : Medium) : Prop where
  weighs : mirror.answer = weigh
  answers : Answering.Mirrored base medium.answer
  sends : ∀ window message limit first second, Coupled base first second →
    Alike base (fun _ => True) (medium.send window message limit first)
      (mirror.send window message limit second)
  deserts : ∀ window message limit world, world.Deserted →
    (mirror.send window message limit world).2.Deserted

namespace Medium.Mirrors

variable (h : Mirrors base medium mirror) (hcoupled : Coupled base first second)

include h hcoupled

/-- A proper call comes out alike. -/
theorem run {call : Call α} {goal : α → Prop} (hcall : call.Proper goal)
    (hpresent : base.Present place) :
    Alike base goal (call.run medium place first) (call.run mirror place second) := by
  -- The worlds stay coupled from one thing that the call does to the next.
  induction call generalizing first second with
  | done value => exact .inr ⟨rfl, hcall, hcoupled⟩
  | ask request next ih =>
      have hanswer := h.answers place request first second hcoupled hpresent hcall.1
      rw [← h.weighs] at hanswer
      exact hanswer.bind (fun outcome world => (next outcome).run medium place world)
        (fun outcome world => (next outcome).run mirror place world)
        (fun outcome world hworld => hworld.run h.weighs h.deserts place (next outcome))
        fun outcome one two hsettles hlater => ih outcome hlater (hcall.2 outcome hsettles)
  | send window message limit next ih =>
      exact (h.sends window message limit first second hcoupled).bind
        (fun answer world => (next answer).run medium place world)
        (fun answer world => (next answer).run mirror place world)
        (fun answer world hworld => hworld.run h.weighs h.deserts place (next answer))
        fun answer one two _ hlater => ih answer hlater (hcall answer)
  | post window message next ih =>
      obtain ⟨houtcome, hlater⟩ := hcoupled.post window message
      have hrest := ih (first.post window message).1 hlater (hcall _)
      simp only [Call.run]
      rw [← houtcome]
      exact hrest
  | refresh next ih => exact ih (hcoupled.record trivial) hcall
  | note entry next ih => exact ih (hcoupled.note entry) hcall
  | read next ih =>
      have hrest := ih (first.client place) hcoupled (hcall _)
      have hfirst : ((first.member? place).map Member.client).getD (.fresh .standard .empty false) =
          first.client place := rfl
      have hsecond : ((second.member? place).map Member.client).getD
          (.fresh .standard .empty false) = first.client place := (hcoupled.client_eq place).symm
      simp only [Call.run, hfirst, hsecond]
      exact hrest
  | write client next ih => exact ih (hcoupled.setClient place client) hcall

omit h in
theorem occupied (window : WindowId) {work other : World → Except SendError α × World}
    (hwork : ∀ one two, Coupled base one two → Alike base (fun _ => True) (work one) (other two)) :
    Alike base (fun _ => True) (first.occupied window work) (second.occupied window other) := by
  unfold World.occupied
  rw [hcoupled.handling_eq]
  split
  · exact .inr ⟨rfl, trivial, hcoupled⟩
  · have hwithin := hwork _ _ (hcoupled.handling (window :: ·))
    rw [hcoupled.handling_eq] at hwithin
    exact hwithin.finish
      (fun result world => (result, { world with handling := world.handling.erase window }))
      (fun _ _ hworld => hworld.of_members_eq rfl hworld.allows)
      fun _ _ _ _ hlater => ⟨rfl, trivial, hlater.handling (·.erase window)⟩

theorem draw (window : WindowId) (next owner : Option WindowId) :
    Alike base (fun _ => True) (first.draw medium.send window next owner)
      (second.draw mirror.send window next owner) := by
  refine occupied hcoupled window fun one two hboth => ?_
  cases next with
  | none => exact .inr ⟨rfl, trivial, hboth⟩
  | some next =>
      exact (h.sends next (.drawClipboard owner) none one two hboth).finish
        (fun answer world => (answer.map fun _ => (), world)) (fun _ _ hworld => hworld)
        fun _ _ _ _ hlater => ⟨rfl, trivial, hlater⟩

theorem changeChain (window : WindowId) (successor : Option WindowId) (removed : WindowId)
    (next : Option WindowId) :
    Alike base (fun _ => True) (first.changeChain medium.send window successor removed next)
      (second.changeChain mirror.send window successor removed next) := by
  refine occupied hcoupled window fun one two hboth => ?_
  unfold passChange
  cases ChainReaction.of successor removed with
  | splice => exact .inr ⟨rfl, trivial, (hboth.note _).setNext window next⟩
  | forward successor => exact h.sends _ _ _ _ _ (hboth.note _)
  | unknown => exact .inr ⟨rfl, trivial, hboth⟩

/-- The windows process what was posted to them alike. -/
theorem pumpAll (posts : List (WindowId × Message)) :
    (second.pumpAll mirror posts).Deserted ∨
      Coupled base (first.pumpAll medium posts) (second.pumpAll mirror posts) := by
  induction posts generalizing first second with
  | nil => exact .inr hcoupled
  | cons post rest ih =>
      obtain ⟨window, message⟩ := post
      cases message with
      | drawClipboard owner =>
          simp only [World.pumpAll, hcoupled.viewer?_eq]
          cases second.viewer? window with
          | none => exact ih hcoupled
          | some next =>
              -- Once the store turned away from a client, the rest of the posts cannot mend it.
              rcases h.draw hcoupled window next owner with hdeserted | ⟨hresult, -, hlater⟩
              · have hrecorded := kept_deserted.weathered.record hdeserted
                exact .inl (kept_deserted.weathered.pumpAll h.deserts (hrecorded _) rest)
              · dsimp only
                rw [← hresult]
                exact ih (hlater.record trivial)
      | _ => exact ih hcoupled

/-- A client does a task alike. -/
theorem act (place : Nat) {task : Task} (hregular : task.Regular) :
    Alike base Outcome.Reached (first.act medium place task) (second.act mirror place task) := by
  have hstill := hcoupled.member?_still_eq place
  unfold World.act
  cases hfirst : first.member? place with
  | none =>
      have hsecond : second.member? place = none := by
        rwa [hfirst, Option.map_none, eq_comm, Option.map_eq_none_iff] at hstill
      simp only [hsecond]
      exact .inr ⟨rfl, trivial, hcoupled⟩
  | some member =>
      rw [hfirst, Option.map_some, eq_comm, Option.map_eq_some_iff] at hstill
      obtain ⟨other, hsecond, hother⟩ := hstill
      have hbusy : other.busy = member.busy := congrArg (fun member => member.busy) hother
      have hpresent : base.Present place := by
        rw [← hcoupled.present, Present, hfirst]
        rfl
      simp only [hsecond, hbusy]
      split
      · exact .inr ⟨rfl, trivial, hcoupled⟩
      · have hrun := h.run (hcoupled.setBusy place true) (task.proper_run hregular) hpresent
        exact hrun.finish
          (fun outcome world =>
            (outcome, world.updateMember place fun member => { member with busy := false }))
          (fun _ _ hworld => hworld.updateMember place fun _ hmember => hmember)
          fun _ _ _ hreached hlater => ⟨rfl, hreached, hlater.setBusy place false⟩

/-- A step of work comes out alike. -/
theorem perform {step : Step} (hstep : step.IsWork) :
    Alike base Outcome.Reached (first.perform medium step) (second.perform mirror step) := by
  cases step with
  | task place task => exact h.act hcoupled place hstep
  | board =>
      refine .inr ⟨?_, trivial, hcoupled⟩
      simp only [World.perform, hcoupled.board_eq]
  | pump =>
      have hpumped := h.pumpAll hcoupled.emptied first.posts
      simp only [World.perform, pump]
      rw [← hcoupled.posts_eq]
      exact hpumped.imp_right fun hlater => ⟨rfl, trivial, hlater⟩
  | tamper | fault | setWindow | disconnect => exact False.elim hstep

/-- Steps of work come out alike, and no operation fails because the store was not reached. -/
theorem performAll {steps : List Step} (hsteps : ∀ step ∈ steps, step.IsWork) :
    Alike base Outcome.AllReached (first.performAll medium steps)
      (second.performAll mirror steps) := by
  induction steps generalizing first second with
  | nil => exact .inr ⟨rfl, trivial, hcoupled⟩
  | cons step rest ih =>
      have hrest : ∀ other ∈ rest, other.IsWork :=
        fun other hmem => hsteps other (List.mem_cons_of_mem _ hmem)
      refine (h.perform hcoupled (hsteps step List.mem_cons_self)).bind
        (fun outcome world =>
          (outcome :: (world.performAll medium rest).1, (world.performAll medium rest).2))
        (fun outcome world =>
          (outcome :: (world.performAll mirror rest).1, (world.performAll mirror rest).2))
        (fun _ _ hworld => kept_deserted.weathered.performAll h.deserts h.weighs hworld hrest) ?_
      intro outcome one two hreached hlater
      exact (ih hlater hrest).finish (fun outcomes world => (outcome :: outcomes, world))
        (fun _ _ hworld => hworld) fun _ _ _ hall hlast => ⟨rfl, ⟨hreached, hall⟩, hlast⟩

/-- A window processes a message alike. -/
theorem process (window : WindowId) (message : Message) :
    Alike base (fun _ => True) (first.process medium window message)
      (second.process mirror window message) := by
  have hhandle : Alike base (fun _ => True) (first.handle medium window message)
      (second.handle mirror window message) := by
    unfold World.handle
    rw [← hcoupled.script_eq]
    cases hfind : (first.script window).handlers.find? (·.fits message) with
    | none =>
        simp only [hfind]
        exact .inr ⟨rfl, trivial, hcoupled⟩
    | some handler =>
        have hsteps : ∀ step ∈ handler.steps, step.IsWork :=
          hcoupled.allows.script window handler (List.mem_of_find?_eq_some hfind)
        simp only [hfind]
        exact (h.performAll hcoupled hsteps).finish
          (fun outcomes world => (Except.ok (handler.answer.getD (first.script window).answer),
            world.record (.handled window outcomes)))
          (fun _ _ hworld => kept_deserted.weathered.record hworld _)
          fun _ _ _ hall hlater => ⟨rfl, trivial, hlater.record hall⟩
  -- Viewers pass notices of the chain on by themselves; all else is up to the handlers.
  unfold World.process
  rw [← hcoupled.viewer?_eq]
  split
  · rename_i next owner _
    exact (h.draw hcoupled window next owner).finish
      (fun result world => (result.map fun _ => true, world)) (fun _ _ hworld => hworld)
      fun _ _ _ _ hlater => ⟨rfl, trivial, hlater⟩
  · exact h.changeChain hcoupled window _ _ _
  · exact hhandle

end Medium.Mirrors

/-- If answers come out as weighing them does, so do messages, however deep they are nested. -/
theorem Medium.mirrors_of_answers {answer : Answering} (hanswer : answer.Mirrored base)
    (depth : Nat) :
    Mirrors base ⟨answer, World.send answer depth⟩ ⟨weigh, World.send weigh depth⟩ := by
  -- Messages that are sent while one is processed are nested less deep.
  induction depth with
  | zero =>
      exact ⟨rfl, hanswer, fun _ _ _ _ _ hcoupled => .inr ⟨rfl, trivial, hcoupled⟩,
        kept_deserted.weathered.send 0⟩
  | succ depth ih =>
      refine ⟨rfl, hanswer, fun window message limit first second hcoupled => ?_,
        kept_deserted.weathered.send (depth + 1)⟩
      have hrecord : Coupled base (first.record (.sent window message limit))
          (second.record (.sent window message limit)) := hcoupled.record trivial
      simp only [World.send, hrecord.script_eq]
      cases ((second.record (.sent window message limit)).script window).trouble with
      | none => exact ih.process hrecord window message
      | some trouble => cases trouble <;> exact .inr ⟨rfl, trivial, hrecord⟩

end Pasteboard
