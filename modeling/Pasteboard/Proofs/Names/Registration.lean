import Pasteboard.Proofs.Call.Ends
import Pasteboard.Proofs.Names.Registry
import Pasteboard.Proofs.World.Interleaving

/-!
# Formats registered by name

Any number of clients register names for formats while they, and others, do whatever else they like
with the board. A `World.Course` keeps a record of the registrations that succeed. The main theorem,
`World.formats_stand_for_names`, says that at every point the answers depend on this record alone:
names and formats correspond one to one up to case, a format keeps its first spelling, and only a
new name can be refused, once the range of formats is used up.
-/

namespace Pasteboard

open Call

/-- The history after a request: a registration counts if the store gives a format. -/
def Registry.after (registry : Registry) : Request → Except StoreError Reply → Registry
  | .registerFormat name, .ok (.format format) => registry ++ [(name, format)]
  | _, _ => registry

theorem Registry.after_of_ne {registry : Registry} {request : Request}
    (h : ∀ name, request ≠ .registerFormat name) (reply : Except StoreError Reply) :
    registry.after request reply = registry := by
  unfold after
  split
  · exact False.elim (h _ rfl)
  · rfl

namespace World

/-- From the first world, in which nothing is on record yet, the board came to this world, and these
registrations succeeded on the way. Clients ask the store for anything and go away, and all else
happens aside from the board. -/
inductive Course (start : World) : Registry → World → Prop where
  | start : Course start [] start
  | ask {registry : Registry} {world : World} (place : Nat) (request : Request) :
      Course start registry world →
      Course start (registry.after request (world.consult place request).1)
        (world.consult place request).2
  | leaves {registry : Registry} {world : World} (place : Nat) :
      Course start registry world → Course start registry (world.disconnect place).2
  | aside {registry : Registry} {world later : World} :
      Course start registry world → later.board = world.board → Course start registry later

theorem disconnect_names (world : World) (place : Nat) :
    (world.disconnect place).2.board.names = world.board.names := by
  unfold disconnect
  split
  · rfl
  · split <;> rfl

/-- A request keeps the names of the store in accord with the history. -/
theorem listedBy_consult {registry : Registry} {world : World}
    (h : registry.ListedBy world.board.names) (place : Nat) (request : Request) :
    (registry.after request (world.consult place request).1).ListedBy
      (world.consult place request).2.board.names := by
  by_cases hregister : ∃ name, request = .registerFormat name
  · obtain ⟨name, rfl⟩ := hregister
    show (registry.after (.registerFormat name)
        (world.board.registerFormat name).1.outcome).ListedBy
      (world.board.registerFormat name).2.names
    rcases world.board.registerFormat_cases name with
      ⟨index, hfind, hreply⟩ | ⟨hfind, hroom, hreply⟩ | ⟨hfind, hfull, hreply⟩
    · rw [hreply]
      exact h.again hfind
    · rw [hreply]
      exact h.grow hfind hroom
    · rw [hreply]
      exact h
  · have hother : ∀ name, request ≠ .registerFormat name :=
      fun name heq => hregister ⟨name, heq⟩
    rw [Registry.after_of_ne hother]
    show registry.ListedBy (world.board.handle (clientId place) request).2.names
    rw [Board.handle_names hother]
    exact h

namespace Course

variable {start world : World} {registry : Registry} {medium : Medium} {place : Nat}

/-- The names of the store are in accord with the history all the way. -/
theorem listedBy (hstart : start.board.names = []) (h : Course start registry world) :
    registry.ListedBy world.board.names := by
  induction h with
  | start =>
      rw [hstart]
      exact Registry.listedBy_nil
  | ask place request _ ih => exact listedBy_consult ih place request
  | leaves place _ ih =>
      rw [disconnect_names]
      exact ih
  | aside _ hboard ih =>
      rw [hboard]
      exact ih

/-- A client that registers a name goes on with the course, which keeps the registration if it
succeeds. -/
theorem register (hanswer : medium.answer = consult) (h : Course start registry world)
    (place : Nat) (name : String) :
    Course start
      (registry.add name ((Acting.registerFormat name).run.run medium place world).1)
      ((Acting.registerFormat name).run.run medium place world).2 := by
  show (Acting.registerFormat name).run.Ends medium place
    (fun result later => Course start (registry.add name result) later) world
  unfold Acting.registerFormat
  split
  · exact h
  · have hask := h.ask place (.registerFormat name)
    simp only [Ask.format, ends_acting_bind, ends_ofAsking, ends_expect, hanswer]
    cases hreply : (world.consult place (.registerFormat name)).1 with
    | error cause =>
        rw [hreply] at hask
        exact hask
    | ok reply =>
        rw [hreply] at hask
        -- Only a format counts as an answer, to the client and for the record.
        cases reply with
        | format format => exact hask.aside (Stirs.note _ _).board
        | _ => exact hask

/-- A client that asks for the name of a format goes on with the course. -/
theorem name (hanswer : medium.answer = consult) (h : Course start registry world) (place : Nat)
    (format : Format) :
    Course start registry ((Acting.formatName format).run.run medium place world).2 := by
  show (Acting.formatName format).run.Ends medium place
    (fun _ later => Course start registry later) world
  unfold Acting.formatName
  split
  · simp only [Ask.formatName, ends_ofAsking, ends_expect, hanswer]
    exact h.ask place (.formatName format)
  · exact h

/-- Whatever a client does, the course goes on through it if it goes on through the messages that
the client waits for. -/
theorem ensures {α : Type} {base : Registry} (place : Nat) (call : Call α)
    (h : world.Allows Step.Regular ∧ ∃ more, Course start (base ++ more) world) :
    call.Ensures
      (.keeping consult fun later =>
        later.Allows Step.Regular ∧ ∃ more, Course start (base ++ more) later)
      place
      (fun _ later => later.Allows Step.Regular ∧ ∃ more, Course start (base ++ more) later)
      world := by
  induction call generalizing world with
  | done => exact h
  | ask request next ih =>
      obtain ⟨hallows, more, hcourse⟩ := h
      refine ih _ ⟨hallows, ?_⟩
      have hask := hcourse.ask place request
      unfold Registry.after at hask
      split at hask
      · rw [List.append_assoc] at hask
        exact ⟨_, hask⟩
      · exact ⟨more, hask⟩
  -- What goes on while the client waits is a course by the setting.
  | send window message limit next ih => exact ⟨h, fun answer later hlater => ih answer hlater⟩
  | post window message next ih =>
      obtain ⟨hallows, more, hcourse⟩ := h
      refine ih _ ⟨?_, more, hcourse.aside ?_⟩
      · refine hallows.of_windows_eq ?_
        simp only [World.post]
        split <;> rfl
      · simp only [World.post]
        split <;> rfl
  | refresh next ih => exact ih ⟨h.1, h.2.imp fun _ hcourse => hcourse.aside rfl⟩
  | note entry next ih =>
      refine ih ⟨h.1.of_windows_eq (note_windows world entry), ?_⟩
      exact h.2.imp fun _ hcourse => hcourse.aside (Stirs.note world entry).board
  | read next ih => exact ih _ h
  | write client next ih => exact ih ⟨h.1, h.2.imp fun _ hcourse => hcourse.aside rfl⟩

/-- Whatever comes about among clients at their tasks, in whatever order and also in the middle of
messages, continues the course. -/
theorem of_arises {later : World} (h : Course start registry world)
    (hallows : world.Allows Step.Regular) (harises : Arises world later) :
    ∃ more, Course start (registry ++ more) later := by
  have hlasting : Lasting fun now =>
      now.Allows Step.Regular ∧ ∃ more, Course start (registry ++ more) now :=
    { allows := fun _ h => h.1
      stirs := fun _ _ h hstirs hallows =>
        ⟨hallows, h.2.imp fun _ hcourse => hcourse.aside hstirs.board⟩
      busy := fun _ _ _ h => ⟨h.1, h.2.imp fun _ hcourse => hcourse.aside rfl⟩
      task := fun place task _ _ h _ => ensures place task.run h }
  exact (hlasting.of_arises harises ⟨hallows, [], by rwa [List.append_nil]⟩).2

end Course

variable {start world : World} {registry : Registry} {medium : Medium}

/-- What a client gets when it registers a name can be read off the history. -/
theorem ends_registerFormat (hanswer : medium.answer = consult)
    (h : registry.ListedBy world.board.names) (place : Nat) (name : String) :
    (Acting.registerFormat name).run.Ends medium place (fun result later =>
      result = registry.outcome name ∧
        ∀ error, result = .error error → later.board = world.board) world := by
  unfold Acting.registerFormat Registry.outcome
  split
  · exact ⟨rfl, fun _ _ => rfl⟩
  · rename_i hname
    have hreply : (world.consult place (.registerFormat name)).1 =
        (world.board.registerFormat name).1.outcome := rfl
    have hlater : (world.consult place (.registerFormat name)).2.board =
        (world.board.registerFormat name).2 := rfl
    simp only [Ask.format, ends_acting_bind, ends_ofAsking, ends_expect, hanswer, hreply,
      h.format?_eq, h.distinct_eq]
    rcases world.board.registerFormat_cases name with
      ⟨index, hfind, hregister⟩ | ⟨hfind, hroom, hregister⟩ | ⟨hfind, hfull, hregister⟩
    · rw [hregister, hfind]
      exact ⟨rfl, fun _ herror => by cases herror⟩
    · rw [hregister, hfind, Option.map_none, if_pos hroom]
      exact ⟨rfl, fun _ herror => by cases herror⟩
    · rw [hregister] at hlater
      rw [hregister, hfind, Option.map_none, if_neg (Nat.not_lt.2 hfull)]
      exact ⟨rfl, fun _ _ => hlater⟩

/-- What a client gets when it asks for the name of a format is its first spelling on record. -/
theorem ends_formatName (hanswer : medium.answer = consult)
    (h : registry.ListedBy world.board.names) (place : Nat) (format : Format) :
    (Acting.formatName format).run.Ends medium place
      (fun result _ => result = .ok (registry.spelling? format)) world := by
  rw [h.spelling?_eq rfl format]
  unfold Acting.formatName
  split
  · simp only [Ask.formatName, ends_ofAsking, ends_expect, hanswer]
    rfl
  · rename_i hregistered
    rw [Board.formatName, if_neg hregistered]
    rfl

/-- In every course of events, any two registrations that succeeded gave the same format if and only
if their names are the same up to case, and every format given lies in the range set aside for
names. A client that asks for the name of a format gets the first name it was given for, and no name
if it was not given. A registration succeeds for a name that has a format, and for a new one if the
range is not used up; else it changes nothing. Either way the course goes on. -/
theorem formats_stand_for_names (hanswer : medium.answer = consult)
    (hstart : start.board.names = []) (h : Course start registry world) :
    (∀ first ∈ registry, first.2.isRegistered = true ∧
      ∀ second ∈ registry, first.2 = second.2 ↔ sameName first.1 second.1 = true) ∧
    (∀ place format, ∃ later,
      (Acting.formatName format).run.run medium place world =
        (.ok (registry.spelling? format), later) ∧
      Course start registry later) ∧
    ∀ place name, ∃ later,
      (Acting.registerFormat name).run.run medium place world = (registry.outcome name, later) ∧
      Course start (registry.add name (registry.outcome name)) later ∧
      ∀ error, registry.outcome name = .error error → later.board = world.board := by
  have hlisted := h.listedBy hstart
  refine ⟨?_, ?_, ?_⟩
  · intro first hfirst
    exact ⟨hlisted.isRegistered hfirst, fun second hsecond => hlisted.format_eq_iff hfirst hsecond⟩
  · intro place format
    refine ⟨_, Prod.ext (ends_formatName hanswer hlisted place format) rfl, ?_⟩
    exact h.name hanswer place format
  · intro place name
    obtain ⟨hresult, hboard⟩ := ends_registerFormat hanswer hlisted place name
    have hcourse := h.register hanswer place name
    rw [hresult] at hcourse hboard
    exact ⟨_, Prod.ext hresult rfl, hcourse, hboard⟩

/-- Two clients register a name, the second one in capitals. The format keeps the first spelling,
and a third name gets the next format. -/
theorem rich_text_registered_twice :
    let start := gathering Board.empty 2 []
    let medium := start.medium consult
    start.board.names = [] ∧ ∃ world,
      Course start [("Rich Text", ⟨0xc000⟩), ("RICH TEXT", ⟨0xc000⟩)] world ∧
      ((Acting.formatName ⟨0xc000⟩).run.run medium 1 world).1 = .ok (some "Rich Text") ∧
      ((Acting.registerFormat "Ink").run.run medium 0 world).1 = .ok ⟨0xc001⟩ := by
  intro start medium
  have hanswer : medium.answer = consult := rfl
  have hstart : start.board.names = [] := rfl
  obtain ⟨-, -, hfirst⟩ := formats_stand_for_names hanswer hstart .start
  obtain ⟨middle, -, hmiddle, -⟩ := hfirst 0 "Rich Text"
  have hname : Registry.outcome [] "Rich Text" = .ok ⟨0xc000⟩ := by decide
  rw [hname] at hmiddle
  obtain ⟨-, -, hsecond⟩ := formats_stand_for_names hanswer hstart hmiddle
  obtain ⟨world, -, hworld, -⟩ := hsecond 1 "RICH TEXT"
  have hcapitals : Registry.outcome (Registry.add [] "Rich Text" (.ok ⟨0xc000⟩)) "RICH TEXT" =
      .ok ⟨0xc000⟩ := by decide
  rw [hcapitals] at hworld
  obtain ⟨-, hspelling, hthird⟩ := formats_stand_for_names hanswer hstart hworld
  refine ⟨hstart, world, hworld, ?_, ?_⟩
  · have hspelled : Registry.spelling? [("Rich Text", ⟨0xc000⟩), ("RICH TEXT", ⟨0xc000⟩)] ⟨0xc000⟩ =
        some "Rich Text" := by decide
    obtain ⟨later, hrun, -⟩ := hspelling 1 ⟨0xc000⟩
    rw [hrun]
    exact congrArg Except.ok hspelled
  · have hink : Registry.outcome [("Rich Text", ⟨0xc000⟩), ("RICH TEXT", ⟨0xc000⟩)] "Ink" =
        .ok ⟨0xc001⟩ := by decide
    obtain ⟨later, hrun, -⟩ := hthird 0 "Ink"
    rw [hrun]
    exact hink

end World

end Pasteboard
