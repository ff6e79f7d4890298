import Pasteboard.Proofs.Client.Rendering
import Pasteboard.Proofs.Opening.OneSession
import Pasteboard.Proofs.Reading.Repetition
import Pasteboard.Proofs.World.Engaged

/-!
# A get does all or nothing

A client that is alone gets a format. If it does not derive the format, or if anything fails on the
way, the board and the client stay as they were, but for graphics objects that came along. Else the
format has an entry with the payload of the value that was got, and is not derived any more, and all
else stays as it was. See `World.get_all_or_nothing`.
-/

namespace Pasteboard

open Call World

namespace World

variable {place : Nat} {world now later : World} {board : Board} {client : Client}
  {told : List Event} {asked : List Request}

/-- While all clients are in the middle of a task, the client at the place looked around: the board
is this one, and the client is this one but for its graphics objects. -/
structure Unmoved (place : Nat) (board : Board) (client : Client) (now : World) : Prop where
  engaged : now.Engaged
  allows : now.Allows Step.Regular
  present : now.Present place
  board_eq : now.board = board
  client_eq : ∃ graphics, now.client place = { client with graphics := graphics }

namespace Unmoved

variable (h : now.Unmoved place board client)

include h

theorem evolves {graphics : Graphics}
    (hlater : now.Evolves place board { client with graphics := graphics } told asked later) :
    later.Unmoved place board client where
  engaged := h.engaged.evolves hlater
  allows := hlater.allows h.allows
  present := hlater.present_iff.2 h.present
  board_eq := hlater.board_eq
  client_eq := ⟨graphics, hlater.client_eq⟩

theorem start : ∃ graphics,
    now.Evolves place board { client with graphics := graphics } [] [] now := by
  obtain ⟨graphics, hclient⟩ := h.client_eq
  have hstart := Evolves.start h.present
  rw [h.board_eq, hclient] at hstart
  exact ⟨graphics, hstart⟩

theorem stirs (hstirs : now.Stirs later) (hengaged : later.Engaged)
    (hallows : later.Allows Step.Regular) : later.Unmoved place board client where
  engaged := hengaged
  allows := hallows
  present := (present_congr hstirs.members place).2 h.present
  board_eq := by rw [hstirs.board, h.board_eq]
  client_eq := by
    rw [client_congr hstirs.members]
    exact h.client_eq

end Unmoved

/-- Looking around changes nothing, as long as no entry is set to grow. -/
theorem tolerates_unmoved (hgrowth : board.growth = []) :
    Setting.engaged.Tolerates place (Unmoved place board client) where
  note now entry h := by
    obtain ⟨graphics, hstart⟩ := h.start
    exact h.evolves (hstart.note entry)
  reading now request hreading h := by
    obtain ⟨graphics, hstart⟩ := h.start
    have hlater := hstart.consult request
    rw [Board.handle_of_isReading hreading hgrowth] at hlater
    exact h.evolves hlater
  graphics now objects h := by
    obtain ⟨graphics, hstart⟩ := h.start
    rw [hstart.client_eq]
    exact h.evolves (hstart.setClient { client with graphics := objects })
  ready now h := ⟨h.engaged, h.allows⟩
  shift _ _ _ now later h hshift := h.stirs hshift.1 hshift.2.1 hshift.2.2

/-- The board is as it was, and so is the client at the place but for its graphics objects. -/
def Untouched (world : World) (place : Nat) (later : World) : Prop :=
  later.board = world.board ∧
    ∃ graphics, later.client place = { world.client place with graphics := graphics }

/-- A get of the format by the client at the place came to an outcome and left a world behind. -/
inductive GetLeaves (world : World) (place : Nat) (format : Format) : Outcome → World → Prop where
  | failed (error : ClientError) {later : World} :
      world.Untouched place later → GetLeaves world place format (.failed error) later
  | fetched (data : Data) (object : Option Object) {later : World} :
      (world.client place).sources.source? format = none → world.Untouched place later →
      GetLeaves world place format (.done (.data data object)) later
  /-- What was rendered from a source was put: the entry of the format is the payload of the value,
  and the board counts one change. The format is not derived any more, and the session of the client
  changed the contents. -/
  | rendered (data : Data) (object : Option Object) {source : Format} {payload : Bytes}
      {session : Session} {graphics : Graphics} {later : World} :
      (world.client place).sources.source? format = some source →
      (world.client place).session = some session →
      data.encode graphics format = .ok payload →
      later.board = { world.board with
        entries := world.board.entries.insert format payload
        sequence := world.board.sequence + 1 } →
      later.client place = { world.client place with
        graphics := graphics
        sources := (world.client place).sources.remove format
        session := some { session with changed := true } } →
      GetLeaves world place format (.done (.data data object)) later

variable {format source : Format} {outcome : Outcome}

/-- The end of the task is no change that counts. -/
theorem Unmoved.untouched (h : now.Unmoved place world.board (world.client place)) :
    world.Untouched place (now.setBusy place false) := by
  obtain ⟨graphics, hclient⟩ := h.client_eq
  exact ⟨h.board_eq, graphics, by rw [client_setBusy, hclient]⟩

end World

namespace Acting

variable {place : Nat} {world now : World} {format source : Format}

/-- What a get comes to while nobody else can do anything. The client has a session if the store has
one of it. -/
theorem ensures_get_all_or_nothing (h : now.Unmoved place world.board (world.client place))
    (hgrowth : world.board.growth = [])
    (hsession : world.board.isOpenBy (clientId place) = true →
      (world.client place).session.isSome = true) :
    (Task.get format).run.Ensures .engaged place
      (fun outcome later => world.GetLeaves place format outcome (later.setBusy place false))
      now := by
  have htolerates : Setting.engaged.Tolerates place
      (Unmoved place world.board (world.client place)) := tolerates_unmoved hgrowth
  obtain ⟨graphics, hstart⟩ := h.start
  rw [Task.run, Task.ensures_dataOutcome]
  cases hsource : (world.client place).sources.source? format with
  | none =>
      refine ensures_get_of_none hstart.client_eq hsource ?_
      refine (keeps_fetch htolerates format now h).mono fun result later hlater => ?_
      cases result with
      | ok data => exact .fetched data _ hsource hlater.untouched
      | error error => exact .failed error hlater.untouched
  | some source =>
      refine ensures_get_of_some hstart.client_eq hsource ?_
      cases hopen : world.board.isOpenBy (clientId place) with
      | false =>
          exact ensures_renderFrom_of_not_open rfl hstart hopen fun _ error later hlater =>
            .failed error (h.evolves hlater).untouched
      | true =>
          -- Nothing is changed before the result is put, so an error up to there is no change.
          obtain ⟨session, hsession⟩ := Option.isSome_iff_exists.1 (hsession hopen)
          rw [renderFrom_eq, ensures_acting_bind]
          refine (keeps_rendered htolerates format source now h).mono fun result later hlater => ?_
          cases result with
          | error error => exact .failed error hlater.untouched
          | ok data =>
              obtain ⟨graphics, hrendered⟩ := hlater.start
              simp only [ensures_acting_bind]
              refine ensures_put_or_fail rfl hrendered data
                (fun error _ refused hrefused => .failed error (hlater.evolves hrefused).untouched)
                fun payload _ stored hencode hstored => ?_
              refine .rendered data _ hsource hsession hencode hstored.board_eq ?_
              rw [client_setBusy, hstored.client_eq, Client.stored, Client.markChanged]
              simp only [hsession, Option.map_some]

end Acting

/-- Whatever a client that is alone on a board did before: if a get fails, for whatever reason, or
if the client did not derive the format, the board stays as it is and the client too, but for
graphics objects. Otherwise the entry of the format becomes the payload of the value that was got,
the board counts one change, the format is not derived any more and the session is marked as
changed. A get that has to cut rows of no bytes has no result in a program, see `Bytes.rows`, and
nothing is claimed of it. -/
theorem World.get_all_or_nothing {start world later : World} {format : Format} {outcome : Outcome}
    (hstart : start.AtRest 1) (hworld : start.Arises world) (hidle : world.Idle 0)
    (hgrowth : world.board.growth = []) (depth : Nat)
    (hget : world.act ⟨consult, send consult depth⟩ 0 (.get format) = (outcome, later)) :
    world.GetLeaves 0 format outcome later := by
  have hattuned := (lasting_attuned 1).of_arises hworld hstart.attuned
  have hunmoved : (world.setBusy 0 true).Unmoved 0 world.board (world.client 0) :=
    ⟨hattuned.complete.engaged, hattuned.allows, hidle.present.setBusy true, rfl,
      (world.client 0).graphics, client_setBusy world 0 0 true⟩
  have hsession : world.board.isOpenBy (clientId 0) = true →
      (world.client 0).session.isSome = true := by
    intro hopen
    rw [← hattuned.agrees] at hopen
    exact hopen
  have hdone := act_of_ensures (Setting.fits_engaged depth) hidle (.get format)
    (world.GetLeaves 0 format) (Acting.ensures_get_all_or_nothing hunmoved hgrowth hsession)
  rwa [hget] at hdone

/-- Narrow text is rendered from the wide text that the only client put before. -/
theorem World.narrow_text_got_at_once :
    (gathering .empty 1 []).AtRest 1 ∧ (gathering .empty 1 []).Arises reopened ∧
      reopened.Idle 0 ∧ reopened.board.growth = [] ∧
      ∃ later, reopened.act ⟨consult, send consult 1⟩ 0 (.get Format.text) =
          (.done (.data (.bytes [0x68]) none), later) ∧
        later.board.entries.find? Format.text = some [0x68] ∧
        reopened.GetLeaves 0 Format.text (.done (.data (.bytes [0x68]) none)) later := by
  have hstart : (gathering .empty 1 []).AtRest 1 := by
    refine ⟨⟨rfl, fun place hplace => present_gathering .empty _ hplace⟩, allows_gathering _ _ _,
      fun place => ?_, rfl⟩
    rw [client_gathering]
    rfl
  have hworld : (gathering .empty 1 []).Arises reopened := by
    refine Arises.start.after ?_
    simp [Step.Regular, Task.Regular]
  have hidle : reopened.Idle 0 := ⟨_, rfl, rfl⟩
  exact ⟨hstart, hworld, hidle, rfl, _, rfl, rfl,
    get_all_or_nothing hstart hworld hidle rfl 1 rfl⟩

end Pasteboard
