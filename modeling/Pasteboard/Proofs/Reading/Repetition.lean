import Pasteboard.Proofs.Deriving.LoneClient
import Pasteboard.Proofs.Deriving.Placeholders
import Pasteboard.Proofs.Reading.Answers

/-!
# Getting again

A single client gets formats in one session, in any order and as often as it likes. A format that is
rendered is put, so that it is fetched the next time, and other formats may be rendered in between;
still every get of a format shows the same: see `World.repeated_gets_agree`. The invariant is
`World.Faithful`: an entry is the one that was there when the first get was made, or one that shows
what the first get would have shown.
-/

namespace Pasteboard

open Call World

/-- The outcome without the number of the handle that a value came under. -/
def Outcome.nameless : Outcome → Outcome
  | done (.data data object) => done (.data data.nameless object)
  | failed error => failed error.nameless
  | outcome => outcome

/-- The outcome that shows a value. -/
def Outcome.ofSight : Except ClientError Sight → Outcome
  | .ok sight => done (.data sight.1 sight.2)
  | .error error => failed error.nameless

/-- No member of a family is for bitmaps of others or for palettes. -/
theorem Family.shape_of_mem_members {family : Family} {format : Format}
    (h : format ∈ family.members) : format ≠ Format.dspBitmap ∧ format.shape ≠ .palette := by
  have hall : ∀ family ∈ Family.all, ∀ format ∈ family.members,
      format ≠ Format.dspBitmap ∧ format.shape ≠ .palette := by decide
  exact hall family (by cases family <;> decide) format h

namespace World

variable {place : Nat} {base world now : World} {format : Format}

/-- The client at the place has its session open among inert windows. Its graphics table is honest,
it makes two attempts at least to get a payload, and packed bitmaps have short enough rows. -/
structure InSession (place : Nat) (world : World) : Prop where
  inert : world.Inert
  idle : world.Idle place
  opened : world.board.isOpenBy (clientId place) = true
  growth : world.board.growth = []
  retries : 2 ≤ (world.client place).settings.overflowRetries
  honest : (world.client place).graphics.Honest
  rows : ∀ format, format = Format.dib ∨ format = Format.dibV5 → ∀ payload dib,
    world.board.entries.find? format = some payload → DibHeader.parse? payload = some dib →
    BitmapHeader.rowBytes dib.width dib.bitCount < 2147483648

/-- The client gets formats one after another. -/
def getAll (world : World) (place : Nat) (formats : List Format) : List Outcome :=
  (world.performAll (world.medium consult) (formats.map fun format => .task place (.get format))).1

/-- Since the world `base` the client only got formats. Each entry is as it was, or it is that of a
format which was derivable, and shows what a get would have shown. -/
structure Faithful (place : Nat) (base world : World) : Prop where
  windows : world.windows = base.windows
  idle : world.Idle place
  owner : world.board.owner = base.board.owner
  opened : world.board.isOpenBy (clientId place) = true
  growth : world.board.growth = []
  settings : (world.client place).settings = (base.client place).settings
  honest : (world.client place).graphics.Honest
  known : ∀ format,
    (world.board.entries.find? format = base.board.entries.find? format ∧
      (world.client place).sources.source? format = (base.client place).sources.source? format) ∨
    ∃ source payload sight, (base.client place).sources.source? format = some source ∧
      world.board.entries.find? format = some payload ∧ payload ≠ [] ∧
      (world.client place).sources.source? format = none ∧
      base.obtained (base.client place) format = .ok sight ∧
      Data.decoded format payload = .ok sight

theorem InSession.faithful (h : world.InSession place) : world.Faithful place world :=
  ⟨rfl, h.idle, rfl, h.opened, h.growth, rfl, h.honest, fun _ => .inl ⟨rfl, rfl⟩⟩

namespace Faithful

variable (h : Faithful place base world)
  (hgrounds : base.board.Grounds (base.client place).sources)

include h

/-- What is derivable was so before. -/
theorem source?_eq {source : Format}
    (hsource : (world.client place).sources.source? format = some source) :
    (base.client place).sources.source? format = some source := by
  rcases h.known format with ⟨_, hsame⟩ | ⟨_, _, _, _, _, _, hnone, _⟩
  · rw [← hsame, hsource]
  · rw [hnone] at hsource
    cases hsource

/-- What was not derivable is as it was. -/
theorem payload_eq (hsource : (base.client place).sources.source? format = none) :
    world.payload format = base.payload format := by
  rcases h.known format with ⟨hentry, _⟩ | ⟨source, _, _, hderived, _⟩
  · exact payload_congr h.windows h.owner hentry
  · rw [hsource] at hderived
    cases hderived

include hgrounds

/-- A get shows what it would have shown before. -/
theorem obtained_eq (format : Format) :
    world.obtained (world.client place) format = base.obtained (base.client place) format := by
  rcases h.known format with ⟨hentry, hsource⟩ |
    ⟨source, payload, sight, _, hpayload, hne, hsource, hobtained, hdecoded⟩
  · unfold obtained
    rw [hsource]
    cases hderived : (base.client place).sources.source? format with
    | none =>
        simp only [fetched, h.payload_eq hderived]
    | some source =>
        -- Neither the source nor the locale is derived, so that no get has changed them.
        have hsupports := hgrounds format source hderived
        have hlocale : (base.client place).sources.source? Format.locale = none := by
          cases hspoken : (base.client place).sources.source? Format.locale with
          | none => rfl
          | some other =>
              obtain ⟨family, hmember, _⟩ := (hgrounds _ other hspoken).related
              exact False.elim ((Family.ne_of_mem_members hmember).2 rfl)
        simp only [rendering, fetched, h.payload_eq hsupports.original, textSettings, textLocale,
          h.payload_eq hlocale, h.settings]
  · have hfetched : world.payload format = .ok payload := by
      rw [World.payload, hpayload, Option.getD_some, if_neg hne]
    rw [hobtained]
    simp only [obtained, hsource]
    rw [fetched_of_ok hfetched, hdecoded]
    rfl

omit hgrounds in
/-- What leaves the board and the derivations alone keeps the answers. -/
theorem glance {graphics : Graphics} (hgrown : graphics.Honest)
    (hnow : world.Reaches place world.board { world.client place with graphics := graphics } now) :
    Faithful place base now := by
  obtain ⟨hwindows, told, asked, hevolves⟩ := hnow
  refine ⟨hwindows.trans h.windows, hevolves.idle h.idle, ?_, ?_, ?_, ?_, ?_, fun format => ?_⟩
  · rw [hevolves.board_eq, h.owner]
  · rw [hevolves.board_eq, h.opened]
  · rw [hevolves.board_eq, h.growth]
  · rw [hevolves.client_eq, h.settings]
  · rwa [hevolves.client_eq]
  · rw [hevolves.board_eq, hevolves.client_eq]
    exact h.known format

omit hgrounds in
/-- A format that was rendered and put shows what a get would have shown. -/
theorem put {source : Format} {payload : Bytes} {sight : Sight} {graphics : Graphics}
    (hgrown : graphics.Honest)
    (hsource : (world.client place).sources.source? format = some source)
    (hobtained : base.obtained (base.client place) format = .ok sight)
    (hdecoded : Data.decoded format payload = .ok sight) (hne : payload ≠ [])
    (hnow : world.Reaches place (world.board.stored format payload)
      (Client.stored { world.client place with graphics := graphics } format) now) :
    Faithful place base now := by
  obtain ⟨hwindows, told, asked, hevolves⟩ := hnow
  refine ⟨hwindows.trans h.windows, hevolves.idle h.idle, ?_, ?_, ?_, ?_, ?_, fun other => ?_⟩
  · rw [hevolves.board_eq]
    exact h.owner
  · rw [hevolves.board_eq]
    exact h.opened
  · rw [hevolves.board_eq]
    exact h.growth
  · rw [hevolves.client_eq]
    exact h.settings
  · rw [hevolves.client_eq]
    exact hgrown
  · have hentries : now.board.entries.find? other =
        if other = format then some payload else world.board.entries.find? other := by
      rw [hevolves.board_eq, Board.stored, Entries.find?_insert]
    have hsources : (now.client place).sources.source? other =
        if other = format then none else (world.client place).sources.source? other := by
      rw [hevolves.client_eq]
      exact Sources.source?_remove _ _ _
    rw [hentries, hsources]
    -- The format that was put is known by its payload from now on, the others as before.
    split
    · rename_i hother
      subst hother
      rcases h.known other with ⟨_, hderived⟩ | ⟨_, _, _, _, _, _, hnone, _⟩
      · exact .inr ⟨source, payload, sight, hderived.symm.trans hsource, rfl, hne, rfl, hobtained,
          hdecoded⟩
      · rw [hnone] at hsource
        cases hsource
    · exact h.known other

/-- What is derivable is neither for bitmaps of others nor for palettes. -/
theorem derivable {source : Format}
    (hsource : (world.client place).sources.source? format = some source) :
    format ≠ Format.null ∧ format ≠ Format.dspBitmap ∧ format.shape ≠ .palette := by
  obtain ⟨family, hmember, _⟩ := (hgrounds format source (h.source?_eq hsource)).related
  exact ⟨(Family.ne_of_mem_members hmember).1, Family.shape_of_mem_members hmember⟩

/-- A packed bitmap from which another format is rendered has short rows, as at first. -/
theorem rowBytes_lt (hbase : base.InSession place) {source : Format}
    (hsource : (world.client place).sources.source? format = some source)
    (hpacked : source = Format.dib ∨ source = Format.dibV5) {payload : Bytes} {dib : DibHeader}
    (hpayload : world.payload source = .ok payload)
    (hdib : DibHeader.parse? payload = some dib) :
    BitmapHeader.rowBytes dib.width dib.bitCount < 2147483648 := by
  have horiginal := (hgrounds format source (h.source?_eq hsource)).original
  have hbefore : base.payload source = .ok payload := (h.payload_eq horiginal).symm.trans hpayload
  exact hbase.rows source hpacked payload dib (find?_of_payload hbefore) hdib

/-- A get shows what it would have shown before, and so will all further gets. -/
theorem get (hbase : base.InSession place) {more : Nat}
    (hroom : (world.client place).graphics.Spares (2 + more)) (depth : Nat) (format : Format) :
    (world.act ⟨consult, send consult (depth + 1)⟩ place (.get format)).1.nameless =
        .ofSight (base.obtained (base.client place) format) ∧
      Faithful place base
        (world.act ⟨consult, send consult (depth + 1)⟩ place (.get format)).2 ∧
      ((world.act ⟨consult, send consult (depth + 1)⟩ place (.get format)).2.client
        place).graphics.Spares more := by
  refine act_of_ends _ h.idle (.get format)
    (fun outcome later => outcome.nameless = .ofSight (base.obtained (base.client place) format) ∧
      Faithful place base later ∧ (later.client place).graphics.Spares more) ?_
  rw [Task.run, Task.ends_dataOutcome]
  have hinert : (world.setBusy place true).Inert := hbase.inert.of_windows_eq h.windows
  have hretries : 2 ≤ (world.client place).settings.overflowRetries := by
    rw [h.settings]
    exact hbase.retries
  have htarget := fun source
      (hsource : (world.client place).sources.source? format = some source) =>
    h.derivable hgrounds hsource
  have hget := Acting.ends_get_of_inert h.idle.reaches hinert h.growth h.opened hretries h.honest
    (hroom.mono (Nat.le_add_right 2 more)) htarget
    (fun _ hsource hpacked _ _ hpayload hdib =>
      h.rowBytes_lt hgrounds hbase hsource hpacked hpayload hdib) depth
  -- What is to be expected now is what was to be expected of the first get.
  have hexpected : (world.setBusy place true).obtained (world.client place) format =
      base.obtained (base.client place) format := h.obtained_eq hgrounds format
  rw [hexpected] at hget
  refine hget.mono fun result later hcomes => ?_
  cases hcomes with
  | failed hfailed hsame hgrows hreached =>
      have hreached := h.idle.reached hreached
      refine ⟨?_, h.glance (hgrows.honest h.honest) hreached, ?_⟩
      · rw [hfailed]
        exact congrArg Outcome.failed hsame
      · rw [hreached.client_eq]
        exact hgrows.spares hroom
  | there hseen hgrows hreached =>
      have hended := h.idle.reached hreached
      refine ⟨?_, h.glance (hgrows.honest h.honest) hended, ?_⟩
      · rw [hseen, hreached.client_eq]
        rfl
      · rw [hended.client_eq]
        exact hgrows.spares hroom
  | put hsource hseen hgrows hne hdecoded hreached =>
      have hended := h.idle.reached hreached
      refine ⟨?_, h.put (hgrows.honest h.honest) hsource hseen hdecoded hne hended, ?_⟩
      · rw [hseen, hreached.client_eq]
        rfl
      · rw [hended.client_eq]
        exact hgrows.spares hroom

/-- All gets of a run show what they would have shown before. -/
theorem getAll (hbase : base.InSession place) {formats : List Format}
    (hroom : (world.client place).graphics.Spares (2 * formats.length)) (depth : Nat) :
    (world.performAll ⟨consult, send consult (depth + 1)⟩
        (formats.map fun format => .task place (.get format))).1.map Outcome.nameless =
      formats.map fun format => .ofSight (base.obtained (base.client place) format) := by
  induction formats generalizing world with
  | nil => rfl
  | cons format rest ih =>
      have hroom : (world.client place).graphics.Spares (2 + 2 * rest.length) := by
        rwa [List.length_cons, Nat.mul_add, Nat.add_comm] at hroom
      obtain ⟨hfirst, hfaithful, hspare⟩ := h.get hgrounds hbase hroom depth format
      simp only [List.map_cons, performAll, perform]
      rw [hfirst, ih hfaithful hspare]

end Faithful

/-- What is seen of a get is settled when the first one is made. -/
theorem InSession.getElem?_getAll (hworld : world.InSession place)
    (hgrounds : world.board.Grounds (world.client place).sources) {formats : List Format}
    (hroom : (world.client place).graphics.Spares (2 * formats.length)) {index : Nat}
    (hformat : formats[index]? = some format) :
    ∃ outcome, (world.getAll place formats)[index]? = some outcome ∧
      outcome.nameless = .ofSight (world.obtained (world.client place) format) := by
  have hall := hworld.faithful.getAll hgrounds hworld hroom
    (world.members.length + Step.stepsWindowCount (world.windows.map .setWindow))
  have hindex := congrArg (·[index]?) hall
  simp only [List.getElem?_map, hformat, Option.map_some] at hindex
  obtain ⟨outcome, houtcome, hsame⟩ := Option.map_eq_some_iff.1 hindex
  exact ⟨outcome, houtcome, hsame⟩

/-- A client that is alone on a board with any entries and began without derivations gets formats in
one session among inert windows. Whatever it gets otherwise, in any order and as often as it likes,
two gets of a format come out the same: with the same bytes, with equal objects behind whatever
handles, or with the same error. The table of objects must have two handles left for each get.
Nothing is claimed of bitmaps with rows of no bytes, which programs cannot cut: a get of one in
another form has no result, see `Bytes.rows`. -/
theorem repeated_gets_agree {start : World} (hstart : start.Lone place)
    (hempty : (start.client place).sources = .empty) (hworld : start.Arises world)
    (hsession : world.InSession place) {first second : List Format}
    (hfirst : (world.client place).graphics.Spares (2 * first.length))
    (hsecond : (world.client place).graphics.Spares (2 * second.length)) {i j : Nat}
    (hi : first[i]? = some format) (hj : second[j]? = some format) :
    ∃ outcome other, (world.getAll place first)[i]? = some outcome ∧
      (world.getAll place second)[j]? = some other ∧ outcome.nameless = other.nameless := by
  have hgrounded : start.Grounded place := by
    refine ⟨hstart, ?_⟩
    rw [hempty]
    exact start.board.grounds_empty
  have hgrounds := ((lasting_grounded place).of_arises hworld hgrounded).grounds
  obtain ⟨outcome, houtcome, hseen⟩ := hsession.getElem?_getAll hgrounds hfirst hi
  obtain ⟨other, hother, hsame⟩ := hsession.getElem?_getAll hgrounds hsecond hj
  exact ⟨outcome, other, houtcome, hother, hseen.trans hsame.symm⟩

/-- The only client put wide text and has opened the clipboard again. -/
def reopened : World :=
  (gathering .empty 1 []).after
    [.task 0 (.openSession (some firstWindow)), .task 0 (.claim (some firstWindow)),
      .task 0 (.put Format.unicodeText (.bytes [0x68, 0])), .task 0 .closeSession,
      .task 0 (.openSession none)]

/-- Narrow text that is rendered and then fetched is the letter that was put, and the same as if the
text of the other narrow page is rendered first. -/
theorem narrow_text_got_twice :
    (gathering .empty 1 []).Arises reopened ∧ reopened.InSession 0 ∧
      ∃ outcome other, (reopened.getAll 0 [Format.text, Format.text])[1]? = some outcome ∧
        (reopened.getAll 0 [Format.oemText, Format.text])[1]? = some other ∧
        outcome.nameless = other.nameless ∧ outcome = .done (.data (.bytes [0x68]) none) := by
  have hstart : (gathering .empty 1 []).Lone 0 := by
    refine ⟨rfl, fun other hother => ?_, allows_gathering _ _ _, fun hsome => ?_⟩
    · cases other with
      | zero => rfl
      | succ other => cases hother
    · cases hsome
  have hworld : (gathering .empty 1 []).Arises reopened := by
    refine Arises.start.after ?_
    simp [Step.Regular, Task.Regular]
  have hsession : reopened.InSession 0 := by
    have hclient : (reopened.client 0).graphics = .empty := rfl
    refine ⟨?_, ⟨_, rfl, rfl⟩, rfl, rfl, by decide +kernel, ?_, ?_⟩
    · intro script hscript
      cases hscript
    · exact ⟨rfl, rfl⟩
    · rintro format (rfl | rfl) payload dib hfind _ <;> cases hfind
  have hspare : (reopened.client 0).graphics.Spares (2 * 2) := by
    unfold Graphics.Spares
    decide +kernel
  have hroom (format : Format) :
      (reopened.client 0).graphics.Spares (2 * [format, Format.text].length) := hspare
  have hfirst : [Format.text, Format.text][1]? = some Format.text := rfl
  have hsecond : [Format.oemText, Format.text][1]? = some Format.text := rfl
  have hgot : (reopened.getAll 0 [Format.text, Format.text])[1]? =
      some (.done (.data (.bytes [0x68]) none)) := rfl
  obtain ⟨outcome, other, houtcome, hother, hsame⟩ :=
    repeated_gets_agree hstart rfl hworld hsession (hroom _) (hroom _) hfirst hsecond
  exact ⟨hworld, hsession, outcome, other, houtcome, hother, hsame,
    Option.some.inj (houtcome.symm.trans hgot)⟩

end World

end Pasteboard
