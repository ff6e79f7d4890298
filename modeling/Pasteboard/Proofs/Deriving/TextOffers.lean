import Pasteboard.Proofs.Client.Idle
import Pasteboard.Proofs.Client.Rendering
import Pasteboard.Proofs.Text.Conversion

/-!
# Text that is offered in other formats

There is text in one format on the board, with a locale. In the other text formats it is derivable,
or it has been derived already: `TextOffer.Stands`. Whatever is got in an open session among inert
windows leaves it at that, and text that is got is converted as the locale says: see
`World.Serves.get`.
-/

namespace Pasteboard

open Call World

/-- How text is read if this payload is the locale. -/
def Settings.reading (settings : Settings) (locale : Bytes) : TextSettings :=
  ⟨((Bytes.u32? locale).map (·.1)).getD settings.defaultLocale, settings.defaultPages⟩

/-- The locale that stands beside text after this one was put, or none: an empty one is refused, and
the default one is stored for want of another. -/
def Settings.kept (settings : Settings) (locale : Option Bytes) : Bytes :=
  (locale.filter (· ≠ [])).getD (Bytes.ofU32 settings.defaultLocale)

theorem Settings.kept_ne_nil (settings : Settings) (locale : Option Bytes) :
    settings.kept locale ≠ [] := by
  have hdefault : Bytes.ofU32 settings.defaultLocale ≠ [] := by
    rw [← List.length_pos_iff, Bytes.length_ofU32]
    decide
  cases hfilter : locale.filter (· ≠ []) with
  | none => rwa [kept, hfilter, Option.getD_none]
  | some payload =>
      rw [kept, hfilter, Option.getD_some]
      simpa using (Option.filter_eq_some_iff.1 hfilter).2

/-- It makes no difference to how text is read that the default locale is stored. -/
theorem Settings.reading_kept (settings : Settings) (locale : Option Bytes) :
    settings.reading (settings.kept locale) = settings.reading (locale.getD []) := by
  have hread := Bytes.u32?_ofU32 settings.defaultLocale []
  rw [List.append_nil] at hread
  have hdefault :
      settings.reading (Bytes.ofU32 settings.defaultLocale) = settings.reading [] := by
    rw [reading, hread]
    rfl
  cases locale with
  | none => exact hdefault
  | some payload =>
      by_cases hempty : payload = []
      · rw [hempty]
        exact hdefault
      · rw [kept, Option.filter_some, if_pos (by simpa using hempty), Option.getD_some,
          Option.getD_some]

/-- Some text that a client with these settings put, and the locale that goes with it. -/
structure TextOffer where
  settings : Settings
  source : Format
  text : Bytes
  locale : Bytes
  isText : source ∈ Family.text.members
  holdsText : source.HoldsText text
  located : locale ≠ []
  retries : 2 ≤ settings.overflowRetries

theorem Family.shape_of_mem_text {format : Format} (h : format ∈ Family.text.members) :
    format.shape = .memory ∧ format.family? = some .text := by
  have hall : ∀ format ∈ Family.text.members,
      format.shape = .memory ∧ format.family? = some .text := by decide
  exact hall format h

namespace TextOffer

variable {offer : TextOffer} {place : Nat} {world now : World} {board : Board} {client : Client}
  {told : List Event} {asked : List Request} {target format : Format}

/-- The text in another format. -/
def result (offer : TextOffer) (target : Format) : Bytes :=
  (offer.settings.reading offer.locale).converted target offer.source offer.text

/-- The text and its locale are on the board. In every other text format it is derivable, or it was
put there. -/
structure Stands (offer : TextOffer) (board : Board) (client : Client) : Prop where
  growth : board.growth = []
  settings_eq : client.settings = offer.settings
  found : board.entries.find? offer.source = some offer.text
  localeFound : board.entries.find? Format.locale = some offer.locale
  targets : ∀ target ∈ Family.text.members, target ≠ offer.source →
    client.sources.source? target = some offer.source ∨
      client.sources.source? target = none ∧ (offer.result target).length < 4294967296 ∧
        board.entries.find? target = some (offer.result target)
  derived : ∀ target source, client.sources.source? target = some source →
    target ∈ Family.text.members ∧ target ≠ offer.source ∧ source = offer.source

/-- The text was got in another format and is stored there, not derived any more. If it is too large
for a payload, the get failed. -/
structure Gives (offer : TextOffer) (target : Format) (outcome : Outcome) (board : Board)
    (client : Client) : Prop where
  got : (offer.result target).length < 4294967296 →
    outcome = .done (.data (.bytes (offer.result target)) none) ∧
      board.entries.find? target = some (offer.result target) ∧
      client.sources.source? target = none
  refused : 4294967296 ≤ (offer.result target).length →
    outcome = .failed (.payload target (.tooLarge (offer.result target).length))

theorem Stands.two_le_retries (h : offer.Stands board client) :
    2 ≤ client.settings.overflowRetries := by
  rw [h.settings_eq]
  exact offer.retries

/-- Only the entries, the settings and the derivations matter. -/
theorem Stands.congr (h : offer.Stands board client) {board' : Board} {client' : Client}
    (hgrowth : board'.growth = board.growth) (hentries : board'.entries = board.entries)
    (hsettings : client'.settings = client.settings) (hsources : client'.sources = client.sources) :
    offer.Stands board' client' := by
  refine ⟨hgrowth.trans h.growth, hsettings.trans h.settings_eq, ?_, ?_, ?_, ?_⟩
  all_goals
    simp only [hentries, hsources]
  · exact h.found
  · exact h.localeFound
  · exact h.targets
  · exact h.derived

/-- The text may be stored in any format that it is derivable in. -/
theorem Stands.stored (h : offer.Stands board client) (htarget : target ∈ Family.text.members)
    (hne : target ≠ offer.source) (hroom : (offer.result target).length < 4294967296) :
    offer.Stands (board.stored target (offer.result target)) (client.stored target) where
  growth := h.growth
  settings_eq := h.settings_eq
  found := by rw [Board.stored, Entries.find?_insert, if_neg hne.symm, h.found]
  localeFound := by
    rw [Board.stored, Entries.find?_insert, if_neg (Family.ne_of_mem_members htarget).2.symm,
      h.localeFound]
  targets other hother hdifferent := by
    have hsources := Sources.source?_remove client.sources target other
    rw [Board.stored, Entries.find?_insert]
    -- The target holds the result now; for the others nothing changed.
    by_cases hsame : other = target
    · rw [if_pos hsame] at hsources
      rw [if_pos hsame, hsame]
      exact .inr ⟨hsame ▸ hsources, hroom, rfl⟩
    · rw [if_neg hsame] at hsources
      rw [if_neg hsame]
      rcases h.targets other hother hdifferent with hderived | ⟨hnone, hfound⟩
      · exact .inl (hsources.trans hderived)
      · exact .inr ⟨hsources.trans hnone, hfound⟩
  derived other source hsource := by
    have hbefore : (client.sources.remove target).source? other = some source := hsource
    rw [Sources.source?_remove] at hbefore
    split at hbefore
    · cases hbefore
    · exact h.derived other source hbefore

theorem gives_of_find? (hfound : board.entries.find? target = some (offer.result target))
    (hsource : client.sources.source? target = none)
    (hroom : (offer.result target).length < 4294967296) :
    offer.Gives target (.done (.data (.bytes (offer.result target)) none)) board client where
  got _ := ⟨rfl, hfound, hsource⟩
  refused hlong := absurd hroom (Nat.not_lt.2 hlong)

theorem gives_stored (hroom : (offer.result target).length < 4294967296) :
    offer.Gives target (.done (.data (.bytes (offer.result target)) none))
      (board.stored target (offer.result target)) (client.stored target) := by
  have hsources := Sources.source?_remove client.sources target target
  rw [if_pos rfl] at hsources
  exact gives_of_find? (by rw [Board.stored, Entries.find?_insert, if_pos rfl]) hsources hroom

theorem gives_refused (hlong : 4294967296 ≤ (offer.result target).length) :
    offer.Gives target (.failed (.payload target (.tooLarge (offer.result target).length))) board
      client where
  got hroom := absurd hroom (Nat.not_lt.2 hlong)
  refused _ := rfl

/-- After a get in an open session the offer stands, and text was got as it was offered. -/
structure Served (offer : TextOffer) (place : Nat) (format : Format) (outcome : Outcome)
    (board : Board) (client : Client) : Prop where
  opened : board.isOpenBy (clientId place) = true
  stands : offer.Stands board client
  gives : format ∈ Family.text.members → format ≠ offer.source →
    offer.Gives format outcome board client

end TextOffer

namespace Acting

variable {setting : Setting} {place : Nat} {world now : World} {board : Board} {client : Client}
  {told : List Event} {asked : List Request} {target : Format} {offer : TextOffer}

/-- Text is read as the locale on the board says. -/
theorem ensures_textSettings_of_stands (hanswer : setting.answer = consult)
    (h : world.Evolves place board client told asked now) (hstands : offer.Stands board client)
    (hopen : board.isOpenBy (clientId place) = true) (htarget : target ∈ Family.text.members)
    {goal : TextSettings → World → Prop}
    (hgoal : ∀ asked' later, world.Evolves place board client told asked' later →
      goal (offer.settings.reading offer.locale) later) :
    (textSettings target).Ensures setting place goal now := by
  simp only [textSettings, locale, ensures_bind, ensures_client, h.client_eq,
    (Family.shape_of_mem_text htarget).2, if_true]
  refine ensures_fetchBytes_of_find? hanswer h hstands.growth hopen hstands.localeFound
    offer.located hstands.two_le_retries fun asked' later hlater => ?_
  have hread := hgoal asked' later hlater
  rwa [← hstands.settings_eq] at hread

/-- Text that is derivable is converted and stored, unless the result is too large. -/
theorem ensures_renderFrom_of_stands (hanswer : setting.answer = consult)
    (h : world.Evolves place board client told asked now) (hstands : offer.Stands board client)
    (hopen : board.isOpenBy (clientId place) = true) (htarget : target ∈ Family.text.members)
    (hne : target ≠ offer.source) {goal : Except ClientError Data → World → Prop}
    (hrefused : 4294967296 ≤ (offer.result target).length → ∀ asked' later,
      world.Evolves place board client told asked' later →
      goal (.error (.payload target (.tooLarge (offer.result target).length))) later)
    (hdone : (offer.result target).length < 4294967296 → ∀ asked' later,
      world.Evolves place (board.stored target (offer.result target)) (client.stored target) told
        asked' later →
      goal (.ok (.bytes (offer.result target))) later) :
    (renderFrom target offer.source).run.Ensures setting place goal now := by
  simp only [renderFrom, ensures_acting_bind, ensures_lift, ensures_trace]
  -- Neither the source nor the locale is a placeholder, so that nobody is asked for them.
  refine ensures_fetch_of_find? hanswer (h.note _) hstands.growth hopen
    (Family.shape_of_mem_text offer.isText).1 hstands.found offer.holdsText.ne_nil
    hstands.two_le_retries fun asked' fetched hfetched => ?_
  refine ensures_textSettings_of_stands hanswer hfetched hstands hopen htarget
    fun asked' read hread => ?_
  simp only [ensures_client, ensures_ofResult, Data.convert_text _ htarget offer.isText hne,
    mapError_ok, ensures_modify]
  have hready := hread.modify fun client => { client with graphics := client.graphics }
  have hmemory := (Family.shape_of_mem_text htarget).1
  have hsome : offer.result target ≠ [] := TextSettings.converted_ne_nil offer.holdsText
  simp only [put, ensures_acting_bind, ensures_lift, ensures_client, ensures_ofResult,
    hready.client_eq]
  by_cases hroom : (offer.result target).length < 4294967296
  · have hnull := (Family.ne_of_mem_members htarget).1
    have hencode := Data.encode_of_accepts client.graphics hmemory ⟨hnull, hsome, hroom⟩
    rw [TextOffer.result] at hencode
    rw [hencode]
    exact ensures_putBytes hanswer hready _ (.inl hopen) hnull
      fun names later _ hlater => hdone hroom _ later hlater
  · have hlong := Nat.not_lt.1 hroom
    have hencode := Data.encode_of_le_length client.graphics hmemory hsome hlong
    rw [TextOffer.result] at hencode
    rw [hencode]
    exact hrefused hlong _ _ hready

end Acting

namespace Task

variable {place : Nat} {world now : World} {board : Board} {client : Client} {told : List Event}
  {asked : List Request} {offer : TextOffer}

/-- A get leaves the offer as it is, or stores the text that was derived. -/
theorem ensures_get_of_stands (h : world.Evolves place board client told asked now)
    (hinert : world.Inert) (hstands : offer.Stands board client)
    (hopen : board.isOpenBy (clientId place) = true) (format : Format) :
    (Task.get format).run.Ensures .inert place
      (fun outcome later => world.Attains place (offer.Served place format outcome) later) now := by
  rw [Task.run, ensures_dataOutcome]
  cases hsource : client.sources.source? format with
  | some source =>
      obtain ⟨hmember, hne, rfl⟩ := hstands.derived format source hsource
      refine Acting.ensures_get_of_some h.client_eq hsource ?_
      refine Acting.ensures_renderFrom_of_stands rfl h hstands hopen hmember hne ?_ ?_
      · intro hlong asked' later hlater
        exact hlater.attains ⟨hopen, hstands, fun _ _ => TextOffer.gives_refused hlong⟩
      · intro hroom asked' later hlater
        exact hlater.attains ⟨hopen, hstands.stored hmember hne hroom, fun _ _ =>
          TextOffer.gives_stored hroom⟩
  | none =>
      refine Acting.ensures_get_of_none h.client_eq hsource ?_
      -- The text was put there by an earlier get, or the format has nothing to do with it.
      by_cases hother : format ∈ Family.text.members ∧ format ≠ offer.source
      · rcases hstands.targets format hother.1 hother.2 with hderived | ⟨_, hroom, hfound⟩
        · rw [hsource] at hderived
          cases hderived
        · refine Acting.ensures_fetch_of_find? rfl h hstands.growth hopen
            (Family.shape_of_mem_text hother.1).1 hfound
            (TextSettings.converted_ne_nil offer.holdsText) hstands.two_le_retries
            fun asked' later hlater => ?_
          exact hlater.attains ⟨hopen, hstands, fun _ _ =>
            TextOffer.gives_of_find? hfound hsource hroom⟩
      · have hglances := h.glances hinert
        refine (Acting.keeps_fetch (tolerates_glances hstands.growth) format now hglances).mono
          fun result later hlater => ?_
        obtain ⟨_, graphics, told, asked, hlater⟩ := hlater
        exact hlater.attains ⟨hopen, hstands.congr rfl rfl rfl rfl, fun hmember hne =>
          absurd ⟨hmember, hne⟩ hother⟩

end Task

namespace World

variable {place : Nat} {world : World} {offer : TextOffer} {target : Format}

/-- The client at the place is idle in its session among inert windows, and the offer stands. -/
structure Serves (world : World) (place : Nat) (offer : TextOffer) : Prop where
  inert : world.Inert
  idle : world.Idle place
  opened : world.board.isOpenBy (clientId place) = true
  stands : offer.Stands world.board (world.client place)

namespace Serves

variable (h : world.Serves place offer)

include h

/-- Whatever is got, the offer stands; text that is got is converted. -/
theorem get (format : Format) :
    (world.act (world.medium consult) place (.get format)).2.Serves place offer ∧
      (format ∈ Family.text.members → format ≠ offer.source →
        offer.Gives format (world.act (world.medium consult) place (.get format)).1
          (world.act (world.medium consult) place (.get format)).2.board
          ((world.act (world.medium consult) place (.get format)).2.client place)) := by
  have hrests : world.Rests place world.board (world.client place) := ⟨h.inert, h.idle, rfl, rfl⟩
  obtain ⟨board, client, hlater, hserved⟩ := hrests.act _
    (Task.ensures_get_of_stands hrests.start hrests.inert h.stands h.opened format)
  refine ⟨⟨hlater.inert, hlater.idle, ?_, ?_⟩, ?_⟩
  · rw [World.medium, hlater.board_eq, hserved.opened]
  · rw [World.medium, hlater.board_eq, hlater.client_eq]
    exact hserved.stands
  · rw [World.medium, hlater.board_eq, hlater.client_eq]
    exact hserved.gives

theorem does_gets (formats : List Format) :
    (world.does place (formats.map Task.get)).Serves place offer := by
  induction formats generalizing world with
  | nil => exact h
  | cons format rest ih => exact ih (h.get format).1

end Serves

end World

end Pasteboard
