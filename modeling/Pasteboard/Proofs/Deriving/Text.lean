import Pasteboard.Proofs.Deriving.TextOffers

/-!
# Text that is put and got in another format

A client that works alone among inert windows claims the board, puts text in one format, perhaps
with a locale, and closes. In its next session it gets the text in the other formats, converted as
the locale says: see `World.derived_text_got`.
-/

namespace Pasteboard

open World

/-- The tasks by which a client takes the board over for a window and puts text, perhaps with a
locale. -/
def Task.publish (window : Option WindowId) (owner : WindowId) (source : Format) (text : Bytes)
    (locale : Option Bytes) : List Task :=
  [.openSession window, .claim (some owner), .put source (.bytes text)] ++
    locale.toList.map (fun payload => .put Format.locale (.bytes payload)) ++ [.closeSession]

/-- Text in one format is all that is present, but perhaps a locale: the other formats are derived
from it. -/
theorem Plan.of_text {source : Format} (h : source ∈ Family.text.members) (located : Bool) :
    Plan.of (fun format => format == source || format == Format.locale && located) =
      ⟨!located, (Family.text.members.filter (· ≠ source)).map (⟨·, source⟩)⟩ := by
  simp only [Family.members, List.mem_cons, List.not_mem_nil, or_false] at h
  rcases h with rfl | rfl | rfl <;> cases located <;> decide

variable {place : Nat} {world start : World} {board : Board} {client : Client}
  {source target : Format} {text : Bytes} {locale : Option Bytes}

namespace Board

/-- The board has text in one format, perhaps a locale, and nothing else. -/
def Bears (board : Board) (source : Format) (text : Bytes) (locale : Option Bytes) : Prop :=
  ∀ format, board.entries.find? format =
    if format = source then some text else if format = Format.locale then locale else none

namespace Bears

theorem stored_source (h : board.entries = .empty) (source : Format) (text : Bytes) :
    (board.stored source text).Bears source text none := by
  intro format
  rw [stored, Entries.find?_insert, h, Entries.find?_empty, ite_self]

variable (h : board.Bears source text locale) (hsource : source ∈ Family.text.members)

include h hsource

theorem stored_locale (payload : Bytes) :
    (board.stored Format.locale payload).Bears source text (some payload) := by
  intro format
  rw [stored, Entries.find?_insert, h]
  by_cases hlocale : format = Format.locale
  · have hne : format ≠ source := by
      rw [hlocale]
      exact (Family.ne_of_mem_members hsource).2.symm
    rw [if_pos hlocale, if_neg hne, if_pos hlocale]
  · rw [if_neg hlocale, if_neg hlocale, if_neg hlocale]

theorem find?_locale : board.entries.find? Format.locale = locale := by
  rw [h, if_neg (Family.ne_of_mem_members hsource).2.symm, if_pos rfl]

theorem plan_eq : board.plan =
    ⟨!locale.isSome, (Family.text.members.filter (· ≠ source)).map (⟨·, source⟩)⟩ := by
  have hpresent : board.entries.formats.contains =
      fun format => format == source || format == Format.locale && locale.isSome := by
    funext format
    rw [Entries.contains_formats, h]
    by_cases hformat : format = source
    · simp [hformat]
    · have hne : Format.locale ≠ source := (Family.ne_of_mem_members hsource).2.symm
      rw [if_neg hformat, beq_false_of_ne hformat]
      by_cases hlocale : format = Format.locale <;> simp [hlocale]
  rw [plan, hpresent, Plan.of_text hsource]

theorem mem_derivations {derivation : Derivation} :
    derivation ∈ board.plan.derivations ↔
      derivation.target ∈ Family.text.members ∧ derivation.target ≠ source ∧
        derivation.source = source := by
  obtain ⟨derived, origin⟩ := derivation
  rw [h.plan_eq hsource]
  simp only [List.mem_map, List.mem_filter, decide_eq_true_eq, Derivation.mk.injEq]
  constructor
  · rintro ⟨format, ⟨hmember, hne⟩, rfl, rfl⟩
    exact ⟨hmember, hne, rfl⟩
  · rintro ⟨hmember, hne, rfl⟩
    exact ⟨derived, ⟨hmember, hne⟩, rfl, rfl⟩

/-- Carrying the plan out leaves the text, and a locale that is the default one for want of
another. -/
theorem find?_planned_locale (default : Locale) :
    (board.planned default).entries.find? Format.locale =
      some (locale.getD (Bytes.ofU32 default)) := by
  have hfind := h.find?_locale hsource
  cases locale with
  | some payload =>
      have hsome : (board.entries.find? Format.locale).isSome = true := by rw [hfind]; rfl
      rw [find?_planned_of_isSome default hsome, hfind, Option.getD_some]
  | none =>
      have hset : board.plan.setLocale = true := by rw [h.plan_eq hsource]; rfl
      rw [find?_planned, if_neg, if_pos ⟨hset, rfl⟩, Option.getD_none]
      rintro ⟨derivation, hmem, htarget⟩
      exact (Family.ne_of_mem_members ((h.mem_derivations hsource).1 hmem).1).2 htarget

end Bears

end Board

/-- After its plan was carried out, the text on the board is offered in the other formats. -/
theorem TextOffer.stands_planned {offer : TextOffer}
    (h : board.Bears offer.source offer.text locale) (hgrowth : board.growth = [])
    (hsettings : client.settings = offer.settings)
    (hlocale : offer.locale = locale.getD (Bytes.ofU32 offer.settings.defaultLocale)) :
    offer.Stands (board.planned client.settings.defaultLocale)
      { client with sources := Sources.empty.recordAll board.plan.derivations } where
  growth := (board.agrees_planned _).growth.trans hgrowth
  settings_eq := hsettings
  found := by
    have hfind : board.entries.find? offer.source = some offer.text := by rw [h, if_pos rfl]
    have hsome : (board.entries.find? offer.source).isSome = true := by rw [hfind]; rfl
    rw [Board.find?_planned_of_isSome _ hsome, hfind]
  localeFound := by rw [h.find?_planned_locale offer.isText, hlocale, hsettings]
  targets target hmember hne := by
    have hmem : ⟨target, offer.source⟩ ∈ board.plan.derivations :=
      (h.mem_derivations offer.isText).2 ⟨hmember, hne, rfl⟩
    obtain ⟨source, hsource⟩ := Option.isSome_iff_exists.1
      (Sources.empty.isSome_source?_recordAll _ (.inl ⟨_, hmem, rfl⟩))
    rcases Sources.mem_of_source?_recordAll hsource with hderived | hnone
    · obtain ⟨_, _, rfl⟩ := (h.mem_derivations offer.isText).1 hderived
      exact .inl hsource
    · cases hnone
  derived target source hsource := by
    rcases Sources.mem_of_source?_recordAll hsource with hderived | hnone
    · exact (h.mem_derivations offer.isText).1 hderived
    · cases hnone

/-- In its session the client at the place took the board over and put the text, perhaps with a
locale. -/
structure Drafted (place : Nat) (settings : Settings) (source : Format) (text : Bytes)
    (locale : Option Bytes) (board : Board) (client : Client) : Prop where
  opened : board.isOpenBy (clientId place) = true
  owned : board.owner.isSome = true
  growth : board.growth = []
  bears : board.Bears source text locale
  settings_eq : client.settings = settings
  changed : client.session.any (·.changed) = true

namespace World.Rests

variable {settings : Settings} {offer : TextOffer} (h : world.Rests place board client)

include h

theorem put_text (hfree : board.session = none) (hgrowth : board.growth = [])
    (hmemory : source.shape = .memory) (haccepts : source.Accepts text)
    (window : Option WindowId) (owner : WindowId) :
    ∃ board' client',
      (world.does place [.openSession window, .claim (some owner),
        .put source (.bytes text)]).Rests place board' client' ∧
      Drafted place client.settings source text none board' client' := by
  have hopen : (board.opened (clientId place) window).isOpenBy (clientId place) = true :=
    Board.isOpenBy_iff.2 ⟨window, rfl⟩
  have hclaimed := (h.openSession hfree window).claim hopen (some owner)
  rw [does_cons, does_cons]
  exact ⟨_, _, hclaimed.put hopen hmemory haccepts, hopen, rfl, hgrowth,
    Board.Bears.stored_source rfl source text, rfl, rfl⟩

/-- A locale that is empty is refused. -/
theorem put_locale (hdrafted : Drafted place settings source text none board client)
    (hsource : source ∈ Family.text.members)
    (hlocale : ∀ payload, locale = some payload → payload.length < 4294967296) :
    ∃ board' client',
      (world.does place (locale.toList.map fun payload =>
        .put Format.locale (.bytes payload))).Rests place board' client' ∧
      Drafted place settings source text (locale.filter (· ≠ [])) board' client' := by
  cases locale with
  | none => exact ⟨_, _, h, hdrafted⟩
  | some payload =>
      by_cases hempty : payload = []
      · have hrefused : ¬ Format.locale.Accepts payload := fun haccepts => haccepts.ne_nil hempty
        rw [Option.filter_some, if_neg (by simpa using hempty)]
        exact ⟨_, _, h.put_refused hrefused, hdrafted⟩
      · have haccepts : Format.locale.Accepts payload :=
          ⟨by decide, hempty, hlocale payload rfl⟩
        rw [Option.filter_some, if_pos (by simpa using hempty)]
        refine ⟨_, _, h.put hdrafted.opened rfl haccepts, hdrafted.opened, hdrafted.owned,
          hdrafted.growth, hdrafted.bears.stored_locale hsource payload, hdrafted.settings_eq, ?_⟩
        obtain ⟨window, hsession⟩ := client.session_of_changed hdrafted.changed
        rw [Client.stored_of_changed client hsession]
        exact hdrafted.changed

/-- In the next session the text is offered in the other formats. -/
theorem serves (hdrafted : Drafted place offer.settings offer.source offer.text locale board client)
    (hlocale : offer.locale = locale.getD (Bytes.ofU32 offer.settings.defaultLocale))
    (next : Option WindowId) :
    ((world.does place [.closeSession]).does place [.openSession next]).Serves place offer := by
  obtain ⟨window, hsession⟩ := client.session_of_changed hdrafted.changed
  have hclosed := h.closeSession hdrafted.opened hsession
  have hreopened := hclosed.openSession rfl next
  -- The derivations are remembered because the board still has its owner.
  have howner : (board.planned client.settings.defaultLocale).closed.owner.isNone = false := by
    have hsame : (board.planned client.settings.defaultLocale).closed.owner = board.owner :=
      (board.agrees_planned _).owner
    rw [hsame, Option.isNone_eq_false_iff, hdrafted.owned]
  refine ⟨hreopened.inert, hreopened.idle, ?_, ?_⟩
  · rw [hreopened.board_eq]
    exact Board.isOpenBy_iff.2 ⟨next, rfl⟩
  · rw [hreopened.board_eq, hreopened.client_eq]
    refine (TextOffer.stands_planned hdrafted.bears hdrafted.growth hdrafted.settings_eq
      hlocale).congr rfl rfl rfl ?_
    simp only [Client.opened, howner, Bool.false_eq_true, if_false, Client.closed]

theorem serves_published (hfree : board.session = none) (hgrowth : board.growth = [])
    (hsettings : client.settings = offer.settings) (hsize : offer.text.length < 4294967296)
    (hlocale : ∀ payload, locale = some payload → payload.length < 4294967296)
    (hkept : offer.locale = offer.settings.kept locale) (window next : Option WindowId)
    (owner : WindowId) :
    ((world.does place (Task.publish window owner offer.source offer.text locale)).does place
      [.openSession next]).Serves place offer := by
  have haccepts : offer.source.Accepts offer.text :=
    ⟨(Family.ne_of_mem_members offer.isText).1, offer.holdsText.ne_nil, hsize⟩
  obtain ⟨_, _, hput, hdrafted⟩ := h.put_text hfree hgrowth
    (Family.shape_of_mem_text offer.isText).1 haccepts window owner
  rw [hsettings] at hdrafted
  obtain ⟨_, _, hlocated, hcomplete⟩ := hput.put_locale hdrafted offer.isText hlocale
  rw [Settings.kept] at hkept
  rw [Task.publish, does_append, does_append]
  exact hlocated.serves hcomplete hkept next

end World.Rests

/-- A client that works alone among inert windows puts text in a session, perhaps with a locale, and
opens the next one. Whatever it gets there first, it gets the text in every other text format,
converted as the locale says. Then the result is stored in that format, which is not derived any
more, and there is a locale. Only if the result is too large for a payload, the get fails. -/
theorem World.derived_text_got (hinert : start.Inert) (hidle : start.Idle place)
    (hfree : start.board.session = none) (hgrowth : start.board.growth = [])
    (hretries : 2 ≤ (start.client place).settings.overflowRetries)
    (hsource : source ∈ Family.text.members) (htarget : target ∈ Family.text.members)
    (hne : target ≠ source) (htext : source.HoldsText text) (hsize : text.length < 4294967296)
    (hlocale : ∀ payload, locale = some payload → payload.length < 4294967296)
    (window next : Option WindowId) (owner : WindowId) (formats : List Format) :
    let result :=
      ((start.client place).settings.reading (locale.getD [])).converted target source text
    let ready := (start.does place (Task.publish window owner source text locale)).does place
      (.openSession next :: formats.map .get)
    (result.length < 4294967296 → ∃ later, ready.act (ready.medium consult) place (.get target) =
        (.done (.data (.bytes result) none), later) ∧
      later.board.entries.find? target = some result ∧
      (later.client place).sources.source? target = none ∧
      (later.board.entries.find? Format.locale).isSome = true) ∧
    (4294967296 ≤ result.length → ∃ later, ready.act (ready.medium consult) place (.get target) =
      (.failed (.payload target (.tooLarge result.length)), later)) := by
  intro result ready
  let settings := (start.client place).settings
  let offer : TextOffer :=
    ⟨settings, source, text, settings.kept locale, hsource, htext, settings.kept_ne_nil locale,
      hretries⟩
  have hresult : offer.result target = result := by
    rw [TextOffer.result, settings.reading_kept]
  have hrests : start.Rests place start.board (start.client place) := ⟨hinert, hidle, rfl, rfl⟩
  have hpublished : ((start.does place (Task.publish window owner offer.source offer.text
      locale)).does place [.openSession next]).Serves place offer :=
    hrests.serves_published hfree hgrowth rfl hsize hlocale rfl window next owner
  -- The gets before leave the text and what is derived of it as they are.
  have hready : ready = ((start.does place (Task.publish window owner source text locale)).does
      place [.openSession next]).does place (formats.map .get) := does_cons _ _ _ _
  have hserves : ready.Serves place offer := by
    rw [hready]
    exact hpublished.does_gets formats
  obtain ⟨hlater, hget⟩ := hserves.get target
  have hgives := hget htarget hne
  rw [← hresult]
  refine ⟨fun hroom => ?_, fun hlong => ⟨_, Prod.ext (hgives.refused hlong) rfl⟩⟩
  obtain ⟨houtcome, hfound, hunderived⟩ := hgives.got hroom
  refine ⟨_, Prod.ext houtcome rfl, hfound, hunderived, ?_⟩
  rw [hlater.stands.localeFound, Option.isSome_some]

/-- The only client put an accented letter as wide text, with a locale that is not known, and got
the text of the primary page in its next session. -/
def World.accented : World :=
  ((gathering .empty 1 []).does 0 (Task.publish (some firstWindow) firstWindow Format.unicodeText
    [0x68, 0, 0xe9, 0] (some [0x11, 4, 0, 0]))).does 0 [.openSession none, .get Format.text]

/-- Then it gets the letter in the secondary page that is set for such locales. -/
theorem World.accented_text_got :
    ∃ later, accented.act (accented.medium consult) 0 (.get Format.oemText) =
        (.done (.data (.bytes [0x68, 0x82]) none), later) ∧
      later.board.entries.find? Format.oemText = some [0x68, 0x82] ∧
      (later.client 0).sources.source? Format.oemText = none ∧
      (later.board.entries.find? Format.locale).isSome = true := by
  have hconverted : (((gathering .empty 1 []).client 0).settings.reading
      [0x11, 4, 0, 0]).converted Format.oemText Format.unicodeText [0x68, 0, 0xe9, 0] =
      [0x68, 0x82] := by
    rw [client_gathering]
    decide +kernel
  have hidle : (gathering .empty 1 []).Idle 0 := ⟨_, rfl, rfl⟩
  have hretries : 2 ≤ ((gathering .empty 1 []).client 0).settings.overflowRetries := by
    decide +kernel
  have hwide : Format.unicodeText ∈ Family.text.members := by decide
  have hnarrow : Format.oemText ∈ Family.text.members := by decide
  have htext : Format.unicodeText.HoldsText [0x68, 0, 0xe9, 0] := by
    rw [Format.HoldsText, if_pos rfl]
    decide
  have hlocale : ∀ payload : Bytes, some [0x11, 4, 0, 0] = some payload →
      payload.length < 4294967296 := by
    rintro payload ⟨⟩
    decide
  have hroom : ((((gathering .empty 1 []).client 0).settings.reading
      [0x11, 4, 0, 0]).converted Format.oemText Format.unicodeText
      [0x68, 0, 0xe9, 0]).length < 4294967296 := by
    rw [hconverted]
    decide
  have hgot := derived_text_got (allows_gathering .empty 1 _) hidle rfl rfl hretries hwide hnarrow
    (by decide) htext (by decide) hlocale (some firstWindow) none firstWindow [Format.text]
  rw [← hconverted]
  exact hgot.1 hroom

end Pasteboard
