import Pasteboard.Proofs.Client.Rendering
import Pasteboard.Proofs.Client.Requesting
import Pasteboard.Proofs.Payload.Conversions

/-!
# What a get comes to

Among inert windows what a client gets is determined by the board, by the windows, by its settings
and by what it derives: `World.obtained`. `Acting.ends_get_of_inert` says that a get comes to this
answer, as far as can be seen without the numbers of handles, and what it leaves on the board.
-/

namespace Pasteboard

open Call World

/-- The error with the first handle in place of its own. -/
def ClientError.nameless : ClientError → ClientError
  | payload format cause => payload format cause.nameless
  | error => error

namespace World

/-- What is seen of a value that is fetched. -/
def fetched (world : World) (format : Format) : Except ClientError Sight := do
  let payload ← world.payload format
  (Data.decoded format payload).mapError (.payload format)

theorem fetched_of_ok {world : World} {format : Format} {payload : Bytes}
    (h : world.payload format = .ok payload) :
    world.fetched format = (Data.decoded format payload).mapError (.payload format) := by
  rw [fetched, h]
  rfl

theorem fetched_of_error {world : World} {format : Format} {error : ClientError}
    (h : world.payload format = .error error) : world.fetched format = .error error := by
  rw [fetched, h]
  rfl

/-- A memory block that is fetched is the payload. -/
theorem payload_of_fetched {world : World} {format : Format} {flat : Bytes} {object : Option Object}
    (hshape : format.shape = .memory) (h : world.fetched format = .ok (.bytes flat, object)) :
    world.payload format = .ok flat := by
  cases hpayload : world.payload format with
  | error error =>
      rw [fetched_of_error hpayload] at h
      cases h
  | ok payload =>
      have hdecoded : Data.decoded format payload = .ok (.bytes payload, none) := by
        rw [Data.decoded, Data.decode, hshape]
        rfl
      rw [fetched_of_ok hpayload, hdecoded] at h
      cases h
      rfl

/-- The locale of the text on the board, else the fallback. -/
def textLocale (world : World) (fallback : Locale) : Locale :=
  match world.payload Format.locale with
  | .ok payload => ((Bytes.u32? payload).map (·.1)).getD fallback
  | .error _ => fallback

/-- How text is read when a format is rendered. -/
def textSettings (world : World) (settings : Settings) (target : Format) : TextSettings :=
  ⟨if target.family? = some .text then world.textLocale settings.defaultLocale
    else settings.defaultLocale, settings.defaultPages⟩

/-- What is seen of a value that is rendered. -/
def rendering (world : World) (settings : Settings) (target source : Format) :
    Except ClientError Sight := do
  let sight ← world.fetched source
  let result ← (Data.converted target source (world.textSettings settings target) sight).mapError
    (.render target source)
  (Data.encodable target result).mapError (.payload target)
  return result

/-- What is seen of what a client gets. -/
def obtained (world : World) (client : Client) (format : Format) : Except ClientError Sight :=
  match client.sources.source? format with
  | some source => world.rendering client.settings format source
  | none => world.fetched format

variable {world later : World} {place : Nat} {board : Board} {client : Client} {format : Format}

section

variable (hwindows : later.windows = world.windows) (hboard : later.board = world.board)

include hwindows hboard

theorem fetched_congr (format : Format) : later.fetched format = world.fetched format := by
  have hpayload : later.payload format = world.payload format :=
    payload_congr hwindows (by rw [hboard]) (by rw [hboard])
  rw [fetched, hpayload, fetched]

theorem textSettings_congr (settings : Settings) (target : Format) :
    later.textSettings settings target = world.textSettings settings target := by
  have hpayload : later.payload Format.locale = world.payload Format.locale :=
    payload_congr hwindows (by rw [hboard]) (by rw [hboard])
  rw [textSettings, textLocale, hpayload, textSettings, textLocale]

end

/-- From the first world, with this board and this client, a get of a format came to a result that
shows what was to be expected: it failed, it gave what was there, or it put what it rendered of a
derivable format. -/
inductive Comes (world : World) (place : Nat) (board : Board) (client : Client) (format : Format)
    (expected : Except ClientError Sight) : Except ClientError Data → World → Prop where
  | failed {error expectation : ClientError} {graphics : Graphics} {later : World} :
      expected = .error expectation → error.nameless = expectation.nameless →
      client.graphics.Grows 2 graphics →
      world.Reaches place board { client with graphics := graphics } later →
      Comes world place board client format expected (.error error) later
  | there {data : Data} {graphics : Graphics} {later : World} :
      expected = .ok (data.sight graphics) → client.graphics.Grows 2 graphics →
      world.Reaches place board { client with graphics := graphics } later →
      Comes world place board client format expected (.ok data) later
  | put {source : Format} {data : Data} {payload : Bytes} {graphics : Graphics} {later : World} :
      client.sources.source? format = some source → expected = .ok (data.sight graphics) →
      client.graphics.Grows 2 graphics → payload ≠ [] →
      Data.decoded format payload = .ok (data.sight graphics) →
      world.Reaches place (board.stored format payload)
        (Client.stored { client with graphics := graphics } format) later →
      Comes world place board client format expected (.ok data) later

/-- From the first world, with this board and this client, a rendering came to a result for a
target: it failed as was to be expected, or what was to be expected is the result if that has a
payload. -/
inductive Renders (world : World) (place : Nat) (board : Board) (client : Client) (target : Format)
    (expected : Except ClientError Sight) : Except ClientError Data → World → Prop where
  | failed {error : ClientError} {graphics : Graphics} {later : World} :
      expected = .error error → client.graphics.Grows 2 graphics →
      world.Reaches place board { client with graphics := graphics } later →
      Renders world place board client target expected (.error error) later
  | made {data : Data} {graphics : Graphics} {later : World} :
      expected = (do
        (Data.encodable target (data.sight graphics)).mapError (.payload target)
        return data.sight graphics) →
      client.graphics.Grows 2 graphics →
      (∀ handle object, data.handle? = some handle → graphics.object? handle = some object →
        object.Sound) →
      world.Reaches place board { client with graphics := graphics } later →
      Renders world place board client target expected (.ok data) later

section

variable {target source : Format} {settings : Settings}

/-- A source that cannot be fetched cannot be rendered either. -/
theorem rendering_of_fetched_error {error : ClientError} (h : world.fetched source = .error error) :
    world.rendering settings target source = .error error := by
  rw [rendering, h]
  rfl

variable {graphics : Graphics} {data : Data}
  (hfetched : world.fetched source = .ok (data.sight graphics)) (hhonest : graphics.Honest)
  (hroom : graphics.Spares 1)

include hfetched hhonest hroom

/-- A source is rendered by converting what is fetched of it. -/
theorem rendering_of_fetched : world.rendering settings target source = (do
    let result ← (Data.seen <$> data.convert graphics target source
      (world.textSettings settings target)).mapError (.render target source)
    (Data.encodable target result).mapError (.payload target)
    return result) := by
  rw [Data.seen_convert hhonest hroom, rendering, hfetched]
  rfl

/-- A source that cannot be converted cannot be rendered. -/
theorem rendering_of_convert_error {cause : ConversionError}
    (h : data.convert graphics target source (world.textSettings settings target) = .error cause) :
    world.rendering settings target source = .error (.render target source cause) := by
  rw [rendering_of_fetched hfetched hhonest hroom, h]
  rfl

/-- What a source is converted to is what is seen of it once it is rendered, if it has a payload. -/
theorem rendering_of_convert {result : Data} {grown : Graphics}
    (h : data.convert graphics target source (world.textSettings settings target) =
      .ok (result, grown)) :
    world.rendering settings target source = (do
      (Data.encodable target (result.sight grown)).mapError (.payload target)
      return result.sight grown) := by
  rw [rendering_of_fetched hfetched hhonest hroom, h]
  rfl

end

end World

namespace Acting

variable {place : Nat} {world now : World} {board : Board} {client : Client}
  {format target source : Format}

section

variable (h : world.Reaches place board client now) (hinert : world.Inert)
  (hgrowth : board.growth = []) (hopen : board.isOpenBy (clientId place) = true)
  (hretries : 2 ≤ client.settings.overflowRetries) (depth : Nat)

include h hinert hgrowth hopen hretries

/-- What is fetched is seen to be what the payload holds, and takes one handle at most. -/
theorem ends_fetch_of_inert (hhonest : client.graphics.Honest) (hroom : client.graphics.Spares 1)
    (format : Format) :
    (fetch format).run.Ends ⟨World.consult, World.send World.consult (depth + 1)⟩ place
      (fun result later => ∃ graphics,
        world.Reaches place board { client with graphics := graphics } later ∧
        client.graphics.Grows 1 graphics ∧ Data.sight graphics <$> result = now.fetched format)
      now := by
  simp only [fetch, ends_acting_bind]
  refine (ends_fetchBytes_of_inert h hinert hgrowth hopen hretries depth format).mono
    fun result later hresult => ?_
  obtain ⟨hresult, hlater⟩ := hresult
  cases result with
  | error error =>
      refine ⟨client.graphics, hlater, .refl _ _, ?_⟩
      rw [fetched_of_error hresult.symm]
      rfl
  | ok payload =>
      have hseen := Data.seen_decode hhonest hroom format payload
      simp only [ends_lift, ends_client, ends_ofResult, hlater.client_eq]
      cases hdecode : Data.decode client.graphics format payload with
      | error error =>
          refine ⟨client.graphics, hlater, .refl _ _, ?_⟩
          rw [fetched_of_ok hresult.symm, ← hseen, hdecode]
          rfl
      | ok decoded =>
          obtain ⟨data, graphics⟩ := decoded
          simp only [mapError_ok, ends_modify]
          refine ⟨graphics, hlater.modify fun client => { client with graphics := graphics },
            Data.grows_of_decode hdecode, ?_⟩
          rw [fetched_of_ok hresult.symm, ← hseen, hdecode]
          rfl

/-- The locale is that of the text on the board. -/
theorem ends_locale_of_inert :
    locale.Ends ⟨World.consult, World.send World.consult (depth + 1)⟩ place
      (fun locale later => locale = now.textLocale client.settings.defaultLocale ∧
        world.Reaches place board client later) now := by
  simp only [locale, ends_bind, ends_client, h.client_eq]
  refine (ends_fetchBytes_of_inert h hinert hgrowth hopen hretries depth Format.locale).mono
    fun result later hresult => ?_
  obtain ⟨hresult, hlater⟩ := hresult
  cases result with
  | ok payload =>
      refine ⟨?_, hlater⟩
      rw [World.textLocale, ← hresult]
      rfl
  | error error =>
      refine ⟨?_, hlater⟩
      rw [World.textLocale, ← hresult]
      rfl

theorem ends_textSettings_of_inert (target : Format) :
    (textSettings target).Ends ⟨World.consult, World.send World.consult (depth + 1)⟩ place
      (fun text later => text = now.textSettings client.settings target ∧
        world.Reaches place board client later) now := by
  simp only [textSettings, ends_bind, ends_client, h.client_eq]
  by_cases hfamily : target.family? = some .text
  · simp only [hfamily, if_true, ends_bind]
    refine (ends_locale_of_inert h hinert hgrowth hopen hretries depth).mono
      fun locale later hlocale => ⟨?_, hlocale.2⟩
    rw [hlocale.1, World.textSettings, if_pos hfamily]
    rfl
  · simp only [hfamily, if_false]
    refine ⟨?_, h⟩
    rw [World.textSettings, if_neg hfamily]
    rfl

end

/-- A value that is put either has no payload, or is stored. -/
theorem ends_put_of_open (h : world.Reaches place board client now)
    (hopen : board.isOpenBy (clientId place) = true) (hformat : format ≠ Format.null)
    {medium : Medium} (hanswer : medium.answer = World.consult) (data : Data) :
    (put format data).run.Ends medium place (fun result later => match result with
      | .ok () => ∃ payload, data.encode client.graphics format = .ok payload ∧
          world.Reaches place (board.stored format payload) (client.stored format) later
      | .error error => ∃ cause, data.encode client.graphics format = .error cause ∧
          error = .payload format cause ∧ world.Reaches place board client later) now := by
  obtain ⟨hwindows, told, asked, hnow⟩ := h
  refine (ends_put hanswer hnow (.inl hopen) hformat data).mono fun result later hlater => ?_
  obtain ⟨hsame, hlater⟩ := hlater
  cases result with
  | ok =>
      obtain ⟨payload, asked', hencode, hlater⟩ := hlater
      exact ⟨payload, hencode, hlater.reaches (hsame.trans hwindows)⟩
  | error =>
      obtain ⟨cause, hencode, herror, hlater⟩ := hlater
      exact ⟨cause, hencode, herror, hlater.reaches (hsame.trans hwindows)⟩

/-- A rendered value that is put comes to what is expected: it is stored unless it has
no payload. -/
theorem ends_put_of_rendered {graphics : Graphics} {result : Data} {medium : Medium}
    (hanswer : medium.answer = World.consult)
    (h : world.Reaches place board { client with graphics := graphics } now)
    (hopen : board.isOpenBy (clientId place) = true)
    (hsource : client.sources.source? target = some source) (hnull : target ≠ Format.null)
    (hdisplay : target ≠ Format.dspBitmap) (hpalette : target.shape ≠ .palette)
    (hgrows : client.graphics.Grows 2 graphics) (hhonest : graphics.Honest)
    (hsound : ∀ handle object, result.handle? = some handle →
      graphics.object? handle = some object → object.Sound) :
    (do put target result; return result : Acting Data).run.Ends medium place
      (world.Comes place board client target (do
        (Data.encodable target (result.sight graphics)).mapError (.payload target)
        return result.sight graphics)) now := by
  rw [ends_acting_bind, ← Data.encodable_sight hhonest target result]
  refine (ends_put_of_open h hopen hnull hanswer result).mono fun outcome later hput => ?_
  cases outcome with
  | error error =>
      obtain ⟨cause, hencode, rfl, hlater⟩ := hput
      rw [hencode]
      refine .failed rfl ?_ hgrows hlater
      cases cause <;> rfl
  | ok =>
      obtain ⟨payload, hencode, hlater⟩ := hput
      rw [hencode]
      exact .put hsource rfl hgrows (Data.encode_ne_nil hencode)
        (Data.decoded_of_encode hhonest hdisplay hpalette hsound hencode) hlater

/-- A rendering comes to what is expected of it, up to putting the result. -/
theorem ends_rendered_of_inert (h : world.Reaches place board client now)
    (hinert : world.Inert) (hgrowth : board.growth = [])
    (hopen : board.isOpenBy (clientId place) = true)
    (hretries : 2 ≤ client.settings.overflowRetries) (hhonest : client.graphics.Honest)
    (hroom : client.graphics.Spares 2)
    (hrow : source = Format.dib ∨ source = Format.dibV5 → ∀ payload dib,
      now.payload source = .ok payload → DibHeader.parse? payload = some dib →
      BitmapHeader.rowBytes dib.width dib.bitCount < 2147483648) (depth : Nat) :
    (rendered target source).run.Ends
      ⟨World.consult, World.send World.consult (depth + 1)⟩ place
      (world.Renders place board client target (now.rendering client.settings target source))
      now := by
  simp only [rendered, ends_acting_bind, ends_lift, ends_trace]
  have hnoted := h.note ⟨.trace, "Rendering " ++ target.shown ++ " from " ++ source.shown⟩
  refine (ends_fetch_of_inert hnoted hinert hgrowth hopen hretries depth hhonest
    (hroom.mono (by decide)) source).mono fun fetched fetchedWorld hfetched => ?_
  obtain ⟨graphics, hreached, hgrows, hsight⟩ := hfetched
  rw [fetched_congr (hnoted.1.trans h.1.symm) (hnoted.board_eq.trans h.board_eq.symm)] at hsight
  cases fetched with
  | error error =>
      exact .failed (rendering_of_fetched_error hsight.symm) (hgrows.mono (by decide)) hreached
  | ok data =>
      -- The locale is asked for behind the source, from the same board.
      refine (ends_textSettings_of_inert hreached hinert hgrowth hopen hretries depth target).mono
        fun text textWorld htext => ?_
      obtain ⟨rfl, hread⟩ := htext
      rw [textSettings_congr (hreached.1.trans h.1.symm) (hreached.board_eq.trans h.board_eq.symm)]
      have hgraphics := hgrows.honest hhonest
      have hspare : graphics.Spares 1 := hgrows.spares hroom
      simp only [ends_client, ends_ofResult, hread.client_eq]
      cases hconvert : data.convert graphics target source
          (now.textSettings client.settings target) with
      | error error =>
          exact .failed (rendering_of_convert_error hsight.symm hgraphics hspare hconvert)
            (hgrows.mono (by decide)) hread
      | ok converted =>
          obtain ⟨result, grown⟩ := converted
          simp only [mapError_ok, ends_modify]
          refine .made (rendering_of_convert hsight.symm hgraphics hspare hconvert)
            (hgrows.trans (Data.grows_of_convert hconvert)) ?_
            (hread.modify fun client => { client with graphics := grown })
          refine Data.sound_of_convert hconvert fun hpacked flat dib hflat hdib => ?_
          subst hflat
          have hshape : source.shape = .memory := by
            rcases hpacked with rfl | rfl <;> decide
          exact hrow hpacked flat dib (payload_of_fetched hshape hsight.symm) hdib

/-- A rendering comes to what is expected of it. -/
theorem ends_renderFrom_of_inert (h : world.Reaches place board client now)
    (hinert : world.Inert) (hgrowth : board.growth = [])
    (hopen : board.isOpenBy (clientId place) = true)
    (hretries : 2 ≤ client.settings.overflowRetries) (hhonest : client.graphics.Honest)
    (hroom : client.graphics.Spares 2) (hsource : client.sources.source? target = some source)
    (hnull : target ≠ Format.null) (hdisplay : target ≠ Format.dspBitmap)
    (hpalette : target.shape ≠ .palette)
    (hrow : source = Format.dib ∨ source = Format.dibV5 → ∀ payload dib,
      now.payload source = .ok payload → DibHeader.parse? payload = some dib →
      BitmapHeader.rowBytes dib.width dib.bitCount < 2147483648) (depth : Nat) :
    (renderFrom target source).run.Ends
      ⟨World.consult, World.send World.consult (depth + 1)⟩ place
      (world.Comes place board client target (now.rendering client.settings target source))
      now := by
  rw [renderFrom_eq, ends_acting_bind]
  refine (ends_rendered_of_inert h hinert hgrowth hopen hretries hhonest hroom hrow depth).mono
    fun result later hresult => ?_
  cases hresult with
  | failed hexpected hgrows hreached => exact .failed hexpected rfl hgrows hreached
  | made hexpected hgrows hsound hreached =>
      rw [hexpected]
      exact ends_put_of_rendered rfl hreached hopen hsource hnull hdisplay hpalette hgrows
        (hgrows.honest hhonest) hsound

/-- A get comes to what is expected of it. -/
theorem ends_get_of_inert (h : world.Reaches place board client now)
    (hinert : world.Inert) (hgrowth : board.growth = [])
    (hopen : board.isOpenBy (clientId place) = true)
    (hretries : 2 ≤ client.settings.overflowRetries) (hhonest : client.graphics.Honest)
    (hroom : client.graphics.Spares 2)
    (htarget : ∀ source, client.sources.source? format = some source →
      format ≠ Format.null ∧ format ≠ Format.dspBitmap ∧ format.shape ≠ .palette)
    (hrow : ∀ source, client.sources.source? format = some source →
      source = Format.dib ∨ source = Format.dibV5 → ∀ payload dib,
      now.payload source = .ok payload → DibHeader.parse? payload = some dib →
      BitmapHeader.rowBytes dib.width dib.bitCount < 2147483648) (depth : Nat) :
    (get format).run.Ends ⟨World.consult, World.send World.consult (depth + 1)⟩ place
      (world.Comes place board client format (now.obtained client format)) now := by
  simp only [get, ends_acting_bind, ends_lift, ends_client, h.client_eq]
  cases hsource : client.sources.source? format with
  | none =>
      have hobtained : now.obtained client format = now.fetched format := by
        simp only [obtained, hsource]
      rw [hobtained]
      refine (ends_fetch_of_inert h hinert hgrowth hopen hretries depth hhonest
        (hroom.mono (by decide)) format).mono fun result later hlater => ?_
      obtain ⟨graphics, hreached, hgrows, hsight⟩ := hlater
      cases result with
      | error error => exact .failed hsight.symm rfl (hgrows.mono (by decide)) hreached
      | ok data => exact .there hsight.symm (hgrows.mono (by decide)) hreached
  | some source =>
      obtain ⟨hnull, hdisplay, hpalette⟩ := htarget source hsource
      have hobtained : now.obtained client format =
          now.rendering client.settings format source := by
        simp only [obtained, hsource]
      rw [hobtained]
      exact ends_renderFrom_of_inert h hinert hgrowth hopen hretries hhonest hroom hsource hnull
        hdisplay hpalette (hrow source hsource) depth

end Acting

end Pasteboard
