import Pasteboard.Proofs.Client.Requesting
import Pasteboard.Proofs.Payload.Results
import Pasteboard.Proofs.Picture.Truncation
import Pasteboard.Proofs.Reading.Getting
import Pasteboard.Proofs.Reading.Repetition

/-!
# What callers may take for missing data

A client gets a format among inert windows, whatever the board holds and whatever the client
derives. If it gets no value, callers may take the failure for missing data, or the pixels of a
bitmap belong to another program: see `World.get_excused_iff`. There are three exceptions. Half a
unit of wide text is rendered as narrow text without a byte, which cannot be put. What is rendered
from an entry of half a gibibyte may be too large. And the rows of a bitmap are counted in words of
64 bits and cut one by one: where a header claims rows that end beyond any word, or where rows have
no bytes, the count goes wrong and the get comes to nothing, `World.Uncounted`.
-/

namespace Pasteboard

open Call World

/-- Callers may take the failure for missing data, or the pixels of the format belong to another
program. -/
def ClientError.Excused (error : ClientError) : Prop :=
  error.isNoData = true ∨ ∃ format, error = .payload format (.unsupportedCrossProcess format)

/-- There is a value, or an excuse for there being none. -/
def Outcome.Excused : Outcome → Prop
  | .done (.data _ _) => True
  | .failed error => error.Excused
  | _ => False

/-! ## Decoding -/

namespace Data

variable {graphics : Graphics} {format : Format} {payload : Bytes}

/-- An error at which the decoding of a payload ends is an excuse. -/
def Excuses {α : Type} (format : Format) (result : Except PayloadError α) : Prop :=
  ∀ cause, result = .error cause → (ClientError.payload format cause).Excused

theorem excuses_ok {α : Type} (value : α) : Excuses format (.ok value) := by
  rintro cause ⟨⟩

theorem excuses_malformed {α : Type} (fault : PayloadFault) :
    Excuses format (.error (.malformed format fault) : Except PayloadError α) := by
  rintro cause ⟨⟩
  exact .inl rfl

theorem excuses_unsupported {α : Type} :
    Excuses format (.error (.unsupportedCrossProcess format) : Except PayloadError α) := by
  rintro cause ⟨⟩
  exact .inr ⟨format, rfl⟩

theorem excuses_rebuild {kind : BitsKind} {flat : Bytes} (wrap : Handle → Data) :
    Excuses format (do
      let (handle, later) ← rebuild graphics format kind flat
      return (wrap handle, later)) := by
  unfold rebuild
  cases graphics.reconstruct? kind flat with
  | some rebuilt => exact excuses_ok _
  | none =>
      rintro cause ⟨⟩
      exact .inl rfl

/-- A payload that is not decoded is malformed or refused, or its pixels belong to another
program. -/
theorem excuses_decode : Excuses format (decode graphics format payload) := by
  unfold decode decodeBitmap decodePalette decodePict
  dsimp only
  repeat' split
  all_goals first
    | exact excuses_ok _
    | exact excuses_malformed _
    | exact excuses_unsupported
    | exact excuses_rebuild bitmap
    | exact excuses_rebuild palette
    | exact excuses_rebuild enhMetafile
    | exact excuses_rebuild fun handle => metafilePict ⟨_, _, _, some handle⟩

end Data

/-! ## Getting payloads -/

namespace World

/-- Among inert windows, the client at the place did nothing but ask around since it came to this
board and this state of its own. -/
structure Inquired (world : World) (place : Nat) (board : Board) (client : Client) (now : World) :
    Prop where
  inert : world.Inert
  evolves : ∃ told asked, world.Evolves place board client told asked now

namespace Inquired

variable {place : Nat} {world now : World} {board : Board} {client : Client}
  (h : world.Inquired place board client now)

include h

theorem client_eq : now.client place = client := by
  obtain ⟨told, asked, hevolves⟩ := h.evolves
  exact hevolves.client_eq

theorem note (entry : Note) : world.Inquired place board client (now.note entry) := by
  obtain ⟨told, asked, hevolves⟩ := h.evolves
  exact ⟨h.inert, told, asked, hevolves.note entry⟩

theorem modify (change : Client → Client) :
    world.Inquired place board (change client)
      (now.setClient place (change (now.client place))) := by
  obtain ⟨told, asked, hevolves⟩ := h.evolves
  exact ⟨h.inert, told, asked, hevolves.modify change⟩

/-- A message to inert windows comes back without a change. -/
theorem ensures_send {α : Type} {window : WindowId} {message : Message} {limit : Option Duration}
    {next : Except SendError Bool → Call α} {goal : α → World → Prop}
    (hnext : ∀ answer later, world.Inquired place board client later →
      (next answer).Ensures .inert place goal later) :
    (Call.send window message limit next).Ensures .inert place goal now := by
  obtain ⟨told, asked, hevolves⟩ := h.evolves
  refine ⟨hevolves.allows h.inert, fun answer later hshift => hnext answer later ?_⟩
  obtain ⟨more, hmore⟩ := hevolves.inert hshift
  exact ⟨h.inert, _, asked, hmore⟩

end Inquired

end World

variable {place : Nat} {world now : World} {board : Board} {client : Client}
  {format target source : Format}

/-- What a client may get from the board: a payload that fits into the first buffer, or one for
which there is a second attempt. -/
structure Board.Affords (board : Board) (settings : Settings) (format : Format) (payload : Bytes) :
    Prop where
  found : board.entries.find? format = some payload
  ne_nil : payload ≠ []
  room : UInt32.ofNat payload.length ≤ settings.initialBufferSize ∨ 2 ≤ settings.overflowRetries

/-- An attempt with so many left and so much room is the first one, or there is a second. -/
structure Settings.Tries (settings : Settings) (left : Nat) (bufferLen : UInt32) : Prop where
  left_le : left ≤ settings.attempts
  room : bufferLen = settings.initialBufferSize ∨ 2 ≤ settings.overflowRetries

/-- After an attempt that was not the last one there is another, whatever its room. -/
theorem Settings.Tries.again {settings : Settings} {left : Nat} {bufferLen : UInt32}
    (h : settings.Tries (left + 1) bufferLen) (hleft : left ≠ 0) (room : UInt32) :
    settings.Tries left room where
  left_le := Nat.le_of_succ_le h.left_le
  room := by
    have hle := h.left_le
    rw [Settings.attempts] at hle
    refine .inr (UInt32.le_iff_toNat_le.2 ?_)
    show 2 ≤ settings.overflowRetries.toNat
    omega

namespace Acting

/-- A request to the owner fails for want of data or of time at most. -/
theorem ensures_requestRender_of_inert (h : world.Inquired place board client now)
    (owner : WindowId) {goal : Except ClientError Unit → World → Prop}
    (hgoal : ∀ result later, (∀ error, result = .error error → error.Excused) →
      world.Inquired place board client later → goal result later) :
    (requestRender owner format).run.Ensures .inert place goal now := by
  simp only [requestRender, ensures_acting_bind, ensures_lift, ensures_trace, ensures_client]
  refine (h.note _).ensures_send fun answer later hlater => ?_
  cases answer with
  | ok => exact hgoal _ later (by rintro error ⟨⟩) hlater
  | error error =>
      cases error with
      | invalidWindow | timeout | hung =>
          refine hgoal _ _ ?_ (hlater.note _)
          rintro error ⟨⟩
          exact .inl rfl

section

variable (hgrowth : board.growth = []) (hopen : board.isOpenBy (clientId place) = true)
  {goal : Except ClientError Bytes → World → Prop}
  (hgot : ∀ payload later, board.Affords client.settings format payload →
    world.Inquired place board client later → goal (.ok payload) later)
  (hfailed : ∀ error later, error.Excused → world.Inquired place board client later →
    goal (.error error) later)

include hgrowth hopen hgot hfailed

/-- An attempt gives what the board affords, or there is an excuse, unless the payload is
missing. -/
theorem ensures_fetchWith_of_inert (h : world.Inquired place board client now)
    {limit left : Nat} {missing : Nat → UInt32 → Option WindowId → Acting Bytes}
    (hmissing : ∀ left bufferLen owner later, world.Inquired place board client later →
      client.settings.Tries left bufferLen →
      (missing left bufferLen owner).run.Ensures .inert place goal later)
    {bufferLen : UInt32} (htries : client.settings.Tries left bufferLen) :
    (fetchWith format limit missing left bufferLen).run.Ensures .inert place goal now := by
  induction left generalizing now bufferLen with
  | zero => exact hfailed _ now (.inl rfl) h
  | succ left ih =>
      obtain ⟨told, asked, hevolves⟩ := h.evolves
      by_cases hlacks : (board.entries.find? format).getD [] = []
      -- A placeholder and no entry at all come to the same: the owner is asked.
      · simp only [fetchWith, Ask.get, ensures_acting_bind, ensures_ofAsking]
        refine ensures_ask rfl hevolves _ _ fun later hlater => ?_
        rw [Board.handle_get_board format bufferLen hgrowth] at hlater
        have hasked := hmissing (left + 1) bufferLen board.owner later
          ⟨h.inert, _, _, hlater⟩ htries
        rw [Board.handle_get_of_missing hopen hlacks]
        simp only [Reply.outcome, Ask.taken, mapError_ok]
        cases board.entries.find? format <;> exact hasked
      · obtain ⟨payload, hpayload, hne⟩ := Entries.exists_of_getD_ne_nil hlacks
        by_cases hfits : UInt32.ofNat payload.length ≤ bufferLen
        · refine ensures_fetchWith_of_le rfl hevolves hgrowth hopen hpayload hne hfits
            fun asked' later hlater =>
              hgot payload later ⟨hpayload, hne, ?_⟩ ⟨h.inert, _, _, hlater⟩
          refine htries.room.imp_left fun hfirst => ?_
          rwa [← hfirst]
        -- No hypothesis about the next room is left to show: a second attempt may have any.
        · simp only [fetchWith, Ask.get, ensures_acting_bind, ensures_ofAsking]
          refine ensures_ask rfl hevolves _ _ fun later hlater => ?_
          rw [Board.handle_get_board format bufferLen hgrowth] at hlater
          rw [Board.handle_get_of_not_le hopen hpayload hfits]
          simp only [Reply.outcome, Ask.taken, mapError_ok]
          have hasked : world.Inquired place board client later := ⟨h.inert, _, _, hlater⟩
          by_cases hleft : left = 0
          · simp only [hleft, if_true, ensures_acting_bind, ensures_lift]
            exact hfailed _ _ (.inl rfl) (hasked.note _)
          · simp only [hleft, if_false, ensures_acting_bind, ensures_lift, ensures_trace]
            exact ih (hasked.note _) (htries.again hleft _)

/-- Getting a payload gives what the board affords, or there is an excuse. -/
theorem ensures_fetchBytes_of_inert (h : world.Inquired place board client now) :
    (fetchBytes format).run.Ensures .inert place goal now := by
  have hfirst : client.settings.Tries client.settings.attempts client.settings.initialBufferSize :=
    ⟨Nat.le_refl _, .inl rfl⟩
  rw [fetchBytes_eq]
  simp only [ensures_acting_bind, ensures_lift, ensures_client, h.client_eq]
  refine ensures_fetchWith_of_inert hgrowth hopen hgot hfailed h
    (fun left bufferLen owner later hlater htries => ?_) hfirst
  cases owner with
  | none => exact hfailed _ later (.inl rfl) hlater
  | some owner =>
      simp only [awaited, ensures_acting_bind]
      refine ensures_requestRender_of_inert hlater owner fun result asked hexcused hasked => ?_
      cases result with
      | error error => exact hfailed error asked (hexcused error rfl) hasked
      | ok =>
          refine ensures_fetchWith_of_inert hgrowth hopen hgot hfailed hasked ?_ htries
          exact fun _ _ _ again hagain _ => hfailed (.noData format) again (.inl rfl) hagain

omit hgot hfailed in
/-- A payload that the board affords is got. -/
theorem ensures_fetchBytes_of_affords (h : world.Inquired place board client now) {payload : Bytes}
    (hpayload : board.Affords client.settings format payload)
    (hgoal : ∀ later, world.Inquired place board client later → goal (.ok payload) later) :
    (fetchBytes format).run.Ensures .inert place goal now := by
  obtain ⟨told, asked, hevolves⟩ := h.evolves
  rcases hpayload.room with hfits | hretries
  · obtain ⟨left, hleft⟩ := client.settings.exists_attempt
    rw [fetchBytes_eq]
    simp only [ensures_acting_bind, ensures_lift, ensures_client, h.client_eq, hleft]
    exact ensures_fetchWith_of_le rfl hevolves hgrowth hopen hpayload.found hpayload.ne_nil hfits
      fun _ later hlater => hgoal later ⟨h.inert, _, _, hlater⟩
  · exact ensures_fetchBytes_of_find? rfl hevolves hgrowth hopen hpayload.found hpayload.ne_nil
      hretries fun _ later hlater => hgoal later ⟨h.inert, _, _, hlater⟩

end

/-- The payload of a memory format is its value. -/
theorem ensures_fetch_of_affords (hgrowth : board.growth = [])
    (hopen : board.isOpenBy (clientId place) = true) (h : world.Inquired place board client now)
    (hshape : format.shape = .memory) {payload : Bytes}
    (hpayload : board.Affords client.settings format payload)
    {goal : Except ClientError Data → World → Prop}
    (hgoal : ∀ later, world.Inquired place board client later → goal (.ok (.bytes payload)) later) :
    (fetch format).run.Ensures .inert place goal now := by
  simp only [fetch, ensures_acting_bind]
  refine ensures_fetchBytes_of_affords hgrowth hopen h hpayload fun later hlater => ?_
  simp only [ensures_lift, ensures_client, ensures_ofResult, Data.decode, hshape, mapError_ok,
    ensures_modify]
  exact hgoal _ (hlater.modify fun client => { client with graphics := client.graphics })

section

variable (hgrowth : board.growth = []) (hopen : board.isOpenBy (clientId place) = true)
  (h : world.Inquired place board client now)

include hgrowth hopen h

/-- Finding out how to read text changes nothing. -/
theorem ensures_textSettings_of_inert {goal : TextSettings → World → Prop}
    (hgoal : ∀ text later, world.Inquired place board client later → goal text later) :
    (textSettings target).Ensures .inert place goal now := by
  simp only [textSettings, ensures_bind, ensures_client, h.client_eq]
  split
  · simp only [locale, ensures_bind, ensures_client, h.client_eq]
    exact ensures_fetchBytes_of_inert hgrowth hopen
      (fun payload later _ hlater => hgoal _ later hlater)
      (fun error later _ hlater => hgoal _ later hlater) h
  · exact hgoal _ now h

omit hgrowth in
/-- A client whose session is open puts what has a payload, and fails for the payload else. -/
theorem ensures_put_of_inert {data : Data} (hformat : format ≠ Format.null)
    {goal : Except ClientError Unit → World → Prop}
    (hput : ∀ payload later, data.encode client.graphics format = .ok payload →
      goal (.ok ()) later)
    (hfailed : ∀ cause later, data.encode client.graphics format = .error cause →
      goal (.error (.payload format cause)) later) :
    (put format data).run.Ensures .inert place goal now := by
  obtain ⟨told, asked, hevolves⟩ := h.evolves
  simp only [put, ensures_acting_bind, ensures_lift, ensures_client, ensures_ofResult, h.client_eq]
  cases hencode : data.encode client.graphics format with
  | error cause => exact hfailed cause now hencode
  | ok payload =>
      exact ensures_putBytes rfl hevolves payload (.inl hopen) hformat
        fun _ later _ _ => hput payload later hencode

variable {goal : Except ClientError Data → World → Prop}
  (hfailed : ∀ error later, error.Excused → goal (.error error) later)

include hfailed

/-- A value is got that is carried by what the board affords, or there is an excuse. -/
theorem ensures_fetch_of_inert
    (hgot : ∀ payload data graphics later, board.Affords client.settings format payload →
      data.Carried graphics payload → graphics.misreports = client.graphics.misreports →
      world.Inquired place board { client with graphics := graphics } later →
      goal (.ok data) later) :
    (fetch format).run.Ensures .inert place goal now := by
  simp only [fetch, ensures_acting_bind]
  refine ensures_fetchBytes_of_inert hgrowth hopen (fun payload later hpayload hlater => ?_)
    (fun error later hexcused _ => hfailed error later hexcused) h
  simp only [ensures_lift, ensures_client, ensures_ofResult, hlater.client_eq]
  cases hdecode : Data.decode client.graphics format payload with
  | error cause => exact hfailed _ later (Data.excuses_decode cause hdecode)
  | ok decoded =>
      obtain ⟨data, graphics⟩ := decoded
      exact hgot payload data graphics _ hpayload (Data.carried_of_decode hdecode)
        (Data.grows_of_decode hdecode).misreports
        (hlater.modify fun client => { client with graphics := graphics })

/-- What was converted is put, unless there is an excuse, it is too large, or it is made of half a
unit of wide text. -/
theorem ensures_renderFrom_of_inert (hreports : client.graphics.misreports = [])
    (hput : ∀ data later, goal (.ok data) later)
    (hlarge : ∀ payload long later, board.Affords client.settings source payload →
      4294967296 ≤ long → long ≤ 8 * payload.length + 128 →
      goal (.error (.payload target (.tooLarge long))) later)
    (hhalf : ∀ byte later, board.Affords client.settings source [byte] →
      source = Format.unicodeText → (target = Format.text ∨ target = Format.oemText) →
      goal (.error (.payload target .empty)) later) :
    (renderFrom target source).run.Ensures .inert place goal now := by
  simp only [renderFrom, ensures_acting_bind, ensures_lift, ensures_trace]
  refine ensures_fetch_of_inert hgrowth hopen (h.note _) hfailed
    fun payload data graphics fetched hpayload hcarried hsame hfetched => ?_
  refine ensures_textSettings_of_inert hgrowth hopen hfetched fun text settled hsettled => ?_
  simp only [ensures_client, ensures_ofResult, hsettled.client_eq]
  have hhonest : graphics.misreports = [] := hsame.trans hreports
  cases hconvert : data.convert graphics target source text with
  | error cause => exact hfailed _ settled (.inl rfl)
  | ok converted =>
      obtain ⟨result, grown⟩ := converted
      have hchanged := hsettled.modify fun client => { client with graphics := grown }
      simp only [mapError_ok, ensures_modify]
      -- Only half a unit of wide text holds none, and only narrow text is made of it.
      by_cases hholds : source.HoldsText payload
      · have hflattens : result.Flattens grown target payload.length :=
          Data.flattens_of_convert hhonest hcarried hholds hconvert
        refine ensures_put_of_inert hopen hchanged (Data.ne_null_of_convert hconvert)
          (fun _ later _ => hput result later) fun cause later hencode => ?_
        rcases Data.encode_of_flattens hflattens with ⟨_, hfull⟩ | ⟨long, hlong, hmin, hmax⟩
        · cases hfull.symm.trans hencode
        · cases hlong.symm.trans hencode
          exact hlarge payload long later hpayload hmin hmax
      · obtain ⟨rfl, byte, rfl⟩ := Format.exists_byte_of_not_holdsText hpayload.ne_nil hholds
        obtain ⟨htarget, rfl⟩ := Data.eq_of_convert_half hcarried hconvert
        have hempty : (Data.bytes []).encode grown target = .error .empty := by
          rcases htarget with rfl | rfl <;> rfl
        refine ensures_put_of_inert hopen hchanged (Data.ne_null_of_convert hconvert)
          (fun _ later _ => hput _ later) fun cause later hencode => ?_
        cases hempty.symm.trans hencode
        exact hhalf byte later hpayload rfl htarget

end

/-- Half a unit of wide text that the board affords is no narrow text. -/
theorem ensures_renderFrom_of_half (hgrowth : board.growth = [])
    (hopen : board.isOpenBy (clientId place) = true) (h : world.Inquired place board client now)
    {byte : UInt8} (hpayload : board.Affords client.settings Format.unicodeText [byte])
    (htarget : target = Format.text ∨ target = Format.oemText) :
    (renderFrom target Format.unicodeText).run.Ensures .inert place
      (fun result _ => result = .error (.payload target .empty)) now := by
  simp only [renderFrom, ensures_acting_bind, ensures_lift, ensures_trace]
  refine ensures_fetch_of_affords hgrowth hopen (h.note _) rfl hpayload fun fetched hfetched => ?_
  refine ensures_textSettings_of_inert hgrowth hopen hfetched fun text settled hsettled => ?_
  have hchanged : world.Inquired place board client (settled.setClient place
      { settled.client place with graphics := (settled.client place).graphics }) :=
    hsettled.modify fun client => { client with graphics := client.graphics }
  simp only [ensures_client, ensures_ofResult, Data.convert_half _ text byte htarget, mapError_ok,
    ensures_modify]
  have hempty (graphics : Graphics) : (Data.bytes []).encode graphics target = .error .empty := by
    rcases htarget with rfl | rfl <;> rfl
  have hformat : target ≠ Format.null := by
    rcases htarget with rfl | rfl <;> decide
  refine ensures_put_of_inert hopen hchanged hformat (fun payload later hencode => ?_)
    fun cause later hencode => ?_
  · cases (hempty _).symm.trans hencode
  · cases (hempty _).symm.trans hencode
    rfl

end Acting

/-! ## Getting a format -/

namespace World

/-- The format is narrow text that the client derives from wide text, of which the board affords
half a unit. -/
structure Halved (world : World) (place : Nat) (format : Format) : Prop where
  narrow : format = Format.text ∨ format = Format.oemText
  source : (world.client place).sources.source? format = some Format.unicodeText
  half : ∃ byte, world.board.Affords (world.client place).settings Format.unicodeText [byte]

/-- What the client rendered is too large to be put. The entry that it derives the format from has
half a gibibyte then. -/
def Outgrown (world : World) (place : Nat) (format : Format) (outcome : Outcome) : Prop :=
  ∃ source payload size, (world.client place).sources.source? format = some source ∧
    world.board.entries.find? source = some payload ∧ 4294967296 ≤ size ∧
    size ≤ 8 * payload.length + 128 ∧ outcome = .failed (.payload format (.tooLarge size))

/-- What a client reads when it gets a format: the source, if it derives the format. -/
def readFormat (world : World) (place : Nat) (format : Format) : Format :=
  ((world.client place).sources.source? format).getD format

/-- The rows of the bitmap that is read for a format cannot be counted. That is so if a header
claims rows that end beyond any word of 64 bits when a bitmap is rebuilt or unpacked, if the rows
have no bytes when they are cut, or if the height has no negative when a packed bitmap is made. -/
inductive Uncounted (world : World) (place : Nat) (format : Format) : Prop where
  | rebuilt (payload : Bytes) (header : BitmapHeader) :
      world.readFormat place format = Format.bitmap →
      world.board.Affords (world.client place).settings Format.bitmap payload →
      BitmapHeader.parse? payload = some header →
      Data.HandedOver Format.bitmap
        (Data.decode (world.client place).graphics Format.bitmap payload) →
      .bitmapBits ∉ (world.client place).graphics.refused →
      2 ^ 64 ≤ BitmapHeader.headerSize + header.bitsSize →
      Uncounted world place format
  | unpacked (source : Format) (layout : DibLayout) (payload : Bytes) (header : DibHeader) :
      format = Format.bitmap → (world.client place).sources.source? format = some source →
      source.form? = some (.packed layout) →
      world.board.Affords (world.client place).settings source payload →
      DibHeader.parse? payload = some header → header.bitCount = 24 ∨ header.bitCount = 32 →
      layout.kind ∉ (world.client place).graphics.refused →
      2 ^ 64 ≤ header.infoSize + header.bitsSize ∨
        header.width = 0 ∧ header.infoSize ≤ payload.length →
      Uncounted world place format
  | packed (layout : DibLayout) (payload : Bytes) (header : BitmapHeader) (handle : Handle)
      (graphics : Graphics) :
      format.form? = some (.packed layout) →
      (world.client place).sources.source? format = some Format.bitmap →
      world.board.Affords (world.client place).settings Format.bitmap payload →
      BitmapHeader.parse? payload = some header →
      Data.decode (world.client place).graphics Format.bitmap payload =
        .ok (.bitmap handle, graphics) →
      BitmapHeader.rowBytes header.width header.bitsPixel = 0 ∨ header.height = Int32.minValue →
      Uncounted world place format

/-- A get comes to a value, or to a failure that is an excuse for there being none. It comes to
nothing if rows cannot be counted. -/
def GetExcused (world : World) (medium : Medium) (place : Nat) (format : Format) : Prop :=
  ¬ world.Uncounted place format ∧ (world.act medium place (.get format)).1.Excused

/-- The two errors of the exceptions are no excuses. -/
theorem not_excused_of_payload {cause : PayloadError}
    (hcause : cause = .empty ∨ ∃ size, cause = .tooLarge size) :
    ¬ (Outcome.failed (.payload format cause)).Excused := by
  rintro (hno | ⟨other, hother⟩)
  · rcases hcause with rfl | ⟨size, rfl⟩ <;> cases hno
  · rcases hcause with rfl | ⟨size, rfl⟩ <;> cases hother

/-- Where a client begins a task. -/
theorem Idle.inquired (hidle : world.Idle place) (hinert : world.Inert) :
    (world.setBusy place true).Inquired place world.board (world.client place)
      (world.setBusy place true) :=
  ⟨hinert, [], [], hidle.start⟩

section

variable (hinert : world.Inert) (hidle : world.Idle place)
  (hopen : world.board.isOpenBy (clientId place) = true) (hgrowth : world.board.growth = [])
  (depth : Nat)

include hinert hidle hopen hgrowth

/-- Half a unit of wide text is the reason for an error that is no excuse. -/
theorem act_get_of_halved (h : world.Halved place format) :
    (world.act ⟨consult, send consult depth⟩ place (.get format)).1 =
      .failed (.payload format .empty) := by
  obtain ⟨byte, hbyte⟩ := h.half
  refine act_of_ensures (Setting.fits_inert depth) hidle (.get format)
    (fun outcome _ => outcome = .failed (.payload format .empty)) ?_
  rw [Task.run, Task.ensures_dataOutcome]
  refine Acting.ensures_get_of_some hidle.start.client_eq h.source ?_
  refine (Acting.ensures_renderFrom_of_half hgrowth hopen (hidle.inquired hinert) hbyte
    h.narrow).mono fun result later hresult => ?_
  rw [hresult]
  rfl

/-- There is an excuse, or one of the two exceptions applies. -/
theorem act_get_cases (hreports : (world.client place).graphics.misreports = []) :
    let outcome := (world.act ⟨consult, send consult depth⟩ place (.get format)).1
    outcome.Excused ∨ world.Outgrown place format outcome ∨ world.Halved place format := by
  refine act_of_ensures (Setting.fits_inert depth) hidle (.get format) (fun outcome _ =>
    outcome.Excused ∨ world.Outgrown place format outcome ∨ world.Halved place format) ?_
  have hinquired := hidle.inquired hinert
  rw [Task.run, Task.ensures_dataOutcome]
  cases hsource : (world.client place).sources.source? format with
  | none =>
      refine Acting.ensures_get_of_none hidle.start.client_eq hsource ?_
      exact Acting.ensures_fetch_of_inert hgrowth hopen hinquired
        (fun error later hexcused => .inl hexcused)
        fun payload data graphics later _ _ _ _ => .inl trivial
  | some source =>
      refine Acting.ensures_get_of_some hidle.start.client_eq hsource ?_
      refine Acting.ensures_renderFrom_of_inert hgrowth hopen hinquired
        (fun error later hexcused => .inl hexcused) hreports (fun data later => .inl trivial)
        (fun payload size later hpayload hmin hmax => .inr (.inl ?_))
        fun byte later hpayload hwide hnarrow => .inr (.inr ?_)
      · exact ⟨source, payload, size, hsource, hpayload.found, hmin, hmax, rfl⟩
      · subst hwide
        exact ⟨hnarrow, hsource, byte, hpayload⟩

/-- Among inert windows, a get in an open session gives a value, or fails in a way that callers may
take for missing data or because pixels belong to another program, whatever the board holds and the
client derives, unless rows cannot be counted, the client derives narrow text from half a unit of
wide text, or what it rendered is too large. -/
theorem get_excused_iff (hreports : (world.client place).graphics.misreports = []) :
    world.GetExcused ⟨consult, send consult depth⟩ place format ↔
      ¬ world.Uncounted place format ∧ ¬ world.Halved place format ∧
        ¬ world.Outgrown place format
          (world.act ⟨consult, send consult depth⟩ place (.get format)).1 := by
  refine and_congr_right fun _ => ⟨fun hexcused => ⟨fun hhalved => ?_, ?_⟩, ?_⟩
  · rw [act_get_of_halved hinert hidle hopen hgrowth depth hhalved] at hexcused
    exact not_excused_of_payload (.inl rfl) hexcused
  · rintro ⟨source, payload, size, _, _, _, _, houtcome⟩
    rw [houtcome] at hexcused
    exact not_excused_of_payload (.inr ⟨size, rfl⟩) hexcused
  · rintro ⟨hhalved, houtgrown⟩
    rcases act_get_cases hinert hidle hopen hgrowth depth hreports with hexcused | hlarge | hhalf
    · exact hexcused
    · exact False.elim (houtgrown hlarge)
    · exact False.elim (hhalved hhalf)

end

/-- Narrow text is rendered from a whole unit of wide text. -/
theorem whole_unit_excused :
    reopened.Inert ∧ reopened.Idle 0 ∧ reopened.board.isOpenBy (clientId 0) = true ∧
      reopened.board.growth = [] ∧ (reopened.client 0).graphics.misreports = [] ∧
      (reopened.client 0).sources.source? Format.text = some Format.unicodeText ∧
      reopened.GetExcused ⟨consult, send consult 1⟩ 0 Format.text := by
  have hinert : reopened.Inert := by
    intro script hscript
    cases hscript
  have hidle : reopened.Idle 0 := ⟨_, rfl, rfl⟩
  have hsource : (reopened.client 0).sources.source? Format.text = some Format.unicodeText := rfl
  have hgot : (reopened.act ⟨consult, send consult 1⟩ 0 (.get Format.text)).1 =
      .done (.data (.bytes [0x68]) none) := rfl
  refine ⟨hinert, hidle, rfl, rfl, rfl, hsource,
    (get_excused_iff hinert hidle rfl rfl 1 rfl).2 ⟨?_, fun hhalved => ?_, ?_⟩⟩
  · rintro (⟨_, _, hread, -⟩ | ⟨_, _, _, _, hbitmap, -⟩ | ⟨_, _, _, _, _, -, hpacked, -⟩)
    · cases hread
    · cases hbitmap
    · cases hsource.symm.trans hpacked
  · obtain ⟨byte, hbyte⟩ := hhalved.half
    have hentry : reopened.board.entries.find? Format.unicodeText = some [0x68, 0] := rfl
    cases hentry.symm.trans hbyte.found
  · rintro ⟨_, _, _, _, _, _, _, houtcome⟩
    cases hgot.symm.trans houtcome

/-- The only client put half a unit of wide text and has opened the clipboard again. -/
def halfWritten : World :=
  (gathering .empty 1 []).after
    [.task 0 (.openSession (some firstWindow)), .task 0 (.claim (some firstWindow)),
      .task 0 (.put Format.unicodeText (.bytes [0x41])), .task 0 .closeSession,
      .task 0 (.openSession none)]

/-- Narrow text that is planned to be derived from half a unit of wide text fails to be got without
an excuse. -/
theorem half_unit_not_excused :
    halfWritten.Inert ∧ halfWritten.Idle 0 ∧ halfWritten.board.isOpenBy (clientId 0) = true ∧
      halfWritten.board.growth = [] ∧ (halfWritten.client 0).graphics.misreports = [] ∧
      (halfWritten.client 0).sources.source? Format.text = some Format.unicodeText ∧
      (halfWritten.act ⟨consult, send consult 1⟩ 0 (.get Format.text)).1 =
        .failed (.payload Format.text .empty) ∧
      ¬ (halfWritten.act ⟨consult, send consult 1⟩ 0 (.get Format.text)).1.Excused := by
  have hinert : halfWritten.Inert := by
    intro script hscript
    cases hscript
  have hfailed : (halfWritten.act ⟨consult, send consult 1⟩ 0 (.get Format.text)).1 =
      .failed (.payload Format.text .empty) := rfl
  refine ⟨hinert, ⟨_, rfl, rfl⟩, rfl, rfl, rfl, rfl, hfailed, ?_⟩
  rw [hfailed]
  rintro (hno | ⟨other, hother⟩)
  · cases hno
  · cases hother

/-- The only client put a packed bitmap without pixels, of the least width and height, and has
opened the clipboard again. -/
def leastExtents : World :=
  (gathering .empty 1 []).after
    [.task 0 (.openSession (some firstWindow)), .task 0 (.claim (some firstWindow)),
      .task 0 (.put Format.dib (.bytes ((DibHeader.ofSize Int32.minValue Int32.minValue 32).write
        .short))), .task 0 .closeSession, .task 0 (.openSession none)]

/-- The rows that such a header claims take as many bytes as a word has values. -/
theorem least_extents_uncounted :
    leastExtents.Uncounted 0 Format.bitmap ∧
      ¬ leastExtents.GetExcused ⟨consult, send consult 1⟩ 0 Format.bitmap := by
  have huncounted : leastExtents.Uncounted 0 Format.bitmap := by
    exact .unpacked Format.dib .short _ (DibHeader.ofSize Int32.minValue Int32.minValue 32) rfl rfl
      rfl ⟨rfl, by decide, .inl (by decide)⟩ rfl (.inr rfl) (by decide) (.inl (by decide))
  exact ⟨huncounted, fun h => h.1 huncounted⟩

end World

end Pasteboard
