import Pasteboard.Conversion
import Pasteboard.Proofs.Payload.Buffers

/-!
# Graphics tables changed in place

A program has one table of graphics objects, which is changed in place: what was done before a
failure stays done. `Data.decodeInPlace` and `Data.convertInPlace` work in this way, and do what
`Data.decode` and `Data.convert` say all the same, with the table as it was if they fail:
`Data.settles_decode`, `Data.settles_convert`. That is because an object is taken last, when nothing
can fail any more.
-/

namespace Pasteboard

namespace Work

open Graphics (Remains)

variable {ε α β : Type} {graphics : Graphics}

/-- A result that needs no table. -/
def ofResult (result : Except ε α) : Work Graphics ε α := ExceptT.mk (pure result)

/-- Fetches a flat form. -/
def fetch (remains : Remains) (error : ConversionError) (kind : BitsKind) (handle : Handle) :
    Work Graphics ConversionError Bytes := do
  ofResult (orFail error ((← get).fetchInto? remains kind handle))

/-- Adds an object, if the table takes it. -/
def add (taken : Graphics → Except ε (Handle × Graphics)) : Work Graphics ε Handle := do
  let (handle, later) ← ofResult (taken (← get))
  set later
  return handle

/-- The work ends with a value and its table, or with an error and the table as it was. -/
def Settles (work : Work Graphics ε α) (graphics : Graphics)
    (result : Except ε (α × Graphics)) : Prop :=
  work.runOn graphics =
    match result with
    | .ok (value, later) => (.ok value, later)
    | .error error => (.error error, graphics)

/-- The work leaves the table alone. -/
def Reads (work : Work Graphics ε α) (graphics : Graphics) (result : Except ε α) : Prop :=
  work.runOn graphics = (result, graphics)

variable {first work other : Work Graphics ε α} {next : α → Work Graphics ε β}
  {read : Except ε α} {rest : α → Except ε (β × Graphics)}
  {result alternative : Except ε (α × Graphics)}

/-- A pure result reads nothing of the table. -/
theorem reads_ofResult (read : Except ε α) : (ofResult read).Reads graphics read := rfl

/-- A flat form is fetched in place as it is from the table. -/
theorem reads_fetch (remains : Remains) (error : ConversionError) (kind : BitsKind)
    (handle : Handle) :
    (fetch remains error kind handle).Reads graphics
      (orFail error (graphics.fetch? kind handle)) := by
  rw [← Graphics.fetchInto?_eq remains]
  rfl

/-- A failure leaves the table as it is. -/
theorem settles_throw (error : ε) :
    (throw error : Work Graphics ε α).Settles graphics (.error error) := rfl

theorem settles_pure (value : α) :
    (pure value : Work Graphics ε α).Settles graphics (.ok (value, graphics)) := rfl

/-- An object is taken, or the table is left alone. -/
theorem settles_add (taken : Graphics → Except ε (Handle × Graphics)) (wrap : Handle → α) :
    (wrap <$> add taken).Settles graphics (do
      let (handle, later) ← taken graphics
      return (wrap handle, later)) := by
  show (wrap <$> (ofResult (taken graphics) >>= fun (handle, later) => do
    set later
    return handle)).runOn graphics = _
  cases taken graphics <;> rfl

/-- A choice settles on what the chosen part does. -/
theorem settles_ite {condition : Prop} [Decidable condition]
    (hwork : work.Settles graphics result) (hother : other.Settles graphics alternative) :
    Settles (if condition then work else other) graphics
      (if condition then result else alternative) := by
  by_cases hcondition : condition
  · rw [if_pos hcondition, if_pos hcondition]
    exact hwork
  · rw [if_neg hcondition, if_neg hcondition]
    exact hother

/-- Work that comes after mere reading decides about the table. -/
theorem Reads.bind (hfirst : first.Reads graphics read)
    (hnext : ∀ value, (next value).Settles graphics (rest value)) :
    (first >>= next).Settles graphics (read >>= rest) := by
  unfold Reads at hfirst
  unfold Settles
  rw [runOn_bind, hfirst]
  cases read with
  | error error => rfl
  | ok value => exact hnext value

end Work

namespace Data

open Graphics (Remains)

variable {graphics : Graphics} {target source : Format} {layout : DibLayout}

/-! ## Decoding -/

/-- Rebuilds a bitmap in place. -/
def decodeBitmapInPlace (format : Format) (payload : Bytes) : Work Graphics PayloadError Data :=
  match BitmapHeader.parse? payload with
  | none => throw (.malformed format .truncatedHeader)
  | some header =>
    if header.widthBytes < 0 then throw (.malformed format .invalidRowSize)
    else if payload.length - BitmapHeader.headerSize
        < header.widthBytes.toInt.toNat * header.height.toInt.natAbs then
      throw (.malformed format .truncatedBits)
    else if header.bits ≠ 0 then throw (.unsupportedCrossProcess format)
    else bitmap <$> Work.add (rebuild · format .bitmapBits payload)

/-- Rebuilds a palette in place. -/
def decodePaletteInPlace (format : Format) (payload : Bytes) : Work Graphics PayloadError Data :=
  match Bytes.u16? (payload.drop 2) with
  | none => throw (.malformed format .truncatedHeader)
  | some (count, _) =>
    let size := 4 + count.toNat * 4
    if payload.length < size then throw (.malformed format .truncatedEntries)
    else palette <$> Work.add (rebuild · format .palette (payload.take size))

/-- Rebuilds the metafile of a picture in place. -/
def decodePictInPlace (format : Format) (payload : Bytes) : Work Graphics PayloadError Data :=
  if payload.length ≤ MetafilePict.headerSize then throw (.malformed format .noMetafileBits)
  else match MetafilePict.parse? payload with
  | none => throw (.malformed format .truncatedHeader)
  | some pict =>
    (fun handle => metafilePict { pict with metafile := some handle }) <$>
      Work.add (rebuild · format .metafile (payload.drop MetafilePict.headerSize))

/-- The value of a payload, its object being rebuilt in place. -/
def decodeInPlace (format : Format) (payload : Bytes) : Work Graphics PayloadError Data :=
  match format.shape with
  | .memory => return bytes payload
  | .bitmap =>
    if format = Format.dspBitmap then throw (.unsupportedCrossProcess format)
    else decodeBitmapInPlace format payload
  | .palette => decodePaletteInPlace format payload
  | .enhMetafile => enhMetafile <$> Work.add (rebuild · format .enhMetafile payload)
  | .metafilePict => decodePictInPlace format payload

/-- A bitmap is decoded in place to what it is decoded to. -/
theorem settles_decodeBitmap (format : Format) (payload : Bytes) :
    (decodeBitmapInPlace format payload).Settles graphics
      (decodeBitmap graphics format payload) := by
  unfold decodeBitmapInPlace decodeBitmap
  cases BitmapHeader.parse? payload with
  | none => exact Work.settles_throw _
  | some header =>
      refine Work.settles_ite (Work.settles_throw _) ?_
      refine Work.settles_ite (Work.settles_throw _) ?_
      exact Work.settles_ite (Work.settles_throw _) (Work.settles_add _ bitmap)

theorem settles_decodePalette (format : Format) (payload : Bytes) :
    (decodePaletteInPlace format payload).Settles graphics
      (decodePalette graphics format payload) := by
  unfold decodePaletteInPlace decodePalette
  cases Bytes.u16? (payload.drop 2) with
  | none => exact Work.settles_throw _
  | some entry =>
      exact Work.settles_ite (Work.settles_throw _) (Work.settles_add _ palette)

theorem settles_decodePict (format : Format) (payload : Bytes) :
    (decodePictInPlace format payload).Settles graphics
      (decodePict graphics format payload) := by
  unfold decodePictInPlace decodePict
  refine Work.settles_ite (Work.settles_throw _) ?_
  cases MetafilePict.parse? payload with
  | none => exact Work.settles_throw _
  | some pict => exact Work.settles_add _ _

/-- Decoding in place gives the value with its table, or fails and leaves the table as it was. -/
theorem settles_decode (format : Format) (payload : Bytes) :
    (decodeInPlace format payload).Settles graphics (decode graphics format payload) := by
  unfold decodeInPlace decode
  cases format.shape with
  | memory => exact Work.settles_pure _
  | bitmap =>
      exact Work.settles_ite (Work.settles_throw _) (settles_decodeBitmap format payload)
  | palette => exact settles_decodePalette format payload
  | enhMetafile => exact Work.settles_add _ enhMetafile
  | metafilePict => exact settles_decodePict format payload

/-! ## Conversions -/

/-- A bitmap from a packed one, in place. -/
def toBitmapInPlace (target source : Format) (layout : DibLayout) (data : Data) :
    Work Graphics ConversionError Data := do
  let flat ← Work.ofResult (data.expectBytes source)
  if (DibHeader.parse? flat).isNone then throw (.malformed source)
  else bitmap <$> Work.add fun graphics =>
    orFail (.graphics target) (graphics.reconstruct? layout.kind flat)

/-- A packed bitmap from a bitmap, fetched into a buffer. -/
def toPackedInPlace (remains : Remains) (target source : Format) (layout : DibLayout) :
    Data → Work Graphics ConversionError Data
  | bitmap handle => bytes <$> Work.fetch remains (.graphics target) layout.kind handle
  | _ => throw (.shape source)

/-- A picture from an enhanced metafile, in place. -/
def toPictureInPlace (remains : Remains) (target source : Format) :
    Data → Work Graphics ConversionError Data
  | enhMetafile handle => do
    let frame ← Work.fetch remains (.graphics target) .enhMetafileFrame handle
    let (left, frame) ← Work.ofResult (orFail (.graphics target) (Bytes.i32? frame))
    let (top, frame) ← Work.ofResult (orFail (.graphics target) (Bytes.i32? frame))
    let (right, frame) ← Work.ofResult (orFail (.graphics target) (Bytes.i32? frame))
    let (bottom, _) ← Work.ofResult (orFail (.graphics target) (Bytes.i32? frame))
    let bits ← Work.fetch remains (.graphics target) .winMetafile handle
    (fun metafile =>
      metafilePict ⟨MetafilePict.isotropic, right - left, bottom - top, some metafile⟩) <$>
        Work.add fun graphics => orFail (.graphics target) (graphics.reconstruct? .metafile bits)
  | _ => throw (.shape source)

/-- An enhanced metafile from a picture, in place. -/
def toEnhancedInPlace (remains : Remains) (target source : Format) :
    Data → Work Graphics ConversionError Data
  | metafilePict pict => do
    let metafile ← Work.ofResult (orFail (.malformed source) pict.metafile)
    let bits ← Work.fetch remains (.graphics target) .metafile metafile
    enhMetafile <$> Work.add fun graphics =>
      orFail (.graphics target) (graphics.reconstruct? .winMetafile (pict.write ++ bits))
  | _ => throw (.shape source)

/-- A value of the format `target` from a value of the format `source`, in place. -/
def convertInPlace (remains : Remains) (target source : Format) (data : Data)
    (text : TextSettings) : Work Graphics ConversionError Data :=
  match target.form?, source.form? with
  | some .narrowText, some .wideText => do
    let wide ← Work.ofResult (data.expectBytes source)
    return narrowed text target (Utf16.ofBytes wide)
  | some .narrowText, some .narrowText => do
    let narrow ← Work.ofResult (data.expectBytes source)
    return narrowed text target ((text.codePage source).toWide narrow)
  | some .wideText, some .narrowText => do
    let narrow ← Work.ofResult (data.expectBytes source)
    return bytes (Utf16.toBytes ((text.codePage source).toWide narrow))
  | some .bitmap, some (.packed layout) => toBitmapInPlace target source layout data
  | some (.packed layout), some .bitmap => toPackedInPlace remains target source layout data
  | some (.packed layout), some (.packed _) => do
    let flat ← Work.ofResult (data.expectBytes source)
    let converted ← Work.ofResult (orFail (.malformed source) (Dib.convert? flat layout))
    return bytes converted
  | some .picture, some .enhanced => toPictureInPlace remains target source data
  | some .enhanced, some .picture => toEnhancedInPlace remains target source data
  | _, _ => throw (.unsupported target source)

variable (remains : Remains) (data : Data) (text : TextSettings)

/-- A packed bitmap is unpacked in place to what it is unpacked to. -/
theorem settles_toBitmap : (toBitmapInPlace target source layout data).Settles graphics
    (toBitmap graphics target source layout data) := by
  unfold toBitmapInPlace toBitmap
  refine (Work.reads_ofResult _).bind fun flat => ?_
  cases (DibHeader.parse? flat).isNone with
  | true => exact Work.settles_throw _
  | false => exact Work.settles_add _ bitmap

/-- A bitmap is packed in place as it is otherwise. -/
theorem settles_toPacked :
    (toPackedInPlace remains target source layout data).Settles graphics
      (toPacked graphics target source layout data) := by
  cases data with
  | bitmap handle => exact (Work.reads_fetch remains _ _ _).bind fun flat => Work.settles_pure _
  | bytes | palette | enhMetafile | metafilePict => exact Work.settles_throw _

/-- An enhanced metafile is made a picture in place. -/
theorem settles_toPicture : (toPictureInPlace remains target source data).Settles graphics
    (toPicture graphics target source data) := by
  cases data with
  | enhMetafile handle =>
      refine (Work.reads_fetch remains _ _ _).bind fun frame => ?_
      refine (Work.reads_ofResult _).bind fun left => ?_
      refine (Work.reads_ofResult _).bind fun top => ?_
      refine (Work.reads_ofResult _).bind fun right => ?_
      refine (Work.reads_ofResult _).bind fun bottom => ?_
      exact (Work.reads_fetch remains _ _ _).bind fun bits => Work.settles_add _ _
  | bytes | bitmap | palette | metafilePict => exact Work.settles_throw _

/-- A picture is made an enhanced metafile in place. -/
theorem settles_toEnhanced : (toEnhancedInPlace remains target source data).Settles graphics
    (toEnhanced graphics target source data) := by
  cases data with
  | metafilePict pict =>
      refine (Work.reads_ofResult _).bind fun metafile => ?_
      exact (Work.reads_fetch remains _ _ _).bind fun bits => Work.settles_add _ enhMetafile
  | bytes | bitmap | palette | enhMetafile => exact Work.settles_throw _

/-- Converting in place gives the value with its table, or fails and leaves the table as it was,
whatever failed extractions leave in their buffers. -/
theorem settles_convert (target source : Format) :
    (data.convertInPlace remains target source text).Settles graphics
      (data.convert graphics target source text) := by
  unfold convertInPlace convert
  cases target.form? with
  | none => exact Work.settles_throw _
  | some form =>
      cases source.form? with
      | none => cases form <;> exact Work.settles_throw _
      | some origin =>
          cases form <;> cases origin
          case narrowText.wideText =>
            exact (Work.reads_ofResult _).bind fun wide => Work.settles_pure _
          case narrowText.narrowText | wideText.narrowText =>
            exact (Work.reads_ofResult _).bind fun narrow => Work.settles_pure _
          case bitmap.packed layout => exact settles_toBitmap data
          case packed.bitmap layout => exact settles_toPacked remains data
          case packed.packed layout former =>
            refine (Work.reads_ofResult _).bind fun flat => ?_
            exact (Work.reads_ofResult _).bind fun moved => Work.settles_pure _
          case picture.enhanced => exact settles_toPicture remains data
          case enhanced.picture => exact settles_toEnhanced remains data
          all_goals exact Work.settles_throw _

end Data

end Pasteboard
