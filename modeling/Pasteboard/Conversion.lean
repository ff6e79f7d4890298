import Pasteboard.Payload
import Pasteboard.Text.CodePage

/-!
# Conversions

`Data.convert` produces a value of one format from a value of another one of the same family: text
between code pages, pixels between bitmaps and packed bitmaps, drawings between the two kinds of
metafiles.
-/

namespace Pasteboard

/-- Why a value cannot be converted. -/
inductive ConversionError where
  | unsupported (target source : Format)
  /-- The value is not of the kind that its format carries. -/
  | shape (format : Format)
  | malformed (format : Format)
  /-- The graphics table has no such form or refuses it. -/
  | graphics (format : Format)
deriving DecidableEq

/-- The wording of a conversion error. -/
def ConversionError.message : ConversionError → String
  | unsupported target source => target.shown ++ " cannot be derived from " ++ source.shown
  | shape format => format.shown ++ " data has an unexpected shape"
  | malformed format => "Malformed " ++ format.shown ++ " data"
  | graphics format => "The graphics subsystem couldn't produce " ++ format.shown

/-- The forms in which the members of the families come. -/
inductive Form where
  | wideText
  | narrowText
  | bitmap
  | packed (layout : DibLayout)
  | enhanced
  | picture
deriving DecidableEq

/-- The form of a family member. -/
def Format.form? (format : Format) : Option Form :=
  if format = Format.unicodeText then some .wideText
  else if format = Format.text ∨ format = Format.oemText then some .narrowText
  else if format = Format.bitmap then some .bitmap
  else if format = Format.dib then some (.packed .short)
  else if format = Format.dibV5 then some (.packed .long)
  else if format = Format.enhMetafile then some .enhanced
  else if format = Format.metafilePict then some .picture
  else none

/-- The flat form of a bitmap in a layout. -/
def DibLayout.kind : DibLayout → BitsKind
  | short => .dib
  | long => .dibV5

/-- A missing result as an error. -/
def orFail {α : Type} (error : ConversionError) : Option α → Except ConversionError α
  | some value => .ok value
  | none => .error error

namespace Data

/-- The byte string of a value of a format that carries one. -/
def expectBytes (format : Format) (data : Data) : Except ConversionError Bytes :=
  orFail (.shape format) data.bytes?

/-- Wide text in a narrow format. -/
def narrowed (text : TextSettings) (target : Format) (wide : List UInt16) : Data :=
  bytes ((text.codePage target).fromWide wide)

/-- A bitmap from a packed one. -/
def toBitmap (graphics : Graphics) (target source : Format) (layout : DibLayout) (data : Data) :
    Except ConversionError (Data × Graphics) := do
  let flat ← data.expectBytes source
  if (DibHeader.parse? flat).isNone then throw (.malformed source)
  let (handle, graphics) ← orFail (.graphics target) (graphics.reconstruct? layout.kind flat)
  return (bitmap handle, graphics)

/-- A packed bitmap from a bitmap. -/
def toPacked (graphics : Graphics) (target source : Format) (layout : DibLayout) :
    Data → Except ConversionError (Data × Graphics)
  | bitmap handle => do
    let flat ← orFail (.graphics target) (graphics.fetch? layout.kind handle)
    return (bytes flat, graphics)
  | _ => .error (.shape source)

/-- A picture from an enhanced metafile: its extents are those of the frame. -/
def toPicture (graphics : Graphics) (target source : Format) :
    Data → Except ConversionError (Data × Graphics)
  | enhMetafile handle => do
    let frame ← orFail (.graphics target) (graphics.fetch? .enhMetafileFrame handle)
    let (left, frame) ← orFail (.graphics target) (Bytes.i32? frame)
    let (top, frame) ← orFail (.graphics target) (Bytes.i32? frame)
    let (right, frame) ← orFail (.graphics target) (Bytes.i32? frame)
    let (bottom, _) ← orFail (.graphics target) (Bytes.i32? frame)
    let bits ← orFail (.graphics target) (graphics.fetch? .winMetafile handle)
    let (metafile, graphics) ← orFail (.graphics target) (graphics.reconstruct? .metafile bits)
    return (metafilePict ⟨MetafilePict.isotropic, right - left, bottom - top, some metafile⟩,
      graphics)
  | _ => .error (.shape source)

/-- An enhanced metafile from a picture. -/
def toEnhanced (graphics : Graphics) (target source : Format) :
    Data → Except ConversionError (Data × Graphics)
  | metafilePict pict => do
    let metafile ← orFail (.malformed source) pict.metafile
    let bits ← orFail (.graphics target) (graphics.fetch? .metafile metafile)
    let (handle, graphics) ←
      orFail (.graphics target) (graphics.reconstruct? .winMetafile (pict.write ++ bits))
    return (enhMetafile handle, graphics)
  | _ => .error (.shape source)

/-- A value of the format `target` from a value of the format `source`. -/
def convert (graphics : Graphics) (target source : Format) (data : Data) (text : TextSettings) :
    Except ConversionError (Data × Graphics) :=
  match target.form?, source.form? with
  | some .narrowText, some .wideText => do
    let wide ← data.expectBytes source
    return (narrowed text target (Utf16.ofBytes wide), graphics)
  | some .narrowText, some .narrowText => do
    let narrow ← data.expectBytes source
    return (narrowed text target ((text.codePage source).toWide narrow), graphics)
  | some .wideText, some .narrowText => do
    let narrow ← data.expectBytes source
    return (bytes (Utf16.toBytes ((text.codePage source).toWide narrow)), graphics)
  | some .bitmap, some (.packed layout) => toBitmap graphics target source layout data
  | some (.packed layout), some .bitmap => toPacked graphics target source layout data
  | some (.packed layout), some (.packed _) => do
    let flat ← data.expectBytes source
    let converted ← orFail (.malformed source) (Dib.convert? flat layout)
    return (bytes converted, graphics)
  | some .picture, some .enhanced => toPicture graphics target source data
  | some .enhanced, some .picture => toEnhanced graphics target source data
  | _, _ => .error (.unsupported target source)

end Data

end Pasteboard
