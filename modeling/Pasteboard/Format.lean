import Pasteboard.Text.Spelling

/-!
# Formats

An entry of the shared clipboard is tagged by a format, a 32-bit identifier. A few identifiers
have a fixed meaning and a name of their own, a range of them is allocated by name at run time, and
eight of the fixed ones fall into three families whose members can be derived from one another.
-/

namespace Pasteboard

/-- A tag that says what an entry holds. -/
@[ext] structure Format where
  id : UInt32
deriving DecidableEq

namespace Format

/-- No format; also the end of an enumeration. -/
def null : Format := ⟨0⟩

/-- Text in the primary narrow code page of the locale. -/
def text : Format := ⟨1⟩

/-- A device-dependent bitmap. -/
def bitmap : Format := ⟨2⟩

/-- A metafile together with how to map it. -/
def metafilePict : Format := ⟨3⟩

/-- Text in the secondary narrow code page of the locale. -/
def oemText : Format := ⟨7⟩

/-- A packed device-independent bitmap with a short header. -/
def dib : Format := ⟨8⟩

/-- A palette of colours. -/
def palette : Format := ⟨9⟩

/-- Text as little-endian UTF-16. -/
def unicodeText : Format := ⟨13⟩

/-- An enhanced metafile. -/
def enhMetafile : Format := ⟨14⟩

/-- The locale of the text on the clipboard. -/
def locale : Format := ⟨16⟩

/-- A packed device-independent bitmap with a long header. -/
def dibV5 : Format := ⟨17⟩

/-- A bitmap for display only. -/
def dspBitmap : Format := ⟨0x82⟩

/-- A metafile picture for display only. -/
def dspMetafilePict : Format := ⟨0x83⟩

/-- An enhanced metafile for display only. -/
def dspEnhMetafile : Format := ⟨0x8e⟩

/-- The names of the formats with a fixed meaning. -/
def builtins : List (UInt32 × String) :=
  [(1, "CF_TEXT"), (2, "CF_BITMAP"), (3, "CF_METAFILEPICT"), (4, "CF_SYLK"), (5, "CF_DIF"),
   (6, "CF_TIFF"), (7, "CF_OEMTEXT"), (8, "CF_DIB"), (9, "CF_PALETTE"), (10, "CF_PENDATA"),
   (11, "CF_RIFF"), (12, "CF_WAVE"), (13, "CF_UNICODETEXT"), (14, "CF_ENHMETAFILE"),
   (15, "CF_HDROP"), (16, "CF_LOCALE"), (17, "CF_DIBV5"), (0x80, "CF_OWNERDISPLAY"),
   (0x81, "CF_DSPTEXT"), (0x82, "CF_DSPBITMAP"), (0x83, "CF_DSPMETAFILEPICT"),
   (0x8e, "CF_DSPENHMETAFILE")]

/-- The first identifier after the well-known ones. -/
def wellKnownEnd : UInt32 := 18

/-- The first identifier allocated by name. -/
def registeredFirst : UInt32 := 0xc000

/-- The last identifier allocated by name. -/
def registeredLast : UInt32 := 0xffff

/-- How many identifiers can be allocated by name. -/
def registeredCapacity : Nat := 0x4000

/-- Whether the identifier is one of the well-known ones. -/
def isWellKnown (format : Format) : Bool :=
  format.id != 0 && decide (format.id < wellKnownEnd)

/-- Whether the identifier was allocated by name. -/
def isRegistered (format : Format) : Bool :=
  decide (registeredFirst ≤ format.id) && decide (format.id ≤ registeredLast)

/-- The fixed name of a format, if it has one. -/
def builtinName? (format : Format) : Option String :=
  builtins.lookup format.id

/-- How a format is written in messages: its fixed name, else at least four hexadecimal digits. -/
def shown (format : Format) : String :=
  format.builtinName?.getD (hexPadded 4 format.id.toNat)

/-- How a format is written when the name it was registered under may be known. -/
def labelled (format : Format) : Option String → String
  | some name => hexPadded 4 format.id.toNat ++ " " ++ quote name
  | none => format.shown

end Format

/-- Formats that can be derived from one another. -/
inductive Family where
  | text
  | raster
  | vector
deriving DecidableEq

namespace Family

/-- Every family, in the order in which derivations are planned. -/
def all : List Family := [text, raster, vector]

/-- The members of a family, richest first: the first one present is what the others are derived
from. -/
def members : Family → List Format
  | text => [Format.unicodeText, Format.text, Format.oemText]
  | raster => [Format.bitmap, Format.dibV5, Format.dib]
  | vector => [Format.enhMetafile, Format.metafilePict]

end Family

/-- The family that a format belongs to. -/
def Format.family? (format : Format) : Option Family :=
  Family.all.find? fun family => family.members.contains format

end Pasteboard
