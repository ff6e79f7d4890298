import Pasteboard.Format
import Pasteboard.Text.Utf8
import Pasteboard.Text.Utf16

/-!
# Code pages

Narrow text is stored in one of two code pages that the locale of the clipboard picks: the primary
one for most formats, the secondary one for `Format.oemText`. A single-byte page extends ASCII by
128 characters. What a page cannot represent, and what is no character at all, becomes a question
mark.
-/

namespace Pasteboard

/-- A supported encoding of narrow text. -/
inductive CodePage where
  /-- Western European. -/
  | windows1252
  /-- The first code page of personal computers. -/
  | cp437
  | utf8
deriving DecidableEq

namespace CodePage

/-- The registered number of a page. -/
def id : CodePage → UInt32
  | windows1252 => 1252
  | cp437 => 437
  | utf8 => 65001

/-- The page with a registered number, if it is supported. -/
def ofId? (id : UInt32) : Option CodePage :=
  if id = 1252 then some windows1252
  else if id = 437 then some cp437
  else if id = 65001 then some utf8
  else none

/-- The characters of the bytes from 0x80 on in Windows-1252; bytes without a character stand for a
question mark. -/
def upper1252 : List Char :=
  ['€', '?', '‚', 'ƒ', '„', '…', '†', '‡', 'ˆ', '‰', 'Š', '‹', 'Œ', '?', 'Ž', '?',
   '?', '‘', '’', '“', '”', '•', '–', '—', '˜', '™', 'š', '›', 'œ', '?', 'ž', 'Ÿ']
  ++ (List.range 96).map fun n => Char.ofNat (0xa0 + n)

/-- The characters of the bytes from 0x80 on in code page 437. -/
def upper437 : List Char :=
  ['Ç', 'ü', 'é', 'â', 'ä', 'à', 'å', 'ç', 'ê', 'ë', 'è', 'ï', 'î', 'ì', 'Ä', 'Å',
   'É', 'æ', 'Æ', 'ô', 'ö', 'ò', 'û', 'ù', 'ÿ', 'Ö', 'Ü', '¢', '£', '¥', '₧', 'ƒ',
   'á', 'í', 'ó', 'ú', 'ñ', 'Ñ', 'ª', 'º', '¿', '⌐', '¬', '½', '¼', '¡', '«', '»',
   '░', '▒', '▓', '│', '┤', '╡', '╢', '╖', '╕', '╣', '║', '╗', '╝', '╜', '╛', '┐',
   '└', '┴', '┬', '├', '─', '┼', '╞', '╟', '╚', '╔', '╩', '╦', '╠', '═', '╬', '╧',
   '╨', '╤', '╥', '╙', '╘', '╒', '╓', '╫', '╪', '┘', '┌', '█', '▄', '▌', '▐', '▀',
   'α', 'ß', 'Γ', 'π', 'Σ', 'σ', 'µ', 'τ', 'Φ', 'Θ', 'Ω', 'δ', '∞', 'φ', 'ε', '∩',
   '≡', '±', '≥', '≤', '⌠', '⌡', '÷', '≈', '°', '∙', '·', '√', 'ⁿ', '²', '■', '\u00a0']

/-- The character of a byte in the page with the given upper half. -/
def decodeByte (upper : List Char) (b : UInt8) : Char :=
  if b < 0x80 then Char.ofNat b.toNat else upper.getD (b.toNat - 0x80) '?'

/-- The byte of a character in Windows-1252. -/
def encode1252 (c : Char) : UInt8 :=
  if c.toNat < 0x80 then UInt8.ofNat c.toNat
  else match c with
    | '€' => 0x80
    | '‚' => 0x82
    | 'ƒ' => 0x83
    | '„' => 0x84
    | '…' => 0x85
    | '†' => 0x86
    | '‡' => 0x87
    | 'ˆ' => 0x88
    | '‰' => 0x89
    | 'Š' => 0x8a
    | '‹' => 0x8b
    | 'Œ' => 0x8c
    | 'Ž' => 0x8e
    | '‘' => 0x91
    | '’' => 0x92
    | '“' => 0x93
    | '”' => 0x94
    | '•' => 0x95
    | '–' => 0x96
    | '—' => 0x97
    | '˜' => 0x98
    | '™' => 0x99
    | 'š' => 0x9a
    | '›' => 0x9b
    | 'œ' => 0x9c
    | 'ž' => 0x9e
    | 'Ÿ' => 0x9f
    | c => if 0xa0 ≤ c.toNat ∧ c.toNat ≤ 0xff then UInt8.ofNat c.toNat else 0x3f

/-- The byte of a character in the page with the given upper half. -/
def encodeByte (upper : List Char) (c : Char) : UInt8 :=
  if c.toNat < 0x80 then UInt8.ofNat c.toNat
  else match upper.idxOf? c with
    | some index => UInt8.ofNat (0x80 + index)
    | none => 0x3f

/-- The text of a byte string. -/
def decode : CodePage → Bytes → List Char
  | windows1252, bytes => bytes.map (decodeByte upper1252)
  | cp437, bytes => bytes.map (decodeByte upper437)
  | utf8, bytes => Utf8.decodeLossy bytes

/-- The byte string of a text. -/
def encode : CodePage → List Char → Bytes
  | windows1252, text => text.map encode1252
  | cp437, text => text.map (encodeByte upper437)
  | utf8, text => Utf8.encode text

/-- Narrow text as wide text. -/
def toWide (page : CodePage) (narrow : Bytes) : List UInt16 :=
  Utf16.encode (page.decode narrow)

/-- Wide text as narrow text; unpaired surrogates become question marks. -/
def fromWide (page : CodePage) (wide : List UInt16) : Bytes :=
  page.encode ((Utf16.pieces wide).map (·.getD '?'))

end CodePage

/-- The identifier of a locale. -/
abbrev Locale := UInt32

/-- English as written in the United States. -/
def Locale.enUS : Locale := 0x0409

/-- The locale of no language. -/
def Locale.invariant : Locale := 0x007f

/-- The two code pages of narrow text. -/
structure CodePages where
  primary : CodePage
  secondary : CodePage
deriving DecidableEq

/-- The western pages, which are in force unless others are chosen. -/
def CodePages.western : CodePages := ⟨.windows1252, .cp437⟩

/-- The code pages of a locale, if they are known; only the lower half of the identifier counts. -/
def Locale.codePages? (locale : Locale) : Option CodePages :=
  if locale &&& 0xffff = Locale.enUS || locale &&& 0xffff = Locale.invariant then
    some CodePages.western
  else none

/-- How narrow text is to be read. -/
structure TextSettings where
  locale : Locale
  /-- The pages of locales whose own pages are not known. -/
  fallback : CodePages

/-- The code page of text in a format. -/
def TextSettings.codePage (settings : TextSettings) (format : Format) : CodePage :=
  let pages := settings.locale.codePages?.getD settings.fallback
  if format = Format.oemText then pages.secondary else pages.primary

end Pasteboard
