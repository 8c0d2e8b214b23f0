import VideoGreeting.Number.Numeral
import VideoGreeting.Text.Blank
import VideoGreeting.Text.Bytes
import VideoGreeting.Text.CodePage
import VideoGreeting.Text.Multibyte

/-!
# Character sets

Text comes as bytes in a character set that is named by a label. A byte order mark at the start of
the bytes tells the set more surely than any label. Bytes that stand for no character become the
replacement character.
-/

namespace VideoGreeting.Text

/-- A character set. -/
inductive Charset where
  | utf8
  /-- 16-bit units, of which the high byte comes first when `highFirst`. -/
  | wide (highFirst : Bool)
  /-- One byte for every character. -/
  | page (upper : String)
  | shiftJis
  | eucJapanese
  | iso2022Japanese
  | eucKorean
  | gb18030
  | big5
  /-- A set of which nothing is read. -/
  | unreadable
  deriving Repr, DecidableEq

/-! ## 16-bit units -/

/-- The 16-bit units of a byte sequence. A single byte at the end has no unit. -/
def units (highFirst : Bool) : Bytes → List (Option Nat)
  | [] => []
  | [_] => [none]
  | a :: b :: rest =>
    let unit := if highFirst then a.toNat * 256 + b.toNat else b.toNat * 256 + a.toNat
    some unit :: units highFirst rest

/-- The characters that 16-bit units write; a surrogate without its partner cannot be read. -/
def decodeUnits : List (Option Nat) → List (Option Char)
  | [] => []
  | none :: rest => none :: decodeUnits rest
  | some high :: some low :: rest =>
    if 0xd800 ≤ high ∧ high < 0xdc00 then
      if 0xdc00 ≤ low ∧ low < 0xe000 then
        some (Char.ofNat (0x10000 + (high - 0xd800) * 0x400 + (low - 0xdc00))) :: decodeUnits rest
      else none :: decodeUnits (some low :: rest)
    else if 0xdc00 ≤ high ∧ high < 0xe000 then none :: decodeUnits (some low :: rest)
    else some (Char.ofNat high) :: decodeUnits (some low :: rest)
  | some unit :: none :: rest =>
    (if 0xd800 ≤ unit ∧ unit < 0xe000 then none else some (Char.ofNat unit)) ::
      (if 0xd800 ≤ unit ∧ unit < 0xdc00 then decodeUnits rest else decodeUnits (none :: rest))
  | [some unit] => [if 0xd800 ≤ unit ∧ unit < 0xe000 then none else some (Char.ofNat unit)]

/-! ## Code pages -/

/-- The character of a byte: the last byte has the last character of the page. -/
def pageChar (upper : List Char) (b : UInt8) : Char :=
  let first := 0x100 - upper.length
  if b.toNat < first then Char.ofNat b.toNat
  else (upper[b.toNat - first]?).getD replacement

namespace Charset

/-! ## Reading -/

/-- The text that bytes write in a character set. -/
def text : Charset → Bytes → String
  | utf8, bytes => lenient bytes
  | wide highFirst, bytes =>
    String.ofList ((decodeUnits (units highFirst bytes)).map (·.getD replacement))
  | page upper, bytes => String.ofList (bytes.map (pageChar upper.toList))
  | shiftJis, bytes => Text.shiftJis bytes
  | eucJapanese, bytes => Text.eucJapanese bytes
  | iso2022Japanese, bytes => Text.iso2022Japanese bytes
  | eucKorean, bytes => Text.eucKorean bytes
  | gb18030, bytes => Text.gb18030 bytes
  | big5, bytes => Text.big5 bytes
  | unreadable, bytes => if bytes.isEmpty then "" else replacement.toString

/-- The character set that a byte order mark tells, and the bytes behind the mark. -/
def ofMark? : Bytes → Option (Charset × Bytes)
  | 0xef :: 0xbb :: 0xbf :: rest => some (utf8, rest)
  | 0xff :: 0xfe :: rest => some (wide false, rest)
  | 0xfe :: 0xff :: rest => some (wide true, rest)
  | _ => none

/-- The text that bytes write, in the character set of their byte order mark if they have one. -/
def read (c : Charset) (bytes : Bytes) : String :=
  match ofMark? bytes with
  | some (marked, rest) => marked.text rest
  | none => c.text bytes

/-! ## Labels -/

/-- The character sets with their labels. -/
def table : List (Charset × List String) :=
  [ (.utf8, ["unicode-1-1-utf-8", "unicode11utf8", "unicode20utf8", "utf-8", "utf8",
       "x-unicode20utf8"]),
    (.wide true, ["unicodefffe", "utf-16be"]),
    (.wide false, ["csunicode", "iso-10646-ucs-2", "ucs-2", "unicode", "unicodefeff", "utf-16",
       "utf-16le"]),
    (.page CodePage.ibm866, ["866", "cp866", "csibm866", "ibm866"]),
    (.page CodePage.isoPart2, ["csisolatin2", "iso-8859-2", "iso-ir-101", "iso8859-2", "iso88592",
       "iso_8859-2", "iso_8859-2:1987", "l2", "latin2"]),
    (.page CodePage.isoPart3, ["csisolatin3", "iso-8859-3", "iso-ir-109", "iso8859-3", "iso88593",
       "iso_8859-3", "iso_8859-3:1988", "l3", "latin3"]),
    (.page CodePage.isoPart4, ["csisolatin4", "iso-8859-4", "iso-ir-110", "iso8859-4", "iso88594",
       "iso_8859-4", "iso_8859-4:1988", "l4", "latin4"]),
    (.page CodePage.isoPart5, ["csisolatincyrillic", "cyrillic", "iso-8859-5", "iso-ir-144",
       "iso8859-5", "iso88595", "iso_8859-5", "iso_8859-5:1988"]),
    (.page CodePage.isoPart6, ["arabic", "asmo-708", "csiso88596e", "csiso88596i",
       "csisolatinarabic", "ecma-114", "iso-8859-6", "iso-8859-6-e", "iso-8859-6-i", "iso-ir-127",
       "iso8859-6", "iso88596", "iso_8859-6", "iso_8859-6:1987"]),
    (.page CodePage.isoPart7, ["csisolatingreek", "ecma-118", "elot_928", "greek", "greek8",
       "iso-8859-7", "iso-ir-126", "iso8859-7", "iso88597", "iso_8859-7", "iso_8859-7:1987",
       "sun_eu_greek"]),
    (.page CodePage.isoPart8, ["csiso88598e", "csisolatinhebrew", "hebrew", "iso-8859-8",
       "iso-8859-8-e", "iso-ir-138", "iso8859-8", "iso88598", "iso_8859-8", "iso_8859-8:1988",
       "visual", "csiso88598i", "iso-8859-8-i", "logical"]),
    (.page CodePage.isoPart10, ["csisolatin6", "iso-8859-10", "iso-ir-157", "iso8859-10",
       "iso885910", "l6", "latin6"]),
    (.page CodePage.isoPart13, ["iso-8859-13", "iso8859-13", "iso885913"]),
    (.page CodePage.isoPart14, ["iso-8859-14", "iso8859-14", "iso885914"]),
    (.page CodePage.isoPart15, ["csisolatin9", "iso-8859-15", "iso8859-15", "iso885915",
       "iso_8859-15", "l9"]),
    (.page CodePage.isoPart16, ["iso-8859-16"]),
    (.page CodePage.koi8r, ["cskoi8r", "koi", "koi8", "koi8-r", "koi8_r"]),
    (.page CodePage.koi8u, ["koi8-ru", "koi8-u"]),
    (.page CodePage.macintosh, ["csmacintosh", "mac", "macintosh", "x-mac-roman"]),
    (.page CodePage.windows874, ["dos-874", "iso-8859-11", "iso8859-11", "iso885911", "tis-620",
       "windows-874"]),
    (.page CodePage.windows1250, ["cp1250", "windows-1250", "x-cp1250"]),
    (.page CodePage.windows1251, ["cp1251", "windows-1251", "x-cp1251"]),
    (.page CodePage.windows1252, ["ansi_x3.4-1968", "ascii", "cp1252", "cp819", "csisolatin1",
       "ibm819", "iso-8859-1", "iso-ir-100", "iso8859-1", "iso88591", "iso_8859-1",
       "iso_8859-1:1987", "l1", "latin1", "us-ascii", "windows-1252", "x-cp1252"]),
    (.page CodePage.windows1253, ["cp1253", "windows-1253", "x-cp1253"]),
    (.page CodePage.windows1254, ["cp1254", "csisolatin5", "iso-8859-9", "iso-ir-148", "iso8859-9",
       "iso88599", "iso_8859-9", "iso_8859-9:1989", "l5", "latin5", "windows-1254", "x-cp1254"]),
    (.page CodePage.windows1255, ["cp1255", "windows-1255", "x-cp1255"]),
    (.page CodePage.windows1256, ["cp1256", "windows-1256", "x-cp1256"]),
    (.page CodePage.windows1257, ["cp1257", "windows-1257", "x-cp1257"]),
    (.page CodePage.windows1258, ["cp1258", "windows-1258", "x-cp1258"]),
    (.page CodePage.macintoshCyrillic, ["x-mac-cyrillic", "x-mac-ukrainian"]),
    (.page CodePage.userDefined, ["x-user-defined"]),
    (.shiftJis, ["csshiftjis", "ms932", "ms_kanji", "shift-jis", "shift_jis", "sjis", "windows-31j",
       "x-sjis"]),
    (.eucJapanese, ["cseucpkdfmtjapanese", "euc-jp", "x-euc-jp"]),
    (.iso2022Japanese, ["csiso2022jp", "iso-2022-jp"]),
    (.eucKorean, ["cseuckr", "csksc56011987", "euc-kr", "iso-ir-149", "korean", "ks_c_5601-1987",
       "ks_c_5601-1989", "ksc5601", "ksc_5601", "windows-949"]),
    (.gb18030, ["chinese", "csgb2312", "csiso58gb231280", "gb18030", "gb2312", "gb_2312",
       "gb_2312-80", "gbk", "iso-ir-58", "x-gbk"]),
    (.big5, ["big5", "big5-hkscs", "cn-big5", "csbig5", "x-x-big5"]),
    (.unreadable, ["csiso2022kr", "hz-gb-2312", "iso-2022-cn", "iso-2022-cn-ext", "iso-2022-kr",
       "replacement"]) ]

/-- Whether a character may stand around a label. -/
def isPadding (c : Char) : Bool := c == ' ' || c == '\t' || c == '\n' || c == '\x0c' || c == '\r'

/-- The character set with a label, in any case of letters. -/
def ofLabel? (label : String) : Option Charset :=
  let label := String.ofList ((stripBy isPadding label.toList).map Number.lowerAscii)
  (table.find? fun entry => entry.2.contains label).map (·.1)

end Charset

end VideoGreeting.Text
