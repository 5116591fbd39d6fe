import SheetIntake.Text.Blank
import SheetIntake.Text.Case
import SheetIntake.Text.Charset.Gb18030
import SheetIntake.Text.Charset.Japanese
import SheetIntake.Text.Charset.SingleByte
import SheetIntake.Text.Charset.Wide
import SheetIntake.Text.MediaType

/-! # Character sets

A content type names the character set of a text.  Bytes that make no sense in it become
U+FFFD.  A byte order mark at the front is dropped and decides, whatever has been named. -/

namespace SheetIntake.Text

/-- A character set. -/
inductive Charset where
  | utf8
  | utf16 (bigEndian : Bool)
  /-- ASCII, and the characters of the bytes from 80 on. -/
  | bytes (upper : String)
  | gb18030
  | big5
  | korean
  /-- The Japanese sets in pairs, in high bytes and between escapes. -/
  | shiftedPairs
  | highBytes
  | escapes
  /-- The bytes from 80 on stand for characters that everybody may use as they like. -/
  | unassigned
  /-- Nothing can be read. -/
  | unreadable
deriving DecidableEq

namespace Charset

/-! ## Names -/

/-- The names of the character sets. -/
def names : List (Charset × List String) := [
  (.bytes windows1252, ["ansi_x3.4-1968", "ascii", "cp1252", "cp819", "csisolatin1", "ibm819",
    "iso-8859-1", "iso-ir-100", "iso8859-1", "iso88591", "iso_8859-1", "iso_8859-1:1987", "l1",
    "latin1", "us-ascii", "windows-1252", "x-cp1252"]),
  (.bytes ibm866, ["866", "cp866", "csibm866", "ibm866"]),
  (.bytes iso8859_2, ["csisolatin2", "iso-8859-2", "iso-ir-101", "iso8859-2", "iso88592",
    "iso_8859-2", "iso_8859-2:1987", "l2", "latin2"]),
  (.bytes iso8859_3, ["csisolatin3", "iso-8859-3", "iso-ir-109", "iso8859-3", "iso88593",
    "iso_8859-3", "iso_8859-3:1988", "l3", "latin3"]),
  (.bytes iso8859_4, ["csisolatin4", "iso-8859-4", "iso-ir-110", "iso8859-4", "iso88594",
    "iso_8859-4", "iso_8859-4:1988", "l4", "latin4"]),
  (.bytes iso8859_5, ["csisolatincyrillic", "cyrillic", "iso-8859-5", "iso-ir-144", "iso8859-5",
    "iso88595", "iso_8859-5", "iso_8859-5:1988"]),
  (.bytes iso8859_6, ["arabic", "asmo-708", "csiso88596e", "csiso88596i", "csisolatinarabic",
    "ecma-114", "iso-8859-6", "iso-8859-6-e", "iso-8859-6-i", "iso-ir-127", "iso8859-6",
    "iso88596", "iso_8859-6", "iso_8859-6:1987"]),
  (.bytes iso8859_7, ["csisolatingreek", "ecma-118", "elot_928", "greek", "greek8",
    "iso-8859-7", "iso-ir-126", "iso8859-7", "iso88597", "iso_8859-7", "iso_8859-7:1987",
    "sun_eu_greek"]),
  (.bytes iso8859_8, ["csiso88598e", "csisolatinhebrew", "hebrew", "iso-8859-8", "iso-8859-8-e",
    "iso-ir-138", "iso8859-8", "iso88598", "iso_8859-8", "iso_8859-8:1988", "visual",
    "csiso88598i", "iso-8859-8-i", "logical"]),
  (.bytes iso8859_10, ["csisolatin6", "iso-8859-10", "iso-ir-157", "iso8859-10", "iso885910",
    "l6", "latin6"]),
  (.bytes iso8859_13, ["iso-8859-13", "iso8859-13", "iso885913"]),
  (.bytes iso8859_14, ["iso-8859-14", "iso8859-14", "iso885914"]),
  (.bytes iso8859_15, ["csisolatin9", "iso-8859-15", "iso8859-15", "iso885915", "iso_8859-15",
    "l9"]),
  (.bytes iso8859_16, ["iso-8859-16"]),
  (.bytes koi8r, ["cskoi8r", "koi", "koi8", "koi8-r", "koi8_r"]),
  (.bytes koi8u, ["koi8-ru", "koi8-u"]),
  (.bytes macintosh, ["csmacintosh", "mac", "macintosh", "x-mac-roman"]),
  (.bytes macCyrillic, ["x-mac-cyrillic", "x-mac-ukrainian"]),
  (.bytes windows874, ["dos-874", "iso-8859-11", "iso8859-11", "iso885911", "tis-620",
    "windows-874"]),
  (.bytes windows1250, ["cp1250", "windows-1250", "x-cp1250"]),
  (.bytes windows1251, ["cp1251", "windows-1251", "x-cp1251"]),
  (.bytes windows1253, ["cp1253", "windows-1253", "x-cp1253"]),
  (.bytes windows1254, ["cp1254", "csisolatin5", "iso-8859-9", "iso-ir-148", "iso8859-9",
    "iso88599", "iso_8859-9", "iso_8859-9:1989", "l5", "latin5", "windows-1254", "x-cp1254"]),
  (.bytes windows1255, ["cp1255", "windows-1255", "x-cp1255"]),
  (.bytes windows1256, ["cp1256", "windows-1256", "x-cp1256"]),
  (.bytes windows1257, ["cp1257", "windows-1257", "x-cp1257"]),
  (.bytes windows1258, ["cp1258", "windows-1258", "x-cp1258"]),
  (.gb18030, ["chinese", "csgb2312", "csiso58gb231280", "gb18030", "gb2312", "gb_2312",
    "gb_2312-80", "gbk", "iso-ir-58", "x-gbk"]),
  (.big5, ["big5", "big5-hkscs", "cn-big5", "csbig5", "x-x-big5"]),
  (.korean, ["cseuckr", "csksc56011987", "euc-kr", "iso-ir-149", "korean", "ks_c_5601-1987",
    "ks_c_5601-1989", "ksc5601", "ksc_5601", "windows-949"]),
  (.shiftedPairs, ["csshiftjis", "ms932", "ms_kanji", "shift-jis", "shift_jis", "sjis",
    "windows-31j", "x-sjis"]),
  (.highBytes, ["cseucpkdfmtjapanese", "euc-jp", "x-euc-jp"]),
  (.escapes, ["csiso2022jp", "iso-2022-jp"]),
  (.utf16 true, ["unicodefffe", "utf-16be"]),
  (.utf16 false, ["csunicode", "iso-10646-ucs-2", "ucs-2", "unicode", "unicodefeff", "utf-16",
    "utf-16le"]),
  (.unassigned, ["x-user-defined"]),
  (.unreadable, ["csiso2022kr", "hz-gb-2312", "iso-2022-cn", "iso-2022-cn-ext", "iso-2022-kr",
    "replacement"])]

/-- The character set with a name, in any case and with blanks around it; UTF-8 if the name
is not known. -/
def ofName (name : String) : Charset :=
  let name := asciiLower (trim name)
  ((names.find? fun s => s.2.contains name).map Prod.fst).getD utf8

/-- The character set of a content type; UTF-8 if there is none that names another. -/
def ofContentType (contentType : Option String) : Charset :=
  (((contentType.bind MediaType.parse?).bind (·.parameter? "charset")).map ofName).getD utf8

/-! ## Reading -/

/-- The characters of bytes behind a byte order mark. -/
def decodeBody (c : Charset) (bs : List UInt8) : List Char :=
  let ns := bs.map UInt8.toNat
  match c with
  | utf8 => Utf8.decodeLossy bs
  | utf16 bigEndian => decodeWide bigEndian bs
  | bytes upper =>
    ns.map fun n =>
      if n < 0x80 then Char.ofNat n else (upper.toList[n - 0x80]?).getD Utf8.replacement
  | gb18030 => Gb18030.decode ns
  | big5 => Big5.pairs.decode ns
  | korean => Korean.pairs.decode ns
  | shiftedPairs => Japanese.shifted.decode ns
  | highBytes => Japanese.decodeHigh ns
  | escapes => Japanese.decodeEscaped .ascii false ns
  | unassigned => ns.map fun n => Char.ofNat (if n < 0x80 then n else 0xF780 + (n - 0x80))
  | unreadable => if ns.isEmpty then [] else [Utf8.replacement]

/-- The text of bytes. -/
def decode (c : Charset) (bs : List UInt8) : String :=
  String.ofList <| match bs with
    | 0xEF :: 0xBB :: 0xBF :: rest => decodeBody utf8 rest
    | 0xFE :: 0xFF :: rest => decodeBody (utf16 true) rest
    | 0xFF :: 0xFE :: rest => decodeBody (utf16 false) rest
    | _ => decodeBody c bs

end Charset

end SheetIntake.Text
