import Lineage.Text.MediaType
import Lineage.Text.SingleByte
import Lineage.Text.Utf8

/-! Texts from bytes. A byte order mark decides on the encoding, else the content type does, else it is
UTF-8; what cannot be decoded becomes U+FFFD. The encodings of the web are told by their labels. Those that
write several bytes for a character by tables (GBK, GB 18030, Big5, EUC-JP, ISO-2022-JP, Shift_JIS, EUC-KR)
are known by name only: their tables are left out, and of a text in one of them just ASCII is read. -/

namespace Lineage.Text

inductive Charset
  | utf8
  | utf16 (bigEndian : Bool)
  | singleByte (table : SingleByte)
  /-- ASCII, and private characters for all other bytes. -/
  | userDefined
  /-- Encodings that are not to be decoded. -/
  | withheld
  /-- Encodings whose tables are left out. -/
  | multiByte
  deriving DecidableEq, Repr

namespace Charset

/-- A code unit that stands alone and is none of a pair's is a character. At the end half a unit, half a pair
or both count as one fault. -/
def decode16 (bigEndian : Bool) : List UInt8 → List Char
  | a :: b :: rest =>
    let high := unit a b
    if high < 0xD800 || 0xE000 ≤ high then Char.ofNat high :: decode16 bigEndian rest
    else if 0xDC00 ≤ high then Utf8.replacement :: decode16 bigEndian rest
    else match rest with
      | c :: d :: more =>
        let low := unit c d
        if 0xDC00 ≤ low && low < 0xE000 then
          Char.ofNat (0x10000 + (high - 0xD800) * 0x400 + (low - 0xDC00)) :: decode16 bigEndian more
        else Utf8.replacement :: decode16 bigEndian (c :: d :: more)
      | _ => [Utf8.replacement]
  | [_] => [Utf8.replacement]
  | [] => []
where
  unit (a b : UInt8) : Nat := if bigEndian then a.toNat * 256 + b.toNat else b.toNat * 256 + a.toNat

def asciiChar (b : UInt8) : Char := if b.toNat < 0x80 then Char.ofNat b.toNat else Utf8.replacement

def userDefinedChar (b : UInt8) : Char :=
  Char.ofNat (if b.toNat < 0x80 then b.toNat else 0xF780 + (b.toNat - 0x80))

def decode (charset : Charset) (bytes : List UInt8) : List Char :=
  match charset with
  | .utf8 => Utf8.decodeLossy bytes
  | .utf16 bigEndian => decode16 bigEndian bytes
  | .singleByte table => bytes.map table.char
  | .userDefined => bytes.map userDefinedChar
  | .withheld => if bytes.isEmpty then [] else [Utf8.replacement]
  | .multiByte => bytes.map asciiChar

/-- A byte that stands for an ASCII character wherever it is the only kind of byte in a text. -/
def isPlain (b : UInt8) : Bool :=
  b.toNat < 0x80 && b.toNat != 0x0E && b.toNat != 0x0F && b.toNat != 0x1B

/-- The bytes can be decoded without the tables that are left out. -/
def Covers (charset : Charset) (bytes : List UInt8) : Prop :=
  charset = .multiByte → bytes.all isPlain = true

/-- The labels of each encoding. -/
def labels : List (Charset × List String) :=
  [(.utf8, ["unicode-1-1-utf-8", "unicode11utf8", "unicode20utf8", "utf-8", "utf8", "x-unicode20utf8"]),
    (.utf16 false, ["csunicode", "iso-10646-ucs-2", "ucs-2", "unicode", "unicodefeff", "utf-16",
      "utf-16le"]),
    (.utf16 true, ["unicodefffe", "utf-16be"]),
    (.singleByte .ibm866, ["866", "cp866", "csibm866", "ibm866"]),
    (.singleByte .iso2, ["csisolatin2", "iso-8859-2", "iso-ir-101", "iso8859-2", "iso88592", "iso_8859-2",
      "iso_8859-2:1987", "l2", "latin2"]),
    (.singleByte .iso3, ["csisolatin3", "iso-8859-3", "iso-ir-109", "iso8859-3", "iso88593", "iso_8859-3",
      "iso_8859-3:1988", "l3", "latin3"]),
    (.singleByte .iso4, ["csisolatin4", "iso-8859-4", "iso-ir-110", "iso8859-4", "iso88594", "iso_8859-4",
      "iso_8859-4:1988", "l4", "latin4"]),
    (.singleByte .iso5, ["csisolatincyrillic", "cyrillic", "iso-8859-5", "iso-ir-144", "iso8859-5",
      "iso88595", "iso_8859-5", "iso_8859-5:1988"]),
    (.singleByte .iso6, ["arabic", "asmo-708", "csiso88596e", "csiso88596i", "csisolatinarabic",
      "ecma-114", "iso-8859-6", "iso-8859-6-e", "iso-8859-6-i", "iso-ir-127", "iso8859-6", "iso88596",
      "iso_8859-6", "iso_8859-6:1987"]),
    (.singleByte .iso7, ["csisolatingreek", "ecma-118", "elot_928", "greek", "greek8", "iso-8859-7",
      "iso-ir-126", "iso8859-7", "iso88597", "iso_8859-7", "iso_8859-7:1987", "sun_eu_greek"]),
    (.singleByte .iso8, ["csiso88598e", "csisolatinhebrew", "hebrew", "iso-8859-8", "iso-8859-8-e",
      "iso-ir-138", "iso8859-8", "iso88598", "iso_8859-8", "iso_8859-8:1988", "visual", "csiso88598i",
      "iso-8859-8-i", "logical"]),
    (.singleByte .iso10, ["csisolatin6", "iso-8859-10", "iso-ir-157", "iso8859-10", "iso885910", "l6",
      "latin6"]),
    (.singleByte .iso13, ["iso-8859-13", "iso8859-13", "iso885913"]),
    (.singleByte .iso14, ["iso-8859-14", "iso8859-14", "iso885914"]),
    (.singleByte .iso15, ["csisolatin9", "iso-8859-15", "iso8859-15", "iso885915", "iso_8859-15", "l9"]),
    (.singleByte .iso16, ["iso-8859-16"]),
    (.singleByte .koi8r, ["cskoi8r", "koi", "koi8", "koi8-r", "koi8_r"]),
    (.singleByte .koi8u, ["koi8-ru", "koi8-u"]),
    (.singleByte .macRoman, ["csmacintosh", "mac", "macintosh", "x-mac-roman"]),
    (.singleByte .macCyrillic, ["x-mac-cyrillic", "x-mac-ukrainian"]),
    (.singleByte .windows874, ["dos-874", "iso-8859-11", "iso8859-11", "iso885911", "tis-620",
      "windows-874"]),
    (.singleByte .windows1250, ["cp1250", "windows-1250", "x-cp1250"]),
    (.singleByte .windows1251, ["cp1251", "windows-1251", "x-cp1251"]),
    (.singleByte .windows1252, ["ansi_x3.4-1968", "ascii", "cp1252", "cp819", "csisolatin1", "ibm819",
      "iso-8859-1", "iso-ir-100", "iso8859-1", "iso88591", "iso_8859-1", "iso_8859-1:1987", "l1",
      "latin1", "us-ascii", "windows-1252", "x-cp1252"]),
    (.singleByte .windows1253, ["cp1253", "windows-1253", "x-cp1253"]),
    (.singleByte .windows1254, ["cp1254", "csisolatin5", "iso-8859-9", "iso-ir-148", "iso8859-9",
      "iso88599", "iso_8859-9", "iso_8859-9:1989", "l5", "latin5", "windows-1254", "x-cp1254"]),
    (.singleByte .windows1255, ["cp1255", "windows-1255", "x-cp1255"]),
    (.singleByte .windows1256, ["cp1256", "windows-1256", "x-cp1256"]),
    (.singleByte .windows1257, ["cp1257", "windows-1257", "x-cp1257"]),
    (.singleByte .windows1258, ["cp1258", "windows-1258", "x-cp1258"]),
    (.userDefined, ["x-user-defined"]),
    (.withheld, ["csiso2022kr", "hz-gb-2312", "iso-2022-cn", "iso-2022-cn-ext", "iso-2022-kr",
      "replacement"]),
    (.multiByte, ["chinese", "csgb2312", "csiso58gb231280", "gb2312", "gb_2312", "gb_2312-80", "gbk",
      "iso-ir-58", "x-gbk", "gb18030", "big5", "big5-hkscs", "cn-big5", "csbig5", "x-x-big5",
      "cseucpkdfmtjapanese", "euc-jp", "x-euc-jp", "csiso2022jp", "iso-2022-jp", "csshiftjis", "ms932",
      "ms_kanji", "shift-jis", "shift_jis", "sjis", "windows-31j", "x-sjis", "cseuckr", "csksc56011987",
      "euc-kr", "iso-ir-149", "korean", "ks_c_5601-1987", "ks_c_5601-1989", "ksc5601", "ksc_5601",
      "windows-949"])]

/-- Labels that are not known mean UTF-8. Case and blanks around a label make no difference. -/
def ofLabel (label : List Char) : Charset :=
  let isAround (c : Char) : Bool := c == ' ' || c == '\t'
  let trimmed := ((label.dropWhile isAround).reverse.dropWhile isAround).reverse
  let name := String.ofList (trimmed.map Char.toLower)
  ((labels.find? fun entry => entry.2.contains name).map Prod.fst).getD .utf8

/-- What may stand in the value of a header that is read as a text. -/
def isHeaderChar (c : Char) : Bool := c == '\t' || (0x20 ≤ c.toNat && c.toNat < 0x7F)

/-- The encoding that the parameter `charset` of a media type names; a text that is no media type names
none. -/
def ofContentType (contentType : String) : Charset :=
  let cs := contentType.toList
  if cs.all isHeaderChar then
    match MediaType.parameter? "charset".toList cs with
    | some label => ofLabel label
    | none => .utf8
  else .utf8

/-- The encoding of a body, and its bytes without the byte order mark. -/
def sniff (contentType : Option String) (bytes : List UInt8) : Charset × List UInt8 :=
  match bytes with
  | 0xEF :: 0xBB :: 0xBF :: rest => (.utf8, rest)
  | 0xFF :: 0xFE :: rest => (.utf16 false, rest)
  | 0xFE :: 0xFF :: rest => (.utf16 true, rest)
  | _ => ((contentType.map ofContentType).getD .utf8, bytes)

end Charset

/-- The text of a body. -/
def ofBody (contentType : Option String) (bytes : List UInt8) : String :=
  let (charset, bytes) := Charset.sniff contentType bytes
  String.ofList (charset.decode bytes)

end Lineage.Text
