import ChunkTree.Error
import ChunkTree.Text.Charset

/-!
# Charset labels

The texts by which a charset may be asked for.  `Charset.ofLabel?` reads one: first as the number of a code
page, bare or after `cp` or `CP`, then as a registered label in any mixture of cases.
-/

namespace ChunkTree.Text

/-- The registered labels of each charset, in lower case. -/
def Charset.labels : List (Charset × List String) := [
  (.utf8, ["unicode-1-1-utf-8", "unicode11utf8", "unicode20utf8", "utf8", "utf-8", "x-unicode20utf8"]),
  (.singleByte .ibm866, ["866", "cp866", "csibm866", "ibm866"]),
  (.singleByte .latin2, [
    "csisolatin2", "iso-8859-2", "iso-ir-101", "iso8859-2", "iso88592", "iso_8859-2",
    "iso_8859-2:1987", "l2", "latin2"]),
  (.singleByte .latin3, [
    "csisolatin3", "iso-8859-3", "iso-ir-109", "iso8859-3", "iso88593", "iso_8859-3",
    "iso_8859-3:1988", "l3", "latin3"]),
  (.singleByte .latin4, [
    "csisolatin4", "iso-8859-4", "iso-ir-110", "iso8859-4", "iso88594", "iso_8859-4",
    "iso_8859-4:1988", "l4", "latin4"]),
  (.singleByte .cyrillic, [
    "csisolatincyrillic", "cyrillic", "iso-8859-5", "iso-ir-144", "iso8859-5", "iso88595",
    "iso_8859-5", "iso_8859-5:1988"]),
  (.singleByte .arabic, [
    "arabic", "asmo-708", "csiso88596e", "csiso88596i", "csisolatinarabic", "ecma-114",
    "iso-8859-6", "iso-8859-6-e", "iso-8859-6-i", "iso-ir-127", "iso8859-6", "iso88596",
    "iso_8859-6", "iso_8859-6:1987"]),
  (.singleByte .greek, [
    "csisolatingreek", "ecma-118", "elot_928", "greek", "greek8", "iso-8859-7", "iso-ir-126",
    "iso8859-7", "iso88597", "iso_8859-7", "iso_8859-7:1987", "sun_eu_greek"]),
  (.singleByte .hebrew, [
    "csiso88598e", "csisolatinhebrew", "hebrew", "iso-8859-8", "iso-8859-8-e", "iso-ir-138",
    "iso8859-8", "iso88598", "iso_8859-8", "iso_8859-8:1988", "visual"]),
  (.singleByte .hebrewLogical, ["csiso88598i", "iso-8859-8-i", "logical"]),
  (.singleByte .latin6, [
    "csisolatin6", "iso-8859-10", "iso-ir-157", "iso8859-10", "iso885910", "l6", "latin6"]),
  (.singleByte .latin7, ["iso-8859-13", "iso8859-13", "iso885913"]),
  (.singleByte .latin8, ["iso-8859-14", "iso8859-14", "iso885914"]),
  (.singleByte .latin9, ["csisolatin9", "iso-8859-15", "iso8859-15", "iso885915", "iso_8859-15", "l9"]),
  (.singleByte .latin10, ["iso-8859-16"]),
  (.singleByte .koi8r, ["cskoi8r", "koi", "koi8", "koi8-r", "koi8_r"]),
  (.singleByte .koi8u, ["koi8-ru", "koi8-u"]),
  (.singleByte .macintosh, ["csmacintosh", "mac", "macintosh", "x-mac-roman"]),
  (.singleByte .windows874, ["dos-874", "iso-8859-11", "iso8859-11", "iso885911", "tis-620", "windows-874"]),
  (.singleByte .windows1250, ["cp1250", "windows-1250", "x-cp1250"]),
  (.singleByte .windows1251, ["cp1251", "windows-1251", "x-cp1251"]),
  (.singleByte .windows1252, [
    "ansi_x3.4-1968", "ascii", "cp1252", "cp819", "csisolatin1", "ibm819", "iso-8859-1",
    "iso-ir-100", "iso8859-1", "iso88591", "iso_8859-1", "iso_8859-1:1987", "l1", "latin1",
    "us-ascii", "windows-1252", "x-cp1252"]),
  (.singleByte .windows1253, ["cp1253", "windows-1253", "x-cp1253"]),
  (.singleByte .windows1254, [
    "cp1254", "csisolatin5", "iso-8859-9", "iso-ir-148", "iso8859-9", "iso88599", "iso_8859-9",
    "iso_8859-9:1989", "l5", "latin5", "windows-1254", "x-cp1254"]),
  (.singleByte .windows1255, ["cp1255", "windows-1255", "x-cp1255"]),
  (.singleByte .windows1256, ["cp1256", "windows-1256", "x-cp1256"]),
  (.singleByte .windows1257, ["cp1257", "windows-1257", "x-cp1257"]),
  (.singleByte .windows1258, ["cp1258", "windows-1258", "x-cp1258"]),
  (.singleByte .macCyrillic, ["x-mac-cyrillic", "x-mac-ukrainian"]),
  (.gbk, [
    "chinese", "csgb2312", "csiso58gb231280", "gb2312", "gb_2312", "gb_2312-80", "gbk",
    "iso-ir-58", "x-gbk"]),
  (.gb18030, ["gb18030"]),
  (.big5, ["big5", "big5-hkscs", "cn-big5", "csbig5", "x-x-big5"]),
  (.eucJp, ["cseucpkdfmtjapanese", "euc-jp", "x-euc-jp"]),
  (.iso2022Jp, ["csiso2022jp", "iso-2022-jp"]),
  (.shiftJis, [
    "csshiftjis", "ms932", "ms_kanji", "shift-jis", "shift_jis", "sjis", "windows-31j", "x-sjis"]),
  (.eucKr, [
    "cseuckr", "csksc56011987", "euc-kr", "iso-ir-149", "korean", "ks_c_5601-1987",
    "ks_c_5601-1989", "ksc5601", "ksc_5601", "windows-949"]),
  (.replacement, [
    "csiso2022kr", "hz-gb-2312", "iso-2022-cn", "iso-2022-cn-ext", "iso-2022-kr", "replacement"]),
  (.utf16be, ["unicodefffe", "utf-16be"]),
  (.utf16le, ["csunicode", "iso-10646-ucs-2", "ucs-2", "unicode", "unicodefeff", "utf-16le", "utf-16"]),
  (.userDefined, ["x-user-defined"])]

/-- The charsets that go by a code page number. -/
def Charset.numbers : List (String × Charset) := [
  ("874", .singleByte .windows874), ("932", .shiftJis), ("936", .gbk), ("949", .eucKr), ("950", .big5),
  ("1250", .singleByte .windows1250), ("1251", .singleByte .windows1251), ("1252", .singleByte .windows1252),
  ("1253", .singleByte .windows1253), ("1254", .singleByte .windows1254), ("1255", .singleByte .windows1255),
  ("1256", .singleByte .windows1256), ("1257", .singleByte .windows1257), ("1258", .singleByte .windows1258)]

/-- The blank characters of Unicode. -/
def isBlank (c : Char) : Bool :=
  let n := c.toNat
  (9 ≤ n && n ≤ 13) || n == 0x20 || n == 0x85 || n == 0xa0 || n == 0x1680 || (0x2000 ≤ n && n ≤ 0x200a) ||
    n == 0x2028 || n == 0x2029 || n == 0x202f || n == 0x205f || n == 0x3000

/-- Drops the characters at both ends that satisfy `p`. -/
def trim (p : Char → Bool) (cs : List Char) : List Char :=
  ((cs.dropWhile p).reverse.dropWhile p).reverse

/-- The number in `cp932` or `CP932`; a text without such a start stands for itself. -/
def codePageNumber : List Char → List Char
  | 'c' :: 'p' :: cs => cs
  | 'C' :: 'P' :: cs => cs
  | cs => cs

/-- The charset registered under a label.  Letter case and ASCII blanks around it do not matter. -/
def Charset.registered? (cs : List Char) : Option Charset :=
  let label := String.ofList ((trim isAsciiBlank cs).map Char.toLower)
  (Charset.labels.find? (fun entry => entry.2.contains label)).map Prod.fst
where
  isAsciiBlank (c : Char) : Bool :=
    c == ' ' || c == '\t' || c == '\n' || c == '\x0c' || c == '\r'

/-- The charset that a label asks for. -/
def Charset.ofLabel? (label : String) : Option Charset :=
  let cs := trim isBlank label.toList
  match Charset.numbers.lookup (String.ofList (codePageNumber cs)) with
  | some charset => some charset
  | none => Charset.registered? cs

/-- As `Charset.ofLabel?`, with an error for an unknown label. -/
def Charset.ofLabel (label : String) : Except Error Charset :=
  match Charset.ofLabel? label with
  | some charset => .ok charset
  | none => .error (.unknownCharset label)

end ChunkTree.Text
