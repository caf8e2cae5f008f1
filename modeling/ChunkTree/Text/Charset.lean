/-!
# Charsets

The charsets in which a game's text may be stored.  `CodePage` lists those that give each byte one character
of its own; `Charset` adds the multi-byte ones.  `Charset.name` is the name a charset is reported under.
-/

namespace ChunkTree.Text

/-- The single-byte code pages.  All agree with ASCII on the lower half. -/
inductive CodePage where
  | ibm866
  | latin2 | latin3 | latin4 | cyrillic | arabic | greek | hebrew | hebrewLogical
  | latin6 | latin7 | latin8 | latin9 | latin10
  | koi8r | koi8u
  | macintosh
  | windows874
  | windows1250 | windows1251 | windows1252 | windows1253 | windows1254
  | windows1255 | windows1256 | windows1257 | windows1258
  | macCyrillic
  deriving DecidableEq, Repr, Inhabited

/-- A charset. -/
inductive Charset where
  | singleByte (page : CodePage)
  | gbk | gb18030
  | big5
  | eucKr
  | shiftJis | eucJp | iso2022Jp
  | utf8 | utf16be | utf16le
  /-- Bytes above ASCII stand for a private block of their own. -/
  | userDefined
  /-- Stands for charsets that are unsafe to read: no text but the empty one can be read in it. -/
  | replacement
  deriving DecidableEq, Repr, Inhabited

def CodePage.name : CodePage → String
  | .ibm866 => "IBM866"
  | .latin2 => "ISO-8859-2"
  | .latin3 => "ISO-8859-3"
  | .latin4 => "ISO-8859-4"
  | .cyrillic => "ISO-8859-5"
  | .arabic => "ISO-8859-6"
  | .greek => "ISO-8859-7"
  | .hebrew => "ISO-8859-8"
  | .hebrewLogical => "ISO-8859-8-I"
  | .latin6 => "ISO-8859-10"
  | .latin7 => "ISO-8859-13"
  | .latin8 => "ISO-8859-14"
  | .latin9 => "ISO-8859-15"
  | .latin10 => "ISO-8859-16"
  | .koi8r => "KOI8-R"
  | .koi8u => "KOI8-U"
  | .macintosh => "macintosh"
  | .windows874 => "windows-874"
  | .windows1250 => "windows-1250"
  | .windows1251 => "windows-1251"
  | .windows1252 => "windows-1252"
  | .windows1253 => "windows-1253"
  | .windows1254 => "windows-1254"
  | .windows1255 => "windows-1255"
  | .windows1256 => "windows-1256"
  | .windows1257 => "windows-1257"
  | .windows1258 => "windows-1258"
  | .macCyrillic => "x-mac-cyrillic"

def Charset.name : Charset → String
  | .singleByte page => page.name
  | .gbk => "GBK"
  | .gb18030 => "gb18030"
  | .big5 => "Big5"
  | .eucKr => "EUC-KR"
  | .shiftJis => "Shift_JIS"
  | .eucJp => "EUC-JP"
  | .iso2022Jp => "ISO-2022-JP"
  | .utf8 => "UTF-8"
  | .utf16be => "UTF-16BE"
  | .utf16le => "UTF-16LE"
  | .userDefined => "x-user-defined"
  | .replacement => "replacement"

end ChunkTree.Text
