import ChunkTree.Text.Charset
import ChunkTree.Text.ShiftJis
import ChunkTree.Text.EucJp
import ChunkTree.Text.Iso2022Jp
import ChunkTree.Text.EucKr
import ChunkTree.Text.Big5
import ChunkTree.Text.Gb18030
import ChunkTree.Text.SingleByte
import ChunkTree.Text.Unicode

/-!
# Reading and writing text in a charset

`Charset.decode` turns bytes into text and fails on every malformed sequence; no byte order mark is removed.
`Charset.encode` turns text into bytes and fails when some character has no form.
-/

namespace ChunkTree.Text.Charset

/-- The characters that bytes stand for. -/
def decodeChars : Charset → List UInt8 → Option (List Char)
  | .singleByte page => decodeEach page.decodeByte
  | .gbk | .gb18030 => Gb18030.decode
  | .big5 => Big5.decode
  | .eucKr => EucKr.decode
  | .shiftJis => ShiftJis.decode
  | .eucJp => EucJp.decode
  | .iso2022Jp => Iso2022Jp.decode
  | .utf8 => Utf8.decode
  | .utf16be => Utf16.decodeBig
  | .utf16le => Utf16.decodeLittle
  | .userDefined => decodeEach UserDefined.decodeByte
  | .replacement => fun bytes => if bytes.isEmpty then some [] else none

/-- The bytes that stand for characters. -/
def encodeChars : Charset → List Char → Option (List UInt8)
  | .singleByte page => encodeEach page.encodeChar
  | .gbk => Gb18030.encode true
  | .gb18030 => Gb18030.encode false
  | .big5 => Big5.encode
  | .eucKr => EucKr.encode
  | .shiftJis => ShiftJis.encode
  | .eucJp => EucJp.encode
  | .iso2022Jp => Iso2022Jp.encode
  | .utf8 | .utf16be | .utf16le | .replacement => Utf8.encode
  | .userDefined => encodeEach UserDefined.encodeChar

def decode (charset : Charset) (bytes : List UInt8) : Option String :=
  (charset.decodeChars bytes).map String.ofList

def encode (charset : Charset) (text : String) : Option (List UInt8) :=
  charset.encodeChars text.toList

end ChunkTree.Text.Charset
