import ChunkTree.Binary.Varint
import ChunkTree.Text.Codec

/-!
# Stored text

Text is stored as bytes of a charset, either with its length in front or in a chunk that ends where the text
ends.  Lengths count bytes.
-/

namespace ChunkTree.StoredText

open Text (Charset)

def decode (charset : Charset) (bytes : List UInt8) : Except Error String :=
  match charset.decode bytes with
  | some text => .ok text
  | none => .error (.undecodable charset bytes)

def encode (charset : Charset) (text : String) : Except Error (List UInt8) :=
  match charset.encode text with
  | some bytes => .ok bytes
  | none => .error (.unencodable charset text)

/-- A text with the varint of its length in front. -/
def encodeSized (charset : Charset) (text : String) : Except Error (List UInt8) := do
  let bytes ← encode charset text
  return Varint.encodeLength bytes.length ++ bytes

def isAscii (text : String) : Bool :=
  text.toList.all (fun c => c.toNat < 0x80)

/-- The number of bytes that a text takes.  ASCII text is taken to have one byte for each character. -/
def size (charset : Charset) (text : String) : Except Error Nat :=
  if isAscii text then .ok text.length
  else do
    let bytes ← encode charset text
    return bytes.length

/-- Reads a text of `n` bytes. -/
def parse (charset : Charset) (n : Nat) : Parse String := do
  let bytes ← Parse.bytes n
  match decode charset bytes with
  | .ok text => pure text
  | .error e => throw e

/-- Reads a text with its length in front. -/
def parseSized (charset : Charset) : Parse String := do
  let n ← Varint.parseLength
  parse charset n

/-- Reads all that is left of the range as text. -/
def parseRest (charset : Charset) : Parse String := fun c =>
  parse charset c.remaining c

end ChunkTree.StoredText
