import ChunkTree.Binary.StoredText

/-!
# Event commands

A command is a code, a nesting level, a text and signed arguments.  A script is a list of commands that fills its
chunk.
-/

namespace ChunkTree

open Text (Charset)

/-- A command of a script. -/
structure Command where
  code : UInt32
  nest : UInt32
  text : String
  args : List Int32
  deriving DecidableEq, Repr, Inhabited

namespace Command

def parse (charset : Charset) : Parse Command := do
  let code ← Varint.parse
  let nest ← Varint.parse
  let text ← StoredText.parseSized charset
  let count ← Varint.parseLength
  -- every argument takes at least one byte
  Parse.atMostRemaining count
  let args ← Parse.replicate Varint.parseSigned count
  return ⟨code, nest, text, args⟩

/-- The number of bytes that a command takes. -/
def byteSize (charset : Charset) (c : Command) : Except Error Nat := do
  let length ← StoredText.size charset c.text
  return Varint.size c.code + Varint.size c.nest + Varint.lengthSize length + length +
    Varint.lengthSize c.args.length + Varint.totalSize (c.args.map Int32.toUInt32)

def encode (charset : Charset) (c : Command) : Except Error (List UInt8) := do
  let text ← StoredText.encodeSized charset c.text
  return Varint.encode c.code ++ Varint.encode c.nest ++ text ++ Varint.encodeLength c.args.length ++
    c.args.flatMap Varint.encodeSigned

end Command

namespace Script

/-- Reads commands until the range is used up. -/
def parse (charset : Charset) : Parse (List Command) :=
  Parse.all (Command.parse charset)

/-- The number of bytes that a script takes. -/
def byteSize (charset : Charset) : List Command → Except Error Nat
  | [] => .ok 0
  | c :: commands => do
    let size ← c.byteSize charset
    let rest ← byteSize charset commands
    return size + rest

def encode (charset : Charset) (commands : List Command) : Except Error (List UInt8) := do
  return (← commands.mapM (Command.encode charset)).flatten

end Script

end ChunkTree
