import ChunkTree.Binary.Reader
import ChunkTree.View.Chunk

/-!
# Operations of a reader

Everything that can be asked of a reader, one operation at a time.  An operation of a fixed size takes a slice of
the buffer, so it stays where it is when there is none; varints and texts are read piece by piece.
-/

namespace ChunkTree.Reader

open Text (Charset)

/-- What is asked of a reader. -/
inductive Operation where
  | byte
  | int8
  | int16
  | int32
  | float
  | bytes (n : Nat)
  /-- The next bytes, without moving. -/
  | peek (n : Nat)
  | skip (n : Nat)
  | varint
  | signedVarint
  /-- A text of so many bytes. -/
  | text (charset : Charset) (n : Nat)
  /-- A text with its length in front. -/
  | sizedText (charset : Charset)
  | seek (pos : Nat)
  deriving DecidableEq, Repr

/-- What a reader answers. -/
inductive Answer where
  | byte (b : UInt8)
  | number (n : Int)
  | word (v : UInt32)
  | float (x : Binary64)
  | bytes (bs : List UInt8)
  | text (s : String)
  | nothing
  deriving DecidableEq, Repr

/-- Does something with what was read. -/
def answer {α : Type} (f : α → Answer) (x : Except Error α × Reader) : Except Error Answer × Reader :=
  (x.1.map f, x.2)

namespace Operation

/-- Performs an operation.  The reader is where the operation leaves it, whether it succeeds or fails. -/
def perform : Operation → Reader → Except Error Answer × Reader
  | .byte, r => answer .byte (r.slice 1 Parse.byte)
  | .int8, r => answer .number (r.slice 1 (LittleEndian.parseSigned 1))
  | .int16, r => answer .number (r.slice 2 (LittleEndian.parseSigned 2))
  | .int32, r => answer .number (r.slice 4 (LittleEndian.parseSigned 4))
  | .float, r => answer .float (r.slice 8 Chunk.parseFloat)
  | .bytes n, r => answer .bytes (r.bytes n)
  | .peek n, r => answer .bytes (r.peek n)
  | .skip n, r => answer (fun _ => .nothing) (r.skip n)
  | .varint, r => answer .word (r.run Varint.parse)
  | .signedVarint, r => answer (fun n => .number n.toInt) (r.run Varint.parseSigned)
  | .text charset n, r => answer .text (r.slice n (StoredText.parse charset n))
  | .sizedText charset, r => answer .text (r.run (StoredText.parseSized charset))
  | .seek pos, r => (.ok .nothing, r.seek pos)

end Operation

/-- An operation, its answer, and the reader before and after it. -/
structure Step where
  before : Reader
  operation : Operation
  answer : Except Error Answer
  after : Reader

/-- Performs operations one after the other, going on after a failure from where it left the reader. -/
def steps : List Operation → Reader → List Step
  | [], _ => []
  | op :: ops, r => ⟨r, op, (op.perform r).1, (op.perform r).2⟩ :: steps ops (op.perform r).2

end ChunkTree.Reader
