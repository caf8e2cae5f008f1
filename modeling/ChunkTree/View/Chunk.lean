import ChunkTree.Content.Command
import ChunkTree.Content.IntArray
import ChunkTree.Content.MapTree
import ChunkTree.Schema.Resolve

/-!
# Chunks

A `Chunk` is a view of a part of a file together with the schema that says how to read it.  Nothing is decoded
before it is asked for.  A chunk that the file leaves out is `absent`, and its content is the default; a chunk
without a schema is opaque.  Decoding must use up the payload exactly.
-/

namespace ChunkTree

open Text (Charset)

/-- The bytes of a chunk and the offset in the file where they start. -/
structure Payload where
  offset : Nat
  bytes : List UInt8
  deriving DecidableEq, Repr

/-- A chunk. -/
structure Chunk where
  schema : Option Schema
  payload : Option Payload
  deriving Inhabited, Repr

namespace Chunk

/-- A chunk that the file leaves out. -/
def absent (schema : Schema) : Chunk :=
  ⟨some schema, none⟩

/-- A whole buffer as a chunk. -/
def ofBytes (schema : Schema) (bytes : List UInt8) : Chunk :=
  ⟨some schema, some ⟨0, bytes⟩⟩

def offset (c : Chunk) : Nat :=
  match c.payload with
  | some p => p.offset
  | none => 0

def length (c : Chunk) : Nat :=
  match c.payload with
  | some p => p.bytes.length
  | none => 0

def isAbsent (c : Chunk) : Bool :=
  c.payload.isNone

def isOpaque (c : Chunk) : Bool :=
  c.schema.isNone

def label (c : Chunk) : String :=
  match c.schema with
  | some s => s.label
  | none => "<opaque>"

/-- The name of the field that a chunk belongs to. -/
def name? (c : Chunk) : Option String :=
  c.schema.bind Schema.name?

/-- The kind of content that a chunk has. -/
def kind (c : Chunk) : Except Error Kind :=
  match c.schema with
  | some s => s.resolve.map Prod.fst
  | none => .error (.typeMismatch "schema field" "opaque chunk")

/-- Fails unless a chunk is of a kind. -/
def expect (c : Chunk) (expected : Kind) : Except Error Unit := do
  let kind ← c.kind
  if kind ≠ expected then
    throw (.typeMismatch expected.name kind.name)

/-- The schema that lists the fields of a record or table. -/
def fieldSchema (c : Chunk) (expected : Kind) : Except Error Schema :=
  match c.schema with
  | some s => s.actual expected
  | none => .error (.typeMismatch expected.name "opaque chunk")

/-- The payload of a chunk that the file holds. -/
def present (c : Chunk) : Except Error Payload :=
  match c.payload with
  | some p => .ok p
  | none => .error (.missingValue c.label)

/-- The default of a chunk that the file leaves out. -/
def default (c : Chunk) : Except Error Value :=
  match c.schema.bind Schema.default? with
  | some v => .ok v
  | none => .error (.missingValue c.label)

end Chunk

/-- Runs a parser over a payload, which it has to use up. -/
def Payload.decode {α : Type} (p : Payload) (parse : Parse α) : Except Error α :=
  match parse ⟨p.offset, p.bytes⟩ with
  | .error e _ => .error e
  | .ok x c =>
    if c.rest.isEmpty then .ok x
    else .error (.chunkLength p.offset p.bytes.length (p.bytes.length - c.rest.length))

namespace Chunk

/-- Decodes a scalar, or takes it from the default. -/
def scalar {α : Type} (c : Chunk) (kind : Kind) (parse : Parse α) (ofDefault : Value → Option α) :
    Except Error α := do
  c.expect kind
  match c.payload with
  | some p => p.decode parse
  | none =>
    let value ← c.default
    match ofDefault value with
    | some x => return x
    | none => throw (.typeMismatch kind.name value.kind)

/-- The number in range of 32 bits that a value stands for. -/
def int32? (v : Value) : Option Int32 :=
  match v.asInt with
  | some n => if -0x80000000 ≤ n.toInt ∧ n.toInt < 0x80000000 then some (Int32.ofInt n.toInt) else none
  | none => none

def integer (c : Chunk) : Except Error Int32 :=
  c.scalar .integer Varint.parseSigned int32?

/-- Every varint but zero is true. -/
def bool (c : Chunk) : Except Error Bool :=
  c.scalar .bool (do return (← Varint.parse) != 0) Value.asBool

/-- Reads the eight bytes of a float. -/
def parseFloat : Parse Binary64 := do
  return ⟨UInt64.ofNat (LittleEndian.value (← Parse.bytes 8))⟩

def float (c : Chunk) : Except Error Binary64 :=
  c.scalar .float parseFloat Value.asFloat

def string (charset : Charset) (c : Chunk) : Except Error String :=
  c.scalar .string (StoredText.parseRest charset) Value.asString

/-- Decodes content that never has a default. -/
def content {α : Type} (c : Chunk) (kind : Kind) (parse : Parse α) : Except Error α := do
  c.expect kind
  (← c.present).decode parse

def script (charset : Charset) (c : Chunk) : Except Error (List Command) :=
  c.content .script (Script.parse charset)

def varints (c : Chunk) : Except Error (List Int32) :=
  c.content .varints (Parse.all Varint.parseSigned)

def mapTree (c : Chunk) : Except Error MapTree :=
  c.content .mapTree MapTree.parse

/-- The payload as an array of numbers.  Its length has to be a multiple of their width. -/
def intArray (c : Chunk) (kind : Kind) (width : Nat) : Except Error IntArray := do
  c.expect kind
  let p ← c.present
  if p.bytes.length % width ≠ 0 then
    throw (.chunkLength p.offset p.bytes.length (p.bytes.length - p.bytes.length % width))
  return ⟨width, p.bytes⟩

def int8s (c : Chunk) : Except Error IntArray :=
  c.intArray .int8s 1

def int16s (c : Chunk) : Except Error IntArray :=
  c.intArray .int16s 2

def int32s (c : Chunk) : Except Error IntArray :=
  c.intArray .int32s 4

/-- The bytes of a chunk that the file holds. -/
def bytes (c : Chunk) : Except Error (List UInt8) :=
  c.present.map Payload.bytes

end Chunk

end ChunkTree
