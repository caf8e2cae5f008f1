import ChunkTree.View.Chunk
import ChunkTree.View.Search

/-!
# Records

A record is a list of chunks, each with its index and length in front, in strictly increasing order of their
indices.  It ends with a zero index or with its range.
-/

namespace ChunkTree

/-- A record.  `row` is its index if it is a row of a table; it covers `length` bytes from `offset` on. -/
structure Record where
  schema : Schema
  entries : List (UInt32 × Chunk)
  row : Option UInt32
  offset : Nat
  length : Nat
  deriving Inhabited, Repr

namespace Record

/-- Reads chunks with an index above `previous`, at most `bound` of them. -/
def parseEntries (schema : Schema) : (bound : Nat) → (previous : UInt32) → Parse (List (UInt32 × Chunk))
  | 0, _ => pure []
  | bound + 1, previous => do
    if ← Parse.isEmpty then return []
    let start ← Parse.position
    let index ← Varint.parse
    if index = 0 then return []
    if index ≤ previous then
      throw (.corruptOrdering start previous index)
    let length ← Varint.parseLength
    let offset ← Parse.position
    let bytes ← Parse.bytes length
    let rest ← parseEntries schema bound index
    return (index, ⟨schema.find? (.index index), some ⟨offset, bytes⟩⟩) :: rest

/-- Reads a record. -/
def parse (schema : Schema) (row : Option UInt32) : Parse Record := do
  let offset ← Parse.position
  let entries ← fun c => parseEntries schema c.remaining 0 c
  return ⟨schema, entries, row, offset, (← Parse.position) - offset⟩

/-- The record of a chunk that the file leaves out. -/
def empty (schema : Schema) : Record :=
  ⟨schema, [], none, 0, 0⟩

/-- The index of a row; a record that is no row counts as row zero. -/
def index (r : Record) : UInt32 :=
  r.row.getD 0

/-- The chunk that the file holds under an index.  As indices increase, it is found by halving. -/
def entry? (r : Record) (i : UInt32) : Option Chunk :=
  (Search.find? Prod.fst i r.entries).map Prod.snd

/-- The index that a key stands for. -/
def indexOf? (r : Record) : FieldKey → Option UInt32
  | .index i => some i
  | .name n => (r.schema.find? (.name n)).bind Schema.index?

def contains (r : Record) (key : FieldKey) : Bool :=
  ((r.indexOf? key).bind r.entry?).isSome

/-- The chunk of a key: what the file holds, else an absent chunk if the field has a default. -/
def get? (r : Record) (key : FieldKey) : Option Chunk :=
  match r.indexOf? key with
  | none => none
  | some i =>
    match r.entry? i with
    | some chunk => some chunk
    | none => ((r.schema.find? (.index i)).filter Schema.hasDefault).map Chunk.absent

/-- The chunk of a key that has to be there. -/
def field (r : Record) (key : FieldKey) : Except Error Chunk :=
  match r.get? key with
  | some chunk => .ok chunk
  | none => .error (.missingField s!"{r.schema.label}.{key.text}")

end Record

/-- The record in a chunk. -/
def Chunk.record (c : Chunk) : Except Error Record := do
  let schema ← c.fieldSchema .record
  match c.payload with
  | some p => p.decode (Record.parse schema none)
  | none => return Record.empty schema

end ChunkTree
