import ChunkTree.View.Record

/-!
# Tables

A table is a count and that many records, each with its row index in front.  Row indices do not decrease, but may
repeat.
-/

namespace ChunkTree

/-- A table.  It covers `length` bytes from `offset` on. -/
structure Table where
  schema : Schema
  rows : List Record
  offset : Nat
  length : Nat
  deriving Inhabited, Repr

namespace Table

/-- Reads rows with an index not below `previous`. -/
def parseRows (schema : Schema) : (count : Nat) → (previous : UInt32) → Parse (List Record)
  | 0, _ => pure []
  | count + 1, previous => do
    let start ← Parse.position
    let index ← Varint.parse
    if index < previous then
      throw (.corruptOrdering start previous index)
    let row ← Record.parse schema (some index)
    let rows ← parseRows schema count index
    return row :: rows

/-- Reads a table. -/
def parse (schema : Schema) : Parse Table := do
  let offset ← Parse.position
  let count ← Varint.parseLength
  -- every row takes at least one byte
  Parse.atMostRemaining count
  let rows ← parseRows schema count 0
  return ⟨schema, rows, offset, (← Parse.position) - offset⟩

/-- The table of a chunk that the file leaves out. -/
def empty (schema : Schema) : Table :=
  ⟨schema, [], 0, 0⟩

/-- All rows with an index.  They stand together, as indices do not decrease, between two places that are found by
halving. -/
def getAll (t : Table) (i : UInt32) : List Record :=
  (t.rows.take (Search.partitionPoint (·.index ≤ i) t.rows)).drop
    (Search.partitionPoint (·.index < i) t.rows)

/-- The first row with an index. -/
def get? (t : Table) (i : UInt32) : Option Record :=
  (t.getAll i).head?

end Table

/-- The table in a chunk. -/
def Chunk.table (c : Chunk) : Except Error Table := do
  let schema ← c.fieldSchema .table
  match c.payload with
  | some p => p.decode (Table.parse schema)
  | none => return Table.empty schema

end ChunkTree
