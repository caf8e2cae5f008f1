import ChunkTree.Save.Entry

/-!
# Sizes of saved values

`Value.savedSize` works out how many bytes a value takes under a schema, without writing them.
-/

namespace ChunkTree

open Text (Charset)

namespace Save

/-- The size of the chunks of a record, each with its index and length. -/
def entriesSize (size : Value → Schema → Except Error Nat) : List Entry → Except Error Nat
  | [] => .ok 0
  | e :: entries => do
    let payload ← e.payloadSize size
    let rest ← entriesSize size entries
    return Varint.size e.index + Varint.lengthSize payload + payload + rest

/-- The size of a record, given the size of each field. -/
def recordSize (size : Value → Schema → Except Error Nat) (schema : Schema) (v : Value) : Except Error Nat := do
  let entries ← entriesOf size schema v
  return (← entriesSize size entries) + Varint.size 0

def rowsSize (size : Value → Schema → Except Error Nat) (schema : Schema) :
    List (UInt32 × Value) → Except Error Nat
  | [] => .ok 0
  | (index, row) :: rows => do
    let record ← recordSize size schema row
    let rest ← rowsSize size schema rows
    return Varint.size index + record + rest

/-- The size of a table, given the size of each field. -/
def tableSize (size : Value → Schema → Except Error Nat) (schema : Schema) (v : Value) : Except Error Nat := do
  let rows ← rowsOf schema v
  return Varint.lengthSize rows.length + (← rowsSize size schema rows)

/-- The size of a value, given the size of each field of the records in it. -/
def sizeBy (charset : Charset) (size : Value → Schema → Except Error Nat) (v : Value) (schema : Schema) :
    Except Error Nat := do
  let (kind, _) ← schema.resolve
  match kind with
  | .record => do recordSize size (← schema.actual .record) v
  | .table => do tableSize size (← schema.actual .table) v
  | kind => contentSize charset kind schema.label v

/-- The size of a value nested less than `bound` deep. -/
def sizeWithin (charset : Charset) : (bound : Nat) → Value → Schema → Except Error Nat
  | 0, _, schema => .error (.missingValue schema.label)
  | bound + 1, v, schema => sizeBy charset (sizeWithin charset bound) v schema

end Save

/-- The number of bytes that a value takes under a schema. -/
def Value.savedSize (charset : Charset) (v : Value) (schema : Schema) : Except Error Nat :=
  Save.sizeWithin charset (v.depth + 1) v schema

end ChunkTree
