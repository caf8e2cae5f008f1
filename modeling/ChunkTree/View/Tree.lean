import ChunkTree.View.Table

/-!
# The value of a view

Every view has a value.  A record becomes an object: fields without an internal name go by their name, chunks that
the schema does not know by their index, and fields that the file leaves out appear with their default.  A table
becomes an object by row index; further rows of one index are collected in the `_rest` of the first.
-/

namespace ChunkTree

open Text (Charset)

/-- The key under which the first row of an index keeps the others. -/
def restKey : String := "_rest"

def Command.toValue (c : Command) : Value :=
  .object [("code", .ofUInt32 c.code), ("nest", .ofUInt32 c.nest), ("str", .string c.text),
    ("args", .array (c.args.map .ofInt32))]

def MapTree.toValue (t : MapTree) : Value :=
  .object [("nodes", .array (t.nodes.map .ofUInt32)), ("active_node", .ofUInt32 t.active)]

def IntArray.toValue (a : IntArray) : Value :=
  .array (a.toList.map .ofInt)

/-- The decimal text of an index. -/
def indexText (i : UInt32) : String :=
  toString i.toNat

/-- The key of a chunk in the object of its record; internal fields have none. -/
def entryKey? (index : UInt32) (chunk : Chunk) : Option String :=
  match chunk.name? with
  | some name => if isInternal name then none else some name
  | none => some (indexText index)

/-- The entries of a record's object that the file holds, given the value of each chunk. -/
def presentFields (toValue : Chunk → Except Error Value) : List (UInt32 × Chunk) → Fields → Except Error Fields
  | [], fields => .ok fields
  | (index, chunk) :: entries, fields =>
    match entryKey? index chunk with
    | none => presentFields toValue entries fields
    | some key => do
      let value ← toValue chunk
      presentFields toValue entries (fields.insert key value)

/-- Adds the defaults of fields that an object does not have yet. -/
def defaultFields : List Schema → Fields → Fields
  | [], fields => fields
  | schema :: schemas, fields =>
    match schema.name?, schema.default? with
    | some name, some value =>
      if isInternal name ∨ (fields.lookup name).isSome then defaultFields schemas fields
      else defaultFields schemas (fields.insert name value)
    | _, _ => defaultFields schemas fields

/-- The value of a record, given the value of each chunk. -/
def Record.valueBy (toValue : Chunk → Except Error Value) (r : Record) : Except Error Value := do
  let fields ← presentFields toValue r.entries []
  return .object (defaultFields r.schema.fields fields)

/-- Puts the value of a further row into the one of the first row of its index. -/
def addRest (first row : Value) : Value :=
  match first with
  | .object fields =>
    match fields.lookup restKey with
    | none => .object (Fields.insert restKey (.array [row]) fields)
    | some (.array rest) => .object (Fields.insert restKey (.array (rest ++ [row])) fields)
    | some _ => first
  | first => first

/-- Puts the value of a row into the object of its table. -/
def addRow (fields : Fields) (index : UInt32) (row : Value) : Fields :=
  match fields.lookup (indexText index) with
  | none => fields.insert (indexText index) row
  | some first => fields.insert (indexText index) (addRest first row)

def rowFields (toValue : Chunk → Except Error Value) : List Record → Fields → Except Error Fields
  | [], fields => .ok fields
  | row :: rows, fields => do
    let value ← row.valueBy toValue
    rowFields toValue rows (addRow fields row.index value)

/-- The value of a table, given the value of each chunk. -/
def Table.valueBy (toValue : Chunk → Except Error Value) (t : Table) : Except Error Value := do
  return .object (← rowFields toValue t.rows [])

namespace Chunk

/-- The value of a chunk, given the value of the chunks in it. -/
def valueBy (charset : Charset) (toValue : Chunk → Except Error Value) (c : Chunk) : Except Error Value := do
  if c.isOpaque then
    return .ofBytes (← c.bytes)
  match ← c.kind with
  | .integer => return .ofInt32 (← c.integer)
  | .bool => return .bool (← c.bool)
  | .float => return .float (← c.float)
  | .string => return .string (← c.string charset)
  | .script => return .array ((← c.script charset).map Command.toValue)
  | .int8s => return (← c.int8s).toValue
  | .int16s => return (← c.int16s).toValue
  | .int32s => return (← c.int32s).toValue
  | .varints => return .array ((← c.varints).map .ofInt32)
  | .mapTree => return (← c.mapTree).toValue
  | .record => (← c.record).valueBy toValue
  | .table => (← c.table).valueBy toValue

/-- The value of a chunk in which chunks are nested less than `bound` deep. -/
def valueWithin (charset : Charset) : (bound : Nat) → Chunk → Except Error Value
  | 0, c => .error (.missingValue c.label)
  | bound + 1, c => c.valueBy charset (valueWithin charset bound)

/-- The value of a chunk.  A chunk is always shorter than the one that holds it, so its length bounds how deep
chunks are nested in it. -/
def toValue (charset : Charset) (c : Chunk) : Except Error Value :=
  c.valueWithin charset (c.length + 1)

end Chunk

def Record.toValue (charset : Charset) (r : Record) : Except Error Value :=
  r.valueBy (Chunk.valueWithin charset (r.length + 1))

def Table.toValue (charset : Charset) (t : Table) : Except Error Value :=
  t.valueBy (Chunk.valueWithin charset (t.length + 1))

end ChunkTree
