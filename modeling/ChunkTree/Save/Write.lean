import ChunkTree.Save.Size

/-!
# Saving values

`Value.save` writes a value under a schema.  The length in front of a chunk, or of a sized root, is computed before
its content is written, and compared with what was written after that.
-/

namespace ChunkTree

open Text (Charset)

namespace Save

/-- The payload of an entry, given how each field is written. -/
def Entry.payload (write : Value → Schema → Except Error (List UInt8)) (e : Entry) : Except Error (List UInt8) :=
  match e.schema with
  | some schema => write e.value schema
  | none => rawBytes e.index e.value

/-- The name by which messages refer to an entry. -/
def Entry.label (e : Entry) : String :=
  match e.schema with
  | some schema => schema.label
  | none => indexText e.index

/-- The chunks of a record. -/
def writeEntries (size : Value → Schema → Except Error Nat) (write : Value → Schema → Except Error (List UInt8)) :
    List Entry → Except Error (List UInt8)
  | [] => .ok []
  | e :: entries => do
    let length ← e.payloadSize size
    let payload ← e.payload write
    if payload.length ≠ length then
      throw (.sizeMismatch e.label length payload.length)
    let rest ← writeEntries size write entries
    return Varint.encode e.index ++ Varint.encodeLength length ++ payload ++ rest

/-- A record, given the size of each field and how it is written. -/
def writeRecord (size : Value → Schema → Except Error Nat) (write : Value → Schema → Except Error (List UInt8))
    (schema : Schema) (v : Value) : Except Error (List UInt8) := do
  let entries ← entriesOf size schema v
  return (← writeEntries size write entries) ++ Varint.encode 0

def writeRows (size : Value → Schema → Except Error Nat) (write : Value → Schema → Except Error (List UInt8))
    (schema : Schema) : List (UInt32 × Value) → Except Error (List UInt8)
  | [] => .ok []
  | (index, row) :: rows => do
    let record ← writeRecord size write schema row
    let rest ← writeRows size write schema rows
    return Varint.encode index ++ record ++ rest

/-- A table, given the size of each field and how it is written. -/
def writeTable (size : Value → Schema → Except Error Nat) (write : Value → Schema → Except Error (List UInt8))
    (schema : Schema) (v : Value) : Except Error (List UInt8) := do
  let rows ← rowsOf schema v
  return Varint.encodeLength rows.length ++ (← writeRows size write schema rows)

/-- The bytes of a value, given the size of each field of the records in it and how it is written. -/
def writeBy (charset : Charset) (size : Value → Schema → Except Error Nat)
    (write : Value → Schema → Except Error (List UInt8)) (v : Value) (schema : Schema) :
    Except Error (List UInt8) := do
  let (kind, _) ← schema.resolve
  match kind with
  | .record => do writeRecord size write (← schema.actual .record) v
  | .table => do writeTable size write (← schema.actual .table) v
  | kind => contentBytes charset kind schema.label v

/-- The bytes of a value nested less than `bound` deep. -/
def writeWithin (charset : Charset) : (bound : Nat) → Value → Schema → Except Error (List UInt8)
  | 0, _, schema => .error (.missingValue schema.label)
  | bound + 1, v, schema => writeBy charset (sizeWithin charset bound) (writeWithin charset bound) v schema

end Save

namespace Value

/-- The bytes of a value under a schema. -/
def save (charset : Charset) (v : Value) (schema : Schema) : Except Error (List UInt8) :=
  Save.writeWithin charset (v.depth + 1) v schema

/-- The bytes of a record whose fields the schema lists. -/
def saveRecord (charset : Charset) (v : Value) (schema : Schema) : Except Error (List UInt8) :=
  Save.writeRecord (Save.sizeWithin charset v.depth) (Save.writeWithin charset v.depth) schema v

/-- The bytes of a table whose fields the schema lists. -/
def saveTable (charset : Charset) (v : Value) (schema : Schema) : Except Error (List UInt8) :=
  Save.writeTable (Save.sizeWithin charset v.depth) (Save.writeWithin charset v.depth) schema v

end Value

namespace Save

/-- A root of a file, with its length in front if its slot says so. -/
def writeRoot (charset : Charset) (slot : Schema) (root : Value) : Except Error (List UInt8) :=
  if slot.isSized then do
    let length ← root.savedSize charset slot
    let bytes ← root.save charset slot
    if bytes.length ≠ length then
      throw (.sizeMismatch slot.label length bytes.length)
    return Varint.encodeLength length ++ bytes
  else root.save charset slot

/-- The roots of a file, each under its slot. -/
def writeRoots (charset : Charset) : List Schema → List Value → Except Error (List UInt8)
  | slot :: slots, root :: roots => do
    let bytes ← writeRoot charset slot root
    let rest ← writeRoots charset slots roots
    return bytes ++ rest
  | _, _ => .ok []

/-- A part of the value of a file. -/
def filePart (key : String) (v : Value) : Except Error Value :=
  match v.get? key with
  | some part => .ok part
  | none => .error (.missingField key)

end Save

/-- The bytes of a file, given its signature and roots as a value. -/
def Value.saveFile (charset : Charset) (v : Value) : Except Error (List UInt8) := do
  let signature ← Save.string "signature" (← Save.filePart "signature" v)
  match Document.ofSignature? signature with
  | none => throw (.schemaNotFound signature)
  | some schema =>
    let roots ← Save.array "root" (← Save.filePart "root" v)
    if roots.length ≠ schema.roots.length then
      throw (.invalidValue "root" "one value per root slot" "array of a different length")
    let header ← StoredText.encodeSized charset signature
    return header ++ (← Save.writeRoots charset schema.roots roots)

end ChunkTree
