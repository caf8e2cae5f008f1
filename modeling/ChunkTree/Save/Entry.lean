import ChunkTree.Save.Content
import ChunkTree.Schema.Resolve
import ChunkTree.Value.Equality
import ChunkTree.View.Tree

/-!
# The chunks to save

Which chunks an object is saved as.  Internal keys and values equal to their default are left out, and every field
that holds the size of a saved field is rebuilt.  `entriesOf` lists the chunks of a record by index, `rowsOf` the
rows of a table.
-/

namespace ChunkTree.Save

/-- A chunk to save: the value of a field, or of a chunk that the schema does not know. -/
structure Entry where
  index : UInt32
  value : Value
  schema : Option Schema
  deriving Inhabited

/-- Reads on in decimal from a number. -/
def decimalFrom? (n : Nat) : List Char → Option Nat
  | [] => some n
  | c :: cs => if c.isDigit then decimalFrom? (n * 10 + (c.toNat - 48)) cs else none

/-- The index that a key spells in decimal, perhaps after a plus sign. -/
def index? (key : String) : Option UInt32 :=
  let digits := if key.toList.head? = some '+' then key.toList.tail else key.toList
  if digits.isEmpty then none
  else
    match decimalFrom? 0 digits with
    | some n => if n < 0x100000000 then some (UInt32.ofNat n) else none
    | none => none

/-- Puts an item before the first one that does not come before it. -/
def insertBy {α : Type} (key : α → UInt32) (x : α) : List α → List α
  | [] => [x]
  | y :: ys => if key x ≤ key y then x :: y :: ys else y :: insertBy key x ys

/-- Sorts by a key; items with the same key stay in order. -/
def sortBy {α : Type} (key : α → UInt32) : List α → List α
  | [] => []
  | x :: xs => insertBy key x (sortBy key xs)

/-- Whether a value equals the default of its field and so is not saved. -/
def isDefault (schema : Option Schema) (v : Value) : Bool :=
  match schema.bind Schema.default? with
  | some default => default.same v
  | none => false

/-- The entry for a value under an index, unless the value is the default of its field. -/
def entryUnlessDefault (index : UInt32) (field : Option Schema) (v : Value) : Option Entry :=
  if isDefault field v then none else some ⟨index, v, field⟩

/-- The entry for a key and its value; none if they are left out. -/
def keyEntry (schema : Schema) (key : String) (v : Value) : Except Error (Option Entry) :=
  if isInternal key then .ok none
  else
    match schema.find? (.name key) with
    | some field =>
      match field.index? with
      | none => .error (.fieldWithoutIndex schema.label key)
      | some index => .ok (entryUnlessDefault index (some field) v)
    | none =>
      match index? key with
      | none => .error (.unknownField schema.label key)
      | some index =>
        if index = 0 then .error (.unknownField schema.label key)
        else
          let field := schema.find? (.index index)
          if ((field.bind Schema.name?).map isInternal).getD false then .ok none
          else .ok (entryUnlessDefault index field v)

/-- The entries of an object with the keys that are saved, in order. -/
def givenEntries (schema : Schema) : Fields → Except Error (List Entry)
  | [] => .ok []
  | (key, v) :: fields => do
    let entry ← keyEntry schema key v
    let rest ← givenEntries schema fields
    return entry.toList ++ rest

/-- The number of payload bytes of an entry, given the size of each field. -/
def Entry.payloadSize (size : Value → Schema → Except Error Nat) (e : Entry) : Except Error Nat :=
  match e.schema with
  | some schema => size e.value schema
  | none => return (← rawBytes e.index e.value).length

/-- The number that a size field holds for an entry: items for numbers of a fixed width, bytes for all else. -/
def Entry.count (size : Value → Schema → Except Error Nat) (e : Entry) : Except Error Nat := do
  let payload ← e.payloadSize size
  match e.schema with
  | none => return payload
  | some schema =>
    let (kind, _) ← schema.resolve
    match kind.itemWidth with
    | some width => return payload / width
    | none => return payload

/-- The entries of the size fields whose target is among the given entries. -/
def sizeEntries (size : Value → Schema → Except Error Nat) (given : List Entry) :
    List Schema → Except Error (List Entry)
  | [] => .ok []
  | field :: fields =>
    match field.sizeOf?, field.index? with
    | some target, some index =>
      match given.find? fun entry => entry.schema.bind Schema.name? == some target with
      | some entry => do
        let count ← entry.count size
        let rest ← sizeEntries size given fields
        return ⟨index, .ofNat count, some field⟩ :: rest
      | none => sizeEntries size given fields
    | _, _ => sizeEntries size given fields

/-- The first index that two neighbours share. -/
def repeated? : List Entry → Option UInt32
  | e :: f :: entries => if e.index = f.index then some e.index else repeated? (f :: entries)
  | _ => none

/-- The chunks that an object is saved as, by index. -/
def entriesOf (size : Value → Schema → Except Error Nat) (schema : Schema) (v : Value) :
    Except Error (List Entry) := do
  match v.asObject with
  | none => throw (invalid schema.label "object" v)
  | some fields =>
    let given ← givenEntries schema fields
    let sizes ← sizeEntries size given schema.fields
    let entries := sortBy Entry.index (given ++ sizes)
    match repeated? entries with
    | some index =>
      throw (.invalidValue s!"{schema.label}#{index.toNat}" "one entry per field" "duplicate entries")
    | none => return entries

/-- The further rows that the first row of an index keeps. -/
def restOf (key : String) (row : Value) : Except Error (List Value) :=
  match row.get? restKey with
  | none => .ok []
  | some rest =>
    match rest.asArray with
    | some rows => .ok rows
    | none => .error (invalid (key ++ "." ++ restKey) "array" rest)

/-- The rows of an object in its own order. -/
def givenRows (schema : Schema) : Fields → Except Error (List (UInt32 × Value))
  | [] => .ok []
  | (key, row) :: fields =>
    match index? key with
    | none => .error (.unknownField schema.label key)
    | some index => do
      let more ← restOf key row
      let rest ← givenRows schema fields
      return (index, row) :: more.map (index, ·) ++ rest

/-- The rows of a table by index; rows of one index stay in order. -/
def rowsOf (schema : Schema) (v : Value) : Except Error (List (UInt32 × Value)) := do
  match v.asObject with
  | none => throw (invalid schema.label "object" v)
  | some fields => return sortBy Prod.fst (← givenRows schema fields)

end ChunkTree.Save
