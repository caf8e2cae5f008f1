import ChunkTree.Schema.Kind
import ChunkTree.Value.Basic

/-!
# Schemas

A schema is a value that describes a chunk: its type, and perhaps its name, its index in the record that holds it,
and a value.  Depending on the type that value is a default, the list of a record's fields, or the name of the
document that lists them.  An entry that is missing or of an unexpected kind counts as absent.
-/

namespace ChunkTree

/-- A schema, as the value that it is written as. -/
structure Schema where
  node : Value
  deriving Inhabited, Repr

/-- How a field of a record is asked for. -/
inductive FieldKey where
  | index (i : UInt32)
  | name (s : String)
  deriving DecidableEq, Repr

def FieldKey.text : FieldKey → String
  | index i => s!"#{i.toNat}"
  | name s => s

/-- Whether a name is for internal use: its field is left out of the value of a record. -/
def isInternal (name : String) : Bool :=
  name.toList.head? == some '_'

/-- The field whose size a field of this name holds: `_items_size` is for `items`. -/
def sizeTarget? (name : String) : Option String :=
  match name.toList with
  | '_' :: cs =>
    let target := cs.take (cs.length - 5)
    if cs.drop (cs.length - 5) = ['_', 's', 'i', 'z', 'e'] ∧ target ≠ [] then some (String.ofList target) else none
  | _ => none

namespace Schema

/-- The text of an entry of the schema. -/
def text? (s : Schema) (key : String) : Option String :=
  (s.node.get? key).bind Value.asString

def typeName (s : Schema) : String :=
  (s.text? "type").getD ""

def name? (s : Schema) : Option String :=
  s.text? "name"

def signature? (s : Schema) : Option String :=
  s.text? "signature"

/-- The index of the chunk in its record. -/
def index? (s : Schema) : Option UInt32 :=
  match (s.node.get? "index").bind Value.asInt with
  | some n => if 0 ≤ n.toInt ∧ n.toInt < 0x100000000 then some (UInt32.ofNat n.toInt.toNat) else none
  | none => none

def value? (s : Schema) : Option Value :=
  s.node.get? "value"

/-- Whether a root is stored with its length in front. -/
def isSized (s : Schema) : Bool :=
  ((s.node.get? "sized").bind Value.asBool).getD false

/-- The name of the field whose size this field holds. -/
def sizeOf? (s : Schema) : Option String :=
  match s.text? "size_of" with
  | some target => some target
  | none => s.name?.bind sizeTarget?

/-- The schemas that an array in an entry lists. -/
def listed (s : Schema) (key : String) : List Schema :=
  (((s.node.get? key).bind Value.asArray).getD []).map Schema.mk

/-- The fields of a record or of the rows of a table. -/
def fields (s : Schema) : List Schema :=
  s.listed "value"

/-- The roots of a file. -/
def roots (s : Schema) : List Schema :=
  s.listed "root"

/-- Whether the value of a schema is a default.  Records and tables have none. -/
def hasDefault (s : Schema) : Bool :=
  match s.value? with
  | none => false
  | some (.array _) => false
  | some _ => s.typeName != "array1d" && s.typeName != "array2d"

def default? (s : Schema) : Option Value :=
  if s.hasDefault then s.value? else none

/-- The name by which messages refer to a schema. -/
def label (s : Schema) : String :=
  match s.name?, s.signature? with
  | some name, _ => name
  | none, some signature => signature
  | none, none => s.typeName

/-- The first field with the given index or name. -/
def find? (s : Schema) : FieldKey → Option Schema
  | .index i => s.fields.find? fun field => field.index? == some i
  | .name n => s.fields.find? fun field => field.name? == some n

end Schema

end ChunkTree
