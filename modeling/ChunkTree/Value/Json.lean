import ChunkTree.Value.Basic
import ChunkTree.Value.NonFinite

/-!
# Values as JSON trees

`Json` is a tree of JSON, whose numbers are whole numbers of 64 bits and finite floats.  A value is turned into
one by `Value.toJson`, where floats that are not finite become texts, and back into a value by `Json.toValue`.
-/

namespace ChunkTree

/-- A number of a JSON tree.  A whole number that is not negative may be too large for an integer. -/
inductive Json.Number where
  | natural (n : UInt64)
  | negative (n : Int64) (h : n < 0)
  | float (x : Binary64) (h : x.isFinite)
  deriving DecidableEq, Repr

/-- A tree of JSON.  The keys of an object are in order, and none occurs twice. -/
inductive Json where
  | null
  | bool (b : Bool)
  | number (n : Json.Number)
  | string (s : String)
  | array (items : List Json)
  | object (fields : List (String × Json))
  deriving Repr

namespace Json

namespace Number

def ofInt (n : Int64) : Number :=
  if h : n < 0 then negative n h else natural n.toUInt64

/-- The number for a float, if that is finite. -/
def ofFloat? (x : Binary64) : Option Number :=
  if h : x.isFinite then some (float x h) else none

/-- The integer that a number is, if it has 64 bits. -/
def asInt : Number → Option Int64
  | natural n => if n.toNat < 0x8000000000000000 then some n.toInt64 else none
  | negative n _ => some n
  | float _ _ => none

/-- The float nearest to a number. -/
def asFloat : Number → Binary64
  | natural n => Binary64.ofInt n.toNat
  | negative n _ => Binary64.ofInt n.toInt
  | float x _ => x

/-- The value for a number: an integer if it is one of 64 bits, else a float. -/
def toValue (n : Number) : Value :=
  match n.asInt with
  | some i => .int i
  | none => .float n.asFloat

end Number

mutual

/-- The value for a JSON tree. -/
def toValue : Json → Value
  | null => .null
  | bool b => .bool b
  | number n => n.toValue
  | string s => .string s
  | array items => .array (itemsToValue items)
  | object fields => .object (fieldsToValue fields)

def itemsToValue : List Json → List Value
  | [] => []
  | j :: items => j.toValue :: itemsToValue items

def fieldsToValue : List (String × Json) → Fields
  | [] => []
  | (k, j) :: fields => (k, j.toValue) :: fieldsToValue fields

end

end Json

namespace Value

mutual

/-- The JSON tree for a value. -/
def toJson : Value → Json
  | null => .null
  | bool b => .bool b
  | int n => .number (.ofInt n)
  | float x =>
    match Json.Number.ofFloat? x with
    | some n => .number n
    | none => .string (NonFinite.text x)
  | string s => .string s
  | array items => .array (itemsToJson items)
  | object fields => .object (fieldsToJson fields)

def itemsToJson : List Value → List Json
  | [] => []
  | v :: items => v.toJson :: itemsToJson items

def fieldsToJson : Fields → List (String × Json)
  | [] => []
  | (k, v) :: fields => (k, v.toJson) :: fieldsToJson fields

end

/-- A value that was turned into a JSON tree and back. -/
def throughJson (v : Value) : Value :=
  v.toJson.toValue

end Value

end ChunkTree
