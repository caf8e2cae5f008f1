import ChunkTree.Binary64.Basic

/-!
# Values

`Value` is the tree that chunk data is converted to and saved from, and also the form in which schemas are
written.  An object keeps its keys in the order in which they were first inserted; `Fields.insert` is the only way
it is built, so no key occurs twice.
-/

namespace ChunkTree

/-- A tree of values. -/
inductive Value where
  | null
  | bool (b : Bool)
  | int (n : Int64)
  | float (x : Binary64)
  | string (s : String)
  | array (items : List Value)
  | object (fields : List (String × Value))
  deriving Inhabited, Repr

/-- The keys and values of an object, in order. -/
abbrev Fields : Type :=
  List (String × Value)

namespace Fields

/-- Sets a key: in place if the object has it, else at the end. -/
def insert (key : String) (value : Value) : Fields → Fields
  | [] => [(key, value)]
  | (k, v) :: fields => if k = key then (key, value) :: fields else (k, v) :: insert key value fields

/-- The object with the given entries; the last value of a key wins. -/
def ofList (entries : List (String × Value)) : Fields :=
  entries.foldl (fun fields entry => insert entry.1 entry.2 fields) []

end Fields

namespace Value

/-- The name of the kind of a value. -/
def kind : Value → String
  | null => "null"
  | bool _ => "bool"
  | int _ => "int"
  | float _ => "float"
  | string _ => "string"
  | array _ => "array"
  | object _ => "object"

def asBool : Value → Option Bool
  | bool b => some b
  | _ => none

/-- A whole number below `9 * 10 ^ 15` in size counts as an integer also when it is written as a float. -/
def asInt : Value → Option Int64
  | int n => some n
  | float x =>
    match x.toInt? with
    | some n => if n.natAbs < 9000000000000000 then some (Int64.ofInt n) else none
    | none => none
  | _ => none

def asFloat : Value → Option Binary64
  | int n => some (Binary64.ofInt n.toInt)
  | float x => some x
  | _ => none

def asString : Value → Option String
  | string s => some s
  | _ => none

def asArray : Value → Option (List Value)
  | array items => some items
  | _ => none

def asObject : Value → Option Fields
  | object fields => some fields
  | _ => none

/-- The value of a key. -/
def get? (v : Value) (key : String) : Option Value :=
  v.asObject.bind (List.lookup key)

/-- The value of a key, `null` if there is none. -/
def field (v : Value) (key : String) : Value :=
  (v.get? key).getD null

/-- The item at a position, `null` if there is none. -/
def item (v : Value) (position : Nat) : Value :=
  ((v.asArray.getD [])[position]?).getD null

/-- A 32-bit word as a value. -/
def ofUInt32 (n : UInt32) : Value :=
  int (Int64.ofNat n.toNat)

def ofInt32 (n : Int32) : Value :=
  int n.toInt64

def ofInt (n : Int) : Value :=
  int (Int64.ofInt n)

def ofNat (n : Nat) : Value :=
  int (Int64.ofNat n)

/-- The bytes of a chunk as an array of numbers. -/
def ofBytes (bytes : List UInt8) : Value :=
  array (bytes.map fun b => ofNat b.toNat)

mutual

/-- How deep arrays and objects are nested in a value. -/
def depth : Value → Nat
  | array items => itemsDepth items + 1
  | object fields => fieldsDepth fields + 1
  | _ => 0

def itemsDepth : List Value → Nat
  | [] => 0
  | v :: items => max v.depth (itemsDepth items)

def fieldsDepth : List (String × Value) → Nat
  | [] => 0
  | (_, v) :: fields => max v.depth (fieldsDepth fields)

end

end Value

end ChunkTree
