import ChunkTree.Content.Command
import ChunkTree.Content.IntArray
import ChunkTree.Content.MapTree
import ChunkTree.Schema.Kind
import ChunkTree.Value.NonFinite
import ChunkTree.Value.Basic

/-!
# Content from values

How a value is taken as the content of a field that is neither record nor table.  What does not fit is refused
with the name of the field.  `contentSize` and `contentBytes` are the size and the bytes of such a field; the size
of a float is known without looking at its value.
-/

namespace ChunkTree.Save

open Text (Charset)

/-- A value of an unexpected kind. -/
def invalid (field expected : String) (v : Value) : Error :=
  .invalidValue field expected v.kind

/-- A whole number that satisfies a test; `expected` says what is asked for. -/
def whole (field expected : String) (inRange : Int → Bool) (v : Value) : Except Error Int :=
  match v.asInt with
  | none => .error (invalid field expected v)
  | some n => if inRange n.toInt then .ok n.toInt else .error (.valueOutOfRange field n.toInt)

def int32 (field : String) (v : Value) : Except Error Int32 := do
  return Int32.ofInt (← whole field "integer" (LittleEndian.fits 4) v)

def uint32 (field : String) (v : Value) : Except Error UInt32 := do
  return UInt32.ofNat (← whole field "integer" (fun n => 0 ≤ n && n < 0x100000000) v).toNat

def bool (field : String) (v : Value) : Except Error Bool :=
  match v.asBool with
  | some b => .ok b
  | none => .error (invalid field "bool" v)

/-- A number, or the text of one that is not finite. -/
def float (field : String) (v : Value) : Except Error Binary64 :=
  match v.asFloat, v.asString.bind NonFinite.ofText? with
  | some x, _ => .ok x
  | none, some x => .ok x
  | none, none => .error (invalid field "number" v)

def string (field : String) (v : Value) : Except Error String :=
  match v.asString with
  | some s => .ok s
  | none => .error (invalid field "string" v)

def array (field : String) (v : Value) : Except Error (List Value) :=
  match v.asArray with
  | some items => .ok items
  | none => .error (invalid field "array" v)

/-- The items of an array, each taken as content. -/
def items {α : Type} (field : String) (item : Value → Except Error α) (v : Value) : Except Error (List α) := do
  (← array field v).mapM item

/-- An array of numbers of a fixed width. -/
def ints (width : Nat) (field : String) (v : Value) : Except Error (List Int) :=
  items field (whole field "integer" (LittleEndian.fits width)) v

def int32s (field : String) (v : Value) : Except Error (List Int32) :=
  items field (int32 field) v

/-- A part of an object that has to be there. -/
def part (field key : String) (v : Value) : Except Error Value :=
  match v.get? key with
  | some part => .ok part
  | none => .error (.missingField s!"{field}.{key}")

/-- A part of an object, or something else if it is missing. -/
def partOr {α : Type} (key : String) (take : Value → Except Error α) (otherwise : α) (v : Value) :
    Except Error α :=
  match v.get? key with
  | some part => take part
  | none => .ok otherwise

def mapTree (field : String) (v : Value) : Except Error MapTree := do
  let nodes ← items field (uint32 field) (← part field "nodes" v)
  let active ← uint32 field (← part field "active_node" v)
  return ⟨nodes, active⟩

def command (field : String) (v : Value) : Except Error Command := do
  if v.asObject.isNone then
    throw (invalid field "event command object" v)
  let code ← uint32 field (← part field "code" v)
  let nest ← partOr "nest" (uint32 field) 0 v
  let text ← partOr "str" (string field) "" v
  let args ← partOr "args" (int32s field) [] v
  return ⟨code, nest, text, args⟩

def script (field : String) (v : Value) : Except Error (List Command) :=
  items field (command field) v

/-- The bytes of a chunk without a schema, which goes by its index. -/
def rawBytes (index : UInt32) (v : Value) : Except Error (List UInt8) :=
  let field := toString index.toNat
  items field (fun item => do
    return UInt8.ofNat (← whole field "byte" (fun n => 0 ≤ n && n < 256) item).toNat) v

/-- The number of bytes of a field that is neither record nor table. -/
def contentSize (charset : Charset) (kind : Kind) (field : String) (v : Value) : Except Error Nat :=
  match kind with
  | .integer => return Varint.size (← int32 field v).toUInt32
  | .bool => return Varint.size (if ← bool field v then 1 else 0)
  | .float => return 8
  | .string => do StoredText.size charset (← string field v)
  | .script => do Script.byteSize charset (← script field v)
  | .int8s => return (← ints 1 field v).length * 1
  | .int16s => return (← ints 2 field v).length * 2
  | .int32s => return (← ints 4 field v).length * 4
  | .varints => return Varint.totalSize ((← int32s field v).map Int32.toUInt32)
  | .mapTree => return (← mapTree field v).byteSize
  | .record | .table => .ok 0

/-- The bytes of a field that is neither record nor table. -/
def contentBytes (charset : Charset) (kind : Kind) (field : String) (v : Value) : Except Error (List UInt8) :=
  match kind with
  | .integer => return Varint.encodeSigned (← int32 field v)
  | .bool => return Varint.encode (if ← bool field v then 1 else 0)
  | .float => return LittleEndian.digits 8 (← float field v).bits.toNat
  | .string => do StoredText.encode charset (← string field v)
  | .script => do Script.encode charset (← script field v)
  | .int8s => return IntArray.encode 1 (← ints 1 field v)
  | .int16s => return IntArray.encode 2 (← ints 2 field v)
  | .int32s => return IntArray.encode 4 (← ints 4 field v)
  | .varints => return (← int32s field v).flatMap Varint.encodeSigned
  | .mapTree => return (← mapTree field v).encode
  | .record | .table => .ok []

end ChunkTree.Save
