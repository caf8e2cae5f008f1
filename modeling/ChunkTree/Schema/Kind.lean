/-!
# Kinds of data

The kinds of content that a chunk may have.  `Kind.name` is the word for a kind in a schema, and
`Kind.ofName?` finds the kind again.
-/

namespace ChunkTree

/-- A kind of chunk content. -/
inductive Kind where
  | integer | bool | float | string
  /-- A list of event commands. -/
  | script
  | int8s | int16s | int32s
  | varints
  | mapTree
  /-- A set of chunks by index. -/
  | record
  /-- A list of records by row index. -/
  | table
  deriving DecidableEq, Repr, Inhabited

namespace Kind

def all : List Kind :=
  [integer, bool, float, string, script, int8s, int16s, int32s, varints, mapTree, record, table]

def name : Kind → String
  | integer => "integer"
  | bool => "bool"
  | float => "float"
  | string => "string"
  | script => "event"
  | int8s => "int8array"
  | int16s => "int16array"
  | int32s => "int32array"
  | varints => "ber_array"
  | mapTree => "map_tree"
  | record => "array1d"
  | table => "array2d"

def ofName? (name : String) : Option Kind :=
  all.find? fun kind => kind.name == name

def isComposite : Kind → Bool
  | record | table => true
  | _ => false

/-- The number of bytes of an item, for arrays of numbers of a fixed width. -/
def itemWidth : Kind → Option Nat
  | int8s => some 1
  | int16s => some 2
  | int32s => some 4
  | _ => none

end Kind

end ChunkTree
