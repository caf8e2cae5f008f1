import ChunkTree.Binary.LittleEndian

/-!
# Arrays of numbers of a fixed width

An `IntArray` is a view of bytes as signed little-endian numbers.  `get?` slices a single number out of the bytes
and `toList` lists all of them.  Within the data that the bytes lie in, `slice?` and `iterate` do the same.
-/

namespace ChunkTree

/-- Bytes read as numbers of `width` bytes each. -/
structure IntArray where
  width : Nat
  bytes : List UInt8
  deriving DecidableEq, Repr

namespace IntArray

def size (a : IntArray) : Nat :=
  a.bytes.length / a.width

def get? (a : IntArray) (i : Nat) : Option Int :=
  if i < a.size then some (LittleEndian.signedValue ((a.bytes.drop (i * a.width)).take a.width)) else none

/-- The number at a place, sliced out of the data from the offset of the array on.  A slice that leaves the data
gives none. -/
def slice? (data : List UInt8) (offset : Nat) (a : IntArray) (i : Nat) : Option Int :=
  if i < a.size then
    let start := offset + i * a.width
    if start + a.width ≤ data.length then some (LittleEndian.signedValue ((data.drop start).take a.width)) else none
  else none

/-- The numbers that can be sliced out, in order. -/
def iterate (data : List UInt8) (offset : Nat) (a : IntArray) : List Int :=
  (List.range a.size).filterMap (a.slice? data offset)

/-- The first `n` numbers. -/
def items (width : Nat) : Nat → List UInt8 → List Int
  | 0, _ => []
  | n + 1, bytes => LittleEndian.signedValue (bytes.take width) :: items width n (bytes.drop width)

def toList (a : IntArray) : List Int :=
  items a.width a.size a.bytes

/-- The bytes of a list of numbers. -/
def encode (width : Nat) (ns : List Int) : List UInt8 :=
  ns.flatMap (LittleEndian.signedDigits width)

end IntArray

end ChunkTree
