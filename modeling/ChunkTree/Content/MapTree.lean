import ChunkTree.Binary.Varint

/-!
# The map tree

The order in which maps are shown, and the map that is open.
-/

namespace ChunkTree

/-- Map identifiers in display order, and the active one. -/
structure MapTree where
  nodes : List UInt32
  active : UInt32
  deriving DecidableEq, Repr, Inhabited

namespace MapTree

def parse : Parse MapTree := do
  let count ← Varint.parseLength
  Parse.atMostRemaining count
  let nodes ← Parse.replicate Varint.parse count
  let active ← Varint.parse
  return ⟨nodes, active⟩

/-- The number of bytes that a map tree takes. -/
def byteSize (t : MapTree) : Nat :=
  Varint.lengthSize t.nodes.length + Varint.totalSize t.nodes + Varint.size t.active

def encode (t : MapTree) : List UInt8 :=
  Varint.encodeLength t.nodes.length ++ t.nodes.flatMap Varint.encode ++ Varint.encode t.active

end MapTree

end ChunkTree
