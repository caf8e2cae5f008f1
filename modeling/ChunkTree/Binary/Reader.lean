import ChunkTree.Binary.Cursor

/-!
# Seekable readers

A `Reader` is a buffer with a position that may be set anywhere, also beyond the end.  Its operations run a parser
from the position and move to where that parser stopped.
-/

namespace ChunkTree

/-- A buffer and a position in it. -/
structure Reader where
  data : List UInt8
  pos : Nat
  deriving DecidableEq, Repr

namespace Reader

def cursor (r : Reader) : Cursor :=
  ⟨r.pos, r.data.drop r.pos⟩

def remaining (r : Reader) : Nat :=
  r.data.length - r.pos

def isEmpty (r : Reader) : Bool :=
  decide (r.data.length ≤ r.pos)

def seek (pos : Nat) (r : Reader) : Reader :=
  { r with pos }

/-- A reader over `length` bytes from `offset` on.  It keeps the offsets of the whole buffer, and does not read
beyond the range. -/
def range? (data : List UInt8) (offset length : Nat) : Except Error Reader :=
  if offset + length ≤ data.length then .ok ⟨data.take (offset + length), offset⟩
  else .error (.truncated length (data.length - offset))

/-- Runs a parser from the position. -/
def run {α : Type} (p : Parse α) (r : Reader) : Except Error α × Reader :=
  match p r.cursor with
  | .ok x c => (.ok x, r.seek c.pos)
  | .error e c => (.error e, r.seek c.pos)

/-- Runs a parser that takes a slice of `n` bytes.  Beyond the end not even an empty slice can be taken. -/
def slice {α : Type} (n : Nat) (p : Parse α) (r : Reader) : Except Error α × Reader :=
  if n = 0 ∧ r.data.length < r.pos then (.error .beyondEnd, r) else r.run p

def bytes (n : Nat) (r : Reader) : Except Error (List UInt8) × Reader :=
  r.slice n (Parse.bytes n)

def skip (n : Nat) (r : Reader) : Except Error Unit × Reader :=
  r.slice n (Parse.skip n)

/-- The next `n` bytes, without moving. -/
def peek (n : Nat) (r : Reader) : Except Error (List UInt8) × Reader :=
  ((r.bytes n).1, r)

end Reader

end ChunkTree
