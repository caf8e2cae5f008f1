import ChunkTree.Error

/-!
# Cursors

A `Cursor` walks forward over a range of bytes.  A `Parse` reads from one, and when it fails the cursor is left
where the failure happened.  `Reader` adds a buffer to go back to: its position may be set anywhere, also beyond
the end.
-/

namespace ChunkTree

/-- A place in a range: the offset of the next byte and the bytes from there to the end of the range. -/
structure Cursor where
  pos : Nat
  rest : List UInt8
  deriving DecidableEq, Repr

/-- A parser.  Both its results carry the cursor that it left. -/
abbrev Parse (α : Type) : Type :=
  EStateM Error Cursor α

namespace Cursor

def remaining (c : Cursor) : Nat :=
  c.rest.length

/-- The cursor `n` bytes on. -/
def advance (c : Cursor) (n : Nat) : Cursor :=
  ⟨c.pos + n, c.rest.drop n⟩

/-- Whether at least `n` bytes are left. -/
def holds (c : Cursor) (n : Nat) : Bool :=
  n == 0 || !(c.rest.drop (n - 1)).isEmpty

end Cursor

namespace Parse

/-- The next `n` bytes.  Does not move when there are fewer. -/
def bytes (n : Nat) : Parse (List UInt8) := fun c =>
  if c.holds n then .ok (c.rest.take n) (c.advance n) else .error (.truncated n c.remaining) c

/-- Passes over `n` bytes. -/
def skip (n : Nat) : Parse Unit := fun c =>
  if c.holds n then .ok () (c.advance n) else .error (.truncated n c.remaining) c

def byte : Parse UInt8 := fun c =>
  match c.rest with
  | [] => .error (.truncated 1 0) c
  | b :: rest => .ok b ⟨c.pos + 1, rest⟩

def position : Parse Nat := fun c => .ok c.pos c

def isEmpty : Parse Bool := fun c => .ok c.rest.isEmpty c

/-- Fails when more than the remaining bytes are announced. -/
def atMostRemaining (n : Nat) : Parse Unit := fun c =>
  if c.holds n then .ok () c else .error (.truncated n c.remaining) c

/-- Runs a parser `n` times. -/
def replicate {α : Type} (p : Parse α) : Nat → Parse (List α)
  | 0 => pure []
  | n + 1 => do
    let x ← p
    let xs ← replicate p n
    return x :: xs

/-- Runs a parser until the range is used up, at most `bound` times. -/
def untilEmpty {α : Type} (p : Parse α) : Nat → Parse (List α)
  | 0 => pure []
  | bound + 1 => do
    if ← isEmpty then return []
    let x ← p
    let xs ← untilEmpty p bound
    return x :: xs

/-- Runs a parser that always moves until the range is used up. -/
def all {α : Type} (p : Parse α) : Parse (List α) := fun c =>
  untilEmpty p c.remaining c

end Parse

end ChunkTree
