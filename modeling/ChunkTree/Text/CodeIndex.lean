import Std.Data.HashMap.Basic

/-!
# Character indexes

A `CodeIndex` is a table from pointers to characters, packed sixteen to a row.  `CodeIndex.char?` reads it and
`CodeIndex.inverse` turns it round: `Pointers.find?` gives the first admitted pointer that stands for a character.
-/

namespace ChunkTree.Text

/-- A table of characters by pointer.  A row packs sixteen codes of `width` bits, the first one highest, and a
zero code is a pointer without a character. -/
structure CodeIndex where
  width : Nat
  rows : Array Nat
  deriving Inhabited

/-- Pointers by the code points of the characters that they stand for. -/
abbrev Pointers : Type :=
  Std.HashMap Nat Nat

def Pointers.find? (pointers : Pointers) (c : Char) : Option Nat :=
  pointers[c.toNat]?

namespace CodeIndex

/-- The number of pointers that the table covers. -/
def size (index : CodeIndex) : Nat :=
  16 * index.rows.size

/-- The code at a pointer, zero outside the table. -/
def code (index : CodeIndex) (pointer : Nat) : Nat :=
  (index.rows.getD (pointer / 16) 0 >>> (index.width * (15 - pointer % 16))) % Nat.pow 2 index.width

def char? (index : CodeIndex) (pointer : Nat) : Option Char :=
  match index.code pointer with
  | 0 => none
  | code + 1 => some (Char.ofNat (code + 1))

/-- Enters a pointer under the code point of its character, unless that has one already. -/
def enter (index : CodeIndex) (admits : Nat → Bool) (entries : Pointers) (pointer : Nat) : Pointers :=
  match index.char? pointer with
  | some c => if admits pointer then entries.insertIfNew c.toNat pointer else entries
  | none => entries

/-- The first admitted pointer of each character. -/
def inverse (index : CodeIndex) (admits : Nat → Bool) : Pointers :=
  (List.range index.size).foldl (index.enter admits) ∅

end CodeIndex

end ChunkTree.Text
