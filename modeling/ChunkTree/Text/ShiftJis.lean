import ChunkTree.Text.EachChar
import ChunkTree.Text.Index.Jis0208

/-!
# Shift_JIS

A byte below `0x81` and the half-width katakana stand alone, all else is a pair of lead and trail byte, which
together give a pointer into JIS X 0208.  Reading knows a block of user-defined pairs, writing does not.
Writing takes the yen sign and the overline to the bytes of backslash and tilde.
-/

namespace ChunkTree.Text.ShiftJis

/-- The character of a byte that stands alone. -/
def single? (b : Nat) : Option Char :=
  if b ≤ 0x80 then some (Char.ofNat b)
  else if 0xa1 ≤ b ∧ b ≤ 0xdf then some (Char.ofNat (0xff61 + (b - 0xa1)))
  else none

/-- The pointer of a lead and a trail byte. -/
def pointer? (lead trail : Nat) : Option Nat :=
  let row :=
    if 0x81 ≤ lead ∧ lead ≤ 0x9f then some (lead - 0x81)
    else if 0xe0 ≤ lead ∧ lead ≤ 0xfc then some (lead - 0xc1)
    else none
  let cell :=
    if 0x40 ≤ trail ∧ trail ≤ 0x7e then some (trail - 0x40)
    else if 0x80 ≤ trail ∧ trail ≤ 0xfc then some (trail - 0x41)
    else none
  match row, cell with
  | some row, some cell => some (row * 188 + cell)
  | _, _ => none

/-- The character of a pointer.  Pointers 8836 to 10715 are the user-defined block. -/
def ofPointer? (pointer : Nat) : Option Char :=
  if 8836 ≤ pointer ∧ pointer ≤ 10715 then some (Char.ofNat (0xe000 + (pointer - 8836)))
  else jis0208.char? pointer

def decode : List UInt8 → Option (List Char)
  | [] => some []
  | b :: rest =>
    match single? b.toNat with
    | some c => (decode rest).map (c :: ·)
    | none =>
      match rest with
      | [] => none
      | trail :: rest =>
        match (pointer? b.toNat trail.toNat).bind ofPointer? with
        | some c => (decode rest).map (c :: ·)
        | none => none

/-- The pointer that each character is written with.  Pointers 8272 to 8835 repeat characters that have a
later pointer, which is preferred. -/
def pointers : Pointers :=
  jis0208.inverse (fun pointer => pointer < 8272 || 8835 < pointer)

/-- The pair of bytes of a pointer. -/
def pair (pointer : Nat) : List UInt8 :=
  let row := pointer / 188
  let cell := pointer % 188
  [UInt8.ofNat (row + if row < 0x1f then 0x81 else 0xc1), UInt8.ofNat (cell + if cell < 0x3f then 0x40 else 0x41)]

def encodeChar (c : Char) : Option (List UInt8) :=
  let n := c.toNat
  if n ≤ 0x80 then some [UInt8.ofNat n]
  else if n = 0xa5 then some [0x5c]
  else if n = 0x203e then some [0x7e]
  else if 0xff61 ≤ n ∧ n ≤ 0xff9f then some [UInt8.ofNat (n - 0xff61 + 0xa1)]
  else if n = 0x2212 then (pointers.find? '－').map pair
  else (pointers.find? c).map pair

def encode : List Char → Option (List UInt8) :=
  encodeEach encodeChar

end ChunkTree.Text.ShiftJis
