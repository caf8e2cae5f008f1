import ChunkTree.Binary.Cursor

/-!
# Varints

A varint writes a 32-bit word in groups of seven bits, the most significant group first, with the high bit set on
every byte but the last.  Reading accepts any number of leading zero groups.
-/

namespace ChunkTree.Varint

/-- The number of bytes that a word takes. -/
def size (v : UInt32) : Nat :=
  if v < 0x80 then 1
  else if v < 0x4000 then 2
  else if v < 0x200000 then 3
  else if v < 0x10000000 then 4
  else 5

/-- The number of bytes that several words take. -/
def totalSize : List UInt32 → Nat
  | [] => 0
  | v :: vs => size v + totalSize vs

/-- The lowest `k + 1` groups of a number. -/
def groups : Nat → Nat → List UInt8
  | 0, n => [UInt8.ofNat (n % 128)]
  | k + 1, n => UInt8.ofNat (n / Nat.pow 128 (k + 1) % 128 + 128) :: groups k n

/-- The shortest form of a word. -/
def encode (v : UInt32) : List UInt8 :=
  groups (size v - 1) v.toNat

/-- Reads on from the number `acc` gathered so far.  `start` is where the varint starts. -/
def accumulate (start acc pos : Nat) : List UInt8 → EStateM.Result Error Cursor UInt32
  | [] => .error (.truncated 1 0) ⟨pos, []⟩
  | b :: rest =>
    let acc := acc * 128 + b.toNat % 128
    if 0x100000000 ≤ acc then .error (.varintOverflow start) ⟨pos + 1, rest⟩
    else if b < 0x80 then .ok (UInt32.ofNat acc) ⟨pos + 1, rest⟩
    else accumulate start acc (pos + 1) rest

/-- Reads on as `accumulate` does, with a register of 64 bits and by shifts.  There is no result when bits are
shifted out of the register. -/
def accumulate64 (start : Nat) (acc : UInt64) (pos : Nat) :
    List UInt8 → Option (EStateM.Result Error Cursor UInt32)
  | [] => some (.error (.truncated 1 0) ⟨pos, []⟩)
  | b :: rest =>
    if (acc <<< 7) >>> 7 ≠ acc then none
    else
      let acc := acc <<< 7 ||| (b &&& 0x7f).toUInt64
      if 0xffffffff < acc then some (.error (.varintOverflow start) ⟨pos + 1, rest⟩)
      else if b &&& 0x80 = 0 then some (.ok acc.toUInt32 ⟨pos + 1, rest⟩)
      else accumulate64 start acc (pos + 1) rest

/-- Reads a varint. -/
def parse : Parse UInt32 := fun c =>
  accumulate c.pos 0 c.pos c.rest

/-- Reads a varint as a signed number, in two's complement. -/
def parseSigned : Parse Int32 := do
  return (← parse).toInt32

/-- Reads a varint that is a length or a count. -/
def parseLength : Parse Nat := do
  return (← parse).toNat

/-- The varint of a signed number. -/
def encodeSigned (n : Int32) : List UInt8 :=
  encode n.toUInt32

/-- The varint of a length, of which only the lowest 32 bits are kept. -/
def encodeLength (n : Nat) : List UInt8 :=
  encode (UInt32.ofNat n)

/-- The size of the varint of a length. -/
def lengthSize (n : Nat) : Nat :=
  size (UInt32.ofNat n)

end ChunkTree.Varint
