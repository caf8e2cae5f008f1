import ChunkTree.Binary.Cursor

/-!
# Little-endian words

Numbers of a fixed width, the lowest byte first and negative ones in two's complement.
-/

namespace ChunkTree.LittleEndian

/-- The number that bytes stand for. -/
def value : List UInt8 → Nat
  | [] => 0
  | b :: bs => b.toNat + 256 * value bs

/-- The lowest `width` bytes of a number. -/
def digits : Nat → Nat → List UInt8
  | 0, _ => []
  | width + 1, n => UInt8.ofNat (n % 256) :: digits width (n / 256)

/-- The signed number that bytes stand for. -/
def signedValue (bytes : List UInt8) : Int :=
  Int.bmod (value bytes) (Nat.pow 256 bytes.length)

/-- The lowest `width` bytes of a signed number. -/
def signedDigits (width : Nat) (n : Int) : List UInt8 :=
  digits width (n % Nat.pow 256 width).toNat

/-- Reads a signed number of `width` bytes. -/
def parseSigned (width : Nat) : Parse Int := do
  return signedValue (← Parse.bytes width)

/-- Whether a number is within the signed range of `width` bytes. -/
def fits (width : Nat) (n : Int) : Bool :=
  decide (-(Nat.pow 256 width : Int) ≤ 2 * n ∧ 2 * n < Nat.pow 256 width)

end ChunkTree.LittleEndian
