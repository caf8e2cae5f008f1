/-!
# Binary64 numbers

A `Binary64` is a floating-point number as its 64 bits, so that every pattern, also of what is no number,
survives being read and written.  What a pattern stands for is worked out in whole numbers: `toInt?` is the exact
value if it is whole, and `ofRatio` is the number nearest to a fraction.
-/

namespace ChunkTree

/-- The bits of a floating-point number. -/
structure Binary64 where
  bits : UInt64
  deriving DecidableEq, Repr, Inhabited

namespace Binary64

def exponent (x : Binary64) : Nat :=
  x.bits.toNat / 0x10000000000000 % 2048

def fraction (x : Binary64) : Nat :=
  x.bits.toNat % 0x10000000000000

def isNegative (x : Binary64) : Bool :=
  decide (0x8000000000000000 ≤ x.bits.toNat)

def isFinite (x : Binary64) : Bool :=
  x.exponent != 2047

def isNaN (x : Binary64) : Bool :=
  x.exponent == 2047 && x.fraction != 0

/-- Whether a pattern is one of the two zeros. -/
def isZero (x : Binary64) : Bool :=
  x.exponent == 0 && x.fraction == 0

/-- The pattern that stands for no number when no other is asked for. -/
def nan : Binary64 :=
  ⟨0x7ff8000000000000⟩

def infinity : Binary64 :=
  ⟨0x7ff0000000000000⟩

def negate (x : Binary64) : Binary64 :=
  ⟨x.bits ^^^ 0x8000000000000000⟩

/-- The absolute value of a finite number is `significand * 2 ^ (power - 1075)`. -/
def significand (x : Binary64) : Nat :=
  if x.exponent = 0 then x.fraction else 0x10000000000000 + x.fraction

def power (x : Binary64) : Nat :=
  max x.exponent 1

/-- Numerical equality: the two zeros are equal, and what is no number equals nothing. -/
def eq (x y : Binary64) : Bool :=
  !x.isNaN && !y.isNaN && (x == y || (x.isZero && y.isZero))

/-- The absolute value of a finite number as a fraction. -/
def ratio (x : Binary64) : Nat × Nat :=
  if 1075 ≤ x.power then (x.significand * Nat.pow 2 (x.power - 1075), 1)
  else (x.significand, Nat.pow 2 (1075 - x.power))

/-- The value of a number that is finite and whole. -/
def toInt? (x : Binary64) : Option Int :=
  let (num, den) := x.ratio
  if x.isFinite ∧ num % den = 0 then
    some (if x.isNegative then -(num / den : Nat) else (num / den : Nat))
  else none

/-- Division to the nearest whole number, a half going to the even one. -/
def roundDiv (num den : Nat) : Nat :=
  let quotient := num / den
  let rest := num % den
  if den < 2 * rest ∨ (2 * rest = den ∧ quotient % 2 = 1) then quotient + 1 else quotient

/-- The number of binary digits, counted from the smallest positive number, that `num / den` has more than the
53 of a significand. -/
def excess (num den : Nat) : Nat :=
  let guess := 1074 + num.log2 - den.log2 - 52
  if num * Nat.pow 2 1074 < den * Nat.pow 2 (guess + 52) then guess - 1 else guess

/-- The number nearest to `num / den`, a tie going to the even significand, and infinity beyond the largest. -/
def ofRatio (num den : Nat) : Binary64 :=
  if num = 0 then ⟨0⟩
  else
    let k := excess num den
    let bits := k * 0x10000000000000 + roundDiv (num * Nat.pow 2 1074) (den * Nat.pow 2 k)
    if 0x7ff0000000000000 ≤ bits then infinity else ⟨UInt64.ofNat bits⟩

/-- The number nearest to a whole number. -/
def ofInt (n : Int) : Binary64 :=
  if n < 0 then negate (ofRatio n.natAbs 1) else ofRatio n.natAbs 1

/-- The product of the absolute values of two finite numbers, rounded. -/
def mul (x y : Binary64) : Binary64 :=
  ofRatio (x.ratio.1 * y.ratio.1) (x.ratio.2 * y.ratio.2)

/-- The quotient of the absolute values of two finite numbers, rounded. -/
def div (x y : Binary64) : Binary64 :=
  ofRatio (x.ratio.1 * y.ratio.2) (x.ratio.2 * y.ratio.1)

end Binary64

end ChunkTree
