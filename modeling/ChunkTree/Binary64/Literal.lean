import ChunkTree.Binary64.Basic

/-!
# Reading decimals

How a decimal literal becomes a `Binary64`.  Its digits are gathered into a 64-bit significand, which is rounded
and then scaled by one rounded multiplication or division with a power of ten.  Digits that no longer fit are
left out.
-/

namespace ChunkTree

/-- A decimal literal: sign, digits before the point, digits after it if there is a point, and exponent if one is
written. -/
structure Literal where
  isNegative : Bool
  whole : List Nat
  fraction : Option (List Nat)
  exponent : Option Int
  deriving DecidableEq, Repr

/-- Appends decimal digits to a significand as long as it stays below `2 ^ 64`.  Also counts the digits that were
taken and those that were left out. -/
def gather (significand : Nat) : List Nat → Nat × Nat × Nat
  | [] => (significand, 0, 0)
  | d :: ds =>
    if significand * 10 + d < 0x10000000000000000 then
      let (result, taken, left) := gather (significand * 10 + d) ds
      (result, taken + 1, left)
    else (significand, 0, ds.length + 1)

namespace Binary64

def powerOfTen (n : Nat) : Binary64 :=
  ofRatio (Nat.pow 10 n) 1

/-- Divides by `10 ^ n`, in steps of at most `10 ^ 308`. -/
def divPower (x : Binary64) (n : Nat) : Binary64 :=
  if n ≤ 308 then x.div (powerOfTen n)
  else if x.isZero then x
  else divPower (x.div (powerOfTen 308)) (n - 308)
termination_by n

/-- The value `significand * 10 ^ exponent`; nothing if it is too large. -/
def ofParts? (significand : Nat) (exponent : Int) : Option Binary64 :=
  let x := ofRatio significand 1
  if exponent < 0 then some (x.divPower exponent.natAbs)
  else if x.isZero then some x
  else if 308 < exponent then none
  else
    let result := x.mul (powerOfTen exponent.toNat)
    if result = infinity then none else some result

end Binary64

namespace Literal

/-- The whole number that a literal stands for, if it is written as one and is in the range of 64-bit numbers.  The
literal `-0` is no whole number. -/
def toInt64? (l : Literal) : Option Int64 :=
  match l.fraction, l.exponent, gather 0 l.whole with
  | none, none, (n, _, 0) =>
    if l.isNegative then
      if 1 ≤ n ∧ n ≤ 0x8000000000000000 then some (Int64.ofInt (-n)) else none
    else if n < 0x8000000000000000 then some (Int64.ofNat n)
    else none
  | _, _, _ => none

/-- The number that a literal stands for; nothing if it is too large. -/
def toBinary64? (l : Literal) : Option Binary64 :=
  let (whole, _, left) := gather 0 l.whole
  let (significand, taken, _) := gather whole (l.fraction.getD [])
  let exponent : Int := left - taken + l.exponent.getD 0
  (Binary64.ofParts? significand exponent).map fun x => if l.isNegative then x.negate else x

end Literal

end ChunkTree
