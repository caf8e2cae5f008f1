import ChunkTree.Binary64.Basic

/-!
# Shortest decimals

`Binary64.shortest` finds the shortest decimal that reads back as a given number, and of several the nearest;
`Binary64.toText` lays it out.  From `0.00001` on and below `10 ^ 16` all digits are written, with at least one
after the point; other numbers get a power of ten, whose sign is written also when it is positive.
-/

namespace ChunkTree

/-- The number `digits * 10 ^ exponent`. -/
structure Decimal where
  digits : Nat
  exponent : Int
  deriving DecidableEq, Repr

namespace Decimal

/-- Takes away the zeros at the end of the digits, at most `fuel` of them. -/
def strip (fuel : Nat) (d : Decimal) : Decimal :=
  match fuel with
  | 0 => d
  | fuel + 1 =>
    if d.digits ≠ 0 ∧ d.digits % 10 = 0 then strip fuel ⟨d.digits / 10, d.exponent + 1⟩ else d

def layout (d : Decimal) : String :=
  let digits := Nat.toDigits 10 d.digits
  -- the exponent of the leading digit
  let power := d.exponent + digits.length - 1
  let zeros (n : Int) := List.replicate n.toNat '0'
  if -5 ≤ power ∧ power < 16 then
    if 0 ≤ d.exponent then String.ofList (digits ++ zeros d.exponent ++ ['.', '0'])
    else if 0 ≤ power then
      String.ofList (digits.take (power + 1).toNat ++ '.' :: digits.drop (power + 1).toNat)
    else String.ofList (['0', '.'] ++ zeros (-power - 1) ++ digits)
  else
    let mantissa := if digits.length = 1 then digits else digits.take 1 ++ '.' :: digits.drop 1
    String.ofList mantissa ++ (if power < 0 then "e-" else "e+") ++ toString power.natAbs

end Decimal

namespace Binary64

/-- The exponent of the leading decimal digit of `num / den`, which is not below `10 ^ -400`. -/
def leadingPower (num den : Nat) : Int :=
  ((Nat.toDigits 10 (num * Nat.pow 10 400 / den)).length : Int) - 401

/-- The decimal with `n` digits that reads back as `x`, if there is one; of two the nearer. -/
def decimalOf? (x : Binary64) (n : Nat) : Option Decimal :=
  -- all bounds are counted in quarters of the last binary digit
  let low := 4 * x.significand - (if x.significand = 0x10000000000000 ∧ 1 < x.power then 1 else 2)
  let high := 4 * x.significand + 2
  let unit := Nat.pow 2 (x.power - 1077)
  let den := Nat.pow 2 (1077 - x.power)
  let exponent := leadingPower (4 * x.significand * unit) den - n + 1
  let up := Nat.pow 10 (-exponent).toNat * unit
  let step := den * Nat.pow 10 exponent.toNat
  let within (d : Nat) : Bool :=
    if x.significand % 2 = 0 then low * up ≤ d * step && d * step ≤ high * up
    else low * up < d * step && d * step < high * up
  let value := 4 * x.significand * up
  let below := value / step
  let rest := value % step
  let above := below + 1
  if within below then
    if within above ∧ (step < 2 * rest ∨ (2 * rest = step ∧ below % 2 = 1)) then some ⟨above, exponent⟩
    else some ⟨below, exponent⟩
  else if within above then some ⟨above, exponent⟩
  else none

/-- The shortest decimal of a finite number other than zero. -/
def shortest (x : Binary64) : Decimal :=
  (((List.range 17).findSome? fun n => x.decimalOf? (n + 1)).getD ⟨0, 0⟩).strip 17

/-- The text of a finite number. -/
def toText (x : Binary64) : String :=
  (if x.isNegative then "-" else "") ++ (if x.isZero then "0.0" else x.shortest.layout)

end Binary64

end ChunkTree
