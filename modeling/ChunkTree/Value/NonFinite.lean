import ChunkTree.Text.Quoted
import ChunkTree.Binary64.Basic

/-!
# Texts of floats that are not finite

Where only finite numbers can be written, the others appear as texts: `Infinity`, `-Infinity`, `NaN`, and `NaN:`
with all bits for any other pattern that is no number.
-/

namespace ChunkTree.NonFinite

/-- The text of a float that is not finite. -/
def text (x : Binary64) : String :=
  if x.isNaN then
    if x = .nan then "NaN" else "NaN:0x" ++ Text.paddedHex 16 x.bits.toNat
  else if x.isNegative then "-Infinity"
  else "Infinity"

/-- The value of a hexadecimal digit, of either case. -/
def digit? (c : Char) : Option Nat :=
  if '0' ≤ c ∧ c ≤ '9' then some (c.toNat - 48)
  else if 'a' ≤ c ∧ c ≤ 'f' then some (c.toNat - 87)
  else if 'A' ≤ c ∧ c ≤ 'F' then some (c.toNat - 55)
  else none

/-- Reads on in hexadecimal from a number. -/
def hexFrom? (n : Nat) : List Char → Option Nat
  | [] => some n
  | c :: cs => (digit? c).bind fun d => hexFrom? (n * 16 + d) cs

/-- A number below `2 ^ 64` in hexadecimal, perhaps after a plus sign. -/
def word? (cs : List Char) : Option UInt64 :=
  let digits := if cs.head? = some '+' then cs.tail else cs
  if digits.isEmpty then none
  else
    match hexFrom? 0 digits with
    | some n => if n < 0x10000000000000000 then some (UInt64.ofNat n) else none
    | none => none

/-- The float that a text stands for, if it is one of these texts. -/
def ofText? (s : String) : Option Binary64 :=
  if s = "NaN" then some .nan
  else if s = "Infinity" then some .infinity
  else if s = "-Infinity" then some Binary64.infinity.negate
  else
    match s.toList with
    | 'N' :: 'a' :: 'N' :: ':' :: '0' :: 'x' :: digits =>
      match word? digits with
      | some bits => if (Binary64.mk bits).isNaN then some ⟨bits⟩ else none
      | none => none
    | _ => none

end ChunkTree.NonFinite
