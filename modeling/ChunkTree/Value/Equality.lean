import ChunkTree.Value.Basic

/-!
# Equality of values

`Value.same` compares by content.  An integer and a float are the same if the integer, rounded to a float, is
numerically that float; all patterns that are no number are the same; and the order of an object's keys does not
matter.
-/

namespace ChunkTree.Value

/-- Two floats are the same if they are numerically equal or neither is a number. -/
def sameFloat (x y : Binary64) : Bool :=
  x.eq y || (x.isNaN && y.isNaN)

mutual

def same : Value → Value → Bool
  | null, null => true
  | bool a, bool b => a == b
  | int a, int b => a == b
  | float x, float y => sameFloat x y
  | int a, float y => (Binary64.ofInt a.toInt).eq y
  | float x, int b => (Binary64.ofInt b.toInt).eq x
  | string s, string t => s == t
  | array xs, array ys => sameItems xs ys
  | object fs, object gs => fs.length == gs.length && sameFields fs gs
  | _, _ => false

def sameItems : List Value → List Value → Bool
  | [], [] => true
  | x :: xs, y :: ys => x.same y && sameItems xs ys
  | _, _ => false

/-- Whether each key of the first object has the same value in the second one. -/
def sameFields : List (String × Value) → List (String × Value) → Bool
  | [], _ => true
  | (k, v) :: fs, gs =>
    (match gs.lookup k with
      | some w => v.same w
      | none => false) && sameFields fs gs

end

end ChunkTree.Value
