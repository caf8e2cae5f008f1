/-!
# Searching by halving

In a list in which items that are not above what is searched for come first, halving the range finds the last of
them.  An item with a key is looked up in this way, and so is the place where a predicate stops to hold.
-/

namespace ChunkTree.Search

variable {α : Type}

/-- Halves a range, at most `bound` times, until one place is left: the last one that is not above what is searched
for, or the first. -/
def lastNotAbove (above : Nat → Bool) : (bound base size : Nat) → Nat
  | 0, base, _ => base
  | bound + 1, base, size =>
    if size ≤ 1 then base
    else lastNotAbove above bound (if above (base + size / 2) then base else base + size / 2) (size - size / 2)

/-- The place of an item that is neither below nor above, else the place where one would have to be inserted. -/
def binarySearch (order : α → Ordering) (xs : List α) : Except Nat Nat :=
  let place := lastNotAbove (fun j => xs[j]?.map order == some .gt) xs.length 0 xs.length
  match xs[place]?.map order with
  | some .eq => .ok place
  | some .lt => .error (place + 1)
  | _ => .error place

/-- The number of items in front for which `p` holds. -/
def partitionPoint (p : α → Bool) (xs : List α) : Nat :=
  match binarySearch (fun x => if p x then .lt else .gt) xs with
  | .ok place => place
  | .error place => place

/-- The item with a key. -/
def find? (key : α → UInt32) (i : UInt32) (xs : List α) : Option α :=
  match binarySearch (fun x => if key x < i then .lt else if key x = i then .eq else .gt) xs with
  | .ok place => xs[place]?
  | .error _ => none

end ChunkTree.Search
