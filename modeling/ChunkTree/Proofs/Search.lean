import Mathlib.Data.List.Basic
import ChunkTree.View.Search

/-!
# Halving finds what a scan finds

Items whose keys do not decrease fall into those below a key, those with the key and those above it
(`exists_runs`).  A search that halves the range finds where these runs meet, so that it gives what a scan from
the front gives: the one item with a key where every key stands once (`Search.find?_toList`), and all items with a
key where keys repeat (`Search.same_of_ascending`).  What it finds has the key whatever the order is
(`Search.find?_eq_some`).
-/

namespace ChunkTree

/-! ## Halving -/

namespace Search

variable {α : Type} {order : α → Ordering} {p : α → Bool} {xs front back : List α}

/-- If just the places from `stop` on are above, then the place that is left is the one in front of `stop`. -/
theorem lastNotAbove_eq {above : Nat → Bool} {bound stop base size : Nat}
    (habove : ∀ j < base + size, above j = decide (stop ≤ j)) (hbase : base ≤ stop - 1)
    (hstop : stop ≤ base + size) (hsize : size ≤ bound) : lastNotAbove above bound base size = stop - 1 := by
  induction bound generalizing base size with
  | zero =>
    rw [lastNotAbove]
    omega
  | succ bound ih =>
    rw [lastNotAbove]
    by_cases hone : size ≤ 1
    · rw [if_pos hone]
      omega
    rw [if_neg hone, habove _ (by omega)]
    by_cases hmiddle : stop ≤ base + size / 2
    · rw [if_pos (decide_eq_true hmiddle)]
      exact ih (fun j hj => habove j (by omega)) hbase (by omega) (by omega)
    · rw [if_neg (by simpa using hmiddle)]
      exact ih (fun j hj => habove j (by omega)) (by omega) (by omega) (by omega)

/-- The place that is found is that of an item that is neither below nor above. -/
theorem binarySearch_eq_ok {place : Nat} (h : binarySearch order xs = .ok place) :
    xs[place]?.map order = some .eq := by
  simp only [binarySearch] at h
  split at h
  · rename_i horder
    rwa [← Except.ok.inj h]
  · cases h
  · cases h

/-- Items that are not above, and then items that are: the last of the former decides. -/
theorem binarySearch_append (hfront : ∀ x ∈ front, order x ≠ .gt) (hback : ∀ x ∈ back, order x = .gt) :
    binarySearch order (front ++ back) =
      match front.getLast?.map order with
      | some .eq => .ok (front.length - 1)
      | some .lt => .error front.length
      | _ => .error 0 := by
  have hplace : lastNotAbove (fun j => (front ++ back)[j]?.map order == some .gt) (front ++ back).length 0
      (front ++ back).length = front.length - 1 := by
    refine lastNotAbove_eq (fun j hj => ?_) (Nat.zero_le _) (by simp) (Nat.le_refl _)
    rw [Nat.zero_add] at hj
    by_cases hj' : j < front.length
    · have := hfront _ (List.getElem_mem hj')
      simp [List.getElem?_append_left hj', beq_eq_false_iff_ne.2 this, hj']
    · have hmem : j - front.length < back.length := by
        rw [List.length_append] at hj
        omega
      have := hback _ (List.getElem_mem hmem)
      simp [List.getElem?_append_right (Nat.le_of_not_lt hj'), hmem, this, Nat.le_of_not_lt hj']
  rw [binarySearch, hplace]
  rcases List.eq_nil_or_concat front with rfl | ⟨front, x, rfl⟩
  · cases back with
    | nil => rfl
    | cons x back => simp [hback x List.mem_cons_self]
  · have hx := hfront x (by simp)
    simp only [List.concat_eq_append, List.length_append, List.length_singleton, Nat.add_sub_cancel,
      List.append_assoc, List.getElem?_append_right (Nat.le_refl _), Nat.sub_self, List.singleton_append,
      List.getElem?_cons_zero, List.getLast?_append, List.getLast?_singleton, Option.some_or, Option.map_some]
    cases horder : order x with
    | gt => exact absurd horder hx
    | _ => rfl

theorem partitionPoint_append (hfront : ∀ x ∈ front, p x) (hback : ∀ x ∈ back, ¬p x) :
    partitionPoint p (front ++ back) = front.length := by
  rw [partitionPoint, binarySearch_append (fun x hx => by simp [hfront x hx]) (fun x hx => by simp [hback x hx])]
  rcases List.eq_nil_or_concat front with rfl | ⟨front, x, rfl⟩
  · rfl
  · simp [hfront x]

/-! ## Runs of items -/

variable {key : α → UInt32} {i : UInt32} {low same high : List α}

/-- Items in order are those below a key, those with it, and those above it. -/
theorem exists_runs (h : xs.Pairwise (key · ≤ key ·)) (i : UInt32) : ∃ low same high,
    xs = low ++ (same ++ high) ∧ (∀ x ∈ low, key x < i) ∧ (∀ x ∈ same, key x = i) ∧ ∀ x ∈ high, i < key x := by
  induction xs with
  | nil => exact ⟨[], [], [], rfl, by simp, by simp, by simp⟩
  | cons x xs ih =>
    obtain ⟨habove, h⟩ := List.pairwise_cons.1 h
    obtain ⟨low, same, high, rfl, hlow, hsame, hhigh⟩ := ih h
    by_cases hlt : key x < i
    · exact ⟨x :: low, same, high, rfl, List.forall_mem_cons.2 ⟨hlt, hlow⟩, hsame, hhigh⟩
    -- nothing is below a key that the first item has reached
    have hx : i ≤ key x := UInt32.not_lt.1 hlt
    obtain rfl : low = [] := by
      refine List.eq_nil_iff_forall_not_mem.2 fun y hy => ?_
      exact UInt32.not_lt.2 (UInt32.le_trans hx (habove y (by simp [hy]))) (hlow y hy)
    by_cases heq : key x = i
    · exact ⟨[], x :: same, high, rfl, hlow, List.forall_mem_cons.2 ⟨heq, hsame⟩, hhigh⟩
    have hgt : i < key x := UInt32.lt_of_le_of_ne hx (Ne.symm heq)
    obtain rfl : same = [] := by
      refine List.eq_nil_iff_forall_not_mem.2 fun y hy => ?_
      have := UInt32.lt_of_lt_of_le hgt (habove y (by simp [hy]))
      rw [hsame y hy] at this
      exact UInt32.lt_irrefl _ this
    exact ⟨[], [], x :: high, rfl, hlow, hsame, List.forall_mem_cons.2 ⟨hgt, hhigh⟩⟩

theorem takeWhile_append (hfront : ∀ x ∈ front, p x) (hback : ∀ x ∈ back, ¬p x) :
    (front ++ back).takeWhile p = front := by
  rw [List.takeWhile_append_of_pos hfront]
  cases back with
  | nil => simp
  | cons x back => simp [hback x List.mem_cons_self]

theorem dropWhile_append (hfront : ∀ x ∈ front, p x) (hback : ∀ x ∈ back, ¬p x) :
    (front ++ back).dropWhile p = back := by
  rw [List.dropWhile_append_of_pos hfront]
  cases back with
  | nil => rfl
  | cons x back => simp [hback x List.mem_cons_self]

theorem filter_runs (hlow : ∀ x ∈ low, key x < i) (hsame : ∀ x ∈ same, key x = i)
    (hhigh : ∀ x ∈ high, i < key x) : (low ++ (same ++ high)).filter (key · == i) = same := by
  have hlow' : low.filter (key · == i) = [] :=
    List.filter_eq_nil_iff.2 fun x hx => by simpa using UInt32.ne_of_lt (hlow x hx)
  have hsame' : same.filter (key · == i) = same := List.filter_eq_self.2 fun x hx => by simp [hsame x hx]
  have hhigh' : high.filter (key · == i) = [] :=
    List.filter_eq_nil_iff.2 fun x hx => by simpa using (UInt32.ne_of_lt (hhigh x hx)).symm
  rw [List.filter_append, List.filter_append, hlow', hsame', hhigh', List.nil_append, List.append_nil]

theorem not_below (hsame : ∀ x ∈ same, key x = i) (hhigh : ∀ x ∈ high, i < key x) :
    ∀ x ∈ same ++ high, ¬decide (key x < i) = true := by
  intro x hx
  rw [decide_eq_true_eq, UInt32.not_lt]
  rcases List.mem_append.1 hx with hx | hx
  · exact UInt32.le_of_eq (hsame x hx).symm
  · exact UInt32.le_of_lt (hhigh x hx)

/-- Passing over the items below a key leads to those that have it. -/
theorem dropWhile_runs (hlow : ∀ x ∈ low, key x < i) (hsame : ∀ x ∈ same, key x = i)
    (hhigh : ∀ x ∈ high, i < key x) : (low ++ (same ++ high)).dropWhile (key · < i) = same ++ high :=
  dropWhile_append (fun x hx => decide_eq_true (hlow x hx)) (not_below hsame hhigh)

/-- The items of a list in order that have a key: those that are left by passing over the items below it and
stopping at the items above it, which are those between the places that halving finds. -/
theorem same_of_ascending (h : xs.Pairwise (key · ≤ key ·)) (i : UInt32) :
    (xs.dropWhile (key · < i)).takeWhile (key · ≤ i) = xs.filter (key · == i) ∧
      (xs.take (partitionPoint (key · ≤ i) xs)).drop (partitionPoint (key · < i) xs) =
        xs.filter (key · == i) := by
  obtain ⟨low, same, high, rfl, hlow, hsame, hhigh⟩ := exists_runs h i
  have hbelow : ∀ x ∈ low, decide (key x < i) = true := fun x hx => decide_eq_true (hlow x hx)
  have hnotAbove : ∀ x ∈ low ++ same, decide (key x ≤ i) = true := by
    intro x hx
    rcases List.mem_append.1 hx with hx | hx
    · exact decide_eq_true (UInt32.le_of_lt (hlow x hx))
    · exact decide_eq_true (UInt32.le_of_eq (hsame x hx))
  have habove : ∀ x ∈ high, ¬decide (key x ≤ i) = true := fun x hx => by simpa using hhigh x hx
  have hsame' : ∀ x ∈ same, decide (key x ≤ i) = true := fun x hx => hnotAbove x (List.mem_append_right low hx)
  rw [filter_runs hlow hsame hhigh]
  constructor
  · rw [dropWhile_runs hlow hsame hhigh, takeWhile_append hsame' habove]
  · rw [partitionPoint_append hbelow (not_below hsame hhigh), ← List.append_assoc,
      partitionPoint_append hnotAbove habove, List.take_left, List.drop_left]

/-- What halving finds has the key, whatever the order of the items is. -/
theorem find?_eq_some {x : α} (h : find? key i xs = some x) : x ∈ xs ∧ key x = i := by
  unfold find? at h
  split at h
  · rename_i place hplace
    refine ⟨List.mem_of_getElem? h, ?_⟩
    have horder := binarySearch_eq_ok hplace
    rw [h, Option.map_some, Option.some.injEq] at horder
    by_contra hne
    rw [if_neg hne] at horder
    split at horder <;> cases horder
  · cases h

/-- Where every key stands once, halving finds the only item with it. -/
theorem find?_toList (h : xs.Pairwise (key · < key ·)) (i : UInt32) :
    (find? key i xs).toList = xs.filter (key · == i) := by
  obtain ⟨low, same, high, rfl, hlow, hsame, hhigh⟩ := exists_runs (h.imp UInt32.le_of_lt) i
  have hfront : ∀ x ∈ low ++ same, (if key x < i then .lt else if key x = i then .eq else .gt) ≠ Ordering.gt := by
    intro x hx
    rcases List.mem_append.1 hx with hx | hx
    · simp [hlow x hx]
    · simp [hsame x hx]
  have hback : ∀ x ∈ high, (if key x < i then .lt else if key x = i then .eq else .gt) = Ordering.gt := by
    intro x hx
    have habove := hhigh x hx
    rw [if_neg (UInt32.not_lt.2 (UInt32.le_of_lt habove)), if_neg (UInt32.ne_of_lt habove).symm]
  rw [filter_runs hlow hsame hhigh, find?, ← List.append_assoc, binarySearch_append hfront hback]
  match same with
  | [] =>
    rw [List.append_nil]
    cases hlast : low.getLast? with
    | none => rfl
    | some x => simp [hlow x (List.mem_of_getLast? hlast)]
  | [x] => simp [hsame x]
  | x :: y :: same =>
    -- two items with one key would not be in strict order
    have hlt : key x < key y := (List.pairwise_cons.1 (List.pairwise_append.1 h).2.1).1 y (by simp)
    rw [hsame x (by simp), hsame y (by simp)] at hlt
    exact absurd hlt (UInt32.lt_irrefl i)

end Search

end ChunkTree
