import Mathlib.Data.List.Sort
import ChunkTree.Save.Entry

/-!
# Sorting by index

`Save.sortBy` is insertion sort, so it rearranges a list into one whose keys ascend.  Choosing items and
sorting can be done in either order (`filter_sortBy`), a list that ascends stays as it is
(`sortBy_of_ascending`), and lists with the same items of each key in the same order are sorted alike
(`sortBy_eq_of_filter_eq`), so also lists with the same items, all of different keys (`sortBy_congr_perm`).
Items of one key that stand side by side still do when the list is sorted (`infix_sortBy`).
-/

namespace ChunkTree.Save

variable {α β : Type} {k : α → UInt32}

theorem sortBy_eq_insertionSort (xs : List α) : sortBy k xs = xs.insertionSort (k · ≤ k ·) := by
  have hinsert : ∀ (x : α) (ys : List α), insertBy k x ys = ys.orderedInsert (k · ≤ k ·) x := by
    intro x ys
    induction ys with
    | nil => rfl
    | cons y ys ih => simp [insertBy, List.orderedInsert_cons, ih]
  induction xs with
  | nil => rfl
  | cons x xs ih => rw [sortBy, ih, hinsert, List.insertionSort_cons]

private instance total_le_key : Std.Total (fun x y : α => k x ≤ k y) :=
  ⟨fun x y => UInt32.le_total (k x) (k y)⟩

private instance isTrans_le_key : IsTrans α (fun x y : α => k x ≤ k y) :=
  ⟨fun _ _ _ => UInt32.le_trans⟩

theorem sortBy_perm (xs : List α) : (sortBy k xs).Perm xs := by
  rw [sortBy_eq_insertionSort]
  exact List.perm_insertionSort _ xs

@[simp] theorem mem_sortBy {x : α} {xs : List α} : x ∈ sortBy k xs ↔ x ∈ xs :=
  (sortBy_perm xs).mem_iff

@[simp] theorem length_sortBy (xs : List α) : (sortBy k xs).length = xs.length :=
  (sortBy_perm xs).length_eq

theorem sortBy_ascending (xs : List α) : (sortBy k xs).Pairwise (k · ≤ k ·) := by
  rw [sortBy_eq_insertionSort]
  exact List.pairwise_insertionSort _ xs

theorem sortBy_of_ascending {xs : List α} (h : xs.Pairwise (k · ≤ k ·)) : sortBy k xs = xs := by
  rw [sortBy_eq_insertionSort]
  exact h.insertionSort_eq

/-- The keys of a sorted list strictly increase just if they are all different. -/
theorem sortBy_strictly_ascending {xs : List α} :
    (sortBy k xs).Pairwise (k · < k ·) ↔ (xs.map k).Nodup := by
  rw [← ((sortBy_perm xs).map k).nodup_iff, List.nodup_iff_pairwise_ne, List.pairwise_map]
  constructor
  · exact fun h => h.imp UInt32.ne_of_lt
  · exact fun h => (h.and (sortBy_ascending xs)).imp fun ⟨hne, hle⟩ => UInt32.lt_of_le_of_ne hle hne

/-- Replacing items by others of the same key commutes with sorting. -/
theorem sortBy_map {f : α → β} {l : β → UInt32} (h : ∀ x, l (f x) = k x) (xs : List α) :
    sortBy l (xs.map f) = (sortBy k xs).map f := by
  rw [sortBy_eq_insertionSort, sortBy_eq_insertionSort]
  refine (List.map_insertionSort _ _ f xs fun a _ b _ => ?_).symm
  rw [h, h]

private theorem filter_insertBy (p : α → Bool) (x : α) {ys : List α} (h : ys.Pairwise (k · ≤ k ·)) :
    (insertBy k x ys).filter p = if p x then insertBy k x (ys.filter p) else ys.filter p := by
  induction ys with
  | nil => by_cases hx : p x <;> simp [insertBy, hx]
  | cons y ys ih =>
    have hy := (List.pairwise_cons.1 h).1
    rw [insertBy]
    split
    · rename_i hle
      -- the item comes before all others, also before those that are chosen
      have hfirst : ∀ zs : List α, (∀ z ∈ zs, k y ≤ k z) → insertBy k x zs = x :: zs := by
        intro zs hzs
        cases zs with
        | nil => rfl
        | cons z zs => simp [insertBy, UInt32.le_trans hle (hzs z List.mem_cons_self)]
      have := hfirst ((y :: ys).filter p) (by
        intro z hz
        rcases List.mem_cons.1 (List.mem_of_mem_filter hz) with rfl | hz
        · exact UInt32.le_refl _
        · exact hy z hz)
      rw [this, List.filter_cons]
    · rename_i hle
      rw [List.filter_cons, ih (List.pairwise_cons.1 h).2, List.filter_cons]
      by_cases hx : p x <;> by_cases hpy : p y <;> simp [hx, hpy, insertBy, hle]

theorem filter_sortBy (p : α → Bool) (xs : List α) : (sortBy k xs).filter p = sortBy k (xs.filter p) := by
  induction xs with
  | nil => rfl
  | cons x xs ih =>
    rw [sortBy, filter_insertBy p x (sortBy_ascending xs), ih, List.filter_cons]
    split <;> rfl

/-- Lists with the same items are sorted alike when no two items share their k. -/
theorem sortBy_congr_perm {xs ys : List α} (h : xs.Perm ys) (hnodup : (xs.map k).Nodup) :
    sortBy k xs = sortBy k ys := by
  have hp : (sortBy k xs).Perm (sortBy k ys) := (sortBy_perm xs).trans (h.trans (sortBy_perm ys).symm)
  refine hp.eq_of_pairwise ?_ (sortBy_ascending xs) (sortBy_ascending ys)
  intro a b ha hb hab hba
  have hb' : b ∈ xs := h.mem_iff.2 (mem_sortBy.1 hb)
  exact List.inj_on_of_nodup_map hnodup (mem_sortBy.1 ha) hb' (UInt32.le_antisymm hab hba)

/-- Ascending lists are the same if they have the same items of each key, in the same order. -/
theorem eq_of_ascending {xs ys : List α} (hxs : xs.Pairwise (k · ≤ k ·)) (hys : ys.Pairwise (k · ≤ k ·))
    (h : ∀ i, xs.filter (k · == i) = ys.filter (k · == i)) : xs = ys := by
  induction xs generalizing ys with
  | nil =>
    cases ys with
    | nil => rfl
    | cons y ys => simpa using h (k y)
  | cons x xs ih =>
    cases ys with
    | nil => simpa using h (k x)
    | cons y ys =>
      obtain ⟨hx, hxs'⟩ := List.pairwise_cons.1 hxs
      obtain ⟨hy, hys'⟩ := List.pairwise_cons.1 hys
      -- each of the two first items stands in the other list, so neither key is below the other
      have hyx : y ∈ x :: xs := by
        have : y ∈ (x :: xs).filter (k · == k y) := by simp [h (k y)]
        exact List.mem_of_mem_filter this
      have hxy : x ∈ y :: ys := by
        have : x ∈ (y :: ys).filter (k · == k x) := by simp [← h (k x)]
        exact List.mem_of_mem_filter this
      have hle : k x ≤ k y := by
        rcases List.mem_cons.1 hyx with rfl | hmem
        · exact UInt32.le_refl _
        · exact hx y hmem
      have hge : k y ≤ k x := by
        rcases List.mem_cons.1 hxy with rfl | hmem
        · exact UInt32.le_refl _
        · exact hy x hmem
      have hkey : k x = k y := UInt32.le_antisymm hle hge
      have hfirst := h (k x)
      simp only [List.filter_cons, hkey, beq_self_eq_true, if_true] at hfirst
      obtain rfl := (List.cons.inj hfirst).1
      refine congrArg _ (ih hxs' hys' fun i => ?_)
      have hi := h i
      simp only [List.filter_cons] at hi
      split at hi
      · exact (List.cons.inj hi).2
      · exact hi

/-- Sorting looks only at the order of the items of each key. -/
theorem sortBy_eq_of_filter_eq {xs ys : List α} (h : ∀ i, xs.filter (k · == i) = ys.filter (k · == i)) :
    sortBy k xs = sortBy k ys :=
  eq_of_ascending (sortBy_ascending xs) (sortBy_ascending ys) fun i => by rw [filter_sortBy, filter_sortBy, h]

/-- In a list that ascends from `i` or higher, the items of `i` come first. -/
theorem filter_prefix_of_ascending {i : UInt32} {xs : List α} (h : xs.Pairwise (k · ≤ k ·)) (hle : ∀ x ∈ xs, i ≤ k x) :
    xs.filter (k · == i) <+: xs := by
  induction xs with
  | nil => exact List.nil_prefix
  | cons x xs ih =>
    obtain ⟨hx, h⟩ := List.pairwise_cons.1 h
    by_cases hi : k x = i
    · rw [List.filter_cons_of_pos (by simpa using hi), List.prefix_cons_inj]
      exact ih h fun y hy => hle y (List.mem_cons_of_mem x hy)
    · have hnone : ∀ y ∈ x :: xs, ¬(k y == i) = true := by
        have hlt := UInt32.lt_of_le_of_ne (hle x List.mem_cons_self) (Ne.symm hi)
        refine List.forall_mem_cons.2 ⟨by simpa using hi, fun y hy => ?_⟩
        have := UInt32.lt_of_lt_of_le hlt (hx y hy)
        simpa using (UInt32.ne_of_lt this).symm
      rw [List.filter_eq_nil_iff.2 hnone]
      exact List.nil_prefix

/-- In a list that ascends the items of a key stand side by side. -/
theorem filter_infix_of_ascending {xs : List α} (h : xs.Pairwise (k · ≤ k ·)) (i : UInt32) :
    xs.filter (k · == i) <:+: xs := by
  induction xs with
  | nil => exact List.infix_refl _
  | cons x xs ih =>
    obtain ⟨hx, hxs⟩ := List.pairwise_cons.1 h
    by_cases hi : k x = i
    · have hle : ∀ y ∈ x :: xs, i ≤ k y :=
        List.forall_mem_cons.2 ⟨hi ▸ UInt32.le_refl _, fun y hy => hi ▸ hx y hy⟩
      exact (filter_prefix_of_ascending h hle).isInfix
    · rw [List.filter_cons_of_neg (by simpa using hi)]
      exact List.infix_cons (ih hxs)

/-- Sorting keeps the items of a key in their order. -/
theorem filter_key_sortBy (i : UInt32) (xs : List α) :
    (sortBy k xs).filter (k · == i) = xs.filter (k · == i) := by
  rw [filter_sortBy]
  refine sortBy_of_ascending (List.pairwise_of_forall_mem_list fun x hx y hy => ?_)
  have hx : k x = i := eq_of_beq (List.of_mem_filter (p := fun x => k x == i) hx)
  have hy : k y = i := eq_of_beq (List.of_mem_filter (p := fun x => k x == i) hy)
  rw [hx, hy]
  exact UInt32.le_refl i

/-- Items of one key that stand side by side still do when the list is sorted. -/
theorem infix_sortBy {i : UInt32} {block xs : List α} (hxs : block <:+: xs) (h : ∀ x ∈ block, k x = i) :
    block <:+: sortBy k xs := by
  obtain ⟨before, after, rfl⟩ := hxs
  have hblock : block.filter (k · == i) = block := List.filter_eq_self.2 fun x hx => by simpa using h x hx
  refine List.IsInfix.trans ?_ (filter_infix_of_ascending (sortBy_ascending (k := k) _) i)
  rw [filter_key_sortBy, List.filter_append, List.filter_append, hblock]
  exact ⟨_, _, rfl⟩

/-- Lists whose items correspond, with the same keys, are sorted into lists whose items correspond. -/
theorem forall₂_sortBy {l : β → UInt32} {R : α → β → Prop} {xs : List α} {ys : List β}
    (hR : ∀ x y, R x y → k x = l y) (h : List.Forall₂ R xs ys) :
    List.Forall₂ R (sortBy k xs) (sortBy l ys) := by
  have hinsert : ∀ {x y xs ys}, R x y → List.Forall₂ R xs ys →
      List.Forall₂ R (insertBy k x xs) (insertBy l y ys) := by
    intro x y xs ys hxy h
    induction h with
    | nil => exact .cons hxy .nil
    | cons hab hrest ih =>
      rw [insertBy, insertBy, hR _ _ hxy, hR _ _ hab]
      split
      · exact .cons hxy (.cons hab hrest)
      · exact .cons hab ih
  induction h with
  | nil => exact .nil
  | cons hab _ ih => exact hinsert hab ih

end ChunkTree.Save
