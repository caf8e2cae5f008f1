import Mathlib.Data.List.Forall2
import ChunkTree.Proofs.ObjectKeys
import ChunkTree.Value.Equality

/-!
# Values that are the same

Arrays are the same if their items are, one by one.  Objects with as many keys are the same if what one has
under a key is found, the same, in the other (`Value.same_object`); the order of the keys is of no account.
-/

namespace ChunkTree.Value

theorem same_array {xs ys : List Value} (h : List.Forall₂ (fun x y : Value => x.same y) xs ys) :
    (array xs).same (array ys) := by
  rw [same]
  induction h with
  | nil => rfl
  | cons hxy _ ih =>
    rw [sameItems, hxy, ih]
    rfl

theorem same_object {fs gs : Fields} : (object fs).same (object gs) ↔
    fs.length = gs.length ∧ ∀ k v, (k, v) ∈ fs → ∃ w, gs.lookup k = some w ∧ v.same w := by
  have hfields : sameFields fs gs ↔ ∀ k v, (k, v) ∈ fs → ∃ w, gs.lookup k = some w ∧ v.same w := by
    induction fs with
    | nil => simp [sameFields]
    | cons f fs ih =>
      obtain ⟨k, v⟩ := f
      rw [sameFields, Bool.and_eq_true, ih]
      constructor
      · rintro ⟨hv, hrest⟩ l u hu
        rcases List.mem_cons.1 hu with hu | hu
        · obtain ⟨rfl, rfl⟩ := Prod.mk.inj hu
          split at hv
          · rename_i w hw
            exact ⟨w, hw, hv⟩
          · cases hv
        · exact hrest l u hu
      · intro h
        obtain ⟨w, hw, hsame⟩ := h k v List.mem_cons_self
        rw [hw]
        exact ⟨hsame, fun l u hu => h l u (List.mem_cons_of_mem _ hu)⟩
  rw [same, Bool.and_eq_true, hfields, beq_iff_eq]

/-- Objects with the same keys in the same order, none of them twice. -/
theorem same_object_of_forall₂ {fs gs : Fields} (hnodup : (gs.map Prod.fst).Nodup)
    (h : List.Forall₂ (fun f g : String × Value => f.1 = g.1 ∧ f.2.same g.2) fs gs) :
    (object fs).same (object gs) := by
  refine same_object.2 ⟨h.length_eq, fun k v hv => ?_⟩
  obtain ⟨i, hi, hget⟩ := List.mem_iff_getElem.1 hv
  have hi' : i < gs.length := h.length_eq ▸ hi
  obtain ⟨hkey, hsame⟩ := h.get hi hi'
  simp only [List.get_eq_getElem, hget] at hkey hsame
  refine ⟨gs[i].2, Fields.lookup_of_mem hnodup ?_, hsame⟩
  rw [hkey]
  exact List.getElem_mem hi'

/-- An array whose items are the same as themselves. -/
theorem same_array_self {xs : List Value} (h : ∀ x ∈ xs, x.same x) : (array xs).same (array xs) :=
  same_array (List.forall₂_same.2 h)

theorem same_object_self {fs : Fields} (hnodup : (fs.map Prod.fst).Nodup) (h : ∀ f ∈ fs, f.2.same f.2) :
    (object fs).same (object fs) :=
  same_object_of_forall₂ hnodup (List.forall₂_same.2 fun f hf => ⟨rfl, h f hf⟩)

theorem sameFloat_self (x : Binary64) : sameFloat x x := by
  cases h : x.isNaN <;> simp [sameFloat, Binary64.eq, h]

end ChunkTree.Value
