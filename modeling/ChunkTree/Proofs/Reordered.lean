import Mathlib.Data.List.Perm.Basic
import ChunkTree.Proofs.Likeness

/-!
# Values that differ by the order of keys

`Value.Reordered` says that two values differ at most by the order of the keys of their objects, at any depth.
Such values pass for each other (`Value.Reordered.likeness`), and comparing with them gives the same answer
(`Value.Reordered.same_eq`), so the one is equal to a default just if the other is.
-/

namespace ChunkTree

open Save (SameKey Likeness)

namespace Value

/-- Whether two values differ at most by the order of the keys of objects in them.  No object has a key twice. -/
inductive Reordered : Value → Value → Prop where
  | scalar {v : Value} (h : v.depth = 0) : Reordered v v
  | array {xs ys : List Value} (h : List.Forall₂ Reordered xs ys) : Reordered (.array xs) (.array ys)
  | object {fs gs hs : Fields} (hkeys : (fs.map Prod.fst).Nodup) (hperm : fs.Perm gs)
      (hsame : gs.map Prod.fst = hs.map Prod.fst)
      (h : List.Forall₂ Reordered (gs.map Prod.snd) (hs.map Prod.snd)) : Reordered (.object fs) (.object hs)

namespace Reordered

theorem forall₂_sameKey {fs gs : Fields} : List.Forall₂ (SameKey Reordered) fs gs ↔
    fs.map Prod.fst = gs.map Prod.fst ∧ List.Forall₂ Reordered (fs.map Prod.snd) (gs.map Prod.snd) := by
  constructor
  · intro h
    refine ⟨map_eq_of_forall₂ h fun _ _ hfg => hfg.1, ?_⟩
    rw [List.forall₂_map_left_iff, List.forall₂_map_right_iff]
    exact h.imp fun _ _ hfg => hfg.2
  · rintro ⟨hkeys, h⟩
    rw [List.forall₂_map_left_iff, List.forall₂_map_right_iff] at h
    induction h with
    | nil => exact .nil
    | cons hfg _ ih =>
      obtain ⟨hkey, hkeys⟩ := List.cons.inj hkeys
      exact .cons ⟨hkey, hfg⟩ (ih hkeys)

variable {v w : Value}

theorem symm (h : Reordered v w) : Reordered w v := by
  induction hn : v.depth using Nat.strong_induction_on generalizing v w with
  | _ n ih =>
    subst hn
    cases h with
    | scalar h => exact .scalar h
    | @array xs ys h =>
      refine .array (forall₂_imp_mem h fun x hx y _ hxy => ?_).flip
      exact ih x.depth (depth_lt_of_asArray rfl hx) hxy rfl
    | @object fs gs hs hkeys hperm hsame h =>
      have hkeys' : (hs.map Prod.fst).Nodup := hsame ▸ (hperm.map Prod.fst).nodup_iff.1 hkeys
      -- the fields of the first object in their own order, each beside what it corresponds to
      obtain ⟨mid, hmid, hperm'⟩ := List.perm_comp_forall₂ hperm (forall₂_sameKey.2 ⟨hsame, h⟩)
      have hback : List.Forall₂ (SameKey Reordered) mid fs := by
        refine (forall₂_imp_mem hmid fun f hf g _ hfg => ?_).flip
        exact ⟨hfg.1.symm, ih f.2.depth (depth_lt_of_asObject rfl hf) hfg.2 rfl⟩
      obtain ⟨hsame', h'⟩ := forall₂_sameKey.1 hback
      exact .object hkeys' hperm'.symm hsame' h'

/-! ## What is asked of a value -/

theorem asArray_cases (h : Reordered v w) : (v.asArray = none ∧ w.asArray = none) ∨
    ∃ xs ys, v.asArray = some xs ∧ w.asArray = some ys ∧ List.Forall₂ Reordered xs ys := by
  cases h with
  | @scalar v h => cases v <;> simp_all [asArray, depth]
  | array h => exact .inr ⟨_, _, rfl, rfl, h⟩
  | object => exact .inl ⟨rfl, rfl⟩

theorem asObject_cases (h : Reordered v w) : (v.asObject = none ∧ w.asObject = none) ∨
    ∃ fs gs hs, v.asObject = some fs ∧ w.asObject = some hs ∧ (fs.map Prod.fst).Nodup ∧ fs.Perm gs ∧
      List.Forall₂ (SameKey Reordered) gs hs := by
  cases h with
  | @scalar v h => cases v <;> simp_all [asObject, depth]
  | array => exact .inl ⟨rfl, rfl⟩
  | object hkeys hperm hsame h =>
    exact .inr ⟨_, _, _, rfl, rfl, hkeys, hperm, forall₂_sameKey.2 ⟨hsame, h⟩⟩

theorem lookup_cases {gs hs : Fields} (h : List.Forall₂ (SameKey Reordered) gs hs) (key : String) :
    (gs.lookup key = none ∧ hs.lookup key = none) ∨
      ∃ x y, gs.lookup key = some x ∧ hs.lookup key = some y ∧ Reordered x y := by
  induction h with
  | nil => exact .inl ⟨rfl, rfl⟩
  | @cons f g gs hs hfg _ ih =>
    obtain ⟨k, x⟩ := f
    obtain ⟨l, y⟩ := g
    obtain ⟨rfl, hxy⟩ := hfg
    rw [List.lookup_cons, List.lookup_cons]
    cases key == k with
    | true => exact .inr ⟨x, y, rfl, rfl, hxy⟩
    | false => exact ih

theorem get?_cases (h : Reordered v w) (key : String) : (v.get? key = none ∧ w.get? key = none) ∨
    ∃ x y, v.get? key = some x ∧ w.get? key = some y ∧ Reordered x y := by
  unfold get?
  rcases h.asObject_cases with ⟨hv, hw⟩ | ⟨fs, gs, hs, hv, hw, hkeys, hperm, hfields⟩
  · rw [hv, hw]
    exact .inl ⟨rfl, rfl⟩
  · rw [hv, hw, Option.bind_some, Option.bind_some, Fields.lookup_perm hkeys hperm]
    exact lookup_cases hfields key

/-- Values that differ by the order of keys pass for each other. -/
theorem likeness : Likeness Reordered where
  asInt h hn := by cases h <;> exact hn
  asBool h hb := by cases h <;> exact hb
  asString h hs := by cases h <;> exact hs
  float h hx := by cases h <;> exact hx
  asArray := asArray_cases
  asObject h := by
    rcases h.asObject_cases with hnone | ⟨fs, gs, hs, hv, hw, _, hperm, hfields⟩
    · exact .inl hnone
    · exact .inr ⟨fs, gs, hs, hv, hw, hperm, hfields⟩
  get? key h := h.get?_cases key

/-- Nothing is the same as one of two reordered values and not as the other. -/
theorem same_eq (h : Reordered v w) (x : Value) : x.same v = x.same w := by
  induction hn : v.depth using Nat.strong_induction_on generalizing v w x with
  | _ n ih =>
    subst hn
    have hitems : ∀ {zs xs ys : List Value}, (∀ x ∈ xs, x.depth < v.depth) → List.Forall₂ Reordered xs ys →
        sameItems zs xs = sameItems zs ys := by
      intro zs xs ys hdepth hxs
      induction hxs generalizing zs with
      | nil => rfl
      | @cons x y xs ys hxy _ ihitems =>
        cases zs with
        | nil => rfl
        | cons z zs =>
          rw [sameItems, sameItems, ih x.depth (hdepth x List.mem_cons_self) hxy z rfl,
            ihitems fun x hx => hdepth x (List.mem_cons_of_mem _ hx)]
    cases h with
    | scalar h => rfl
    | array h =>
      cases x with
      | array zs => exact hitems (fun x hx => depth_lt_of_asArray rfl hx) h
      | _ => rfl
    | @object fs gs hs hkeys hperm hsame h =>
      cases x with
      | object zs =>
        rw [Bool.eq_iff_iff, same_object, same_object, hperm.length_eq,
          (forall₂_sameKey.2 ⟨hsame, h⟩).length_eq]
        refine and_congr_right fun _ => forall_congr' fun k => forall_congr' fun z => imp_congr_right fun _ => ?_
        rw [Fields.lookup_perm hkeys hperm]
        rcases lookup_cases (forall₂_sameKey.2 ⟨hsame, h⟩) k with ⟨hg, hh⟩ | ⟨x, y, hg, hh, hxy⟩
        · simp [hg, hh]
        · have hmem := hperm.mem_iff.2 (mem_of_lookup hg)
          simp [hg, hh, ih x.depth (depth_lt_of_asObject rfl hmem) hxy z rfl]
      | _ => rfl

end Reordered

end Value

end ChunkTree
