import ChunkTree.Proofs.ExactFloats
import ChunkTree.Proofs.JsonTrip
import ChunkTree.Proofs.Reordered

/-!
# How far equality of values is an equivalence

Values in which no object has a key twice are the same as themselves (`Value.KeysDistinct.same_self`), and it does
not matter which of two values is asked (`Value.KeysDistinct.same_symm`).  Two values that are the same as a third
are the same unless, somewhere, they have different integers that the third one's float is nearest to
(`Value.same_trans_iff`): an integer is rounded before it is compared with a float, but not before it is compared
with an integer.  The first integers for which that happens are just above `2 ^ 53`
(`Value.same_up_to_rounding`, `Value.not_same_trans`).
-/

namespace ChunkTree.Value

variable {a b c v w : Value}

/-! ## Numbers -/

theorem sameFloat_eq_true {x y : Binary64} : sameFloat x y ↔ x.eq y ∨ (x.isNaN ∧ y.isNaN) := by
  simp [sameFloat]

theorem sameFloat_symm {x y : Binary64} (h : sameFloat x y) : sameFloat y x := by
  rw [sameFloat_eq_true, Binary64.eq_comm]
  exact (sameFloat_eq_true.1 h).imp_right And.symm

theorem sameFloat_trans {x y z : Binary64} (hxy : sameFloat x y) (hyz : sameFloat y z) : sameFloat x z := by
  rw [sameFloat_eq_true] at *
  rcases hxy with hxy | ⟨hx, hy⟩
  · rcases hyz with hyz | ⟨hy, _⟩
    · exact .inl (Binary64.eq_trans hxy hyz)
    · rw [(Binary64.eq_iff.1 hxy).2.1] at hy
      cases hy
  · rcases hyz with hyz | ⟨_, hz⟩
    · rw [(Binary64.eq_iff.1 hyz).1] at hy
      cases hy
    · exact .inr ⟨hx, hz⟩

/-- An integer is the same as a float if the float it is rounded to is. -/
theorem same_int_float (n : Int64) (x : Binary64) :
    (int n).same (float x) = sameFloat (Binary64.ofInt n.toInt) x := by
  have hnan := Binary64.not_isNaN_of_isFinite (Binary64.isFinite_ofInt (n := n.toInt) (by
    have := n.toInt_lt
    have := n.le_toInt
    omega))
  rw [same, sameFloat, hnan, Bool.false_and, Bool.or_false]

theorem same_float_int (x : Binary64) (n : Int64) :
    (float x).same (int n) = sameFloat (Binary64.ofInt n.toInt) x := by
  rw [← same_int_float, same, same]

/-- Numbers are the same if they are so as floats, except that two integers are not rounded. -/
theorem same_of_sameFloat {x y : Binary64} (hv : v.asFloat = some x) (hw : w.asFloat = some y) (h : sameFloat x y)
    (hints : ∀ m n, v = int m → w = int n → m = n) : v.same w := by
  cases v with
  | int m =>
    obtain rfl := Option.some.inj hv
    cases w with
    | int n => simp [same, hints m n rfl rfl]
    | float z =>
      obtain rfl := Option.some.inj hw
      rwa [same_int_float]
    | _ => cases hw
  | float z =>
    obtain rfl := Option.some.inj hv
    cases w with
    | int n =>
      obtain rfl := Option.some.inj hw
      rw [same_float_int]
      exact sameFloat_symm h
    | float z =>
      obtain rfl := Option.some.inj hw
      exact h
    | _ => cases hw
  | _ => cases hv

/-- What is the same as a value without parts is that value, or both are numbers. -/
theorem eq_or_numbers_of_same (hdepth : v.depth = 0) (h : v.same w) :
    v = w ∨ ∃ x y, v.asFloat = some x ∧ w.asFloat = some y ∧ sameFloat x y := by
  cases v with
  | int m =>
    cases w with
    | int n => exact .inl (congrArg int (eq_of_beq h))
    | float y => exact .inr ⟨_, y, rfl, rfl, same_int_float m y ▸ h⟩
    | _ => cases h
  | float x =>
    cases w with
    | int n => exact .inr ⟨x, _, rfl, rfl, sameFloat_symm (same_float_int x n ▸ h)⟩
    | float y => exact .inr ⟨x, y, rfl, rfl, h⟩
    | _ => cases h
  | null => cases w <;> simp_all [same]
  | bool => cases w <;> simp_all [same]
  | string => cases w <;> simp_all [same]
  | array | object => cases hdepth

/-! ## The three laws -/

/-- Whether no object in a value has a key twice. -/
inductive KeysDistinct : Value → Prop where
  | scalar {v : Value} (h : v.depth = 0) : KeysDistinct v
  | array {xs : List Value} (h : ∀ x ∈ xs, KeysDistinct x) : KeysDistinct (.array xs)
  | object {fs : Fields} (hkeys : (fs.map Prod.fst).Nodup) (h : ∀ f ∈ fs, KeysDistinct f.2) :
      KeysDistinct (.object fs)

theorem KeysDistinct.keys_nodup {fs : Fields} (h : KeysDistinct (.object fs)) : (fs.map Prod.fst).Nodup := by
  cases h with
  | scalar h => cases h
  | object hkeys => exact hkeys

theorem same_self_of_depth (h : v.depth = 0) : v.same v := by
  cases v with
  | null => rfl
  | bool | int | string => simp [same]
  | float x => exact sameFloat_self x
  | array | object => cases h

theorem KeysDistinct.same_self (h : v.KeysDistinct) : v.same v := by
  induction h with
  | scalar h => exact same_self_of_depth h
  | array _ ih => exact same_array_self ih
  | object hkeys _ ih => exact same_object_self hkeys ih

theorem same_array_iff {xs ys : List Value} :
    (array xs).same (array ys) ↔ List.Forall₂ (fun x y : Value => x.same y) xs ys := by
  refine ⟨fun h => ?_, same_array⟩
  rw [same] at h
  induction xs generalizing ys with
  | nil =>
    cases ys with
    | nil => exact .nil
    | cons => cases h
  | cons x xs ih =>
    cases ys with
    | nil => cases h
    | cons y ys =>
      obtain ⟨hxy, h⟩ := Bool.and_eq_true_iff.1 h
      exact .cons hxy (ih h)

/-- An object that is the same as one with different keys has the same keys. -/
theorem keys_perm_of_same {fs gs : Fields} (hkeys : (fs.map Prod.fst).Nodup) (h : (object fs).same (object gs)) :
    (fs.map Prod.fst).Perm (gs.map Prod.fst) := by
  obtain ⟨hlength, hfields⟩ := same_object.1 h
  have hsubset : fs.map Prod.fst ⊆ gs.map Prod.fst := by
    intro k hk
    obtain ⟨⟨_, v⟩, hf, rfl⟩ := List.mem_map.1 hk
    obtain ⟨w, hw, _⟩ := hfields _ v hf
    exact List.mem_map.2 ⟨_, mem_of_lookup hw, rfl⟩
  exact (List.subperm_of_subset hkeys hsubset).perm_of_length_le (by simp [hlength])

theorem KeysDistinct.same_symm (hv : v.KeysDistinct) (h : v.same w) : w.same v := by
  induction hv generalizing w with
  | @scalar v hdepth =>
    rcases eq_or_numbers_of_same hdepth h with rfl | ⟨x, y, hx, hy, hxy⟩
    · exact h
    · refine same_of_sameFloat hy hx (sameFloat_symm hxy) fun m n hw hv => ?_
      subst hw hv
      exact (eq_of_beq h).symm
  | @array xs _ ih =>
    cases w with
    | array ys =>
      exact same_array (forall₂_imp_mem (same_array_iff.1 h) fun x hx _ _ hxy => ih x hx hxy).flip
    | _ => cases h
  | @object fs hkeys _ ih =>
    cases w with
    | object gs =>
      have hperm := keys_perm_of_same hkeys h
      obtain ⟨hlength, hfields⟩ := same_object.1 h
      refine same_object.2 ⟨hlength.symm, fun k w hw => ?_⟩
      obtain ⟨⟨_, v⟩, hv, rfl⟩ := List.mem_map.1 (hperm.mem_iff.2 (List.mem_map.2 ⟨_, hw, rfl⟩))
      obtain ⟨w', hw', hsame⟩ := hfields _ v hv
      -- a key of the other object is there once, too
      obtain rfl := Option.some.inj (hw'.symm.trans (Fields.lookup_of_mem (hperm.nodup_iff.1 hkeys) hw))
      exact ⟨v, Fields.lookup_of_mem hkeys hv, ih _ hv hsame⟩
    | _ => cases h

/-- What is at a place of a value is the same as what is there in a value that is the same. -/
theorem same_at? {path : List Step} (h : v.same w) {x : Value} (hx : v.at? path = some x) :
    ∃ y, w.at? path = some y ∧ x.same y := by
  induction path generalizing v w with
  | nil => exact ⟨w, rfl, Option.some.inj hx ▸ h⟩
  | cons step path ih =>
    cases step with
    | key k =>
      obtain ⟨u, hu, hrest⟩ : ∃ u, v.get? k = some u ∧ u.at? path = some x := Option.bind_eq_some_iff.1 hx
      obtain ⟨fs, hfs, hk⟩ := Option.bind_eq_some_iff.1 hu
      obtain rfl := eq_object_of_asObject hfs
      cases w with
      | object gs =>
        obtain ⟨u', hu', hsame⟩ := (same_object.1 h).2 k u (mem_of_lookup hk)
        obtain ⟨y, hy, hxy⟩ := ih hsame hrest
        exact ⟨y, Option.bind_eq_some_iff.2 ⟨u', hu', hy⟩, hxy⟩
      | _ => cases h
    | position n =>
      obtain ⟨u, hu, hrest⟩ : ∃ u, (v.asArray.getD [])[n]? = some u ∧ u.at? path = some x :=
        Option.bind_eq_some_iff.1 hx
      cases v with
      | array xs =>
        cases w with
        | array ys =>
          have hitems := same_array_iff.1 h
          obtain ⟨hn, rfl⟩ := List.getElem?_eq_some_iff.1 hu
          have hn' : n < ys.length := hitems.length_eq ▸ hn
          obtain ⟨y, hy, hxy⟩ := ih (hitems.get hn hn') hrest
          exact ⟨y, Option.bind_eq_some_iff.2 ⟨ys[n], List.getElem?_eq_getElem hn', hy⟩, hxy⟩
        | _ => cases h
      | _ => cases hu

/-- Whether two values somewhere have different integers while a third has a float there. -/
def PartedBy (a b c : Value) : Prop :=
  ∃ path m x n, a.at? path = some (.int m) ∧ b.at? path = some (.float x) ∧ c.at? path = some (.int n) ∧ m ≠ n

theorem PartedBy.position {xs ys zs : List Value} {n : Nat} {hx : n < xs.length} {hy : n < ys.length}
    {hz : n < zs.length} (h : PartedBy xs[n] ys[n] zs[n]) : PartedBy (.array xs) (.array ys) (.array zs) := by
  obtain ⟨path, m, x, k, ha, hb, hc, hne⟩ := h
  have hat : ∀ {us : List Value} (hu : n < us.length),
      (Value.array us).at? (.position n :: path) = us[n].at? path := by
    intro us hu
    rw [at?, asArray, Option.getD_some, List.getElem?_eq_getElem hu, Option.bind_some]
  exact ⟨.position n :: path, m, x, k, by rw [hat hx, ha], by rw [hat hy, hb], by rw [hat hz, hc], hne⟩

theorem PartedBy.key {fs gs hs : Fields} {k : String} (ha : fs.lookup k = some a) (hb : gs.lookup k = some b)
    (hc : hs.lookup k = some c) (h : PartedBy a b c) : PartedBy (.object fs) (.object gs) (.object hs) := by
  obtain ⟨path, m, x, n, ham, hbx, hcn, hne⟩ := h
  have hat : ∀ {us : Fields} {u : Value}, us.lookup k = some u →
      (Value.object us).at? (.key k :: path) = u.at? path := by
    intro us u hu
    rw [at?, get?, asObject, Option.bind_some, hu, Option.bind_some]
  exact ⟨.key k :: path, m, x, n, by rw [hat ha, ham], by rw [hat hb, hbx], by rw [hat hc, hcn], hne⟩

theorem same_trans_of_depth (hdepth : a.depth = 0) (hab : a.same b) (hbc : b.same c) (h : ¬PartedBy a b c) :
    a.same c := by
  rcases eq_or_numbers_of_same hdepth hab with rfl | ⟨x, y, hx, hy, hxy⟩
  · exact hbc
  have hdepth' : b.depth = 0 := by
    cases b <;> first | rfl | cases hy
  rcases eq_or_numbers_of_same hdepth' hbc with rfl | ⟨y', z, hy', hz, hyz⟩
  · exact hab
  obtain rfl := Option.some.inj (hy.symm.trans hy')
  refine same_of_sameFloat hx hz (sameFloat_trans hxy hyz) fun m n ha hc => ?_
  subst ha hc
  -- two integers: the number between them is an integer, too, or parts them
  cases b with
  | int k => exact (eq_of_beq hab).trans (eq_of_beq hbc)
  | float x =>
    by_contra hne
    exact h ⟨[], m, x, n, rfl, rfl, rfl, hne⟩
  | _ => cases hy

/-- Values that are the same as a third are the same, but for integers that are parted. -/
theorem KeysDistinct.same_trans (ha : a.KeysDistinct) (hab : a.same b) (hbc : b.same c) (h : ¬PartedBy a b c) :
    a.same c := by
  induction ha generalizing b c with
  | @scalar a hdepth => exact same_trans_of_depth hdepth hab hbc h
  | @array xs _ ih =>
    cases b with
    | array ys =>
      cases c with
      | array zs =>
        have hxy := same_array_iff.1 hab
        have hyz := same_array_iff.1 hbc
        refine same_array (List.forall₂_iff_get.2 ⟨hxy.length_eq.trans hyz.length_eq, fun i hx hz => ?_⟩)
        have hy : i < ys.length := hxy.length_eq ▸ hx
        exact ih _ (List.getElem_mem hx) (hxy.get hx hy) (hyz.get hy hz) fun hparted => h (hparted.position)
      | _ => cases hbc
    | _ => cases hab
  | @object fs hkeys _ ih =>
    cases b with
    | object gs =>
      cases c with
      | object hs =>
        obtain ⟨hlength, hfields⟩ := same_object.1 hab
        obtain ⟨hlength', hfields'⟩ := same_object.1 hbc
        refine same_object.2 ⟨hlength.trans hlength', fun k v hv => ?_⟩
        obtain ⟨w, hw, hvw⟩ := hfields k v hv
        obtain ⟨u, hu, hwu⟩ := hfields' k w (mem_of_lookup hw)
        refine ⟨u, hu, ih _ hv hvw hwu fun hparted => h ?_⟩
        exact hparted.key (Fields.lookup_of_mem hkeys hv) hw hu
      | _ => cases hbc
    | _ => cases hab

/-- Two values that are the same as a third are the same just if no integers in them are parted by it. -/
theorem same_iff_not_partedBy (ha : a.KeysDistinct) (hab : a.same b) (hbc : b.same c) :
    a.same c ↔ ¬PartedBy a b c := by
  refine ⟨?_, ha.same_trans hab hbc⟩
  rintro hac ⟨path, m, x, n, ham, _, hcn, hne⟩
  obtain ⟨y, hy, hmy⟩ := same_at? hac ham
  obtain rfl := Option.some.inj (hy.symm.trans hcn)
  exact hne (eq_of_beq hmy)

/-! ## What is compared by numeric value -/

/-- Whether all integers in a value are of at most `2 ^ 53` in size. -/
def IntegersFit (v : Value) : Prop :=
  ∀ path n, v.at? path = some (.int n) → n.toInt.natAbs ≤ 2 ^ 53

theorem same_int_float_iff {n : Int64} (hn : n.toInt.natAbs ≤ 2 ^ 53) {x : Binary64} :
    (int n).same (float x) ↔ x.toInt? = some n.toInt := by
  rw [same]
  exact Binary64.ofInt_eq_iff hn

/-- No float parts integers that fit in its significand. -/
theorem not_partedBy (ha : a.IntegersFit) (hc : c.IntegersFit) (hab : a.same b) (hbc : b.same c) :
    ¬PartedBy a b c := by
  rintro ⟨path, m, x, n, ham, hbx, hcn, hne⟩
  obtain ⟨_, hb, hmx⟩ := same_at? hab ham
  obtain rfl := Option.some.inj (hb.symm.trans hbx)
  obtain ⟨_, hc', hxn⟩ := same_at? hbc hbx
  obtain rfl := Option.some.inj (hc'.symm.trans hcn)
  have hm := (same_int_float_iff (ha path m ham)).1 hmx
  have hn := (same_int_float_iff (hc path n hcn)).1 (by rwa [same_float_int, ← same_int_float] at hxn)
  exact hne (Int64.toInt_inj.1 (Option.some.inj (hm.symm.trans hn)))

/-- Objects are the same if they have the same keys and what they have under each of them is the same. -/
theorem same_object_iff {fs gs : Fields} (hfs : (fs.map Prod.fst).Nodup) (hgs : (gs.map Prod.fst).Nodup) :
    (object fs).same (object gs) ↔
      (fs.map Prod.fst).Perm (gs.map Prod.fst) ∧ ∀ k v w, (k, v) ∈ fs → (k, w) ∈ gs → v.same w := by
  constructor
  · refine fun h => ⟨keys_perm_of_same hfs h, fun k v w hv hw => ?_⟩
    obtain ⟨w', hw', hsame⟩ := (same_object.1 h).2 k v hv
    rwa [Option.some.inj ((Fields.lookup_of_mem hgs hw).symm.trans hw')]
  · rintro ⟨hperm, h⟩
    refine same_object.2 ⟨by simpa using hperm.length_eq, fun k v hv => ?_⟩
    obtain ⟨⟨_, w⟩, hw, rfl⟩ := List.mem_map.1 (hperm.mem_iff.1 (List.mem_map.2 ⟨_, hv, rfl⟩))
    exact ⟨w, Fields.lookup_of_mem hgs hw, h _ v w hv hw⟩

/-- Equality of values is an equivalence but for the rounding of integers.  A value is the same as itself, either
of two may be asked, and a value is the same as what its third is the same as unless the third parts integers, which
no float does to integers of at most `2 ^ 53` in size.  Such integers equal just the floats that stand for
them, all patterns that are no number are equal, and objects are compared by what they have under each
key, in whatever order. -/
theorem same_up_to_rounding (ha : a.KeysDistinct) (hb : b.KeysDistinct) :
    a.same a ∧ a.same b = b.same a ∧
      (a.same b → b.same c → (a.same c ↔ ¬PartedBy a b c)) ∧
      (a.IntegersFit → c.IntegersFit → a.same b → b.same c → a.same c) ∧
      (∀ n x, n.toInt.natAbs ≤ 2 ^ 53 → ((int n).same (float x) ↔ x.toInt? = some n.toInt)) ∧
      (∀ x y, x.isNaN → (float x).same (float y) = y.isNaN) ∧
      (∀ fs gs, a = object fs → b = object gs → (a.same b ↔
        (fs.map Prod.fst).Perm (gs.map Prod.fst) ∧ ∀ k v w, (k, v) ∈ fs → (k, w) ∈ gs → v.same w)) ∧
      ∀ c, b.Reordered c → a.same c = a.same b := by
  refine ⟨ha.same_self, Bool.eq_iff_iff.2 ⟨ha.same_symm, hb.same_symm⟩, same_iff_not_partedBy ha,
    fun ha' hc' hab hbc => ha.same_trans hab hbc (not_partedBy ha' hc' hab hbc),
    fun n x hn => same_int_float_iff hn, ?_, ?_, fun c hbc => (hbc.same_eq a).symm⟩
  · intro x y hx
    rw [same, sameFloat, hx, Binary64.eq, hx]
    rfl
  · rintro fs gs rfl rfl
    exact same_object_iff ha.keys_nodup hb.keys_nodup

/-- Objects with their keys in different orders, and two patterns that are no number. -/
theorem same_up_to_rounding_rates :
    let a : Value := .object [("name", .string "Alex"), ("rates", .array [.float .nan, .int 3])]
    let b : Value := .object [("rates", .array [.float ⟨0xfff0000000000001⟩, .float ⟨0x4008000000000000⟩]),
      ("name", .string "Alex")]
    a.KeysDistinct ∧ b.KeysDistinct ∧ a.same b ∧ b.same a := by
  intro a b
  have hrates : ∀ u v : Value, u.depth = 0 → v.depth = 0 → KeysDistinct (.array [u, v]) := fun u v hu hv =>
    .array (List.forall_mem_cons.2 ⟨.scalar hu, List.forall_mem_singleton.2 (.scalar hv)⟩)
  have ha : a.KeysDistinct := .object (by decide)
    (List.forall_mem_cons.2 ⟨.scalar rfl, List.forall_mem_singleton.2 (hrates _ _ rfl rfl)⟩)
  have hb : b.KeysDistinct := .object (by decide)
    (List.forall_mem_cons.2 ⟨hrates _ _ rfl rfl, List.forall_mem_singleton.2 (.scalar rfl)⟩)
  have hab : a.same b := by decide +kernel
  obtain ⟨_, hcomm, _⟩ := same_up_to_rounding (c := a) ha hb
  exact ⟨ha, hb, hab, hcomm ▸ hab⟩

/-- The first whole number that no float stands for equals the float of the number before it, so two different
integers are the same as one float. -/
theorem not_same_trans :
    let a : Value := .int 9007199254740993
    let b : Value := .float ⟨0x4340000000000000⟩
    let c : Value := .int 9007199254740992
    a.same b ∧ b.same c ∧ a.same c = false ∧
      (⟨0x4340000000000000⟩ : Binary64).toInt? = some 9007199254740992 := by
  decide +kernel

end ChunkTree.Value
