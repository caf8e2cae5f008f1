import ChunkTree.Proofs.RecordValue

/-!
# Saving the object of a record

Which keys of an object are saved can be told for each key on its own (`Schema.kept`).  The object of a
record gives back its entries, but for those that are equal to their default
(`Save.givenEntries_recordFields`), and further rows under `_rest` are left out
(`Save.givenEntries_withRest`).
-/

namespace ChunkTree

open Save (Entry isDefault keyEntry givenEntries entryUnlessDefault)

/-- The index and the field that a key stands for: a name first of all, else an index in decimal. -/
def Schema.designated (d : Schema) (key : String) : Option (UInt32 × Option Schema) :=
  match d.find? (.name key) with
  | some field => field.index?.map fun i => (i, some field)
  | none => (Save.index? key).map fun i => (i, d.find? (.index i))

/-- The entry that a key and its value are kept as: none for internal keys and fields, and none for values
that are the same as the default of their field. -/
def Schema.kept (d : Schema) (key : String) (v : Value) : Option Entry :=
  if isInternal key then none
  else
    (d.designated key).bind fun (i, field) =>
      if (field.bind Schema.name?).any isInternal || (field.bind Schema.default?).any (·.same v) then none
      else some ⟨i, v, field⟩

theorem Save.isDefault_eq (field : Option Schema) (v : Value) :
    isDefault field v = (field.bind Schema.default?).any (·.same v) := by
  unfold isDefault
  split
  · rename_i h
    rw [h, Option.any_some]
  · rename_i h
    rw [h, Option.any_none]

namespace Schema

variable {d f : Schema} {key : String} {v : Value} {e : Entry}

/-- When a key is kept, and as what. -/
theorem kept_eq_some : d.kept key v = some e ↔ isInternal key = false ∧
    d.designated key = some (e.index, e.schema) ∧ (e.schema.bind name?).any isInternal = false ∧
      isDefault e.schema v = false ∧ e.value = v := by
  rw [kept, Save.isDefault_eq]
  by_cases hkey : isInternal key
  · simp [hkey]
  rw [if_neg hkey, Option.bind_eq_some_iff]
  constructor
  · rintro ⟨⟨i, field⟩, hdesignated, h⟩
    simp only at h
    split at h
    · cases h
    · rename_i hne
      obtain rfl := Option.some.inj h
      simp only [Bool.or_eq_true, not_or, Bool.not_eq_true] at hne
      exact ⟨by simpa using hkey, hdesignated, hne.1, hne.2, rfl⟩
  · rintro ⟨_, hdesignated, hname, hdefault, rfl⟩
    refine ⟨_, hdesignated, ?_⟩
    simp only [hname, hdefault, Bool.or_self, Bool.false_eq_true, if_false]

/-- Another value of a key is kept alike if it is a default just if the first one is. -/
theorem kept_congr {w : Value} (h : ∀ i field, isInternal key = false → d.designated key = some (i, field) →
    (field.bind name?).any isInternal = false → isDefault field w = isDefault field v) :
    d.kept key w = (d.kept key v).map fun e => { e with value := w } := by
  refine Option.ext fun e => ?_
  rw [Option.map_eq_some_iff, kept_eq_some]
  constructor
  · rintro ⟨hkey, hdesignated, hname, hdefault, rfl⟩
    refine ⟨{ e with value := v }, kept_eq_some.2 ⟨hkey, hdesignated, hname, ?_, rfl⟩, rfl⟩
    rw [← h _ _ hkey hdesignated hname, hdefault]
  · rintro ⟨e, he, rfl⟩
    obtain ⟨hkey, hdesignated, hname, hdefault, _⟩ := kept_eq_some.1 he
    exact ⟨hkey, hdesignated, hname, by rw [h _ _ hkey hdesignated hname, hdefault], rfl⟩

/-- The field that a key stands for is one of the record, with the index that the key stands for. -/
theorem field_of_designated {i : UInt32} (h : d.designated key = some (i, some f)) :
    f ∈ d.fields ∧ f.index? = some i := by
  unfold designated at h
  split at h
  · rename_i g hg
    obtain ⟨j, hj, heq⟩ := Option.map_eq_some_iff.1 h
    obtain ⟨rfl, hfg⟩ := Prod.mk.inj heq
    obtain rfl := Option.some.inj hfg
    exact ⟨(mem_of_find_name hg).1, hj⟩
  · obtain ⟨j, _, heq⟩ := Option.map_eq_some_iff.1 h
    obtain ⟨rfl, hfind⟩ := Prod.mk.inj heq
    exact mem_of_find_index hfind

end Schema

namespace Save

variable {d : Schema}

theorem getD_map_isInternal (name : Option String) :
    (name.map isInternal).getD false = name.any isInternal := by
  cases name with
  | none => rfl
  | some n => rfl

/-- A key is saved as the entry that it is kept as. -/
theorem eq_kept_of_keyEntry {key : String} {v : Value} {o : Option Entry} (h : keyEntry d key v = .ok o) :
    o = d.kept key v := by
  unfold keyEntry at h
  unfold Schema.kept Schema.designated
  by_cases hinternal : isInternal key
  · rw [if_pos hinternal] at h ⊢
    exact (Except.ok.inj h).symm
  rw [if_neg hinternal] at h ⊢
  cases hfield : d.find? (.name key) with
  -- the key is the name of a field
  | some field =>
    have hname : field.name? = some key := (Schema.mem_of_find_name hfield).2
    simp only [hfield] at h
    cases hi : field.index? with
    | none =>
      simp only [hi] at h
      cases h
    | some i =>
      simp only [hi] at h
      simp only [hi, Option.map_some, Option.bind_some, hname, Option.any_some, hinternal, Bool.false_or]
      rw [← Except.ok.inj h, entryUnlessDefault, isDefault_eq, Option.bind_some]
  -- the key is an index, and the field there may still be internal
  | none =>
    simp only [hfield] at h
    cases hi : index? key with
    | none =>
      simp only [hi] at h
      cases h
    | some i =>
      simp only [hi, getD_map_isInternal] at h
      simp only [Option.map_some, Option.bind_some]
      split at h
      · cases h
      cases hname : ((d.find? (.index i)).bind Schema.name?).any isInternal with
      | true =>
        rw [if_pos hname] at h
        exact (Except.ok.inj h).symm
      | false =>
        rw [hname, if_neg Bool.false_ne_true] at h
        rw [Bool.false_or, ← Except.ok.inj h, entryUnlessDefault, isDefault_eq]

/-- Whether a key can be saved does not depend on its value. -/
theorem exists_keyEntry {key : String} {v : Value} {o : Option Entry} (h : keyEntry d key v = .ok o)
    (w : Value) : ∃ o', keyEntry d key w = .ok o' := by
  unfold keyEntry at h ⊢
  split
  · exact ⟨_, rfl⟩
  rename_i hkey
  rw [if_neg hkey] at h
  split
  · rename_i field hfield
    simp only [hfield] at h
    split
    · simp_all
    · exact ⟨_, rfl⟩
  · rename_i hfield
    simp only [hfield] at h
    split
    · simp_all
    · rename_i index hindex
      simp only [hindex] at h
      split
      · simp_all
      · simp only
        split
        · exact ⟨_, rfl⟩
        · exact ⟨_, rfl⟩

theorem givenEntries_eq_ok {fields : Fields} {es : List Entry} :
    givenEntries d fields = .ok es ↔
      (∀ f ∈ fields, ∃ o, keyEntry d f.1 f.2 = .ok o) ∧ es = fields.filterMap fun f => d.kept f.1 f.2 := by
  induction fields generalizing es with
  | nil => simp [givenEntries, eq_comm]
  | cons f fields ih =>
    obtain ⟨key, v⟩ := f
    rw [givenEntries_cons_eq_ok, List.filterMap_cons]
    constructor
    · rintro ⟨o, rest, ho, hrest, rfl⟩
      obtain ⟨hkeys, rfl⟩ := ih.1 hrest
      refine ⟨?_, ?_⟩
      · intro f hf
        rcases List.mem_cons.1 hf with rfl | hf
        · exact ⟨o, ho⟩
        · exact hkeys f hf
      · rw [eq_kept_of_keyEntry ho]
        cases d.kept key v <;> rfl
    · rintro ⟨hkeys, rfl⟩
      obtain ⟨o, ho⟩ := hkeys (key, v) List.mem_cons_self
      refine ⟨o, _, ho, ih.2 ⟨fun f hf => hkeys f (List.mem_cons_of_mem _ hf), rfl⟩, ?_⟩
      rw [eq_kept_of_keyEntry ho]
      cases d.kept key v <;> rfl

/-- An entry of a record is saved under its key again, unless it is the default. -/
theorem keyEntry_of_shown {items : List Entry} (h : Shown d items) (hd : d.LegibleRecord) {e : Entry}
    (he : e ∈ items) :
    keyEntry d e.key e.value = .ok (if isDefault e.schema e.value then none else some e) := by
  rcases h.key_cases hd he with ⟨f, n, hs, hf, hi, hn, hk, hvisible⟩ | ⟨hs, hk⟩
  · rw [keyEntry, hk, hvisible, hd.find_name hf hn]
    simp only [Bool.false_eq_true, if_false, hi]
    rw [entryUnlessDefault, ← hs]
  · have hfind := h.schema_eq e he
    rw [hs] at hfind
    rw [keyEntry, hk, isInternal_indexText, hd.find_name_indexText]
    simp only [Bool.false_eq_true, if_false, index?_indexText, h.index_ne_zero e he, ← hfind,
      Option.bind_none, Option.map_none, Option.getD_none]
    rw [entryUnlessDefault, ← hs]

/-- A missing default is not saved. -/
theorem keyEntry_of_missing {keys : List String} (hd : d.LegibleRecord) {n : String} {v : Value}
    (h : (n, v) ∈ d.fields.filterMap (Schema.missingDefault keys)) : keyEntry d n v = .ok none := by
  obtain ⟨f, hf, hn, hv, hvisible, _⟩ := mem_missing h
  obtain ⟨i, hi, _⟩ := hd.index f hf
  obtain ⟨kind, _, _, hfits⟩ := hd.default_fits f hf v hv
  have hdefault : isDefault (some f) v = true := by
    rw [isDefault_eq, Option.bind_some, hv, Option.any_some]
    exact Value.same_self_of_fits hfits
  rw [keyEntry, hvisible, hd.find_name hf hn]
  simp only [Bool.false_eq_true, if_false, hi]
  rw [entryUnlessDefault, hdefault]
  rfl

/-- Saving the object of a record gives back its entries, but for the defaults. -/
theorem givenEntries_recordFields {items : List Entry} (h : Shown d items) (hd : d.LegibleRecord) :
    givenEntries d (recordFields d items) = .ok (items.filter fun e => !isDefault e.schema e.value) := by
  refine givenEntries_eq_ok.2 ⟨?_, ?_⟩
  · intro f hf
    rcases List.mem_append.1 hf with hf | hf
    · obtain ⟨e, he, rfl⟩ := List.mem_map.1 hf
      exact ⟨_, keyEntry_of_shown h hd he⟩
    · exact ⟨_, keyEntry_of_missing hd hf⟩
  · have hmissing : (d.fields.filterMap (Schema.missingDefault (items.map Entry.key))).filterMap
        (fun f => d.kept f.1 f.2) = [] := by
      refine List.filterMap_eq_nil_iff.2 fun f hf => ?_
      rw [← eq_kept_of_keyEntry (keyEntry_of_missing hd hf)]
    rw [recordFields, List.filterMap_append, hmissing, List.append_nil, List.filterMap_map,
      ← List.filterMap_eq_filter]
    refine (List.filterMap_congr fun e he => ?_)
    rw [Function.comp, ← eq_kept_of_keyEntry (keyEntry_of_shown h hd he)]
    cases hdefault : isDefault e.schema e.value <;> simp [Option.guard, hdefault]

/-- An internal key at the end is left out. -/
theorem givenEntries_withRest (fields : Fields) (rest : Value) :
    givenEntries d (fields ++ [(restKey, rest)]) = givenEntries d fields := by
  induction fields with
  | nil =>
    have hrest : keyEntry d restKey rest = .ok none := if_pos isInternal_restKey
    exact givenEntries_cons_eq_ok.2 ⟨none, [], hrest, rfl, rfl⟩
  | cons f fields ih =>
    obtain ⟨key, v⟩ := f
    rw [List.cons_append, givenEntries, givenEntries, ih]

end Save

end ChunkTree
