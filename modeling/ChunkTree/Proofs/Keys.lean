import ChunkTree.Proofs.Except
import ChunkTree.Proofs.SortBy
import ChunkTree.Save.Entry

/-!
# What a key is saved as

Each key of an object is looked at on its own (`keyEntry_cases`).  So the value of every entry is the value
of some key, and the value of every row is that of some key or an item of its `_rest`; both are nested less
deep than the object.
-/

namespace ChunkTree

namespace Value

theorem depth_le_itemsDepth {x : Value} {items : List Value} (h : x ∈ items) :
    x.depth ≤ itemsDepth items := by
  induction items with
  | nil => simp at h
  | cons y items ih =>
    rw [itemsDepth]
    rcases List.mem_cons.1 h with rfl | h
    · exact Nat.le_max_left _ _
    · exact (ih h).trans (Nat.le_max_right _ _)

theorem depth_le_fieldsDepth {k : String} {x : Value} {fields : Fields} (h : (k, x) ∈ fields) :
    x.depth ≤ fieldsDepth fields := by
  induction fields with
  | nil => simp at h
  | cons f fields ih =>
    obtain ⟨l, y⟩ := f
    rw [fieldsDepth]
    rcases List.mem_cons.1 h with h | h
    · obtain ⟨rfl, rfl⟩ := Prod.mk.inj h
      exact Nat.le_max_left _ _
    · exact (ih h).trans (Nat.le_max_right _ _)

theorem eq_object_of_asObject {v : Value} {fields : Fields} (h : v.asObject = some fields) :
    v = .object fields := by
  cases v <;> simp_all [asObject]

theorem eq_array_of_asArray {v : Value} {items : List Value} (h : v.asArray = some items) :
    v = .array items := by
  cases v <;> simp_all [asArray]

theorem depth_lt_of_asObject {v : Value} {fields : Fields} (h : v.asObject = some fields) {k : String}
    {x : Value} (hx : (k, x) ∈ fields) : x.depth < v.depth := by
  obtain rfl := eq_object_of_asObject h
  rw [depth]
  exact Nat.lt_succ_of_le (depth_le_fieldsDepth hx)

theorem depth_lt_of_asArray {v : Value} {items : List Value} (h : v.asArray = some items) {x : Value}
    (hx : x ∈ items) : x.depth < v.depth := by
  obtain rfl := eq_array_of_asArray h
  rw [depth]
  exact Nat.lt_succ_of_le (depth_le_itemsDepth hx)

theorem mem_of_lookup {fields : Fields} {k : String} {x : Value} (h : fields.lookup k = some x) :
    (k, x) ∈ fields := by
  induction fields with
  | nil => simp at h
  | cons f fields ih =>
    obtain ⟨l, y⟩ := f
    rw [List.lookup_cons] at h
    split at h
    · rename_i heq
      obtain rfl := Option.some.inj h
      rw [eq_of_beq heq]
      exact List.mem_cons_self
    · exact List.mem_cons_of_mem _ (ih h)

theorem depth_lt_of_get? {v x : Value} {k : String} (h : v.get? k = some x) : x.depth < v.depth := by
  obtain ⟨fields, hfields, hx⟩ := Option.bind_eq_some_iff.1 h
  exact depth_lt_of_asObject hfields (mem_of_lookup hx)

end Value

namespace Save

theorem givenEntries_cons_eq_ok {schema : Schema} {key : String} {v : Value} {fields : Fields}
    {es : List Entry} :
    givenEntries schema ((key, v) :: fields) = .ok es ↔
      ∃ e rest, keyEntry schema key v = .ok e ∧ givenEntries schema fields = .ok rest ∧
        e.toList ++ rest = es := by
  simp only [givenEntries, bind_eq_ok, pure_eq_ok]
  constructor
  · rintro ⟨e, he, rest, hrest, h⟩
    exact ⟨e, rest, he, hrest, h⟩
  · rintro ⟨e, rest, he, hrest, h⟩
    exact ⟨e, he, rest, hrest, h⟩

theorem value_of_entryUnlessDefault {index : UInt32} {field : Option Schema} {v : Value} {e : Entry}
    (h : entryUnlessDefault index field v = some e) : e = ⟨index, v, field⟩ ∧ isDefault field v = false := by
  unfold entryUnlessDefault at h
  split at h
  · simp at h
  · exact ⟨(Option.some.inj h).symm, by simp_all⟩

/-- The ways in which a key and its value become a chunk. -/
theorem keyEntry_cases {schema : Schema} {key : String} {v : Value} {o : Option Entry}
    (h : keyEntry schema key v = .ok o) {e : Entry} (he : o = some e) :
    isInternal key = false ∧ e.value = v ∧ isDefault e.schema v = false ∧
      ((∃ field, schema.find? (.name key) = some field ∧ field.index? = some e.index ∧
        e.schema = some field) ∨
        (schema.find? (.name key) = none ∧ index? key = some e.index ∧ e.index ≠ 0 ∧
          e.schema = schema.find? (.index e.index) ∧
          ((e.schema.bind Schema.name?).map isInternal).getD false = false)) := by
  subst he
  unfold keyEntry at h
  split at h
  · simp at h
  rename_i hkey
  refine ⟨by simpa using hkey, ?_⟩
  split at h
  · rename_i field hfield
    split at h
    · simp at h
    · rename_i index hindex
      obtain ⟨rfl, hdefault⟩ := value_of_entryUnlessDefault (Except.ok.inj h)
      exact ⟨rfl, hdefault, .inl ⟨field, hfield, hindex, rfl⟩⟩
  · rename_i hfield
    split at h
    · simp at h
    rename_i index hindex
    split at h
    · simp at h
    rename_i hzero
    simp only at h
    split at h
    · simp at h
    · rename_i hinternal
      obtain ⟨rfl, hdefault⟩ := value_of_entryUnlessDefault (Except.ok.inj h)
      exact ⟨rfl, hdefault, .inr ⟨hfield, hindex, hzero, rfl, by simpa using hinternal⟩⟩

theorem mem_givenEntries {schema : Schema} {fields : Fields} {es : List Entry}
    (h : givenEntries schema fields = .ok es)
    {e : Entry} (he : e ∈ es) : ∃ key, (key, e.value) ∈ fields ∧
      keyEntry schema key e.value = .ok (some e) := by
  induction fields generalizing es with
  | nil =>
    obtain rfl : [] = es := Except.ok.inj h
    simp at he
  | cons f fields ih =>
    obtain ⟨key, v⟩ := f
    obtain ⟨o, rest, ho, hrest, rfl⟩ := givenEntries_cons_eq_ok.1 h
    rcases List.mem_append.1 he with he | he
    · obtain rfl := Option.mem_toList.1 he
      have hv := (keyEntry_cases ho rfl).2.1
      exact ⟨key, by rw [hv]; exact List.mem_cons_self, by rw [hv]; exact ho⟩
    · obtain ⟨k, hk, hke⟩ := ih hrest he
      exact ⟨k, List.mem_cons_of_mem _ hk, hke⟩

theorem depth_of_mem_givenEntries {schema : Schema} {v : Value} {fields : Fields} {es : List Entry}
    (hv : v.asObject = some fields) (h : givenEntries schema fields = .ok es) {e : Entry} (he : e ∈ es) :
    e.value.depth < v.depth := by
  obtain ⟨key, hkey, _⟩ := mem_givenEntries h he
  exact Value.depth_lt_of_asObject hv hkey

theorem restOf_eq_ok {key : String} {row : Value} {rows : List Value} (h : restOf key row = .ok rows) :
    (row.get? restKey = none ∧ rows = []) ∨ ∃ rest, row.get? restKey = some rest ∧
      rest.asArray = some rows := by
  unfold restOf at h
  split at h
  · rename_i hnone
    exact .inl ⟨hnone, (Except.ok.inj h).symm⟩
  · rename_i rest hrest
    split at h
    · rename_i items hitems
      obtain rfl := Except.ok.inj h
      exact .inr ⟨rest, hrest, hitems⟩
    · simp at h

theorem givenRows_cons_eq_ok {schema : Schema} {key : String} {row : Value} {fields : Fields}
    {rows : List (UInt32 × Value)} :
    givenRows schema ((key, row) :: fields) = .ok rows ↔
      ∃ index more rest, index? key = some index ∧ restOf key row = .ok more ∧
        givenRows schema fields = .ok rest ∧ (index, row) :: more.map (index, ·) ++ rest = rows := by
  rw [givenRows]
  cases index? key with
  | none => simp
  | some index => simp [bind_eq_ok, pure_eq_ok, -bind_pure_comp]

theorem depth_of_mem_givenRows {schema : Schema} {fields : Fields} {rows : List (UInt32 × Value)}
    (h : givenRows schema fields = .ok rows) {r : UInt32 × Value} (hr : r ∈ rows) :
    r.2.depth ≤ Value.fieldsDepth fields := by
  induction fields generalizing rows with
  | nil =>
    obtain rfl : [] = rows := Except.ok.inj h
    simp at hr
  | cons f fields ih =>
    obtain ⟨key, row⟩ := f
    obtain ⟨index, more, rest, _, hmore, hrest, rfl⟩ := givenRows_cons_eq_ok.1 h
    rw [Value.fieldsDepth]
    rcases List.mem_append.1 hr with hr | hr
    · refine le_trans ?_ (Nat.le_max_left _ _)
      rcases List.mem_cons.1 hr with rfl | hr
      · exact le_refl _
      -- a further row lies in the array under `_rest` of the first
      obtain ⟨x, hx, rfl⟩ := List.mem_map.1 hr
      rcases restOf_eq_ok hmore with ⟨_, rfl⟩ | ⟨array, harray, hitems⟩
      · simp at hx
      · exact ((Value.depth_lt_of_asArray hitems hx).trans (Value.depth_lt_of_get? harray)).le
    · exact (ih hrest hr).trans (Nat.le_max_right _ _)

theorem rowsOf_eq_ok {schema : Schema} {v : Value} {rows : List (UInt32 × Value)} :
    rowsOf schema v = .ok rows ↔
      ∃ fields given, v.asObject = some fields ∧ givenRows schema fields = .ok given ∧
        sortBy Prod.fst given = rows := by
  unfold rowsOf
  cases v.asObject with
  | none => simp [throw_ne_ok]
  | some fields => simp [bind_eq_ok, pure_eq_ok, -bind_pure_comp]

theorem depth_of_mem_rowsOf {schema : Schema} {v : Value} {rows : List (UInt32 × Value)}
    (h : rowsOf schema v = .ok rows) {r : UInt32 × Value} (hr : r ∈ rows) : r.2.depth < v.depth := by
  obtain ⟨fields, given, hv, hgiven, rfl⟩ := rowsOf_eq_ok.1 h
  obtain rfl := Value.eq_object_of_asObject hv
  rw [Value.depth]
  exact Nat.lt_succ_of_le (depth_of_mem_givenRows hgiven (mem_sortBy.1 hr))

end Save

end ChunkTree
