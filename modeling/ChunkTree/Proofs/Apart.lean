import ChunkTree.Proofs.FieldAccess
import ChunkTree.Proofs.SizeFields

/-!
# Records whose fields can be told apart

What holds of a record as soon as no two of its fields share a name or an index, whether or not all of them have
one.  The object of such a record holds its visible chunks, each under its key, and the defaults of visible fields
whose names are no keys yet (`Record.ShownAs`).  An object is saved with a chunk for a field just if a key that
stands for the field has a value other than the default (`Save.WrittenAs.exists_chunk_iff`), and these are the
chunks that the record is then read with (`Record.exists_reread`).  So a chunk of a field comes back with its value
or makes way for the default (`Record.exists_entry_of_saved`).
-/

namespace ChunkTree

open Text (Charset)
open Save (Entry chunkBytes isDefault)

variable {charset : Charset} {d f : Schema} {i : UInt32} {k n : String} {x : Value}

namespace Schema

/-- The name of a field stands for it. -/
theorem designated_name (hd : d.Apart) (hf : f ∈ d.fields) (hn : f.name? = some n) :
    d.designated n = f.index?.map fun i => (i, some f) := by
  rw [designated, find_name_of_nodup hd.names_nodup hf hn]

/-- A key that stands for a field is the name of no other one. -/
theorem eq_of_designated_name {g : Schema} (hd : d.Apart) (hg : g ∈ d.fields) (hn : g.name? = some k)
    (hk : d.designated k = some (i, some f)) : g = f := by
  rw [designated_name hd hg hn] at hk
  obtain ⟨_, _, heq⟩ := Option.map_eq_some_iff.1 hk
  exact Option.some.inj (Prod.mk.inj heq).2

/-- A key that stands for a field is no more internal than the field is. -/
theorem isInternal_of_designated (hvisible : f.name?.any isInternal = false)
    (hk : d.designated k = some (i, some f)) : isInternal k = false := by
  unfold designated at hk
  split at hk
  · rename_i g hfind
    obtain ⟨_, _, heq⟩ := Option.map_eq_some_iff.1 hk
    obtain rfl := Option.some.inj (Prod.mk.inj heq).2
    rwa [(mem_of_find_name hfind).2, Option.any_some] at hvisible
  · obtain ⟨j, hj, _⟩ := Option.map_eq_some_iff.1 hk
    exact Save.isInternal_of_index? hj

end Schema

/-! ## What the object of a record holds -/

namespace Record

variable {r : Record} {fields : Fields}

/-- The keys under which a record shows its chunks. -/
def shownKeys (r : Record) : List String :=
  r.entries.filterMap fun entry => entryKey? entry.1 entry.2

/-- Whether fields are those of the object of a record: whatever they hold is a chunk that is shown or a default
whose name is no key of a chunk, and they have all of these. -/
structure ShownAs (charset : Charset) (r : Record) (fields : Fields) : Prop where
  origin : ∀ k x, (k, x) ∈ fields →
    (∃ i chunk, (i, chunk) ∈ r.entries ∧ entryKey? i chunk = some k ∧ chunk.toValue charset = .ok x) ∨
      ∃ f ∈ r.schema.fields, f.missingDefault r.shownKeys = some (k, x)
  chunk : ∀ k ∈ r.shownKeys, k ∈ fields.map Prod.fst
  default : ∀ f ∈ r.schema.fields, ∀ k x, f.missingDefault r.shownKeys = some (k, x) → (k, x) ∈ fields
  keys_nodup : (fields.map Prod.fst).Nodup

theorem mem_shownKeys : k ∈ r.shownKeys ↔ ∃ i chunk, (i, chunk) ∈ r.entries ∧ entryKey? i chunk = some k := by
  rw [shownKeys, List.mem_filterMap]
  exact Prod.exists

/-- What entries put into an object. -/
theorem mem_insertAll {items : List Entry}
    (h : (k, x) ∈ items.foldl (fun fields e => fields.insert e.key e.value) fields) :
    (∃ e ∈ items, e.key = k ∧ e.value = x) ∨ (k, x) ∈ fields := by
  induction items generalizing fields with
  | nil => exact .inr h
  | cons e items ih =>
    rcases ih h with ⟨e', he', heq⟩ | h
    · exact .inl ⟨e', List.mem_cons_of_mem e he', heq⟩
    · rcases Fields.mem_insert h with ⟨rfl, rfl⟩ | h
      · exact .inl ⟨e, List.mem_cons_self, rfl, rfl⟩
      · exact .inr h

theorem mem_keys_insertAll {items : List Entry} :
    k ∈ (items.foldl (fun fields e => fields.insert e.key e.value) fields).map Prod.fst ↔
      k ∈ items.map Entry.key ∨ k ∈ fields.map Prod.fst := by
  induction items generalizing fields with
  | nil => simp
  | cons e items ih =>
    rw [List.foldl_cons, ih, Fields.mem_keys_insert, List.map_cons, List.mem_cons]
    tauto

theorem nodup_insertAll {items : List Entry} (h : (fields.map Prod.fst).Nodup) :
    ((items.foldl (fun fields e => fields.insert e.key e.value) fields).map Prod.fst).Nodup := by
  induction items generalizing fields with
  | nil => exact h
  | cons e items ih => exact ih (Fields.nodup_insert h)

/-- The keys of what a record shows are those of its chunks. -/
theorem mem_keys_of_shows {toValue : Chunk → Except Error Value} {items : List Entry}
    (h : List.Forall₂ (Entry.Shows toValue) (visibleEntries r.entries) items) :
    k ∈ items.map Entry.key ↔ k ∈ r.shownKeys := by
  rw [mem_shownKeys, List.mem_map]
  constructor
  · rintro ⟨e, he, rfl⟩
    obtain ⟨⟨i, chunk⟩, hmem, hshow⟩ := exists_left_of_forall₂ h he
    obtain ⟨hmem, hvisible⟩ := List.mem_filter.1 hmem
    obtain ⟨key, hkey⟩ := Option.isSome_iff_exists.1 hvisible
    exact ⟨i, chunk, hmem, by rw [hkey, entryKey?_of_shows hshow hkey]⟩
  · rintro ⟨i, chunk, hmem, hkey⟩
    obtain ⟨e, he, hshow⟩ := exists_right_of_forall₂ h (List.mem_filter.2 ⟨hmem, by simp [hkey]⟩)
    exact ⟨e, he, entryKey?_of_shows hshow hkey⟩

/-- A record is converted if its chunks are. -/
theorem exists_valueBy {toValue : Chunk → Except Error Value}
    (h : ∀ i chunk, (i, chunk) ∈ r.entries → ∃ x, toValue chunk = .ok x) : ∃ o, r.valueBy toValue = .ok o := by
  have hshows : ∀ e ∈ visibleEntries r.entries, ∃ item, Entry.Shows toValue e item := by
    rintro ⟨i, chunk⟩ hmem
    obtain ⟨x, hx⟩ := h i chunk (List.mem_of_mem_filter hmem)
    exact ⟨⟨i, x, chunk.schema⟩, rfl, rfl, hx⟩
  obtain ⟨items, hitems⟩ := exists_forall₂ hshows
  exact ⟨_, bind_eq_ok.2 ⟨_, presentFields_eq_ok.2 ⟨items, hitems, rfl⟩, rfl⟩⟩

/-- A record is converted to an object that shows it, if no two of its fields share a name. -/
theorem exists_shownAs (hnames : (r.schema.fields.filterMap Schema.name?).Nodup) {o : Value}
    (h : r.valueBy (Chunk.toValue charset) = .ok o) : ∃ fields, o = .object fields ∧ ShownAs charset r fields := by
  obtain ⟨present, hpresent, ho⟩ := bind_eq_ok.1 h
  obtain ⟨items, hitems, hfold⟩ := presentFields_eq_ok.1 hpresent
  have hkeys : ∀ k, k ∈ present.map Prod.fst ↔ k ∈ r.shownKeys := fun k => by
    rw [← hfold, mem_keys_insertAll, mem_keys_of_shows hitems, List.map_nil, or_iff_left List.not_mem_nil]
  have hmissing : ∀ f : Schema, f.missingDefault (present.map Prod.fst) = f.missingDefault r.shownKeys :=
    fun f => missingDefault_congr fun n _ => hkeys n
  refine ⟨_, (pure_eq_ok.1 ho).symm, ?_⟩
  rw [defaultFields_eq hnames]
  refine ⟨fun k x hx => ?_, fun k hk => ?_, fun f hf k x hx => ?_, ?_⟩
  · rcases List.mem_append.1 hx with hx | hx
    · rw [← hfold] at hx
      obtain ⟨e, he, rfl, rfl⟩ | hx := mem_insertAll hx
      · obtain ⟨⟨i, chunk⟩, hmem, hshow⟩ := exists_left_of_forall₂ hitems he
        obtain ⟨hmem, hvisible⟩ := List.mem_filter.1 hmem
        obtain ⟨key, hkey⟩ := Option.isSome_iff_exists.1 hvisible
        exact .inl ⟨i, chunk, hmem, by rw [hkey, entryKey?_of_shows hshow hkey], hshow.2.2⟩
      · cases hx
    · obtain ⟨f, hf, hx⟩ := List.mem_filterMap.1 hx
      exact .inr ⟨f, hf, hmissing f ▸ hx⟩
  · rw [List.map_append]
    exact List.mem_append_left _ ((hkeys k).2 hk)
  · exact List.mem_append_right _ (List.mem_filterMap.2 ⟨f, hf, (hmissing f).trans hx⟩)
  · rw [List.map_append]
    refine List.nodup_append.2 ⟨hfold ▸ nodup_insertAll List.nodup_nil, missing_nodup hnames, ?_⟩
    rintro k hk _ hk' rfl
    obtain ⟨⟨n, x⟩, hmem, rfl⟩ := List.mem_map.1 hk'
    obtain ⟨_, _, _, _, _, hnew⟩ := mem_missing hmem
    exact hnew hk

/-- A key that stands for a field shows a chunk of that field, unless the name of the field is the index of another
chunk, which has no name. -/
theorem index_of_designated (hd : d.Apart) {j : UInt32} {chunk : Chunk} (hschema : chunk.schema = d.find? (.index j))
    (hkey : entryKey? j chunk = some k) (hdesignated : d.designated k = some (i, some f)) :
    j = i ∨ (f.name? = some k ∧ chunk.name? = none ∧ k = indexText j) := by
  obtain ⟨hf, hi⟩ := Schema.field_of_designated hdesignated
  unfold entryKey? at hkey
  cases hn : chunk.name? with
  | none =>
    obtain rfl : indexText j = k := by
      rw [hn] at hkey
      exact Option.some.inj hkey
    unfold Schema.designated at hdesignated
    cases hfind : d.find? (.name (indexText j)) with
    | none =>
      rw [hfind, Save.index?_indexText] at hdesignated
      exact .inl (Prod.mk.inj (Option.some.inj hdesignated)).1
    | some g =>
      rw [hfind] at hdesignated
      obtain ⟨_, _, heq⟩ := Option.map_eq_some_iff.1 hdesignated
      obtain rfl := Option.some.inj (Prod.mk.inj heq).2
      exact .inr ⟨(Schema.mem_of_find_name hfind).2, rfl, rfl⟩
  | some m =>
    rw [hn] at hkey
    simp only at hkey
    split at hkey
    · cases hkey
    obtain rfl := Option.some.inj hkey
    -- the chunk belongs to a field of that name, which is the field that the key stands for
    obtain ⟨g, hg, hgm⟩ := Option.bind_eq_some_iff.1 hn
    obtain ⟨hmem, hgj⟩ := Schema.mem_of_find_index (hschema ▸ hg)
    rw [Schema.designated_name hd hmem hgm, hgj, Option.map_some] at hdesignated
    exact .inl (Prod.mk.inj (Option.some.inj hdesignated)).1

end Record

/-- The key under which a field is shown: its name, else its index. -/
def Schema.keyAt (f : Schema) (i : UInt32) : String :=
  f.name?.getD (indexText i)

/-- The key under which a field is shown stands for it, unless the field has no name and its index is the name of
another one. -/
theorem Schema.designated_keyAt (hd : d.Apart) (hf : f ∈ d.fields) (hi : f.index? = some i)
    (hnameless : f.name? = none → d.find? (.name (indexText i)) = none) :
    d.designated (f.keyAt i) = some (i, some f) := by
  unfold designated keyAt
  cases hn : f.name? with
  | some n => rw [Option.getD_some, ← designated, designated_name hd hf hn, hi, Option.map_some]
  | none =>
    rw [Option.getD_none, hnameless hn]
    simp only [Save.index?_indexText, Option.map_some, find_index_of_nodup hd.indices_nodup hf hi]

namespace Record

variable {r : Record} {fields : Fields} {bound : Nat} {chunk : Chunk}

/-- A chunk of a field is shown under the key of the field, if at all. -/
theorem eq_keyAt_of_entryKey? (hschema : chunk.schema = some f) (hkey : entryKey? i chunk = some k) :
    k = f.keyAt i := by
  unfold entryKey? Chunk.name? at hkey
  rw [hschema, Option.bind_some] at hkey
  unfold Schema.keyAt
  cases hn : f.name? with
  | none =>
    rw [hn] at hkey
    exact (Option.some.inj hkey).symm
  | some n =>
    rw [hn] at hkey
    simp only at hkey
    split at hkey
    · cases hkey
    · exact (Option.some.inj hkey).symm

/-- A chunk of a field that is not internal is shown under the key of the field. -/
theorem keyAt_mem_shownKeys (hd : r.schema.Apart) (hin : InOrder r.schema bound 0 r.entries)
    (hf : f ∈ r.schema.fields) (hi : f.index? = some i) (hvisible : f.name?.any isInternal = false)
    (hmem : (i, chunk) ∈ r.entries) : f.keyAt i ∈ r.shownKeys := by
  have hschema : chunk.schema = some f :=
    (hin.schema_eq hmem).trans (Schema.find_index_of_nodup hd.indices_nodup hf hi)
  refine mem_shownKeys.2 ⟨i, chunk, hmem, ?_⟩
  unfold entryKey? Chunk.name? Schema.keyAt
  rw [hschema, Option.bind_some]
  cases hn : f.name? with
  | none => rfl
  | some n =>
    rw [hn, Option.any_some] at hvisible
    simp [hvisible]

/-- A key that stands for a field has the value of the field's chunk, if the name of the field is not the index of
another chunk. -/
theorem ShownAs.value_of_designated (h : ShownAs charset r fields) (hd : r.schema.Apart)
    (hin : InOrder r.schema bound 0 r.entries) (hmem : (i, chunk) ∈ r.entries)
    (hvisible : f.name?.any isInternal = false)
    (hname : ∀ j c, (j, c) ∈ r.entries → f.name? = some (indexText j) → j = i)
    (hk : r.schema.designated k = some (i, some f)) (hx : (k, x) ∈ fields) : chunk.toValue charset = .ok x := by
  have hascending := (List.pairwise_cons.1 hin.ascending).2
  rcases h.origin k x hx with ⟨j, chunk', hmem', hkey, hvalue⟩ | ⟨g, hg, hmissing⟩
  · obtain rfl : j = i := by
      rcases index_of_designated hd (hin.schema_eq hmem') hkey hk with hji | ⟨hn, _, rfl⟩
      · exact hji
      · exact hname j chunk' hmem' hn
    have heq := (entry?_of_mem hascending hmem).symm.trans (entry?_of_mem hascending hmem')
    rwa [Option.some.inj heq]
  · -- a default under this key is that of the field, which has a chunk
    obtain ⟨hf, hi⟩ := Schema.field_of_designated hk
    obtain ⟨hgn, _, _, hnew⟩ := missingDefault_eq_some.1 hmissing
    obtain rfl := Schema.eq_of_designated_name hd hg hgn hk
    have hkey := keyAt_mem_shownKeys hd hin hf hi hvisible hmem
    rw [Schema.keyAt, hgn, Option.getD_some] at hkey
    exact absurd hkey hnew

/-- A field that is not internal and that a record leaves out is shown with its default, under its name; no other key
stands for it, unless one is the index of a chunk without a name. -/
theorem ShownAs.mem_iff_of_left_out (h : ShownAs charset r fields) (hd : r.schema.Apart)
    (hin : InOrder r.schema bound 0 r.entries) (hleft : r.entry? i = none)
    (hvisible : f.name?.any isInternal = false)
    (hother : ∀ j c, (j, c) ∈ r.entries → c.name? = none → k ≠ indexText j)
    (hk : r.schema.designated k = some (i, some f)) :
    (k, x) ∈ fields ↔ f.name? = some k ∧ f.default? = some x := by
  obtain ⟨hf, _⟩ := Schema.field_of_designated hk
  have hnew : k ∉ r.shownKeys := by
    intro hshown
    obtain ⟨j, chunk, hmem, hkey⟩ := mem_shownKeys.1 hshown
    rcases index_of_designated hd (hin.schema_eq hmem) hkey hk with rfl | ⟨_, hnone, hindex⟩
    · rw [entry?_of_mem (List.pairwise_cons.1 hin.ascending).2 hmem] at hleft
      cases hleft
    · exact hother j chunk hmem hnone hindex
  constructor
  · intro hx
    rcases h.origin k x hx with ⟨j, chunk, hmem, hkey, _⟩ | ⟨g, hg, hmissing⟩
    · exact absurd (mem_shownKeys.2 ⟨j, chunk, hmem, hkey⟩) hnew
    · obtain ⟨hn, hdefault, _⟩ := missingDefault_eq_some.1 hmissing
      obtain rfl := Schema.eq_of_designated_name hd hg hn hk
      exact ⟨hn, hdefault⟩
  · rintro ⟨hn, hdefault⟩
    rw [hn, Option.any_some] at hvisible
    exact h.default f hf k x (missingDefault_eq_some.2 ⟨hn, hdefault, hvisible, hnew⟩)

end Record

/-! ## What an object is saved as -/

/-- A key that stands for a field can be saved. -/
theorem Save.exists_keyEntry_of_designated (hd : d.Apart) (hk : d.designated k = some (i, some f)) (x : Value) :
    ∃ o, keyEntry d k x = .ok o := by
  obtain ⟨hf, hi⟩ := Schema.field_of_designated hk
  have hzero : i ≠ 0 := by
    rintro rfl
    exact hd.index_ne_zero f hf hi
  unfold keyEntry
  by_cases hinternal : isInternal k
  · exact ⟨none, if_pos hinternal⟩
  rw [if_neg hinternal]
  unfold Schema.designated at hk
  cases hfind : d.find? (.name k) with
  | some g =>
    rw [hfind] at hk
    obtain ⟨j, hj, _⟩ := Option.map_eq_some_iff.1 hk
    simp only [hj]
    exact ⟨_, rfl⟩
  | none =>
    rw [hfind] at hk
    obtain ⟨j, hj, heq⟩ := Option.map_eq_some_iff.1 hk
    obtain rfl : j = i := (Prod.mk.inj heq).1
    simp only [hj, if_neg hzero]
    split <;> exact ⟨_, rfl⟩

/-- A key that stands for a field that is not internal is kept unless its value is the same as the default. -/
theorem Schema.kept_of_designated (hvisible : f.name?.any isInternal = false)
    (hk : d.designated k = some (i, some f)) :
    d.kept k x = some ⟨i, x, some f⟩ ↔ ∀ y, f.default? = some y → y.same x = false := by
  have hdefault : isDefault (some f) x = false ↔ ∀ y, f.default? = some y → y.same x = false := by
    rw [Save.isDefault_eq, Option.bind_some, Option.any_eq_false]
  rw [kept_eq_some, ← hdefault]
  exact ⟨fun h => h.2.2.2.1, fun h => ⟨isInternal_of_designated hvisible hk, hk, hvisible, h, rfl⟩⟩

namespace Save.WrittenAs

variable {fields : Fields} {given sizes : List Entry} {chunks : List (UInt32 × List UInt8)}
  (h : WrittenAs charset d fields given sizes chunks) (hd : d.Apart) (hf : f ∈ d.fields) (hi : f.index? = some i)

include h

/-- What is kept is written. -/
theorem exists_chunk_of_kept (hx : (k, x) ∈ fields) (hkept : d.kept k x = some ⟨i, x, some f⟩) :
    ∃ p, (i, p) ∈ chunks ∧ x.save charset f = .ok p := by
  have he : (⟨i, x, some f⟩ : Entry) ∈ given :=
    (givenEntries_eq_ok.1 h.key).2 ▸ List.mem_filterMap.2 ⟨(k, x), hx, hkept⟩
  obtain ⟨⟨_, p⟩, hp, hwrites⟩ := exists_right_of_forall₂ h.chunk (mem_sortBy.2 (List.mem_append_left sizes he))
  obtain rfl := hwrites.index
  exact ⟨p, hp, hwrites.payload⟩

include hd hf hi

/-- A field that is about no size is not written as one. -/
theorem index_ne_of_not_size (hnosize : f.sizeOf? = none) : ∀ e ∈ sizes, e.index ≠ i := by
  rintro e he rfl
  obtain ⟨g, hg, _, _, _, hsize, hgi, _⟩ := mem_sizeEntries h.size he
  obtain rfl := eq_of_nodup_filterMap hd.indices_nodup hg hf hgi hi
  cases hnosize.symm.trans hsize

variable (hsize : ∀ e ∈ sizes, e.index ≠ i)

include hsize

/-- A chunk of a field that is not written as a size is that of a key which is kept. -/
theorem exists_kept {p : List UInt8} (hp : (i, p) ∈ chunks) :
    ∃ k x, (k, x) ∈ fields ∧ d.kept k x = some ⟨i, x, some f⟩ := by
  obtain ⟨e, he | he, rfl, _⟩ := h.exists_entry hp
  · obtain ⟨hschema, _⟩ := field_of_given hd h.key he hf hi
    rw [(givenEntries_eq_ok.1 h.key).2] at he
    obtain ⟨⟨k, x⟩, hx, hkept⟩ := List.mem_filterMap.1 he
    obtain rfl : e.value = x := (Schema.kept_eq_some.1 hkept).2.2.2.2
    exact ⟨k, e.value, hx, by rw [← hschema]; exact hkept⟩
  · exact absurd rfl (hsize e he)

/-- A record is written with a chunk for a field just if a key that stands for the field has a value other than its
default. -/
theorem exists_chunk_iff (hvisible : f.name?.any isInternal = false) :
    (∃ p, (i, p) ∈ chunks) ↔ ∃ k x, (k, x) ∈ fields ∧ d.designated k = some (i, some f) ∧
      ∀ y, f.default? = some y → y.same x = false := by
  constructor
  · rintro ⟨p, hp⟩
    obtain ⟨k, x, hx, hkept⟩ := h.exists_kept hd hf hi hsize hp
    have hk := (Schema.kept_eq_some.1 hkept).2.1
    exact ⟨k, x, hx, hk, (Schema.kept_of_designated hvisible hk).1 hkept⟩
  · rintro ⟨k, x, hx, hk, hnew⟩
    obtain ⟨p, hp, _⟩ := h.exists_chunk_of_kept hx ((Schema.kept_of_designated hvisible hk).2 hnew)
    exact ⟨p, hp⟩

end Save.WrittenAs

namespace Record

theorem mem_chunkViews {pos : Nat} {chunks : List (UInt32 × List UInt8)} {p : List UInt8} :
    (i, p) ∈ chunks ↔ ∃ q, (i, ⟨d.find? (.index i), some ⟨q, p⟩⟩) ∈ chunkViews d pos chunks := by
  induction chunks generalizing pos with
  | nil => simp [chunkViews]
  | cons c chunks ih =>
    obtain ⟨j, p'⟩ := c
    rw [chunkViews, List.mem_cons, ih]
    simp only [List.mem_cons, exists_or, Prod.mk.injEq, Chunk.mk.injEq, Option.some.injEq, Payload.mk.injEq]
    refine or_congr ?_ Iff.rfl
    constructor
    · rintro ⟨rfl, rfl⟩
      exact ⟨_, rfl, rfl, rfl, rfl⟩
    · rintro ⟨_, rfl, _, _, rfl⟩
      exact ⟨rfl, rfl⟩

/-- A record that was written is read with the chunks that were written. -/
theorem exists_reread (d : Schema) {chunks : List (UInt32 × List UInt8)}
    (hascending : (0 :: chunks.map Prod.fst).Pairwise (· < ·)) (hlen : ∀ c ∈ chunks, c.2.length < 0x100000000) :
    ∃ r, (parse d none).Takes 0 (chunks.flatMap chunkBytes ++ Varint.encode 0) r ∧ r.schema = d ∧
      ∀ i, (∀ p, (i, p) ∈ chunks → ∃ q, r.entry? i = some ⟨d.find? (.index i), some ⟨q, p⟩⟩) ∧
        ((∀ p, (i, p) ∉ chunks) → r.entry? i = none) := by
  have htakes := takes_parse d none 0 hascending hlen
  obtain ⟨_, _, hin⟩ := inOrder_of_parse (htakes [])
  refine ⟨_, htakes, rfl, fun i => ⟨fun p hp => ?_, fun hnone => ?_⟩⟩
  · obtain ⟨q, hq⟩ : ∃ q, (i, ⟨d.find? (.index i), some ⟨q, p⟩⟩) ∈ chunkViews d 0 chunks := mem_chunkViews.1 hp
    exact ⟨q, entry?_of_mem (List.pairwise_cons.1 hin.ascending).2 hq⟩
  · cases hentry : entry? _ i with
    | none => rfl
    | some chunk =>
      have hmem := mem_of_entry? hentry
      obtain ⟨⟨q, p⟩, hpayload⟩ := hin.payload hmem
      have hchunk : chunk = ⟨d.find? (.index i), some ⟨q, p⟩⟩ := by
        rw [← hpayload, ← hin.schema_eq hmem]
      exact absurd (mem_chunkViews.2 ⟨q, hchunk ▸ hmem⟩) (hnone p)

/-- A record that holds a chunk of a field, once it was converted and saved, is read without that chunk if the field
is internal or the value of the chunk is the same as the default, and else with a chunk for that value. -/
theorem exists_entry_of_saved {s : Schema} (hd : d.Apart) (hs : s.actual .record = .ok d) (hf : f ∈ d.fields)
    (hi : f.index? = some i) (hnosize : f.sizeOf? = none)
    (hnameless : f.name? = none → d.find? (.name (indexText i)) = none) {row : Option UInt32} {c c' : Cursor}
    {r : Record} (hr : parse d row c = .ok r c') {chunk : Chunk} (hmem : (i, chunk) ∈ r.entries)
    (hname : ∀ j c, (j, c) ∈ r.entries → f.name? = some (indexText j) → j = i)
    (hx : chunk.toValue charset = .ok x) {v : Value} (hv : r.toValue charset = .ok v) {bytes : List UInt8}
    (hsave : v.save charset s = .ok bytes) (hfit : Save.Fit charset (v.keptEntries d)) :
    ∃ r', (Chunk.ofBytes s bytes).record = .ok r' ∧ r'.schema = d ∧
      ((f.name?.any isInternal || isDefault (some f) x) = true → r'.entry? i = none) ∧
      ((f.name?.any isInternal || isDefault (some f) x) = false →
        ∃ q p, x.save charset f = .ok p ∧ r'.entry? i = some ⟨some f, some ⟨q, p⟩⟩) := by
  obtain ⟨rfl, _, hin⟩ := inOrder_of_parse hr
  rw [toValue_eq hr] at hv
  obtain ⟨fields, rfl, hshown⟩ := exists_shownAs hd.names_nodup hv
  rw [Value.save_of_record hs] at hsave
  obtain ⟨_, given, sizes, chunks, hobject, hwritten, hascending, rfl⟩ := Value.exists_writtenAs hd hsave
  obtain rfl := Option.some.inj hobject
  rw [Value.keptEntries_of_givenEntries rfl hwritten.key] at hfit
  obtain ⟨r', htakes, hschema, hentry⟩ :=
    exists_reread r.schema hascending ((hfit.sorted hwritten.size).length_lt hwritten.chunk)
  obtain ⟨hheld, hleft⟩ := hentry i
  have hsize := hwritten.index_ne_of_not_size hd hf hi hnosize
  -- whatever stands for the field has the value of its chunk
  have hvalue : ∀ k z, (k, z) ∈ fields → f.name?.any isInternal = false →
      r.schema.designated k = some (i, some f) → z = x := by
    intro k z hz hvisible hk
    have hchunk := hshown.value_of_designated hd hin hmem hvisible hname hk hz
    exact Except.ok.inj (hchunk.symm.trans hx)
  refine ⟨r', bind_eq_ok.2 ⟨r.schema, hs, Payload.decode_of_takes htakes⟩, hschema, fun hkept => ?_, fun hkept => ?_⟩
  · refine hleft fun p hp => ?_
    obtain ⟨k, z, hz, hk⟩ := hwritten.exists_kept hd hf hi hsize hp
    obtain ⟨_, hdesignated, hvisible, hnew, _⟩ := Schema.kept_eq_some.1 hk
    obtain rfl := hvalue k z hz hvisible hdesignated
    rw [show f.name?.any isInternal = false from hvisible, hnew] at hkept
    cases hkept
  · obtain ⟨hvisible, hnew⟩ := Bool.or_eq_false_iff.1 hkept
    have hdesignated := Schema.designated_keyAt hd hf hi hnameless
    obtain ⟨⟨k, z⟩, hz, hk⟩ := List.mem_map.1 (hshown.chunk _ (keyAt_mem_shownKeys hd hin hf hi hvisible hmem))
    obtain rfl : k = f.keyAt i := hk
    obtain rfl := hvalue _ z hz hvisible hdesignated
    have hinternal := Schema.isInternal_of_designated hvisible hdesignated
    obtain ⟨p, hp, hpayload⟩ := hwritten.exists_chunk_of_kept hz
      (Schema.kept_eq_some.2 ⟨hinternal, hdesignated, hvisible, hnew, rfl⟩)
    obtain ⟨q, hq⟩ := hheld p hp
    rw [Schema.find_index_of_nodup hd.indices_nodup hf hi] at hq
    exact ⟨q, p, hpayload, hq⟩

end Record

end ChunkTree
