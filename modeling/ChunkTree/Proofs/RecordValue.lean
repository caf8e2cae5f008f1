import ChunkTree.Proofs.Consistent
import ChunkTree.Proofs.ViewNesting

/-!
# The object of a record

The object of a record lists the chunks that are shown, by name or by index, and then the defaults of the
fields that are missing (`recordFields`).  This is what the value of a record is (`Record.valueBy_eq_ok`),
and saving such an object gives back those chunks that differ from their default
(`Save.givenEntries_recordFields`).
-/

namespace ChunkTree

open Save (Entry isDefault)

/-- The key of an entry in the object of its record: the name of its field, else its index. -/
def Save.Entry.key (e : Entry) : String :=
  (e.schema.bind Schema.name?).getD (indexText e.index)

/-- The default of a field that is shown and has none of the given keys. -/
def Schema.missingDefault (keys : List String) (f : Schema) : Option (String × Value) :=
  match f.name?, f.default? with
  | some n, some v => if isInternal n ∨ n ∈ keys then none else some (n, v)
  | _, _ => none

/-- The object of a record with the given entries. -/
def recordFields (d : Schema) (items : List Entry) : Fields :=
  items.map (fun e => (e.key, e.value)) ++ d.fields.filterMap (Schema.missingDefault (items.map Entry.key))

/-- Entries of a record that are shown, in strictly increasing order. -/
structure Shown (d : Schema) (items : List Entry) : Prop where
  ascending : items.Pairwise (·.index < ·.index)
  index_ne_zero : ∀ e ∈ items, e.index ≠ 0
  schema_eq : ∀ e ∈ items, e.schema = d.find? (.index e.index)
  visible : ∀ e ∈ items, ∀ n, e.schema.bind Schema.name? = some n → isInternal n = false

namespace Shown

variable {d : Schema} {items : List Entry}

theorem filter (h : Shown d items) (p : Entry → Bool) : Shown d (items.filter p) where
  ascending := h.ascending.filter p
  index_ne_zero e he := h.index_ne_zero e (List.mem_of_mem_filter he)
  schema_eq e he := h.schema_eq e (List.mem_of_mem_filter he)
  visible e he := h.visible e (List.mem_of_mem_filter he)

theorem cons (h : Shown d items) {e : Entry} (hlt : ∀ e' ∈ items, e.index < e'.index) (hzero : e.index ≠ 0)
    (hschema : e.schema = d.find? (.index e.index))
    (hvisible : ∀ n, e.schema.bind Schema.name? = some n → isInternal n = false) : Shown d (e :: items) where
  ascending := List.pairwise_cons.2 ⟨hlt, h.ascending⟩
  index_ne_zero := List.forall_mem_cons.2 ⟨hzero, h.index_ne_zero⟩
  schema_eq := List.forall_mem_cons.2 ⟨hschema, h.schema_eq⟩
  visible := List.forall_mem_cons.2 ⟨hvisible, h.visible⟩

/-- Other values do not matter. -/
theorem map (h : Shown d items) {f : Entry → Entry}
    (hf : ∀ e, (f e).index = e.index ∧ (f e).schema = e.schema) :
    Shown d (items.map f) where
  ascending := List.pairwise_map.2 (h.ascending.imp fun hlt => by rwa [(hf _).1, (hf _).1])
  index_ne_zero e' he' := by
    obtain ⟨e, he, rfl⟩ := List.mem_map.1 he'
    rw [(hf e).1]
    exact h.index_ne_zero e he
  schema_eq e' he' := by
    obtain ⟨e, he, rfl⟩ := List.mem_map.1 he'
    rw [(hf e).1, (hf e).2]
    exact h.schema_eq e he
  visible e' he' := by
    obtain ⟨e, he, rfl⟩ := List.mem_map.1 he'
    rw [(hf e).2]
    exact h.visible e he

theorem mem_fields (h : Shown d items) {e : Entry} (he : e ∈ items) {u : Schema} (hu : e.schema = some u) :
    u ∈ d.fields :=
  (Schema.mem_of_find_index ((h.schema_eq e he).symm.trans hu)).1

/-- The entry of a field has the name of the field as its key, any other entry its index. -/
theorem key_cases (h : Shown d items) (hd : d.LegibleRecord) {e : Entry} (he : e ∈ items) :
    (∃ f n, e.schema = some f ∧ f ∈ d.fields ∧ f.index? = some e.index ∧ f.name? = some n ∧ e.key = n ∧
      isInternal n = false) ∨ (e.schema = none ∧ e.key = indexText e.index) := by
  have hschema := h.schema_eq e he
  cases hs : e.schema with
  | none => exact .inr ⟨rfl, by simp [Entry.key, hs]⟩
  | some f =>
    obtain ⟨hf, hindex⟩ := Schema.mem_of_find_index (hschema.symm.trans hs)
    obtain ⟨n, hn, _⟩ := hd.name f hf
    have hname : e.schema.bind Schema.name? = some n := by rw [hs, Option.bind_some, hn]
    exact .inl ⟨f, n, rfl, hf, hindex, hn, by rw [Entry.key, hname]; rfl, h.visible e he n hname⟩

theorem key_inj (h : Shown d items) (hd : d.LegibleRecord) {e e' : Entry} (he : e ∈ items)
    (he' : e' ∈ items) (hkey : e.key = e'.key) : e.index = e'.index := by
  rcases h.key_cases hd he with ⟨f, n, _, hf, hindex, hn, hk, _⟩ | ⟨hnone, hk⟩ <;>
    rcases h.key_cases hd he' with ⟨f', n', _, hf', hindex', hn', hk', _⟩ | ⟨hnone', hk'⟩
  · obtain rfl : n = n' := hk.symm.trans (hkey.trans hk')
    obtain rfl := hd.eq_of_name hf hf' hn hn'
    exact Option.some.inj (hindex.symm.trans hindex')
  · have hfind := hd.find_name hf (hn.trans (congrArg some (hk.symm.trans (hkey.trans hk'))))
    rw [hd.find_name_indexText] at hfind
    cases hfind
  · have hfind := hd.find_name hf' (hn'.trans (congrArg some (hk'.symm.trans (hkey.symm.trans hk))))
    rw [hd.find_name_indexText] at hfind
    cases hfind
  · exact Save.indexText_inj.1 (hk.symm.trans (hkey.trans hk'))

theorem keys_nodup (h : Shown d items) (hd : d.LegibleRecord) : (items.map Entry.key).Nodup := by
  refine List.pairwise_map.2 (h.ascending.imp_of_mem fun he he' hlt hkey => ?_)
  rw [h.key_inj hd he he' hkey] at hlt
  exact absurd hlt (UInt32.lt_irrefl _)

theorem key_ne_restKey (h : Shown d items) (hd : d.LegibleRecord) {e : Entry} (he : e ∈ items) :
    e.key ≠ restKey := by
  intro hkey
  have hinternal := Save.isInternal_restKey
  rcases h.key_cases hd he with ⟨_, n, _, _, _, _, hk, hn⟩ | ⟨_, hk⟩
  · rw [← hkey, hk, hn] at hinternal
    cases hinternal
  · rw [← hkey, hk, Save.isInternal_indexText] at hinternal
    cases hinternal

end Shown

/-! ## Missing defaults -/

section

variable {d : Schema} {keys : List String}

theorem missingDefault_eq_some {f : Schema} {n : String} {v : Value} :
    f.missingDefault keys = some (n, v) ↔
      f.name? = some n ∧ f.default? = some v ∧ isInternal n = false ∧ n ∉ keys := by
  unfold Schema.missingDefault
  split
  · rename_i n' v' hn hv
    rw [hn, hv]
    split
    · rename_i h
      constructor
      · simp
      · rintro ⟨⟨⟩, ⟨⟩, hi, hk⟩
        simp_all
    · rename_i h
      simp only [Option.some.injEq, Prod.mk.injEq]
      constructor
      · rintro ⟨rfl, rfl⟩
        simp_all
      · rintro ⟨rfl, rfl, _⟩
        exact ⟨rfl, rfl⟩
  · rename_i h
    constructor
    · simp
    · rintro ⟨hn, hv, _⟩
      exact absurd hv (h n v hn)

theorem missingDefault_congr {f : Schema} {keys' : List String}
    (h : ∀ n, f.name? = some n → (n ∈ keys ↔ n ∈ keys')) :
    f.missingDefault keys = f.missingDefault keys' := by
  refine Option.ext fun p => ?_
  rw [missingDefault_eq_some (n := p.1) (v := p.2), missingDefault_eq_some (n := p.1) (v := p.2)]
  exact and_congr_right fun hn => and_congr_right fun _ => and_congr_right fun _ => not_congr (h _ hn)

theorem mem_missing {n : String} {v : Value} (h : (n, v) ∈ d.fields.filterMap (Schema.missingDefault keys)) :
    ∃ f ∈ d.fields, f.name? = some n ∧ f.default? = some v ∧ isInternal n = false ∧ n ∉ keys := by
  obtain ⟨f, hf, h⟩ := List.mem_filterMap.1 h
  exact ⟨f, hf, missingDefault_eq_some.1 h⟩

theorem missing_nodup {fields : List Schema} (h : (fields.filterMap Schema.name?).Nodup) :
    ((fields.filterMap (Schema.missingDefault keys)).map Prod.fst).Nodup := by
  refine List.pairwise_map.2 (List.pairwise_filterMap.2
    ((List.pairwise_filterMap.1 h).imp fun hne b hb b' hb' => ?_))
  exact hne _ (missingDefault_eq_some.1 hb).1 _ (missingDefault_eq_some.1 hb').1

theorem keys_recordFields_nodup {items : List Entry} (h : Shown d items) (hd : d.LegibleRecord) :
    ((recordFields d items).map Prod.fst).Nodup := by
  rw [recordFields, List.map_append, List.map_map]
  refine List.nodup_append.2 ⟨h.keys_nodup hd, missing_nodup hd.apart.names_nodup, ?_⟩
  rintro k hk l hl rfl
  obtain ⟨⟨n, v⟩, hmem, rfl⟩ := List.mem_map.1 hl
  obtain ⟨_, _, _, _, _, hnew⟩ := mem_missing hmem
  exact hnew hk

/-- An entry that is shown is found under its key. -/
theorem lookup_recordFields {items : List Entry} (h : Shown d items) (hd : d.LegibleRecord) {e : Entry}
    (he : e ∈ items) : (recordFields d items).lookup e.key = some e.value :=
  Fields.lookup_of_mem (keys_recordFields_nodup h hd) (List.mem_append_left _ (List.mem_map.2 ⟨e, he, rfl⟩))

/-- The default of a field that is shown is found under its name if no entry has that key. -/
theorem lookup_recordFields_default {items : List Entry} (h : Shown d items) (hd : d.LegibleRecord) {f : Schema}
    (hf : f ∈ d.fields) {n : String} (hn : f.name? = some n) {v : Value} (hv : f.default? = some v)
    (hvisible : isInternal n = false) (hnew : n ∉ items.map Entry.key) :
    (recordFields d items).lookup n = some v := by
  refine Fields.lookup_of_mem (keys_recordFields_nodup h hd) (List.mem_append_right _ ?_)
  exact List.mem_filterMap.2 ⟨f, hf, missingDefault_eq_some.2 ⟨hn, hv, hvisible, hnew⟩⟩

theorem restKey_not_mem_recordFields {items : List Entry} (h : Shown d items) (hd : d.LegibleRecord) :
    restKey ∉ (recordFields d items).map Prod.fst := by
  rw [recordFields, List.map_append, List.map_map, List.mem_append, not_or]
  constructor
  · intro hk
    obtain ⟨e, he, hk⟩ := List.mem_map.1 hk
    exact h.key_ne_restKey hd he hk
  · intro hk
    obtain ⟨⟨n, v⟩, hmem, rfl⟩ := List.mem_map.1 hk
    obtain ⟨_, _, _, _, hn, _⟩ := mem_missing hmem
    rw [Save.isInternal_restKey] at hn
    cases hn

/-- Adding defaults appends those that are missing. -/
theorem defaultFields_eq {fields : List Schema} (h : (fields.filterMap Schema.name?).Nodup) (present : Fields) :
    defaultFields fields present = present ++ fields.filterMap
      (Schema.missingDefault (present.map Prod.fst)) := by
  induction fields generalizing present with
  | nil => simp [defaultFields]
  | cons f fields ih =>
    have hfields : (fields.filterMap Schema.name?).Nodup :=
      h.sublist ((List.sublist_cons_self f fields).filterMap Schema.name?)
    have hskip (hnone : f.missingDefault (present.map Prod.fst) = none) :
        defaultFields fields present =
          present ++ (f :: fields).filterMap (Schema.missingDefault (present.map Prod.fst)) := by
      rw [List.filterMap_cons_none hnone]
      exact ih hfields present
    rw [defaultFields]
    split
    · rename_i n v hn hv
      have hlookup : (present.lookup n).isSome ↔ n ∈ present.map Prod.fst := by
        rw [Option.isSome_iff_ne_none, ne_eq, Fields.lookup_eq_none, not_not]
      split
      · rename_i hkept
        refine hskip ?_
        rw [Schema.missingDefault, hn, hv]
        exact if_pos (hkept.imp_right hlookup.1)
      · rename_i hnew
        rw [not_or, hlookup] at hnew
        have hmissing : f.missingDefault (present.map Prod.fst) = some (n, v) :=
          missingDefault_eq_some.2 ⟨hn, hv, by simpa using hnew.1, hnew.2⟩
        -- the fields that follow have other names, so they do not notice the new key
        have hrest : fields.filterMap (Schema.missingDefault ((present ++ [(n, v)]).map Prod.fst)) =
            fields.filterMap (Schema.missingDefault (present.map Prod.fst)) := by
          refine List.filterMap_congr fun g hg => missingDefault_congr fun n' hn' => ?_
          have hne : n' ≠ n := by
            rintro rfl
            rw [List.filterMap_cons_some hn] at h
            exact (List.nodup_cons.1 h).1 (List.mem_filterMap.2 ⟨g, hg, hn'⟩)
          simp [hne]
        rw [Fields.insert_new hnew.2, ih hfields, hrest, List.filterMap_cons_some hmissing, List.append_assoc]
        rfl
    · rename_i hnone
      refine hskip ?_
      unfold Schema.missingDefault
      split
      · rename_i n v hn hv
        exact absurd hv (hnone n v hn)
      · rfl

end

/-! ## The value of a record -/

/-- The entry that a chunk of a record is shown as. -/
def Save.Entry.Shows (toValue : Chunk → Except Error Value) (entry : UInt32 × Chunk) (item : Entry) : Prop :=
  item.index = entry.1 ∧ item.schema = entry.2.schema ∧ toValue entry.2 = .ok item.value

/-- The chunks of a record that are shown. -/
def visibleEntries (entries : List (UInt32 × Chunk)) : List (UInt32 × Chunk) :=
  entries.filter fun entry => (entryKey? entry.1 entry.2).isSome

variable {toValue : Chunk → Except Error Value}

theorem entryKey?_of_shows {entry : UInt32 × Chunk} {item : Entry} (h : item.Shows toValue entry)
    {key : String} (hkey : entryKey? entry.1 entry.2 = some key) : item.key = key := by
  obtain ⟨hindex, hschema, _⟩ := h
  unfold entryKey? at hkey
  rw [Entry.key, hindex, hschema]
  split at hkey
  · rename_i n hn
    split at hkey
    · cases hkey
    · rw [show entry.2.schema.bind Schema.name? = some n from hn]
      exact Option.some.inj hkey
  · rename_i hn
    rw [show entry.2.schema.bind Schema.name? = none from hn]
    exact Option.some.inj hkey

/-- No chunk is shown under an internal key. -/
theorem isInternal_entryKey? {index : UInt32} {chunk : Chunk} {key : String}
    (h : entryKey? index chunk = some key) : isInternal key = false := by
  unfold entryKey? at h
  split at h
  · split at h
    · cases h
    · rename_i hname
      obtain rfl := Option.some.inj h
      exact Bool.eq_false_iff.2 hname
  · obtain rfl := Option.some.inj h
    exact Save.isInternal_indexText index

/-- The field of a chunk that is shown has a name that is shown. -/
theorem isInternal_of_entryKey? {index : UInt32} {chunk : Chunk} {key n : String}
    (hkey : entryKey? index chunk = some key) (hn : chunk.schema.bind Schema.name? = some n) :
    isInternal n = false := by
  unfold entryKey? at hkey
  rw [show chunk.name? = some n from hn] at hkey
  by_cases hinternal : isInternal n
  · simp [hinternal] at hkey
  · simpa using hinternal

theorem presentFields_eq_ok {entries : List (UInt32 × Chunk)} {fields fields' : Fields} :
    presentFields toValue entries fields = .ok fields' ↔
      ∃ items, List.Forall₂ (Entry.Shows toValue) (visibleEntries entries) items ∧
        items.foldl (fun fields e => fields.insert e.key e.value) fields = fields' := by
  induction entries generalizing fields with
  | nil =>
    constructor
    · intro h
      exact ⟨[], .nil, Except.ok.inj h⟩
    · rintro ⟨_, _ | _, h⟩
      exact congrArg _ h
  | cons entry entries ih =>
    obtain ⟨index, chunk⟩ := entry
    rw [presentFields, visibleEntries, List.filter_cons]
    cases hkey : entryKey? index chunk with
    | none =>
      simp only [Option.isSome_none, Bool.false_eq_true, if_false]
      exact ih
    | some key =>
      simp only [Option.isSome_some, if_true, bind_eq_ok]
      constructor
      · rintro ⟨value, hvalue, h⟩
        obtain ⟨items, hitems, h⟩ := ih.1 h
        have hshows : Entry.Shows toValue (index, chunk) ⟨index, value, chunk.schema⟩ := ⟨rfl, rfl, hvalue⟩
        refine ⟨⟨index, value, chunk.schema⟩ :: items, .cons hshows hitems, ?_⟩
        rw [List.foldl_cons, entryKey?_of_shows hshows hkey]
        exact h
      · rintro ⟨_, _ | ⟨hshows, hitems⟩, h⟩
        refine ⟨_, hshows.2.2, ih.2 ⟨_, hitems, ?_⟩⟩
        rwa [List.foldl_cons, entryKey?_of_shows hshows hkey] at h

theorem shown_of_inOrder {d : Schema} {bound : Nat} {previous : UInt32} {entries : List (UInt32 × Chunk)}
    (h : Record.InOrder d bound previous entries) {items : List Entry}
    (hitems : List.Forall₂ (Entry.Shows toValue) (visibleEntries entries) items) :
    Shown d items ∧ ∀ e ∈ items, previous < e.index := by
  induction h generalizing items with
  | nil =>
    cases hitems
    exact ⟨⟨.nil, by simp, by simp, by simp⟩, by simp⟩
  | @cons previous index payload entries hindex _ _ ih =>
    rw [visibleEntries, List.filter_cons] at hitems
    cases hkey : entryKey? index ⟨d.find? (.index index), some payload⟩ with
    | none =>
      simp only [hkey, Option.isSome_none, Bool.false_eq_true, if_false] at hitems
      obtain ⟨hshown, habove⟩ := ih hitems
      exact ⟨hshown, fun e he => UInt32.lt_trans hindex (habove e he)⟩
    | some key =>
      simp only [hkey, Option.isSome_some, if_true] at hitems
      obtain _ | @⟨_, item, _, rest, hshows, hrest⟩ := hitems
      obtain ⟨hshown, habove⟩ := ih hrest
      obtain ⟨hitem, hschema, _⟩ := hshows
      simp only at hitem hschema
      have hzero : index ≠ 0 := by
        rintro rfl
        exact UInt32.not_lt_zero hindex
      refine ⟨hshown.cons (by rwa [hitem]) (by rwa [hitem]) (by rw [hschema, hitem]) fun n hn => ?_, ?_⟩
      · rw [hschema] at hn
        exact isInternal_of_entryKey? hkey hn
      · rw [List.forall_mem_cons, hitem]
        exact ⟨hindex, fun e he => UInt32.lt_trans hindex (habove e he)⟩

/-- The value of a record lists its chunks that are shown and the missing defaults. -/
theorem Record.valueBy_eq_ok {r : Record} {bound : Nat} {w : Value} (hd : r.schema.LegibleRecord)
    (h : Record.InOrder r.schema bound 0 r.entries) :
    r.valueBy toValue = .ok w ↔ ∃ items,
      List.Forall₂ (Entry.Shows toValue) (visibleEntries r.entries) items ∧
        Shown r.schema items ∧ w = .object (recordFields r.schema items) := by
  rw [Record.valueBy, bind_eq_ok]
  have hobject : ∀ {items}, Shown r.schema items →
      defaultFields r.schema.fields (items.foldl (fun fields e => fields.insert e.key e.value) []) =
        recordFields r.schema items := by
    intro items hshown
    have hkeys : ((items.map fun e => (e.key, e.value)).map Prod.fst).Nodup := by
      rw [List.map_map]
      exact hshown.keys_nodup hd
    have hfold := Fields.ofList_of_nodup hkeys
    rw [Fields.ofList, List.foldl_map] at hfold
    rw [hfold, defaultFields_eq hd.apart.names_nodup, List.map_map]
    rfl
  constructor
  · rintro ⟨fields, hfields, h'⟩
    obtain ⟨items, hitems, rfl⟩ := presentFields_eq_ok.1 hfields
    have hshown := (shown_of_inOrder h hitems).1
    refine ⟨items, hitems, hshown, ?_⟩
    rw [← pure_eq_ok.1 h', hobject hshown]
  · rintro ⟨items, hitems, hshown, rfl⟩
    refine ⟨_, presentFields_eq_ok.2 ⟨items, hitems, rfl⟩, pure_eq_ok.2 ?_⟩
    rw [hobject hshown]

end ChunkTree
