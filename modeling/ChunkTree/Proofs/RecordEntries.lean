import ChunkTree.Proofs.Layout
import ChunkTree.Proofs.RecordSaved

/-!
# The chunks that a record is saved as

In a legible record the chunks to save have different indices, each with the schema that goes with its
index (`Save.entriesOf_spec`).  In a consistent one those that are not size fields are the ones that the keys of
the object give (`Save.filter_visible_entries`).
-/

namespace ChunkTree.Save

/-- Whether an entry is shown in the object of its record. -/
def Entry.visible (e : Entry) : Bool :=
  !(e.schema.bind Schema.name?).any isInternal

/-- Neighbours do not share an index just if the indices strictly increase. -/
theorem repeated?_eq_none {entries : List Entry} (h : entries.Pairwise (·.index ≤ ·.index)) :
    repeated? entries = none ↔ entries.Pairwise (·.index < ·.index) := by
  induction entries with
  | nil => simp [repeated?]
  | cons e entries ih =>
    obtain ⟨he, hentries⟩ := List.pairwise_cons.1 h
    cases entries with
    | nil => simp [repeated?]
    | cons f entries =>
      rw [repeated?]
      by_cases heq : e.index = f.index
      · rw [if_pos heq]
        refine ⟨nofun, fun hlt => ?_⟩
        have := (List.pairwise_cons.1 hlt).1 f List.mem_cons_self
        rw [heq] at this
        exact absurd this (UInt32.lt_irrefl _)
      · rw [if_neg heq, ih hentries]
        have hef : e.index < f.index := UInt32.lt_of_le_of_ne (he f List.mem_cons_self) heq
        refine ⟨fun hlt => List.pairwise_cons.2 ⟨fun g hg => ?_, hlt⟩, fun hlt =>
          (List.pairwise_cons.1 hlt).2⟩
        rcases List.mem_cons.1 hg with rfl | hg
        · exact hef
        · exact UInt32.lt_trans hef ((List.pairwise_cons.1 hlt).1 g hg)

/-- Sorted entries do not repeat an index just if all their indices are different. -/
theorem repeated?_sortBy_eq_none {entries : List Entry} :
    repeated? (sortBy Entry.index entries) = none ↔ (entries.map Entry.index).Nodup := by
  rw [repeated?_eq_none (sortBy_ascending _), sortBy_strictly_ascending]

variable {size : Value → Schema → Except Error Nat} {d : Schema} {v : Value} {fields : Fields}
  {given sizes entries : List Entry}

/-- An entry that a key gives. -/
theorem given_spec (hd : d.LegibleRecord) (h : givenEntries d fields = .ok given) {e : Entry}
    (he : e ∈ given) :
    e.index ≠ 0 ∧ e.schema = d.find? (.index e.index) ∧ e.visible = true ∧
      isDefault e.schema e.value = false := by
  obtain ⟨key, _, hkey⟩ := mem_givenEntries h he
  obtain ⟨hinternal, _, hdefault, hcase⟩ := keyEntry_cases hkey rfl
  rcases hcase with ⟨field, hfield, hindex, hschema⟩ | ⟨_, _, hzero, hschema, hvisible⟩
  · obtain ⟨hmem, hname⟩ := Schema.mem_of_find_name hfield
    obtain ⟨i, hi, hzero⟩ := hd.index field hmem
    obtain rfl := Option.some.inj (hindex.symm.trans hi)
    refine ⟨hzero, by rw [hschema, hd.find_index hmem hindex], ?_, hdefault⟩
    rw [Entry.visible, hschema, Option.bind_some, hname, Option.any_some, hinternal]
    rfl
  · refine ⟨hzero, hschema, ?_, hdefault⟩
    unfold Entry.visible
    cases hn : e.schema.bind Schema.name? with
    | none => rfl
    | some n =>
      rw [hn, Option.map_some, Option.getD_some] at hvisible
      rw [Option.any_some, hvisible]
      rfl

/-- An entry that a key gives has the schema of the field with its index, and that field is not internal. -/
theorem field_of_given (hd : d.Apart) (hgiven : givenEntries d fields = .ok given) {e : Entry} (he : e ∈ given)
    {f : Schema} (hf : f ∈ d.fields) (hi : f.index? = some e.index) :
    e.schema = some f ∧ f.name?.any isInternal = false := by
  obtain ⟨key, _, hkey⟩ := mem_givenEntries hgiven he
  obtain ⟨hinternal, _, _, hcase⟩ := keyEntry_cases hkey rfl
  rcases hcase with ⟨field, hfield, hindex, hschema⟩ | ⟨_, _, _, hschema, hvisible⟩
  · obtain ⟨hmem, hname⟩ := Schema.mem_of_find_name hfield
    obtain rfl := eq_of_nodup_filterMap hd.indices_nodup hmem hf hindex hi
    exact ⟨hschema, by rw [hname, Option.any_some, hinternal]⟩
  · rw [Schema.find_index_of_nodup hd.indices_nodup hf hi] at hschema
    rw [hschema, getD_map_isInternal] at hvisible
    exact ⟨hschema, hvisible⟩

theorem index_ne_zero_of_given (hd : d.Apart) (hgiven : givenEntries d fields = .ok given) {e : Entry}
    (he : e ∈ given) : e.index ≠ 0 := by
  obtain ⟨key, _, hkey⟩ := mem_givenEntries hgiven he
  obtain ⟨_, _, _, hcase⟩ := keyEntry_cases hkey rfl
  rcases hcase with ⟨field, hfield, hindex, _⟩ | ⟨_, _, hzero, _⟩
  · intro hzero
    exact hd.index_ne_zero field (Schema.mem_of_find_name hfield).1 (hzero ▸ hindex)
  · exact hzero

/-- An entry for the size of another is that of a size field. -/
theorem field_of_mem_sizes {fs : List Schema} (h : sizeEntries size given fs = .ok sizes) {e : Entry}
    (he : e ∈ sizes) :
    ∃ f ∈ fs, f.index? = some e.index ∧ e.schema = some f ∧ f.sizeOf?.isSome := by
  obtain ⟨f, hf, _, _, _, hsize, hindex, _, _, heq⟩ := mem_sizeEntries h he
  exact ⟨f, hf, hindex, by rw [heq], by rw [hsize]; rfl⟩

theorem sizes_spec (hd : d.LegibleRecord) (h : sizeEntries size given d.fields = .ok sizes) {e : Entry}
    (he : e ∈ sizes) : e.index ≠ 0 ∧ e.schema = d.find? (.index e.index) := by
  obtain ⟨f, hf, hindex, hschema, _⟩ := field_of_mem_sizes h he
  obtain ⟨i, hi, hzero⟩ := hd.index f hf
  obtain rfl := Option.some.inj (hindex.symm.trans hi)
  exact ⟨hzero, by rw [hschema, hd.find_index hf hindex]⟩

/-- In a consistent record sizes are not shown. -/
theorem visible_of_mem_sizes (hd : d.ConsistentRecord) (h : sizeEntries size given d.fields = .ok sizes)
    {e : Entry} (he : e ∈ sizes) : e.visible = false := by
  obtain ⟨f, hf, _, hschema, hsize⟩ := field_of_mem_sizes h he
  obtain ⟨_, n, _, hname, hinternal⟩ := hd.size_field f hf hsize
  rw [Entry.visible, hschema, Option.bind_some, hname, Option.any_some, hinternal]
  rfl

/-- The chunks of a record have different indices and the schemas that go with them. -/
theorem entriesOf_spec (hd : d.LegibleRecord) (h : entriesOf size d v = .ok entries) :
    entries.Pairwise (·.index < ·.index) ∧
      ∀ e ∈ entries, e.index ≠ 0 ∧ e.schema = d.find? (.index e.index) := by
  obtain ⟨fields, given, sizes, _, hgiven, hsizes, hnone, rfl⟩ := entriesOf_eq_ok.1 h
  refine ⟨(repeated?_eq_none (sortBy_ascending _)).1 hnone, fun e he => ?_⟩
  rcases List.mem_append.1 (mem_sortBy.1 he) with he | he
  · obtain ⟨hzero, hschema, _⟩ := given_spec hd hgiven he
    exact ⟨hzero, hschema⟩
  · exact sizes_spec hd hsizes he

/-- Without the size fields there remain the entries that the keys give. -/
theorem filter_visible_entries (hd : d.ConsistentRecord) (hgiven : givenEntries d fields = .ok given)
    (hsizes : sizeEntries size given d.fields = .ok sizes) :
    (sortBy Entry.index (given ++ sizes)).filter Entry.visible = sortBy Entry.index given := by
  have hkeep : given.filter Entry.visible = given :=
    List.filter_eq_self.2 fun e he => (given_spec hd hgiven he).2.2.1
  have hdrop : sizes.filter Entry.visible = [] :=
    List.filter_eq_nil_iff.2 fun e he => by simp [visible_of_mem_sizes hd hsizes he]
  rw [filter_sortBy, List.filter_append, hkeep, hdrop, List.append_nil]

/-- Entries of different indices that are visible are what a record shows. -/
theorem shown_of_given (hd : d.LegibleRecord) (hgiven : givenEntries d fields = .ok given)
    (hascending : (sortBy Entry.index given).Pairwise (·.index < ·.index)) :
    Shown d (sortBy Entry.index given) where
  ascending := hascending
  index_ne_zero e he := (given_spec hd hgiven (mem_sortBy.1 he)).1
  schema_eq e he := (given_spec hd hgiven (mem_sortBy.1 he)).2.1
  visible e he n hn := by
    have := (given_spec hd hgiven (mem_sortBy.1 he)).2.2.1
    rw [Entry.visible, hn, Option.any_some] at this
    simpa using this

end ChunkTree.Save
