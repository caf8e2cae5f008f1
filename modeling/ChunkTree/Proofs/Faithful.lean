import ChunkTree.Proofs.RecordRead

/-!
# Saving is faithful

Decoding what a value was saved as gives the normal form of that value (`Value.toValue_of_save`).  The
texts that have to survive being encoded are those that are written (`Save.Encodes`).
-/

namespace ChunkTree

open Text (Charset)
open Save (Entry isDefault)

namespace Save

/-- An entry that a value is saved as in its record, or in a row of its table. -/
def Gives (v : Value) (s : Schema) (e : Entry) : Prop :=
  (∃ d, s.actual .record = .ok d ∧ e ∈ v.keptEntries d) ∨
    ∃ d, s.actual .table = .ok d ∧ ∃ r ∈ v.tableRows, e ∈ r.2.keptEntries d

/-- An entry that a value is saved as at any depth. -/
inductive Holds : Value → Schema → Entry → Prop where
  | here {v : Value} {s : Schema} {e : Entry} (h : Gives v s e) : Holds v s e
  | within {v : Value} {s u : Schema} {e e' : Entry} (h : Gives v s e) (hu : e.schema = some u)
      (h' : Holds e.value u e') : Holds v s e'

/-- A value and the schema that it is saved under, in a value or at any depth of it. -/
inductive Covers : Value → Schema → Value → Schema → Prop where
  | self {v : Value} {s : Schema} : Covers v s v s
  | within {v x : Value} {s u t : Schema} {e : Entry} (h : Gives v s e) (hu : e.schema = some u)
      (h' : Covers e.value u x t) : Covers v s x t

/-- A text in the content that a value is taken as. -/
def ContentEncodes (v : Value) (s : Schema) (t : String) : Prop :=
  ∃ kind target c, s.resolve = .ok (kind, target) ∧ Content.ofValue kind s.label v = .ok c ∧ t ∈ c.texts

/-- A text that is written when a value is saved. -/
def Encodes (v : Value) (s : Schema) (t : String) : Prop :=
  ContentEncodes v s t ∨ ∃ e u, Holds v s e ∧ e.schema = some u ∧ ContentEncodes e.value u t

theorem Encodes.within {v : Value} {s u : Schema} {e : Entry} {t : String} (h : Gives v s e)
    (hu : e.schema = some u) (ht : Encodes e.value u t) : Encodes v s t := by
  rcases ht with ht | ⟨e', u', he', hu', ht⟩
  · exact .inr ⟨e, u, .here h, hu, ht⟩
  · exact .inr ⟨e', u', .within h hu he', hu', ht⟩

/-- An entry is nested less deep than the value, and a consistent schema makes its schema consistent. -/
theorem Gives.depth_lt {v : Value} {s : Schema} {e : Entry} (h : Gives v s e) : e.value.depth < v.depth := by
  rcases h with ⟨d, _, he⟩ | ⟨d, _, r, hr, he⟩
  · exact Value.depth_of_mem_keptEntries he
  · exact (Value.depth_of_mem_keptEntries he).trans (Value.depth_of_mem_tableRows hr)

/-- A value that is no object is saved as no entries. -/
theorem not_gives {v : Value} {s : Schema} {e : Entry} (hv : v.asObject = none) : ¬Gives v s e := by
  rintro (⟨d, _, he⟩ | ⟨d, _, r, hr, _⟩)
  · simp [Value.keptEntries, hv] at he
  · simp [Value.tableRows, hv] at hr

theorem Covers.eq_of_not_object {v x : Value} {s u : Schema} (h : Covers v s x u) (hv : v.asObject = none) :
    x = v ∧ u = s := by
  cases h with
  | self => exact ⟨rfl, rfl⟩
  | within he => exact absurd he (not_gives hv)

theorem mem_fields_of_mem_keptEntries {d u : Schema} {v : Value} {e : Entry} (h : e ∈ v.keptEntries d)
    (hu : e.schema = some u) : u ∈ d.fields :=
  (Value.field_of_mem_keptEntries h hu).1

/-- What is kept is no default. -/
theorem isDefault_of_mem_keptEntries {d : Schema} {v : Value} {e : Entry} (h : e ∈ v.keptEntries d) :
    isDefault e.schema e.value = false := by
  obtain ⟨f, _, he⟩ := List.mem_filterMap.1 h
  rw [Value.value_of_kept he]
  exact (Schema.kept_eq_some.1 he).2.2.2.1

theorem Gives.isDefault {v : Value} {s : Schema} {e : Entry} (h : Gives v s e) :
    isDefault e.schema e.value = false := by
  rcases h with ⟨d, _, he⟩ | ⟨d, _, r, _, he⟩
  · exact isDefault_of_mem_keptEntries he
  · exact isDefault_of_mem_keptEntries he

/-- The schema of an entry is a field of a record that the schema of the value leads to. -/
theorem Gives.mem_fields {v : Value} {s u : Schema} {e : Entry} (h : Gives v s e) (hu : e.schema = some u) :
    ∃ d, s.Reaches d ∧ u ∈ d.fields := by
  rcases h with ⟨d, hd, he⟩ | ⟨d, hd, r, _, he⟩
  · exact ⟨d, .record hd, mem_fields_of_mem_keptEntries he hu⟩
  · exact ⟨d, .table hd, mem_fields_of_mem_keptEntries he hu⟩

theorem Gives.legible {v : Value} {s u : Schema} {e : Entry} (h : Gives v s e) (hs : s.Legible)
    (hu : e.schema = some u) : u.Legible := by
  obtain ⟨d, hd, hfield⟩ := h.mem_fields hu
  exact hs.field hd hfield

theorem Gives.sizable {v : Value} {s u : Schema} {e : Entry} (h : Gives v s e) (hs : s.Sizable)
    (hu : e.schema = some u) : u.Sizable := by
  obtain ⟨d, hd, hfield⟩ := h.mem_fields hu
  exact hs.field hd hfield

theorem Gives.consistent {v : Value} {s u : Schema} {e : Entry} (h : Gives v s e) (hs : s.Consistent)
    (hu : e.schema = some u) : u.Consistent := by
  obtain ⟨d, hd, hfield⟩ := h.mem_fields hu
  exact hs.field hd hfield

end Save

variable {charset : Charset}

/-! ## Payloads are shorter than what holds them -/

/-- Every entry that is kept is saved. -/
theorem Save.mem_entriesOf_of_kept {size : Value → Schema → Except Error Nat} {v : Value} {d : Schema}
    {entries : List Entry} (h : entriesOf size d v = .ok entries) {e : Entry} (he : e ∈ v.keptEntries d) :
    e ∈ entries := by
  obtain ⟨fields, given, sizes, hv, hgiven, _, _, rfl⟩ := entriesOf_eq_ok.1 h
  rw [Value.keptEntries_of_givenEntries hv hgiven] at he
  exact mem_sortBy.2 (List.mem_append_left _ he)

theorem Save.length_le_of_mem_chunks {chunks : List (UInt32 × List UInt8)} {c : UInt32 × List UInt8}
    (hc : c ∈ chunks) : c.2.length ≤ (chunks.flatMap chunkBytes).length := by
  have : (chunkBytes c).length ≤ (chunks.flatMap chunkBytes).length :=
    (List.sublist_flatten_of_mem (List.mem_map_of_mem hc)).length_le
  simp only [chunkBytes, List.length_append] at this ⊢
  omega

/-- Every entry that is kept has been written, and is no longer than the record. -/
theorem Value.payload_of_mem_keptEntries {v : Value} {d : Schema} {bytes : List UInt8}
    (h : v.saveRecord charset d = .ok bytes) {e : Entry} (he : e ∈ v.keptEntries d) :
    ∃ payload, e.payload (save charset) = .ok payload ∧ payload.length ≤ bytes.length := by
  rw [saveRecord_eq] at h
  obtain ⟨entries, _, hentries, hwrite, rfl⟩ := Save.writeRecord_eq_ok.1 h
  obtain ⟨chunks, hchunks, rfl⟩ := Save.writeEntries_eq_ok.1 hwrite
  obtain ⟨c, hc, hwrites⟩ := exists_right_of_forall₂ hchunks (Save.mem_entriesOf_of_kept hentries he)
  refine ⟨c.2, hwrites.payload, (Save.length_le_of_mem_chunks hc).trans ?_⟩
  rw [List.length_append]
  exact Nat.le_add_right _ _

/-- Every row has been written, and is no longer than all rows together. -/
theorem Value.saveRecord_of_writeRows {d : Schema} {rows : List (UInt32 × Value)} {records : List UInt8}
    (h : Save.writeRows (savedSize charset) (save charset) d rows = .ok records) {r : UInt32 × Value}
    (hr : r ∈ rows) : ∃ record, r.2.saveRecord charset d = .ok record ∧ record.length ≤ records.length := by
  induction rows generalizing records with
  | nil => cases hr
  | cons s rows ih =>
    obtain ⟨record, rest, hrecord, hrest, rfl⟩ := Save.writeRows_cons_eq_ok.1 h
    simp only [List.length_append]
    rcases List.mem_cons.1 hr with rfl | hr
    · exact ⟨record, by rw [saveRecord_eq, hrecord], by omega⟩
    · obtain ⟨record', hrecord', hle⟩ := ih hrest hr
      exact ⟨record', hrecord', by omega⟩

theorem Value.saveRecord_of_mem_tableRows {v : Value} {d : Schema} {bytes : List UInt8}
    (h : v.saveTable charset d = .ok bytes) {r : UInt32 × Value} (hr : r ∈ v.tableRows) :
    ∃ record, r.2.saveRecord charset d = .ok record ∧ record.length ≤ bytes.length := by
  rw [saveTable_eq] at h
  obtain ⟨rows, records, hrows, hrecords, rfl⟩ := Save.writeTable_eq_ok.1 h
  rw [← Save.mem_sortBy (k := Prod.fst), sortBy_tableRows hrows] at hr
  obtain ⟨record, hrecord, hle⟩ := saveRecord_of_writeRows hrecords hr
  refine ⟨record, hrecord, ?_⟩
  rw [List.length_append]
  omega

theorem Value.length_tableRows_le {v : Value} {d : Schema} {bytes : List UInt8}
    (h : v.saveTable charset d = .ok bytes) : v.tableRows.length ≤ bytes.length := by
  rw [saveTable_eq] at h
  obtain ⟨rows, records, hrows, hrecords, rfl⟩ := Save.writeTable_eq_ok.1 h
  have := length_le_of_writeRows hrecords
  rw [← Save.length_sortBy (k := Prod.fst), sortBy_tableRows hrows, List.length_append]
  omega

theorem Value.save_of_record {s d : Schema} (hd : s.actual .record = .ok d) (v : Value) :
    v.save charset s = v.saveRecord charset d := by
  obtain ⟨target, hkind⟩ := Schema.resolve_of_actual hd
  rw [save_eq, saveRecord_eq, Save.writeBy, hkind]
  simp only [ok_bind, hd]

theorem Value.save_of_table {s d : Schema} (hd : s.actual .table = .ok d) (v : Value) :
    v.save charset s = v.saveTable charset d := by
  obtain ⟨target, hkind⟩ := Schema.resolve_of_actual hd
  rw [save_eq, saveTable_eq, Save.writeBy, hkind]
  simp only [ok_bind, hd]

/-- An entry that a value is saved as has been written, and is no longer than the value. -/
theorem Save.Gives.payload {v : Value} {s : Schema} {bytes : List UInt8}
    (h : v.save charset s = .ok bytes) {e : Entry}
    (he : Gives v s e) : ∃ payload, e.payload (Value.save charset) = .ok payload ∧
      payload.length ≤ bytes.length := by
  rcases he with ⟨d, hd, he⟩ | ⟨d, hd, r, hr, he⟩
  · rw [Value.save_of_record hd] at h
    exact Value.payload_of_mem_keptEntries h he
  · rw [Value.save_of_table hd] at h
    obtain ⟨record, hrecord, hle⟩ := Value.saveRecord_of_mem_tableRows h hr
    obtain ⟨payload, hpayload, hle'⟩ := Value.payload_of_mem_keptEntries hrecord he
    exact ⟨payload, hpayload, hle'.trans hle⟩

theorem Save.Gives.exists_save {v : Value} {s u : Schema} {bytes : List UInt8} (h : v.save charset s = .ok bytes)
    {e : Entry} (he : Gives v s e) (hu : e.schema = some u) : ∃ payload, e.value.save charset u = .ok payload := by
  obtain ⟨payload, hpayload, _⟩ := he.payload h
  rw [Entry.payload, hu] at hpayload
  exact ⟨payload, hpayload⟩

theorem Save.Gives.length_payload_le {v : Value} {s : Schema} {bytes : List UInt8}
    (h : v.save charset s = .ok bytes) {e : Entry} (he : Gives v s e) {payload : List UInt8}
    (hpayload : e.payload (Value.save charset) = .ok payload) : payload.length ≤ bytes.length := by
  obtain ⟨payload', hpayload', hle⟩ := he.payload h
  obtain rfl := Except.ok.inj (hpayload.symm.trans hpayload')
  exact hle

/-- So has every entry that it holds at any depth. -/
theorem Save.Holds.payload {v : Value} {s : Schema} {e : Entry} (he : Holds v s e) {bytes : List UInt8}
    (h : v.save charset s = .ok bytes) :
    ∃ payload, e.payload (Value.save charset) = .ok payload ∧ payload.length ≤ bytes.length := by
  induction he generalizing bytes with
  | here he => exact he.payload h
  | within he hu _ ih =>
    obtain ⟨first, hfirst, hle⟩ := he.payload h
    rw [Entry.payload, hu] at hfirst
    obtain ⟨payload, hpayload, hle'⟩ := ih hfirst
    exact ⟨payload, hpayload, hle'.trans hle⟩

/-! ## Reading back -/

/-- A chunk without a schema is read as its normal form. -/
theorem Chunk.toValue_opaque (payload : Payload) :
    toValue charset ⟨none, some payload⟩ = .ok (.ofBytes payload.bytes) := by
  rw [toValue_eq]
  rfl

/-- An entry is read back if what it is saved as under its schema is. -/
theorem Save.Entry.readsBack_of {e : Entry}
    (hlen : ∀ payload, e.payload (Value.save charset) = .ok payload → payload.length < 0x100000000)
    (h : ∀ u bytes, e.schema = some u → e.value.save charset u = .ok bytes → bytes.length < 0x100000000 →
      ∀ pos, Chunk.toValue charset ⟨some u, some ⟨pos, bytes⟩⟩ = .ok (e.value.normal u)) :
    e.ReadsBack charset := by
  intro payload hpayload
  have hlt := hlen payload hpayload
  refine ⟨hlt, fun pos => ?_⟩
  unfold Entry.payload at hpayload
  unfold Value.normalEntry
  cases hu : e.schema with
  | some u =>
    simp only [hu] at hpayload
    exact h u payload hu hpayload hlt pos
  | none =>
    simp only [hu] at hpayload
    rw [Chunk.toValue_opaque]
    exact congrArg _ (Value.normalItems_of_rawBytes hpayload).symm

theorem Chunk.toValue_record {s d : Schema} {pos : Nat} {bytes : List UInt8} {target : Schema} {r : Record}
    (hkind : s.resolve = .ok (.record, target)) (hd : s.actual .record = .ok d)
    (h : (Record.parse d none).Takes pos bytes r) :
    toValue charset ⟨some s, some ⟨pos, bytes⟩⟩ = r.valueBy (toValue charset) := by
  have hrecord : (Chunk.mk (some s) (some ⟨pos, bytes⟩)).record = .ok r :=
    bind_eq_ok.2 ⟨d, hd, Payload.decode_of_takes h⟩
  have hkind' : (Chunk.mk (some s) (some ⟨pos, bytes⟩)).kind = .ok .record := kind_eq_ok.2 ⟨target, hkind⟩
  rw [toValue_eq, valueBy, hkind']
  simp only [ok_bind, hrecord]
  rfl

theorem Chunk.toValue_table {s d : Schema} {pos : Nat} {bytes : List UInt8} {target : Schema} {t : Table}
    (hkind : s.resolve = .ok (.table, target)) (hd : s.actual .table = .ok d)
    (h : (Table.parse d).Takes pos bytes t) :
    toValue charset ⟨some s, some ⟨pos, bytes⟩⟩ = t.valueBy (toValue charset) := by
  have htable : (Chunk.mk (some s) (some ⟨pos, bytes⟩)).table = .ok t :=
    bind_eq_ok.2 ⟨d, hd, Payload.decode_of_takes h⟩
  have hkind' : (Chunk.mk (some s) (some ⟨pos, bytes⟩)).kind = .ok .table := kind_eq_ok.2 ⟨target, hkind⟩
  rw [toValue_eq, valueBy, hkind']
  simp only [ok_bind, htable]
  rfl

namespace Value

open Save

/-- Decoding what a value was saved as gives its normal form. -/
theorem toValue_of_save {v : Value} {s : Schema} {bytes : List UInt8} (hs : s.Consistent)
    (htexts : ∀ t, Encodes v s t → StoredText.Survives charset t) (h : v.save charset s = .ok bytes)
    (hlen : bytes.length < 0x100000000) (pos : Nat) :
    Chunk.toValue charset ⟨some s, some ⟨pos, bytes⟩⟩ = .ok (v.normal s) := by
  induction hn : v.depth using Nat.strong_induction_on generalizing v s bytes pos with
  | _ n ih =>
    subst hn
    -- what is nested in the value is read back, as it is nested less deep
    have hentry : ∀ e, Gives v s e → e.ReadsBack charset := by
      intro e he
      refine Entry.readsBack_of (fun payload hp => ?_) fun u _ hu hsave hlt pos => ?_
      · exact (he.length_payload_le h hp).trans_lt hlen
      have htexts' := fun t ht => htexts t (.within he hu ht)
      exact ih e.value.depth he.depth_lt (he.consistent hs hu) htexts' hsave hlt pos rfl
    obtain ⟨kind, target, hkind, h⟩ := save_eq_ok.1 h
    rcases h with ⟨rfl, d, hd, h⟩ | ⟨rfl, d, hd, h⟩ | ⟨hleaf, h⟩
    · obtain ⟨r, hr, _, hvalue⟩ :=
        Record.readsBack (hs.record hd) h (fun e he => hentry e (.inl ⟨d, hd, he⟩)) none pos
      rw [Chunk.toValue_record hkind hd hr, hvalue, normal_of_record hkind hd]
    · obtain ⟨t, ht, hvalue⟩ := Table.readsBack (hs.table hd) h ((length_tableRows_le h).trans_lt hlen)
        (fun r hr e he => hentry e (.inr ⟨d, hd, r, hr, he⟩)) pos
      rw [Chunk.toValue_table hkind hd ht, hvalue, normal_of_table hkind hd]
    · obtain ⟨c, hc, hbytes⟩ := (contentBytes_eq_ok hleaf).1 h
      obtain rfl := Content.kind_of_ofValue hc
      have hkind' : (Chunk.mk (some s) (some ⟨pos, bytes⟩)).kind = .ok c.kind :=
        Chunk.kind_eq_ok.2 ⟨target, hkind⟩
      have hread := Content.read_of_bytes (Content.fits_of_ofValue hc)
        (fun t ht => htexts t (.inl ⟨c.kind, target, c, hkind, hc, ht⟩)) hbytes hlen hkind'
      rw [Chunk.toValue_eq, Chunk.valueBy_eq_ok_of_leaf hkind' hleaf, normal_of_leaf hkind hleaf,
        normalContent_of_ofValue hc]
      exact ⟨c, hread, rfl⟩

end Value

/-- Every entry that a value is saved as is read back. -/
theorem Save.Gives.readsBack {v : Value} {s : Schema} (hs : s.Consistent)
    (htexts : ∀ t, Encodes v s t → StoredText.Survives charset t) {e : Entry} (he : Gives v s e)
    (hlen : ∀ payload, e.payload (Value.save charset) = .ok payload → payload.length < 0x100000000) :
    e.ReadsBack charset :=
  Entry.readsBack_of hlen fun _ _ hu hsave hlt pos =>
    Value.toValue_of_save (he.consistent hs hu) (fun t ht => htexts t (.within he hu ht)) hsave hlt pos

end ChunkTree
