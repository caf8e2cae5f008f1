import ChunkTree.Proofs.SaveNormal

/-!
# Decoded values can be saved

A value that decoding gives can be saved if its texts can be encoded, its payloads are short enough for a size
field, and no record in it shows a size field together with the field that the size is about (`Save.Clashes`):
such a size is rebuilt besides, so it would be written twice.  Nothing else can go wrong: the keys of its objects
are known, no two chunks of a record share their index (`Save.nodup_entries`), and its content is in range
(`Canonical.exists_save_of_not_clashes`).  In a consistent record no size field is shown (`Canonical.exists_save`).
-/

namespace ChunkTree

open Text (Charset)
open Save (Entry Gives Holds isDefault)

variable {charset : Charset}

namespace Save

variable {size : Value → Schema → Except Error Nat} {d : Schema} {given sizes : List Entry}

/-- The number for a size field is at most the size of the payload that it is about. -/
theorem Entry.exists_count {e : Entry} {n : Nat} (hsize : e.payloadSize size = .ok n)
    (hkind : ∀ u, e.schema = some u → ∃ kind target, u.resolve = .ok (kind, target)) :
    ∃ k ≤ n, e.count size = .ok k := by
  unfold Entry.count
  rw [hsize, ok_bind]
  cases hu : e.schema with
  | none => exact ⟨n, le_refl n, rfl⟩
  | some u =>
    obtain ⟨kind, target, hkind⟩ := hkind u hu
    simp only [hkind, ok_bind]
    cases kind.itemWidth with
    | none => exact ⟨n, le_refl n, rfl⟩
    | some width => exact ⟨n / width, Nat.div_le_self n width, rfl⟩

theorem exists_sizeEntries (h : ∀ e ∈ given, ∃ k, e.count size = .ok k) (fields : List Schema) :
    ∃ sizes, sizeEntries size given fields = .ok sizes := by
  induction fields with
  | nil => exact ⟨[], rfl⟩
  | cons field fields ih =>
    obtain ⟨rest, hrest⟩ := ih
    rw [sizeEntries]
    split
    · split
      · rename_i entry hentry
        obtain ⟨k, hk⟩ := h entry (List.mem_of_find?_eq_some hentry)
        exact ⟨_, bind_eq_ok.2 ⟨k, hk, bind_eq_ok.2 ⟨rest, hrest, rfl⟩⟩⟩
      · exact ⟨rest, hrest⟩
    · exact ⟨rest, hrest⟩

theorem sizeEntries_sublist {fields : List Schema} (h : sizeEntries size given fields = .ok sizes) :
    (sizes.map Entry.index).Sublist (fields.filterMap Schema.index?) := by
  induction fields generalizing sizes with
  | nil =>
    obtain rfl : [] = sizes := Except.ok.inj h
    exact .slnil
  | cons field fields ih =>
    have hskip := (List.sublist_cons_self field fields).filterMap Schema.index?
    rw [sizeEntries] at h
    split at h
    · rename_i hindex
      split at h
      · obtain ⟨count, _, h⟩ := bind_eq_ok.1 h
        obtain ⟨rest, hrest, h⟩ := bind_eq_ok.1 h
        obtain rfl := pure_eq_ok.1 h
        rw [List.map_cons, List.filterMap_cons_some hindex]
        exact (ih hrest).cons_cons _
      · exact (ih h).trans hskip
    · exact (ih h).trans hskip

/-- Whether the entries that a record gives hold a size field and the field that the size is about. -/
def Clash (entries : List Entry) : Prop :=
  ∃ e ∈ entries, ∃ f t, e.schema = some f ∧ f.sizeOf? = some t ∧
    ∃ e' ∈ entries, e'.schema.bind Schema.name? = some t

/-- Whether a record in a value clashes, at any depth. -/
def Clashes (v : Value) (s : Schema) : Prop :=
  ∃ x u, Covers v s x u ∧ ((∃ d, u.actual .record = .ok d ∧ Clash (x.keptEntries d)) ∨
    ∃ d, u.actual .table = .ok d ∧ ∃ r ∈ x.tableRows, Clash (r.2.keptEntries d))

theorem Clashes.within {v : Value} {s u : Schema} {e : Entry} (he : Gives v s e) (hu : e.schema = some u)
    (h : Clashes e.value u) : Clashes v s := by
  obtain ⟨x, t, hx, hclash⟩ := h
  exact ⟨x, t, .within he hu hx, hclash⟩

/-- The chunks of a record have different indices if those of its keys do and hold no size field that is rebuilt. -/
theorem nodup_entries {fields : Fields} (hd : d.Apart) (hgiven : givenEntries d fields = .ok given)
    (hsizes : sizeEntries size given d.fields = .ok sizes) (hnodup : (given.map Entry.index).Nodup)
    (hclash : ¬Clash given) : ((given ++ sizes).map Entry.index).Nodup := by
  rw [List.map_append, List.nodup_append]
  refine ⟨hnodup, hd.indices_nodup.sublist (sizeEntries_sublist hsizes), ?_⟩
  rintro i hi _ hi' rfl
  obtain ⟨e, he, rfl⟩ := List.mem_map.1 hi
  obtain ⟨e', he', hindex⟩ := List.mem_map.1 hi'
  -- entries of one index have one schema, which is that of a size field here
  obtain ⟨f, hf, t, described, _, ht, hfi, hfind, _⟩ := mem_sizeEntries hsizes he'
  obtain ⟨hschema, _⟩ := field_of_given hd hgiven he hf (hindex ▸ hfi)
  exact hclash ⟨e, he, f, t, hschema, ht, described, List.mem_of_find?_eq_some hfind,
    by simpa using List.find?_some hfind⟩

/-- A number below `2 ^ 31` can be saved as an integer. -/
theorem save_ofNat {u target : Schema} (hkind : u.resolve = .ok (.integer, target)) {k : Nat}
    (hk : k < 0x80000000) :
    (Value.ofNat k).save charset u = .ok (Varint.encodeSigned (Int32.ofInt k)) := by
  have hint : int32 u.label (.ofNat k) = .ok (Int32.ofInt k) := by
    refine int32_eq_ok.2 ⟨Int64.ofNat k, rfl, ?_⟩
    rw [Int64.toInt_ofNat_of_lt (by omega), Int32.toInt_ofInt_of_le (by omega) (by omega)]
  rw [Value.save_of_leaf hkind rfl]
  exact bind_eq_ok.2 ⟨_, hint, rfl⟩

end Save

/-- The number for a size field is small if the payload that it is about is short. -/
theorem Save.exists_count_of_payload {e : Entry} {payload : List UInt8}
    (hpayload : e.payload (Value.save charset) = .ok payload) (hlt : payload.length < 0x80000000) :
    ∃ k < 0x80000000, e.count (Value.savedSize charset) = .ok k := by
  obtain ⟨k, hle, hk⟩ := Entry.exists_count (Entry.payloadSize_of_payload hpayload) fun u hu => by
    rw [Entry.payload, hu] at hpayload
    obtain ⟨kind, target, hkind, _⟩ := Value.save_eq_ok.1 hpayload
    exact ⟨kind, target, hkind⟩
  exact ⟨k, hle.trans_lt hlt, hk⟩

/-- Sizes of entries that are short can be written. -/
theorem Save.exists_payload_of_mem_sizes {d : Schema} {given sizes : List Entry}
    (hd : ∀ f ∈ d.fields, f.sizeOf?.isSome → ∃ target, f.resolve = .ok (.integer, target))
    (hsizes : sizeEntries (Value.savedSize charset) given d.fields = .ok sizes)
    (hcount : ∀ e ∈ given, ∃ k < 0x80000000, e.count (Value.savedSize charset) = .ok k) {e : Entry}
    (he : e ∈ sizes) : ∃ payload, e.payload (Value.save charset) = .ok payload := by
  obtain ⟨field, hfield, _, described, count, ht, _, hfind, hdescribed, heq⟩ := mem_sizeEntries hsizes he
  obtain ⟨target, hkind⟩ := hd field hfield (by rw [ht]; rfl)
  obtain ⟨k, hlt, hk⟩ := hcount described (List.mem_of_find?_eq_some hfind)
  obtain rfl := Except.ok.inj (hdescribed.symm.trans hk)
  rw [heq]
  exact ⟨_, save_ofNat hkind hlt⟩

/-- A record can be saved if its keys give entries of different indices that are written as short payloads. -/
theorem Value.exists_saveRecord {d : Schema} {v : Value} {fields : Fields} {given : List Entry}
    (hd : d.Apart) (hsize : ∀ f ∈ d.fields, f.sizeOf?.isSome → ∃ target, f.resolve = .ok (.integer, target))
    (hv : v.asObject = some fields) (hgiven : Save.givenEntries d fields = .ok given)
    (hnodup : (given.map Entry.index).Nodup) (hclash : ¬Save.Clash given)
    (hpayload : ∀ e ∈ given, ∃ payload, e.payload (save charset) = .ok payload ∧
      payload.length < 0x80000000) :
    ∃ bytes, v.saveRecord charset d = .ok bytes := by
  have hcount : ∀ e ∈ given, ∃ k < 0x80000000, e.count (savedSize charset) = .ok k := by
    intro e he
    obtain ⟨payload, hp, hlt⟩ := hpayload e he
    exact Save.exists_count_of_payload hp hlt
  obtain ⟨sizes, hsizes⟩ := Save.exists_sizeEntries (fun e he => ⟨_, (hcount e he).choose_spec.2⟩) d.fields
  have hwrites : ∀ e ∈ Save.sortBy Entry.index (given ++ sizes),
      ∃ c, e.Writes (savedSize charset) (save charset) c := by
    intro e he
    have hwritten : ∃ payload, e.payload (save charset) = .ok payload := by
      rcases List.mem_append.1 (Save.mem_sortBy.1 he) with he | he
      · obtain ⟨payload, hp, _⟩ := hpayload e he
        exact ⟨payload, hp⟩
      · exact Save.exists_payload_of_mem_sizes hsize hsizes hcount he
    obtain ⟨payload, hp⟩ := hwritten
    exact ⟨(e.index, payload), rfl, Entry.payloadSize_of_payload hp, hp⟩
  obtain ⟨chunks, hchunks⟩ := exists_forall₂ hwrites
  rw [saveRecord_eq]
  refine ⟨_, Save.writeRecord_eq_ok.2 ⟨_, _, Save.entriesOf_eq_ok.2 ⟨fields, given, sizes, hv, hgiven,
    hsizes, ?_, rfl⟩, Save.writeEntries_eq_ok.2 ⟨chunks, hchunks, rfl⟩, rfl⟩⟩
  exact Save.repeated?_sortBy_eq_none.2 (Save.nodup_entries hd hgiven hsizes hnodup hclash)

theorem DecodedItems.exists_saveRecord {d : Schema} {items : List Entry} (hd : d.SizableRecord)
    (h : DecodedItems d items) (hclash : ¬Save.Clash ((Value.object (recordFields d items)).keptEntries d))
    (hpayload : ∀ e ∈ (Value.object (recordFields d items)).keptEntries d,
      ∃ payload, e.payload (Value.save charset) = .ok payload ∧ payload.length < 0x80000000) :
    ∃ bytes, (Value.object (recordFields d items)).saveRecord charset d = .ok bytes := by
  have hlegible := hd.toLegibleRecord
  rw [h.keptEntries_recordFields hlegible] at hpayload hclash
  refine Value.exists_saveRecord hlegible.apart hd.size_field rfl
    (Save.givenEntries_recordFields h.toShown hlegible) ?_ hclash hpayload
  exact List.pairwise_map.2 ((h.toShown.filter _).ascending.imp UInt32.ne_of_lt)

/-! ## Tables -/

section

variable {d : Schema} {rows : List (UInt32 × List Entry)}

/-- What a row gives is given by a row of the table. -/
theorem exists_tableRow (hd : d.LegibleRecord) (hitems : ∀ r ∈ rows, DecodedItems d r.2)
    (hascending : rows.Pairwise (·.1 ≤ ·.1)) {row : UInt32 × List Entry} (hrow : row ∈ rows) :
    ∃ r ∈ (Value.object (tableFields (rowObjects d rows))).tableRows,
      r.2.keptEntries d = (Value.object (recordFields d row.2)).keptEntries d := by
  obtain ⟨rows', _, hagain, hsort⟩ := tableRows_tableFields hd hitems hascending
  obtain ⟨r', hr', _, rest, hrest⟩ := exists_right_of_forall₂ hagain (List.mem_map_of_mem hrow)
  rw [← hsort, Save.mem_sortBy] at hr'
  refine ⟨r', hr', ?_⟩
  rw [hrest, keptEntries_withRest (isRow_recordFields (hitems row hrow).toShown hd)]

/-- The entries of a row are entries of the table. -/
theorem Save.Gives.of_row {s : Schema} (hd : s.actual .table = .ok d) (hlegible : d.LegibleRecord)
    (hitems : ∀ r ∈ rows, DecodedItems d r.2) (hascending : rows.Pairwise (·.1 ≤ ·.1))
    {row : UInt32 × List Entry} (hrow : row ∈ rows) {e : Entry}
    (he : e ∈ (Value.object (recordFields d row.2)).keptEntries d) :
    Gives (.object (tableFields (rowObjects d rows))) s e := by
  obtain ⟨r, hr, hkept⟩ := exists_tableRow hlegible hitems hascending hrow
  exact .inr ⟨d, hd, r, hr, hkept ▸ he⟩

/-- A table can be saved if its rows can. -/
theorem exists_saveTable (hd : d.LegibleRecord) (hitems : ∀ r ∈ rows, DecodedItems d r.2)
    (hascending : rows.Pairwise (·.1 ≤ ·.1))
    (hrecords : ∀ r ∈ rows, ∃ record,
      (Value.object (recordFields d r.2)).saveRecord charset d = .ok record) :
    ∃ bytes, (Value.object (tableFields (rowObjects d rows))).saveTable charset d = .ok bytes := by
  obtain ⟨rows', hrows', hagain, _⟩ := tableRows_tableFields hd hitems hascending
  have hwrites : ∃ records,
      Save.writeRows (Value.savedSize charset) (Value.save charset) d rows' = .ok records := by
    rw [Value.writeRows_of_again hagain (isRow_rowObjects hd hitems)]
    refine Save.exists_writeRows fun r hr => ?_
    obtain ⟨row, hrow, rfl⟩ := List.mem_map.1 hr
    rw [← Value.saveRecord_eq]
    exact hrecords row hrow
  obtain ⟨records, hrecords⟩ := hwrites
  rw [Value.saveTable_eq]
  exact ⟨_, Save.writeTable_eq_ok.2 ⟨rows', records, hrows', hrecords, rfl⟩⟩

end

/-! ## Short payloads -/

/-- Whether the payloads that a value is saved as, at any depth, are short enough for a size field. -/
def Save.Short (charset : Charset) (w : Value) (s : Schema) : Prop :=
  ∀ e, Holds w s e → ∀ n, e.payloadSize (Value.savedSize charset) = .ok n → n < 0x80000000

namespace Save.Short

variable {w : Value} {s : Schema} {e : Entry}

theorem within (h : Short charset w s) (he : Gives w s e) {u : Schema} (hu : e.schema = some u) :
    Short charset e.value u :=
  fun e' he' => h e' (.within he hu he')

theorem length_payload (h : Short charset w s) (he : Gives w s e) {payload : List UInt8}
    (hpayload : e.payload (Value.save charset) = .ok payload) : payload.length < 0x80000000 :=
  h e (.here he) _ (Entry.payloadSize_of_payload hpayload)

/-- An entry is written as a short payload if its value can be saved. -/
theorem exists_payload (h : Short charset w s) (he : Gives w s e)
    (hsave : ∀ u, e.schema = some u → ∃ bytes, e.value.save charset u = .ok bytes)
    (hunknown : e.schema = none → ∃ bytes, e.value = .ofBytes bytes) :
    ∃ payload, e.payload (Value.save charset) = .ok payload ∧ payload.length < 0x80000000 := by
  have hwritten : ∃ payload, e.payload (Value.save charset) = .ok payload := by
    unfold Entry.payload
    cases hu : e.schema with
    | some u => exact hsave u hu
    | none =>
      obtain ⟨bytes, hbytes⟩ := hunknown hu
      rw [hbytes]
      exact ⟨bytes, rawBytes_ofBytes _ bytes⟩
  obtain ⟨payload, hpayload⟩ := hwritten
  exact ⟨payload, hpayload, h.length_payload he hpayload⟩

end Save.Short

/-- A canonical value can be saved if its texts can be encoded, its payloads are short and no record in it shows a
size field that is rebuilt. -/
theorem Canonical.exists_save_of_not_clashes {T : String → Prop} {s : Schema} {w : Value} (hs : s.Sizable)
    (h : Canonical T s w) (hT : ∀ t, T t → ∃ b, StoredText.encode charset t = .ok b)
    (hshort : Save.Short charset w s) (hclash : ¬Save.Clashes w s) : ∃ bytes, w.save charset s = .ok bytes := by
  induction h with
  | @content s target c hkind hfits _ htexts =>
    obtain ⟨bytes, hbytes⟩ := Content.exists_bytes_iff.2 fun t ht => hT t (htexts t ht)
    refine ⟨bytes, Value.save_eq_ok.2 ⟨c.kind, target, hkind, .inr (.inr ⟨c.isComposite_kind, ?_⟩)⟩⟩
    exact (Save.contentBytes_eq_ok c.isComposite_kind).2 ⟨c, Content.ofValue_toValue hfits _, hbytes⟩
  | @record s d target items hkind hd hitems _ ih =>
    rw [Value.save_of_record hd]
    refine hitems.exists_saveRecord (hs.record hd) (fun h => hclash ⟨_, s, .self, .inl ⟨d, hd, h⟩⟩) fun e he => ?_
    have hmem := hitems.mem_of_mem_keptEntries (hs.record hd).toLegibleRecord he
    have hgives : Gives (.object (recordFields d items)) s e := .inl ⟨d, hd, he⟩
    refine hshort.exists_payload hgives (fun u hu => ?_) (hitems.opaque_bytes e hmem)
    exact ih e hmem u hu (hgives.sizable hs hu) (hshort.within hgives hu) fun h => hclash (.within hgives hu h)
  | @table s d target rows hkind hd hcount hascending hitems _ ih =>
    have hlegible := (hs.table hd).toLegibleRecord
    rw [Value.save_of_table hd]
    refine exists_saveTable hlegible hitems hascending fun row hrow => ?_
    refine (hitems row hrow).exists_saveRecord (hs.table hd) (fun h => ?_) fun e he => ?_
    · obtain ⟨r, hr, hkept⟩ := exists_tableRow hlegible hitems hascending hrow
      exact hclash ⟨_, s, .self, .inr ⟨d, hd, r, hr, hkept ▸ h⟩⟩
    have hmem := (hitems row hrow).mem_of_mem_keptEntries hlegible he
    have hgives := Gives.of_row hd hlegible hitems hascending hrow he
    refine hshort.exists_payload hgives (fun u hu => ?_) ((hitems row hrow).opaque_bytes e hmem)
    exact ih row hrow e hmem u hu (hgives.sizable hs hu) (hshort.within hgives hu) fun h =>
      hclash (.within hgives hu h)

/-- The size fields of a consistent record are internal, so they are not given. -/
theorem Schema.ConsistentRecord.not_clash {d : Schema} (hd : d.ConsistentRecord) (v : Value) :
    ¬Save.Clash (v.keptEntries d) := by
  rintro ⟨e, he, f, t, hf, ht, _⟩
  obtain ⟨_, n, _, hn, hinternal⟩ := hd.size_field f (Value.field_of_mem_keptEntries he hf).1 (by rw [ht]; rfl)
  obtain ⟨_, _, hkept⟩ := List.mem_filterMap.1 he
  obtain ⟨_, _, hvisible, _⟩ := Schema.kept_eq_some.1 hkept
  rw [hf, Option.bind_some, hn, Option.any_some, hinternal] at hvisible
  cases hvisible

theorem Schema.Consistent.not_clashes {s : Schema} (hs : s.Consistent) (v : Value) : ¬Save.Clashes v s := by
  rintro ⟨x, u, hx, hclash⟩
  induction hx with
  | self =>
    rcases hclash with ⟨d, hd, h⟩ | ⟨d, hd, r, _, h⟩
    · exact (hs.record hd).not_clash _ h
    · exact (hs.table hd).not_clash _ h
  | within he hu _ ih => exact ih (he.consistent hs hu) hclash

/-- A canonical value under a consistent schema can be saved if its texts can be encoded and its payloads are
short. -/
theorem Canonical.exists_save {T : String → Prop} {s : Schema} {w : Value} (hs : s.Consistent)
    (h : Canonical T s w) (hT : ∀ t, T t → ∃ b, StoredText.encode charset t = .ok b)
    (hshort : Save.Short charset w s) : ∃ bytes, w.save charset s = .ok bytes :=
  h.exists_save_of_not_clashes hs.sizable hT hshort (hs.not_clashes w)

end ChunkTree
