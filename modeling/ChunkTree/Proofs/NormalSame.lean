import ChunkTree.Proofs.Canonical

/-!
# Canonical values are in normal form

The normal form of a canonical value is the same as the value (`Canonical.same_normal`): what is left out as
a default comes back as the default, and all else keeps its key.  For objects of records and tables this is
`same_recordFields` and `same_tableFields`.
-/

namespace ChunkTree

open Save (Entry isDefault)

/-! ## Records -/

section

variable {d : Schema} {items items' : List Entry}

theorem mem_keys_recordFields {k : String} : k ∈ (recordFields d items).map Prod.fst ↔
    k ∈ items.map Entry.key ∨ ∃ f ∈ d.fields, ∃ v, f.name? = some k ∧ f.default? = some v ∧
      isInternal k = false := by
  rw [recordFields, List.map_append, List.map_map, List.mem_append]
  constructor
  · rintro (hk | hk)
    · exact .inl hk
    · obtain ⟨⟨n, v⟩, hmem, rfl⟩ := List.mem_map.1 hk
      obtain ⟨f, hf, hn, hv, hvisible, _⟩ := mem_missing hmem
      exact .inr ⟨f, hf, v, hn, hv, hvisible⟩
  · rintro (hk | ⟨f, hf, v, hn, hv, hvisible⟩)
    · exact .inl hk
    · by_cases hk : k ∈ items.map Entry.key
      · exact .inl hk
      · refine .inr (List.mem_map.2 ⟨(k, v), List.mem_filterMap.2 ⟨f, hf, ?_⟩, rfl⟩)
        exact missingDefault_eq_some.2 ⟨hn, hv, hvisible, hk⟩

/-- A default belongs to a field that is shown. -/
theorem Shown.field_of_isDefault (h : Shown d items) (hd : d.LegibleRecord) {e : Entry} (he : e ∈ items)
    (hdefault : isDefault e.schema e.value = true) :
    ∃ f ∈ d.fields, ∃ v, f.name? = some e.key ∧ f.default? = some v ∧ isInternal e.key = false ∧
      v.same e.value := by
  rw [Save.isDefault_eq] at hdefault
  rcases h.key_cases hd he with ⟨f, n, hs, hf, _, hn, hk, hvisible⟩ | ⟨hs, _⟩
  · rw [hs, Option.bind_some] at hdefault
    obtain ⟨v, hv, hsame⟩ := (Option.any_eq_true _ _).1 hdefault
    exact ⟨f, hf, v, by rw [hn, hk], hv, by rw [hk, hvisible], hsame⟩
  · rw [hs] at hdefault
    cases hdefault

/-- Entries that are defaults may be left out: their keys come back with the defaults. -/
theorem keys_recordFields_iff (hd : d.LegibleRecord) (h : Shown d items)
    (hsub : ∀ e' ∈ items', e'.key ∈ (recordFields d items).map Prod.fst)
    (hrest : ∀ e ∈ items, e.key ∈ items'.map Entry.key ∨ isDefault e.schema e.value = true) (k : String) :
    k ∈ (recordFields d items').map Prod.fst ↔ k ∈ (recordFields d items).map Prod.fst := by
  rw [mem_keys_recordFields]
  constructor
  · rintro (hk | hk)
    · obtain ⟨e', he', rfl⟩ := List.mem_map.1 hk
      exact hsub e' he'
    · exact mem_keys_recordFields.2 (.inr hk)
  · intro hk
    rcases mem_keys_recordFields.1 hk with hk | hk
    · obtain ⟨e, he, rfl⟩ := List.mem_map.1 hk
      rcases hrest e he with hk | hdefault
      · exact .inl hk
      · obtain ⟨f, hf, v, hn, hv, hvisible, _⟩ := h.field_of_isDefault hd he hdefault
        exact .inr ⟨f, hf, v, hn, hv, hvisible⟩
    · exact .inr hk

/-- Objects of a record are the same if the entries of one are found, the same, in the other, and the entries of
the other that it lacks are defaults. -/
theorem same_recordFields (hd : d.LegibleRecord) (h' : Shown d items') (h : Shown d items)
    (hsub : ∀ e' ∈ items', ∃ w, (recordFields d items).lookup e'.key = some w ∧ e'.value.same w)
    (hrest : ∀ e ∈ items, e.key ∈ items'.map Entry.key ∨ isDefault e.schema e.value = true) :
    (Value.object (recordFields d items')).same (.object (recordFields d items)) := by
  have hnodup := keys_recordFields_nodup h hd
  have hkept : ∀ e' ∈ items', e'.key ∈ (recordFields d items).map Prod.fst := by
    intro e' he'
    obtain ⟨w, hw, _⟩ := hsub e' he'
    exact List.mem_map_of_mem (Value.mem_of_lookup hw)
  have hkeys := keys_recordFields_iff hd h hkept hrest
  have hlength : (recordFields d items').length = (recordFields d items).length := by
    have := ((List.perm_ext_iff_of_nodup (keys_recordFields_nodup h' hd) hnodup).2 hkeys).length_eq
    rwa [List.length_map, List.length_map] at this
  refine Value.same_object.2 ⟨hlength, fun k v hkv => ?_⟩
  rcases List.mem_append.1 hkv with hmem | hmem
  · obtain ⟨e', he', heq⟩ := List.mem_map.1 hmem
    obtain ⟨rfl, rfl⟩ := Prod.mk.inj heq
    exact hsub e' he'
  · obtain ⟨f, hf, hn, hv, hvisible, hnew⟩ := mem_missing hmem
    by_cases hk : k ∈ items.map Entry.key
    -- the other object has the default written out
    · obtain ⟨e, he, rfl⟩ := List.mem_map.1 hk
      obtain ⟨g, hg, u, hgn, hu, _, hsame⟩ := h.field_of_isDefault hd he ((hrest e he).resolve_left hnew)
      obtain rfl := hd.eq_of_name hg hf hgn hn
      obtain rfl := Option.some.inj (hu.symm.trans hv)
      exact ⟨e.value, lookup_recordFields h hd he, hsame⟩
    · obtain ⟨_, _, _, hfits⟩ := hd.default_fits f hf v hv
      exact ⟨v, lookup_recordFields_default h hd hf hn hv hvisible hk, Value.same_self_of_fits hfits⟩

end

/-! ## Tables -/

theorem same_withRest {first first' : Value} {rest rest' : List Value} (h : IsRow first) (h' : IsRow first')
    (hfirst : first'.same first) (hrest : List.Forall₂ (fun x y : Value => x.same y) rest' rest) :
    (withRest first' rest').same (withRest first rest) := by
  obtain ⟨fs, rfl, hnew⟩ := h
  obtain ⟨fs', rfl, hnew'⟩ := h'
  cases hrest with
  | nil => exact hfirst
  | cons hxy hrest =>
    obtain ⟨hlength, hfields⟩ := Value.same_object.1 hfirst
    rw [withRest_object fs (List.cons_ne_nil _ _), withRest_object fs' (List.cons_ne_nil _ _)]
    refine Value.same_object.2 ⟨by simp [hlength], fun k v hkv => ?_⟩
    rcases List.mem_append.1 hkv with hkv | hkv
    · obtain ⟨w, hw, hsame⟩ := hfields k v hkv
      exact ⟨w, by rw [List.lookup_append, hw, Option.some_or], hsame⟩
    · obtain ⟨rfl, rfl⟩ := Prod.mk.inj (List.mem_singleton.1 hkv)
      exact ⟨_, Fields.lookup_append_new hnew, Value.same_array (.cons hxy hrest)⟩

/-- Rows with the same index that are the same. -/
def SameRow (r' r : UInt32 × Value) : Prop :=
  r'.1 = r.1 ∧ r'.2.same r.2 ∧ IsRow r'.2 ∧ IsRow r.2

theorem collectRows_same {i : UInt32} {first first' : Value} {rest rest' : List Value}
    {rows rows' : List (UInt32 × Value)} (h : IsRow first) (h' : IsRow first') (hfirst : first'.same first)
    (hrest : List.Forall₂ (fun x y : Value => x.same y) rest' rest)
    (hrows : List.Forall₂ SameRow rows' rows) :
    List.Forall₂ (fun f g : String × Value => f.1 = g.1 ∧ f.2.same g.2) (collectRows i first' rest' rows')
      (collectRows i first rest rows) := by
  induction hrows generalizing i first first' rest rest' with
  | nil => exact .cons ⟨rfl, same_withRest h h' hfirst hrest⟩ .nil
  | @cons r' r rows' rows hr _ ih =>
    obtain ⟨j', row'⟩ := r'
    obtain ⟨j, row⟩ := r
    obtain ⟨hindex, hsame, hisRow', hisRow⟩ := hr
    obtain rfl : j' = j := hindex
    rw [collectRows, collectRows]
    split
    · exact ih h h' hfirst (List.rel_append hrest (.cons hsame .nil))
    · exact .cons ⟨rfl, same_withRest h h' hfirst hrest⟩ (ih hisRow hisRow' hsame .nil)

/-- Objects of a table are the same if their rows are. -/
theorem same_tableFields {rows rows' : List (UInt32 × Value)} (hascending : rows.Pairwise (·.1 ≤ ·.1))
    (h : List.Forall₂ SameRow rows' rows) :
    (Value.object (tableFields rows')).same (.object (tableFields rows)) := by
  refine Value.same_object_of_forall₂ (tableFields_nodup hascending) ?_
  cases h with
  | nil => exact .nil
  | @cons r' r rows' rows hr hrows =>
    obtain ⟨i', row'⟩ := r'
    obtain ⟨i, row⟩ := r
    obtain ⟨hindex, hsame, hisRow', hisRow⟩ := hr
    obtain rfl : i' = i := hindex
    exact collectRows_same hisRow hisRow' hsame .nil hrows

/-! ## Canonical values -/

theorem Value.same_ofBytes (bytes : List UInt8) : (ofBytes bytes).same (ofBytes bytes) := by
  refine same_array_self fun x hx => ?_
  obtain ⟨b, _, rfl⟩ := List.mem_map.1 hx
  exact beq_self_eq_true (Int64.ofNat b.toNat)

/-- An array of bytes is in normal form. -/
theorem Value.normalItems_ofBytes (bytes : List UInt8) :
    normalItems normalInt (ofBytes bytes) = ofBytes bytes := by
  show array ((bytes.map fun b => ofNat b.toNat).map normalInt) = _
  rw [List.map_map]
  rfl

namespace DecodedItems

variable {d : Schema} {items : List Entry}

/-- Every entry is the same as itself if those of fields are. -/
theorem value_same_self (h : DecodedItems d items)
    (hvalues : ∀ e ∈ items, ∀ u, e.schema = some u → e.value.same e.value) :
    ∀ e ∈ items, e.value.same e.value := by
  intro e he
  cases hu : e.schema with
  | some u => exact hvalues e he u hu
  | none =>
    obtain ⟨bytes, hbytes⟩ := h.opaque_bytes e he hu
    rw [hbytes]
    exact Value.same_ofBytes bytes

theorem same_self (hd : d.LegibleRecord) (h : DecodedItems d items)
    (hvalues : ∀ e ∈ items, ∀ u, e.schema = some u → e.value.same e.value) :
    (Value.object (recordFields d items)).same (.object (recordFields d items)) := by
  have hself := h.value_same_self hvalues
  exact same_recordFields hd h.toShown h.toShown
    (fun e he => ⟨e.value, lookup_recordFields h.toShown hd he, hself e he⟩)
    fun e he => .inl (List.mem_map_of_mem he)

/-- The normal form of a record that was decoded leaves out the defaults that the file holds. -/
theorem normalRecord_eq (hd : d.ConsistentRecord) (h : DecodedItems d items)
    (normal : Value → Schema → Value) :
    Value.normalRecord normal d (.object (recordFields d items)) =
      .object (recordFields d
        ((items.filter fun e => !isDefault e.schema e.value).map (Value.normalEntry normal))) := by
  have hascending := (h.toShown.filter fun e => !isDefault e.schema e.value).ascending
  rw [Value.normalRecord, h.keptEntries_recordFields hd, Save.sortBy_of_ascending]
  exact List.pairwise_map.2 (hascending.imp fun hlt => UInt32.le_of_lt hlt)

theorem same_normalRecord (hd : d.ConsistentRecord) (h : DecodedItems d items)
    (hvalues : ∀ e ∈ items, ∀ u, e.schema = some u → (e.value.normal u).same e.value) :
    (Value.normalRecord Value.normal d (.object (recordFields d items))).same
      (.object (recordFields d items)) := by
  have hkey : ∀ e, (Value.normalEntry Value.normal e).key = e.key := fun _ => rfl
  rw [h.normalRecord_eq hd]
  refine same_recordFields hd ((h.toShown.filter _).map fun _ => ⟨rfl, rfl⟩) h.toShown (fun e' he' => ?_)
    fun e he => ?_
  · obtain ⟨e, he, rfl⟩ := List.mem_map.1 he'
    have he := List.mem_of_mem_filter he
    refine ⟨e.value, lookup_recordFields h.toShown hd he, ?_⟩
    unfold Value.normalEntry
    cases hu : e.schema with
    | some u => exact hvalues e he u hu
    | none =>
      obtain ⟨bytes, hbytes⟩ := h.opaque_bytes e he hu
      simp only [hbytes, Value.normalItems_ofBytes]
      exact Value.same_ofBytes bytes
  · by_cases hdefault : isDefault e.schema e.value = true
    · exact .inr hdefault
    · refine .inl (List.mem_map.2 ⟨Value.normalEntry Value.normal e, List.mem_map_of_mem ?_, hkey e⟩)
      exact List.mem_filter.2 ⟨he, by simpa using hdefault⟩

end DecodedItems

theorem normalRecord_withRest {d : Schema} {row : Value} (h : IsRow row) (rest : List Value)
    (normal : Value → Schema → Value) :
    Value.normalRecord normal d (withRest row rest) = Value.normalRecord normal d row := by
  rw [Value.normalRecord, keptEntries_withRest h, Value.normalRecord]

/-- The normal form of a table that was decoded has the normal forms of its rows. -/
theorem normalTable_eq {d : Schema} (hd : d.ConsistentRecord) {rows : List (UInt32 × List Entry)}
    (hitems : ∀ r ∈ rows, DecodedItems d r.2) (hascending : rows.Pairwise (·.1 ≤ ·.1))
    (normal : Value → Schema → Value) :
    Value.normalTable normal d (.object (tableFields (rowObjects d rows))) =
      .object (tableFields ((rowObjects d rows).map fun r => (r.1, Value.normalRecord normal d r.2))) := by
  obtain ⟨rows', _, hagain, hsort⟩ := tableRows_tableFields hd hitems hascending
  have hrows : ∀ {xs ys : List (UInt32 × Value)}, List.Forall₂ RowAgain xs ys → (∀ r ∈ xs, IsRow r.2) →
      ys.map (fun r => (r.1, Value.normalRecord normal d r.2)) =
        xs.map fun r => (r.1, Value.normalRecord normal d r.2) := by
    intro xs ys h hisRow
    induction h with
    | nil => rfl
    | @cons r r' xs ys hr _ ih =>
      obtain ⟨hindex, rest, hrow⟩ := hr
      rw [List.map_cons, List.map_cons, ih fun s hs => hisRow s (List.mem_cons_of_mem r hs), hindex, hrow,
        normalRecord_withRest (hisRow r List.mem_cons_self)]
  have hsortMap := Save.sortBy_map (f := fun r : UInt32 × Value => (r.1, Value.normalRecord normal d r.2))
    (k := Prod.fst) (l := Prod.fst) (fun _ => rfl) (Value.object (tableFields (rowObjects d rows))).tableRows
  rw [Value.normalTable, hsortMap, hsort, hrows hagain (isRow_rowObjects hd hitems)]

namespace Canonical

variable {T : String → Prop} {s : Schema} {w : Value}

theorem same_self (hs : s.Legible) (h : Canonical T s w) : w.same w := by
  induction h with
  | content _ _ _ _ => exact Content.same_toValue _
  | record hkind hd hitems _ ih =>
    exact hitems.same_self (hs.record hd) fun e he u hu =>
      ih e he u hu (hs.field (.record hd) (hitems.mem_fields he hu))
  | table hkind hd hcount hascending hitems _ ih =>
    refine same_tableFields (List.pairwise_map.2 hascending) (List.forall₂_same.2 fun r hr => ?_)
    have hisRow := isRow_rowObjects (hs.table hd) hitems r hr
    refine ⟨rfl, ?_, hisRow, hisRow⟩
    obtain ⟨row, hrow, rfl⟩ := List.mem_map.1 hr
    exact (hitems row hrow).same_self (hs.table hd) fun e he u hu =>
      ih row hrow e he u hu (hs.field (.table hd) ((hitems row hrow).mem_fields he hu))

/-- The normal form of a canonical value is the same as the value. -/
theorem same_normal (hs : s.Consistent) (h : Canonical T s w) : (w.normal s).same w := by
  induction h with
  | @content s target c hkind hfits _ _ =>
    rw [Value.normal_of_leaf hkind c.isComposite_kind,
      Value.normalContent_of_ofValue (Content.ofValue_toValue hfits s.label)]
    exact Content.same_toValue c
  | record hkind hd hitems _ ih =>
    rw [Value.normal_of_record hkind hd]
    exact hitems.same_normalRecord (hs.record hd) fun e he u hu =>
      ih e he u hu (hs.field (.record hd) (hitems.mem_fields he hu))
  | table hkind hd hcount hascending hitems _ ih =>
    rw [Value.normal_of_table hkind hd, normalTable_eq (hs.table hd) hitems hascending]
    refine same_tableFields (List.pairwise_map.2 hascending) ?_
    rw [List.forall₂_map_left_iff, List.forall₂_same]
    intro r hr
    have hisRow := isRow_rowObjects (hs.table hd) hitems r hr
    obtain ⟨row, hrow, rfl⟩ := List.mem_map.1 hr
    refine ⟨rfl, ?_, ?_, hisRow⟩
    · exact (hitems row hrow).same_normalRecord (hs.table hd) fun e he u hu =>
        ih row hrow e he u hu (hs.field (.table hd) ((hitems row hrow).mem_fields he hu))
    · show IsRow (Value.normalRecord Value.normal _ (.object (recordFields _ row.2)))
      rw [(hitems row hrow).normalRecord_eq (hs.table hd)]
      exact isRow_recordFields (((hitems row hrow).toShown.filter _).map fun _ => ⟨rfl, rfl⟩) (hs.table hd)

end Canonical

end ChunkTree
