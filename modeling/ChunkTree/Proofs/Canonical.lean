import ChunkTree.Proofs.Faithful

/-!
# Canonical values

`Canonical T s w` describes the values that decoding gives under a schema: content as it is shown, objects
of records and tables, and arrays of bytes for chunks that the schema does not know.  `T` holds of every
text that was stored.  Every decoded value is canonical (`Canonical.of_toValue`), and so is what such a
value is saved as, chunk by chunk (`Canonical.gives`).
-/

namespace ChunkTree

open Text (Charset)
open Save (Entry isDefault)

/-- Entries of a record that was decoded: those that the schema does not know are bytes. -/
structure DecodedItems (d : Schema) (items : List Entry) : Prop extends Shown d items where
  opaque_bytes : ∀ e ∈ items, e.schema = none → ∃ bytes, e.value = .ofBytes bytes

/-- The rows of a table with the given entries, as objects. -/
def rowObjects (d : Schema) (rows : List (UInt32 × List Entry)) : List (UInt32 × Value) :=
  rows.map fun r => (r.1, .object (recordFields d r.2))

/-- A value that decoding gives under a schema; `T` holds of the texts in it that were stored. -/
inductive Canonical (T : String → Prop) : Schema → Value → Prop where
  | content {s target : Schema} {c : Content} (hkind : s.resolve = .ok (c.kind, target)) (hfits : c.Fits)
      (hcount : c.Counted) (htexts : ∀ t ∈ c.texts, T t) : Canonical T s c.toValue
  | record {s d target : Schema} {items : List Entry} (hkind : s.resolve = .ok (.record, target))
      (hd : s.actual .record = .ok d) (hitems : DecodedItems d items)
      (hvalues : ∀ e ∈ items, ∀ u, e.schema = some u → Canonical T u e.value) :
      Canonical T s (.object (recordFields d items))
  | table {s d target : Schema} {rows : List (UInt32 × List Entry)} (hkind : s.resolve = .ok (.table, target))
      (hd : s.actual .table = .ok d) (hcount : rows.length < 0x100000000)
      (hascending : rows.Pairwise (·.1 ≤ ·.1))
      (hitems : ∀ r ∈ rows, DecodedItems d r.2)
      (hvalues : ∀ r ∈ rows, ∀ e ∈ r.2, ∀ u, e.schema = some u → Canonical T u e.value) :
      Canonical T s (.object (tableFields (rowObjects d rows)))

/-- A text that is decoded when a chunk is turned into a value. -/
inductive Chunk.Decodes (charset : Charset) : Chunk → String → Prop where
  | string {c : Chunk} {t : String} (h : c.string charset = .ok t) : Decodes charset c t
  | script {c : Chunk} {commands : List Command} {command : Command} (h : c.script charset = .ok commands)
      (hc : command ∈ commands) : Decodes charset c command.text
  | record {c : Chunk} {r : Record} {entry : UInt32 × Chunk} {t : String} (h : c.record = .ok r)
      (he : entry ∈ visibleEntries r.entries) (ht : Decodes charset entry.2 t) : Decodes charset c t
  | table {c : Chunk} {t : Table} {row : Record} {entry : UInt32 × Chunk} {text : String}
      (h : c.table = .ok t)
      (hr : row ∈ t.rows) (he : entry ∈ visibleEntries row.entries) (ht : Decodes charset entry.2 text) :
      Decodes charset c text

theorem Canonical.mono {T T' : String → Prop} {s : Schema} {w : Value} (h : Canonical T s w)
    (hT : ∀ t, T t → T' t) :
    Canonical T' s w := by
  induction h with
  | content hkind hfits hcount htexts => exact .content hkind hfits hcount fun t ht => hT t (htexts t ht)
  | record hkind hd hitems _ ih => exact .record hkind hd hitems ih
  | table hkind hd hcount hascending hitems _ ih => exact .table hkind hd hcount hascending hitems ih

variable {charset : Charset}

/-! ## Decoded values -/

/-- The ways in which a chunk has a value. -/
theorem Chunk.valueBy_eq_ok {s : Schema} {p : Option Payload} {f : Chunk → Except Error Value} {w : Value} :
    (Chunk.mk (some s) p).valueBy charset f = .ok w ↔ ∃ kind target, s.resolve = .ok (kind, target) ∧
      ((kind = .record ∧ ∃ r, (Chunk.mk (some s) p).record = .ok r ∧ r.valueBy f = .ok w) ∨
        (kind = .table ∧ ∃ t, (Chunk.mk (some s) p).table = .ok t ∧ t.valueBy f = .ok w) ∨
        (kind.isComposite = false ∧
          ∃ c, Content.read charset kind (Chunk.mk (some s) p) = .ok c ∧ c.toValue = w)) := by
  constructor
  · intro h
    have h' := h
    unfold valueBy at h'
    obtain ⟨kind, hkind, h'⟩ := bind_eq_ok.1 h'
    obtain ⟨target, hresolve⟩ := kind_eq_ok.1 hkind
    refine ⟨kind, target, hresolve, ?_⟩
    cases kind with
    | record => exact .inl ⟨rfl, bind_eq_ok.1 h'⟩
    | table => exact .inr (.inl ⟨rfl, bind_eq_ok.1 h'⟩)
    | _ => exact .inr (.inr ⟨rfl, (valueBy_eq_ok_of_leaf hkind rfl).1 h⟩)
  · rintro ⟨kind, target, hresolve, h⟩
    have hkind : (Chunk.mk (some s) p).kind = .ok kind := kind_eq_ok.2 ⟨target, hresolve⟩
    rcases h with ⟨rfl, h⟩ | ⟨rfl, h⟩ | ⟨hleaf, h⟩
    · exact bind_eq_ok.2 ⟨_, hkind, bind_eq_ok.2 h⟩
    · exact bind_eq_ok.2 ⟨_, hkind, bind_eq_ok.2 h⟩
    · exact (valueBy_eq_ok_of_leaf hkind hleaf).2 h

/-- The texts in the content of a chunk are decoded. -/
theorem Chunk.decodes_of_read {c : Chunk} {kind : Kind} {content : Content}
    (h : Content.read charset kind c = .ok content) {t : String} (ht : t ∈ content.texts) :
    c.Decodes charset t := by
  cases kind with
  | record | table => cases h
  | string =>
    obtain ⟨t', ht', h⟩ := bind_eq_ok.1 h
    rw [← pure_eq_ok.1 h] at ht
    rw [List.mem_singleton.1 ht]
    exact .string ht'
  | script =>
    obtain ⟨commands, hcommands, h⟩ := bind_eq_ok.1 h
    rw [← pure_eq_ok.1 h] at ht
    obtain ⟨command, hc, rfl⟩ := List.mem_map.1 ht
    exact .script hcommands hc
  | _ =>
    obtain ⟨x, _, h⟩ := bind_eq_ok.1 h
    rw [← pure_eq_ok.1 h] at ht
    cases ht

/-- What is known of the entries of a record whose chunks are decoded. -/
theorem decodedItems_of_shows {d : Schema} {bound : Nat} {entries : List (UInt32 × Chunk)}
    (hin : Record.InOrder d bound 0 entries) {items : List Entry}
    (hitems : List.Forall₂ (Entry.Shows (Chunk.toValue charset)) (visibleEntries entries) items) :
    DecodedItems d items ∧ ∀ e ∈ items, ∀ u, e.schema = some u → ∃ entry ∈ visibleEntries entries, ∃ p,
      entry.2 = ⟨some u, some p⟩ ∧ entry.2.length < bound ∧ entry.2.toValue charset = .ok e.value := by
  have hfind : ∀ e ∈ items, ∃ entry ∈ visibleEntries entries, e.Shows (Chunk.toValue charset) entry :=
    fun e he => exists_left_of_forall₂ hitems he
  refine ⟨⟨(shown_of_inOrder hin hitems).1, fun e he hnone => ?_⟩, fun e he u hu => ?_⟩
  · obtain ⟨entry, hentry, _, hschema, hvalue⟩ := hfind e he
    obtain ⟨p, hp⟩ := hin.payload (List.mem_of_mem_filter hentry)
    have hchunk : entry.2 = ⟨none, some p⟩ := by
      rw [← hnone, hschema, ← hp]
    rw [hchunk, Chunk.toValue_opaque] at hvalue
    exact ⟨p.bytes, (Except.ok.inj hvalue).symm⟩
  · obtain ⟨entry, hentry, _, hschema, hvalue⟩ := hfind e he
    have hmem := List.mem_of_mem_filter hentry
    obtain ⟨p, hp⟩ := hin.payload hmem
    exact ⟨entry, hentry, p, by rw [← hu, hschema, ← hp], hin.length_lt hmem, hvalue⟩

/-- The value of a record lists entries that have what all values of its chunks have. -/
theorem exists_decodedItems {d : Schema} {r : Record} {bound : Nat} {w : Value} {P : Schema → Value → Prop}
    (hd : d.LegibleRecord) (hschema : r.schema = d) (hin : Record.InOrder d bound 0 r.entries)
    (h : r.valueBy (Chunk.toValue charset) = .ok w)
    (hP : ∀ entry ∈ visibleEntries r.entries, ∀ u p v, entry.2 = ⟨some u, some p⟩ → u ∈ d.fields →
      p.bytes.length < bound → Chunk.toValue charset ⟨some u, some p⟩ = .ok v → P u v) :
    ∃ items, w = .object (recordFields d items) ∧ DecodedItems d items ∧
      ∀ e ∈ items, ∀ u, e.schema = some u → P u e.value := by
  subst hschema
  obtain ⟨items, hitems, _, rfl⟩ := (Record.valueBy_eq_ok hd hin).1 h
  obtain ⟨hdecoded, hfind⟩ := decodedItems_of_shows hin hitems
  refine ⟨items, rfl, hdecoded, fun e he u hu => ?_⟩
  obtain ⟨entry, hentry, p, hchunk, hlt, hvalue⟩ := hfind e he u hu
  rw [hchunk] at hlt hvalue
  exact hP entry hentry u p e.value hchunk (hdecoded.mem_fields he hu) hlt hvalue

/-- Rows that are objects of records are given by the entries of these records. -/
theorem exists_rowObjects {d : Schema} {rows : List (UInt32 × Value)} {P : List Entry → Prop}
    (h : ∀ r ∈ rows, ∃ items, r.2 = .object (recordFields d items) ∧ P items) :
    ∃ rows', rows = rowObjects d rows' ∧ ∀ r ∈ rows', P r.2 := by
  induction rows with
  | nil => exact ⟨[], rfl, by simp⟩
  | cons r rows ih =>
    obtain ⟨items, hitems, hP⟩ := h r List.mem_cons_self
    obtain ⟨rest, rfl, hrest⟩ := ih fun s hs => h s (List.mem_cons_of_mem _ hs)
    refine ⟨(r.1, items) :: rest, ?_, List.forall_mem_cons.2 ⟨hP, hrest⟩⟩
    rw [rowObjects, rowObjects, List.map_cons, ← hitems]

/-- The value of a chunk that the file holds is canonical. -/
theorem Canonical.of_toValue {s : Schema} {p : Payload} {w : Value} (hs : s.Legible)
    (h : Chunk.toValue charset ⟨some s, some p⟩ = .ok w) :
    Canonical (Chunk.Decodes charset ⟨some s, some p⟩) s w := by
  -- the chunks in a payload are shorter than the payload
  induction hn : p.bytes.length using Nat.strong_induction_on generalizing s p w with
  | _ n ih =>
    subst hn
    rw [Chunk.toValue_eq, Chunk.valueBy_eq_ok] at h
    obtain ⟨kind, target, hkind, h⟩ := h
    rcases h with ⟨rfl, r, hr, h⟩ | ⟨rfl, t, ht, h⟩ | ⟨hleaf, c, hc, rfl⟩
    · obtain ⟨d, hd, hrd, hin⟩ := Chunk.record_eq_ok hr
      obtain ⟨items, rfl, hitems, hvalues⟩ :=
        exists_decodedItems (P := Canonical (Chunk.Decodes charset ⟨some s, some p⟩)) (hs.record hd) hrd hin h
          fun entry hentry u p' v hchunk hfield hlt hv =>
            (ih p'.bytes.length hlt (hs.field (.record hd) hfield) hv rfl).mono
              fun text htext => .record hr hentry (hchunk ▸ htext)
      exact .record hkind hd hitems hvalues
    · obtain ⟨d, hd, htd, hin, hcount⟩ := Chunk.table_eq_ok ht
      subst htd
      obtain ⟨rows, hrows, rfl⟩ := (Table.valueBy_eq_ok hin).1 h
      obtain ⟨hascending, _, _⟩ := rows_of_inOrder hin hrows
      have hrecords : ∀ r ∈ rows, ∃ items, r.2 = .object (recordFields t.schema items) ∧
          DecodedItems t.schema items ∧ ∀ e ∈ items, ∀ u, e.schema = some u →
            Canonical (Chunk.Decodes charset ⟨some s, some p⟩) u e.value := by
        intro r hr
        obtain ⟨row, hrow, _, hvalue⟩ := exists_left_of_forall₂ hrows hr
        obtain ⟨hrd, hinRow⟩ := hin.row hrow
        exact exists_decodedItems (hs.table hd) hrd hinRow hvalue
          fun entry hentry u p' v hchunk hfield hlt hv =>
            (ih p'.bytes.length hlt (hs.field (.table hd) hfield) hv rfl).mono
              fun text htext => .table ht hrow hentry (hchunk ▸ htext)
      obtain ⟨rows', rfl, hitems⟩ := exists_rowObjects hrecords
      have hlength : rows'.length = t.rows.length := by
        rw [hrows.length_eq, rowObjects, List.length_map]
      rw [rowObjects, List.pairwise_map] at hascending
      exact .table hkind hd (hlength ▸ hcount) hascending (fun r hr => (hitems r hr).1)
        fun r hr => (hitems r hr).2
    · obtain rfl := Content.kind_of_read hc
      exact .content hkind (Content.fits_of_read hc) (Content.counted_of_read hc) fun t ht =>
        Chunk.decodes_of_read hc ht

/-! ## What a canonical value is saved as -/

namespace DecodedItems

variable {d : Schema} {items : List Entry}

theorem keptEntries_recordFields (hd : d.LegibleRecord) (h : DecodedItems d items) :
    (Value.object (recordFields d items)).keptEntries d = items.filter fun e => !isDefault e.schema e.value :=
  Value.keptEntries_of_givenEntries rfl (Save.givenEntries_recordFields h.toShown hd)

theorem mem_of_mem_keptEntries (hd : d.LegibleRecord) (h : DecodedItems d items) {e : Entry}
    (he : e ∈ (Value.object (recordFields d items)).keptEntries d) : e ∈ items := by
  rw [h.keptEntries_recordFields hd] at he
  exact List.mem_of_mem_filter he

end DecodedItems

theorem keptEntries_withRest {d : Schema} {row : Value} (h : IsRow row) (rest : List Value) :
    (withRest row rest).keptEntries d = row.keptEntries d := by
  obtain ⟨fields, rfl, _⟩ := h
  by_cases hrest : rest = []
  · rw [hrest, withRest_nil]
  · have hkept : d.kept restKey (.array rest) = none := if_pos Save.isInternal_restKey
    rw [withRest_object fields hrest]
    show (fields ++ [(restKey, Value.array rest)]).filterMap _ = fields.filterMap _
    rw [List.filterMap_append, List.filterMap_cons_none (by exact hkept), List.filterMap_nil, List.append_nil]

theorem isRow_rowObjects {d : Schema} (hd : d.LegibleRecord) {rows : List (UInt32 × List Entry)}
    (h : ∀ r ∈ rows, DecodedItems d r.2) : ∀ r ∈ rowObjects d rows, IsRow r.2 := by
  intro row hrow
  obtain ⟨r, hr, rfl⟩ := List.mem_map.1 hrow
  exact isRow_recordFields (h r hr).toShown hd

/-- The rows that the object of a table is saved as. -/
theorem tableRows_tableFields {d : Schema} (hd : d.LegibleRecord) {rows : List (UInt32 × List Entry)}
    (hitems : ∀ r ∈ rows, DecodedItems d r.2) (hascending : rows.Pairwise (·.1 ≤ ·.1)) :
    ∃ rows', Save.rowsOf d (.object (tableFields (rowObjects d rows))) = .ok rows' ∧
      List.Forall₂ RowAgain (rowObjects d rows) rows' ∧
      Save.sortBy Prod.fst (Value.object (tableFields (rowObjects d rows))).tableRows = rows' := by
  obtain ⟨rows', hrows', hagain⟩ := Save.rowsOf_tableFields (d := d) (isRow_rowObjects hd hitems)
    (List.pairwise_map.2 hascending)
  exact ⟨rows', hrows', hagain, Value.sortBy_tableRows hrows'⟩

namespace Canonical

variable {T : String → Prop} {s : Schema} {w : Value}

/-- What a canonical value is saved as has canonical values again. -/
theorem gives (hs : s.Legible) (h : Canonical T s w) {e : Entry} (he : Save.Gives w s e) :
    (∀ u, e.schema = some u → Canonical T u e.value) ∧
      (e.schema = none → ∃ bytes, e.value = .ofBytes bytes) := by
  have hkept : ∀ {d items}, d.LegibleRecord → DecodedItems d items →
      (∀ e ∈ items, ∀ u, e.schema = some u → Canonical T u e.value) →
      e ∈ (Value.object (recordFields d items)).keptEntries d →
      (∀ u, e.schema = some u → Canonical T u e.value) ∧
        (e.schema = none → ∃ bytes, e.value = .ofBytes bytes) := by
    intro d items hd hitems hvalues he
    have he' := hitems.mem_of_mem_keptEntries hd he
    exact ⟨hvalues e he', hitems.opaque_bytes e he'⟩
  cases h with
  | @content _ _ c hkind =>
    -- content has no entries
    have hleaf := c.isComposite_kind
    rcases he with ⟨d, hd, _⟩ | ⟨d, hd, _⟩
    · rw [Schema.kind_of_actual hkind hd] at hleaf
      cases hleaf
    · rw [Schema.kind_of_actual hkind hd] at hleaf
      cases hleaf
  | record hkind hd hitems hvalues =>
    rcases he with ⟨d', hd', he⟩ | ⟨d', hd', _⟩
    · obtain rfl := Except.ok.inj (hd.symm.trans hd')
      exact hkept (hs.record hd) hitems hvalues he
    · cases Schema.kind_of_actual hkind hd'
  | table hkind hd hcount hascending hitems hvalues =>
    rcases he with ⟨d', hd', _⟩ | ⟨d', hd', r, hr, he⟩
    · cases Schema.kind_of_actual hkind hd'
    · obtain rfl := Except.ok.inj (hd.symm.trans hd')
      obtain ⟨rows', _, hagain, hsort⟩ := tableRows_tableFields (hs.table hd) hitems hascending
      rw [← Save.mem_sortBy (k := Prod.fst), hsort] at hr
      obtain ⟨r₀, hr₀, _, rest, hrow⟩ := exists_left_of_forall₂ hagain hr
      obtain ⟨row, hmem, rfl⟩ := List.mem_map.1 hr₀
      rw [hrow, keptEntries_withRest (isRow_recordFields (hitems row hmem).toShown (hs.table hd))] at he
      exact hkept (hs.table hd) (hitems row hmem) (hvalues row hmem) he

/-- The texts that are written when a canonical value is saved were stored. -/
theorem of_encodes (hs : s.Legible) (h : Canonical T s w) {t : String} (ht : Save.Encodes w s t) :
    T t := by
  have hcontent : ∀ {s w}, Canonical T s w → Save.ContentEncodes w s t → T t := by
    rintro s w h ⟨kind, target, c, hkind, hc, ht⟩
    cases h with
    | content hkind' hfits _ htexts =>
      obtain ⟨rfl, -⟩ := Prod.mk.inj (Except.ok.inj (hkind'.symm.trans hkind))
      rw [Content.ofValue_toValue hfits] at hc
      obtain rfl := Except.ok.inj hc
      exact htexts t ht
    | record hkind' =>
      obtain ⟨rfl, -⟩ := Prod.mk.inj (Except.ok.inj (hkind'.symm.trans hkind))
      cases hc
    | table hkind' =>
      obtain ⟨rfl, -⟩ := Prod.mk.inj (Except.ok.inj (hkind'.symm.trans hkind))
      cases hc
  rcases ht with ht | ⟨e, u, he, hu, ht⟩
  · exact hcontent h ht
  · induction he with
    | here he => exact hcontent ((h.gives hs he).1 u hu) ht
    | within he hu' _ ih => exact ih (he.legible hs hu') ((h.gives hs he).1 _ hu') hu ht

end Canonical

end ChunkTree
