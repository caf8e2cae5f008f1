import ChunkTree.Proofs.Normal
import ChunkTree.Proofs.RecordEntries
import ChunkTree.Proofs.Sizes

/-!
# Replacing what is saved

An entry may be replaced by one that follows it, that is, by one that has its index, its size and its payload
(`Save.Entry.Follows`).  Where the entries of a record are rearranged and then replaced, the record is saved as
the same bytes (`Value.saveRecord_of_follows`) and has the same size (`Value.recordSize_of_follows`), as long as
no two fields share a name; and so is a table whose rows are replaced (`Value.saveTable_of_follows`).
-/

namespace ChunkTree

open Text (Charset)
open Save (Entry sortBy)

variable {charset : Charset}

/-- Two lists whose items correspond are searched alike: either nothing is found in both, or items that
correspond are. -/
theorem find?_of_forall₂ {α β : Type} {R : α → β → Prop} {p : α → Bool} {q : β → Bool} {xs : List α}
    {ys : List β} (h : List.Forall₂ R xs ys) (hpq : ∀ x y, R x y → p x = q y) :
    (xs.find? p = none ∧ ys.find? q = none) ∨
      ∃ x y, xs.find? p = some x ∧ ys.find? q = some y ∧ R x y := by
  induction h with
  | nil => exact .inl ⟨rfl, rfl⟩
  | @cons x y xs ys hxy _ ih =>
    rw [List.find?_cons, List.find?_cons, hpq x y hxy]
    cases q y with
    | true => exact .inr ⟨x, y, rfl, rfl, hxy⟩
    | false => exact ih

/-- Where only one item is looked for, the order of the items does not matter. -/
theorem find?_congr_perm {α : Type} {p : α → Bool} {xs ys : List α} (h : xs.Perm ys)
    (hone : ∀ x ∈ xs, ∀ y ∈ xs, p x → p y → x = y) : ys.find? p = xs.find? p := by
  cases hx : xs.find? p with
  | none => exact List.find?_eq_none.2 fun y hy => List.find?_eq_none.1 hx y (h.mem_iff.2 hy)
  | some x =>
    cases hy : ys.find? p with
    | none =>
      have hmem := h.mem_iff.1 (List.mem_of_find?_eq_some hx)
      exact absurd (List.find?_some hx) (List.find?_eq_none.1 hy x hmem)
    | some y =>
      have hmem := h.mem_iff.2 (List.mem_of_find?_eq_some hy)
      rw [hone y hmem x (List.mem_of_find?_eq_some hx) (List.find?_some hy) (List.find?_some hx)]

namespace Save

/-- Whether an entry can stand for another: it has the same index and field, and whatever size and payload the
other one has. -/
structure Entry.Follows (charset : Charset) (e e' : Entry) : Prop where
  index : e'.index = e.index
  schema : e'.schema = e.schema
  size : ∀ n, e.payloadSize (Value.savedSize charset) = .ok n → e'.payloadSize (Value.savedSize charset) = .ok n
  payload : ∀ p, e.payload (Value.save charset) = .ok p → e'.payload (Value.save charset) = .ok p

theorem Entry.Follows.refl (e : Entry) : e.Follows charset e :=
  ⟨rfl, rfl, fun _ => id, fun _ => id⟩

/-- An entry that was written as the same payload as another can stand for it. -/
theorem Entry.Follows.of_payload {e e' : Entry} (hindex : e'.index = e.index) (hschema : e'.schema = e.schema)
    {p : List UInt8} (h : e.payload (Value.save charset) = .ok p) (h' : e'.payload (Value.save charset) = .ok p) :
    e.Follows charset e' := by
  refine ⟨hindex, hschema, fun n hn => ?_, fun q hq => ?_⟩
  · rw [Entry.payloadSize_of_payload h', ← Entry.payloadSize_of_payload h, hn]
  · rw [h', ← h, hq]

theorem Entry.Follows.count {e e' : Entry} (h : e.Follows charset e') {n : Nat}
    (hn : e.count (Value.savedSize charset) = .ok n) : e'.count (Value.savedSize charset) = .ok n := by
  obtain ⟨payload, hpayload, hn⟩ := bind_eq_ok.1 hn
  rw [Entry.count, h.size payload hpayload, h.schema]
  exact hn

/-- Entries that follow others are written as the same chunks. -/
theorem writes_of_follows {entries entries' : List Entry} {chunks : List (UInt32 × List UInt8)}
    (h : List.Forall₂ (Entry.Writes (Value.savedSize charset) (Value.save charset)) entries chunks)
    (hfollows : List.Forall₂ (Entry.Follows charset) entries entries') :
    List.Forall₂ (Entry.Writes (Value.savedSize charset) (Value.save charset)) entries' chunks := by
  induction hfollows generalizing chunks with
  | nil =>
    cases h
    exact .nil
  | cons he _ ih =>
    obtain _ | ⟨hwrites, h⟩ := h
    exact .cons ⟨hwrites.index.trans he.index.symm, he.size _ hwrites.length,
      he.payload _ hwrites.payload⟩ (ih h)

theorem entriesSize_of_follows {entries entries' : List Entry}
    (hfollows : List.Forall₂ (Entry.Follows charset) entries entries') {n : Nat}
    (h : entriesSize (Value.savedSize charset) entries = .ok n) :
    entriesSize (Value.savedSize charset) entries' = .ok n := by
  induction hfollows generalizing n with
  | nil => exact h
  | cons he _ ih =>
    obtain ⟨payload, rest, hpayload, hrest, rfl⟩ := entriesSize_cons_eq_ok.1 h
    exact entriesSize_cons_eq_ok.2 ⟨payload, rest, he.size payload hpayload, ih hrest, by rw [he.index]⟩

variable {d : Schema} {given mid given' sizes : List Entry}

/-- Size fields are about the same entries if these are rearranged and replaced. -/
theorem sizeEntries_of_follows (hperm : given.Perm mid) (hfollows : List.Forall₂ (Entry.Follows charset) mid given')
    (hone : ∀ e ∈ given, ∀ e' ∈ given, ∀ n, e.schema.bind Schema.name? = some n →
      e'.schema.bind Schema.name? = some n → e = e') {fields : List Schema}
    (h : sizeEntries (Value.savedSize charset) given fields = .ok sizes) :
    sizeEntries (Value.savedSize charset) given' fields = .ok sizes := by
  -- what is found among the rearranged entries is what was found before
  have hfind : ∀ target : String,
      let named := fun e : Entry => e.schema.bind Schema.name? == some target
      (given.find? named = none ∧ given'.find? named = none) ∨
        ∃ e e', given.find? named = some e ∧ given'.find? named = some e' ∧ e.Follows charset e' := by
    intro target named
    rw [← find?_congr_perm (p := named) hperm fun e he e' he' hn hn' =>
      hone e he e' he' target (eq_of_beq hn) (eq_of_beq hn')]
    exact find?_of_forall₂ hfollows fun e e' he => by simp only [named, he.schema]
  induction fields generalizing sizes with
  | nil => exact h
  | cons field fields ih =>
    rw [sizeEntries] at h ⊢
    split
    · rename_i target index htarget hindex
      simp only [htarget, hindex] at h
      rcases hfind target with ⟨hnone, hnone'⟩ | ⟨e, e', he, he', hfollows⟩
      · simp only [hnone] at h
        simp only [hnone']
        exact ih h
      · simp only [he] at h
        simp only [he']
        obtain ⟨count, hcount, h⟩ := bind_eq_ok.1 h
        obtain ⟨rest, hrest, h⟩ := bind_eq_ok.1 h
        exact bind_eq_ok.2 ⟨count, hfollows.count hcount, bind_eq_ok.2 ⟨rest, ih hrest, h⟩⟩
    · rename_i hnone
      split at h
      · rename_i htarget hindex
        exact absurd hindex (hnone _ _ htarget)
      · exact ih h

/-- The entries that are kept in a record that can be saved have different indices. -/
theorem nodup_keptEntries {size : Value → Schema → Except Error Nat} {v : Value} {entries : List Entry}
    (h : entriesOf size d v = .ok entries) : ((v.keptEntries d).map Entry.index).Nodup := by
  obtain ⟨fields, given, sizes, hv, hgiven, _, hunique, rfl⟩ := entriesOf_eq_ok.1 h
  have hnodup := repeated?_sortBy_eq_none.1 hunique
  rw [List.map_append, ← Value.keptEntries_of_givenEntries hv hgiven] at hnodup
  exact hnodup.of_append_left

/-- Only one entry has the name of a field, if fields can be told apart by their names. -/
theorem eq_of_name {v : Value} (hnames : (d.fields.filterMap Schema.name?).Nodup)
    (hnodup : ((v.keptEntries d).map Entry.index).Nodup) {e e' : Entry} (he : e ∈ v.keptEntries d)
    (he' : e' ∈ v.keptEntries d) {n : String} (hn : e.schema.bind Schema.name? = some n)
    (hn' : e'.schema.bind Schema.name? = some n) : e = e' := by
  obtain ⟨f, hf, hfn⟩ := Option.bind_eq_some_iff.1 hn
  obtain ⟨f', hf', hfn'⟩ := Option.bind_eq_some_iff.1 hn'
  obtain ⟨hmem, hindex⟩ := Value.field_of_mem_keptEntries he hf
  obtain ⟨hmem', hindex'⟩ := Value.field_of_mem_keptEntries he' hf'
  obtain rfl := eq_of_nodup_filterMap hnames hmem hmem' hfn hfn'
  exact List.inj_on_of_nodup_map hnodup he he' (Option.some.inj (hindex.symm.trans hindex'))

/-- Whether an object has the entries of another one, rearranged and then replaced. -/
def RecordFollows (charset : Charset) (d : Schema) (v w : Value) : Prop :=
  ∀ fields given, v.asObject = some fields → givenEntries d fields = .ok given →
    ∃ fields' given' mid, w.asObject = some fields' ∧ givenEntries d fields' = .ok given' ∧ given.Perm mid ∧
      List.Forall₂ (Entry.Follows charset) mid given'

/-- The chunks of a record stay what they are when its entries are rearranged and replaced. -/
theorem RecordFollows.entriesOf {v w : Value} {entries : List Entry} (h : RecordFollows charset d v w)
    (hnames : (d.fields.filterMap Schema.name?).Nodup)
    (hentries : entriesOf (Value.savedSize charset) d v = .ok entries) :
    ∃ entries', Save.entriesOf (Value.savedSize charset) d w = .ok entries' ∧
      List.Forall₂ (Entry.Follows charset) entries entries' := by
  obtain ⟨fields, given, sizes, hv, hgiven, hsizes, hunique, rfl⟩ := entriesOf_eq_ok.1 hentries
  obtain ⟨fields', given', mid, hw, hgiven', hperm, hfollows⟩ := h fields given hv hgiven
  have hkept := Value.keptEntries_of_givenEntries hv hgiven
  have hascending := (repeated?_eq_none (sortBy_ascending _)).1 hunique
  have hnodup := sortBy_strictly_ascending.1 hascending
  have hone : ∀ e ∈ given, ∀ e' ∈ given, ∀ n, e.schema.bind Schema.name? = some n →
      e'.schema.bind Schema.name? = some n → e = e' := by
    rw [← hkept]
    exact fun e he e' he' n hn hn' => eq_of_name hnames (nodup_keptEntries hentries) he he' hn hn'
  have hsizes' := sizeEntries_of_follows hperm hfollows hone hsizes
  have hall : List.Forall₂ (Entry.Follows charset) (sortBy Entry.index (mid ++ sizes))
      (sortBy Entry.index (given' ++ sizes)) := by
    refine forall₂_sortBy (fun _ _ he => he.index.symm) (List.rel_append hfollows ?_)
    exact List.forall₂_same.2 fun e _ => .refl e
  -- no two indices are equal, so rearranging makes no difference once the chunks are sorted
  rw [← sortBy_congr_perm (hperm.append_right sizes) hnodup] at hall
  refine ⟨_, entriesOf_eq_ok.2 ⟨fields', given', sizes, hw, hgiven', hsizes', ?_, rfl⟩, hall⟩
  have hindices := map_eq_of_forall₂ hall fun _ _ he => he.index.symm
  rw [repeated?_eq_none (sortBy_ascending _), ← List.pairwise_map, ← hindices, List.pairwise_map]
  exact hascending

end Save

namespace Value

open Save

variable {d : Schema} {v w : Value}

theorem saveRecord_of_follows (hfollows : RecordFollows charset d v w)
    (hnames : (d.fields.filterMap Schema.name?).Nodup) {bytes : List UInt8}
    (h : v.saveRecord charset d = .ok bytes) : w.saveRecord charset d = .ok bytes := by
  rw [saveRecord_eq] at h ⊢
  obtain ⟨entries, _, hentries, hwrite, rfl⟩ := writeRecord_eq_ok.1 h
  obtain ⟨chunks, hchunks, rfl⟩ := writeEntries_eq_ok.1 hwrite
  obtain ⟨entries', hentries', hall⟩ := hfollows.entriesOf hnames hentries
  exact writeRecord_eq_ok.2
    ⟨entries', _, hentries', writeEntries_eq_ok.2 ⟨chunks, writes_of_follows hchunks hall, rfl⟩, rfl⟩

theorem recordSize_of_follows (hfollows : RecordFollows charset d v w)
    (hnames : (d.fields.filterMap Schema.name?).Nodup) {n : Nat}
    (h : recordSize (savedSize charset) d v = .ok n) : recordSize (savedSize charset) d w = .ok n := by
  obtain ⟨entries, chunks, hentries, hchunks, rfl⟩ := recordSize_eq_ok.1 h
  obtain ⟨entries', hentries', hall⟩ := hfollows.entriesOf hnames hentries
  exact recordSize_eq_ok.2 ⟨entries', chunks, hentries', entriesSize_of_follows hall hchunks, rfl⟩

/-- Whether a row can stand for another: it has the same index, and whatever size and bytes the other one has. -/
structure RowFollows (charset : Charset) (d : Schema) (r r' : UInt32 × Value) : Prop where
  index : r'.1 = r.1
  size : ∀ n, recordSize (savedSize charset) d r.2 = .ok n → recordSize (savedSize charset) d r'.2 = .ok n
  record : ∀ bytes, r.2.saveRecord charset d = .ok bytes → r'.2.saveRecord charset d = .ok bytes

/-- A row that was written as the same bytes as another can stand for it. -/
theorem RowFollows.of_saved {r r' : UInt32 × Value} (hindex : r'.1 = r.1) {bytes : List UInt8}
    (h : r.2.saveRecord charset d = .ok bytes) (h' : r'.2.saveRecord charset d = .ok bytes) :
    RowFollows charset d r r' := by
  refine ⟨hindex, fun n hn => ?_, fun b hb => ?_⟩
  · rw [saveRecord_eq] at h h'
    rw [recordSize_of_writeRecord h', ← recordSize_of_writeRecord h, hn]
  · rw [h', ← h, hb]

theorem writeRows_of_follows {rows rows' : List (UInt32 × Value)} {records : List UInt8}
    (hfollows : List.Forall₂ (RowFollows charset d) rows rows')
    (h : writeRows (savedSize charset) (save charset) d rows = .ok records) :
    writeRows (savedSize charset) (save charset) d rows' = .ok records := by
  induction hfollows generalizing records with
  | nil => exact h
  | @cons r r' rows rows' hr _ ih =>
    obtain ⟨i, row⟩ := r
    obtain ⟨i', row'⟩ := r'
    obtain rfl : i' = i := hr.index
    obtain ⟨record, rest, hrecord, hrest, rfl⟩ := writeRows_cons_eq_ok.1 h
    rw [← saveRecord_eq] at hrecord
    have hrecord' := hr.record record hrecord
    rw [saveRecord_eq] at hrecord'
    exact writeRows_cons_eq_ok.2 ⟨record, rest, hrecord', ih hrest, rfl⟩

theorem rowsSize_of_follows {rows rows' : List (UInt32 × Value)} {n : Nat}
    (hfollows : List.Forall₂ (RowFollows charset d) rows rows')
    (h : rowsSize (savedSize charset) d rows = .ok n) : rowsSize (savedSize charset) d rows' = .ok n := by
  induction hfollows generalizing n with
  | nil => exact h
  | @cons r r' rows rows' hr _ ih =>
    obtain ⟨i, row⟩ := r
    obtain ⟨i', row'⟩ := r'
    obtain rfl : i' = i := hr.index
    obtain ⟨record, rest, hrecord, hrest, rfl⟩ := rowsSize_cons_eq_ok.1 h
    exact rowsSize_cons_eq_ok.2 ⟨record, rest, hr.size record hrecord, ih hrest, rfl⟩

/-- Whether a table has the rows of another one, each replaced. -/
def TableFollows (charset : Charset) (d : Schema) (v w : Value) : Prop :=
  ∀ rows, rowsOf d v = .ok rows → ∃ rows', rowsOf d w = .ok rows' ∧
    List.Forall₂ (RowFollows charset d) rows rows'

theorem saveTable_of_follows (hfollows : TableFollows charset d v w) {bytes : List UInt8}
    (h : v.saveTable charset d = .ok bytes) : w.saveTable charset d = .ok bytes := by
  rw [saveTable_eq] at h ⊢
  obtain ⟨rows, records, hrows, hrecords, rfl⟩ := writeTable_eq_ok.1 h
  obtain ⟨rows', hrows', hall⟩ := hfollows rows hrows
  exact writeTable_eq_ok.2 ⟨rows', records, hrows', writeRows_of_follows hall hrecords, by rw [hall.length_eq]⟩

theorem tableSize_of_follows (hfollows : TableFollows charset d v w) {n : Nat}
    (h : tableSize (savedSize charset) d v = .ok n) : tableSize (savedSize charset) d w = .ok n := by
  obtain ⟨rows, records, hrows, hrecords, rfl⟩ := tableSize_eq_ok.1 h
  obtain ⟨rows', hrows', hall⟩ := hfollows rows hrows
  exact tableSize_eq_ok.2 ⟨rows', records, hrows', rowsSize_of_follows hall hrecords, by rw [hall.length_eq]⟩

end Value

end ChunkTree
