import ChunkTree.Proofs.SaveNesting

/-!
# How saved bytes are laid out

A record is written as its chunks, one after the other, and a zero (`writeRecord_eq_ok`); a chunk is its
index, its length and its payload (`chunkBytes`).  A table is written as the number of its rows and the
rows with their indices (`writeTable_eq_ok`), and a value under a schema as its kind asks for
(`writeBy_eq_ok`).  Sizes are put together in the same way (`Value.savedSize_eq_ok`).
-/

namespace ChunkTree

open Text (Charset)

namespace Save

variable {size : Value → Schema → Except Error Nat} {write : Value → Schema → Except Error (List UInt8)}
  {schema : Schema} {v : Value} {bytes : List UInt8}

/-- A chunk as it stands in a record, given its index and its payload. -/
def chunkBytes (c : UInt32 × List UInt8) : List UInt8 :=
  Varint.encode c.1 ++ Varint.encodeLength c.2.length ++ c.2

/-- The chunk that an entry is written as, of the length that was computed for it. -/
structure Entry.Writes (size : Value → Schema → Except Error Nat)
    (write : Value → Schema → Except Error (List UInt8)) (e : Entry) (c : UInt32 × List UInt8) : Prop where
  index : c.1 = e.index
  length : e.payloadSize size = .ok c.2.length
  payload : e.payload write = .ok c.2

theorem writeEntries_cons_eq_ok {e : Entry} {entries : List Entry} :
    writeEntries size write (e :: entries) = .ok bytes ↔ ∃ c rest, e.Writes size write c ∧
      writeEntries size write entries = .ok rest ∧ chunkBytes c ++ rest = bytes := by
  rw [writeEntries]
  simp only [bind_eq_ok]
  constructor
  · rintro ⟨length, hlength, payload, hpayload, h⟩
    by_cases hne : payload.length ≠ length
    · rw [if_pos hne] at h
      exact absurd h throw_ne_ok
    · obtain rfl := not_not.1 hne
      rw [if_neg hne] at h
      obtain ⟨rest, hrest, h⟩ := bind_eq_ok.1 h
      exact ⟨(e.index, payload), rest, ⟨rfl, hlength, hpayload⟩, hrest, pure_eq_ok.1 h⟩
  · rintro ⟨⟨_, payload⟩, rest, ⟨rfl, hlength, hpayload⟩, hrest, rfl⟩
    refine ⟨payload.length, hlength, payload, hpayload, ?_⟩
    rw [if_neg (not_not.2 rfl)]
    exact bind_eq_ok.2 ⟨rest, hrest, rfl⟩

theorem writeEntries_eq_ok {entries : List Entry} :
    writeEntries size write entries = .ok bytes ↔
      ∃ chunks, List.Forall₂ (Entry.Writes size write) entries chunks ∧
        chunks.flatMap chunkBytes = bytes := by
  induction entries generalizing bytes with
  | nil => simp [writeEntries]
  | cons e entries ih =>
    rw [writeEntries_cons_eq_ok]
    constructor
    · rintro ⟨c, rest, he, hrest, rfl⟩
      obtain ⟨chunks, hchunks, rfl⟩ := ih.1 hrest
      exact ⟨c :: chunks, .cons he hchunks, rfl⟩
    · rintro ⟨_, _ | ⟨he, hchunks⟩, rfl⟩
      exact ⟨_, _, he, ih.2 ⟨_, hchunks, rfl⟩, rfl⟩

theorem writeRecord_eq_ok :
    writeRecord size write schema v = .ok bytes ↔ ∃ entries chunks, entriesOf size schema v = .ok entries ∧
      writeEntries size write entries = .ok chunks ∧ chunks ++ Varint.encode 0 = bytes := by
  simp only [writeRecord, bind_eq_ok, pure_eq_ok]
  constructor
  · rintro ⟨entries, hentries, chunks, hchunks, h⟩
    exact ⟨entries, chunks, hentries, hchunks, h⟩
  · rintro ⟨entries, chunks, hentries, hchunks, h⟩
    exact ⟨entries, hentries, chunks, hchunks, h⟩

theorem writeRows_cons_eq_ok {index : UInt32} {row : Value} {rows : List (UInt32 × Value)} :
    writeRows size write schema ((index, row) :: rows) = .ok bytes ↔ ∃ record rest,
      writeRecord size write schema row = .ok record ∧ writeRows size write schema rows = .ok rest ∧
        Varint.encode index ++ record ++ rest = bytes := by
  simp only [writeRows, bind_eq_ok, pure_eq_ok]
  constructor
  · rintro ⟨record, hrecord, rest, hrest, h⟩
    exact ⟨record, rest, hrecord, hrest, h⟩
  · rintro ⟨record, rest, hrecord, hrest, h⟩
    exact ⟨record, hrecord, rest, hrest, h⟩

/-- Rows can be written if each of them can. -/
theorem exists_writeRows {rows : List (UInt32 × Value)}
    (h : ∀ r ∈ rows, ∃ record, writeRecord size write schema r.2 = .ok record) :
    ∃ bytes, writeRows size write schema rows = .ok bytes := by
  induction rows with
  | nil => exact ⟨[], rfl⟩
  | cons r rows ih =>
    obtain ⟨record, hrecord⟩ := h r List.mem_cons_self
    obtain ⟨rest, hrest⟩ := ih fun s hs => h s (List.mem_cons_of_mem r hs)
    exact ⟨_, writeRows_cons_eq_ok.2 ⟨record, rest, hrecord, hrest, rfl⟩⟩

theorem writeTable_eq_ok :
    writeTable size write schema v = .ok bytes ↔ ∃ rows records, rowsOf schema v = .ok rows ∧
      writeRows size write schema rows = .ok records ∧
        Varint.encodeLength rows.length ++ records = bytes := by
  simp only [writeTable, bind_eq_ok, pure_eq_ok]
  constructor
  · rintro ⟨rows, hrows, records, hrecords, h⟩
    exact ⟨rows, records, hrows, hrecords, h⟩
  · rintro ⟨rows, records, hrows, hrecords, h⟩
    exact ⟨rows, hrows, records, hrecords, h⟩

/-- The ways in which a value is written. -/
theorem writeBy_eq_ok {charset : Charset} :
    writeBy charset size write v schema = .ok bytes ↔ ∃ kind resolved, schema.resolve = .ok (kind, resolved) ∧
      ((kind = .record ∧ ∃ s, schema.actual .record = .ok s ∧ writeRecord size write s v = .ok bytes) ∨
        (kind = .table ∧ ∃ s, schema.actual .table = .ok s ∧ writeTable size write s v = .ok bytes) ∨
        (kind.isComposite = false ∧ contentBytes charset kind schema.label v = .ok bytes)) := by
  rw [writeBy, bind_eq_ok]
  constructor
  · rintro ⟨⟨kind, resolved⟩, hkind, h⟩
    refine ⟨kind, resolved, hkind, ?_⟩
    cases kind with
    | record => exact .inl ⟨rfl, bind_eq_ok.1 h⟩
    | table => exact .inr (.inl ⟨rfl, bind_eq_ok.1 h⟩)
    | _ => exact .inr (.inr ⟨rfl, h⟩)
  · rintro ⟨kind, resolved, hkind, h⟩
    refine ⟨(kind, resolved), hkind, ?_⟩
    rcases h with ⟨rfl, s, hs, h⟩ | ⟨rfl, s, hs, h⟩ | ⟨hleaf, h⟩
    · exact bind_eq_ok.2 ⟨s, hs, h⟩
    · exact bind_eq_ok.2 ⟨s, hs, h⟩
    · cases kind with
      | record | table => cases hleaf
      | _ => exact h

theorem filePart_eq_ok {key : String} {v x : Value} : filePart key v = .ok x ↔ v.get? key = some x := by
  unfold filePart
  cases v.get? key <;> simp

end Save

/-- A value is written as the record, the table or the content that its schema asks for. -/
theorem Value.save_eq_ok {charset : Charset} {v : Value} {schema : Schema} {bytes : List UInt8} :
    v.save charset schema = .ok bytes ↔ ∃ kind target, schema.resolve = .ok (kind, target) ∧
      ((kind = .record ∧ ∃ d, schema.actual .record = .ok d ∧ v.saveRecord charset d = .ok bytes) ∨
        (kind = .table ∧ ∃ d, schema.actual .table = .ok d ∧ v.saveTable charset d = .ok bytes) ∨
        (kind.isComposite = false ∧ Save.contentBytes charset kind schema.label v = .ok bytes)) := by
  simp only [save_eq, Save.writeBy_eq_ok, saveRecord_eq, saveTable_eq]

theorem Value.save_of_leaf {charset : Charset} {schema target : Schema} {kind : Kind}
    (hkind : schema.resolve = .ok (kind, target)) (hleaf : kind.isComposite = false) (v : Value) :
    v.save charset schema = Save.contentBytes charset kind schema.label v := by
  rw [save_eq, Save.writeBy, hkind]
  cases kind with
  | record | table => cases hleaf
  | _ => rfl

/-! ## Sizes -/

namespace Save

variable {size : Value → Schema → Except Error Nat} {schema : Schema} {v : Value} {n : Nat}

theorem entriesSize_cons_eq_ok {e : Entry} {entries : List Entry} :
    entriesSize size (e :: entries) = .ok n ↔ ∃ payload rest, e.payloadSize size = .ok payload ∧
      entriesSize size entries = .ok rest ∧
        Varint.size e.index + Varint.lengthSize payload + payload + rest = n := by
  simp only [entriesSize, bind_eq_ok, pure_eq_ok]
  constructor
  · rintro ⟨payload, hpayload, rest, hrest, h⟩
    exact ⟨payload, rest, hpayload, hrest, h⟩
  · rintro ⟨payload, rest, hpayload, hrest, h⟩
    exact ⟨payload, hpayload, rest, hrest, h⟩

theorem recordSize_eq_ok :
    recordSize size schema v = .ok n ↔ ∃ entries chunks, entriesOf size schema v = .ok entries ∧
      entriesSize size entries = .ok chunks ∧ chunks + Varint.size 0 = n := by
  simp only [recordSize, bind_eq_ok, pure_eq_ok]
  constructor
  · rintro ⟨entries, hentries, chunks, hchunks, h⟩
    exact ⟨entries, chunks, hentries, hchunks, h⟩
  · rintro ⟨entries, chunks, hentries, hchunks, h⟩
    exact ⟨entries, hentries, chunks, hchunks, h⟩

theorem rowsSize_cons_eq_ok {index : UInt32} {row : Value} {rows : List (UInt32 × Value)} :
    rowsSize size schema ((index, row) :: rows) = .ok n ↔ ∃ record rest,
      recordSize size schema row = .ok record ∧ rowsSize size schema rows = .ok rest ∧
        Varint.size index + record + rest = n := by
  simp only [rowsSize, bind_eq_ok, pure_eq_ok]
  constructor
  · rintro ⟨record, hrecord, rest, hrest, h⟩
    exact ⟨record, rest, hrecord, hrest, h⟩
  · rintro ⟨record, rest, hrecord, hrest, h⟩
    exact ⟨record, hrecord, rest, hrest, h⟩

/-- Every row of a table that has a size has one. -/
theorem exists_recordSize {rows : List (UInt32 × Value)} (h : rowsSize size schema rows = .ok n)
    {r : UInt32 × Value} (hr : r ∈ rows) : ∃ m, recordSize size schema r.2 = .ok m := by
  induction rows generalizing n with
  | nil => cases hr
  | cons s rows ih =>
    obtain ⟨record, rest, hrecord, hrest, _⟩ := rowsSize_cons_eq_ok.1 h
    rcases List.mem_cons.1 hr with rfl | hr
    · exact ⟨record, hrecord⟩
    · exact ih hrest hr

theorem tableSize_eq_ok :
    tableSize size schema v = .ok n ↔ ∃ rows records, rowsOf schema v = .ok rows ∧
      rowsSize size schema rows = .ok records ∧ Varint.lengthSize rows.length + records = n := by
  simp only [tableSize, bind_eq_ok, pure_eq_ok]
  constructor
  · rintro ⟨rows, hrows, records, hrecords, h⟩
    exact ⟨rows, records, hrows, hrecords, h⟩
  · rintro ⟨rows, records, hrows, hrecords, h⟩
    exact ⟨rows, hrows, records, hrecords, h⟩

end Save

/-- A value has the size of the record, the table or the content that its schema asks for. -/
theorem Value.savedSize_eq_ok {charset : Charset} {v : Value} {schema : Schema} {n : Nat} :
    v.savedSize charset schema = .ok n ↔ ∃ kind target, schema.resolve = .ok (kind, target) ∧
      ((kind = .record ∧ ∃ d, schema.actual .record = .ok d ∧
          Save.recordSize (Value.savedSize charset) d v = .ok n) ∨
        (kind = .table ∧ ∃ d, schema.actual .table = .ok d ∧
          Save.tableSize (Value.savedSize charset) d v = .ok n) ∨
        (kind.isComposite = false ∧ Save.contentSize charset kind schema.label v = .ok n)) := by
  rw [savedSize_eq, Save.sizeBy, bind_eq_ok]
  constructor
  · rintro ⟨⟨kind, target⟩, hkind, h⟩
    refine ⟨kind, target, hkind, ?_⟩
    cases kind with
    | record => exact .inl ⟨rfl, bind_eq_ok.1 h⟩
    | table => exact .inr (.inl ⟨rfl, bind_eq_ok.1 h⟩)
    | _ => exact .inr (.inr ⟨rfl, h⟩)
  · rintro ⟨kind, target, hkind, h⟩
    refine ⟨(kind, target), hkind, ?_⟩
    rcases h with ⟨rfl, d, hd, h⟩ | ⟨rfl, d, hd, h⟩ | ⟨hleaf, h⟩
    · exact bind_eq_ok.2 ⟨d, hd, h⟩
    · exact bind_eq_ok.2 ⟨d, hd, h⟩
    · cases kind with
      | record | table => cases hleaf
      | _ => exact h

end ChunkTree
