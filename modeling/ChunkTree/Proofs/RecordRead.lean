import ChunkTree.Proofs.ContentRead
import ChunkTree.Proofs.Normal
import ChunkTree.Proofs.RecordEntries
import ChunkTree.Proofs.RecordGrammar

/-!
# Records and tables are read back

A record that was saved is read chunk by chunk (`Record.takes_parse`), and its value is the normal form of
what was saved if the values of its chunks are (`Record.readsBack`).  The same goes for the rows of a table
(`Table.readsBack`).
-/

namespace ChunkTree

open Text (Charset)
open Parse (Takes)
open Save (Entry chunkBytes)

/-- Chunks as they stand in a record, with the offsets at which their payloads start. -/
def chunkViews (d : Schema) (pos : Nat) : List (UInt32 × List UInt8) → List (UInt32 × Chunk)
  | [] => []
  | (i, p) :: chunks =>
    (i, ⟨d.find? (.index i), some ⟨pos + (Varint.encode i ++ Varint.encodeLength p.length).length, p⟩⟩) ::
      chunkViews d (pos + (chunkBytes (i, p)).length) chunks

/-- Chunks with ascending indices are written in the form in which they are read. -/
theorem Record.exists_chunks_of_bytes (d : Schema) {chunks : List (UInt32 × List UInt8)} {previous : UInt32}
    (hascending : (previous :: chunks.map Prod.fst).Pairwise (· < ·))
    (hlen : ∀ c ∈ chunks, c.2.length < 0x100000000) (pos : Nat) :
    ∃ payloads, Chunks previous pos (chunks.flatMap chunkBytes) payloads ∧
      chunkViews d pos chunks = payloads.map (chunkOf d) := by
  induction chunks generalizing previous pos with
  | nil => exact ⟨[], .nil, rfl⟩
  | cons c chunks ih =>
    obtain ⟨i, p⟩ := c
    obtain ⟨habove, hrest⟩ := List.pairwise_cons.1 hascending
    have hi : previous < i := habove i List.mem_cons_self
    have hp : p.length = (UInt32.ofNat p.length).toNat :=
      (UInt32.toNat_ofNat_of_lt' (hlen (i, p) List.mem_cons_self)).symm
    have hpos : pos + (chunkBytes (i, p)).length =
        pos + (Varint.encode i).length + (Varint.encodeLength p.length).length + p.length := by
      simp only [chunkBytes, List.length_append]
      omega
    obtain ⟨payloads, hchunks, hviews⟩ :=
      ih hrest (fun c hc => hlen c (List.mem_cons_of_mem _ hc)) (pos + (chunkBytes (i, p)).length)
    rw [List.flatMap_cons, chunkBytes, List.append_assoc, List.append_assoc, chunkViews, hviews,
      List.length_append, ← Nat.add_assoc]
    rw [hpos] at hchunks
    exact ⟨_, .cons (Varint.spells_encode i) hi (Varint.spells_encode _) hp hchunks, rfl⟩

/-- A record that was written is read chunk by chunk. -/
theorem Record.takes_parse (d : Schema) (row : Option UInt32) (pos : Nat)
    {chunks : List (UInt32 × List UInt8)} (hascending : (0 :: chunks.map Prod.fst).Pairwise (· < ·))
    (hlen : ∀ c ∈ chunks, c.2.length < 0x100000000) :
    (parse d row).Takes pos (chunks.flatMap chunkBytes ++ Varint.encode 0)
      ⟨d, chunkViews d pos chunks, row, pos, (chunks.flatMap chunkBytes ++ Varint.encode 0).length⟩ := by
  obtain ⟨payloads, hchunks, hviews⟩ := exists_chunks_of_bytes d hascending hlen pos
  have hclosed : Closed pos (chunks.flatMap chunkBytes ++ Varint.encode 0) payloads :=
    ⟨_, _, rfl, hchunks, Varint.spells_encode 0⟩
  rw [hviews]
  exact hclosed.takes_parse d row

/-! ## The value of what is read back -/

variable {charset : Charset}

/-- Whether the payload that an entry is saved as is read as the normal form of its value. -/
def Save.Entry.ReadsBack (charset : Charset) (e : Entry) : Prop :=
  ∀ payload, e.payload (Value.save charset) = .ok payload → payload.length < 0x100000000 ∧
    ∀ pos, Chunk.toValue charset ⟨e.schema, some ⟨pos, payload⟩⟩ =
      .ok (Value.normalEntry Value.normal e).value

/-- A chunk in a file and the entry that it was saved for. -/
structure Save.Entry.SavedAs (charset : Charset) (view : UInt32 × Chunk) (e : Entry) : Prop where
  index : view.1 = e.index
  schema : view.2.schema = e.schema
  payload : ∃ pos payload, view.2.payload = some ⟨pos, payload⟩ ∧ e.payload (Value.save charset) = .ok payload

theorem chunkViews_savedAs {d : Schema} {entries : List Entry} {chunks : List (UInt32 × List UInt8)}
    (hentries : ∀ e ∈ entries, e.schema = d.find? (.index e.index))
    (h : List.Forall₂ (Entry.Writes (Value.savedSize charset) (Value.save charset)) entries chunks)
    (pos : Nat) :
    List.Forall₂ (Entry.SavedAs charset) (chunkViews d pos chunks) entries := by
  induction h generalizing pos with
  | nil => exact .nil
  | @cons e c entries chunks he _ ih =>
    obtain ⟨i, payload⟩ := c
    obtain rfl : i = e.index := he.index
    refine .cons ⟨rfl, (hentries e List.mem_cons_self).symm, _, _, rfl, he.payload⟩ ?_
    exact ih (fun f hf => hentries f (List.mem_cons_of_mem e hf)) _

theorem visible_iff_entryKey? {view : UInt32 × Chunk} {e : Entry} (h : view.2.schema = e.schema) :
    (entryKey? view.1 view.2).isSome = e.visible := by
  unfold entryKey? Chunk.name? Entry.visible
  rw [h]
  cases e.schema.bind Schema.name? with
  | none => rfl
  | some n => cases hn : isInternal n <;> simp [hn]

/-- Only objects are saved as records or tables. -/
theorem Value.exists_object_of_save {x : Value} {f target : Schema} {kind : Kind} {bytes : List UInt8}
    (hkind : f.resolve = .ok (kind, target)) (hcomposite : kind.isComposite) (h : x.save charset f = .ok bytes) :
    ∃ fields, x.asObject = some fields := by
  obtain ⟨kind', target', hkind', ⟨_, d, _, h⟩ | ⟨_, d, _, h⟩ | ⟨hleaf, _⟩⟩ := save_eq_ok.1 h
  · rw [saveRecord_eq] at h
    obtain ⟨_, _, hentries, _⟩ := Save.writeRecord_eq_ok.1 h
    obtain ⟨fields, _, _, hx, _⟩ := Save.entriesOf_eq_ok.1 hentries
    exact ⟨fields, hx⟩
  · rw [saveTable_eq] at h
    obtain ⟨_, _, hrows, _⟩ := Save.writeTable_eq_ok.1 h
    obtain ⟨fields, _, hx, _⟩ := Save.rowsOf_eq_ok.1 hrows
    exact ⟨fields, hx⟩
  · obtain ⟨rfl, _⟩ := Prod.mk.inj (Except.ok.inj (hkind.symm.trans hkind'))
    rw [hcomposite] at hleaf
    cases hleaf

/-- A number takes few bytes, whatever it is saved as. -/
theorem length_save_ofNat {f : Schema} {n : Nat} {bytes : List UInt8}
    (h : (Value.ofNat n).save charset f = .ok bytes) : bytes.length ≤ 8 := by
  obtain ⟨kind, target, hkind, _⟩ := Value.save_eq_ok.1 h
  cases hcomposite : kind.isComposite with
  | true =>
    obtain ⟨_, hobject⟩ := Value.exists_object_of_save hkind hcomposite h
    cases hobject
  | false =>
    rw [Value.save_of_leaf hkind hcomposite] at h
    cases kind with
    | integer =>
      obtain ⟨m, _, h⟩ := bind_eq_ok.1 h
      rw [← pure_eq_ok.1 h, Varint.encodeSigned, Varint.length_encode]
      unfold Varint.size
      repeat' split
      all_goals omega
    | float =>
      obtain ⟨w, _, h⟩ := bind_eq_ok.1 h
      rw [← pure_eq_ok.1 h, LittleEndian.length_digits]
    | record | table => cases hcomposite
    | _ => cases h

theorem map_fst_of_writes {size : Value → Schema → Except Error Nat}
    {write : Value → Schema → Except Error (List UInt8)} {entries : List Entry}
    {chunks : List (UInt32 × List UInt8)}
    (h : List.Forall₂ (Entry.Writes size write) entries chunks) :
    chunks.map Prod.fst = entries.map Entry.index :=
  map_eq_of_forall₂ h.flip fun _ _ he => he.index

/-- Whether the payloads that entries are saved as are short enough for a length. -/
def Save.Fit (charset : Charset) (entries : List Entry) : Prop :=
  ∀ e ∈ entries, ∀ payload, e.payload (Value.save charset) = .ok payload → payload.length < 0x100000000

theorem Save.Fit.length_lt {entries : List Entry} {chunks : List (UInt32 × List UInt8)}
    (hfit : Save.Fit charset entries)
    (h : List.Forall₂ (Entry.Writes (Value.savedSize charset) (Value.save charset)) entries chunks) :
    ∀ c ∈ chunks, c.2.length < 0x100000000 := by
  intro c hc
  obtain ⟨e, he, hwrites⟩ := exists_left_of_forall₂ h hc
  exact hfit e he c.2 hwrites.payload

/-- All payloads are short if those of the given entries are: sizes take few bytes. -/
theorem Save.Fit.sorted {d : Schema} {given sizes : List Entry}
    (hsizes : Save.sizeEntries (Value.savedSize charset) given d.fields = .ok sizes)
    (hgiven : Save.Fit charset given) : Save.Fit charset (Save.sortBy Entry.index (given ++ sizes)) := by
  intro e he payload hpayload
  rcases List.mem_append.1 (Save.mem_sortBy.1 he) with he | he
  · exact hgiven e he payload hpayload
  · obtain ⟨_, _, _, _, _, _, _, _, _, heq⟩ := Save.mem_sizeEntries hsizes he
    rw [heq] at hpayload
    exact (length_save_ofNat hpayload).trans_lt (by decide)

/-- Chunks that entries were saved as show the normal forms of the entries. -/
theorem shows_of_savedAs {views : List (UInt32 × Chunk)} {entries : List Entry}
    (h : List.Forall₂ (Entry.SavedAs charset) views entries) (hback : ∀ e ∈ entries, e.ReadsBack charset) :
    List.Forall₂ (Entry.Shows (Chunk.toValue charset)) views
      (entries.map (Value.normalEntry Value.normal)) := by
  rw [List.forall₂_map_right_iff]
  refine forall₂_imp_mem h fun view _ e he hve => ⟨hve.index.symm, hve.schema.symm, ?_⟩
  obtain ⟨start, payload, hview, hpayload⟩ := hve.payload
  have := (hback e he payload hpayload).2 start
  rwa [← hve.schema, ← hview] at this

/-- A record that was saved is read as the chunks of its entries. -/
theorem Record.takes_saved {d : Schema} {v : Value} {bytes : List UInt8} (hd : d.SizableRecord)
    (h : v.saveRecord charset d = .ok bytes) (hfit : Save.Fit charset (v.keptEntries d)) (row : Option UInt32)
    (pos : Nat) :
    ∃ r entries, (parse d row).Takes pos bytes r ∧ r.row = row ∧ r.schema = d ∧
      Save.entriesOf (Value.savedSize charset) d v = .ok entries ∧
        List.Forall₂ (Entry.SavedAs charset) r.entries entries := by
  rw [Value.saveRecord_eq] at h
  obtain ⟨entries, _, hentries, hwrite, rfl⟩ := Save.writeRecord_eq_ok.1 h
  obtain ⟨chunks, hchunks, rfl⟩ := Save.writeEntries_eq_ok.1 hwrite
  obtain ⟨hascending, hspec⟩ := Save.entriesOf_spec hd.toLegibleRecord hentries
  obtain ⟨fields, given, sizes, hv, hgiven, hsizes, _, rfl⟩ := Save.entriesOf_eq_ok.1 hentries
  rw [Value.keptEntries_of_givenEntries hv hgiven] at hfit
  have hchunksAscending : (0 :: chunks.map Prod.fst).Pairwise (· < ·) := by
    rw [map_fst_of_writes hchunks]
    refine List.pairwise_cons.2 ⟨fun i hi => ?_, List.pairwise_map.2 hascending⟩
    obtain ⟨e, he, rfl⟩ := List.mem_map.1 hi
    exact UInt32.pos_iff_ne_zero.2 (hspec e he).1
  have htakes := takes_parse d row pos hchunksAscending ((hfit.sorted hsizes).length_lt hchunks)
  exact ⟨_, _, htakes, rfl, rfl, hentries, chunkViews_savedAs (fun e he => (hspec e he).2) hchunks pos⟩

/-- A record that was saved is read as its normal form. -/
theorem Record.readsBack {d : Schema} {v : Value} {bytes : List UInt8} (hd : d.ConsistentRecord)
    (h : v.saveRecord charset d = .ok bytes) (hback : ∀ e ∈ v.keptEntries d, e.ReadsBack charset)
    (row : Option UInt32) (pos : Nat) :
    ∃ r, (parse d row).Takes pos bytes r ∧ r.row = row ∧
      r.valueBy (Chunk.toValue charset) = .ok (Value.normalRecord Value.normal d v) := by
  have hfit : Save.Fit charset (v.keptEntries d) := fun e he payload hp => (hback e he payload hp).1
  obtain ⟨r, entries, htakes, hrow, rfl, hentries, hsaved⟩ := takes_saved hd h hfit row pos
  refine ⟨r, htakes, hrow, ?_⟩
  obtain ⟨fields, given, sizes, hv, hgiven, hsizes, _, rfl⟩ := Save.entriesOf_eq_ok.1 hentries
  have hkept := Value.keptEntries_of_givenEntries hv hgiven
  rw [hkept] at hback
  obtain ⟨_, _, hin⟩ := inOrder_of_parse (htakes [])
  -- the chunks that are shown are those of the given entries
  have hviews : List.Forall₂ (Entry.SavedAs charset) (visibleEntries r.entries)
      (Save.sortBy Entry.index given) := by
    rw [← Save.filter_visible_entries hd hgiven hsizes]
    refine List.rel_filter (fun view e hve => ?_) hsaved
    show (entryKey? view.1 view.2).isSome = true ↔ _
    rw [visible_iff_entryKey? hve.schema]
  have hshown := shows_of_savedAs hviews fun e he => hback e (Save.mem_sortBy.1 he)
  rw [Record.valueBy_eq_ok hd hin]
  refine ⟨_, hshown, (shown_of_inOrder hin hshown).1, ?_⟩
  rw [Value.normalRecord, hkept, Save.sortBy_map (f := Value.normalEntry Value.normal)
    (k := Entry.index) fun _ => rfl]

/-- Rows that were saved are read one after the other. -/
theorem Table.takes_parseRows {d : Schema} (hd : d.ConsistentRecord) {rows : List (UInt32 × Value)}
    (hback : ∀ r ∈ rows, ∀ e ∈ r.2.keptEntries d, e.ReadsBack charset) {previous : UInt32}
    (hascending : (previous :: rows.map Prod.fst).Pairwise (· ≤ ·)) {bytes : List UInt8}
    (h : Save.writeRows (Value.savedSize charset) (Value.save charset) d rows = .ok bytes) (pos : Nat) :
    ∃ records, (parseRows d rows.length previous).Takes pos bytes records ∧
      List.Forall₂ (Record.ShowsRow (Chunk.toValue charset)) records
        (rows.map fun r => (r.1, Value.normalRecord Value.normal d r.2)) := by
  induction rows generalizing previous bytes pos with
  | nil =>
    obtain rfl : [] = bytes := Except.ok.inj h
    exact ⟨[], Parse.takes_pure _ _, .nil⟩
  | cons r rows ih =>
    obtain ⟨i, row⟩ := r
    obtain ⟨record, rest, hrecord, hrest, rfl⟩ := Save.writeRows_cons_eq_ok.1 h
    -- the index of each row is the bound for the next
    obtain ⟨habove, hrows⟩ := List.pairwise_cons.1 hascending
    have hi : previous ≤ i := habove i List.mem_cons_self
    rw [← Value.saveRecord_eq] at hrecord
    obtain ⟨r, hr, hindex, hvalue⟩ := Record.readsBack hd hrecord (hback (i, row) List.mem_cons_self) (some i)
      (pos + (Varint.encode i).length)
    obtain ⟨records, hrecords, hshows⟩ := ih (fun s hs => hback s (List.mem_cons_of_mem _ hs)) hrows hrest
      (pos + (Varint.encode i).length + record.length)
    refine ⟨r :: records, ?_, .cons ⟨?_, hvalue⟩ hshows⟩
    · rw [List.append_assoc, List.length_cons]
      refine Parse.takes_position_bind ((Varint.takes_parse pos i).bind ?_)
      rw [if_neg (by simpa using hi)]
      exact hr.bind (hrecords.map (List.cons r))
    · rw [Record.index, hindex, Option.getD_some]

theorem length_le_of_writeRows {size : Value → Schema → Except Error Nat}
    {write : Value → Schema → Except Error (List UInt8)} {d : Schema} {rows : List (UInt32 × Value)}
    {bytes : List UInt8} (h : Save.writeRows size write d rows = .ok bytes) : rows.length ≤ bytes.length := by
  induction rows generalizing bytes with
  | nil => simp
  | cons r rows ih =>
    obtain ⟨record, rest, _, hrest, rfl⟩ := Save.writeRows_cons_eq_ok.1 h
    have := ih hrest
    have := Varint.size_pos r.1
    simp only [List.length_append, Varint.length_encode, List.length_cons]
    omega

/-- A table is its number of rows and then its rows, each of which takes some bytes. -/
theorem Table.takes_parse {d : Schema} {count pos : Nat} {rows : List Record} {bytes : List UInt8}
    (hcount : count < 0x100000000) (hle : count ≤ bytes.length)
    (h : (parseRows d count 0).Takes (pos + (Varint.encodeLength count).length) bytes rows) :
    (parse d).Takes pos (Varint.encodeLength count ++ bytes)
      ⟨d, rows, pos, (Varint.encodeLength count ++ bytes).length⟩ := by
  intro rest
  rw [parse, List.append_assoc]
  refine Parse.bind_eq_ok.2 ⟨pos, _, rfl, ?_⟩
  refine Parse.bind_eq_ok.2 ⟨_, _, Varint.takes_parseLength pos hcount _, ?_⟩
  refine Parse.bind_eq_ok.2 ⟨(), ⟨_, bytes ++ rest⟩, ?_, Parse.bind_eq_ok.2 ⟨_, _, h rest, ?_⟩⟩
  · refine Parse.atMostRemaining_eq_ok.2 ⟨?_, rfl⟩
    simp only [List.length_append]
    omega
  · refine Parse.bind_eq_ok.2 ⟨_, _, rfl, ?_⟩
    simp only [List.length_append, Nat.add_assoc, Nat.add_sub_cancel_left]
    rfl

/-- A table that was saved is read as its normal form. -/
theorem Table.readsBack {d : Schema} {v : Value} {bytes : List UInt8} (hd : d.ConsistentRecord)
    (h : v.saveTable charset d = .ok bytes) (hcount : v.tableRows.length < 0x100000000)
    (hback : ∀ r ∈ v.tableRows, ∀ e ∈ r.2.keptEntries d, e.ReadsBack charset) (pos : Nat) :
    ∃ t, (parse d).Takes pos bytes t ∧
      t.valueBy (Chunk.toValue charset) = .ok (Value.normalTable Value.normal d v) := by
  rw [Value.saveTable_eq] at h
  obtain ⟨rows, records, hrows, hrecords, rfl⟩ := Save.writeTable_eq_ok.1 h
  obtain rfl := Value.sortBy_tableRows hrows
  rw [← Save.length_sortBy (k := Prod.fst)] at hcount
  have hascending : (0 :: (Save.sortBy Prod.fst v.tableRows).map Prod.fst).Pairwise (· ≤ ·) :=
    List.pairwise_cons.2 ⟨fun i _ => UInt32.zero_le, List.pairwise_map.2 (Save.sortBy_ascending v.tableRows)⟩
  obtain ⟨views, hviews, hshows⟩ :=
    takes_parseRows hd (fun r hr => hback r (Save.mem_sortBy.1 hr)) hascending hrecords
      (pos + (Varint.encodeLength (Save.sortBy Prod.fst v.tableRows).length).length)
  have htakes := takes_parse hcount (length_le_of_writeRows hrecords) hviews
  refine ⟨_, htakes, ?_⟩
  obtain ⟨_, hin, _⟩ := inOrder_of_parse (htakes [])
  rw [Table.valueBy_eq_ok hin]
  refine ⟨_, hshows, ?_⟩
  rw [Value.normalTable,
    Save.sortBy_map (f := fun r : UInt32 × Value => (r.1, Value.normalRecord Value.normal d r.2))
      (k := Prod.fst) fun _ => rfl]

end ChunkTree
