import ChunkTree.Proofs.Keys
import ChunkTree.Save.Write

/-!
# Saving looks only at what is nested in a value

The size and the bytes of a value depend on the sizes and bytes of values nested less deep, and on nothing
else.  So the bound on the nesting that `sizeWithin` and `writeWithin` carry can be forgotten:
`Value.savedSize_eq` and `Value.save_eq` unfold sizes and bytes by one level.
-/

namespace ChunkTree

open Text (Charset)

namespace Save

variable {size size' : Value → Schema → Except Error Nat}
  {write write' : Value → Schema → Except Error (List UInt8)} {schema : Schema} {v : Value}

theorem Entry.payloadSize_congr {e : Entry} (h : ∀ s, size e.value s = size' e.value s) :
    e.payloadSize size = e.payloadSize size' := by
  unfold Entry.payloadSize
  split
  · exact h _
  · rfl

theorem Entry.count_congr {e : Entry} (h : ∀ s, size e.value s = size' e.value s) :
    e.count size = e.count size' := by
  unfold Entry.count
  rw [Entry.payloadSize_congr h]

theorem sizeEntries_congr {given : List Entry} (h : ∀ e ∈ given, ∀ s, size e.value s = size' e.value s)
    (fields : List Schema) : sizeEntries size given fields = sizeEntries size' given fields := by
  induction fields with
  | nil => rfl
  | cons field fields ih =>
    rw [sizeEntries, sizeEntries, ih]
    split
    · split
      · rename_i entry hentry
        rw [Entry.count_congr (h entry (List.mem_of_find?_eq_some hentry))]
      · rfl
    · rfl

/-- Where the entry of a size field comes from. -/
theorem mem_sizeEntries {given sizes : List Entry} {fields : List Schema}
    (h : sizeEntries size given fields = .ok sizes) {e : Entry} (he : e ∈ sizes) :
    ∃ field ∈ fields, ∃ target described count, field.sizeOf? = some target ∧ field.index? = some e.index ∧
      given.find? (fun entry => entry.schema.bind Schema.name? == some target) = some described ∧
      described.count size = .ok count ∧ e = ⟨e.index, .ofNat count, some field⟩ := by
  induction fields generalizing sizes with
  | nil =>
    obtain rfl : [] = sizes := Except.ok.inj h
    simp at he
  | cons field fields ih =>
    have hrest : ∀ {rest}, sizeEntries size given fields = .ok rest → e ∈ rest → _ := fun hs hr => ih hs hr
    rw [sizeEntries] at h
    split at h
    · rename_i target index htarget hindex
      split at h
      · rename_i described hdescribed
        obtain ⟨count, hcount, h⟩ := bind_eq_ok.1 h
        obtain ⟨rest, hs, h⟩ := bind_eq_ok.1 h
        obtain rfl := pure_eq_ok.1 h
        rcases List.mem_cons.1 he with rfl | he
        · exact ⟨field, List.mem_cons_self, target, described, count, htarget, hindex, hdescribed,
            hcount, rfl⟩
        · obtain ⟨f, hf, hfields⟩ := hrest hs he
          exact ⟨f, List.mem_cons_of_mem _ hf, hfields⟩
      · obtain ⟨f, hf, hfields⟩ := hrest h he
        exact ⟨f, List.mem_cons_of_mem _ hf, hfields⟩
    · obtain ⟨f, hf, hfields⟩ := hrest h he
      exact ⟨f, List.mem_cons_of_mem _ hf, hfields⟩

/-- What the entries of a record are put together from. -/
theorem entriesOf_eq_ok {entries : List Entry} :
    entriesOf size schema v = .ok entries ↔ ∃ fields given sizes, v.asObject = some fields ∧
      givenEntries schema fields = .ok given ∧ sizeEntries size given schema.fields = .ok sizes ∧
      repeated? (sortBy Entry.index (given ++ sizes)) = none ∧
        sortBy Entry.index (given ++ sizes) = entries := by
  unfold entriesOf
  cases v.asObject with
  | none => simp [throw_ne_ok]
  | some fields =>
    simp only [bind_eq_ok]
    constructor
    · rintro ⟨given, hgiven, sizes, hsizes, h⟩
      split at h
      · exact absurd h throw_ne_ok
      · rename_i hnone
        exact ⟨fields, given, sizes, rfl, hgiven, hsizes, hnone, pure_eq_ok.1 h⟩
    · rintro ⟨_, given, sizes, ⟨⟩, hgiven, hsizes, hnone, rfl⟩
      refine ⟨given, hgiven, sizes, hsizes, ?_⟩
      rw [hnone]
      rfl

theorem depth_of_mem_entriesOf {entries : List Entry} (h : entriesOf size schema v = .ok entries) {e : Entry}
    (he : e ∈ entries) : e.value.depth < v.depth := by
  obtain ⟨fields, given, sizes, hv, hgiven, hsizes, _, rfl⟩ := entriesOf_eq_ok.1 h
  rcases List.mem_append.1 (mem_sortBy.1 he) with he | he
  · exact depth_of_mem_givenEntries hv hgiven he
  · obtain ⟨_, _, _, _, count, _, _, _, _, heq⟩ := mem_sizeEntries hsizes he
    rw [heq, Value.eq_object_of_asObject hv]
    simp [Value.ofNat, Value.depth]

theorem entriesOf_congr (h : ∀ x s, x.depth < v.depth → size x s = size' x s) :
    entriesOf size schema v = entriesOf size' schema v := by
  unfold entriesOf
  cases hv : v.asObject with
  | none => rfl
  | some fields =>
    cases hgiven : givenEntries schema fields with
    | error e => simp only [hgiven]; rfl
    | ok given =>
      simp only [hgiven, ok_bind]
      rw [sizeEntries_congr fun e he s => h e.value s (depth_of_mem_givenEntries hv hgiven he)]

theorem entriesSize_congr {entries : List Entry} (h : ∀ e ∈ entries, ∀ s, size e.value s = size' e.value s) :
    entriesSize size entries = entriesSize size' entries := by
  induction entries with
  | nil => rfl
  | cons e entries ih =>
    rw [entriesSize, entriesSize, Entry.payloadSize_congr (h e List.mem_cons_self),
      ih fun f hf => h f (List.mem_cons_of_mem e hf)]

theorem recordSize_congr (h : ∀ x s, x.depth < v.depth → size x s = size' x s) :
    recordSize size schema v = recordSize size' schema v := by
  rw [recordSize, recordSize, ← entriesOf_congr h]
  cases hentries : entriesOf size schema v with
  | error e => rfl
  | ok entries =>
    simp only [ok_bind]
    rw [entriesSize_congr fun e he s => h e.value s (depth_of_mem_entriesOf hentries he)]

theorem rowsSize_congr {n : Nat} (h : ∀ x s, x.depth < n → size x s = size' x s)
    {rows : List (UInt32 × Value)}
    (hrows : ∀ r ∈ rows, r.2.depth < n) : rowsSize size schema rows = rowsSize size' schema rows := by
  induction rows with
  | nil => rfl
  | cons r rows ih =>
    rw [rowsSize, rowsSize, ih fun s hs => hrows s (List.mem_cons_of_mem r hs),
      recordSize_congr fun x s hx => h x s (hx.trans (hrows r List.mem_cons_self))]

theorem tableSize_congr (h : ∀ x s, x.depth < v.depth → size x s = size' x s) :
    tableSize size schema v = tableSize size' schema v := by
  rw [tableSize, tableSize]
  cases hrows : rowsOf schema v with
  | error e => rfl
  | ok rows =>
    simp only [ok_bind]
    rw [rowsSize_congr h fun r hr => depth_of_mem_rowsOf hrows hr]

theorem sizeBy_congr (charset : Charset) (h : ∀ x s, x.depth < v.depth → size x s = size' x s) :
    sizeBy charset size v schema = sizeBy charset size' v schema := by
  rw [sizeBy, sizeBy]
  cases schema.resolve with
  | error e => rfl
  | ok r =>
    obtain ⟨kind, resolved⟩ := r
    cases kind with
    | record => simp only [ok_bind, recordSize_congr h]
    | table => simp only [ok_bind, tableSize_congr h]
    | _ => rfl

theorem sizeWithin_eq (charset : Charset) {m n : Nat} (hm : v.depth < m) (hn : v.depth < n) :
    sizeWithin charset m v schema = sizeWithin charset n v schema := by
  induction m generalizing n v schema with
  | zero => omega
  | succ m ih =>
    cases n with
    | zero => omega
    | succ n => exact sizeBy_congr charset fun x s hx => ih (by omega) (by omega)

end Save

theorem Value.savedSize_eq (charset : Charset) (v : Value) (schema : Schema) :
    v.savedSize charset schema = Save.sizeBy charset (Value.savedSize charset) v schema :=
  Save.sizeBy_congr charset fun _ _ hx => Save.sizeWithin_eq charset hx (Nat.lt_succ_self _)

namespace Save

variable {size size' : Value → Schema → Except Error Nat}
  {write write' : Value → Schema → Except Error (List UInt8)} {schema : Schema} {v : Value}

theorem Entry.payload_congr {e : Entry} (h : ∀ s, write e.value s = write' e.value s) :
    e.payload write = e.payload write' := by
  unfold Entry.payload
  split
  · exact h _
  · rfl

theorem writeEntries_congr {entries : List Entry} (hs : ∀ e ∈ entries, ∀ s, size e.value s = size' e.value s)
    (hw : ∀ e ∈ entries, ∀ s, write e.value s = write' e.value s) :
    writeEntries size write entries = writeEntries size' write' entries := by
  induction entries with
  | nil => rfl
  | cons e entries ih =>
    rw [writeEntries, writeEntries, Entry.payloadSize_congr (hs e List.mem_cons_self),
      Entry.payload_congr (hw e List.mem_cons_self),
      ih (fun f hf => hs f (List.mem_cons_of_mem e hf)) fun f hf => hw f (List.mem_cons_of_mem e hf)]

theorem writeRecord_congr (hs : ∀ x s, x.depth < v.depth → size x s = size' x s)
    (hw : ∀ x s, x.depth < v.depth → write x s = write' x s) :
    writeRecord size write schema v = writeRecord size' write' schema v := by
  rw [writeRecord, writeRecord, ← entriesOf_congr hs]
  cases hentries : entriesOf size schema v with
  | error e => rfl
  | ok entries =>
    simp only [ok_bind]
    rw [writeEntries_congr (fun e he s => hs e.value s (depth_of_mem_entriesOf hentries he))
      fun e he s => hw e.value s (depth_of_mem_entriesOf hentries he)]

theorem writeRows_congr {n : Nat} (hs : ∀ x s, x.depth < n → size x s = size' x s)
    (hw : ∀ x s, x.depth < n → write x s = write' x s) {rows : List (UInt32 × Value)}
    (hrows : ∀ r ∈ rows, r.2.depth < n) :
    writeRows size write schema rows = writeRows size' write' schema rows := by
  induction rows with
  | nil => rfl
  | cons r rows ih =>
    have hr := hrows r List.mem_cons_self
    rw [writeRows, writeRows, ih fun s hs => hrows s (List.mem_cons_of_mem r hs),
      writeRecord_congr (fun x s hx => hs x s (hx.trans hr)) fun x s hx => hw x s (hx.trans hr)]

theorem writeTable_congr (hs : ∀ x s, x.depth < v.depth → size x s = size' x s)
    (hw : ∀ x s, x.depth < v.depth → write x s = write' x s) :
    writeTable size write schema v = writeTable size' write' schema v := by
  rw [writeTable, writeTable]
  cases hrows : rowsOf schema v with
  | error e => rfl
  | ok rows =>
    simp only [ok_bind]
    rw [writeRows_congr hs hw fun r hr => depth_of_mem_rowsOf hrows hr]

theorem writeBy_congr (charset : Charset) (hs : ∀ x s, x.depth < v.depth → size x s = size' x s)
    (hw : ∀ x s, x.depth < v.depth → write x s = write' x s) :
    writeBy charset size write v schema = writeBy charset size' write' v schema := by
  rw [writeBy, writeBy]
  cases schema.resolve with
  | error e => rfl
  | ok r =>
    obtain ⟨kind, resolved⟩ := r
    cases kind with
    | record => simp only [ok_bind, writeRecord_congr hs hw]
    | table => simp only [ok_bind, writeTable_congr hs hw]
    | _ => rfl

theorem writeWithin_eq (charset : Charset) {m n : Nat} (hm : v.depth < m) (hn : v.depth < n) :
    writeWithin charset m v schema = writeWithin charset n v schema := by
  induction m generalizing n v schema with
  | zero => omega
  | succ m ih =>
    cases n with
    | zero => omega
    | succ n =>
      exact writeBy_congr charset (fun x s hx => sizeWithin_eq charset (by omega) (by omega))
        fun x s hx => ih (by omega) (by omega)

end Save

theorem Value.save_eq (charset : Charset) (v : Value) (schema : Schema) :
    v.save charset schema = Save.writeBy charset (Value.savedSize charset) (Value.save charset) v schema :=
  Save.writeBy_congr charset (fun _ _ hx => Save.sizeWithin_eq charset hx (Nat.lt_succ_self _))
    fun _ _ hx => Save.writeWithin_eq charset hx (Nat.lt_succ_self _)

theorem Value.saveRecord_eq (charset : Charset) (v : Value) (schema : Schema) :
    v.saveRecord charset schema =
      Save.writeRecord (Value.savedSize charset) (Value.save charset) schema v :=
  Save.writeRecord_congr (fun _ _ hx => Save.sizeWithin_eq charset hx (Nat.lt_succ_self _))
    fun _ _ hx => Save.writeWithin_eq charset hx (Nat.lt_succ_self _)

/-- Objects that give the same entries are saved alike, or fail alike. -/
theorem Value.saveRecord_congr_given {charset : Charset} {schema : Schema} {v w : Value} {fs gs : Fields}
    (hv : v.asObject = some fs) (hw : w.asObject = some gs)
    (h : Save.givenEntries schema fs = Save.givenEntries schema gs) :
    v.saveRecord charset schema = w.saveRecord charset schema := by
  simp only [saveRecord_eq, Save.writeRecord, Save.entriesOf, hv, hw, h]

theorem Value.saveTable_eq (charset : Charset) (v : Value) (schema : Schema) :
    v.saveTable charset schema =
      Save.writeTable (Value.savedSize charset) (Value.save charset) schema v :=
  Save.writeTable_congr (fun _ _ hx => Save.sizeWithin_eq charset hx (Nat.lt_succ_self _))
    fun _ _ hx => Save.writeWithin_eq charset hx (Nat.lt_succ_self _)

end ChunkTree
