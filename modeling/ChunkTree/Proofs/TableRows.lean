import ChunkTree.Proofs.FieldAccess

/-!
# Rows survive the object of a table

The object of a table keeps further rows of an index with the first row of that index, and the rows of an object
are gathered key by key and then sorted.  Every row has a value without further rows (`isRow_of_valueBy`), so what
is gathered is each row of the table again, in its place (`Table.rowsOf_toValue`).  Sorting keeps the rows of an
index in order, so the rows of a key stay side by side (`Save.infix_sortBy`).
-/

namespace ChunkTree

open Text (Charset)

variable {charset : Charset}

/-- The value of a row, without further rows of its index. -/
def Value.withoutRest : Value → Value
  | .object fields => .object (fields.filter fun f => f.1 != restKey)
  | v => v

theorem IsRow.withoutRest {v : Value} (h : IsRow v) (rest : List Value) : (withRest v rest).withoutRest = v := by
  obtain ⟨fields, rfl, hnew⟩ := h
  have hfields : fields.filter (fun f => f.1 != restKey) = fields := by
    refine List.filter_eq_self.2 fun f hf => bne_iff_ne.2 ?_
    rintro hkey
    exact hnew (hkey ▸ List.mem_map_of_mem hf)
  by_cases hrest : rest = []
  · rw [hrest, withRest_nil, Value.withoutRest, hfields]
  · rw [withRest_object fields hrest, Value.withoutRest, List.filter_append, hfields,
      List.filter_cons_of_neg (by simp), List.filter_nil, List.append_nil]

/-! ## From a table to its object and back -/

namespace Table

variable {d : Schema} {previous : UInt32} {c c' : Cursor} {rows : List Record} {t : Table}

/-- Each row of a table is a record that was read inside the table. -/
theorem Reads.exists_parse (h : Reads d previous c rows c') :
    ∀ row ∈ rows, ∃ e e', Record.parse d row.row e = .ok row e' ∧ row.length + c.pos ≤ c'.pos := by
  induction h with
  | nil => simp
  | @row previous index c c₁ c₂ c' row rows hindex _ hrow rest ih =>
    have h₁ := (Varint.local_parse.within hindex).leads.pos_le
    have h₂ := (Record.within_parse hrow).leads.pos_le
    have h₃ := rest.within.leads.pos_le
    obtain ⟨_, _, rfl⟩ := Record.parse_eq_ok.1 hrow
    refine List.forall_mem_cons.2 ⟨⟨c₁, c₂, hrow, ?_⟩, fun s hs => ?_⟩
    · simp only
      omega
    · obtain ⟨e, e', hs, hlength⟩ := ih s hs
      exact ⟨e, e', hs, by omega⟩

/-- The value of a table is made of those of the chunks in its rows, and so is the value of each row. -/
theorem toValue_eq (charset : Charset) (h : parse d c = .ok t c') :
    t.toValue charset = t.valueBy (Chunk.toValue charset) ∧
      ∀ row ∈ t.rows, row.toValue charset = row.valueBy (Chunk.toValue charset) := by
  obtain ⟨count, c₁, rows, hcount, _, hreads, _, rfl⟩ := parse_eq_ok.1 h
  have hstart := (Varint.local_parseLength.within hcount).leads.pos_le
  refine ⟨valueBy_congr fun row hrow e he => Chunk.valueWithin_eq ?_ (Nat.lt_succ_self _), fun row hrow => ?_⟩
  · obtain ⟨_, _, hparse, hlength⟩ := hreads.exists_parse row hrow
    have := Record.length_le_of_mem_entries hparse he
    simp only
    omega
  · obtain ⟨_, _, hparse, _⟩ := hreads.exists_parse row hrow
    exact Record.toValue_eq hparse

/-- The rows of the object of a table are those of the table. -/
theorem rowsOf_toValue {o : Value} (h : parse d c = .ok t c') (ho : t.toValue charset = .ok o) (s : Schema) :
    ∃ rows, Save.rowsOf s o = .ok rows ∧
      List.Forall₂ (fun row r => r.1 = row.index ∧ row.toValue charset = .ok r.2.withoutRest) t.rows rows := by
  obtain ⟨htable, hrow⟩ := toValue_eq charset h
  obtain ⟨hschema, hin, _⟩ := inOrder_of_parse h
  subst hschema
  rw [htable] at ho
  obtain ⟨values, hvalues, rfl⟩ := (Table.valueBy_eq_ok hin).1 ho
  obtain ⟨hascending, _, hisRow⟩ := rows_of_inOrder hin hvalues
  obtain ⟨rows, hrows, hagain⟩ := Save.rowsOf_tableFields (d := s) hisRow hascending
  have hagain' : List.Forall₂ (fun v r => RowAgain v r ∧ IsRow v.2) values rows :=
    forall₂_imp_mem hagain fun v hv _ _ hr => ⟨hr, hisRow v hv⟩
  refine ⟨rows, hrows, forall₂_imp_mem (forall₂_trans hvalues hagain') fun row hmem r _ hr => ?_⟩
  obtain ⟨v, ⟨hindex, hvalue⟩, ⟨hindex', rest, hrest⟩, hv⟩ := hr
  refine ⟨hindex'.trans hindex, ?_⟩
  rw [hrow row hmem, hvalue, hrest, hv.withoutRest]

end Table

/-! ## From an object to its rows -/

namespace Save

/-- The rows that an object gives for a key: the row of the key itself, and behind it those of its `_rest`. -/
def KeyRows (f : String × Value) (rows : List (UInt32 × Value)) : Prop :=
  ∃ i rest, index? f.1 = some i ∧
    (f.2.get? restKey = none ∧ rest = [] ∨ f.2.get? restKey = some (.array rest)) ∧
      rows = (i, f.2) :: rest.map (i, ·)

theorem keyRows_of_givenRows {s : Schema} {fields : Fields} {rows : List (UInt32 × Value)}
    (h : givenRows s fields = .ok rows) : ∃ blocks, List.Forall₂ KeyRows fields blocks ∧
      blocks.flatten = rows := by
  induction fields generalizing rows with
  | nil => exact ⟨[], .nil, (Except.ok.inj h)⟩
  | cons f fields ih =>
    obtain ⟨key, row⟩ := f
    obtain ⟨i, more, rest, hi, hmore, hrest, rfl⟩ := givenRows_cons_eq_ok.1 h
    obtain ⟨blocks, hblocks, rfl⟩ := ih hrest
    refine ⟨_, .cons ⟨i, more, hi, ?_, rfl⟩ hblocks, rfl⟩
    obtain h | ⟨array, harray, hitems⟩ := restOf_eq_ok hmore
    · exact .inl h
    · exact .inr (Value.eq_array_of_asArray hitems ▸ harray)

/-- The rows of an object are those of its keys, each key's side by side, in the order of their indices. -/
theorem blocks_of_rowsOf {s : Schema} {fields : Fields} {rows : List (UInt32 × Value)}
    (h : rowsOf s (.object fields) = .ok rows) :
    ∃ blocks, List.Forall₂ KeyRows fields blocks ∧ rows.Perm blocks.flatten ∧ rows.Pairwise (·.1 ≤ ·.1) ∧
      (∀ block ∈ blocks, block <:+: rows) ∧
        ∀ i, rows.filter (·.1 == i) = blocks.flatten.filter (·.1 == i) := by
  obtain ⟨_, given, hfields, hgiven, rfl⟩ := rowsOf_eq_ok.1 h
  obtain rfl := Option.some.inj hfields
  obtain ⟨blocks, hblocks, rfl⟩ := keyRows_of_givenRows hgiven
  refine ⟨blocks, hblocks, sortBy_perm _, sortBy_ascending _, fun block hblock => ?_, fun i => ?_⟩
  · obtain ⟨f, _, i, rest, _, _, rfl⟩ := exists_left_of_forall₂ hblocks hblock
    refine infix_sortBy (k := Prod.fst) (i := i) (List.infix_of_mem_flatten hblock) ?_
    simp
  · exact filter_key_sortBy i _

end Save

/-- The rows of a table survive its object.  The object of a table that was read gives one row for each row of the
table, in its order, with its index and, its `_rest` aside, with its value.  Whatever object gives rows, they are
those of its keys and of their `_rest`, in the order of their indices, with the rows of a key side by side and the
rows of an index in the order in which the object gives them. -/
theorem Table.rows_survive (charset : Charset) :
    (∀ (d : Schema) (c c' : Cursor) (t : Table) (o : Value), Table.parse d c = .ok t c' →
      t.toValue charset = .ok o → ∀ s, ∃ rows, Save.rowsOf s o = .ok rows ∧
        List.Forall₂ (fun row r => r.1 = row.index ∧ row.toValue charset = .ok r.2.withoutRest) t.rows rows) ∧
      ∀ (s : Schema) (fields : Fields) (rows : List (UInt32 × Value)),
        Save.rowsOf s (.object fields) = .ok rows →
          ∃ blocks, List.Forall₂ Save.KeyRows fields blocks ∧ rows.Perm blocks.flatten ∧
            rows.Pairwise (·.1 ≤ ·.1) ∧ (∀ block ∈ blocks, block <:+: rows) ∧
              ∀ i, rows.filter (·.1 == i) = blocks.flatten.filter (·.1 == i) :=
  ⟨fun _ _ _ _ _ h ho s => rowsOf_toValue h ho s, fun _ _ _ h => Save.blocks_of_rowsOf h⟩

/-- Two rows of index 1 and one of index 2, and an object that spells the index 1 in two ways behind the index 2. -/
theorem Table.rows_survive_learning :
    let d : Schema := ⟨Document.learning⟩
    let bytes : List UInt8 := [3, 1, 1, 1, 7, 0, 1, 0, 2, 1, 1, 9, 0]
    let fields : Fields := [("2", .null), ("01", .object [(restKey, .array [.int 5])]), ("1", .int 6)]
    (∃ t o rows, Table.parse d ⟨0, bytes⟩ = .ok t ⟨13, []⟩ ∧ t.toValue .utf8 = .ok o ∧
      t.rows.map Record.index = [1, 1, 2] ∧ Save.rowsOf d o = .ok rows ∧
        List.Forall₂ (fun row r => r.1 = row.index ∧ row.toValue .utf8 = .ok r.2.withoutRest) t.rows rows) ∧
      ∃ rows blocks, Save.rowsOf d (.object fields) = .ok rows ∧ rows.map Prod.fst = [1, 1, 1, 2] ∧
        List.Forall₂ Save.KeyRows fields blocks ∧ rows.Perm blocks.flatten ∧
          (∀ block ∈ blocks, block <:+: rows) ∧
            ∀ i, rows.filter (·.1 == i) = blocks.flatten.filter (·.1 == i) := by
  intro d bytes fields
  obtain ⟨hback, hblocks⟩ := Table.rows_survive .utf8
  constructor
  · obtain ⟨t, ht, hindex⟩ : ∃ t, Table.parse d ⟨0, bytes⟩ = .ok t ⟨13, []⟩ ∧ t.rows.map Record.index = [1, 1, 2] :=
      ⟨_, rfl, rfl⟩
    obtain ⟨o, ho⟩ : ∃ o, t.toValue .utf8 = .ok o := by
      obtain rfl := (EStateM.Result.ok.inj ht).1
      exact ⟨_, rfl⟩
    obtain ⟨rows, hrows, hsame⟩ := hback d _ _ t o ht ho d
    exact ⟨t, o, rows, ht, ho, hindex, hrows, hsame⟩
  · obtain ⟨rows, hrows, hindex⟩ : ∃ rows, Save.rowsOf d (.object fields) = .ok rows ∧
        rows.map Prod.fst = [1, 1, 1, 2] := ⟨_, rfl, rfl⟩
    obtain ⟨blocks, hkeys, hperm, _, htogether, hfilter⟩ := hblocks d fields rows hrows
    exact ⟨rows, blocks, hrows, hindex, hkeys, hperm, htogether, hfilter⟩

end ChunkTree
