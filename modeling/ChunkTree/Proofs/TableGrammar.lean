import ChunkTree.Proofs.Reading
import ChunkTree.Proofs.RecordGrammar

/-!
# The grammar of tables

A table is written as a count and so many rows, each a row index and a record (`Rows`).  A row that ends with its
range has no row after it, since a row takes at least the byte of its index; for the same reason a table never
announces more rows than there are bytes (`Rows.length_le`).
-/

namespace ChunkTree

namespace Table

/-- The bytes from `pos` on, before the bytes `after`, are rows with indices not below `previous`.  Each is an index
and a record with its zero; the zero of the last row may be left out at the end of the range. -/
inductive Rows (schema : Schema) : UInt32 → Nat → List UInt8 → List UInt8 → List Record → Prop where
  | nil {previous : UInt32} {pos : Nat} {after : List UInt8} : Rows schema previous pos [] after []
  | row {previous index : UInt32} {pos : Nat} {front bytes more after : List UInt8}
      {chunks : List (UInt32 × Payload)} {rows : List Record} (hindex : Varint.Spells front index)
      (hprevious : previous ≤ index) (hrow : Record.Closed (pos + front.length) bytes chunks)
      (rest : Rows schema index (pos + front.length + bytes.length) more after rows) :
      Rows schema previous pos (front ++ (bytes ++ more)) after
        (⟨schema, chunks.map (Record.chunkOf schema), some index, pos + front.length, bytes.length⟩ :: rows)
  | last {previous index : UInt32} {pos : Nat} {front bytes : List UInt8} {chunks : List (UInt32 × Payload)}
      (hindex : Varint.Spells front index) (hprevious : previous ≤ index)
      (hrow : Record.Chunks 0 (pos + front.length) bytes chunks) :
      Rows schema previous pos (front ++ bytes) []
        [⟨schema, chunks.map (Record.chunkOf schema), some index, pos + front.length, bytes.length⟩]

variable {schema : Schema} {previous : UInt32} {pos : Nat} {bytes after : List UInt8} {rows : List Record}

/-- Every row takes at least one byte. -/
theorem Rows.length_le (h : Rows schema previous pos bytes after rows) : rows.length ≤ bytes.length := by
  induction h with
  | nil => simp
  | row hindex _ _ _ ih =>
    have := List.length_pos_iff.2 hindex.ne_nil
    simp only [List.length_cons, List.length_append]
    omega
  | last hindex =>
    have := List.length_pos_iff.2 hindex.ne_nil
    simp only [List.length_cons, List.length_nil, List.length_append]
    omega

/-- Rows know their index, also those of index zero. -/
theorem Rows.isSome (h : Rows schema previous pos bytes after rows) : ∀ row ∈ rows, row.row.isSome := by
  induction h with
  | nil => simp
  | row _ _ _ _ ih => simpa using ih
  | last => simp

theorem Rows.reads (h : Rows schema previous pos bytes after rows) :
    Reads schema previous ⟨pos, bytes ++ after⟩ rows ⟨pos + bytes.length, after⟩ := by
  induction h with
  | nil => exact .nil
  | @row previous index pos front bytes more after chunks rows hindex hprevious hrow _ ih =>
    have hfront := Varint.parse_of_spells (c := ⟨pos, (front ++ (bytes ++ more)) ++ after⟩)
      (bytes ++ (more ++ after)) hindex (by simp)
    have hrecord : Record.parse schema (some index) ⟨pos + front.length, bytes ++ (more ++ after)⟩ = .ok _ _ :=
      Record.parse_of_written (more ++ after) (.inl hrow) rfl
    have := Reads.row hfront hprevious hrecord ih
    simpa [Nat.add_assoc] using this
  | @last previous index pos front bytes chunks hindex hprevious hrow =>
    have hfront := Varint.parse_of_spells (c := ⟨pos, (front ++ bytes) ++ []⟩) (bytes ++ []) hindex (by simp)
    have hrecord : Record.parse schema (some index) ⟨pos + front.length, bytes ++ []⟩ = .ok _ _ :=
      Record.parse_of_written [] (.inr ⟨hrow, rfl⟩) rfl
    have := Reads.row hfront hprevious hrecord .nil
    simpa [Nat.add_assoc] using this

/-- No row is read at the end of a range. -/
theorem Reads.eq_nil {c c' : Cursor} (h : Reads schema previous c rows c') (hc : c.rest = []) : rows = [] := by
  have := h.length_le
  rw [hc, List.length_nil] at this
  exact List.length_eq_zero_iff.1 (by omega)

theorem rows_of_reads {c c' : Cursor} (h : Reads schema previous c rows c') : ∃ bytes,
    c.rest = bytes ++ c'.rest ∧ c'.pos = c.pos + bytes.length ∧
      Rows schema previous c.pos bytes c'.rest rows := by
  induction h with
  | nil => exact ⟨[], rfl, rfl, .nil⟩
  | @row previous index c c₁ c₂ c' row rows hindex hprevious hrow rest ih =>
    obtain ⟨front, hfront, hc, hpos⟩ := Varint.parse_eq_ok.1 hindex
    obtain ⟨bytes, chunks, hc₁, hpos₁, hwritten, rfl⟩ := Record.parse_eq_ok_iff_written.1 hrow
    rw [hpos] at hwritten hpos₁ ⊢
    obtain hclosed | ⟨hchunks, hend⟩ := hwritten
    · obtain ⟨more, hc₂, hpos₂, hrows⟩ := ih
      rw [hpos₁] at hpos₂ hrows
      refine ⟨front ++ (bytes ++ more), by rw [hc, hc₁, hc₂]; simp, ?_, .row hfront hprevious hclosed hrows⟩
      rw [hpos₂]
      simp only [List.length_append]
      omega
    · -- the record ends with its range, so that no row follows
      obtain rfl := rest.eq_nil hend
      cases rest
      refine ⟨front ++ bytes, by rw [hc, hc₁, List.append_assoc], ?_, hend ▸ .last hfront hprevious hchunks⟩
      rw [hpos₁, List.length_append, Nat.add_assoc]

/-- As many rows as a table announces are not more than there are bytes. -/
theorem Rows.holds (h : Rows schema previous pos bytes after rows) :
    Cursor.holds ⟨pos, bytes ++ after⟩ rows.length := by
  have := h.length_le
  rw [Cursor.holds_iff, List.length_append]
  omega

/-- A table is read from exactly the ranges that start with one. -/
theorem parse_eq_ok_iff_rows {c c' : Cursor} {t : Table} : parse schema c = .ok t c' ↔
    ∃ front count bytes rows, c.rest = front ++ (bytes ++ c'.rest) ∧
      c'.pos = c.pos + (front.length + bytes.length) ∧ Varint.Spells front count ∧
        Rows schema 0 (c.pos + front.length) bytes c'.rest rows ∧ rows.length = count.toNat ∧
          t = ⟨schema, rows, c.pos, front.length + bytes.length⟩ := by
  rw [parse_eq_ok]
  constructor
  · rintro ⟨_, c₁, rows, h, _, hreads, hlength, rfl⟩
    obtain ⟨count, hcount, rfl⟩ := Varint.parseLength_eq_ok.1 h
    obtain ⟨front, hfront, hc, hpos⟩ := Varint.parse_eq_ok.1 hcount
    obtain ⟨bytes, hc₁, hpos', hrows⟩ := rows_of_reads hreads
    rw [hpos] at hpos' hrows
    refine ⟨front, count, bytes, rows, by rw [hc, hc₁], by omega, hfront, hrows, hlength, ?_⟩
    rw [hpos', Nat.add_assoc, Nat.add_sub_cancel_left]
  · rintro ⟨front, count, bytes, rows, hc, hpos, hfront, hrows, hlength, rfl⟩
    refine ⟨count.toNat, ⟨c.pos + front.length, bytes ++ c'.rest⟩, rows,
      Varint.parseLength_of_spells _ hfront hc, ?_, ?_, hlength, ?_⟩
    · exact hlength ▸ Cursor.holds_iff.1 hrows.holds
    · have := hrows.reads
      rwa [Nat.add_assoc, ← hpos] at this
    · rw [hpos, Nat.add_sub_cancel_left]

/-- The reader of tables accepts exactly the grammar.  A table has its rows in order and each knows its index; its
length is what was advanced.  That no more rows than bytes may be announced refuses nothing of the grammar. -/
theorem parse_follows_table_grammar (schema : Schema) (c : Cursor) :
    (∀ t c', parse schema c = .ok t c' ↔
      ∃ front count bytes rows, c.rest = front ++ (bytes ++ c'.rest) ∧
        c'.pos = c.pos + (front.length + bytes.length) ∧ Varint.Spells front count ∧
          Rows schema 0 (c.pos + front.length) bytes c'.rest rows ∧ rows.length = count.toNat ∧
            t = ⟨schema, rows, c.pos, front.length + bytes.length⟩) ∧
    (∀ t c', parse schema c = .ok t c' → ∀ row ∈ t.rows, row.row.isSome) ∧
    ∀ front count bytes after rows, c.rest = front ++ (bytes ++ after) → Varint.Spells front count →
      Rows schema 0 (c.pos + front.length) bytes after rows → rows.length = count.toNat →
        Cursor.holds ⟨c.pos + front.length, bytes ++ after⟩ count.toNat := by
  refine ⟨fun t c' => parse_eq_ok_iff_rows, ?_, ?_⟩
  · intro t c' h
    obtain ⟨_, _, _, _, _, _, _, hrows, _, rfl⟩ := parse_eq_ok_iff_rows.1 h
    exact hrows.isSome
  · intro front count bytes after rows _ _ hrows hlength
    exact hlength ▸ hrows.holds

/-- A row of index zero and, without its zero, one of index three. -/
theorem parse_rows_zero_and_three :
    let d : Schema := ⟨Document.switchDocument⟩
    let bytes : List UInt8 := [2, 0, 1, 1, 65, 0, 3, 1, 1, 66]
    ∃ t, parse d ⟨0, bytes⟩ = .ok t ⟨10, []⟩ ∧ t.rows.map Record.index = [0, 3] ∧
      (∀ row ∈ t.rows, row.row.isSome) ∧ Cursor.holds ⟨1, bytes.drop 1⟩ 2 := by
  intro d bytes
  have hspells : ∀ (b : UInt8) (v : UInt32), b < 0x80 → b.toUInt32 = v → Varint.Spells [b] v := by
    rintro b _ hb rfl
    exact Varint.spells_singleton hb
  have hone := hspells 1 1 (by decide) rfl
  have hchunks : ∀ pos b, Record.Chunks 0 pos [1, 1, b] [(1, ⟨pos + 2, [b]⟩)] := fun pos b =>
    @Record.Chunks.cons 0 1 1 pos [1] [1] [b] [] [] hone (by decide) hone rfl .nil
  have hzero := hspells 0 0 (by decide) rfl
  have hfirst : Record.Closed 2 [1, 1, 65, 0] [(1, ⟨4, [65]⟩)] := ⟨[1, 1, 65], [0], rfl, hchunks 2 65, hzero⟩
  have hlast : Rows d 0 6 [3, 1, 1, 66] [] _ :=
    .last (hspells 3 3 (by decide) rfl) (by decide) (hchunks 7 66)
  have hrows : Rows d 0 1 (bytes.drop 1) [] _ := .row hzero (by decide) hfirst hlast
  have hcount := hspells 2 2 (by decide) rfl
  obtain ⟨hread, hsome, hholds⟩ := parse_follows_table_grammar d ⟨0, bytes⟩
  have ht := (hread _ ⟨10, []⟩).2 ⟨[2], 2, bytes.drop 1, _, rfl, rfl, hcount, hrows, rfl, rfl⟩
  exact ⟨_, ht, rfl, hsome _ _ ht, hholds [2] 2 (bytes.drop 1) [] _ rfl hcount hrows rfl⟩

end Table

end ChunkTree
