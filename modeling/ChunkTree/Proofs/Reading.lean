import ChunkTree.Proofs.Local
import ChunkTree.View.Table

/-!
# How records and tables are read

`Record.Reads` says what reading the chunks of a record does: it ends where the range ends or with a zero,
and before that each chunk takes an index, a length and so many bytes.  `Table.Reads` says the same of rows.
Parsing a record or a table is reading in this sense (`Record.parse_eq_ok`, `Table.parse_eq_ok`); the bound on the
number of chunks does not matter.  Neither does where the range ends, as long as it holds what is read
(`Record.within_parse`, `Table.within_parse`).
-/

namespace ChunkTree

namespace Record

/-- What reading chunks with an index above `previous` does. -/
inductive Reads (schema : Schema) : UInt32 → Cursor → List (UInt32 × Chunk) → Cursor → Prop where
  | done {previous : UInt32} {c : Cursor} (h : c.rest = []) : Reads schema previous c [] c
  | stop {previous : UInt32} {c c' : Cursor} (h : Varint.parse c = .ok 0 c') : Reads schema previous c [] c'
  | chunk {previous index : UInt32} {length : Nat} {bytes : List UInt8} {c c₁ c₂ c₃ c' : Cursor}
      {entries : List (UInt32 × Chunk)} (hindex : Varint.parse c = .ok index c₁) (hprevious : previous < index)
      (hlength : Varint.parseLength c₁ = .ok length c₂) (hbytes : Parse.bytes length c₂ = .ok bytes c₃)
      (rest : Reads schema index c₃ entries c') :
      Reads schema previous c ((index, ⟨schema.find? (.index index), some ⟨c₂.pos, bytes⟩⟩) :: entries) c'

variable {schema : Schema} {previous : UInt32} {row : Option UInt32} {c c' : Cursor}
  {entries : List (UInt32 × Chunk)} {r : Record}

theorem reads_of_parseEntries {bound : Nat} (hbound : c.rest.length ≤ bound)
    (h : parseEntries schema bound previous c = .ok entries c') : Reads schema previous c entries c' := by
  induction bound generalizing previous c entries with
  | zero =>
    obtain ⟨rfl, rfl⟩ := Parse.pure_eq_ok.1 h
    exact .done (List.length_eq_zero_iff.1 (Nat.le_zero.1 hbound))
  | succ bound ih =>
    rw [parseEntries] at h
    obtain ⟨empty, _, hempty, h⟩ := Parse.bind_eq_ok.1 h
    obtain ⟨rfl, rfl⟩ := Parse.isEmpty_eq_ok.1 hempty
    split at h
    · obtain ⟨rfl, rfl⟩ := Parse.pure_eq_ok.1 h
      exact .done (List.isEmpty_iff.1 ‹_›)
    obtain ⟨start, _, hstart, h⟩ := Parse.bind_eq_ok.1 h
    obtain ⟨rfl, rfl⟩ := Parse.position_eq_ok.1 hstart
    obtain ⟨index, c₁, hindex, h⟩ := Parse.bind_eq_ok.1 h
    have h₁ := Varint.moves_parse hindex
    split at h
    · rename_i hzero
      obtain ⟨rfl, rfl⟩ := Parse.pure_eq_ok.1 h
      exact .stop (hzero ▸ hindex)
    split at h
    · obtain ⟨_, _, hthrow, _⟩ := Parse.bind_eq_ok.1 h
      exact absurd hthrow Parse.throw_ne_ok
    rename_i hprevious
    obtain ⟨length, c₂, hlength, h⟩ := Parse.bind_eq_ok.1 h
    have h₂ := Varint.moves_parseLength hlength
    obtain ⟨offset, _, hoffset, h⟩ := Parse.bind_eq_ok.1 h
    obtain ⟨rfl, rfl⟩ := Parse.position_eq_ok.1 hoffset
    obtain ⟨bytes, c₃, hbytes, h⟩ := Parse.bind_eq_ok.1 h
    have h₃ := ((Parse.local_bytes _).within hbytes).leads.length_le
    obtain ⟨rest, c₄, hrest, h⟩ := Parse.bind_eq_ok.1 h
    obtain ⟨rfl, rfl⟩ := Parse.pure_eq_ok.1 h
    exact .chunk hindex (by simpa using hprevious) hlength hbytes (ih (by omega) hrest)

theorem Reads.parseEntries (h : Reads schema previous c entries c') {bound : Nat}
    (hbound : c.rest.length ≤ bound) : parseEntries schema bound previous c = .ok entries c' := by
  induction h generalizing bound with
  | @done previous c h =>
    cases bound with
    | zero => rfl
    | succ bound => exact Parse.bind_eq_ok.2 ⟨true, c, by simp [Parse.isEmpty, h], rfl⟩
  | @stop previous c c' h =>
    have hlt := Varint.moves_parse h
    obtain ⟨bound, rfl⟩ := Nat.exists_eq_succ_of_ne_zero (n := bound) (by omega)
    have hne : c.rest ≠ [] := List.length_pos_iff.1 (by omega)
    refine Parse.bind_eq_ok.2 ⟨false, c, by simp [Parse.isEmpty, hne], ?_⟩
    exact Parse.bind_eq_ok.2 ⟨c.pos, c, rfl, Parse.bind_eq_ok.2 ⟨0, c', h, rfl⟩⟩
  | @chunk previous index length bytes c c₁ c₂ c₃ c' entries hindex hprevious hlength hbytes _ ih =>
    have h₁ := Varint.moves_parse hindex
    have h₂ := Varint.moves_parseLength hlength
    have h₃ := ((Parse.local_bytes _).within hbytes).leads.length_le
    obtain ⟨bound, rfl⟩ := Nat.exists_eq_succ_of_ne_zero (n := bound) (by omega)
    have hne : c.rest ≠ [] := List.length_pos_iff.1 (by omega)
    have hzero : index ≠ 0 := by
      rintro rfl
      exact UInt32.not_lt_zero hprevious
    refine Parse.bind_eq_ok.2 ⟨false, c, by simp [Parse.isEmpty, hne], ?_⟩
    refine Parse.bind_eq_ok.2 ⟨c.pos, c, rfl, Parse.bind_eq_ok.2 ⟨index, c₁, hindex, ?_⟩⟩
    rw [if_neg hzero, if_neg (by simpa using hprevious)]
    refine Parse.bind_eq_ok.2 ⟨length, c₂, hlength, Parse.bind_eq_ok.2 ⟨c₂.pos, c₂, rfl, ?_⟩⟩
    exact Parse.bind_eq_ok.2 ⟨bytes, c₃, hbytes, Parse.bind_eq_ok.2 ⟨entries, c', ih (by omega), rfl⟩⟩

/-- Reading looks no further than it goes: where the range ends makes no difference after a zero. -/
theorem Reads.within (h : Reads schema previous c entries c') :
    Cursor.Within (fun a b => Reads schema previous a entries b) c c' := by
  induction h with
  | @done previous c h =>
    refine ⟨[], rfl, rfl, fun more hmore => .done ?_⟩
    rwa [h, List.prefix_nil] at hmore
  | stop h => exact (Varint.local_parse.within h).imp fun _ _ _ _ h => .stop h
  | chunk hindex hprevious hlength hbytes _ ih =>
    refine ((Varint.local_parse.within hindex).trans ((Varint.local_parseLength.within hlength).trans
      (((Parse.local_bytes _).within hbytes).trans ih))).imp ?_
    rintro a b _ _ ⟨c₁, _, hindex, c₂, hpos, hlength, c₃, _, hbytes, hrest⟩
    have := Reads.chunk hindex hprevious hlength hbytes hrest
    rwa [hpos] at this

/-- A record is its chunks and the range that they were read from. -/
theorem parse_eq_ok : parse schema row c = .ok r c' ↔
    ∃ entries, Reads schema 0 c entries c' ∧ r = ⟨schema, entries, row, c.pos, c'.pos - c.pos⟩ := by
  rw [parse]
  constructor
  · intro h
    obtain ⟨offset, _, hoffset, h⟩ := Parse.bind_eq_ok.1 h
    obtain ⟨rfl, rfl⟩ := Parse.position_eq_ok.1 hoffset
    obtain ⟨entries, c₁, hentries, h⟩ := Parse.bind_eq_ok.1 h
    obtain ⟨stop, _, hstop, h⟩ := Parse.bind_eq_ok.1 h
    obtain ⟨rfl, rfl⟩ := Parse.position_eq_ok.1 hstop
    obtain ⟨rfl, rfl⟩ := Parse.pure_eq_ok.1 h
    exact ⟨entries, reads_of_parseEntries (le_refl _) hentries, rfl⟩
  · rintro ⟨entries, hentries, rfl⟩
    refine Parse.bind_eq_ok.2 ⟨c.pos, c, rfl, ?_⟩
    exact Parse.bind_eq_ok.2 ⟨entries, c', hentries.parseEntries (le_refl _), rfl⟩

theorem within_parse (h : parse schema row c = .ok r c') :
    Cursor.Within (fun a b => parse schema row a = .ok r b) c c' := by
  obtain ⟨entries, hentries, rfl⟩ := parse_eq_ok.1 h
  refine hentries.within.imp fun a b ha hb h => parse_eq_ok.2 ⟨entries, h, ?_⟩
  rw [ha, hb]

end Record

namespace Table

/-- What reading rows with an index not below `previous` does. -/
inductive Reads (schema : Schema) : UInt32 → Cursor → List Record → Cursor → Prop where
  | nil {previous : UInt32} {c : Cursor} : Reads schema previous c [] c
  | row {previous index : UInt32} {c c₁ c₂ c' : Cursor} {row : Record} {rows : List Record}
      (hindex : Varint.parse c = .ok index c₁) (hprevious : previous ≤ index)
      (hrow : Record.parse schema (some index) c₁ = .ok row c₂) (rest : Reads schema index c₂ rows c') :
      Reads schema previous c (row :: rows) c'

variable {schema : Schema} {previous : UInt32} {count : Nat} {c c' : Cursor} {rows : List Record} {t : Table}

theorem parseRows_eq_ok : parseRows schema count previous c = .ok rows c' ↔
    Reads schema previous c rows c' ∧ rows.length = count := by
  constructor
  · intro h
    induction count generalizing previous c rows with
    | zero =>
      obtain ⟨rfl, rfl⟩ := Parse.pure_eq_ok.1 h
      exact ⟨.nil, rfl⟩
    | succ count ih =>
      rw [parseRows] at h
      obtain ⟨start, _, hstart, h⟩ := Parse.bind_eq_ok.1 h
      obtain ⟨rfl, rfl⟩ := Parse.position_eq_ok.1 hstart
      obtain ⟨index, c₁, hindex, h⟩ := Parse.bind_eq_ok.1 h
      split at h
      · obtain ⟨_, _, hthrow, _⟩ := Parse.bind_eq_ok.1 h
        exact absurd hthrow Parse.throw_ne_ok
      rename_i hprevious
      obtain ⟨row, c₂, hrow, h⟩ := Parse.bind_eq_ok.1 h
      obtain ⟨rest, c₃, hrest, h⟩ := Parse.bind_eq_ok.1 h
      obtain ⟨rfl, rfl⟩ := Parse.pure_eq_ok.1 h
      obtain ⟨hreads, hlength⟩ := ih hrest
      exact ⟨.row hindex (by simpa using hprevious) hrow hreads, by rw [List.length_cons, hlength]⟩
  · rintro ⟨h, rfl⟩
    induction h with
    | nil => rfl
    | @row previous index c c₁ c₂ c' row rows hindex hprevious hrow _ ih =>
      refine Parse.bind_eq_ok.2 ⟨c.pos, c, rfl, Parse.bind_eq_ok.2 ⟨index, c₁, hindex, ?_⟩⟩
      rw [if_neg (by simpa using hprevious)]
      exact Parse.bind_eq_ok.2 ⟨row, c₂, hrow, Parse.bind_eq_ok.2 ⟨rows, c', ih, rfl⟩⟩

theorem Reads.within (h : Reads schema previous c rows c') :
    Cursor.Within (fun a b => Reads schema previous a rows b) c c' := by
  induction h with
  | nil => exact .refl fun _ => .nil
  | row hindex hprevious hrow _ ih =>
    refine ((Varint.local_parse.within hindex).trans ((Record.within_parse hrow).trans ih)).imp ?_
    rintro a b _ _ ⟨c₁, _, hindex, c₂, _, hrow, hrest⟩
    exact .row hindex hprevious hrow hrest

/-- Every row takes at least one byte. -/
theorem Reads.length_le (h : Reads schema previous c rows c') :
    rows.length + c'.rest.length ≤ c.rest.length := by
  induction h with
  | nil => simp
  | row hindex _ hrow _ ih =>
    have := Varint.moves_parse hindex
    have := (Record.within_parse hrow).leads.length_le
    rw [List.length_cons]
    omega

/-- A table is as many rows as announced, and no more are announced than there are bytes. -/
theorem parse_eq_ok : parse schema c = .ok t c' ↔ ∃ count c₁ rows, Varint.parseLength c = .ok count c₁ ∧
    count ≤ c₁.rest.length ∧ Reads schema 0 c₁ rows c' ∧ rows.length = count ∧
      t = ⟨schema, rows, c.pos, c'.pos - c.pos⟩ := by
  rw [parse]
  constructor
  · intro h
    obtain ⟨offset, _, hoffset, h⟩ := Parse.bind_eq_ok.1 h
    obtain ⟨rfl, rfl⟩ := Parse.position_eq_ok.1 hoffset
    obtain ⟨count, c₁, hcount, h⟩ := Parse.bind_eq_ok.1 h
    obtain ⟨_, c₂, hfits, h⟩ := Parse.bind_eq_ok.1 h
    obtain ⟨hle, rfl⟩ := Parse.atMostRemaining_eq_ok.1 hfits
    obtain ⟨rows, c₃, hrows, h⟩ := Parse.bind_eq_ok.1 h
    obtain ⟨stop, _, hstop, h⟩ := Parse.bind_eq_ok.1 h
    obtain ⟨rfl, rfl⟩ := Parse.position_eq_ok.1 hstop
    obtain ⟨rfl, rfl⟩ := Parse.pure_eq_ok.1 h
    obtain ⟨hreads, hlength⟩ := parseRows_eq_ok.1 hrows
    exact ⟨count, c₁, rows, hcount, hle, hreads, hlength, rfl⟩
  · rintro ⟨count, c₁, rows, hcount, hle, hreads, hlength, rfl⟩
    refine Parse.bind_eq_ok.2 ⟨c.pos, c, rfl, Parse.bind_eq_ok.2 ⟨count, c₁, hcount, ?_⟩⟩
    refine Parse.bind_eq_ok.2 ⟨(), c₁, Parse.atMostRemaining_eq_ok.2 ⟨hle, rfl⟩, ?_⟩
    exact Parse.bind_eq_ok.2 ⟨rows, c', parseRows_eq_ok.2 ⟨hreads, hlength⟩, rfl⟩

/-- The number of rows is checked against the range, but the rows themselves fill as many bytes. -/
theorem within_parse (h : parse schema c = .ok t c') :
    Cursor.Within (fun a b => parse schema a = .ok t b) c c' := by
  obtain ⟨count, c₁, rows, hcount, _, hreads, hlength, rfl⟩ := parse_eq_ok.1 h
  refine ((Varint.local_parseLength.within hcount).trans hreads.within).imp ?_
  rintro a b ha hb ⟨c₁, _, hcount, hreads⟩
  have := hreads.length_le
  exact parse_eq_ok.2 ⟨count, c₁, rows, hcount, by omega, hreads, hlength, by rw [ha, hb]⟩

end Table

end ChunkTree
