import ChunkTree.Proofs.ReadAhead
import ChunkTree.Proofs.ViewNesting

/-!
# Where chunks lie

What is read of a range lies in it: the chunks of a record stand in order within the record, and the rows of a
table within the table, with some bytes in front of each (`Record.Placed`, `Table.Placed`).  Their payloads
are slices of the data that the range is taken from (`Payload.LiesIn`), whatever lengths the data announces.
-/

namespace ChunkTree

variable {data : List UInt8}

/-- Whether a cursor stands in the data where it says that it does. -/
def Cursor.LiesIn (data : List UInt8) (c : Cursor) : Prop :=
  ∃ before after, data = before ++ c.rest ++ after ∧ before.length = c.pos

/-- Whether a payload is a slice of the data, taken where it says that it starts. -/
def Payload.LiesIn (data : List UInt8) (p : Payload) : Prop :=
  Cursor.LiesIn data ⟨p.offset, p.bytes⟩

namespace Cursor.LiesIn

variable {c d : Cursor}

theorem leads (h : c.LiesIn data) (hleads : c.Leads d) : d.LiesIn data := by
  obtain ⟨before, after, hdata, hpos⟩ := h
  obtain ⟨used, hrest, hpos'⟩ := hleads
  refine ⟨before ++ used, after, by rw [hdata, hrest]; simp, ?_⟩
  rw [List.length_append, hpos, hpos']

/-- Bytes in front of a cursor lie in the data. -/
theorem payload (h : c.LiesIn data) {bytes : List UInt8} (hbytes : bytes <+: c.rest) :
    Payload.LiesIn data ⟨c.pos, bytes⟩ := by
  obtain ⟨before, after, hdata, hpos⟩ := h
  obtain ⟨more, hmore⟩ := hbytes
  exact ⟨before, more ++ after, by rw [hdata, ← hmore]; simp, hpos⟩

theorem stop_le (h : c.LiesIn data) : c.pos + c.rest.length ≤ data.length := by
  obtain ⟨before, after, hdata, hpos⟩ := h
  have := congrArg List.length hdata
  simp only [List.length_append] at this
  omega

theorem rest_eq (h : c.LiesIn data) : c.rest = (data.drop c.pos).take c.rest.length := by
  obtain ⟨before, after, hdata, hpos⟩ := h
  rw [hdata, ← hpos, List.append_assoc, List.drop_left, List.take_left]

end Cursor.LiesIn

/-! ## Ranges in order -/

/-- Whether items take ranges between two places, in order and with a gap before each. -/
structure LaidOut {α : Type} (offset length : α → Nat) (start stop : Nat) (xs : List α) : Prop where
  inside : ∀ x ∈ xs, start < offset x ∧ offset x + length x ≤ stop
  apart : xs.Pairwise fun x y => offset x + length x < offset y

namespace LaidOut

variable {α : Type} {offset length : α → Nat} {start stop : Nat}

theorem nil : LaidOut offset length start stop [] :=
  ⟨by simp, .nil⟩

theorem cons {x : α} {xs : List α} (hstart : start < offset x) (hstop : offset x + length x ≤ stop)
    (h : LaidOut offset length (offset x + length x) stop xs) :
    LaidOut offset length start stop (x :: xs) where
  inside := List.forall_mem_cons.2 ⟨⟨hstart, hstop⟩, fun y hy => by
    have := h.inside y hy
    omega⟩
  apart := List.pairwise_cons.2 ⟨fun y hy => (h.inside y hy).1, h.apart⟩

end LaidOut

/-! ## Records and tables -/

/-- Where the chunks of a record lie, and how they are numbered. -/
structure Record.Placed (data : List UInt8) (r : Record) : Prop where
  stop_le : r.offset + r.length ≤ data.length
  laidOut : LaidOut (fun e => e.2.offset) (fun e => e.2.length) r.offset (r.offset + r.length) r.entries
  /-- The indices are not zero and strictly increase. -/
  ascending : (0 :: r.entries.map Prod.fst).Pairwise (· < ·)
  present : ∀ e ∈ r.entries, ∃ p, e.2.payload = some p ∧ p.LiesIn data

/-- Where the rows of a table lie, and how they are numbered. -/
structure Table.Placed (data : List UInt8) (t : Table) : Prop where
  stop_le : t.offset + t.length ≤ data.length
  laidOut : LaidOut Record.offset Record.length t.offset (t.offset + t.length) t.rows
  /-- The indices do not decrease. -/
  ascending : t.rows.Pairwise (·.index ≤ ·.index)
  rows : ∀ row ∈ t.rows, row.Placed data

namespace Record

variable {schema : Schema} {previous : UInt32} {row : Option UInt32} {c c' : Cursor}
  {entries : List (UInt32 × Chunk)} {r : Record}

/-- Chunks that are read lie between where reading starts and where it stops. -/
theorem Reads.laidOut (h : Reads schema previous c entries c') :
    LaidOut (fun e => e.2.offset) (fun e => e.2.length) c.pos c'.pos entries := by
  induction h with
  | done | stop => exact .nil
  | @chunk previous index length bytes c c₁ c₂ c₃ c' entries hindex hprevious hlength hbytes hrest ih =>
    have h₁ := (Varint.local_parse.within hindex).leads.pos_add_length
    have hlt := Varint.moves_parse hindex
    have h₂ := (Varint.local_parseLength.within hlength).leads.pos_le
    obtain ⟨rfl, _, h₃⟩ := Parse.bytes_eq_ok.1 hbytes
    have h₄ := hrest.within.leads.pos_le
    refine .cons (by show c.pos < c₂.pos; omega) (by show c₂.pos + bytes.length ≤ c'.pos; omega) ?_
    show LaidOut _ _ (c₂.pos + bytes.length) _ _
    rwa [← h₃]

theorem Reads.present (h : Reads schema previous c entries c') (hc : c.LiesIn data) :
    ∀ e ∈ entries, ∃ p, e.2.payload = some p ∧ p.LiesIn data := by
  induction h with
  | done | stop => simp
  | chunk hindex hprevious hlength hbytes _ ih =>
    have h₂ := (hc.leads (Varint.local_parse.within hindex).leads).leads (Varint.local_parseLength.within hlength).leads
    have h₃ := h₂.leads ((Parse.local_bytes _).within hbytes).leads
    refine List.forall_mem_cons.2 ⟨⟨_, rfl, h₂.payload ?_⟩, ih h₃⟩
    rw [(Parse.bytes_eq_ok.1 hbytes).2.1]
    exact List.prefix_append _ _

/-- A record that is read lies where it was read. -/
theorem placed_of_parse (h : parse schema row c = .ok r c') (hc : c.LiesIn data) :
    r.Placed data ∧ r.offset = c.pos ∧ r.offset + r.length = c'.pos := by
  have hleads := (within_parse h).leads
  obtain ⟨entries, hentries, rfl⟩ := parse_eq_ok.1 h
  have hstop : c.pos + (c'.pos - c.pos) = c'.pos := Nat.add_sub_cancel' hleads.pos_le
  refine ⟨⟨?_, ?_, hentries.inOrder.ascending, hentries.present hc⟩, rfl, hstop⟩
  · have := (hc.leads hleads).stop_le
    show c.pos + (c'.pos - c.pos) ≤ _
    omega
  · show LaidOut _ _ c.pos (c.pos + (c'.pos - c.pos)) entries
    rw [hstop]
    exact hentries.laidOut

theorem placed_empty (data : List UInt8) (schema : Schema) : (empty schema).Placed data :=
  ⟨Nat.zero_le _, .nil, List.pairwise_singleton _ _, by simp [empty]⟩

end Record

namespace Table

variable {schema : Schema} {previous : UInt32} {c c' : Cursor} {rows : List Record} {t : Table}

/-- Rows that are read lie between where reading starts and where it stops. -/
theorem Reads.placed (h : Reads schema previous c rows c') (hc : c.LiesIn data) :
    LaidOut Record.offset Record.length c.pos c'.pos rows ∧ ∀ row ∈ rows, row.Placed data := by
  induction h with
  | nil => exact ⟨.nil, by simp⟩
  | @row previous index c c₁ c₂ c' row rows hindex hprevious hrow hrest ih =>
    have h₁ := (Varint.local_parse.within hindex).leads
    have hlt := Varint.moves_parse hindex
    have hsum := h₁.pos_add_length
    have h₂ := (Record.within_parse hrow).leads
    obtain ⟨hplaced, hoffset, hstop⟩ := Record.placed_of_parse hrow (hc.leads h₁)
    obtain ⟨hlaid, hrows⟩ := ih ((hc.leads h₁).leads h₂)
    have hle := hrest.within.leads.pos_le
    exact ⟨.cons (by omega) (by omega) (by rwa [hstop]), List.forall_mem_cons.2 ⟨hplaced, hrows⟩⟩

theorem placed_of_parse (h : parse schema c = .ok t c') (hc : c.LiesIn data) :
    t.Placed data ∧ t.offset = c.pos ∧ t.offset + t.length = c'.pos := by
  have hleads := (within_parse h).leads
  have hascending := (inOrder_of_parse h).2.1.ascending.2
  obtain ⟨count, c₁, rows, hcount, _, hreads, _, rfl⟩ := parse_eq_ok.1 h
  have h₁ := (Varint.local_parseLength.within hcount).leads
  have hstop : c.pos + (c'.pos - c.pos) = c'.pos := Nat.add_sub_cancel' hleads.pos_le
  obtain ⟨⟨hinside, hapart⟩, hrows⟩ := hreads.placed (hc.leads h₁)
  refine ⟨⟨?_, ⟨fun row hrow => ?_, hapart⟩, hascending, hrows⟩, rfl, hstop⟩
  · have := (hc.leads hleads).stop_le
    show c.pos + (c'.pos - c.pos) ≤ _
    omega
  · show c.pos < row.offset ∧ row.offset + row.length ≤ c.pos + (c'.pos - c.pos)
    have := hinside row hrow
    have := h₁.pos_le
    omega

theorem placed_empty (data : List UInt8) (schema : Schema) : (empty schema).Placed data :=
  ⟨Nat.zero_le _, .nil, .nil, by simp [empty]⟩

end Table

/-! ## Chunks -/

namespace Chunk

variable {c : Chunk}

/-- The record in a chunk lies in the chunk. -/
theorem placed_of_record (hc : ∀ p, c.payload = some p → p.LiesIn data) {r : Record} (h : c.record = .ok r) :
    r.Placed data ∧ r.offset + r.length ≤ c.offset + c.length := by
  obtain ⟨schema, _, h⟩ := bind_eq_ok.1 h
  unfold offset length
  cases hp : c.payload with
  | none =>
    simp only [hp] at h
    rw [← pure_eq_ok.1 h]
    exact ⟨Record.placed_empty data schema, le_refl _⟩
  | some p =>
    simp only [hp] at h
    obtain ⟨c', hparse, _⟩ := Payload.decode_eq_ok.1 h
    obtain ⟨hplaced, _, hstop⟩ := Record.placed_of_parse hparse (hc p hp)
    have := (Record.within_parse hparse).leads.pos_add_length
    exact ⟨hplaced, by simp only at *; omega⟩

theorem placed_of_table (hc : ∀ p, c.payload = some p → p.LiesIn data) {t : Table} (h : c.table = .ok t) :
    t.Placed data ∧ t.offset + t.length ≤ c.offset + c.length := by
  obtain ⟨schema, _, h⟩ := bind_eq_ok.1 h
  unfold offset length
  cases hp : c.payload with
  | none =>
    simp only [hp] at h
    rw [← pure_eq_ok.1 h]
    exact ⟨Table.placed_empty data schema, le_refl _⟩
  | some p =>
    simp only [hp] at h
    obtain ⟨c', hparse, _⟩ := Payload.decode_eq_ok.1 h
    obtain ⟨hplaced, _, hstop⟩ := Table.placed_of_parse hparse (hc p hp)
    have := (Table.within_parse hparse).leads.pos_add_length
    exact ⟨hplaced, by simp only at *; omega⟩

end Chunk

end ChunkTree
