import ChunkTree.Proofs.Except
import ChunkTree.Proofs.Reading
import ChunkTree.View.Tree

/-!
# Chunks are shorter than the chunk that holds them

The chunks of a record stand in strictly increasing order, each with its length in front (`Record.InOrder`),
so each is shorter than what the record was read from.  The value of a chunk depends only on chunks that
are shorter, and `Chunk.toValue_eq` unfolds it by one level.
-/

namespace ChunkTree

open Text (Charset)

namespace Record

/-- Entries as they stand in a record that was read from less than `bound` bytes: above `previous` and in
strictly increasing order, each a chunk that the file holds, with the schema that goes with its index. -/
inductive InOrder (schema : Schema) (bound : Nat) : UInt32 → List (UInt32 × Chunk) → Prop where
  | nil (previous : UInt32) : InOrder schema bound previous []
  | cons {previous index : UInt32} {payload : Payload} {entries : List (UInt32 × Chunk)}
      (hindex : previous < index) (hlength : payload.bytes.length < bound)
      (rest : InOrder schema bound index entries) :
      InOrder schema bound previous ((index, ⟨schema.find? (.index index), some payload⟩) :: entries)

variable {schema : Schema}

theorem InOrder.mono {bound bound' : Nat} {previous : UInt32} {entries : List (UInt32 × Chunk)}
    (h : InOrder schema bound previous entries) (hb : bound ≤ bound') :
    InOrder schema bound' previous entries := by
  induction h with
  | nil => exact .nil _
  | cons hindex hlength _ ih => exact .cons hindex (hlength.trans_le hb) ih

theorem InOrder.length_lt {bound : Nat} {previous : UInt32} {entries : List (UInt32 × Chunk)}
    (h : InOrder schema bound previous entries) {entry : UInt32 × Chunk} (he : entry ∈ entries) :
    entry.2.length < bound := by
  induction h with
  | nil => simp at he
  | cons _ hlength _ ih =>
    rcases List.mem_cons.1 he with rfl | he
    · exact hlength
    · exact ih he

theorem InOrder.payload {bound : Nat} {previous : UInt32} {entries : List (UInt32 × Chunk)}
    (h : InOrder schema bound previous entries) {entry : UInt32 × Chunk} (he : entry ∈ entries) :
    ∃ p, entry.2.payload = some p := by
  induction h with
  | nil => simp at he
  | cons _ _ _ ih =>
    rcases List.mem_cons.1 he with rfl | he
    · exact ⟨_, rfl⟩
    · exact ih he

theorem InOrder.schema_eq {bound : Nat} {previous : UInt32} {entries : List (UInt32 × Chunk)}
    (h : InOrder schema bound previous entries) {entry : UInt32 × Chunk} (he : entry ∈ entries) :
    entry.2.schema = schema.find? (.index entry.1) := by
  induction h with
  | nil => simp at he
  | cons _ _ _ ih =>
    rcases List.mem_cons.1 he with rfl | he
    · rfl
    · exact ih he

theorem InOrder.ascending {bound : Nat} {previous : UInt32} {entries : List (UInt32 × Chunk)}
    (h : InOrder schema bound previous entries) : (previous :: entries.map Prod.fst).Pairwise (· < ·) := by
  induction h with
  | nil => exact List.pairwise_singleton _ _
  | cons hindex _ _ ih =>
    refine List.pairwise_cons.2 ⟨fun i hi => ?_, ih⟩
    rcases List.mem_cons.1 hi with rfl | hi
    · exact hindex
    · exact UInt32.lt_trans hindex ((List.pairwise_cons.1 ih).1 i hi)

/-- Entries that are read stand in order. -/
theorem Reads.inOrder {previous : UInt32} {c c' : Cursor} {entries : List (UInt32 × Chunk)}
    (h : Reads schema previous c entries c') : InOrder schema c.rest.length previous entries := by
  -- every step that goes on has read a varint, so less is left
  induction h with
  | done | stop => exact .nil _
  | chunk hindex hprevious hlength hbytes _ ih =>
    have h₁ := Varint.moves_parse hindex
    have h₂ := Varint.moves_parseLength hlength
    have h₃ := congrArg List.length (Parse.bytes_eq_ok.1 hbytes).2.1
    rw [List.length_append] at h₃
    exact .cons hprevious (by simp only; omega) (ih.mono (by omega))

theorem inOrder_of_parse {row : Option UInt32} {c c' : Cursor} {r : Record}
    (h : parse schema row c = .ok r c') :
    r.schema = schema ∧ r.row = row ∧ InOrder schema c.rest.length 0 r.entries := by
  obtain ⟨entries, hentries, rfl⟩ := parse_eq_ok.1 h
  exact ⟨rfl, rfl, hentries.inOrder⟩

end Record

namespace Table

/-- Rows as they stand in a table that was read from `bound` bytes: none below `previous`, in order. -/
inductive InOrder (schema : Schema) (bound : Nat) : UInt32 → List Record → Prop where
  | nil (previous : UInt32) : InOrder schema bound previous []
  | cons {previous index : UInt32} {row : Record} {rows : List Record} (hindex : previous ≤ index)
      (hschema : row.schema = schema) (hrow : row.row = some index)
      (hentries : Record.InOrder schema bound 0 row.entries) (rest : InOrder schema bound index rows) :
      InOrder schema bound previous (row :: rows)

variable {schema : Schema}

theorem InOrder.mono {bound bound' : Nat} {previous : UInt32} {rows : List Record}
    (h : InOrder schema bound previous rows) (hb : bound ≤ bound') : InOrder schema bound' previous rows := by
  induction h with
  | nil => exact .nil _
  | cons hindex hschema hrow hentries _ ih => exact .cons hindex hschema hrow (hentries.mono hb) ih

theorem InOrder.row {bound : Nat} {previous : UInt32} {rows : List Record}
    (h : InOrder schema bound previous rows)
    {row : Record} (hr : row ∈ rows) : row.schema = schema ∧ Record.InOrder schema bound 0 row.entries := by
  induction h with
  | nil => simp at hr
  | cons _ hschema _ hentries _ ih =>
    rcases List.mem_cons.1 hr with rfl | hr
    · exact ⟨hschema, hentries⟩
    · exact ih hr

theorem InOrder.ascending {bound : Nat} {previous : UInt32} {rows : List Record}
    (h : InOrder schema bound previous rows) :
    (∀ row ∈ rows, previous ≤ row.index) ∧ rows.Pairwise (·.index ≤ ·.index) := by
  induction h with
  | nil => exact ⟨by simp, .nil⟩
  | @cons previous index row rows hindex _ hrow _ _ ih =>
    obtain ⟨habove, hascending⟩ := ih
    have hrow : row.index = index := by rw [Record.index, hrow, Option.getD_some]
    refine ⟨List.forall_mem_cons.2 ⟨hrow ▸ hindex, fun r hr => UInt32.le_trans hindex (habove r hr)⟩, ?_⟩
    exact List.pairwise_cons.2 ⟨hrow ▸ habove, hascending⟩

theorem Reads.inOrder {previous : UInt32} {c c' : Cursor} {rows : List Record}
    (h : Reads schema previous c rows c') : InOrder schema c.rest.length previous rows := by
  induction h with
  | nil => exact .nil _
  | row hindex hprevious hrow _ ih =>
    have h₁ := Varint.moves_parse hindex
    have h₂ := (Record.within_parse hrow).leads.length_le
    obtain ⟨hschema, hrowIndex, hentries⟩ := Record.inOrder_of_parse hrow
    exact .cons hprevious hschema hrowIndex (hentries.mono h₁.le) (ih.mono (by omega))

theorem inOrder_of_parse {c c' : Cursor} {t : Table} (h : parse schema c = .ok t c') :
    t.schema = schema ∧ InOrder schema c.rest.length 0 t.rows ∧ t.rows.length < 0x100000000 := by
  obtain ⟨count, c₁, rows, hcount, _, hreads, hlength, rfl⟩ := parse_eq_ok.1 h
  obtain ⟨word, hword, rfl⟩ := Varint.parseLength_eq_ok.1 hcount
  refine ⟨rfl, hreads.inOrder.mono (Varint.moves_parse hword).le, ?_⟩
  show rows.length < _
  rw [hlength]
  exact word.toNat_lt

end Table

/-- A payload that is decoded is what the parser uses up. -/
theorem Payload.decode_eq_ok {α : Type} {p : Payload} {parse : Parse α} {x : α} :
    p.decode parse = .ok x ↔ ∃ c, parse ⟨p.offset, p.bytes⟩ = .ok x c ∧ c.rest = [] := by
  unfold Payload.decode
  split
  · simp_all
  · rename_i y c hparse
    rw [hparse]
    split
    · rename_i hempty
      constructor
      · intro h
        exact ⟨c, by rw [Except.ok.inj h], List.isEmpty_iff.1 hempty⟩
      · rintro ⟨d, h, _⟩
        simp only [EStateM.Result.ok.injEq] at h
        rw [h.1]
    · rename_i hempty
      constructor
      · simp
      · rintro ⟨d, h, hrest⟩
        simp only [EStateM.Result.ok.injEq] at h
        rw [h.2, hrest] at hempty
        simp at hempty

namespace Chunk

variable {charset : Charset} {c : Chunk}

theorem record_eq_ok {r : Record} (h : c.record = .ok r) :
    ∃ schema, c.fieldSchema .record = .ok schema ∧ r.schema = schema ∧
      Record.InOrder schema c.length 0 r.entries := by
  obtain ⟨schema, hschema, h⟩ := bind_eq_ok.1 h
  refine ⟨schema, hschema, ?_⟩
  unfold length
  split at h
  · obtain ⟨c', hparse, _⟩ := Payload.decode_eq_ok.1 h
    obtain ⟨hs, _, hin⟩ := Record.inOrder_of_parse hparse
    exact ⟨hs, by simp [*]⟩
  · obtain rfl := pure_eq_ok.1 h
    exact ⟨rfl, .nil _⟩

theorem table_eq_ok {t : Table} (h : c.table = .ok t) :
    ∃ schema, c.fieldSchema .table = .ok schema ∧ t.schema = schema ∧ Table.InOrder schema c.length 0 t.rows ∧
      t.rows.length < 0x100000000 := by
  obtain ⟨schema, hschema, h⟩ := bind_eq_ok.1 h
  refine ⟨schema, hschema, ?_⟩
  unfold length
  split at h
  · obtain ⟨c', hparse, _⟩ := Payload.decode_eq_ok.1 h
    obtain ⟨hs, hin, hcount⟩ := Table.inOrder_of_parse hparse
    exact ⟨hs, by simp [*], hcount⟩
  · obtain rfl := pure_eq_ok.1 h
    exact ⟨rfl, .nil _, Nat.zero_lt_succ _⟩

end Chunk

variable {f g : Chunk → Except Error Value}

theorem presentFields_congr {entries : List (UInt32 × Chunk)} (h : ∀ e ∈ entries, f e.2 = g e.2)
    (fields : Fields) :
    presentFields f entries fields = presentFields g entries fields := by
  induction entries generalizing fields with
  | nil => rfl
  | cons e entries ih =>
    obtain ⟨index, chunk⟩ := e
    have hrest := ih fun e' he' => h e' (List.mem_cons_of_mem _ he')
    rw [presentFields, presentFields, h (index, chunk) List.mem_cons_self]
    split
    · exact hrest fields
    · exact congrArg _ (funext fun _ => hrest _)

theorem Record.valueBy_congr {r : Record} (h : ∀ e ∈ r.entries, f e.2 = g e.2) :
    r.valueBy f = r.valueBy g := by
  rw [Record.valueBy, Record.valueBy, presentFields_congr h]

theorem Table.valueBy_congr {t : Table} (h : ∀ r ∈ t.rows, ∀ e ∈ r.entries, f e.2 = g e.2) :
    t.valueBy f = t.valueBy g := by
  have hrows : ∀ (rows : List Record) (fields : Fields), (∀ r ∈ rows, ∀ e ∈ r.entries, f e.2 = g e.2) →
      rowFields f rows fields = rowFields g rows fields := by
    intro rows
    induction rows with
    | nil => exact fun _ _ => rfl
    | cons r rows ih =>
      intro fields h
      rw [rowFields, rowFields, Record.valueBy_congr (h r List.mem_cons_self)]
      exact congrArg _ (funext fun _ => ih _ fun s hs => h s (List.mem_cons_of_mem r hs))
  rw [Table.valueBy, Table.valueBy, hrows t.rows [] h]

namespace Chunk

variable {charset : Charset} {c : Chunk}

theorem valueBy_congr (h : ∀ d : Chunk, d.length < c.length → f d = g d) :
    c.valueBy charset f = c.valueBy charset g := by
  have hrecord : c.record >>= (fun r => r.valueBy f) = c.record >>= fun r => r.valueBy g := by
    cases hr : c.record with
    | error e => rfl
    | ok r =>
      obtain ⟨_, _, _, hin⟩ := record_eq_ok hr
      exact Record.valueBy_congr fun e he => h e.2 (hin.length_lt he)
  have htable : c.table >>= (fun t => t.valueBy f) = c.table >>= fun t => t.valueBy g := by
    cases ht : c.table with
    | error e => rfl
    | ok t =>
      obtain ⟨_, _, _, hin, _⟩ := table_eq_ok ht
      exact Table.valueBy_congr fun r hr e he => h e.2 ((hin.row hr).2.length_lt he)
  unfold valueBy
  split
  · rfl
  · refine congrArg _ (funext fun kind => ?_)
    cases kind with
    | record => exact hrecord
    | table => exact htable
    | _ => rfl

theorem valueWithin_eq {m n : Nat} (hm : c.length < m) (hn : c.length < n) :
    c.valueWithin charset m = c.valueWithin charset n := by
  induction m generalizing n c with
  | zero => omega
  | succ m ih =>
    cases n with
    | zero => omega
    | succ n => exact valueBy_congr fun d hd => ih (by omega) (by omega)

theorem toValue_eq (charset : Charset) (c : Chunk) :
    c.toValue charset = c.valueBy charset (toValue charset) :=
  valueBy_congr fun _ hd => valueWithin_eq hd (Nat.lt_succ_self _)

end Chunk

end ChunkTree
