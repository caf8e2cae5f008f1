import ChunkTree.Proofs.FieldAccess

/-!
# Chunks and rows are found by halving

Records and tables that are read are in order, whatever their bytes and schema are.  So halving gives what a scan
from the front gives: of a record the one chunk with an index (`Record.entry?_eq_scan?`), of a table all rows with
an index (`Table.looksUp_of_parse`).  What else a lookup gives is told from what the record or the table lists.
-/

namespace ChunkTree

/-! ## Records -/

namespace Record

/-- The chunk under an index, searched for from the front.  As indices increase, the search stops early. -/
def scan? (r : Record) (i : UInt32) : Option Chunk :=
  match r.entries.dropWhile fun entry => entry.1 < i with
  | entry :: _ => if entry.1 = i then some entry.2 else none
  | [] => none

/-- The lookups of a record with a schema give what a scan of its chunks and of the fields of its schema gives. -/
structure LooksUp (schema : Schema) (r : Record) : Prop where
  /-- Halving finds what is searched for from the front. -/
  entry?_eq_scan : ∀ i, r.entry? i = r.scan? i
  /-- A record contains the indices that it lists. -/
  contains_iff : ∀ i, r.contains (.index i) ↔ i ∈ r.entries.map Prod.fst
  /-- A chunk that is listed is the only one with its index, and the one that is given. -/
  held : ∀ i chunk, (i, chunk) ∈ r.entries →
    r.entries.filter (·.1 == i) = [(i, chunk)] ∧ r.get? (.index i) = some chunk
  /-- Without a chunk an absent one is given, if the first field with the index has a default. -/
  notHeld : ∀ i, i ∉ r.entries.map Prod.fst → r.get? (.index i) =
    ((schema.fields.find? fun field => field.index? == some i).filter Schema.hasDefault).map Chunk.absent
  /-- A name stands for the index of the first field with the name. -/
  byName : ∀ n i, (schema.fields.find? fun field => field.name? == some n).bind Schema.index? = some i →
    r.contains (.name n) = r.contains (.index i) ∧ r.get? (.name n) = r.get? (.index i) ∧
      ∀ chunk, r.field (.name n) = .ok chunk ↔ r.field (.index i) = .ok chunk
  /-- Any other name is missing. -/
  byOtherName : ∀ n, (schema.fields.find? fun field => field.name? == some n).bind Schema.index? = none →
    r.contains (.name n) = false ∧ r.get? (.name n) = none ∧
      r.field (.name n) = .error (.missingField s!"{schema.label}.{n}")

variable {schema : Schema} {row : Option UInt32} {c c' : Cursor} {r : Record} {key : FieldKey} {i : UInt32}
  {chunk : Chunk}

theorem ascending_of_parse (h : parse schema row c = .ok r c') :
    r.schema = schema ∧ (r.entries.map Prod.fst).Pairwise (· < ·) := by
  obtain ⟨hschema, _, hin⟩ := inOrder_of_parse h
  exact ⟨hschema, (List.pairwise_cons.1 hin.ascending).2⟩

/-- In a record in order a chunk is found under an index just if it is listed there. -/
theorem entry?_eq_some (h : (r.entries.map Prod.fst).Pairwise (· < ·)) :
    r.entry? i = some chunk ↔ (i, chunk) ∈ r.entries :=
  ⟨fun hentry => mem_of_entry? hentry, entry?_of_mem h⟩

/-- A scan from the front finds the same chunks. -/
theorem scan?_eq_some (h : (r.entries.map Prod.fst).Pairwise (· < ·)) :
    r.scan? i = some chunk ↔ (i, chunk) ∈ r.entries := by
  obtain ⟨low, same, high, hruns, hlow, hsame, hhigh⟩ :=
    Search.exists_runs ((List.pairwise_map.1 h).imp UInt32.le_of_lt) i
  have hfilter : r.entries.filter (·.1 == i) = same := hruns ▸ Search.filter_runs hlow hsame hhigh
  have hdrop : (r.entries.dropWhile fun entry => entry.1 < i) = same ++ high :=
    hruns ▸ Search.dropWhile_runs hlow hsame hhigh
  have hmem : (i, chunk) ∈ r.entries ↔ (i, chunk) ∈ same := by
    rw [← hfilter, List.mem_filter]
    simp
  rw [scan?, hdrop, hmem]
  cases same with
  | nil =>
    cases high with
    | nil => simp
    | cons e high => simp [(UInt32.ne_of_lt (hhigh e List.mem_cons_self)).symm]
  | cons e same =>
    simp only [List.cons_append, if_pos (hsame e List.mem_cons_self)]
    constructor
    · rintro ⟨⟩
      rw [← hsame e List.mem_cons_self]
      exact List.mem_cons_self
    · intro hchunk
      rw [filter_eq_singleton h (hmem.2 hchunk)] at hfilter
      rw [← (List.cons.inj hfilter).1]

/-- In a record in order halving finds the chunk that a scan from the front finds. -/
theorem entry?_eq_scan? (h : (r.entries.map Prod.fst).Pairwise (· < ·)) (i : UInt32) : r.entry? i = r.scan? i := by
  ext chunk
  rw [entry?_eq_some h, scan?_eq_some h]

theorem field_eq_ok : r.field key = .ok chunk ↔ r.get? key = some chunk := by
  unfold field
  cases r.get? key <;> simp

theorem contains_index (i : UInt32) : r.contains (.index i) = (r.entry? i).isSome :=
  rfl

theorem indexOf?_name (n : String) : r.indexOf? (.name n) =
    (r.schema.fields.find? fun field => field.name? == some n).bind Schema.index? :=
  rfl

theorem looksUp_of_parse (h : parse schema row c = .ok r c') : r.LooksUp schema := by
  obtain ⟨rfl, hascending⟩ := ascending_of_parse h
  refine ⟨entry?_eq_scan? hascending, fun i => ?_, fun i chunk hmem => ?_, fun i hi => ?_,
    fun n i hn => ?_, fun n hn => ?_⟩
  · rw [contains_index, Option.isSome_iff_exists]
    simp [entry?_eq_some hascending]
  · have hentry := (entry?_eq_some hascending).2 hmem
    exact ⟨filter_eq_singleton hascending hmem, by simp [get?, indexOf?, hentry]⟩
  · simp only [get?, indexOf?, entry?_eq_none hi]
    rfl
  · have hindex := (indexOf?_name n).trans hn
    have hget : r.get? (.name n) = r.get? (.index i) := by
      rw [get?, hindex]
      rfl
    refine ⟨?_, hget, fun chunk => by rw [field_eq_ok, field_eq_ok, hget]⟩
    rw [contains, hindex]
    rfl
  · have hindex := (indexOf?_name n).trans hn
    have hget : r.get? (.name n) = none := by rw [get?, hindex]
    refine ⟨?_, hget, ?_⟩
    · rw [contains, hindex]
      rfl
    · rw [field, hget]
      rfl

end Record

/-! ## Tables -/

namespace Table

/-- All rows with an index, searched for from the front. -/
def scan (t : Table) (i : UInt32) : List Record :=
  (t.rows.dropWhile fun row => row.index < i).takeWhile fun row => row.index ≤ i

/-- The lookups of a table give what a scan of its rows gives. -/
structure LooksUp (t : Table) : Prop where
  /-- Halving finds what is searched for from the front. -/
  getAll_eq_scan : ∀ i, t.getAll i = t.scan i
  /-- The rows with an index are given, in the order of the file. -/
  getAll_eq : ∀ i, t.getAll i = t.rows.filter (·.index == i)
  /-- Of these the first is given. -/
  get?_eq : ∀ i, t.get? i = t.rows.find? (·.index == i)

variable {schema : Schema} {c c' : Cursor} {t : Table}

theorem looksUp_of_parse (h : parse schema c = .ok t c') : t.LooksUp := by
  obtain ⟨_, hin, _⟩ := inOrder_of_parse h
  have hsame := Search.same_of_ascending hin.ascending.2
  refine ⟨fun i => ?_, fun i => (hsame i).2, fun i => ?_⟩
  · exact (hsame i).2.trans (hsame i).1.symm
  · rw [get?, getAll, (hsame i).2, List.head?_filter]

end Table

/-- Lookups agree with a scan, in every record and every table that is read. -/
theorem lookups_agree_with_scan :
    (∀ (schema : Schema) (row : Option UInt32) (c c' : Cursor) (r : Record),
      Record.parse schema row c = .ok r c' → r.LooksUp schema) ∧
    ∀ (schema : Schema) (c c' : Cursor) (t : Table), Table.parse schema c = .ok t c' → t.LooksUp :=
  ⟨fun _ _ _ _ _ h => Record.looksUp_of_parse h, fun _ _ _ _ h => Table.looksUp_of_parse h⟩

/-- A record with chunks under 1 and 3, and a table with two rows under 1. -/
theorem lookups_agree_with_scan_repeated :
    (∃ r c', Record.parse ⟨Document.switchDocument⟩ none ⟨0, [1, 1, 65, 3, 0, 0]⟩ = .ok r c' ∧
      r.contains (.index 3) ∧ ¬r.contains (.index 2)) ∧
    ∃ t c', Table.parse ⟨Document.switchDocument⟩ ⟨0, [4, 0, 0, 1, 1, 1, 65, 0, 1, 0, 2, 0]⟩ = .ok t c' ∧
      (t.getAll 1).map Record.length = [4, 1] := by
  obtain ⟨hrecords, htables⟩ := lookups_agree_with_scan
  refine ⟨⟨_, _, rfl, ?_⟩, ⟨_, _, rfl, ?_⟩⟩
  · have hscan := (hrecords ⟨Document.switchDocument⟩ none ⟨0, [1, 1, 65, 3, 0, 0]⟩ _ _ rfl).contains_iff
    rw [hscan, hscan]
    decide
  · rw [(htables ⟨Document.switchDocument⟩ ⟨0, [4, 0, 0, 1, 1, 1, 65, 0, 1, 0, 2, 0]⟩ _ _ rfl).getAll_eq]
    decide

end ChunkTree
