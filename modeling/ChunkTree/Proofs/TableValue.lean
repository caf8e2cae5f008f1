import ChunkTree.Proofs.RecordSaved
import ChunkTree.Proofs.Same

/-!
# The object of a table

The object of a table has a key for each row index; the first row of an index keeps the others under `_rest`
(`tableFields`).  This is what the value of a table is (`Table.valueBy_eq_ok`), and saving such an object
gives back its rows (`Save.rowsOf_tableFields`).
-/

namespace ChunkTree

/-- A row together with the further rows of its index. -/
def withRest (first : Value) (rest : List Value) : Value :=
  match rest, first with
  | [], first => first
  | rest, .object fields => .object (fields ++ [(restKey, .array rest)])
  | _, first => first

/-- Goes on from the rows that have been gathered for an index. -/
def collectRows (i : UInt32) (first : Value) (rest : List Value) : List (UInt32 × Value) → Fields
  | [] => [(indexText i, withRest first rest)]
  | (j, row) :: rows =>
    if j = i then collectRows i first (rest ++ [row]) rows
    else (indexText i, withRest first rest) :: collectRows j row [] rows

/-- The object of a table with the given rows, rows of one index standing together. -/
def tableFields : List (UInt32 × Value) → Fields
  | [] => []
  | (i, row) :: rows => collectRows i row [] rows

/-- A value that a row has: an object without further rows. -/
def IsRow (v : Value) : Prop :=
  ∃ fields, v = .object fields ∧ restKey ∉ fields.map Prod.fst

theorem withRest_nil (first : Value) : withRest first [] = first :=
  rfl

theorem withRest_object (fields : Fields) {rest : List Value} (h : rest ≠ []) :
    withRest (.object fields) rest = .object (fields ++ [(restKey, .array rest)]) := by
  cases rest with
  | nil => exact absurd rfl h
  | cons row rest => rfl

theorem IsRow.addRest {first : Value} (h : IsRow first) (rest : List Value) (row : Value) :
    addRest (withRest first rest) row = withRest first (rest ++ [row]) := by
  obtain ⟨fields, rfl, hnew⟩ := h
  rw [withRest_object fields (by simp : rest ++ [row] ≠ [])]
  by_cases hrest : rest = []
  · subst hrest
    simp only [withRest_nil, ChunkTree.addRest, Fields.lookup_eq_none.2 hnew, Fields.insert_new hnew,
      List.nil_append]
  · rw [withRest_object fields hrest]
    simp only [ChunkTree.addRest, Fields.lookup_append_new hnew, Fields.insert_last hnew]

theorem IsRow.restOf {first : Value} (h : IsRow first) (key : String) (rest : List Value) :
    Save.restOf key (withRest first rest) = .ok rest := by
  obtain ⟨fields, rfl, hnew⟩ := h
  unfold Save.restOf
  by_cases hrest : rest = []
  · subst hrest
    have hget : (Value.object fields).get? restKey = none := Fields.lookup_eq_none.2 hnew
    rw [withRest_nil, hget]
  · have hget : (Value.object (fields ++ [(restKey, .array rest)])).get? restKey = some (.array rest) :=
      Fields.lookup_append_new hnew
    rw [withRest_object fields hrest, hget]
    rfl

/-- Chunks are shown under keys that are not internal. -/
private theorem restKey_not_mem_presentFields {toValue : Chunk → Except Error Value}
    {entries : List (UInt32 × Chunk)} {fields fields' : Fields}
    (h : presentFields toValue entries fields = .ok fields') (hnew : restKey ∉ fields.map Prod.fst) :
    restKey ∉ fields'.map Prod.fst := by
  induction entries generalizing fields with
  | nil =>
    obtain rfl := Except.ok.inj h
    exact hnew
  | cons e entries ih =>
    obtain ⟨index, chunk⟩ := e
    rw [presentFields] at h
    cases hkey : entryKey? index chunk with
    | none =>
      simp only [hkey] at h
      exact ih h hnew
    | some key =>
      simp only [hkey] at h
      obtain ⟨value, _, h⟩ := bind_eq_ok.1 h
      refine ih h fun hmem => ?_
      rcases Fields.mem_keys_insert.1 hmem with rfl | hmem
      · exact absurd (isInternal_entryKey? hkey) (by simp [Save.isInternal_restKey])
      · exact hnew hmem

/-- So are defaults. -/
private theorem restKey_not_mem_defaultFields {schemas : List Schema} {fields : Fields}
    (hnew : restKey ∉ fields.map Prod.fst) : restKey ∉ (defaultFields schemas fields).map Prod.fst := by
  induction schemas generalizing fields with
  | nil => exact hnew
  | cons s schemas ih =>
    rw [defaultFields]
    split
    · split
      · exact ih hnew
      · rename_i name _ _ _ hname
        refine ih fun hmem => ?_
        rcases Fields.mem_keys_insert.1 hmem with rfl | hmem
        · exact hname (.inl Save.isInternal_restKey)
        · exact hnew hmem
    · exact ih hnew

/-- The value of a record is that of a row, whatever its schema. -/
theorem isRow_of_valueBy {toValue : Chunk → Except Error Value} {r : Record} {w : Value}
    (h : r.valueBy toValue = .ok w) : IsRow w := by
  obtain ⟨fields, hfields, h⟩ := bind_eq_ok.1 h
  obtain rfl := pure_eq_ok.1 h
  exact ⟨_, rfl, restKey_not_mem_defaultFields (restKey_not_mem_presentFields hfields List.not_mem_nil)⟩

theorem isRow_recordFields {d : Schema} {items : List Save.Entry} (h : Shown d items)
    (hd : d.LegibleRecord) :
    IsRow (.object (recordFields d items)) :=
  ⟨_, rfl, restKey_not_mem_recordFields h hd⟩

/-! ## The keys of a table -/

theorem mem_collectRows {i : UInt32} {first : Value} {rest : List Value} {rows : List (UInt32 × Value)}
    {k : String} {v : Value} (hrows : rows.Pairwise (·.1 ≤ ·.1)) (hle : ∀ r ∈ rows, i ≤ r.1)
    (h : (k, v) ∈ collectRows i first rest rows) : ∃ j, k = indexText j ∧ i ≤ j := by
  induction rows generalizing i first rest with
  | nil =>
    obtain ⟨rfl, _⟩ := Prod.mk.inj (List.mem_singleton.1 h)
    exact ⟨i, rfl, UInt32.le_refl i⟩
  | cons r rows ih =>
    obtain ⟨j, row⟩ := r
    obtain ⟨hj, hrows⟩ := List.pairwise_cons.1 hrows
    rw [collectRows] at h
    split at h
    · exact ih hrows (fun r hr => hle r (List.mem_cons_of_mem _ hr)) h
    · rcases List.mem_cons.1 h with h | h
      · obtain ⟨rfl, _⟩ := Prod.mk.inj h
        exact ⟨i, rfl, UInt32.le_refl i⟩
      · obtain ⟨l, hl, hjl⟩ := ih hrows hj h
        exact ⟨l, hl, UInt32.le_trans (hle _ List.mem_cons_self) hjl⟩

theorem collectRows_nodup {i : UInt32} {first : Value} {rest : List Value} {rows : List (UInt32 × Value)}
    (hrows : rows.Pairwise (·.1 ≤ ·.1)) (hle : ∀ r ∈ rows, i ≤ r.1) :
    ((collectRows i first rest rows).map Prod.fst).Nodup := by
  induction rows generalizing i first rest with
  | nil => exact List.nodup_singleton _
  | cons r rows ih =>
    obtain ⟨j, row⟩ := r
    obtain ⟨hj, hrows⟩ := List.pairwise_cons.1 hrows
    rw [collectRows]
    split
    · exact ih hrows fun r hr => hle r (List.mem_cons_of_mem _ hr)
    · rename_i hne
      refine List.nodup_cons.2 ⟨fun h => ?_, ih hrows hj⟩
      obtain ⟨⟨k, v⟩, hmem, hk⟩ := List.mem_map.1 h
      obtain ⟨l, hl, hjl⟩ := mem_collectRows hrows hj hmem
      obtain rfl : l = i := Save.indexText_inj.1 (hl.symm.trans hk)
      exact hne (UInt32.le_antisymm hjl (hle _ List.mem_cons_self))

theorem tableFields_nodup {rows : List (UInt32 × Value)} (h : rows.Pairwise (·.1 ≤ ·.1)) :
    ((tableFields rows).map Prod.fst).Nodup := by
  cases rows with
  | nil => exact List.nodup_nil
  | cons r rows =>
    obtain ⟨hle, hrows⟩ := List.pairwise_cons.1 h
    exact collectRows_nodup hrows hle

/-! ## The value of a table -/

theorem foldl_addRow {i : UInt32} {first : Value} {rest : List Value} {rows : List (UInt32 × Value)}
    {done : Fields}
    (hfirst : IsRow first) (hisRow : ∀ r ∈ rows, IsRow r.2) (hrows : rows.Pairwise (·.1 ≤ ·.1))
    (hle : ∀ r ∈ rows, i ≤ r.1) (hdone : ∀ j, i ≤ j → indexText j ∉ done.map Prod.fst) :
    rows.foldl (fun fields r => addRow fields r.1 r.2) (done ++ [(indexText i, withRest first rest)]) =
      done ++ collectRows i first rest rows := by
  induction rows generalizing i first rest done with
  | nil => rfl
  | cons r rows ih =>
    obtain ⟨j, row⟩ := r
    obtain ⟨hj, hrows⟩ := List.pairwise_cons.1 hrows
    have hij := hle _ List.mem_cons_self
    have hisRow' := fun r hr => hisRow r (List.mem_cons_of_mem (j, row) hr)
    have hnew := hdone i (UInt32.le_refl i)
    rw [List.foldl_cons, collectRows]
    by_cases heq : j = i
    -- a further row of the same index joins the rest of the first
    · subst heq
      have hadd : addRow (done ++ [(indexText j, withRest first rest)]) j row =
          done ++ [(indexText j, withRest first (rest ++ [row]))] := by
        unfold addRow
        simp only [Fields.lookup_append_new hnew, Fields.insert_last hnew, hfirst.addRest]
      rw [if_pos rfl, hadd]
      exact ih hfirst hisRow' hrows hj hdone
    -- a row of another index starts a key of its own, and the row before is done
    · have hkeys : indexText j ∉ (done ++ [(indexText i, withRest first rest)]).map Prod.fst := by
        rw [List.map_append, List.mem_append, not_or]
        exact ⟨hdone j hij, by simpa [Save.indexText_inj] using heq⟩
      have hadd : addRow (done ++ [(indexText i, withRest first rest)]) j row =
          done ++ [(indexText i, withRest first rest)] ++ [(indexText j, withRest row [])] := by
        unfold addRow
        simp only [Fields.lookup_eq_none.2 hkeys, Fields.insert_new hkeys, withRest_nil]
      rw [if_neg heq, hadd, ih (hisRow _ List.mem_cons_self) hisRow' hrows hj, List.append_assoc]
      · rfl
      · intro l hl
        rw [List.map_append, List.mem_append, not_or]
        refine ⟨hdone l (UInt32.le_trans hij hl), ?_⟩
        simp only [List.map_cons, List.map_nil, List.mem_singleton, Save.indexText_inj]
        rintro rfl
        exact heq (UInt32.le_antisymm hl hij)

theorem foldl_addRow_nil {rows : List (UInt32 × Value)} (hisRow : ∀ r ∈ rows, IsRow r.2)
    (hrows : rows.Pairwise (·.1 ≤ ·.1)) :
    rows.foldl (fun fields r => addRow fields r.1 r.2) [] = tableFields rows := by
  cases rows with
  | nil => rfl
  | cons r rows =>
    obtain ⟨hle, hrows⟩ := List.pairwise_cons.1 hrows
    have hfold : rows.foldl (fun fields r => addRow fields r.1 r.2)
      ([] ++ [(indexText r.1, withRest r.2 [])]) = [] ++ collectRows r.1 r.2 [] rows :=
      foldl_addRow (hisRow r List.mem_cons_self) (fun s hs => hisRow s (List.mem_cons_of_mem r hs)) hrows hle
        fun _ _ => List.not_mem_nil
    exact hfold

/-- The index and the value that a row is shown with. -/
def Record.ShowsRow (toValue : Chunk → Except Error Value) (row : Record) (r : UInt32 × Value) : Prop :=
  r.1 = row.index ∧ row.valueBy toValue = .ok r.2

variable {toValue : Chunk → Except Error Value}

theorem rowFields_eq_ok {rows : List Record} {fields fields' : Fields} :
    rowFields toValue rows fields = .ok fields' ↔ ∃ values,
      List.Forall₂ (Record.ShowsRow toValue) rows values ∧
        values.foldl (fun fields r => addRow fields r.1 r.2) fields = fields' := by
  induction rows generalizing fields with
  | nil =>
    constructor
    · intro h
      exact ⟨[], .nil, Except.ok.inj h⟩
    · rintro ⟨_, _ | _, h⟩
      exact congrArg _ h
  | cons row rows ih =>
    rw [rowFields, bind_eq_ok]
    constructor
    · rintro ⟨value, hvalue, h⟩
      obtain ⟨values, hvalues, h⟩ := ih.1 h
      exact ⟨(row.index, value) :: values, .cons ⟨rfl, hvalue⟩ hvalues, h⟩
    · rintro ⟨_, _ | @⟨_, r, _, _, ⟨hindex, hvalue⟩, hvalues⟩, h⟩
      refine ⟨r.2, hvalue, ih.2 ⟨_, hvalues, ?_⟩⟩
      rwa [List.foldl_cons, hindex] at h

/-- The rows of a table that was read, with their values. -/
theorem rows_of_inOrder {d : Schema} {bound : Nat} {previous : UInt32} {rows : List Record}
    (h : Table.InOrder d bound previous rows) {values : List (UInt32 × Value)}
    (hvalues : List.Forall₂ (Record.ShowsRow toValue) rows values) :
    values.Pairwise (·.1 ≤ ·.1) ∧ (∀ r ∈ values, previous ≤ r.1) ∧ ∀ r ∈ values, IsRow r.2 := by
  induction h generalizing values with
  | nil =>
    cases hvalues
    exact ⟨.nil, by simp, by simp⟩
  | @cons previous index row rows hindex _ hrow _ _ ih =>
    obtain _ | @⟨_, r, _, values, ⟨hr, hvalue⟩, hrest⟩ := hvalues
    obtain ⟨hascending, habove, hisRow⟩ := ih hrest
    have hrindex : r.1 = index := by rw [hr, Record.index, hrow, Option.getD_some]
    refine ⟨List.pairwise_cons.2 ⟨fun s hs => ?_, hascending⟩, ?_, ?_⟩
    · rw [hrindex]
      exact habove s hs
    · intro s hs
      rcases List.mem_cons.1 hs with rfl | hs
      · rwa [hrindex]
      · exact UInt32.le_trans hindex (habove s hs)
    · intro s hs
      rcases List.mem_cons.1 hs with rfl | hs
      · exact isRow_of_valueBy hvalue
      · exact hisRow s hs

/-- The value of a table lists its rows by index. -/
theorem Table.valueBy_eq_ok {t : Table} {bound : Nat} {w : Value}
    (h : Table.InOrder t.schema bound 0 t.rows) :
    t.valueBy toValue = .ok w ↔ ∃ rows,
      List.Forall₂ (Record.ShowsRow toValue) t.rows rows ∧
        w = .object (tableFields rows) := by
  rw [Table.valueBy, bind_eq_ok]
  simp only [rowFields_eq_ok, pure_eq_ok]
  constructor
  · rintro ⟨_, ⟨rows, hrows, rfl⟩, rfl⟩
    obtain ⟨hascending, _, hisRow⟩ := rows_of_inOrder h hrows
    exact ⟨rows, hrows, by rw [foldl_addRow_nil hisRow hascending]⟩
  · rintro ⟨rows, hrows, rfl⟩
    obtain ⟨hascending, _, hisRow⟩ := rows_of_inOrder h hrows
    exact ⟨_, ⟨rows, hrows, rfl⟩, by rw [foldl_addRow_nil hisRow hascending]⟩

/-! ## Saving the object of a table -/

/-- A row that is saved again: the row itself, perhaps with further rows in it. -/
def RowAgain (r r' : UInt32 × Value) : Prop :=
  r'.1 = r.1 ∧ ∃ rest, r'.2 = withRest r.2 rest

theorem givenRows_collectRows {d : Schema} (i : UInt32) (first : Value) (rest : List Value)
    {rows : List (UInt32 × Value)} (hfirst : IsRow first) (hisRow : ∀ r ∈ rows, IsRow r.2) :
    ∃ rows', Save.givenRows d (collectRows i first rest rows) = .ok rows' ∧
      List.Forall₂ RowAgain ((i, first) :: rest.map (i, ·) ++ rows) rows' := by
  have hrest : ∀ (i : UInt32) (rest : List Value),
    List.Forall₂ RowAgain (rest.map (i, ·)) (rest.map (i, ·)) :=
    fun i rest => List.forall₂_same.2 fun r _ => ⟨rfl, [], rfl⟩
  induction rows generalizing i first rest with
  | nil =>
    refine ⟨(i, withRest first rest) :: rest.map (i, ·) ++ [], ?_, ?_⟩
    · rw [collectRows]
      exact Save.givenRows_cons_eq_ok.2 ⟨i, rest, [], Save.index?_indexText i, hfirst.restOf _ rest, rfl, rfl⟩
    · rw [List.append_nil, List.append_nil]
      exact .cons ⟨rfl, rest, rfl⟩ (hrest i rest)
  | cons r rows ih =>
    obtain ⟨j, row⟩ := r
    have hisRow' := fun r hr => hisRow r (List.mem_cons_of_mem (j, row) hr)
    rw [collectRows]
    by_cases heq : j = i
    · subst heq
      obtain ⟨rows', hrows', hagain⟩ := ih j first (rest ++ [row]) hfirst hisRow'
      rw [if_pos rfl]
      exact ⟨rows', hrows', by simpa using hagain⟩
    · obtain ⟨rows', hrows', hagain⟩ := ih j row [] (hisRow _ List.mem_cons_self) hisRow'
      rw [if_neg heq]
      refine ⟨(i, withRest first rest) :: rest.map (i, ·) ++ rows', ?_, ?_⟩
      · exact Save.givenRows_cons_eq_ok.2 ⟨i, rest, rows', Save.index?_indexText i,
          hfirst.restOf _ rest, hrows', rfl⟩
      · exact List.rel_append (.cons ⟨rfl, rest, rfl⟩ (hrest i rest)) hagain

/-- Saving the object of a table gives back its rows. -/
theorem Save.rowsOf_tableFields {d : Schema} {rows : List (UInt32 × Value)} (hisRow : ∀ r ∈ rows, IsRow r.2)
    (hrows : rows.Pairwise (·.1 ≤ ·.1)) :
    ∃ rows', rowsOf d (.object (tableFields rows)) = .ok rows' ∧ List.Forall₂ RowAgain rows rows' := by
  have hgiven : ∃ rows', givenRows d (tableFields rows) = .ok rows' ∧ List.Forall₂ RowAgain rows rows' := by
    cases rows with
    | nil => exact ⟨[], rfl, .nil⟩
    | cons r rows =>
      exact givenRows_collectRows r.1 r.2 [] (hisRow r List.mem_cons_self) fun s hs =>
        hisRow s (List.mem_cons_of_mem r hs)
  obtain ⟨rows', hrows', hagain⟩ := hgiven
  refine ⟨rows', rowsOf_eq_ok.2 ⟨_, rows', rfl, hrows', sortBy_of_ascending ?_⟩, hagain⟩
  -- the rows have the indices that they had before, so they still ascend
  clear hrows' hisRow
  induction hagain with
  | nil => exact .nil
  | cons hr hrest ih =>
    obtain ⟨hle, hrows⟩ := List.pairwise_cons.1 hrows
    refine List.pairwise_cons.2 ⟨fun s' hs' => ?_, ih hrows⟩
    obtain ⟨k, hk, rfl⟩ := List.mem_iff_getElem.1 hs'
    have hk' := hrest.length_eq ▸ hk
    have hindex := (hrest.get hk' hk).1
    simp only [List.get_eq_getElem] at hindex
    rw [hr.1, hindex]
    exact hle _ (List.getElem_mem hk')

end ChunkTree
