import ChunkTree.Proofs.Canonical
import ChunkTree.Proofs.PlainDefaults
import ChunkTree.Proofs.Replacement

/-!
# The normal form is saved alike

The normal form of a value is saved as the same bytes as the value (`Value.save_normal`).  An entry may be
replaced by its normal form if the value that it holds is saved as its normal form is; so a record whose entries
do not become defaults is written as its normal form (`Value.saveRecord_normalRecord`), and a table whose rows
are (`Value.saveTable_normalTable`).
-/

namespace ChunkTree

open Text (Charset)
open Save (Entry isDefault sortBy)

variable {charset : Charset}

/-! ## Entries -/

theorem Save.rawBytes_ofBytes (index : UInt32) (bytes : List UInt8) :
    rawBytes index (.ofBytes bytes) = .ok bytes := by
  refine items_map fun b _ => ?_
  have hb := b.toNat_lt
  have htoInt : (Int64.ofNat b.toNat).toInt = b.toNat := Int64.toInt_ofNat_of_lt (by omega)
  refine bind_eq_ok.2 ⟨b.toNat, whole_eq_ok.2 ⟨_, rfl, ?_, htoInt⟩, ?_⟩
  · rw [htoInt]
    simp only [Bool.and_eq_true, decide_eq_true_eq]
    omega
  · rw [Int.toNat_natCast, UInt8.ofNat_toNat]
    rfl

/-- The normal form of an entry can stand for it if the value that it holds is saved as its normal form is. -/
theorem Value.follows_normalEntry {e : Entry} {payload : List UInt8}
    (hpayload : e.payload (save charset) = .ok payload)
    (h : ∀ u, e.schema = some u → e.value.save charset u = .ok payload →
      (e.value.normal u).save charset u = .ok payload) : e.Follows charset (normalEntry normal e) := by
  refine .of_payload rfl rfl hpayload ?_
  unfold Entry.payload at hpayload ⊢
  unfold normalEntry
  cases hu : e.schema with
  | some u =>
    simp only [hu] at hpayload ⊢
    exact h u hu hpayload
  | none =>
    simp only [hu] at hpayload ⊢
    rw [normalItems_of_rawBytes hpayload, Save.rawBytes_ofBytes]

/-! ## Records and tables -/

namespace Value

open Save

variable {d : Schema} {v : Value} {bytes : List UInt8}

/-- The entries of the normal form of a record, given those of the record. -/
def normalEntries (given : List Entry) : List Entry :=
  sortBy Entry.index (given.map (normalEntry normal))

section

variable {fields : Fields} {given sizes : List Entry}

theorem shown_normalEntries (hd : d.ConsistentRecord) (hgiven : givenEntries d fields = .ok given)
    (hnodup : (given.map Entry.index).Nodup) : Shown d (normalEntries given) := by
  have hsort :=
    sortBy_map (f := normalEntry normal) (k := Entry.index) (l := Entry.index) (fun _ => rfl) given
  rw [show normalEntries given = _ from hsort]
  exact (shown_of_given hd hgiven (sortBy_strictly_ascending.2 hnodup)).map fun _ => ⟨rfl, rfl⟩

/-- Entries that do not become defaults are kept in the normal form. -/
theorem givenEntries_normalEntries (hd : d.ConsistentRecord) (hgiven : givenEntries d fields = .ok given)
    (hnodup : (given.map Entry.index).Nodup)
    (hkept : ∀ e ∈ given, isDefault e.schema (normalEntry normal e).value = false) :
    givenEntries d (recordFields d (normalEntries given)) = .ok (normalEntries given) := by
  rw [givenEntries_recordFields (shown_normalEntries hd hgiven hnodup) hd, List.filter_eq_self.2]
  intro e' he'
  obtain ⟨e, he, rfl⟩ := List.mem_map.1 (mem_sortBy.1 he')
  show (!isDefault e.schema (normalEntry normal e).value) = true
  rw [hkept e he]
  rfl

/-- The entries of a record may be replaced by those of its normal form. -/
theorem recordFollows_normalRecord (hd : d.ConsistentRecord) (hv : v.asObject = some fields)
    (hgiven : givenEntries d fields = .ok given) (hnodup : (given.map Entry.index).Nodup)
    (hfollows : ∀ e ∈ given, e.Follows charset (normalEntry normal e))
    (hkept : ∀ e ∈ given, isDefault e.schema (normalEntry normal e).value = false) :
    RecordFollows charset d v (.object (recordFields d (normalEntries given))) := by
  intro fields' given' hv' hgiven'
  obtain rfl := Option.some.inj (hv.symm.trans hv')
  obtain rfl := Except.ok.inj (hgiven.symm.trans hgiven')
  refine ⟨_, _, sortBy Entry.index given, rfl, givenEntries_normalEntries hd hgiven hnodup hkept,
    (sortBy_perm given).symm, ?_⟩
  · rw [normalEntries, sortBy_map (f := normalEntry normal) (k := Entry.index) (l := Entry.index) fun _ => rfl]
    exact List.forall₂_map_right_iff.2 (List.forall₂_same.2 fun e he => hfollows e (mem_sortBy.1 he))

end

/-- A record is written as its normal form if its entries are, and do not become defaults. -/
theorem saveRecord_normalRecord (hd : d.ConsistentRecord) (h : v.saveRecord charset d = .ok bytes)
    (hfollows : ∀ e ∈ v.keptEntries d, e.Follows charset (normalEntry normal e))
    (hkept : ∀ e ∈ v.keptEntries d, isDefault e.schema (normalEntry normal e).value = false) :
    (normalRecord normal d v).saveRecord charset d = .ok bytes ∧ IsRow (normalRecord normal d v) := by
  obtain ⟨entries, _, hentries, _⟩ := writeRecord_eq_ok.1 (saveRecord_eq charset v d ▸ h)
  obtain ⟨hascending, _⟩ := entriesOf_spec hd hentries
  obtain ⟨fields, given, sizes, hv, hgiven, _, _, rfl⟩ := entriesOf_eq_ok.1 hentries
  rw [keptEntries_of_givenEntries hv hgiven] at hfollows hkept
  have hnodup : (given.map Entry.index).Nodup := by
    have := sortBy_strictly_ascending.1 hascending
    rw [List.map_append] at this
    exact this.of_append_left
  have hrecord : normalRecord normal d v = .object (recordFields d (normalEntries given)) := by
    rw [normalRecord, keptEntries_of_givenEntries hv hgiven, normalEntries]
  rw [hrecord]
  exact ⟨saveRecord_of_follows (recordFollows_normalRecord hd hv hgiven hnodup hfollows hkept)
    (nodup_filterMap hd.names_nodup) h, isRow_recordFields (shown_normalEntries hd hgiven hnodup) hd⟩

/-- Further rows in a row do not matter for the row itself. -/
theorem entriesOf_withRest {size : Value → Schema → Except Error Nat} {row : Value} (h : IsRow row)
    (rest : List Value) : entriesOf size d (withRest row rest) = entriesOf size d row := by
  obtain ⟨fields, rfl, _⟩ := h
  by_cases hrest : rest = []
  · rw [hrest, withRest_nil]
  · rw [withRest_object fields hrest]
    simp only [entriesOf, asObject, givenEntries_withRest]

theorem writeRecord_withRest {size : Value → Schema → Except Error Nat}
    {write : Value → Schema → Except Error (List UInt8)} {row : Value} (h : IsRow row) (rest : List Value) :
    writeRecord size write d (withRest row rest) = writeRecord size write d row := by
  rw [writeRecord, writeRecord, entriesOf_withRest h]

theorem saveRecord_withRest {row : Value} (h : IsRow row) (rest : List Value) :
    (withRest row rest).saveRecord charset d = row.saveRecord charset d := by
  rw [saveRecord_eq, saveRecord_eq, writeRecord_withRest h]

/-- Rows that are given again are written alike. -/
theorem writeRows_of_again {size : Value → Schema → Except Error Nat}
    {write : Value → Schema → Except Error (List UInt8)} {rows rows' : List (UInt32 × Value)}
    (h : List.Forall₂ RowAgain rows rows') (hisRow : ∀ r ∈ rows, IsRow r.2) :
    writeRows size write d rows' = writeRows size write d rows := by
  induction h with
  | nil => rfl
  | @cons r r' rows rows' hr _ ih =>
    obtain ⟨i, row⟩ := r
    obtain ⟨i', row'⟩ := r'
    obtain ⟨hindex, rest, hrow⟩ := hr
    simp only at hindex hrow
    rw [writeRows, writeRows, hindex, hrow, writeRecord_withRest (hisRow _ List.mem_cons_self),
      ih fun s hs => hisRow s (List.mem_cons_of_mem _ hs)]

/-- A table is written as its normal form if its rows are. -/
theorem saveTable_normalTable (h : v.saveTable charset d = .ok bytes)
    (hrow : ∀ r ∈ v.tableRows, ∀ record, r.2.saveRecord charset d = .ok record →
      (normalRecord normal d r.2).saveRecord charset d = .ok record ∧ IsRow (normalRecord normal d r.2)) :
    (normalTable normal d v).saveTable charset d = .ok bytes := by
  refine saveTable_of_follows (fun rows hrows => ?_) h
  let normalRow : UInt32 × Value → UInt32 × Value := fun r => (r.1, normalRecord normal d r.2)
  obtain rfl := sortBy_tableRows hrows
  have hsaved : ∀ r ∈ sortBy Prod.fst v.tableRows, ∃ record, r.2.saveRecord charset d = .ok record ∧
      (normalRow r).2.saveRecord charset d = .ok record ∧ IsRow (normalRow r).2 := by
    intro r hr
    have hmem := mem_sortBy.1 hr
    obtain ⟨record, hrecord, _⟩ := saveRecord_of_mem_tableRows h hmem
    exact ⟨record, hrecord, hrow r hmem record hrecord⟩
  have hisRow : ∀ r ∈ (sortBy Prod.fst v.tableRows).map normalRow, IsRow r.2 := by
    intro s hs
    obtain ⟨r, hr, rfl⟩ := List.mem_map.1 hs
    obtain ⟨_, _, _, hisRow⟩ := hsaved r hr
    exact hisRow
  have hascending : ((sortBy Prod.fst v.tableRows).map normalRow).Pairwise (·.1 ≤ ·.1) :=
    List.pairwise_map.2 (sortBy_ascending v.tableRows)
  obtain ⟨rows', hrows', hagain⟩ := rowsOf_tableFields (d := d) hisRow hascending
  have htable : normalTable normal d v = .object (tableFields ((sortBy Prod.fst v.tableRows).map normalRow)) := by
    rw [normalTable, sortBy_map (f := normalRow) (k := Prod.fst) fun _ => rfl]
  refine ⟨rows', htable ▸ hrows', ?_⟩
  -- a row that is given again is its normal form, but for the further rows that it keeps
  refine forall₂_imp_mem (List.forall₂_map_left_iff.1 hagain) fun r hr r' _ hagain' => ?_
  obtain ⟨hindex, rest, hrest⟩ := hagain'
  obtain ⟨record, hrecord, hnormal, hisRow⟩ := hsaved r hr
  refine .of_saved hindex hrecord ?_
  rw [hrest, saveRecord_withRest hisRow, hnormal]

/-- The normal form of a value is saved as the value is. -/
theorem save_normal {s : Schema} (hs : s.Consistent) (hplain : s.Steady) (h : v.save charset s = .ok bytes) :
    (v.normal s).save charset s = .ok bytes := by
  induction hn : v.depth using Nat.strong_induction_on generalizing v s bytes with
  | _ n ih =>
    subst hn
    -- the normal form of an entry can stand for it, and does not become a default
    have hentry : ∀ e, Gives v s e → e.Follows charset (normalEntry normal e) ∧
        isDefault e.schema (normalEntry normal e).value = false := by
      intro e he
      obtain ⟨payload, hpayload, _⟩ := he.payload h
      refine ⟨follows_normalEntry hpayload fun u hu hsave => ?_, ?_⟩
      · obtain ⟨d, hd, hfield⟩ := he.mem_fields hu
        exact ih e.value.depth he.depth_lt (hs.field hd hfield) (hplain.field hd hfield) hsave rfl
      · have hne := he.isDefault
        unfold Entry.payload at hpayload
        unfold normalEntry
        cases hu : e.schema with
        | none => rfl
        | some u =>
          simp only [hu] at hpayload hne ⊢
          obtain ⟨d, hd, hfield⟩ := he.mem_fields hu
          exact isDefault_normal (hplain d hd u hfield) hpayload hne
    obtain ⟨kind, target, hkind, h⟩ := save_eq_ok.1 h
    rcases h with ⟨rfl, d, hd, h⟩ | ⟨rfl, d, hd, h⟩ | ⟨hleaf, h⟩
    · have := fun e he => hentry e (.inl ⟨d, hd, he⟩)
      rw [normal_of_record hkind hd, save_of_record hd]
      exact (saveRecord_normalRecord (hs.record hd) h (fun e he => (this e he).1) fun e he => (this e he).2).1
    · have := fun r hr e he => hentry e (.inr ⟨d, hd, r, hr, he⟩)
      rw [normal_of_table hkind hd, save_of_table hd]
      refine saveTable_normalTable h fun r hr record hrecord => ?_
      exact saveRecord_normalRecord (hs.table hd) hrecord (fun e he => (this r hr e he).1)
        fun e he => (this r hr e he).2
    · obtain ⟨c, hc, hbytes⟩ := (contentBytes_eq_ok hleaf).1 h
      obtain rfl := Content.kind_of_ofValue hc
      rw [normal_of_leaf hkind hleaf, normalContent_of_ofValue hc]
      refine save_eq_ok.2 ⟨c.kind, target, hkind, .inr (.inr ⟨hleaf, ?_⟩)⟩
      exact (contentBytes_eq_ok hleaf).2 ⟨c, Content.ofValue_toValue (Content.fits_of_ofValue hc) _, hbytes⟩

end Value

end ChunkTree
