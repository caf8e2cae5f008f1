import ChunkTree.Proofs.ContentSize
import ChunkTree.Proofs.Layout
import ChunkTree.Proofs.Mismatch

/-!
# Sizes are right

The size that is worked out for a value is the number of bytes that it is saved as, so the comparison that
is made when a chunk has been written never fails (`Value.save_size`).
-/

namespace ChunkTree

open Text (Charset)

namespace Save

variable {size : Value → Schema → Except Error Nat} {write : Value → Schema → Except Error (List UInt8)}
  {schema : Schema} {v : Value} {bytes : List UInt8}

theorem entriesSize_of_writeEntries {entries : List Entry} (h : writeEntries size write entries = .ok bytes) :
    entriesSize size entries = .ok bytes.length := by
  induction entries generalizing bytes with
  | nil =>
    obtain rfl : [] = bytes := Except.ok.inj h
    rfl
  | cons e entries ih =>
    obtain ⟨c, rest, hc, hrest, rfl⟩ := writeEntries_cons_eq_ok.1 h
    rw [entriesSize, hc.length, ok_bind, ih hrest, ok_bind, chunkBytes, hc.index]
    simp only [List.length_append, Varint.length_encode, Varint.length_encodeLength]
    rfl

theorem recordSize_of_writeRecord (h : writeRecord size write schema v = .ok bytes) :
    recordSize size schema v = .ok bytes.length := by
  obtain ⟨entries, chunks, hentries, hchunks, rfl⟩ := writeRecord_eq_ok.1 h
  rw [recordSize, hentries, ok_bind, entriesSize_of_writeEntries hchunks, ok_bind, List.length_append,
    Varint.length_encode]
  rfl

theorem rowsSize_of_writeRows {rows : List (UInt32 × Value)}
    (h : writeRows size write schema rows = .ok bytes) :
    rowsSize size schema rows = .ok bytes.length := by
  induction rows generalizing bytes with
  | nil =>
    obtain rfl : [] = bytes := Except.ok.inj h
    rfl
  | cons r rows ih =>
    obtain ⟨index, row⟩ := r
    obtain ⟨record, rest, hrecord, hrest, rfl⟩ := writeRows_cons_eq_ok.1 h
    rw [rowsSize, recordSize_of_writeRecord hrecord, ok_bind, ih hrest, ok_bind, List.length_append,
      List.length_append, Varint.length_encode]
    rfl

theorem tableSize_of_writeTable (h : writeTable size write schema v = .ok bytes) :
    tableSize size schema v = .ok bytes.length := by
  obtain ⟨rows, records, hrows, hrecords, rfl⟩ := writeTable_eq_ok.1 h
  rw [tableSize, hrows, ok_bind, rowsSize_of_writeRows hrecords, ok_bind, List.length_append,
    Varint.length_encodeLength]
  rfl

theorem sizeBy_of_writeBy {charset : Charset} (h : writeBy charset size write v schema = .ok bytes) :
    sizeBy charset size v schema = .ok bytes.length := by
  obtain ⟨kind, resolved, hkind, h⟩ := writeBy_eq_ok.1 h
  rw [sizeBy, hkind, ok_bind]
  rcases h with ⟨rfl, s, hs, h⟩ | ⟨rfl, s, hs, h⟩ | ⟨hleaf, h⟩
  · exact bind_eq_ok.2 ⟨s, hs, recordSize_of_writeRecord h⟩
  · exact bind_eq_ok.2 ⟨s, hs, tableSize_of_writeTable h⟩
  · cases kind with
    | record | table => cases hleaf
    | _ => exact contentSize_of_contentBytes h

end Save

theorem Value.savedSize_of_save {charset : Charset} {v : Value} {schema : Schema} {bytes : List UInt8}
    (h : v.save charset schema = .ok bytes) : v.savedSize charset schema = .ok bytes.length := by
  rw [savedSize_eq]
  rw [save_eq] at h
  exact Save.sizeBy_of_writeBy h

/-- The size of an entry is the length of the payload that it is written as. -/
theorem Save.Entry.payloadSize_of_payload {charset : Charset} {e : Entry} {payload : List UInt8}
    (h : e.payload (Value.save charset) = .ok payload) :
    e.payloadSize (Value.savedSize charset) = .ok payload.length := by
  unfold Entry.payload at h
  unfold Entry.payloadSize
  cases hu : e.schema with
  | some u =>
    simp only [hu] at h ⊢
    exact Value.savedSize_of_save h
  | none =>
    simp only [hu] at h ⊢
    rw [h]
    rfl

namespace Save

/-- What is needed of the values in a value for its chunks to be written without a mismatch: the size of
each is the number of its bytes, and neither fails with a mismatch. -/
structure Agree (size : Value → Schema → Except Error Nat)
    (write : Value → Schema → Except Error (List UInt8)) (depth : Nat) : Prop where
  size_of_write : ∀ x s bytes, x.depth < depth → write x s = .ok bytes → size x s = .ok bytes.length
  size_noMismatch : ∀ x s, x.depth < depth → NoMismatch (size x s)
  write_noMismatch : ∀ x s, x.depth < depth → NoMismatch (write x s)

variable {size : Value → Schema → Except Error Nat} {write : Value → Schema → Except Error (List UInt8)}
  {schema : Schema} {v : Value} {depth : Nat}

namespace Agree

theorem mono (h : Agree size write depth) {depth' : Nat} (hd : depth' ≤ depth) : Agree size write depth' where
  size_of_write x s bytes hx := h.size_of_write x s bytes (hx.trans_le hd)
  size_noMismatch x s hx := h.size_noMismatch x s (hx.trans_le hd)
  write_noMismatch x s hx := h.write_noMismatch x s (hx.trans_le hd)

/-- The length of a payload is the length that was computed for it. -/
theorem length_payload (h : Agree size write depth) {e : Entry} (he : e.value.depth < depth) {length : Nat}
    {payload : List UInt8} (hs : e.payloadSize size = .ok length) (hw : e.payload write = .ok payload) :
    payload.length = length := by
  unfold Entry.payloadSize at hs
  unfold Entry.payload at hw
  split at hs
  · simp only [*] at hw
    have := (h.size_of_write _ _ _ he hw).symm.trans hs
    exact Except.ok.inj this
  · simp only [*] at hw
    rw [hw] at hs
    exact Except.ok.inj hs

section Plain

variable {P : Error → Prop} (hP : ∀ e : Error, e.isPlain → P e)

include hP

theorem failsOnly_writeEntries (h : Agree size write depth) {entries : List Entry}
    (hentries : ∀ e ∈ entries, e.value.depth < depth) (hsize : Allowed P size entries)
    (hwrite : Allowed P write entries) : FailsOnly P (writeEntries size write entries) := by
  induction entries with
  | nil => exact .ok _
  | cons e entries ih =>
    obtain ⟨he, hentries⟩ := List.forall_mem_cons.1 hentries
    obtain ⟨hsizeHead, hsize⟩ := List.forall_mem_cons.1 hsize
    obtain ⟨hwriteHead, hwrite⟩ := List.forall_mem_cons.1 hwrite
    refine (failsOnly_payloadSize hP hsizeHead).bind fun length hlength => ?_
    refine (failsOnly_payload hP hwriteHead).bind fun payload hpayload => ?_
    -- the one place where a mismatch is reported is not reached
    rw [if_neg (not_not.2 (h.length_payload he hlength hpayload))]
    exact (ih hentries hsize hwrite).map

theorem failsOnly_writeRecord (h : Agree size write v.depth) (hsize : Inner P size schema v)
    (hwrite : Inner P write schema v) : FailsOnly P (writeRecord size write schema v) := by
  refine (failsOnly_entriesOf hP hsize).bind fun entries hentries => FailsOnly.map ?_
  exact h.failsOnly_writeEntries hP (fun e he => depth_of_mem_entriesOf hentries he)
    (hsize.allowed hentries) (hwrite.allowed hentries)

theorem failsOnly_writeRows (h : Agree size write depth) {rows : List (UInt32 × Value)}
    (hrows : ∀ r ∈ rows, r.2.depth < depth) (hsize : ∀ r ∈ rows, Inner P size schema r.2)
    (hwrite : ∀ r ∈ rows, Inner P write schema r.2) : FailsOnly P (writeRows size write schema rows) := by
  induction rows with
  | nil => exact .ok _
  | cons r rows ih =>
    obtain ⟨hr, hrows⟩ := List.forall_mem_cons.1 hrows
    obtain ⟨hsizeHead, hsize⟩ := List.forall_mem_cons.1 hsize
    obtain ⟨hwriteHead, hwrite⟩ := List.forall_mem_cons.1 hwrite
    have hrecord := (h.mono hr.le).failsOnly_writeRecord hP hsizeHead hwriteHead
    exact hrecord.bind fun _ _ => (ih hrows hsize hwrite).map

theorem failsOnly_writeTable (h : Agree size write v.depth)
    (hsize : ∀ rows, rowsOf schema v = .ok rows → ∀ r ∈ rows, Inner P size schema r.2)
    (hwrite : ∀ rows, rowsOf schema v = .ok rows → ∀ r ∈ rows, Inner P write schema r.2) :
    FailsOnly P (writeTable size write schema v) := by
  refine (failsOnly_rowsOf hP schema v).bind fun rows hrows => FailsOnly.map ?_
  exact h.failsOnly_writeRows hP (fun r hr => depth_of_mem_rowsOf hrows hr) (hsize rows hrows)
    (hwrite rows hrows)

end Plain

theorem noMismatch_writeRecord (h : Agree size write v.depth) :
    NoMismatch (writeRecord size write schema v) :=
  h.failsOnly_writeRecord noMismatch_of_isPlain (.of_depth h.size_noMismatch (le_refl _))
    (.of_depth h.write_noMismatch (le_refl _))

theorem noMismatch_writeTable (h : Agree size write v.depth) : NoMismatch (writeTable size write schema v) :=
  h.failsOnly_writeTable noMismatch_of_isPlain
    (fun _ hrows _ hr => .of_depth h.size_noMismatch (depth_of_mem_rowsOf hrows hr).le)
    fun _ hrows _ hr => .of_depth h.write_noMismatch (depth_of_mem_rowsOf hrows hr).le

end Agree

end Save

namespace Value

open Save (NoMismatch Agree)

variable (charset : Charset)

theorem noMismatch_save (v : Value) (schema : Schema) : NoMismatch (v.save charset schema) := by
  induction hn : v.depth using Nat.strong_induction_on generalizing v schema with
  | _ n ih =>
    subst hn
    -- the values in an object are nested less deep than the object
    have hagree : Agree (savedSize charset) (save charset) v.depth :=
      ⟨fun _ _ _ _ h => savedSize_of_save h, fun x s _ => noMismatch_savedSize charset x s,
        fun x s hx => ih x.depth hx x s rfl⟩
    have hplain := Save.noMismatch_of_isPlain
    rw [save_eq]
    refine (Save.failsOnly_resolve hplain schema).bind fun ⟨kind, _⟩ _ => ?_
    cases kind with
    | record => exact (Save.failsOnly_actual hplain schema _).bind fun _ _ => hagree.noMismatch_writeRecord
    | table => exact (Save.failsOnly_actual hplain schema _).bind fun _ _ => hagree.noMismatch_writeTable
    | _ => exact Save.failsOnly_contentBytes hplain rfl fun _ _ t _ => Save.noMismatch_encode charset t

theorem agree_save (depth : Nat) : Agree (savedSize charset) (save charset) depth :=
  ⟨fun _ _ _ _ h => savedSize_of_save h, fun x s _ => noMismatch_savedSize charset x s,
    fun x s _ => noMismatch_save charset x s⟩

theorem noMismatch_saveRecord (v : Value) (schema : Schema) : NoMismatch (v.saveRecord charset schema) := by
  rw [saveRecord_eq]
  exact (agree_save charset v.depth).noMismatch_writeRecord

theorem noMismatch_saveTable (v : Value) (schema : Schema) : NoMismatch (v.saveTable charset schema) := by
  rw [saveTable_eq]
  exact (agree_save charset v.depth).noMismatch_writeTable

end Value

namespace Save

variable {charset : Charset} {P : Error → Prop}

theorem failsOnly_filePart (hP : ∀ e : Error, e.isPlain → P e) (key : String) (v : Value) :
    FailsOnly P (filePart key v) := by
  unfold filePart
  split
  · exact .ok _
  · exact .error (hP _ rfl)

/-- The length in front of a sized root is that of its bytes. -/
theorem writeRoot_eq_ok {slot : Schema} {root : Value} {bytes : List UInt8} :
    writeRoot charset slot root = .ok bytes ↔ ∃ body, root.save charset slot = .ok body ∧
      (if slot.isSized then Varint.encodeLength body.length ++ body else body) = bytes := by
  unfold writeRoot
  cases slot.isSized with
  | false => simp
  | true =>
    simp only [if_true, bind_eq_ok]
    constructor
    · rintro ⟨length, hlength, body, hbody, h⟩
      obtain rfl := Except.ok.inj (hlength.symm.trans (Value.savedSize_of_save hbody))
      rw [if_neg (not_not.2 rfl)] at h
      exact ⟨body, hbody, pure_eq_ok.1 h⟩
    · rintro ⟨body, hbody, rfl⟩
      refine ⟨body.length, Value.savedSize_of_save hbody, body, hbody, ?_⟩
      rw [if_neg (not_not.2 rfl)]
      rfl

theorem failsOnly_writeRoot {slot : Schema} {root : Value} (hsize : FailsOnly P (root.savedSize charset slot))
    (hsave : FailsOnly P (root.save charset slot)) : FailsOnly P (writeRoot charset slot root) := by
  unfold writeRoot
  split
  · refine hsize.bind fun length hlength => hsave.bind fun bytes hbytes => ?_
    -- the length that was announced is the one that was written
    have heq := Except.ok.inj ((Value.savedSize_of_save hbytes).symm.trans hlength)
    rw [if_neg (not_not.2 heq)]
    exact .ok _
  · exact hsave

theorem failsOnly_writeRoots {slots : List Schema} {roots : List Value}
    (h : ∀ slot root, (slot, root) ∈ slots.zip roots →
      FailsOnly P (root.savedSize charset slot) ∧ FailsOnly P (root.save charset slot)) :
    FailsOnly P (writeRoots charset slots roots) := by
  induction slots generalizing roots with
  | nil => exact .ok _
  | cons slot slots ih =>
    cases roots with
    | nil => exact .ok _
    | cons root roots =>
      obtain ⟨hsize, hsave⟩ := h slot root List.mem_cons_self
      refine (failsOnly_writeRoot hsize hsave).bind fun _ _ => FailsOnly.map ?_
      exact ih fun slot' root' hmem => h slot' root' (List.mem_cons_of_mem _ hmem)

end Save

namespace Value

open Save

/-- Saving a file fails only as the signature and the roots may fail, or with a plain error. -/
theorem failsOnly_saveFile {charset : Charset} {P : Error → Prop} (hP : ∀ e : Error, e.isPlain → P e) {v : Value}
    (hsignature : ∀ signature, v.get? "signature" = some (.string signature) →
      FailsOnly P (StoredText.encode charset signature))
    (hroots : ∀ signature document roots, v.get? "signature" = some (.string signature) →
      Document.ofSignature? signature = some document → v.get? "root" = some (.array roots) →
        ∀ slot root, (slot, root) ∈ document.roots.zip roots →
          FailsOnly P (root.savedSize charset slot) ∧ FailsOnly P (root.save charset slot)) :
    FailsOnly P (v.saveFile charset) := by
  refine (failsOnly_filePart hP "signature" v).bind fun part hpart => ?_
  refine (failsOnly_string hP "signature" part).bind fun signature hstring => ?_
  obtain rfl := string_eq_ok.1 hstring
  have hpart := filePart_eq_ok.1 hpart
  split
  · exact .error (hP _ rfl)
  · rename_i document hdocument
    refine (failsOnly_filePart hP "root" v).bind fun part hroot => ?_
    refine (failsOnly_array hP "root" part).bind fun roots harray => ?_
    obtain rfl := array_eq_ok.1 harray
    have hroot := filePart_eq_ok.1 hroot
    split
    · exact .error (hP _ rfl)
    · refine (failsOnly_encodeSized (hsignature signature hpart)).bind fun _ _ => FailsOnly.map ?_
      exact failsOnly_writeRoots (hroots signature document roots hpart hdocument hroot)

theorem noMismatch_saveFile (charset : Charset) (v : Value) : NoMismatch (v.saveFile charset) :=
  failsOnly_saveFile noMismatch_of_isPlain (fun signature _ => noMismatch_encode charset signature)
    fun _ _ _ _ _ _ slot root _ => ⟨noMismatch_savedSize charset root slot, noMismatch_save charset root slot⟩

/-- The size of a value is the number of bytes that it is saved as, and saving never reports a size
mismatch. -/
theorem save_size (charset : Charset) (v : Value) (schema : Schema) :
    (∀ bytes, v.save charset schema = .ok bytes → v.savedSize charset schema = .ok bytes.length) ∧
      (∀ field expected actual,
        v.save charset schema ≠ .error (.sizeMismatch field expected actual) ∧
        v.saveRecord charset schema ≠ .error (.sizeMismatch field expected actual) ∧
        v.saveTable charset schema ≠ .error (.sizeMismatch field expected actual) ∧
        v.saveFile charset ≠ .error (.sizeMismatch field expected actual)) := by
  refine ⟨fun _ => savedSize_of_save, fun field expected actual => ?_⟩
  have hne : ∀ {x : Except Error (List UInt8)},
    NoMismatch x → x ≠ .error (.sizeMismatch field expected actual) :=
    fun hx h => Bool.noConfusion (hx _ h)
  exact ⟨hne (noMismatch_save charset v schema), hne (noMismatch_saveRecord charset v schema),
    hne (noMismatch_saveTable charset v schema), hne (noMismatch_saveFile charset v)⟩

/-- An inventory with gold and two items, one of them negative, and the rebuilt size of the items. -/
theorem save_size_inventory :
    let v : Value := .object [("gold", .int 5), ("item_ids", .array [.int 3, .int (-1)])]
    v.save .shiftJis ⟨Document.saveInventory⟩ = .ok [11, 1, 2, 12, 4, 3, 0, 255, 255, 21, 1, 5, 0] ∧
      v.savedSize .shiftJis ⟨Document.saveInventory⟩ = .ok 13 := by
  intro v
  have h : v.save .shiftJis ⟨Document.saveInventory⟩ = .ok [11, 1, 2, 12, 4, 3, 0, 255, 255, 21, 1, 5,
    0] := rfl
  exact ⟨h, (save_size .shiftJis v ⟨Document.saveInventory⟩).1 _ h⟩

end Value

end ChunkTree
