import ChunkTree.Proofs.Content
import ChunkTree.Proofs.SaveNesting

/-!
# What saving may fail with

A text that cannot be encoded is reported in one place only, where it is encoded, and a size mismatch where a chunk
is written.  All else that is done to save a value fails with other errors (`Error.isPlain`): taking it as content,
looking up schemas, listing entries and rows.  So what saving a value may fail with (`Save.FailsOnly`) depends on
its texts and on the values in it, and on nothing else.
-/

namespace ChunkTree

open Text (Charset)

/-- Whether an error concerns neither the encoding of a text nor the size of a chunk. -/
def Error.isPlain : Error → Bool
  | unencodable .. | sizeMismatch .. => false
  | _ => true

namespace Save

/-- A computation that fails only with errors of which `P` holds. -/
def FailsOnly {α : Type} (P : Error → Prop) (x : Except Error α) : Prop :=
  ∀ e, x = .error e → P e

namespace FailsOnly

variable {α β : Type} {P : Error → Prop}

theorem ok (a : α) : FailsOnly P (.ok a) := by
  intro e h
  cases h

theorem error {e : Error} (h : P e) : FailsOnly P (.error e : Except Error α) := by
  rintro _ ⟨⟩
  exact h

theorem bind {x : Except Error α} {f : α → Except Error β} (hx : FailsOnly P x)
    (hf : ∀ a, x = .ok a → FailsOnly P (f a)) : FailsOnly P (x >>= f) := by
  intro e h
  rcases bind_eq_error.1 h with h | ⟨a, ha, h⟩
  · exact hx e h
  · exact hf a ha e h

theorem map {x : Except Error α} {f : α → β} (hx : FailsOnly P x) :
    FailsOnly P (do return f (← x) : Except Error β) :=
  hx.bind fun _ _ => ok _

theorem mapM {f : α → Except Error β} {xs : List α} (h : ∀ x ∈ xs, FailsOnly P (f x)) :
    FailsOnly P (xs.mapM f) := by
  induction xs with
  | nil => exact ok _
  | cons x xs ih =>
    obtain ⟨hx, hxs⟩ := List.forall_mem_cons.1 h
    rw [List.mapM_cons]
    exact hx.bind fun _ _ => (ih hxs).bind fun _ _ => ok _

end FailsOnly

open FailsOnly

variable {charset : Charset} {P : Error → Prop}

/-! ## Texts -/

theorem failsOnly_size {text : String} (h : FailsOnly P (StoredText.encode charset text)) :
    FailsOnly P (StoredText.size charset text) := by
  unfold StoredText.size
  split
  · exact ok _
  · exact h.map

theorem failsOnly_encodeSized {text : String} (h : FailsOnly P (StoredText.encode charset text)) :
    FailsOnly P (StoredText.encodeSized charset text) :=
  h.map

theorem failsOnly_byteSize {commands : List Command}
    (h : ∀ c ∈ commands, FailsOnly P (StoredText.encode charset c.text)) :
    FailsOnly P (Script.byteSize charset commands) := by
  induction commands with
  | nil => exact ok _
  | cons c commands ih =>
    obtain ⟨hc, hcommands⟩ := List.forall_mem_cons.1 h
    exact (failsOnly_size hc).map.bind fun _ _ => (ih hcommands).map

/-- Content is written, unless one of its texts cannot be encoded. -/
theorem failsOnly_bytes {c : Content} (h : ∀ t ∈ c.texts, FailsOnly P (StoredText.encode charset t)) :
    FailsOnly P (c.bytes charset) := by
  cases c with
  | string s => exact h s List.mem_cons_self
  | script commands =>
    refine (mapM fun c hc => ?_).map
    exact (failsOnly_encodeSized (h c.text (List.mem_map_of_mem hc))).map
  | _ => exact ok _

/-! ## Content -/

section Plain

variable (hP : ∀ e : Error, e.isPlain → P e)

include hP

theorem failsOnly_whole (field expected : String) (inRange : Int → Bool) (v : Value) :
    FailsOnly P (whole field expected inRange v) := by
  unfold whole
  split
  · exact error (hP _ rfl)
  · split
    · exact ok _
    · exact error (hP _ rfl)

theorem failsOnly_bool (field : String) (v : Value) : FailsOnly P (bool field v) := by
  unfold bool
  split
  · exact ok _
  · exact error (hP _ rfl)

theorem failsOnly_float (field : String) (v : Value) : FailsOnly P (float field v) := by
  unfold float
  split
  · exact ok _
  · exact ok _
  · exact error (hP _ rfl)

theorem failsOnly_string (field : String) (v : Value) : FailsOnly P (string field v) := by
  unfold string
  split
  · exact ok _
  · exact error (hP _ rfl)

theorem failsOnly_array (field : String) (v : Value) : FailsOnly P (array field v) := by
  unfold array
  split
  · exact ok _
  · exact error (hP _ rfl)

theorem failsOnly_items {α : Type} {field : String} {item : Value → Except Error α} {v : Value}
    (h : ∀ x, FailsOnly P (item x)) : FailsOnly P (items field item v) :=
  (failsOnly_array hP field v).bind fun _ _ => mapM fun x _ => h x

theorem failsOnly_int32 (field : String) (v : Value) : FailsOnly P (int32 field v) :=
  (failsOnly_whole hP _ _ _ v).map

theorem failsOnly_uint32 (field : String) (v : Value) : FailsOnly P (uint32 field v) :=
  (failsOnly_whole hP _ _ _ v).map

theorem failsOnly_ints (width : Nat) (field : String) (v : Value) : FailsOnly P (ints width field v) :=
  failsOnly_items hP fun x => failsOnly_whole hP _ _ _ x

theorem failsOnly_int32s (field : String) (v : Value) : FailsOnly P (int32s field v) :=
  failsOnly_items hP fun x => failsOnly_int32 hP field x

theorem failsOnly_part (field key : String) (v : Value) : FailsOnly P (part field key v) := by
  unfold part
  split
  · exact ok _
  · exact error (hP _ rfl)

omit hP in
theorem failsOnly_partOr {α : Type} {key : String} {take : Value → Except Error α} {otherwise : α}
    {v : Value} (h : ∀ x, FailsOnly P (take x)) : FailsOnly P (partOr key take otherwise v) := by
  unfold partOr
  split
  · exact h _
  · exact ok _

theorem failsOnly_mapTree (field : String) (v : Value) : FailsOnly P (mapTree field v) :=
  (failsOnly_part hP field "nodes" v).bind fun _ _ =>
    (failsOnly_items hP fun x => failsOnly_uint32 hP field x).bind fun _ _ =>
      (failsOnly_part hP field "active_node" v).bind fun _ _ => (failsOnly_uint32 hP field _).map

theorem failsOnly_command (field : String) (v : Value) : FailsOnly P (command field v) := by
  unfold command
  split
  · exact error (hP _ rfl)
  · exact (failsOnly_part hP field "code" v).bind fun _ _ =>
      (failsOnly_uint32 hP field _).bind fun _ _ =>
        (failsOnly_partOr fun x => failsOnly_uint32 hP field x).bind fun _ _ =>
          (failsOnly_partOr fun x => failsOnly_string hP field x).bind fun _ _ =>
            (failsOnly_partOr fun x => failsOnly_int32s hP field x).map

theorem failsOnly_script (field : String) (v : Value) : FailsOnly P (script field v) :=
  failsOnly_items hP fun x => failsOnly_command hP field x

theorem failsOnly_rawBytes (index : UInt32) (v : Value) : FailsOnly P (rawBytes index v) :=
  failsOnly_items hP fun x => (failsOnly_whole hP _ _ _ x).map

theorem failsOnly_ofValue (kind : Kind) (field : String) (v : Value) :
    FailsOnly P (Content.ofValue kind field v) := by
  cases kind with
  | integer => exact (failsOnly_int32 hP field v).map
  | bool => exact (failsOnly_bool hP field v).map
  | float => exact (failsOnly_float hP field v).map
  | string => exact (failsOnly_string hP field v).map
  | script => exact (failsOnly_script hP field v).map
  | int8s | int16s | int32s => exact (failsOnly_ints hP _ field v).map
  | varints => exact (failsOnly_int32s hP field v).map
  | mapTree => exact (failsOnly_mapTree hP field v).map
  | record | table => exact error (hP _ rfl)

theorem failsOnly_contentSize {kind : Kind} {field : String} {v : Value}
    (h : ∀ c, Content.ofValue kind field v = .ok c →
      ∀ t ∈ c.texts, FailsOnly P (StoredText.encode charset t)) :
    FailsOnly P (contentSize charset kind field v) := by
  cases kind with
  | integer => exact (failsOnly_int32 hP field v).map
  | bool => exact (failsOnly_bool hP field v).map
  | float | record | table => exact ok _
  | string =>
    refine (failsOnly_string hP field v).bind fun text htext => failsOnly_size ?_
    exact h (.string text) (bind_eq_ok.2 ⟨text, htext, rfl⟩) text List.mem_cons_self
  | script =>
    refine (failsOnly_script hP field v).bind fun commands hcommands => failsOnly_byteSize fun c hc => ?_
    exact h (.script commands) (bind_eq_ok.2 ⟨commands, hcommands, rfl⟩) c.text (List.mem_map_of_mem hc)
  | int8s | int16s | int32s => exact (failsOnly_ints hP _ field v).map
  | varints => exact (failsOnly_int32s hP field v).map
  | mapTree => exact (failsOnly_mapTree hP field v).map

theorem failsOnly_contentBytes {kind : Kind} {field : String} {v : Value} (hleaf : kind.isComposite = false)
    (h : ∀ c, Content.ofValue kind field v = .ok c →
      ∀ t ∈ c.texts, FailsOnly P (StoredText.encode charset t)) :
    FailsOnly P (contentBytes charset kind field v) := by
  rw [contentBytes_eq hleaf]
  exact (failsOnly_ofValue hP kind field v).bind fun c hc => failsOnly_bytes (h c hc)

/-! ## Schemas, entries and rows -/

theorem failsOnly_resolve (schema : Schema) : FailsOnly P schema.resolve := by
  unfold Schema.resolve
  split
  · exact ok _
  · split
    · exact error (hP _ rfl)
    · split
      · exact ok _
      · exact error (hP _ rfl)

theorem failsOnly_actual (schema : Schema) (expected : Kind) : FailsOnly P (schema.actual expected) := by
  refine (failsOnly_resolve hP schema).bind fun ⟨kind, resolved⟩ _ => ?_
  simp only
  split
  · exact error (hP _ rfl)
  split
  · exact ok _
  · exact ok _
  · split
    · exact error (hP _ rfl)
    · split
      · exact ok _
      · exact error (hP _ rfl)
  · exact error (hP _ rfl)

theorem failsOnly_keyEntry (schema : Schema) (key : String) (v : Value) :
    FailsOnly P (keyEntry schema key v) := by
  unfold keyEntry
  split
  · exact ok _
  split
  · split
    · exact error (hP _ rfl)
    · exact ok _
  · split
    · exact error (hP _ rfl)
    · split
      · exact error (hP _ rfl)
      · simp only
        split
        · exact ok _
        · exact ok _

theorem failsOnly_givenEntries (schema : Schema) (fields : Fields) :
    FailsOnly P (givenEntries schema fields) := by
  induction fields with
  | nil => exact ok _
  | cons f fields ih => exact (failsOnly_keyEntry hP schema f.1 f.2).bind fun _ _ => ih.map

theorem failsOnly_restOf (key : String) (row : Value) : FailsOnly P (restOf key row) := by
  unfold restOf
  split
  · exact ok _
  · split
    · exact ok _
    · exact error (hP _ rfl)

theorem failsOnly_givenRows (schema : Schema) (fields : Fields) : FailsOnly P (givenRows schema fields) := by
  induction fields with
  | nil => exact ok _
  | cons f fields ih =>
    obtain ⟨key, row⟩ := f
    rw [givenRows]
    split
    · exact error (hP _ rfl)
    · exact (failsOnly_restOf hP key row).bind fun _ _ => ih.map

theorem failsOnly_rowsOf (schema : Schema) (v : Value) : FailsOnly P (rowsOf schema v) := by
  unfold rowsOf
  split
  · exact error (hP _ rfl)
  · exact (failsOnly_givenRows hP schema _).map

end Plain

/-! ## Sizes -/

/-- What the values of entries may fail with, as the size or the bytes of each. -/
def Allowed {α : Type} (P : Error → Prop) (f : Value → Schema → Except Error α) (entries : List Entry) : Prop :=
  ∀ e ∈ entries, ∀ u, e.schema = some u → FailsOnly P (f e.value u)

/-- The same for all entries of a record: those that its keys give, and the numbers of its size fields. -/
def Inner {α : Type} (P : Error → Prop) (f : Value → Schema → Except Error α) (d : Schema) (v : Value) : Prop :=
  ∀ fields given, v.asObject = some fields → givenEntries d fields = .ok given →
    Allowed P f given ∧ ∀ n u, FailsOnly P (f (.ofNat n) u)

variable {α : Type} {f : Value → Schema → Except Error α} {size : Value → Schema → Except Error Nat}
  {schema : Schema} {v : Value} {entries given : List Entry}

theorem Inner.allowed (h : Inner P f schema v) (hentries : entriesOf size schema v = .ok entries) :
    Allowed P f entries := by
  obtain ⟨fields, given, sizes, hv, hgiven, hsizes, _, rfl⟩ := entriesOf_eq_ok.1 hentries
  obtain ⟨hallowed, hnumber⟩ := h fields given hv hgiven
  intro e he u hu
  rcases List.mem_append.1 (mem_sortBy.1 he) with he | he
  · exact hallowed e he u hu
  · obtain ⟨_, _, _, _, n, _, _, _, _, heq⟩ := mem_sizeEntries hsizes he
    rw [heq]
    exact hnumber n u

theorem depth_ofNat_lt {fields : Fields} (hv : v.asObject = some fields) (n : Nat) :
    (Value.ofNat n).depth < v.depth := by
  rw [Value.eq_object_of_asObject hv]
  simp [Value.ofNat, Value.depth]

/-- What holds of all values that are nested less deep holds of the values in a record. -/
theorem Inner.of_depth {n : Nat} (h : ∀ x s, x.depth < n → FailsOnly P (f x s)) (hv : v.depth ≤ n) :
    Inner P f schema v := by
  intro fields given hfields hgiven
  refine ⟨fun e he u _ => h _ u ?_, fun k u => h _ u ((depth_ofNat_lt hfields k).trans_le hv)⟩
  exact (depth_of_mem_givenEntries hfields hgiven he).trans_le hv

section Plain

variable (hP : ∀ e : Error, e.isPlain → P e)

include hP

theorem failsOnly_payloadSize {e : Entry} (h : ∀ u, e.schema = some u → FailsOnly P (size e.value u)) :
    FailsOnly P (e.payloadSize size) := by
  unfold Entry.payloadSize
  split
  · exact h _ ‹_›
  · exact (failsOnly_rawBytes hP e.index e.value).map

theorem failsOnly_payload {write : Value → Schema → Except Error (List UInt8)} {e : Entry}
    (h : ∀ u, e.schema = some u → FailsOnly P (write e.value u)) : FailsOnly P (e.payload write) := by
  unfold Entry.payload
  split
  · exact h _ ‹_›
  · exact failsOnly_rawBytes hP e.index e.value

theorem failsOnly_count {e : Entry} (h : ∀ u, e.schema = some u → FailsOnly P (size e.value u)) :
    FailsOnly P (e.count size) := by
  refine (failsOnly_payloadSize hP h).bind fun payload _ => ?_
  split
  · exact ok _
  · refine (failsOnly_resolve hP _).bind fun ⟨kind, _⟩ _ => ?_
    simp only
    split <;> exact ok _

theorem failsOnly_sizeEntries (h : Allowed P size given) (fields : List Schema) :
    FailsOnly P (sizeEntries size given fields) := by
  induction fields with
  | nil => exact ok _
  | cons field fields ih =>
    rw [sizeEntries]
    split
    · split
      · rename_i entry hentry
        have hcount := failsOnly_count hP (h entry (List.mem_of_find?_eq_some hentry))
        exact hcount.bind fun _ _ => ih.map
      · exact ih
    · exact ih

theorem failsOnly_entriesOf (h : Inner P size schema v) : FailsOnly P (entriesOf size schema v) := by
  unfold entriesOf
  split
  · exact error (hP _ rfl)
  · rename_i fields hv
    refine (failsOnly_givenEntries hP schema fields).bind fun given hgiven => ?_
    refine (failsOnly_sizeEntries hP (h fields given hv hgiven).1 _).bind fun sizes _ => ?_
    simp only
    split
    · exact error (hP _ rfl)
    · exact ok _

theorem failsOnly_entriesSize (h : Allowed P size entries) : FailsOnly P (entriesSize size entries) := by
  induction entries with
  | nil => exact ok _
  | cons e entries ih =>
    obtain ⟨he, hentries⟩ := List.forall_mem_cons.1 h
    exact (failsOnly_payloadSize hP he).bind fun _ _ => (ih hentries).map

theorem failsOnly_recordSize (h : Inner P size schema v) : FailsOnly P (recordSize size schema v) :=
  (failsOnly_entriesOf hP h).bind fun _ hentries => (failsOnly_entriesSize hP (h.allowed hentries)).map

theorem failsOnly_rowsSize {rows : List (UInt32 × Value)} (h : ∀ r ∈ rows, Inner P size schema r.2) :
    FailsOnly P (rowsSize size schema rows) := by
  induction rows with
  | nil => exact ok _
  | cons r rows ih =>
    obtain ⟨hr, hrows⟩ := List.forall_mem_cons.1 h
    exact (failsOnly_recordSize hP hr).bind fun _ _ => (ih hrows).map

theorem failsOnly_tableSize
    (h : ∀ rows, rowsOf schema v = .ok rows → ∀ r ∈ rows, Inner P size schema r.2) :
    FailsOnly P (tableSize size schema v) :=
  (failsOnly_rowsOf hP schema v).bind fun rows hrows => (failsOnly_rowsSize hP (h rows hrows)).map

end Plain

end Save

end ChunkTree
