import ChunkTree.Proofs.Content
import ChunkTree.Proofs.TableValue

/-!
# Normal forms

What a value stands for under a schema can be spelled in many ways: whole numbers as floats, fields by name
or by index, keys in any order, defaults written out, rows of one index under several keys.  `Value.normal`
is the spelling that is canonical; `Value.normal_eq` unfolds it by one level.
-/

namespace ChunkTree

open Save (Entry sortBy)

namespace Value

/-- A whole number as an integer. -/
def normalInt (v : Value) : Value :=
  match v.asInt with
  | some n => .int n
  | none => v

/-- A number, or the text of one that is not finite, as a float. -/
def normalFloat (v : Value) : Value :=
  match v.asFloat, v.asString.bind NonFinite.ofText? with
  | some x, _ => .float x
  | none, some x => .float x
  | none, none => v

def normalItems (item : Value → Value) (v : Value) : Value :=
  match v.asArray with
  | some items => .array (items.map item)
  | none => v

/-- A part of an object, or something else if it is missing. -/
def normalPart (key : String) (part : Value → Value) (otherwise : Value) (v : Value) : Value :=
  match v.get? key with
  | some x => part x
  | none => otherwise

/-- A command with its nesting level, text and arguments, also where they are missing. -/
def normalCommand (v : Value) : Value :=
  .object [("code", normalInt (v.field "code")), ("nest", normalPart "nest" normalInt (.int 0) v),
    ("str", normalPart "str" id (.string "") v),
      ("args", normalPart "args" (normalItems normalInt) (.array []) v)]

def normalMapTree (v : Value) : Value :=
  .object [("nodes", normalItems normalInt (v.field "nodes")),
    ("active_node", normalInt (v.field "active_node"))]

/-- The normal form of content without chunks of its own. -/
def normalContent : Kind → Value → Value
  | .integer, v => normalInt v
  | .float, v => normalFloat v
  | .script, v => normalItems normalCommand v
  | .int8s, v | .int16s, v | .int32s, v | .varints, v => normalItems normalInt v
  | .mapTree, v => normalMapTree v
  | _, v => v

/-- The entries that the keys of an object are kept as, in the order of the keys. -/
def keptEntries (d : Schema) (v : Value) : List Entry :=
  (v.asObject.getD []).filterMap fun f => d.kept f.1 f.2

/-- An entry with its value in normal form; a chunk that the schema does not know is an array of numbers. -/
def normalEntry (normal : Value → Schema → Value) (e : Entry) : Entry :=
  { e with
    value := match e.schema with
      | some s => normal e.value s
      | none => normalItems normalInt e.value }

/-- The normal form of a record: what is kept, by index, and the defaults of what is missing. -/
def normalRecord (normal : Value → Schema → Value) (d : Schema) (v : Value) : Value :=
  .object (recordFields d (sortBy Entry.index ((keptEntries d v).map (normalEntry normal))))

/-- The further rows that a row keeps. -/
def furtherRows (row : Value) : List Value :=
  (row.field restKey).asArray.getD []

/-- The rows of an object, each with its index, in the order of the keys. -/
def tableRows (v : Value) : List (UInt32 × Value) :=
  (v.asObject.getD []).flatMap fun f =>
    match Save.index? f.1 with
    | some i => (i, f.2) :: (furtherRows f.2).map (i, ·)
    | none => []

/-- The normal form of a table: its rows by index, each in normal form. -/
def normalTable (normal : Value → Schema → Value) (d : Schema) (v : Value) : Value :=
  .object (tableFields (sortBy Prod.fst ((tableRows v).map fun r => (r.1, normalRecord normal d r.2))))

/-- The normal form of a value, given the normal form of the values in it. -/
def normalBy (normal : Value → Schema → Value) (v : Value) (s : Schema) : Value :=
  match s.resolve with
  | .ok (.record, _) =>
    match s.actual .record with
    | .ok d => normalRecord normal d v
    | .error _ => v
  | .ok (.table, _) =>
    match s.actual .table with
    | .ok d => normalTable normal d v
    | .error _ => v
  | .ok (kind, _) => normalContent kind v
  | .error _ => v

/-- The normal form of a value nested less than `bound` deep. -/
def normalWithin : (bound : Nat) → Value → Schema → Value
  | 0, v, _ => v
  | bound + 1, v, s => normalBy (normalWithin bound) v s

/-- The normal form of a value under a schema. -/
def normal (v : Value) (s : Schema) : Value :=
  normalWithin (v.depth + 1) v s

/-! ## Unfolding by one level -/

theorem value_of_kept {d : Schema} {key : String} {v : Value} {e : Entry} (h : d.kept key v = some e) :
    e.value = v :=
  (Schema.kept_eq_some.1 h).2.2.2.2

theorem depth_of_mem_keptEntries {d : Schema} {v : Value} {e : Entry} (h : e ∈ keptEntries d v) :
    e.value.depth < v.depth := by
  obtain ⟨f, hf, he⟩ := List.mem_filterMap.1 h
  cases hv : v.asObject with
  | none => simp [hv] at hf
  | some fields =>
    rw [hv] at hf
    rw [value_of_kept he]
    exact depth_lt_of_asObject hv hf

/-- The schema of an entry is the field of the record that has its index. -/
theorem field_of_mem_keptEntries {d u : Schema} {v : Value} {e : Entry} (h : e ∈ keptEntries d v)
    (hu : e.schema = some u) : u ∈ d.fields ∧ u.index? = some e.index := by
  obtain ⟨f, _, he⟩ := List.mem_filterMap.1 h
  obtain ⟨_, hdesignated, _⟩ := Schema.kept_eq_some.1 he
  exact Schema.field_of_designated (hu ▸ hdesignated)

theorem depth_of_mem_furtherRows {row x : Value} (h : x ∈ furtherRows row) : x.depth < row.depth := by
  unfold furtherRows field at h
  cases hget : row.get? restKey with
  | none => simp [hget, asArray] at h
  | some rest =>
    cases hitems : rest.asArray with
    | none => simp [hget, hitems] at h
    | some items =>
      simp only [hget, Option.getD_some, hitems] at h
      exact (depth_lt_of_asArray hitems h).trans (depth_lt_of_get? hget)

theorem depth_of_mem_tableRows {v : Value} {r : UInt32 × Value} (h : r ∈ tableRows v) :
    r.2.depth < v.depth := by
  obtain ⟨f, hf, hr⟩ := List.mem_flatMap.1 h
  cases hv : v.asObject with
  | none => simp [hv] at hf
  | some fields =>
    rw [hv] at hf
    have hrow := depth_lt_of_asObject hv hf
    split at hr
    · rcases List.mem_cons.1 hr with rfl | hr
      · exact hrow
      · obtain ⟨x, hx, rfl⟩ := List.mem_map.1 hr
        exact (depth_of_mem_furtherRows hx).trans hrow
    · simp at hr

section

variable {normal normal' : Value → Schema → Value} {v : Value}

theorem normalRecord_congr (d : Schema) (h : ∀ x s, x.depth < v.depth → normal x s = normal' x s) :
    normalRecord normal d v = normalRecord normal' d v := by
  rw [normalRecord, normalRecord]
  congr 3
  refine List.map_congr_left fun e he => ?_
  unfold normalEntry
  split
  · rw [h _ _ (depth_of_mem_keptEntries he)]
  · rfl

theorem normalTable_congr (d : Schema) (h : ∀ x s, x.depth < v.depth → normal x s = normal' x s) :
    normalTable normal d v = normalTable normal' d v := by
  rw [normalTable, normalTable]
  congr 3
  refine List.map_congr_left fun r hr => ?_
  rw [normalRecord_congr d fun x s hx => h x s (hx.trans (depth_of_mem_tableRows hr))]

theorem normalBy_congr (s : Schema) (h : ∀ x s, x.depth < v.depth → normal x s = normal' x s) :
    normalBy normal v s = normalBy normal' v s := by
  unfold normalBy
  split
  · split
    · exact normalRecord_congr _ h
    · rfl
  · split
    · exact normalTable_congr _ h
    · rfl
  · rfl
  · rfl

theorem normalWithin_eq {m n : Nat} (s : Schema) (hm : v.depth < m) (hn : v.depth < n) :
    normalWithin m v s = normalWithin n v s := by
  induction m generalizing n v s with
  | zero => omega
  | succ m ih =>
    cases n with
    | zero => omega
    | succ n => exact normalBy_congr s fun x t hx => ih t (by omega) (by omega)

end

theorem normal_eq (v : Value) (s : Schema) : v.normal s = normalBy normal v s :=
  normalBy_congr s fun _ t hx => normalWithin_eq t hx (Nat.lt_succ_self _)

theorem normal_of_record {v : Value} {s d target : Schema} (hkind : s.resolve = .ok (.record, target))
    (hd : s.actual .record = .ok d) : v.normal s = normalRecord normal d v := by
  rw [normal_eq, normalBy, hkind]
  simp only [hd]

theorem normal_of_table {v : Value} {s d target : Schema} (hkind : s.resolve = .ok (.table, target))
    (hd : s.actual .table = .ok d) : v.normal s = normalTable normal d v := by
  rw [normal_eq, normalBy, hkind]
  simp only [hd]

theorem normal_of_leaf {v : Value} {s target : Schema} {kind : Kind} (hkind : s.resolve = .ok (kind, target))
    (hleaf : kind.isComposite = false) : v.normal s = normalContent kind v := by
  rw [normal_eq, normalBy, hkind]
  cases kind with
  | record | table => cases hleaf
  | _ => rfl

/-! ## What is saved is what the normal form keeps -/

theorem keptEntries_of_givenEntries {d : Schema} {v : Value} {fields : Fields} {given : List Entry}
    (hv : v.asObject = some fields) (h : Save.givenEntries d fields = .ok given) :
    keptEntries d v = given := by
  rw [keptEntries, hv]
  exact (Save.givenEntries_eq_ok.1 h).2.symm

theorem furtherRows_of_restOf {key : String} {row : Value} {rest : List Value}
    (h : Save.restOf key row = .ok rest) : furtherRows row = rest := by
  unfold furtherRows field
  rcases Save.restOf_eq_ok h with ⟨hnone, rfl⟩ | ⟨array, harray, hitems⟩
  · rw [hnone]
    rfl
  · rw [harray, Option.getD_some, hitems, Option.getD_some]

/-- The rows that a key of a table holds. -/
def keyRows (f : String × Value) : List (UInt32 × Value) :=
  match Save.index? f.1 with
  | some i => (i, f.2) :: (furtherRows f.2).map (i, ·)
  | none => []

theorem tableRows_eq (v : Value) : v.tableRows = (v.asObject.getD []).flatMap keyRows :=
  rfl

theorem fst_of_mem_keyRows {f : String × Value} {r : UInt32 × Value} (h : r ∈ keyRows f) :
    Save.index? f.1 = some r.1 := by
  unfold keyRows at h
  split at h
  · rename_i i hi
    rw [hi]
    rcases List.mem_cons.1 h with rfl | h
    · rfl
    · obtain ⟨x, _, rfl⟩ := List.mem_map.1 h
      rfl
  · cases h

/-- The rows of an object can be given just if every key spells an index and its further rows are an array. -/
theorem givenRows_eq_ok {d : Schema} {fields : Fields} {rows : List (UInt32 × Value)} :
    Save.givenRows d fields = .ok rows ↔
      (∀ f ∈ fields, ∃ i more, Save.index? f.1 = some i ∧ Save.restOf f.1 f.2 = .ok more) ∧
        rows = fields.flatMap keyRows := by
  induction fields generalizing rows with
  | nil => simp [Save.givenRows, eq_comm]
  | cons f fields ih =>
    obtain ⟨key, row⟩ := f
    have hkey : ∀ {i more}, Save.index? key = some i → Save.restOf key row = .ok more →
        keyRows (key, row) = (i, row) :: more.map (i, ·) := by
      intro i more hi hmore
      simp only [keyRows, hi, furtherRows_of_restOf hmore]
    rw [Save.givenRows_cons_eq_ok, List.flatMap_cons]
    constructor
    · rintro ⟨i, more, rest, hi, hmore, hrest, rfl⟩
      obtain ⟨hfields, rfl⟩ := ih.1 hrest
      refine ⟨fun f hf => ?_, by rw [hkey hi hmore]⟩
      rcases List.mem_cons.1 hf with rfl | hf
      · exact ⟨i, more, hi, hmore⟩
      · exact hfields f hf
    · rintro ⟨hfields, rfl⟩
      obtain ⟨i, more, hi, hmore⟩ := hfields (key, row) List.mem_cons_self
      have hrest := ih.2 ⟨fun f hf => hfields f (List.mem_cons_of_mem _ hf), rfl⟩
      exact ⟨i, more, _, hi, hmore, hrest, by rw [hkey hi hmore]⟩

/-- A table is saved with the rows of its keys, sorted. -/
theorem sortBy_tableRows {d : Schema} {v : Value} {rows : List (UInt32 × Value)}
    (h : Save.rowsOf d v = .ok rows) : Save.sortBy Prod.fst v.tableRows = rows := by
  obtain ⟨fields, given, hv, hgiven, rfl⟩ := Save.rowsOf_eq_ok.1 h
  obtain ⟨_, rfl⟩ := givenRows_eq_ok.1 hgiven
  rw [tableRows_eq, hv]
  rfl

theorem normalInt_of_int32 {field : String} {v : Value} {n : Int32} (h : Save.int32 field v = .ok n) :
    normalInt v = .ofInt32 n := by
  obtain ⟨m, hm, hn⟩ := Save.int32_eq_ok.1 h
  rw [normalInt, hm, ofInt32, ← Int64.toInt_inj.1 (hn.trans n.toInt_toInt64.symm)]

theorem normalInt_of_uint32 {field : String} {v : Value} {n : UInt32} (h : Save.uint32 field v = .ok n) :
    normalInt v = .ofUInt32 n := by
  obtain ⟨m, hm, hn⟩ := Save.uint32_eq_ok.1 h
  have := n.toNat_lt
  have heq : m = Int64.ofNat n.toNat :=
    Int64.toInt_inj.1 (hn.trans (Int64.toInt_ofNat_of_lt (by omega)).symm)
  rw [normalInt, hm, ofUInt32, heq]

/-- Items that are each taken to the content of their normal form. -/
theorem normalItems_of_items {α : Type} {field : String} {item : Value → Except Error α} {f : α → Value}
    {normal : Value → Value} (hitem : ∀ v x, item v = .ok x → normal v = f x) {v : Value} {xs : List α}
    (h : Save.items field item v = .ok xs) : normalItems normal v = .array (xs.map f) := by
  obtain ⟨values, hv, hxs⟩ := Save.items_eq_ok.1 h
  have hmap : values.map normal = xs.map f := by
    clear h hv
    induction hxs with
    | nil => rfl
    | cons hx _ ih => rw [List.map_cons, List.map_cons, hitem _ _ hx, ih]
  rw [normalItems, hv]
  exact congrArg array hmap

theorem normalPart_of_partOr {α : Type} {key : String} {take : Value → Except Error α} {f : α → Value}
    {normal : Value → Value} (htake : ∀ v x, take v = .ok x → normal v = f x) {otherwise : α}
    {v : Value} {x : α}
    (h : Save.partOr key take otherwise v = .ok x) : normalPart key normal (f otherwise) v = f x := by
  unfold Save.partOr at h
  unfold normalPart
  cases hpart : v.get? key with
  | some part =>
    simp only [hpart] at h ⊢
    exact htake _ _ h
  | none =>
    simp only [hpart] at h ⊢
    rw [Except.ok.inj h]

theorem field_of_part {field key : String} {v x : Value} (h : Save.part field key v = .ok x) :
    v.field key = x := by
  unfold Save.part at h
  unfold Value.field
  split at h
  · rename_i part hpart
    rw [hpart]
    exact Except.ok.inj h
  · cases h

theorem normalCommand_of_command {field : String} {v : Value} {c : Command}
    (h : Save.command field v = .ok c) :
    normalCommand v = c.toValue := by
  obtain ⟨_, ⟨code, hcode, hn⟩, hnest, htext, hargs⟩ := Save.command_eq_ok.1 h
  have htext' : normalPart "str" id (.string "") v = .string c.text :=
    normalPart_of_partOr (f := .string) (fun x s hs => Save.string_eq_ok.1 hs) htext
  have hnest' : normalPart "nest" normalInt (.int 0) v = .ofUInt32 c.nest :=
    normalPart_of_partOr (fun x n hn => normalInt_of_uint32 hn) hnest
  have hargs' : normalPart "args" (normalItems normalInt) (.array []) v = .array (c.args.map .ofInt32) :=
    normalPart_of_partOr (f := fun ns => .array (ns.map .ofInt32))
      (fun x ns hns => normalItems_of_items (fun y n hn => normalInt_of_int32 hn) hns) hargs
  rw [normalCommand, field_of_part hcode, normalInt_of_uint32 hn, hnest', htext', hargs']
  rfl

theorem normalMapTree_of_mapTree {field : String} {v : Value} {t : MapTree}
    (h : Save.mapTree field v = .ok t) :
    normalMapTree v = t.toValue := by
  obtain ⟨⟨nodes, hnodes, hns⟩, active, hactive, hn⟩ := Save.mapTree_eq_ok.1 h
  rw [normalMapTree, field_of_part hnodes, field_of_part hactive, normalInt_of_uint32 hn,
    normalItems_of_items (fun x n hn => normalInt_of_uint32 hn) hns]
  rfl

theorem normalInt_of_whole {field expected : String} {inRange : Int → Bool} {v : Value} {n : Int}
    (h : Save.whole field expected inRange v = .ok n) : normalInt v = .ofInt n := by
  obtain ⟨m, hm, _, rfl⟩ := Save.whole_eq_ok.1 h
  rw [normalInt, hm, ofInt, Int64.ofInt_toInt]

theorem normalFloat_of_float {field : String} {v : Value} {x : Binary64} (h : Save.float field v = .ok x) :
    normalFloat v = .float x := by
  unfold Save.float at h
  unfold normalFloat
  cases hx : v.asFloat with
  | some y =>
    simp only [hx] at h ⊢
    rw [Except.ok.inj h]
  | none =>
    cases hs : v.asString.bind NonFinite.ofText? with
    | some y =>
      simp only [hx, hs] at h ⊢
      rw [Except.ok.inj h]
    | none => simp [hx, hs] at h

/-- The normal form of a value that is taken as content is the value of that content. -/
theorem normalContent_of_ofValue {kind : Kind} {field : String} {v : Value} {c : Content}
    (h : Content.ofValue kind field v = .ok c) : normalContent kind v = c.toValue := by
  cases kind with
  | record | table => cases h
  | integer =>
    obtain ⟨n, hn, h⟩ := bind_eq_ok.1 h
    rw [← pure_eq_ok.1 h]
    exact normalInt_of_int32 hn
  | bool =>
    obtain ⟨b, hb, h⟩ := bind_eq_ok.1 h
    rw [← pure_eq_ok.1 h]
    exact Save.bool_eq_ok.1 hb
  | string =>
    obtain ⟨t, ht, h⟩ := bind_eq_ok.1 h
    rw [← pure_eq_ok.1 h]
    exact Save.string_eq_ok.1 ht
  | float =>
    obtain ⟨x, hx, h⟩ := bind_eq_ok.1 h
    rw [← pure_eq_ok.1 h]
    exact normalFloat_of_float hx
  | script =>
    obtain ⟨commands, hcommands, h⟩ := bind_eq_ok.1 h
    rw [← pure_eq_ok.1 h]
    exact normalItems_of_items (fun x c hc => normalCommand_of_command hc) hcommands
  | int8s | int16s | int32s =>
    obtain ⟨ns, hns, h⟩ := bind_eq_ok.1 h
    rw [← pure_eq_ok.1 h]
    exact normalItems_of_items (fun x n hn => normalInt_of_whole hn) hns
  | varints =>
    obtain ⟨ns, hns, h⟩ := bind_eq_ok.1 h
    rw [← pure_eq_ok.1 h]
    exact normalItems_of_items (fun x n hn => normalInt_of_int32 hn) hns
  | mapTree =>
    obtain ⟨t, ht, h⟩ := bind_eq_ok.1 h
    rw [← pure_eq_ok.1 h]
    exact normalMapTree_of_mapTree ht

/-- A chunk without a schema is saved from its normal form. -/
theorem normalItems_of_rawBytes {index : UInt32} {v : Value} {bytes : List UInt8}
    (h : Save.rawBytes index v = .ok bytes) : normalItems normalInt v = .ofBytes bytes := by
  refine normalItems_of_items (fun x b hb => ?_) h
  obtain ⟨n, hn, hb⟩ := bind_eq_ok.1 hb
  obtain rfl := pure_eq_ok.1 hb
  obtain ⟨m, hm, hrange, rfl⟩ := Save.whole_eq_ok.1 hn
  simp only [Bool.and_eq_true, decide_eq_true_eq] at hrange
  rw [normalInt, hm, ofNat, UInt8.toNat_ofNat_of_lt' (show _ < 256 by omega)]
  refine congrArg _ (Int64.toInt_inj.1 ?_)
  rw [Int64.toInt_ofNat_of_lt (by omega)]
  omega

end Value

end ChunkTree
