import ChunkTree.Proofs.ContentSize
import ChunkTree.Proofs.Same
import ChunkTree.View.Tree

/-!
# Values as content

`Content` is what a chunk without chunks of its own holds, whatever it is spelled like as a value.  A value
is first taken as content (`Content.ofValue`), which is then written (`Save.contentBytes_eq_ok`); the value
of content is taken as that content again (`Content.ofValue_toValue`).
-/

namespace ChunkTree

open Text (Charset)

/-- Content of a chunk without chunks of its own. -/
inductive Content where
  | integer (n : Int32)
  | bool (b : Bool)
  | float (x : Binary64)
  | string (s : String)
  | script (commands : List Command)
  | int8s (ns : List Int)
  | int16s (ns : List Int)
  | int32s (ns : List Int)
  | varints (ns : List Int32)
  | mapTree (t : MapTree)

namespace Content

def kind : Content → Kind
  | integer _ => .integer
  | bool _ => .bool
  | float _ => .float
  | string _ => .string
  | script _ => .script
  | int8s _ => .int8s
  | int16s _ => .int16s
  | int32s _ => .int32s
  | varints _ => .varints
  | mapTree _ => .mapTree

/-- The value that content is shown as. -/
def toValue : Content → Value
  | integer n => .ofInt32 n
  | bool b => .bool b
  | float x => .float x
  | string s => .string s
  | script commands => .array (commands.map Command.toValue)
  | int8s ns | int16s ns | int32s ns => .array (ns.map .ofInt)
  | varints ns => .array (ns.map .ofInt32)
  | mapTree t => t.toValue

/-- The bytes that content is stored as. -/
def bytes (charset : Charset) : Content → Except Error (List UInt8)
  | integer n => .ok (Varint.encodeSigned n)
  | bool b => .ok (Varint.encode (if b then 1 else 0))
  | float x => .ok (LittleEndian.digits 8 x.bits.toNat)
  | string s => StoredText.encode charset s
  | script commands => Script.encode charset commands
  | int8s ns => .ok (IntArray.encode 1 ns)
  | int16s ns => .ok (IntArray.encode 2 ns)
  | int32s ns => .ok (IntArray.encode 4 ns)
  | varints ns => .ok (ns.flatMap Varint.encodeSigned)
  | mapTree t => .ok t.encode

/-- The texts in content. -/
def texts : Content → List String
  | string s => [s]
  | script commands => commands.map Command.text
  | _ => []

/-- Whether the numbers in content fit their width. -/
def Fits : Content → Prop
  | int8s ns => ∀ n ∈ ns, LittleEndian.fits 1 n
  | int16s ns => ∀ n ∈ ns, LittleEndian.fits 2 n
  | int32s ns => ∀ n ∈ ns, LittleEndian.fits 4 n
  | _ => True

/-- The content of a kind that a value is taken as. -/
def ofValue (kind : Kind) (field : String) (v : Value) : Except Error Content :=
  match kind with
  | .integer => return .integer (← Save.int32 field v)
  | .bool => return .bool (← Save.bool field v)
  | .float => return .float (← Save.float field v)
  | .string => return .string (← Save.string field v)
  | .script => return .script (← Save.script field v)
  | .int8s => return .int8s (← Save.ints 1 field v)
  | .int16s => return .int16s (← Save.ints 2 field v)
  | .int32s => return .int32s (← Save.ints 4 field v)
  | .varints => return .varints (← Save.int32s field v)
  | .mapTree => return .mapTree (← Save.mapTree field v)
  | .record | .table => .error (.typeMismatch field kind.name)

/-- Content can be written just if its texts can be encoded. -/
theorem exists_bytes_iff {charset : Charset} {c : Content} :
    (∃ bytes, c.bytes charset = .ok bytes) ↔ ∀ t ∈ c.texts, ∃ b, StoredText.encode charset t = .ok b := by
  cases c with
  | string s => simp [bytes, texts]
  | script commands =>
    rw [texts, List.forall_mem_map]
    constructor
    · rintro ⟨_, h⟩ c hc
      obtain ⟨parts, hparts, _⟩ := Script.encode_eq_ok.1 h
      obtain ⟨part, _, hpart⟩ := exists_right_of_forall₂ hparts hc
      obtain ⟨b, hb, _⟩ := Command.encode_eq_ok.1 hpart
      exact ⟨b, hb⟩
    · intro h
      have hparts : ∀ c ∈ commands, ∃ part, c.encode charset = .ok part := by
        intro c hc
        obtain ⟨b, hb⟩ := h c hc
        exact ⟨_, Command.encode_eq_ok.2 ⟨b, hb, rfl⟩⟩
      obtain ⟨parts, hparts⟩ := exists_forall₂ hparts
      exact ⟨_, Script.encode_eq_ok.2 ⟨parts, hparts, rfl⟩⟩
  | _ => simp [bytes, texts]

end Content

namespace Save

theorem contentBytes_eq {charset : Charset} {kind : Kind} {field : String} {v : Value}
    (hleaf : kind.isComposite = false) :
    contentBytes charset kind field v = Content.ofValue kind field v >>= Content.bytes charset := by
  cases kind with
  | record | table => cases hleaf
  | string | script => simp only [contentBytes, Content.ofValue, bind_assoc, pure_bind, Content.bytes]
  | _ =>
    simp only [contentBytes, Content.ofValue, bind_assoc, pure_bind, Content.bytes]
    rfl

/-- A value is written as the content that it is taken as. -/
theorem contentBytes_eq_ok {charset : Charset} {kind : Kind} {field : String} {v : Value} {bytes : List UInt8}
    (hleaf : kind.isComposite = false) :
    contentBytes charset kind field v = .ok bytes ↔
      ∃ c, Content.ofValue kind field v = .ok c ∧ c.bytes charset = .ok bytes := by
  rw [contentBytes_eq hleaf, bind_eq_ok]

/-! ## Taking values -/

theorem whole_eq_ok {field expected : String} {inRange : Int → Bool} {v : Value} {n : Int} :
    whole field expected inRange v = .ok n ↔ ∃ m, v.asInt = some m ∧ inRange m.toInt = true ∧
      m.toInt = n := by
  unfold whole
  split
  · simp [*]
  · rename_i m hm
    rw [hm]
    by_cases hr : inRange m.toInt <;> simp [hr]

theorem items_eq_ok {α : Type} {field : String} {item : Value → Except Error α} {v : Value} {xs : List α} :
    items field item v = .ok xs ↔
      ∃ values, v.asArray = some values ∧ List.Forall₂ (fun x y => item x = .ok y) values xs := by
  unfold items array
  rw [bind_eq_ok]
  constructor
  · rintro ⟨values, hvalues, h⟩
    split at hvalues
    · rename_i values' hv
      obtain rfl := Except.ok.inj hvalues
      exact ⟨_, hv, mapM_eq_ok.1 h⟩
    · cases hvalues
  · rintro ⟨values, hv, h⟩
    exact ⟨values, by rw [hv], mapM_eq_ok.2 h⟩

/-- Items that are each taken back are taken back as an array. -/
theorem items_map {α : Type} {field : String} {item : Value → Except Error α} {f : α → Value} {xs : List α}
    (h : ∀ x ∈ xs, item (f x) = .ok x) : items field item (.array (xs.map f)) = .ok xs :=
  items_eq_ok.2 ⟨_, rfl, by rw [List.forall₂_map_left_iff, List.forall₂_same]; exact h⟩

theorem fits_four {n : Int} : LittleEndian.fits 4 n ↔ -2 ^ 31 ≤ n ∧ n < 2 ^ 31 := by
  rw [LittleEndian.fits_iff]
  omega

theorem int32_eq_ok {field : String} {v : Value} {n : Int32} :
    int32 field v = .ok n ↔ ∃ m, v.asInt = some m ∧ m.toInt = n.toInt := by
  simp only [int32, bind_eq_ok, whole_eq_ok, pure_eq_ok]
  constructor
  · rintro ⟨_, ⟨m, hm, hfits, rfl⟩, rfl⟩
    obtain ⟨hlow, hhigh⟩ := fits_four.1 hfits
    exact ⟨m, hm, (Int32.toInt_ofInt_of_le hlow hhigh).symm⟩
  · rintro ⟨m, hm, h⟩
    refine ⟨m.toInt, ⟨m, hm, ?_, rfl⟩, by rw [h, Int32.ofInt_toInt]⟩
    rw [h]
    exact fits_four.2 ⟨n.le_toInt, n.toInt_lt⟩

theorem uint32_eq_ok {field : String} {v : Value} {n : UInt32} :
    uint32 field v = .ok n ↔ ∃ m, v.asInt = some m ∧ m.toInt = n.toNat := by
  simp only [uint32, bind_eq_ok, whole_eq_ok, pure_eq_ok]
  constructor
  · rintro ⟨_, ⟨m, hm, hrange, rfl⟩, rfl⟩
    simp only [Bool.and_eq_true, decide_eq_true_eq] at hrange
    refine ⟨m, hm, ?_⟩
    rw [UInt32.toNat_ofNat_of_lt' (show _ < 0x100000000 by omega)]
    omega
  · rintro ⟨m, hm, h⟩
    have := n.toNat_lt
    refine ⟨m.toInt, ⟨m, hm, ?_, rfl⟩, by rw [h, Int.toNat_natCast, UInt32.ofNat_toNat]⟩
    rw [h]
    simp only [Bool.and_eq_true, decide_eq_true_eq]
    omega

theorem bool_eq_ok {field : String} {v : Value} {b : Bool} : bool field v = .ok b ↔ v = .bool b := by
  cases v <;> simp [bool, Value.asBool]

theorem string_eq_ok {field : String} {v : Value} {s : String} : string field v = .ok s ↔ v = .string s := by
  cases v <;> simp [string, Value.asString]

theorem array_eq_ok {field : String} {v : Value} {items : List Value} :
    array field v = .ok items ↔ v = .array items := by
  cases v <;> simp [array, Value.asArray]

theorem int32_ofInt32 (field : String) (n : Int32) : int32 field (.ofInt32 n) = .ok n :=
  int32_eq_ok.2 ⟨n.toInt64, rfl, n.toInt_toInt64⟩

theorem uint32_ofUInt32 (field : String) (n : UInt32) : uint32 field (.ofUInt32 n) = .ok n := by
  have := n.toNat_lt
  exact uint32_eq_ok.2 ⟨Int64.ofNat n.toNat, rfl, Int64.toInt_ofNat_of_lt (by omega)⟩

theorem toInt_ofInt_of_fits {width : Nat} (hw : width ≤ 4) {n : Int} (h : LittleEndian.fits width n) :
    (Int64.ofInt n).toInt = n := by
  obtain ⟨hlow, hhigh⟩ := LittleEndian.fits_iff.1 h
  have hpow : (256 : Int) ^ width ≤ 256 ^ 4 := by
    have := Int.ofNat_le.2 (Nat.pow_le_pow_right (show 0 < 256 by decide) hw)
    simpa using this
  exact Int64.toInt_ofInt_of_le (by omega) (by omega)

theorem whole_ofInt {field expected : String} {width : Nat} (hw : width ≤ 4) {n : Int}
    (h : LittleEndian.fits width n) :
    whole field expected (LittleEndian.fits width) (.ofInt n) = .ok n :=
  whole_eq_ok.2 ⟨Int64.ofInt n, rfl, by rwa [toInt_ofInt_of_fits hw h], toInt_ofInt_of_fits hw h⟩

theorem ints_ofInt {field : String} {width : Nat} (hw : width ≤ 4) {ns : List Int}
    (h : ∀ n ∈ ns, LittleEndian.fits width n) : ints width field (.array (ns.map .ofInt)) = .ok ns :=
  items_map fun n hn => whole_ofInt hw (h n hn)

theorem fits_of_ints {field : String} {width : Nat} {v : Value} {ns : List Int}
    (h : ints width field v = .ok ns) :
    ∀ n ∈ ns, LittleEndian.fits width n := by
  obtain ⟨values, hvalues, hns⟩ := items_eq_ok.1 h
  clear h hvalues
  induction hns with
  | nil => simp
  | cons hn _ ih =>
    obtain ⟨m, _, hfits, rfl⟩ := whole_eq_ok.1 hn
    intro k hk
    rcases List.mem_cons.1 hk with rfl | hk
    · exact hfits
    · exact ih k hk

theorem command_eq_ok {field : String} {v : Value} {c : Command} :
    command field v = .ok c ↔ (∃ fields, v.asObject = some fields) ∧
      (∃ code, part field "code" v = .ok code ∧ uint32 field code = .ok c.code) ∧
        partOr "nest" (uint32 field) 0 v = .ok c.nest ∧ partOr "str" (string field) "" v = .ok c.text ∧
          partOr "args" (int32s field) [] v = .ok c.args := by
  unfold command
  cases v.asObject with
  | none =>
    constructor
    · intro h
      obtain ⟨_, h, _⟩ := bind_eq_ok.1 h
      exact absurd h throw_ne_ok
    · rintro ⟨⟨_, ⟨⟩⟩, _⟩
  | some fields =>
    simp only [Option.isNone_some, Bool.false_eq_true, if_false, bind_eq_ok, pure_eq_ok]
    constructor
    · rintro ⟨code, hcode, n, hn, nest, hnest, text, htext, args, hargs, rfl⟩
      exact ⟨⟨fields, rfl⟩, ⟨code, hcode, hn⟩, hnest, htext, hargs⟩
    · rintro ⟨_, ⟨code, hcode, hn⟩, hnest, htext, hargs⟩
      exact ⟨code, hcode, _, hn, _, hnest, _, htext, _, hargs, rfl⟩

theorem mapTree_eq_ok {field : String} {v : Value} {t : MapTree} :
    mapTree field v = .ok t ↔ (∃ nodes, part field "nodes" v = .ok nodes ∧
      items field (uint32 field) nodes = .ok t.nodes) ∧
      ∃ active, part field "active_node" v = .ok active ∧ uint32 field active = .ok t.active := by
  simp only [mapTree, bind_eq_ok, pure_eq_ok]
  constructor
  · rintro ⟨nodes, hnodes, ns, hns, active, hactive, n, hn, rfl⟩
    exact ⟨⟨nodes, hnodes, hns⟩, active, hactive, hn⟩
  · rintro ⟨⟨nodes, hnodes, hns⟩, active, hactive, hn⟩
    exact ⟨nodes, hnodes, _, hns, active, hactive, _, hn, rfl⟩

theorem command_toValue (field : String) (c : Command) : command field c.toValue = .ok c := by
  refine command_eq_ok.2 ⟨⟨_, rfl⟩, ⟨.ofUInt32 c.code, rfl, uint32_ofUInt32 field c.code⟩, ?_, rfl, ?_⟩
  · exact uint32_ofUInt32 field c.nest
  · exact items_map fun n _ => int32_ofInt32 field n

theorem mapTree_toValue (field : String) (t : MapTree) : mapTree field t.toValue = .ok t :=
  mapTree_eq_ok.2 ⟨⟨_, rfl, items_map fun n _ => uint32_ofUInt32 field n⟩, _, rfl,
    uint32_ofUInt32 field t.active⟩

end Save

namespace Content

theorem kind_of_ofValue {kind : Kind} {field : String} {v : Value} {c : Content}
    (h : ofValue kind field v = .ok c) :
    c.kind = kind := by
  cases kind with
  | record | table => cases h
  | _ =>
    obtain ⟨x, _, hx⟩ := bind_eq_ok.1 h
    rw [← pure_eq_ok.1 hx]
    rfl

theorem fits_of_ofValue {kind : Kind} {field : String} {v : Value} {c : Content}
    (h : ofValue kind field v = .ok c) :
    c.Fits := by
  cases kind with
  | record | table => cases h
  | int8s | int16s | int32s =>
    obtain ⟨ns, hns, h⟩ := bind_eq_ok.1 h
    rw [← pure_eq_ok.1 h]
    exact Save.fits_of_ints hns
  | _ =>
    obtain ⟨x, _, hx⟩ := bind_eq_ok.1 h
    rw [← pure_eq_ok.1 hx]
    trivial

/-- The value of content is taken as that content. -/
theorem ofValue_toValue {c : Content} (h : c.Fits) (field : String) :
    ofValue c.kind field c.toValue = .ok c := by
  cases c with
  | integer n => exact bind_eq_ok.2 ⟨n, Save.int32_ofInt32 field n, rfl⟩
  | bool b => rfl
  | float x => rfl
  | string s => rfl
  | script commands => exact bind_eq_ok.2 ⟨commands, Save.items_map fun c _ =>
    Save.command_toValue field c, rfl⟩
  | int8s ns | int16s ns | int32s ns => exact bind_eq_ok.2 ⟨ns, Save.ints_ofInt (by decide) h, rfl⟩
  | varints ns => exact bind_eq_ok.2 ⟨ns, Save.items_map fun n _ => Save.int32_ofInt32 field n, rfl⟩
  | mapTree t => exact bind_eq_ok.2 ⟨t, Save.mapTree_toValue field t, rfl⟩

theorem isComposite_kind (c : Content) : c.kind.isComposite = false := by
  cases c <;> rfl

private theorem same_array_map {α : Type} {f : α → Value} (hf : ∀ x, (f x).same (f x)) (xs : List α) :
    (Value.array (xs.map f)).same (.array (xs.map f)) := by
  refine Value.same_array_self fun v hv => ?_
  obtain ⟨x, _, rfl⟩ := List.mem_map.1 hv
  exact hf x

/-- The value of content is the same as itself. -/
theorem same_toValue (c : Content) : c.toValue.same c.toValue := by
  have hint : ∀ n : Int64, (Value.int n).same (.int n) := fun n => beq_self_eq_true n
  have hstring : ∀ s : String, (Value.string s).same (.string s) := fun s => beq_self_eq_true s
  cases c with
  | integer n => exact hint _
  | bool b => exact beq_self_eq_true b
  | float x => exact Value.sameFloat_self x
  | string s => exact hstring s
  | script commands =>
    refine same_array_map (fun c => ?_) commands
    have hkeys : ["code", "nest", "str", "args"].Nodup := by decide
    refine Value.same_object_self hkeys fun f hf => ?_
    simp only [List.mem_cons, List.not_mem_nil, or_false] at hf
    rcases hf with rfl | rfl | rfl | rfl
    · exact hint _
    · exact hint _
    · exact hstring _
    · exact same_array_map (fun n => hint _) c.args
  | int8s ns | int16s ns | int32s ns => exact same_array_map (fun n => hint _) ns
  | varints ns => exact same_array_map (fun n => hint _) ns
  | mapTree t =>
    have hkeys : ["nodes", "active_node"].Nodup := by decide
    refine Value.same_object_self hkeys fun f hf => ?_
    simp only [List.mem_cons, List.not_mem_nil, or_false] at hf
    rcases hf with rfl | rfl
    · exact same_array_map (fun n => hint _) t.nodes
    · exact hint _

end Content

end ChunkTree
