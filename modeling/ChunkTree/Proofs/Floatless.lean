import ChunkTree.Proofs.LoadSave
import ChunkTree.Proofs.TextRead

/-!
# Files without floats

Some kinds of files hold no floats at any depth (`Document.floatless`), which can be checked on their schemas
(`Schema.floatlessWithin`).  The value of such a file is plain and nested only as deep as its schemas are
(`GameFile.plain_of_toValue`).
-/

namespace ChunkTree

open Text (Charset)
open Save (Entry)

/-! ## Schemas -/

/-- Whether a schema leads to no floats, if records are nested less than `bound` deep in it. -/
def Schema.floatlessWithin : (bound : Nat) → Schema → Bool
  | 0, _ => false
  | bound + 1, s =>
    (match s.resolve with
      | .ok (kind, _) => kind != .float
      | .error _ => true) &&
    [Kind.record, .table].all fun kind =>
      match s.actual kind with
      | .ok d => d.fields.all (floatlessWithin bound)
      | .error _ => true

namespace Schema

variable {s d : Schema} {bound : Nat}

theorem kind_ne_float (h : s.floatlessWithin bound) {kind : Kind} {target : Schema}
    (hkind : s.resolve = .ok (kind, target)) : kind ≠ .float := by
  cases bound with
  | zero => cases h
  | succ bound =>
    simp only [floatlessWithin, hkind, Bool.and_eq_true, bne_iff_ne] at h
    exact h.1

/-- The fields of records and tables lead to no floats either. -/
theorem floatlessWithin_fields (h : s.floatlessWithin bound)
    (hd : s.actual .record = .ok d ∨ s.actual .table = .ok d) :
    ∃ b, bound = b + 1 ∧ ∀ f ∈ d.fields, f.floatlessWithin b := by
  cases bound with
  | zero => cases h
  | succ bound =>
    simp only [floatlessWithin, List.all_cons, List.all_nil, Bool.and_true, Bool.and_eq_true] at h
    obtain ⟨_, hrecord, htable⟩ := h
    refine ⟨bound, rfl, ?_⟩
    rcases hd with hd | hd
    · rw [hd] at hrecord
      exact List.all_eq_true.1 hrecord
    · rw [hd] at htable
      exact List.all_eq_true.1 htable

end Schema

/-- The signatures of the files that hold no floats. -/
def Document.floatless : List String :=
  ["LcfDataBase", "LcfMapTree", "LcfMapUnit"]

/-- The roots of these files lead to no floats. -/
theorem Document.check_floatless : floatless.all (fun signature =>
    (ofSignature? signature).all fun document => document.roots.all (Schema.floatlessWithin 6)) = true := by
  decide +kernel

/-! ## Parts of values -/

theorem Kind.plain_of_admitsPlainly {kind : Kind} {v : Value} (h : kind.admitsPlainly v)
    (hkind : kind ≠ .float) (n : Nat) : v.Plain n := by
  cases kind with
  | float => exact absurd rfl hkind
  | integer =>
    cases v with
    | int k => exact .int k
    | _ => cases h
  | bool =>
    cases v with
    | bool b => exact .bool b
    | _ => cases h
  | string =>
    cases v with
    | string s => exact .string s
    | _ => cases h
  | _ => cases v <;> cases h

/-- The defaults of a record that leads to no floats are plain. -/
theorem Schema.Steady.plain_default {s d : Schema} {bound n : Nat} (hs : s.Steady) (hd : s.Reaches d)
    (hfields : ∀ f ∈ d.fields, f.floatlessWithin bound) :
    ∀ f ∈ d.fields, ∀ v, f.default? = some v → v.Plain n := by
  intro f hf v hv
  obtain ⟨kind, target, hkind, hplain⟩ := hs d hd f hf v hv
  exact Kind.plain_of_admitsPlainly hplain (kind_ne_float (hfields f hf) hkind) n

namespace Value

theorem plain_map {α : Type} {f : α → Value} {n : Nat} (hf : ∀ x, (f x).Plain n) (xs : List α) :
    (array (xs.map f)).Plain (n + 1) := by
  refine .array fun v hv => ?_
  obtain ⟨x, _, rfl⟩ := List.mem_map.1 hv
  exact hf x

theorem plain_ofBytes (bytes : List UInt8) : (ofBytes bytes).Plain 1 :=
  plain_map (fun _ => .int _) bytes

end Value

theorem Command.plain_toValue (c : Command) : c.toValue.Plain 2 := by
  have hargs : (Value.array (c.args.map .ofInt32)).Plain 1 := Value.plain_map (fun _ => .int _) c.args
  refine .object (show ["code", "nest", "str", "args"].Nodup by decide) fun f hf => ?_
  simp only [List.mem_cons, List.not_mem_nil, or_false] at hf
  rcases hf with rfl | rfl | rfl | rfl
  · exact .int _
  · exact .int _
  · exact .string _
  · exact hargs

theorem MapTree.plain_toValue (t : MapTree) : t.toValue.Plain 2 := by
  have hnodes : (Value.array (t.nodes.map .ofUInt32)).Plain 1 := Value.plain_map (fun _ => .int _) t.nodes
  refine .object (show ["nodes", "active_node"].Nodup by decide) fun f hf => ?_
  simp only [List.mem_cons, List.not_mem_nil, or_false] at hf
  rcases hf with rfl | rfl
  · exact hnodes
  · exact .int _

theorem Content.plain_toValue {c : Content} (h : c.kind ≠ .float) : c.toValue.Plain 3 := by
  cases c with
  | integer n => exact .int _
  | bool b => exact .bool b
  | float x => exact absurd rfl h
  | string s => exact .string s
  | script commands => exact Value.plain_map Command.plain_toValue commands
  | int8s ns | int16s ns | int32s ns => exact Value.plain_map (fun _ => .int _) ns
  | varints ns => exact Value.plain_map (fun _ => .int _) ns
  | mapTree t => exact t.plain_toValue.mono (by decide)

/-! ## Records and tables -/

/-- The object of a record lists values of chunks and defaults. -/
theorem mem_recordFields {d : Schema} {items : List Entry} {f : String × Value}
    (h : f ∈ recordFields d items) :
    (∃ e ∈ items, e.value = f.2) ∨ ∃ field ∈ d.fields, field.default? = some f.2 := by
  rcases List.mem_append.1 h with h | h
  · obtain ⟨e, he, rfl⟩ := List.mem_map.1 h
    exact .inl ⟨e, he, rfl⟩
  · obtain ⟨field, hfield, _, hdefault, _⟩ := mem_missing h
    exact .inr ⟨field, hfield, hdefault⟩

/-- A row that keeps the further rows of its index is nested two levels deeper than these rows. -/
theorem plain_withRest {first : Value} {rest : List Value} {n : Nat} (hrow : IsRow first)
    (hfirst : first.Plain (n + 1)) (hrest : ∀ row ∈ rest, row.Plain (n + 1)) :
    (withRest first rest).Plain (n + 3) := by
  obtain ⟨fields, rfl, hnew⟩ := hrow
  by_cases hne : rest = []
  · rw [hne, withRest_nil]
    exact hfirst.mono (by omega)
  · rw [withRest_object fields hne]
    cases hfirst with
    | object hkeys h =>
      refine .object ?_ fun f hf => ?_
      · rw [List.map_append, List.nodup_append]
        refine ⟨hkeys, List.nodup_singleton _, ?_⟩
        rintro k hk l hl rfl
        obtain rfl : k = restKey := List.mem_singleton.1 hl
        exact hnew hk
      · rcases List.mem_append.1 hf with hf | hf
        · exact (h f hf).mono (by omega)
        · rw [List.mem_singleton.1 hf]
          exact .array hrest

/-- The entries of a table are rows with the further rows of their index. -/
theorem forall_mem_collectRows {P Q : Value → Prop}
    (h : ∀ first rest, Q first → (∀ row ∈ rest, Q row) → P (withRest first rest)) {i : UInt32} {first : Value}
    {rest : List Value} {rows : List (UInt32 × Value)} (hfirst : Q first) (hrest : ∀ row ∈ rest, Q row)
    (hrows : ∀ r ∈ rows, Q r.2) : ∀ f ∈ collectRows i first rest rows, P f.2 := by
  induction rows generalizing i first rest with
  | nil => exact List.forall_mem_singleton.2 (h first rest hfirst hrest)
  | cons r rows ih =>
    obtain ⟨j, row⟩ := r
    obtain ⟨hrow, hrows⟩ := List.forall_mem_cons.1 hrows
    rw [collectRows]
    split
    · exact ih hfirst (List.forall_mem_append.2 ⟨hrest, List.forall_mem_singleton.2 hrow⟩) hrows
    · exact List.forall_mem_cons.2 ⟨h first rest hfirst hrest, ih hrow (List.forall_mem_nil Q) hrows⟩

theorem forall_mem_tableFields {P Q : Value → Prop}
    (h : ∀ first rest, Q first → (∀ row ∈ rest, Q row) → P (withRest first rest))
    {rows : List (UInt32 × Value)} (hrows : ∀ r ∈ rows, Q r.2) : ∀ f ∈ tableFields rows, P f.2 := by
  cases rows with
  | nil => exact List.forall_mem_nil _
  | cons r rows =>
    obtain ⟨hrow, hrows⟩ := List.forall_mem_cons.1 hrows
    exact forall_mem_collectRows h hrow (List.forall_mem_nil Q) hrows

/-! ## Values of files -/

/-- The object of a record is plain if the values of its chunks are. -/
theorem DecodedItems.plain {d : Schema} {items : List Entry} (h : DecodedItems d items)
    (hd : d.ConsistentRecord) {n : Nat} (hn : 1 ≤ n)
    (hdefaults : ∀ f ∈ d.fields, ∀ v, f.default? = some v → v.Plain n)
    (hvalues : ∀ e ∈ items, ∀ u, e.schema = some u → e.value.Plain n) :
    (Value.object (recordFields d items)).Plain (n + 1) := by
  refine .object (keys_recordFields_nodup h.toShown hd) fun f hf => ?_
  rcases mem_recordFields hf with ⟨e, he, hvalue⟩ | ⟨field, hfield, hdefault⟩
  · rw [← hvalue]
    cases hschema : e.schema with
    | none =>
      obtain ⟨bytes, hbytes⟩ := h.opaque_bytes e he hschema
      rw [hbytes]
      exact (Value.plain_ofBytes bytes).mono hn
    | some u => exact hvalues e he u hschema
  · exact hdefaults field hfield f.2 hdefault

/-- A canonical value under a schema that leads to no floats is plain. -/
theorem Canonical.plain {T : String → Prop} {s : Schema} {w : Value} {bound : Nat} (h : Canonical T s w)
    (hs : s.Consistent) (hsteady : s.Steady) (hfloat : s.floatlessWithin bound) : w.Plain (5 * bound) := by
  -- a level of the schema adds at most five: the bytes of a chunk, the object of a row, two levels for the
  -- further rows of its index, and the object of the table
  induction h generalizing bound with
  | content hkind hfits hcount htexts =>
    cases bound with
    | zero => cases hfloat
    | succ bound =>
      exact (Content.plain_toValue (Schema.kind_ne_float hfloat hkind)).mono (by omega)
  | @record s d target items hkind hd hitems _ ih =>
    obtain ⟨b, rfl, hfields⟩ := Schema.floatlessWithin_fields hfloat (.inl hd)
    have hvalues : ∀ e ∈ items, ∀ u, e.schema = some u → e.value.Plain (5 * b + 1) := by
      intro e he u hu
      have hu' := hitems.mem_fields he hu
      exact (ih e he u hu (hs.field (.record hd) hu') (hsteady.field (.record hd) hu')
        (hfields u hu')).mono (by omega)
    exact (hitems.plain (hs.record hd) (by omega) (hsteady.plain_default (.record hd) hfields)
      hvalues).mono (by omega)
  | @table s d target rows hkind hd hcount hascending hitems _ ih =>
    obtain ⟨b, rfl, hfields⟩ := Schema.floatlessWithin_fields hfloat (.inr hd)
    have hvalues : ∀ r ∈ rows, ∀ e ∈ r.2, ∀ u, e.schema = some u → e.value.Plain (5 * b + 1) := by
      intro r hr e he u hu
      have hu' := (hitems r hr).mem_fields he hu
      exact (ih r hr e he u hu (hs.field (.table hd) hu') (hsteady.field (.table hd) hu')
        (hfields u hu')).mono (by omega)
    have hrows : ∀ r ∈ rowObjects d rows, IsRow r.2 ∧ r.2.Plain (5 * b + 1 + 1) := by
      intro r hr
      obtain ⟨row, hrow, rfl⟩ := List.mem_map.1 hr
      exact ⟨isRow_recordFields (hitems row hrow).toShown (hs.table hd),
        (hitems row hrow).plain (hs.table hd) (by omega) (hsteady.plain_default (.table hd) hfields)
          (hvalues row hrow)⟩
    have hkeys : ((tableFields (rowObjects d rows)).map Prod.fst).Nodup :=
      tableFields_nodup (List.pairwise_map.2 hascending)
    refine .object hkeys (forall_mem_tableFields (Q := fun row => IsRow row ∧ row.Plain (5 * b + 1 + 1))
      (fun first rest hfirst hrest => ?_) hrows)
    exact plain_withRest hfirst.1 hfirst.2 fun row hrow => (hrest row hrow).2

/-- The value of a valid file of a kind without floats is plain and nested within the bound for texts. -/
theorem GameFile.plain_of_toValue {charset : Charset} {bytes : List UInt8} {f : GameFile} {v : Value}
    (hopen : open? charset bytes = .ok f) (hvalid : f.isValid) (hkind : f.signature ∈ Document.floatless)
    (hv : f.toValue charset = .ok v) : v.Plain Value.maxNesting := by
  obtain ⟨document, roots, hdocument, rfl, _, hroots⟩ := roots_of_toValue hopen hvalid hv
  have hfloat : ∀ slot ∈ document.roots, slot.floatlessWithin 6 := by
    have h := List.all_eq_true.1 Document.check_floatless _ hkind
    rw [hdocument] at h
    exact List.all_eq_true.1 h
  have hplain : ∀ root ∈ roots, root.Plain 30 := by
    intro root hroot
    obtain ⟨slot, hslot, p, _, hvalue⟩ := exists_left_of_forall₂ hroots hroot
    have hslotRoot := Document.isRoot hdocument hslot
    exact (Canonical.of_toValue hslotRoot.consistent hvalue).plain hslotRoot.consistent hslotRoot.steady
      (hfloat slot hslot)
  have hkeys : ["signature", "root"].Nodup := by decide
  have harray : (Value.array roots).Plain 31 := .array hplain
  have hobject : (Value.object [("signature", .string f.signature), ("root", .array roots)]).Plain 32 := by
    refine .object hkeys fun field hfield => ?_
    simp only [List.mem_cons, List.not_mem_nil, or_false] at hfield
    rcases hfield with rfl | rfl
    · exact .string _
    · exact harray
  exact hobject.mono (by decide)

end ChunkTree
