import Mathlib.Data.List.Nodup
import ChunkTree.Proofs.ObjectKeys

/-!
# Consistent schemas

In a legible record every field has an index and a name of its own, so a field is found by either of them
(`LegibleRecord.find_index`, `LegibleRecord.find_name`) and no name is taken for an index, and the defaults can
be read as what their fields hold.  In a consistent record the size fields are internal besides.  A schema is
legible or consistent if every record that it leads to is.
-/

namespace ChunkTree

/-- Items that all have keys of their own are told apart by these, also where some have none. -/
theorem nodup_filterMap {α β : Type} {key : α → Option β} {xs : List α} (h : (xs.map key).Nodup) :
    (xs.filterMap key).Nodup := by
  have hmap : xs.filterMap key = (xs.map key).filterMap id := by
    rw [List.filterMap_map]
    rfl
  rw [hmap]
  exact h.filterMap fun _ _ _ h h' => (Option.mem_def.1 h).trans (Option.mem_def.1 h').symm

/-- Where no key occurs twice, items with one key are the same item. -/
theorem eq_of_nodup_filterMap {α β : Type} {key : α → Option β} {xs : List α} (h : (xs.filterMap key).Nodup)
    {x y : α} (hx : x ∈ xs) (hy : y ∈ xs) {k : β} (hxk : key x = some k) (hyk : key y = some k) : x = y := by
  induction xs with
  | nil => cases hx
  | cons z xs ih =>
    have hrest : (xs.filterMap key).Nodup := h.sublist ((List.sublist_cons_self z xs).filterMap key)
    -- if one of them is the first, its key does not occur again
    have hfirst : ∀ x' ∈ xs, key z = some k → key x' ≠ some k := by
      intro x' hx' hz hxk'
      rw [List.filterMap_cons, hz] at h
      exact (List.nodup_cons.1 h).1 (List.mem_filterMap.2 ⟨x', hx', hxk'⟩)
    rcases List.mem_cons.1 hx with rfl | hx'
    · rcases List.mem_cons.1 hy with rfl | hy'
      · rfl
      · exact absurd hyk (hfirst y hy' hxk)
    · rcases List.mem_cons.1 hy with rfl | hy'
      · exact absurd hxk (hfirst x hx' hyk)
      · exact ih hrest hx' hy'

/-- Whether a value can be the default of a field of a kind. -/
def Kind.admits : Kind → Value → Bool
  | integer, v => (Chunk.int32? v).isSome
  | bool, .bool _ => true
  | float, .float _ => true
  | string, .string _ => true
  | _, _ => false

/-- Whether a value is read as the default of a field of a kind. -/
def Kind.fits : Kind → Value → Bool
  | integer, v => (Chunk.int32? v).isSome
  | bool, v => v.asBool.isSome
  | float, v => v.asFloat.isSome
  | string, v => v.asString.isSome
  | _, _ => false

theorem Kind.fits_of_admits {kind : Kind} {v : Value} (h : kind.admits v) : kind.fits v := by
  cases kind <;> cases v <;> simp_all [admits, fits, Value.asBool, Value.asFloat, Value.asString]

namespace Schema

/-- The records that a schema leads to: those it lists the fields of, and those that its fields lead to. -/
inductive Reaches : Schema → Schema → Prop where
  | record {s d : Schema} (h : s.actual .record = .ok d) : Reaches s d
  | table {s d : Schema} (h : s.actual .table = .ok d) : Reaches s d
  | field {s d field d' : Schema} (h : Reaches s d) (hfield : field ∈ d.fields)
      (h' : Reaches field d') : Reaches s d'

/-- A record whose fields can be told apart by index and by name, as far as they have them. -/
structure Apart (d : Schema) : Prop where
  index_ne_zero : ∀ f ∈ d.fields, f.index? ≠ some 0
  indices_nodup : (d.fields.filterMap index?).Nodup
  names_nodup : (d.fields.filterMap name?).Nodup

/-- A record whose fields can be told apart by index and by name, and whose defaults can be read. -/
structure LegibleRecord (d : Schema) : Prop where
  index : ∀ f ∈ d.fields, ∃ i, f.index? = some i ∧ i ≠ 0
  name : ∀ f ∈ d.fields, ∃ n, f.name? = some n ∧ ∀ i, n ≠ indexText i
  indices_nodup : (d.fields.map index?).Nodup
  names_nodup : (d.fields.map name?).Nodup
  default_fits : ∀ f ∈ d.fields, ∀ v, f.default? = some v → ∃ kind target,
    f.resolve = .ok (kind, target) ∧ kind.fits v

/-- A legible record whose size fields are numbers. -/
structure SizableRecord (d : Schema) : Prop extends LegibleRecord d where
  size_field : ∀ f ∈ d.fields, f.sizeOf?.isSome → ∃ target, f.resolve = .ok (.integer, target)

/-- A record whose fields can be told apart by index and by name, whose defaults fit and whose size fields are
internal numbers. -/
structure ConsistentRecord (d : Schema) : Prop where
  index : ∀ f ∈ d.fields, ∃ i, f.index? = some i ∧ i ≠ 0
  name : ∀ f ∈ d.fields, ∃ n, f.name? = some n ∧ Save.index? n = none
  indices_nodup : (d.fields.map index?).Nodup
  names_nodup : (d.fields.map name?).Nodup
  resolves : ∀ f ∈ d.fields, ∃ kind target, f.resolve = .ok (kind, target)
  default_fits : ∀ f ∈ d.fields, ∀ v, f.default? = some v → ∃ kind target,
    f.resolve = .ok (kind, target) ∧ kind.admits v
  size_field : ∀ f ∈ d.fields, f.sizeOf?.isSome → ∃ target n, f.resolve = .ok (.integer, target) ∧
    f.name? = some n ∧ isInternal n

/-- Every record that a schema leads to is legible. -/
def Legible (s : Schema) : Prop :=
  ∀ d, s.Reaches d → d.LegibleRecord

/-- Every record that a schema leads to is legible and has numbers as its size fields. -/
def Sizable (s : Schema) : Prop :=
  ∀ d, s.Reaches d → d.SizableRecord

/-- Every record that a schema leads to is consistent. -/
def Consistent (s : Schema) : Prop :=
  ∀ d, s.Reaches d → d.ConsistentRecord

variable {s d f : Schema}

theorem ConsistentRecord.legible (hd : d.ConsistentRecord) : d.LegibleRecord where
  index := hd.index
  name f hf := by
    obtain ⟨n, hn, hindex⟩ := hd.name f hf
    refine ⟨n, hn, ?_⟩
    rintro i rfl
    rw [Save.index?_indexText] at hindex
    cases hindex
  indices_nodup := hd.indices_nodup
  names_nodup := hd.names_nodup
  default_fits f hf v hv := by
    obtain ⟨kind, target, hkind, hadmits⟩ := hd.default_fits f hf v hv
    exact ⟨kind, target, hkind, Kind.fits_of_admits hadmits⟩

theorem ConsistentRecord.sizable (hd : d.ConsistentRecord) : d.SizableRecord where
  toLegibleRecord := hd.legible
  size_field f hf ht := by
    obtain ⟨target, _, hkind, _⟩ := hd.size_field f hf ht
    exact ⟨target, hkind⟩

theorem Consistent.sizable (hs : s.Consistent) : s.Sizable :=
  fun d hd => (hs d hd).sizable

theorem Sizable.legible (hs : s.Sizable) : s.Legible :=
  fun d hd => (hs d hd).toLegibleRecord

theorem Sizable.record (hs : s.Sizable) (h : s.actual .record = .ok d) : d.SizableRecord :=
  hs d (.record h)

theorem Sizable.table (hs : s.Sizable) (h : s.actual .table = .ok d) : d.SizableRecord :=
  hs d (.table h)

/-- The fields of a record that a sizable schema leads to are sizable. -/
theorem Sizable.field (hs : s.Sizable) (hd : s.Reaches d) (hf : f ∈ d.fields) : f.Sizable :=
  fun d' h => hs d' (.field hd hf h)

theorem Consistent.legible (hs : s.Consistent) : s.Legible :=
  fun d hd => (hs d hd).legible

instance : Coe d.ConsistentRecord d.LegibleRecord :=
  ⟨ConsistentRecord.legible⟩

instance : Coe d.ConsistentRecord d.SizableRecord :=
  ⟨ConsistentRecord.sizable⟩

instance : Coe s.Consistent s.Legible :=
  ⟨Consistent.legible⟩

theorem Legible.record (hs : s.Legible) (h : s.actual .record = .ok d) : d.LegibleRecord :=
  hs d (.record h)

theorem Legible.table (hs : s.Legible) (h : s.actual .table = .ok d) : d.LegibleRecord :=
  hs d (.table h)

/-- The fields of a record that a legible schema leads to are legible. -/
theorem Legible.field (hs : s.Legible) (hd : s.Reaches d) (hf : f ∈ d.fields) : f.Legible :=
  fun d' h => hs d' (.field hd hf h)

theorem Consistent.record (hs : s.Consistent) (h : s.actual .record = .ok d) : d.ConsistentRecord :=
  hs d (.record h)

theorem Consistent.table (hs : s.Consistent) (h : s.actual .table = .ok d) : d.ConsistentRecord :=
  hs d (.table h)

/-- The fields of a record that a consistent schema leads to are consistent. -/
theorem Consistent.field (hs : s.Consistent) (hd : s.Reaches d) (hf : f ∈ d.fields) : f.Consistent :=
  fun d' h => hs d' (.field hd hf h)

/-- Only a schema of a kind lists the fields of that kind. -/
theorem resolve_of_actual {kind : Kind} (h : s.actual kind = .ok d) :
    ∃ target, s.resolve = .ok (kind, target) := by
  obtain ⟨⟨kind', target⟩, hkind, h⟩ := bind_eq_ok.1 h
  by_cases hne : kind' ≠ kind
  · simp only [if_pos hne] at h
    obtain ⟨_, h, _⟩ := bind_eq_ok.1 h
    exact absurd h throw_ne_ok
  · obtain rfl := not_not.1 hne
    exact ⟨target, hkind⟩

theorem kind_of_actual {kind kind' : Kind} {target : Schema} (hkind : s.resolve = .ok (kind, target))
    (hd : s.actual kind' = .ok d) : kind = kind' := by
  obtain ⟨target', hkind'⟩ := resolve_of_actual hd
  exact (Prod.mk.inj (Except.ok.inj (hkind.symm.trans hkind'))).1

theorem mem_of_find_index {i : UInt32} (h : d.find? (.index i) = some f) : f ∈ d.fields ∧ f.index? = some i :=
  ⟨List.mem_of_find?_eq_some h, by simpa using List.find?_some h⟩

theorem mem_of_find_name {n : String} (h : d.find? (.name n) = some f) : f ∈ d.fields ∧ f.name? = some n :=
  ⟨List.mem_of_find?_eq_some h, by simpa using List.find?_some h⟩

theorem find_index_none {i : UInt32} (h : d.find? (.index i) = none) (hf : f ∈ d.fields) :
    f.index? ≠ some i := by
  simpa using List.find?_eq_none.1 h f hf

theorem find_name_none {n : String} (h : d.find? (.name n) = none) (hf : f ∈ d.fields) :
    f.name? ≠ some n := by
  simpa using List.find?_eq_none.1 h f hf

/-- A field is found by an index that no other field has. -/
theorem find_index_of_nodup (h : (d.fields.filterMap index?).Nodup) {i : UInt32} (hf : f ∈ d.fields)
    (hi : f.index? = some i) : d.find? (.index i) = some f := by
  cases hfind : d.find? (.index i) with
  | none => exact absurd hi (find_index_none hfind hf)
  | some g =>
    obtain ⟨hg, hgi⟩ := mem_of_find_index hfind
    rw [eq_of_nodup_filterMap h hg hf hgi hi]

theorem find_name_of_nodup (h : (d.fields.filterMap name?).Nodup) {n : String} (hf : f ∈ d.fields)
    (hn : f.name? = some n) : d.find? (.name n) = some f := by
  cases hfind : d.find? (.name n) with
  | none => exact absurd hn (find_name_none hfind hf)
  | some g =>
    obtain ⟨hg, hgn⟩ := mem_of_find_name hfind
    rw [eq_of_nodup_filterMap h hg hf hgn hn]

namespace LegibleRecord

variable (hd : d.LegibleRecord) {g : Schema}

include hd

theorem apart : d.Apart where
  index_ne_zero f hf hzero := by
    obtain ⟨i, hi, hne⟩ := hd.index f hf
    exact hne (Option.some.inj (hi.symm.trans hzero))
  indices_nodup := nodup_filterMap hd.indices_nodup
  names_nodup := nodup_filterMap hd.names_nodup

/-- Fields with one index, or with one name, are the same field. -/
theorem eq_of_index (hf : f ∈ d.fields) (hg : g ∈ d.fields) {i : UInt32} (hfi : f.index? = some i)
    (hgi : g.index? = some i) : f = g :=
  eq_of_nodup_filterMap (nodup_filterMap hd.indices_nodup) hf hg hfi hgi

theorem eq_of_name (hf : f ∈ d.fields) (hg : g ∈ d.fields) {n : String} (hfn : f.name? = some n)
    (hgn : g.name? = some n) : f = g :=
  eq_of_nodup_filterMap (nodup_filterMap hd.names_nodup) hf hg hfn hgn

theorem find_index {i : UInt32} (hf : f ∈ d.fields) (hi : f.index? = some i) :
    d.find? (.index i) = some f :=
  find_index_of_nodup (nodup_filterMap hd.indices_nodup) hf hi

theorem find_name {n : String} (hf : f ∈ d.fields) (hn : f.name? = some n) : d.find? (.name n) = some f :=
  find_name_of_nodup (nodup_filterMap hd.names_nodup) hf hn

/-- No name spells an index. -/
theorem find_name_indexText (i : UInt32) : d.find? (.name (indexText i)) = none := by
  cases h : d.find? (.name (indexText i)) with
  | none => rfl
  | some g =>
    obtain ⟨hg, hgn⟩ := mem_of_find_name h
    obtain ⟨n, hn, hindex⟩ := hd.name g hg
    exact absurd (Option.some.inj (hn.symm.trans hgn)) (hindex i)

end LegibleRecord

/-- Whether no record that a schema leads to gives two fields the same name. -/
def NamesDistinct (s : Schema) : Prop :=
  ∀ d, s.Reaches d → (d.fields.filterMap name?).Nodup

theorem Consistent.namesDistinct (hs : s.Consistent) : s.NamesDistinct :=
  fun d hd => nodup_filterMap (hs d hd).names_nodup

theorem NamesDistinct.field (hs : s.NamesDistinct) (hd : s.Reaches d) (hf : f ∈ d.fields) : f.NamesDistinct :=
  fun d' h => hs d' (.field hd hf h)

end Schema

/-- A field that may have a default is neither a record nor a table. -/
theorem Kind.isComposite_of_admits {kind : Kind} {v : Value} (h : kind.admits v) : kind.isComposite = false := by
  cases kind with
  | record | table => cases h
  | _ => rfl

namespace Value

/-- A value that is read as a default is the same as itself. -/
theorem same_self_of_fits {kind : Kind} {v : Value} (h : kind.fits v) : v.same v := by
  cases kind <;> cases v <;>
    simp_all [Kind.fits, Chunk.int32?, asInt, asBool, asFloat, asString, same, sameFloat, Binary64.eq]

/-- A value that is read as a default is compared alike from both sides. -/
theorem same_comm_of_fits {kind : Kind} {v w : Value} (h : kind.fits v) : v.same w = w.same v := by
  have hfloat : ∀ x y : Binary64, sameFloat x y = sameFloat y x := by
    intro x y
    rw [sameFloat, sameFloat, Binary64.eq, Binary64.eq, Bool.and_comm (!x.isNaN), BEq.comm,
      Bool.and_comm x.isZero, Bool.and_comm x.isNaN]
  -- a default is a scalar
  have hscalar : (∃ b, v = .bool b) ∨ (∃ n, v = .int n) ∨ (∃ x, v = .float x) ∨ ∃ t, v = .string t := by
    cases kind <;> cases v <;> simp_all [Kind.fits, Chunk.int32?, asInt, asBool, asFloat, asString]
  rcases hscalar with ⟨b, rfl⟩ | ⟨n, rfl⟩ | ⟨x, rfl⟩ | ⟨t, rfl⟩ <;> cases w <;>
    simp only [same, BEq.comm, hfloat]

end Value

end ChunkTree
