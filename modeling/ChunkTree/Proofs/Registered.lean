import ChunkTree.Proofs.Consistent

/-!
# The registered documents are consistent

Whether a schema is consistent can be checked record by record, as far as schemas are nested
(`Schema.checkWithin`).  The roots of all files that have a signature pass the check (`Document.isRoot`):
their defaults are written as plainly as they can be (`Schema.Steady`), none of them is stored with its length,
and they are records, tables and map trees.
-/

namespace ChunkTree

/-- Whether a value is a default of a kind in its plainest form: an integer is no whole float, and a float
is finite. -/
def Kind.admitsPlainly : Kind → Value → Bool
  | integer, .int n => (Chunk.int32? (.int n)).isSome
  | bool, .bool _ => true
  | float, .float x => x.isFinite
  | string, .string _ => true
  | _, _ => false

theorem Kind.admits_of_admitsPlainly {kind : Kind} {v : Value} (h : kind.admitsPlainly v) :
    kind.admits v := by
  cases kind <;> cases v <;> simp_all [admitsPlainly, admits]

/-- The kinds that the roots of files have. -/
def Kind.isRoot : Kind → Bool
  | record | table | mapTree => true
  | _ => false

namespace Schema

/-- A schema in which every default is written plainly. -/
def Steady (s : Schema) : Prop :=
  ∀ d, s.Reaches d → ∀ f ∈ d.fields, ∀ v, f.default? = some v →
    ∃ kind target, f.resolve = .ok (kind, target) ∧ kind.admitsPlainly v

theorem Steady.field {s d f : Schema} (hs : s.Steady) (hd : s.Reaches d) (hf : f ∈ d.fields) : f.Steady :=
  fun d' h => hs d' (.field hd hf h)

/-- Whether a field has an index, a name that is no index, a type, a plain default and, if it holds a size,
is an internal number. -/
def checkField (f : Schema) : Bool :=
  (f.index?.any (· ≠ 0)) && (f.name?.any fun n => (Save.index? n).isNone) &&
    match f.resolve with
    | .ok (kind, _) => f.default?.all kind.admitsPlainly &&
      (f.sizeOf?.isNone || (kind == .integer && f.name?.any isInternal))
    | .error _ => false

/-- Whether a record is consistent and its defaults are plain. -/
def checkRecord (d : Schema) : Bool :=
  d.fields.all checkField && decide (d.fields.map index?).Nodup && decide (d.fields.map name?).Nodup

/-- Whether all records that a schema leads to in less than `bound` steps are consistent, and there are no
others. -/
def checkWithin : (bound : Nat) → Schema → Bool
  | 0, _ => false
  | bound + 1, s => [Kind.record, .table].all fun kind =>
    match s.actual kind with
    | .ok d => d.checkRecord && d.fields.all (checkWithin bound)
    | .error _ => true

theorem checkField_spec {f : Schema} (h : f.checkField) :
    (∃ i, f.index? = some i ∧ i ≠ 0) ∧ (∃ n, f.name? = some n ∧ Save.index? n = none) ∧
      ∃ kind target, f.resolve = .ok (kind, target) ∧ (∀ v, f.default? = some v → kind.admitsPlainly v) ∧
        (f.sizeOf?.isSome → kind = .integer ∧ ∃ n, f.name? = some n ∧ isInternal n) := by
  unfold checkField at h
  simp only [Bool.and_eq_true, Option.any_eq_true, decide_eq_true_eq, Option.isNone_iff_eq_none] at h
  obtain ⟨⟨hindex, hname⟩, h⟩ := h
  refine ⟨hindex, hname, ?_⟩
  split at h
  · rename_i kind target hkind
    simp only [Bool.and_eq_true, Bool.or_eq_true, beq_iff_eq, Option.any_eq_true] at h
    refine ⟨kind, target, hkind, fun v hv => ?_, fun hsize => ?_⟩
    · have := h.1
      rw [hv] at this
      exact this
    · refine h.2.resolve_left fun hnone => ?_
      rw [Option.isNone_iff_eq_none.1 hnone] at hsize
      cases hsize
  · cases h

theorem checkRecord_spec {d : Schema} (h : d.checkRecord) : d.ConsistentRecord ∧
    ∀ f ∈ d.fields, ∀ v, f.default? = some v → ∃ kind target, f.resolve = .ok (kind, target) ∧
      kind.admitsPlainly v := by
  unfold checkRecord at h
  simp only [Bool.and_eq_true, List.all_eq_true, decide_eq_true_eq] at h
  obtain ⟨⟨hfields, hindices⟩, hnames⟩ := h
  have hspec := fun f hf => checkField_spec (hfields f hf)
  have hdefault : ∀ f ∈ d.fields, ∀ v, f.default? = some v → ∃ kind target, f.resolve = .ok (kind, target) ∧
      kind.admitsPlainly v := by
    intro f hf v hv
    obtain ⟨_, _, kind, target, hkind, hplain, _⟩ := hspec f hf
    exact ⟨kind, target, hkind, hplain v hv⟩
  refine ⟨⟨fun f hf => (hspec f hf).1, fun f hf => (hspec f hf).2.1, hindices, hnames, ?_, ?_, ?_⟩, hdefault⟩
  · intro f hf
    obtain ⟨_, _, kind, target, hkind, _⟩ := hspec f hf
    exact ⟨kind, target, hkind⟩
  · intro f hf v hv
    obtain ⟨kind, target, hkind, hplain⟩ := hdefault f hf v hv
    exact ⟨kind, target, hkind, Kind.admits_of_admitsPlainly hplain⟩
  · intro f hf hsize
    obtain ⟨_, _, kind, target, hkind, _, hinternal⟩ := hspec f hf
    obtain ⟨rfl, n, hn, hn'⟩ := hinternal hsize
    exact ⟨target, n, hkind, hn, hn'⟩

theorem checkRecord_of_reaches {s d : Schema} (h : s.Reaches d) {bound : Nat} (hcheck : s.checkWithin bound) :
    ∃ bound', d.checkRecord ∧ d.fields.all (checkWithin bound') := by
  induction h generalizing bound with
  | record h | table h =>
    cases bound with
    | zero => cases hcheck
    | succ bound =>
      simp only [checkWithin, List.all_cons, List.all_nil, Bool.and_true, Bool.and_eq_true, h] at hcheck
      exact ⟨bound, by simp_all⟩
  | field _ hfield _ ih ih' =>
    obtain ⟨bound', _, hfields⟩ := ih hcheck
    exact ih' (List.all_eq_true.1 hfields _ hfield)

/-- A schema that passes the check is consistent, and its defaults are plain. -/
theorem consistent_of_check {s : Schema} {bound : Nat} (h : s.checkWithin bound) :
    s.Consistent ∧ s.Steady := by
  have hrecord := fun d (hd : s.Reaches d) => checkRecord_of_reaches hd h
  refine ⟨fun d hd => ?_, fun d hd => ?_⟩
  · obtain ⟨_, hcheck, _⟩ := hrecord d hd
    exact (checkRecord_spec hcheck).1
  · obtain ⟨_, hcheck, _⟩ := hrecord d hd
    exact (checkRecord_spec hcheck).2

/-- A schema of a root: consistent, with plain defaults, stored without its length, and of a kind that the roots of
files have. -/
structure IsRoot (s : Schema) : Prop where
  consistent : s.Consistent
  steady : s.Steady
  unsized : s.isSized = false
  kind : ∃ kind target, s.resolve = .ok (kind, target) ∧ kind.isRoot

/-- Whether a schema is that of a root, if records are nested less than `bound` deep in it. -/
def checkRoot (bound : Nat) (s : Schema) : Bool :=
  s.checkWithin bound && !s.isSized &&
    match s.resolve with
    | .ok (kind, _) => kind.isRoot
    | .error _ => false

theorem isRoot_of_check {s : Schema} {bound : Nat} (h : s.checkRoot bound) : s.IsRoot := by
  obtain ⟨hcheck, hkind⟩ := Bool.and_eq_true_iff.1 h
  obtain ⟨hcheck, hsized⟩ := Bool.and_eq_true_iff.1 hcheck
  obtain ⟨hconsistent, hsteady⟩ := consistent_of_check hcheck
  refine ⟨hconsistent, hsteady, by simpa using hsized, ?_⟩
  split at hkind
  · exact ⟨_, _, by assumption, hkind⟩
  · cases hkind

end Schema

namespace Document

/-- The roots of all files pass the check. -/
theorem check_roots : all.all (fun entry => (Schema.mk entry.2).roots.all (Schema.checkRoot 6)) = true := by
  decide +kernel

/-- Every root of a registered document has the schema of a root. -/
theorem isRoot {signature : String} {document slot : Schema} (h : ofSignature? signature = some document)
    (hslot : slot ∈ document.roots) : slot.IsRoot := by
  obtain ⟨hfind, _⟩ := Option.filter_eq_some_iff.1 h
  obtain ⟨v, hv, rfl⟩ := Option.map_eq_some_iff.1 hfind
  have := List.all_eq_true.1 check_roots _ (Value.mem_of_lookup hv)
  exact Schema.isRoot_of_check (List.all_eq_true.1 this slot hslot)

end Document

end ChunkTree
