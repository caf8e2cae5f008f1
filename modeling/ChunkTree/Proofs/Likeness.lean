import ChunkTree.Proofs.Faithful
import ChunkTree.Proofs.Replacement

/-!
# Values that pass for others

A relation between values is a likeness if whatever can be asked of a value can be asked of a value like it, with
the same or a like answer (`Save.Likeness`).  Then a value is taken as the same content as a value like it
(`Save.Likeness.contentBytes`), its entries correspond to a rearrangement of the other's entries
(`Save.Likeness.keptEntries`), and so do its rows (`Save.Likeness.rowsOf`).  So a value like one that is saved is
saved as the same bytes, if that holds of its entries (`Save.Likeness.saved`).
-/

namespace ChunkTree

open Text (Charset)

namespace Save

/-- Two fields of one key whose values are related. -/
def SameKey (R : Value → Value → Prop) (f g : String × Value) : Prop :=
  f.1 = g.1 ∧ R f.2 g.2

/-- Whether values so related pass for each other: scalars that are asked for are the same, items correspond one
by one, and fields correspond to those of the other value in some order. -/
structure Likeness (R : Value → Value → Prop) : Prop where
  asInt {v w : Value} {n : Int64} : R v w → v.asInt = some n → w.asInt = some n
  asBool {v w : Value} {b : Bool} : R v w → v.asBool = some b → w.asBool = some b
  asString {v w : Value} {s : String} : R v w → v.asString = some s → w.asString = some s
  float {field : String} {v w : Value} {x : Binary64} : R v w → float field v = .ok x → float field w = .ok x
  asArray {v w : Value} : R v w → (v.asArray = none ∧ w.asArray = none) ∨
    ∃ xs ys, v.asArray = some xs ∧ w.asArray = some ys ∧ List.Forall₂ R xs ys
  asObject {v w : Value} : R v w → (v.asObject = none ∧ w.asObject = none) ∨
    ∃ fs gs hs, v.asObject = some fs ∧ w.asObject = some hs ∧ fs.Perm gs ∧ List.Forall₂ (SameKey R) gs hs
  get? {v w : Value} (key : String) : R v w → (v.get? key = none ∧ w.get? key = none) ∨
    ∃ x y, v.get? key = some x ∧ w.get? key = some y ∧ R x y

/-- Whether what a value is taken as, a value like it is taken as. -/
def Respects {α : Type} (R : Value → Value → Prop) (take : Value → Except Error α) : Prop :=
  ∀ v w x, R v w → take v = .ok x → take w = .ok x

variable {α β : Type} {R : Value → Value → Prop}

namespace Respects

theorem bind {take : Value → Except Error α} {next : α → Value → Except Error β} (h : Respects R take)
    (hnext : ∀ x, Respects R (next x)) : Respects R fun v => take v >>= fun x => next x v := by
  intro v w y hvw hy
  obtain ⟨x, hx, hy⟩ := bind_eq_ok.1 hy
  exact bind_eq_ok.2 ⟨x, h v w x hvw hx, hnext x v w y hvw hy⟩

theorem const (x : Except Error α) : Respects R fun _ => x :=
  fun _ _ _ _ => id

end Respects

namespace Likeness

variable (hR : Likeness R)

include hR

/-! ## Content -/

theorem whole (field expected : String) (inRange : Int → Bool) :
    Respects R (whole field expected inRange) := by
  intro v w n hvw hn
  obtain ⟨m, hm, hrange, hmn⟩ := whole_eq_ok.1 hn
  exact whole_eq_ok.2 ⟨m, hR.asInt hvw hm, hrange, hmn⟩

theorem int32 (field : String) : Respects R (int32 field) :=
  (hR.whole field _ _).bind fun _ => .const _

theorem uint32 (field : String) : Respects R (uint32 field) :=
  (hR.whole field _ _).bind fun _ => .const _

theorem bool (field : String) : Respects R (bool field) := by
  intro v w b hvw hb
  obtain rfl := bool_eq_ok.1 hb
  rw [Save.bool, hR.asBool hvw rfl]

theorem string (field : String) : Respects R (string field) := by
  intro v w s hvw hs
  obtain rfl := string_eq_ok.1 hs
  rw [Save.string, hR.asString hvw rfl]

theorem items {field : String} {item : Value → Except Error α} (h : Respects R item) :
    Respects R (items field item) := by
  intro v w xs hvw hitems
  obtain ⟨values, hv, hxs⟩ := items_eq_ok.1 hitems
  rcases hR.asArray hvw with ⟨hnone, _⟩ | ⟨values', values'', hv', hw, hvalues⟩
  · rw [hv] at hnone
    cases hnone
  obtain rfl := Option.some.inj (hv.symm.trans hv')
  refine items_eq_ok.2 ⟨values'', hw, ?_⟩
  clear hitems hv hv' hw
  induction hvalues generalizing xs with
  | nil => exact hxs
  | cons hxy _ ih =>
    obtain _ | ⟨hx, hxs⟩ := hxs
    exact .cons (h _ _ _ hxy hx) (ih _ hxs)

theorem ints (width : Nat) (field : String) : Respects R (ints width field) :=
  hR.items (hR.whole field _ _)

theorem int32s (field : String) : Respects R (int32s field) :=
  hR.items (hR.int32 field)

theorem part {take : Value → Except Error α} (h : Respects R take) (field key : String) :
    Respects R fun v => part field key v >>= take := by
  intro v w x hvw hx
  obtain ⟨y, hy, hx⟩ := bind_eq_ok.1 hx
  unfold Save.part at hy
  rcases hR.get? key hvw with ⟨hv, _⟩ | ⟨z, z', hv, hw, hzz'⟩
  · simp [hv] at hy
  · simp only [hv] at hy
    obtain rfl := Except.ok.inj hy
    exact bind_eq_ok.2 ⟨z', by rw [Save.part, hw], h _ _ x hzz' hx⟩

theorem partOr {take : Value → Except Error α} (h : Respects R take) (key : String) (otherwise : α) :
    Respects R (partOr key take otherwise) := by
  intro v w x hvw hx
  unfold Save.partOr at hx ⊢
  rcases hR.get? key hvw with ⟨hv, hw⟩ | ⟨z, z', hv, hw, hzz'⟩
  · rw [hw]
    rwa [hv] at hx
  · rw [hw]
    rw [hv] at hx
    exact h _ _ x hzz' hx

theorem mapTree (field : String) : Respects R (mapTree field) := by
  intro v w t hvw ht
  obtain ⟨⟨nodes, hnodes, hns⟩, active, hactive, hn⟩ := mapTree_eq_ok.1 ht
  have hnodes' := hR.part (hR.items (hR.uint32 field)) field "nodes" v w _ hvw
    (bind_eq_ok.2 ⟨nodes, hnodes, hns⟩)
  have hactive' := hR.part (hR.uint32 field) field "active_node" v w _ hvw (bind_eq_ok.2 ⟨active, hactive, hn⟩)
  exact mapTree_eq_ok.2 ⟨bind_eq_ok.1 hnodes', bind_eq_ok.1 hactive'⟩

theorem command (field : String) : Respects R (command field) := by
  intro v w c hvw hc
  obtain ⟨⟨fields, hv⟩, ⟨code, hcode, hn⟩, hnest, htext, hargs⟩ := command_eq_ok.1 hc
  have hobject : ∃ fields, w.asObject = some fields := by
    rcases hR.asObject hvw with ⟨hnone, _⟩ | ⟨_, _, hs, _, hw, _⟩
    · rw [hv] at hnone
      cases hnone
    · exact ⟨hs, hw⟩
  have hcode' := hR.part (hR.uint32 field) field "code" v w _ hvw (bind_eq_ok.2 ⟨code, hcode, hn⟩)
  exact command_eq_ok.2 ⟨hobject, bind_eq_ok.1 hcode', hR.partOr (hR.uint32 field) _ _ v w _ hvw hnest,
    hR.partOr (hR.string field) _ _ v w _ hvw htext, hR.partOr (hR.int32s field) _ _ v w _ hvw hargs⟩

theorem script (field : String) : Respects R (script field) :=
  hR.items (hR.command field)

theorem rawBytes (index : UInt32) : Respects R (rawBytes index) :=
  hR.items ((hR.whole _ _ _).bind fun _ => .const _)

theorem contentSize (charset : Charset) (kind : Kind) (field : String) :
    Respects R (contentSize charset kind field) := by
  cases kind with
  | integer => exact (hR.int32 field).bind fun _ => .const _
  | bool => exact (hR.bool field).bind fun _ => .const _
  | float => exact .const _
  | string => exact (hR.string field).bind fun _ => .const _
  | script => exact (hR.script field).bind fun _ => .const _
  | int8s | int16s | int32s => exact (hR.ints _ field).bind fun _ => .const _
  | varints => exact (hR.int32s field).bind fun _ => .const _
  | mapTree => exact (hR.mapTree field).bind fun _ => .const _
  | record | table => exact .const _

theorem contentBytes (charset : Charset) (kind : Kind) (field : String) :
    Respects R (contentBytes charset kind field) := by
  cases kind with
  | integer => exact (hR.int32 field).bind fun _ => .const _
  | bool => exact (hR.bool field).bind fun _ => .const _
  | float => exact .bind (fun _ _ _ => hR.float) fun _ => .const _
  | string => exact (hR.string field).bind fun _ => .const _
  | script => exact (hR.script field).bind fun _ => .const _
  | int8s | int16s | int32s => exact (hR.ints _ field).bind fun _ => .const _
  | varints => exact (hR.int32s field).bind fun _ => .const _
  | mapTree => exact (hR.mapTree field).bind fun _ => .const _
  | record | table => exact .const _

/-! ## Entries and rows -/

end Likeness

/-- Whether two entries differ at most by their values, and these are related. -/
structure Entry.Like (R : Value → Value → Prop) (e e' : Entry) : Prop where
  index : e'.index = e.index
  schema : e'.schema = e.schema
  value : R e.value e'.value

/-- Two rows of one index that are related. -/
def RowLike (R : Value → Value → Prop) (r r' : UInt32 × Value) : Prop :=
  r'.1 = r.1 ∧ R r.2 r'.2

/-- Whether the values that replace those of an object are defaults just if they replace defaults. -/
def DefaultsLike (R : Value → Value → Prop) (d : Schema) (v : Value) : Prop :=
  ∀ f ∈ v.asObject.getD [], ∀ y, R f.2 y → ∀ i field, isInternal f.1 = false →
    d.designated f.1 = some (i, field) → (field.bind Schema.name?).any isInternal = false →
      isDefault field y = isDefault field f.2

namespace Likeness

variable (hR : Likeness R) {v w : Value} {d : Schema}

include hR

/-- The entries of a value correspond to a rearrangement of the entries of a value like it. -/
theorem keptEntries (h : R v w) (hdefault : DefaultsLike R d v) :
    ∃ mid, (v.keptEntries d).Perm mid ∧ List.Forall₂ (Entry.Like R) mid (w.keptEntries d) := by
  unfold Value.keptEntries
  unfold DefaultsLike at hdefault
  rcases hR.asObject h with ⟨hv, hw⟩ | ⟨fs, gs, hs, hv, hw, hperm, hfields⟩
  · rw [hv, hw]
    exact ⟨[], .refl _, .nil⟩
  rw [hv, Option.getD_some] at hdefault
  rw [hv, hw, Option.getD_some, Option.getD_some]
  refine ⟨_, hperm.filterMap _, ?_⟩
  replace hdefault := fun f hf => hdefault f (hperm.mem_iff.2 hf)
  clear hperm hw
  induction hfields with
  | nil => exact .nil
  | @cons f g gs hs hfg _ ih =>
    have hkept := Schema.kept_congr (hdefault f List.mem_cons_self g.2 hfg.2)
    have hrest := ih fun f' hf' => hdefault f' (List.mem_cons_of_mem f hf')
    rw [List.filterMap_cons, List.filterMap_cons, ← hfg.1, hkept]
    cases he : d.kept f.1 f.2 with
    | none => exact hrest
    | some e => exact .cons ⟨rfl, rfl, Value.value_of_kept he ▸ hfg.2⟩ hrest

/-- A value like one that can be given can be given. -/
theorem givenEntries (h : R v w) {fields : Fields} {given : List Entry} (hv : v.asObject = some fields)
    (hgiven : givenEntries d fields = .ok given) :
    ∃ fields', w.asObject = some fields' ∧ Save.givenEntries d fields' = .ok (w.keptEntries d) := by
  rcases hR.asObject h with ⟨hnone, _⟩ | ⟨fs, gs, hs, hfs, hw, hperm, hfields⟩
  · rw [hv] at hnone
    cases hnone
  obtain rfl := Option.some.inj (hv.symm.trans hfs)
  refine ⟨hs, hw, givenEntries_eq_ok.2 ⟨fun g hg => ?_, by rw [Value.keptEntries, hw]; rfl⟩⟩
  obtain ⟨f, hf, hfg⟩ := exists_left_of_forall₂ hfields hg
  obtain ⟨o, ho⟩ := (givenEntries_eq_ok.1 hgiven).1 f (hperm.mem_iff.2 hf)
  rw [← hfg.1]
  exact exists_keyEntry ho g.2

theorem furtherRows {x y : Value} (h : R x y) :
    List.Forall₂ R (Value.furtherRows x) (Value.furtherRows y) := by
  unfold Value.furtherRows Value.field
  rcases hR.get? restKey h with ⟨hx, hy⟩ | ⟨rest, rest', hx, hy, hrest⟩
  · rw [hx, hy]
    exact .nil
  · rw [hx, hy, Option.getD_some, Option.getD_some]
    rcases hR.asArray hrest with ⟨hx, hy⟩ | ⟨xs, ys, hx, hy, hxs⟩
    · rw [hx, hy]
      exact .nil
    · rw [hx, hy]
      exact hxs

/-- The rows of each key correspond one by one. -/
theorem keyRows {gs hs : Fields} (h : List.Forall₂ (SameKey R) gs hs) :
    List.Forall₂ (RowLike R) (gs.flatMap Value.keyRows) (hs.flatMap Value.keyRows) := by
  induction h with
  | nil => exact .nil
  | @cons f g gs hs hfg _ ih =>
    refine List.rel_append ?_ ih
    unfold Value.keyRows
    rw [← hfg.1]
    split
    · refine .cons ⟨rfl, hfg.2⟩ ?_
      rw [List.forall₂_map_left_iff, List.forall₂_map_right_iff]
      exact (hR.furtherRows hfg.2).imp fun _ _ hxy => ⟨rfl, hxy⟩
    · exact .nil

theorem restOf {key : String} {x y : Value} (h : R x y) {more : List Value} (hmore : restOf key x = .ok more) :
    ∃ more', Save.restOf key y = .ok more' := by
  unfold Save.restOf at hmore ⊢
  rcases hR.get? restKey h with ⟨hx, hy⟩ | ⟨rest, rest', hx, hy, hrest⟩
  · rw [hy]
    exact ⟨_, rfl⟩
  · rw [hx] at hmore
    simp only [hy]
    rcases hR.asArray hrest with ⟨hx, _⟩ | ⟨xs, ys, _, hy, _⟩
    · simp only [hx] at hmore
      cases hmore
    · rw [hy]
      exact ⟨_, rfl⟩

/-- The rows of a value like a table correspond to those of the table, if rearranging the keys leaves the rows
of each index in order. -/
theorem rowsOf {fs gs hs : Fields} (hv : v.asObject = some fs) (hw : w.asObject = some hs) (hperm : fs.Perm gs)
    (hfields : List.Forall₂ (SameKey R) gs hs)
    (hsort : sortBy Prod.fst (fs.flatMap Value.keyRows) = sortBy Prod.fst (gs.flatMap Value.keyRows))
    {rows : List (UInt32 × Value)} (hrows : rowsOf d v = .ok rows) :
    ∃ rows', Save.rowsOf d w = .ok rows' ∧ List.Forall₂ (RowLike R) rows rows' := by
  obtain ⟨fields, given, hv', hgiven, rfl⟩ := rowsOf_eq_ok.1 hrows
  obtain rfl := Option.some.inj (hv.symm.trans hv')
  obtain ⟨hkeys, rfl⟩ := Value.givenRows_eq_ok.1 hgiven
  have hkeys' : ∀ g ∈ hs, ∃ i more, index? g.1 = some i ∧ Save.restOf g.1 g.2 = .ok more := by
    intro g hg
    obtain ⟨f, hf, hfg⟩ := exists_left_of_forall₂ hfields hg
    obtain ⟨i, more, hi, hmore⟩ := hkeys f (hperm.mem_iff.2 hf)
    rw [← hfg.1]
    obtain ⟨more', hmore'⟩ := hR.restOf hfg.2 hmore
    exact ⟨i, more', hi, hmore'⟩
  refine ⟨_, rowsOf_eq_ok.2 ⟨hs, _, hw, Value.givenRows_eq_ok.2 ⟨hkeys', rfl⟩, rfl⟩, ?_⟩
  rw [hsort]
  exact forall₂_sortBy (fun _ _ hr => hr.1.symm) (hR.keyRows hfields)

/-- The rows of a value correspond to a rearrangement of the rows of a value like it. -/
theorem tableRows (h : R v w) :
    ∃ mid, v.tableRows.Perm mid ∧ List.Forall₂ (RowLike R) mid w.tableRows := by
  rw [Value.tableRows_eq, Value.tableRows_eq]
  rcases hR.asObject h with ⟨hv, hw⟩ | ⟨fs, gs, hs, hv, hw, hperm, hfields⟩
  · rw [hv, hw]
    exact ⟨[], .refl _, .nil⟩
  · rw [hv, hw]
    exact ⟨_, hperm.flatMap_right _, hR.keyRows hfields⟩

end Likeness

/-! ## Saving -/

/-- Whether the values that replace those of a record, or of the rows of a table, are defaults just if they
replace defaults. -/
structure DefaultsLikeIn (R : Value → Value → Prop) (v : Value) (s : Schema) : Prop where
  record : ∀ d, s.actual .record = .ok d → DefaultsLike R d v
  table : ∀ d, s.actual .table = .ok d → ∀ r ∈ v.tableRows, DefaultsLike R d r.2

namespace Likeness

variable (hR : Likeness R) {charset : Charset} {v w : Value} {s d : Schema}

include hR

/-- Every entry of a value corresponds to an entry of a value like it. -/
theorem gives (h : R v w) (hdefault : DefaultsLikeIn R v s) {e : Entry} (he : Gives v s e) :
    ∃ e', Gives w s e' ∧ e.Like R e' := by
  rcases he with ⟨d, hd, he⟩ | ⟨d, hd, r, hr, he⟩
  · obtain ⟨mid, hperm, hentries⟩ := hR.keptEntries h (hdefault.record d hd)
    obtain ⟨e', he', hlike⟩ := exists_right_of_forall₂ hentries (hperm.mem_iff.1 he)
    exact ⟨e', .inl ⟨d, hd, he'⟩, hlike⟩
  · obtain ⟨rows, hrows, hall⟩ := hR.tableRows h
    obtain ⟨r', hr', hrr'⟩ := exists_right_of_forall₂ hall (hrows.mem_iff.1 hr)
    obtain ⟨mid, hperm, hentries⟩ := hR.keptEntries hrr'.2 (hdefault.table d hd r hr)
    obtain ⟨e', he', hlike⟩ := exists_right_of_forall₂ hentries (hperm.mem_iff.1 he)
    exact ⟨e', .inr ⟨d, hd, r', hr', he'⟩, hlike⟩

theorem recordFollows (h : R v w) (hdefault : DefaultsLike R d v)
    (hentry : ∀ e ∈ v.keptEntries d, ∀ e', e.Like R e' → e.Follows charset e') :
    RecordFollows charset d v w := by
  intro fields given hv hgiven
  obtain ⟨fields', hw, hgiven'⟩ := hR.givenEntries h hv hgiven
  obtain ⟨mid, hperm, hall⟩ := hR.keptEntries h hdefault
  rw [← Value.keptEntries_of_givenEntries hv hgiven]
  exact ⟨fields', _, mid, hw, hgiven', hperm,
    forall₂_imp_mem hall fun e he e' _ => hentry e (hperm.mem_iff.2 he) e'⟩

/-- An entry can stand for one that it is like if its value is measured and saved as the other's is. -/
theorem follows {e e' : Entry} (h : e.Like R e')
    (hvalue : ∀ u, e.schema = some u →
      (∀ n, e.value.savedSize charset u = .ok n → e'.value.savedSize charset u = .ok n) ∧
        ∀ bytes, e.value.save charset u = .ok bytes → e'.value.save charset u = .ok bytes) :
    e.Follows charset e' := by
  have hraw : ∀ bytes, Save.rawBytes e.index e.value = .ok bytes → Save.rawBytes e.index e'.value = .ok bytes :=
    fun bytes => hR.rawBytes e.index _ _ bytes h.value
  refine ⟨h.index, h.schema, fun n hn => ?_, fun p hp => ?_⟩
  · unfold Entry.payloadSize at hn ⊢
    rw [h.schema, h.index]
    cases hu : e.schema with
    | some u =>
      simp only [hu] at hn ⊢
      exact (hvalue u hu).1 n hn
    | none =>
      simp only [hu] at hn ⊢
      obtain ⟨bytes, hbytes, hn⟩ := bind_eq_ok.1 hn
      exact bind_eq_ok.2 ⟨bytes, hraw bytes hbytes, hn⟩
  · unfold Entry.payload at hp ⊢
    rw [h.schema, h.index]
    cases hu : e.schema with
    | some u =>
      simp only [hu] at hp ⊢
      exact (hvalue u hu).2 p hp
    | none =>
      simp only [hu] at hp ⊢
      exact hraw p hp

/-- A value like one that can be measured or saved can be so, with the same size and bytes, if its entries can
stand for the entries that they are like. -/
theorem saved (h : R v w) (hnames : s.NamesDistinct) (hdefault : DefaultsLikeIn R v s)
    (hrows : ∀ d, s.actual .table = .ok d → ∀ rows, Save.rowsOf d v = .ok rows →
      ∃ rows', Save.rowsOf d w = .ok rows' ∧ List.Forall₂ (RowLike R) rows rows')
    (hentry : ∀ e, Gives v s e → ∀ e', e.Like R e' → e.Follows charset e') :
    (∀ n, v.savedSize charset s = .ok n → w.savedSize charset s = .ok n) ∧
      ∀ bytes, v.save charset s = .ok bytes → w.save charset s = .ok bytes := by
  have hrecord : ∀ {d}, s.actual .record = .ok d → RecordFollows charset d v w := fun hd =>
    hR.recordFollows h (hdefault.record _ hd) fun e he => hentry e (.inl ⟨_, hd, he⟩)
  have htable : ∀ {d}, s.actual .table = .ok d → Value.TableFollows charset d v w := by
    intro d hd rows hv
    obtain ⟨rows', hw, hall⟩ := hrows d hd rows hv
    refine ⟨rows', hw, forall₂_imp_mem hall fun r hr r' _ hrr' => ?_⟩
    rw [← Value.sortBy_tableRows hv, mem_sortBy] at hr
    have hrow := hR.recordFollows hrr'.2 (hdefault.table d hd r hr)
      fun e he => hentry e (.inr ⟨d, hd, r, hr, he⟩)
    have hdistinct := hnames d (.table hd)
    exact ⟨hrr'.1, fun _ => Value.recordSize_of_follows hrow hdistinct,
      fun _ => Value.saveRecord_of_follows hrow hdistinct⟩
  constructor
  · intro n hn
    obtain ⟨kind, target, hkind, hn⟩ := Value.savedSize_eq_ok.1 hn
    refine Value.savedSize_eq_ok.2 ⟨kind, target, hkind, ?_⟩
    rcases hn with ⟨rfl, d, hd, hn⟩ | ⟨rfl, d, hd, hn⟩ | ⟨hleaf, hn⟩
    · exact .inl ⟨rfl, d, hd, Value.recordSize_of_follows (hrecord hd) (hnames d (.record hd)) hn⟩
    · exact .inr (.inl ⟨rfl, d, hd, Value.tableSize_of_follows (htable hd) hn⟩)
    · exact .inr (.inr ⟨hleaf, hR.contentSize charset kind s.label v w n h hn⟩)
  · intro bytes hbytes
    obtain ⟨kind, target, hkind, hbytes⟩ := Value.save_eq_ok.1 hbytes
    refine Value.save_eq_ok.2 ⟨kind, target, hkind, ?_⟩
    rcases hbytes with ⟨rfl, d, hd, hbytes⟩ | ⟨rfl, d, hd, hbytes⟩ | ⟨hleaf, hbytes⟩
    · exact .inl ⟨rfl, d, hd, Value.saveRecord_of_follows (hrecord hd) (hnames d (.record hd)) hbytes⟩
    · exact .inr (.inl ⟨rfl, d, hd, Value.saveTable_of_follows (htable hd) hbytes⟩)
    · exact .inr (.inr ⟨hleaf, hR.contentBytes charset kind s.label v w bytes h hbytes⟩)

end Likeness

end Save

end ChunkTree
