import ChunkTree.Proofs.Faithful
import ChunkTree.Proofs.Registered
import ChunkTree.Proofs.Reordered

/-!
# The order of keys does not matter

Values that differ by the order of keys are saved as the same bytes (`Value.save_reordered`), if the fields of
every record can be told apart by their names and the row keys of every table spell different indices.  The
entries of an object are rearranged with its keys, which makes no difference once they are sorted; and so are its
rows, where the rows of one index stay in order (`Value.sortBy_keyRows`).
-/

namespace ChunkTree

open Text (Charset)
open Save (Entry Gives Covers Likeness RowLike DefaultsLike isDefault sortBy)

variable {charset : Charset}

/-- Parts that are put together in another order make up the same list if only one of them is not empty. -/
theorem flatMap_perm {α β : Type} {f : α → List β} {xs ys : List α} (h : xs.Perm ys)
    (hone : xs.Pairwise fun a b => f a = [] ∨ f b = []) : xs.flatMap f = ys.flatMap f := by
  induction h with
  | nil => rfl
  | cons a _ ih => rw [List.flatMap_cons, List.flatMap_cons, ih (List.pairwise_cons.1 hone).2]
  | swap a b l =>
    have hab := (List.pairwise_cons.1 hone).1 a List.mem_cons_self
    simp only [List.flatMap_cons]
    rcases hab with h | h <;> simp [h]
  | trans h _ ih ih' => rw [ih hone, ih' ((h.pairwise_iff Or.symm).1 hone)]

namespace Value

variable {v w : Value} {d : Schema}

theorem defaultsLike_reordered (d : Schema) (v : Value) : DefaultsLike Reordered d v := by
  intro f _ y h i field _ _ _
  rw [Save.isDefault_eq, Save.isDefault_eq]
  congr 1
  funext default
  exact (h.same_eq default).symm

/-! ## Rows -/

/-- Whether the row keys of a table spell different indices. -/
def RowsApart (v : Value) : Prop :=
  ((v.asObject.getD []).filterMap fun f => Save.index? f.1).Nodup

/-- Rows of different indices are sorted alike in whatever order their keys stand. -/
theorem sortBy_keyRows {fs gs : Fields} (hperm : fs.Perm gs)
    (hapart : (fs.filterMap fun f => Save.index? f.1).Nodup) :
    sortBy Prod.fst (fs.flatMap keyRows) = sortBy Prod.fst (gs.flatMap keyRows) := by
  refine Save.sortBy_eq_of_filter_eq fun i => ?_
  rw [List.filter_flatMap, List.filter_flatMap]
  refine flatMap_perm hperm ((List.pairwise_filterMap.1 hapart).imp fun {f g} hne => ?_)
  -- rows of one index come from one key
  by_contra hboth
  obtain ⟨hf, hg⟩ := not_or.1 hboth
  obtain ⟨r, hr⟩ := List.exists_mem_of_ne_nil _ hf
  obtain ⟨r', hr'⟩ := List.exists_mem_of_ne_nil _ hg
  obtain ⟨hmem, hri⟩ := List.mem_filter.1 hr
  obtain ⟨hmem', hri'⟩ := List.mem_filter.1 hr'
  refine hne _ (fst_of_mem_keyRows hmem) _ (fst_of_mem_keyRows hmem') ?_
  rw [eq_of_beq hri, eq_of_beq hri']

theorem RowsApart.reordered (hapart : v.RowsApart) (h : v.Reordered w) : w.RowsApart := by
  unfold RowsApart at hapart ⊢
  rcases h.asObject_cases with ⟨_, hw⟩ | ⟨fs, gs, hs, hv, hw, _, hperm, hfields⟩
  · rw [hw]
    exact List.nodup_nil
  · have hkeys : ∀ fs : Fields, fs.filterMap (fun f => Save.index? f.1) =
        (fs.map Prod.fst).filterMap Save.index? := fun fs => by rw [List.filterMap_map]; rfl
    rw [hv, Option.getD_some, hkeys] at hapart
    rw [hw, Option.getD_some, hkeys, ← map_eq_of_forall₂ hfields fun _ _ hfg => hfg.1]
    exact (((hperm.map Prod.fst).filterMap _).nodup_iff).1 hapart

end Value

/-! ## At any depth -/

namespace Save

variable {v w y : Value} {s u : Schema}

theorem defaultsLikeIn_reordered (v : Value) (s : Schema) : DefaultsLikeIn Value.Reordered v s :=
  ⟨fun d _ => Value.defaultsLike_reordered d v, fun d _ r _ => Value.defaultsLike_reordered d r.2⟩

/-- What a reordered value is saved with, the value is saved with, up to the order of keys. -/
theorem Covers.reordered (hy : Covers w s y u) (h : v.Reordered w) : ∃ x, Covers v s x u ∧ x.Reordered y := by
  induction hy generalizing v with
  | self => exact ⟨v, .self, h⟩
  | within he' hu _ ih =>
    obtain ⟨e, he, hlike⟩ := Value.Reordered.likeness.gives h.symm (defaultsLikeIn_reordered _ _) he'
    obtain ⟨x, hx, hxy⟩ := ih hlike.value.symm
    exact ⟨x, .within he (hlike.schema.trans hu) hx, hxy⟩

/-- Whether the row keys of every table in a value spell different indices. -/
def TablesApart (v : Value) (s : Schema) : Prop :=
  ∀ x u d, Covers v s x u → u.actual .table = .ok d → x.RowsApart

theorem TablesApart.within {e : Entry} (h : TablesApart v s) (he : Gives v s e) (hu : e.schema = some u) :
    TablesApart e.value u :=
  fun x t d hx => h x t d (.within he hu hx)

theorem TablesApart.reordered (hapart : TablesApart v s) (h : v.Reordered w) : TablesApart w s := by
  intro y u d hy hd
  obtain ⟨x, hx, hxy⟩ := hy.reordered h
  exact (hapart x u d hx hd).reordered hxy

/-- The rows of a reordered table are the rows of the table, up to the order of keys in them. -/
theorem rowsOf_reordered {d : Schema} (h : v.Reordered w) (hapart : v.RowsApart) {rows : List (UInt32 × Value)}
    (hrows : rowsOf d v = .ok rows) :
    ∃ rows', rowsOf d w = .ok rows' ∧ List.Forall₂ (RowLike Value.Reordered) rows rows' := by
  rcases h.asObject_cases with ⟨hnone, _⟩ | ⟨fs, gs, hs, hv, hw, _, hperm, hfields⟩
  · obtain ⟨fields, _, hv, _⟩ := rowsOf_eq_ok.1 hrows
    rw [hv] at hnone
    cases hnone
  · rw [Value.RowsApart, hv] at hapart
    exact Value.Reordered.likeness.rowsOf hv hw hperm hfields (Value.sortBy_keyRows hperm hapart) hrows

end Save

namespace Value

open Save

variable {v w : Value} {s : Schema}

/-- What can be measured or saved can be so in another order, with the same size and bytes. -/
theorem saved_of_reordered (hs : s.NamesDistinct) (h : v.Reordered w) (hapart : TablesApart v s) :
    (∀ n, v.savedSize charset s = .ok n → w.savedSize charset s = .ok n) ∧
      ∀ bytes, v.save charset s = .ok bytes → w.save charset s = .ok bytes := by
  induction hn : v.depth using Nat.strong_induction_on generalizing v w s with
  | _ n ih =>
    subst hn
    refine Reordered.likeness.saved h hs (defaultsLikeIn_reordered v s) (fun d hd rows => ?_) ?_
    · exact rowsOf_reordered h (hapart v s d .self hd)
    · intro e he e' hlike
      refine Reordered.likeness.follows hlike fun u hu => ?_
      obtain ⟨d, hd, hfield⟩ := he.mem_fields hu
      exact ih e.value.depth he.depth_lt (hs.field hd hfield) hlike.value (hapart.within he hu) rfl

/-- The order of keys, at any depth, changes neither whether a value is saved, nor its bytes, nor its size. -/
theorem save_reordered (charset : Charset) (hs : s.NamesDistinct) (h : v.Reordered w) (hapart : TablesApart v s) :
    (∀ bytes, v.save charset s = .ok bytes ↔ w.save charset s = .ok bytes) ∧
      ∀ n, v.savedSize charset s = .ok n ↔ w.savedSize charset s = .ok n := by
  obtain ⟨hsize, hbytes⟩ := @saved_of_reordered charset v w s hs h hapart
  obtain ⟨hsize', hbytes'⟩ := @saved_of_reordered charset w v s hs h.symm (hapart.reordered h)
  exact ⟨fun bytes => ⟨hbytes bytes, hbytes' bytes⟩, fun n => ⟨hsize n, hsize' n⟩⟩

/-- Two learned skills, the second one given first and the keys of the other swapped. -/
theorem save_reordered_learning :
    let s : Schema := ⟨Document.learning⟩
    let v : Value := .object [("1", .object [("level", .int 5), ("skill_id", .int 7)]),
      ("2", .object [("level", .int 3)])]
    let w : Value := .object [("2", .object [("level", .int 3)]),
      ("1", .object [("skill_id", .int 7), ("level", .int 5)])]
    s.NamesDistinct ∧ v.Reordered w ∧ TablesApart v s ∧
      w.save .shiftJis s = .ok [2, 1, 1, 1, 5, 2, 1, 7, 0, 2, 1, 1, 3, 0] ∧ w.savedSize .shiftJis s = .ok 14 := by
  intro s v w
  have hs : s.NamesDistinct :=
    (Schema.consistent_of_check (show s.checkWithin 2 from by decide +kernel)).1.namesDistinct
  have hint : ∀ n, Reordered (.int n) (.int n) := fun n => .scalar rfl
  have hfirst : Reordered (.object [("level", .int 5), ("skill_id", .int 7)])
      (.object [("skill_id", .int 7), ("level", .int 5)]) :=
    .object (by decide) (.swap _ _ _) rfl (.cons (hint 7) (.cons (hint 5) .nil))
  have hsecond : Reordered (.object [("level", .int 3)]) (.object [("level", .int 3)]) :=
    .object (by decide) (.refl _) rfl (.cons (hint 3) .nil)
  have hvw : v.Reordered w := .object (by decide) (.swap _ _ _) rfl (.cons hsecond (.cons hfirst .nil))
  have hapart : TablesApart v s := by
    intro x u d hx hd
    cases hx with
    | self =>
      show List.Nodup _
      decide +kernel
    | @within _ _ _ _ _ e he hu hx =>
      -- the entries of the rows are numbers
      have hnumbers : v.tableRows.all (fun r => (r.2.keptEntries s).all fun e => e.value.asObject.isNone) := by
        decide +kernel
      have hnone : e.value.asObject = none := by
        rcases he with ⟨d, hd, _⟩ | ⟨d, hd, r, hr, he⟩
        · cases hd
        · obtain rfl : s = d := Except.ok.inj hd
          exact Option.isNone_iff_eq_none.1 (List.all_eq_true.1 (List.all_eq_true.1 hnumbers r hr) e he)
      rw [(hx.eq_of_not_object hnone).1, RowsApart, hnone]
      exact List.nodup_nil
  have hsave : v.save .shiftJis s = .ok [2, 1, 1, 1, 5, 2, 1, 7, 0, 2, 1, 1, 3, 0] := by rfl
  have hsize : v.savedSize .shiftJis s = .ok 14 := savedSize_of_save hsave
  obtain ⟨hbytes, hsizes⟩ := save_reordered .shiftJis hs hvw hapart
  exact ⟨hs, hvw, hapart, (hbytes _).1 hsave, (hsizes _).1 hsize⟩

end Value

end ChunkTree
