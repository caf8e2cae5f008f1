import ChunkTree.Proofs.Failures

/-!
# Where a size mismatch may come from

A size mismatch is reported in one place only, where a chunk is written.  So no plain error is one
(`Save.noMismatch_of_isPlain`), and working out sizes fails for other reasons (`Value.noMismatch_savedSize`).
-/

namespace ChunkTree

open Text (Charset)

/-- Whether an error says that a field took another number of bytes than was computed for it. -/
def Error.isSizeMismatch : Error → Bool
  | sizeMismatch .. => true
  | _ => false

namespace Save

/-- A computation that does not fail with a size mismatch. -/
def NoMismatch {α : Type} (x : Except Error α) : Prop :=
  ∀ e, x = .error e → e.isSizeMismatch = false

theorem noMismatch_of_isPlain : ∀ e : Error, e.isPlain → e.isSizeMismatch = false := by
  intro e h
  cases e with
  | sizeMismatch => cases h
  | _ => rfl

theorem noMismatch_encode (charset : Charset) (text : String) :
    NoMismatch (StoredText.encode charset text) := by
  unfold StoredText.encode
  split
  · exact FailsOnly.ok _
  · exact FailsOnly.error rfl

end Save

/-- Working out a size does not fail with a size mismatch. -/
theorem Value.noMismatch_savedSize (charset : Charset) (v : Value) (schema : Schema) :
    Save.NoMismatch (v.savedSize charset schema) := by
  induction hn : v.depth using Nat.strong_induction_on generalizing v schema with
  | _ n ih =>
    subst hn
    have hplain := Save.noMismatch_of_isPlain
    have hsize : ∀ x s, x.depth < v.depth → Save.NoMismatch (savedSize charset x s) :=
      fun x s hx => ih x.depth hx x s rfl
    rw [savedSize_eq]
    refine (Save.failsOnly_resolve hplain schema).bind fun ⟨kind, _⟩ _ => ?_
    cases kind with
    | record =>
      refine (Save.failsOnly_actual hplain schema _).bind fun d _ => ?_
      exact Save.failsOnly_recordSize hplain (.of_depth hsize (le_refl _))
    | table =>
      refine (Save.failsOnly_actual hplain schema _).bind fun d _ => ?_
      exact Save.failsOnly_tableSize hplain fun rows hrows r hr =>
        .of_depth hsize (Save.depth_of_mem_rowsOf hrows hr).le
    | _ => exact Save.failsOnly_contentSize hplain fun _ _ t _ => Save.noMismatch_encode charset t

end ChunkTree
