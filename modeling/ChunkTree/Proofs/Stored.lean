import ChunkTree.Proofs.Except
import ChunkTree.Tool.FileStore

/-!
# Files in memory

What has been written at a path is read there (`FileTree.read_of_write`), and whether a path can be written
does not depend on the bytes (`FileTree.Writable.write`).
-/

namespace ChunkTree.FileTree

variable {t t' : FileTree} {path : String} {bytes : List UInt8}

/-- Whether a file can be written at a path. -/
def Writable (t : FileTree) (path : String) : Prop :=
  (t.write path []).isOk

instance (t : FileTree) (path : String) : Decidable (t.Writable path) :=
  inferInstanceAs (Decidable ((t.write path []).isOk = true))

theorem lookup_put (place : List String) (bytes : List UInt8) (files : List (List String × List UInt8)) :
    (put place bytes files).lookup place = some bytes := by
  induction files with
  | nil => exact List.lookup_cons_self
  | cons f files ih =>
    obtain ⟨p, b⟩ := f
    rw [put]
    split
    · rename_i heq
      rw [heq]
      exact List.lookup_cons_self
    · rename_i hne
      rw [List.lookup_cons, beq_false_of_ne (Ne.symm hne)]
      exact ih

theorem follow_cons_eq_ok {place place' : List String} {name : String} {names : List String} :
    t.follow place (name :: names) = .ok place' ↔
      t.hasFolder place ∧ t.follow (step place name) names = .ok place' := by
  rw [follow]
  split
  · rename_i h
    exact (and_iff_right h).symm
  · rename_i h
    exact iff_of_false nofun fun h' => h h'.1

/-- The last step leads on from the folder that the others lead to. -/
theorem follow_append_singleton {place folder : List String} {names : List String} {name : String}
    (h : t.follow place names = .ok folder) (hfolder : t.hasFolder folder) :
    t.follow place (names ++ [name]) = .ok (step folder name) := by
  induction names generalizing place with
  | nil =>
    obtain rfl := Except.ok.inj h
    exact follow_cons_eq_ok.2 ⟨hfolder, rfl⟩
  | cons n names ih =>
    obtain ⟨hplace, h⟩ := follow_cons_eq_ok.1 h
    exact follow_cons_eq_ok.2 ⟨hplace, ih h⟩

/-- Only folders are followed, and where there are more of them, more can be followed. -/
theorem follow_mono {place place' : List String} {names : List String}
    (hfolders : ∀ p, t.hasFolder p → t'.hasFolder p) (h : t.follow place names = .ok place') :
    t'.follow place names = .ok place' := by
  induction names generalizing place with
  | nil => exact h
  | cons n names ih =>
    obtain ⟨hplace, h⟩ := follow_cons_eq_ok.1 h
    exact follow_cons_eq_ok.2 ⟨hfolders place hplace, ih h⟩

/-- What it takes to write a file, and what becomes of the tree. -/
theorem write_eq_ok : t.write path bytes = .ok t' ↔
    ∃ folder name, t.follow [] (steps path).dropLast = .ok folder ∧ (steps path).getLast? = some name ∧
      t.hasFolder folder ∧ ¬(endsOpen path ∨ name = "." ∨ name = ".." ∨ t.hasFolder (step folder name)) ∧
      ⟨put (step folder name) bytes t.files, t.folders⟩ = t' := by
  unfold write
  constructor
  · intro h
    obtain ⟨folder, hfollow, h⟩ := bind_eq_ok.1 h
    cases hname : (steps path).getLast? with
    | none =>
      rw [hname] at h
      cases h
    | some name =>
      simp only [hname] at h
      by_cases hfolder : t.hasFolder folder
      · by_cases hplace : endsOpen path ∨ name = "." ∨ name = ".." ∨ t.hasFolder (step folder name)
        · simp only [hfolder, hplace] at h
          cases h
        · rw [hfolder] at h
          simp only [if_neg hplace] at h
          exact ⟨folder, name, hfollow, rfl, hfolder, hplace, Except.ok.inj h⟩
      · simp only [hfolder] at h
        cases h
  · rintro ⟨folder, name, hfollow, hname, hfolder, hplace, rfl⟩
    refine bind_eq_ok.2 ⟨folder, hfollow, ?_⟩
    simp only [hname, hfolder, if_neg hplace]
    rfl

theorem Writable.write (h : t.Writable path) (bytes : List UInt8) : ∃ t', t.write path bytes = .ok t' := by
  obtain ⟨_, h⟩ : ∃ t', t.write path [] = .ok t' := by
    rw [Writable] at h
    cases hwrite : t.write path [] with
    | ok t' => exact ⟨t', rfl⟩
    | error fault =>
      rw [hwrite] at h
      cases h
  obtain ⟨folder, name, hfollow, hname, hfolder, hplace, _⟩ := write_eq_ok.1 h
  exact ⟨_, write_eq_ok.2 ⟨folder, name, hfollow, hname, hfolder, hplace, rfl⟩⟩

theorem read_of_write (h : t.write path bytes = .ok t') : t'.read path = .ok bytes := by
  obtain ⟨folder, name, hfollow, hname, hfolder, hplace, rfl⟩ := write_eq_ok.1 h
  have hsteps : steps path = (steps path).dropLast ++ [name] :=
    (List.dropLast_append_getLast? name hname).symm
  have hread : t.follow [] (steps path) = .ok (step folder name) := by
    rw [hsteps]
    exact follow_append_singleton hfollow hfolder
  have hopen : endsOpen path = false := by
    simpa using fun h => hplace (.inl h)
  refine bind_eq_ok.2 ⟨_, follow_mono (t := t) (fun _ h => h) hread, ?_⟩
  rw [file?, lookup_put]
  simp only [hopen]
  rfl

end ChunkTree.FileTree
