import ChunkTree.Proofs.SoundTrees

/-!
# Folders of texts

A path may name a folder that is missing but can be made (`FileTree.Absent`).  Texts that are stored there one after
the other, each in folders that are made for it, only add to the tree (`Tool.Grown`): nothing stands in the way of the
next one (`Tool.Grown.store`) as long as no text has to be stored where another one needs a folder (`Tool.Together`),
and each is read where it was stored (`Tool.Grown.read_targetPath`).
-/

namespace ChunkTree

namespace FileTree

variable {t : FileTree} {p q names : List String} {path name : String}

/-! ## Folders that are missing -/

/-- Whether a path names a folder that is missing but can be made: no step of it leads to a file. -/
structure Absent (t : FileTree) (path : String) : Prop where
  missing : t.hasFolder (place path) = false
  no_file : ∀ r ∈ way [] (steps path), r ∉ t.files.map Prod.fst

theorem hasFolder_of_follow (h : t.follow p names = .ok q) (hq : t.hasFolder q) : ∀ r ∈ way p names, t.hasFolder r := by
  induction names generalizing p with
  | nil =>
    intro r hr
    rw [mem_way_nil.1 hr, Except.ok.inj h]
    exact hq
  | cons name names ih =>
    obtain ⟨hp, h⟩ := follow_cons_eq_ok.1 h
    intro r hr
    rcases mem_way_cons.1 hr with rfl | hr
    · exact hp
    · exact ih h r hr

/-- Names that go on from a folder to where nothing is name a folder that can be made. -/
theorem Sound.absent (ht : t.Sound) {before : List String} (hsteps : steps path = before ++ name :: names)
    (hnames : ∀ n ∈ name :: names, IsName n) (hfollow : t.follow [] before = .ok p) (hfolder : t.hasFolder p)
    (hmissing : t.hasFolder (p ++ [name]) = false) (hfile : p ++ [name] ∉ t.files.map Prod.fst) : t.Absent path := by
  have hp := walk_of_follow hfollow
  have hplace : place path = p ++ name :: names := by
    rw [place, hsteps, walk_append, ← hp, walk_names hnames]
  have hfirst : p ++ [name] <+: place path := by
    rw [hplace, List.prefix_append_right_inj]
    exact List.prefix_append [name] names
  have hplaceFree : t.hasFolder (place path) = false :=
    Bool.eq_false_iff.2 fun h => Bool.eq_false_iff.1 hmissing (ht.hasFolder_of_prefix h hfirst)
  refine ⟨hplaceFree, fun r hr hmem => ?_⟩
  rw [hsteps, mem_way_append, ← hp, mem_way_names hnames] at hr
  rcases hr with hr | ⟨hpr, hr⟩
  · have hr := hasFolder_of_follow hfollow hfolder r hr
    obtain ⟨f, hf, rfl⟩ := List.mem_map.1 hmem
    exact Bool.eq_false_iff.1 (ht.not_folder f hf) hr
  · obtain ⟨f, hf, rfl⟩ := List.mem_map.1 hmem
    obtain ⟨more, hmore⟩ := hpr
    rw [← hmore, List.prefix_append_right_inj] at hr
    cases more with
    | nil =>
      rw [List.append_nil] at hmore
      exact Bool.eq_false_iff.1 (ht.not_folder f hf) (hmore ▸ hfolder)
    | cons n more =>
      obtain ⟨rfl, -⟩ := List.cons_prefix_cons.1 hr
      by_cases hlast : p ++ [n] = f.1
      · exact hfile (hlast ▸ List.mem_map_of_mem hf)
      · refine Bool.eq_false_iff.1 hmissing (ht.hasFolder_above hf ?_ hlast)
        rw [← hmore, List.prefix_append_right_inj]
        exact List.prefix_append [n] more

/-- Nothing is where a missing folder would be, or below. -/
theorem Absent.nothing_below (h : t.Absent path) (ht : t.Sound) (hle : place path <+: q) :
    t.hasFolder q = false ∧ q ∉ t.files.map Prod.fst := by
  have hfolder : ∀ r, t.hasFolder r → ¬place path <+: r := fun r hr hle =>
    Bool.eq_false_iff.1 h.missing (ht.hasFolder_of_prefix hr hle)
  refine ⟨Bool.eq_false_iff.2 fun hq => hfolder q hq hle, fun hmem => ?_⟩
  obtain ⟨f, hf, rfl⟩ := List.mem_map.1 hmem
  by_cases heq : place path = f.1
  · exact h.no_file (place path) (walk_mem_way _ _) (heq ▸ hmem)
  · exact hfolder _ (ht.hasFolder_above hf hle heq) List.prefix_rfl

end FileTree

namespace Tool

open FileTree

variable {tree t : FileTree} {output : String} {done : List (List String × List UInt8)} {found : List (List String)}
  {names : List String} {bytes : List UInt8}

/-! ## Storing texts -/

theorem textNames_inj {a b : List String} (ha : a ≠ []) (hb : b ≠ []) (h : textNames a = textNames b) : a = b := by
  obtain ⟨hfront, hlast⟩ := List.append_inj' h rfl
  have hlast := (String.append_left_inj _).1 (List.singleton_inj.1 hlast)
  rw [List.getLastD_eq_getLast?, List.getLastD_eq_getLast?, List.getLast?_eq_some_getLast ha,
    List.getLast?_eq_some_getLast hb, Option.getD_some, Option.getD_some] at hlast
  rw [← List.dropLast_append_getLast ha, ← List.dropLast_append_getLast hb, hfront, hlast]

/-- A tree to which texts were added, with the folders on the way to them. -/
structure Grown (tree : FileTree) (output : String) (done : List (List String × List UInt8)) (t : FileTree) :
    Prop where
  files_eq : t.files = tree.files ++ done.map fun d => (place (targetPath output d.1), d.2)
  folder_iff : ∀ p, t.hasFolder p ↔ tree.hasFolder p ∨ ∃ d ∈ done, p ∈ way [] (steps (targetFolder output d.1))

/-- Whether the texts for files can all be stored: none belongs in a place on the way to the folder of another one. -/
structure Together (output : String) (found : List (List String)) : Prop where
  ne_nil : ∀ names ∈ found, names ≠ []
  isName : ∀ names ∈ found, ∀ name ∈ names, IsName name
  apart : ∀ a ∈ found, ∀ b ∈ found, place (targetPath output a) ∉ way [] (steps (targetFolder output b))

/-- Different files have their texts in different places. -/
theorem Together.inj (h : Together output found) {a b : List String} (ha : a ∈ found) (hb : b ∈ found)
    (heq : place (targetPath output a) = place (targetPath output b)) : a = b := by
  rw [place_targetPath (h.isName a ha), place_targetPath (h.isName b hb)] at heq
  exact textNames_inj (h.ne_nil a ha) (h.ne_nil b hb) (List.append_cancel_left heq)

theorem Grown.nil (tree : FileTree) (output : String) : Grown tree output [] tree where
  files_eq := (List.append_nil _).symm
  folder_iff _ := ⟨.inl, fun h => h.elim id fun ⟨_, hd, _⟩ => absurd hd List.not_mem_nil⟩

theorem Grown.mem_files (h : Grown tree output done t) {r : List String} : r ∈ t.files.map Prod.fst ↔
    r ∈ tree.files.map Prod.fst ∨ ∃ d ∈ done, place (targetPath output d.1) = r := by
  rw [h.files_eq, List.map_append, List.map_map, List.mem_append]
  exact or_congr_right List.mem_map

/-- Files of the tree are read as before. -/
theorem Grown.read_of_read {path : String} (h : Grown tree output done t) (hread : tree.read path = .ok bytes) :
    t.read path = .ok bytes := by
  obtain ⟨p, hfollow, hfile, hopen⟩ := read_eq_ok.1 hread
  refine read_eq_ok.2 ⟨p, follow_mono (fun r hr => (h.folder_iff r).2 (.inl hr)) hfollow, ?_, hopen⟩
  rw [file?] at hfile
  rw [file?, h.files_eq, List.lookup_append, hfile]
  rfl

/-- Below a folder that is not around the output, the files stay as they are. -/
theorem Grown.filesBelow_eq {path : String} {folder : List String} (h : Grown tree output done t) (htree : tree.Sound)
    (habsent : tree.Absent output) (hdone : ∀ d ∈ done, ∀ name ∈ d.1, IsName name)
    (hfollow : tree.follow [] (steps path) = .ok folder) (hfolder : tree.hasFolder folder)
    (houtside : ¬folder <+: place output) : t.filesBelow path = tree.filesBelow path := by
  have hfolders : ∀ r, tree.hasFolder r → t.hasFolder r := fun r hr => (h.folder_iff r).2 (.inl hr)
  rw [filesBelow, filesBelow, follow_mono hfolders hfollow, hfollow]
  simp only [hfolder, hfolders folder hfolder, not_true_eq_false, and_false, if_false]
  have hnone : (done.map fun d => (place (targetPath output d.1), d.2)).filterMap (below? folder ·.1) = [] := by
    refine List.filterMap_eq_nil_iff.2 fun f hf => ?_
    obtain ⟨d, hd, rfl⟩ := List.mem_map.1 hf
    rw [below?, if_neg]
    rw [List.isPrefixOf_iff_prefix, place_targetPath (hdone d hd)]
    intro hle
    rcases List.prefix_or_prefix_of_prefix hle (List.prefix_append _ _) with hle | hle
    · exact houtside hle
    · exact Bool.eq_false_iff.1 (habsent.nothing_below htree hle).1 hfolder
  rw [h.files_eq, List.filterMap_append, hnone, List.append_nil]

/-- A further text can be stored, and only adds to the tree. -/
theorem Grown.store (hgrown : Grown tree output done t) (htree : tree.Sound) (habsent : tree.Absent output)
    (hfound : Together output found) (hdone : ∀ d ∈ done, d.1 ∈ found) (hnames : names ∈ found)
    (hnew : names ∉ done.map Prod.fst) (bytes : List UInt8) :
    ∃ t₁ t₂, t.makeFolders (targetFolder output names) = .ok t₁ ∧
      t₁.write (targetPath output names) bytes = .ok t₂ ∧ Grown tree output (done ++ [(names, bytes)]) t₂ := by
  have hisName := hfound.isName names hnames
  have htarget := place_targetPath hisName output
  have hsteps := steps_targetPath hisName output
  rw [textNames, ← List.append_assoc] at hsteps
  obtain ⟨hbelow, hnofile⟩ := habsent.nothing_below htree (q := place (targetPath output names)) (by
    rw [htarget]
    exact List.prefix_append _ _)
  -- no file is in the way of the folders, neither one of the tree nor a text
  obtain ⟨t₁, hmake, hfiles, hfolders⟩ := makeFolders_ok (t := t) (targetFolder output names) (by
    intro r hr hmem
    rcases hgrown.mem_files.1 hmem with hmem | ⟨d, hd, rfl⟩
    · rcases (mem_way_targetFolder hisName output).1 hr with hr | hr
      · exact habsent.no_file r hr hmem
      · have hle := ((mem_way_names fun name hname => hisName name (List.dropLast_subset names hname)).1 hr).1
        exact (habsent.nothing_below htree hle).2 hmem
    · exact hfound.apart d.1 (hdone d hd) names hnames hr)
  have hway : ∀ r ∈ way [] (steps output ++ names.dropLast), t₁.hasFolder r := by
    intro r hr
    rw [hfolders, mem_way_targetFolder hisName]
    exact .inr (mem_way_append.1 hr)
  have hfolder : t₁.hasFolder (place (targetPath output names)) = false := by
    refine Bool.eq_false_iff.2 fun h => ?_
    rcases (hfolders _).1 h with h | h
    · rcases (hgrown.folder_iff _).1 h with h | ⟨d, hd, h⟩
      · exact Bool.eq_false_iff.1 hbelow h
      · exact hfound.apart names hnames d.1 (hdone d hd) h
    · exact hfound.apart names hnames names hnames h
  have hfile : place (targetPath output names) ∉ t₁.files.map Prod.fst := by
    rw [hfiles, hgrown.mem_files, not_or]
    refine ⟨hnofile, ?_⟩
    rintro ⟨d, hd, heq⟩
    exact hnew (hfound.inj (hdone d hd) hnames heq ▸ List.mem_map_of_mem hd)
  have hname := isName_textNames hisName (names.getLastD "" ++ ".json") (by simp [textNames])
  refine ⟨t₁, _, hmake, write_new hsteps hname (not_endsOpen_targetPath output names) hway hfolder hfile, ?_, ?_⟩
  · rw [hfiles, hgrown.files_eq, List.map_append, List.append_assoc]
    rfl
  · intro p
    show t₁.hasFolder p ↔ _
    rw [hfolders, hgrown.folder_iff, or_assoc]
    simp [or_and_right, exists_or]

/-- What is read where the text for a file belongs is the text that was stored for it. -/
theorem Grown.read_targetPath (hgrown : Grown tree output done t) (htree : tree.Sound) (habsent : tree.Absent output)
    (hfound : Together output found) (hdone : ∀ d ∈ done, d.1 ∈ found) (hnodup : (done.map Prod.fst).Nodup)
    (hnames : names ∈ found) : t.read (targetPath output names) = .ok bytes ↔ (names, bytes) ∈ done := by
  have hisName := hfound.isName names hnames
  have htarget := place_targetPath hisName output
  -- a text in this place was stored for this file
  have hmem : ∀ bytes, t.file? (place (targetPath output names)) = some bytes → (names, bytes) ∈ done := by
    intro bytes h
    obtain ⟨before, after, hfiles, _⟩ := List.lookup_eq_some_iff.1 h
    have h : (place (targetPath output names), bytes) ∈ t.files := hfiles ▸ by simp
    rw [hgrown.files_eq, List.mem_append] at h
    rcases h with h | h
    · refine absurd (List.mem_map_of_mem h) (habsent.nothing_below htree ?_).2
      rw [htarget]
      exact List.prefix_append _ _
    · obtain ⟨d, hd, heq⟩ := List.mem_map.1 h
      obtain ⟨hplace, rfl⟩ := Prod.mk.inj heq
      exact hfound.inj (hdone d hd) hnames hplace ▸ hd
  constructor
  · intro h
    obtain ⟨p, hfollow, hfile, _⟩ := read_eq_ok.1 h
    obtain rfl := walk_of_follow hfollow
    exact hmem bytes hfile
  · intro hd
    have hfolder : ∀ r ∈ way [] (steps output ++ names.dropLast), t.hasFolder r := by
      intro r hr
      refine (hgrown.folder_iff r).2 (.inr ⟨_, hd, ?_⟩)
      rw [mem_way_targetFolder hisName]
      exact mem_way_append.1 hr
    have hfollow : t.follow [] (steps (targetPath output names)) = .ok (place (targetPath output names)) := by
      rw [place, steps_targetPath hisName, textNames, ← List.append_assoc, walk_append]
      exact follow_append_singleton (follow_of_way hfolder) (hfolder _ (walk_mem_way _ _))
    cases hfile : t.file? (place (targetPath output names)) with
    | none =>
      refine absurd (hgrown.mem_files.2 (.inr ⟨_, hd, rfl⟩)) (file?_eq_none.1 hfile)
    | some bytes' =>
      obtain ⟨-, rfl⟩ := Prod.mk.inj (List.inj_on_of_nodup_map hnodup (hmem bytes' hfile) hd rfl)
      exact read_eq_ok.2 ⟨_, hfollow, hfile, not_endsOpen_targetPath output names⟩

end Tool

end ChunkTree
