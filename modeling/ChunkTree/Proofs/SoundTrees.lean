import Mathlib.Data.List.Nodup
import ChunkTree.Proofs.Paths

/-!
# Trees that a disk could hold

In a tree that a disk could hold (`FileTree.Sound`) what is above a file or a folder is a folder
(`FileTree.Sound.hasFolder_of_prefix`), and every file below a folder is read by the path that goes on to it
(`FileTree.Sound.read_joinPath`).  Folders are made where no file is in the way (`FileTree.makeFolders_ok`), and a new
file is added behind all others (`FileTree.write_new`).  Every tree that holds some files is sound
(`FileTree.sound_ofFiles`).
-/

namespace ChunkTree

namespace FileTree

variable {t t' : FileTree} {p q r names : List String} {path name : String} {bytes : List UInt8}

/-! ## Following steps -/

theorem follow_of_way (h : ∀ r ∈ way p names, t.hasFolder r) : t.follow p names = .ok (walk p names) := by
  induction names generalizing p with
  | nil => rfl
  | cons name names ih =>
    exact follow_cons_eq_ok.2 ⟨h p (start_mem_way _ _), ih fun r hr => h r (mem_way_cons.2 (.inr hr))⟩

theorem walk_of_follow (h : t.follow p names = .ok q) : q = walk p names := by
  induction names generalizing p with
  | nil => exact (Except.ok.inj h).symm
  | cons name names ih => exact ih (follow_cons_eq_ok.1 h).2

theorem follow_append (h : t.follow p names = .ok q) (more : List String) :
    t.follow p (names ++ more) = t.follow q more := by
  induction names generalizing p with
  | nil => rw [← Except.ok.inj h, List.nil_append]
  | cons name names ih =>
    obtain ⟨hp, h⟩ := follow_cons_eq_ok.1 h
    rw [List.cons_append, follow, if_pos hp, ih h]

/-! ## Trees that a disk could hold -/

/-- Whether a tree could be on a disk: files are at different places, none of them that of a folder, files and folders
are in folders, and the steps to them are names. -/
structure Sound (t : FileTree) : Prop where
  nodup : (t.files.map Prod.fst).Nodup
  not_folder : ∀ f ∈ t.files, t.hasFolder f.1 = false
  file_in : ∀ f ∈ t.files, t.hasFolder f.1.dropLast
  folder_in : ∀ p ∈ t.folders, t.hasFolder p.dropLast
  isName : ∀ f ∈ t.files, ∀ name ∈ f.1, IsName name
  folder_isName : ∀ p ∈ t.folders, ∀ name ∈ p, IsName name

theorem hasFolder_nil (t : FileTree) : t.hasFolder [] :=
  rfl

theorem mem_folders_of_hasFolder (h : t.hasFolder (p ++ [name])) : p ++ [name] ∈ t.folders := by
  simpa [hasFolder] using h

theorem Sound.hasFolder_of_prefix (ht : t.Sound) (hq : t.hasFolder q) (h : p <+: q) : t.hasFolder p := by
  induction q using List.reverseRecOn with
  | nil =>
    rw [List.prefix_nil.1 h]
    exact hasFolder_nil t
  | append_singleton q name ih =>
    rcases List.prefix_concat_iff.1 h with rfl | h
    · exact hq
    · have hparent := ht.folder_in _ (mem_folders_of_hasFolder hq)
      rw [List.dropLast_concat] at hparent
      exact ih hparent h

/-- The places on the way to a file are folders. -/
theorem Sound.hasFolder_above (ht : t.Sound) (hfile : (q, bytes) ∈ t.files) (h : p <+: q) (hne : p ≠ q) :
    t.hasFolder p := by
  rcases List.eq_nil_or_concat q with rfl | ⟨q', name, rfl⟩
  · exact absurd (List.prefix_nil.1 h) hne
  · have hparent := ht.file_in _ hfile
    rw [List.concat_eq_append] at *
    rw [List.dropLast_concat] at hparent
    exact ht.hasFolder_of_prefix hparent ((List.prefix_concat_iff.1 h).resolve_left hne)

theorem file?_of_mem (hnodup : (t.files.map Prod.fst).Nodup) (h : (p, bytes) ∈ t.files) : t.file? p = some bytes := by
  rw [file?]
  generalize t.files = files at *
  induction files with
  | nil => cases h
  | cons f files ih =>
    obtain ⟨hnew, hnodup⟩ := List.nodup_cons.1 hnodup
    rcases List.mem_cons.1 h with rfl | h
    · exact List.lookup_cons_self
    · have hne : p ≠ f.1 := fun heq => hnew (heq ▸ List.mem_map_of_mem h)
      rw [List.lookup_cons, beq_false_of_ne hne]
      exact ih hnodup h

theorem file?_eq_none : t.file? p = none ↔ p ∉ t.files.map Prod.fst := by
  rw [file?]
  generalize t.files = files
  induction files with
  | nil => simp
  | cons f files ih =>
    rw [List.lookup_cons]
    by_cases h : p = f.1
    · simp [h]
    · simp [beq_false_of_ne h, h, ih]

/-- Files are read where the path goes on to them from a folder. -/
theorem Sound.read_joinPath (ht : t.Sound) (hfollow : t.follow [] (steps path) = .ok p) (hfolder : t.hasFolder p)
    (h : (p ++ names, bytes) ∈ t.files) : t.read (joinPath path names) = .ok bytes := by
  have hnames : ∀ name ∈ names, IsName name := fun name hname =>
    ht.isName _ h name (List.mem_append_right _ hname)
  rcases List.eq_nil_or_concat names with rfl | ⟨front, last, rfl⟩
  · rw [List.append_nil] at h
    exact absurd hfolder (Bool.eq_false_iff.1 (ht.not_folder _ h))
  rw [List.concat_eq_append] at *
  have hfront : ∀ name ∈ front, IsName name := fun name hname => hnames name (List.mem_append_left _ hname)
  have hlast := hnames last (by simp)
  have habove : ∀ r ∈ way p front, t.hasFolder r := by
    intro r hr
    obtain ⟨_, hle⟩ := (mem_way_names hfront).1 hr
    refine ht.hasFolder_above h (hle.trans ?_) fun heq => ?_
    · rw [← List.append_assoc]
      exact List.prefix_append _ _
    · have := hle.length_le
      simp [heq] at this
  have hplace : t.follow [] (steps (joinPath path (front ++ [last]))) = .ok (p ++ (front ++ [last])) := by
    have hparent := follow_of_way habove
    rw [walk_names hfront] at hparent
    rw [steps_joinPath hnames, follow_append hfollow,
      follow_append_singleton hparent (habove _ (walk_names hfront p ▸ walk_mem_way p front)), hlast.step,
      List.append_assoc]
  have hopen : endsOpen (joinPath path (front ++ [last])) = false := by
    obtain ⟨x, hx⟩ := exists_joinPath_eq path front last
    rw [hx]
    exact not_endsOpen_append hlast.1 hlast.2.2.2 x
  refine bind_eq_ok.2 ⟨_, hplace, ?_⟩
  rw [file?_of_mem ht.nodup h]
  simp only [hopen]
  rfl

/-- The files below a folder are those whose places start with that of the folder. -/
theorem mem_filesBelow (hfollow : t.follow [] (steps path) = .ok p) (hfolder : t.hasFolder p) :
    names ∈ t.filesBelow path ↔ ∃ bytes, (p ++ names, bytes) ∈ t.files := by
  rw [filesBelow, hfollow]
  simp only [hfolder, not_true_eq_false, and_false, if_false, List.mem_filterMap, below?]
  constructor
  · rintro ⟨⟨q, bytes⟩, hmem, h⟩
    split at h
    · rename_i hbelow
      obtain ⟨more, rfl⟩ := List.isPrefixOf_iff_prefix.1 hbelow
      rw [List.drop_left] at h
      obtain rfl := Option.some.inj h
      exact ⟨bytes, hmem⟩
    · cases h
  · rintro ⟨bytes, hmem⟩
    exact ⟨_, hmem, by simp⟩

theorem Sound.nodup_filesBelow (ht : t.Sound) (path : String) : (t.filesBelow path).Nodup := by
  unfold filesBelow
  split
  · exact List.nodup_nil
  · split
    · exact List.nodup_nil
    · have hmap : ∀ p : List String, t.files.filterMap (fun entry => below? p entry.1) =
          (t.files.map Prod.fst).filterMap (below? p) := fun p => by rw [List.filterMap_map]; rfl
      rw [hmap]
      refine ht.nodup.filterMap fun a a' names ha ha' => ?_
      simp only [below?, Option.mem_def, Option.ite_none_right_eq_some, List.isPrefixOf_iff_prefix,
        Option.some.injEq] at ha ha'
      obtain ⟨⟨more, rfl⟩, rfl⟩ := ha
      obtain ⟨⟨more', rfl⟩, h⟩ := ha'
      rw [List.drop_left, List.drop_left] at h
      rw [h]

/-! ## Making folders and writing files -/

theorem hasFolder_append (t : FileTree) : FileTree.hasFolder ⟨t.files, t.folders ++ [q]⟩ r ↔ t.hasFolder r ∨ r = q := by
  simp [hasFolder, or_assoc]

theorem makeSteps_ok (h : ∀ r ∈ way p names, r ∉ t.files.map Prod.fst) (hp : t.hasFolder p) :
    ∃ t', makeSteps p names t = .ok t' ∧ t'.files = t.files ∧
      ∀ r, t'.hasFolder r ↔ t.hasFolder r ∨ r ∈ way p names := by
  induction names generalizing p t with
  | nil =>
    refine ⟨t, rfl, rfl, fun r => ?_⟩
    rw [mem_way_nil]
    exact ⟨.inl, fun h => h.elim id fun h => h ▸ hp⟩
  | cons name names ih =>
    have hnext : ∀ r ∈ way (step p name) names, r ∉ t.files.map Prod.fst := fun r hr => h r (mem_way_cons.2 (.inr hr))
    have hfile : (t.file? (step p name)).isSome = false := by
      rw [file?_eq_none.2 (hnext _ (start_mem_way _ _))]
      rfl
    rw [makeSteps]
    by_cases hstep : t.hasFolder (step p name)
    · obtain ⟨t', ht', hfiles, hfolders⟩ := ih hnext hstep
      refine ⟨t', by simpa [hstep] using ht', hfiles, fun r => ?_⟩
      rw [hfolders, mem_way_cons]
      refine ⟨fun h => h.imp_right .inr, ?_⟩
      rintro (h | rfl | h)
      · exact .inl h
      · exact .inl hp
      · exact .inr h
    · obtain ⟨t', ht', hfiles, hfolders⟩ := ih (t := ⟨t.files, t.folders ++ [step p name]⟩) hnext
        ((hasFolder_append t).2 (.inr rfl))
      refine ⟨t', by simpa [hstep, hfile] using ht', hfiles, fun r => ?_⟩
      rw [hfolders, hasFolder_append, mem_way_cons]
      constructor
      · rintro ((h | rfl) | h)
        · exact .inl h
        · exact .inr (.inr (start_mem_way _ _))
        · exact .inr (.inr h)
      · rintro (h | rfl | h)
        · exact .inl (.inl h)
        · exact .inl (.inl hp)
        · exact .inr h

/-- Folders can be made where no file is in the way. -/
theorem makeFolders_ok (path : String) (h : ∀ r ∈ way [] (steps path), r ∉ t.files.map Prod.fst) :
    ∃ t', t.makeFolders path = .ok t' ∧ t'.files = t.files ∧
      ∀ r, t'.hasFolder r ↔ t.hasFolder r ∨ r ∈ way [] (steps path) :=
  makeSteps_ok h (hasFolder_nil t)

theorem read_eq_ok : t.read path = .ok bytes ↔
    ∃ p, t.follow [] (steps path) = .ok p ∧ t.file? p = some bytes ∧ endsOpen path = false := by
  rw [read, bind_eq_ok]
  refine exists_congr fun p => and_congr_right fun _ => ?_
  cases t.file? p with
  | none => exact iff_of_false nofun nofun
  | some b => cases endsOpen path <;> simp [pure, Except.pure, throw, throwThe, MonadExceptOf.throw]

theorem put_new {files : List (List String × List UInt8)} (h : p ∉ files.map Prod.fst) :
    put p bytes files = files ++ [(p, bytes)] := by
  induction files with
  | nil => rfl
  | cons f files ih =>
    obtain ⟨hne, hnew⟩ := not_or.1 (mt List.mem_cons.2 h)
    rw [put, if_neg (Ne.symm hne), ih hnew, List.cons_append]

/-- A new file in a folder is added at the end. -/
theorem write_new (hsteps : steps path = names ++ [name]) (hname : IsName name) (hopen : endsOpen path = false)
    (hway : ∀ r ∈ way [] names, t.hasFolder r) (hfolder : t.hasFolder (place path) = false)
    (hfile : place path ∉ t.files.map Prod.fst) :
    t.write path bytes = .ok ⟨t.files ++ [(place path, bytes)], t.folders⟩ := by
  have hplace : step (walk [] names) name = place path := by
    rw [place, hsteps, walk_append]
    rfl
  refine write_eq_ok.2 ⟨walk [] names, name, ?_, ?_, hway _ (walk_mem_way _ _), ?_, ?_⟩
  · rw [hsteps, List.dropLast_concat]
    exact follow_of_way hway
  · rw [hsteps, List.getLast?_concat]
  · rw [hplace, hopen, hfolder]
    simp [hname.2.1, hname.2.2.1]
  · rw [hplace, put_new hfile]

/-! ## Trees that come about -/

/-- Steps are not empty and have no separator in them. -/
theorem mem_steps (h : name ∈ steps path) : name ≠ "" ∧ '/' ∉ name.toList := by
  have hsplit : ∀ cs : List Char, ∀ part ∈ cs.splitOnP (· == '/'), '/' ∉ part := by
    intro cs
    induction cs with
    | nil => simp
    | cons c cs ih =>
      rw [List.splitOnP_cons_eq_if_modifyHead]
      split
      · simpa using ih
      · rename_i hc
        cases hparts : cs.splitOnP (· == '/') with
        | nil => simp
        | cons part parts =>
          rw [hparts] at ih
          obtain ⟨hpart, hparts⟩ := List.forall_mem_cons.1 ih
          refine List.forall_mem_cons.2 ⟨?_, hparts⟩
          rw [List.mem_cons, not_or]
          exact ⟨fun heq => hc (by rw [← heq]; rfl), hpart⟩
  rw [steps_eq, List.mem_filter, List.mem_map] at h
  obtain ⟨⟨part, hpart, rfl⟩, hne⟩ := h
  exact ⟨by simpa using hne, by simpa using hsplit _ part hpart⟩

/-- A step stays, leads back or leads to a name. -/
theorem step_cases (h : name ≠ "" ∧ '/' ∉ name.toList) (p : List String) :
    step p name = p ∨ step p name = p.dropLast ∨ IsName name ∧ step p name = p ++ [name] := by
  by_cases hstay : name = "."
  · exact .inl (if_pos hstay)
  by_cases hback : name = ".."
  · exact .inr (.inl (by rw [step, if_neg hstay, if_pos hback]))
  have hname : IsName name := ⟨h.1, hstay, hback, h.2⟩
  exact .inr (.inr ⟨hname, hname.step p⟩)

theorem Sound.isName_of_hasFolder (ht : t.Sound) (h : t.hasFolder p) : ∀ name ∈ p, IsName name := by
  rcases List.eq_nil_or_concat p with rfl | ⟨q, name, rfl⟩
  · simp
  · rw [List.concat_eq_append] at *
    exact ht.folder_isName _ (mem_folders_of_hasFolder h)

theorem Sound.isName_append (ht : t.Sound) (hp : t.hasFolder p) (hname : IsName name) :
    ∀ n ∈ p ++ [name], IsName n := by
  intro n hn
  rcases List.mem_append.1 hn with hn | hn
  · exact ht.isName_of_hasFolder hp n hn
  · exact List.mem_singleton.1 hn ▸ hname

/-- A folder is made in a folder, under a name that no file has. -/
theorem Sound.append_folder (ht : t.Sound) (hp : t.hasFolder p) (hname : IsName name)
    (hfile : p ++ [name] ∉ t.files.map Prod.fst) : Sound ⟨t.files, t.folders ++ [p ++ [name]]⟩ where
  nodup := ht.nodup
  not_folder f hf := by
    refine Bool.eq_false_iff.2 fun h => ?_
    rcases (hasFolder_append t).1 h with h | h
    · exact Bool.eq_false_iff.1 (ht.not_folder f hf) h
    · exact hfile (h ▸ List.mem_map_of_mem hf)
  file_in f hf := (hasFolder_append t).2 (.inl (ht.file_in f hf))
  folder_in q hq := by
    refine (hasFolder_append t).2 (.inl ?_)
    rcases List.mem_append.1 hq with hq | hq
    · exact ht.folder_in q hq
    · rw [List.mem_singleton.1 hq, List.dropLast_concat]
      exact hp
  isName := ht.isName
  folder_isName q hq := by
    rcases List.mem_append.1 hq with hq | hq
    · exact ht.folder_isName q hq
    · rw [List.mem_singleton.1 hq]
      exact ht.isName_append hp hname

theorem mem_put {f : List String × List UInt8} {files : List (List String × List UInt8)} (h : f ∈ put p bytes files) :
    f ∈ files ∨ f = (p, bytes) := by
  induction files with
  | nil => exact .inr (List.mem_singleton.1 h)
  | cons g files ih =>
    rw [put] at h
    split at h
    · rename_i heq
      rcases List.mem_cons.1 h with rfl | h
      · exact .inr (by rw [heq])
      · exact .inl (List.mem_cons_of_mem g h)
    · rcases List.mem_cons.1 h with rfl | h
      · exact .inl List.mem_cons_self
      · exact (ih h).imp_left (List.mem_cons_of_mem g)

theorem nodup_put {files : List (List String × List UInt8)} (h : (files.map Prod.fst).Nodup) :
    ((put p bytes files).map Prod.fst).Nodup := by
  induction files with
  | nil => exact List.nodup_singleton p
  | cons g files ih =>
    obtain ⟨hnew, hnodup⟩ := List.nodup_cons.1 h
    rw [put]
    split
    · exact h
    · rename_i hne
      refine List.nodup_cons.2 ⟨fun hmem => ?_, ih hnodup⟩
      obtain ⟨f, hf, heq⟩ := List.mem_map.1 hmem
      rcases mem_put hf with hf | rfl
      · exact hnew (heq ▸ List.mem_map_of_mem hf)
      · exact hne heq.symm

/-- A file is put into a folder, under a name that no folder has. -/
theorem Sound.put_file (ht : t.Sound) (hp : t.hasFolder p) (hname : IsName name)
    (hfolder : t.hasFolder (p ++ [name]) = false) : Sound ⟨put (p ++ [name]) bytes t.files, t.folders⟩ where
  nodup := nodup_put ht.nodup
  not_folder f hf := (mem_put hf).elim (ht.not_folder f) fun h => h ▸ hfolder
  file_in f hf := by
    rcases mem_put hf with hf | rfl
    · exact ht.file_in f hf
    · rw [List.dropLast_concat]
      exact hp
  folder_in := ht.folder_in
  isName f hf := (mem_put hf).elim (ht.isName f) fun h => h ▸ ht.isName_append hp hname
  folder_isName := ht.folder_isName

theorem Sound.makeSteps (ht : t.Sound) (hp : t.hasFolder p) (hnames : ∀ n ∈ names, n ≠ "" ∧ '/' ∉ n.toList)
    (h : makeSteps p names t = .ok t') : t'.Sound := by
  induction names generalizing p t with
  | nil => exact Except.ok.inj h ▸ ht
  | cons name names ih =>
    obtain ⟨hname, hnames⟩ := List.forall_mem_cons.1 hnames
    rw [FileTree.makeSteps] at h
    by_cases hstep : t.hasFolder (step p name)
    · simp only [hstep, if_true] at h
      exact ih ht hstep hnames h
    by_cases hfile : (t.file? (step p name)).isSome
    · simp [hstep, hfile] at h
    simp only [hstep, hfile] at h
    rcases step_cases hname p with heq | heq | ⟨hisName, heq⟩
    · exact absurd hp (heq ▸ hstep)
    · exact absurd (ht.hasFolder_of_prefix hp (List.dropLast_prefix p)) (heq ▸ hstep)
    · refine ih ?_ ((hasFolder_append t).2 (.inr rfl)) hnames h
      rw [Bool.not_eq_true, Option.isSome_eq_false_iff, Option.isNone_iff_eq_none, file?_eq_none] at hfile
      exact heq ▸ ht.append_folder hp hisName (heq ▸ hfile)

theorem Sound.write (ht : t.Sound) (h : t.write path bytes = .ok t') : t'.Sound := by
  obtain ⟨folder, name, _, hlast, hfolder, hplace, rfl⟩ := write_eq_ok.1 h
  simp only [not_or] at hplace
  obtain ⟨_, hdot, hdots, hnew⟩ := hplace
  obtain ⟨hne, hslash⟩ := mem_steps (List.mem_of_getLast? hlast)
  have hname : IsName name := ⟨hne, hdot, hdots, hslash⟩
  rw [hname.step] at hnew ⊢
  exact ht.put_file hfolder hname (Bool.eq_false_iff.2 hnew)

theorem Sound.add (ht : t.Sound) (path : String) (bytes : List UInt8) : (t.add path bytes).Sound := by
  rw [FileTree.add]
  cases hmake : FileTree.makeSteps [] (steps path).dropLast t with
  | error fault => exact ht
  | ok t₁ =>
    have ht₁ := ht.makeSteps (hasFolder_nil t) (fun n hn => mem_steps (List.dropLast_subset _ hn)) hmake
    cases hwrite : t₁.write path bytes with
    | error fault => simpa only [hwrite] using ht₁
    | ok t₂ => simpa only [hwrite] using ht₁.write hwrite

/-- Every tree that holds some files could be on a disk. -/
theorem sound_ofFiles (files : List (String × List UInt8)) : (ofFiles files).Sound := by
  have hfold : ∀ t : FileTree, t.Sound → (files.foldl (fun t entry => t.add entry.1 entry.2) t).Sound := by
    induction files with
    | nil => exact fun _ ht => ht
    | cons entry files ih => exact fun t ht => ih _ (ht.add entry.1 entry.2)
  exact hfold empty (by constructor <;> simp [empty])

end FileTree

end ChunkTree
