import ChunkTree.Proofs.Folders
import ChunkTree.Proofs.TwoSteps

/-!
# Folders are converted file by file

What becomes of a file below a folder is decided by the file alone (`Tool.textIn`), and the text for it is stored in a
new place, so the files do not depend on each other (`Tool.run_convertEach`).  Converting a folder is turning each of
its files into text, with a line break after each entry (`Tool.Request.convertFolder_as_toJson`).
-/

namespace ChunkTree.Tool

open FileTree
open Text (Charset)

variable {charset : Charset} {tree t t' : FileTree} {input output path : String} {bytes : List UInt8}
  {names : List String} {found files : List (List String)} {done : List (List String × List UInt8)}

/-! ## One file -/

/-- A game file that is opened, or the failure to do so. -/
def openIn (charset : Charset) (path : String) (t : FileTree) : Except Failure GameFile :=
  ((openFile charset path : StateM FileTree (Except Failure GameFile)) t).1

/-- The text for a file, or what becomes of a file without one. -/
def textIn (charset : Charset) (path : String) (t : FileTree) : Except Fate String :=
  match openIn charset path t with
  | .error f => .error (.failed f)
  | .ok file => if file.isValid then (render charset true path file).mapError .failed else .error .skipped

theorem run_openFile_eq (charset : Charset) (path : String) (t : FileTree) :
    (openFile charset path : StateM FileTree (Except Failure GameFile)) t = (openIn charset path t, t) := by
  refine Prod.ext rfl ?_
  unfold openFile
  simp only [bind, StateT.bind, run_read]
  cases t.read path <;> rfl

theorem openIn_of_read (h : t.read path = .ok bytes) : openIn charset path t =
    (GameFile.open? charset bytes).mapError fun e => (Failure.ofError e).during s!"Failed to open {path}" := by
  rw [openIn, run_openFile h]

/-- Files with the same content have the same text. -/
theorem textIn_congr (h : t.read path = .ok bytes) (h' : t'.read path = .ok bytes) :
    textIn charset path t = textIn charset path t' := by
  rw [textIn, textIn, openIn_of_read h, openIn_of_read h']

theorem textIn_eq_skipped (h : t.read path = .ok bytes) : textIn charset path t = .error .skipped ↔
    ∃ f, GameFile.open? charset bytes = .ok f ∧ f.isValid = false := by
  rw [textIn, openIn_of_read h]
  cases GameFile.open? charset bytes with
  | error e => simp [Except.mapError]
  | ok f =>
    cases hvalid : f.isValid with
    | false => simp [Except.mapError, hvalid]
    | true => cases hrender : render charset true path f <;> simp [Except.mapError, hvalid, hrender]

/-- What becomes of a file, the rest of the tree aside. -/
theorem run_convertOne (charset : Charset) (input output : String) (names : List String) (t : FileTree) :
    (convertOne charset input output names : StateM FileTree Fate) t =
      match textIn charset (joinPath input names) t with
      | .error fate => (fate, t)
      | .ok text =>
        match t.makeFolders (targetFolder output names) with
        | .error fault => (.failed ((Failure.ofFault fault).during s!"Failed to create {targetFolder output names}"), t)
        | .ok t₁ =>
          match t₁.write (targetPath output names) (bytesOf text) with
          | .error fault => (.failed ((Failure.ofFault fault).during s!"Failed to write {targetPath output names}"), t₁)
          | .ok t₂ => (.converted, t₂) := by
  have hmake : ∀ t, (FileStore.makeFolders (targetFolder output names) : StateM FileTree (Except StoreFault Unit)) t =
      change (FileTree.makeFolders (targetFolder output names)) t := fun _ => rfl
  have hwrite : ∀ bytes t, (FileStore.write (targetPath output names) bytes :
      StateM FileTree (Except StoreFault Unit)) t = change (FileTree.write (targetPath output names) bytes) t :=
    fun _ _ => rfl
  unfold convertOne
  simp only [bind, StateT.bind, run_openFile_eq, textIn]
  cases openIn charset (joinPath input names) t with
  | error f => rfl
  | ok file =>
    cases hvalid : file.isValid with
    | false =>
      simp only [hvalid]
      rfl
    | true =>
      cases hrender : render charset true (joinPath input names) file with
      | error f =>
        simp only [hvalid, hrender]
        rfl
      | ok text =>
        simp only [hvalid, hrender, Except.mapError, Bool.not_true, Bool.false_eq_true, if_false, if_true, StateT.bind,
          hmake, change]
        cases t.makeFolders (targetFolder output names) with
        | error fault => rfl
        | ok t₁ =>
          simp only [bind, StateT.bind, hwrite, change]
          cases t₁.write (targetPath output names) (bytesOf text) <;> rfl

/-- A file that has a text is turned into that text. -/
theorem toJson_of_textIn {text : String} (h : textIn charset path t = .ok text) (dest : Option String) :
    (toJson charset path dest true : StateM FileTree Outcome) t =
      match dest with
      | some dest => (writeFile dest (bytesOf text) : StateM FileTree Outcome) t
      | none => (.done [.plain text], t) := by
  unfold toJson
  simp only [bind, StateT.bind, run_openFile_eq]
  unfold textIn at h
  cases hopen : openIn charset path t with
  | error f => simp [hopen] at h
  | ok file =>
    simp only [hopen] at h
    cases hvalid : file.isValid with
    | false => simp [hvalid] at h
    | true =>
      cases hrender : render charset true path file with
      | error f => simp [hvalid, hrender, Except.mapError] at h
      | ok text' =>
        simp only [hvalid, hrender, Except.mapError, if_true, Except.ok.injEq] at h
        subst h
        simp only [hvalid, hrender, Bool.not_true, Bool.false_eq_true, if_false]
        cases dest <;> rfl

/-- A file that has no text is reported. -/
theorem toJson_of_textIn_error {fate : Fate} (h : textIn charset path t = .error fate) (dest : Option String) :
    ((toJson charset path dest true : StateM FileTree Outcome) t).1.exitCode = 1 := by
  unfold toJson
  simp only [bind, StateT.bind, run_openFile_eq]
  unfold textIn at h
  cases hopen : openIn charset path t with
  | error f => rfl
  | ok file =>
    simp only [hopen] at h
    cases hvalid : file.isValid with
    | false =>
      simp only [hvalid]
      rfl
    | true =>
      cases hrender : render charset true path file with
      | error f =>
        simp only [hvalid, hrender]
        rfl
      | ok text => simp [hvalid, hrender, Except.mapError] at h

/-! ## All files -/

/-- What becomes of a file with a text, or without one. -/
def fateOf : Except Fate String → Fate
  | .ok _ => .converted
  | .error fate => fate

/-- The texts for files, each with the names that lead to the file. -/
def textsIn (charset : Charset) (input : String) (t : FileTree) (files : List (List String)) :
    List (List String × List UInt8) :=
  files.filterMap fun names =>
    match textIn charset (joinPath input names) t with
    | .ok text => some (names, bytesOf text)
    | .error _ => none

theorem mem_textsIn : (names, bytes) ∈ textsIn charset input t files ↔
    names ∈ files ∧ ∃ text, textIn charset (joinPath input names) t = .ok text ∧ bytesOf text = bytes := by
  rw [textsIn, List.mem_filterMap]
  constructor
  · rintro ⟨names', hnames', h⟩
    cases htext : textIn charset (joinPath input names') t with
    | error fate => simp [htext] at h
    | ok text =>
      simp only [htext, Option.some.injEq, Prod.mk.injEq] at h
      obtain ⟨rfl, hbytes⟩ := h
      exact ⟨hnames', text, htext, hbytes⟩
  · rintro ⟨hnames, text, htext, rfl⟩
    exact ⟨names, hnames, by rw [htext]⟩

theorem nodup_textsIn (h : files.Nodup) : ((textsIn charset input t files).map Prod.fst).Nodup := by
  have hsublist : ((textsIn charset input t files).map Prod.fst).Sublist files := by
    clear h
    induction files with
    | nil => exact List.nil_sublist _
    | cons names files ih =>
      rw [textsIn, List.filterMap_cons]
      cases textIn charset (joinPath input names) t with
      | error fate => exact ih.cons names
      | ok text => exact ih.cons_cons names
  exact h.sublist hsublist

/-- A file is converted as if it were the only one, and only adds its text. -/
theorem run_convertOne_grown (charset : Charset) (hgrown : Grown tree output done t) (htree : tree.Sound)
    (habsent : tree.Absent output) (hfound : Together output found) (hdone : ∀ d ∈ done, d.1 ∈ found)
    (hnames : names ∈ found) (hnew : names ∉ done.map Prod.fst)
    (hread : tree.read (joinPath input names) = .ok bytes) :
    ∃ t', (convertOne charset input output names : StateM FileTree Fate) t =
      (fateOf (textIn charset (joinPath input names) tree), t') ∧
        Grown tree output (done ++ textsIn charset input tree [names]) t' := by
  rw [run_convertOne, textIn_congr (hgrown.read_of_read hread) hread]
  cases htext : textIn charset (joinPath input names) tree with
  | error fate =>
    have htexts : textsIn charset input tree [names] = [] := by simp [textsIn, htext]
    exact ⟨t, rfl, by rwa [htexts, List.append_nil]⟩
  | ok text =>
    have htexts : textsIn charset input tree [names] = [(names, bytesOf text)] := by simp [textsIn, htext]
    obtain ⟨t₁, t₂, hmake, hwrite, hgrown'⟩ :=
      hgrown.store htree habsent hfound hdone hnames hnew (bytesOf text)
    refine ⟨t₂, ?_, htexts ▸ hgrown'⟩
    simp only [hmake, hwrite]
    rfl

theorem textsIn_cons (names : List String) (files : List (List String)) :
    textsIn charset input t (names :: files) = textsIn charset input t [names] ++ textsIn charset input t files := by
  rw [textsIn, textsIn, textsIn, ← List.filterMap_append, List.singleton_append]

/-- Files are converted each as if it were the only one, and only add their texts. -/
theorem run_convertEach (charset : Charset) (htree : tree.Sound) (habsent : tree.Absent output)
    (hfound : Together output found)
    (hread : ∀ names ∈ found, ∃ bytes, tree.read (joinPath input names) = .ok bytes)
    (hfiles : ∀ names ∈ files, names ∈ found) (hnodup : files.Nodup) (hdone : ∀ d ∈ done, d.1 ∈ found)
    (hnew : ∀ names ∈ files, names ∉ done.map Prod.fst) (hgrown : Grown tree output done t) :
    ∃ t', (convertEach charset input output files : StateM FileTree (List Fate)) t =
      (files.map fun names => fateOf (textIn charset (joinPath input names) tree), t') ∧
        Grown tree output (done ++ textsIn charset input tree files) t' := by
  induction files generalizing done t with
  | nil => exact ⟨t, rfl, by rwa [textsIn, List.filterMap_nil, List.append_nil]⟩
  | cons names files ih =>
    obtain ⟨hnames, hfiles⟩ := List.forall_mem_cons.1 hfiles
    obtain ⟨hfirst, hnew⟩ := List.forall_mem_cons.1 hnew
    obtain ⟨hother, hnodup⟩ := List.nodup_cons.1 hnodup
    obtain ⟨bytes, hbytes⟩ := hread names hnames
    obtain ⟨t₁, hone, hgrown₁⟩ := run_convertOne_grown charset hgrown htree habsent hfound hdone hnames
      hfirst hbytes
    have htexts : ∀ d ∈ textsIn charset input tree [names], d.1 = names := fun d hd =>
      List.mem_singleton.1 (mem_textsIn.1 hd).1
    have hdone₁ : ∀ d ∈ done ++ textsIn charset input tree [names], d.1 ∈ found := fun d hd =>
      (List.mem_append.1 hd).elim (hdone d) fun hd => htexts d hd ▸ hnames
    have hnew₁ : ∀ other ∈ files, other ∉ (done ++ textsIn charset input tree [names]).map Prod.fst := by
      intro other hmem h
      rw [List.map_append, List.mem_append] at h
      refine h.elim (hnew other hmem) fun h => ?_
      obtain ⟨d, hd, rfl⟩ := List.mem_map.1 h
      exact hother (htexts d hd ▸ hmem)
    obtain ⟨t₂, heach, hgrown₂⟩ := ih hfiles hnodup hdone₁ hnew₁ hgrown₁
    refine ⟨t₂, ?_, by rwa [textsIn_cons, ← List.append_assoc]⟩
    rw [convertEach]
    simp only [bind, StateT.bind, hone, heach]
    rfl

/-! ## The tally -/

/-- Each file is converted, skipped or failed. -/
theorem count_fates (fates : List Fate) :
    fates.count .converted + fates.count .skipped + (failures fates).length = fates.length := by
  induction fates with
  | nil => rfl
  | cons fate fates ih =>
    cases fate <;> simp [failures] at ih ⊢ <;> omega

theorem mem_failures {f : Failure} {fates : List Fate} : f ∈ failures fates ↔ .failed f ∈ fates := by
  induction fates with
  | nil => simp [failures]
  | cons fate fates ih => cases fate <;> simp_all [failures]

theorem exitCode_tally {fates : List Fate} : (tally input fates).exitCode ≠ 0 ↔ ∃ f, .failed f ∈ fates := by
  rw [tally, Outcome.exitCode]
  cases hfailures : failures fates with
  | nil =>
    refine iff_of_false (by simp) ?_
    rintro ⟨f, hf⟩
    simp [← mem_failures, hfailures] at hf
  | cons f fs =>
    refine iff_of_true (by simp) ⟨f, mem_failures.1 ?_⟩
    rw [hfailures]
    exact List.mem_cons_self

/-! ## The whole folder -/

/-- The files below a folder that a filter lets pass. -/
def chosenFiles (pattern : Option NamePattern) (input : String) (t : FileTree) : List (List String) :=
  (t.filesBelow input).filter fun names => passes pattern (chosenName input names)

theorem mem_chosenFiles {folder : List String} (pattern : Option NamePattern) (htree : tree.Sound)
    (hfollow : tree.follow [] (steps input) = .ok folder) (hfolder : tree.hasFolder folder) (names : List String) :
    names ∈ chosenFiles pattern input tree ↔ (∃ bytes, (folder ++ names, bytes) ∈ tree.files) ∧
      ∀ p, pattern = some p → p.accepts (names.getLastD "") := by
  rw [chosenFiles, List.mem_filter, mem_filesBelow hfollow hfolder]
  refine and_congr_right fun ⟨bytes, hfile⟩ => ?_
  rcases List.eq_nil_or_concat names with rfl | ⟨front, last, rfl⟩
  · rw [List.append_nil] at hfile
    exact absurd hfolder (Bool.eq_false_iff.1 (htree.not_folder _ hfile))
  · cases pattern <;> simp [passes, chosenName]

theorem exists_read_of_chosen {folder : List String} (pattern : Option NamePattern) (htree : tree.Sound)
    (hfollow : tree.follow [] (steps input) = .ok folder) (hfolder : tree.hasFolder folder) :
    ∀ names ∈ chosenFiles pattern input tree, ∃ bytes, tree.read (joinPath input names) = .ok bytes := by
  intro names hnames
  obtain ⟨bytes, hfile⟩ := ((mem_chosenFiles pattern htree hfollow hfolder names).1 hnames).1
  exact ⟨bytes, htree.read_joinPath hfollow hfolder hfile⟩

theorem together_chosenFiles {folder : List String} {pattern : Option NamePattern} (htree : tree.Sound)
    (hfollow : tree.follow [] (steps input) = .ok folder) (hfolder : tree.hasFolder folder)
    (hapart : ∀ a ∈ chosenFiles pattern input tree, ∀ b ∈ chosenFiles pattern input tree,
      place (targetPath output a) ∉ way [] (steps (targetFolder output b))) :
    Together output (chosenFiles pattern input tree) := by
  have hfile := fun names hnames => ((mem_chosenFiles pattern htree hfollow hfolder names).1 hnames).1
  refine ⟨fun names hnames => ?_, fun names hnames name hname => ?_, hapart⟩
  · obtain ⟨bytes, hfile⟩ := hfile names hnames
    rintro rfl
    rw [List.append_nil] at hfile
    exact Bool.eq_false_iff.1 (htree.not_folder _ hfile) hfolder
  · obtain ⟨bytes, hfile⟩ := hfile names hnames
    exact htree.isName _ hfile name (List.mem_append_right _ hname)

/-- What becomes of a file when it is the only one. -/
def fateAlone (charset : Charset) (input output : String) (t : FileTree) (names : List String) : Fate :=
  ((convertOne charset input output names : StateM FileTree Fate) t).1

theorem textIn_ne_converted : textIn charset path t ≠ .error .converted := by
  unfold textIn
  cases openIn charset path t with
  | error f => simp
  | ok file =>
    cases hvalid : file.isValid with
    | false => simp [hvalid]
    | true => cases hrender : render charset true path file <;> simp [hvalid, hrender, Except.mapError]

/-- What becomes of a file is decided by its text. -/
theorem fateAlone_eq (htree : tree.Sound) (habsent : tree.Absent output) (hfound : Together output found)
    (hnames : names ∈ found) (hread : tree.read (joinPath input names) = .ok bytes) :
    fateAlone charset input output tree names = fateOf (textIn charset (joinPath input names) tree) := by
  obtain ⟨_, h, _⟩ := run_convertOne_grown charset (Grown.nil tree output) htree habsent hfound (by simp) hnames
    (by simp) hread
  rw [fateAlone, h]

theorem fateOf_eq_converted {r : Except Fate String} (h : r ≠ .error .converted) :
    fateOf r = .converted ↔ ∃ text, r = .ok text := by
  cases r with
  | ok text => simp [fateOf]
  | error fate => simpa [fateOf] using h

theorem fateOf_eq_error {r : Except Fate String} {fate : Fate} (h : fate ≠ .converted) :
    fateOf r = fate ↔ r = .error fate := by
  cases r with
  | ok text => simpa [fateOf] using h.symm
  | error fate' => simp [fateOf]

/-- A file is skipped just if it is opened, but is no game file. -/
theorem fateOf_eq_skipped (hread : t.read path = .ok bytes) : fateOf (textIn charset path t) = .skipped ↔
    ∃ bytes f, t.read path = .ok bytes ∧ GameFile.open? charset bytes = .ok f ∧ f.isValid = false := by
  rw [fateOf_eq_error (by simp), textIn_eq_skipped hread]
  constructor
  · rintro ⟨f, hopen, hinvalid⟩
    exact ⟨bytes, f, hread, hopen, hinvalid⟩
  · rintro ⟨_, f, hread', hopen, hinvalid⟩
    obtain rfl := Except.ok.inj (hread.symm.trans hread')
    exact ⟨f, hopen, hinvalid⟩

/-- Converting files gives the tally of what becomes of each alone, and only adds the texts. -/
theorem run_convertFolder (charset : Charset) (pattern : Option NamePattern) (htree : tree.Sound)
    (habsent : tree.Absent output) (hfound : Together output (chosenFiles pattern input tree))
    (hread : ∀ names ∈ chosenFiles pattern input tree, ∃ bytes, tree.read (joinPath input names) = .ok bytes) :
    ∃ after, (convertFolder charset input output pattern : StateM FileTree Outcome) tree =
      (tally input ((chosenFiles pattern input tree).map (fateAlone charset input output tree)), after) ∧
        Grown tree output (textsIn charset input tree (chosenFiles pattern input tree)) after := by
  have hnodup := (htree.nodup_filesBelow input).filter fun names => passes pattern (chosenName input names)
  obtain ⟨after, heach, hgrown⟩ := run_convertEach charset htree habsent hfound hread (fun _ h => h) hnodup (by simp)
    (by simp) (Grown.nil tree output)
  have halone : ∀ names ∈ chosenFiles pattern input tree, fateAlone charset input output tree names =
      fateOf (textIn charset (joinPath input names) tree) := by
    intro names hnames
    obtain ⟨bytes, hbytes⟩ := hread names hnames
    exact fateAlone_eq htree habsent hfound hnames hbytes
  have hrun : (convertFolder charset input output pattern : StateM FileTree Outcome) tree =
      match (convertEach charset input output (chosenFiles pattern input tree) : StateM FileTree (List Fate)) tree with
      | (fates, t') => (tally input fates, t') := rfl
  refine ⟨after, ?_, hgrown⟩
  rw [hrun, heach, List.map_congr_left halone]

/-! ## Against each file alone -/

/-- What comes of showing the text for a file. -/
def shownAlone (codepage : Option String) (input : String) (t : FileTree) (names : List String) : Outcome × FileTree :=
  Request.runIn ⟨codepage, .toJson (joinPath input names) none true⟩ t

theorem shownAlone_eq {codepage : Option String}
    (hcharset : Request.charset ⟨codepage, .toJson (joinPath input names) none true⟩ = .ok charset) :
    shownAlone codepage input t names =
      (toJson charset (joinPath input names) none true : StateM FileTree Outcome) t :=
  Request.runIn_of_charset hcharset t

/-- Showing the text for a file succeeds just if it has one. -/
theorem shownAlone_exitCode {codepage : Option String}
    (hcharset : Request.charset ⟨codepage, .toJson (joinPath input names) none true⟩ = .ok charset) :
    (shownAlone codepage input t names).1.exitCode = 0 ↔
      ∃ text, textIn charset (joinPath input names) t = .ok text := by
  rw [shownAlone_eq hcharset]
  cases htext : textIn charset (joinPath input names) t with
  | error fate => simp [toJson_of_textIn_error htext]
  | ok text => simp [toJson_of_textIn htext, Outcome.done, Outcome.exitCode]

/-- A file that alone is reported as turned into text has a text, and that is what was written. -/
theorem read_of_toJson {dest : String} {o : Outcome} (hexit : o.exitCode = 0)
    (h : (toJson charset path (some dest) true : StateM FileTree Outcome) t = (o, t')) :
    ∃ text, textIn charset path t = .ok text ∧ t'.read dest = .ok (bytesOf text) := by
  cases htext : textIn charset path t with
  | error fate =>
    have := toJson_of_textIn_error htext (some dest)
    rw [h, hexit] at this
    cases this
  | ok text =>
    rw [toJson_of_textIn htext] at h
    exact ⟨text, rfl, read_of_write (write_of_exitCode h hexit)⟩

/-- What is read where the text for a file belongs is its text. -/
theorem read_targetPath_iff (hgrown : Grown tree output (textsIn charset input tree found) t) (htree : tree.Sound)
    (habsent : tree.Absent output) (hfound : Together output found) (hnodup : found.Nodup) (hnames : names ∈ found) :
    t.read (targetPath output names) = .ok bytes ↔
      ∃ text, textIn charset (joinPath input names) tree = .ok text ∧ bytesOf text = bytes := by
  rw [hgrown.read_targetPath htree habsent hfound (fun d hd => (mem_textsIn.1 hd).1) (nodup_textsIn hnodup) hnames,
    mem_textsIn, and_iff_right hnames]

/-- What converting a folder comes to: it is what comes of turning each of its files into text.  `found` are the
files that the filter lets pass, `after` is the tree and `o` the outcome at the end. -/
structure FolderConverted (codepage : Option String) (charset : Charset) (pattern : Option NamePattern)
    (input output : String) (folder : List String) (found : List (List String)) (tree after : FileTree) (o : Outcome) :
    Prop where
  found_iff : ∀ names, names ∈ found ↔ (∃ bytes, (folder ++ names, bytes) ∈ tree.files) ∧
    ∀ p, pattern = some p → p.accepts (names.getLastD "")
  nodup : found.Nodup
  /-- The text for a file belongs below the output as the file lies below the input, under its name and `.json`. -/
  place_eq : ∀ names ∈ found, place (targetPath output names) =
    place output ++ names.dropLast ++ [names.getLastD "" ++ ".json"]
  /-- There is a text for a file just if the file alone can be turned into text. -/
  exists_iff : ∀ names ∈ found, (∃ bytes, after.read (targetPath output names) = .ok bytes) ↔
    (shownAlone codepage input tree names).1.exitCode = 0
  /-- It is the text that is shown for the file alone. -/
  text_eq : ∀ names ∈ found, ∀ bytes, after.read (targetPath output names) = .ok bytes →
    ∃ text, shownAlone codepage input tree names = (.done [.plain text], tree) ∧ bytes = bytesOf text
  /-- It is also the text that is written for the file alone. -/
  written_eq : ∀ names ∈ found, ∀ dest o' tree',
    Request.runIn ⟨codepage, .toJson (joinPath input names) (some dest) true⟩ tree = (o', tree') → o'.exitCode = 0 →
      ∃ bytes, after.read (targetPath output names) = .ok bytes ∧ tree'.read dest = .ok bytes
  /-- The files that were there stay as they are, and nothing but texts is added to them. -/
  files_eq : ∃ texts, after.files = tree.files ++ texts ∧ ∀ f ∈ texts, ∃ names ∈ found,
    f.1 = place (targetPath output names) ∧ after.read (targetPath output names) = .ok f.2
  /-- Folders are made just on the way to the texts. -/
  folder_iff : ∀ p, after.hasFolder p ↔ tree.hasFolder p ∨ ∃ names ∈ found,
    (∃ bytes, after.read (targetPath output names) = .ok bytes) ∧ p ∈ way [] (steps (targetFolder output names))
  inputs_kept : after.filesBelow input = tree.filesBelow input ∧ ∀ names ∈ tree.filesBelow input,
    after.read (joinPath input names) = tree.read (joinPath input names)
  /-- What becomes of a file does not depend on the others. -/
  outcome_eq : o = tally input (found.map (fateAlone charset input output tree))
  converted_iff : ∀ names ∈ found, fateAlone charset input output tree names = .converted ↔
    (shownAlone codepage input tree names).1.exitCode = 0
  skipped_iff : ∀ names ∈ found, fateAlone charset input output tree names = .skipped ↔
    ∃ bytes f, tree.read (joinPath input names) = .ok bytes ∧ GameFile.open? charset bytes = .ok f ∧ f.isValid = false
  counted : (found.map (fateAlone charset input output tree)).count .converted +
    (found.map (fateAlone charset input output tree)).count .skipped +
      (failures (found.map (fateAlone charset input output tree))).length = found.length
  exitCode_iff : o.exitCode ≠ 0 ↔ ∃ names ∈ found, ∃ f, fateAlone charset input output tree names = .failed f

/-- Converting a folder does what turning each of its files into text does.  The folder for the output is missing, can
be made and is outside of the folder that is converted, and no text belongs in a place on the way to another one. -/
theorem Request.convertFolder_as_toJson {codepage filter : Option String} {pattern : Option NamePattern}
    {folder : List String}
    (hcharset : Request.charset ⟨codepage, .convertFolder input output filter⟩ = .ok charset)
    (hfilter : readFilter filter = .ok pattern) (htree : tree.Sound)
    (hfollow : tree.follow [] (steps input) = .ok folder) (hfolder : tree.hasFolder folder)
    (habsent : tree.Absent output) (houtside : ¬folder <+: place output)
    (hapart : ∀ a ∈ chosenFiles pattern input tree, ∀ b ∈ chosenFiles pattern input tree,
      place (targetPath output a) ∉ way [] (steps (targetFolder output b))) :
    FolderConverted codepage charset pattern input output folder (chosenFiles pattern input tree) tree
      (Request.runIn ⟨codepage, .convertFolder input output filter⟩ tree).2
      (Request.runIn ⟨codepage, .convertFolder input output filter⟩ tree).1 := by
  have hfound := together_chosenFiles htree hfollow hfolder hapart
  have hread := exists_read_of_chosen pattern htree hfollow hfolder
  have hfound_iff := mem_chosenFiles pattern htree hfollow hfolder
  have hnodup : (chosenFiles pattern input tree).Nodup := (htree.nodup_filesBelow input).filter _
  obtain ⟨after, hconvert, hgrown⟩ := run_convertFolder charset pattern htree habsent hfound hread
  have hrun : Request.runIn ⟨codepage, .convertFolder input output filter⟩ tree =
      (tally input ((chosenFiles pattern input tree).map (fateAlone charset input output tree)), after) := by
    rw [Request.runIn_of_charset hcharset, Job.run]
    simp only [hfilter]
    exact hconvert
  rw [hrun]
  clear hapart hconvert hrun hfilter
  generalize chosenFiles pattern input tree = found at *
  have htarget : ∀ {names bytes}, names ∈ found → (after.read (targetPath output names) = .ok bytes ↔
      ∃ text, textIn charset (joinPath input names) tree = .ok text ∧ bytesOf text = bytes) :=
    fun hnames => read_targetPath_iff hgrown htree habsent hfound hnodup hnames
  have hshown : ∀ names ∈ found, (∃ bytes, after.read (targetPath output names) = .ok bytes) ↔
      (shownAlone codepage input tree names).1.exitCode = 0 := by
    intro names hnames
    rw [shownAlone_exitCode hcharset]
    simp [htarget hnames]
  have halone : ∀ names ∈ found, ∃ bytes, tree.read (joinPath input names) = .ok bytes ∧
      fateAlone charset input output tree names = fateOf (textIn charset (joinPath input names) tree) := by
    intro names hnames
    obtain ⟨bytes, hbytes⟩ := hread names hnames
    exact ⟨bytes, hbytes, fateAlone_eq htree habsent hfound hnames hbytes⟩
  refine {
    found_iff := hfound_iff
    nodup := hnodup
    place_eq := fun names hnames => ?_
    exists_iff := hshown
    text_eq := fun names hnames bytes h => ?_
    written_eq := fun names hnames dest o' tree' h hexit => ?_
    files_eq := ⟨_, hgrown.files_eq, fun f hf => ?_⟩
    folder_iff := fun p => ?_
    inputs_kept := ⟨?_, fun names hnames => ?_⟩
    outcome_eq := rfl
    converted_iff := fun names hnames => ?_
    skipped_iff := fun names hnames => ?_
    counted := ?_
    exitCode_iff := ?_ }
  · rw [place_targetPath (hfound.isName names hnames), textNames, List.append_assoc]
  · obtain ⟨text, htext, rfl⟩ := (htarget hnames).1 h
    exact ⟨text, by rw [shownAlone_eq hcharset, toJson_of_textIn htext], rfl⟩
  · have hdest : Request.charset ⟨codepage, .toJson (joinPath input names) (some dest) true⟩ = .ok charset := hcharset
    rw [Request.runIn_of_charset hdest, Job.run] at h
    obtain ⟨text, htext, hwritten⟩ := read_of_toJson hexit h
    exact ⟨_, (htarget hnames).2 ⟨text, htext, rfl⟩, hwritten⟩
  · obtain ⟨d, hd, rfl⟩ := List.mem_map.1 hf
    obtain ⟨hnames, htext⟩ := mem_textsIn.1 hd
    exact ⟨d.1, hnames, rfl, (htarget hnames).2 htext⟩
  · rw [hgrown.folder_iff]
    refine or_congr_right ⟨?_, ?_⟩
    · rintro ⟨d, hd, hp⟩
      obtain ⟨hnames, htext⟩ := mem_textsIn.1 hd
      exact ⟨d.1, hnames, ⟨d.2, (htarget hnames).2 htext⟩, hp⟩
    · rintro ⟨names, hnames, ⟨bytes, hbytes⟩, hp⟩
      exact ⟨(names, bytes), mem_textsIn.2 ⟨hnames, (htarget hnames).1 hbytes⟩, hp⟩
  · exact hgrown.filesBelow_eq htree habsent (fun d hd => hfound.isName d.1 (mem_textsIn.1 hd).1) hfollow hfolder
      houtside
  · obtain ⟨bytes, hfile⟩ := (mem_filesBelow hfollow hfolder).1 hnames
    have hbytes := htree.read_joinPath hfollow hfolder hfile
    rw [hgrown.read_of_read hbytes, hbytes]
  · obtain ⟨_, _, hfate⟩ := halone names hnames
    rw [hfate, fateOf_eq_converted textIn_ne_converted, shownAlone_exitCode hcharset]
  · obtain ⟨bytes, hbytes, hfate⟩ := halone names hnames
    rw [hfate, fateOf_eq_skipped hbytes]
  · rw [count_fates, List.length_map]
  · rw [exitCode_tally]
    simp only [List.mem_map]
    constructor
    · rintro ⟨f, names, hnames, hf⟩
      exact ⟨names, hnames, f, hf⟩
    · rintro ⟨names, hnames, f, hf⟩
      exact ⟨f, names, hnames, hf⟩

/-- A map tree, a text and a map tree that is cut off, each to be converted into a folder in a missing folder, and a
picture that the filter leaves out. -/
theorem Request.convertFolder_as_toJson_mixed :
    let bytes : List UInt8 := [10, 76, 99, 102, 77, 97, 112, 84, 114, 101, 101, 1, 1, 1, 3, 97, 34, 9, 0, 1, 1, 1, 0]
    let tree := FileTree.ofFiles [("in/a.lmt", bytes), ("in/sub/b.txt", [1, 66]), ("in/sub/c.lmt", bytes.take 13),
      ("in/d.png", [])]
    let run := Request.runIn ⟨some "932", .convertFolder "in" "new/out" (some "*t")⟩ tree
    ∃ pattern, readFilter (some "*t") = .ok pattern ∧
      chosenFiles pattern "in" tree = [["a.lmt"], ["sub", "b.txt"], ["sub", "c.lmt"]] ∧
      FolderConverted (some "932") .shiftJis pattern "in" "new/out" ["in"] (chosenFiles pattern "in" tree) tree
        run.2 run.1 ∧
      run.1.exitCode = 1 ∧ (∃ text, run.2.read "new/out/a.lmt.json" = .ok text) ∧
        run.2.read "new/out/sub/c.lmt.json" = .error .missing := by
  intro bytes tree run
  let pattern : Option NamePattern := some ⟨[.anyText, .char 't']⟩
  have htree : tree.Sound := sound_ofFiles _
  have hcharset : Request.charset ⟨some "932", .convertFolder "in" "new/out" (some "*t")⟩ = .ok .shiftJis := by
    decide +kernel
  have hfilter : readFilter (some "*t") = .ok pattern := by decide +kernel
  have hfollow : tree.follow [] (steps "in") = .ok ["in"] := by decide +kernel
  have hsteps : steps "new/out" = [] ++ "new" :: ["out"] := by decide +kernel
  have hmissing : tree.hasFolder ([] ++ ["new"]) = false := by decide +kernel
  have habsent : tree.Absent "new/out" :=
    htree.absent hsteps (by decide +kernel) rfl (hasFolder_nil tree) hmissing (by decide +kernel)
  have hconverted := Request.convertFolder_as_toJson hcharset hfilter htree hfollow (by decide +kernel) habsent
    (by decide +kernel) (by decide +kernel)
  refine ⟨pattern, hfilter, by decide +kernel, hconverted, by decide +kernel, ?_, by decide +kernel⟩
  refine exists_of_isOk ?_
  decide +kernel

end ChunkTree.Tool
