import Mathlib.Data.List.Induction
import Mathlib.Data.String.Basic
import ChunkTree.Proofs.Stored
import ChunkTree.Tool.Run

/-!
# Where paths lead

A path is a list of steps (`FileTree.steps`), and going on from a path adds steps to it (`FileTree.steps_joinPath`).
`FileTree.walk` goes where steps lead whatever is there, and `FileTree.way` lists the places on the way.  Names lead
just below the place where they start (`FileTree.walk_names`).  The path for the text of a file leads below the folder
for the output as the file lies below the folder for the input, but for its last name
(`Tool.steps_targetPath`); the way to the folder that holds it is the way to the output and on by these names
(`Tool.mem_way_targetFolder`).
-/

namespace ChunkTree

namespace FileTree

/-! ## Steps -/

/-- Whether a text can be the name of a file or of a folder. -/
def IsName (name : String) : Prop :=
  name ≠ "" ∧ name ≠ "." ∧ name ≠ ".." ∧ '/' ∉ name.toList

instance (name : String) : Decidable (IsName name) :=
  inferInstanceAs (Decidable (name ≠ "" ∧ name ≠ "." ∧ name ≠ ".." ∧ '/' ∉ name.toList))

variable {path name : String} {names : List String}

theorem steps_eq (path : String) :
    steps path = ((path.toList.splitOnP (· == '/')).map String.ofList).filter (· ≠ "") := by
  rw [steps, String.splitToList_of_valid]

/-- The steps on both sides of a separator. -/
theorem steps_append_slash (path rest : String) : steps (path ++ "/" ++ rest) = steps path ++ steps rest := by
  have hsplit : (path ++ "/" ++ rest).toList = path.toList ++ '/' :: rest.toList := by simp
  rw [steps_eq, hsplit, List.splitOnP_append_cons _ _ (by decide), List.map_append, List.filter_append, ← steps_eq,
    ← steps_eq]

theorem steps_of_no_slash (hne : name ≠ "") (h : '/' ∉ name.toList) : steps name = [name] := by
  have hall : ∀ c ∈ name.toList, (c == '/') = false := fun c hc => beq_false_of_ne fun heq => h (heq ▸ hc)
  rw [steps_eq, List.splitOnP_eq_singleton hall]
  simp [hne]

theorem steps_empty : steps "" = [] := by
  rw [steps_eq]
  rfl

theorem endsWith_iff {s t : String} : s.endsWith t ↔ t.toList <:+ s.toList := by
  rw [String.endsWith_eq_endsWith_toSlice, String.Slice.endsWith_string_iff]
  simp

/-- A separator at the end of a path is no step. -/
theorem exists_of_endsOpen (h : path.endsWith "/") : ∃ front, path = front ++ "/" ∧ steps path = steps front := by
  obtain ⟨front, hfront⟩ := endsWith_iff.1 h
  have hpath : path = String.ofList front ++ "/" := by
    rw [← String.toList_inj]
    simp [← hfront]
  refine ⟨_, hpath, ?_⟩
  have := steps_append_slash (String.ofList front) ""
  rwa [String.append_empty, steps_empty, List.append_nil, ← hpath] at this

/-- Going on from a path adds steps to it. -/
theorem steps_joinPath (h : ∀ name ∈ names, IsName name) (path : String) :
    steps (joinPath path names) = steps path ++ names := by
  induction names generalizing path with
  | nil => rw [joinPath, List.append_nil]
  | cons name names ih =>
    obtain ⟨⟨hne, _, _, hslash⟩, hnames⟩ := List.forall_mem_cons.1 h
    have hname := steps_of_no_slash hne hslash
    have hstep : steps (if path.endsWith "/" then path ++ name else path ++ "/" ++ name) = steps path ++ [name] := by
      split
      · rename_i hopen
        obtain ⟨front, hpath, hsteps⟩ := exists_of_endsOpen hopen
        rw [hsteps, hpath, steps_append_slash, hname]
      · rw [steps_append_slash, hname]
    rw [joinPath, ih hnames, hstep, List.append_assoc, List.singleton_append]

/-- A path that goes on to a name ends with it. -/
theorem exists_joinPath_eq (path : String) (names : List String) (name : String) :
    ∃ front, joinPath path (names ++ [name]) = front ++ name := by
  induction names generalizing path with
  | nil =>
    rw [List.nil_append, joinPath, joinPath]
    split
    · exact ⟨path, rfl⟩
    · exact ⟨path ++ "/", rfl⟩
  | cons n names ih => exact ih _

theorem not_endsOpen_append {suffix : String} (hne : suffix ≠ "") (h : '/' ∉ suffix.toList) (front : String) :
    endsOpen (front ++ suffix) = false := by
  refine Bool.eq_false_iff.2 fun hopen => h ?_
  obtain ⟨cs, hcs⟩ := endsWith_iff.1 hopen
  rw [String.toList_append] at hcs
  have hlist : suffix.toList ≠ [] := by simpa using hne
  have hlast := congrArg List.getLast? hcs
  rw [List.getLast?_append_of_ne_nil _ hlist] at hlast
  refine List.mem_of_getLast? (hlast.symm.trans ?_)
  simp

/-! ## Ways -/

/-- Where steps lead from a place, whatever is there. -/
def walk (place names : List String) : List String :=
  names.foldl step place

/-- The places on the way, the first and the last one among them. -/
def way (place names : List String) : List (List String) :=
  names.scanl step place

/-- Where a path leads, whatever is there. -/
def place (path : String) : List String :=
  walk [] (steps path)

variable {p q : List String}

theorem walk_append (p names more : List String) : walk p (names ++ more) = walk (walk p names) more :=
  List.foldl_append

theorem mem_way_cons : q ∈ way p (name :: names) ↔ q = p ∨ q ∈ way (step p name) names := by
  rw [way, List.scanl_cons]
  simp [way]

theorem mem_way_nil : q ∈ way p [] ↔ q = p := by
  simp [way]

theorem start_mem_way (p names : List String) : p ∈ way p names := by
  cases names with
  | nil => exact mem_way_nil.2 rfl
  | cons => exact mem_way_cons.2 (.inl rfl)

theorem mem_way_append {more : List String} :
    q ∈ way p (names ++ more) ↔ q ∈ way p names ∨ q ∈ way (walk p names) more := by
  induction names generalizing p with
  | nil =>
    rw [List.nil_append, mem_way_nil]
    exact ⟨.inr, fun h => h.elim (fun h => h ▸ start_mem_way q more) id⟩
  | cons name names ih =>
    rw [List.cons_append, mem_way_cons, mem_way_cons, ih, or_assoc]
    rfl

theorem walk_mem_way (p names : List String) : walk p names ∈ way p names := by
  induction names generalizing p with
  | nil => exact mem_way_nil.2 rfl
  | cons name names ih => exact mem_way_cons.2 (.inr (ih _))

theorem IsName.step (h : IsName name) (p : List String) : FileTree.step p name = p ++ [name] := by
  rw [FileTree.step, if_neg h.2.1, if_neg h.2.2.1]

/-- Names lead just below the place where they start. -/
theorem walk_names (h : ∀ name ∈ names, IsName name) (p : List String) : walk p names = p ++ names := by
  induction names generalizing p with
  | nil => exact (List.append_nil p).symm
  | cons name names ih =>
    obtain ⟨hname, hnames⟩ := List.forall_mem_cons.1 h
    have := ih hnames (p ++ [name])
    rw [List.append_assoc, List.singleton_append] at this
    rwa [walk, List.foldl_cons, hname.step]

theorem mem_way_names (h : ∀ name ∈ names, IsName name) : q ∈ way p names ↔ p <+: q ∧ q <+: p ++ names := by
  induction names generalizing p with
  | nil =>
    rw [mem_way_nil, List.append_nil]
    exact ⟨by rintro rfl; exact ⟨List.prefix_rfl, List.prefix_rfl⟩, fun h => h.2.eq_of_length_le h.1.length_le⟩
  | cons name names ih =>
    obtain ⟨hname, hnames⟩ := List.forall_mem_cons.1 h
    rw [mem_way_cons, ih hnames, hname.step, List.append_assoc, List.singleton_append]
    constructor
    · rintro (rfl | ⟨hle, hge⟩)
      · exact ⟨List.prefix_rfl, List.prefix_append _ _⟩
      · exact ⟨(List.prefix_append _ _).trans hle, hge⟩
    · rintro ⟨⟨more, rfl⟩, hge⟩
      cases more with
      | nil => exact .inl (List.append_nil p)
      | cons n more =>
        obtain ⟨rfl, -⟩ := List.cons_prefix_cons.1 ((List.prefix_append_right_inj p).1 hge)
        exact .inr ⟨⟨more, by simp⟩, hge⟩

end FileTree

namespace Tool

open FileTree

variable {names : List String} {q : List String}

/-! ## Targets -/

/-- The names that lead from the folder for the output to the text for a file. -/
def textNames (names : List String) : List String :=
  names.dropLast ++ [names.getLastD "" ++ ".json"]

theorem joinPath_append_suffix (path : String) (names : List String) (name suffix : String) :
    joinPath path (names ++ [name]) ++ suffix = joinPath path (names ++ [name ++ suffix]) := by
  induction names generalizing path with
  | nil =>
    rw [List.nil_append, List.nil_append, joinPath, joinPath, joinPath, joinPath]
    split <;> rw [String.append_assoc]
  | cons n names ih => exact ih _

theorem targetPath_eq (output : String) (names : List String) :
    targetPath output names = joinPath output (textNames names) := by
  rcases List.eq_nil_or_concat names with rfl | ⟨front, name, rfl⟩
  · exact joinPath_append_suffix output [] "" ".json"
  · rw [List.concat_eq_append, targetPath, if_neg (by simp), joinPath_append_suffix, textNames,
      List.dropLast_concat]
    simp

theorem isName_append_json {name : String} (h : '/' ∉ name.toList) : IsName (name ++ ".json") := by
  have hne : ∀ s : String, s.length < 5 → name ++ ".json" ≠ s := by
    rintro _ hs rfl
    rw [String.length_append] at hs
    exact absurd (Nat.le_add_left ".json".length name.length) (Nat.not_le.2 hs)
  exact ⟨hne "" (by decide), hne "." (by decide), hne ".." (by decide), by simpa using h⟩

theorem isName_textNames (h : ∀ name ∈ names, IsName name) : ∀ name ∈ textNames names, IsName name := by
  intro name hname
  rcases List.mem_append.1 hname with hname | hname
  · exact h name (List.dropLast_subset names hname)
  · rw [List.mem_singleton.1 hname]
    refine isName_append_json ?_
    cases hlast : names.getLast? with
    | none => simp [List.getLastD_eq_getLast?, hlast]
    | some last =>
      simp only [List.getLastD_eq_getLast?, hlast]
      exact (h last (List.mem_of_getLast? hlast)).2.2.2

/-- The text for a file lies below the output as the file lies below the input, but for its last name. -/
theorem steps_targetPath (h : ∀ name ∈ names, IsName name) (output : String) :
    steps (targetPath output names) = steps output ++ textNames names := by
  rw [targetPath_eq, steps_joinPath (isName_textNames h)]

theorem place_targetPath (h : ∀ name ∈ names, IsName name) (output : String) :
    place (targetPath output names) = place output ++ textNames names := by
  rw [place, steps_targetPath h, walk_append, walk_names (isName_textNames h)]
  rfl

theorem not_endsOpen_targetPath (output : String) (names : List String) :
    endsOpen (targetPath output names) = false :=
  not_endsOpen_append (by decide) (by decide) _

/-- What is trimmed from a path is not on its way. -/
theorem mem_way_trimPath (cs : List Char) : q ∈ way [] (steps (String.ofList (trimPath cs).reverse)) ↔
    q ∈ way [] (steps (String.ofList cs.reverse)) := by
  induction cs using trimPath.induct with
  | case1 c cs ih =>
    have hpath : String.ofList ('/' :: c :: cs).reverse = String.ofList (c :: cs).reverse ++ "/" ++ "" := by
      rw [← String.toList_inj]
      simp
    rw [trimPath, ih, hpath, steps_append_slash, steps_empty, List.append_nil]
  | case2 c cs ih =>
    have hpath : String.ofList ('.' :: '/' :: c :: cs).reverse = String.ofList (c :: cs).reverse ++ "/" ++ "." := by
      rw [← String.toList_inj]
      simp
    have hdot : steps "." = ["."] := steps_of_no_slash (by decide) (by decide)
    have hstay : step (walk [] (steps (String.ofList (c :: cs).reverse))) "." = _ := if_pos rfl
    rw [trimPath, ih, hpath, steps_append_slash, hdot, mem_way_append, mem_way_cons, mem_way_nil, hstay, or_self]
    exact ⟨.inl, fun h => h.elim id fun h => h ▸ walk_mem_way _ _⟩
  | case3 cs h₁ h₂ => rw [trimPath] <;> assumption

/-- The way to the folder for the text of a file leads to the output and on by the names of the folders. -/
theorem mem_way_targetFolder (h : ∀ name ∈ names, IsName name) (output : String) :
    q ∈ way [] (steps (targetFolder output names)) ↔
      q ∈ way [] (steps output) ∨ q ∈ way (place output) names.dropLast := by
  rw [targetFolder, mem_way_trimPath, List.reverse_reverse, String.ofList_toList,
    steps_joinPath fun name hname => h name (List.dropLast_subset names hname), mem_way_append]
  rfl

end Tool

end ChunkTree
