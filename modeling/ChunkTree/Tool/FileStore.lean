/-!
# Places for files

What the tool needs of the place where files are kept, and a place held in memory.  A path is read step by step:
`.` stays where it is, `..` goes back to the enclosing folder, and every step but the last has to lead to a folder.
A path with a separator at its end is that of a folder.
-/

namespace ChunkTree

/-- Why files could not be reached, as the number and the text that the place gives. -/
structure StoreFault where
  code : Nat
  text : String
  deriving DecidableEq, Repr

namespace StoreFault

def missing : StoreFault := ⟨2, "No such file or directory"⟩
def present : StoreFault := ⟨17, "File exists"⟩
def notFolder : StoreFault := ⟨20, "Not a directory"⟩
def isFolder : StoreFault := ⟨21, "Is a directory"⟩
def forbidden : StoreFault := ⟨13, "Permission denied"⟩

/-- The fault with a number, with the given text unless there is a text for that number. -/
def ofCode (code : Nat) (text : String) : StoreFault :=
  ([missing, forbidden, present, notFolder, isFolder].find? (·.code == code)).getD ⟨code, text⟩

def message (f : StoreFault) : String :=
  s!"{f.text} (os error {f.code})"

end StoreFault

/-- A place where files are kept. -/
class FileStore (m : Type → Type) where
  /-- The content of a file. -/
  read : String → m (Except StoreFault (List UInt8))
  /-- Writes a file into a folder that is there, in place of an earlier one. -/
  write : String → List UInt8 → m (Except StoreFault Unit)
  /-- Makes a folder and those that enclose it, as far as they are missing. -/
  makeFolders : String → m (Except StoreFault Unit)
  /-- The files below a folder, each by the steps that lead to it.  A file has no steps below it. -/
  filesBelow : String → m (List (List String))

/-- The text of a path that goes on from another. -/
def joinPath (path : String) : List String → String
  | [] => path
  | name :: names => joinPath (if path.endsWith "/" then path ++ name else path ++ "/" ++ name) names

/-- Files and folders in memory, by the steps that lead to them from the place where paths start. -/
structure FileTree where
  files : List (List String × List UInt8)
  folders : List (List String)
  deriving DecidableEq, Repr, Inhabited

namespace FileTree

def empty : FileTree := ⟨[], []⟩

def file? (t : FileTree) (place : List String) : Option (List UInt8) :=
  t.files.lookup place

/-- The place where paths start is a folder. -/
def hasFolder (t : FileTree) (place : List String) : Bool :=
  place.isEmpty || t.folders.contains place

/-- The fault of a place at which a folder is asked for. -/
def folderFault (t : FileTree) (place : List String) : StoreFault :=
  if (t.file? place).isSome then .notFolder else .missing

/-- The place to which a step leads from a folder. -/
def step (place : List String) (name : String) : List String :=
  if name = "." then place
  else if name = ".." then place.dropLast
  else place ++ [name]

/-- Follows steps through folders. -/
def follow (t : FileTree) (place : List String) : List String → Except StoreFault (List String)
  | [] => .ok place
  | name :: names =>
    if t.hasFolder place then t.follow (step place name) names
    else .error (t.folderFault place)

/-- The steps of a path. -/
def steps (path : String) : List String :=
  (path.splitToList (· == '/')).filter (· ≠ "")

/-- Whether a path ends with a separator. -/
def endsOpen (path : String) : Bool :=
  path.endsWith "/"

def read (path : String) (t : FileTree) : Except StoreFault (List UInt8) := do
  let place ← t.follow [] (steps path)
  match t.file? place with
  | some bytes => if endsOpen path then throw .notFolder else return bytes
  | none => throw (if t.hasFolder place then .isFolder else .missing)

/-- Replaces the content of a file, or adds a file at the end. -/
def put (place : List String) (bytes : List UInt8) :
    List (List String × List UInt8) → List (List String × List UInt8)
  | [] => [(place, bytes)]
  | (p, b) :: files => if p = place then (p, bytes) :: files else (p, b) :: put place bytes files

def write (path : String) (bytes : List UInt8) (t : FileTree) : Except StoreFault FileTree := do
  let folder ← t.follow [] (steps path).dropLast
  match (steps path).getLast? with
  | none => throw .isFolder
  | some name =>
    if !t.hasFolder folder then
      throw (t.folderFault folder)
    if endsOpen path ∨ name = "." ∨ name = ".." ∨ t.hasFolder (step folder name) then
      throw .isFolder
    return { t with files := put (step folder name) bytes t.files }

/-- Follows steps, making the folders that are missing. -/
def makeSteps (place : List String) : List String → FileTree → Except StoreFault FileTree
  | [], t => .ok t
  | name :: names, t =>
    let next := step place name
    if t.hasFolder next then makeSteps next names t
    else if (t.file? next).isSome then
      .error (if names.isEmpty then .present else .notFolder)
    else makeSteps next names { t with folders := t.folders ++ [next] }

def makeFolders (path : String) (t : FileTree) : Except StoreFault FileTree :=
  makeSteps [] (steps path) t

/-- The steps that lead from one place to another below it. -/
def below? (place : List String) (other : List String) : Option (List String) :=
  if place.isPrefixOf other then some (other.drop place.length) else none

def filesBelow (path : String) (t : FileTree) : List (List String) :=
  match t.follow [] (steps path) with
  | .error _ => []
  | .ok place =>
    if endsOpen path ∧ ¬t.hasFolder place then []
    else t.files.filterMap fun entry => below? place entry.1

/-- The change of a tree, or the fault that leaves it as it is. -/
def change (f : FileTree → Except StoreFault FileTree) : StateM FileTree (Except StoreFault Unit) :=
  fun t =>
    match f t with
    | .ok t => (.ok (), t)
    | .error fault => (.error fault, t)

instance : FileStore (StateM FileTree) where
  read path := fun t => (t.read path, t)
  write path bytes := change (FileTree.write path bytes)
  makeFolders path := change (FileTree.makeFolders path)
  filesBelow path := fun t => (t.filesBelow path, t)

/-- Adds a file and the folders that it needs; a place that is taken stays as it is. -/
def add (t : FileTree) (path : String) (bytes : List UInt8) : FileTree :=
  let names := steps path
  match makeSteps [] names.dropLast t with
  | .error _ => t
  | .ok t =>
    match t.write path bytes with
    | .ok t => t
    | .error _ => t

/-- The tree that holds some files. -/
def ofFiles (files : List (String × List UInt8)) : FileTree :=
  files.foldl (fun t entry => t.add entry.1 entry.2) empty

end FileTree

end ChunkTree
