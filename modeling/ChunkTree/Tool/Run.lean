import ChunkTree.Save.Write
import ChunkTree.Text.Label
import ChunkTree.Tool.Arguments
import ChunkTree.Tool.Outcome
import ChunkTree.Value.Printer
import ChunkTree.Value.Reader
import ChunkTree.View.Describe

/-!
# Jobs

What the tool does for each job, in any place where files are kept.  The work on the content of a file is done by
functions that do not touch the place: `GameFile.render`, `encodeText`, `layout` and `roundTrip`.
-/

namespace ChunkTree.Tool

open Text (Charset)

/-- The bytes of a text. -/
def bytesOf (text : String) : List UInt8 :=
  text.toUTF8.data.toList

/-- The text that bytes stand for. -/
def textOf? (bytes : List UInt8) : Option String :=
  String.fromUTF8? ⟨bytes.toArray⟩

/-! ## The work on one file -/

/-- The text of the value of a game file. -/
def render (charset : Charset) (pretty : Bool) (path : String) (f : GameFile) : Except Failure String :=
  match f.toValue charset with
  | .ok v => .ok (if pretty then v.toPrettyText else v.toText)
  | .error e => .error ((Failure.ofError e).during s!"Failed to convert {path}")

/-- The game file with the value that a text describes. -/
def encodeText (charset : Charset) (path : String) (bytes : List UInt8) : Except Failure (List UInt8) :=
  match textOf? bytes with
  | none => .error ((Failure.ofText "stream did not contain valid UTF-8").during s!"Failed to read {path}")
  | some text =>
    match Value.ofText? Value.maxNesting text with
    | none => .error ((Failure.ofText "the text is no JSON value").during s!"Failed to parse {path}")
    | some v =>
      match v.saveFile charset with
      | .ok saved => .ok saved
      | .error e => .error ((Failure.ofError e).during s!"Failed to encode {path}")

def padRight (width : Nat) (text : String) : String :=
  text ++ String.ofList (List.replicate (width - text.length) ' ')

def padLeft (width : Nat) (text : String) : String :=
  String.ofList (List.replicate (width - text.length) ' ') ++ text

/-- How much a root holds. -/
def rootDetail (root : Chunk) (kind : Kind) : Except Error String :=
  match kind with
  | .record => root.record.map fun r => s!"{r.entries.length} fields"
  | .table => root.table.map fun t => s!"{t.rows.length} rows"
  | .mapTree => root.mapTree.map fun t => s!"{t.nodes.length} nodes"
  | _ => .ok ""

/-- The line about a root. -/
def rootLine (i : Nat) (root : Chunk) : Except Error Line := do
  let kind ← root.kind
  let detail ← rootDetail root kind
  return .plain (s!"  [{i}] " ++ padRight 12 root.label ++ " " ++ padRight 10 kind.name ++ " offset " ++
    padLeft 8 (toString root.offset) ++ "  len " ++ padLeft 8 (toString root.length) ++ "  " ++ detail)

/-- The lines about roots, up to one that cannot be decoded. -/
def rootLines : Nat → List Chunk → List Line × Option Error
  | _, [] => ([], none)
  | i, root :: roots =>
    match rootLine i root with
    | .error e => ([], some e)
    | .ok line =>
      let (lines, fault) := rootLines (i + 1) roots
      (line :: lines, fault)

/-- The layout of a game file. -/
def layout (path : String) (f : GameFile) : Outcome :=
  let header : List Line := [.plain s!"File: {path}", .plain s!"Size: {f.bytes.length} bytes",
    .plain s!"Signature: {f.signature}"]
  if f.isValid then
    let (lines, fault) := rootLines 0 f.roots
    let shown := header ++ .plain s!"Roots: {f.roots.length}" :: lines
    match fault with
    | some e => ⟨shown, [], some (.ofError e)⟩
    | none => .done (shown ++ if f.trailing > 0 then [.plain s!"Trailing: {f.trailing} bytes"] else [])
  else
    .done (header ++ [.plain s!"Invalid: {f.fault}",
      .plain ("Known signatures: " ++ ", ".intercalate Document.signatures)])

/-- The length of the common beginning of two byte strings. -/
def firstDifference : List UInt8 → List UInt8 → Nat
  | a :: as, b :: bs => if a = b then firstDifference as bs + 1 else 0
  | _, _ => 0

/-- Whether saving the value of a file gives the same bytes. -/
def roundTrip (charset : Charset) (path : String) (bytes : List UInt8) : Except Failure Line := do
  let f ← (GameFile.open? charset bytes).mapError fun e => (Failure.ofError e).during s!"Failed to parse {path}"
  if !f.isValid then
    throw (.ofText s!"{path}: {f.fault}")
  let value ← (f.toValue charset).mapError Failure.ofError
  let saved ← (value.saveFile charset).mapError Failure.ofError
  if saved = bytes then
    return .timed s!"OK: {path} ({bytes.length} bytes) round-trips"
  throw (.ofText (s!"{path}: round trip differs at offset 0x" ++ Text.hex (firstDifference bytes saved) ++
    s!" (original {bytes.length} bytes, rebuilt {saved.length} bytes)"))

/-! ## Jobs -/

section

variable {m : Type → Type} [Monad m] [FileStore m]

/-- Opens a game file. -/
def openFile (charset : Charset) (path : String) : m (Except Failure GameFile) := do
  match ← FileStore.read path with
  | .error fault => return .error ((Failure.ofUnread fault).during s!"Failed to open {path}")
  | .ok bytes =>
    return (GameFile.open? charset bytes).mapError fun e => (Failure.ofError e).during s!"Failed to open {path}"

/-- Writes a file, and says how long it has become. -/
def writeFile (path : String) (bytes : List UInt8) : m Outcome := do
  match ← FileStore.write path bytes with
  | .error fault => return .failed ((Failure.ofFault fault).during s!"Failed to write {path}")
  | .ok () => return .done [.timed s!"Wrote {path} ({bytes.length} bytes)"]

def toJson (charset : Charset) (input : String) (output : Option String) (pretty : Bool) : m Outcome := do
  match ← openFile charset input with
  | .error f => return .failed f
  | .ok file =>
    if !file.isValid then return .failed (.ofText s!"{input}: {file.fault}")
    match render charset pretty input file with
    | .error f => return .failed f
    | .ok text =>
      match output with
      | some path => writeFile path (bytesOf text)
      | none => return .done [.plain text]

def fromJson (charset : Charset) (input output : String) : m Outcome := do
  match ← FileStore.read input with
  | .error fault => return .failed ((Failure.ofFault fault).during s!"Failed to read {input}")
  | .ok bytes =>
    match encodeText charset input bytes with
    | .error f => return .failed f
    | .ok saved => writeFile output saved

def info (charset : Charset) (input : String) : m Outcome := do
  match ← openFile charset input with
  | .error f => return .failed f
  | .ok file => return layout input file

def verify (charset : Charset) (input : String) : m Outcome := do
  match ← FileStore.read input with
  | .error fault => return .failed ((Failure.ofFault fault).during s!"Failed to read {input}")
  | .ok bytes =>
    match roundTrip charset input bytes with
    | .error f => return .failed f
    | .ok line => return .done [line]

/-! ## Whole folders -/

/-- What became of a file. -/
inductive Fate where
  | converted
  /-- The file is no game file. -/
  | skipped
  | failed (f : Failure)
  deriving DecidableEq, Repr

/-- Where the text for a file goes: the same steps below the folder for the output. -/
def targetPath (output : String) (names : List String) : String :=
  (if names.isEmpty then joinPath output [""] else joinPath output names) ++ ".json"

/-- The path of a folder without separators and steps that lead nowhere at its end. -/
def trimPath : List Char → List Char
  | '/' :: c :: cs => trimPath (c :: cs)
  | '.' :: '/' :: c :: cs => trimPath (c :: cs)
  | cs => cs

/-- The folder that holds the text for a file. -/
def targetFolder (output : String) (names : List String) : String :=
  String.ofList (trimPath (joinPath output names.dropLast).toList.reverse).reverse

def convertOne (charset : Charset) (input output : String) (names : List String) : m Fate := do
  let path := joinPath input names
  match ← openFile charset path with
  | .error f => return .failed f
  | .ok file =>
    if !file.isValid then return .skipped
    match render charset true path file with
    | .error f => return .failed f
    | .ok text =>
      let folder := targetFolder output names
      match ← FileStore.makeFolders folder with
      | .error fault => return .failed ((Failure.ofFault fault).during s!"Failed to create {folder}")
      | .ok () =>
        let target := targetPath output names
        match ← FileStore.write target (bytesOf text) with
        | .error fault => return .failed ((Failure.ofFault fault).during s!"Failed to write {target}")
        | .ok () => return .converted

def convertEach (charset : Charset) (input output : String) : List (List String) → m (List Fate)
  | [] => return []
  | names :: files => do
    let fate ← convertOne charset input output names
    let fates ← convertEach charset input output files
    return fate :: fates

/-- The name by which a file is chosen. -/
def chosenName (input : String) (names : List String) : String :=
  match names.getLast? with
  | some name => name
  | none => (FileTree.steps input).getLastD input

/-- The failures among what became of files. -/
def failures (fates : List Fate) : List Failure :=
  fates.filterMap fun
    | .failed f => some f
    | _ => none

/-- The report on what became of files. -/
def tally (input : String) (fates : List Fate) : Outcome :=
  let failed := failures fates
  ⟨[.plain s!"Found {fates.length} files in {input}",
      .timed (s!"Converted {fates.count .converted} files, skipped {fates.count .skipped}, " ++
        s!"failed {failed.length}")],
    failed.map Failure.line,
    if failed.isEmpty then none else some (.ofText s!"{failed.length} files failed to convert")⟩

/-- Whether a name passes a filter; without one every name does. -/
def passes (filter : Option NamePattern) (name : String) : Bool :=
  match filter with
  | some p => p.accepts name
  | none => true

def convertFolder (charset : Charset) (input output : String) (filter : Option NamePattern) : m Outcome := do
  let files ← FileStore.filesBelow input
  let fates ← convertEach charset input output (files.filter fun names => passes filter (chosenName input names))
  return tally input fates

/-- The pattern of a filter. -/
def readFilter : Option String → Except Failure (Option NamePattern)
  | none => .ok none
  | some text =>
    match NamePattern.ofText text with
    | .ok p => .ok (some p)
    | .error (pos, fault) => .error ((Failure.ofPattern pos fault).during "Invalid filter pattern")

/-! ## Requests -/

/-- Does a job with texts in a charset. -/
def Job.run (charset : Charset) : Job → m Outcome
  | .toJson input output pretty => Tool.toJson charset input output pretty
  | .fromJson input output => Tool.fromJson charset input output
  | .info input => Tool.info charset input
  | .verify input => Tool.verify charset input
  | .convertFolder input output filter =>
    match readFilter filter with
    | .error f => return .failed f
    | .ok filter => Tool.convertFolder charset input output filter

/-- Texts are in Shift_JIS unless a request says otherwise. -/
def Request.charset (r : Request) : Except Failure Charset :=
  match r.codepage with
  | none => .ok .shiftJis
  | some label =>
    (Charset.ofLabel label).mapError fun e => ⟨s!"Invalid codepage '{label}'", [e.message]⟩

/-- Does what is requested. -/
def Request.run (r : Request) : m Outcome :=
  match r.charset with
  | .error f => return .failed f
  | .ok charset => r.job.run charset

end

end ChunkTree.Tool
