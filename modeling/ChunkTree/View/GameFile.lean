import ChunkTree.View.Tree

/-!
# Game files

A file starts with its signature, and then holds one root after the other.  Where a root ends shows only when it is
parsed, unless its slot says that it has its length in front.  A file whose signature cannot be read or is not known
is not an error, but has no contents.
-/

namespace ChunkTree

open Text (Charset)

/-- Why a file has no contents. -/
inductive HeaderFault where
  | unreadable (cause : Error)
  | unknownSignature (signature : String)
  deriving DecidableEq, Repr

/-- The document of a file, its roots, and the number of bytes after the last one. -/
structure Contents where
  schema : Schema
  roots : List Chunk
  trailing : Nat
  deriving Inhabited, Repr

/-- A file. -/
structure GameFile where
  bytes : List UInt8
  signature : String
  contents : Except HeaderFault Contents

namespace GameFile

/-- Passes over the content of a root. -/
def skipRoot (slot : Schema) : Parse Unit := do
  match slot.resolve with
  | .error e => throw e
  | .ok (kind, _) =>
    match kind with
    | .record =>
      match slot.actual .record with
      | .error e => throw e
      | .ok schema => discard (Record.parse schema none)
    | .table =>
      match slot.actual .table with
      | .error e => throw e
      | .ok schema => discard (Table.parse schema)
    | .mapTree => discard MapTree.parse
    | .integer | .bool => discard Varint.parse
    | .float => discard Chunk.parseFloat
    | other => throw (.unsupportedRoot other.name)

/-- Reads a root that ends where its content does. -/
def measureRoot (slot : Schema) : Parse Chunk := fun start =>
  match skipRoot slot start with
  | .ok _ stop => .ok ⟨some slot, some ⟨start.pos, start.rest.take (stop.pos - start.pos)⟩⟩ stop
  | .error e stop => .error e stop

/-- Reads a root, leaving its content undecoded. -/
def parseRoot (slot : Schema) : Parse Chunk :=
  if slot.isSized then do
    let length ← Varint.parseLength
    let offset ← Parse.position
    let bytes ← Parse.bytes length
    return ⟨some slot, some ⟨offset, bytes⟩⟩
  else measureRoot slot

def parseRoots : List Schema → Parse (List Chunk)
  | [] => pure []
  | slot :: slots => do
    let root ← parseRoot slot
    let roots ← parseRoots slots
    return root :: roots

/-- Opens a file.  Fails when a root of a known file cannot be parsed. -/
def open? (charset : Charset) (bytes : List UInt8) : Except Error GameFile :=
  match StoredText.parseSized charset ⟨0, bytes⟩ with
  | .error e _ => .ok ⟨bytes, "", .error (.unreadable e)⟩
  | .ok signature c =>
    match Document.ofSignature? signature with
    | none => .ok ⟨bytes, signature, .error (.unknownSignature signature)⟩
    | some schema =>
      match parseRoots schema.roots c with
      | .error e _ => .error e
      | .ok roots c => .ok ⟨bytes, signature, .ok ⟨schema, roots, c.remaining⟩⟩

def contents? (f : GameFile) : Option Contents :=
  match f.contents with
  | .ok contents => some contents
  | .error _ => none

def isValid (f : GameFile) : Bool :=
  f.contents?.isSome

def roots (f : GameFile) : List Chunk :=
  (f.contents?.map Contents.roots).getD []

def trailing (f : GameFile) : Nat :=
  (f.contents?.map Contents.trailing).getD 0

/-- The record in the first root. -/
def record (f : GameFile) : Except Error Record :=
  match f.roots with
  | root :: _ => root.record
  | [] => .error (.missingField s!"{f.signature} root #0")

end GameFile

end ChunkTree
