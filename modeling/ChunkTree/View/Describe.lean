import ChunkTree.Error.Message
import ChunkTree.View.GameFile

/-!
# Descriptions

Short texts that show what a view is and where it lies, without its content.
-/

namespace ChunkTree

/-- A description: a name and named parts. -/
def describe (name : String) (parts : List (String × String)) : String :=
  name ++ " \x7b " ++ ", ".intercalate (parts.map fun part => part.1 ++ ": " ++ part.2) ++ " \x7d"

def describeOption (n : Option UInt32) : String :=
  match n with
  | some n => s!"Some({n.toNat})"
  | none => "None"

def describeList (items : List String) : String :=
  "[" ++ ", ".intercalate items ++ "]"

/-- A buffer shows its length only. -/
def describeBytes (bytes : List UInt8) : String :=
  describe "Stream" [("len", toString bytes.length)]

def Schema.describe (s : Schema) : String :=
  ChunkTree.describe "Schema"
    [("label", Text.quote s.label), ("type", Text.quote s.typeName), ("index", describeOption s.index?)]

def IntArray.describe (a : IntArray) : String :=
  describeList (a.toList.map toString)

def Chunk.describe (c : Chunk) : String :=
  ChunkTree.describe "Element"
    [("field", Text.quote c.label), ("offset", toString c.offset), ("len", toString c.length),
      ("absent", toString c.isAbsent)]

def Record.describe (r : Record) : String :=
  ChunkTree.describe "Array1d"
    [("schema", Text.quote r.schema.label), ("row", describeOption r.row),
      ("chunks", toString r.entries.length), ("len", toString r.length)]

def Table.describe (t : Table) : String :=
  ChunkTree.describe "Array2d"
    [("schema", Text.quote t.schema.label), ("rows", toString t.rows.length), ("len", toString t.length)]

def GameFile.describe (f : GameFile) : String :=
  ChunkTree.describe "LcfFile"
    [("signature", Text.quote f.signature), ("valid", toString f.isValid),
      ("roots", describeList (f.roots.map Chunk.describe)), ("trailing", toString f.trailing)]

def HeaderFault.message : HeaderFault → String
  | unreadable cause => "failed to read signature: " ++ cause.message
  | unknownSignature signature => s!"unknown signature '{signature}'"

/-- Why a file has no contents; empty if it has some. -/
def GameFile.fault (f : GameFile) : String :=
  match f.contents with
  | .ok _ => ""
  | .error fault => fault.message

/-- The value of a file: its signature and the values of its roots. -/
def GameFile.toValue (charset : Text.Charset) (f : GameFile) : Except Error Value :=
  match f.contents with
  | .error fault => .error (.schemaNotFound fault.message)
  | .ok contents => do
    let roots ← contents.roots.mapM (Chunk.toValue charset)
    return .object [("signature", .string f.signature), ("root", .array roots)]

end ChunkTree
