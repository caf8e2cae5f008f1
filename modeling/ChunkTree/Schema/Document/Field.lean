import ChunkTree.Value.Basic

/-!
# Building documents

The parts that registered documents are made of.  The order of the entries shows when a document is printed.
-/

namespace ChunkTree.Document

/-- A field without a default. -/
def plain (index : Int64) (name type : String) : Value :=
  .object [("index", .int index), ("name", .string name), ("type", .string type)]

/-- A field with a default. -/
def preset (index : Int64) (name type : String) (default : Value) : Value :=
  .object [("index", .int index), ("name", .string name), ("type", .string type), ("value", default)]

/-- A field that holds the size of another one. -/
def count (index : Int64) (name type : String) (default : Value) (target : String) : Value :=
  .object [("index", .int index), ("name", .string name), ("type", .string type), ("value", default),
    ("size_of", .string target)]

/-- A field that is a table of the given document. -/
def rows (index : Int64) (name document : String) : Value :=
  preset index name "array2d" (.string document)

/-- A document that lists the fields of a record or of the rows of a table. -/
def composite (name type : String) (fields : List Value) : Value :=
  .object [("name", .string name), ("type", .string type), ("value", .array fields)]

/-- A document that gives a type another name. -/
def aliasOf (name type : String) : Value :=
  .object [("name", .string name), ("type", .string type)]

/-- A root of a file, perhaps with the document that lists its fields. -/
def root (name type : String) (document : Option String) : Value :=
  .object ([("name", .string name), ("type", .string type)] ++ (document.map fun d => ("value", .string d)).toList)

/-- A document that describes a file. -/
def file (signature : String) (roots : List Value) : Value :=
  .object [("signature", .string signature), ("type", .string "file"), ("root", .array roots)]

end ChunkTree.Document
