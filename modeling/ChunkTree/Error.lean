import ChunkTree.Text.Charset

/-!
# Errors

Everything that reading or saving chunk data can fail with, as causes.  The wording is in `Error.message`.
-/

namespace ChunkTree

open Text (Charset)

/-- Why an operation failed. -/
inductive Error where
  /-- A read asked for more bytes than the range still holds. -/
  | truncated (needed available : Nat)
  /-- A varint, starting at `offset`, is too large for 32 bits. -/
  | varintOverflow (offset : Nat)
  /-- An empty slice was taken at a position beyond the end of the buffer. -/
  | beyondEnd
  | undecodable (charset : Charset) (bytes : List UInt8)
  | unencodable (charset : Charset) (text : String)
  | unknownCharset (label : String)
  | schemaNotFound (name : String)
  /-- An alias names a document of type `target`, which is no base type. -/
  | aliasOfAlias (name target : String)
  /-- A composite schema has a value of a kind that says nothing about its fields. -/
  | strangeFields (type label found : String)
  /-- A field with an entry to save has no index to save it under. -/
  | fieldWithoutIndex (schema field : String)
  | typeMismatch (expected actual : String)
  /-- Indices of chunks or rows are out of order. -/
  | corruptOrdering (offset : Nat) (previous index : UInt32)
  /-- Decoding a chunk did not end where the chunk ends. -/
  | chunkLength (offset expected consumed : Nat)
  | missingField (field : String)
  | missingValue (field : String)
  | unknownField (schema field : String)
  | invalidValue (field expected actual : String)
  | valueOutOfRange (field : String) (value : Int)
  /-- A field took another number of bytes than was computed for it. -/
  | sizeMismatch (field : String) (expected actual : Nat)
  | unsupportedRoot (type : String)
  deriving DecidableEq, Repr

namespace Error

/-- Whether an error concerns bytes or text rather than their arrangement in chunks. -/
def isPrimitive : Error → Bool
  | truncated .. | varintOverflow .. | beyondEnd | undecodable .. | unencodable .. | unknownCharset .. => true
  | _ => false

end Error

end ChunkTree
