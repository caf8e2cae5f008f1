import ChunkTree.Error
import ChunkTree.Schema.Documents

/-!
# What a schema refers to

The type of a schema is a kind or the name of a document that gives the kind (`Schema.resolve`).  The fields of a
record or table are listed in the schema itself or in a document that its value names (`Schema.actual`).  Neither
reference is followed further.
-/

namespace ChunkTree.Schema

/-- The kind of a schema, and the schema or document that gives it. -/
def resolve (s : Schema) : Except Error (Kind × Schema) :=
  match Kind.ofName? s.typeName with
  | some kind => .ok (kind, s)
  | none =>
    match Document.find? s.typeName with
    | none => .error (.schemaNotFound s.typeName)
    | some target =>
      match Kind.ofName? target.typeName with
      | some kind => .ok (kind, target)
      | none => .error (.aliasOfAlias s.typeName target.typeName)

/-- The schema of the expected kind that lists the fields. -/
def actual (s : Schema) (expected : Kind) : Except Error Schema := do
  let (kind, resolved) ← s.resolve
  if kind ≠ expected then
    throw (.typeMismatch expected.name kind.name)
  match resolved.value? with
  | none => return resolved
  | some (.array _) => return resolved
  | some (.string name) =>
    match Document.find? name with
    | none => throw (.schemaNotFound name)
    | some target =>
      if target.typeName = expected.name then return target
      else throw (.typeMismatch expected.name target.typeName)
  | some other => throw (.strangeFields expected.name resolved.label other.kind)

end ChunkTree.Schema
