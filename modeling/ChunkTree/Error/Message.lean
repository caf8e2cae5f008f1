import ChunkTree.Error
import ChunkTree.Text.Quoted

/-!
# Error messages

`Error.message` is the wording of each error.
-/

namespace ChunkTree

/-- The text under which an error is reported. -/
def Error.message : Error → String
  | truncated needed available => s!"truncated stream: needed {needed} bytes but only {available} available"
  | varintOverflow offset => s!"BER integer at offset {offset} does not fit in 32 bits"
  | beyondEnd => "empty range beyond the end of the stream"
  | undecodable charset bytes => s!"{charset.name}: invalid byte sequence in " ++ Text.hexList bytes
  | unencodable charset text => s!"{charset.name}: " ++ Text.quote text ++ " is not representable"
  | unknownCharset label => s!"unknown codepage: {label}"
  | schemaNotFound name => s!"schema not found: {name}"
  | aliasOfAlias name target => s!"invalid schema: alias '{name}' resolves to non-base type '{target}'"
  | strangeFields type label found => s!"invalid schema: {type} '{label}' has a {found} value"
  | fieldWithoutIndex schema field => s!"invalid schema: {schema}.{field} has no index"
  | typeMismatch expected actual => s!"type mismatch: expected {expected}, found {actual}"
  | corruptOrdering offset previous index =>
    s!"corrupt ordering at offset {offset}: index {index.toNat} follows {previous.toNat}"
  | chunkLength offset expected consumed =>
    s!"chunk at offset {offset} declares {expected} bytes but {consumed} were consumed"
  | missingField field => s!"missing field: {field}"
  | missingValue field => s!"no value or default for {field}"
  | unknownField schema field => s!"unknown field '{field}' in {schema}"
  | invalidValue field expected actual => s!"invalid value for {field}: expected {expected}, found {actual}"
  | valueOutOfRange field value => s!"value {value} out of range for {field}"
  | sizeMismatch field expected actual =>
    s!"size mismatch for {field}: calculated {expected} bytes, wrote {actual}"
  | unsupportedRoot type => s!"unsupported root type: {type}"

/-- The texts of an error and of what lies beneath it.  An error about bytes or text is reported for the view
and again for the bytes it was read from. -/
def Error.causes (e : Error) : List String :=
  if e.isPrimitive then [e.message, e.message] else [e.message]

end ChunkTree
