/-!
# Text encoded character by character

Most charsets write each character on its own.  `encodeEach` joins what they write, and fails when one character
has no form.
-/

namespace ChunkTree.Text

/-- The bytes of all characters in order, if each has some. -/
def encodeEach (encodeChar : Char → Option (List UInt8)) : List Char → Option (List UInt8)
  | [] => some []
  | c :: cs =>
    match encodeChar c, encodeEach encodeChar cs with
    | some bytes, some rest => some (bytes ++ rest)
    | _, _ => none

end ChunkTree.Text
