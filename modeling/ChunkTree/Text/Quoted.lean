import ChunkTree.Text.Invisible

/-!
# Text and bytes in messages

How a message shows a text (`quote`) and a byte string (`hexList`).  A quoted text is unambiguous: quotes and
backslashes are escaped, and so is every character that a reader could not see.
-/

namespace ChunkTree.Text

/-- A number in lower-case hexadecimal, without leading zeros. -/
def hex (n : Nat) : String :=
  String.ofList (Nat.toDigits 16 n)

/-- A number in at least `width` hexadecimal digits. -/
def paddedHex (width n : Nat) : String :=
  let digits := Nat.toDigits 16 n
  String.ofList (List.replicate (width - digits.length) '0' ++ digits)

def quoteChar (c : Char) : String :=
  match c with
  | '"' => "\\\""
  | '\\' => "\\\\"
  | '\n' => "\\n"
  | '\r' => "\\r"
  | '\t' => "\\t"
  | '\x00' => "\\0"
  | c =>
    if c.toNat < 0x20 || c.toNat == 0x7f || (0x80 ≤ c.toNat && isInvisible c) then
      "\\u\x7b" ++ hex c.toNat ++ "\x7d"
    else c.toString

/-- A text between double quotes. -/
def quote (text : String) : String :=
  "\"" ++ String.join (text.toList.map quoteChar) ++ "\""

/-- Bytes as two-digit numbers in brackets. -/
def hexList (bytes : List UInt8) : String :=
  "[" ++ ", ".intercalate (bytes.map (fun b => paddedHex 2 b.toNat)) ++ "]"

end ChunkTree.Text
