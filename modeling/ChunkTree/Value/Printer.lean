import ChunkTree.Binary64.Shortest
import ChunkTree.Value.Basic
import ChunkTree.Value.NonFinite

/-!
# Writing values as text

The text form of a value is JSON.  `Value.toText` leaves out all space, `Value.toPrettyText` puts every entry on a
line of its own.  Floats that are not finite are written as texts.
-/

namespace ChunkTree.Value

/-- A character inside a string.  Only what cannot stand there is escaped. -/
def escapeChar (c : Char) : List Char :=
  match c with
  | '"' => ['\\', '"']
  | '\\' => ['\\', '\\']
  | '\n' => ['\\', 'n']
  | '\r' => ['\\', 'r']
  | '\t' => ['\\', 't']
  | '\x08' => ['\\', 'b']
  | '\x0c' => ['\\', 'f']
  | c =>
    if c.toNat < 0x20 then ['\\', 'u', '0', '0', Nat.digitChar (c.toNat / 16), Nat.digitChar (c.toNat % 16)]
    else [c]

/-- The text of a string. -/
def stringText (s : String) : String :=
  "\"" ++ String.ofList (s.toList.flatMap escapeChar) ++ "\""

/-- The text of a value that has no parts. -/
def scalarText : Value → String
  | null => "null"
  | bool b => if b then "true" else "false"
  | int n => toString n.toInt
  | float x => if x.isFinite then x.toText else stringText (NonFinite.text x)
  | string s => stringText s
  | array _ => "[]"
  | object _ => "\x7b\x7d"

mutual

/-- The text of a value without any space. -/
def toText : Value → String
  | array items => "[" ++ itemsText items ++ "]"
  | object fields => "\x7b" ++ fieldsText fields ++ "\x7d"
  | v => v.scalarText

def itemsText : List Value → String
  | [] => ""
  | [v] => v.toText
  | v :: items => v.toText ++ "," ++ itemsText items

def fieldsText : List (String × Value) → String
  | [] => ""
  | [(k, v)] => stringText k ++ ":" ++ v.toText
  | (k, v) :: fields => stringText k ++ ":" ++ v.toText ++ "," ++ fieldsText fields

end

/-- A line break and the indentation of a level. -/
def lineBreak (level : Nat) : String :=
  "\n" ++ String.ofList (List.replicate (2 * level) ' ')

mutual

/-- The text of a value with an entry on each line, two spaces for each level. -/
def prettyText (level : Nat) : Value → String
  | array [] => "[]"
  | array items => "[" ++ prettyItems (level + 1) items ++ lineBreak level ++ "]"
  | object [] => "\x7b\x7d"
  | object fields => "\x7b" ++ prettyFields (level + 1) fields ++ lineBreak level ++ "\x7d"
  | v => v.scalarText

def prettyItems (level : Nat) : List Value → String
  | [] => ""
  | [v] => lineBreak level ++ prettyText level v
  | v :: items => lineBreak level ++ prettyText level v ++ "," ++ prettyItems level items

def prettyFields (level : Nat) : List (String × Value) → String
  | [] => ""
  | [(k, v)] => lineBreak level ++ stringText k ++ ": " ++ prettyText level v
  | (k, v) :: fields =>
    lineBreak level ++ stringText k ++ ": " ++ prettyText level v ++ "," ++ prettyFields level fields

end

def toPrettyText (v : Value) : String :=
  prettyText 0 v

end ChunkTree.Value
