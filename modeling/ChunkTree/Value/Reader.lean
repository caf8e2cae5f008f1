import ChunkTree.Binary64.Literal
import ChunkTree.Value.Basic
import ChunkTree.Value.NonFinite

/-!
# Reading values from text

`Value.ofText?` reads the JSON form of a value.  A number is an integer if it is written as one and has 64 bits,
and a float otherwise; a number too large for a float is refused, and so is a lone surrogate and a tree nested
deeper than the given bound.
-/

namespace ChunkTree.Value

def isSpace (c : Char) : Bool :=
  c == ' ' || c == '\n' || c == '\t' || c == '\r'

def skipSpace (cs : List Char) : List Char :=
  cs.dropWhile isSpace

/-- The number of four hexadecimal digits. -/
def unit? (a b c d : Char) : Option Nat :=
  NonFinite.hexFrom? 0 [a, b, c, d]

/-- The character after a backslash that is not `u`. -/
def escape? : Char → Option Char
  | '"' => some '"'
  | '\\' => some '\\'
  | '/' => some '/'
  | 'b' => some '\x08'
  | 'f' => some '\x0c'
  | 'n' => some '\n'
  | 'r' => some '\r'
  | 't' => some '\t'
  | _ => none

/-- The character of a pair of surrogates. -/
def surrogates? (high low : Nat) : Option Char :=
  if 0xd800 ≤ high ∧ high < 0xdc00 ∧ 0xdc00 ≤ low ∧ low < 0xe000 then
    some (Char.ofNat (0x10000 + (high - 0xd800) * 0x400 + (low - 0xdc00)))
  else none

/-- The characters of a string up to its closing quote, and what follows it. -/
def readString : List Char → Option (List Char × List Char)
  | [] => none
  | '"' :: rest => some ([], rest)
  | '\\' :: 'u' :: a :: b :: c :: d :: rest =>
    match unit? a b c d with
    | none => none
    | some high =>
      if high < 0xd800 ∨ 0xe000 ≤ high then
        (readString rest).map fun (cs, rest) => (Char.ofNat high :: cs, rest)
      else
        match rest with
        | '\\' :: 'u' :: e :: f :: g :: h :: rest =>
          match (unit? e f g h).bind (surrogates? high) with
          | some char => (readString rest).map fun (cs, rest) => (char :: cs, rest)
          | none => none
        | _ => none
  | '\\' :: e :: rest =>
    match escape? e with
    | some char => (readString rest).map fun (cs, rest) => (char :: cs, rest)
    | none => none
  | c :: rest =>
    if c.toNat < 0x20 ∨ c = '\\' then none
    else (readString rest).map fun (cs, rest) => (c :: cs, rest)

/-- The decimal digits at the start, and what follows them. -/
def readDigits (cs : List Char) : List Nat × List Char :=
  ((cs.takeWhile Char.isDigit).map fun c => c.toNat - 48, cs.dropWhile Char.isDigit)

/-- The digits before the point: a zero stands alone. -/
def readWhole (cs : List Char) : Option (List Nat × List Char) :=
  match readDigits cs with
  | ([], _) => none
  | (0 :: _ :: _, _) => none
  | result => some result

/-- The digits after the point, if there is one. -/
def readFraction (cs : List Char) : Option (Option (List Nat) × List Char) :=
  match cs with
  | '.' :: rest =>
    match readDigits rest with
    | ([], _) => none
    | (digits, rest) => some (some digits, rest)
  | cs => some (none, cs)

/-- The exponent, if there is one. -/
def readExponent (cs : List Char) : Option (Option Int × List Char) :=
  match cs with
  | c :: rest =>
    if c = 'e' ∨ c = 'E' then
      let isNegative := rest.head? = some '-'
      let digits := if rest.head? = some '-' ∨ rest.head? = some '+' then rest.tail else rest
      match readDigits digits with
      | ([], _) => none
      | (digits, rest) =>
        let n : Nat := digits.foldl (fun n d => n * 10 + d) 0
        some (some (if isNegative then -n else n), rest)
    else some (none, cs)
  | [] => some (none, [])

def readLiteral (cs : List Char) : Option (Literal × List Char) := do
  let isNegative := cs.head? = some '-'
  let (whole, cs) ← readWhole (if isNegative then cs.tail else cs)
  let (fraction, cs) ← readFraction cs
  let (exponent, cs) ← readExponent cs
  return (⟨isNegative, whole, fraction, exponent⟩, cs)

def ofLiteral? (l : Literal) : Option Value :=
  match l.toInt64? with
  | some n => some (int n)
  | none => l.toBinary64?.map float

mutual

/-- Reads a value and returns what follows it.  `nesting` bounds how deep arrays and objects may still be nested,
`fuel` the number of steps. -/
def readValue (nesting : Nat) : (fuel : Nat) → List Char → Option (Value × List Char)
  | 0, _ => none
  | fuel + 1, cs =>
    match skipSpace cs with
    | 'n' :: 'u' :: 'l' :: 'l' :: rest => some (null, rest)
    | 't' :: 'r' :: 'u' :: 'e' :: rest => some (bool true, rest)
    | 'f' :: 'a' :: 'l' :: 's' :: 'e' :: rest => some (bool false, rest)
    | '"' :: rest => (readString rest).map fun (cs, rest) => (string (String.ofList cs), rest)
    | '[' :: rest =>
      match nesting with
      | 0 => none
      | nesting + 1 =>
        match skipSpace rest with
        | ']' :: rest => some (array [], rest)
        | rest => (readItems nesting fuel rest).map fun (items, rest) => (array items, rest)
    | '\x7b' :: rest =>
      match nesting with
      | 0 => none
      | nesting + 1 =>
        match skipSpace rest with
        | '\x7d' :: rest => some (object [], rest)
        | rest =>
          (readMembers nesting fuel rest).map fun (entries, rest) => (object (Fields.ofList entries), rest)
    | cs => (readLiteral cs).bind fun (literal, rest) => (ofLiteral? literal).map fun v => (v, rest)

/-- Reads the items of an array that is not empty, up to its end. -/
def readItems (nesting : Nat) : (fuel : Nat) → List Char → Option (List Value × List Char)
  | 0, _ => none
  | fuel + 1, cs =>
    match readValue nesting fuel cs with
    | none => none
    | some (v, rest) =>
      match skipSpace rest with
      | ',' :: rest => (readItems nesting fuel rest).map fun (items, rest) => (v :: items, rest)
      | ']' :: rest => some ([v], rest)
      | _ => none

/-- Reads the entries of an object that is not empty, up to its end. -/
def readMembers (nesting : Nat) : (fuel : Nat) → List Char → Option (List (String × Value) × List Char)
  | 0, _ => none
  | fuel + 1, cs =>
    match skipSpace cs with
    | '"' :: rest =>
      match readString rest with
      | none => none
      | some (key, rest) =>
        match skipSpace rest with
        | ':' :: rest =>
          match readValue nesting fuel rest with
          | none => none
          | some (v, rest) =>
            match skipSpace rest with
            | ',' :: rest =>
              (readMembers nesting fuel rest).map fun (entries, rest) => ((String.ofList key, v) :: entries, rest)
            | '\x7d' :: rest => some ([(String.ofList key, v)], rest)
            | _ => none
        | _ => none
    | _ => none

end

/-- The value that a whole text stands for, nested at most `nesting` deep. -/
def ofText? (nesting : Nat) (text : String) : Option Value :=
  let cs := text.toList
  match readValue nesting (cs.length + 1) cs with
  | some (v, rest) => if (skipSpace rest).isEmpty then some v else none
  | none => none

/-- How deep a text may be nested when it comes from outside. -/
def maxNesting : Nat := 127

end ChunkTree.Value
