import ChunkTree.Text.Index.Jis0208

/-!
# ISO-2022-JP

A seven-bit charset with a state: escape sequences say how the bytes after them are to be read.  A text starts
and ends in the ASCII state.  The control characters `0x0e`, `0x0f` and `0x1b` have no form of their own, so here
not every ASCII text can be written.
-/

namespace ChunkTree.Text.Iso2022Jp

/-- How bytes are read. -/
inductive Mode where
  | ascii | roman | katakana | kanji
  deriving DecidableEq, Repr

/-- The two bytes after an escape that select a mode. -/
def Mode.ofEscape? : UInt8 → UInt8 → Option Mode
  | 0x28, 0x42 => some .ascii
  | 0x28, 0x4a => some .roman
  | 0x28, 0x49 => some .katakana
  | 0x24, 0x40 => some .kanji
  | 0x24, 0x42 => some .kanji
  | _, _ => none

/-- The controls that shift between sets and so cannot be characters. -/
def isShift (n : Nat) : Bool :=
  n == 0x0e || n == 0x0f || n == 0x1b

/-- The character of a single byte. -/
def single? (mode : Mode) (b : Nat) : Option Char :=
  match mode with
  | .ascii => if b < 0x80 ∧ !isShift b then some (Char.ofNat b) else none
  | .roman =>
    if b = 0x5c then some '\u00a5'
    else if b = 0x7e then some '\u203e'
    else if b < 0x80 ∧ !isShift b then some (Char.ofNat b)
    else none
  | .katakana => if 0x21 ≤ b ∧ b ≤ 0x5f then some (Char.ofNat (0xff61 + (b - 0x21))) else none
  | .kanji => none

/-- The character of a pair in the kanji mode. -/
def pair? (lead trail : Nat) : Option Char :=
  if 0x21 ≤ lead ∧ lead ≤ 0x7e ∧ 0x21 ≤ trail ∧ trail ≤ 0x7e then
    jis0208.char? ((lead - 0x21) * 94 + (trail - 0x21))
  else none

/-- Reads in a mode.  `escaped` says that an escape has just been read: a second one right after it is
refused. -/
def decodeIn (mode : Mode) (escaped : Bool) : List UInt8 → Option (List Char)
  | [] => some []
  | 0x1b :: rest =>
    match rest with
    | a :: b :: rest =>
      match Mode.ofEscape? a b with
      | some next => if escaped then none else decodeIn next true rest
      | none => none
    | _ => none
  | b :: rest =>
    if mode = .kanji then
      match rest with
      | [] => none
      | trail :: rest =>
        match pair? b.toNat trail.toNat with
        | some c => (decodeIn mode false rest).map (c :: ·)
        | none => none
    else
      match single? mode b.toNat with
      | some c => (decodeIn mode false rest).map (c :: ·)
      | none => none

def decode : List UInt8 → Option (List Char) :=
  decodeIn .ascii false

/-- The pointer that each character is written with. -/
def pointers : Pointers :=
  jis0208.inverse (fun _ => true)

/-- Half-width katakana are written as their full-width forms, starting from `U+FF61`. -/
def fullWidth : List Char :=
  "。「」、・ヲァィゥェォャュョッーアイウエオカキクケコサシスセソタチツテトナニヌネノハヒフヘホマミムメモヤユヨラリルレロワン゛゜".toList

/-- The character that is written for a character outside ASCII. -/
def standard (c : Char) : Char :=
  if c.toNat = 0x2212 then '－'
  else if 0xff61 ≤ c.toNat ∧ c.toNat ≤ 0xff9f then fullWidth.getD (c.toNat - 0xff61) c
  else c

def enter : Mode → List UInt8
  | .ascii => [0x1b, 0x28, 0x42]
  | .roman => [0x1b, 0x28, 0x4a]
  | .katakana => [0x1b, 0x28, 0x49]
  | .kanji => [0x1b, 0x24, 0x42]

/-- The mode that a character is written in, given the mode in force, and its bytes in that mode. -/
def encodeChar (mode : Mode) (c : Char) : Option (Mode × List UInt8) :=
  let n := c.toNat
  if n < 0x80 then
    if isShift n then none
    else if mode = .roman ∧ n ≠ 0x5c ∧ n ≠ 0x7e then some (.roman, [UInt8.ofNat n])
    else some (.ascii, [UInt8.ofNat n])
  else if n = 0xa5 then some (.roman, [0x5c])
  else if n = 0x203e then some (.roman, [0x7e])
  else
    (pointers.find? (standard c)).map fun pointer =>
      (.kanji, [UInt8.ofNat (pointer / 94 + 0x21), UInt8.ofNat (pointer % 94 + 0x21)])

def encodeFrom (mode : Mode) : List Char → Option (List UInt8)
  | [] => some (if mode = .ascii then [] else enter .ascii)
  | c :: cs =>
    match encodeChar mode c with
    | some (next, bytes) =>
      (encodeFrom next cs).map fun rest => (if next = mode then [] else enter next) ++ bytes ++ rest
    | none => none

def encode : List Char → Option (List UInt8) :=
  encodeFrom .ascii

end ChunkTree.Text.Iso2022Jp
