import ChunkTree.Text.EachChar
import ChunkTree.Text.Index.Big5

/-!
# Big5

ASCII stands alone, all else is a pair of lead and trail byte.  Four pairs stand for a letter with a combining
mark.  Writing keeps to the leads from `0xa1` on, and prefers the later pointer of six characters that have two.
-/

namespace ChunkTree.Text.Big5

/-- The pointer of a lead and a trail byte. -/
def pointer? (lead trail : Nat) : Option Nat :=
  if 0x81 ≤ lead ∧ lead ≤ 0xfe then
    if 0x40 ≤ trail ∧ trail ≤ 0x7e then some ((lead - 0x81) * 157 + (trail - 0x40))
    else if 0xa1 ≤ trail ∧ trail ≤ 0xfe then some ((lead - 0x81) * 157 + (trail - 0x62))
    else none
  else none

/-- The characters of a pointer. -/
def ofPointer? (pointer : Nat) : Option (List Char) :=
  match pointer with
  | 1133 => some ['\u00ca', '\u0304']
  | 1135 => some ['\u00ca', '\u030c']
  | 1164 => some ['\u00ea', '\u0304']
  | 1166 => some ['\u00ea', '\u030c']
  | pointer => (big5Index.char? pointer).map ([·])

def decode : List UInt8 → Option (List Char)
  | [] => some []
  | b :: rest =>
    if b < 0x80 then (decode rest).map (Char.ofNat b.toNat :: ·)
    else
      match rest with
      | [] => none
      | trail :: rest =>
        match (pointer? b.toNat trail.toNat).bind ofPointer? with
        | some cs => (decode rest).map (cs ++ ·)
        | none => none

/-- The pointer that each character is written with: the first from lead `0xa1` on. -/
def pointers : Pointers :=
  big5Index.inverse (fun pointer => 5024 ≤ pointer)

/-- The pointer of the six characters that take their last one. -/
def lastPointer? (c : Char) : Option Nat :=
  match c.toNat with
  | 0x2550 => some 18991
  | 0x255e => some 18975
  | 0x256a => some 18976
  | 0x2561 => some 18977
  | 0x5341 => some 5512
  | 0x5345 => some 5599
  | _ => none

def pair (pointer : Nat) : List UInt8 :=
  let cell := pointer % 157
  [UInt8.ofNat (pointer / 157 + 0x81), UInt8.ofNat (cell + if cell < 0x3f then 0x40 else 0x62)]

def encodeChar (c : Char) : Option (List UInt8) :=
  if c.toNat < 0x80 then some [UInt8.ofNat c.toNat]
  else (lastPointer? c <|> pointers.find? c).map pair

def encode : List Char → Option (List UInt8) :=
  encodeEach encodeChar

end ChunkTree.Text.Big5
