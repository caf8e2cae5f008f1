import ChunkTree.Text.EachChar
import ChunkTree.Text.Index.Jis0208
import ChunkTree.Text.Index.Jis0212

/-!
# EUC-JP

ASCII stands alone, `0x8e` announces a half-width katakana, `0x8f` a pair of JIS X 0212, and two bytes above
`0xa0` are a pair of JIS X 0208.  Writing never uses JIS X 0212.
-/

namespace ChunkTree.Text.EucJp

/-- The pointer of two bytes above `0xa0`. -/
def pointer? (lead trail : Nat) : Option Nat :=
  if 0xa1 ≤ lead ∧ lead ≤ 0xfe ∧ 0xa1 ≤ trail ∧ trail ≤ 0xfe then some ((lead - 0xa1) * 94 + (trail - 0xa1))
  else none

/-- The character of two bytes, the first of them above ASCII. -/
def pair? (lead trail : Nat) : Option Char :=
  if lead = 0x8e then
    if 0xa1 ≤ trail ∧ trail ≤ 0xdf then some (Char.ofNat (0xff61 + (trail - 0xa1))) else none
  else (pointer? lead trail).bind jis0208.char?

def decode : List UInt8 → Option (List Char)
  | [] => some []
  | 0x8f :: lead :: trail :: rest =>
    match (pointer? lead.toNat trail.toNat).bind jis0212.char? with
    | some c => (decode rest).map (c :: ·)
    | none => none
  | b :: rest =>
    if b < 0x80 then (decode rest).map (Char.ofNat b.toNat :: ·)
    else
      match rest with
      | [] => none
      | trail :: rest =>
        match pair? b.toNat trail.toNat with
        | some c => (decode rest).map (c :: ·)
        | none => none

/-- The pointer that each character is written with. -/
def pointers : Pointers :=
  jis0208.inverse (fun _ => true)

def pair (pointer : Nat) : List UInt8 :=
  [UInt8.ofNat (pointer / 94 + 0xa1), UInt8.ofNat (pointer % 94 + 0xa1)]

def encodeChar (c : Char) : Option (List UInt8) :=
  let n := c.toNat
  if n < 0x80 then some [UInt8.ofNat n]
  else if n = 0xa5 then some [0x5c]
  else if n = 0x203e then some [0x7e]
  else if 0xff61 ≤ n ∧ n ≤ 0xff9f then some [0x8e, UInt8.ofNat (n - 0xff61 + 0xa1)]
  else if n = 0x2212 then (pointers.find? '－').map pair
  else (pointers.find? c).map pair

def encode : List Char → Option (List UInt8) :=
  encodeEach encodeChar

end ChunkTree.Text.EucJp
