import ChunkTree.Text.EachChar
import ChunkTree.Text.Index.EucKr

/-!
# EUC-KR

ASCII stands alone, all else is a pair of lead and trail byte of the unified Hangul code.
-/

namespace ChunkTree.Text.EucKr

def pair? (lead trail : Nat) : Option Char :=
  if 0x81 ≤ lead ∧ lead ≤ 0xfe ∧ 0x41 ≤ trail ∧ trail ≤ 0xfe then
    eucKrIndex.char? ((lead - 0x81) * 190 + (trail - 0x41))
  else none

def decode : List UInt8 → Option (List Char)
  | [] => some []
  | b :: rest =>
    if b < 0x80 then (decode rest).map (Char.ofNat b.toNat :: ·)
    else
      match rest with
      | [] => none
      | trail :: rest =>
        match pair? b.toNat trail.toNat with
        | some c => (decode rest).map (c :: ·)
        | none => none

/-- The pointer that each character is written with. -/
def pointers : Pointers :=
  eucKrIndex.inverse (fun _ => true)

def pair (pointer : Nat) : List UInt8 :=
  [UInt8.ofNat (pointer / 190 + 0x81), UInt8.ofNat (pointer % 190 + 0x41)]

def encodeChar (c : Char) : Option (List UInt8) :=
  if c.toNat < 0x80 then some [UInt8.ofNat c.toNat] else (pointers.find? c).map pair

def encode : List Char → Option (List UInt8) :=
  encodeEach encodeChar

end ChunkTree.Text.EucKr
