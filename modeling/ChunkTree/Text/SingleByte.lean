import ChunkTree.Text.EachChar
import ChunkTree.Text.Index.SingleByte

/-!
# Single-byte charsets

Every byte is a character.  The lower half is ASCII; the upper half comes from the code page, or, for
user-defined text, from a private block.
-/

namespace ChunkTree.Text

/-- Reads each byte on its own. -/
def decodeEach (decodeByte : UInt8 → Option Char) : List UInt8 → Option (List Char)
  | [] => some []
  | b :: rest =>
    match decodeByte b, decodeEach decodeByte rest with
    | some c, some cs => some (c :: cs)
    | _, _ => none

namespace CodePage

def decodeByte (page : CodePage) (b : UInt8) : Option Char :=
  if b < 0x80 then some (Char.ofNat b.toNat) else page.index.char? (b.toNat - 0x80)

/-- The byte of a character: the first one that reads as it. -/
def encodeChar (page : CodePage) (c : Char) : Option (List UInt8) :=
  if c.toNat < 0x80 then some [UInt8.ofNat c.toNat]
  else ((List.range 128).find? (fun k => page.index.char? k == some c)).map fun k => [UInt8.ofNat (k + 0x80)]

end CodePage

namespace UserDefined

def decodeByte (b : UInt8) : Option Char :=
  if b < 0x80 then some (Char.ofNat b.toNat) else some (Char.ofNat (0xf780 + (b.toNat - 0x80)))

def encodeChar (c : Char) : Option (List UInt8) :=
  if c.toNat < 0x80 then some [UInt8.ofNat c.toNat]
  else if 0xf780 ≤ c.toNat ∧ c.toNat ≤ 0xf7ff then some [UInt8.ofNat (c.toNat - 0xf780 + 0x80)]
  else none

end UserDefined

end ChunkTree.Text
