import ChunkTree.Text.EachChar

/-!
# Unicode transformation formats

UTF-8 is read and written.  UTF-16 is only read: text in it is written as UTF-8.
-/

namespace ChunkTree.Text

namespace Utf8

/-- Refuses overlong forms, surrogates and everything beyond the last code point. -/
def decode (bytes : List UInt8) : Option (List Char) :=
  (ByteArray.mk bytes.toArray).utf8Decode?.map Array.toList

def encode (cs : List Char) : Option (List UInt8) :=
  encodeEach (fun c => some (String.utf8EncodeChar c)) cs

end Utf8

namespace Utf16

/-- The 16-bit units of a byte string; a byte left over is refused. -/
def units? (unit : UInt8 → UInt8 → Nat) : List UInt8 → Option (List Nat)
  | [] => some []
  | [_] => none
  | a :: b :: rest => (units? unit rest).map (unit a b :: ·)

/-- Joins surrogate pairs; a surrogate on its own is refused. -/
def ofUnits? : List Nat → Option (List Char)
  | [] => some []
  | u :: rest =>
    if u < 0xd800 ∨ 0xe000 ≤ u then (ofUnits? rest).map (Char.ofNat u :: ·)
    else if u < 0xdc00 then
      match rest with
      | [] => none
      | v :: rest =>
        if 0xdc00 ≤ v ∧ v < 0xe000 then
          (ofUnits? rest).map (Char.ofNat (0x10000 + (u - 0xd800) * 0x400 + (v - 0xdc00)) :: ·)
        else none
    else none

def decodeLittle (bytes : List UInt8) : Option (List Char) :=
  (units? (fun a b => a.toNat + 256 * b.toNat) bytes).bind ofUnits?

def decodeBig (bytes : List UInt8) : Option (List Char) :=
  (units? (fun a b => 256 * a.toNat + b.toNat) bytes).bind ofUnits?

end Utf16

end ChunkTree.Text
