import ChunkTree.Proofs.Ascii
import ChunkTree.Proofs.Except
import ChunkTree.Proofs.LittleEndian
import ChunkTree.Proofs.Varint
import ChunkTree.Save.Content

/-!
# Sizes of content

The size that is worked out for content without chunks of its own is the number of bytes that it is written as
(`Save.contentSize_of_contentBytes`).
-/

namespace ChunkTree

open Text (Charset)

variable {charset : Charset}

theorem StoredText.encodeSized_eq_ok {text : String} {bytes : List UInt8} :
    encodeSized charset text = .ok bytes ↔
      ∃ b, encode charset text = .ok b ∧ Varint.encodeLength b.length ++ b = bytes := by
  simp only [encodeSized, bind_eq_ok, pure_eq_ok]

/-- What a command is written as. -/
theorem Command.encode_eq_ok {c : Command} {bytes : List UInt8} :
    c.encode charset = .ok bytes ↔ ∃ b, StoredText.encode charset c.text = .ok b ∧
      bytes = Varint.encode c.code ++ Varint.encode c.nest ++ (Varint.encodeLength b.length ++ b) ++
        Varint.encodeLength c.args.length ++ c.args.flatMap Varint.encodeSigned := by
  simp only [Command.encode, bind_eq_ok, pure_eq_ok, StoredText.encodeSized_eq_ok]
  constructor
  · rintro ⟨_, ⟨b, hb, rfl⟩, rfl⟩
    exact ⟨b, hb, rfl⟩
  · rintro ⟨b, hb, rfl⟩
    exact ⟨_, ⟨b, hb, rfl⟩, rfl⟩

theorem Varint.length_flatMap_encodeSigned (ns : List Int32) :
    (ns.flatMap encodeSigned).length = totalSize (ns.map Int32.toUInt32) := by
  rw [← length_flatMap_encode, List.flatMap_map]
  rfl

theorem Command.byteSize_of_encode {c : Command} {bytes : List UInt8} (h : c.encode charset = .ok bytes) :
    c.byteSize charset = .ok bytes.length := by
  obtain ⟨b, hb, rfl⟩ := encode_eq_ok.1 h
  rw [byteSize, StoredText.size_of_encode hb, ok_bind]
  simp only [List.length_append, Varint.length_encode, Varint.length_encodeLength,
    Varint.length_flatMap_encodeSigned]
  exact congrArg Except.ok (by omega)

theorem Script.encode_eq_ok {commands : List Command} {bytes : List UInt8} :
    encode charset commands = .ok bytes ↔
      ∃ parts, List.Forall₂ (fun c b => c.encode charset = .ok b) commands parts ∧ parts.flatten = bytes := by
  simp only [encode, bind_eq_ok, pure_eq_ok, mapM_eq_ok]

theorem Script.byteSize_of_encode {commands : List Command} {bytes : List UInt8}
    (h : encode charset commands = .ok bytes) : byteSize charset commands = .ok bytes.length := by
  obtain ⟨parts, hparts, rfl⟩ := encode_eq_ok.1 h
  clear h
  induction hparts with
  | nil => rfl
  | cons hc _ ih =>
    rw [byteSize, Command.byteSize_of_encode hc, ok_bind, ih, ok_bind, List.flatten_cons, List.length_append]
    rfl

theorem MapTree.length_encode (t : MapTree) : t.encode.length = t.byteSize := by
  simp only [encode, byteSize, List.length_append, Varint.length_encodeLength, Varint.length_flatMap_encode,
    Varint.length_encode]

namespace Save

/-- The size of content is the number of bytes that it is written as. -/
theorem contentSize_of_contentBytes {kind : Kind} {field : String} {v : Value} {bytes : List UInt8}
    (h : contentBytes charset kind field v = .ok bytes) :
    contentSize charset kind field v = .ok bytes.length := by
  cases kind with
  | record | table =>
    obtain rfl : [] = bytes := Except.ok.inj h
    rfl
  | float =>
    obtain ⟨x, _, h⟩ := bind_eq_ok.1 h
    obtain rfl := pure_eq_ok.1 h
    rw [LittleEndian.length_digits]
    rfl
  | string =>
    obtain ⟨text, htext, h⟩ := bind_eq_ok.1 h
    exact bind_eq_ok.2 ⟨text, htext, StoredText.size_of_encode h⟩
  | script =>
    obtain ⟨commands, hcommands, h⟩ := bind_eq_ok.1 h
    exact bind_eq_ok.2 ⟨commands, hcommands, Script.byteSize_of_encode h⟩
  | integer | bool =>
    obtain ⟨x, hx, h⟩ := bind_eq_ok.1 h
    obtain rfl := pure_eq_ok.1 h
    exact bind_eq_ok.2 ⟨x, hx, congrArg Except.ok (Varint.length_encode _).symm⟩
  | int8s | int16s | int32s =>
    obtain ⟨ns, hns, h⟩ := bind_eq_ok.1 h
    obtain rfl := pure_eq_ok.1 h
    exact bind_eq_ok.2 ⟨ns, hns, congrArg Except.ok (IntArray.length_encode _ ns).symm⟩
  | varints =>
    obtain ⟨ns, hns, h⟩ := bind_eq_ok.1 h
    obtain rfl := pure_eq_ok.1 h
    exact bind_eq_ok.2 ⟨ns, hns, congrArg Except.ok (Varint.length_flatMap_encodeSigned ns).symm⟩
  | mapTree =>
    obtain ⟨t, ht, h⟩ := bind_eq_ok.1 h
    obtain rfl := pure_eq_ok.1 h
    exact bind_eq_ok.2 ⟨t, ht, congrArg Except.ok t.length_encode.symm⟩

end Save

end ChunkTree
