import ChunkTree.Proofs.RefusedTexts
import ChunkTree.Proofs.ShiftJis

/-!
# Texts in Shift_JIS, stored and read

A text that can be stored is read back, with the merged characters changed, and only texts with characters that
cannot be written are refused (`StoredText.shiftJis_stored_and_read`).  A text that was read can be stored again
unless it holds a character of the user-defined block, and no file is refused for any other of its texts
(`StoredText.shiftJis_read_and_stored`).
-/

namespace ChunkTree.StoredText

open Text (Charset)
open Text.ShiftJis (IsMerged IsUserDefined Writable readBack)

variable {charset : Charset} {text : String} {bytes : List UInt8}

/-- A text with its length in front is read as what its bytes are decoded to, if the length fits in a word. -/
theorem parseSized_stored (pos : Nat) (rest : List UInt8) :
    parseSized charset ⟨pos, Varint.encodeLength bytes.length ++ bytes ++ rest⟩ =
        .ok text ⟨pos + (Varint.encodeLength bytes.length ++ bytes).length, rest⟩ ↔
      bytes.length < 0x100000000 ∧ charset.decode bytes = some text := by
  refine Parse.bind_eq_ok.trans ⟨?_, ?_⟩
  · rintro ⟨n, c, hn, h⟩
    rw [List.append_assoc] at hn
    obtain ⟨rfl, rfl⟩ := EStateM.Result.ok.inj ((Varint.takes_parseLength_mod pos bytes.length _).symm.trans hn)
    obtain ⟨bs, hbs, htext⟩ := parse_eq_ok.1 h
    obtain ⟨hlength, hrest, _⟩ := Parse.bytes_eq_ok.1 hbs
    obtain rfl := List.append_cancel_right hrest
    exact ⟨by omega, htext⟩
  · rintro ⟨hlt, htext⟩
    have htakes : ∀ pos, (parse charset bytes.length).Takes pos bytes text :=
      fun pos rest => parse_eq_ok.2 ⟨bytes, Parse.takes_bytes pos bytes rest, htext⟩
    exact Parse.bind_eq_ok.1 ((Varint.takes_parseLength pos hlt).bind (htakes _) rest)

theorem decode_shiftJis : Charset.decode .shiftJis bytes = some text ↔
    Text.ShiftJis.decode bytes = some text.toList := by
  constructor
  · intro h
    obtain ⟨cs, hcs, rfl⟩ := Option.map_eq_some_iff.1 h
    rwa [String.toList_ofList]
  · intro h
    exact Option.map_eq_some_iff.2 ⟨_, h, String.ofList_toList⟩

/-- A text can be encoded just if each of its characters can be written, and else it is the text that is
refused. -/
theorem encode_shiftJis (text : String) :
    (∃ bytes, encode .shiftJis text = .ok bytes ∧ (∀ c ∈ text.toList, Writable c) ∧
        Text.ShiftJis.decode bytes = some (text.toList.map readBack)) ∨
      (∃ c ∈ text.toList, ¬Writable c) ∧ encode .shiftJis text = .error (.unencodable .shiftJis text) := by
  cases hencode : Charset.encode .shiftJis text with
  | some bytes =>
    exact .inl ⟨bytes, encode_eq_ok.2 hencode, Text.ShiftJis.exists_encode_iff.1 ⟨bytes, hencode⟩,
      Text.ShiftJis.decode_encode hencode⟩
  | none =>
    refine .inr ⟨?_, encode_eq_error.2 ⟨hencode, rfl⟩⟩
    by_contra hall
    push Not at hall
    obtain ⟨bytes, hbytes⟩ := Text.ShiftJis.exists_encode_iff.2 hall
    cases hbytes.symm.trans hencode

/-- Either every character of a text can be written.  Then the text is stored, and it is read back, whatever
follows, just if it is shorter than `2 ^ 32` bytes and holds no merged character; else only these characters are
changed.  Or some character cannot be written, and the text is refused. -/
theorem shiftJis_stored_and_read (text : String) :
    (∃ bytes stored, encode .shiftJis text = .ok bytes ∧ encodeSized .shiftJis text = .ok stored ∧
        (∀ c ∈ text.toList, Writable c) ∧
        ∀ pos rest,
          (parseSized .shiftJis ⟨pos, stored ++ rest⟩ = .ok text ⟨pos + stored.length, rest⟩ ↔
            bytes.length < 0x100000000 ∧ ∀ c ∈ text.toList, ¬IsMerged c) ∧
          (bytes.length < 0x100000000 → parseSized .shiftJis ⟨pos, stored ++ rest⟩ =
            .ok (.ofList (text.toList.map readBack)) ⟨pos + stored.length, rest⟩)) ∨
      (∃ c ∈ text.toList, ¬Writable c) ∧
        encodeSized .shiftJis text = .error (.unencodable .shiftJis text) := by
  obtain ⟨bytes, hencode, hwritable, hdecode⟩ | ⟨hrefused, hencode⟩ := encode_shiftJis text
  · have hstored := encodeSized_eq_ok.2 ⟨bytes, hencode, rfl⟩
    refine .inl ⟨bytes, _, hencode, hstored, hwritable, fun pos rest => ⟨?_, fun hlt => ?_⟩⟩
    · rw [parseSized_stored, decode_shiftJis, hdecode, Option.some_inj, Text.ShiftJis.map_readBack_eq_self_iff]
    · rw [parseSized_stored, decode_shiftJis, hdecode, String.toList_ofList]
      exact ⟨hlt, rfl⟩
  · exact .inr ⟨hrefused, by rw [encodeSized, hencode]; rfl⟩

/-- The yen sign is stored, and read back as a backslash. -/
theorem shiftJis_yen_sign_changed :
    encodeSized .shiftJis "¥" = .ok [1, 0x5c] ∧
      parseSized .shiftJis ⟨0, [1, 0x5c]⟩ = .ok "\\" ⟨2, []⟩ ∧ "\\" ≠ "¥" := by
  refine ⟨rfl, rfl, by decide⟩

/-! ## Texts that were read -/

/-- A text that was read and holds no character of the user-defined block survives being stored. -/
theorem roundTrips_of_decode (h : Charset.decode .shiftJis bytes = some text)
    (huser : ∀ c ∈ text.toList, ¬IsUserDefined c) : RoundTrips .shiftJis text := by
  obtain ⟨out, hout, hdecode⟩ := Text.ShiftJis.encode_of_decode (decode_shiftJis.1 h) huser
  exact ⟨out, hout, decode_shiftJis.2 hdecode⟩

theorem encode_of_isUserDefined {c : Char} (hc : c ∈ text.toList) (huser : IsUserDefined c) :
    encode .shiftJis text = .error (.unencodable .shiftJis text) := by
  obtain ⟨bytes, _, hwritable, _⟩ | ⟨_, hencode⟩ := encode_shiftJis text
  · exact absurd (hwritable c hc) (Text.ShiftJis.not_writable_of_isUserDefined huser)
  · exact hencode

/-- A text that was read can be stored, and is read again then, unless it holds a character of the user-defined
block; then it is refused.  So if a file that was read is refused for a text, the file holds this text, and the
text holds such a character. -/
theorem shiftJis_read_and_stored (text : String) :
    (∀ n c c', parse .shiftJis n c = .ok text c' →
      ((∀ a ∈ text.toList, ¬IsUserDefined a) →
        ∃ bytes, encode .shiftJis text = .ok bytes ∧ ∀ pos, (parse .shiftJis bytes.length).Takes pos bytes text) ∧
      ((∃ a ∈ text.toList, IsUserDefined a) →
        encode .shiftJis text = .error (.unencodable .shiftJis text))) ∧
    ∀ bytes f j, GameFile.open? .shiftJis bytes = .ok f → f.isValid → f.toValue .shiftJis = .ok j →
      ∀ charset, j.saveFile .shiftJis = .error (.unencodable charset text) →
        f.Decodes .shiftJis text ∧ ∃ a ∈ text.toList, IsUserDefined a := by
  constructor
  · intro n c c' h
    obtain ⟨read, _, hread⟩ := parse_eq_ok.1 h
    refine ⟨fun huser => ?_, fun ⟨a, ha, huser⟩ => encode_of_isUserDefined ha huser⟩
    have hround := roundTrips_of_decode hread huser
    obtain ⟨bytes, hbytes⟩ := hround.exists_encode
    exact ⟨bytes, hbytes, takes_parse hround.survives hbytes⟩
  · intro bytes f j hopen hvalid hj charset h
    obtain ⟨rfl, hdecodes, hnone⟩ := GameFile.decodes_of_refused hopen hvalid hj h
    refine ⟨hdecodes, ?_⟩
    by_contra huser
    push Not at huser
    obtain ⟨read, hread⟩ := hdecodes.exists_bytes hopen hvalid
    obtain ⟨out, hout, _⟩ := roundTrips_of_decode hread huser
    cases hnone.symm.trans hout

/-- The first pair of the user-defined block is read, and cannot be written. -/
theorem shiftJis_user_defined_not_stored :
    parse .shiftJis 2 ⟨0, [0xf0, 0x40]⟩ = .ok "\ue000" ⟨2, []⟩ ∧
      encode .shiftJis "\ue000" = .error (.unencodable .shiftJis "\ue000") :=
  ⟨rfl, encode_of_isUserDefined (c := '\ue000') (by decide) (by decide)⟩

/-- A map in which only the name of the parallax is no default, and is a character of the user-defined block. -/
def userDefinedMap : Value :=
  .object (defaultFields (Schema.fields ⟨Document.mapDocument⟩) [("parallax_name", .string "\ue000")])

theorem saveFile_userDefinedMap :
    Value.saveFile .shiftJis (.object [("signature", .string "LcfMapUnit"), ("root", .array [userDefinedMap])]) =
      .error (.unencodable .shiftJis "\ue000") := by
  let slot : Schema := ⟨Document.root "map" "array1d" (some "Map")⟩
  let name : Schema := ⟨Document.preset 32 "parallax_name" "string" (.string "")⟩
  have hsize : (Save.Entry.mk 32 (.string "\ue000") (some name)).payloadSize (Value.savedSize .shiftJis) =
      .error (.unencodable .shiftJis "\ue000") := by
    have hkind : name.resolve = .ok (.string, name) := rfl
    have hencode : encode .shiftJis "\ue000" = .error (.unencodable .shiftJis "\ue000") :=
      encode_of_isUserDefined (c := '\ue000') (by decide) (by decide)
    show (Value.string "\ue000").savedSize .shiftJis name = _
    rw [Value.savedSize_eq, Save.sizeBy, hkind, ok_bind]
    exact bind_eq_error.2 (.inr ⟨"\ue000", rfl, size_of_encode_error (by decide +kernel) hencode⟩)
  have hroot : userDefinedMap.save .shiftJis slot = .error (.unencodable .shiftJis "\ue000") := by
    have hslot : slot.actual .record = .ok ⟨Document.mapDocument⟩ := rfl
    have hentries : Save.entriesOf (Value.savedSize .shiftJis) ⟨Document.mapDocument⟩ userDefinedMap =
        .ok [⟨32, .string "\ue000", some name⟩] := rfl
    rw [Value.save_of_record hslot, Value.saveRecord_eq, Save.writeRecord, hentries, ok_bind, Save.writeEntries,
      hsize]
    rfl
  have hdocument : Document.ofSignature? "LcfMapUnit" = some ⟨Document.mapUnitFile⟩ := rfl
  have hslots : Schema.roots ⟨Document.mapUnitFile⟩ = [slot] := rfl
  have hheader : encodeSized .shiftJis "LcfMapUnit" =
      .ok [10, 76, 99, 102, 77, 97, 112, 85, 110, 105, 116] := rfl
  refine bind_eq_error.2 (.inr ⟨.string "LcfMapUnit", rfl, bind_eq_error.2 (.inr ⟨"LcfMapUnit", rfl, ?_⟩)⟩)
  rw [hdocument]
  refine bind_eq_error.2 (.inr ⟨.array [userDefinedMap], rfl, bind_eq_error.2 (.inr ⟨[userDefinedMap], rfl, ?_⟩)⟩)
  rw [hslots, if_neg (by decide), hheader, ok_bind, Save.writeRoots, Save.writeRoot, if_neg (by decide), hroot]
  rfl

/-- Two kanji, and a map with a parallax whose name is a character of the user-defined block. -/
theorem shiftJis_read_and_stored_map :
    let bytes : List UInt8 := [10, 76, 99, 102, 77, 97, 112, 85, 110, 105, 116, 32, 2, 0xf0, 0x40, 0]
    (parse .shiftJis 4 ⟨0, [0x97, 0x45, 0x8e, 0xd2]⟩ = .ok "勇者" ⟨4, []⟩ ∧
      ∃ bytes, encode .shiftJis "勇者" = .ok bytes ∧
        ∀ pos, (parse .shiftJis bytes.length).Takes pos bytes "勇者") ∧
    ∃ f j, GameFile.open? .shiftJis bytes = .ok f ∧ f.isValid ∧ f.toValue .shiftJis = .ok j ∧
      j.saveFile .shiftJis = .error (.unencodable .shiftJis "\ue000") ∧
        f.Decodes .shiftJis "\ue000" ∧ ∃ a ∈ "\ue000".toList, IsUserDefined a := by
  intro bytes
  have hread : parse .shiftJis 4 ⟨0, [0x97, 0x45, 0x8e, 0xd2]⟩ = .ok "勇者" ⟨4, []⟩ :=
    parse_eq_ok.2 ⟨[0x97, 0x45, 0x8e, 0xd2], rfl, by decide +kernel⟩
  have huser : ∀ a ∈ "勇者".toList, ¬IsUserDefined a := by simp [IsUserDefined]
  refine ⟨⟨hread, ((shiftJis_read_and_stored "勇者").1 _ _ _ hread).1 huser⟩, ?_⟩
  let map : Chunk := ⟨some ⟨Document.root "map" "array1d" (some "Map")⟩, some ⟨11, [32, 2, 0xf0, 0x40, 0]⟩⟩
  let f : GameFile := ⟨bytes, "LcfMapUnit", .ok ⟨⟨Document.mapUnitFile⟩, [map], 0⟩⟩
  let j : Value := .object [("signature", .string "LcfMapUnit"), ("root", .array [userDefinedMap])]
  have hopen : GameFile.open? .shiftJis bytes = .ok f := rfl
  have hj : f.toValue .shiftJis = .ok j := rfl
  have hrefused : j.saveFile .shiftJis = .error (.unencodable .shiftJis "\ue000") := saveFile_userDefinedMap
  exact ⟨f, j, hopen, rfl, hj, hrefused, (shiftJis_read_and_stored "\ue000").2 _ _ _ hopen rfl hj _ hrefused⟩

end ChunkTree.StoredText
