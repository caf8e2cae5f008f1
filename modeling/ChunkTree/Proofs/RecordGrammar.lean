import ChunkTree.Proofs.VarintForms
import ChunkTree.View.Record

/-!
# The grammar of records

A record is written as chunks with ascending indices (`Chunks`) and ends with a zero or with its range
(`Written`).  Every range is chunks and then stops (`exists_chunks`): with nothing, with a zero, or with something
that no record goes on with (`Offends`).  Reading goes through the chunks (`parseEntries_of_chunks`) and answers
what the rest demands, so it accepts records and nothing else and reports the first thing that offends.
-/

namespace ChunkTree

namespace Record

/-- The bytes from `pos` on are chunks with ascending indices above `previous`: index, length and payload. -/
inductive Chunks : UInt32 → Nat → List UInt8 → List (UInt32 × Payload) → Prop where
  | nil {previous : UInt32} {pos : Nat} : Chunks previous pos [] []
  | cons {previous index length : UInt32} {pos : Nat} {front middle bytes more : List UInt8}
      {chunks : List (UInt32 × Payload)} (hindex : Varint.Spells front index) (hprevious : previous < index)
      (hlength : Varint.Spells middle length) (hbytes : bytes.length = length.toNat)
      (rest : Chunks index (pos + front.length + middle.length + bytes.length) more chunks) :
      Chunks previous pos (front ++ (middle ++ (bytes ++ more)))
        ((index, ⟨pos + front.length + middle.length, bytes⟩) :: chunks)

/-- The index of the last of the chunks that follow a chunk of the index `previous`. -/
def lastIndex (previous : UInt32) : List (UInt32 × Payload) → UInt32
  | [] => previous
  | (index, _) :: chunks => lastIndex index chunks

/-- The bytes from `pos` on are chunks and a zero in some form. -/
def Closed (pos : Nat) (bytes : List UInt8) (chunks : List (UInt32 × Payload)) : Prop :=
  ∃ body ending, bytes = body ++ ending ∧ Chunks 0 pos body chunks ∧ Varint.Spells ending 0

/-- The bytes from `pos` on, before the bytes `after`, are a record: a zero may only be left out at the end. -/
def Written (pos : Nat) (bytes after : List UInt8) (chunks : List (UInt32 × Payload)) : Prop :=
  Closed pos bytes chunks ∨ Chunks 0 pos bytes chunks ∧ after = []

/-- What is wrong with the first item of the bytes from `pos` on, after a chunk of the index `previous`: an index
that is faulty or not above `previous`, a length that is faulty, or a payload that is cut off. -/
inductive Offends (previous : UInt32) (pos : Nat) : List UInt8 → Error → Prop where
  | index {bytes : List UInt8} {e : Error} (hne : bytes ≠ []) (h : Varint.Faulty pos bytes e) :
      Offends previous pos bytes e
  | notAscending {index : UInt32} {front more : List UInt8} (hindex : Varint.Spells front index)
      (hne : index ≠ 0) (hprevious : index ≤ previous) :
      Offends previous pos (front ++ more) (.corruptOrdering pos previous index)
  | length {index : UInt32} {front more : List UInt8} {e : Error} (hindex : Varint.Spells front index)
      (hprevious : previous < index) (h : Varint.Faulty (pos + front.length) more e) :
      Offends previous pos (front ++ more) e
  | payload {index length : UInt32} {front middle more : List UInt8} (hindex : Varint.Spells front index)
      (hprevious : previous < index) (hlength : Varint.Spells middle length)
      (h : more.length < length.toNat) :
      Offends previous pos (front ++ (middle ++ more)) (.truncated length.toNat more.length)

/-- The chunk of a field: the schema knows it by its index. -/
def chunkOf (schema : Schema) (chunk : UInt32 × Payload) : UInt32 × Chunk :=
  (chunk.1, ⟨schema.find? (.index chunk.1), some chunk.2⟩)

variable {schema : Schema} {previous index length : UInt32} {row : Option UInt32} {bound pos : Nat}
  {front middle bytes body : List UInt8} {chunks : List (UInt32 × Payload)} {e : Error}

/-- Reading starts with an index, unless the range is used up. -/
theorem parseEntries_of_ne_nil (hne : bytes ≠ []) :
    parseEntries schema (bound + 1) previous ⟨pos, bytes⟩ = (do
      let index ← Varint.parse
      if index = 0 then return []
      if index ≤ previous then throw (.corruptOrdering pos previous index)
      let length ← Varint.parseLength
      let offset ← Parse.position
      let bytes ← Parse.bytes length
      let rest ← parseEntries schema bound index
      return (index, ⟨schema.find? (.index index), some ⟨offset, bytes⟩⟩) :: rest : Parse _) ⟨pos, bytes⟩ := by
  rw [parseEntries, Parse.isEmpty_bind, List.isEmpty_eq_false_iff.2 hne]
  rfl

/-- After an index above the one before, a length and a payload are read. -/
theorem parseEntries_of_index (more : List UInt8) (hindex : Varint.Spells front index)
    (hprevious : previous < index) :
    parseEntries schema (bound + 1) previous ⟨pos, front ++ more⟩ = (do
      let length ← Varint.parseLength
      let offset ← Parse.position
      let bytes ← Parse.bytes length
      let rest ← parseEntries schema bound index
      return (index, ⟨schema.find? (.index index), some ⟨offset, bytes⟩⟩) :: rest : Parse _)
        ⟨pos + front.length, more⟩ := by
  have hne : front ++ more ≠ [] := List.append_ne_nil_of_left_ne_nil hindex.ne_nil _
  have hzero : index ≠ 0 := by
    rintro rfl
    exact UInt32.not_lt_zero hprevious
  rw [parseEntries_of_ne_nil hne, Parse.bind_of_ok (Varint.parse_of_spells more hindex rfl), if_neg hzero,
    if_neg (UInt32.not_le.2 hprevious)]

/-- A chunk is read, and then those after it. -/
theorem parseEntries_of_chunk (more : List UInt8) (hindex : Varint.Spells front index)
    (hprevious : previous < index) (hlength : Varint.Spells middle length)
    (hbytes : bytes.length = length.toNat) :
    parseEntries schema (bound + 1) previous ⟨pos, front ++ (middle ++ (bytes ++ more))⟩ = (do
      let rest ← parseEntries schema bound index
      return chunkOf schema (index, ⟨pos + front.length + middle.length, bytes⟩) :: rest : Parse _)
        ⟨pos + front.length + middle.length + bytes.length, more⟩ := by
  rw [parseEntries_of_index _ hindex hprevious,
    Parse.bind_of_ok (Varint.parseLength_of_spells _ hlength rfl), ← hbytes, Parse.position_bind,
    Parse.bind_of_ok (Parse.takes_bytes _ bytes more)]
  rfl

/-- All chunks are read, and then what follows them. -/
theorem parseEntries_of_chunks (more : List UInt8) (h : Chunks previous pos body chunks) :
    parseEntries schema (chunks.length + bound) previous ⟨pos, body ++ more⟩ = (do
      let rest ← parseEntries schema bound (lastIndex previous chunks)
      return chunks.map (chunkOf schema) ++ rest : Parse _) ⟨pos + body.length, more⟩ := by
  induction h with
  | nil => simp [lastIndex]
  | @cons previous index length pos front middle bytes after chunks hindex hprevious hlength hbytes _ ih =>
    have hbound : chunks.length + 1 + bound = chunks.length + bound + 1 := by omega
    rw [List.length_cons, hbound]
    simp only [List.append_assoc]
    rw [parseEntries_of_chunk (after ++ more) hindex hprevious hlength hbytes, Parse.bind_congr_left _ ih]
    simp [lastIndex, Nat.add_assoc]

theorem parseEntries_of_nil : parseEntries schema bound previous ⟨pos, []⟩ = .ok [] ⟨pos, []⟩ := by
  cases bound <;> rfl

/-- A zero in any form ends a record. -/
theorem parseEntries_of_zero (more : List UInt8) (h : Varint.Spells front 0) :
    parseEntries schema (bound + 1) previous ⟨pos, front ++ more⟩ = .ok [] ⟨pos + front.length, more⟩ := by
  have hne : front ++ more ≠ [] := List.append_ne_nil_of_left_ne_nil h.ne_nil _
  rw [parseEntries_of_ne_nil hne, Parse.bind_of_ok (Varint.parse_of_spells more h rfl), if_pos rfl]
  rfl

theorem Offends.ne_nil (h : Offends previous pos bytes e) : bytes ≠ [] := by
  cases h with
  | index hne => exact hne
  | notAscending hindex | length hindex | payload hindex =>
    exact List.append_ne_nil_of_left_ne_nil hindex.ne_nil _

/-- What offends is reported. -/
theorem parseEntries_of_offends (h : Offends previous pos bytes e) :
    ∃ c', parseEntries schema (bound + 1) previous ⟨pos, bytes⟩ = .error e c' := by
  have hne := h.ne_nil
  cases h with
  | index _ h =>
    obtain ⟨c', hc'⟩ := Varint.parse_of_faulty (c := ⟨pos, bytes⟩) h
    exact ⟨c', by rw [parseEntries_of_ne_nil hne, Parse.bind_of_error hc']⟩
  | @notAscending index front more hindex hzero hprevious =>
    refine ⟨⟨pos + front.length, more⟩, ?_⟩
    rw [parseEntries_of_ne_nil hne, Parse.bind_of_ok (Varint.parse_of_spells more hindex rfl), if_neg hzero,
      if_pos hprevious]
    rfl
  | @length index front more _ hindex hprevious h =>
    obtain ⟨c', hc'⟩ := Varint.parseLength_of_faulty (c := ⟨pos + front.length, more⟩) h
    exact ⟨c', by rw [parseEntries_of_index more hindex hprevious, Parse.bind_of_error hc']⟩
  | @payload index length front middle more hindex hprevious hlength h =>
    refine ⟨⟨pos + front.length + middle.length, more⟩, ?_⟩
    rw [parseEntries_of_index _ hindex hprevious,
      Parse.bind_of_ok (Varint.parseLength_of_spells more hlength rfl), Parse.position_bind,
      Parse.bind_of_error (Parse.bytes_of_lt h)]

/-- Whether no chunk of a record comes next, after one of the index `previous`. -/
def Stops (previous : UInt32) (pos : Nat) (bytes : List UInt8) : Prop :=
  bytes = [] ∨ (∃ ending after, bytes = ending ++ after ∧ Varint.Spells ending 0) ∨
    ∃ e, Offends previous pos bytes e

/-- Unless a range stops, it starts with an index above the previous one, a length and a payload. -/
theorem stops_or_chunk (previous : UInt32) (pos : Nat) (bytes : List UInt8) : Stops previous pos bytes ∨
    ∃ front index middle length payload more, bytes = front ++ (middle ++ (payload ++ more)) ∧
      Varint.Spells front index ∧ previous < index ∧ Varint.Spells middle length ∧
        payload.length = length.toNat := by
  by_cases hne : bytes = []
  · exact .inl (.inl hne)
  obtain ⟨front, rest, index, rfl, hindex⟩ | ⟨e, hfaulty⟩ := Varint.spells_or_faulty pos bytes
  swap
  · exact .inl (.inr (.inr ⟨e, .index hne hfaulty⟩))
  by_cases hzero : index = 0
  · exact .inl (.inr (.inl ⟨front, rest, rfl, hzero ▸ hindex⟩))
  by_cases hprevious : index ≤ previous
  · exact .inl (.inr (.inr ⟨_, .notAscending hindex hzero hprevious⟩))
  rw [UInt32.not_le] at hprevious
  obtain ⟨middle, rest, length, rfl, hlength⟩ | ⟨e, hfaulty⟩ :=
    Varint.spells_or_faulty (pos + front.length) rest
  swap
  · exact .inl (.inr (.inr ⟨e, .length hindex hprevious hfaulty⟩))
  by_cases hcut : rest.length < length.toNat
  · exact .inl (.inr (.inr ⟨_, .payload hindex hprevious hlength hcut⟩))
  refine .inr ⟨front, index, middle, length, rest.take length.toNat, rest.drop length.toNat, ?_, hindex,
    hprevious, hlength, List.length_take_of_le (Nat.le_of_not_lt hcut)⟩
  rw [List.take_append_drop]

/-- Every range is chunks and then stops. -/
theorem exists_chunks (previous : UInt32) (pos : Nat) (bytes : List UInt8) : ∃ body chunks more,
    bytes = body ++ more ∧ Chunks previous pos body chunks ∧
      Stops (lastIndex previous chunks) (pos + body.length) more := by
  induction hn : bytes.length using Nat.strong_induction_on generalizing previous pos bytes with
  | _ n ih =>
  obtain hstops | ⟨front, index, middle, length, payload, rest, rfl, hindex, hprevious, hlength, hpayload⟩ :=
    stops_or_chunk previous pos bytes
  · exact ⟨[], [], bytes, rfl, .nil, hstops⟩
  have hfewer : rest.length < n := by
    have := List.length_pos_iff.2 hindex.ne_nil
    simp only [List.length_append] at hn
    omega
  obtain ⟨body, chunks, more, rfl, hchunks, hstops⟩ := ih rest.length hfewer index
    (pos + front.length + middle.length + payload.length) rest rfl
  refine ⟨front ++ (middle ++ (payload ++ body)), _, more, by simp,
    .cons hindex hprevious hlength hpayload hchunks, ?_⟩
  simpa [lastIndex, Nat.add_assoc] using hstops

theorem Chunks.length_le (h : Chunks previous pos body chunks) : chunks.length ≤ body.length := by
  induction h with
  | nil => simp
  | cons hindex _ _ _ _ ih =>
    have := List.length_pos_iff.2 hindex.ne_nil
    simp only [List.length_cons, List.length_append]
    omega

/-- As many chunks as there are bytes may be read, which is one more than there are before the end. -/
theorem exists_bound (h : Chunks previous pos body chunks) {more : List UInt8} (hmore : more ≠ []) :
    ∃ bound, (body ++ more).length = chunks.length + (bound + 1) := by
  have := h.length_le
  have := List.length_pos_iff.2 hmore
  exact ⟨body.length + more.length - chunks.length - 1, by rw [List.length_append]; omega⟩

theorem parse_of_parseEntries {entries : List (UInt32 × Chunk)} {c c' : Cursor}
    (h : parseEntries schema c.remaining 0 c = .ok entries c') :
    parse schema row c = .ok ⟨schema, entries, row, c.pos, c'.pos - c.pos⟩ c' := by
  rw [parse, Parse.position_bind, Parse.bind_of_ok (p := fun c => parseEntries schema c.remaining 0 c) h]
  rfl

theorem parse_of_parseEntries_error {c c' : Cursor}
    (h : parseEntries schema c.remaining 0 c = .error e c') : parse schema row c = .error e c' := by
  rw [parse, Parse.position_bind, Parse.bind_of_error (p := fun c => parseEntries schema c.remaining 0 c) h]

/-- A range that starts with a record: its chunks are read, and what follows is left. -/
theorem parse_of_written {c : Cursor} (after : List UInt8) (h : Written c.pos bytes after chunks)
    (hc : c.rest = bytes ++ after) :
    parse schema row c = .ok ⟨schema, chunks.map (chunkOf schema), row, c.pos, bytes.length⟩
      ⟨c.pos + bytes.length, after⟩ := by
  obtain ⟨pos, rest⟩ := c
  obtain rfl : rest = bytes ++ after := hc
  have hentries : parseEntries schema (bytes ++ after).length 0 ⟨pos, bytes ++ after⟩ =
      .ok (chunks.map (chunkOf schema)) ⟨pos + bytes.length, after⟩ := by
    obtain ⟨body, ending, rfl, hbody, hending⟩ | ⟨hbody, rfl⟩ := h
    · obtain ⟨bound, hbound⟩ := exists_bound hbody
        (List.append_ne_nil_of_left_ne_nil hending.ne_nil after)
      rw [List.append_assoc, hbound, parseEntries_of_chunks _ hbody,
        Parse.bind_of_ok (parseEntries_of_zero after hending), List.append_nil, List.length_append,
        Nat.add_assoc]
      rfl
    · obtain ⟨bound, hbound⟩ := Nat.exists_eq_add_of_le hbody.length_le
      have hbound : (bytes ++ []).length = chunks.length + bound := by rw [List.append_nil, hbound]
      rw [hbound, parseEntries_of_chunks _ hbody, Parse.bind_of_ok parseEntries_of_nil, List.append_nil]
      rfl
  rw [parse_of_parseEntries (c := ⟨pos, bytes ++ after⟩) hentries, Nat.add_sub_cancel_left]

/-- A closed record is taken whatever follows. -/
theorem Closed.takes_parse (h : Closed pos bytes chunks) (schema : Schema) (row : Option UInt32) :
    (parse schema row).Takes pos bytes ⟨schema, chunks.map (chunkOf schema), row, pos, bytes.length⟩ :=
  fun rest => parse_of_written (c := ⟨pos, bytes ++ rest⟩) rest (.inl h) rfl

theorem parse_of_offends {c : Cursor} {more : List UInt8} (hchunks : Chunks 0 c.pos body chunks)
    (h : Offends (lastIndex 0 chunks) (c.pos + body.length) more e) (hc : c.rest = body ++ more) :
    ∃ c', parse schema row c = .error e c' := by
  obtain ⟨pos, rest⟩ := c
  obtain rfl : rest = body ++ more := hc
  obtain ⟨bound, hbound⟩ := exists_bound hchunks h.ne_nil
  obtain ⟨c', hc'⟩ : ∃ c', parseEntries schema (bound + 1) _ ⟨pos + body.length, more⟩ = .error e c' :=
    parseEntries_of_offends h
  refine ⟨c', parse_of_parseEntries_error (c := ⟨pos, body ++ more⟩) ?_⟩
  rw [Cursor.remaining, hbound, parseEntries_of_chunks more hchunks, Parse.bind_of_error hc']

/-- Every range starts with a record, or with chunks and then something that offends. -/
theorem written_or_offends (pos : Nat) (rest : List UInt8) :
    (∃ bytes after chunks, rest = bytes ++ after ∧ Written pos bytes after chunks) ∨
      ∃ body chunks more e, rest = body ++ more ∧ Chunks 0 pos body chunks ∧
        Offends (lastIndex 0 chunks) (pos + body.length) more e := by
  obtain ⟨body, chunks, more, rfl, hchunks, rfl | ⟨ending, after, rfl, hending⟩ | ⟨e, h⟩⟩ :=
    exists_chunks 0 pos rest
  · exact .inl ⟨body, [], chunks, rfl, .inr ⟨hchunks, rfl⟩⟩
  · exact .inl ⟨body ++ ending, after, chunks, (List.append_assoc ..).symm,
      .inl ⟨body, ending, rfl, hchunks, hending⟩⟩
  · exact .inr ⟨body, chunks, more, e, rfl, hchunks, h⟩

/-- A record is read from exactly the ranges that start with one. -/
theorem parse_eq_ok_iff_written {c c' : Cursor} {r : Record} : parse schema row c = .ok r c' ↔
    ∃ bytes chunks, c.rest = bytes ++ c'.rest ∧ c'.pos = c.pos + bytes.length ∧
      Written c.pos bytes c'.rest chunks ∧
        r = ⟨schema, chunks.map (chunkOf schema), row, c.pos, bytes.length⟩ := by
  constructor
  · intro h
    obtain ⟨bytes, after, chunks, hc, hwritten⟩ | ⟨body, chunks, more, e, hc, hchunks, hoffends⟩ :=
      written_or_offends c.pos c.rest
    · cases h.symm.trans (parse_of_written after hwritten hc)
      exact ⟨bytes, chunks, hc, rfl, hwritten, rfl⟩
    · obtain ⟨_, hfails⟩ := parse_of_offends hchunks hoffends hc
      cases h.symm.trans hfails
  · rintro ⟨bytes, chunks, hc, hpos, hwritten, rfl⟩
    rw [parse_of_written c'.rest hwritten hc, ← hpos]

/-- Reading a record fails exactly where something offends, and says what. -/
theorem parse_eq_error_iff_offends {c : Cursor} : (∃ c', parse schema row c = .error e c') ↔
    ∃ body chunks more, c.rest = body ++ more ∧ Chunks 0 c.pos body chunks ∧
      Offends (lastIndex 0 chunks) (c.pos + body.length) more e := by
  constructor
  · rintro ⟨c', h⟩
    obtain ⟨bytes, after, chunks, hc, hwritten⟩ | ⟨body, chunks, more, e', hc, hchunks, hoffends⟩ :=
      written_or_offends c.pos c.rest
    · cases h.symm.trans (parse_of_written after hwritten hc)
    · obtain ⟨_, hfails⟩ := parse_of_offends hchunks hoffends hc
      cases h.symm.trans hfails
      exact ⟨body, chunks, more, hc, hchunks, hoffends⟩
  · rintro ⟨body, chunks, more, hc, hchunks, hoffends⟩
    exact parse_of_offends hchunks hoffends hc

/-- The reader of records accepts exactly the grammar.  A record has its chunks with their offsets in order, and
its length is what was advanced; a failure is that of the first thing that offends. -/
theorem parse_follows_record_grammar (schema : Schema) (row : Option UInt32) (c : Cursor) :
    (∀ r c', parse schema row c = .ok r c' ↔
      ∃ bytes chunks, c.rest = bytes ++ c'.rest ∧ c'.pos = c.pos + bytes.length ∧
        Written c.pos bytes c'.rest chunks ∧
          r = ⟨schema, chunks.map (chunkOf schema), row, c.pos, bytes.length⟩) ∧
    ∀ e, (∃ c', parse schema row c = .error e c') ↔
      ∃ body chunks more, c.rest = body ++ more ∧ Chunks 0 c.pos body chunks ∧
        Offends (lastIndex 0 chunks) (c.pos + body.length) more e :=
  ⟨fun _ _ => parse_eq_ok_iff_written, fun _ => parse_eq_error_iff_offends⟩

end Record

end ChunkTree
