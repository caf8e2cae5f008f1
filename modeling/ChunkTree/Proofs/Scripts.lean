import ChunkTree.Proofs.LoadSave

/-!
# Scripts are cut into commands in one way

Commands have neither a count nor an end, so a script is where its commands end.  What a script is written as is
read back and used up, wherever it stands (`Script.exists_encode`); and after commands that are read any bytes
may follow: they are read if and only if they are read alone (`Script.accepts_append`).
-/

namespace ChunkTree

open Text (Charset)

namespace Script

variable {charset : Charset} {commands following : List Command} {bytes more : List UInt8}

/-- Whether the bytes, at some offset, are read as commands. -/
def Accepts (charset : Charset) (bytes : List UInt8) (commands : List Command) : Prop :=
  ∃ pos c, parse charset ⟨pos, bytes⟩ = .ok commands c

/-- Bytes that are read are used up, and read alike at any offset. -/
theorem accepts_iff : Accepts charset bytes commands ↔
    ∀ pos, parse charset ⟨pos, bytes⟩ = .ok commands ⟨pos + bytes.length, []⟩ := by
  constructor
  · rintro ⟨start, c, h⟩ pos
    exact Parse.all_moved (Command.local_parse charset) (Command.moves_parse charset) h pos
  · intro h
    exact ⟨0, _, h 0⟩

/-- After bytes that are read as commands others are read just if they are read alone. -/
theorem accepts_append (h : Accepts charset bytes commands) : Accepts charset (bytes ++ more) following ↔
    ∃ others, Accepts charset more others ∧ following = commands ++ others := by
  have hcut : ∀ pos c ys, parse charset ⟨pos, bytes ++ more⟩ = .ok ys c ↔ _ := fun pos c ys =>
    Parse.all_append (Command.local_parse charset) (Command.moves_parse charset) (accepts_iff.1 h 0) pos more
  constructor
  · rintro ⟨pos, c, hread⟩
    obtain ⟨others, hothers, rfl⟩ := (hcut pos c following).1 hread
    exact ⟨others, ⟨_, c, hothers⟩, rfl⟩
  · rintro ⟨others, hothers, rfl⟩
    have hread := accepts_iff.1 hothers (0 + bytes.length)
    exact ⟨0, _, (hcut 0 _ _).2 ⟨others, hread, rfl⟩⟩

/-- Commands with texts that survive can be written, and are read back from what is written. -/
theorem exists_encode (htexts : ∀ c ∈ commands, StoredText.RoundTrips charset c.text)
    (hcount : ∀ c ∈ commands, c.Countable charset) : ∃ bytes, encode charset commands = .ok bytes ∧
      byteSize charset commands = .ok bytes.length ∧ Accepts charset bytes commands := by
  have hencodable : ∀ t ∈ (Content.script commands).texts, ∃ b, StoredText.encode charset t = .ok b := by
    intro t ht
    obtain ⟨c, hc, rfl⟩ := List.mem_map.1 ht
    exact (htexts c hc).exists_encode
  obtain ⟨bytes, hbytes⟩ := Content.exists_bytes_iff.2 hencodable
  have hsurvives : ∀ c ∈ commands, StoredText.Survives charset c.text := fun c hc => (htexts c hc).survives
  exact ⟨bytes, hbytes, byteSize_of_encode hbytes, 0, _, parse_of_encode hsurvives hcount hbytes 0⟩

/-- Scripts and their commands.  Commands with texts that survive, and with texts and arguments that can be
counted, are written as so many bytes as worked out, and read back from these bytes, which they use up.  Their
values are taken as the same commands.  Bytes that are read may be followed by others: these are read just if they
are read alone, and then their commands follow. -/
theorem commands_in_sequence (charset : Charset) :
    (∀ commands : List Command,
      (∀ c ∈ commands, StoredText.RoundTrips charset c.text ∧ c.Countable charset) →
      ∃ bytes, encode charset commands = .ok bytes ∧ byteSize charset commands = .ok bytes.length ∧
        ∀ pos, parse charset ⟨pos, bytes⟩ = .ok commands ⟨pos + bytes.length, []⟩) ∧
    (∀ (commands : List Command) (field : String),
      Save.script field (.array (commands.map Command.toValue)) = .ok commands) ∧
    ∀ (bytes more : List UInt8) (commands : List Command), Accepts charset bytes commands →
      ∀ following, Accepts charset (bytes ++ more) following ↔
        ∃ others, Accepts charset more others ∧ following = commands ++ others := by
  refine ⟨fun commands h => ?_, fun commands field => ?_, fun bytes more commands h following => ?_⟩
  · obtain ⟨bytes, hbytes, hsize, haccepts⟩ := exists_encode (fun c hc => (h c hc).1) fun c hc => (h c hc).2
    exact ⟨bytes, hbytes, hsize, accepts_iff.1 haccepts⟩
  · exact Save.items_map fun c _ => Save.command_toValue field c
  · exact accepts_append h

/-- A message with a negative argument, and a command of four zero bytes after it. -/
theorem commands_in_sequence_message :
    let message : Command := ⟨10110, 0, "Hi", [-1, 3]⟩
    let bytes : List UInt8 := [206, 126, 0, 2, 72, 105, 2, 143, 255, 255, 255, 127, 3]
    encode .shiftJis [message] = .ok bytes ∧ byteSize .shiftJis [message] = .ok 13 ∧
      Accepts .shiftJis bytes [message] ∧
      Accepts .shiftJis (bytes ++ [0, 0, 0, 0]) [message, ⟨0, 0, "", []⟩] := by
  intro message bytes
  have hencode : encode .shiftJis [message] = .ok bytes := by decide +kernel
  have htext : StoredText.encode .shiftJis message.text = .ok [72, 105] := by decide +kernel
  have htexts : ∀ c ∈ [message], StoredText.RoundTrips .shiftJis c.text ∧ c.Countable .shiftJis := by
    intro c hc
    obtain rfl := List.mem_singleton.1 hc
    refine ⟨⟨[72, 105], by decide +kernel, by decide +kernel⟩, fun b hb => ?_, by decide⟩
    obtain rfl := Except.ok.inj (htext.symm.trans hb)
    decide
  obtain ⟨hread, _, happend⟩ := commands_in_sequence .shiftJis
  obtain ⟨written, hwritten, hsize, hback⟩ := hread [message] htexts
  obtain rfl := Except.ok.inj (hencode.symm.trans hwritten)
  have haccepts : Accepts .shiftJis bytes [message] := accepts_iff.2 hback
  have hzero : Accepts .shiftJis [0, 0, 0, 0] [⟨0, 0, "", []⟩] := ⟨0, _, rfl⟩
  exact ⟨hencode, hsize, haccepts, (happend bytes _ [message] haccepts _).2 ⟨_, hzero, rfl⟩⟩

end Script

end ChunkTree
