import ChunkTree.Proofs.Canonical
import ChunkTree.Proofs.TableGrammar

/-!
# Values do not depend on offsets

Offsets are kept for messages only.  What a payload is decoded as it is decoded as at any other offset, as long as
this succeeds: the parsers of content look at their own bytes (`Content.read_moved`), and the chunks of a record and
the rows of a table move along with it (`Record.Chunks.move`, `Table.Rows.move`).  So a chunk has its value
wherever it stands (`Chunk.toValue_moved`).
-/

namespace ChunkTree

open Text (Charset)
open Save (Entry)

variable {charset : Charset}

/-- Whether a parser that uses up a payload at one offset reads the same from it at any other. -/
def Parse.Movable {α : Type} (p : Parse α) : Prop :=
  ∀ pos pos' bytes x, (Payload.mk pos bytes).decode p = .ok x → (Payload.mk pos' bytes).decode p = .ok x

namespace Parse

variable {α : Type} {p : Parse α}

theorem Local.movable (hp : p.Local) : p.Movable := by
  intro pos pos' bytes x h
  obtain ⟨c, hx, hrest⟩ := Payload.decode_eq_ok.1 h
  obtain ⟨used, hbytes, _, htakes⟩ := hp hx
  rw [hrest, List.append_nil] at hbytes
  obtain rfl : bytes = used := hbytes
  exact Payload.decode_of_takes (htakes pos')

theorem movable_all (hp : p.Local) (hmoves : p.Moves) : (all p).Movable := by
  intro pos pos' bytes xs h
  obtain ⟨c, hxs, _⟩ := Payload.decode_eq_ok.1 h
  exact Payload.decode_eq_ok.2 ⟨_, all_moved hp hmoves hxs pos', rfl⟩

end Parse

theorem StoredText.movable_parseRest (charset : Charset) : (parseRest charset).Movable :=
  fun pos pos' bytes => (local_parse charset bytes.length).movable pos pos' bytes

/-! ## Content -/

namespace Chunk

variable {s : Option Schema} {pos pos' : Nat} {bytes : List UInt8} {kind : Kind} {α : Type} {p : Parse α} {x : α}

theorem scalar_moved {ofDefault : Value → Option α} (hp : p.Movable)
    (h : (Chunk.mk s (some ⟨pos, bytes⟩)).scalar kind p ofDefault = .ok x) :
    (Chunk.mk s (some ⟨pos', bytes⟩)).scalar kind p ofDefault = .ok x := by
  obtain ⟨_, hkind, h⟩ := bind_eq_ok.1 h
  exact bind_eq_ok.2 ⟨(), hkind, hp pos pos' bytes x h⟩

theorem content_moved (hp : p.Movable) (h : (Chunk.mk s (some ⟨pos, bytes⟩)).content kind p = .ok x) :
    (Chunk.mk s (some ⟨pos', bytes⟩)).content kind p = .ok x := by
  obtain ⟨_, hkind, h⟩ := bind_eq_ok.1 h
  exact bind_eq_ok.2 ⟨(), hkind, hp pos pos' bytes x h⟩

theorem intArray_moved {width : Nat} {a : IntArray}
    (h : (Chunk.mk s (some ⟨pos, bytes⟩)).intArray kind width = .ok a) :
    (Chunk.mk s (some ⟨pos', bytes⟩)).intArray kind width = .ok a := by
  obtain ⟨_, hkind, h⟩ := bind_eq_ok.1 h
  refine bind_eq_ok.2 ⟨(), hkind, bind_eq_ok.2 ⟨⟨pos', bytes⟩, rfl, ?_⟩⟩
  obtain ⟨_, hpresent, h⟩ := bind_eq_ok.1 h
  obtain rfl := Except.ok.inj hpresent
  by_cases hwidth : bytes.length % width ≠ 0
  · rw [if_pos hwidth] at h
    obtain ⟨_, h, _⟩ := bind_eq_ok.1 h
    exact absurd h throw_ne_ok
  · rw [if_neg hwidth] at h ⊢
    exact h

end Chunk

theorem Content.read_moved {s : Option Schema} {pos pos' : Nat} {bytes : List UInt8} {kind : Kind}
    {content : Content} (h : read charset kind ⟨s, some ⟨pos, bytes⟩⟩ = .ok content) :
    read charset kind ⟨s, some ⟨pos', bytes⟩⟩ = .ok content := by
  cases kind with
  | record | table => cases h
  | integer =>
    obtain ⟨n, hn, h⟩ := bind_eq_ok.1 h
    exact bind_eq_ok.2 ⟨n, Chunk.scalar_moved Varint.local_parseSigned.movable hn, h⟩
  | bool =>
    have hlocal := Varint.local_parse.bind fun v => Parse.local_pure (v != 0)
    obtain ⟨b, hb, h⟩ := bind_eq_ok.1 h
    exact bind_eq_ok.2 ⟨b, Chunk.scalar_moved hlocal.movable hb, h⟩
  | float =>
    have hlocal : Chunk.parseFloat.Local := (Parse.local_bytes 8).bind fun bytes => Parse.local_pure _
    obtain ⟨x, hx, h⟩ := bind_eq_ok.1 h
    exact bind_eq_ok.2 ⟨x, Chunk.scalar_moved hlocal.movable hx, h⟩
  | string =>
    obtain ⟨t, ht, h⟩ := bind_eq_ok.1 h
    exact bind_eq_ok.2 ⟨t, Chunk.scalar_moved (StoredText.movable_parseRest charset) ht, h⟩
  | script =>
    have hmovable := Parse.movable_all (Command.local_parse charset) (Command.moves_parse charset)
    obtain ⟨commands, hcommands, h⟩ := bind_eq_ok.1 h
    exact bind_eq_ok.2 ⟨commands, Chunk.content_moved hmovable hcommands, h⟩
  | int8s | int16s | int32s =>
    obtain ⟨a, ha, h⟩ := bind_eq_ok.1 h
    exact bind_eq_ok.2 ⟨a, Chunk.intArray_moved ha, h⟩
  | varints =>
    have hmovable := Parse.movable_all Varint.local_parseSigned Varint.moves_parseSigned
    obtain ⟨ns, hns, h⟩ := bind_eq_ok.1 h
    exact bind_eq_ok.2 ⟨ns, Chunk.content_moved hmovable hns, h⟩
  | mapTree =>
    obtain ⟨t, ht, h⟩ := bind_eq_ok.1 h
    exact bind_eq_ok.2 ⟨t, Chunk.content_moved MapTree.local_parse.movable ht, h⟩

/-! ## Records and tables -/

namespace Record

/-- Payloads under one index, with the same bytes. -/
def Alike (x y : UInt32 × Payload) : Prop :=
  x.1 = y.1 ∧ x.2.bytes = y.2.bytes

/-- Records that are read from the same bytes: they have one index and one schema, and their chunks are alike. -/
def Moved (r r' : Record) : Prop :=
  r.row = r'.row ∧ r.schema = r'.schema ∧ ∃ chunks chunks', List.Forall₂ Alike chunks chunks' ∧
    r.entries = chunks.map (chunkOf r.schema) ∧ r'.entries = chunks'.map (chunkOf r.schema)

variable {previous : UInt32} {pos : Nat} {body bytes after : List UInt8} {chunks : List (UInt32 × Payload)}

/-- Chunks are chunks wherever they stand. -/
theorem Chunks.move (h : Chunks previous pos body chunks) (pos' : Nat) :
    ∃ chunks', Chunks previous pos' body chunks' ∧ List.Forall₂ Alike chunks chunks' := by
  induction h generalizing pos' with
  | nil => exact ⟨[], .nil, .nil⟩
  | @cons previous index length pos front middle bytes more chunks hindex hprevious hlength hbytes _ ih =>
    obtain ⟨chunks', hmore, halike⟩ := ih (pos' + front.length + middle.length + bytes.length)
    exact ⟨_, .cons hindex hprevious hlength hbytes hmore, .cons ⟨rfl, rfl⟩ halike⟩

theorem Closed.move (h : Closed pos bytes chunks) (pos' : Nat) :
    ∃ chunks', Closed pos' bytes chunks' ∧ List.Forall₂ Alike chunks chunks' := by
  obtain ⟨body, ending, rfl, hbody, hending⟩ := h
  obtain ⟨chunks', hbody', halike⟩ := hbody.move pos'
  exact ⟨chunks', ⟨body, ending, rfl, hbody', hending⟩, halike⟩

theorem Written.move (h : Written pos bytes after chunks) (pos' : Nat) :
    ∃ chunks', Written pos' bytes after chunks' ∧ List.Forall₂ Alike chunks chunks' := by
  rcases h with hclosed | ⟨hchunks, hafter⟩
  · obtain ⟨chunks', hclosed', halike⟩ := hclosed.move pos'
    exact ⟨chunks', .inl hclosed', halike⟩
  · obtain ⟨chunks', hchunks', halike⟩ := hchunks.move pos'
    exact ⟨chunks', .inr ⟨hchunks', hafter⟩, halike⟩

end Record

/-- Rows are rows wherever they stand. -/
theorem Table.Rows.move {schema : Schema} {previous : UInt32} {pos : Nat} {bytes after : List UInt8}
    {rows : List Record} (h : Rows schema previous pos bytes after rows) (pos' : Nat) :
    ∃ rows', Rows schema previous pos' bytes after rows' ∧ List.Forall₂ Record.Moved rows rows' := by
  induction h generalizing pos' with
  | nil => exact ⟨[], .nil, .nil⟩
  | @row previous index pos front bytes more after chunks rows hindex hprevious hrow _ ih =>
    obtain ⟨chunks', hrow', halike⟩ := hrow.move (pos' + front.length)
    obtain ⟨rows', hrows', hmoved⟩ := ih (pos' + front.length + bytes.length)
    exact ⟨_, .row hindex hprevious hrow' hrows', .cons ⟨rfl, rfl, chunks, chunks', halike, rfl, rfl⟩ hmoved⟩
  | @last previous index pos front bytes chunks hindex hprevious hrow =>
    obtain ⟨chunks', hrow', halike⟩ := hrow.move (pos' + front.length)
    exact ⟨_, .last hindex hprevious hrow', .cons ⟨rfl, rfl, chunks, chunks', halike, rfl, rfl⟩ .nil⟩

namespace Chunk

variable {s : Option Schema} {pos : Nat} {bytes : List UInt8}

theorem record_moved {r : Record} (h : (Chunk.mk s (some ⟨pos, bytes⟩)).record = .ok r) (pos' : Nat) :
    ∃ r', (Chunk.mk s (some ⟨pos', bytes⟩)).record = .ok r' ∧ r.Moved r' := by
  obtain ⟨d, hd, h⟩ := bind_eq_ok.1 h
  obtain ⟨c, hparse, hend⟩ := Payload.decode_eq_ok.1 h
  obtain ⟨used, chunks, hbytes, _, hwritten, rfl⟩ := Record.parse_eq_ok_iff_written.1 hparse
  rw [hend, List.append_nil] at hbytes
  obtain rfl : bytes = used := hbytes
  rw [hend] at hwritten
  obtain ⟨chunks', hwritten', halike⟩ := hwritten.move pos'
  have hparse' : Record.parse d none ⟨pos', bytes⟩ = .ok _ _ :=
    Record.parse_of_written [] hwritten' (List.append_nil bytes).symm
  refine ⟨_, bind_eq_ok.2 ⟨d, hd, Payload.decode_eq_ok.2 ⟨_, hparse', rfl⟩⟩, rfl, rfl, chunks, chunks', halike,
    rfl, rfl⟩

theorem table_moved {t : Table} (h : (Chunk.mk s (some ⟨pos, bytes⟩)).table = .ok t) (pos' : Nat) :
    ∃ t', (Chunk.mk s (some ⟨pos', bytes⟩)).table = .ok t' ∧ List.Forall₂ Record.Moved t.rows t'.rows := by
  obtain ⟨d, hd, h⟩ := bind_eq_ok.1 h
  obtain ⟨c, hparse, hend⟩ := Payload.decode_eq_ok.1 h
  obtain ⟨front, count, more, rows, hbytes, _, hcount, hrows, hlength, rfl⟩ :=
    Table.parse_eq_ok_iff_rows.1 hparse
  rw [hend] at hrows hbytes
  obtain ⟨rows', hrows', hmoved⟩ := hrows.move (pos' + front.length)
  have hparse' : Table.parse d ⟨pos', bytes⟩ =
      .ok ⟨d, rows', pos', front.length + more.length⟩ ⟨pos' + (front.length + more.length), []⟩ :=
    Table.parse_eq_ok_iff_rows.2
      ⟨front, count, more, rows', hbytes, rfl, hcount, hrows', hmoved.length_eq ▸ hlength, rfl⟩
  exact ⟨_, bind_eq_ok.2 ⟨d, hd, Payload.decode_eq_ok.2 ⟨_, hparse', rfl⟩⟩, hmoved⟩

end Chunk

/-! ## Values -/

/-- Whether a payload of less than `bound` bytes has, under a schema, one value at all offsets. -/
def ValuesMove (charset : Charset) (bound : Nat) : Prop :=
  ∀ s pos pos' bytes w, bytes.length < bound → Chunk.toValue charset ⟨s, some ⟨pos, bytes⟩⟩ = .ok w →
    Chunk.toValue charset ⟨s, some ⟨pos', bytes⟩⟩ = .ok w

variable {bound : Nat} {fields fields' : Fields}

/-- What chunks are shown as they are shown as elsewhere, if their values move. -/
theorem shows_moved {d : Schema} {chunks chunks' : List (UInt32 × Payload)} {items : List Entry}
    (hmove : ∀ x ∈ chunks, ∀ s pos' w, Chunk.toValue charset ⟨s, some x.2⟩ = .ok w →
      Chunk.toValue charset ⟨s, some ⟨pos', x.2.bytes⟩⟩ = .ok w)
    (halike : List.Forall₂ Record.Alike chunks chunks')
    (h : List.Forall₂ (Entry.Shows (Chunk.toValue charset)) (visibleEntries (chunks.map (Record.chunkOf d))) items) :
    List.Forall₂ (Entry.Shows (Chunk.toValue charset)) (visibleEntries (chunks'.map (Record.chunkOf d))) items := by
  induction halike generalizing items with
  | nil => exact h
  | @cons x y chunks chunks' hxy _ ih =>
    obtain ⟨i, pos, bytes⟩ := x
    obtain ⟨j, pos', bytes'⟩ := y
    obtain ⟨rfl, rfl⟩ : i = j ∧ bytes = bytes' := hxy
    obtain ⟨hfirst, hmove⟩ := List.forall_mem_cons.1 hmove
    -- whether a chunk is shown depends on its index and its schema only
    have hkey : entryKey? i ⟨d.find? (.index i), some ⟨pos', bytes⟩⟩ =
        entryKey? i ⟨d.find? (.index i), some ⟨pos, bytes⟩⟩ := rfl
    simp only [List.map_cons, visibleEntries, List.filter_cons, Record.chunkOf, hkey] at h ⊢
    by_cases hshown : (entryKey? i ⟨d.find? (.index i), some ⟨pos, bytes⟩⟩).isSome
    · rw [if_pos hshown] at h ⊢
      obtain _ | @⟨_, item, _, rest, ⟨hindex, hschema, hvalue⟩, hrest⟩ := h
      exact .cons ⟨hindex, hschema, hfirst _ pos' _ hvalue⟩ (ih hmove hrest)
    · rw [if_neg hshown] at h ⊢
      exact ih hmove h

/-- A record has the value that it has elsewhere. -/
theorem Record.Moved.valueBy {r r' : Record} (h : r.Moved r') (hmove : ValuesMove charset bound)
    (hlength : ∀ e ∈ r.entries, e.2.length < bound) {w : Value}
    (hw : r.valueBy (Chunk.toValue charset) = .ok w) : r'.valueBy (Chunk.toValue charset) = .ok w := by
  obtain ⟨_, hschema, chunks, chunks', halike, hentries, hentries'⟩ := h
  have hpayloads : ∀ x ∈ chunks, x.2.bytes.length < bound := by
    intro x hx
    exact hlength (chunkOf r.schema x) (hentries ▸ List.mem_map_of_mem hx)
  obtain ⟨fields, hfields, hw⟩ := bind_eq_ok.1 hw
  obtain ⟨items, hitems, hfields⟩ := presentFields_eq_ok.1 hfields
  rw [hentries] at hitems
  refine bind_eq_ok.2 ⟨fields, presentFields_eq_ok.2 ⟨items, ?_, hfields⟩, hschema ▸ hw⟩
  rw [hentries']
  exact shows_moved (fun x hx s pos' w => hmove s _ pos' _ w (hpayloads x hx)) halike hitems

theorem rowFields_moved {rows rows' : List Record} (hmove : ValuesMove charset bound)
    (hlength : ∀ row ∈ rows, ∀ e ∈ row.entries, e.2.length < bound) (h : List.Forall₂ Record.Moved rows rows')
    (hfields : rowFields (Chunk.toValue charset) rows fields = .ok fields') :
    rowFields (Chunk.toValue charset) rows' fields = .ok fields' := by
  induction h generalizing fields with
  | nil => exact hfields
  | @cons r r' rows rows' hr _ ih =>
    obtain ⟨hentries, hlength⟩ := List.forall_mem_cons.1 hlength
    have hindex : r.index = r'.index := by rw [Record.index, Record.index, hr.1]
    rw [rowFields] at hfields ⊢
    obtain ⟨w, hw, hfields⟩ := bind_eq_ok.1 hfields
    rw [hindex] at hfields
    exact bind_eq_ok.2 ⟨w, hr.valueBy hmove hentries hw, ih hlength hfields⟩

theorem valuesMove (charset : Charset) (bound : Nat) : ValuesMove charset bound := by
  induction bound with
  | zero => exact fun s pos pos' bytes w hbytes => absurd hbytes (Nat.not_lt_zero _)
  | succ bound ih =>
    intro s pos pos' bytes w hbytes h
    have hle : bytes.length ≤ bound := Nat.le_of_lt_succ hbytes
    cases s with
    | none => exact h
    | some s =>
      rw [Chunk.toValue_eq, Chunk.valueBy_eq_ok] at h ⊢
      obtain ⟨kind, target, hkind, h⟩ := h
      refine ⟨kind, target, hkind, ?_⟩
      rcases h with ⟨rfl, r, hr, hw⟩ | ⟨rfl, t, ht, hw⟩ | ⟨hleaf, content, hcontent, hw⟩
      · obtain ⟨r', hr', hmoved⟩ := Chunk.record_moved hr pos'
        obtain ⟨_, _, _, hin⟩ := Chunk.record_eq_ok hr
        have hlength : ∀ e ∈ r.entries, e.2.length < bound := fun e he => (hin.length_lt he).trans_le hle
        exact .inl ⟨rfl, r', hr', hmoved.valueBy ih hlength hw⟩
      · obtain ⟨t', ht', hmoved⟩ := Chunk.table_moved ht pos'
        obtain ⟨_, _, _, hin, _⟩ := Chunk.table_eq_ok ht
        have hlength : ∀ row ∈ t.rows, ∀ e ∈ row.entries, e.2.length < bound :=
          fun row hrow e he => ((hin.row hrow).2.length_lt he).trans_le hle
        obtain ⟨fields, hfields, hw⟩ := bind_eq_ok.1 hw
        exact .inr (.inl ⟨rfl, t', ht', bind_eq_ok.2 ⟨fields, rowFields_moved ih hlength hmoved hfields, hw⟩⟩)
      · exact .inr (.inr ⟨hleaf, content, Content.read_moved hcontent, hw⟩)

/-- A chunk has its value wherever it stands. -/
theorem Chunk.toValue_moved {s : Option Schema} {pos : Nat} {bytes : List UInt8} {w : Value}
    (h : toValue charset ⟨s, some ⟨pos, bytes⟩⟩ = .ok w) (pos' : Nat) :
    toValue charset ⟨s, some ⟨pos', bytes⟩⟩ = .ok w :=
  valuesMove charset (bytes.length + 1) s pos pos' bytes w (Nat.lt_succ_self _) h

end ChunkTree
