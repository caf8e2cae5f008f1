import ChunkTree.Binary.Reader
import ChunkTree.Proofs.Forward
import ChunkTree.Proofs.Placement
import ChunkTree.Proofs.Search

/-!
# Views lie within the data

A `View` shows a part of some data, and steps lead from a view to views of its parts.  Whatever is reached from
a file or a buffer by such steps lies where it says (`View.contained_of_reachable`): a chunk can be sliced out
of the data, and a reader over it stays in its range, however far the walk went and whatever the data
announces.
-/

namespace ChunkTree

open Text (Charset)

variable {charset : Charset} {data : List UInt8}

/-- A view of a part of some data. -/
inductive View where
  | file (f : GameFile)
  | chunk (c : Chunk)
  | record (r : Record)
  | table (t : Table)

namespace View

/-- A step from a view to a view of one of its parts. -/
inductive Step : View → View → Prop where
  | root {f : GameFile} {c : Chunk} (h : c ∈ f.roots) : Step (.file f) (.chunk c)
  | first {f : GameFile} {r : Record} (h : f.record = .ok r) : Step (.file f) (.record r)
  | record {c : Chunk} {r : Record} (h : c.record = .ok r) : Step (.chunk c) (.record r)
  | table {c : Chunk} {t : Table} (h : c.table = .ok t) : Step (.chunk c) (.table t)
  | get {r : Record} {key : FieldKey} {c : Chunk} (h : r.get? key = some c) : Step (.record r) (.chunk c)
  | field {r : Record} {key : FieldKey} {c : Chunk} (h : r.field key = .ok c) : Step (.record r) (.chunk c)
  | entry {r : Record} {e : UInt32 × Chunk} (h : e ∈ r.entries) : Step (.record r) (.chunk e.2)
  | row {t : Table} {r : Record} (h : r ∈ t.rows) : Step (.table t) (.record r)
  | getRow {t : Table} {i : UInt32} {r : Record} (h : t.get? i = some r) : Step (.table t) (.record r)
  | getRows {t : Table} {i : UInt32} {r : Record} (h : r ∈ t.getAll i) : Step (.table t) (.record r)

/-- The views that can be reached from a file or a buffer. -/
inductive Reachable (charset : Charset) (data : List UInt8) : View → Prop where
  | file {f : GameFile} (h : GameFile.open? charset data = .ok f) : Reachable charset data (.file f)
  | buffer (schema : Schema) : Reachable charset data (.chunk (Chunk.ofBytes schema data))
  | step {v w : View} (h : Reachable charset data v) (hstep : v.Step w) : Reachable charset data w

/-- Whether what a view shows lies in the data. -/
def Placed (data : List UInt8) : View → Prop
  | .file f => ∀ root ∈ f.roots, ∃ p, root.payload = some p ∧ p.LiesIn data
  | .chunk c => ∀ p, c.payload = some p → p.LiesIn data
  | .record r => r.Placed data
  | .table t => t.Placed data

end View

/-! ## Steps -/

/-- A chunk that is present has one payload only. -/
theorem Chunk.forall_payload {c : Chunk} {P : Payload → Prop} (h : ∃ p, c.payload = some p ∧ P p) :
    ∀ p, c.payload = some p → P p := by
  obtain ⟨q, hq, hP⟩ := h
  intro p hp
  rwa [← Option.some.inj (hq.symm.trans hp)]

namespace Record

variable {r : Record} {key : FieldKey} {c : Chunk}

theorem mem_of_entry? {i : UInt32} (h : r.entry? i = some c) : (i, c) ∈ r.entries := by
  obtain ⟨entry, hentry, rfl⟩ := Option.map_eq_some_iff.1 h
  obtain ⟨hmem, rfl⟩ := Search.find?_eq_some hentry
  exact hmem

theorem entry?_eq_none {i : UInt32} (h : i ∉ r.entries.map Prod.fst) : r.entry? i = none := by
  refine Option.eq_none_iff_forall_not_mem.2 fun c hentry => h ?_
  have hmem := mem_of_entry? hentry
  exact List.mem_map_of_mem hmem

/-- What a key gives is a chunk that the record lists, or absent. -/
theorem mem_of_get? (h : r.get? key = some c) : (∃ i, (i, c) ∈ r.entries) ∨ c.payload = none := by
  unfold get? at h
  split at h
  · cases h
  split at h
  · rename_i chunk hentry
    obtain rfl := Option.some.inj h
    exact .inl ⟨_, mem_of_entry? hentry⟩
  · obtain ⟨schema, _, rfl⟩ := Option.map_eq_some_iff.1 h
    exact .inr rfl

theorem get?_of_field (h : r.field key = .ok c) : r.get? key = some c := by
  unfold field at h
  split at h
  · rw [← Except.ok.inj h]
    assumption
  · cases h

/-- A chunk that a record gives lies in the data if the record does. -/
theorem Placed.get? (hr : r.Placed data) (h : r.get? key = some c) :
    ∀ p, c.payload = some p → p.LiesIn data := by
  intro p hp
  rcases mem_of_get? h with ⟨i, hmem⟩ | hnone
  · exact Chunk.forall_payload (hr.present _ hmem) p hp
  · cases hnone.symm.trans hp

end Record

namespace Table

variable {t : Table} {i : UInt32} {r : Record}

theorem mem_of_getAll (h : r ∈ t.getAll i) : r ∈ t.rows :=
  (List.take_sublist _ _).mem ((List.drop_sublist _ _).mem h)

theorem mem_of_get? (h : t.get? i = some r) : r ∈ t.rows :=
  mem_of_getAll (List.mem_of_mem_head? h)

end Table

namespace GameFile

variable {f : GameFile}

theorem exists_root_of_record {r : Record} (h : f.record = .ok r) : ∃ root ∈ f.roots, root.record = .ok r := by
  unfold record at h
  split at h
  · rename_i root roots hroots
    exact ⟨root, hroots ▸ List.mem_cons_self, h⟩
  · cases h

/-- The roots of a file lie in its bytes. -/
theorem placed_of_parseRoots {slots : List Schema} (hslots : ∀ slot ∈ slots, slot.IsRoot) {c c' : Cursor}
    {roots : List Chunk} (hdata : c.rest = data.drop c.pos) (hc : c.LiesIn data)
    (h : parseRoots slots c = .ok roots c') :
    ∀ root ∈ roots, ∃ p, root.payload = some p ∧ p.LiesIn data := by
  induction slots generalizing c roots with
  | nil =>
    obtain ⟨rfl, _⟩ := Parse.pure_eq_ok.1 h
    simp
  | cons slot slots ih =>
    obtain ⟨root, c₁, hroot, h⟩ := Parse.bind_eq_ok.1 h
    obtain ⟨roots, c₂, hroots, h⟩ := Parse.bind_eq_ok.1 h
    obtain ⟨rfl, rfl⟩ := Parse.pure_eq_ok.1 h
    obtain ⟨hslot, hslots⟩ := List.forall_mem_cons.1 hslots
    obtain ⟨hleads, rfl, _⟩ := parseRoot_spec hslot hdata hroot
    refine List.forall_mem_cons.2 ⟨⟨_, rfl, hc.payload (List.take_prefix _ _)⟩, ?_⟩
    exact ih hslots (hleads.rest_eq_drop hdata) (hc.leads hleads) hroots

theorem placed_of_open? (h : open? charset data = .ok f) :
    ∀ root ∈ f.roots, ∃ p, root.payload = some p ∧ p.LiesIn data := by
  by_cases hvalid : f.isValid
  · obtain ⟨signature, c, document, roots, c', hsignature, hdocument, hroots, rfl⟩ := open?_valid h hvalid
    have hheader := StoredText.leads_of_parseSized hsignature
    have hstart : Cursor.LiesIn data ⟨0, data⟩ := ⟨[], [], by simp, rfl⟩
    have hslots := fun slot (hslot : slot ∈ document.roots) => Document.isRoot hdocument hslot
    exact placed_of_parseRoots hslots (hheader.rest_eq_drop List.drop_zero.symm) (hstart.leads hheader) hroots
  · have hroots : f.roots = [] := by
      unfold roots
      rw [Option.not_isSome_iff_eq_none.1 hvalid]
      rfl
    simp [hroots]

end GameFile

/-- What a step leads to lies in the data if what it starts from does. -/
theorem View.Step.placed {v w : View} (h : v.Step w) (hv : v.Placed data) : w.Placed data := by
  cases h with
  | root h => exact Chunk.forall_payload (hv _ h)
  | first h =>
    obtain ⟨root, hroot, h⟩ := GameFile.exists_root_of_record h
    exact (Chunk.placed_of_record (Chunk.forall_payload (hv root hroot)) h).1
  | record h => exact (Chunk.placed_of_record hv h).1
  | table h => exact (Chunk.placed_of_table hv h).1
  | get h => exact hv.get? h
  | field h => exact hv.get? (Record.get?_of_field h)
  | entry h => exact Chunk.forall_payload (hv.present _ h)
  | row h => exact hv.rows _ h
  | getRow h => exact hv.rows _ (Table.mem_of_get? h)
  | getRows h => exact hv.rows _ (Table.mem_of_getAll h)

/-- Whatever is reached lies in the data. -/
theorem View.Reachable.placed {v : View} (h : Reachable charset data v) : v.Placed data := by
  induction h with
  | file h => exact GameFile.placed_of_open? h
  | buffer schema => exact Chunk.forall_payload ⟨⟨0, data⟩, rfl, [], [], by simp, rfl⟩
  | step _ hstep ih => exact hstep.placed ih

/-! ## Readers -/

namespace Reader

variable {α : Type} {p : Parse α} {r : Reader}

/-- A parser that moves forward does not leave the buffer. -/
theorem run_forward (hp : p.Forward) (hpos : r.pos ≤ r.data.length) :
    (r.run p).2.data = r.data ∧ r.pos ≤ (r.run p).2.pos ∧ (r.run p).2.pos ≤ r.data.length := by
  have hrun : (r.run p).2 = r.seek (p.final r.cursor).pos := by
    unfold run Parse.final
    cases p r.cursor <;> rfl
  have hleads := hp r.cursor
  have hle := hleads.pos_le
  have hsum := hleads.pos_add_length
  rw [hrun]
  simp only [cursor, seek, List.length_drop] at *
  exact ⟨trivial, hle, by omega⟩

theorem slice_eq_run (n : Nat) (p : Parse α) (hpos : r.pos ≤ r.data.length) : r.slice n p = r.run p := by
  unfold slice
  rw [if_neg (by omega)]

theorem bytes_ne_beyondEnd (n : Nat) (hpos : r.pos ≤ r.data.length) : (r.bytes n).1 ≠ .error .beyondEnd := by
  rw [bytes, slice_eq_run n _ hpos, run, Parse.bytes]
  by_cases h : r.cursor.holds n <;> simp [h]

theorem skip_ne_beyondEnd (n : Nat) (hpos : r.pos ≤ r.data.length) : (r.skip n).1 ≠ .error .beyondEnd := by
  rw [skip, slice_eq_run n _ hpos, run, Parse.skip]
  by_cases h : r.cursor.holds n <;> simp [h]

end Reader

namespace Chunk

/-- The parsers by which the getters of a chunk decode it. -/
inductive Getter (charset : Charset) (c : Chunk) : {α : Type} → Parse α → Prop where
  | integer : Getter charset c Varint.parseSigned
  | bool : Getter charset c (do return (← Varint.parse) != 0)
  | float : Getter charset c parseFloat
  | string : Getter charset c (StoredText.parseRest charset)
  | script : Getter charset c (Script.parse charset)
  | varints : Getter charset c (Parse.all Varint.parseSigned)
  | mapTree : Getter charset c MapTree.parse
  | record {schema : Schema} (h : c.fieldSchema .record = .ok schema) :
      Getter charset c (Record.parse schema none)
  | table {schema : Schema} (h : c.fieldSchema .table = .ok schema) : Getter charset c (Table.parse schema)

/-- A reader over the range of a chunk, after any readings from it. -/
inductive ReaderOf (charset : Charset) (data : List UInt8) (c : Chunk) : Reader → Prop where
  | range {r : Reader} (hc : c.isAbsent = false) (h : Reader.range? data c.offset c.length = .ok r) :
      ReaderOf charset data c r
  | bytes {r : Reader} (h : ReaderOf charset data c r) (n : Nat) : ReaderOf charset data c (r.bytes n).2
  | skip {r : Reader} (h : ReaderOf charset data c r) (n : Nat) : ReaderOf charset data c (r.skip n).2
  | peek {r : Reader} (h : ReaderOf charset data c r) (n : Nat) : ReaderOf charset data c (r.peek n).2
  | byte {r : Reader} (h : ReaderOf charset data c r) : ReaderOf charset data c (r.run Parse.byte).2
  | varint {r : Reader} (h : ReaderOf charset data c r) : ReaderOf charset data c (r.run Varint.parse).2
  | getter {r : Reader} (h : ReaderOf charset data c r) {α : Type} {p : Parse α} (hp : c.Getter charset p) :
      ReaderOf charset data c (r.run p).2

theorem Getter.forward {c : Chunk} {α : Type} {p : Parse α} (h : c.Getter charset p) : p.Forward := by
  cases h with
  | integer => exact Varint.forward_parseSigned
  | bool => exact Varint.forward_parse.bind fun v => Parse.forward_pure _
  | float => exact (Parse.forward_bytes 8).bind fun bytes => Parse.forward_pure _
  | string => exact StoredText.forward_parseRest charset
  | script => exact Script.forward_parse charset
  | varints => exact Parse.forward_all Varint.forward_parseSigned
  | mapTree => exact MapTree.forward_parse
  | record => exact Record.forward_parse _ none
  | table => exact Table.forward_parse _

/-- Readers over a chunk keep to its range. -/
theorem ReaderOf.inRange {c : Chunk} {r : Reader} (h : c.ReaderOf charset data r)
    (hstop : c.offset + c.length ≤ data.length) : r.data = data.take (c.offset + c.length) ∧
      c.offset ≤ r.pos ∧ r.pos ≤ c.offset + c.length := by
  have hmove : ∀ {r : Reader} {α : Type} {p : Parse α}, p.Forward →
      r.data = data.take (c.offset + c.length) ∧ c.offset ≤ r.pos ∧ r.pos ≤ c.offset + c.length →
      (r.run p).2.data = data.take (c.offset + c.length) ∧ c.offset ≤ (r.run p).2.pos ∧
        (r.run p).2.pos ≤ c.offset + c.length := by
    rintro r α p hp ⟨hdata, hle, hpos⟩
    have hlength : r.data.length = c.offset + c.length := by rw [hdata, List.length_take_of_le hstop]
    obtain ⟨hsame, hle', hpos'⟩ := Reader.run_forward hp (r := r) (by omega)
    exact ⟨hsame.trans hdata, by omega, by omega⟩
  have hlength : ∀ {r : Reader}, r.data = data.take (c.offset + c.length) → r.pos ≤ c.offset + c.length →
      r.pos ≤ r.data.length := by
    intro r hdata hpos
    rwa [hdata, List.length_take_of_le hstop]
  induction h with
  | range _ h =>
    unfold Reader.range? at h
    rw [if_pos hstop] at h
    rw [← Except.ok.inj h]
    exact ⟨rfl, le_refl _, Nat.le_add_right _ _⟩
  | bytes _ n ih =>
    rw [Reader.bytes, Reader.slice_eq_run n _ (hlength ih.1 ih.2.2)]
    exact hmove (Parse.forward_bytes n) ih
  | skip _ n ih =>
    rw [Reader.skip, Reader.slice_eq_run n _ (hlength ih.1 ih.2.2)]
    exact hmove (Parse.forward_skip n) ih
  | peek _ n ih => exact ih
  | byte _ ih => exact hmove Parse.forward_byte ih
  | varint _ ih => exact hmove Varint.forward_parse ih
  | getter _ hp ih => exact hmove hp.forward ih

/-- Whether a chunk and what is read from it keep to the range that it says, within the data. -/
structure Contained (charset : Charset) (data : List UInt8) (c : Chunk) : Prop where
  stop_le : c.isAbsent = false → c.offset + c.length ≤ data.length
  bytes : c.isAbsent = false → c.bytes = .ok ((data.drop c.offset).take c.length)
  record_stop_le : ∀ r, c.record = .ok r → r.offset + r.length ≤ c.offset + c.length
  table_stop_le : ∀ t, c.table = .ok t → t.offset + t.length ≤ c.offset + c.length
  /-- The numbers of an array are within its bytes. -/
  items : ∀ kind width a, c.intArray kind width = .ok a → ∀ i < a.size, i * width + width ≤ c.length
  /-- A reader over the range is not refused, and starts with the payload. -/
  range : ∀ p, c.payload = some p →
    ∃ r, Reader.range? data c.offset c.length = .ok r ∧ r.cursor = ⟨p.offset, p.bytes⟩
  /-- No reader leaves the range, so none is asked for a slice beyond the end. -/
  readers : ∀ r, c.ReaderOf charset data r → c.offset ≤ r.pos ∧ r.pos ≤ c.offset + c.length ∧
    ∀ n, (r.bytes n).1 ≠ .error .beyondEnd ∧ (r.skip n).1 ≠ .error .beyondEnd

theorem length_of_intArray {c : Chunk} {kind : Kind} {width : Nat} {a : IntArray}
    (h : c.intArray kind width = .ok a) : a.width = width ∧ a.bytes.length = c.length := by
  obtain ⟨_, _, h⟩ := bind_eq_ok.1 h
  obtain ⟨p, hp, h⟩ := bind_eq_ok.1 h
  have hlength : p.bytes.length = c.length := by
    unfold present at hp
    unfold length
    split at hp
    · rw [Except.ok.inj hp]
    · cases hp
  by_cases hmod : p.bytes.length % width ≠ 0
  · rw [if_pos hmod] at h
    obtain ⟨_, h, _⟩ := bind_eq_ok.1 h
    exact absurd h throw_ne_ok
  · rw [if_neg hmod] at h
    rw [← pure_eq_ok.1 h]
    exact ⟨rfl, hlength⟩

theorem contained_of_placed {c : Chunk} (h : ∀ p, c.payload = some p → p.LiesIn data) :
    c.Contained charset data := by
  have hpresent : c.isAbsent = false → ∃ p, c.payload = some p := fun hc =>
    Option.isSome_iff_exists.1 (by simpa [isAbsent] using hc)
  have hoffset : ∀ {p}, c.payload = some p → c.offset = p.offset ∧ c.length = p.bytes.length := by
    intro p hp
    simp [offset, length, hp]
  have hstop : c.isAbsent = false → c.offset + c.length ≤ data.length := by
    intro hc
    obtain ⟨p, hp⟩ := hpresent hc
    rw [(hoffset hp).1, (hoffset hp).2]
    exact (h p hp).stop_le
  refine ⟨hstop, fun hc => ?_, fun r hr => (placed_of_record h hr).2, fun t ht => (placed_of_table h ht).2,
    fun kind width a ha i hi => ?_, fun p hp => ?_, fun r hr => ?_⟩
  · obtain ⟨p, hp⟩ := hpresent hc
    rw [(hoffset hp).1, (hoffset hp).2, ← (h p hp).rest_eq, Chunk.bytes, present, hp]
    rfl
  · obtain ⟨hwidth, hlength⟩ := length_of_intArray ha
    rw [IntArray.size, hwidth, hlength] at hi
    have := Nat.mul_le_of_le_div width (i + 1) c.length hi
    rwa [Nat.add_mul, Nat.one_mul] at this
  · have hle := (h p hp).stop_le
    rw [(hoffset hp).1, (hoffset hp).2]
    refine ⟨⟨data.take (p.offset + p.bytes.length), p.offset⟩, if_pos hle, ?_⟩
    rw [Reader.cursor, List.drop_take, Nat.add_sub_cancel_left, ← (h p hp).rest_eq]
  · have hc : c.isAbsent = false := by
      induction hr with
      | range hc _ => exact hc
      | _ => assumption
    obtain ⟨hdata, hle, hpos⟩ := hr.inRange (hstop hc)
    have hpos' : r.pos ≤ r.data.length := by rwa [hdata, List.length_take_of_le (hstop hc)]
    exact ⟨hle, hpos, fun n => ⟨r.bytes_ne_beyondEnd n hpos', r.skip_ne_beyondEnd n hpos'⟩⟩

end Chunk

namespace View

/-- Whether a view and its parts lie where they say, within each other and within the data. -/
def Contained (charset : Charset) (data : List UInt8) : View → Prop
  | .file f => (∀ root ∈ f.roots, root.isAbsent = false ∧ root.Contained charset data) ∧
    ∀ r, f.record = .ok r → ∃ root ∈ f.roots, root.record = .ok r
  | .chunk c => c.Contained charset data
  | .record r => r.Placed data ∧
    ∀ key c, r.get? key = some c → c.isAbsent = false → ∃ i, (i, c) ∈ r.entries
  | .table t => t.Placed data

/-- Whatever is reached from a file or a buffer is contained in it. -/
theorem contained_of_reachable {v : View} (h : Reachable charset data v) : v.Contained charset data := by
  have hplaced := h.placed
  cases v with
  | file f =>
    refine ⟨fun root hroot => ?_, fun r => GameFile.exists_root_of_record⟩
    obtain ⟨p, hp, _⟩ := hplaced root hroot
    exact ⟨by simp [Chunk.isAbsent, hp], Chunk.contained_of_placed (Chunk.forall_payload (hplaced root hroot))⟩
  | chunk c => exact Chunk.contained_of_placed hplaced
  | record r =>
    refine ⟨hplaced, fun key c hget hc => (Record.mem_of_get? hget).resolve_right fun hnone => ?_⟩
    simp [Chunk.isAbsent, hnone] at hc
  | table t => exact hplaced

/-- The position of the party at the start of a game, found in a map tree whose start announces no end. -/
theorem contained_of_reachable_start :
    let data : List UInt8 := [10, 76, 99, 102, 77, 97, 112, 84, 114, 101, 101, 128, 0, 1, 1, 1, 2, 128, 1, 0]
    ∃ f root r c, GameFile.open? .shiftJis data = .ok f ∧ root ∈ f.roots ∧ root.record = .ok r ∧
      r.get? (.name "party_x") = some c ∧ c.payload = some ⟨19, [0]⟩ ∧
      Reachable .shiftJis data (.chunk c) ∧ Contained .shiftJis data (.chunk c) := by
  intro data
  let root : Chunk := ⟨some ⟨Document.root "start" "array1d" (some "Start")⟩, some ⟨16, [2, 128, 1, 0]⟩⟩
  obtain ⟨f, hf, hroot⟩ : ∃ f, GameFile.open? .shiftJis data = .ok f ∧ f.roots[2]? = some root := ⟨_, rfl, rfl⟩
  have hroot := List.mem_of_getElem? hroot
  obtain ⟨r, hr, c, hc, hpayload⟩ : ∃ r, root.record = .ok r ∧ ∃ c, r.get? (.name "party_x") = some c ∧
    c.payload = some ⟨19, [0]⟩ := ⟨_, rfl, _, rfl, rfl⟩
  have hreach : Reachable .shiftJis data (.chunk c) := (((Reachable.file hf).step (.root hroot)).step
    (.record hr)).step (.get hc)
  exact ⟨f, root, r, c, hf, hroot, hr, hc, hpayload, hreach, contained_of_reachable hreach⟩

end View

end ChunkTree
