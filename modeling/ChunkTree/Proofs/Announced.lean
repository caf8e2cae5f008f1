import ChunkTree.Proofs.SaveNormal
import ChunkTree.Proofs.SizeFields

/-!
# Announced lengths

What is saved announces its lengths and counts in 32 bits: the length of a chunk and of a text in a script, and the
number of rows, of arguments and of nodes.  `Framed` describes bytes that a schema may be stored as by the lengths
that they announce.  Nothing that follows a length is longer than the whole, so all lengths are true of what takes
less than `2 ^ 32` bytes (`Value.announces_of_save`).  A longer chunk is not refused, but announced by its lowest 32
bits (`Value.announces_lowest_bits`).
-/

namespace ChunkTree

open Text (Charset)
open Save (Entry chunkBytes)

variable {charset : Charset} {s d u : Schema} {v : Value} {bytes : List UInt8} {P Q : Nat → Prop}

/-- Whether the varint that is written for a length is that length. -/
def Varint.Announces (n : Nat) : Prop :=
  ∃ k : UInt32, encodeLength n = encode k ∧ k.toNat = n

theorem Varint.announces_iff {n : Nat} : Announces n ↔ n < 0x100000000 := by
  constructor
  · rintro ⟨k, _, rfl⟩
    exact k.toNat_lt
  · intro h
    exact ⟨UInt32.ofNat n, rfl, UInt32.toNat_ofNat_of_lt' h⟩

/-! ## Bytes by the lengths that they announce -/

/-- A chunk in a record, and the field that it is stored under. -/
structure Part where
  index : UInt32
  payload : List UInt8
  field : Option Schema

namespace Part

def chunk (p : Part) : UInt32 × List UInt8 :=
  (p.index, p.payload)

/-- Whether a chunk belongs to a record: to a field that it lists, or to none if no field has its index. -/
structure Of (d : Schema) (p : Part) : Prop where
  unlisted : p.field = none → d.find? (.index p.index) = none
  listed : ∀ u, p.field = some u → u ∈ d.fields ∧ u.index? = some p.index

end Part

/-- The bytes of a record with the given chunks. -/
def recordBytes (parts : List Part) : List UInt8 :=
  (parts.map Part.chunk).flatMap chunkBytes ++ Varint.encode 0

/-- The bytes of a table with the given rows, each a record. -/
def tableBytes (rows : List (UInt32 × List Part)) : List UInt8 :=
  Varint.encodeLength rows.length ++ rows.flatMap fun r => Varint.encode r.1 ++ recordBytes r.2

/-- Whether the lengths announced in a command have a property. -/
def Command.Framed (P : Nat → Prop) (bytes : List UInt8) : Prop :=
  ∃ (code nest : UInt32) (text : List UInt8) (args : List Int32), P text.length ∧ P args.length ∧
    bytes = Varint.encode code ++ Varint.encode nest ++ (Varint.encodeLength text.length ++ text) ++
      Varint.encodeLength args.length ++ args.flatMap Varint.encodeSigned

/-- Whether content of a kind announces no length. -/
def Kind.isFlat : Kind → Bool
  | script | mapTree | record | table => false
  | _ => true

/-- Bytes that a schema may be stored as, such that all lengths announced in them have a property.  The lengths are
those of what follows. -/
inductive Framed (P : Nat → Prop) : Schema → List UInt8 → Prop where
  | flat {s target : Schema} {kind : Kind} {bytes : List UInt8} (hkind : s.resolve = .ok (kind, target))
      (hflat : kind.isFlat) : Framed P s bytes
  | script {s target : Schema} {commands : List (List UInt8)} (hkind : s.resolve = .ok (.script, target))
      (hcommands : ∀ c ∈ commands, Command.Framed P c) : Framed P s commands.flatten
  | mapTree {s target : Schema} {t : MapTree} (hkind : s.resolve = .ok (.mapTree, target))
      (hcount : P t.nodes.length) : Framed P s t.encode
  | record {s d : Schema} {parts : List Part} (hd : s.actual .record = .ok d) (hparts : ∀ p ∈ parts, p.Of d)
      (hlength : ∀ p ∈ parts, P p.payload.length)
      (hfield : ∀ p ∈ parts, ∀ u, p.field = some u → Framed P u p.payload) : Framed P s (recordBytes parts)
  | table {s d : Schema} {rows : List (UInt32 × List Part)} (hd : s.actual .table = .ok d) (hcount : P rows.length)
      (hparts : ∀ r ∈ rows, ∀ p ∈ r.2, p.Of d) (hlength : ∀ r ∈ rows, ∀ p ∈ r.2, P p.payload.length)
      (hfield : ∀ r ∈ rows, ∀ p ∈ r.2, ∀ u, p.field = some u → Framed P u p.payload) : Framed P s (tableBytes rows)

theorem Framed.imp (h : Framed P s bytes) (hPQ : ∀ n, P n → Q n) : Framed Q s bytes := by
  induction h with
  | flat hkind hflat => exact .flat hkind hflat
  | script hkind hcommands =>
    refine .script hkind fun c hc => ?_
    obtain ⟨code, nest, text, args, htext, hargs, heq⟩ := hcommands c hc
    exact ⟨code, nest, text, args, hPQ _ htext, hPQ _ hargs, heq⟩
  | mapTree hkind hcount => exact .mapTree hkind (hPQ _ hcount)
  | record hd hparts hlength _ ih => exact .record hd hparts (fun p hp => hPQ _ (hlength p hp)) ih
  | table hd hcount hparts hlength _ ih =>
    exact .table hd (hPQ _ hcount) hparts (fun r hr p hp => hPQ _ (hlength r hr p hp)) ih

/-! ## What is saved -/

theorem Part.length_payload_le {parts : List Part} {p : Part} (hp : p ∈ parts) :
    p.payload.length ≤ (recordBytes parts).length := by
  have hle := Save.length_le_of_mem_chunks (List.mem_map_of_mem (f := Part.chunk) hp)
  rw [recordBytes, List.length_append]
  exact hle.trans (Nat.le_add_right _ _)

theorem length_rows_le (rows : List (UInt32 × List Part)) : rows.length ≤ (tableBytes rows).length := by
  have hcount : rows.length ≤ (rows.flatMap fun r => Varint.encode r.1 ++ recordBytes r.2).length :=
    length_le_length_flatMap fun r _ => List.append_ne_nil_of_left_ne_nil (Varint.encode_ne_nil r.1) _
  rw [tableBytes, List.length_append]
  omega

theorem length_row_le {rows : List (UInt32 × List Part)} {r : UInt32 × List Part} (hr : r ∈ rows) :
    (recordBytes r.2).length ≤ (tableBytes rows).length := by
  have hmem : Varint.encode r.1 ++ recordBytes r.2 ∈
      rows.map fun r => Varint.encode r.1 ++ recordBytes r.2 := List.mem_map_of_mem hr
  have hle := (List.sublist_flatten_of_mem hmem).length_le
  rw [← List.flatMap_def, List.length_append] at hle
  rw [tableBytes, List.length_append]
  omega

theorem Script.framed_of_encode {commands : List Command} (h : encode charset commands = .ok bytes) :
    ∃ parts : List (List UInt8), bytes = parts.flatten ∧ ∀ c ∈ parts, Command.Framed (· ≤ bytes.length) c := by
  obtain ⟨parts, hparts, rfl⟩ := encode_eq_ok.1 h
  refine ⟨parts, rfl, fun part hmem => ?_⟩
  obtain ⟨c, _, hpart⟩ := exists_left_of_forall₂ hparts hmem
  have hle := (List.sublist_flatten_of_mem hmem).length_le
  obtain ⟨text, _, rfl⟩ := Command.encode_eq_ok.1 hpart
  have hargs := Varint.length_le_flatMap_encodeSigned c.args
  refine ⟨c.code, c.nest, text, c.args, ?_, ?_, rfl⟩ <;> simp only [List.length_append] at hle <;> omega

namespace Save

/-- The chunks that entries are written as, with their fields. -/
theorem exists_parts {size : Value → Schema → Except Error Nat}
    {write : Value → Schema → Except Error (List UInt8)} {entries : List Entry}
    {chunks : List (UInt32 × List UInt8)} (h : List.Forall₂ (Entry.Writes size write) entries chunks) :
    ∃ parts : List Part, parts.map Part.chunk = chunks ∧ ∀ p ∈ parts, ∃ e ∈ entries,
      p.index = e.index ∧ p.field = e.schema ∧ e.payload write = .ok p.payload := by
  induction h with
  | nil => exact ⟨[], rfl, nofun⟩
  | @cons e c entries chunks hwrites _ ih =>
    obtain ⟨parts, hchunks, hparts⟩ := ih
    refine ⟨⟨c.1, c.2, e.schema⟩ :: parts, by rw [List.map_cons, hchunks, Part.chunk], ?_⟩
    refine List.forall_mem_cons.2 ⟨⟨e, List.mem_cons_self, hwrites.index, rfl, hwrites.payload⟩, fun p hp => ?_⟩
    obtain ⟨e', he', hp⟩ := hparts p hp
    exact ⟨e', List.mem_cons_of_mem e he', hp⟩

/-- The chunks of a record belong to it. -/
theorem part_of_entry {size : Value → Schema → Except Error Nat} {entries : List Entry}
    (h : entriesOf size d v = .ok entries) {e : Entry} (he : e ∈ entries) {p : Part} (hindex : p.index = e.index)
    (hfield : p.field = e.schema) : p.Of d := by
  obtain ⟨fields, given, sizes, _, hgiven, hsizes, _, rfl⟩ := entriesOf_eq_ok.1 h
  rcases List.mem_append.1 (mem_sortBy.1 he) with he | he
  · refine ⟨fun hnone => ?_, fun u hu => ?_⟩
    · obtain ⟨key, _, hkey⟩ := mem_givenEntries hgiven he
      obtain ⟨_, _, _, ⟨field, _, _, hschema⟩ | ⟨_, _, _, hschema, _⟩⟩ := keyEntry_cases hkey rfl
      · cases hnone.symm.trans (hfield.trans hschema)
      · rw [hindex, ← hschema, ← hfield, hnone]
    · rw [hindex]
      exact mem_fields_of_given hgiven he (hfield ▸ hu)
  · obtain ⟨g, hg, hgi, hschema, _⟩ := field_of_mem_sizes hsizes he
    refine ⟨fun hnone => ?_, fun u hu => ?_⟩
    · cases hnone.symm.trans (hfield.trans hschema)
    · obtain rfl := Option.some.inj ((hu.symm.trans hfield).trans hschema)
      exact ⟨hg, by rw [hindex, hgi]⟩

end Save

/-- Whether a chunk is that of a value which is nested less deep than `depth`. -/
def Part.Holds (charset : Charset) (depth : Nat) (p : Part) : Prop :=
  ∀ u, p.field = some u → ∃ x : Value, x.depth < depth ∧ x.save charset u = .ok p.payload

/-- A record is written as chunks that belong to it. -/
theorem Value.exists_parts_of_saveRecord (h : v.saveRecord charset d = .ok bytes) :
    ∃ parts, bytes = recordBytes parts ∧ ∀ p ∈ parts, p.Of d ∧ p.Holds charset v.depth := by
  rw [saveRecord_eq] at h
  obtain ⟨entries, _, hentries, hwrite, rfl⟩ := Save.writeRecord_eq_ok.1 h
  obtain ⟨chunks, hchunks, rfl⟩ := Save.writeEntries_eq_ok.1 hwrite
  obtain ⟨parts, rfl, hparts⟩ := Save.exists_parts hchunks
  refine ⟨parts, rfl, fun p hp => ?_⟩
  obtain ⟨e, he, hindex, hfield, hpayload⟩ := hparts p hp
  refine ⟨Save.part_of_entry hentries he hindex hfield, fun u hu => ?_⟩
  rw [Entry.payload, ← hfield, hu] at hpayload
  exact ⟨e.value, Save.depth_of_mem_entriesOf hentries he, hpayload⟩

/-- A table is written as its rows, each of them a record. -/
theorem Value.exists_rows_of_saveTable (h : v.saveTable charset d = .ok bytes) :
    ∃ rows, bytes = tableBytes rows ∧ ∀ r ∈ rows, ∀ p ∈ r.2, p.Of d ∧ p.Holds charset v.depth := by
  rw [saveTable_eq] at h
  obtain ⟨rows, records, hrows, hrecords, rfl⟩ := Save.writeTable_eq_ok.1 h
  have hdepth : ∀ r ∈ rows, r.2.depth < v.depth := fun r hr => Save.depth_of_mem_rowsOf hrows hr
  clear h hrows
  suffices hparts : ∃ parts : List (UInt32 × List Part), parts.length = rows.length ∧
      records = (parts.flatMap fun r => Varint.encode r.1 ++ recordBytes r.2) ∧
        ∀ r ∈ parts, ∀ p ∈ r.2, p.Of d ∧ p.Holds charset v.depth by
    obtain ⟨parts, hlength, rfl, hparts⟩ := hparts
    exact ⟨parts, by rw [tableBytes, hlength], hparts⟩
  induction rows generalizing records with
  | nil =>
    obtain rfl : [] = records := Except.ok.inj hrecords
    exact ⟨[], rfl, rfl, nofun⟩
  | cons r rows ih =>
    obtain ⟨index, row⟩ := r
    obtain ⟨hrow, hdepth⟩ := List.forall_mem_cons.1 hdepth
    obtain ⟨record, rest, hrecord, hrest, rfl⟩ := Save.writeRows_cons_eq_ok.1 hrecords
    obtain ⟨parts, hlength, rfl, hparts⟩ := ih _ hrest hdepth
    rw [← saveRecord_eq] at hrecord
    obtain ⟨chunks, rfl, hchunks⟩ := exists_parts_of_saveRecord hrecord
    refine ⟨(index, chunks) :: parts, by rw [List.length_cons, List.length_cons, hlength], rfl, ?_⟩
    refine List.forall_mem_cons.2 ⟨fun p hp => ?_, hparts⟩
    obtain ⟨hof, hholds⟩ := hchunks p hp
    refine ⟨hof, fun u hu => ?_⟩
    obtain ⟨x, hx, hsave⟩ := hholds u hu
    exact ⟨x, hx.trans hrow, hsave⟩

/-- Content that is neither record nor table announces no length beyond its own. -/
theorem Save.framed_of_contentBytes {target : Schema} {kind : Kind} {field : String}
    (hkind : s.resolve = .ok (kind, target)) (hleaf : kind.isComposite = false)
    (h : contentBytes charset kind field v = .ok bytes) : Framed (· ≤ bytes.length) s bytes := by
  cases kind with
  | record | table => cases hleaf
  | script =>
    obtain ⟨commands, _, h⟩ := bind_eq_ok.1 h
    obtain ⟨parts, rfl, hparts⟩ := Script.framed_of_encode h
    exact .script hkind hparts
  | mapTree =>
    obtain ⟨t, _, h⟩ := bind_eq_ok.1 h
    obtain rfl := pure_eq_ok.1 h
    exact .mapTree hkind t.length_nodes_le
  | _ => exact .flat hkind rfl

namespace Value

/-- No length that is announced in what is saved is above the length of the whole. -/
theorem framed_of_save (h : v.save charset s = .ok bytes) : Framed (· ≤ bytes.length) s bytes := by
  induction hn : v.depth using Nat.strong_induction_on generalizing v s bytes with
  | _ n ih =>
    subst hn
    -- what a chunk holds is framed by induction, and the chunk is shorter than the record
    have hinner : ∀ p : Part, p.Holds charset v.depth → p.payload.length ≤ bytes.length →
        ∀ u, p.field = some u → Framed (· ≤ bytes.length) u p.payload := by
      intro p hp hle u hu
      obtain ⟨x, hx, hsave⟩ := hp u hu
      exact (ih x.depth hx hsave rfl).imp fun n hn => hn.trans hle
    obtain ⟨kind, target, hkind, ⟨rfl, d, hd, h⟩ | ⟨rfl, d, hd, h⟩ | ⟨hleaf, h⟩⟩ := save_eq_ok.1 h
    · obtain ⟨parts, rfl, hparts⟩ := exists_parts_of_saveRecord h
      exact .record hd (fun p hp => (hparts p hp).1) (fun p hp => Part.length_payload_le hp) fun p hp =>
        hinner p (hparts p hp).2 (Part.length_payload_le hp)
    · obtain ⟨rows, rfl, hrows⟩ := exists_rows_of_saveTable h
      have hle : ∀ r ∈ rows, ∀ p ∈ r.2, p.payload.length ≤ (tableBytes rows).length := fun r hr p hp =>
        (Part.length_payload_le hp).trans (length_row_le hr)
      exact .table hd (length_rows_le rows) (fun r hr p hp => (hrows r hr p hp).1) hle fun r hr p hp =>
        hinner p (hrows r hr p hp).2 (hle r hr p hp)
    · exact Save.framed_of_contentBytes hkind hleaf h

/-- All lengths and counts are true in what takes less than `2 ^ 32` bytes. -/
theorem announces_of_save (h : v.save charset s = .ok bytes) (hlen : bytes.length < 0x100000000) :
    Framed Varint.Announces s bytes :=
  (framed_of_save h).imp fun _ hn => Varint.announces_iff.2 (hn.trans_lt hlen)

/-- A chunk that no field is for is written whatever its length. -/
theorem save_unlisted (hs : s.actual .record = .ok d) (hd : d.fields = []) (payload : List UInt8) :
    (object [("1", ofBytes payload)]).save charset s = .ok (recordBytes [⟨1, payload, none⟩]) := by
  have hnone : ∀ key, d.find? key = none := fun key => by cases key <;> rw [Schema.find?, hd] <;> rfl
  have hkey : Save.keyEntry d "1" (ofBytes payload) = .ok (some ⟨1, ofBytes payload, none⟩) := by
    have hindex : Save.index? "1" = some 1 := by decide +kernel
    rw [Save.keyEntry, if_neg (by decide +kernel), hnone, hindex]
    simp only [hnone]
    rfl
  have hgiven : Save.givenEntries d [("1", ofBytes payload)] = .ok [⟨1, ofBytes payload, none⟩] :=
    Save.givenEntries_cons_eq_ok.2 ⟨_, [], hkey, rfl, rfl⟩
  have hpayload := Save.rawBytes_ofBytes 1 payload
  have hwrites : Entry.Writes (savedSize charset) (save charset) ⟨1, ofBytes payload, none⟩ (1, payload) :=
    ⟨rfl, bind_eq_ok.2 ⟨payload, hpayload, rfl⟩, hpayload⟩
  rw [save_of_record hs, saveRecord_eq]
  refine Save.writeRecord_eq_ok.2 ⟨_, _, Save.entriesOf_eq_ok.2 ⟨_, _, [], rfl, hgiven, ?_, rfl, rfl⟩,
    Save.writeEntries_eq_ok.2 ⟨[(1, payload)], .cons hwrites .nil, rfl⟩, rfl⟩
  rw [hd]
  rfl

/-- A chunk of `2 ^ 32` bytes is saved as one that announces none. -/
theorem announces_lowest_bits :
    let s : Schema := ⟨Document.composite "Empty" "array1d" []⟩
    let payload : List UInt8 := List.replicate 0x100000000 0
    (object [("1", ofBytes payload)]).save .shiftJis s = .ok ([1, 0] ++ payload ++ [0]) ∧
      ¬Varint.Announces payload.length := by
  intro s payload
  have hlength : payload.length = 0x100000000 := List.length_replicate
  clear_value payload
  have hbytes : recordBytes [⟨1, payload, none⟩] = [1, 0] ++ payload ++ [0] := by
    rw [recordBytes, List.map_singleton, List.flatMap_singleton, Part.chunk, chunkBytes, hlength]
    rfl
  refine ⟨(save_unlisted rfl rfl payload).trans (congrArg Except.ok hbytes), ?_⟩
  rw [Varint.announces_iff, hlength]
  exact Nat.lt_irrefl _

end Value

end ChunkTree
