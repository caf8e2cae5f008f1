import ChunkTree.Proofs.Containment
import ChunkTree.Proofs.Faithful
import ChunkTree.Proofs.NonFiniteText
import ChunkTree.Proofs.RecordGrammar
import ChunkTree.Proofs.RecordValue
import ChunkTree.Proofs.Registered
import ChunkTree.Proofs.Same

/-!
# Fields that are asked for and fields that are shown

A record gives its chunks one by one, by name or by index (`Record.get?`), and shows all of them in its object
(`Record.toValue`).  The two agree: a chunk that the record holds has the value that the object shows, a chunk
that it leaves out reads as a value that is the same as the default, and a name without a chunk is no key.
-/

namespace ChunkTree

open Text (Charset)
open Save (Entry)

/-! ## Chunks that are left out -/

namespace Value

variable {v : Value}

/-- A value that is taken for an integer is the same as that integer. -/
theorem same_of_asInt {k : Int64} (h : v.asInt = some k) : (int k).same v := by
  cases v with
  | int n =>
    obtain rfl : n = k := Option.some.inj h
    simp [same]
  | float x =>
    rw [asInt] at h
    split at h
    · rename_i n hn
      split at h
      · rename_i hsmall
        obtain rfl := Option.some.inj h
        rw [same, Int64.toInt_ofInt_of_le (by omega) (by omega)]
        exact Binary64.eq_of_toInt? hn
      · cases h
    · cases h
  | _ => cases h

/-- A value that is taken for a float is the same as that float: no integer is rounded to what is no number. -/
theorem same_of_asFloat {x : Binary64} (h : v.asFloat = some x) : (float x).same v := by
  cases v with
  | int n =>
    obtain rfl : Binary64.ofInt n.toInt = x := Option.some.inj h
    have hn : n.toInt.natAbs < 2 ^ 64 := by
      have := n.le_toInt
      have := n.toInt_lt
      omega
    have hnan := Binary64.not_isNaN_of_isFinite (Binary64.isFinite_ofInt hn)
    simp [same, Binary64.eq, hnan]
  | float y =>
    obtain rfl : y = x := Option.some.inj h
    exact sameFloat_self y
  | _ => cases h

theorem same_of_asBool {b : Bool} (h : v.asBool = some b) : (bool b).same v := by
  cases v with
  | bool c =>
    obtain rfl : c = b := Option.some.inj h
    simp [same]
  | _ => cases h

theorem same_of_asString {t : String} (h : v.asString = some t) : (string t).same v := by
  cases v with
  | string u =>
    obtain rfl : u = t := Option.some.inj h
    simp [same]
  | _ => cases h

end Value

namespace Chunk

variable {charset : Charset} {f target : Schema} {kind : Kind} {v : Value}

theorem asInt_of_int32? {n : Int32} (h : int32? v = some n) : v.asInt = some n.toInt64 := by
  unfold int32? at h
  split at h
  · rename_i k hk
    split at h
    · rename_i hrange
      obtain rfl := Option.some.inj h
      rw [hk, Option.some.injEq, ← Int64.toInt_inj, Int32.toInt_toInt64,
        Int32.toInt_ofInt_of_le (by omega) (by omega)]
    · cases h
  · cases h

/-- A scalar that is left out is taken from the default. -/
theorem scalar_absent {α : Type} {parse : Parse α} {ofDefault : Value → Option α} {x : α}
    (hkind : f.resolve = .ok (kind, target)) (hdefault : f.default? = some v) (hx : ofDefault v = some x) :
    (absent f).scalar kind parse ofDefault = .ok x := by
  have hkind : (absent f).kind = .ok kind := kind_eq_ok.2 ⟨target, hkind⟩
  have hvalue : (absent f).default = .ok v := by simp [Chunk.default, absent, hdefault]
  refine bind_eq_ok.2 ⟨(), Content.expect_of_kind hkind, ?_⟩
  refine bind_eq_ok.2 ⟨v, hvalue, ?_⟩
  rw [hx]
  rfl

/-- What a chunk that is left out reads as is the same as the default. -/
theorem exists_value_absent (hkind : f.resolve = .ok (kind, target)) (hdefault : f.default? = some v)
    (hfits : kind.fits v) : ∃ w, (absent f).toValue charset = .ok w ∧ w.same v := by
  have hread {content : Content} (hleaf : kind.isComposite = false)
      (h : Content.read charset kind (absent f) = .ok content) :
      (absent f).toValue charset = .ok content.toValue := by
    rw [toValue_eq]
    exact (valueBy_eq_ok_of_leaf (kind_eq_ok.2 ⟨target, hkind⟩) hleaf).2 ⟨content, h, rfl⟩
  cases kind with
  | integer =>
    obtain ⟨n, hn⟩ := Option.isSome_iff_exists.1 hfits
    have hscalar : (absent f).integer = .ok n := scalar_absent hkind hdefault hn
    exact ⟨_, hread rfl (bind_eq_ok.2 ⟨n, hscalar, rfl⟩), Value.same_of_asInt (asInt_of_int32? hn)⟩
  | bool =>
    obtain ⟨b, hb⟩ := Option.isSome_iff_exists.1 hfits
    have hscalar : (absent f).bool = .ok b := scalar_absent hkind hdefault hb
    exact ⟨_, hread rfl (bind_eq_ok.2 ⟨b, hscalar, rfl⟩), Value.same_of_asBool hb⟩
  | float =>
    obtain ⟨x, hx⟩ := Option.isSome_iff_exists.1 hfits
    have hscalar : (absent f).float = .ok x := scalar_absent hkind hdefault hx
    exact ⟨_, hread rfl (bind_eq_ok.2 ⟨x, hscalar, rfl⟩), Value.same_of_asFloat hx⟩
  | string =>
    obtain ⟨t, ht⟩ := Option.isSome_iff_exists.1 hfits
    have hscalar : (absent f).string charset = .ok t := scalar_absent hkind hdefault ht
    exact ⟨_, hread rfl (bind_eq_ok.2 ⟨t, hscalar, rfl⟩), Value.same_of_asString ht⟩
  | _ => cases hfits

end Chunk

/-! ## Records -/

namespace Record

variable {charset : Charset} {d f : Schema} {row : Option UInt32} {c c' : Cursor} {r : Record} {o : Value}
  {i : UInt32} {n : String} {chunk : Chunk}

/-- A chunk that a record lists is the only one with its index. -/
theorem filter_eq_singleton (h : (r.entries.map Prod.fst).Pairwise (· < ·)) (hmem : (i, chunk) ∈ r.entries) :
    r.entries.filter (·.1 == i) = [(i, chunk)] := by
  have hfind := Search.find?_toList (List.pairwise_map.1 h) i
  have hfilter : (i, chunk) ∈ (Search.find? Prod.fst i r.entries).toList := by
    rw [hfind]
    exact List.mem_filter.2 ⟨hmem, by simp⟩
  rw [← hfind, Option.mem_toList.1 hfilter]
  rfl

/-- So it is the one that is found under its index. -/
theorem entry?_of_mem (h : (r.entries.map Prod.fst).Pairwise (· < ·)) (hmem : (i, chunk) ∈ r.entries) :
    r.entry? i = some chunk := by
  have hfind := Search.find?_toList (List.pairwise_map.1 h) i
  rw [filter_eq_singleton h hmem] at hfind
  exact Option.map_eq_some_iff.2 ⟨(i, chunk), Option.toList_eq_singleton_iff.1 hfind, rfl⟩

theorem Chunks.length_payload_le {previous : UInt32} {pos : Nat} {body : List UInt8}
    {chunks : List (UInt32 × Payload)} (h : Chunks previous pos body chunks) {x : UInt32 × Payload}
    (hx : x ∈ chunks) : x.2.bytes.length ≤ body.length := by
  induction h with
  | nil => cases hx
  | cons _ _ _ _ _ ih =>
    simp only [List.length_append]
    rcases List.mem_cons.1 hx with rfl | hx
    · simp only
      omega
    · have := ih hx
      omega

/-- A record is at least as long as each of its chunks. -/
theorem length_le_of_mem_entries (h : parse d row c = .ok r c') {e : UInt32 × Chunk} (he : e ∈ r.entries) :
    e.2.length ≤ r.length := by
  obtain ⟨bytes, chunks, _, _, hwritten, rfl⟩ := parse_eq_ok_iff_written.1 h
  obtain ⟨x, hx, rfl⟩ := List.mem_map.1 he
  show x.2.bytes.length ≤ bytes.length
  obtain ⟨body, ending, rfl, hbody, _⟩ | ⟨hbody, _⟩ := hwritten
  · have := hbody.length_payload_le hx
    rw [List.length_append]
    omega
  · exact hbody.length_payload_le hx

/-- So the value of a record is made of those of its chunks. -/
theorem toValue_eq (h : parse d row c = .ok r c') : r.toValue charset = r.valueBy (Chunk.toValue charset) :=
  valueBy_congr fun _ he =>
    Chunk.valueWithin_eq (Nat.lt_succ_of_le (length_le_of_mem_entries h he)) (Nat.lt_succ_self _)

/-- The name of a field stands for its index. -/
theorem get?_name (hfind : r.schema.find? (.name n) = some f) (hi : f.index? = some i) :
    r.get? (.name n) = r.get? (.index i) := by
  have hindex : r.indexOf? (.name n) = some i := by rw [indexOf?, hfind, Option.bind_some, hi]
  rw [get?, hindex]
  rfl

/-- A field is given as the chunk that the record holds, else as an absent chunk if it has a default. -/
theorem get?_field (hfind : r.schema.find? (.index i) = some f) {held : Option Chunk}
    (hheld : r.entry? i = held) :
    r.get? (.index i) = held.or (f.default?.map fun _ => .absent f) := by
  have hdefault : f.default?.map (fun _ => Chunk.absent f) = if f.hasDefault then some (.absent f) else none := by
    unfold Schema.default?
    split
    · rename_i h
      unfold Schema.hasDefault at h
      split at h <;> simp_all
    · rfl
  simp only [get?, indexOf?, hfind, hdefault, Option.filter_some, hheld]
  cases held with
  | none => split <;> simp_all
  | some chunk => rfl

/-- A record of a legible schema, and what its object shows of its chunks. -/
structure Exported (charset : Charset) (d : Schema) (r : Record) (items : List Entry) : Prop where
  legible : d.LegibleRecord
  schema_eq : r.schema = d
  ascending : (r.entries.map Prod.fst).Pairwise (· < ·)
  chunk_eq : ∀ i chunk, (i, chunk) ∈ r.entries → ∃ p, chunk = ⟨d.find? (.index i), some p⟩
  shown : Shown d items
  shows : List.Forall₂ (Entry.Shows (Chunk.toValue charset)) (visibleEntries r.entries) items

/-- A record that is read is exported as the object of what it shows. -/
theorem exists_exported (hd : d.LegibleRecord) (hr : parse d row c = .ok r c') (ho : r.toValue charset = .ok o) :
    ∃ items, Exported charset d r items ∧ o = .object (recordFields d items) := by
  obtain ⟨rfl, _, hin⟩ := inOrder_of_parse hr
  rw [toValue_eq hr, valueBy_eq_ok hd hin] at ho
  obtain ⟨items, hshows, hshown, rfl⟩ := ho
  refine ⟨items, ⟨hd, rfl, (List.pairwise_cons.1 hin.ascending).2, ?_, hshown, hshows⟩, rfl⟩
  rintro i ⟨f, payload⟩ hmem
  obtain ⟨p, rfl⟩ := hin.payload hmem
  obtain rfl : f = r.schema.find? (.index i) := hin.schema_eq hmem
  exact ⟨p, rfl⟩

namespace Exported

variable {items : List Entry}

theorem entry?_iff_mem (h : Exported charset d r items) : r.entry? i = some chunk ↔ (i, chunk) ∈ r.entries :=
  ⟨fun hentry => mem_of_entry? hentry, entry?_of_mem h.ascending⟩

/-- A chunk with a key is shown with its value. -/
theorem exists_item (h : Exported charset d r items) {k : String} (hmem : (i, chunk) ∈ r.entries)
    (hkey : entryKey? i chunk = some k) : ∃ e ∈ items, e.key = k ∧ chunk.toValue charset = .ok e.value := by
  have hvisible : (i, chunk) ∈ visibleEntries r.entries := List.mem_filter.2 ⟨hmem, by simp [hkey]⟩
  obtain ⟨e, he, hshow⟩ := exists_right_of_forall₂ h.shows hvisible
  exact ⟨e, he, entryKey?_of_shows hshow hkey, hshow.2.2⟩

/-- What is shown is a chunk of the record. -/
theorem exists_chunk (h : Exported charset d r items) {e : Entry} (he : e ∈ items) :
    ∃ chunk, (e.index, chunk) ∈ r.entries := by
  obtain ⟨⟨i, chunk⟩, hmem, hindex, _⟩ := exists_left_of_forall₂ h.shows he
  obtain rfl : e.index = i := hindex
  exact ⟨chunk, List.mem_of_mem_filter hmem⟩

theorem lookup_item (h : Exported charset d r items) {e : Entry} (he : e ∈ items) :
    (recordFields d items).lookup e.key = some e.value :=
  lookup_recordFields h.shown h.legible he

/-- A chunk of a field is shown under the name of the field. -/
theorem entryKey?_field (h : Exported charset d r items) (hf : f ∈ d.fields) (hn : f.name? = some n)
    (hi : f.index? = some i) (hvisible : isInternal n = false) (hmem : (i, chunk) ∈ r.entries) :
    entryKey? i chunk = some n := by
  obtain ⟨p, rfl⟩ := h.chunk_eq _ _ hmem
  simp [entryKey?, Chunk.name?, h.legible.find_index hf hi, hn, hvisible]

/-- The name of a field is the key of a chunk only if the record holds a chunk of the field. -/
theorem exists_chunk_of_key (h : Exported charset d r items) (hf : f ∈ d.fields) (hn : f.name? = some n)
    (hi : f.index? = some i) (hkey : n ∈ items.map Entry.key) : ∃ chunk, (i, chunk) ∈ r.entries := by
  obtain ⟨e, he, hkey⟩ := List.mem_map.1 hkey
  obtain ⟨chunk, hmem⟩ := h.exists_chunk he
  rcases h.shown.key_cases h.legible he with ⟨g, m, _, hg, hgi, hm, hkey', _⟩ | ⟨_, hkey'⟩
  · obtain rfl : n = m := hkey.symm.trans hkey'
    obtain rfl := h.legible.eq_of_name hg hf hm hn
    obtain rfl := Option.some.inj (hi.symm.trans hgi)
    exact ⟨chunk, hmem⟩
  · obtain ⟨m, hm, htext⟩ := h.legible.name f hf
    obtain rfl := Option.some.inj (hn.symm.trans hm)
    exact absurd (hkey.symm.trans hkey') (htext e.index)

/-- The default of a field is shown under the name of the field if the record holds no chunk of it. -/
theorem lookup_default (h : Exported charset d r items) (hf : f ∈ d.fields) (hn : f.name? = some n)
    (hi : f.index? = some i) (hvisible : isInternal n = false) (hentry : r.entry? i = none) {v : Value}
    (hv : f.default? = some v) : (recordFields d items).lookup n = some v := by
  have hnew : n ∉ items.map Entry.key := fun hkey => by
    obtain ⟨chunk, hmem⟩ := h.exists_chunk_of_key hf hn hi hkey
    cases hentry.symm.trans (h.entry?_iff_mem.2 hmem)
  exact lookup_recordFields_default h.shown h.legible hf hn hv hvisible hnew

/-- What is given for the name of a field has the value that is shown under it. -/
theorem value_of_get? (h : Exported charset d r items) (hf : f ∈ d.fields) (hn : f.name? = some n)
    (hi : f.index? = some i) (hvisible : isInternal n = false) (hget : r.get? (.index i) = some chunk) :
    ∃ v w, chunk.toValue charset = .ok v ∧ (recordFields d items).lookup n = some w ∧
      (v = w ∨ chunk.isAbsent ∧ v.same w) := by
  obtain rfl := h.schema_eq
  cases hentry : r.entry? i with
  | some held =>
    rw [get?_field (h.legible.find_index hf hi) hentry] at hget
    obtain rfl : held = chunk := Option.some.inj hget
    have hmem := h.entry?_iff_mem.1 hentry
    obtain ⟨e, he, rfl, hvalue⟩ := h.exists_item hmem (h.entryKey?_field hf hn hi hvisible hmem)
    exact ⟨e.value, e.value, hvalue, h.lookup_item he, .inl rfl⟩
  | none =>
    rw [get?_field (h.legible.find_index hf hi) hentry, Option.none_or] at hget
    obtain ⟨v, hv, rfl⟩ := Option.map_eq_some_iff.1 hget
    obtain ⟨kind, target, hkind, hfits⟩ := h.legible.default_fits f hf v hv
    obtain ⟨w, hw, hsame⟩ : ∃ w, (Chunk.absent f).toValue charset = .ok w ∧ w.same v :=
      Chunk.exists_value_absent hkind hv hfits
    exact ⟨w, v, hw, h.lookup_default hf hn hi hvisible hentry hv, .inr ⟨rfl, hsame⟩⟩

/-- Nothing is shown under the name of a field for which nothing is given. -/
theorem lookup_eq_none (h : Exported charset d r items) (hf : f ∈ d.fields) (hn : f.name? = some n)
    (hi : f.index? = some i) (hget : r.get? (.index i) = none) : (recordFields d items).lookup n = none := by
  obtain rfl := h.schema_eq
  rw [get?_field (h.legible.find_index hf hi) rfl, Option.or_eq_none_iff, Option.map_eq_none_iff] at hget
  obtain ⟨hentry, hdefault⟩ := hget
  rw [Fields.lookup_eq_none, recordFields, List.map_append, List.map_map, List.mem_append, not_or]
  constructor
  · intro hkey
    obtain ⟨chunk, hmem⟩ := h.exists_chunk_of_key hf hn hi hkey
    cases hentry.symm.trans (h.entry?_iff_mem.2 hmem)
  · intro hkey
    obtain ⟨⟨m, v⟩, hmem, rfl⟩ := List.mem_map.1 hkey
    obtain ⟨g, hg, hgn, hv, _⟩ := mem_missing hmem
    obtain rfl := h.legible.eq_of_name hg hf hgn hn
    cases hdefault.symm.trans hv

/-- A chunk that the schema does not know is shown under its index as the list of its bytes. -/
theorem value_of_unknown (h : Exported charset d r items) (hmem : (i, chunk) ∈ r.entries)
    (hfind : d.find? (.index i) = none) : ∃ p, chunk.payload = some p ∧ r.get? (.index i) = some chunk ∧
      chunk.toValue charset = .ok (.ofBytes p.bytes) ∧
        (recordFields d items).lookup (indexText i) = some (.ofBytes p.bytes) := by
  obtain ⟨p, rfl⟩ := h.chunk_eq _ _ hmem
  obtain rfl := h.schema_eq
  rw [hfind] at hmem ⊢
  obtain ⟨e, he, hkey, hvalue⟩ := h.exists_item hmem (k := indexText i) rfl
  have hbytes : Chunk.toValue charset ⟨none, some p⟩ = .ok (.ofBytes p.bytes) := Chunk.toValue_opaque p
  obtain heq : e.value = .ofBytes p.bytes := Except.ok.inj (hvalue.symm.trans hbytes)
  refine ⟨p, rfl, ?_, hbytes, by rw [← hkey, h.lookup_item he, heq]⟩
  simp only [get?, indexOf?, h.entry?_iff_mem.2 hmem]

/-- Every key of the object is the name of a field for which something is given or the index of a chunk that the
schema does not know. -/
theorem key_cases (h : Exported charset d r items) {k : String} (hk : k ∈ (recordFields d items).map Prod.fst) :
    (∃ f ∈ d.fields, f.name? = some k ∧ isInternal k = false ∧ (r.get? (.name k)).isSome) ∨
      ∃ i ∈ r.entries.map Prod.fst, d.find? (.index i) = none ∧ k = indexText i := by
  obtain rfl := h.schema_eq
  rw [recordFields, List.map_append, List.map_map, List.mem_append] at hk
  rcases hk with hk | hk
  · obtain ⟨e, he, hek⟩ := List.mem_map.1 hk
    obtain rfl : e.key = k := hek
    obtain ⟨chunk, hmem⟩ := h.exists_chunk he
    rcases h.shown.key_cases h.legible he with ⟨f, n, _, hf, hi, hn, rfl, hvisible⟩ | ⟨hnone, hkey⟩
    · refine .inl ⟨f, hf, hn, hvisible, ?_⟩
      rw [get?_name (h.legible.find_name hf hn) hi, get?_field (h.legible.find_index hf hi) (h.entry?_iff_mem.2 hmem)]
      rfl
    · exact .inr ⟨e.index, List.mem_map_of_mem hmem, (h.shown.schema_eq e he).symm.trans hnone, hkey⟩
  · obtain ⟨⟨k, v⟩, hmem, rfl⟩ := List.mem_map.1 hk
    obtain ⟨f, hf, hn, hv, hvisible, _⟩ := mem_missing hmem
    obtain ⟨i, hi, _⟩ := h.legible.index f hf
    refine .inl ⟨f, hf, hn, hvisible, ?_⟩
    rw [get?_name (h.legible.find_name hf hn) hi, get?_field (h.legible.find_index hf hi) rfl, hv]
    cases r.entry? i <;> rfl

end Exported

/-- What a record gives by name or by index is what its object shows: for a field that is shown, an element has
the value under the name of the field (one that is left out reads as a value that is the same as the default there),
and without an element there is no such key.  Chunks that the schema does not know are shown under their index, and
there are no other keys. -/
theorem get?_agrees_toValue (hd : d.LegibleRecord) (hr : parse d row c = .ok r c')
    (ho : r.toValue charset = .ok o) :
    (∀ f ∈ d.fields, ∀ n i, f.name? = some n → f.index? = some i → isInternal n = false →
      (∀ e, r.get? (.name n) = some e → r.get? (.index i) = some e ∧ ∃ v w, e.toValue charset = .ok v ∧
        o.get? n = some w ∧ (v = w ∨ e.isAbsent ∧ v.same w)) ∧
      (r.get? (.name n) = none →
        o.get? n = none ∧ r.field (.name n) = .error (.missingField s!"{d.label}.{n}"))) ∧
    (∀ i e, (i, e) ∈ r.entries → d.find? (.index i) = none → ∃ p, e.payload = some p ∧
      r.get? (.index i) = some e ∧ e.toValue charset = .ok (.ofBytes p.bytes) ∧
        o.get? (indexText i) = some (.ofBytes p.bytes)) ∧
    ∃ fields, o = .object fields ∧ (fields.map Prod.fst).Nodup ∧ ∀ k ∈ fields.map Prod.fst,
      (∃ f ∈ d.fields, f.name? = some k ∧ isInternal k = false ∧ (r.get? (.name k)).isSome) ∨
        ∃ i ∈ r.entries.map Prod.fst, d.find? (.index i) = none ∧ k = indexText i := by
  obtain ⟨items, h, rfl⟩ := exists_exported hd hr ho
  obtain rfl := h.schema_eq
  refine ⟨fun f hf n i hn hi hvisible => ?_, fun i e => h.value_of_unknown,
    recordFields r.schema items, rfl, keys_recordFields_nodup h.shown hd, fun k => h.key_cases⟩
  rw [get?_name (hd.find_name hf hn) hi]
  refine ⟨fun e he => ⟨he, h.value_of_get? hf hn hi hvisible he⟩, fun hnone => ?_⟩
  refine ⟨h.lookup_eq_none hf hn hi hnone, ?_⟩
  rw [field, get?_name (hd.find_name hf hn) hi, hnone]
  rfl

/-- An inventory with a party, without gold and items, and with a chunk that the schema does not know. -/
theorem get?_agrees_toValue_inventory :
    let d : Schema := ⟨Document.saveInventory⟩
    let bytes : List UInt8 := [2, 4, 1, 0, 2, 0, 22, 1, 7, 99, 2, 7, 8, 0]
    ∃ r o, d.LegibleRecord ∧ parse d none ⟨0, bytes⟩ = .ok r ⟨14, []⟩ ∧ r.toValue .shiftJis = .ok o ∧
      (∃ e v, r.get? (.name "party") = some e ∧ r.get? (.index 2) = some e ∧ e.isAbsent = false ∧
        e.toValue .shiftJis = .ok v ∧ o.get? "party" = some v) ∧
      (∃ e v w, r.get? (.name "gold") = some e ∧ e.isAbsent ∧ e.toValue .shiftJis = .ok v ∧
        o.get? "gold" = some w ∧ (v = w ∨ v.same w)) ∧
      o.get? "item_ids" = none ∧ r.field (.name "item_ids") = .error (.missingField "SaveInventory.item_ids") ∧
      o.get? (indexText 99) = some (.ofBytes [7, 8]) := by
  intro d bytes
  have hd : d.LegibleRecord :=
    ((Schema.consistent_of_check (show d.checkWithin 2 from by decide +kernel)).1.record rfl).legible
  let party : Chunk := ⟨d.find? (.index 2), some ⟨2, [1, 0, 2, 0]⟩⟩
  let unknown : Chunk := ⟨d.find? (.index 99), some ⟨11, [7, 8]⟩⟩
  let r : Record := ⟨d, [(2, party), (22, ⟨d.find? (.index 22), some ⟨8, [7]⟩⟩), (99, unknown)], none, 0, 14⟩
  have hr : parse d none ⟨0, bytes⟩ = .ok r ⟨14, []⟩ := rfl
  obtain ⟨o, ho⟩ := exists_of_isOk (show (r.toValue .shiftJis).isOk from by decide +kernel)
  obtain ⟨hfields, hopaque, _⟩ := get?_agrees_toValue hd hr ho
  have hascending : (r.entries.map Prod.fst).Pairwise (· < ·) :=
    show ([2, 22, 99] : List UInt32).Pairwise (· < ·) from by decide
  have habsent : ∀ i, i ∉ ([2, 22, 99] : List UInt32) → r.entry? i = none := fun i hi => entry?_eq_none hi
  have hparty : r.get? (.name "party") = some party :=
    (get?_name rfl rfl).trans (get?_field rfl (entry?_of_mem hascending (.head _)))
  have hgold : r.get? (.name "gold") = some (.absent _) :=
    (get?_name rfl rfl).trans (get?_field rfl (habsent 21 (by decide)))
  have hitems : r.get? (.name "item_ids") = none :=
    (get?_name rfl rfl).trans (get?_field rfl (habsent 12 (by decide)))
  have hfield := fun n f h i => hfields f (Schema.mem_of_find_name h).1 n i (Schema.mem_of_find_name h).2
  obtain ⟨hindex, v, _, hv, hw, hcase⟩ := (hfield "party" _ rfl 2 rfl rfl).1 party hparty
  obtain ⟨_, v', w', hv', hw', hcase'⟩ := (hfield "gold" _ rfl 21 rfl rfl).1 (.absent _) hgold
  obtain ⟨hnone, hmissing⟩ := (hfield "item_ids" _ rfl 12 rfl rfl).2 hitems
  obtain ⟨p, hp, _, _, hbytes⟩ := hopaque 99 unknown (.tail _ (.tail _ (.head _))) rfl
  obtain rfl := Option.some.inj hp
  obtain rfl : v = _ := hcase.resolve_right (by rintro ⟨⟨⟩, _⟩)
  exact ⟨r, o, hd, hr, ho, ⟨party, v, hparty, hindex, rfl, hv, hw⟩,
    ⟨.absent _, v', w', hgold, rfl, hv', hw', hcase'.imp_right And.right⟩, hnone, hmissing, hbytes⟩

end Record

end ChunkTree
