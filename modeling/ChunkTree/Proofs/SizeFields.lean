import ChunkTree.Proofs.ChunksKept

/-!
# Size fields are rebuilt

A record is written with a chunk for a size field just if it is written with one for the field that the size is
about, and that chunk holds the length of the other one's payload, counted in items (`Save.SizeRebuilt`).  What an
object says of internal fields, by name or by index, is not looked at (`Save.keyEntry_of_ignores`).
`Value.saveRecord_sizes` says both.
-/

namespace ChunkTree

open Text (Charset)
open Parse (Takes)
open Save (Entry chunkBytes sortBy givenEntries sizeEntries)

variable {charset : Charset}

namespace Schema

/-- A record whose fields can be told apart, and whose size fields are internal numbers about fields that are not
internal. -/
structure SizedRecord (d : Schema) : Prop where
  index_ne_zero : ∀ f ∈ d.fields, f.index? ≠ some 0
  indices_nodup : (d.fields.filterMap index?).Nodup
  names_nodup : (d.fields.filterMap name?).Nodup
  size_field : ∀ f ∈ d.fields, ∀ t, f.sizeOf? = some t → (∃ target, f.resolve = .ok (.integer, target)) ∧
    f.name?.any isInternal ∧ isInternal t = false

theorem SizedRecord.apart {d : Schema} (hd : d.SizedRecord) : d.Apart :=
  ⟨hd.index_ne_zero, hd.indices_nodup, hd.names_nodup⟩

/-- Whether a key of an object is left out when the object is saved, whatever its value: an internal key, and the
index of an internal field unless it is the name of a field. -/
def ignores (d : Schema) (key : String) : Bool :=
  isInternal key || ((d.find? (.name key)).isNone &&
    (Save.index? key).any fun i => ((d.find? (.index i)).bind name?).any isInternal)

/-- The fields of an object under keys that are looked at when the object is saved. -/
def heeded (d : Schema) (fields : Fields) : Fields :=
  fields.filter fun f => !d.ignores f.1

/-- A consistent record has size fields that can be rebuilt if none is about an internal field. -/
theorem ConsistentRecord.sizedRecord {d : Schema} (hd : d.ConsistentRecord)
    (h : ∀ f ∈ d.fields, ∀ t, f.sizeOf? = some t → isInternal t = false) : d.SizedRecord where
  index_ne_zero f hf hzero := by
    obtain ⟨i, hi, hne⟩ := hd.index f hf
    exact hne (Option.some.inj (hi.symm.trans hzero))
  indices_nodup := nodup_filterMap hd.indices_nodup
  names_nodup := nodup_filterMap hd.names_nodup
  size_field f hf t ht := by
    obtain ⟨target, n, hkind, hn, hinternal⟩ := hd.size_field f hf (by rw [ht]; rfl)
    exact ⟨⟨target, hkind⟩, by rw [hn, Option.any_some, hinternal], h f hf t ht⟩

end Schema

namespace Save

variable {d f g : Schema} {fields : Fields} {given sizes : List Entry} {e : Entry}

/-! ## The entries of a record -/

/-- A given entry of a field is the field's, with the field's index. -/
theorem mem_fields_of_given (hgiven : givenEntries d fields = .ok given) (he : e ∈ given)
    (hu : e.schema = some g) : g ∈ d.fields ∧ g.index? = some e.index := by
  rw [(givenEntries_eq_ok.1 hgiven).2] at he
  obtain ⟨field, _, hkept⟩ := List.mem_filterMap.1 he
  obtain ⟨_, hdesignated, _⟩ := Schema.kept_eq_some.1 hkept
  exact Schema.field_of_designated (hu ▸ hdesignated)

theorem Entry.count_eq_ok {size : Value → Schema → Except Error Nat} (hu : e.schema = some g) {n : Nat} :
    e.count size = .ok n ↔ ∃ payload kind target, e.payloadSize size = .ok payload ∧
      g.resolve = .ok (kind, target) ∧ payload / kind.itemWidth.getD 1 = n := by
  rw [Entry.count, hu]
  simp only [bind_eq_ok]
  constructor
  · rintro ⟨payload, hpayload, ⟨kind, target⟩, hkind, h⟩
    refine ⟨payload, kind, target, hpayload, hkind, ?_⟩
    cases kind <;> simpa [Kind.itemWidth, pure, Except.pure] using h
  · rintro ⟨payload, kind, target, hpayload, hkind, rfl⟩
    refine ⟨payload, hpayload, (kind, target), hkind, ?_⟩
    cases kind <;> simp [Kind.itemWidth, pure, Except.pure]

/-- An integer field that takes a number takes its lowest 32 bits; and a number of 63 bits that it takes has 31. -/
theorem encodeLength_of_save_ofNat {target : Schema} (hkind : f.resolve = .ok (.integer, target)) {n : Nat}
    {p : List UInt8} (h : (Value.ofNat n).save charset f = .ok p) :
    p = Varint.encodeLength n ∧ (n < 0x8000000000000000 → n < 0x80000000) := by
  rw [Value.save_of_leaf hkind rfl] at h
  obtain ⟨m, hm, hp⟩ := bind_eq_ok.1 h
  obtain rfl := pure_eq_ok.1 hp
  obtain ⟨k, hk, hkm⟩ := int32_eq_ok.1 hm
  obtain rfl : Int64.ofNat n = k := Option.some.inj hk
  have hm : m = Int32.ofNat n := by
    rw [← Int64.toInt32_ofNat', ← Int32.toInt_inj, Int64.toInt_toInt32, hkm, Int32.toInt_bmod]
  refine ⟨by rw [hm, Varint.encodeSigned, Int32.toUInt32_ofNat', Varint.encodeLength], fun hlt => ?_⟩
  rw [Int64.toInt_ofNat_of_lt hlt] at hkm
  have := m.toInt_lt
  omega

/-- A record has one chunk at most for an index. -/
theorem snd_eq_of_fst_eq {chunks : List (UInt32 × List UInt8)} (h : (chunks.map Prod.fst).Pairwise (· < ·))
    {i : UInt32} {p q : List UInt8} (hp : (i, p) ∈ chunks) (hq : (i, q) ∈ chunks) : p = q := by
  have hnodup : (chunks.map Prod.fst).Nodup := h.imp UInt32.ne_of_lt
  exact congrArg Prod.snd (List.inj_on_of_nodup_map hnodup hp hq rfl)

/-- Whether a record has a chunk for a size field just if it has one for the field of the given name, and whether
that chunk then holds the number of items in the payload of the other one, or of bytes if those are no items of a
fixed width. -/
structure SizeRebuilt (d : Schema) (chunks : List (UInt32 × List UInt8)) (i : UInt32) (name : String) : Prop where
  written : (∃ p, (i, p) ∈ chunks) ↔
    ∃ g ∈ d.fields, g.name? = some name ∧ ∃ j q, g.index? = some j ∧ (j, q) ∈ chunks
  number : ∀ g ∈ d.fields, ∀ j p q, g.name? = some name → g.index? = some j → (i, p) ∈ chunks → (j, q) ∈ chunks →
    ∃ kind target, g.resolve = .ok (kind, target) ∧ p = Varint.encodeLength (q.length / kind.itemWidth.getD 1) ∧
      (q.length < 0x8000000000000000 → q.length / kind.itemWidth.getD 1 < 0x80000000)

section

variable {chunks : List (UInt32 × List UInt8)} {i : UInt32} {name : String}

/-- Whether chunks are those of the entries that the fields of an object give and of the size fields, by index. -/
structure WrittenAs (charset : Charset) (d : Schema) (fields : Fields) (given sizes : List Entry)
    (chunks : List (UInt32 × List UInt8)) : Prop where
  key : givenEntries d fields = .ok given
  size : sizeEntries (Value.savedSize charset) given d.fields = .ok sizes
  chunk : List.Forall₂ (Entry.Writes (Value.savedSize charset) (Value.save charset))
    (sortBy Entry.index (given ++ sizes)) chunks
  ascending : (chunks.map Prod.fst).Pairwise (· < ·)

namespace WrittenAs

variable (hd : d.SizedRecord) (h : WrittenAs charset d fields given sizes chunks)

include h

theorem exists_entry {p : List UInt8} (hp : (i, p) ∈ chunks) :
    ∃ e, (e ∈ given ∨ e ∈ sizes) ∧ e.index = i ∧ e.payload (Value.save charset) = .ok p := by
  obtain ⟨e, he, hwrites⟩ := exists_left_of_forall₂ h.chunk hp
  exact ⟨e, List.mem_append.1 (mem_sortBy.1 he), hwrites.index.symm, hwrites.payload⟩

theorem exists_chunk (he : e ∈ given ∨ e ∈ sizes) :
    ∃ p, (e.index, p) ∈ chunks ∧ e.payloadSize (Value.savedSize charset) = .ok p.length := by
  obtain ⟨⟨i, p⟩, hc, hwrites⟩ := exists_right_of_forall₂ h.chunk (mem_sortBy.2 (List.mem_append.2 he))
  obtain rfl := hwrites.index
  exact ⟨p, hc, hwrites.length⟩

include hd

/-- The chunk of a field that is not internal was given. -/
theorem exists_given {p : List UInt8} (hp : (i, p) ∈ chunks) (hg : g ∈ d.fields) (hi : g.index? = some i)
    (hinternal : g.name?.any isInternal = false) : ∃ e ∈ given, e.schema = some g := by
  obtain ⟨e, he, rfl, _⟩ := h.exists_entry hp
  rcases he with he | he
  · exact ⟨e, he, (field_of_given hd.apart h.key he hg hi).1⟩
  · -- size fields are internal
    obtain ⟨f, hf, t, _, _, ht, hfi, _⟩ := mem_sizeEntries h.size he
    obtain rfl := eq_of_nodup_filterMap hd.indices_nodup hf hg hfi hi
    rw [(hd.size_field f hf t ht).2.1] at hinternal
    cases hinternal

/-- The chunk of a size field was worked out, for an entry of the field that the size is about. -/
theorem exists_described {p : List UInt8} (hp : (i, p) ∈ chunks) (hf : f ∈ d.fields) (hi : f.index? = some i)
    (hname : f.sizeOf? = some name) : ∃ e ∈ given, ∃ count, e.schema.bind Schema.name? = some name ∧
      e.count (Value.savedSize charset) = .ok count ∧ (Value.ofNat count).save charset f = .ok p := by
  obtain ⟨e, he, rfl, hpayload⟩ := h.exists_entry hp
  rcases he with he | he
  · -- what is given is not internal
    have hinternal := (field_of_given hd.apart h.key he hf hi).2
    rw [(hd.size_field f hf name hname).2.1] at hinternal
    cases hinternal
  · obtain ⟨f', hf', t, described, count, ht, hfi, hfind, hcount, heq⟩ := mem_sizeEntries h.size he
    obtain rfl := eq_of_nodup_filterMap hd.indices_nodup hf' hf hfi hi
    obtain rfl := Option.some.inj (hname.symm.trans ht)
    rw [heq] at hpayload
    exact ⟨described, List.mem_of_find?_eq_some hfind, count, by simpa using List.find?_some hfind, hcount,
      hpayload⟩

theorem sizeRebuilt (hf : f ∈ d.fields) (hi : f.index? = some i) (hname : f.sizeOf? = some name) :
    SizeRebuilt d chunks i name := by
  obtain ⟨⟨target, hkind⟩, _, hshown⟩ := hd.size_field f hf name hname
  refine ⟨⟨?_, ?_⟩, fun g hg j p q hgn hgj hp hq => ?_⟩
  · rintro ⟨p, hp⟩
    obtain ⟨e, he, _, hen, _⟩ := h.exists_described hd hp hf hi hname
    obtain ⟨g, hu, hgn⟩ := Option.bind_eq_some_iff.1 hen
    obtain ⟨hg, hgj⟩ := mem_fields_of_given h.key he hu
    obtain ⟨q, hq, _⟩ := h.exists_chunk (.inl he)
    exact ⟨g, hg, hgn, e.index, q, hgj, hq⟩
  · rintro ⟨g, hg, hgn, j, q, hgj, hq⟩
    obtain ⟨e, he, hu⟩ := h.exists_given hd hq hg hgj (by rw [hgn, Option.any_some, hshown])
    have hen : e.schema.bind Schema.name? = some name := by rw [hu, Option.bind_some, hgn]
    obtain ⟨e', he', rfl⟩ := exists_mem_sizeEntries h.size hf hi hname he hen
    obtain ⟨p, hp, _⟩ := h.exists_chunk (.inr he')
    exact ⟨p, hp⟩
  · obtain ⟨e, he, count, hen, hcount, hsave⟩ := h.exists_described hd hp hf hi hname
    obtain ⟨g', hu, hgn'⟩ := Option.bind_eq_some_iff.1 hen
    obtain ⟨hg', hgj'⟩ := mem_fields_of_given h.key he hu
    obtain rfl := eq_of_nodup_filterMap hd.names_nodup hg' hg hgn' hgn
    obtain rfl := Option.some.inj (hgj'.symm.trans hgj)
    obtain ⟨payload, kind, target', hpayload, hkind', rfl⟩ := (Entry.count_eq_ok hu).1 hcount
    -- the entry that was counted is the one that was written
    obtain ⟨q', hq', hsize⟩ := h.exists_chunk (.inl he)
    obtain rfl := snd_eq_of_fst_eq h.ascending hq hq'
    obtain rfl := Except.ok.inj (hpayload.symm.trans hsize)
    obtain ⟨hp, hsmall⟩ := encodeLength_of_save_ofNat hkind hsave
    exact ⟨kind, target', hkind', hp, fun hlt => hsmall ((Nat.div_le_self _ _).trans_lt hlt)⟩

end WrittenAs

end

/-! ## Keys that are not looked at -/

theorem keyEntry_of_ignores (hd : d.SizedRecord) {key : String} (h : d.ignores key) (v : Value) :
    keyEntry d key v = .ok none := by
  unfold keyEntry
  by_cases hinternal : isInternal key
  · rw [if_pos hinternal]
  rw [Schema.ignores, Bool.or_eq_true, or_iff_right hinternal, Bool.and_eq_true, Option.isNone_iff_eq_none,
    Option.any_eq_true] at h
  obtain ⟨hname, i, hi, hfield⟩ := h
  -- no field has the index zero
  have hzero : i ≠ 0 := by
    rintro rfl
    cases hfind : d.find? (.index 0) with
    | none =>
      rw [hfind] at hfield
      cases hfield
    | some g =>
      obtain ⟨hg, hgi⟩ := Schema.mem_of_find_index hfind
      exact hd.index_ne_zero g hg hgi
  simp only [hinternal, hname, hi, hzero, getD_map_isInternal, hfield, Bool.false_eq_true, if_false, if_true]

/-- The entries of an object depend only on the keys that are looked at. -/
theorem givenEntries_heeded (hd : d.SizedRecord) (fields : Fields) :
    givenEntries d (d.heeded fields) = givenEntries d fields := by
  unfold Schema.heeded
  induction fields with
  | nil => rfl
  | cons f fields ih =>
    obtain ⟨key, v⟩ := f
    cases h : d.ignores key with
    | true =>
      rw [List.filter_cons_of_neg (by simp [h]), ih, givenEntries, keyEntry_of_ignores hd h, ok_bind]
      cases givenEntries d fields <;> rfl
    | false => rw [List.filter_cons_of_pos (by simp [h]), givenEntries, givenEntries, ih]

end Save

theorem chunkViews_payloads (d : Schema) (pos : Nat) (chunks : List (UInt32 × List UInt8)) :
    (chunkViews d pos chunks).map (fun e => (e.1, e.2.payload.map Payload.bytes)) =
      chunks.map fun c => (c.1, some c.2) := by
  induction chunks generalizing pos with
  | nil => rfl
  | cons c chunks ih => rw [chunkViews, List.map_cons, List.map_cons, ih, Option.map_some]

namespace Value

open Save

variable {d : Schema} {v w : Value}

/-- What a record is written as, chunk by chunk. -/
theorem exists_writtenAs (hd : d.Apart) {bytes : List UInt8} (h : v.saveRecord charset d = .ok bytes) :
    ∃ fields given sizes chunks, v.asObject = some fields ∧ WrittenAs charset d fields given sizes chunks ∧
      (0 :: chunks.map Prod.fst).Pairwise (· < ·) ∧ chunks.flatMap chunkBytes ++ Varint.encode 0 = bytes := by
  rw [saveRecord_eq] at h
  obtain ⟨entries, _, hentries, hwrite, rfl⟩ := writeRecord_eq_ok.1 h
  obtain ⟨chunks, hchunks, rfl⟩ := writeEntries_eq_ok.1 hwrite
  obtain ⟨fields, given, sizes, hv, hgiven, hsizes, hunique, rfl⟩ := entriesOf_eq_ok.1 hentries
  have hascending : (chunks.map Prod.fst).Pairwise (· < ·) := by
    rw [map_fst_of_writes hchunks, List.pairwise_map]
    exact (repeated?_eq_none (sortBy_ascending _)).1 hunique
  have hpositive : ∀ i ∈ chunks.map Prod.fst, 0 < i := by
    intro i hi
    rw [map_fst_of_writes hchunks] at hi
    obtain ⟨e, he, rfl⟩ := List.mem_map.1 hi
    rcases List.mem_append.1 (mem_sortBy.1 he) with he | he
    · exact UInt32.pos_iff_ne_zero.2 (index_ne_zero_of_given hd hgiven he)
    · obtain ⟨f, hf, _, _, _, _, hfi, _⟩ := mem_sizeEntries hsizes he
      exact UInt32.pos_iff_ne_zero.2 fun hzero => hd.index_ne_zero f hf (hzero ▸ hfi)
  exact ⟨fields, given, sizes, chunks, hv, ⟨hgiven, hsizes, hchunks, hascending⟩,
    List.pairwise_cons.2 ⟨hpositive, hascending⟩, rfl⟩

/-- Objects that agree on the keys that are looked at are saved alike, or fail alike. -/
theorem saveRecord_congr_heeded (hd : d.SizedRecord) {fs gs : Fields} (hv : v.asObject = some fs)
    (hw : w.asObject = some gs) (h : d.heeded fs = d.heeded gs) :
    v.saveRecord charset d = w.saveRecord charset d := by
  refine saveRecord_congr_given hv hw ?_
  rw [← givenEntries_heeded hd fs, h, givenEntries_heeded hd gs]

/-- The size fields of a record are rebuilt from what is written, and what an object says of internal fields makes
no difference. -/
theorem saveRecord_sizes (charset : Charset) (hd : d.SizedRecord) (v : Value) :
    (∀ bytes, v.saveRecord charset d = .ok bytes → ∃ chunks,
      bytes = chunks.flatMap chunkBytes ++ Varint.encode 0 ∧ (0 :: chunks.map Prod.fst).Pairwise (· < ·) ∧
      (bytes.length < 0x100000000 → ∃ r, (Record.parse d none).Takes 0 bytes r ∧
        r.entries.map (fun e => (e.1, e.2.payload.map Payload.bytes)) = chunks.map fun c => (c.1, some c.2)) ∧
      ∀ f ∈ d.fields, ∀ i name, f.index? = some i → f.sizeOf? = some name → SizeRebuilt d chunks i name) ∧
    ∀ w fs gs, v.asObject = some fs → asObject w = some gs → d.heeded fs = d.heeded gs →
      v.saveRecord charset d = w.saveRecord charset d := by
  refine ⟨fun bytes h => ?_, fun w fs gs => saveRecord_congr_heeded hd⟩
  obtain ⟨fields, given, sizes, chunks, _, hwritten, hascending, rfl⟩ := exists_writtenAs hd.apart h
  refine ⟨chunks, rfl, hascending, fun hlen => ?_, fun f hf i name => hwritten.sizeRebuilt hd hf⟩
  have hshort : ∀ c ∈ chunks, c.2.length < 0x100000000 := by
    intro c hc
    have hle := length_le_of_mem_chunks hc
    rw [List.length_append] at hlen
    omega
  exact ⟨_, Record.takes_parse d none 0 hascending hshort, chunkViews_payloads d 0 chunks⟩

/-- An inventory without a party, whose size is the default and is written all the same; what else the object says
of sizes is left out. -/
theorem saveRecord_sizes_inventory :
    let d : Schema := ⟨Document.saveInventory⟩
    let fs : Fields := [("_party_size", .int 9), ("party", .array []), ("11", .string "two"),
      ("item_ids", .array [.int 3, .int (-1)])]
    let gs : Fields := [("party", .array []), ("item_ids", .array [.int 3, .int (-1)])]
    d.SizedRecord ∧ d.heeded fs = gs ∧ d.heeded gs = gs ∧
      (object fs).saveRecord .shiftJis d = .ok [1, 1, 0, 2, 0, 11, 1, 2, 12, 4, 3, 0, 255, 255, 0] ∧
      ∃ chunks, [1, 1, 0, 2, 0, 11, 1, 2, 12, 4, 3, 0, 255, 255, 0] = chunks.flatMap chunkBytes ++ Varint.encode 0 ∧
        SizeRebuilt d chunks 1 "party" ∧ SizeRebuilt d chunks 11 "item_ids" := by
  intro d fs gs
  have hconsistent : d.ConsistentRecord :=
    (Schema.consistent_of_check (show d.checkWithin 2 from by decide +kernel)).1.record rfl
  have htargets : d.fields.all (fun f => f.sizeOf?.all fun t => !isInternal t) := by decide +kernel
  have hd : d.SizedRecord := hconsistent.sizedRecord fun f hf t ht => by
    have := List.all_eq_true.1 htargets f hf
    rw [ht] at this
    simpa using this
  have hfs : d.heeded fs = gs := by rfl
  have hgs : d.heeded gs = gs := by rfl
  have hsave : (object gs).saveRecord .shiftJis d = .ok [1, 1, 0, 2, 0, 11, 1, 2, 12, 4, 3, 0, 255, 255, 0] := by rfl
  obtain ⟨hrebuilt, hcongr⟩ := saveRecord_sizes .shiftJis hd (object gs)
  obtain ⟨chunks, hbytes, _, _, hsizes⟩ := hrebuilt _ hsave
  have hsaved := hcongr (object fs) gs fs rfl rfl (hgs.trans hfs.symm)
  have hparty : SizeRebuilt d chunks 1 "party" :=
    hsizes ⟨Document.preset 1 "_party_size" "integer" (.int 0)⟩ (.head _) 1 "party" rfl rfl
  have hitems : SizeRebuilt d chunks 11 "item_ids" :=
    hsizes ⟨Document.count 11 "_items_size" "integer" (.int 0) "item_ids"⟩ (.tail _ (.tail _ (.head _))) 11
      "item_ids" rfl rfl
  exact ⟨hd, hfs, hgs, hsaved ▸ hsave, chunks, hbytes, hparty, hitems⟩

end Value

end ChunkTree
