import ChunkTree.Proofs.LoadSave

/-!
# The chunks that loading and saving keep

A record that is loaded and saved again has the chunks that it had, but for those of internal fields and
those that are equal to their default, and a chunk for every size field whose target is kept
(`Record.chunksKept_of_save`).  What is kept is decoded to the same value, and what the schema does not know
keeps its bytes.
-/

namespace ChunkTree

open Text (Charset)
open Save (Entry isDefault Gives)

variable {charset : Charset}

namespace Save

variable {size : Value → Schema → Except Error Nat} {given sizes : List Entry} {fields : List Schema}

/-- A size field whose target is given is saved. -/
theorem exists_mem_sizeEntries (h : sizeEntries size given fields = .ok sizes) {f : Schema}
    (hf : f ∈ fields) {i : UInt32} (hi : f.index? = some i) {target : String} (ht : f.sizeOf? = some target)
    {e : Entry} (he : e ∈ given) (hname : e.schema.bind Schema.name? = some target) :
    ∃ e' ∈ sizes, e'.index = i := by
  induction fields generalizing sizes with
  | nil => cases hf
  | cons g fields ih =>
    rw [sizeEntries] at h
    rcases List.mem_cons.1 hf with rfl | hf
    · simp only [ht, hi] at h
      split at h
      · obtain ⟨count, _, h⟩ := bind_eq_ok.1 h
        obtain ⟨rest, _, h⟩ := bind_eq_ok.1 h
        rw [← pure_eq_ok.1 h]
        exact ⟨_, List.mem_cons_self, rfl⟩
      · rename_i hnone
        simpa [hname] using List.find?_eq_none.1 hnone e he
    · split at h
      · split at h
        · obtain ⟨count, _, h⟩ := bind_eq_ok.1 h
          obtain ⟨rest, hrest, h⟩ := bind_eq_ok.1 h
          rw [← pure_eq_ok.1 h]
          obtain ⟨e', he', hindex⟩ := ih hrest hf
          exact ⟨e', List.mem_cons_of_mem _ he', hindex⟩
        · exact ih h hf
      · exact ih h hf

/-- The indices of the size fields that are saved: those whose target is given. -/
theorem mem_index_sizeEntries (h : sizeEntries size given fields = .ok sizes) {i : UInt32} :
    (∃ e ∈ sizes, e.index = i) ↔ ∃ f ∈ fields, f.index? = some i ∧ ∃ target, f.sizeOf? = some target ∧
      ∃ e ∈ given, e.schema.bind Schema.name? = some target := by
  constructor
  · rintro ⟨e, he, rfl⟩
    obtain ⟨f, hf, target, described, _, ht, hi, hfind, _⟩ := mem_sizeEntries h he
    exact ⟨f, hf, hi, target, ht, described, List.mem_of_find?_eq_some hfind,
      by simpa using List.find?_some hfind⟩
  · rintro ⟨f, hf, hi, target, ht, e, he, hname⟩
    exact exists_mem_sizeEntries h hf hi ht he hname

end Save

namespace Save.Entry.SavedAs

variable {e : Entry} {i : UInt32} {c : Chunk}

/-- A chunk of a field that is read back has the normal form of the value it was saved for. -/
theorem toValue (h : e.SavedAs charset (i, c)) {u : Schema} (hu : e.schema = some u)
    (hback : e.ReadsBack charset) : c.toValue charset = .ok (e.value.normal u) := by
  obtain ⟨pos, payload, hpayload, hwritten⟩ := h.payload
  have hvalue := (hback payload hwritten).2 pos
  rw [← h.schema, ← hpayload, Value.normalEntry] at hvalue
  simpa only [hu] using hvalue

/-- Bytes that the schema does not know are saved as they are. -/
theorem bytes (h : e.SavedAs charset (i, c)) (hu : e.schema = none) {bytes : List UInt8}
    (hbytes : e.value = .ofBytes bytes) : c.bytes = .ok bytes := by
  obtain ⟨pos, payload, hpayload, hwritten⟩ := h.payload
  simp only [Entry.payload, hu, hbytes, Save.rawBytes_ofBytes] at hwritten
  rw [Except.ok.inj hwritten, Chunk.bytes, Chunk.present, show c.payload = _ from hpayload]
  rfl

end Save.Entry.SavedAs

/-! ## The chunks that are kept -/

namespace Record

/-- A chunk of a record that is kept when the record is loaded and saved: its field is shown, and its value
is not the default. -/
structure Keeps (charset : Charset) (r : Record) (i : UInt32) (c : Chunk) : Prop where
  mem : (i, c) ∈ r.entries
  visible : ∀ n, c.name? = some n → isInternal n = false
  changed : ∀ w v, c.toValue charset = .ok w → c.schema.bind Schema.default? = some v → w.same v = false

/-- The index of a field that holds the size of a chunk that is kept. -/
def KeepsSize (charset : Charset) (r : Record) (i : UInt32) : Prop :=
  ∃ f ∈ r.schema.fields, f.index? = some i ∧ ∃ target, f.sizeOf? = some target ∧
    ∃ k c, r.Keeps charset k c ∧ c.name? = some target

/-- What `r'` has of the chunks of `r`. -/
structure ChunksKept (charset : Charset) (r r' : Record) : Prop where
  /-- No chunk stands twice. -/
  ascending : (r'.entries.map Prod.fst).Pairwise (· < ·)
  /-- There are the chunks that are kept and the size fields of such chunks, and no others. -/
  indices : ∀ i, i ∈ r'.entries.map Prod.fst ↔ (∃ c, r.Keeps charset i c) ∨ r.KeepsSize charset i
  /-- A chunk of a known field has the same value. -/
  known : ∀ i c, r.Keeps charset i c → ∀ u, c.schema = some u → ∃ c' w w', (i, c') ∈ r'.entries ∧
    c'.schema = some u ∧ c.toValue charset = .ok w ∧ c'.toValue charset = .ok w' ∧ w'.same w
  /-- A chunk that the schema does not know has the same bytes. -/
  unknown : ∀ i c, (i, c) ∈ r.entries → c.schema = none → ∃ c' bytes, (i, c') ∈ r'.entries ∧
    c'.schema = none ∧ c.bytes = .ok bytes ∧ c'.bytes = .ok bytes

variable {r r' : Record} {items : List Entry} {i : UInt32} {c : Chunk}

/-- An entry is the default of its field just if its value is the same as that default. -/
theorem isDefault_eq_false_iff {d : Schema} (hd : d.ConsistentRecord) (hitems : Shown d items) {e : Entry}
    (he : e ∈ items) : isDefault e.schema e.value = false ↔
      ∀ v, e.schema.bind Schema.default? = some v → e.value.same v = false := by
  rw [Save.isDefault_eq]
  cases hu : e.schema with
  | none => simp
  | some u =>
    rw [Option.bind_some]
    cases hv : u.default? with
    | none => simp
    | some v =>
      obtain ⟨kind, _, _, hfits⟩ := hd.default_fits u (hitems.mem_fields he hu) v hv
      simp [Value.same_comm_of_fits (Kind.fits_of_admits hfits)]

/-- A chunk that is kept is shown as an entry that is no default. -/
theorem Keeps.exists_entry (hd : r.schema.ConsistentRecord) (hitems : Shown r.schema items)
    (hshows : List.Forall₂ (Entry.Shows (Chunk.toValue charset)) (visibleEntries r.entries) items)
    (h : r.Keeps charset i c) :
    ∃ e ∈ items.filter (fun e => !isDefault e.schema e.value), e.Shows (Chunk.toValue charset) (i, c) := by
  have hvisible : (i, c) ∈ visibleEntries r.entries := by
    refine List.mem_filter.2 ⟨h.mem, ?_⟩
    unfold entryKey?
    cases hn : c.name? with
    | none => rfl
    | some n => simp [h.visible n hn]
  obtain ⟨e, he, hindex, hschema, hvalue⟩ := exists_right_of_forall₂ hshows hvisible
  have hdefault : isDefault e.schema e.value = false :=
    (isDefault_eq_false_iff hd hitems he).2 fun v hv => h.changed e.value v hvalue (hschema ▸ hv)
  exact ⟨e, List.mem_filter.2 ⟨he, by rw [hdefault]; rfl⟩, hindex, hschema, hvalue⟩

/-- An entry that is no default shows a chunk that is kept. -/
theorem exists_keeps (hd : r.schema.ConsistentRecord) (hitems : Shown r.schema items)
    (hshows : List.Forall₂ (Entry.Shows (Chunk.toValue charset)) (visibleEntries r.entries) items) {e : Entry}
    (he : e ∈ items.filter fun e => !isDefault e.schema e.value) :
    ∃ c, r.Keeps charset e.index c ∧ c.schema = e.schema := by
  obtain ⟨he, hdefault⟩ := List.mem_filter.1 he
  obtain ⟨⟨i, c⟩, hc, hindex, hschema, hvalue⟩ := exists_left_of_forall₂ hshows he
  obtain rfl : e.index = i := hindex
  refine ⟨c, ⟨List.mem_of_mem_filter hc, fun n hn => ?_, fun w v hw hv => ?_⟩, hschema.symm⟩
  · exact hitems.visible e he n (by rw [hschema]; exact hn)
  · obtain rfl := Except.ok.inj (hvalue.symm.trans hw)
    refine (isDefault_eq_false_iff hd hitems he).1 (by simpa using hdefault) v ?_
    rw [hschema]
    exact hv

/-- The chunks of a record that was saved: the entries that are no defaults, and the size fields of such
entries. -/
theorem mem_index_entriesOf {size : Value → Schema → Except Error Nat} {entries : List Entry}
    (hd : r.schema.ConsistentRecord) (hitems : Shown r.schema items)
    (hshows : List.Forall₂ (Entry.Shows (Chunk.toValue charset)) (visibleEntries r.entries) items)
    (h : Save.entriesOf size r.schema (.object (recordFields r.schema items)) = .ok entries) :
    (∃ e ∈ entries, e.index = i) ↔ (∃ c, r.Keeps charset i c) ∨ r.KeepsSize charset i := by
  obtain ⟨fields, given, sizes, hfields, hgiven, hsizes, _, rfl⟩ := Save.entriesOf_eq_ok.1 h
  obtain rfl := Option.some.inj hfields
  obtain rfl := Except.ok.inj ((Save.givenEntries_recordFields hitems hd).symm.trans hgiven)
  have hsplit : (∃ e ∈ Save.sortBy Entry.index
      (items.filter (fun e => !isDefault e.schema e.value) ++ sizes), e.index = i) ↔
      (∃ e ∈ items.filter (fun e => !isDefault e.schema e.value), e.index = i) ∨
        ∃ e ∈ sizes, e.index = i := by
    simp only [Save.mem_sortBy, List.mem_append, or_and_right, exists_or]
  rw [hsplit, Save.mem_index_sizeEntries hsizes]
  refine or_congr ⟨?_, ?_⟩ (exists_congr fun f => and_congr_right fun _ => and_congr_right fun _ =>
    exists_congr fun target => and_congr_right fun _ => ⟨?_, ?_⟩)
  · rintro ⟨e, he, rfl⟩
    obtain ⟨c, hc, _⟩ := exists_keeps hd hitems hshows he
    exact ⟨c, hc⟩
  · rintro ⟨c, hc⟩
    obtain ⟨e, he, hindex, _⟩ := hc.exists_entry hd hitems hshows
    exact ⟨e, he, hindex⟩
  · rintro ⟨e, he, hname⟩
    obtain ⟨c, hc, hschema⟩ := exists_keeps hd hitems hshows he
    exact ⟨e.index, c, hc, by rw [← hname, ← hschema]; rfl⟩
  · rintro ⟨k, c, hc, hname⟩
    obtain ⟨e, he, _, hschema, _⟩ := hc.exists_entry hd hitems hshows
    exact ⟨e, he, by rw [hschema]; exact hname⟩

/-- Loading a record and saving it keeps its chunks, but for internal ones and defaults. -/
theorem chunksKept_of_save {s target : Schema} {bytes : List UInt8} {j : Value} (hs : s.Consistent)
    (hkind : s.resolve = .ok (.record, target)) (hj : (Chunk.ofBytes s bytes).toValue charset = .ok j)
    (htexts : ∀ t, (Chunk.ofBytes s bytes).Decodes charset t → StoredText.RoundTrips charset t)
    (hshort : Save.Short charset j s) :
    ∃ bytes' r r', j.save charset s = .ok bytes' ∧ (Chunk.ofBytes s bytes).record = .ok r ∧
      (Chunk.ofBytes s bytes').record = .ok r' ∧ ChunksKept charset r r' := by
  have hcanonical := Canonical.of_toValue hs hj
  obtain ⟨bytes', hsave⟩ := hcanonical.exists_save hs (fun t ht => (htexts t ht).exists_encode) hshort
  rw [Chunk.toValue_eq] at hj
  obtain ⟨kind, target', hkind', hj⟩ := Chunk.valueBy_eq_ok.1 hj
  obtain ⟨rfl, -⟩ := Prod.mk.inj (Except.ok.inj (hkind.symm.trans hkind'))
  obtain ⟨_, r, hr, hj⟩ | ⟨h, _⟩ | ⟨h, _⟩ := hj
  rotate_left
  · cases h
  · cases h
  obtain ⟨d, hd, rfl, hin⟩ := Chunk.record_eq_ok hr
  have hrecord : r.schema.ConsistentRecord := hs.record hd
  obtain ⟨items, hshows, hitems, rfl⟩ := (Record.valueBy_eq_ok hrecord hin).1 hj
  have hsave' := hsave
  rw [Value.save_of_record hd] at hsave'
  have hfit : Save.Fit charset ((Value.object (recordFields r.schema items)).keptEntries r.schema) :=
    fun e he payload hp => (hshort.length_payload (.inl ⟨_, hd, he⟩) hp).trans (by decide)
  obtain ⟨r', entries, htakes, _, _, hentries, hsaved⟩ := takes_saved hrecord hsave' hfit none 0
  have hr' : (Chunk.ofBytes s bytes').record = .ok r' :=
    bind_eq_ok.2 ⟨_, hd, Payload.decode_of_takes htakes⟩
  have hkept : (Value.object (recordFields r.schema items)).keptEntries r.schema =
      items.filter fun e => !isDefault e.schema e.value :=
    Value.keptEntries_of_givenEntries rfl (Save.givenEntries_recordFields hitems hrecord)
  -- a chunk that is kept is saved as an entry, which stands in the record again
  have hfind : ∀ {i c}, r.Keeps charset i c → ∃ e c', Gives (.object (recordFields r.schema items)) s e ∧
      e.Shows (Chunk.toValue charset) (i, c) ∧ (i, c') ∈ r'.entries ∧ e.SavedAs charset (i, c') := by
    intro i c hc
    obtain ⟨e, he, hshow⟩ := hc.exists_entry hrecord hitems hshows
    rw [← hkept] at he
    obtain ⟨⟨i', c'⟩, hc', hview⟩ := exists_left_of_forall₂ hsaved (Save.mem_entriesOf_of_kept hentries he)
    obtain rfl : i' = i := hview.index.trans hshow.1
    exact ⟨e, c', .inl ⟨_, hd, he⟩, hshow, hc', hview⟩
  refine ⟨bytes', r, r', hsave, hr, hr', ?_, fun i => ?_, fun i c hc u hu => ?_, fun i c hc hu => ?_⟩
  · obtain ⟨_, _, hin'⟩ := inOrder_of_parse (htakes [])
    exact (List.pairwise_cons.1 hin'.ascending).2
  · rw [← mem_index_entriesOf hrecord hitems hshows hentries, List.mem_map]
    constructor
    · rintro ⟨view, hview, rfl⟩
      obtain ⟨e, he, hsavedAs⟩ := exists_right_of_forall₂ hsaved hview
      exact ⟨e, he, hsavedAs.index.symm⟩
    · rintro ⟨e, he, rfl⟩
      obtain ⟨view, hview, hsavedAs⟩ := exists_left_of_forall₂ hsaved he
      exact ⟨view, hview, hsavedAs.index⟩
  · obtain ⟨e, c', hgives, ⟨_, hschema, hvalue⟩, hc', hview⟩ := hfind hc
    have heu : e.schema = some u := hschema.trans hu
    have hback := hgives.readsBack hs (fun t ht => (htexts t (hcanonical.of_encodes hs ht)).survives)
      fun payload hp => (hshort.length_payload hgives hp).trans (by decide)
    have hsame := ((hcanonical.gives hs hgives).1 u heu).same_normal (hgives.consistent hs heu)
    exact ⟨c', e.value, _, hc', hview.schema.trans heu, hvalue, hview.toValue heu hback, hsame⟩
  · have hkeeps : r.Keeps charset i c :=
      ⟨hc, by simp [Chunk.name?, hu], by simp [hu]⟩
    obtain ⟨e, c', hgives, ⟨_, hschema, hvalue⟩, hc', hview⟩ := hfind hkeeps
    have heu : e.schema = none := hschema.trans hu
    obtain ⟨p, hp⟩ := hin.payload hc
    obtain rfl : c = ⟨none, some p⟩ := by rw [← hu, ← hp]
    rw [Chunk.toValue_opaque] at hvalue
    have hbytes : e.value = .ofBytes p.bytes := (Except.ok.inj hvalue).symm
    exact ⟨c', p.bytes, hc', hview.schema.trans heu, rfl, hview.bytes heu hbytes⟩

/-- An inventory with a stale size, a default that is written out, a padded number and a chunk that the schema
does not know.  The default goes, and the size of the items comes in. -/
theorem chunksKept_inventory :
    let s : Schema := ⟨Document.saveInventory⟩
    let bytes : List UInt8 := [1, 1, 9, 2, 4, 1, 0, 2, 0, 12, 2, 3, 0, 21, 1, 0, 22, 2, 128, 5, 99, 2, 7, 8, 0]
    ∃ target j, s.Consistent ∧ s.resolve = .ok (.record, target) ∧
      (Chunk.ofBytes s bytes).toValue .shiftJis = .ok j ∧
      (∀ t, (Chunk.ofBytes s bytes).Decodes .shiftJis t → StoredText.RoundTrips .shiftJis t) ∧
      Save.Short .shiftJis j s ∧
      j.save .shiftJis s = .ok [1, 1, 2, 2, 4, 1, 0, 2, 0, 11, 1, 1, 12, 2, 3, 0, 22, 1, 5, 99, 2, 7, 8, 0] ∧
      ∃ bytes' r r', j.save .shiftJis s = .ok bytes' ∧ (Chunk.ofBytes s bytes).record = .ok r ∧
        (Chunk.ofBytes s bytes').record = .ok r' ∧ ChunksKept .shiftJis r r' := by
  intro s bytes
  have hs : s.Consistent := (Schema.consistent_of_check (show s.checkWithin 2 from by decide +kernel)).1
  have hsave : ((Chunk.ofBytes s bytes).toValue .shiftJis >>= fun j => j.save .shiftJis s) =
      .ok [1, 1, 2, 2, 4, 1, 0, 2, 0, 11, 1, 1, 12, 2, 3, 0, 22, 1, 5, 99, 2, 7, 8, 0] := by decide +kernel
  obtain ⟨j, hj, hsave⟩ := bind_eq_ok.1 hsave
  have hshort : Save.Short .shiftJis j s := by
    intro e he n hn
    obtain ⟨payload, hpayload, hle⟩ := he.payload hsave
    obtain rfl := Except.ok.inj (hn.symm.trans (Entry.payloadSize_of_payload hpayload))
    exact hle.trans_lt (by decide)
  -- no chunk is of a kind that has texts
  have hleaves : ((Chunk.ofBytes s bytes).record >>= fun r => pure (r.entries.all fun entry =>
      match entry.2.kind with
      | .ok kind => kind == .integer || kind == .int16s
      | .error _ => true)) = .ok true := by decide +kernel
  obtain ⟨r, hr, hleaves⟩ := bind_eq_ok.1 hleaves
  have htexts : ∀ t, (Chunk.ofBytes s bytes).Decodes .shiftJis t → StoredText.RoundTrips .shiftJis t := by
    intro t ht
    have hkind : (Chunk.ofBytes s bytes).kind = .ok .record := rfl
    rcases ht.kind with hk | hk | ⟨_, r', hr', entry, hentry, ht⟩ | ⟨hk, _⟩
    · cases hkind.symm.trans hk
    · cases hkind.symm.trans hk
    · obtain rfl := Except.ok.inj (hr.symm.trans hr')
      have hleaf := List.all_eq_true.1 (pure_eq_ok.1 hleaves) entry hentry
      rcases ht.kind with hk | hk | ⟨hk, _⟩ | ⟨hk, _⟩ <;> simp [hk] at hleaf
    · cases hkind.symm.trans hk
  exact ⟨s, j, hs, rfl, hj, htexts, hshort, hsave, chunksKept_of_save hs rfl hj htexts hshort⟩

end Record

end ChunkTree
