import ChunkTree.Proofs.SizeFields

/-!
# Size fields of any name

A size field whose name is not internal is shown in the object of its record, and it is rebuilt from its target
as well.  Where a record shows both, the size would be written twice, and the object cannot be saved: the value
that decoding gives can be saved again just if no record in it shows a size field together with its target
(`Canonical.exists_save_iff_not_clashes`).  What is saved then holds the size of every target
(`Record.holdsSize_of_saved`).
-/

namespace ChunkTree

open Text (Charset)
open Save (Entry)

variable {charset : Charset}

/-! ## Sizes that are written twice -/

namespace Save

variable {size : Value → Schema → Except Error Nat} {d : Schema} {v : Value} {entries : List Entry}

/-- A record with different chunks shows no size field together with its target. -/
theorem not_clash_of_entriesOf (h : entriesOf size d v = .ok entries) : ¬Clash (v.keptEntries d) := by
  obtain ⟨fields, given, sizes, hv, hgiven, hsizes, hunique, rfl⟩ := entriesOf_eq_ok.1 h
  rw [Value.keptEntries_of_givenEntries hv hgiven]
  rintro ⟨e, he, f, t, hf, ht, e', he', hname⟩
  obtain ⟨hmem, hindex⟩ := mem_fields_of_given hgiven he hf
  -- the size that is rebuilt has the index of the one that is shown
  obtain ⟨e'', he'', heq⟩ := exists_mem_sizeEntries hsizes hmem hindex ht he' hname
  have hnodup := repeated?_sortBy_eq_none.1 hunique
  rw [List.map_append] at hnodup
  exact (List.nodup_append.1 hnodup).2.2 _ (List.mem_map_of_mem he) _ (List.mem_map_of_mem he'') heq.symm

theorem not_clash_of_saveRecord {bytes : List UInt8} (h : v.saveRecord charset d = .ok bytes) :
    ¬Clash (v.keptEntries d) := by
  rw [Value.saveRecord_eq] at h
  obtain ⟨_, _, hentries, _⟩ := writeRecord_eq_ok.1 h
  exact not_clash_of_entriesOf hentries

/-- A value that can be saved shows no size field together with its target, at any depth. -/
theorem not_clashes_of_save {s : Schema} {bytes : List UInt8} (h : v.save charset s = .ok bytes) :
    ¬Clashes v s := by
  rintro ⟨x, u, hx, hclash⟩
  induction hx generalizing bytes with
  | self =>
    rcases hclash with ⟨d, hd, hclash⟩ | ⟨d, hd, r, hr, hclash⟩
    · rw [Value.save_of_record hd] at h
      exact not_clash_of_saveRecord h hclash
    · rw [Value.save_of_table hd] at h
      obtain ⟨record, hrecord, _⟩ := Value.saveRecord_of_mem_tableRows h hr
      exact not_clash_of_saveRecord hrecord hclash
  | within he hu _ ih =>
    obtain ⟨payload, hpayload⟩ := he.exists_save h hu
    exact ih hpayload hclash

end Save

/-- A canonical value whose texts can be encoded and whose payloads are short can be saved just if no record in it
shows a size field together with its target. -/
theorem Canonical.exists_save_iff_not_clashes {T : String → Prop} {s : Schema} {w : Value} (hs : s.Sizable)
    (h : Canonical T s w) (hT : ∀ t, T t → ∃ b, StoredText.encode charset t = .ok b)
    (hshort : Save.Short charset w s) : (∃ bytes, w.save charset s = .ok bytes) ↔ ¬Save.Clashes w s :=
  ⟨fun ⟨_, hsave⟩ => Save.not_clashes_of_save hsave, h.exists_save_of_not_clashes hs hT hshort⟩

/-! ## Sizes that are rebuilt -/

namespace Save

variable {size : Value → Schema → Except Error Nat} {d f g : Schema} {v : Value} {entries : List Entry}
  {e : Entry} {i : UInt32} {t : String}

/-- A record is saved with the number of items that are kept in the target of a size field. -/
theorem exists_size_mem_entriesOf (hd : d.LegibleRecord) (h : entriesOf size d v = .ok entries)
    (hf : f ∈ d.fields) (hi : f.index? = some i) (ht : f.sizeOf? = some t) (he : e ∈ v.keptEntries d)
    (hname : e.schema.bind Schema.name? = some t) :
    ∃ count, e.count size = .ok count ∧ ⟨i, .ofNat count, some f⟩ ∈ entries := by
  have hnodup := nodup_keptEntries h
  obtain ⟨fields, given, sizes, hv, hgiven, hsizes, _, rfl⟩ := entriesOf_eq_ok.1 h
  have hkept := Value.keptEntries_of_givenEntries hv hgiven
  obtain ⟨e', he', rfl⟩ := exists_mem_sizeEntries hsizes hf hi ht (hkept ▸ he) hname
  obtain ⟨f', hf', t', described, count, ht', hi', hfind, hcount, heq⟩ := mem_sizeEntries hsizes he'
  obtain rfl := hd.eq_of_index hf' hf hi' hi
  obtain rfl := Option.some.inj (ht.symm.trans ht')
  -- the entry that is counted is the only one of its name
  have hdescribed : described ∈ v.keptEntries d := hkept ▸ List.mem_of_find?_eq_some hfind
  obtain rfl : described = e := eq_of_name (nodup_filterMap hd.names_nodup) hnodup hdescribed he
    (by simpa using List.find?_some hfind) hname
  exact ⟨count, hcount, mem_sortBy.2 (List.mem_append_right _ (heq ▸ he'))⟩

/-- What is written for a field is kept if some entry of the field is, or if the field is no size field. -/
theorem mem_keptEntries_of_mem_entriesOf (hd : d.LegibleRecord) (h : entriesOf size d v = .ok entries)
    (he : e ∈ entries) (hu : e.schema = some g)
    (hg : g.sizeOf? = none ∨ ∃ e' ∈ v.keptEntries d, e'.schema = some g) : e ∈ v.keptEntries d := by
  obtain ⟨hascending, hspec⟩ := entriesOf_spec hd h
  rcases hg with hnone | ⟨e', he', hu'⟩
  · obtain ⟨fields, given, sizes, hv, hgiven, hsizes, _, rfl⟩ := entriesOf_eq_ok.1 h
    rw [Value.keptEntries_of_givenEntries hv hgiven]
    refine (List.mem_append.1 (mem_sortBy.1 he)).resolve_right fun he => ?_
    obtain ⟨_, _, _, hschema, hsome⟩ := field_of_mem_sizes hsizes he
    obtain rfl := Option.some.inj (hschema.symm.trans hu)
    rw [hnone] at hsome
    cases hsome
  · have hnodup := (List.pairwise_map.2 hascending).imp UInt32.ne_of_lt
    have hi := (Schema.mem_of_find_index ((hspec e he).2.symm.trans hu)).2
    have hindex := (Value.field_of_mem_keptEntries he' hu').2.symm.trans hi
    rwa [← List.inj_on_of_nodup_map hnodup (mem_entriesOf_of_kept h he') he (Option.some.inj hindex)]

end Save

/-- A small number is read back from the chunk of an integer field. -/
theorem Save.Entry.SavedAs.exists_integer {i j : UInt32} {c : Chunk} {f target : Schema} {n : Nat}
    (h : Entry.SavedAs charset (i, c) ⟨j, .ofNat n, some f⟩) (hkind : f.resolve = .ok (.integer, target))
    (hn : n < 0x80000000) : ∃ m, c.integer = .ok m ∧ m.toInt = n := by
  obtain ⟨pos, payload, hpayload, hwritten⟩ := h.payload
  obtain rfl := Except.ok.inj (hwritten.symm.trans (Save.save_ofNat hkind hn))
  obtain ⟨u, p⟩ := c
  obtain rfl : u = some f := h.schema
  obtain rfl : p = some _ := hpayload
  refine ⟨_, Content.scalar_of_decode (Chunk.kind_eq_ok.2 ⟨target, hkind⟩)
    (Payload.decode_of_takes (Varint.takes_parseSigned pos _)), ?_⟩
  rw [Int32.toInt_ofInt_of_le (by omega) (by omega)]

namespace Record

variable {f g : Schema} {v : Value} {r : Record}

/-- Whether a record with a chunk of the field `g` has the number of items in it, or of bytes if those are no items
of a fixed width, in its chunk of the field `f`. -/
def HoldsSize (r : Record) (f g : Schema) : Prop :=
  ∀ k y, g.index? = some k → (k, y) ∈ r.entries → ∃ i x m q kind target, f.index? = some i ∧
    (i, x) ∈ r.entries ∧ x.integer = .ok m ∧ y.payload = some q ∧ g.resolve = .ok (kind, target) ∧
      m.toInt = (q.bytes.length / kind.itemWidth.getD 1 : Nat)

/-- A record that was saved holds the size of a target that is kept.  A target that is no size field itself is only
there if it is kept. -/
theorem holdsSize_of_saved {entries : List Entry} {t : String} (hd : r.schema.SizableRecord)
    (h : Save.entriesOf (Value.savedSize charset) r.schema v = .ok entries)
    (hsaved : List.Forall₂ (Entry.SavedAs charset) r.entries entries)
    (hshort : ∀ e ∈ v.keptEntries r.schema, ∀ payload, e.payload (Value.save charset) = .ok payload →
      payload.length < 0x80000000)
    (hf : f ∈ r.schema.fields) (ht : f.sizeOf? = some t) (hg : g ∈ r.schema.fields) (hname : g.name? = some t)
    (htarget : g.sizeOf? = none ∨ ∃ e ∈ v.keptEntries r.schema, e.schema = some g) : r.HoldsSize f g := by
  intro k y hk hy
  obtain ⟨e, he, hview⟩ := exists_right_of_forall₂ hsaved hy
  obtain rfl : k = e.index := hview.index
  have hlegible := hd.toLegibleRecord
  have hu : e.schema = some g := by
    rw [((Save.entriesOf_spec hlegible h).2 e he).2, hlegible.find_index hg hk]
  have hkept := Save.mem_keptEntries_of_mem_entriesOf hlegible h he hu htarget
  -- the size was worked out for this entry, and is written as a number
  obtain ⟨i, hi, _⟩ := hd.index f hf
  obtain ⟨count, hcount, hsize⟩ := Save.exists_size_mem_entriesOf hlegible h hf hi ht hkept
    (by rw [hu, Option.bind_some, hname])
  obtain ⟨⟨i', x⟩, hx, hsavedSize⟩ := exists_left_of_forall₂ hsaved hsize
  obtain rfl : i = i' := hsavedSize.index.symm
  obtain ⟨pos, payload, hpayload, hwritten⟩ := hview.payload
  obtain ⟨n, kind, target, hn, hkind, rfl⟩ := (Save.Entry.count_eq_ok hu).1 hcount
  obtain rfl := Except.ok.inj (hn.symm.trans (Entry.payloadSize_of_payload hwritten))
  obtain ⟨target', hinteger⟩ := hd.size_field f hf (by rw [ht]; rfl)
  have hlt := (Nat.div_le_self payload.length (kind.itemWidth.getD 1)).trans_lt (hshort e hkept payload hwritten)
  obtain ⟨m, hm, hmcount⟩ := hsavedSize.exists_integer hinteger hlt
  exact ⟨i, x, m, ⟨pos, payload⟩, kind, target, hi, hx, hm, hpayload, hkind, hmcount⟩

/-- The fields of a record that is decoded are listed. -/
theorem exists_actual_of_toValue {s target : Schema} {bytes : List UInt8} {j : Value}
    (hkind : s.resolve = .ok (.record, target)) (hj : (Chunk.ofBytes s bytes).toValue charset = .ok j) :
    ∃ d, s.actual .record = .ok d := by
  rw [Chunk.toValue_eq] at hj
  obtain ⟨kind, _, hkind', hj⟩ := Chunk.valueBy_eq_ok.1 hj
  obtain ⟨rfl, -⟩ := Prod.mk.inj (Except.ok.inj (hkind.symm.trans hkind'))
  obtain ⟨_, r, hr, _⟩ | ⟨h, _⟩ | ⟨h, _⟩ := hj
  · obtain ⟨d, hd, _⟩ := Chunk.record_eq_ok hr
    exact ⟨d, hd⟩
  · cases h
  · cases h

/-- The value that a record is decoded to can be saved just if no record in it shows a size field together with its
target.  If so, what it is saved as holds the size of every target. -/
theorem save_iff_not_clashes {s target : Schema} {bytes : List UInt8} {j : Value} (hs : s.Sizable)
    (hkind : s.resolve = .ok (.record, target)) (hj : (Chunk.ofBytes s bytes).toValue charset = .ok j)
    (htexts : ∀ t, (Chunk.ofBytes s bytes).Decodes charset t → StoredText.RoundTrips charset t)
    (hshort : Save.Short charset j s) :
    ((∃ saved, j.save charset s = .ok saved) ↔ ¬Save.Clashes j s) ∧
    ∀ saved, j.save charset s = .ok saved → ∃ r, (Chunk.ofBytes s saved).record = .ok r ∧
      ∀ f ∈ r.schema.fields, ∀ t, f.sizeOf? = some t → ∀ g ∈ r.schema.fields, g.name? = some t →
        (g.sizeOf? = none ∨ ∃ e ∈ j.keptEntries r.schema, e.schema = some g) → r.HoldsSize f g := by
  have hcanonical := Canonical.of_toValue hs.legible hj
  have hencodes : ∀ t, (Chunk.ofBytes s bytes).Decodes charset t → ∃ b, StoredText.encode charset t = .ok b :=
    fun t ht => (htexts t ht).exists_encode
  refine ⟨hcanonical.exists_save_iff_not_clashes hs hencodes hshort, fun saved hsave => ?_⟩
  obtain ⟨d, hd⟩ := exists_actual_of_toValue hkind hj
  rw [Value.save_of_record hd] at hsave
  have hpayload : ∀ e ∈ j.keptEntries d, ∀ payload, e.payload (Value.save charset) = .ok payload →
      payload.length < 0x80000000 := fun e he _ => hshort.length_payload (.inl ⟨_, hd, he⟩)
  obtain ⟨r, entries, htakes, _, rfl, hentries, hsaved⟩ := takes_saved (hs.record hd) hsave
    (fun e he payload hp => (hpayload e he payload hp).trans (by decide)) none 0
  exact ⟨r, bind_eq_ok.2 ⟨_, hd, Payload.decode_of_takes htakes⟩, fun f hf t ht g hg hname htarget =>
    holdsSize_of_saved (hs.record hd) hentries hsaved hpayload hf ht hg hname htarget⟩

end Record

/-! ## Flat records -/

/-- Whether values of a kind have neither texts nor chunks of their own. -/
def Kind.isPlain : Kind → Bool
  | record | table | string | script => false
  | _ => true

namespace Schema

variable {s d d' f : Schema}

/-- Whether no field of a record has texts or chunks of its own. -/
def Flat (d : Schema) : Prop :=
  ∀ f ∈ d.fields, ∃ kind target, f.resolve = .ok (kind, target) ∧ kind.isPlain

theorem isComposite_of_reaches (h : s.Reaches d) {kind : Kind} {target : Schema}
    (hkind : s.resolve = .ok (kind, target)) : kind.isComposite := by
  induction h with
  | record h | table h => rw [kind_of_actual hkind h]; rfl
  | field _ _ _ ih _ => exact ih hkind

namespace Flat

theorem not_reaches (hflat : d.Flat) (hf : f ∈ d.fields) : ¬f.Reaches d' := by
  intro h
  obtain ⟨kind, target, hkind, hplain⟩ := hflat f hf
  have := isComposite_of_reaches h hkind
  cases kind <;> cases this <;> cases hplain

/-- A flat record leads to no other records. -/
theorem eq_of_reaches (hflat : d.Flat) (hd : s.actual .record = .ok d) (h : s.Reaches d') : d' = d := by
  induction h with
  | record h => exact Except.ok.inj (h.symm.trans hd)
  | table h =>
    obtain ⟨_, hkind⟩ := resolve_of_actual hd
    cases kind_of_actual hkind h
  | field _ hf h ih _ =>
    obtain rfl := ih hd
    exact absurd h (hflat.not_reaches hf)

/-- What is saved in a flat record, at any depth, are its own entries. -/
theorem mem_keptEntries (hflat : d.Flat) (hd : s.actual .record = .ok d) {v : Value} {e : Entry}
    (h : Save.Holds v s e) : e ∈ v.keptEntries d := by
  obtain ⟨_, hkind⟩ := resolve_of_actual hd
  have hgives : ∀ e', Save.Gives v s e' → e' ∈ v.keptEntries d := by
    rintro e' (⟨_, hd', he⟩ | ⟨_, hd', _⟩)
    · rwa [Except.ok.inj (hd.symm.trans hd')]
    · cases kind_of_actual hkind hd'
  cases h with
  | here h => exact hgives _ h
  | within h hu h' =>
    have hf := (Value.field_of_mem_keptEntries (hgives _ h) hu).1
    cases h' with
    | here h' | within h' =>
      rcases h' with ⟨_, hd', _⟩ | ⟨_, hd', _⟩
      · exact absurd (.record hd') (hflat.not_reaches hf)
      · exact absurd (.table hd') (hflat.not_reaches hf)

/-- No text is decoded in a flat record. -/
theorem not_decodes (hflat : d.Flat) (hd : s.actual .record = .ok d) {bytes : List UInt8} {t : String} :
    ¬(Chunk.ofBytes s bytes).Decodes charset t := by
  obtain ⟨target, hkind⟩ := resolve_of_actual hd
  have hrecord : (Chunk.ofBytes s bytes).kind = .ok .record := Chunk.kind_eq_ok.2 ⟨target, hkind⟩
  intro ht
  rcases ht.kind with hk | hk | ⟨_, r, hr, ⟨i, f, p⟩, hmem, ht⟩ | ⟨hk, _⟩
  · cases hrecord.symm.trans hk
  · cases hrecord.symm.trans hk
  · obtain ⟨d', hd', _, hin⟩ := Chunk.record_eq_ok hr
    obtain rfl := Except.ok.inj (hd.symm.trans hd')
    obtain rfl : f = d.find? (.index i) := hin.schema_eq hmem
    cases hfind : d.find? (.index i) with
    | none =>
      rw [hfind] at ht
      rcases ht.kind with hk | hk | ⟨hk, _⟩ | ⟨hk, _⟩ <;> cases hk
    | some f =>
      obtain ⟨kind, target, hkind, hplain⟩ := hflat f (mem_of_find_index hfind).1
      have hfield : (Chunk.mk (some f) p).kind = .ok kind := Chunk.kind_eq_ok.2 ⟨target, hkind⟩
      rw [hfind] at ht
      rcases ht.kind with hk | hk | ⟨hk, _⟩ | ⟨hk, _⟩ <;>
        obtain rfl := Except.ok.inj (hfield.symm.trans hk) <;> cases hplain
  · cases hrecord.symm.trans hk

end Flat

end Schema

/-- A record with some items and, in a field that is not internal, their number. -/
def Document.bag : Value :=
  composite "Bag" "array1d" [
    .object [("index", .int 1), ("name", .string "count"), ("type", .string "integer"),
      ("size_of", .string "items")],
    plain 2 "items" "int16array"]

namespace Document

theorem bag_flat : (Schema.mk bag).Flat := by
  rintro f (_ | ⟨_, _ | ⟨_, ⟨⟩⟩⟩)
  · exact ⟨.integer, _, rfl, rfl⟩
  · exact ⟨.int16s, _, rfl, rfl⟩

theorem bag_sizable : (Schema.mk bag).Sizable := by
  intro d h
  obtain rfl := bag_flat.eq_of_reaches rfl h
  have hname : ∀ n, Save.index? n = none → ∀ i, n ≠ indexText i := by
    rintro _ hn i rfl
    rw [Save.index?_indexText] at hn
    cases hn
  refine ⟨⟨?_, ?_, by decide, by decide, ?_⟩, ?_⟩ <;> rintro f (_ | ⟨_, _ | ⟨_, ⟨⟩⟩⟩)
  · exact ⟨1, rfl, by decide⟩
  · exact ⟨2, rfl, by decide⟩
  · exact ⟨"count", rfl, hname _ rfl⟩
  · exact ⟨"items", rfl, hname _ rfl⟩
  · exact nofun
  · exact nofun
  · exact fun _ => ⟨_, rfl⟩
  · exact nofun

end Document

namespace Record

/-- A bag without its number of items is saved with it. -/
theorem save_iff_not_clashes_bag :
    let s : Schema := ⟨Document.bag⟩
    let bytes : List UInt8 := [2, 2, 7, 0, 0]
    let j : Value := .object [("items", .array [.int 7])]
    s.Sizable ∧ s.resolve = .ok (.record, s) ∧ (Chunk.ofBytes s bytes).toValue .shiftJis = .ok j ∧
      (∀ t, (Chunk.ofBytes s bytes).Decodes .shiftJis t → StoredText.RoundTrips .shiftJis t) ∧
      Save.Short .shiftJis j s ∧ ¬Save.Clashes j s ∧ j.save .shiftJis s = .ok [1, 1, 1, 2, 2, 7, 0, 0] ∧
      ∃ r, (Chunk.ofBytes s [1, 1, 1, 2, 2, 7, 0, 0]).record = .ok r ∧
        ∃ f g, f.name? = some "count" ∧ g.name? = some "items" ∧ r.HoldsSize f g := by
  have hj : (Chunk.ofBytes ⟨Document.bag⟩ [2, 2, 7, 0, 0]).toValue .shiftJis =
    .ok (.object [("items", .array [.int 7])]) := by with_unfolding_all rfl
  intro s bytes j
  have htexts : ∀ t, (Chunk.ofBytes s bytes).Decodes .shiftJis t → StoredText.RoundTrips .shiftJis t :=
    fun t ht => absurd ht (Document.bag_flat.not_decodes rfl)
  have hsave : j.save .shiftJis s = .ok [1, 1, 1, 2, 2, 7, 0, 0] := by rfl
  have hshort : Save.Short .shiftJis j s := by
    intro e he n hn
    obtain ⟨payload, hpayload, hle⟩ := he.payload hsave
    obtain rfl := Except.ok.inj (hn.symm.trans (Entry.payloadSize_of_payload hpayload))
    exact hle.trans_lt (by decide)
  obtain ⟨hiff, hsizes⟩ := save_iff_not_clashes Document.bag_sizable rfl hj htexts hshort
  obtain ⟨r, hr, hsizes⟩ := hsizes _ hsave
  obtain ⟨d, hd, hschema, _⟩ := Chunk.record_eq_ok hr
  obtain rfl : d = s := Except.ok.inj (hd.symm.trans rfl)
  rw [hschema] at hsizes
  exact ⟨Document.bag_sizable, rfl, hj, htexts, hshort, hiff.1 ⟨_, hsave⟩, hsave, r, hr, _, _, rfl, rfl,
    hsizes _ (.head _) "items" rfl _ (.tail _ (.head _)) rfl (.inl rfl)⟩

/-- A bag with its number of items is decoded, and what it is decoded to cannot be saved. -/
theorem shown_size_not_saved :
    let s : Schema := ⟨Document.bag⟩
    let bytes : List UInt8 := [1, 1, 1, 2, 2, 7, 0, 0]
    let j : Value := .object [("count", .int 1), ("items", .array [.int 7])]
    s.Sizable ∧ s.resolve = .ok (.record, s) ∧ (Chunk.ofBytes s bytes).toValue .shiftJis = .ok j ∧
      (∀ t, (Chunk.ofBytes s bytes).Decodes .shiftJis t → StoredText.RoundTrips .shiftJis t) ∧
      Save.Short .shiftJis j s ∧
      j.save .shiftJis s = .error (.invalidValue "Bag#1" "one entry per field" "duplicate entries") := by
  have hj : (Chunk.ofBytes ⟨Document.bag⟩ [1, 1, 1, 2, 2, 7, 0, 0]).toValue .shiftJis =
    .ok (.object [("count", .int 1), ("items", .array [.int 7])]) := by with_unfolding_all rfl
  intro s bytes j
  refine ⟨Document.bag_sizable, rfl, hj, fun t ht => absurd ht (Document.bag_flat.not_decodes rfl), ?_, by rfl⟩
  intro e he n hn
  have hkept : j.keptEntries s =
      [⟨1, .int 1, s.find? (.index 1)⟩, ⟨2, .array [.int 7], s.find? (.index 2)⟩] := by rfl
  have hmem := Document.bag_flat.mem_keptEntries rfl he
  rw [hkept] at hmem
  rcases hmem with _ | ⟨_, _ | ⟨_, ⟨⟩⟩⟩
  · obtain rfl : 1 = n := Except.ok.inj hn
    decide
  · obtain rfl : 2 = n := Except.ok.inj hn
    decide

end Record

end ChunkTree
