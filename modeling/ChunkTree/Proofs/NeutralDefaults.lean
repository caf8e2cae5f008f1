import ChunkTree.Proofs.FieldAccess
import ChunkTree.Proofs.LoadSave
import ChunkTree.Proofs.Moved

/-!
# Defaults are neutral

A record that leaves out a field and one that holds the default of that field in its place (`Record.Inserted`) are
the same: they have the same value, and it is saved alike (`Record.default_is_neutral`).  The default is written
and read as content that is the same as it (`exists_save_default`), the chunks behind it have their values
wherever they stand, and the entry that it is shown as makes no difference to the object or to what it is saved as
(`default_entry_is_neutral`).
-/

namespace ChunkTree

open Text (Charset)
open Save (Entry isDefault)

variable {charset : Charset}

/-! ## Inserting a chunk -/

namespace Record

/-- A closed record and the same with a chunk inserted where the indices stay in order, in any form of its index
and its length. -/
inductive Inserted (i : UInt32) (payload : List UInt8) : List UInt8 → List UInt8 → Prop where
  | intro {front body ending index length : List UInt8} {low high : List (UInt32 × Payload)} {word : UInt32}
      (hlow : Chunks 0 0 front low) (hbelow : lastIndex 0 low < i) (hhigh : Chunks i front.length body high)
      (hending : Varint.Spells ending 0) (hindex : Varint.Spells index i) (hlength : Varint.Spells length word)
      (hpayload : payload.length = word.toNat) :
      Inserted i payload (front ++ (body ++ ending))
        (front ++ (index ++ (length ++ (payload ++ (body ++ ending)))))

variable {previous i : UInt32} {pos : Nat} {front back body bytes bytes' payload : List UInt8}
  {low high chunks : List (UInt32 × Payload)}

theorem Chunks.mono (h : Chunks previous pos body chunks) {lower : UInt32} (hle : lower ≤ previous) :
    Chunks lower pos body chunks := by
  cases h with
  | nil => exact .nil
  | cons hindex hprevious hlength hbytes rest =>
    exact .cons hindex (UInt32.lt_of_le_of_lt hle hprevious) hlength hbytes rest

theorem Chunks.append (h : Chunks previous pos front low)
    (hback : Chunks (lastIndex previous low) (pos + front.length) back high) :
    Chunks previous pos (front ++ back) (low ++ high) := by
  induction h with
  | nil => simpa [lastIndex] using hback
  | @cons previous index length pos head middle bytes more low hindex hprevious hlength hbytes _ ih =>
    have hrest := ih (by simpa [lastIndex, Nat.add_assoc] using hback)
    have := Chunks.cons hindex hprevious hlength hbytes hrest
    simpa only [List.append_assoc, List.cons_append] using this

/-- Chunks without one of the index `i` fall into those below and those above it. -/
theorem Chunks.split (h : Chunks previous pos body chunks) (hi : previous < i)
    (hnew : i ∉ chunks.map Prod.fst) : ∃ front back low high, body = front ++ back ∧ chunks = low ++ high ∧
      Chunks previous pos front low ∧ lastIndex previous low < i ∧
        Chunks i (pos + front.length) back high := by
  induction h with
  | nil => exact ⟨[], [], [], [], rfl, rfl, .nil, hi, .nil⟩
  | @cons previous index length pos head middle bytes more chunks hindex hprevious hlength hbytes rest ih =>
    rw [List.map_cons, List.mem_cons, not_or] at hnew
    by_cases hlt : index < i
    · obtain ⟨front, back, low, high, rfl, rfl, hlow, hbelow, hhigh⟩ := ih hlt hnew.2
      refine ⟨head ++ (middle ++ (bytes ++ front)), back, _, high, by simp, rfl,
        .cons hindex hprevious hlength hbytes hlow, hbelow, ?_⟩
      simpa [Nat.add_assoc] using hhigh
    · have habove : i < index := UInt32.lt_of_le_of_ne (UInt32.not_lt.1 hlt) hnew.1
      exact ⟨[], _, [], _, rfl, rfl, .nil, hi, .cons hindex habove hlength hbytes rest⟩

/-- A chunk that a record does not have can be inserted, in the form in which it is written. -/
theorem exists_inserted (h : Closed 0 bytes chunks) (hi : 0 < i) (hnew : i ∉ chunks.map Prod.fst)
    (hpayload : payload.length < 0x100000000) : ∃ bytes', Inserted i payload bytes bytes' := by
  obtain ⟨body, ending, rfl, hbody, hending⟩ := h
  obtain ⟨front, back, low, high, rfl, rfl, hlow, hbelow, hhigh⟩ := hbody.split hi hnew
  rw [Nat.zero_add] at hhigh
  have hword : payload.length = (UInt32.ofNat payload.length).toNat :=
    (UInt32.toNat_ofNat_of_lt' hpayload).symm
  rw [List.append_assoc]
  exact ⟨_, .intro hlow hbelow hhigh hending (Varint.spells_encode i) (Varint.spells_encode _) hword⟩

/-- Both records are closed, with the same chunks but for the one that is inserted. -/
theorem Inserted.closed (h : Inserted i payload bytes bytes') : payload.length < 0x100000000 ∧
    ∃ low high high' pos, Closed 0 bytes (low ++ high) ∧
      Closed 0 bytes' (low ++ (i, ⟨pos, payload⟩) :: high') ∧ List.Forall₂ Alike high high' := by
  obtain ⟨hlow, hbelow, hhigh, hending, hindex, hlength, hpayload⟩ := h
  rename_i front body ending index length low high word
  refine ⟨hpayload ▸ word.toNat_lt, low, high, ?_⟩
  have hold := hlow.append (by simpa using hhigh.mono (UInt32.le_of_lt hbelow))
  obtain ⟨high', hhigh', halike⟩ :=
    hhigh.move (0 + front.length + index.length + length.length + payload.length)
  have hnew := hlow.append (.cons hindex hbelow hlength hpayload hhigh')
  exact ⟨high', _, ⟨front ++ body, ending, by simp, hold, hending⟩, ⟨_, ending, by simp, hnew, hending⟩, halike⟩

end Record

/-! ## The default as content -/

/-- A default is taken as content that is the same. -/
theorem Content.exists_of_fits {kind : Kind} {v : Value} (h : kind.fits v) (field : String) :
    ∃ c, ofValue kind field v = .ok c ∧ c.toValue.same v ∧ ∀ t ∈ c.texts, v = .string t := by
  cases kind with
  | integer =>
    obtain ⟨n, hn⟩ := Option.isSome_iff_exists.1 h
    have hint := Chunk.asInt_of_int32? hn
    have htaken : Save.int32 field v = .ok n := Save.int32_eq_ok.2 ⟨_, hint, n.toInt_toInt64⟩
    exact ⟨.integer n, bind_eq_ok.2 ⟨n, htaken, rfl⟩, Value.same_of_asInt hint, by simp [texts]⟩
  | bool =>
    obtain ⟨b, hb⟩ := Option.isSome_iff_exists.1 h
    have htaken : Save.bool field v = .ok b := by rw [Save.bool, hb]
    exact ⟨.bool b, bind_eq_ok.2 ⟨b, htaken, rfl⟩, Value.same_of_asBool hb, by simp [texts]⟩
  | float =>
    obtain ⟨x, hx⟩ := Option.isSome_iff_exists.1 h
    have htaken : Save.float field v = .ok x := by simp [Save.float, hx]
    exact ⟨.float x, bind_eq_ok.2 ⟨x, htaken, rfl⟩, Value.same_of_asFloat hx, by simp [texts]⟩
  | string =>
    obtain ⟨t, ht⟩ := Option.isSome_iff_exists.1 h
    have htaken : Save.string field v = .ok t := by rw [Save.string, ht]
    refine ⟨.string t, bind_eq_ok.2 ⟨t, htaken, rfl⟩, Value.same_of_asString ht, fun u hu => ?_⟩
    rw [List.mem_singleton.1 hu]
    exact Save.string_eq_ok.1 htaken
  | _ => cases h

/-- A default is written, and what is written is read as a value that is the same. -/
theorem exists_save_default {f target : Schema} {kind : Kind} {v : Value}
    (hkind : f.resolve = .ok (kind, target)) (hfits : kind.fits v)
    (htext : ∀ t, v = .string t → StoredText.RoundTrips charset t) : ∃ payload w,
      v.save charset f = .ok payload ∧ w.same v ∧ (payload.length < 0x100000000 →
        ∀ pos, Chunk.toValue charset ⟨some f, some ⟨pos, payload⟩⟩ = .ok w) := by
  obtain ⟨c, hc, hsame, htexts⟩ := Content.exists_of_fits hfits f.label
  obtain rfl := Content.kind_of_ofValue hc
  have hroundTrips : ∀ t ∈ c.texts, StoredText.RoundTrips charset t := fun t ht => htext t (htexts t ht)
  obtain ⟨payload, hpayload⟩ := Content.exists_bytes_iff.2 fun t ht => (hroundTrips t ht).exists_encode
  have hleaf := c.isComposite_kind
  refine ⟨payload, c.toValue, ?_, hsame, fun hlen pos => ?_⟩
  · rw [Value.save_of_leaf hkind hleaf]
    exact (Save.contentBytes_eq_ok hleaf).2 ⟨c, hc, hpayload⟩
  · have hkind' : (Chunk.mk (some f) (some ⟨pos, payload⟩)).kind = .ok c.kind :=
      Chunk.kind_eq_ok.2 ⟨target, hkind⟩
    have hread := Content.read_of_bytes (Content.fits_of_ofValue hc) (fun t ht => (hroundTrips t ht).survives)
      hpayload hlen hkind'
    rw [Chunk.toValue_eq]
    exact (Chunk.valueBy_eq_ok_of_leaf hkind' hleaf).2 ⟨c, hread, rfl⟩

/-! ## A default among the entries -/

/-- Entries that are defaults may be added: the object is the same, from either side. -/
theorem same_recordFields_of_added {d : Schema} {items items' : List Entry} (hd : d.LegibleRecord)
    (h : Shown d items) (h' : Shown d items') (hself : ∀ e ∈ items, e.value.same e.value)
    (hkept : ∀ e ∈ items, e ∈ items') (hadded : ∀ e ∈ items', e ∈ items ∨ isDefault e.schema e.value = true) :
    (Value.object (recordFields d items')).same (.object (recordFields d items)) ∧
      (Value.object (recordFields d items)).same (.object (recordFields d items')) := by
  have hfound : ∀ e ∈ items, ∃ w, (recordFields d items).lookup e.key = some w ∧ e.value.same w :=
    fun e he => ⟨e.value, lookup_recordFields h hd he, hself e he⟩
  constructor
  · refine same_recordFields hd h' h (fun e he' => ?_) fun e he => .inl (List.mem_map_of_mem (hkept e he))
    rcases hadded e he' with he | hdefault
    · exact hfound e he
    obtain ⟨f, hf, v, hn, hv, hvisible, hsame⟩ := h'.field_of_isDefault hd he' hdefault
    by_cases hkey : e.key ∈ items.map Entry.key
    -- only one entry has the key
    · obtain ⟨x, hx, hxe⟩ := List.mem_map.1 hkey
      obtain rfl := List.inj_on_of_nodup_map (h'.keys_nodup hd) (hkept x hx) he' hxe
      exact hfound x hx
    · obtain ⟨kind, _, _, hfits⟩ := hd.default_fits f hf v hv
      rw [Value.same_comm_of_fits hfits] at hsame
      exact ⟨v, lookup_recordFields_default h hd hf hn hv hvisible hkey, hsame⟩
  · refine same_recordFields hd h h' (fun e he => ?_) fun e he' => ?_
    · exact ⟨e.value, lookup_recordFields h' hd (hkept e he), hself e he⟩
    · exact (hadded e he').imp_left List.mem_map_of_mem

/-- A default makes no difference to the object and to what it is saved as, whether it is shown or not. -/
theorem default_entry_is_neutral (charset : Charset) {d : Schema} {before after : List Entry} {e : Entry}
    (hd : d.LegibleRecord) (h : Shown d (before ++ after))
    (h' : Shown d (before ++ ([e].filter Entry.visible ++ after)))
    (hself : ∀ x ∈ before ++ after, x.value.same x.value) (hdefault : isDefault e.schema e.value = true) :
    let v := Value.object (recordFields d (before ++ after))
    let v' := Value.object (recordFields d (before ++ ([e].filter Entry.visible ++ after)))
    v'.same v ∧ v.same v' ∧ v'.saveRecord charset d = v.saveRecord charset d := by
  intro v v'
  have hadded : ∀ x ∈ [e].filter Entry.visible, isDefault x.schema x.value = true := by
    intro x hx
    rw [List.mem_singleton.1 (List.mem_of_mem_filter hx)]
    exact hdefault
  have hsame : v'.same v ∧ v.same v' := by
    refine same_recordFields_of_added hd h h' hself (fun x hx => ?_) fun x hx => ?_ <;>
      simp only [List.mem_append] at hx ⊢
    · exact hx.imp_right .inr
    · rcases hx with hx | hx | hx
      · exact .inl (.inl hx)
      · exact .inr (hadded x hx)
      · exact .inl (.inr hx)
  refine ⟨hsame.1, hsame.2, Value.saveRecord_congr_given rfl rfl ?_⟩
  have hnone : ([e].filter Entry.visible).filter (fun e => !isDefault e.schema e.value) = [] :=
    List.filter_eq_nil_iff.2 fun x hx => by simp [hadded x hx]
  rw [Save.givenEntries_recordFields h' hd, Save.givenEntries_recordFields h hd, List.filter_append,
    List.filter_append, hnone, List.nil_append, List.filter_append]

/-- A chunk that is inserted is shown among the others, unless its field is internal. -/
theorem shows_inserted {d : Schema} {low high high' : List (UInt32 × Payload)} {x : UInt32 × Payload} {e : Entry}
    {items : List Entry} (halike : List.Forall₂ Record.Alike high high')
    (he : e.Shows (Chunk.toValue charset) (Record.chunkOf d x))
    (h : List.Forall₂ (Entry.Shows (Chunk.toValue charset))
      (visibleEntries ((low ++ high).map (Record.chunkOf d))) items) :
    ∃ before after, items = before ++ after ∧ List.Forall₂ (Entry.Shows (Chunk.toValue charset))
      (visibleEntries ((low ++ x :: high').map (Record.chunkOf d)))
      (before ++ ([e].filter Entry.visible ++ after)) := by
  rw [List.map_append, visibleEntries, List.filter_append] at h
  obtain ⟨before, after, rfl, hbefore, hafter⟩ := exists_append_of_forall₂ h
  have hone : List.Forall₂ (Entry.Shows (Chunk.toValue charset)) (visibleEntries [Record.chunkOf d x])
      ([e].filter Entry.visible) := by
    refine List.rel_filter (fun entry item hshows => ?_) (.cons he .nil)
    show (entryKey? entry.1 entry.2).isSome = true ↔ _
    rw [visible_iff_entryKey? hshows.2.1.symm]
  have hmoved := shows_moved (fun y _ s pos' w hw => Chunk.toValue_moved hw pos') halike hafter
  refine ⟨before, after, rfl, ?_⟩
  rw [List.map_append, List.map_cons, ← List.singleton_append, visibleEntries, List.filter_append,
    List.filter_append]
  exact List.rel_append hbefore (List.rel_append hone hmoved)

namespace Record

variable {s d f : Schema} {i : UInt32} {pos : Nat} {bytes bytes' payload : List UInt8}
  {chunks : List (UInt32 × Payload)} {items : List Entry} {v w j : Value}

/-- What a closed record shows is in order, and every entry is the same as itself. -/
theorem Closed.shown (hs : s.Legible) (hd : s.actual .record = .ok d) (h : Closed pos bytes chunks)
    (hitems : List.Forall₂ (Entry.Shows (Chunk.toValue charset)) (visibleEntries (chunks.map (chunkOf d))) items) :
    Shown d items ∧ ∀ e ∈ items, e.value.same e.value := by
  obtain ⟨_, _, hin⟩ := inOrder_of_parse (h.takes_parse d none [])
  obtain ⟨hdecoded, hvalues⟩ := decodedItems_of_shows hin hitems
  refine ⟨hdecoded.toShown, hdecoded.value_same_self fun e he u hu => ?_⟩
  obtain ⟨entry, _, p, hchunk, _, hvalue⟩ := hvalues e he u hu
  have hlegible := hs.field (.record hd) (hdecoded.mem_fields he hu)
  rw [hchunk] at hvalue
  exact (Canonical.of_toValue hlegible hvalue).same_self hlegible

theorem Closed.toValue_eq_ok (hs : s.Legible) (hd : s.actual .record = .ok d) (h : Closed pos bytes chunks) :
    Chunk.toValue charset ⟨some s, some ⟨pos, bytes⟩⟩ = .ok w ↔ ∃ items,
      List.Forall₂ (Entry.Shows (Chunk.toValue charset)) (visibleEntries (chunks.map (chunkOf d))) items ∧
        w = .object (recordFields d items) := by
  have htakes := h.takes_parse d none
  obtain ⟨target, hkind⟩ := Schema.resolve_of_actual hd
  obtain ⟨_, _, hin⟩ := inOrder_of_parse (htakes [])
  rw [Chunk.toValue_record hkind hd htakes, valueBy_eq_ok (hs.record hd) hin]
  constructor
  · rintro ⟨items, hitems, _, rfl⟩
    exact ⟨items, hitems, rfl⟩
  · rintro ⟨items, hitems, rfl⟩
    exact ⟨items, hitems, (h.shown hs hd hitems).1, rfl⟩

/-- A record in which the default of a field is inserted has the same value, and it is saved alike. -/
theorem Inserted.neutral (hs : s.Legible) (hd : s.actual .record = .ok d) (hf : f ∈ d.fields)
    (hi : f.index? = some i) (hv : f.default? = some v) (hsame : w.same v)
    (hw : payload.length < 0x100000000 → ∀ pos, Chunk.toValue charset ⟨some f, some ⟨pos, payload⟩⟩ = .ok w)
    (h : Inserted i payload bytes bytes') (hj : (Chunk.ofBytes s bytes).toValue charset = .ok j) :
    ∃ j', (Chunk.ofBytes s bytes').toValue charset = .ok j' ∧ j'.same j ∧ j.same j' ∧
      j'.save charset s = j.save charset s := by
  have hrecord := hs.record hd
  obtain ⟨hlength, low, high, high', start, hold, hnew, halike⟩ := h.closed
  obtain ⟨items, hitems, rfl⟩ := (hold.toValue_eq_ok hs hd).1 hj
  -- the chunk is that of the field, and its value is the default
  have he : Entry.Shows (Chunk.toValue charset) (chunkOf d (i, ⟨start, payload⟩)) ⟨i, w, some f⟩ := by
    rw [chunkOf, hrecord.find_index hf hi]
    exact ⟨rfl, rfl, hw hlength start⟩
  have hdefault : isDefault (some f) w = true := by
    obtain ⟨kind, _, _, hfits⟩ := hrecord.default_fits f hf v hv
    rw [Save.isDefault_eq, Option.bind_some, hv, Option.any_some, Value.same_comm_of_fits hfits, hsame]
  obtain ⟨before, after, rfl, hitems'⟩ := shows_inserted halike he hitems
  obtain ⟨hshown, hself⟩ := hold.shown hs hd hitems
  obtain ⟨hshown', _⟩ := hnew.shown hs hd hitems'
  obtain ⟨hleft, hright, hsaved⟩ := default_entry_is_neutral charset hrecord hshown hshown' hself hdefault
  refine ⟨_, (hnew.toValue_eq_ok hs hd).2 ⟨_, hitems', rfl⟩, hleft, hright, ?_⟩
  rw [Value.save_of_record hd, Value.save_of_record hd, hsaved]

/-- Defaults are neutral.  The default of a field that a record leaves out can be written, and a record with the
chunk that is written in its place among the others has the same value, which is saved alike or fails alike. -/
theorem default_is_neutral (hs : s.Legible) (hd : s.actual .record = .ok d) (hf : f ∈ d.fields)
    (hi : f.index? = some i) (hv : f.default? = some v)
    (htext : ∀ t, v = .string t → StoredText.RoundTrips charset t) (hclosed : Closed 0 bytes chunks)
    (hnew : i ∉ chunks.map Prod.fst) (hj : (Chunk.ofBytes s bytes).toValue charset = .ok j) :
    ∃ payload, v.save charset f = .ok payload ∧
      (payload.length < 0x100000000 → ∃ bytes', Inserted i payload bytes bytes') ∧
      ∀ bytes', Inserted i payload bytes bytes' → ∃ j', (Chunk.ofBytes s bytes').toValue charset = .ok j' ∧
        j'.same j ∧ j.same j' ∧ j'.save charset s = j.save charset s := by
  obtain ⟨kind, target, hkind, hfits⟩ := (hs.record hd).default_fits f hf v hv
  obtain ⟨k, hk, hzero⟩ := (hs.record hd).index f hf
  obtain rfl : i = k := Option.some.inj (hi.symm.trans hk)
  obtain ⟨payload, w, hsave, hsame, hw⟩ := exists_save_default hkind hfits htext
  exact ⟨payload, hsave, exists_inserted hclosed (UInt32.pos_iff_ne_zero.2 hzero) hnew,
    fun bytes' h => h.neutral hs hd hf hi hv hsame hw hj⟩

/-- An inventory without gold, and the same with the default of gold in front of the other chunk. -/
theorem default_is_neutral_inventory :
    let s : Schema := ⟨Document.saveInventory⟩
    ∃ f v j j', s.Legible ∧ s.actual .record = .ok s ∧ f ∈ s.fields ∧ f.index? = some 21 ∧ f.default? = some v ∧
      Closed 0 [22, 1, 7, 0] [(22, ⟨2, [7]⟩)] ∧ v.save .shiftJis f = .ok [0] ∧
      Inserted 21 [0] [22, 1, 7, 0] [21, 1, 0, 22, 1, 7, 0] ∧
      (Chunk.ofBytes s [22, 1, 7, 0]).toValue .shiftJis = .ok j ∧
      (Chunk.ofBytes s [21, 1, 0, 22, 1, 7, 0]).toValue .shiftJis = .ok j' ∧ j'.same j ∧ j.same j' ∧
        j'.save .shiftJis s = j.save .shiftJis s := by
  intro s
  have hs : s.Legible := (Schema.consistent_of_check (show s.checkWithin 2 from by decide +kernel)).1.legible
  have hone : ∀ b : UInt8, b < 0x80 → Varint.Spells [b] b.toUInt32 := fun b => Varint.spells_singleton
  have hchunks : ∀ previous < 22, Chunks previous 0 [22, 1, 7] [(22, ⟨2, [7]⟩)] := fun previous hprevious =>
    @Chunks.cons previous 22 1 0 [22] [1] [7] [] [] (hone 22 (by decide)) hprevious (hone 1 (by decide)) rfl .nil
  have hclosed : Closed 0 [22, 1, 7, 0] [(22, ⟨2, [7]⟩)] :=
    ⟨[22, 1, 7], [0], rfl, hchunks 0 (by decide), hone 0 (by decide)⟩
  have hinserted : Inserted 21 [0] [22, 1, 7, 0] [21, 1, 0, 22, 1, 7, 0] :=
    @Inserted.intro 21 [0] [] [22, 1, 7] [0] [21] [1] [] _ 1 .nil (by decide) (hchunks 21 (by decide))
      (hone 0 (by decide)) (hone 21 (by decide)) (hone 1 (by decide)) rfl
  obtain ⟨f, hfind, hv, hsave⟩ : ∃ f, s.find? (.index 21) = some f ∧ f.default? = some (.int 0) ∧
      (Value.int 0).save .shiftJis f = .ok [0] := ⟨_, rfl, rfl, by decide +kernel⟩
  obtain ⟨hf, hi⟩ := Schema.mem_of_find_index hfind
  obtain ⟨j, hj⟩ : ∃ j, (Chunk.ofBytes s [22, 1, 7, 0]).toValue .shiftJis = .ok j :=
    exists_of_isOk (by decide +kernel)
  obtain ⟨payload, hpayload, _, hneutral⟩ :=
    default_is_neutral hs rfl hf hi hv (fun t ht => nomatch ht) hclosed (by decide) hj
  obtain rfl := Except.ok.inj (hsave.symm.trans hpayload)
  obtain ⟨j', hj', hleft, hright, hsaved⟩ := hneutral _ hinserted
  exact ⟨f, .int 0, j, j', hs, rfl, hf, hi, hv, hclosed, hsave, hinserted, hj, hj', hleft, hright, hsaved⟩

end Record

end ChunkTree
