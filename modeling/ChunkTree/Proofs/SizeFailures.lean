import ChunkTree.Proofs.Mentions
import ChunkTree.Proofs.Sizes

/-!
# Values with a size that cannot be saved

A value that can be saved has a size, but a value that has a size can be saved only if two things hold of what is
in it that its size does not depend on: what is saved as a float has to be one, and in ISO-2022-JP no text may
hold a control that shifts (`Save.Writable`).  Nothing else is missed (`Value.exists_save_iff`), as all other
content is checked before it is measured (`Save.exists_content_of_contentSize`).
-/

namespace ChunkTree

open Text (Charset)

variable {charset : Charset}

theorem Script.exists_size_of_byteSize {commands : List Command} {n : Nat} (h : byteSize charset commands = .ok n) :
    ∀ c ∈ commands, ∃ m, StoredText.size charset c.text = .ok m := by
  induction commands generalizing n with
  | nil => simp
  | cons c commands ih =>
    obtain ⟨size, hsize, h⟩ := bind_eq_ok.1 h
    obtain ⟨rest, hrest, _⟩ := bind_eq_ok.1 h
    obtain ⟨length, hlength, _⟩ := bind_eq_ok.1 hsize
    exact List.forall_mem_cons.2 ⟨⟨length, hlength⟩, ih hrest⟩

namespace Save

variable {v : Value} {s : Schema}

/-! ## Content -/

/-- What is needed of a value, beside its size, for it to be written. -/
structure Writable (charset : Charset) (v : Value) (s : Schema) : Prop where
  float : ∀ target, s.resolve = .ok (.float, target) → ∃ x, Save.float s.label v = .ok x
  text : charset = .iso2022Jp → ∀ t, ContentEncodes v s t → StoredText.NoShift t

/-- A value that has a size as content is taken as such content, whose texts have sizes. -/
theorem exists_content_of_contentSize {kind : Kind} {field : String} {n : Nat} (hleaf : kind.isComposite = false)
    (h : contentSize charset kind field v = .ok n) (hfloat : kind = .float → ∃ x, Save.float field v = .ok x) :
    ∃ c, Content.ofValue kind field v = .ok c ∧ ∀ t ∈ c.texts, ∃ m, StoredText.size charset t = .ok m := by
  cases kind with
  | record | table => cases hleaf
  | float =>
    obtain ⟨x, hx⟩ := hfloat rfl
    exact ⟨.float x, bind_eq_ok.2 ⟨x, hx, rfl⟩, by simp [Content.texts]⟩
  | string =>
    obtain ⟨t, ht, hn⟩ := bind_eq_ok.1 h
    exact ⟨.string t, bind_eq_ok.2 ⟨t, ht, rfl⟩, by simp [Content.texts, hn]⟩
  | script =>
    obtain ⟨commands, hcommands, hn⟩ := bind_eq_ok.1 h
    refine ⟨.script commands, bind_eq_ok.2 ⟨commands, hcommands, rfl⟩, ?_⟩
    exact List.forall_mem_map.2 (Script.exists_size_of_byteSize hn)
  | _ =>
    obtain ⟨x, hx, _⟩ := bind_eq_ok.1 h
    exact ⟨_, bind_eq_ok.2 ⟨x, hx, rfl⟩, by simp [Content.texts]⟩

theorem Writable.exists_contentBytes (hw : Writable charset v s) {kind : Kind} {target : Schema} {n : Nat}
    (hkind : s.resolve = .ok (kind, target)) (hleaf : kind.isComposite = false)
    (h : contentSize charset kind s.label v = .ok n) :
    ∃ bytes, contentBytes charset kind s.label v = .ok bytes := by
  have hfloat : kind = .float → ∃ x, Save.float s.label v = .ok x := by
    rintro rfl
    exact hw.float target hkind
  obtain ⟨c, hc, hsizes⟩ := exists_content_of_contentSize hleaf h hfloat
  have htexts : ∀ t ∈ c.texts, ∃ b, StoredText.encode charset t = .ok b := by
    intro t ht
    obtain ⟨m, hm⟩ := hsizes t ht
    exact StoredText.encode_of_size hm fun hcharset => hw.text hcharset t ⟨kind, target, c, hkind, hc, ht⟩
  obtain ⟨bytes, hbytes⟩ := Content.exists_bytes_iff.2 htexts
  exact ⟨bytes, (contentBytes_eq_ok hleaf).2 ⟨c, hc, hbytes⟩⟩

theorem writable_of_save {bytes : List UInt8} (h : v.save charset s = .ok bytes) : Writable charset v s where
  float target hkind := by
    rw [Value.save_of_leaf hkind rfl] at h
    obtain ⟨x, hx, _⟩ := bind_eq_ok.1 h
    exact ⟨x, hx⟩
  text := by
    rintro rfl t ⟨kind, target, c, hkind, hc, ht⟩
    obtain rfl := Content.kind_of_ofValue hc
    rw [Value.save_of_leaf hkind c.isComposite_kind] at h
    obtain ⟨c', hc', hbytes⟩ := (contentBytes_eq_ok c.isComposite_kind).1 h
    obtain rfl := Except.ok.inj (hc.symm.trans hc')
    obtain ⟨b, hb⟩ := Content.exists_bytes_iff.1 ⟨_, hbytes⟩ t ht
    exact StoredText.noShift_of_encode hb

/-- An integer is a float too, and holds no text. -/
theorem writable_int (n : Int64) : Writable charset (.int n) s where
  float _ _ := ⟨_, rfl⟩
  text _ t ht := by
    rcases mentions_of_contentEncodes ht with h | rfl
    · cases h
    · intro c hc
      cases hc

/-! ## Records and tables -/

theorem exists_writeEntries {size : Value → Schema → Except Error Nat}
    {write : Value → Schema → Except Error (List UInt8)} {entries : List Entry} {n : Nat}
    (h : entriesSize size entries = .ok n)
    (hentry : ∀ e ∈ entries, ∀ m, e.payloadSize size = .ok m → ∃ p, e.payload write = .ok p ∧ p.length = m) :
    ∃ bytes, writeEntries size write entries = .ok bytes := by
  induction entries generalizing n with
  | nil => exact ⟨[], rfl⟩
  | cons e entries ih =>
    obtain ⟨m, rest, hm, hrest, _⟩ := entriesSize_cons_eq_ok.1 h
    obtain ⟨p, hp, rfl⟩ := hentry e List.mem_cons_self m hm
    obtain ⟨bytes, hbytes⟩ := ih hrest fun f hf => hentry f (List.mem_cons_of_mem e hf)
    exact ⟨_, writeEntries_cons_eq_ok.2 ⟨(e.index, p), bytes, ⟨rfl, hm, hp⟩, hbytes, rfl⟩⟩

/-- An entry that has a size has a payload of that size if its value can be saved. -/
theorem Entry.exists_payload {e : Entry} {n : Nat} (h : e.payloadSize (Value.savedSize charset) = .ok n)
    (hsave : ∀ u m, e.schema = some u → e.value.savedSize charset u = .ok m →
      ∃ bytes, e.value.save charset u = .ok bytes) :
    ∃ p, e.payload (Value.save charset) = .ok p ∧ p.length = n := by
  have hwritten : ∃ p, e.payload (Value.save charset) = .ok p := by
    unfold Entry.payloadSize at h
    unfold Entry.payload
    cases hu : e.schema with
    | some u =>
      simp only [hu] at h ⊢
      exact hsave u n hu h
    | none =>
      simp only [hu] at h ⊢
      obtain ⟨bytes, hbytes, _⟩ := bind_eq_ok.1 h
      exact ⟨bytes, hbytes⟩
  obtain ⟨p, hp⟩ := hwritten
  exact ⟨p, hp, Except.ok.inj ((payloadSize_of_payload hp).symm.trans h)⟩

end Save

namespace Value

open Save

variable {v : Value} {s d : Schema} {n : Nat}

/-- An integer that has a size under a schema can be saved under it. -/
theorem exists_save_int {k : Int64} (h : (int k).savedSize charset s = .ok n) :
    ∃ bytes, (int k).save charset s = .ok bytes := by
  obtain ⟨kind, target, hkind, h⟩ := savedSize_eq_ok.1 h
  rcases h with ⟨_, d, _, h⟩ | ⟨_, d, _, h⟩ | ⟨hleaf, h⟩
  · obtain ⟨_, _, hentries, _⟩ := recordSize_eq_ok.1 h
    cases hentries
  · obtain ⟨_, _, hrows, _⟩ := tableSize_eq_ok.1 h
    cases hrows
  · rw [save_of_leaf hkind hleaf]
    exact (writable_int k).exists_contentBytes hkind hleaf h

/-- A record that has a size can be saved if the values in it can be whenever they have a size. -/
theorem exists_saveRecord_of_recordSize (h : recordSize (savedSize charset) d v = .ok n)
    (hentry : ∀ e ∈ v.keptEntries d, ∀ u m, e.schema = some u → e.value.savedSize charset u = .ok m →
      ∃ bytes, e.value.save charset u = .ok bytes) : ∃ bytes, v.saveRecord charset d = .ok bytes := by
  obtain ⟨entries, _, hentries, hsize, _⟩ := recordSize_eq_ok.1 h
  have hsave : ∀ e ∈ entries, ∀ u m, e.schema = some u → e.value.savedSize charset u = .ok m →
      ∃ bytes, e.value.save charset u = .ok bytes := by
    obtain ⟨fields, given, sizes, hv, hgiven, hsizes, _, rfl⟩ := entriesOf_eq_ok.1 hentries
    intro e he u m hu hm
    rcases List.mem_append.1 (mem_sortBy.1 he) with he | he
    · rw [← keptEntries_of_givenEntries hv hgiven] at he
      exact hentry e he u m hu hm
    · -- a rebuilt size is an integer
      obtain ⟨_, _, _, _, count, _, _, _, _, heq⟩ := mem_sizeEntries hsizes he
      rw [heq] at hm ⊢
      exact exists_save_int hm
  obtain ⟨chunks, hchunks⟩ := exists_writeEntries hsize fun e he m hm => Entry.exists_payload hm (hsave e he)
  rw [saveRecord_eq]
  exact ⟨_, writeRecord_eq_ok.2 ⟨entries, chunks, hentries, hchunks, rfl⟩⟩

theorem exists_saveTable_of_tableSize (h : tableSize (savedSize charset) d v = .ok n)
    (hrow : ∀ r ∈ v.tableRows, ∀ m, recordSize (savedSize charset) d r.2 = .ok m →
      ∃ bytes, r.2.saveRecord charset d = .ok bytes) : ∃ bytes, v.saveTable charset d = .ok bytes := by
  obtain ⟨rows, _, hrows, hsize, _⟩ := tableSize_eq_ok.1 h
  have hwritten : ∃ bytes, writeRows (savedSize charset) (save charset) d rows = .ok bytes := by
    refine exists_writeRows fun r hr => ?_
    obtain ⟨m, hm⟩ := exists_recordSize hsize hr
    rw [← sortBy_tableRows hrows, mem_sortBy] at hr
    rw [← saveRecord_eq]
    exact hrow r hr m hm
  obtain ⟨records, hrecords⟩ := hwritten
  rw [saveTable_eq]
  exact ⟨_, writeTable_eq_ok.2 ⟨rows, records, hrows, hrecords, rfl⟩⟩

/-! ## At any depth -/

/-- A value that has a size can be saved if everything in it can be written. -/
theorem exists_save_of_savedSize (h : v.savedSize charset s = .ok n)
    (hw : ∀ x u, Covers v s x u → Writable charset x u) : ∃ bytes, v.save charset s = .ok bytes := by
  induction hn : v.depth using Nat.strong_induction_on generalizing v s n with
  | _ _ ih =>
    subst hn
    have hentry : ∀ e, Gives v s e → ∀ u m, e.schema = some u → e.value.savedSize charset u = .ok m →
        ∃ bytes, e.value.save charset u = .ok bytes :=
      fun e he u m hu hm => ih _ he.depth_lt hm (fun x t hx => hw x t (.within he hu hx)) rfl
    obtain ⟨kind, target, hkind, h⟩ := savedSize_eq_ok.1 h
    rcases h with ⟨_, d, hd, h⟩ | ⟨_, d, hd, h⟩ | ⟨hleaf, h⟩
    · rw [save_of_record hd]
      exact exists_saveRecord_of_recordSize h fun e he => hentry e (.inl ⟨d, hd, he⟩)
    · rw [save_of_table hd]
      refine exists_saveTable_of_tableSize h fun r hr m hm => ?_
      exact exists_saveRecord_of_recordSize hm fun e he => hentry e (.inr ⟨d, hd, r, hr, he⟩)
    · rw [save_of_leaf hkind hleaf]
      exact (hw v s .self).exists_contentBytes hkind hleaf h

theorem writable_of_covers {x : Value} {u : Schema} (hx : Covers v s x u) {bytes : List UInt8}
    (h : v.save charset s = .ok bytes) : Writable charset x u := by
  induction hx generalizing bytes with
  | self => exact writable_of_save h
  | within he hu _ ih =>
    obtain ⟨payload, hpayload⟩ := he.exists_save h hu
    exact ih hpayload

/-- A value can be saved just if it has a size, every value in it that is saved as a float is one, and, in
ISO-2022-JP, no text in it holds a control that shifts. -/
theorem exists_save_iff (charset : Charset) (v : Value) (s : Schema) :
    (∃ bytes, v.save charset s = .ok bytes) ↔
      (∃ n, v.savedSize charset s = .ok n) ∧ ∀ x u, Covers v s x u → Writable charset x u := by
  constructor
  · rintro ⟨bytes, h⟩
    exact ⟨⟨_, savedSize_of_save h⟩, fun x u hx => writable_of_covers hx h⟩
  · rintro ⟨⟨n, h⟩, hw⟩
    exact exists_save_of_savedSize h hw

/-- A text where a record has a float, and an escape in ISO-2022-JP: both have a size and cannot be saved. -/
theorem savedSize_without_save :
    let rate : Schema := ⟨.object [("index", .int 3), ("name", .string "rate"), ("type", .string "float")]⟩
    let s : Schema := ⟨.object [("name", .string "R"), ("type", .string "array1d"), ("value", .array [rate.node])]⟩
    let v : Value := .object [("rate", .string "high")]
    let text : Schema := ⟨.object [("name", .string "t"), ("type", .string "string")]⟩
    v.savedSize .shiftJis s = .ok 11 ∧
      v.save .shiftJis s = .error (.invalidValue "rate" "number" "string") ∧
      (string "\x1b").savedSize .iso2022Jp text = .ok 1 ∧
      ∀ bytes, (string "\x1b").save .iso2022Jp text ≠ .ok bytes := by
  intro rate s v text
  refine ⟨by rfl, by rfl, by rfl, fun bytes h => ?_⟩
  have hshift : StoredText.NoShift "\x1b" :=
    (writable_of_save h).text rfl _ ⟨.string, text, .string "\x1b", rfl, rfl, List.mem_cons_self⟩
  have hfalse := hshift '\x1b' List.mem_cons_self
  cases hfalse

end Value

end ChunkTree
