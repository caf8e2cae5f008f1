import ChunkTree.Proofs.Keys

/-!
# The keys of objects

An object is written down key by key: a new key goes to the end (`Fields.insert_new`), and a key that is
looked up is found if no key occurs twice (`Fields.lookup_of_mem`).  The keys that indices are written as
are read back (`Save.index?_indexText`), so different indices have different keys.
-/

namespace ChunkTree

namespace Fields

variable {fields : Fields} {k : String} {v : Value}

theorem lookup_eq_none : fields.lookup k = none ↔ k ∉ fields.map Prod.fst := by
  rw [List.lookup_eq_none_iff, List.mem_map]
  constructor
  · rintro h ⟨f, hf, rfl⟩
    simpa using h f hf
  · intro h f hf
    rw [bne_iff_ne]
    rintro rfl
    exact h ⟨f, hf, rfl⟩

theorem lookup_of_mem (hnodup : (fields.map Prod.fst).Nodup) (h : (k, v) ∈ fields) :
    fields.lookup k = some v := by
  induction fields with
  | nil => simp at h
  | cons f fields ih =>
    obtain ⟨l, w⟩ := f
    obtain ⟨hl, hnodup⟩ := List.nodup_cons.1 hnodup
    rcases List.mem_cons.1 h with hf | hf
    · rw [← hf]
      exact List.lookup_cons_self
    · have hne : k ≠ l := by
        rintro rfl
        exact hl (List.mem_map.2 ⟨_, hf, rfl⟩)
      rw [List.lookup_cons, beq_false_of_ne hne]
      exact ih hnodup hf

/-- What a key is looked up as does not depend on the order of the keys. -/
theorem lookup_perm {fields' : Fields} (hnodup : (fields.map Prod.fst).Nodup) (h : fields.Perm fields')
    (k : String) : fields.lookup k = fields'.lookup k := by
  have hkeys := h.map Prod.fst
  cases hv : fields'.lookup k with
  | none =>
    rw [lookup_eq_none] at hv ⊢
    exact fun hk => hv (hkeys.mem_iff.1 hk)
  | some v => exact lookup_of_mem hnodup (h.mem_iff.2 (Value.mem_of_lookup hv))

/-- What an object holds after a key was set is the new value or was there before. -/
theorem mem_insert {l : String} {w : Value} (h : (l, w) ∈ fields.insert k v) :
    (l = k ∧ w = v) ∨ (l, w) ∈ fields := by
  induction fields with
  | nil => simpa [insert] using h
  | cons f fields ih =>
    rw [insert] at h
    split at h
    · rcases List.mem_cons.1 h with h | h
      · exact .inl (Prod.mk.inj h)
      · exact .inr (List.mem_cons_of_mem f h)
    · rcases List.mem_cons.1 h with h | h
      · exact .inr (h ▸ List.mem_cons_self)
      · exact (ih h).imp_right (List.mem_cons_of_mem f)

theorem mem_keys_insert {l : String} :
    l ∈ (fields.insert k v).map Prod.fst ↔ l = k ∨ l ∈ fields.map Prod.fst := by
  induction fields with
  | nil => simp [insert]
  | cons f fields ih =>
    rw [insert]
    split
    · rename_i hk
      simp [← hk]
    · simp only [List.map_cons, List.mem_cons, ih]
      exact or_left_comm

/-- Setting a key leaves no key twice. -/
theorem nodup_insert (h : (fields.map Prod.fst).Nodup) : ((fields.insert k v).map Prod.fst).Nodup := by
  induction fields with
  | nil => exact List.nodup_singleton k
  | cons f fields ih =>
    obtain ⟨hf, hfields⟩ := List.nodup_cons.1 h
    rw [insert]
    split
    · rename_i hk
      exact List.nodup_cons.2 ⟨hk ▸ hf, hfields⟩
    · rename_i hk
      refine List.nodup_cons.2 ⟨fun hmem => ?_, ih hfields⟩
      rcases mem_keys_insert.1 hmem with heq | hmem
      · exact hk heq
      · exact hf hmem

theorem insert_new (h : k ∉ fields.map Prod.fst) : fields.insert k v = fields ++ [(k, v)] := by
  induction fields with
  | nil => rfl
  | cons f fields ih =>
    obtain ⟨l, w⟩ := f
    simp only [List.map_cons, List.mem_cons, not_or] at h
    rw [insert, if_neg (Ne.symm h.1), ih h.2, List.cons_append]

/-- New keys go to the end one after the other. -/
theorem foldl_insert_new {entries : Fields} (h : (fields.map Prod.fst ++ entries.map Prod.fst).Nodup) :
    entries.foldl (fun fields entry => insert entry.1 entry.2 fields) fields = fields ++ entries := by
  induction entries generalizing fields with
  | nil => exact (List.append_nil fields).symm
  | cons entry entries ih =>
    have hnew : entry.1 ∉ fields.map Prod.fst := by
      have := (List.nodup_append.1 h).2.2
      exact fun hk => this _ hk _ List.mem_cons_self rfl
    rw [List.foldl_cons, insert_new hnew, ih (by simpa using h), List.append_assoc]
    rfl

/-- Entries whose keys differ are an object as they are. -/
theorem ofList_of_nodup (h : (fields.map Prod.fst).Nodup) : ofList fields = fields := by
  have hnil : (([] : Fields).map Prod.fst ++ fields.map Prod.fst).Nodup := h
  rw [ofList, foldl_insert_new hnil, List.nil_append]

/-- A key that stands at the end gets its new value there. -/
theorem insert_last {w : Value} (h : k ∉ fields.map Prod.fst) :
    Fields.insert k v (fields ++ [(k, w)]) = fields ++ [(k, v)] := by
  induction fields with
  | nil => simp [insert]
  | cons f fields ih =>
    obtain ⟨l, w'⟩ := f
    simp only [List.map_cons, List.mem_cons, not_or] at h
    rw [List.cons_append, insert, if_neg (Ne.symm h.1), ih h.2, List.cons_append]

theorem lookup_append_new {w : Value} (h : k ∉ fields.map Prod.fst) :
    (fields ++ [(k, w)]).lookup k = some w := by
  rw [List.lookup_append, lookup_eq_none.2 h]
  simp

end Fields

namespace Save

/-- The digits of a number are read back. -/
theorem decimalFrom?_toDigits (n : Nat) : decimalFrom? 0 (Nat.toDigits 10 n) = some n := by
  have hread : ∀ (cs : List Char) (m : Nat), (∀ c ∈ cs, c.isDigit) →
      decimalFrom? m cs = some (Nat.ofDigitChars 10 cs m) := by
    intro cs
    induction cs with
    | nil => simp [decimalFrom?]
    | cons c cs ih =>
      intro m h
      have hzero : '0'.toNat = 48 := rfl
      rw [decimalFrom?, if_pos (h c List.mem_cons_self), ih _ fun d hd => h d (List.mem_cons_of_mem c hd),
        Nat.ofDigitChars_cons, hzero, Nat.mul_comm]
  have hdigits := fun c hc => Nat.isDigit_of_mem_toDigits (b := 10) (n := n) (c := c) (by decide)
    (by decide) hc
  rw [hread _ 0 hdigits, Nat.ofDigitChars_ten_toDigits]

theorem toList_indexText (i : UInt32) : (indexText i).toList = Nat.toDigits 10 i.toNat := by
  rw [indexText, Nat.toString_eq_repr, Nat.toList_repr]

theorem head?_indexText (i : UInt32) : ∃ c, (indexText i).toList.head? = some c ∧ c.isDigit := by
  rw [toList_indexText]
  obtain ⟨c, cs, hcs⟩ := List.exists_cons_of_ne_nil (Nat.toDigits_ne_nil (n := i.toNat) (b := 10))
  refine ⟨c, by rw [hcs]; rfl, ?_⟩
  exact Nat.isDigit_of_mem_toDigits (b := 10) (n := i.toNat) (by decide) (by decide) (by rw [hcs]; simp)

/-- The text of an index spells that index. -/
theorem index?_indexText (i : UInt32) : index? (indexText i) = some i := by
  obtain ⟨c, hhead, hdigit⟩ := head?_indexText i
  have hplus : c ≠ '+' := by
    rintro rfl
    simp at hdigit
  have hdigits : (if (indexText i).toList.head? = some '+' then (indexText i).toList.tail else
    (indexText i).toList) = Nat.toDigits 10 i.toNat := by
    rw [hhead, if_neg (by simpa using hplus), toList_indexText]
  unfold index?
  simp only [hdigits, decimalFrom?_toDigits]
  simp [Nat.toDigits_ne_nil, i.toNat_lt]

theorem indexText_inj {i j : UInt32} : indexText i = indexText j ↔ i = j := by
  constructor
  · intro h
    have := index?_indexText i
    rw [h, index?_indexText] at this
    exact (Option.some.inj this).symm
  · exact congrArg indexText

/-- A key that spells an index is not internal. -/
theorem isInternal_of_index? {key : String} {i : UInt32} (h : index? key = some i) : isInternal key = false := by
  rw [isInternal, beq_eq_false_iff_ne]
  intro hhead
  obtain ⟨cs, hcs⟩ := List.head?_eq_some_iff.1 hhead
  simp [index?, hcs, decimalFrom?] at h

theorem isInternal_indexText (i : UInt32) : isInternal (indexText i) = false :=
  isInternal_of_index? (index?_indexText i)

/-- The key of the further rows of an index is internal. -/
theorem isInternal_restKey : isInternal restKey = true := by
  decide +kernel

end Save

end ChunkTree
