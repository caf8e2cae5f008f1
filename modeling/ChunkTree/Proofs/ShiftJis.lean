import ChunkTree.Proofs.Ascii
import ChunkTree.Proofs.Pointers

/-!
# Shift_JIS there and back

Written text is read back character by character (`decode_encode`), but three characters are written with the
bytes of others and so come back as those (`readBack`).  Conversely all that is read can be written again, but
for the characters of the user-defined block, which can be read and have no bytes (`encode_of_decode`).  So the
characters that can be written are those three and all others that can be read (`exists_encodeChar_iff`).
-/

namespace ChunkTree.Text.ShiftJis

/-- The characters of the user-defined block. -/
def IsUserDefined (c : Char) : Prop :=
  0xe000 ≤ c.toNat ∧ c.toNat ≤ 0xe757

/-- The yen sign, the overline and the minus sign, which are written with the bytes of other characters. -/
def IsMerged (c : Char) : Prop :=
  c.toNat = 0xa5 ∨ c.toNat = 0x203e ∨ c.toNat = 0x2212

instance (c : Char) : Decidable (IsUserDefined c) :=
  inferInstanceAs (Decidable (_ ∧ _))

instance (c : Char) : Decidable (IsMerged c) :=
  inferInstanceAs (Decidable (_ ∨ _))

/-- What a character is read as after it has been written. -/
def readBack (c : Char) : Char :=
  if c.toNat = 0xa5 then '\\'
  else if c.toNat = 0x203e then '~'
  else if c.toNat = 0x2212 then '－'
  else c

variable {c : Char} {cs : List Char} {bytes : List UInt8} {pointer : Nat}

theorem readBack_of_not_isMerged (h : ¬IsMerged c) : readBack c = c := by
  unfold IsMerged at h
  rw [readBack, if_neg (by omega), if_neg (by omega), if_neg (by omega)]

theorem readBack_eq_self_iff : readBack c = c ↔ ¬IsMerged c := by
  refine ⟨fun h hmerged => ?_, readBack_of_not_isMerged⟩
  -- none of the three is what it is read as
  have hne : (readBack c).toNat ≠ c.toNat := by
    rcases hmerged with hc | hc | hc <;> simp [readBack, hc]
  exact hne (congrArg Char.toNat h)

theorem map_readBack_eq_self_iff : cs.map readBack = cs ↔ ∀ c ∈ cs, ¬IsMerged c := by
  have hmap : cs.map readBack = cs.map id ↔ ∀ c ∈ cs, readBack c = c := List.map_inj_left
  simpa only [List.map_id, readBack_eq_self_iff] using hmap

/-! ## The index -/

/-- Whether a code is of no character that is merged or user-defined. -/
def isProper (code : Nat) : Bool :=
  !(code.beq 0xa5 || code.beq 0x203e || code.beq 0x2212 || (Nat.ble 0xe000 code && code.ble 0xe757))

theorem of_isProper {code : Nat} (h : isProper code) :
    ¬(code = 0xa5 ∨ code = 0x203e ∨ code = 0x2212) ∧ ¬(0xe000 ≤ code ∧ code ≤ 0xe757) := by
  simpa only [isProper, Bool.not_eq_true', ← Bool.not_eq_true, Bool.or_eq_true, Bool.and_eq_true, Nat.beq_eq,
    Nat.ble_eq, not_or, or_assoc, and_assoc] using h

theorem check_proper : (jis0208.codes 0 11104).all isProper := by
  decide +kernel

/-- The pointers that reading takes for user-defined ones stand for nothing in the index. -/
theorem check_block : (jis0208.codes 8836 1880).all (Nat.beq 0) := by
  decide +kernel

/-- The characters of the pointers that are not written have later ones, in the same order but for one change. -/
theorem check_repeated : ((jis0208.codes 8272 360).filter (Nat.blt 0)).isSublist (jis0208.codes 10716 388) ∧
    ((jis0208.codes 8632 204).filter (Nat.blt 0)).isSublist (jis0208.codes 10716 388) := by
  decide +kernel

theorem size_jis0208 : jis0208.size = 11104 := by
  decide +kernel

theorem not_isMerged_of_char? (h : jis0208.char? pointer = some c) : ¬IsMerged c ∧ ¬IsUserDefined c := by
  have hlt := CodeIndex.lt_size_of_char? h
  have hmem := CodeIndex.code_mem_codes (n := 11104) (Nat.zero_le pointer) (by rwa [size_jis0208] at hlt) hlt
  obtain ⟨hmerged, huser⟩ := of_isProper (List.all_eq_true.1 check_proper _ hmem)
  have htoNat := CodeIndex.toNat_of_char? h
  unfold IsMerged IsUserDefined
  omega

theorem outside_of_char? (h : jis0208.char? pointer = some c) : ¬(8836 ≤ pointer ∧ pointer ≤ 10715) := by
  rintro ⟨hle, hge⟩
  have hmem := CodeIndex.code_mem_codes hle (show pointer < 8836 + 1880 by omega) (CodeIndex.lt_size_of_char? h)
  have hzero := Nat.eq_of_beq_eq_true (List.all_eq_true.1 check_block _ hmem)
  exact (CodeIndex.char?_eq_some h).1 hzero.symm

/-- Every character of the index has a pointer that it may be written with. -/
theorem exists_find?_of_char? (h : jis0208.char? pointer = some c) : ∃ q, pointers.find? c = some q := by
  by_cases hadmits : pointer < 8272 ∨ 8835 < pointer
  · exact CodeIndex.exists_find?_inverse (by simpa using hadmits) h
  · have hlt := CodeIndex.lt_size_of_char? h
    have hpos : Nat.blt 0 (jis0208.code pointer) :=
      Nat.ble_eq_true_of_le (Nat.pos_of_ne_zero (CodeIndex.char?_eq_some h).1)
    obtain ⟨hfirst, hsecond⟩ := check_repeated
    have hlater : jis0208.code pointer ∈ jis0208.codes 10716 388 := by
      by_cases hkanji : pointer < 8632
      · have hmem : jis0208.code pointer ∈ jis0208.codes 8272 360 :=
          CodeIndex.code_mem_codes (by omega) (by omega) hlt
        exact (List.isSublist_iff_sublist.1 hfirst).subset (List.mem_filter.2 ⟨hmem, hpos⟩)
      · have hmem : jis0208.code pointer ∈ jis0208.codes 8632 204 :=
          CodeIndex.code_mem_codes (by omega) (by omega) hlt
        exact (List.isSublist_iff_sublist.1 hsecond).subset (List.mem_filter.2 ⟨hmem, hpos⟩)
    obtain ⟨later, hle, hcode⟩ := CodeIndex.exists_of_mem_codes hlater
    have hchar : jis0208.char? later = some c := (CodeIndex.char?_congr hcode).trans h
    exact CodeIndex.exists_find?_inverse (by simp; omega) hchar

/-! ## Reading what is written -/

theorem decode_single {b : UInt8} (h : single? b.toNat = some c) (rest : List UInt8) :
    decode (b :: rest) = (decode rest).map (c :: ·) := by
  rw [decode.eq_def]
  simp only [h]

theorem decode_two {lead trail : UInt8} (hlead : single? lead.toNat = none)
    (h : (pointer? lead.toNat trail.toNat).bind ofPointer? = some c) (rest : List UInt8) :
    decode (lead :: trail :: rest) = (decode rest).map (c :: ·) := by
  rw [decode.eq_def]
  simp only [hlead, h]

theorem toNat_byte {n : Nat} (h : n < 256) : (UInt8.ofNat n).toNat = n :=
  UInt8.toNat_ofNat_of_lt' h

theorem single?_lead {row lead : Nat} (hrow : row < 60)
    (hlead : lead = row + if row < 0x1f then 0x81 else 0xc1) : single? lead = none := by
  split at hlead <;> rw [single?, if_neg (by omega), if_neg (by omega)]

theorem pointer?_pair {row cell lead trail : Nat} (hrow : row < 60) (hcell : cell < 188)
    (hlead : lead = row + if row < 0x1f then 0x81 else 0xc1)
    (htrail : trail = cell + if cell < 0x3f then 0x40 else 0x41) :
    pointer? lead trail = some (row * 188 + cell) := by
  unfold pointer?
  split at hlead <;> split at htrail <;> subst hlead htrail <;>
    simp (disch := omega) only [if_pos, if_neg, Nat.add_sub_cancel]

/-- The bytes of a pointer are a lead and a trail byte that give the pointer. -/
theorem exists_pair (hlt : pointer < 11280) : ∃ lead trail : UInt8, pair pointer = [lead, trail] ∧
    single? lead.toNat = none ∧ pointer? lead.toNat trail.toNat = some pointer := by
  have hrow : pointer / 188 < 60 := by omega
  have hcell : pointer % 188 < 188 := Nat.mod_lt _ (by decide)
  have hlead : (UInt8.ofNat (pointer / 188 + if pointer / 188 < 0x1f then 0x81 else 0xc1)).toNat = _ :=
    toNat_byte (by split <;> omega)
  have htrail : (UInt8.ofNat (pointer % 188 + if pointer % 188 < 0x3f then 0x40 else 0x41)).toNat = _ :=
    toNat_byte (by split <;> omega)
  refine ⟨_, _, rfl, single?_lead hrow hlead, ?_⟩
  rw [pointer?_pair hrow hcell hlead htrail, Nat.div_add_mod']

theorem decode_pair (hlt : pointer < 11280) (h : ofPointer? pointer = some c) (rest : List UInt8) :
    decode (pair pointer ++ rest) = (decode rest).map (c :: ·) := by
  obtain ⟨lead, trail, hpair, hlead, hpointer⟩ := exists_pair hlt
  rw [hpair]
  exact decode_two hlead (by rw [hpointer]; exact h) rest

theorem decode_found (h : pointers.find? c = some pointer) (rest : List UInt8) :
    decode (pair pointer ++ rest) = (decode rest).map (c :: ·) := by
  obtain ⟨_, hchar⟩ := CodeIndex.find?_inverse_eq_some h
  have hlt := CodeIndex.lt_size_of_char? hchar
  rw [size_jis0208] at hlt
  exact decode_pair (by omega) (by rw [ofPointer?, if_neg (outside_of_char? hchar), hchar]) rest

theorem single?_ascii (h : c.toNat ≤ 0x80) : single? (UInt8.ofNat c.toNat).toNat = some c := by
  rw [toNat_byte (by omega), single?, if_pos h, Char.ofNat_toNat]

theorem single?_katakana (hle : 0xff61 ≤ c.toNat) (hge : c.toNat ≤ 0xff9f) :
    single? (UInt8.ofNat (c.toNat - 0xff61 + 0xa1)).toNat = some c := by
  rw [toNat_byte (by omega), single?, if_neg (by omega), if_pos (by omega)]
  have hcode : 0xff61 + (c.toNat - 0xff61 + 0xa1 - 0xa1) = c.toNat := by omega
  rw [hcode, Char.ofNat_toNat]

/-- A character is written as the byte or the pointer of what it is read back as. -/
theorem encodeChar_cases (h : encodeChar c = some bytes) :
    (∃ b : UInt8, bytes = [b] ∧ single? b.toNat = some (readBack c)) ∨
      ∃ pointer, bytes = pair pointer ∧ pointers.find? (readBack c) = some pointer := by
  by_cases hmerged : IsMerged c
  · unfold readBack
    rcases hmerged with hc | hc | hc
    · obtain rfl : [0x5c] = bytes := by simpa [encodeChar, hc] using h
      exact .inl ⟨0x5c, rfl, by rw [if_pos hc]; rfl⟩
    · obtain rfl : [0x7e] = bytes := by simpa [encodeChar, hc] using h
      exact .inl ⟨0x7e, rfl, by rw [if_neg (by omega), if_pos hc]; rfl⟩
    · rw [if_neg (by omega), if_neg (by omega), if_pos hc]
      obtain ⟨pointer, hpointer, rfl⟩ : ∃ pointer, pointers.find? '－' = some pointer ∧ pair pointer = bytes := by
        simpa [encodeChar, hc] using h
      exact .inr ⟨pointer, rfl, hpointer⟩
  · rw [readBack_of_not_isMerged hmerged]
    unfold IsMerged at hmerged
    simp only [encodeChar] at h
    rw [if_neg (show ¬c.toNat = 0xa5 by omega), if_neg (show ¬c.toNat = 0x203e by omega),
      if_neg (show ¬c.toNat = 0x2212 by omega)] at h
    split at h
    · rename_i hascii
      exact .inl ⟨_, (Option.some.inj h).symm, single?_ascii hascii⟩
    split at h
    · rename_i hkatakana
      exact .inl ⟨_, (Option.some.inj h).symm, single?_katakana hkatakana.1 hkatakana.2⟩
    · obtain ⟨pointer, hpointer, rfl⟩ := Option.map_eq_some_iff.1 h
      exact .inr ⟨pointer, rfl, hpointer⟩

/-- A character that is written is read back, in front of all that follows. -/
theorem decode_encodeChar (h : encodeChar c = some bytes) (rest : List UInt8) :
    decode (bytes ++ rest) = (decode rest).map (readBack c :: ·) := by
  obtain ⟨b, rfl, hb⟩ | ⟨pointer, rfl, hpointer⟩ := encodeChar_cases h
  · exact decode_single hb rest
  · exact decode_found hpointer rest

/-- Text that is written is read back, each character as what it is read back as. -/
theorem decode_encode (h : encode cs = some bytes) : decode bytes = some (cs.map readBack) := by
  induction cs generalizing bytes with
  | nil =>
    obtain rfl : [] = bytes := by simpa [encode, encodeEach] using h
    rfl
  | cons c cs ih =>
    simp only [encode, encodeEach] at h
    split at h
    · rename_i first rest hfirst hrest
      obtain rfl := Option.some.inj h
      rw [decode_encodeChar hfirst, ih hrest, List.map_cons]
      rfl
    · cases h

/-! ## Writing what is read -/

/-- A character can be written if it stands alone when it is read, or has a pointer. -/
theorem exists_encodeChar (hmerged : ¬IsMerged c)
    (h : c.toNat ≤ 0x80 ∨ 0xff61 ≤ c.toNat ∧ c.toNat ≤ 0xff9f ∨ ∃ q, pointers.find? c = some q) :
    ∃ b, encodeChar c = some b := by
  unfold IsMerged at hmerged
  simp only [encodeChar]
  split
  · exact ⟨_, rfl⟩
  rw [if_neg (by omega), if_neg (by omega)]
  split
  · exact ⟨_, rfl⟩
  rw [if_neg (by omega)]
  obtain hascii | hkatakana | ⟨q, hq⟩ := h
  · contradiction
  · contradiction
  · exact ⟨_, by rw [hq]; rfl⟩

/-- A character that is merged can be written, with the bytes of the other one. -/
theorem exists_encodeChar_of_isMerged (h : IsMerged c) : ∃ b, encodeChar c = some b := by
  simp only [encodeChar]
  rcases h with hc | hc | hc
  · exact ⟨_, by simp [hc]; rfl⟩
  · exact ⟨_, by simp [hc]; rfl⟩
  · have hminus : jis0208.char? 60 = some '－' := by decide +kernel
    obtain ⟨q, hq⟩ := exists_find?_of_char? hminus
    exact ⟨_, by simp [hc, hq]; rfl⟩

theorem encodeChar_of_isUserDefined (h : IsUserDefined c) : encodeChar c = none := by
  have hfind : pointers.find? c = none := by
    cases hq : pointers.find? c with
    | none => rfl
    | some q => exact absurd h (not_isMerged_of_char? (CodeIndex.find?_inverse_eq_some hq).2).2
  unfold IsUserDefined at h
  simp only [encodeChar]
  rw [if_neg (by omega), if_neg (by omega), if_neg (by omega), if_neg (by omega), if_neg (by omega), hfind]
  rfl

/-- A byte that stands alone is read as a character that can be written. -/
theorem writable_of_single? {b : Nat} (h : single? b = some c) :
    ¬IsMerged c ∧ ∃ bytes, encodeChar c = some bytes := by
  have hc : c.toNat ≤ 0x80 ∨ 0xff61 ≤ c.toNat ∧ c.toNat ≤ 0xff9f := by
    unfold single? at h
    split at h
    · obtain rfl := Option.some.inj h
      left
      rwa [toNat_ofNat (.inl (by omega))]
    split at h
    · obtain rfl := Option.some.inj h
      right
      rw [toNat_ofNat (.inr (by omega))]
      omega
    · cases h
  have hmerged : ¬IsMerged c := by
    unfold IsMerged
    omega
  exact ⟨hmerged, exists_encodeChar hmerged (hc.imp_right .inl)⟩

/-- A pointer is read as a character of the user-defined block or as one that can be written. -/
theorem writable_of_ofPointer? (h : ofPointer? pointer = some c) :
    IsUserDefined c ∨ ¬IsMerged c ∧ ∃ bytes, encodeChar c = some bytes := by
  unfold ofPointer? at h
  split at h
  · obtain rfl := Option.some.inj h
    left
    unfold IsUserDefined
    rw [toNat_ofNat (.inr (by omega))]
    omega
  · obtain ⟨hmerged, _⟩ := not_isMerged_of_char? h
    obtain ⟨q, hq⟩ := exists_find?_of_char? h
    exact .inr ⟨hmerged, exists_encodeChar hmerged (.inr (.inr ⟨q, hq⟩))⟩

/-- Every character that is read is of the user-defined block or can be written. -/
theorem writable_of_decode (h : decode bytes = some cs) :
    ∀ c ∈ cs, IsUserDefined c ∨ ¬IsMerged c ∧ ∃ bytes, encodeChar c = some bytes := by
  fun_induction decode bytes generalizing cs with
  | case1 =>
    obtain rfl := Option.some.inj h
    simp
  | case2 b rest c hc ih =>
    obtain ⟨cs, hcs, rfl⟩ := Option.map_eq_some_iff.1 h
    exact List.forall_mem_cons.2 ⟨.inr (writable_of_single? hc), ih hcs⟩
  | case3 | case5 => cases h
  | case4 b _ trail rest c hc ih =>
    obtain ⟨cs, hcs, rfl⟩ := Option.map_eq_some_iff.1 h
    obtain ⟨pointer, _, hpointer⟩ := Option.bind_eq_some_iff.1 hc
    exact List.forall_mem_cons.2 ⟨writable_of_ofPointer? hpointer, ih hcs⟩

/-- What is read can be written, and then read again, if it holds no character of the user-defined block. -/
theorem encode_of_decode (h : decode bytes = some cs) (huser : ∀ c ∈ cs, ¬IsUserDefined c) :
    ∃ out, encode cs = some out ∧ decode out = some cs := by
  have hwritable : ∀ c ∈ cs, ¬IsMerged c ∧ ∃ bytes, encodeChar c = some bytes := fun c hc =>
    (writable_of_decode h c hc).resolve_left (huser c hc)
  obtain ⟨out, hout⟩ := exists_encodeEach fun c hc => (hwritable c hc).2
  have hsame := map_readBack_eq_self_iff.2 fun c hc => (hwritable c hc).1
  exact ⟨out, hout, by rw [decode_encode hout, hsame]⟩

/-- The characters that can be written: the merged ones, and those that can be read and are not
user-defined. -/
def Writable (c : Char) : Prop :=
  IsMerged c ∨ ¬IsUserDefined c ∧ ∃ bytes, decode bytes = some [c]

theorem exists_encodeChar_iff : (∃ bytes, encodeChar c = some bytes) ↔ Writable c := by
  constructor
  · rintro ⟨bytes, hbytes⟩
    by_cases hmerged : IsMerged c
    · exact .inl hmerged
    · refine .inr ⟨fun huser => ?_, bytes, ?_⟩
      · cases hbytes.symm.trans (encodeChar_of_isUserDefined huser)
      · have hdecode := decode_encodeChar hbytes []
        rwa [List.append_nil, readBack_of_not_isMerged hmerged] at hdecode
  · rintro (hmerged | ⟨huser, bytes, hdecode⟩)
    · exact exists_encodeChar_of_isMerged hmerged
    · have hwritable := writable_of_decode hdecode c List.mem_cons_self
      exact (hwritable.resolve_left huser).2

theorem not_writable_of_isUserDefined (h : IsUserDefined c) : ¬Writable c := by
  rintro (hmerged | ⟨huser, _⟩)
  · unfold IsUserDefined at h
    unfold IsMerged at hmerged
    omega
  · exact huser h

/-- Text can be written just if each of its characters can. -/
theorem exists_encode_iff : (∃ bytes, encode cs = some bytes) ↔ ∀ c ∈ cs, Writable c := by
  simp only [← exists_encodeChar_iff]
  exact exists_encodeEach_iff

end ChunkTree.Text.ShiftJis
