import Mathlib.Data.List.Basic
import Std.Data.HashMap.Lemmas
import ChunkTree.Text.CodeIndex

/-!
# Searching a character index

Turning an index round is searching it: the pointer that is found for a character is the first admitted one that
stands for it (`CodeIndex.find?_inverse`).  So a character is found just if an admitted pointer stands for it
(`CodeIndex.find?_inverse_eq_some`, `CodeIndex.exists_find?_inverse`).  `CodeIndex.codes` lists the codes of a
stretch of pointers, so that facts about all of them can be computed.
-/

namespace ChunkTree.Text

theorem toNat_ofNat {n : Nat} (h : n.isValidChar) : (Char.ofNat n).toNat = n := by
  rw [Char.ofNat, dif_pos h]
  rfl

namespace CodeIndex

variable {index : CodeIndex} {admits : Nat → Bool} {pointer : Nat} {c : Char}

/-! ## The first pointer of a character -/

/-- Whether a pointer may be entered for a character. -/
def standsFor (index : CodeIndex) (admits : Nat → Bool) (c : Char) (pointer : Nat) : Bool :=
  admits pointer && index.char? pointer == some c

theorem standsFor_iff : index.standsFor admits c pointer ↔ admits pointer ∧ index.char? pointer = some c := by
  simp [standsFor]

theorem getElem?_enter (entries : Pointers) (pointer : Nat) (c : Char) :
    (index.enter admits entries pointer)[c.toNat]? =
      (entries[c.toNat]?).or (if index.standsFor admits c pointer then some pointer else none) := by
  unfold enter standsFor
  split
  · rename_i d hd
    split
    · rename_i hadmits
      rw [Std.HashMap.getElem?_insertIfNew, hadmits, hd]
      by_cases hdc : d = c
      · subst hdc
        cases hentry : entries[d.toNat]? with
        | none => simp [← Std.HashMap.isSome_getElem?_iff_mem, hentry]
        | some q => simp [← Std.HashMap.isSome_getElem?_iff_mem, hentry]
      · have hne : d.toNat ≠ c.toNat := fun h => hdc (Char.toNat_inj.1 h)
        simp [hdc, hne]
    · rename_i hadmits
      simp [hadmits]
  · rename_i hnone
    simp [hnone]

/-- Pointers that are entered one after the other: an earlier entry stays, and else the first one counts. -/
theorem getElem?_foldl_enter (pointers : List Nat) (entries : Pointers) (c : Char) :
    (pointers.foldl (index.enter admits) entries)[c.toNat]? =
      (entries[c.toNat]?).or (pointers.find? (index.standsFor admits c)) := by
  induction pointers generalizing entries with
  | nil => simp
  | cons pointer pointers ih =>
    rw [List.foldl_cons, ih, getElem?_enter, Option.or_assoc, List.find?_cons]
    cases index.standsFor admits c pointer <;> rfl

/-- What is found for a character is the first admitted pointer that stands for it. -/
theorem find?_inverse (index : CodeIndex) (admits : Nat → Bool) (c : Char) :
    (index.inverse admits).find? c = (List.range index.size).find? (index.standsFor admits c) := by
  show ((List.range index.size).foldl (index.enter admits) ∅)[c.toNat]? = _
  rw [getElem?_foldl_enter, Std.HashMap.getElem?_empty, Option.none_or]

theorem find?_inverse_eq_some (h : (index.inverse admits).find? c = some pointer) :
    admits pointer ∧ index.char? pointer = some c := by
  rw [find?_inverse] at h
  exact standsFor_iff.1 (List.find?_some h)

/-! ## Codes outside the table -/

theorem code_of_size_le (h : index.size ≤ pointer) : index.code pointer = 0 := by
  have hrow : index.rows.size ≤ pointer / 16 := by
    unfold size at h
    omega
  rw [code, Array.getD_eq_getD_getElem?, Array.getElem?_eq_none hrow, Option.getD_none, Nat.zero_shiftRight,
    Nat.zero_mod]

theorem char?_eq_some (h : index.char? pointer = some c) :
    index.code pointer ≠ 0 ∧ Char.ofNat (index.code pointer) = c := by
  unfold char? at h
  split at h
  · cases h
  · rename_i code hcode
    rw [hcode]
    exact ⟨Nat.succ_ne_zero code, Option.some.inj h⟩

theorem char?_congr {other : Nat} (h : index.code pointer = index.code other) :
    index.char? pointer = index.char? other := by
  rw [char?, char?, h]

/-- The code of a character is its code point, unless it has the code of no character and stands for zero. -/
theorem toNat_of_char? (h : index.char? pointer = some c) : c.toNat = index.code pointer ∨ c.toNat = 0 := by
  obtain ⟨_, rfl⟩ := char?_eq_some h
  by_cases hvalid : (index.code pointer).isValidChar
  · exact .inl (toNat_ofNat hvalid)
  · exact .inr (by rw [Char.ofNat, dif_neg hvalid]; rfl)

theorem lt_size_of_char? (h : index.char? pointer = some c) : pointer < index.size := by
  by_contra hle
  exact (char?_eq_some h).1 (code_of_size_le (Nat.not_lt.1 hle))

/-- A character with an admitted pointer is found. -/
theorem exists_find?_inverse (hadmits : admits pointer) (h : index.char? pointer = some c) :
    ∃ q, (index.inverse admits).find? c = some q := by
  rw [find?_inverse, ← Option.isSome_iff_exists, List.find?_isSome]
  exact ⟨pointer, List.mem_range.2 (lt_size_of_char? h), standsFor_iff.2 ⟨hadmits, h⟩⟩

/-! ## The codes of a table in order -/

/-- The codes in a row. -/
def rowCodes (width row : Nat) : List Nat :=
  (List.range 16).map fun i => (row >>> (width * (15 - i))) % Nat.pow 2 width

theorem length_rowCodes (width row : Nat) : (rowCodes width row).length = 16 := by
  rw [rowCodes, List.length_map, List.length_range]

theorem getElem?_flatMap_rowCodes (width : Nat) (rows : List Nat) (i : Nat) :
    (rows.flatMap (rowCodes width))[i]? =
      rows[i / 16]?.map fun row => (row >>> (width * (15 - i % 16))) % Nat.pow 2 width := by
  induction rows generalizing i with
  | nil => simp
  | cons row rows ih =>
    rw [List.flatMap_cons]
    by_cases hi : i < 16
    · rw [List.getElem?_append_left (by rwa [length_rowCodes])]
      simp [rowCodes, Nat.div_eq_of_lt hi, Nat.mod_eq_of_lt hi, hi]
    · obtain ⟨j, rfl⟩ := Nat.exists_eq_add_of_le (Nat.not_lt.1 hi)
      rw [List.getElem?_append_right (by rw [length_rowCodes]; omega), length_rowCodes,
        Nat.add_sub_cancel_left, ih, Nat.add_div_left j (by decide), Nat.add_mod_left,
        List.getElem?_cons_succ]

/-- The codes of `n` pointers from `start` on. -/
def codes (index : CodeIndex) (start n : Nat) : List Nat :=
  (((index.rows.toList.drop (start / 16)).flatMap (rowCodes index.width)).drop (start % 16)).take n

theorem getElem?_codes {start n i : Nat} (hi : i < n) :
    (index.codes start n)[i]? = if start + i < index.size then some (index.code (start + i)) else none := by
  have hdiv : start / 16 + (start % 16 + i) / 16 = (start + i) / 16 := by omega
  have hmod : (start % 16 + i) % 16 = (start + i) % 16 := by omega
  rw [codes, List.getElem?_take_of_lt hi, List.getElem?_drop, getElem?_flatMap_rowCodes, List.getElem?_drop,
    hdiv, hmod, Array.getElem?_toList, code, Array.getD_eq_getD_getElem?]
  unfold size
  split
  · rw [Array.getElem?_eq_getElem (by omega)]
    rfl
  · rw [Array.getElem?_eq_none (by omega)]
    rfl

theorem code_mem_codes {start n : Nat} (hstart : start ≤ pointer) (hlt : pointer < start + n)
    (hsize : pointer < index.size) : index.code pointer ∈ index.codes start n := by
  obtain ⟨i, rfl⟩ := Nat.exists_eq_add_of_le hstart
  have hi : i < n := by omega
  exact List.mem_of_getElem? ((getElem?_codes hi).trans (if_pos hsize))

theorem exists_of_mem_codes {start n x : Nat} (h : x ∈ index.codes start n) :
    ∃ pointer, start ≤ pointer ∧ index.code pointer = x := by
  obtain ⟨i, hi⟩ := List.mem_iff_getElem?.1 h
  have hn : i < n := by
    have hlength := (List.getElem?_eq_some_iff.1 hi).1
    rw [codes, List.length_take] at hlength
    omega
  rw [getElem?_codes hn] at hi
  split at hi
  · exact ⟨start + i, Nat.le_add_right start i, Option.some.inj hi⟩
  · cases hi

end CodeIndex

end ChunkTree.Text
