import Mathlib.Tactic.Ring
import ChunkTree.Binary.Varint
import ChunkTree.Proofs.Cursor

/-!
# Varints are read back

Reading takes exactly the bytes that writing a word gives (`takes_parse`), as many as `size` says
(`length_encode`).  Lengths and counts survive below `2 ^ 32`.
-/

namespace ChunkTree.Varint

open Parse (Takes)

theorem length_groups (k n : Nat) : (groups k n).length = k + 1 := by
  induction k with
  | zero => rfl
  | succ k ih => simp [groups, ih]

theorem size_pos (v : UInt32) : 0 < size v := by
  unfold size
  repeat' split
  all_goals omega

@[simp] theorem length_encode (v : UInt32) : (encode v).length = size v := by
  have := size_pos v
  rw [encode, length_groups]
  omega

theorem encode_ne_nil (v : UInt32) : encode v ≠ [] := by
  rw [← List.length_pos_iff, length_encode]
  exact size_pos v

@[simp] theorem length_encodeLength (n : Nat) : (encodeLength n).length = lengthSize n :=
  length_encode _

theorem length_flatMap_encode (vs : List UInt32) : (vs.flatMap encode).length = totalSize vs := by
  induction vs with
  | nil => rfl
  | cons v vs ih => simp [totalSize, ih]

theorem length_le_totalSize (vs : List UInt32) : vs.length ≤ totalSize vs := by
  induction vs with
  | nil => exact le_refl _
  | cons v vs ih =>
    have := size_pos v
    rw [totalSize, List.length_cons]
    omega

/-- A word has no more groups than are written. -/
theorem toNat_lt_pow_size (v : UInt32) : v.toNat < 128 ^ size v := by
  have := v.toNat_lt
  unfold size
  repeat' split
  all_goals simp_all [UInt32.lt_iff_toNat_lt]
  omega

private theorem ofNat_group {n : Nat} (h : n < 256) : (UInt8.ofNat n).toNat = n := by
  rw [UInt8.toNat_ofNat']
  exact Nat.mod_eq_of_lt h

/-- Reading groups appends them to the number gathered so far. -/
theorem accumulate_groups (start : Nat) (rest : List UInt8) (k n : Nat) :
    ∀ acc pos, acc * 128 ^ (k + 1) + n % 128 ^ (k + 1) < 0x100000000 →
      accumulate start acc pos (groups k n ++ rest) =
        .ok (UInt32.ofNat (acc * 128 ^ (k + 1) + n % 128 ^ (k + 1))) ⟨pos + (k + 1), rest⟩ := by
  induction k with
  | zero =>
    intro acc pos h
    have hb : (UInt8.ofNat (n % 128)).toNat = n % 128 := ofNat_group (by omega)
    have hlast : UInt8.ofNat (n % 128) < 0x80 := by
      rw [UInt8.lt_iff_toNat_lt, hb]
      exact Nat.mod_lt _ (by decide)
    simp only [Nat.zero_add, Nat.pow_one] at h ⊢
    simp only [groups, List.cons_append, List.nil_append, accumulate, hb, Nat.mod_mod]
    rw [if_neg (by omega), if_pos hlast]
  | succ k ih =>
    intro acc pos h
    have hb : (UInt8.ofNat (n / 128 ^ (k + 1) % 128 + 128)).toNat = n / 128 ^ (k + 1) % 128 + 128 :=
      ofNat_group (by omega)
    have hmore : ¬UInt8.ofNat (n / 128 ^ (k + 1) % 128 + 128) < 0x80 := by
      rw [UInt8.lt_iff_toNat_lt, hb]
      have : (0x80 : UInt8).toNat = 128 := rfl
      omega
    -- the first group is the part of the number above all others
    have hsplit : acc * 128 ^ (k + 1 + 1) + n % 128 ^ (k + 1 + 1) =
        (acc * 128 + n / 128 ^ (k + 1) % 128) * 128 ^ (k + 1) + n % 128 ^ (k + 1) := by
      rw [Nat.mod_pow_succ, Nat.pow_succ 128 (k + 1)]
      ring
    rw [hsplit] at h ⊢
    have hacc : acc * 128 + n / 128 ^ (k + 1) % 128 < 0x100000000 := by
      have := Nat.le_mul_of_pos_right (acc * 128 + n / 128 ^ (k + 1) % 128)
        (Nat.pow_pos (n := k + 1) (show 0 < 128 by decide))
      omega
    have hgroup : (n / 128 ^ (k + 1) % 128 + 128) % 128 = n / 128 ^ (k + 1) % 128 := by omega
    simp only [groups, List.cons_append, accumulate, Nat.pow_eq, hb, hgroup]
    rw [if_neg (by omega), if_neg hmore, ih _ _ h]
    simp [Nat.add_comm, Nat.add_left_comm]

theorem takes_parse (pos : Nat) (v : UInt32) : parse.Takes pos (encode v) v := by
  intro rest
  have hk : size v - 1 + 1 = size v := Nat.sub_add_cancel (size_pos v)
  have hv : v.toNat % 128 ^ size v = v.toNat := Nat.mod_eq_of_lt (toNat_lt_pow_size v)
  have h := accumulate_groups pos rest (size v - 1) v.toNat 0 pos
  rw [hk, hv, Nat.zero_mul, Nat.zero_add, UInt32.ofNat_toNat] at h
  rw [length_encode]
  exact h v.toNat_lt

theorem takes_parseSigned (pos : Nat) (n : Int32) : parseSigned.Takes pos (encodeSigned n) n :=
  (takes_parse pos n.toUInt32).map UInt32.toInt32

/-- Only the lowest 32 bits of a length are written. -/
theorem takes_parseLength_mod (pos n : Nat) : parseLength.Takes pos (encodeLength n) (n % 0x100000000) := by
  have h := (takes_parse pos (UInt32.ofNat n)).map UInt32.toNat
  rwa [UInt32.toNat_ofNat'] at h

theorem takes_parseLength (pos : Nat) {n : Nat} (h : n < 0x100000000) :
    parseLength.Takes pos (encodeLength n) n := by
  have hmod := takes_parseLength_mod pos n
  rwa [Nat.mod_eq_of_lt h] at hmod

theorem parseLength_eq_ok {c c' : Cursor} {n : Nat} :
    parseLength c = .ok n c' ↔ ∃ v, parse c = .ok v c' ∧ v.toNat = n := by
  rw [parseLength, Parse.bind_eq_ok]
  simp only [Parse.pure_eq_ok]
  constructor
  · rintro ⟨v, d, hv, rfl, rfl⟩
    exact ⟨v, hv, rfl⟩
  · rintro ⟨v, hv, rfl⟩
    exact ⟨v, c', hv, rfl, rfl⟩

end ChunkTree.Varint
