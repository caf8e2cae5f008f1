import ChunkTree.Binary.Reader
import ChunkTree.Proofs.VarintForms

/-!
# The shortest form of a varint

Groups are determined by the number they stand for and by how many they are (`eq_groups`), and a word has no form
with fewer groups than `size` (`size_le`).  So the form that is written is the only one of its length, and every
other one is longer (`eq_encode_or_longer`).

A reader ends a varint with the first byte below `0x80` (`Ended`).  The number that the bytes up to there stand
for decides whether it is read (`run_of_ended`) and, when there is no such end, the number that all of them
stand for decides which error is answered (`run_of_not_ended`).  A register of 64 bits is enough to gather it
(`accumulate64_eq`).
-/

namespace ChunkTree

namespace Varint

/-- The bytes are those up to and including the first one below `0x80`. -/
def Ended (bytes : List UInt8) : Prop :=
  ∃ front last, bytes = front ++ [last] ∧ Continued front ∧ last < 0x80

variable {bytes front used : List UInt8} {b last : UInt8} {v : UInt32} {k : Nat}

theorem spells_iff : Spells bytes v ↔ Ended bytes ∧ number bytes = v.toNat := by
  constructor
  · rintro ⟨front, last, rfl, hfront, hlast, hnumber⟩
    exact ⟨⟨front, last, rfl, hfront, hlast⟩, hnumber⟩
  · rintro ⟨⟨front, last, rfl, hfront, hlast⟩, hnumber⟩
    exact ⟨front, last, rfl, hfront, hlast, hnumber⟩

theorem number_append (front bytes : List UInt8) :
    number (front ++ bytes) = number front * 128 ^ bytes.length + number bytes := by
  induction front with
  | nil => simp [number]
  | cons b front ih =>
    rw [List.cons_append, number, number, ih, List.length_append, Nat.pow_add]
    ring

theorem number_le_append (front bytes : List UInt8) : number front ≤ number (front ++ bytes) := by
  rw [number_append]
  exact gathered_le _ _

theorem number_lt (bytes : List UInt8) : number bytes < 128 ^ bytes.length := by
  induction bytes with
  | nil => simp [number]
  | cons b bytes ih =>
    have hb : b.toNat % 128 ≤ 127 := by omega
    have := Nat.mul_le_mul_right (128 ^ bytes.length) hb
    rw [number, List.length_cons, Nat.pow_succ]
    omega

/-- Groups do not depend on what stands above them. -/
theorem groups_add (a n k : Nat) : groups k (a * 128 ^ (k + 1) + n) = groups k n := by
  induction k generalizing a with
  | zero =>
    have : (a * 128 ^ (0 + 1) + n) % 128 = n % 128 := by omega
    simp only [groups, this]
  | succ k ih =>
    have hpos : 0 < 128 ^ (k + 1) := Nat.pow_pos (by decide)
    have hsplit : a * 128 ^ (k + 1 + 1) + n = a * 128 * 128 ^ (k + 1) + n := by ring
    have hgroup : (a * 128 * 128 ^ (k + 1) + n) / 128 ^ (k + 1) % 128 = n / 128 ^ (k + 1) % 128 := by
      rw [Nat.add_comm, Nat.add_mul_div_right _ _ hpos]
      omega
    simp only [groups, Nat.pow_eq, hsplit, hgroup, ih]

/-- Bytes up to the first one below `0x80` are determined by their number and by how many they are. -/
theorem eq_groups (hfront : Continued front) (hlast : last < 0x80) :
    front ++ [last] = groups front.length (number (front ++ [last])) := by
  induction front with
  | nil =>
    have := UInt8.lt_iff_toNat_lt.1 hlast
    have hb : last.toNat % 128 % 128 = last.toNat := by
      have : (0x80 : UInt8).toNat = 128 := rfl
      omega
    simp [groups, number, hb]
  | cons b front ih =>
    obtain ⟨hb, hfront⟩ := continued_cons.1 hfront
    have hlength : (front ++ [last]).length = front.length + 1 := by simp
    have hlt := number_lt (front ++ [last])
    rw [hlength] at hlt
    have hgroup : (b.toNat % 128 * 128 ^ (front.length + 1) + number (front ++ [last])) /
        128 ^ (front.length + 1) % 128 + 128 = b.toNat := by
      have := UInt8.le_iff_toNat_le.1 hb
      have : (0x80 : UInt8).toNat = 128 := rfl
      have := b.toNat_lt
      rw [Nat.add_comm (_ * _), Nat.add_mul_div_right _ _ (Nat.pow_pos (by decide)), Nat.div_eq_of_lt hlt]
      omega
    rw [List.cons_append, List.length_cons, number, hlength, groups, groups_add, ← ih hfront, Nat.pow_eq,
      hgroup, UInt8.ofNat_toNat]

/-- A word takes no more groups than any that it fits in. -/
theorem size_le (hk : 0 < k) (hv : v.toNat < 128 ^ k) : size v ≤ k := by
  by_cases hlarge : 5 ≤ k
  · have : size v ≤ 5 := by
      unfold size
      repeat' split
      all_goals omega
    omega
  · obtain rfl | rfl | rfl | rfl : k = 1 ∨ k = 2 ∨ k = 3 ∨ k = 4 := by omega
    all_goals
      simp only [size, UInt32.lt_iff_toNat_lt]
      simp at hv ⊢
      repeat' split
    all_goals omega

theorem size_le_five (v : UInt32) : size v ≤ 5 :=
  size_le (by decide) (v.toNat_lt.trans (by decide))

/-- Of all forms of a word one is the shortest. -/
theorem Spells.eq_encode_or_longer (h : Spells used v) : used = encode v ∨ size v < used.length := by
  obtain ⟨front, last, rfl, hfront, hlast, hnumber⟩ := h
  have hgroups := eq_groups hfront hlast
  have hlt := number_lt (front ++ [last])
  rw [hnumber] at hgroups hlt
  have hsize := size_le (by simp) hlt
  rw [List.length_append, List.length_singleton] at hsize ⊢
  rcases Nat.lt_or_eq_of_le hsize with hsize | hsize
  · exact .inr hsize
  · refine .inl ?_
    rw [encode, hsize, Nat.add_sub_cancel]
    exact hgroups

/-- A varint whose number fits in 32 bits is read, with any number of zero groups in front. -/
theorem run_of_ended {r : Reader} {more : List UInt8} (hr : r.data.drop r.pos = bytes ++ more)
    (hended : Ended bytes) (hword : number bytes < 0x100000000) :
    r.run parse = (.ok (UInt32.ofNat (number bytes)), r.seek (r.pos + bytes.length)) := by
  have hspells : Spells bytes (UInt32.ofNat (number bytes)) :=
    spells_iff.2 ⟨hended, (UInt32.toNat_ofNat_of_lt' hword).symm⟩
  have hparse := parse_of_spells (c := r.cursor) more hspells hr
  rw [Reader.run, hparse]
  rfl

theorem run_of_faulty {r : Reader} {e : Error} (h : Faulty r.pos (r.data.drop r.pos) e) :
    (r.run parse).1 = .error e := by
  obtain ⟨c', hc'⟩ := parse_of_faulty (c := r.cursor) h
  rw [Reader.run, hc']

/-- Without a varint that fits in 32 bits reading fails: for too large a number as soon as the bytes that are
there stand for one, for a missing byte otherwise. -/
theorem run_of_not_ended {r : Reader}
    (hnone : ∀ bytes more, r.data.drop r.pos = bytes ++ more → Ended bytes → 0x100000000 ≤ number bytes) :
    ((∃ k, 0x100000000 ≤ number ((r.data.drop r.pos).take k)) →
        (r.run parse).1 = .error (.varintOverflow r.pos)) ∧
      ((∀ k, number ((r.data.drop r.pos).take k) < 0x100000000) →
        (r.run parse).1 = .error (.truncated 1 0)) := by
  obtain ⟨used, more, v, hr, hused⟩ | hlarge | hopen := spells_or_overflows_or_unfinished (r.data.drop r.pos)
  · obtain ⟨hended, hnumber⟩ := spells_iff.1 hused
    have := hnone used more hr hended
    have := v.toNat_lt
    omega
  · have hrun := run_of_faulty (.inl ⟨hlarge, rfl⟩)
    obtain ⟨front, next, more, hr, _, hnumber⟩ := hlarge
    refine ⟨fun _ => hrun, fun hsmall => ?_⟩
    have hk := hsmall (front ++ [next]).length
    rw [hr, show front ++ next :: more = front ++ [next] ++ more by simp, List.take_left] at hk
    omega
  · have hrun := run_of_faulty (.inr ⟨hopen, rfl⟩)
    refine ⟨?_, fun _ => hrun⟩
    rintro ⟨k, hk⟩
    have := number_le_append ((r.data.drop r.pos).take k) ((r.data.drop r.pos).drop k)
    rw [List.take_append_drop] at this
    have := hopen.2
    omega

/-- A group is shifted into the register as it is gathered. -/
private theorem toNat_register {acc : UInt64} (b : UInt8) (h : acc.toNat < 0x100000000) :
    (acc <<< 7).toNat = acc.toNat * 128 ∧
      (acc <<< 7 ||| (b &&& 0x7f).toUInt64).toNat = acc.toNat * 128 + b.toNat % 128 := by
  have hshift : (acc <<< 7).toNat = acc.toNat * 128 := by
    have : acc.toNat * 2 ^ 7 < 2 ^ 64 := by omega
    rw [UInt64.toNat_shiftLeft, show (7 : UInt64).toNat % 64 = 7 from rfl, Nat.shiftLeft_eq,
      Nat.mod_eq_of_lt this]
    rfl
  have hmask : (b &&& 0x7f).toUInt64.toNat = b.toNat % 128 := by
    rw [UInt8.toNat_toUInt64, UInt8.toNat_and]
    exact Nat.and_two_pow_sub_one_eq_mod b.toNat 7
  refine ⟨hshift, ?_⟩
  rw [UInt64.toNat_or, hshift, hmask, show acc.toNat * 128 = acc.toNat <<< 7 from (Nat.shiftLeft_eq _ 7).symm,
    Nat.shiftLeft_add_eq_or_of_lt (show b.toNat % 128 < 2 ^ 7 by omega)]

/-- A byte is below `0x80` just if its high bit is not set. -/
private theorem and_high_eq_zero (b : UInt8) : b &&& 0x80 = 0 ↔ b < 0x80 := by
  have hbits : ∀ n < 256, n &&& 128 = 0 ↔ n < 128 := by decide +kernel
  rw [← UInt8.toNat_inj, UInt8.toNat_and, UInt8.lt_iff_toNat_lt]
  exact hbits b.toNat b.toNat_lt

/-- Gathering stays within a register of 64 bits. -/
theorem accumulate64_eq (start : Nat) {acc : UInt64} (hacc : acc.toNat < 0x100000000) (pos : Nat) :
    accumulate64 start acc pos bytes = some (accumulate start acc.toNat pos bytes) := by
  induction bytes generalizing acc pos with
  | nil => rfl
  | cons b bytes ih =>
    obtain ⟨hshift, hnext⟩ := toNat_register b hacc
    have hkept : (acc <<< 7) >>> 7 = acc := by
      apply UInt64.toNat_inj.1
      rw [UInt64.toNat_shiftRight, hshift, show (7 : UInt64).toNat % 64 = 7 from rfl, Nat.shiftRight_eq_div_pow]
      omega
    have hlarge : ((0xffffffff : UInt64) < acc <<< 7 ||| (b &&& 0x7f).toUInt64) =
        (0x100000000 ≤ acc.toNat * 128 + b.toNat % 128) := by
      rw [UInt64.lt_iff_toNat_lt, hnext]
      exact propext Nat.lt_iff_add_one_le
    have hword : (acc <<< 7 ||| (b &&& 0x7f).toUInt64).toUInt32 =
        UInt32.ofNat (acc.toNat * 128 + b.toNat % 128) := by
      rw [← UInt32.toNat_inj, UInt64.toNat_toUInt32, hnext, UInt32.toNat_ofNat']
    rw [accumulate64, if_neg (not_not.2 hkept), accumulate]
    simp only [hlarge, and_high_eq_zero, hword]
    by_cases hfits : 0x100000000 ≤ acc.toNat * 128 + b.toNat % 128
    · rw [if_pos hfits, if_pos hfits]
    rw [if_neg hfits, if_neg hfits]
    by_cases hlast : b < 0x80
    · rw [if_pos hlast, if_pos hlast]
    · rw [if_neg hlast, if_neg hlast, ih (by omega), hnext]

/-- Words and varints.  A word is written as one to five bytes, and read back from them wherever they stand.
From any place of any buffer the bytes up to the first one below `0x80` are read, whatever zero groups they start
with, if their number fits in 32 bits; otherwise reading fails, with the offset of the start if the bytes that
are there stand for too large a number, for a missing byte if they do not.  64 bits are enough to gather the
number, and of all bytes that are read as a word only those that are written are shortest. -/
theorem words_and_varints :
    (∀ v : UInt32, (encode v).length = size v ∧ 1 ≤ size v ∧ size v ≤ 5) ∧
    (∀ (v : UInt32) (p q : List UInt8), (Reader.mk (p ++ encode v ++ q) p.length).run parse =
      (.ok v, ⟨p ++ encode v ++ q, p.length + size v⟩)) ∧
    (∀ (r : Reader) (g more : List UInt8), r.data.drop r.pos = g ++ more → Ended g →
      number g < 0x100000000 → r.run parse = (.ok (UInt32.ofNat (number g)), r.seek (r.pos + g.length))) ∧
    (∀ r : Reader,
      (∀ g more, r.data.drop r.pos = g ++ more → Ended g → 0x100000000 ≤ number g) →
      ((∃ k, 0x100000000 ≤ number ((r.data.drop r.pos).take k)) →
        (r.run parse).1 = .error (.varintOverflow r.pos)) ∧
      ((∀ k, number ((r.data.drop r.pos).take k) < 0x100000000) →
        (r.run parse).1 = .error (.truncated 1 0))) ∧
    (∀ r : Reader, accumulate64 r.pos 0 r.pos (r.data.drop r.pos) = some (parse r.cursor)) ∧
    (∀ (v : UInt32) (s : List UInt8), ((Reader.mk s 0).run parse).1 = .ok v →
      s = encode v ∨ (encode v).length < s.length) := by
  refine ⟨fun v => ⟨length_encode v, size_pos v, size_le_five v⟩, fun v p q => ?_,
    fun r g more hr hended hword => run_of_ended hr hended hword, fun r hnone => run_of_not_ended hnone,
    fun r => accumulate64_eq r.pos (by decide) r.pos, fun v s hs => ?_⟩
  · have hcursor : (Reader.mk (p ++ encode v ++ q) p.length).cursor = ⟨p.length, encode v ++ q⟩ := by
      rw [Reader.cursor, List.append_assoc, List.drop_left]
    rw [Reader.run, hcursor, takes_parse p.length v q, length_encode]
    rfl
  · obtain ⟨c, hc⟩ : ∃ c, parse ⟨0, s⟩ = .ok v c := by
      rw [Reader.run, show (Reader.mk s 0).cursor = ⟨0, s⟩ from rfl] at hs
      cases h : parse ⟨0, s⟩ with
      | ok w c => exact ⟨c, by rw [h] at hs; simpa using hs⟩
      | error e c => simp [h] at hs
    obtain ⟨used, hused, hrest, _⟩ := parse_eq_ok.1 hc
    have hlength : s.length = used.length + c.rest.length := by
      rw [← List.length_append]
      exact congrArg List.length hrest
    rcases hused.eq_encode_or_longer with rfl | hlonger
    · by_cases hmore : c.rest = []
      · exact .inl (by simpa [hmore] using hrest)
      · have := List.length_pos_iff.2 hmore
        exact .inr (by omega)
    · rw [length_encode]
      exact .inr (by omega)

/-- Two zero groups in front of 128, and a number of 33 bits. -/
theorem words_and_varints_padded :
    (Reader.mk [0x07, 0x80, 0x80, 0x81, 0x00, 0xff] 1).run parse =
        (.ok 128, ⟨[0x07, 0x80, 0x80, 0x81, 0x00, 0xff], 5⟩) ∧
      ((Reader.mk [0x90, 0x80, 0x80, 0x80, 0x80] 0).run parse).1 = .error (.varintOverflow 0) := by
  obtain ⟨_, _, hread, hfail, _⟩ := words_and_varints
  refine ⟨?_, ?_⟩
  · refine hread ⟨[0x07, 0x80, 0x80, 0x81, 0x00, 0xff], 1⟩ [0x80, 0x80, 0x81, 0x00] [0xff] rfl ?_ (by decide)
    exact ⟨[0x80, 0x80, 0x81], 0x00, rfl, by simp [Continued], by decide⟩
  · refine (hfail ⟨[0x90, 0x80, 0x80, 0x80, 0x80], 0⟩ ?_).1 ⟨5, by decide⟩
    rintro g more hg ⟨front, last, rfl, _, hlast⟩
    -- every byte of the buffer announces another one
    have hall : ∀ b ∈ ([0x90, 0x80, 0x80, 0x80, 0x80] : List UInt8), ¬b < 0x80 := by
      simp
    have hmem : last ∈ ([0x90, 0x80, 0x80, 0x80, 0x80] : List UInt8) := by
      rw [show ([0x90, 0x80, 0x80, 0x80, 0x80] : List UInt8) = front ++ [last] ++ more from hg]
      simp
    exact absurd hlast (hall last hmem)

end Varint

end ChunkTree
