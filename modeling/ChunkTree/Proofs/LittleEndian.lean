import Mathlib.Tactic.Ring
import ChunkTree.Binary.LittleEndian
import ChunkTree.Content.IntArray

/-!
# Words of a fixed width are read back

The digits of a number that fits a width stand for that number (`signedValue_signedDigits`), and what bytes
stand for fits their number (`fits_signedValue`) and has those bytes as its digits (`signedDigits_signedValue`).
An array of numbers is read back item by item (`IntArray.toList_encode`), and its items are written as its bytes
(`IntArray.encode_toList`).
-/

namespace ChunkTree

namespace LittleEndian

@[simp] theorem length_digits (width n : Nat) : (digits width n).length = width := by
  induction width generalizing n with
  | zero => rfl
  | succ width ih => simp [digits, ih]

@[simp] theorem length_signedDigits (width : Nat) (n : Int) : (signedDigits width n).length = width :=
  length_digits width _

theorem value_digits (width n : Nat) : value (digits width n) = n % 256 ^ width := by
  induction width generalizing n with
  | zero => simp [digits, value, Nat.mod_one]
  | succ width ih =>
    have hb : (UInt8.ofNat (n % 256)).toNat = n % 256 := by
      rw [UInt8.toNat_ofNat']
      exact Nat.mod_mod n 256
    rw [digits, value, hb, ih, Nat.pow_succ', Nat.mod_mul]

theorem fits_iff {width : Nat} {n : Int} :
    fits width n ↔ -(256 ^ width : Int) ≤ 2 * n ∧ 2 * n < 256 ^ width := by
  simp [fits, Nat.pow_eq]

/-- The digits of a number that fits stand for it. -/
theorem signedValue_signedDigits {width : Nat} {n : Int} (h : fits width n) :
    signedValue (signedDigits width n) = n := by
  obtain ⟨hlow, hhigh⟩ := fits_iff.1 h
  have hpos : (0 : Int) < 256 ^ width := Int.pow_pos (by decide)
  have hmod : ((n % 256 ^ width).toNat : Int) = n % 256 ^ width :=
    Int.toNat_of_nonneg (Int.emod_nonneg _ hpos.ne')
  have hlt : (n % 256 ^ width).toNat < 256 ^ width := by
    refine Int.ofNat_lt.1 ?_
    rw [hmod]
    simpa using Int.emod_lt_of_pos n hpos
  have hcast : ((256 ^ width : Nat) : Int) = 256 ^ width := by simp
  rw [signedValue, signedDigits, length_digits, Nat.pow_eq, value_digits, hcast, Nat.mod_eq_of_lt hlt, hmod,
    ← hcast, Int.emod_bmod, Int.bmod_eq_iff (Nat.pow_pos (by decide)), hcast]
  exact ⟨by omega, by omega, by simp⟩

/-- What bytes stand for fits their number. -/
theorem fits_signedValue (bytes : List UInt8) : fits bytes.length (signedValue bytes) := by
  have hpos : 0 < 256 ^ bytes.length := Nat.pow_pos (by decide)
  have hlow := Int.le_bmod (x := value bytes) hpos
  have hhigh := Int.bmod_lt (x := value bytes) hpos
  have hcast : ((256 ^ bytes.length : Nat) : Int) = 256 ^ bytes.length := by simp
  rw [fits_iff, signedValue, Nat.pow_eq, ← hcast]
  cases hlen : bytes.length with
  | zero => simp_all
  | succ k =>
    -- a power of 256 is even, so half of it is a whole number
    have heven : 256 ^ (k + 1) = 2 * (128 * 256 ^ k) := by ring
    rw [hlen] at hlow hhigh
    omega

/-- Bytes are the digits of the number that they stand for. -/
theorem digits_value (bytes : List UInt8) : digits bytes.length (value bytes) = bytes := by
  induction bytes with
  | nil => rfl
  | cons b bytes ih =>
    have hb := b.toNat_lt
    have hlow : (b.toNat + 256 * value bytes) % 256 = b.toNat := by omega
    have hhigh : (b.toNat + 256 * value bytes) / 256 = value bytes := by omega
    rw [List.length_cons, digits, value, hlow, hhigh, ih, UInt8.ofNat_toNat]

theorem value_lt (bytes : List UInt8) : value bytes < 256 ^ bytes.length := by
  induction bytes with
  | nil => simp [value]
  | cons b bytes ih =>
    have hb := b.toNat_lt
    rw [List.length_cons, value, Nat.pow_succ]
    omega

/-- Bytes are the digits of the signed number that they stand for. -/
theorem signedDigits_signedValue (bytes : List UInt8) : signedDigits bytes.length (signedValue bytes) = bytes := by
  have hvalue : (value bytes : Int) % (256 ^ bytes.length : Nat) = value bytes :=
    Int.emod_eq_of_lt (Int.natCast_nonneg _) (Int.ofNat_lt.2 (value_lt bytes))
  have hnat : (signedValue bytes % (Nat.pow 256 bytes.length : Nat)).toNat = value bytes := by
    rw [signedValue, Int.bmod_emod, Nat.pow_eq, hvalue, Int.toNat_natCast]
  rw [signedDigits, hnat, digits_value]

end LittleEndian

namespace IntArray

open LittleEndian

theorem length_encode (width : Nat) (ns : List Int) : (encode width ns).length = ns.length * width := by
  induction ns with
  | nil => simp [encode]
  | cons n ns ih =>
    simp only [encode, List.flatMap_cons, List.length_append, length_signedDigits, List.length_cons] at ih ⊢
    rw [ih]
    ring

theorem items_encode {width : Nat} {ns : List Int} (h : ∀ n ∈ ns, fits width n) :
    items width ns.length (encode width ns) = ns := by
  induction ns with
  | nil => rfl
  | cons n ns ih =>
    have hn := signedValue_signedDigits (h n List.mem_cons_self)
    have htake : (signedDigits width n ++ encode width ns).take width = signedDigits width n :=
      List.take_left' (length_signedDigits width n)
    have hdrop : (signedDigits width n ++ encode width ns).drop width = encode width ns :=
      List.drop_left' (length_signedDigits width n)
    show signedValue ((signedDigits width n ++ encode width ns).take width) ::
      items width ns.length ((signedDigits width n ++ encode width ns).drop width) = _
    rw [htake, hdrop, hn, ih fun m hm => h m (List.mem_cons_of_mem n hm)]

theorem toList_encode {width : Nat} {ns : List Int} (hw : 0 < width) (h : ∀ n ∈ ns, fits width n) :
    (IntArray.mk width (encode width ns)).toList = ns := by
  have hsize : (IntArray.mk width (encode width ns)).size = ns.length := by
    rw [size, length_encode, Nat.mul_div_cancel _ hw]
  rw [toList, hsize, items_encode h]

theorem fits_of_mem_items {width n : Nat} {bytes : List UInt8} (hlen : bytes.length = n * width) {m : Int}
    (h : m ∈ items width n bytes) : fits width m := by
  induction n generalizing bytes with
  | zero => simp [items] at h
  | succ n ih =>
    have htake : (bytes.take width).length = width := by
      rw [List.length_take, hlen, Nat.add_mul]
      omega
    rcases List.mem_cons.1 h with rfl | h
    · have := fits_signedValue (bytes.take width)
      rwa [htake] at this
    · exact ih (by rw [List.length_drop, hlen, Nat.add_mul]; omega) h

/-- The numbers of an array fit its width. -/
theorem fits_of_mem_toList {a : IntArray} (hlen : a.bytes.length % a.width = 0) {m : Int} (h : m ∈ a.toList) :
    fits a.width m :=
  fits_of_mem_items (Nat.div_mul_cancel (Nat.dvd_of_mod_eq_zero hlen)).symm h

theorem encode_items {width n : Nat} {bytes : List UInt8} (hlen : bytes.length = n * width) :
    encode width (items width n bytes) = bytes := by
  induction n generalizing bytes with
  | zero => exact (List.eq_nil_of_length_eq_zero (hlen.trans (Nat.zero_mul width))).symm
  | succ n ih =>
    rw [Nat.add_mul, Nat.one_mul] at hlen
    have htake : (bytes.take width).length = width := by
      rw [List.length_take, hlen]
      omega
    have hfirst := signedDigits_signedValue (bytes.take width)
    rw [htake] at hfirst
    have hrest : encode width (items width n (bytes.drop width)) = bytes.drop width :=
      ih (by rw [List.length_drop, hlen]; omega)
    rw [encode] at hrest ⊢
    rw [items, List.flatMap_cons, hfirst, hrest, List.take_append_drop]

/-- The numbers of an array are written as its bytes. -/
theorem encode_toList {a : IntArray} (hlen : a.bytes.length % a.width = 0) : encode a.width a.toList = a.bytes :=
  encode_items (Nat.div_mul_cancel (Nat.dvd_of_mod_eq_zero hlen)).symm

theorem getElem?_items (width n : Nat) (bytes : List UInt8) (i : Nat) : (items width n bytes)[i]? =
    if i < n then some (signedValue ((bytes.drop (i * width)).take width)) else none := by
  induction n generalizing bytes i with
  | zero => rfl
  | succ n ih =>
    cases i with
    | zero => simp [items]
    | succ i =>
      rw [items, List.getElem?_cons_succ, ih, List.drop_drop, Nat.add_mul, Nat.one_mul, Nat.add_comm width]
      simp only [Nat.add_lt_add_iff_right]

/-- The number at a place is the one that stands there in the list of all. -/
theorem getElem?_toList (a : IntArray) (i : Nat) : a.toList[i]? = a.get? i :=
  getElem?_items a.width a.size a.bytes i

@[simp] theorem length_toList (a : IntArray) : a.toList.length = a.size := by
  rw [toList]
  generalize a.bytes = bytes
  induction a.size generalizing bytes with
  | zero => rfl
  | succ n ih => rw [items, List.length_cons, ih]

end IntArray

end ChunkTree
