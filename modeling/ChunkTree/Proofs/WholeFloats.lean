import Mathlib.Tactic.Ring
import ChunkTree.Binary64.Basic
import ChunkTree.Value.NonFinite

/-!
# Floats that are whole numbers

A float that stands for a whole number is the float nearest to that number (`Binary64.eq_of_toInt?`): no
digit of the number is lost, as the float already holds them all.  Texts that stand for floats stand for
ones that are not finite (`NonFinite.isFinite_of_ofText?`).
-/

namespace ChunkTree

namespace Binary64

/-- Dividing a multiple leaves nothing to round. -/
theorem roundDiv_mul {m den : Nat} (h : 0 < den) : roundDiv (m * den) den = m := by
  simp only [roundDiv, Nat.mul_div_cancel _ h, Nat.mul_mod_left]
  rw [if_neg (by omega)]

/-- The number of binary digits of a number that is scaled to one with 53 digits and `k` places. -/
theorem log2_add_of_scaled {n m k t : Nat} (hlow : 2 ^ 52 ≤ m) (hhigh : m < 2 ^ 53)
    (h : n * 2 ^ t = m * 2 ^ k) :
    n.log2 + t = k + 52 := by
  have hk := Nat.two_pow_pos k
  have hn : n ≠ 0 := by
    rintro rfl
    rw [Nat.zero_mul] at h
    exact (Nat.mul_pos (show 0 < m by omega) hk).ne h
  have hlower : 2 ^ (n.log2 + t) < 2 ^ (k + 53) := by
    calc 2 ^ (n.log2 + t) = 2 ^ n.log2 * 2 ^ t := Nat.pow_add ..
      _ ≤ n * 2 ^ t := Nat.mul_le_mul_right _ (Nat.log2_self_le hn)
      _ = m * 2 ^ k := h
      _ < 2 ^ 53 * 2 ^ k := Nat.mul_lt_mul_of_pos_right hhigh hk
      _ = 2 ^ (k + 53) := by rw [Nat.pow_add, Nat.mul_comm]
  have hupper : 2 ^ (k + 52) < 2 ^ (n.log2 + 1 + t) := by
    calc 2 ^ (k + 52) = 2 ^ 52 * 2 ^ k := by rw [Nat.pow_add, Nat.mul_comm]
      _ ≤ m * 2 ^ k := Nat.mul_le_mul_right _ hlow
      _ = n * 2 ^ t := h.symm
      _ < 2 ^ (n.log2 + 1) * 2 ^ t := Nat.mul_lt_mul_of_pos_right Nat.lt_log2_self (Nat.two_pow_pos _)
      _ = 2 ^ (n.log2 + 1 + t) := by rw [← Nat.pow_add]
  have := (Nat.pow_lt_pow_iff_right (by decide : 1 < 2)).1 hlower
  have := (Nat.pow_lt_pow_iff_right (by decide : 1 < 2)).1 hupper
  omega

/-- A number that is scaled up by many places is large. -/
theorem le_of_scaled {n m t : Nat} (hn : n ≠ 0) (ht : 52 ≤ t) (h : n * 2 ^ t = m) : 2 ^ 52 ≤ m := by
  calc 2 ^ 52 ≤ 2 ^ t := Nat.pow_le_pow_right (by decide) ht
    _ ≤ n * 2 ^ t := Nat.le_mul_of_pos_left _ (Nat.pos_of_ne_zero hn)
    _ = m := h

/-- A number with 53 binary digits before its last `k` places has `k` more of them than a significand. -/
theorem excess_eq {n m k : Nat} (hlow : 2 ^ 52 ≤ m) (hhigh : m < 2 ^ 53) (h : n * 2 ^ 1074 = m * 2 ^ k) :
    excess n 1 = k := by
  have hlog := log2_add_of_scaled hlow hhigh h
  have hguess : 1074 + n.log2 - Nat.log2 1 - 52 = k := by
    have : Nat.log2 1 = 0 := by decide
    omega
  have henough : ¬n * Nat.pow 2 1074 < 1 * Nat.pow 2 (k + 52) := by
    have : 2 ^ (k + 52) ≤ n * 2 ^ 1074 := by
      calc 2 ^ (k + 52) = 2 ^ 52 * 2 ^ k := by rw [Nat.pow_add, Nat.mul_comm]
        _ ≤ m * 2 ^ k := Nat.mul_le_mul_right _ hlow
        _ = n * 2 ^ 1074 := h.symm
    rw [Nat.pow_eq, Nat.pow_eq, Nat.one_mul]
    exact Nat.not_lt.2 this
  unfold excess
  simp only [hguess]
  rw [if_neg henough]

theorem bits_eq (x : Binary64) :
    x.bits.toNat = (if x.isNegative then 2 ^ 63 else 0) + x.exponent * 2 ^ 52 + x.fraction := by
  have := x.bits.toNat_lt
  unfold isNegative exponent fraction
  by_cases h : 0x8000000000000000 ≤ x.bits.toNat
  · simp only [h, decide_true, if_true]
    omega
  · simp only [h, decide_false, Bool.false_eq_true, if_false]
    omega

/-- Flipping the sign bit of a pattern without it sets it. -/
theorem xor_signBit {n : Nat} (h : n < 2 ^ 63) : n ^^^ 2 ^ 63 = 2 ^ 63 + n := by
  have hdiv : (n ^^^ 2 ^ 63) / 2 ^ 63 = 1 := by
    rw [Nat.xor_div_two_pow, Nat.div_eq_of_lt h]
    rfl
  have hmod : (n ^^^ 2 ^ 63) % 2 ^ 63 = n := by
    rw [Nat.xor_mod_two_pow, Nat.mod_eq_of_lt h, Nat.mod_self, Nat.xor_zero]
  have := Nat.div_add_mod (n ^^^ 2 ^ 63) (2 ^ 63)
  rw [hdiv, hmod] at this
  omega

/-- A float that is a whole number, in units of the smallest positive number. -/
theorem scaled_of_whole {x : Binary64} {n : Nat} (hwhole : x.ratio.1 = n * x.ratio.2) :
    n * 2 ^ 1074 = x.significand * 2 ^ (x.power - 1) := by
  unfold ratio at hwhole
  have hpower : 1 ≤ x.power := Nat.le_max_right _ _
  split at hwhole
  · rename_i h
    simp only [Nat.mul_one, Nat.pow_eq] at hwhole
    have hsplit : x.power - 1 = (x.power - 1075) + 1074 := by omega
    rw [hsplit, Nat.pow_add, ← Nat.mul_assoc, hwhole]
  · rename_i h
    simp only [Nat.pow_eq] at hwhole
    have hsplit : 1074 = (1075 - x.power) + (x.power - 1) := by omega
    rw [hwhole, Nat.mul_assoc, ← Nat.pow_add, ← hsplit]

theorem fraction_lt (x : Binary64) : x.fraction < 2 ^ 52 :=
  Nat.mod_lt _ (by decide)

/-- A float that is a whole number other than zero has a leading digit that is not stored. -/
theorem exponent_ne_zero_of_whole {x : Binary64} {n : Nat} (hn : n ≠ 0)
    (hwhole : x.ratio.1 = n * x.ratio.2) : x.exponent ≠ 0 := by
  intro hzero
  have hscaled := scaled_of_whole hwhole
  rw [significand, if_pos hzero, power, hzero, Nat.max_eq_right (Nat.zero_le 1), Nat.sub_self, Nat.pow_zero,
    Nat.mul_one] at hscaled
  exact absurd x.fraction_lt (Nat.not_lt.2 (le_of_scaled hn (by decide) hscaled))

/-- The number nearest to the absolute value of a float, if that is whole and not zero. -/
theorem ofRatio_of_ratio {x : Binary64} {n : Nat} (hfinite : x.isFinite) (hn : n ≠ 0)
    (hwhole : x.ratio.1 = n * x.ratio.2) :
    ofRatio n 1 = ⟨UInt64.ofNat (x.exponent * 2 ^ 52 + x.fraction)⟩ := by
  have hfraction := x.fraction_lt
  have hexponent : x.exponent < 2047 := by
    have : x.exponent < 2048 := Nat.mod_lt _ (by decide)
    have : x.exponent ≠ 2047 := by simpa [isFinite] using hfinite
    omega
  have hnormal := exponent_ne_zero_of_whole hn hwhole
  have hpower : x.power = x.exponent := Nat.max_eq_left (Nat.pos_of_ne_zero hnormal)
  have hsignificand : x.significand = 2 ^ 52 + x.fraction := by
    rw [significand, if_neg hnormal]
    rfl
  have hscaled := scaled_of_whole hwhole
  rw [hpower] at hscaled
  have hexcess : excess n 1 = x.exponent - 1 :=
    excess_eq (m := x.significand) (by omega) (by omega) hscaled
  -- nothing is rounded: the quotient is the significand
  have hround : roundDiv (n * Nat.pow 2 1074) (1 * Nat.pow 2 (x.exponent - 1)) = x.significand := by
    simp only [Nat.pow_eq, Nat.one_mul, hscaled]
    exact roundDiv_mul (Nat.two_pow_pos _)
  unfold ofRatio
  simp only [hexcess, hround]
  have hbits : (x.exponent - 1) * 0x10000000000000 + x.significand = x.exponent * 2 ^ 52 + x.fraction := by
    omega
  rw [if_neg hn, hbits, if_neg (by omega)]

theorem isZero_of_ratio {x : Binary64} (h : x.ratio.1 = 0) : x.isZero := by
  have hsignificand : x.significand = 0 := by
    unfold ratio at h
    split at h
    · exact (Nat.mul_eq_zero.1 h).resolve_right (Nat.two_pow_pos _).ne'
    · exact h
  unfold significand at hsignificand
  split at hsignificand
  · simp_all [isZero]
  · omega

/-- A float that is a whole number other than zero is the float of that number. -/
theorem ofInt_of_whole {x : Binary64} {n : Nat} (hfinite : x.isFinite) (hn : n ≠ 0)
    (hwhole : x.ratio.1 = n * x.ratio.2) : ofInt (if x.isNegative then -(n : Int) else n) = x := by
  have hratio := ofRatio_of_ratio hfinite hn hwhole
  have hbits := bits_eq x
  have hlt := x.bits.toNat_lt
  unfold ofInt
  by_cases hneg : x.isNegative
  · simp only [hneg, if_true] at hbits ⊢
    rw [if_pos (by omega), Int.natAbs_neg, Int.natAbs_natCast, hratio, negate]
    refine congrArg mk (UInt64.toNat_inj.1 ?_)
    rw [UInt64.toNat_xor, UInt64.toNat_ofNat_of_lt' (show _ < 2 ^ 64 by omega)]
    show (x.exponent * 2 ^ 52 + x.fraction) ^^^ 2 ^ 63 = _
    rw [xor_signBit (by omega), hbits]
    omega
  · simp only [hneg, Bool.false_eq_true, if_false] at hbits ⊢
    rw [if_neg (by omega), Int.natAbs_natCast, hratio]
    refine congrArg mk (UInt64.toNat_inj.1 ?_)
    rw [UInt64.toNat_ofNat_of_lt' (show _ < 2 ^ 64 by omega), hbits]
    omega

theorem not_isNaN_of_isFinite {x : Binary64} (h : x.isFinite) : x.isNaN = false := by
  simp_all [isFinite, isNaN]

/-- A float that stands for a whole number is the float nearest to it. -/
theorem eq_of_toInt? {x : Binary64} {k : Int} (h : x.toInt? = some k) : (ofInt k).eq x := by
  unfold toInt? at h
  simp only at h
  split at h
  · rename_i hcond
    obtain ⟨hfinite, hmod⟩ := hcond
    have hwhole : x.ratio.1 = x.ratio.1 / x.ratio.2 * x.ratio.2 :=
      (Nat.div_mul_cancel (Nat.dvd_of_mod_eq_zero hmod)).symm
    have hnan := not_isNaN_of_isFinite hfinite
    rw [← Option.some.inj h]
    by_cases hn : x.ratio.1 / x.ratio.2 = 0
    -- either zero equals the zero that the number 0 has
    · have hzero : x.isZero := isZero_of_ratio (by rw [hwhole, hn, Nat.zero_mul])
      have hofInt : (ofInt 0).isZero ∧ (ofInt 0).isNaN = false := by decide +kernel
      simp [eq, hn, hofInt, hnan, hzero]
    · rw [ofInt_of_whole hfinite hn hwhole]
      simp [eq, hnan]
  · cases h

theorem eq_comm {x y : Binary64} : x.eq y = y.eq x := by
  unfold eq
  rw [Bool.and_comm (!x.isNaN), Bool.and_comm x.isZero, BEq.comm]

/-- A finite number does not equal one that is not. -/
theorem eq_of_not_finite {x y : Binary64} (hx : x.isFinite) (hy : y.isFinite = false) : x.eq y = false := by
  have hne : x ≠ y := by
    rintro rfl
    rw [hx] at hy
    cases hy
  have hzero : y.isZero = false := by
    simp_all [isFinite, isZero]
  simp [eq, hne, hzero]

end Binary64

/-- A text that stands for a float stands for one that is not finite. -/
theorem NonFinite.isFinite_of_ofText? {s : String} {x : Binary64} (h : ofText? s = some x) :
    x.isFinite = false := by
  unfold ofText? at h
  split at h
  · obtain rfl := Option.some.inj h
    decide +kernel
  split at h
  · obtain rfl := Option.some.inj h
    decide +kernel
  split at h
  · obtain rfl := Option.some.inj h
    decide +kernel
  split at h
  · split at h
    · split at h
      · rename_i hnan
        obtain rfl := Option.some.inj h
        simp_all [Binary64.isNaN, Binary64.isFinite]
      · cases h
    · cases h
  · cases h

end ChunkTree
