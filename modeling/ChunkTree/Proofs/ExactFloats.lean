import ChunkTree.Proofs.WholeFloats

/-!
# Whole numbers that are floats

The float nearest to a whole number of at most `2 ^ 53` in size stands for that number (`Binary64.toInt?_ofInt`),
as all its digits fit in a significand.  So such a number equals just the floats that stand for it
(`Binary64.ofInt_eq_iff`), and two of them that equal one float are one number.  Among floats, numerical equality
carries over (`Binary64.eq_trans`).
-/

namespace ChunkTree.Binary64

variable {x y z : Binary64}

/-! ## Numerical equality -/

theorem eq_iff : x.eq y ↔ x.isNaN = false ∧ y.isNaN = false ∧ (x = y ∨ (x.isZero ∧ y.isZero)) := by
  simp [eq, and_assoc]

theorem eq_trans (hxy : x.eq y) (hyz : y.eq z) : x.eq z := by
  obtain ⟨hx, _, hxy⟩ := eq_iff.1 hxy
  obtain ⟨_, hz, hyz⟩ := eq_iff.1 hyz
  refine eq_iff.2 ⟨hx, hz, ?_⟩
  rcases hxy with rfl | ⟨hx, hy⟩
  · exact hyz
  · rcases hyz with rfl | ⟨_, hz⟩
    · exact .inr ⟨hx, hy⟩
    · exact .inr ⟨hx, hz⟩

/-! ## Exact values -/

theorem ratio_snd_pos (x : Binary64) : 0 < x.ratio.2 := by
  unfold ratio
  split
  · exact Nat.one_pos
  · exact Nat.two_pow_pos _

/-- A float that is a multiple of its unit stands for that multiple. -/
theorem toInt?_of_ratio {n : Nat} (hfinite : x.isFinite) (hwhole : x.ratio.1 = n * x.ratio.2) :
    x.toInt? = some (if x.isNegative then -(n : Int) else n) := by
  unfold toInt?
  simp only [hwhole, hfinite, Nat.mul_mod_left, Nat.mul_div_cancel _ x.ratio_snd_pos, and_self, if_true]

theorem toInt?_of_isZero (h : x.isZero) : x.toInt? = some 0 := by
  obtain ⟨hexponent, hfraction⟩ : x.exponent = 0 ∧ x.fraction = 0 := by simpa [isZero] using h
  have hfinite : x.isFinite := by simp [isFinite, hexponent]
  have hratio : x.ratio.1 = 0 := by
    have hsignificand : x.significand = 0 := by rw [significand, if_pos hexponent, hfraction]
    unfold ratio
    split <;> simp [hsignificand]
  rw [toInt?_of_ratio (n := 0) hfinite (by rw [hratio, Nat.zero_mul])]
  simp

/-- Floats that are equal stand for one number. -/
theorem toInt?_congr (h : x.eq y) : x.toInt? = y.toInt? := by
  obtain ⟨_, _, rfl | ⟨hx, hy⟩⟩ := eq_iff.1 h
  · rfl
  · rw [toInt?_of_isZero hx, toInt?_of_isZero hy]

/-- A number that is `m * 2 ^ k` times the smallest positive one, for an `m` of 53 digits, is a float. -/
theorem exists_of_scaled {n m k : Nat} (negative : Bool) (hlow : 2 ^ 52 ≤ m) (hhigh : m < 2 ^ 53) (hk : k ≤ 2045)
    (h : n * 2 ^ 1074 = m * 2 ^ k) :
    ∃ x : Binary64, x.isFinite ∧ x.isNegative = negative ∧ x.ratio.1 = n * x.ratio.2 := by
  -- the sign, the exponent `k + 1`, and the significand without its leading digit
  let bits := (if negative then 2 ^ 63 else 0) + (k * 2 ^ 52 + m)
  have hlt : bits < 2 ^ 64 := by
    simp only [bits]
    split <;> omega
  have hbits : (mk (UInt64.ofNat bits)).bits.toNat = bits := UInt64.toNat_ofNat_of_lt' hlt
  have hexponent : (mk (UInt64.ofNat bits)).exponent = k + 1 := by
    rw [exponent, hbits]
    simp only [bits]
    split <;> omega
  have hfraction : (mk (UInt64.ofNat bits)).fraction = m - 2 ^ 52 := by
    rw [fraction, hbits]
    simp only [bits]
    split <;> omega
  refine ⟨⟨UInt64.ofNat bits⟩, ?_, ?_, ?_⟩
  · rw [isFinite, hexponent, bne_iff_ne]
    omega
  · rw [isNegative, hbits]
    cases negative with
    | true => exact decide_eq_true (by simp only [bits, if_true]; omega)
    | false => exact decide_eq_false (by simp only [bits, Bool.false_eq_true, if_false]; omega)
  · have hsignificand : (mk (UInt64.ofNat bits)).significand = m := by
      rw [significand, hexponent, hfraction, if_neg (Nat.succ_ne_zero k)]
      omega
    have hpower : (mk (UInt64.ofNat bits)).power = k + 1 := by
      rw [power, hexponent, Nat.max_eq_left (Nat.succ_pos k)]
    have hpow : ∀ e, Nat.pow 2 e = 2 ^ e := fun _ => rfl
    unfold ratio
    simp only [hsignificand, hpower, hpow]
    split
    · have hsplit : k + 1 - 1075 + 1074 = k := by omega
      refine Nat.eq_of_mul_eq_mul_right (Nat.two_pow_pos 1074) ?_
      rw [Nat.mul_one, h, Nat.mul_assoc, ← Nat.pow_add, hsplit]
    · have hsplit : 1075 - (k + 1) + k = 1074 := by omega
      refine Nat.eq_of_mul_eq_mul_right (Nat.two_pow_pos k) ?_
      rw [← h, Nat.mul_assoc, ← Nat.pow_add, hsplit]

/-- A number of at most 53 binary digits, or the first one with more, written with 53 of them. -/
theorem exists_scaled {n : Nat} (hn : n ≠ 0) (h : n ≤ 2 ^ 53) :
    ∃ m k, 2 ^ 52 ≤ m ∧ m < 2 ^ 53 ∧ k ≤ 2045 ∧ n * 2 ^ 1074 = m * 2 ^ k := by
  rcases h.lt_or_eq with hlt | rfl
  · have hlog : n.log2 < 53 := (Nat.log2_lt hn).2 hlt
    refine ⟨n * 2 ^ (52 - n.log2), 1022 + n.log2, ?_, ?_, by omega, ?_⟩
    · calc 2 ^ 52 = 2 ^ n.log2 * 2 ^ (52 - n.log2) := by rw [← Nat.pow_add]; congr 1; omega
        _ ≤ n * 2 ^ (52 - n.log2) := Nat.mul_le_mul_right _ (Nat.log2_self_le hn)
    · calc n * 2 ^ (52 - n.log2) < 2 ^ (n.log2 + 1) * 2 ^ (52 - n.log2) :=
          Nat.mul_lt_mul_of_pos_right Nat.lt_log2_self (Nat.two_pow_pos _)
        _ = 2 ^ 53 := by rw [← Nat.pow_add]; congr 1; omega
    · have hsplit : 52 - n.log2 + (1022 + n.log2) = 1074 := by omega
      rw [Nat.mul_assoc, ← Nat.pow_add, hsplit]
  · exact ⟨2 ^ 52, 1075, le_rfl, by decide, by decide, by rw [← Nat.pow_add, ← Nat.pow_add]⟩

/-- A whole number of at most `2 ^ 53` in size is a float. -/
theorem toInt?_ofInt {n : Int} (h : n.natAbs ≤ 2 ^ 53) : (ofInt n).toInt? = some n := by
  by_cases hn : n.natAbs = 0
  · rw [Int.natAbs_eq_zero.1 hn]
    decide +kernel
  obtain ⟨m, k, hlow, hhigh, hk, hscaled⟩ := exists_scaled hn h
  obtain ⟨x, hfinite, hsign, hwhole⟩ := exists_of_scaled (decide (n < 0)) hlow hhigh hk hscaled
  have hvalue : (if x.isNegative then -(n.natAbs : Int) else n.natAbs) = n := by
    rw [hsign]
    by_cases hneg : n < 0
    · rw [decide_eq_true hneg, if_pos rfl, Int.ofNat_natAbs_of_nonpos hneg.le, neg_neg]
    · rw [decide_eq_false hneg, if_neg Bool.false_ne_true, Int.natAbs_of_nonneg (not_lt.1 hneg)]
  have hofInt := ofInt_of_whole hfinite hn hwhole
  rw [hvalue] at hofInt
  rw [hofInt, toInt?_of_ratio hfinite hwhole, hvalue]

/-- A number of at most `2 ^ 53` in size equals just the floats that stand for it. -/
theorem ofInt_eq_iff {n : Int} (h : n.natAbs ≤ 2 ^ 53) : (ofInt n).eq x ↔ x.toInt? = some n := by
  constructor
  · intro heq
    rw [← toInt?_congr heq, toInt?_ofInt h]
  · exact eq_of_toInt?

end ChunkTree.Binary64
