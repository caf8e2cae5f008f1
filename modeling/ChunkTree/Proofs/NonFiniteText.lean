import ChunkTree.Proofs.WholeFloats

/-!
# Texts of floats that are not finite

The text of a float that is not finite is read back as that float, bit by bit (`NonFinite.ofText?_text`).  The
float nearest to a number of 64 bits is finite (`Binary64.isFinite_ofInt`), so no such float equals an integer.
-/

namespace ChunkTree

namespace Binary64

theorem exponent_mk {n : Nat} (h : n < 2 ^ 64) : (mk (UInt64.ofNat n)).exponent = n / 2 ^ 52 % 2048 := by
  rw [exponent, UInt64.toNat_ofNat_of_lt' h]
  rfl

theorem exponent_negate_mk {n : Nat} (h : n < 2 ^ 63) : (mk (UInt64.ofNat n)).negate.exponent = n / 2 ^ 52 := by
  rw [exponent, negate, UInt64.toNat_xor, UInt64.toNat_ofNat_of_lt' (show n < 2 ^ 64 by omega)]
  show (n ^^^ 2 ^ 63) / 2 ^ 52 % 2048 = _
  rw [xor_signBit h]
  omega

/-- A quotient that is rounded goes up by one at most. -/
theorem roundDiv_le (num den : Nat) : roundDiv num den ≤ num / den + 1 := by
  unfold roundDiv
  simp only
  split <;> omega

/-- How many binary digits beyond those of a significand a whole number of 64 bits has, and what is left of it
without them. -/
theorem excess_spec {n : Nat} (hn : n ≠ 0) (hlt : n < 2 ^ 64) :
    excess n 1 ≤ 1085 ∧ n * 2 ^ 1074 / 2 ^ excess n 1 < 2 ^ 54 := by
  have hlog : n.log2 < 64 := (Nat.log2_lt hn).2 hlt
  have hone : Nat.log2 1 = 0 := by decide
  have hbound : ∀ t k, t + n.log2 ≤ k + 53 → n * 2 ^ t / 2 ^ k < 2 ^ 54 := by
    intro t k htk
    refine Nat.div_lt_of_lt_mul ?_
    calc n * 2 ^ t < 2 ^ (n.log2 + 1) * 2 ^ t := Nat.mul_lt_mul_of_pos_right Nat.lt_log2_self (Nat.two_pow_pos t)
      _ = 2 ^ (n.log2 + 1 + t) := by rw [← Nat.pow_add]
      _ ≤ 2 ^ (k + 54) := Nat.pow_le_pow_right (by decide) (by omega)
      _ = 2 ^ k * 2 ^ 54 := Nat.pow_add ..
  unfold excess
  simp only
  split
  · exact ⟨by omega, hbound 1074 _ (by omega)⟩
  · exact ⟨by omega, hbound 1074 _ (by omega)⟩

/-- The bits of the float nearest to a number of 64 bits lie below those of infinity. -/
theorem ofRatio_eq {n : Nat} (hlt : n < 2 ^ 64) : ∃ m < 0x7ff0000000000000, ofRatio n 1 = ⟨UInt64.ofNat m⟩ := by
  by_cases hn : n = 0
  · exact ⟨0, by decide, by rw [ofRatio, if_pos hn]; rfl⟩
  obtain ⟨hexcess, hquotient⟩ := excess_spec hn hlt
  have hround := (roundDiv_le (n * 2 ^ 1074) (2 ^ excess n 1)).trans_lt (Nat.succ_lt_succ hquotient)
  have hbits : ∀ r < 2 ^ 54 + 1, excess n 1 * 0x10000000000000 + r < 0x7ff0000000000000 := fun r hr => by
    clear hquotient hround
    omega
  have hpow : ∀ k, Nat.pow 2 k = 2 ^ k := fun _ => rfl
  unfold ofRatio
  simp only [hpow, Nat.one_mul]
  generalize roundDiv (n * 2 ^ 1074) (2 ^ excess n 1) = r at hround
  rw [if_neg hn, if_neg (Nat.not_le.2 (hbits r hround))]
  exact ⟨_, hbits r hround, rfl⟩

/-- The float nearest to a number of 64 bits is finite. -/
theorem isFinite_ofInt {n : Int} (h : n.natAbs < 2 ^ 64) : (ofInt n).isFinite := by
  obtain ⟨m, hm, hratio⟩ := ofRatio_eq h
  rw [ofInt, hratio, isFinite, bne_iff_ne]
  split
  · rw [exponent_negate_mk (by omega)]
    omega
  · rw [exponent_mk (by omega)]
    omega

/-- A float that is neither finite nor a pattern for no number is one of the two infinities. -/
theorem eq_infinity {x : Binary64} (hfinite : x.isFinite = false) (hnan : x.isNaN = false) :
    x = if x.isNegative then infinity.negate else infinity := by
  have hexponent : x.exponent = 2047 := by simpa [isFinite] using hfinite
  have hfraction : x.fraction = 0 := by simpa [isNaN, hexponent] using hnan
  have hbits := bits_eq x
  rw [hexponent, hfraction] at hbits
  obtain ⟨bits⟩ := x
  split
  · rename_i hneg
    rw [if_pos hneg] at hbits
    exact congrArg mk (UInt64.toNat_inj.1 hbits)
  · rename_i hneg
    rw [if_neg hneg] at hbits
    exact congrArg mk (UInt64.toNat_inj.1 hbits)

end Binary64

namespace NonFinite

theorem digit?_digitChar : ∀ d < 16, digit? (Nat.digitChar d) = some d := by
  decide

theorem hexFrom?_append (n : Nat) (cs ds : List Char) :
    hexFrom? n (cs ++ ds) = (hexFrom? n cs).bind fun m => hexFrom? m ds := by
  induction cs generalizing n with
  | nil => rfl
  | cons c cs ih =>
    rw [List.cons_append, hexFrom?, hexFrom?]
    cases digit? c with
    | none => rfl
    | some d => exact ih _

/-- The hexadecimal digits of a number are read back. -/
theorem hexFrom?_toDigits (n : Nat) : hexFrom? 0 (Nat.toDigits 16 n) = some n := by
  induction n using Nat.strong_induction_on with
  | _ n ih =>
    by_cases hn : n < 16
    · rw [Nat.toDigits_of_lt_base hn, hexFrom?, digit?_digitChar n hn, Option.bind_some, hexFrom?, Nat.zero_mul,
        Nat.zero_add]
    · have hlast := digit?_digitChar (n % 16) (Nat.mod_lt _ (by decide))
      rw [Nat.toDigits_of_base_le (by decide) (by omega), hexFrom?_append, ih _ (by omega), Option.bind_some,
        hexFrom?, hlast, Option.bind_some, hexFrom?, Nat.div_add_mod']

theorem hexFrom?_replicate (k : Nat) (cs : List Char) :
    hexFrom? 0 (List.replicate k '0' ++ cs) = hexFrom? 0 cs := by
  induction k with
  | zero => rfl
  | succ k ih => rw [List.replicate_succ, List.cons_append, hexFrom?]; exact ih

/-- The digits of a pattern of 64 bits are read back. -/
theorem word?_paddedHex (width : Nat) (n : UInt64) :
    word? (Text.paddedHex width n.toNat).toList = some n := by
  have hread : hexFrom? 0 (Text.paddedHex width n.toNat).toList = some n.toNat := by
    rw [Text.paddedHex, String.toList_ofList, hexFrom?_replicate, hexFrom?_toDigits]
  have hne : (Text.paddedHex width n.toNat).toList ≠ [] := by
    rw [Text.paddedHex, String.toList_ofList]
    simp [Nat.toDigits_ne_nil]
  have hplus : (Text.paddedHex width n.toNat).toList.head? ≠ some '+' := by
    intro hhead
    obtain ⟨cs, hcs⟩ := List.head?_eq_some_iff.1 hhead
    rw [hcs, hexFrom?, show digit? '+' = none from rfl] at hread
    cases hread
  have hlt := n.toNat_lt
  unfold word?
  simp only [if_neg hplus, hread, List.isEmpty_eq_false_iff.2 hne]
  rw [if_neg Bool.false_ne_true, if_pos (by omega), UInt64.ofNat_toNat]

/-- The text of a float that is not finite is read as that float. -/
theorem ofText?_text {x : Binary64} (h : x.isFinite = false) : ofText? (text x) = some x := by
  cases hnan : x.isNaN with
  | true =>
    by_cases hx : x = .nan
    · subst hx
      rfl
    · have htext : text x = "NaN:0x" ++ Text.paddedHex 16 x.bits.toNat := by
        rw [text, if_pos hnan, if_neg hx]
      have hchars : (text x).toList = ['N', 'a', 'N', ':', '0', 'x'] ++ (Text.paddedHex 16 x.bits.toNat).toList := by
        rw [htext, String.toList_append]
        rfl
      -- the text is longer than the three others that stand for floats, or begins with another letter
      have hne : ∀ s : String, s.toList.take 4 ≠ ['N', 'a', 'N', ':'] → text x ≠ s := by
        rintro s hs rfl
        exact hs (by rw [hchars]; rfl)
      unfold ofText?
      rw [if_neg (hne _ (by decide)), if_neg (hne _ (by decide)), if_neg (hne _ (by decide)), hchars]
      simp only [List.cons_append, List.nil_append, word?_paddedHex]
      rw [if_pos hnan]
  | false =>
    have hx := Binary64.eq_infinity h hnan
    rw [text, hnan]
    cases hneg : x.isNegative with
    | true =>
      rw [hneg, if_pos rfl] at hx
      rw [hx]
      rfl
    | false =>
      rw [hneg, if_neg Bool.false_ne_true] at hx
      rw [hx]
      rfl

end NonFinite

end ChunkTree
