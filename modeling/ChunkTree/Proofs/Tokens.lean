import Mathlib.Data.List.Basic
import ChunkTree.Proofs.ObjectKeys
import ChunkTree.Value.Printer
import ChunkTree.Value.Reader

/-!
# Strings and numbers in the text of a value

What is written for a string is read as that string, whatever characters it has (`Value.readString_escaped`),
and what is written for a 64-bit number is read as that number (`Value.readLiteral_int`).  A string ends at
its quote; a number ends where something stands that cannot go on with it (`Value.EndsNumber`).
-/

namespace ChunkTree.Value

/-! ## Strings -/

/-- A character that needs no escape stands for itself. -/
theorem readString_plain {c : Char} {rest : List Char} (hquote : c ≠ '"') (hbackslash : c ≠ '\\')
    (hcontrol : 0x20 ≤ c.toNat) :
    readString (c :: rest) = (readString rest).map fun (cs, rest) => (c :: cs, rest) := by
  rw [readString]
  · rw [if_neg]
    rintro (h | h)
    · omega
    · exact hbackslash h
  · exact hquote
  · rintro a b c d r rfl
    exact absurd rfl hbackslash
  · rintro e r rfl
    exact absurd rfl hbackslash

theorem readString_escape {e char : Char} {rest : List Char} (he : escape? e = some char) :
    readString ('\\' :: e :: rest) = (readString rest).map fun (cs, rest) => (char :: cs, rest) := by
  rw [readString, he]
  rintro a b c d r rfl
  cases he

/-- A control character is written with two hexadecimal digits. -/
theorem unit?_control : ∀ n < 0x20,
    unit? '0' '0' (Nat.digitChar (n / 16)) (Nat.digitChar (n % 16)) = some n := by
  decide

theorem readString_control {c : Char} {rest : List Char} (h : c.toNat < 0x20) :
    readString ('\\' :: 'u' :: '0' :: '0' :: Nat.digitChar (c.toNat / 16) :: Nat.digitChar (c.toNat % 16) ::
      rest) = (readString rest).map fun (cs, rest) => (c :: cs, rest) := by
  have hunit : c.toNat < 0xd800 ∨ 0xe000 ≤ c.toNat := .inl (by omega)
  rw [readString, unit?_control _ h]
  simp only [if_pos hunit, Char.ofNat_toNat]

theorem readString_escapeChar (c : Char) (rest : List Char) :
    readString (escapeChar c ++ rest) = (readString rest).map fun (cs, rest) => (c :: cs, rest) := by
  unfold escapeChar
  split
  iterate 7 exact readString_escape rfl
  rename_i hquote hbackslash _ _ _ _ _
  split
  · rename_i hcontrol
    exact readString_control hcontrol
  · rename_i hcontrol
    exact readString_plain hquote hbackslash (by omega)

/-- Escaped characters are read back up to the quote that follows them. -/
theorem readString_escaped (cs rest : List Char) :
    readString (cs.flatMap escapeChar ++ '"' :: rest) = some (cs, rest) := by
  induction cs with
  | nil => exact readString.eq_2 rest
  | cons c cs ih => rw [List.flatMap_cons, List.append_assoc, readString_escapeChar, ih, Option.map_some]

/-! ## Numbers -/

/-- What may follow a number: nothing that would go on with it. -/
def EndsNumber (rest : List Char) : Prop :=
  ∀ c ∈ rest.head?, c.isDigit = false ∧ c ≠ '.' ∧ c ≠ 'e' ∧ c ≠ 'E'

/-- The digits that stand in front of something else. -/
theorem readDigits_append {ds rest : List Char} (hdigits : ∀ c ∈ ds, c.isDigit)
    (hrest : EndsNumber rest) :
    readDigits (ds ++ rest) = (ds.map fun c => c.toNat - 48, rest) := by
  have hstop : ∀ c ∈ rest.head?, c.isDigit = false := fun c hc => (hrest c hc).1
  have htake : rest.takeWhile Char.isDigit = [] := by
    cases rest with
    | nil => rfl
    | cons c rest => exact List.takeWhile_cons_of_neg (by simp [hstop c rfl])
  have hdrop : rest.dropWhile Char.isDigit = rest := by
    cases rest with
    | nil => rfl
    | cons c rest => exact List.dropWhile_cons_of_neg (by simp [hstop c rfl])
  rw [readDigits, List.takeWhile_append_of_pos hdigits, List.dropWhile_append_of_pos hdigits, htake, hdrop,
    List.append_nil]

theorem isDigit_toDigits (n : Nat) : ∀ c ∈ Nat.toDigits 10 n, c.isDigit :=
  fun _ hc => Nat.isDigit_of_mem_toDigits (by decide) (by decide) hc

/-- Only zero starts with the digit zero. -/
theorem eq_zero_of_head?_toDigits {n : Nat} (h : (Nat.toDigits 10 n).head? = some '0') : n = 0 := by
  induction n using Nat.strong_induction_on with
  | _ n ih =>
    by_cases hn : n < 10
    · rw [Nat.toDigits_of_lt_base hn] at h
      have hdigit : ∀ n < 10, Nat.digitChar n = '0' → n = 0 := by decide
      exact hdigit n hn (Option.some.inj h)
    · rw [Nat.toDigits_of_base_le (by decide) (by omega),
        List.head?_append_of_ne_nil _ Nat.toDigits_ne_nil] at h
      have := ih (n / 10) (by omega) h
      omega

theorem eq_zero_of_isDigit {c : Char} (hdigit : c.isDigit) (h : c.toNat - 48 = 0) : c = '0' := by
  have hle : 48 ≤ c.toNat := by
    rw [Char.isDigit, Bool.and_eq_true, decide_eq_true_eq] at hdigit
    exact hdigit.1
  have hzero : '0'.toNat = 48 := rfl
  refine Char.toNat_inj.1 ?_
  omega

/-- The digits of a number are read as a whole number: no zero stands in front of others. -/
theorem readWhole_toDigits (n : Nat) {rest : List Char} (hrest : EndsNumber rest) :
    readWhole (Nat.toDigits 10 n ++ rest) = some ((Nat.toDigits 10 n).map fun c => c.toNat - 48, rest) := by
  obtain ⟨c, cs, hcs⟩ := List.exists_cons_of_ne_nil (Nat.toDigits_ne_nil (n := n) (b := 10))
  have hdigit := isDigit_toDigits n c (by rw [hcs]; exact List.mem_cons_self)
  rw [readWhole, readDigits_append (isDigit_toDigits n) hrest, hcs, List.map_cons]
  split
  · rename_i heq
    cases heq
  · rename_i d ds _ heq
    obtain ⟨hc, hds⟩ := List.cons.inj (Prod.mk.inj heq).1
    obtain rfl := eq_zero_of_isDigit hdigit hc
    obtain rfl := eq_zero_of_head?_toDigits (n := n) (by rw [hcs]; rfl)
    obtain rfl : cs = [] := (List.cons.inj hcs).2.symm
    cases hds
  · rfl

theorem le_ofDigitChars {cs : List Char} {n : Nat} : n ≤ Nat.ofDigitChars 10 cs n := by
  induction cs generalizing n with
  | nil => exact le_of_eq Nat.ofDigitChars_nil.symm
  | cons c cs ih =>
    rw [Nat.ofDigitChars_cons]
    exact le_trans (by omega) ih

/-- Digits of a number that fits into 64 bits are all gathered. -/
theorem gather_digits {cs : List Char} {n : Nat} (h : Nat.ofDigitChars 10 cs n < 0x10000000000000000) :
    gather n (cs.map fun c => c.toNat - 48) = (Nat.ofDigitChars 10 cs n, cs.length, 0) := by
  induction cs generalizing n with
  | nil => rfl
  | cons c cs ih =>
    have hzero : '0'.toNat = 48 := rfl
    rw [Nat.ofDigitChars_cons, hzero, Nat.mul_comm] at h ⊢
    rw [List.map_cons, gather, if_pos (le_ofDigitChars.trans_lt h), ih h]
    rfl

theorem gather_toDigits {n : Nat} (h : n < 0x10000000000000000) :
    gather 0 ((Nat.toDigits 10 n).map fun c => c.toNat - 48) = (n, (Nat.toDigits 10 n).length, 0) := by
  have hn : Nat.ofDigitChars 10 (Nat.toDigits 10 n) 0 = n := Nat.ofDigitChars_ten_toDigits
  rw [gather_digits (by rwa [hn]), hn]

theorem readFraction_of_ends {rest : List Char} (h : EndsNumber rest) :
    readFraction rest = some (none, rest) := by
  cases rest with
  | nil => rfl
  | cons c rest =>
    rw [readFraction]
    rintro r heq
    exact (h c rfl).2.1 (List.cons.inj heq).1

theorem readExponent_of_ends {rest : List Char} (h : EndsNumber rest) :
    readExponent rest = some (none, rest) := by
  cases rest with
  | nil => rfl
  | cons c rest =>
    obtain ⟨_, _, hlower, hupper⟩ := h c rfl
    rw [readExponent, if_neg (by simp [hlower, hupper])]

theorem head?_toDigits_append (n : Nat) (rest : List Char) : (Nat.toDigits 10 n ++ rest).head? ≠ some '-' := by
  obtain ⟨c, cs, hcs⟩ := List.exists_cons_of_ne_nil (Nat.toDigits_ne_nil (n := n) (b := 10))
  have hdigit := isDigit_toDigits n c (by rw [hcs]; exact List.mem_cons_self)
  rw [hcs]
  intro h
  obtain rfl := Option.some.inj h
  cases hdigit

/-- A whole number, after a minus sign or not, is read as a literal without a fraction and an exponent. -/
theorem readLiteral_of_readWhole {cs rest : List Char} {digits : List Nat}
    (h : readWhole cs = some (digits, rest)) (hrest : EndsNumber rest) (hhead : cs.head? ≠ some '-') :
    readLiteral cs = some (⟨false, digits, none, none⟩, rest) ∧
      readLiteral ('-' :: cs) = some (⟨true, digits, none, none⟩, rest) := by
  constructor
  · simp [readLiteral, hhead, h, readFraction_of_ends hrest, readExponent_of_ends hrest]
  · simp [readLiteral, h, readFraction_of_ends hrest, readExponent_of_ends hrest]

/-- A whole number is written as its digits, after a minus sign if it is negative. -/
theorem toList_toString (n : Int) : (toString n).toList =
    if 0 ≤ n then Nat.toDigits 10 n.natAbs else '-' :: Nat.toDigits 10 n.natAbs := by
  show n.repr.toList = _
  rw [Int.repr_eq_if]
  split
  · rw [Nat.toList_repr, show n.toNat = n.natAbs by omega]
  · rw [String.toList_append, Nat.toList_repr, show (-n).toNat = n.natAbs by omega]
    rfl

/-- The first character of a whole number. -/
theorem exists_toList_toString (n : Int) :
    ∃ c cs, (toString n).toList = c :: cs ∧ (c = '-' ∨ c.isDigit) := by
  obtain ⟨c, cs, hcs⟩ := List.exists_cons_of_ne_nil (Nat.toDigits_ne_nil (n := n.natAbs) (b := 10))
  rw [toList_toString]
  split
  · exact ⟨c, cs, hcs, .inr (isDigit_toDigits n.natAbs c (by rw [hcs]; exact List.mem_cons_self))⟩
  · exact ⟨'-', _, rfl, .inl rfl⟩

/-- What is written for a 64-bit number is read as that number. -/
theorem readLiteral_int (n : Int64) {rest : List Char} (hrest : EndsNumber rest) :
    ∃ l, readLiteral ((toString n.toInt).toList ++ rest) = some (l, rest) ∧ ofLiteral? l = some (.int n) := by
  have hle := n.le_toInt
  have hlt := n.toInt_lt
  obtain ⟨hplain, hsigned⟩ := readLiteral_of_readWhole (readWhole_toDigits n.toInt.natAbs hrest) hrest
    (head?_toDigits_append _ _)
  have hgather := gather_toDigits (n := n.toInt.natAbs) (by omega)
  rw [toList_toString]
  by_cases hsign : 0 ≤ n.toInt
  · rw [if_pos hsign]
    refine ⟨_, hplain, ?_⟩
    have hofNat : Int64.ofNat n.toInt.natAbs = n := by
      rw [← Int64.ofInt_eq_ofNat, show (n.toInt.natAbs : Int) = n.toInt by omega, Int64.ofInt_toInt]
    simp only [ofLiteral?, Literal.toInt64?, hgather]
    rw [if_neg nofun, if_pos (by omega), hofNat]
  · rw [if_neg hsign]
    refine ⟨_, hsigned, ?_⟩
    have hofInt : Int64.ofInt (-n.toInt.natAbs) = n := by
      rw [show -(n.toInt.natAbs : Int) = n.toInt by omega, Int64.ofInt_toInt]
    simp only [ofLiteral?, Literal.toInt64?, hgather]
    rw [if_pos trivial, if_pos (by omega), hofInt]

end ChunkTree.Value
