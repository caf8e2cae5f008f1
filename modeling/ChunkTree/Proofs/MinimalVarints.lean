import ChunkTree.Proofs.ContentRead
import ChunkTree.Proofs.VarintShortest

/-!
# Runs of varints and their minimal forms

Bytes that are read as words one after the other are a run of forms of these words (`Parse.spells_of_replicate`,
`Parse.spells_of_all`), and can be cut into these forms again, behind each byte below `0x80` (`Varint.cut_flatten`).
A form is minimal if no zero group stands in front, which only the form that is written is
(`Varint.Spells.minimal_iff`).  So writing the words takes no more bytes than the run, and just the bytes of the run
if each form in it is minimal (`Varint.flatMap_encode_eq_iff`).
-/

namespace ChunkTree

namespace Varint

/-- Bytes, cut behind each one below `0x80`. -/
def cut : List UInt8 → List (List UInt8)
  | [] => []
  | b :: bytes =>
    if b < 0x80 then [b] :: cut bytes
    else
      match cut bytes with
      | [] => [[b]]
      | part :: parts => (b :: part) :: parts

/-- Whether no zero group stands in front of a varint. -/
def Minimal (part : List UInt8) : Prop :=
  part.head? ≠ some 0x80

instance (part : List UInt8) : Decidable (Minimal part) :=
  inferInstanceAs (Decidable (part.head? ≠ some 0x80))

variable {part : List UInt8} {parts : List (List UInt8)} {v : UInt32} {words : List UInt32}

theorem cut_append (h : Ended part) (bytes : List UInt8) : cut (part ++ bytes) = part :: cut bytes := by
  obtain ⟨front, last, rfl, hfront, hlast⟩ := h
  induction front with
  | nil => rw [List.nil_append, List.singleton_append, cut, if_pos hlast]
  | cons b front ih =>
    obtain ⟨hb, hfront⟩ := continued_cons.1 hfront
    rw [List.cons_append, List.cons_append, cut, if_neg (UInt8.not_lt.2 hb), ih hfront]

/-- A run of varints is cut into them. -/
theorem cut_flatten (h : List.Forall₂ Spells parts words) : cut parts.flatten = parts := by
  induction h with
  | nil => rfl
  | cons hpart _ ih => rw [List.flatten_cons, cut_append (spells_iff.1 hpart).1, ih]

/-- A group that is not zero makes the number too large for fewer groups. -/
theorem pow_le_number {b : UInt8} (hb : 0x80 ≤ b) (hne : b ≠ 0x80) (bytes : List UInt8) :
    128 ^ bytes.length ≤ number (b :: bytes) := by
  have hlow : (0x80 : UInt8).toNat = 128 := rfl
  have hle := UInt8.le_iff_toNat_le.1 hb
  have hne : b.toNat ≠ 128 := fun h => hne (UInt8.toNat_inj.1 h)
  have hlt := b.toNat_lt
  have := Nat.le_mul_of_pos_left (128 ^ bytes.length) (show 0 < b.toNat % 128 by omega)
  rw [number]
  omega

/-- The form that is written is the only one without zero groups in front. -/
theorem Spells.minimal_iff (h : Spells part v) : Minimal part ↔ encode v = part := by
  have hnumber := (spells_iff.1 h).2
  constructor
  · intro hminimal
    refine (h.eq_encode_or_longer.resolve_right fun hlonger => ?_).symm
    obtain ⟨front, last, rfl, hfront, _⟩ := h
    cases front with
    | nil => exact absurd hlonger (Nat.not_lt.2 (size_pos v))
    | cons b front =>
      have hle := pow_le_number (continued_cons.1 hfront).1 (fun hb => hminimal (by rw [hb]; rfl)) (front ++ [last])
      have hlt := toNat_lt_pow_size v
      rw [← hnumber] at hlt
      have hpow : 128 ^ size v ≤ 128 ^ (front ++ [last]).length :=
        Nat.pow_le_pow_right (by decide) (Nat.le_of_lt_succ (by simpa using hlonger))
      exact absurd (hlt.trans_le hpow) (Nat.not_lt.2 hle)
  · rintro rfl hhead
    obtain ⟨rest, hrest⟩ := List.head?_eq_some_iff.1 hhead
    -- the word would fit in the groups behind the zero group
    have hrest_ne : rest ≠ [] := by
      rintro rfl
      obtain ⟨front, last, hlast, _, hsmall, _⟩ := h
      obtain ⟨-, hlast⟩ := List.append_inj' (hlast.symm.trans hrest : front ++ [last] = [] ++ [0x80]) rfl
      exact absurd (List.head_eq_of_cons_eq hlast ▸ hsmall) (by decide)
    have hlt := number_lt rest
    have hzero : number (0x80 :: rest) = number rest := by simp [number]
    rw [hrest, hzero] at hnumber
    have hsize := size_le (List.length_pos_iff.2 hrest_ne) (hnumber ▸ hlt)
    have hlength := congrArg List.length hrest
    rw [length_encode, List.length_cons] at hlength
    omega

theorem Spells.size_le (h : Spells part v) : size v ≤ part.length := by
  rcases h.eq_encode_or_longer with rfl | hlonger
  · exact (length_encode v).ge
  · exact hlonger.le

/-- Words are written in no more bytes than any run of their forms. -/
theorem length_flatMap_encode_le (h : List.Forall₂ Spells parts words) :
    (words.flatMap encode).length ≤ parts.flatten.length := by
  induction h with
  | nil => exact Nat.le_refl _
  | cons hpart _ ih =>
    have := hpart.size_le
    rw [List.flatMap_cons, List.flatten_cons, List.length_append, List.length_append, length_encode]
    omega

/-- Words are written as a run of their forms just if each of these is minimal. -/
theorem flatMap_encode_eq_iff (h : List.Forall₂ Spells parts words) :
    words.flatMap encode = parts.flatten ↔ ∀ part ∈ parts, Minimal part := by
  induction h with
  | nil => simp
  | @cons part v parts words hpart hparts ih =>
    rw [List.flatMap_cons, List.flatten_cons, List.forall_mem_cons, hpart.minimal_iff, ← ih]
    refine ⟨fun heq => ?_, fun ⟨hfirst, hrest⟩ => by rw [hfirst, hrest]⟩
    -- neither part is longer when written, so both are as long
    have hlength := congrArg List.length heq
    have hsize := hpart.size_le
    have hle := length_flatMap_encode_le hparts
    simp only [List.length_append, length_encode] at hlength
    exact List.append_inj heq (by rw [length_encode]; omega)

end Varint

/-! ## Reading runs -/

namespace Parse

open Varint (Spells parse_eq_ok)

variable {c c' : Cursor}

theorem spells_of_replicate {n : Nat} {vs : List UInt32} (h : replicate Varint.parse n c = .ok vs c') :
    ∃ parts, List.Forall₂ Spells parts vs ∧ c.rest = parts.flatten ++ c'.rest := by
  induction n generalizing c vs with
  | zero =>
    obtain ⟨rfl, rfl⟩ := pure_eq_ok.1 h
    exact ⟨[], .nil, rfl⟩
  | succ n ih =>
    obtain ⟨v, d, hv, h⟩ := bind_eq_ok.1 h
    obtain ⟨vs, d', hvs, h⟩ := bind_eq_ok.1 h
    obtain ⟨rfl, rfl⟩ := pure_eq_ok.1 h
    obtain ⟨part, hpart, hrest, _⟩ := parse_eq_ok.1 hv
    obtain ⟨parts, hparts, hrest'⟩ := ih hvs
    exact ⟨part :: parts, .cons hpart hparts, by rw [hrest, hrest', List.flatten_cons, List.append_assoc]⟩

theorem spells_of_all {ns : List Int32} (h : all Varint.parseSigned c = .ok ns c') :
    ∃ parts, List.Forall₂ Spells parts (ns.map Int32.toUInt32) ∧ c.rest = parts.flatten ++ c'.rest := by
  induction ns generalizing c with
  | nil =>
    obtain ⟨_, _, rfl⟩ | ⟨_, _, _, _, _, ⟨⟩⟩ := (all_eq_ok Varint.moves_parseSigned).1 h
    exact ⟨[], .nil, rfl⟩
  | cons n ns ih =>
    obtain ⟨_, ⟨⟩, _⟩ | ⟨_, d, _, hn, hns, heq⟩ := (all_eq_ok Varint.moves_parseSigned).1 h
    obtain ⟨rfl, rfl⟩ := List.cons.inj heq
    obtain ⟨v, _, hv, hn⟩ := bind_eq_ok.1 hn
    obtain ⟨rfl, rfl⟩ := pure_eq_ok.1 hn
    obtain ⟨part, hpart, hrest, _⟩ := parse_eq_ok.1 hv
    obtain ⟨parts, hparts, hrest'⟩ := ih hns
    exact ⟨part :: parts, .cons hpart hparts, by rw [hrest, hrest', List.flatten_cons, List.append_assoc]⟩

end Parse

namespace MapTree

open Varint (Spells)

/-- The words of a map tree, in the order in which they are stored. -/
def words (t : MapTree) : List UInt32 :=
  UInt32.ofNat t.nodes.length :: t.nodes ++ [t.active]

theorem encode_eq (t : MapTree) : t.encode = t.words.flatMap Varint.encode := by
  rw [encode, words, List.flatMap_append, List.flatMap_cons, List.flatMap_singleton]
  rfl

theorem spells_of_parse {t : MapTree} {c c' : Cursor} (h : parse c = .ok t c') :
    ∃ parts, List.Forall₂ Spells parts t.words ∧ c.rest = parts.flatten ++ c'.rest := by
  obtain ⟨count, d, hcount, h⟩ := Parse.bind_eq_ok.1 h
  obtain ⟨_, d', hd', h⟩ := Parse.bind_eq_ok.1 h
  obtain ⟨_, rfl⟩ := Parse.atMostRemaining_eq_ok.1 hd'
  obtain ⟨nodes, e, hnodes, h⟩ := Parse.bind_eq_ok.1 h
  obtain ⟨active, e', hactive, h⟩ := Parse.bind_eq_ok.1 h
  obtain ⟨rfl, rfl⟩ := Parse.pure_eq_ok.1 h
  obtain ⟨word, hword, rfl⟩ := Varint.parseLength_eq_ok.1 hcount
  obtain ⟨first, hfirst, hrest, _⟩ := Varint.parse_eq_ok.1 hword
  obtain ⟨parts, hparts, hrest'⟩ := Parse.spells_of_replicate hnodes
  obtain ⟨last, hlast, hrest'', _⟩ := Varint.parse_eq_ok.1 hactive
  have hcountWord : UInt32.ofNat nodes.length = word := by
    rw [Parse.length_of_replicate hnodes, UInt32.ofNat_toNat]
  refine ⟨first :: parts ++ [last], List.rel_append (.cons ?_ hparts) (.cons hlast .nil), ?_⟩
  · exact hcountWord ▸ hfirst
  · simp [hrest, hrest', hrest'']

end MapTree

end ChunkTree
