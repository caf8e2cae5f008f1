import Mathlib.Data.List.Induction
import Mathlib.Tactic.Ring
import ChunkTree.Proofs.Varint

/-!
# All forms of a varint

A range starts with a varint in some form (`Spells`), or it is faulty (`Faulty`): it starts with groups that
exceed 32 bits, or it ends inside a varint.  One of the two holds of every range (`spells_or_faulty`), so that
reading answers a word exactly where one is spelled (`parse_eq_ok`) and fails exactly where the range is faulty
(`parse_eq_error`).
-/

namespace ChunkTree

namespace Varint

/-- The number that bytes stand for: the lowest seven bits of each, the most significant first. -/
def number : List UInt8 → Nat
  | [] => 0
  | b :: bs => b.toNat % 128 * 128 ^ bs.length + number bs

/-- Bytes that announce another one: the high bit is set on each of them. -/
def Continued (bytes : List UInt8) : Prop :=
  ∀ b ∈ bytes, 0x80 ≤ b

/-- The bytes are a varint of a word, in the shortest form or with zero groups in front. -/
def Spells (bytes : List UInt8) (v : UInt32) : Prop :=
  ∃ front last, bytes = front ++ [last] ∧ Continued front ∧ last < 0x80 ∧ number bytes = v.toNat

/-- The bytes are groups of a word and announce another group. -/
def Unfinished (bytes : List UInt8) : Prop :=
  Continued bytes ∧ number bytes < 0x100000000

/-- The bytes start with groups that, with the next one, are too large for 32 bits. -/
def Overflows (bytes : List UInt8) : Prop :=
  ∃ front next more, bytes = front ++ next :: more ∧ Unfinished front ∧
    0x100000000 ≤ number (front ++ [next])

/-- The bytes from `pos` on do not start with a varint, and the error that reading one answers. -/
def Faulty (pos : Nat) (bytes : List UInt8) (e : Error) : Prop :=
  Overflows bytes ∧ e = .varintOverflow pos ∨ Unfinished bytes ∧ e = .truncated 1 0

variable {bytes front : List UInt8} {b : UInt8} {v : UInt32} {start acc pos : Nat} {e : Error}

theorem continued_nil : Continued [] := by
  simp [Continued]

theorem continued_cons : Continued (b :: bytes) ↔ 0x80 ≤ b ∧ Continued bytes := by
  simp [Continued]

/-- What was gathered before stands above the groups that follow. -/
theorem gathered_cons (acc : Nat) (b : UInt8) (bytes : List UInt8) :
    acc * 128 ^ (b :: bytes).length + number (b :: bytes) =
      (acc * 128 + b.toNat % 128) * 128 ^ bytes.length + number bytes := by
  rw [number, List.length_cons, Nat.pow_succ]
  ring

theorem gathered_le (acc : Nat) (bytes : List UInt8) : acc ≤ acc * 128 ^ bytes.length + number bytes := by
  have := Nat.le_mul_of_pos_right acc (Nat.pow_pos (n := bytes.length) (show 0 < 128 by decide))
  omega

/-- Reading groups of a word only gathers them. -/
theorem accumulate_continued (more : List UInt8) (hfront : Continued front)
    (hfits : acc * 128 ^ front.length + number front < 0x100000000) :
    accumulate start acc pos (front ++ more) =
      accumulate start (acc * 128 ^ front.length + number front) (pos + front.length) more := by
  induction front generalizing acc pos with
  | nil => simp [number]
  | cons b front ih =>
    obtain ⟨hb, hfront⟩ := continued_cons.1 hfront
    rw [gathered_cons] at hfits ⊢
    have := gathered_le (acc * 128 + b.toNat % 128) front
    rw [List.cons_append, accumulate]
    rw [if_neg (by omega), if_neg (UInt8.not_lt.2 hb), ih hfront hfits, List.length_cons]
    congr 1
    omega

/-- The groups in front of one that follows are less than all of them. -/
theorem number_append_singleton (front : List UInt8) (last : UInt8) :
    number (front ++ [last]) = number front * 128 + last.toNat % 128 := by
  induction front with
  | nil => simp [number]
  | cons b front ih =>
    rw [List.cons_append, number, number, ih, List.length_append, List.length_singleton, Nat.pow_succ]
    ring

/-- A byte without the high bit is a varint. -/
theorem spells_singleton (h : b < 0x80) : Spells [b] b.toUInt32 := by
  have := UInt8.lt_iff_toNat_lt.1 h
  exact ⟨[], b, rfl, continued_nil, h, by simpa [number] using this⟩

theorem Spells.ne_nil (h : Spells bytes v) : bytes ≠ [] := by
  obtain ⟨front, last, rfl, _⟩ := h
  exact List.append_ne_nil_of_right_ne_nil _ (List.cons_ne_nil _ _)

/-- A range that starts with a varint: the word is read, and what follows is left. -/
theorem parse_of_spells {c : Cursor} (more : List UInt8) (h : Spells bytes v) (hc : c.rest = bytes ++ more) :
    parse c = .ok v ⟨c.pos + bytes.length, more⟩ := by
  obtain ⟨front, last, rfl, hfront, hlast, hnumber⟩ := h
  have hword := v.toNat_lt
  have hsplit := number_append_singleton front last
  rw [parse, hc, List.append_assoc, accumulate_continued _ hfront (by omega), List.singleton_append,
    accumulate]
  simp only [Nat.zero_mul, Nat.zero_add]
  rw [if_neg (by omega), if_pos hlast, ← hsplit, hnumber, UInt32.ofNat_toNat, List.length_append]
  rfl

theorem parseLength_of_spells {c : Cursor} (more : List UInt8) (h : Spells bytes v)
    (hc : c.rest = bytes ++ more) : parseLength c = .ok v.toNat ⟨c.pos + bytes.length, more⟩ :=
  Parse.bind_of_ok (parse_of_spells more h hc)

/-- A range that starts with too large a number is refused with the offset of its start, a range that ends
inside a varint for a byte that is missing. -/
theorem parse_of_faulty {c : Cursor} (h : Faulty c.pos c.rest e) : ∃ c', parse c = .error e c' := by
  rcases h with ⟨⟨front, next, more, hc, ⟨hfront, hword⟩, hlarge⟩, rfl⟩ | ⟨⟨hmore, hword⟩, rfl⟩
  · rw [number_append_singleton] at hlarge
    rw [parse, hc, accumulate_continued _ hfront (by omega), accumulate]
    simp only [Nat.zero_mul, Nat.zero_add]
    rw [if_pos hlarge]
    exact ⟨_, rfl⟩
  · have : accumulate c.pos 0 c.pos (c.rest ++ []) = _ := accumulate_continued [] hmore (by omega)
    rw [List.append_nil] at this
    exact ⟨_, by rw [parse, this, accumulate]⟩

theorem parseLength_of_faulty {c : Cursor} (h : Faulty c.pos c.rest e) :
    ∃ c', parseLength c = .error e c' := by
  obtain ⟨c', hc'⟩ := parse_of_faulty h
  exact ⟨c', Parse.bind_of_error hc'⟩

/-- The first byte without the high bit ends a varint, unless 32 bits are exceeded before. -/
theorem spells_or_overflows_or_unfinished (bytes : List UInt8) :
    (∃ used more v, bytes = used ++ more ∧ Spells used v) ∨ Overflows bytes ∨ Unfinished bytes := by
  induction bytes using List.reverseRecOn with
  | nil => exact .inr (.inr ⟨continued_nil, by decide⟩)
  | append_singleton front next ih =>
    obtain ⟨used, more, v, rfl, hused⟩ | ⟨front', next', more, rfl, hfront, hlarge⟩ | hfront := ih
    · exact .inl ⟨used, more ++ [next], v, List.append_assoc .., hused⟩
    · exact .inr (.inl ⟨front', next', more ++ [next], by simp, hfront, hlarge⟩)
    by_cases hlarge : 0x100000000 ≤ number (front ++ [next])
    · exact .inr (.inl ⟨front, next, [], rfl, hfront, hlarge⟩)
    have hword : number (front ++ [next]) < 0x100000000 := Nat.lt_of_not_le hlarge
    by_cases hlast : next < 0x80
    · refine .inl ⟨front ++ [next], [], UInt32.ofNat (number (front ++ [next])), by simp, ?_⟩
      exact ⟨front, next, rfl, hfront.1, hlast, (UInt32.toNat_ofNat_of_lt' hword).symm⟩
    · refine .inr (.inr ⟨fun b hb => ?_, hword⟩)
      rcases List.mem_append.1 hb with hb | hb
      · exact hfront.1 b hb
      · rw [List.mem_singleton.1 hb]
        exact UInt8.not_lt.1 hlast

theorem spells_or_faulty (pos : Nat) (bytes : List UInt8) :
    (∃ used more v, bytes = used ++ more ∧ Spells used v) ∨ ∃ e, Faulty pos bytes e := by
  obtain h | h | h := spells_or_overflows_or_unfinished bytes
  · exact .inl h
  · exact .inr ⟨_, .inl ⟨h, rfl⟩⟩
  · exact .inr ⟨_, .inr ⟨h, rfl⟩⟩

theorem parse_eq_ok {c c' : Cursor} : parse c = .ok v c' ↔
    ∃ used, Spells used v ∧ c.rest = used ++ c'.rest ∧ c'.pos = c.pos + used.length := by
  constructor
  · intro h
    obtain ⟨used, more, w, hc, hused⟩ | ⟨e, hfaulty⟩ := spells_or_faulty c.pos c.rest
    · obtain ⟨rfl, rfl⟩ : v = w ∧ c' = ⟨c.pos + used.length, more⟩ := by
        simpa [h] using parse_of_spells more hused hc
      exact ⟨used, hused, hc, rfl⟩
    · obtain ⟨_, hfails⟩ := parse_of_faulty hfaulty
      cases h.symm.trans hfails
  · rintro ⟨used, hused, hc, hpos⟩
    rw [parse_of_spells c'.rest hused hc, ← hpos]

/-- What is written is a form of the word. -/
theorem spells_encode (v : UInt32) : Spells (encode v) v := by
  obtain ⟨used, hused, hrest, _⟩ := parse_eq_ok.1 (takes_parse 0 v [])
  obtain rfl : encode v = used := List.append_cancel_right hrest
  exact hused

theorem parse_eq_error {c : Cursor} : (∃ c', parse c = .error e c') ↔ Faulty c.pos c.rest e := by
  refine ⟨?_, parse_of_faulty⟩
  rintro ⟨c', h⟩
  obtain ⟨used, more, w, hc, hused⟩ | ⟨e', hfaulty⟩ := spells_or_faulty c.pos c.rest
  · cases h.symm.trans (parse_of_spells more hused hc)
  · obtain ⟨_, hfails⟩ := parse_of_faulty hfaulty
    cases h.symm.trans hfails
    exact hfaulty

end Varint

end ChunkTree
