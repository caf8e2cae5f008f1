import Mathlib.Data.List.Forall2
import ChunkTree.Binary.Cursor

/-!
# What parsers take from a range

`Parse.Takes p pos bytes x` says that `p`, started at the offset `pos`, uses up exactly `bytes` and answers
`x`, whatever follows.  Parsers that run one after the other take their bytes one after the other
(`Takes.bind`).  Conversely `Parse.bind_eq_ok` takes a successful run apart, and `Cursor.Within` says of it
that it went no further than it had to.
-/

namespace ChunkTree

variable {α β : Type}

/-- Items that are each written as some bytes are no more than their bytes. -/
theorem length_le_length_flatMap {encode : α → List UInt8} {xs : List α} (h : ∀ x ∈ xs, encode x ≠ []) :
    xs.length ≤ (xs.flatMap encode).length := by
  induction xs with
  | nil => simp
  | cons x xs ih =>
    have hx := List.length_pos_iff.2 (h x List.mem_cons_self)
    have hxs := ih fun y hy => h y (List.mem_cons_of_mem x hy)
    rw [List.flatMap_cons, List.length_append, List.length_cons]
    omega

/-- A cursor holds as many bytes as it has. -/
theorem Cursor.holds_iff {c : Cursor} {n : Nat} : c.holds n ↔ n ≤ c.rest.length := by
  unfold Cursor.holds
  cases n with
  | zero => simp
  | succ n =>
    simp only [Nat.add_one_sub_one, Bool.or_eq_true, Bool.not_eq_true', List.isEmpty_eq_false_iff, ne_eq,
      List.drop_eq_nil_iff]
    grind

/-- A cursor further on in the same range. -/
def Cursor.Leads (c c' : Cursor) : Prop :=
  ∃ used, c.rest = used ++ c'.rest ∧ c'.pos = c.pos + used.length

/-- What leads from a cursor to another one, and would do so were there less after the bytes in between. -/
def Cursor.Within (R : Cursor → Cursor → Prop) (c c' : Cursor) : Prop :=
  ∃ used, c.rest = used ++ c'.rest ∧ c'.pos = c.pos + used.length ∧
    ∀ more, more <+: c'.rest → R ⟨c.pos, used ++ more⟩ ⟨c'.pos, more⟩

namespace Cursor

variable {R S : Cursor → Cursor → Prop} {c d e : Cursor}

theorem Leads.refl (c : Cursor) : c.Leads c :=
  ⟨[], rfl, rfl⟩

theorem Leads.trans (h : c.Leads d) (h' : d.Leads e) : c.Leads e := by
  obtain ⟨used, hrest, hpos⟩ := h
  obtain ⟨used', hrest', hpos'⟩ := h'
  refine ⟨used ++ used', by rw [hrest, hrest', List.append_assoc], ?_⟩
  rw [hpos', hpos, List.length_append, Nat.add_assoc]

/-- The end of the range stays where it is. -/
theorem Leads.pos_add_length (h : c.Leads d) : d.pos + d.rest.length = c.pos + c.rest.length := by
  obtain ⟨used, hrest, hpos⟩ := h
  rw [hrest, hpos, List.length_append, Nat.add_assoc]

theorem Leads.pos_le (h : c.Leads d) : c.pos ≤ d.pos := by
  obtain ⟨used, _, hpos⟩ := h
  omega

theorem Leads.length_le (h : c.Leads d) : d.rest.length ≤ c.rest.length := by
  have := h.pos_add_length
  have := h.pos_le
  omega

theorem Within.leads (h : Within R c d) : c.Leads d := by
  obtain ⟨used, hrest, hpos, _⟩ := h
  exact ⟨used, hrest, hpos⟩

theorem Within.refl (h : ∀ rest, R ⟨c.pos, rest⟩ ⟨c.pos, rest⟩) : Within R c c :=
  ⟨[], rfl, rfl, fun more _ => h more⟩

/-- One step after the other; the place in between is the same. -/
theorem Within.trans (h : Within R c d) (h' : Within S d e) :
    Within (fun a b => ∃ m, m.pos = d.pos ∧ R a m ∧ S m b) c e := by
  obtain ⟨used, hrest, hpos, hR⟩ := h
  obtain ⟨used', hrest', hpos', hS⟩ := h'
  refine ⟨used ++ used', by rw [hrest, hrest', List.append_assoc], ?_, fun more hmore => ?_⟩
  · rw [hpos', hpos, List.length_append, Nat.add_assoc]
  · refine ⟨⟨d.pos, used' ++ more⟩, rfl, ?_, hS more hmore⟩
    have := hR (used' ++ more) (by rwa [hrest', List.prefix_append_right_inj])
    rwa [← List.append_assoc] at this

theorem Within.imp (h : Within R c d) (hRS : ∀ a b, a.pos = c.pos → b.pos = d.pos → R a b → S a b) :
    Within S c d := by
  obtain ⟨used, hrest, hpos, hR⟩ := h
  exact ⟨used, hrest, hpos, fun more hmore => hRS _ _ rfl rfl (hR more hmore)⟩

/-- The bytes in between may be taken for the whole range. -/
theorem Within.alone (h : Within R c d) :
    R ⟨c.pos, c.rest.take (d.pos - c.pos)⟩ ⟨c.pos + (c.rest.take (d.pos - c.pos)).length, []⟩ := by
  obtain ⟨used, hrest, hpos, hR⟩ := h
  have hlength : d.pos - c.pos = used.length := by omega
  have := hR [] (List.nil_prefix)
  rw [List.append_nil, hpos] at this
  rwa [hlength, hrest, List.take_left]

end Cursor

namespace Parse

theorem bind_eq_ok {p : Parse α} {f : α → Parse β} {c c' : Cursor} {b : β} :
    (p >>= f) c = .ok b c' ↔ ∃ a d, p c = .ok a d ∧ f a d = .ok b c' := by
  show EStateM.bind p f c = _ ↔ _
  unfold EStateM.bind
  cases p c with
  | ok a d => exact ⟨fun h => ⟨a, d, rfl, h⟩, by rintro ⟨_, _, ⟨⟩, h⟩; exact h⟩
  | error e d => simp

theorem bind_of_ok {p : Parse α} {f : α → Parse β} {c d : Cursor} {a : α} (h : p c = .ok a d) :
    (p >>= f) c = f a d := by
  show EStateM.bind p f c = _
  rw [EStateM.bind, h]

theorem bind_of_error {p : Parse α} {f : α → Parse β} {c d : Cursor} {e : Error} (h : p c = .error e d) :
    (p >>= f) c = .error e d := by
  show EStateM.bind p f c = _
  rw [EStateM.bind, h]

/-- Parsers with the same answer, each at its own place, can be gone on from in the same way. -/
theorem bind_congr_left {p q : Parse α} (f : α → Parse β) {c d : Cursor} (h : p c = q d) :
    (p >>= f) c = (q >>= f) d := by
  show EStateM.bind p f c = EStateM.bind q f d
  rw [EStateM.bind, EStateM.bind, h]

theorem position_bind (f : Nat → Parse β) (c : Cursor) : (position >>= f) c = f c.pos c :=
  rfl

theorem isEmpty_bind (f : Bool → Parse β) (c : Cursor) : (isEmpty >>= f) c = f c.rest.isEmpty c :=
  rfl

theorem pure_eq_ok {a b : α} {c c' : Cursor} : (pure a : Parse α) c = .ok b c' ↔ a = b ∧ c = c' := by
  show EStateM.pure a c = _ ↔ _
  simp [EStateM.pure]

theorem throw_ne_ok {e : Error} {b : α} {c c' : Cursor} : (throw e : Parse α) c ≠ .ok b c' := by
  intro h
  cases h

theorem position_eq_ok {c c' : Cursor} {n : Nat} : position c = .ok n c' ↔ c.pos = n ∧ c = c' := by
  simp [position]

theorem isEmpty_eq_ok {c c' : Cursor} {b : Bool} : isEmpty c = .ok b c' ↔ c.rest.isEmpty = b ∧ c = c' := by
  simp [isEmpty]

theorem atMostRemaining_eq_ok {c c' : Cursor} {n : Nat} :
    atMostRemaining n c = .ok () c' ↔ n ≤ c.rest.length ∧ c = c' := by
  rw [atMostRemaining, ← Cursor.holds_iff]
  split <;> simp_all

/-- Bytes that are read are those in front of what is left. -/
theorem bytes_eq_ok {n : Nat} {c c' : Cursor} {bs : List UInt8} :
    bytes n c = .ok bs c' ↔ bs.length = n ∧ c.rest = bs ++ c'.rest ∧ c'.pos = c.pos + n := by
  unfold bytes
  split
  · rename_i hn
    have hle := Cursor.holds_iff.1 hn
    simp only [EStateM.Result.ok.injEq, Cursor.advance]
    constructor
    · rintro ⟨rfl, rfl⟩
      exact ⟨List.length_take_of_le hle, (List.take_append_drop n c.rest).symm, rfl⟩
    · rintro ⟨rfl, hrest, hpos⟩
      rw [hrest, List.take_left, List.drop_left, ← hpos]
      exact ⟨rfl, rfl⟩
  · rename_i hn
    refine ⟨nofun, ?_⟩
    rintro ⟨rfl, hrest, _⟩
    refine absurd (Cursor.holds_iff.2 ?_) hn
    rw [hrest, List.length_append]
    omega

theorem bytes_of_lt {n : Nat} {c : Cursor} (h : c.rest.length < n) :
    bytes n c = .error (.truncated n c.rest.length) c := by
  have : ¬c.holds n := by
    rw [Cursor.holds_iff]
    omega
  rw [bytes, if_neg this, Cursor.remaining]

/-- A parser takes the bytes at an offset and answers `x`, whatever follows. -/
def Takes (p : Parse α) (pos : Nat) (bytes : List UInt8) (x : α) : Prop :=
  ∀ rest, p ⟨pos, bytes ++ rest⟩ = .ok x ⟨pos + bytes.length, rest⟩

theorem takes_pure (pos : Nat) (x : α) : Takes (pure x) pos [] x := by
  intro rest
  rfl

theorem Takes.bind {p : Parse α} {f : α → Parse β} {pos : Nat} {a b : List UInt8} {x : α} {y : β}
    (hp : p.Takes pos a x) (hf : (f x).Takes (pos + a.length) b y) : (p >>= f).Takes pos (a ++ b) y := by
  intro rest
  refine bind_eq_ok.2 ⟨x, ⟨pos + a.length, b ++ rest⟩, ?_, ?_⟩
  · rw [List.append_assoc]
    exact hp (b ++ rest)
  · rw [hf rest, List.length_append, Nat.add_assoc]

/-- What is answered may be changed afterwards. -/
theorem Takes.map {p : Parse α} {pos : Nat} {a : List UInt8} {x : α} (f : α → β) (hp : p.Takes pos a x) :
    (do return f (← p) : Parse β).Takes pos a (f x) := by
  have h := Takes.bind (f := fun x => pure (f x)) hp (takes_pure _ _)
  rwa [List.append_nil] at h

/-- A parser that succeeds without moving can be run first. -/
theorem Takes.bind_still {p : Parse α} {f : α → Parse β} {pos : Nat} {bytes : List UInt8} {x : α} {y : β}
    (hp : ∀ rest, p ⟨pos, bytes ++ rest⟩ = .ok x ⟨pos, bytes ++ rest⟩) (hf : (f x).Takes pos bytes y) :
    (p >>= f).Takes pos bytes y := by
  intro rest
  exact bind_eq_ok.2 ⟨x, _, hp rest, hf rest⟩

theorem takes_position_bind {f : Nat → Parse β} {pos : Nat} {bytes : List UInt8} {y : β}
    (hf : (f pos).Takes pos bytes y) : (position >>= f).Takes pos bytes y :=
  .bind_still (fun _ => rfl) hf

theorem takes_atMostRemaining_bind {f : Unit → Parse β} {pos n : Nat} {bytes : List UInt8} {y : β}
    (hn : n ≤ bytes.length) (hf : (f ()).Takes pos bytes y) :
    (atMostRemaining n >>= f).Takes pos bytes y := by
  refine .bind_still (fun rest => ?_) hf
  have : Cursor.holds ⟨pos, bytes ++ rest⟩ n := by
    rw [Cursor.holds_iff, List.length_append]
    omega
  simp [atMostRemaining, this]

theorem takes_bytes (pos : Nat) (bytes : List UInt8) : (Parse.bytes bytes.length).Takes pos bytes bytes := by
  intro rest
  have : Cursor.holds ⟨pos, bytes ++ rest⟩ bytes.length := by
    rw [Cursor.holds_iff, List.length_append]
    omega
  simp [Parse.bytes, this, Cursor.advance]

/-- Parsers that each take their own bytes, one after the other. -/
theorem takes_replicate {p : Parse α} {encode : α → List UInt8} :
    ∀ (xs : List α) (pos : Nat), (∀ x ∈ xs, ∀ pos, p.Takes pos (encode x) x) →
      (replicate p xs.length).Takes pos (xs.flatMap encode) xs
  | [], pos, _ => takes_pure pos []
  | x :: xs, pos, h => by
    have hx := h x List.mem_cons_self pos
    have hxs := takes_replicate xs (pos + (encode x).length) fun y hy => h y (List.mem_cons_of_mem x hy)
    exact hx.bind (hxs.map (x :: ·))

end Parse

end ChunkTree
