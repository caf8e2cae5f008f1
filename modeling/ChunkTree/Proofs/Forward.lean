import ChunkTree.Proofs.Reading
import ChunkTree.View.Table

/-!
# Parsers move forward within their range

Whether it succeeds or fails, a parser leaves its cursor further on in the same range (`Parse.Forward`).  This
holds of reading bytes, is kept by running one parser after the other, and so holds of every parser here.
-/

namespace ChunkTree

open Text (Charset)

variable {α β : Type}

namespace Parse

/-- Where a parser leaves the cursor. -/
def final (p : Parse α) (c : Cursor) : Cursor :=
  match p c with
  | .ok _ d => d
  | .error _ d => d

/-- Whether a parser only moves forward, and not out of the range. -/
def Forward (p : Parse α) : Prop :=
  ∀ c : Cursor, c.Leads (p.final c)

theorem final_bind (p : Parse α) (f : α → Parse β) (c : Cursor) :
    (p >>= f).final c = match p c with
      | .ok x d => (f x).final d
      | .error _ d => d := by
  show (match EStateM.bind p f c with | .ok _ d => d | .error _ d => d) = _
  unfold EStateM.bind final
  cases p c <;> rfl

theorem forward_pure (x : α) : Forward (pure x) :=
  fun c => .refl c

theorem forward_throw (e : Error) : Forward (throw e : Parse α) :=
  fun c => .refl c

theorem Forward.bind {p : Parse α} {f : α → Parse β} (hp : p.Forward) (hf : ∀ x, (f x).Forward) :
    (p >>= f).Forward := by
  intro c
  have h := hp c
  rw [final_bind]
  unfold final at h
  cases hc : p c with
  | ok x d =>
    rw [hc] at h
    exact h.trans (hf x d)
  | error e d =>
    rw [hc] at h
    exact h

theorem Forward.ite {p q : Parse α} {P : Prop} [Decidable P] (hp : p.Forward) (hq : q.Forward) :
    (if P then p else q).Forward := by
  split
  · exact hp
  · exact hq

theorem forward_bytes (n : Nat) : (bytes n).Forward := by
  intro c
  cases h : bytes n c with
  | ok bs d =>
    rw [final, h]
    exact ((local_bytes n).within h).leads
  | error e d =>
    unfold bytes at h
    split at h
    · cases h
    · obtain ⟨_, rfl⟩ := EStateM.Result.error.inj h
      rw [final, bytes, if_neg ‹_›]
      exact .refl c

theorem forward_skip (n : Nat) : (skip n).Forward := by
  -- bytes that are passed over are read and dropped
  have hfinal : ∀ c, (skip n).final c = (bytes n).final c := by
    intro c
    by_cases h : c.holds n <;> simp [final, skip, bytes, h]
  intro c
  rw [hfinal]
  exact forward_bytes n c

theorem forward_byte : byte.Forward := by
  rintro ⟨pos, _ | ⟨b, rest⟩⟩
  · exact .refl _
  · exact ⟨[b], rfl, rfl⟩

theorem forward_position : position.Forward :=
  fun c => .refl c

theorem forward_isEmpty : isEmpty.Forward :=
  fun c => .refl c

theorem forward_atMostRemaining (n : Nat) : (atMostRemaining n).Forward := by
  intro c
  have hfinal : (atMostRemaining n).final c = c := by
    by_cases h : c.holds n <;> simp [final, atMostRemaining, h]
  rw [hfinal]
  exact .refl c

theorem forward_replicate {p : Parse α} (hp : p.Forward) (n : Nat) : (replicate p n).Forward := by
  induction n with
  | zero => exact forward_pure []
  | succ n ih => exact hp.bind fun x => ih.bind fun xs => forward_pure (x :: xs)

theorem forward_all {p : Parse α} (hp : p.Forward) : (all p).Forward := by
  have huntil : ∀ bound, (untilEmpty p bound).Forward := by
    intro bound
    induction bound with
    | zero => exact forward_pure []
    | succ bound ih =>
      refine forward_isEmpty.bind fun empty => (forward_pure _).ite ?_
      exact hp.bind fun x => ih.bind fun xs => forward_pure (x :: xs)
  exact fun c => huntil c.remaining c

end Parse

open Parse

namespace Varint

theorem forward_parse : parse.Forward := by
  have haccumulate : ∀ (bytes : List UInt8) (start acc pos : Nat),
      Cursor.Leads ⟨pos, bytes⟩ (final (fun c => accumulate start acc c.pos c.rest) ⟨pos, bytes⟩) := by
    intro bytes
    induction bytes with
    | nil => exact fun _ _ _ => .refl _
    | cons b rest ih =>
      intro start acc pos
      have hone : Cursor.Leads ⟨pos, b :: rest⟩ ⟨pos + 1, rest⟩ := ⟨[b], rfl, rfl⟩
      by_cases hfits : 0x100000000 ≤ acc * 128 + b.toNat % 128
      · simpa only [final, accumulate, if_pos hfits] using hone
      by_cases hlast : b < 0x80
      · simpa only [final, accumulate, if_neg hfits, if_pos hlast] using hone
      · simpa only [final, accumulate, if_neg hfits, if_neg hlast] using hone.trans (ih _ _ _)
  exact fun c => haccumulate c.rest c.pos 0 c.pos

theorem forward_parseSigned : parseSigned.Forward :=
  forward_parse.bind fun v => forward_pure v.toInt32

theorem forward_parseLength : parseLength.Forward :=
  forward_parse.bind fun v => forward_pure v.toNat

end Varint

open Varint (forward_parseSigned forward_parseLength)

namespace StoredText

variable (charset : Charset)

theorem forward_parse (n : Nat) : (parse charset n).Forward := by
  refine (forward_bytes n).bind fun bytes => ?_
  cases decode charset bytes with
  | ok text => exact forward_pure text
  | error e => exact forward_throw e

theorem forward_parseSized : (parseSized charset).Forward :=
  forward_parseLength.bind fun n => forward_parse charset n

theorem forward_parseRest : (parseRest charset).Forward :=
  fun c => forward_parse charset c.remaining c

end StoredText

theorem Script.forward_parse (charset : Charset) : (parse charset).Forward := by
  refine forward_all (Varint.forward_parse.bind fun code => Varint.forward_parse.bind fun nest => ?_)
  refine (StoredText.forward_parseSized charset).bind fun text => forward_parseLength.bind fun count => ?_
  refine (forward_atMostRemaining count).bind fun _ => ?_
  exact (forward_replicate forward_parseSigned count).bind fun args => forward_pure _

theorem MapTree.forward_parse : parse.Forward := by
  refine forward_parseLength.bind fun count => (forward_atMostRemaining count).bind fun _ => ?_
  refine (forward_replicate Varint.forward_parse count).bind fun nodes => ?_
  exact Varint.forward_parse.bind fun active => forward_pure _

theorem Record.forward_parse (schema : Schema) (row : Option UInt32) : (parse schema row).Forward := by
  have hentries : ∀ (bound : Nat) (previous : UInt32), (parseEntries schema bound previous).Forward := by
    intro bound
    induction bound with
    | zero => exact fun _ => forward_pure []
    | succ bound ih =>
      intro previous
      refine forward_isEmpty.bind fun empty => (forward_pure []).ite ?_
      refine forward_position.bind fun start => Varint.forward_parse.bind fun index => (forward_pure []).ite ?_
      have hchunk : ∀ _ : PUnit, (do
          let length ← Varint.parseLength
          let offset ← position
          let bytes ← Parse.bytes length
          let rest ← parseEntries schema bound index
          return (index, ⟨schema.find? (.index index), some ⟨offset, bytes⟩⟩) :: rest :
            Parse (List (UInt32 × Chunk))).Forward := by
        intro _
        refine forward_parseLength.bind fun length => forward_position.bind fun offset => ?_
        exact (forward_bytes length).bind fun bytes => (ih index).bind fun rest => forward_pure _
      exact ((forward_throw _).bind hchunk).ite (hchunk ⟨⟩)
  refine forward_position.bind fun offset => Forward.bind (fun c => hentries c.remaining 0 c) fun entries => ?_
  exact forward_position.bind fun stop => forward_pure _

theorem Table.forward_parse (schema : Schema) : (parse schema).Forward := by
  have hrows : ∀ (count : Nat) (previous : UInt32), (parseRows schema count previous).Forward := by
    intro count
    induction count with
    | zero => exact fun _ => forward_pure []
    | succ count ih =>
      intro previous
      refine forward_position.bind fun start => Varint.forward_parse.bind fun index => ?_
      have hrow : ∀ _ : PUnit, (do
          let row ← Record.parse schema (some index)
          let rows ← parseRows schema count index
          return row :: rows : Parse (List Record)).Forward := by
        intro _
        exact (Record.forward_parse schema (some index)).bind fun row => (ih index).bind fun rows =>
          forward_pure _
      exact ((forward_throw _).bind hrow).ite (hrow ⟨⟩)
  refine forward_position.bind fun offset => forward_parseLength.bind fun count => ?_
  refine (forward_atMostRemaining count).bind fun _ => (hrows count 0).bind fun rows => ?_
  exact forward_position.bind fun stop => forward_pure _

end ChunkTree
