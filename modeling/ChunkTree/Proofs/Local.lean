import ChunkTree.Content.Command
import ChunkTree.Content.MapTree
import ChunkTree.Proofs.VarintForms

/-!
# Parsers that look at their own bytes only

A parser is local (`Parse.Local`) if what it took when it succeeded it would take at any offset, and whatever
follows.  Locality is kept by running one parser after the other, and by comparing a count with the bytes that
are left, as long as every item takes at least one byte (`Local.bind_counted`).  So a run over a whole range may
be cut after any item: what follows is read as if it stood alone (`all_append`).
-/

namespace ChunkTree

open Text (Charset)

variable {α β : Type}

namespace Parse

/-- Whether a parser that succeeds takes bytes that it would take anywhere. -/
def Local (p : Parse α) : Prop :=
  ∀ ⦃c x c'⦄, p c = .ok x c' →
    ∃ used, c.rest = used ++ c'.rest ∧ c'.pos = c.pos + used.length ∧ ∀ pos, p.Takes pos used x

/-- Whether a parser that succeeds leaves less than there was. -/
def Moves (p : Parse α) : Prop :=
  ∀ ⦃c x c'⦄, p c = .ok x c' → c'.rest.length < c.rest.length

variable {p : Parse α} {c c' d : Cursor} {x : α} {xs ys : List α} {n : Nat}

theorem Local.within (hp : p.Local) (h : p c = .ok x c') : Cursor.Within (fun a b => p a = .ok x b) c c' := by
  obtain ⟨used, hrest, hpos, htakes⟩ := hp h
  refine ⟨used, hrest, hpos, fun more _ => ?_⟩
  rw [hpos]
  exact htakes c.pos more

theorem local_pure (x : α) : Local (pure x) := by
  intro c y c' h
  obtain ⟨rfl, rfl⟩ := pure_eq_ok.1 h
  exact ⟨[], rfl, rfl, fun pos => takes_pure pos x⟩

theorem local_throw (e : Error) : Local (throw e : Parse α) := by
  intro c x c' h
  exact absurd h throw_ne_ok

theorem Local.bind {f : α → Parse β} (hp : p.Local) (hf : ∀ x, (f x).Local) : (p >>= f).Local := by
  intro c y c' h
  obtain ⟨x, d, hx, hy⟩ := bind_eq_ok.1 h
  obtain ⟨used, hrest, hpos, htakes⟩ := hp hx
  obtain ⟨used', hrest', hpos', htakes'⟩ := hf x hy
  refine ⟨used ++ used', by rw [hrest, hrest', List.append_assoc], ?_, fun pos => ?_⟩
  · rw [hpos', hpos, List.length_append, Nat.add_assoc]
  · exact (htakes pos).bind (htakes' _)

theorem Moves.bind {f : α → Parse β} (hp : p.Moves) (hf : ∀ x, (f x).Local) : (p >>= f).Moves := by
  intro c y c' h
  obtain ⟨x, d, hx, hy⟩ := bind_eq_ok.1 h
  have hlt := hp hx
  have hle := ((hf x).within hy).leads.length_le
  omega

theorem local_bytes (n : Nat) : (bytes n).Local := by
  intro c bs c' h
  obtain ⟨rfl, hrest, hpos⟩ := bytes_eq_ok.1 h
  exact ⟨bs, hrest, hpos, fun pos => takes_bytes pos bs⟩

theorem local_replicate (hp : p.Local) (n : Nat) : (replicate p n).Local := by
  induction n with
  | zero => exact local_pure []
  | succ n ih => exact hp.bind fun x => ih.bind fun xs => local_pure (x :: xs)

/-- A parser that moves takes at least one byte each time. -/
theorem length_rest_of_replicate (hp : p.Moves) (h : replicate p n c = .ok xs c') :
    n + c'.rest.length ≤ c.rest.length := by
  induction n generalizing c xs with
  | zero =>
    obtain ⟨_, rfl⟩ := pure_eq_ok.1 h
    omega
  | succ n ih =>
    obtain ⟨x, d, hx, h⟩ := bind_eq_ok.1 h
    obtain ⟨xs, d', hxs, h⟩ := bind_eq_ok.1 h
    obtain ⟨_, rfl⟩ := pure_eq_ok.1 h
    have := hp hx
    have := ih hxs
    omega

/-- A count may be compared with the bytes that are left: the items themselves take as many. -/
theorem Local.bind_counted {f : List α → Parse β} (hp : p.Local) (hmoves : p.Moves)
    (hf : ∀ xs, (f xs).Local) (n : Nat) :
    (atMostRemaining n >>= fun _ => replicate p n >>= f).Local := by
  intro c y c' h
  obtain ⟨_, _, hcount, h⟩ := bind_eq_ok.1 h
  obtain ⟨_, rfl⟩ := atMostRemaining_eq_ok.1 hcount
  obtain ⟨xs, d, hxs, hy⟩ := bind_eq_ok.1 h
  have hitems := length_rest_of_replicate hmoves hxs
  have hlast := ((hf xs).within hy).leads.length_le
  obtain ⟨used, hrest, hpos, htakes⟩ := (local_replicate hp n).bind hf h
  refine ⟨used, hrest, hpos, fun pos => takes_atMostRemaining_bind ?_ (htakes pos)⟩
  rw [hrest, List.length_append] at hitems
  omega

/-! ## Runs over a whole range -/

theorem untilEmpty_nil (p : Parse α) (bound : Nat) (h : c.rest = []) : untilEmpty p bound c = .ok [] c := by
  cases bound with
  | zero => rfl
  | succ bound =>
    rw [untilEmpty, isEmpty_bind, h]
    rfl

theorem untilEmpty_succ (p : Parse α) (bound : Nat) (h : c.rest ≠ []) :
    untilEmpty p (bound + 1) c = (do return (← p) :: (← untilEmpty p bound)) c := by
  rw [untilEmpty, isEmpty_bind, List.isEmpty_eq_false_iff.2 h]
  rfl

/-- The bound on the number of items does not matter. -/
theorem untilEmpty_bound (hmoves : p.Moves) {bound bound' : Nat} (h : c.rest.length ≤ bound)
    (h' : c.rest.length ≤ bound') : untilEmpty p bound c = untilEmpty p bound' c := by
  induction bound generalizing c bound' with
  | zero =>
    have hrest := List.length_eq_zero_iff.1 (Nat.le_zero.1 h)
    rw [untilEmpty_nil p 0 hrest, untilEmpty_nil p bound' hrest]
  | succ bound ih =>
    by_cases hrest : c.rest = []
    · rw [untilEmpty_nil p _ hrest, untilEmpty_nil p _ hrest]
    have hpos := List.length_pos_iff.2 hrest
    obtain ⟨bound', rfl⟩ := Nat.exists_eq_succ_of_ne_zero (n := bound') (by omega)
    rw [untilEmpty_succ p bound hrest, untilEmpty_succ p bound' hrest]
    cases hx : p c with
    | error e d => rw [bind_of_error hx, bind_of_error hx]
    | ok x d =>
      have hlt := hmoves hx
      rw [bind_of_ok hx, bind_of_ok hx]
      exact bind_congr_left _ (ih (by omega) (by omega))

theorem all_nil (p : Parse α) (h : c.rest = []) : all p c = .ok [] c :=
  untilEmpty_nil p _ h

/-- A range that is not used up is read by one item and then the others. -/
theorem all_of_ne_nil (hmoves : p.Moves) (h : c.rest ≠ []) : all p c = (do return (← p) :: (← all p)) c := by
  obtain ⟨bound, hbound⟩ := Nat.exists_eq_succ_of_ne_zero (List.length_pos_iff.2 h).ne'
  rw [all, Cursor.remaining, hbound, untilEmpty_succ p bound h]
  cases hx : p c with
  | error e d => rw [bind_of_error hx, bind_of_error hx]
  | ok x d =>
    have hlt := hmoves hx
    rw [bind_of_ok hx, bind_of_ok hx]
    exact bind_congr_left _ (untilEmpty_bound hmoves (by omega) (le_refl _))

theorem all_eq_ok (hmoves : p.Moves) : all p c = .ok xs c' ↔
    c.rest = [] ∧ xs = [] ∧ c' = c ∨ ∃ x d ys, p c = .ok x d ∧ all p d = .ok ys c' ∧ xs = x :: ys := by
  by_cases hrest : c.rest = []
  · rw [all_nil p hrest]
    constructor
    · intro h
      obtain ⟨rfl, rfl⟩ := EStateM.Result.ok.inj h
      exact .inl ⟨hrest, rfl, rfl⟩
    · rintro (⟨_, rfl, rfl⟩ | ⟨x, d, ys, hx, _⟩)
      · rfl
      · have := hmoves hx
        simp [hrest] at this
  · rw [all_of_ne_nil hmoves hrest, bind_eq_ok]
    constructor
    · rintro ⟨x, d, hx, h⟩
      obtain ⟨ys, d', hys, h⟩ := bind_eq_ok.1 h
      obtain ⟨rfl, rfl⟩ := pure_eq_ok.1 h
      exact .inr ⟨x, d, ys, hx, hys, rfl⟩
    · rintro (⟨hnil, _⟩ | ⟨x, d, ys, hx, hys, rfl⟩)
      · exact absurd hnil hrest
      · exact ⟨x, d, hx, bind_eq_ok.2 ⟨ys, c', hys, rfl⟩⟩

/-- After an item that is read the others follow. -/
theorem all_of_ok (hmoves : p.Moves) (h : p c = .ok x d) :
    all p c = .ok ys c' ↔ ∃ zs, all p d = .ok zs c' ∧ ys = x :: zs := by
  have hlt := hmoves h
  rw [all_eq_ok hmoves]
  constructor
  · rintro (⟨hrest, _⟩ | ⟨y, e, zs, hy, hzs, rfl⟩)
    · simp [hrest] at hlt
    · obtain ⟨rfl, rfl⟩ := EStateM.Result.ok.inj (h.symm.trans hy)
      exact ⟨zs, hzs, rfl⟩
  · rintro ⟨zs, hzs, rfl⟩
    exact .inr ⟨x, d, zs, h, hzs, rfl⟩

/-- Bytes that are each taken, one after the other, are read as all that was taken. -/
theorem all_of_takes {parts : List (List UInt8)} (hmoves : p.Moves)
    (h : List.Forall₂ (fun x part => ∀ pos, p.Takes pos part x) xs parts) (pos : Nat) :
    all p ⟨pos, parts.flatten⟩ = .ok xs ⟨pos + parts.flatten.length, []⟩ := by
  induction h generalizing pos with
  | nil => exact all_nil p rfl
  | @cons x part xs parts htakes _ ih =>
    rw [List.flatten_cons, List.length_append, ← Nat.add_assoc]
    exact (all_of_ok hmoves (htakes pos parts.flatten)).2 ⟨xs, ih (pos + part.length), rfl⟩

/-- A range may be cut after items that are read from its front: what follows is read as if it stood alone. -/
theorem all_append (hp : p.Local) (hmoves : p.Moves) (h : all p c = .ok xs c') (pos : Nat)
    (more : List UInt8) : all p ⟨pos, c.rest ++ more⟩ = .ok ys d ↔
      ∃ zs, all p ⟨pos + c.rest.length, more⟩ = .ok zs d ∧ ys = xs ++ zs := by
  induction xs generalizing c pos ys with
  | nil =>
    obtain ⟨hrest, _⟩ | ⟨_, _, _, _, _, hcons⟩ := (all_eq_ok hmoves).1 h
    · simp [hrest]
    · cases hcons
  | cons x xs ih =>
    obtain ⟨_, hcons, _⟩ | ⟨_, e, _, hx, hxs, hcons⟩ := (all_eq_ok hmoves).1 h
    · cases hcons
    obtain ⟨rfl, rfl⟩ := List.cons.inj hcons
    obtain ⟨used, hrest, _, htakes⟩ := hp hx
    have hfirst := htakes pos (e.rest ++ more)
    have hpos : pos + c.rest.length = pos + used.length + e.rest.length := by
      rw [hrest, List.length_append, Nat.add_assoc]
    rw [hpos, hrest, List.append_assoc, all_of_ok hmoves hfirst]
    simp only [ih hxs]
    constructor
    · rintro ⟨_, ⟨zs, hzs, rfl⟩, rfl⟩
      exact ⟨zs, hzs, rfl⟩
    · rintro ⟨zs, hzs, rfl⟩
      exact ⟨_, ⟨zs, hzs, rfl⟩, rfl⟩

/-- What is read from a range does not depend on its offset. -/
theorem all_moved (hp : p.Local) (hmoves : p.Moves) (h : all p c = .ok xs c') (pos : Nat) :
    all p ⟨pos, c.rest⟩ = .ok xs ⟨pos + c.rest.length, []⟩ := by
  have := (all_append hp hmoves h pos []).2 ⟨[], all_nil p rfl, (List.append_nil xs).symm⟩
  rwa [List.append_nil] at this

end Parse

/-! ## The parsers here -/

open Parse

namespace Varint

theorem local_parse : parse.Local := by
  intro c v c' h
  obtain ⟨used, hused, hrest, hpos⟩ := parse_eq_ok.1 h
  exact ⟨used, hrest, hpos, fun pos more => parse_of_spells more hused rfl⟩

theorem moves_parse : parse.Moves := by
  intro c v c' h
  obtain ⟨used, hused, hrest, _⟩ := parse_eq_ok.1 h
  have := List.length_pos_iff.2 hused.ne_nil
  rw [hrest, List.length_append]
  omega

theorem local_parseSigned : parseSigned.Local :=
  local_parse.bind fun v => local_pure v.toInt32

theorem moves_parseSigned : parseSigned.Moves :=
  moves_parse.bind fun v => local_pure v.toInt32

theorem local_parseLength : parseLength.Local :=
  local_parse.bind fun v => local_pure v.toNat

theorem moves_parseLength : parseLength.Moves :=
  moves_parse.bind fun v => local_pure v.toNat

end Varint

open Varint (local_parse local_parseSigned local_parseLength moves_parse moves_parseSigned)

namespace StoredText

variable (charset : Charset)

theorem local_parse (n : Nat) : (parse charset n).Local := by
  refine (local_bytes n).bind fun bytes => ?_
  cases decode charset bytes with
  | ok text => exact local_pure text
  | error e => exact local_throw e

theorem local_parseSized : (parseSized charset).Local :=
  local_parseLength.bind fun n => local_parse charset n

end StoredText

namespace Command

variable (charset : Charset)

/-- What follows the code of a command. -/
private theorem local_afterCode (code : UInt32) : Local (do
    let nest ← Varint.parse
    let text ← StoredText.parseSized charset
    let count ← Varint.parseLength
    Parse.atMostRemaining count
    let args ← Parse.replicate Varint.parseSigned count
    return (⟨code, nest, text, args⟩ : Command)) := by
  refine local_parse.bind fun nest => (StoredText.local_parseSized charset).bind fun text => ?_
  refine local_parseLength.bind fun count => ?_
  exact local_parseSigned.bind_counted moves_parseSigned (fun args => local_pure _) count

theorem local_parse : (parse charset).Local :=
  Varint.local_parse.bind (local_afterCode charset)

theorem moves_parse : (parse charset).Moves :=
  Varint.moves_parse.bind (local_afterCode charset)

end Command

theorem MapTree.local_parse : parse.Local := by
  refine local_parseLength.bind fun count => ?_
  exact Varint.local_parse.bind_counted moves_parse
    (fun nodes => Varint.local_parse.bind fun active => local_pure _) count

end ChunkTree
