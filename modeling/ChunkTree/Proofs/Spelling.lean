import Mathlib.Data.List.DropRight
import ChunkTree.Proofs.Tokens

/-!
# Texts that spell values

A text spells a value if it is read as that value wherever it stands (`Value.SpelledBy`): with any fuel that
exceeds its length, and whatever may follow a value.  There is one lemma for every form that such a text may
have.  Items and entries are spelled up to the bracket that closes them (`Value.ItemsSpelledBy`,
`Value.MembersSpelledBy`), and blanks may stand in front of every value, key and closing bracket.
-/

namespace ChunkTree.Value

/-! ## Blanks -/

/-- Characters that may stand between the parts of a text. -/
def Blank (gap : List Char) : Prop :=
  ∀ c ∈ gap, isSpace c

theorem isSpace_iff {c : Char} : isSpace c ↔ c = ' ' ∨ c = '\n' ∨ c = '\t' ∨ c = '\r' := by
  simp only [isSpace, Bool.or_eq_true, beq_iff_eq, or_assoc]

/-- What may stand after a value: nothing, a blank, or what goes on with an array or object or closes it. -/
def Follows (rest : List Char) : Prop :=
  ∀ c ∈ rest.head?, isSpace c ∨ c = ',' ∨ c = ']' ∨ c = '\x7d'

theorem Follows.cons {c : Char} {rest : List Char} (h : isSpace c ∨ c = ',' ∨ c = ']' ∨ c = '\x7d') :
    Follows (c :: rest) := by
  intro d hd
  rwa [← Option.some.inj hd]

theorem Follows.endsNumber {rest : List Char} (h : Follows rest) : EndsNumber rest := by
  intro c hc
  rcases h c hc with h | rfl | rfl | rfl
  · rcases isSpace_iff.1 h with rfl | rfl | rfl | rfl <;> decide
  · decide
  · decide
  · decide

theorem Follows.blank_append {gap rest : List Char} (hgap : Blank gap) (h : Follows rest) :
    Follows (gap ++ rest) := by
  cases gap with
  | nil => exact h
  | cons c gap => exact .cons (.inl (hgap c List.mem_cons_self))

theorem skipSpace_blank {gap : List Char} (hgap : Blank gap) (cs : List Char) :
    skipSpace (gap ++ cs) = skipSpace cs :=
  List.dropWhile_append_of_pos hgap

theorem skipSpace_skipSpace (cs : List Char) : skipSpace (skipSpace cs) = skipSpace cs :=
  List.dropWhile_idempotent _ _

/-- Blanks in front of a value are passed over. -/
theorem readValue_of_skipSpace {cs cs' : List Char} (h : skipSpace cs = skipSpace cs') (nesting fuel : Nat) :
    readValue nesting fuel cs = readValue nesting fuel cs' := by
  cases fuel with
  | zero => rfl
  | succ fuel => rw [readValue, readValue, h]

theorem readItems_of_skipSpace {cs cs' : List Char} (h : skipSpace cs = skipSpace cs') (nesting fuel : Nat) :
    readItems nesting fuel cs = readItems nesting fuel cs' := by
  cases fuel with
  | zero => rfl
  | succ fuel => rw [readItems, readItems, readValue_of_skipSpace h]

theorem readMembers_of_skipSpace {cs cs' : List Char} (h : skipSpace cs = skipSpace cs') (nesting fuel : Nat) :
    readMembers nesting fuel cs = readMembers nesting fuel cs' := by
  cases fuel with
  | zero => rfl
  | succ fuel => rw [readMembers, readMembers, h]

/-- A number starts with a sign or a digit, so it is taken for nothing else. -/
theorem readValue_number {c : Char} {cs rest : List Char} {l : Literal} {v : Value}
    (hc : c = '-' ∨ c.isDigit) (hl : readLiteral (c :: cs) = some (l, rest)) (hv : ofLiteral? l = some v)
    (nesting fuel : Nat) : readValue nesting (fuel + 1) (c :: cs) = some (v, rest) := by
  have hspace : isSpace c = false := by
    rcases hc with rfl | hc
    · rfl
    · rw [Bool.eq_false_iff]
      intro h
      rcases isSpace_iff.1 h with rfl | rfl | rfl | rfl <;> cases hc
  have hskip : skipSpace (c :: cs) = c :: cs := List.dropWhile_cons_of_neg (by simp [hspace])
  rw [readValue, hskip]
  split
  iterate 6
    rename_i heq
    obtain rfl := (List.cons.inj heq).1
    exact absurd hc (by decide)
  simp only [hl, Option.bind_some, hv, Option.map_some]

/-! ## Texts of values -/

/-- The text is read as the value wherever it stands: with any fuel that exceeds its length, whatever may
follow a value. -/
def SpelledBy (v : Value) (cs : List Char) : Prop :=
  ∀ nesting fuel rest, v.depth ≤ nesting → cs.length < fuel → Follows rest →
    readValue nesting fuel (cs ++ rest) = some (v, rest)

/-- The text is read as items up to the end of their array. -/
def ItemsSpelledBy (items : List Value) (cs : List Char) : Prop :=
  ∀ nesting fuel rest, itemsDepth items ≤ nesting → cs.length < fuel →
    readItems nesting fuel (cs ++ rest) = some (items, rest)

/-- The text is read as entries up to the end of their object. -/
def MembersSpelledBy (fields : Fields) (cs : List Char) : Prop :=
  ∀ nesting fuel rest, fieldsDepth fields ≤ nesting → cs.length < fuel →
    readMembers nesting fuel (cs ++ rest) = some (fields, rest)

namespace SpelledBy

variable {v : Value} {cs gap : List Char}

theorem blank (hgap : Blank gap) (h : SpelledBy v cs) : SpelledBy v (gap ++ cs) := by
  intro nesting fuel rest hdepth hfuel hrest
  rw [List.length_append] at hfuel
  rw [List.append_assoc, readValue_of_skipSpace (skipSpace_blank hgap _)]
  exact h nesting fuel rest hdepth (by omega) hrest

theorem of_step (h : ∀ nesting fuel rest, v.depth ≤ nesting → cs.length ≤ fuel → Follows rest →
    readValue nesting (fuel + 1) (cs ++ rest) = some (v, rest)) : SpelledBy v cs := by
  intro nesting fuel rest hdepth hfuel hrest
  obtain ⟨fuel, rfl⟩ : ∃ n, fuel = n + 1 := ⟨fuel - 1, by omega⟩
  exact h nesting fuel rest hdepth (by omega) hrest

theorem null : SpelledBy null "null".toList :=
  of_step fun _ _ _ _ _ _ => rfl

theorem bool (b : Bool) : SpelledBy (.bool b) (if b then "true" else "false").toList := by
  cases b <;> exact of_step fun _ _ _ _ _ _ => rfl

theorem string (s : String) : SpelledBy (.string s) (stringText s).toList := by
  refine of_step fun nesting fuel rest _ _ _ => ?_
  have htext : (stringText s).toList ++ rest = '"' :: (s.toList.flatMap escapeChar ++ '"' :: rest) := by
    simp [stringText]
  have hskip : ∀ cs, skipSpace ('"' :: cs) = '"' :: cs := fun _ => rfl
  rw [htext, readValue, hskip]
  simp only [readString_escaped, Option.map_some, String.ofList_toList]

theorem int (n : Int64) : SpelledBy (.int n) (toString n.toInt).toList := by
  refine of_step fun nesting fuel rest _ _ hrest => ?_
  obtain ⟨l, hl, hn⟩ := readLiteral_int n hrest.endsNumber
  obtain ⟨c, cs, hcs, hc⟩ := exists_toList_toString n.toInt
  rw [hcs] at hl ⊢
  exact readValue_number hc hl hn nesting fuel

theorem emptyArray : SpelledBy (.array []) ['[', ']'] := by
  refine of_step fun nesting fuel rest hdepth _ _ => ?_
  obtain ⟨nesting, rfl⟩ := Nat.exists_eq_add_of_le' hdepth
  rfl

theorem emptyObject : SpelledBy (.object []) ['\x7b', '\x7d'] := by
  refine of_step fun nesting fuel rest hdepth _ _ => ?_
  obtain ⟨nesting, rfl⟩ := Nat.exists_eq_add_of_le' hdepth
  rfl

end SpelledBy

theorem readItems_close (nesting fuel : Nat) (rest : List Char) :
    readItems nesting fuel (']' :: rest) = none := by
  rcases fuel with _ | _ | fuel <;> rfl

theorem readMembers_close (nesting fuel : Nat) (rest : List Char) :
    readMembers nesting fuel ('\x7d' :: rest) = none := by
  cases fuel <;> rfl

theorem SpelledBy.array {items : List Value} {cs : List Char} (h : ItemsSpelledBy items cs) :
    SpelledBy (.array items) ('[' :: cs) := by
  refine of_step fun nesting fuel rest hdepth hfuel _ => ?_
  obtain ⟨nesting, rfl⟩ : ∃ n, nesting = n + 1 := ⟨nesting - 1, by rw [depth] at hdepth; omega⟩
  have hitems := h nesting fuel rest (Nat.le_of_succ_le_succ hdepth) hfuel
  have hskip : ∀ cs, skipSpace ('[' :: cs) = '[' :: cs := fun _ => rfl
  rw [List.cons_append, readValue, hskip]
  simp only
  split
  · rename_i r hr
    -- no item starts with the bracket that closes the array
    have hr : skipSpace (cs ++ rest) = skipSpace (']' :: r) := hr
    rw [readItems_of_skipSpace hr, readItems_close] at hitems
    cases hitems
  · rw [readItems_of_skipSpace (skipSpace_skipSpace _), hitems, Option.map_some]

/-! ## Items of an array -/

namespace ItemsSpelledBy

variable {v : Value} {items : List Value} {cs gap tail : List Char}

theorem of_step (h : ∀ nesting fuel rest, itemsDepth items ≤ nesting → cs.length ≤ fuel →
    readItems nesting (fuel + 1) (cs ++ rest) = some (items, rest)) : ItemsSpelledBy items cs := by
  intro nesting fuel rest hdepth hfuel
  obtain ⟨fuel, rfl⟩ : ∃ n, fuel = n + 1 := ⟨fuel - 1, by omega⟩
  exact h nesting fuel rest hdepth (by omega)

/-- The last item stands before the closing bracket. -/
theorem single (h : SpelledBy v cs) (hgap : Blank gap) : ItemsSpelledBy [v] (cs ++ (gap ++ [']'])) := by
  refine of_step fun nesting fuel rest hdepth hfuel => ?_
  have hclose : Follows (']' :: rest) := .cons (.inr (.inr (.inl rfl)))
  have hdepth : v.depth ≤ nesting := (Nat.le_max_left _ _).trans hdepth
  simp only [List.length_append, List.length_singleton] at hfuel
  have hfirst := h nesting fuel (gap ++ ']' :: rest) hdepth (by omega) (hclose.blank_append hgap)
  have htext : cs ++ (gap ++ [']']) ++ rest = cs ++ (gap ++ ']' :: rest) := by simp
  have hskip : skipSpace (gap ++ ']' :: rest) = ']' :: rest := skipSpace_blank hgap _
  rw [htext, readItems, hfirst]
  simp only [hskip]

/-- An item and a comma stand before the others. -/
theorem cons (h : SpelledBy v cs) (htail : ItemsSpelledBy items tail) :
    ItemsSpelledBy (v :: items) (cs ++ ',' :: tail) := by
  refine of_step fun nesting fuel rest hdepth hfuel => ?_
  have hcomma : Follows (',' :: (tail ++ rest)) := .cons (.inr (.inl rfl))
  obtain ⟨hfirst, hrest⟩ := Nat.max_le.1 hdepth
  simp only [List.length_append, List.length_cons] at hfuel
  have hfirst := h nesting fuel (',' :: (tail ++ rest)) hfirst (by omega) hcomma
  have htext : cs ++ ',' :: tail ++ rest = cs ++ ',' :: (tail ++ rest) := by simp
  have hskip : skipSpace (',' :: (tail ++ rest)) = ',' :: (tail ++ rest) := rfl
  rw [htext, readItems, hfirst]
  simp only [hskip, htail nesting fuel rest hrest (by omega), Option.map_some]

end ItemsSpelledBy

/-! ## Entries of an object -/

/-- A key, a colon and the text of a value. -/
def memberText (key : String) (cs : List Char) : List Char :=
  (stringText key).toList ++ ':' :: cs

/-- After an entry the object is closed, or a comma leads to further entries. -/
theorem readMembers_member {key : String} {v : Value} {cs rest : List Char} {nesting fuel : Nat}
    (h : readValue nesting fuel (cs ++ rest) = some (v, rest)) :
    (∀ after, skipSpace rest = '\x7d' :: after →
      readMembers nesting (fuel + 1) (memberText key cs ++ rest) = some ([(key, v)], after)) ∧
    ∀ tail fields after, skipSpace rest = ',' :: tail → readMembers nesting fuel tail = some (fields, after) →
      readMembers nesting (fuel + 1) (memberText key cs ++ rest) = some ((key, v) :: fields, after) := by
  have htext : memberText key cs ++ rest =
      '"' :: (key.toList.flatMap escapeChar ++ '"' :: ':' :: (cs ++ rest)) := by
    simp [memberText, stringText]
  have hquote : ∀ cs, skipSpace ('"' :: cs) = '"' :: cs := fun _ => rfl
  have hcolon : ∀ cs, skipSpace (':' :: cs) = ':' :: cs := fun _ => rfl
  rw [htext, readMembers]
  simp only [hquote, readString_escaped, hcolon, h, String.ofList_toList]
  constructor
  · intro after hclose
    simp only [hclose]
  · intro tail fields after hcomma htail
    simp only [hcomma, htail, Option.map_some]

namespace MembersSpelledBy

variable {v : Value} {key : String} {fields : Fields} {cs gap tail : List Char}

theorem of_step (h : ∀ nesting fuel rest, fieldsDepth fields ≤ nesting → cs.length ≤ fuel →
    readMembers nesting (fuel + 1) (cs ++ rest) = some (fields, rest)) : MembersSpelledBy fields cs := by
  intro nesting fuel rest hdepth hfuel
  obtain ⟨fuel, rfl⟩ : ∃ n, fuel = n + 1 := ⟨fuel - 1, by omega⟩
  exact h nesting fuel rest hdepth (by omega)

theorem blank (hgap : Blank gap) (h : MembersSpelledBy fields cs) : MembersSpelledBy fields (gap ++ cs) := by
  intro nesting fuel rest hdepth hfuel
  rw [List.length_append] at hfuel
  rw [List.append_assoc, readMembers_of_skipSpace (skipSpace_blank hgap _)]
  exact h nesting fuel rest hdepth (by omega)

/-- The last entry stands before the closing brace. -/
theorem single (h : SpelledBy v cs) (hgap : Blank gap) :
    MembersSpelledBy [(key, v)] (memberText key cs ++ (gap ++ ['\x7d'])) := by
  refine of_step fun nesting fuel rest hdepth hfuel => ?_
  have hclose : Follows ('\x7d' :: rest) := .cons (.inr (.inr (.inr rfl)))
  have hdepth : v.depth ≤ nesting := (Nat.le_max_left _ _).trans hdepth
  simp only [memberText, List.length_append, List.length_cons] at hfuel
  have hfirst := h nesting fuel (gap ++ '\x7d' :: rest) hdepth (by omega) (hclose.blank_append hgap)
  have htext : memberText key cs ++ (gap ++ ['\x7d']) ++ rest =
      memberText key cs ++ (gap ++ '\x7d' :: rest) := by
    simp
  rw [htext]
  exact (readMembers_member hfirst).1 rest (skipSpace_blank hgap _)

/-- An entry and a comma stand before the others. -/
theorem cons (h : SpelledBy v cs) (htail : MembersSpelledBy fields tail) :
    MembersSpelledBy ((key, v) :: fields) (memberText key cs ++ ',' :: tail) := by
  refine of_step fun nesting fuel rest hdepth hfuel => ?_
  have hcomma : Follows (',' :: (tail ++ rest)) := .cons (.inr (.inl rfl))
  obtain ⟨hfirst, hrest⟩ := Nat.max_le.1 hdepth
  simp only [memberText, List.length_append, List.length_cons] at hfuel
  have hfirst := h nesting fuel (',' :: (tail ++ rest)) hfirst (by omega) hcomma
  have htext : memberText key cs ++ ',' :: tail ++ rest = memberText key cs ++ ',' :: (tail ++ rest) := by
    simp
  rw [htext]
  exact (readMembers_member hfirst).2 _ fields rest rfl (htail nesting fuel rest hrest (by omega))

end MembersSpelledBy

/-- An object in which no key occurs twice is spelled by its entries. -/
theorem SpelledBy.object {fields : Fields} {cs : List Char} (hkeys : (fields.map Prod.fst).Nodup)
    (h : MembersSpelledBy fields cs) : SpelledBy (.object fields) ('\x7b' :: cs) := by
  refine of_step fun nesting fuel rest hdepth hfuel _ => ?_
  obtain ⟨nesting, rfl⟩ : ∃ n, nesting = n + 1 := ⟨nesting - 1, by rw [depth] at hdepth; omega⟩
  have hmembers := h nesting fuel rest (Nat.le_of_succ_le_succ hdepth) hfuel
  have hskip : ∀ cs, skipSpace ('\x7b' :: cs) = '\x7b' :: cs := fun _ => rfl
  rw [List.cons_append, readValue, hskip]
  simp only
  split
  · rename_i r hr
    have hr : skipSpace (cs ++ rest) = skipSpace ('\x7d' :: r) := hr
    rw [readMembers_of_skipSpace hr, readMembers_close] at hmembers
    cases hmembers
  · rw [readMembers_of_skipSpace (skipSpace_skipSpace _), hmembers, Option.map_some,
      Fields.ofList_of_nodup hkeys]

end ChunkTree.Value
