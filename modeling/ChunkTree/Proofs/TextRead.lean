import ChunkTree.Proofs.Spelling

/-!
# Texts are read back

A value without floats in which no key occurs twice and that is nested no deeper than the reader allows
(`Value.Plain`) is read back from its text, with and without line breaks (`Value.Plain.ofText?_toText`,
`Value.Plain.ofText?_toPrettyText`).  What either printer writes for such a value spells it.
-/

namespace ChunkTree.Value

/-! ## Values without floats -/

/-- A value without floats in which no key occurs twice, nested at most `n` deep. -/
inductive Plain : (n : Nat) → Value → Prop where
  | null {n : Nat} : Plain n null
  | bool {n : Nat} (b : Bool) : Plain n (bool b)
  | int {n : Nat} (k : Int64) : Plain n (int k)
  | string {n : Nat} (s : String) : Plain n (string s)
  | array {n : Nat} {items : List Value} (h : ∀ v ∈ items, Plain n v) : Plain (n + 1) (array items)
  | object {n : Nat} {fields : Fields} (hkeys : (fields.map Prod.fst).Nodup) (h : ∀ f ∈ fields, Plain n f.2) :
    Plain (n + 1) (object fields)

theorem itemsDepth_le {items : List Value} {n : Nat} (h : ∀ v ∈ items, v.depth ≤ n) :
    itemsDepth items ≤ n := by
  induction items with
  | nil => exact Nat.zero_le n
  | cons v items ih =>
    obtain ⟨hv, hitems⟩ := List.forall_mem_cons.1 h
    exact Nat.max_le.2 ⟨hv, ih hitems⟩

theorem fieldsDepth_le {fields : Fields} {n : Nat} (h : ∀ f ∈ fields, f.2.depth ≤ n) :
    fieldsDepth fields ≤ n := by
  induction fields with
  | nil => exact Nat.zero_le n
  | cons f fields ih =>
    obtain ⟨hf, hfields⟩ := List.forall_mem_cons.1 h
    exact Nat.max_le.2 ⟨hf, ih hfields⟩

theorem Plain.depth_le {v : Value} {n : Nat} (h : v.Plain n) : v.depth ≤ n := by
  induction h with
  | null | bool | int | string => exact Nat.zero_le _
  | array _ ih => exact Nat.succ_le_succ (itemsDepth_le ih)
  | object _ _ ih => exact Nat.succ_le_succ (fieldsDepth_le ih)

theorem Plain.mono {v : Value} {n m : Nat} (h : v.Plain n) (hle : n ≤ m) : v.Plain m := by
  induction h generalizing m with
  | null => exact .null
  | bool b => exact .bool b
  | int k => exact .int k
  | string s => exact .string s
  | array _ ih =>
    obtain ⟨m, rfl⟩ := Nat.exists_eq_add_of_le' (Nat.le_of_add_left_le hle)
    exact .array fun v hv => ih v hv (by omega)
  | object hkeys _ ih =>
    obtain ⟨m, rfl⟩ := Nat.exists_eq_add_of_le' (Nat.le_of_add_left_le hle)
    exact .object hkeys fun f hf => ih f hf (by omega)

/-! ## Lists of items and of entries -/

theorem blank_nil : Blank [] :=
  nofun

/-- Texts of items that are joined by commas are read as these items, if every text spells its item. -/
theorem itemsSpelledBy_of_join (text : Value → List Char) (join : List Value → List Char) {gap : List Char}
    (hgap : Blank gap) (hsingle : ∀ v, join [v] = text v)
    (hcons : ∀ v w items, join (v :: w :: items) = text v ++ ',' :: join (w :: items)) {items : List Value}
    (hne : items ≠ []) (h : ∀ v ∈ items, SpelledBy v (text v)) :
    ItemsSpelledBy items (join items ++ (gap ++ [']'])) := by
  induction items with
  | nil => exact absurd rfl hne
  | cons v items ih =>
    obtain ⟨hv, hitems⟩ := List.forall_mem_cons.1 h
    cases items with
    | nil =>
      rw [hsingle]
      exact .single hv hgap
    | cons w items =>
      rw [hcons, List.append_assoc, List.cons_append]
      exact .cons hv (ih (List.cons_ne_nil w items) hitems)

/-- The same for entries, each of which may have blanks in front. -/
theorem membersSpelledBy_of_join (text : Value → List Char) (join : Fields → List Char) {front gap : List Char}
    (hfront : Blank front) (hgap : Blank gap)
    (hsingle : ∀ key v, join [(key, v)] = front ++ memberText key (text v))
    (hcons : ∀ key v g fields,
      join ((key, v) :: g :: fields) = front ++ (memberText key (text v) ++ ',' :: join (g :: fields)))
    {fields : Fields} (hne : fields ≠ []) (h : ∀ f ∈ fields, SpelledBy f.2 (text f.2)) :
    MembersSpelledBy fields (join fields ++ (gap ++ ['\x7d'])) := by
  induction fields with
  | nil => exact absurd rfl hne
  | cons f fields ih =>
    obtain ⟨key, v⟩ := f
    obtain ⟨hv, hfields⟩ := List.forall_mem_cons.1 h
    cases fields with
    | nil =>
      rw [hsingle, List.append_assoc]
      exact .blank hfront (.single hv hgap)
    | cons g fields =>
      rw [hcons, List.append_assoc, List.append_assoc, List.cons_append]
      exact .blank hfront (.cons hv (ih (List.cons_ne_nil g fields) hfields))

/-! ## Texts without blanks -/

theorem itemsSpelledBy_itemsText {items : List Value} (hne : items ≠ [])
    (h : ∀ v ∈ items, SpelledBy v v.toText.toList) :
    ItemsSpelledBy items ((itemsText items).toList ++ [']']) := by
  refine itemsSpelledBy_of_join (fun v => v.toText.toList) (fun items => (itemsText items).toList)
    blank_nil ?_ ?_ hne h
  · intro v
    simp [itemsText]
  · intro v w items
    simp [itemsText]

theorem membersSpelledBy_fieldsText {fields : Fields} (hne : fields ≠ [])
    (h : ∀ f ∈ fields, SpelledBy f.2 f.2.toText.toList) :
    MembersSpelledBy fields ((fieldsText fields).toList ++ ['\x7d']) := by
  refine membersSpelledBy_of_join (fun v => v.toText.toList) (fun fields => (fieldsText fields).toList)
    blank_nil blank_nil ?_ ?_ hne h
  · intro key v
    simp [fieldsText, memberText]
  · intro key v g fields
    simp [fieldsText, memberText]

/-- The text without blanks spells its value. -/
theorem Plain.spelledBy_toText {v : Value} {n : Nat} (h : v.Plain n) : SpelledBy v v.toText.toList := by
  induction h with
  | null => exact .null
  | bool b => exact .bool b
  | int n => exact .int n
  | string s => exact .string s
  | @array _ items _ ih =>
    have htext : (Value.array items).toText.toList = '[' :: ((itemsText items).toList ++ [']']) := by
      simp [toText]
    rw [htext]
    by_cases hne : items = []
    · subst hne
      exact .emptyArray
    · exact .array (itemsSpelledBy_itemsText hne ih)
  | @object _ fields hkeys _ ih =>
    have htext : (Value.object fields).toText.toList = '\x7b' :: ((fieldsText fields).toList ++ ['\x7d']) := by
      simp [toText]
    rw [htext]
    by_cases hne : fields = []
    · subst hne
      exact .emptyObject
    · exact .object hkeys (membersSpelledBy_fieldsText hne ih)

/-! ## Texts with an entry on each line -/

theorem blank_lineBreak (level : Nat) : Blank (lineBreak level).toList := by
  intro c hc
  have htext : (lineBreak level).toList = '\n' :: List.replicate (2 * level) ' ' := by
    simp [lineBreak]
  rw [htext] at hc
  rcases List.mem_cons.1 hc with rfl | hc
  · rfl
  · rw [List.eq_of_mem_replicate hc]
    rfl

theorem itemsSpelledBy_prettyItems {level : Nat} {items : List Value} {gap : List Char} (hgap : Blank gap)
    (hne : items ≠ []) (h : ∀ v ∈ items, SpelledBy v (prettyText level v).toList) :
    ItemsSpelledBy items ((prettyItems level items).toList ++ (gap ++ [']'])) := by
  refine itemsSpelledBy_of_join (fun v => (lineBreak level).toList ++ (prettyText level v).toList)
    (fun items => (prettyItems level items).toList) hgap ?_ ?_ hne
    fun v hv => (h v hv).blank (blank_lineBreak level)
  · intro v
    simp [prettyItems]
  · intro v w items
    simp [prettyItems]

theorem membersSpelledBy_prettyFields {level : Nat} {fields : Fields} {gap : List Char} (hgap : Blank gap)
    (hne : fields ≠ []) (h : ∀ f ∈ fields, SpelledBy f.2 (prettyText level f.2).toList) :
    MembersSpelledBy fields ((prettyFields level fields).toList ++ (gap ++ ['\x7d'])) := by
  have hcolon : Blank [' '] := List.forall_mem_singleton.2 rfl
  refine membersSpelledBy_of_join (fun v => [' '] ++ (prettyText level v).toList)
    (fun fields => (prettyFields level fields).toList) (blank_lineBreak level) hgap ?_ ?_ hne
    fun f hf => (h f hf).blank hcolon
  · intro key v
    simp [prettyFields, memberText]
  · intro key v g fields
    simp [prettyFields, memberText]

/-- The text with an entry on each line spells its value. -/
theorem Plain.spelledBy_prettyText {v : Value} {n : Nat} (h : v.Plain n) (level : Nat) :
    SpelledBy v (prettyText level v).toList := by
  induction h generalizing level with
  | null => exact .null
  | bool b => exact .bool b
  | int n => exact .int n
  | string s => exact .string s
  | @array _ items _ ih =>
    cases items with
    | nil =>
      rw [show (prettyText level (.array [])).toList = ['[', ']'] by simp [prettyText]]
      exact .emptyArray
    | cons v items =>
      have htext : (prettyText level (.array (v :: items))).toList =
          '[' :: ((prettyItems (level + 1) (v :: items)).toList ++ ((lineBreak level).toList ++ [']'])) := by
        simp [prettyText]
      rw [htext]
      exact .array (itemsSpelledBy_prettyItems (blank_lineBreak level) (List.cons_ne_nil v items)
        fun w hw => ih w hw (level + 1))
  | @object _ fields hkeys _ ih =>
    cases fields with
    | nil =>
      rw [show (prettyText level (.object [])).toList = ['\x7b', '\x7d'] by simp [prettyText]]
      exact .emptyObject
    | cons f fields =>
      have htext : (prettyText level (.object (f :: fields))).toList =
          '\x7b' :: ((prettyFields (level + 1) (f :: fields)).toList ++
            ((lineBreak level).toList ++ ['\x7d'])) := by
        simp [prettyText]
      rw [htext]
      exact .object hkeys (membersSpelledBy_prettyFields (blank_lineBreak level) (List.cons_ne_nil f fields)
        fun g hg => ih g hg (level + 1))

/-! ## Whole texts -/

/-- A text that spells a value is read as that value. -/
theorem ofText?_of_spelledBy {v : Value} {text : String} {nesting : Nat} (h : SpelledBy v text.toList)
    (hdepth : v.depth ≤ nesting) : ofText? nesting text = some v := by
  have hread := h nesting (text.toList.length + 1) [] hdepth (Nat.lt_succ_self _) nofun
  rw [List.append_nil] at hread
  simp only [ofText?, hread]
  rfl

/-- A value without floats is read back from its text. -/
theorem Plain.ofText?_toText {v : Value} {nesting : Nat} (h : v.Plain nesting) :
    ofText? nesting v.toText = some v :=
  ofText?_of_spelledBy h.spelledBy_toText h.depth_le

/-- A value without floats is read back from its text with an entry on each line. -/
theorem Plain.ofText?_toPrettyText {v : Value} {nesting : Nat} (h : v.Plain nesting) :
    ofText? nesting v.toPrettyText = some v :=
  ofText?_of_spelledBy (h.spelledBy_prettyText 0) h.depth_le

end ChunkTree.Value
