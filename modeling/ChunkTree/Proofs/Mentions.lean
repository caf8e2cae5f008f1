import ChunkTree.Proofs.Faithful

/-!
# The texts of a value

Every text that is written when a value is saved is a text of the value (`Save.Encodes.mentions`), but for
the empty text of a command that has none.
-/

namespace ChunkTree

open Save (Entry)

/-- A text that occurs in a value, at any depth; the keys of objects do not count. -/
inductive Value.Mentions : Value → String → Prop where
  | string (t : String) : Mentions (.string t) t
  | item {items : List Value} {x : Value} {t : String} (hx : x ∈ items) (h : Mentions x t) :
    Mentions (.array items) t
  | field {fields : Fields} {f : String × Value} {t : String} (hf : f ∈ fields) (h : Mentions f.2 t) :
    Mentions (.object fields) t

namespace Value.Mentions

variable {v x : Value} {t : String}

/-- A text of an object is a text of one of its fields. -/
theorem of_object {fields : Fields} (h : (Value.object fields).Mentions t) :
    ∃ f ∈ fields, f.2.Mentions t := by
  cases h with
  | field hf h => exact ⟨_, hf, h⟩

/-- A text of an array is a text of one of its items. -/
theorem of_array {items : List Value} (h : (Value.array items).Mentions t) : ∃ x ∈ items, x.Mentions t := by
  cases h with
  | item hx h => exact ⟨_, hx, h⟩

theorem of_asArray {items : List Value} (hv : v.asArray = some items) (hx : x ∈ items) (h : x.Mentions t) :
    v.Mentions t := by
  cases v with
  | array items' =>
    obtain rfl : items' = items := Option.some.inj hv
    exact .item hx h
  | _ => cases hv

theorem of_asObject {fields : Fields} (hv : v.asObject = some fields) {f : String × Value} (hf : f ∈ fields)
    (h : f.2.Mentions t) : v.Mentions t := by
  cases v with
  | object fields' =>
    obtain rfl : fields' = fields := Option.some.inj hv
    exact .field hf h
  | _ => cases hv

theorem of_get? {key : String} (hx : v.get? key = some x) (h : x.Mentions t) : v.Mentions t := by
  obtain ⟨fields, hv, hlookup⟩ := Option.bind_eq_some_iff.1 hx
  exact of_asObject hv (Value.mem_of_lookup hlookup) h

end Value.Mentions

namespace Save

variable {v : Value} {t : String}

/-- A command without a text has the empty one. -/
theorem mentions_of_command {field : String} {c : Command} (h : command field v = .ok c) :
    v.Mentions c.text ∨ c.text = "" := by
  obtain ⟨_, _, _, htext, _⟩ := command_eq_ok.1 h
  unfold partOr at htext
  split at htext
  · rename_i x hx
    obtain rfl := string_eq_ok.1 htext
    exact .inl (.of_get? hx (.string _))
  · exact .inr (Except.ok.inj htext).symm

/-- The texts in the content of a value are texts of the value. -/
theorem mentions_of_ofValue {kind : Kind} {field : String} {c : Content}
    (h : Content.ofValue kind field v = .ok c) (ht : t ∈ c.texts) : v.Mentions t ∨ t = "" := by
  cases kind with
  | record | table => cases h
  | string =>
    obtain ⟨s, hs, h⟩ := bind_eq_ok.1 h
    rw [← pure_eq_ok.1 h] at ht
    rw [List.mem_singleton.1 ht, string_eq_ok.1 hs]
    exact .inl (.string s)
  | script =>
    obtain ⟨commands, hcommands, h⟩ := bind_eq_ok.1 h
    rw [← pure_eq_ok.1 h] at ht
    obtain ⟨command, hc, rfl⟩ := List.mem_map.1 ht
    obtain ⟨items, hitems, htaken⟩ := items_eq_ok.1 hcommands
    obtain ⟨x, hx, hcommand⟩ := exists_left_of_forall₂ htaken hc
    exact (mentions_of_command hcommand).imp_left (.of_asArray hitems hx)
  | _ =>
    obtain ⟨x, _, h⟩ := bind_eq_ok.1 h
    rw [← pure_eq_ok.1 h] at ht
    cases ht

theorem mentions_of_contentEncodes {s : Schema} (h : ContentEncodes v s t) : v.Mentions t ∨ t = "" := by
  obtain ⟨kind, target, c, _, hc, ht⟩ := h
  exact mentions_of_ofValue hc ht

theorem mentions_of_mem_keptEntries {d : Schema} {e : Entry} (he : e ∈ v.keptEntries d)
    (h : e.value.Mentions t) :
    v.Mentions t := by
  obtain ⟨f, hf, he⟩ := List.mem_filterMap.1 he
  rw [Value.value_of_kept he] at h
  cases hv : v.asObject with
  | none => simp [hv] at hf
  | some fields =>
    rw [hv, Option.getD_some] at hf
    exact .of_asObject hv hf h

theorem mentions_of_mem_furtherRows {row x : Value} (hx : x ∈ row.furtherRows) (h : x.Mentions t) :
    row.Mentions t := by
  unfold Value.furtherRows Value.field at hx
  cases hget : row.get? restKey with
  | none => simp [hget, Value.asArray] at hx
  | some rest =>
    cases hitems : rest.asArray with
    | none => simp [hget, hitems] at hx
    | some items =>
      simp only [hget, Option.getD_some, hitems] at hx
      exact .of_get? hget (.of_asArray hitems hx h)

theorem mentions_of_mem_tableRows {r : UInt32 × Value} (hr : r ∈ v.tableRows) (h : r.2.Mentions t) :
    v.Mentions t := by
  obtain ⟨f, hf, hr⟩ := List.mem_flatMap.1 hr
  cases hv : v.asObject with
  | none => simp [hv] at hf
  | some fields =>
    rw [hv, Option.getD_some] at hf
    refine .of_asObject hv hf ?_
    split at hr
    · rcases List.mem_cons.1 hr with rfl | hr
      · exact h
      · obtain ⟨x, hx, rfl⟩ := List.mem_map.1 hr
        exact mentions_of_mem_furtherRows hx h
    · simp at hr

theorem Gives.mentions {s : Schema} {e : Entry} (h : Gives v s e) (ht : e.value.Mentions t) :
    v.Mentions t := by
  rcases h with ⟨d, _, he⟩ | ⟨d, _, r, hr, he⟩
  · exact mentions_of_mem_keptEntries he ht
  · exact mentions_of_mem_tableRows hr (mentions_of_mem_keptEntries he ht)

theorem Holds.mentions {s : Schema} {e : Entry} (h : Holds v s e) (ht : e.value.Mentions t) :
    v.Mentions t := by
  induction h with
  | here h => exact h.mentions ht
  | within h _ _ ih => exact h.mentions (ih ht)

/-- A text that is written is a text of the value, or empty. -/
theorem Encodes.mentions {s : Schema} (h : Encodes v s t) : v.Mentions t ∨ t = "" := by
  rcases h with h | ⟨e, u, he, _, h⟩
  · exact mentions_of_contentEncodes h
  · exact (mentions_of_contentEncodes h).imp_left he.mentions

end Save

/-- The texts that are written survive if the texts of the value do. -/
theorem Value.survives_of_encodes {charset : Text.Charset} {v : Value}
    (htexts : ∀ t, v.Mentions t → StoredText.Survives charset t) {s : Schema} {t : String}
    (ht : Save.Encodes v s t) : StoredText.Survives charset t := by
  rcases ht.mentions with h | rfl
  · exact htexts t h
  · exact StoredText.survives_empty charset

end ChunkTree
