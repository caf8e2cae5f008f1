import ChunkTree.Proofs.LoadSave
import ChunkTree.Proofs.Sizes

/-!
# Which texts a file is refused for

Saving a value reports that a text cannot be encoded only for a text that it writes (`Value.failsOnly_save`).  The
texts that the value of a file writes are those that were decoded from the file (`GameFile.decodes_of_refused`), and
each of them was read from bytes (`GameFile.Decodes.exists_bytes`).
-/

namespace ChunkTree

open Text (Charset)
open Save (Encodes FailsOnly Gives Inner)

variable {charset : Charset} {P : Error → Prop}

/-! ## What saving a value may fail with -/

namespace Save

/-- A number is saved without any text. -/
theorem not_encodes_ofNat (n : Nat) (s : Schema) (t : String) : ¬Encodes (.ofNat n) s t := by
  rintro (⟨kind, _, c, _, hc, ht⟩ | ⟨e, u, he, _⟩)
  · cases kind with
    | record | table => cases hc
    | string =>
      obtain ⟨s, hs, _⟩ := bind_eq_ok.1 hc
      cases hs
    | script =>
      obtain ⟨commands, hcommands, _⟩ := bind_eq_ok.1 hc
      cases hcommands
    | _ =>
      obtain ⟨x, _, hc⟩ := bind_eq_ok.1 hc
      rw [← pure_eq_ok.1 hc] at ht
      cases ht
  · cases he with
    | here he | within he => exact not_gives rfl he

/-- Whether values that are nested less than `n` deep fail only as their texts may fail to be encoded. -/
def FailAsTexts {α : Type} (charset : Charset) (P : Error → Prop) (f : Value → Schema → Except Error α) (n : Nat) :
    Prop :=
  ∀ y u, y.depth < n → (∀ t, Encodes y u t → FailsOnly P (StoredText.encode charset t)) → FailsOnly P (f y u)

variable {α : Type} {f : Value → Schema → Except Error α} {v x : Value} {s d : Schema}

/-- The values in a record or in a row fail as the texts of the whole value may. -/
theorem FailAsTexts.inner (hf : FailAsTexts charset P f v.depth) (hx : x.depth ≤ v.depth)
    (hgives : ∀ e ∈ x.keptEntries d, Gives v s e)
    (h : ∀ t, Encodes v s t → FailsOnly P (StoredText.encode charset t)) : Inner P f d x := by
  intro fields given hfields hgiven
  refine ⟨fun e he u hu => ?_, fun n u => ?_⟩
  · rw [← Value.keptEntries_of_givenEntries hfields hgiven] at he
    exact hf e.value u (hgives e he).depth_lt fun t ht => h t (.within (hgives e he) hu ht)
  · exact hf _ u ((depth_ofNat_lt hfields n).trans_le hx) fun t ht => absurd ht (not_encodes_ofNat n u t)

theorem FailAsTexts.record (hf : FailAsTexts charset P f v.depth) (hd : s.actual .record = .ok d)
    (h : ∀ t, Encodes v s t → FailsOnly P (StoredText.encode charset t)) : Inner P f d v :=
  hf.inner (le_refl _) (fun _ he => .inl ⟨d, hd, he⟩) h

theorem FailAsTexts.row (hf : FailAsTexts charset P f v.depth) (hd : s.actual .table = .ok d)
    (h : ∀ t, Encodes v s t → FailsOnly P (StoredText.encode charset t)) (rows : List (UInt32 × Value))
    (hrows : rowsOf d v = .ok rows) (r : UInt32 × Value) (hr : r ∈ rows) : Inner P f d r.2 := by
  refine hf.inner (depth_of_mem_rowsOf hrows hr).le (fun e he => ?_) h
  rw [← Value.sortBy_tableRows hrows, mem_sortBy] at hr
  exact .inr ⟨d, hd, r, hr, he⟩

end Save

namespace Value

variable (hP : ∀ e : Error, e.isPlain → P e) {v : Value} {s : Schema}

include hP

/-- Working out the size of a value fails only as its texts may fail to be encoded, or with a plain error. -/
theorem failsOnly_savedSize (h : ∀ t, Encodes v s t → FailsOnly P (StoredText.encode charset t)) :
    FailsOnly P (v.savedSize charset s) := by
  induction hn : v.depth using Nat.strong_induction_on generalizing v s with
  | _ n ih =>
    subst hn
    have hsize : Save.FailAsTexts charset P (savedSize charset) v.depth := fun y u hy ht => ih y.depth hy ht rfl
    rw [savedSize_eq]
    refine (Save.failsOnly_resolve hP s).bind fun ⟨kind, target⟩ hkind => ?_
    cases kind with
    | record =>
      refine (Save.failsOnly_actual hP s _).bind fun d hd => ?_
      exact Save.failsOnly_recordSize hP (hsize.record hd h)
    | table =>
      refine (Save.failsOnly_actual hP s _).bind fun d hd => ?_
      exact Save.failsOnly_tableSize hP (hsize.row hd h)
    | _ => exact Save.failsOnly_contentSize hP fun c hc t ht => h t (.inl ⟨_, target, c, hkind, hc, ht⟩)

/-- Saving a value fails only as its texts may fail to be encoded, or with a plain error. -/
theorem failsOnly_save (h : ∀ t, Encodes v s t → FailsOnly P (StoredText.encode charset t)) :
    FailsOnly P (v.save charset s) := by
  induction hn : v.depth using Nat.strong_induction_on generalizing v s with
  | _ n ih =>
    subst hn
    have hsize : Save.FailAsTexts charset P (savedSize charset) v.depth :=
      fun y u _ ht => failsOnly_savedSize hP ht
    have hsave : Save.FailAsTexts charset P (save charset) v.depth := fun y u hy ht => ih y.depth hy ht rfl
    have hagree := agree_save charset v.depth
    rw [save_eq]
    refine (Save.failsOnly_resolve hP s).bind fun ⟨kind, target⟩ hkind => ?_
    cases kind with
    | record =>
      refine (Save.failsOnly_actual hP s _).bind fun d hd => ?_
      exact hagree.failsOnly_writeRecord hP (hsize.record hd h) (hsave.record hd h)
    | table =>
      refine (Save.failsOnly_actual hP s _).bind fun d hd => ?_
      exact hagree.failsOnly_writeTable hP (hsize.row hd h) (hsave.row hd h)
    | _ => exact Save.failsOnly_contentBytes hP rfl fun c hc t ht => h t (.inl ⟨_, target, c, hkind, hc, ht⟩)

end Value

/-! ## Texts that are read -/

theorem StoredText.exists_bytes_of_parseSized {c c' : Cursor} {t : String} (h : parseSized charset c = .ok t c') :
    ∃ bytes, charset.decode bytes = some t := by
  obtain ⟨n, d, _, h⟩ := Parse.bind_eq_ok.1 h
  obtain ⟨bytes, _, ht⟩ := parse_eq_ok.1 h
  exact ⟨bytes, ht⟩

theorem Script.exists_bytes_of_parse {c c' : Cursor} {commands : List Command}
    (h : parse charset c = .ok commands c') :
    ∀ command ∈ commands, ∃ bytes, charset.decode bytes = some command.text := by
  induction commands generalizing c with
  | nil => simp
  | cons command commands ih =>
    obtain ⟨_, hnil, _⟩ | ⟨_, d, _, hcommand, hcommands, hcons⟩ := (Parse.all_eq_ok (Command.moves_parse charset)).1 h
    · cases hnil
    obtain ⟨rfl, rfl⟩ := List.cons.inj hcons
    refine List.forall_mem_cons.2 ⟨?_, ih hcommands⟩
    obtain ⟨code, d₁, _, hcommand⟩ := Parse.bind_eq_ok.1 hcommand
    obtain ⟨nest, d₂, _, hcommand⟩ := Parse.bind_eq_ok.1 hcommand
    obtain ⟨text, d₃, htext, hcommand⟩ := Parse.bind_eq_ok.1 hcommand
    obtain ⟨count, d₄, _, hcommand⟩ := Parse.bind_eq_ok.1 hcommand
    obtain ⟨_, d₅, _, hcommand⟩ := Parse.bind_eq_ok.1 hcommand
    obtain ⟨args, d₆, _, hcommand⟩ := Parse.bind_eq_ok.1 hcommand
    obtain ⟨rfl, _⟩ := Parse.pure_eq_ok.1 hcommand
    exact StoredText.exists_bytes_of_parseSized htext

/-- A text in a chunk that the file holds is decoded from bytes, and not taken from a default. -/
theorem Chunk.Decodes.exists_bytes {c : Chunk} {t : String} (h : c.Decodes charset t) {p : Payload}
    (hp : c.payload = some p) : ∃ bytes, charset.decode bytes = some t := by
  induction h generalizing p with
  | string h =>
    obtain ⟨_, _, h⟩ := bind_eq_ok.1 h
    rw [hp] at h
    obtain ⟨c', hparse, _⟩ := Payload.decode_eq_ok.1 h
    obtain ⟨bytes, _, ht⟩ := StoredText.parse_eq_ok.1 hparse
    exact ⟨bytes, ht⟩
  | script h hcommand =>
    obtain ⟨_, _, h⟩ := bind_eq_ok.1 h
    obtain ⟨p', _, h⟩ := bind_eq_ok.1 h
    obtain ⟨c', hparse, _⟩ := Payload.decode_eq_ok.1 h
    exact Script.exists_bytes_of_parse hparse _ hcommand
  | record h he _ ih =>
    obtain ⟨d, _, _, hin⟩ := Chunk.record_eq_ok h
    obtain ⟨p', hp'⟩ := hin.payload (List.mem_of_mem_filter he)
    exact ih hp'
  | table h hr he _ ih =>
    obtain ⟨d, _, _, hin, _⟩ := Chunk.table_eq_ok h
    obtain ⟨_, hinRow⟩ := hin.row hr
    obtain ⟨p', hp'⟩ := hinRow.payload (List.mem_of_mem_filter he)
    exact ih hp'

namespace GameFile

variable {bytes : List UInt8} {f : GameFile}

/-- Every text in a valid file is decoded from bytes. -/
theorem Decodes.exists_bytes (hopen : open? charset bytes = .ok f) (hvalid : f.isValid) {t : String}
    (h : f.Decodes charset t) : ∃ bytes, charset.decode bytes = some t := by
  obtain ⟨signature, c, document, chunks, _, hsignature, _, hchunks, rfl⟩ := open?_valid hopen hvalid
  obtain rfl | ⟨root, hroot, ht⟩ := h
  · exact StoredText.exists_bytes_of_parseSized hsignature
  · obtain ⟨slot, _, p, rfl⟩ := exists_left_of_forall₂ (slots_of_parseRoots hchunks) hroot
    exact ht.exists_bytes rfl

/-- A file that is refused since a text cannot be encoded holds that text. -/
theorem decodes_of_refused {j : Value} (hopen : open? charset bytes = .ok f) (hvalid : f.isValid)
    (hj : f.toValue charset = .ok j) {refusing : Charset} {t : String}
    (h : j.saveFile charset = .error (.unencodable refusing t)) :
    refusing = charset ∧ f.Decodes charset t ∧ charset.encode t = none := by
  obtain ⟨document, roots, hdocument, rfl, _, hvalues⟩ := roots_of_toValue hopen hvalid hj
  -- what is said of an error here holds of all errors about something else
  let P : Error → Prop := fun e => ∀ refusing t, e = .unencodable refusing t →
    refusing = charset ∧ f.Decodes charset t ∧ charset.encode t = none
  have hP : ∀ e : Error, e.isPlain → P e := by
    rintro _ hplain refusing t rfl
    cases hplain
  have hencode : ∀ t, f.Decodes charset t → FailsOnly P (StoredText.encode charset t) := by
    rintro t ht _ he refusing t' rfl
    obtain ⟨hnone, herror⟩ := StoredText.encode_eq_error.1 he
    cases herror
    exact ⟨rfl, ht, hnone⟩
  refine Value.failsOnly_saveFile hP ?_ ?_ _ h _ _ rfl
  · rintro _ ⟨⟩
    exact hencode f.signature (.inl rfl)
  · rintro _ document' _ ⟨⟩ hdocument' ⟨⟩ slot root hmem
    obtain rfl := Option.some.inj (hdocument.symm.trans hdocument')
    have hslot := Document.isRoot hdocument (List.of_mem_zip hmem).1
    obtain ⟨p, hp, hvalue⟩ := (List.forall₂_iff_zip.1 hvalues).2 hmem
    have hcanonical := Canonical.of_toValue hslot.consistent hvalue
    have htexts := fun t ht => hencode t (.inr ⟨_, hp, hcanonical.of_encodes hslot.consistent ht⟩)
    exact ⟨Value.failsOnly_savedSize hP htexts, Value.failsOnly_save hP htexts⟩

end GameFile

end ChunkTree
