import ChunkTree.Proofs.ReadAhead
import ChunkTree.View.Describe

/-!
# Bytes after the last root

Where a root ends shows only when the whole rest of the file is parsed, and both the end of a record and the
counts of tables and map trees are compared with that rest.  Still, a parse that leaves something over has
ended for another reason than the end of the range, so it ends there whatever follows (`Record.openEnded_parse`,
`Table.openEnded_parse`).  Hence the bytes after the last root may be exchanged for any others, and for none
(`GameFile.trailing_inert`).
-/

namespace ChunkTree

open Text (Charset)

variable {charset : Charset}

/-- What leads from a cursor to another one, and would do so whatever came after the bytes in between. -/
def Cursor.OpenEnded (R : Cursor → Cursor → Prop) (c c' : Cursor) : Prop :=
  ∃ used, c.rest = used ++ c'.rest ∧ c'.pos = c.pos + used.length ∧
    ∀ more, R ⟨c.pos, used ++ more⟩ ⟨c'.pos, more⟩

namespace Cursor.OpenEnded

variable {R S : Cursor → Cursor → Prop} {c d e : Cursor}

theorem leads (h : OpenEnded R c d) : c.Leads d := by
  obtain ⟨used, hrest, hpos, _⟩ := h
  exact ⟨used, hrest, hpos⟩

/-- One step after the other; the place in between is the same. -/
theorem trans (h : OpenEnded R c d) (h' : OpenEnded S d e) :
    OpenEnded (fun a b => ∃ m, m.pos = d.pos ∧ R a m ∧ S m b) c e := by
  obtain ⟨used, hrest, hpos, hR⟩ := h
  obtain ⟨used', hrest', hpos', hS⟩ := h'
  refine ⟨used ++ used', by rw [hrest, hrest', List.append_assoc], ?_, fun more => ?_⟩
  · rw [hpos', hpos, List.length_append, Nat.add_assoc]
  · rw [List.append_assoc]
    exact ⟨⟨d.pos, used' ++ more⟩, rfl, hR (used' ++ more), hS more⟩

theorem imp (h : OpenEnded R c d) (hRS : ∀ a b, a.pos = c.pos → b.pos = d.pos → R a b → S a b) :
    OpenEnded S c d := by
  obtain ⟨used, hrest, hpos, hR⟩ := h
  exact ⟨used, hrest, hpos, fun more => hRS _ _ rfl rfl (hR more)⟩

/-- The bytes in between, with others after them. -/
theorem replaced (h : OpenEnded R c d) (more : List UInt8) :
    R ⟨c.pos, c.rest.take (d.pos - c.pos) ++ more⟩ ⟨d.pos, more⟩ := by
  obtain ⟨used, hrest, hpos, hR⟩ := h
  have hlength : d.pos - c.pos = used.length := by omega
  rw [hlength, hrest, List.take_left]
  exact hR more

end Cursor.OpenEnded

theorem Parse.Local.openEnded {α : Type} {p : Parse α} {c c' : Cursor} {x : α} (hp : p.Local)
    (h : p c = .ok x c') : Cursor.OpenEnded (fun a b => p a = .ok x b) c c' := by
  obtain ⟨used, hrest, hpos, htakes⟩ := hp h
  refine ⟨used, hrest, hpos, fun more => ?_⟩
  rw [hpos]
  exact htakes c.pos more

/-! ## Records and tables -/

namespace Record

variable {schema : Schema} {previous : UInt32} {row : Option UInt32} {c c' : Cursor}
  {entries : List (UInt32 × Chunk)} {r : Record}

/-- Chunks that are followed by something have ended with a zero, not with the range. -/
theorem Reads.openEnded (h : Reads schema previous c entries c') (hrest : c'.rest ≠ []) :
    Cursor.OpenEnded (fun a b => Reads schema previous a entries b) c c' := by
  induction h with
  | done h => exact absurd h hrest
  | stop h => exact (Varint.local_parse.openEnded h).imp fun _ _ _ _ h => .stop h
  | chunk hindex hprevious hlength hbytes _ ih =>
    refine ((Varint.local_parse.openEnded hindex).trans ((Varint.local_parseLength.openEnded hlength).trans
      (((Parse.local_bytes _).openEnded hbytes).trans (ih hrest)))).imp ?_
    rintro a b _ _ ⟨c₁, _, hindex, c₂, hpos, hlength, c₃, _, hbytes, hreads⟩
    have := Reads.chunk hindex hprevious hlength hbytes hreads
    rwa [hpos] at this

theorem openEnded_parse (h : parse schema row c = .ok r c') (hrest : c'.rest ≠ []) :
    Cursor.OpenEnded (fun a b => parse schema row a = .ok r b) c c' := by
  obtain ⟨entries, hentries, rfl⟩ := parse_eq_ok.1 h
  refine (hentries.openEnded hrest).imp fun a b ha hb h => parse_eq_ok.2 ⟨entries, h, ?_⟩
  rw [ha, hb]

end Record

namespace Table

variable {schema : Schema} {previous : UInt32} {c c' : Cursor} {rows : List Record} {t : Table}

theorem Reads.openEnded (h : Reads schema previous c rows c') (hrest : c'.rest ≠ []) :
    Cursor.OpenEnded (fun a b => Reads schema previous a rows b) c c' := by
  induction h with
  | nil => exact ⟨[], rfl, rfl, fun _ => .nil⟩
  | row hindex hprevious hrow hreads ih =>
    -- what follows the last row also follows this one
    have hle := hreads.within.leads.length_le
    have hpos := List.length_pos_iff.2 hrest
    have hrest₂ := List.length_pos_iff.1 (Nat.lt_of_lt_of_le hpos hle)
    refine ((Varint.local_parse.openEnded hindex).trans
      ((Record.openEnded_parse hrow hrest₂).trans (ih hrest))).imp ?_
    rintro a b _ _ ⟨c₁, _, hindex, c₂, _, hrow, hreads⟩
    exact .row hindex hprevious hrow hreads

/-- The number of rows is compared with all that follows, but the rows alone take as many bytes. -/
theorem openEnded_parse (h : parse schema c = .ok t c') (hrest : c'.rest ≠ []) :
    Cursor.OpenEnded (fun a b => parse schema a = .ok t b) c c' := by
  obtain ⟨count, c₁, rows, hcount, _, hreads, hlength, rfl⟩ := parse_eq_ok.1 h
  refine ((Varint.local_parseLength.openEnded hcount).trans (hreads.openEnded hrest)).imp ?_
  rintro a b ha hb ⟨c₁, _, hcount, hreads⟩
  have := hreads.length_le
  exact parse_eq_ok.2 ⟨count, c₁, rows, hcount, by omega, hreads, hlength, by rw [ha, hb]⟩

end Table

/-! ## Roots -/

namespace GameFile

variable {slot : Schema} {slots : List Schema} {c c' : Cursor} {root : Chunk} {roots : List Chunk}

theorem openEnded_skipRoot (hslot : slot.IsRoot) (h : skipRoot slot c = .ok () c') (hrest : c'.rest ≠ []) :
    Cursor.OpenEnded (fun a b => skipRoot slot a = .ok () b) c c' := by
  rcases skipRoot_eq_ok hslot h with ⟨d, r, _, hskip, hr⟩ | ⟨d, t, _, hskip, ht⟩ | ⟨target, t, _, hskip, ht⟩ <;>
    rw [hskip]
  · exact (Record.openEnded_parse hr hrest).imp fun _ _ _ _ h => Parse.discard_eq_ok.2 ⟨r, h⟩
  · exact (Table.openEnded_parse ht hrest).imp fun _ _ _ _ h => Parse.discard_eq_ok.2 ⟨t, h⟩
  · exact (MapTree.local_parse.openEnded ht).imp fun _ _ _ _ h => Parse.discard_eq_ok.2 ⟨t, h⟩

theorem openEnded_parseRoot (hslot : slot.IsRoot) (h : parseRoot slot c = .ok root c') (hrest : c'.rest ≠ []) :
    Cursor.OpenEnded (fun a b => parseRoot slot a = .ok root b) c c' := by
  rw [parseRoot_of_unsized hslot.unsized] at h ⊢
  unfold measureRoot at h
  split at h
  · rename_i stop hskip
    obtain ⟨rfl, rfl⟩ := EStateM.Result.ok.inj h
    obtain ⟨used, hused, hpos, htakes⟩ := openEnded_skipRoot hslot hskip hrest
    refine ⟨used, hused, hpos, fun more => ?_⟩
    have hskip' : skipRoot slot ⟨c.pos, used ++ more⟩ = .ok () ⟨stop.pos, more⟩ := htakes more
    have hlength : stop.pos - c.pos = used.length := by omega
    simp only [measureRoot, hskip', hlength, hused, List.take_left]
  · cases h

/-- Every root is followed by the bytes that follow the last one. -/
theorem openEnded_parseRoots (hslots : ∀ slot ∈ slots, slot.IsRoot) (h : parseRoots slots c = .ok roots c')
    (hrest : c'.rest ≠ []) :
    Cursor.OpenEnded (fun a b => parseRoots slots a = .ok roots b) c c' := by
  induction slots generalizing c roots with
  | nil =>
    obtain ⟨rfl, rfl⟩ := Parse.pure_eq_ok.1 h
    exact ⟨[], rfl, rfl, fun _ => rfl⟩
  | cons slot slots ih =>
    obtain ⟨root, c₁, hroot, h⟩ := Parse.bind_eq_ok.1 h
    obtain ⟨roots, c₂, hroots, h⟩ := Parse.bind_eq_ok.1 h
    obtain ⟨rfl, rfl⟩ := Parse.pure_eq_ok.1 h
    obtain ⟨hslot, hslots⟩ := List.forall_mem_cons.1 hslots
    have hothers := ih hslots hroots
    have hrest₁ : c₁.rest ≠ [] := by
      have hle := hothers.leads.length_le
      have hpos := List.length_pos_iff.2 hrest
      exact List.length_pos_iff.1 (Nat.lt_of_lt_of_le hpos hle)
    refine ((openEnded_parseRoot hslot hroot hrest₁).trans hothers).imp ?_
    rintro a b _ _ ⟨c₁, _, hroot, hroots⟩
    exact Parse.bind_eq_ok.2 ⟨root, c₁, hroot, Parse.bind_eq_ok.2 ⟨roots, b, hroots, rfl⟩⟩

/-- Bytes after the last root may be exchanged for any others, and for none: the file is valid, with the
signature and the roots that it had, each at its offset with its bytes, so that it has the same value or fails
to have one with the same error. -/
theorem trailing_inert {bytes : List UInt8} {f : GameFile} (h : open? charset bytes = .ok f)
    (hvalid : f.isValid) (htrailing : 0 < f.trailing) (more : List UInt8) :
    ∃ f', open? charset (bytes.take (bytes.length - f.trailing) ++ more) = .ok f' ∧ f'.isValid ∧
      f'.signature = f.signature ∧ f'.roots = f.roots ∧ f'.trailing = more.length ∧
      ∀ charset', f'.toValue charset' = f.toValue charset' := by
  obtain ⟨signature, c, document, roots, c', hsignature, hdocument, hroots, rfl⟩ := open?_valid h hvalid
  have hrest : c'.rest ≠ [] := List.length_pos_iff.1 htrailing
  have hfile := ((StoredText.local_parseSized charset).openEnded hsignature).trans
    (openEnded_parseRoots (fun slot hslot => Document.isRoot hdocument hslot) hroots hrest)
  have hlength : c'.pos - 0 = bytes.length - c'.remaining := by
    have hend : c'.pos + c'.remaining = 0 + bytes.length := hfile.leads.pos_add_length
    omega
  obtain ⟨start, _, hsignature', hroots'⟩ := hfile.replaced more
  rw [hlength] at hsignature'
  refine ⟨⟨bytes.take (bytes.length - c'.remaining) ++ more, signature,
    .ok ⟨document, roots, more.length⟩⟩, ?_, rfl, rfl, rfl, rfl, fun _ => rfl⟩
  show open? charset (bytes.take (bytes.length - c'.remaining) ++ more) = _
  simp only [open?, hsignature', hdocument, hroots']
  rfl

/-- A map tree whose roots end with a count, a node and a zero, and which goes on with bytes that would make
another chunk. -/
theorem trailing_inert_mapTree :
    let bytes : List UInt8 := [10, 76, 99, 102, 77, 97, 112, 84, 114, 101, 101, 128, 0, 1, 1, 1, 2, 128,
      1, 0, 0, 3, 1, 9]
    ∃ f, open? .shiftJis bytes = .ok f ∧ f.isValid ∧ 0 < f.trailing ∧
      ∃ f', open? .shiftJis (bytes.take (bytes.length - f.trailing) ++ [1, 1]) = .ok f' ∧ f'.isValid ∧
        f'.signature = f.signature ∧ f'.roots = f.roots ∧ f'.trailing = 2 ∧
        ∀ charset', f'.toValue charset' = f.toValue charset' := by
  intro bytes
  obtain ⟨f, hf, hvalid, htrailing⟩ : ∃ f, open? .shiftJis bytes = .ok f ∧ f.isValid ∧ f.trailing = 3 :=
    ⟨_, rfl, rfl, rfl⟩
  have hpos : 0 < f.trailing := by
    rw [htrailing]
    decide
  exact ⟨f, hf, hvalid, hpos, trailing_inert hf hvalid hpos [1, 1]⟩

end GameFile

end ChunkTree
