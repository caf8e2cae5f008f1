import ChunkTree.Proofs.Mentions
import ChunkTree.Proofs.ReadAhead
import ChunkTree.Proofs.Sizes
import ChunkTree.View.Describe

/-!
# Files are read back

The roots of a file stand one after the other without their lengths, so where a root ends shows only when it
is parsed.  A root that is read from the bytes that it is saved as (`Save.RootReads`) is found again in a
file (`GameFile.takes_parseRoots`), and so the file is opened with nothing left over
(`GameFile.open?_of_saved`).  A root with its length in front would be found whatever its bytes are
(`GameFile.takes_parseRoot_of_sized`).
-/

namespace ChunkTree

open Text (Charset)
open Save (Gives Encodes)

variable {charset : Charset}

/-! ## Saving a file -/

/-- What a file is put together from. -/
theorem Value.saveFile_eq_ok {v : Value} {bytes : List UInt8} :
    v.saveFile charset = .ok bytes ↔ ∃ signature document roots header body,
      v.get? "signature" = some (.string signature) ∧ Document.ofSignature? signature = some document ∧
        v.get? "root" = some (.array roots) ∧ roots.length = document.roots.length ∧
        StoredText.encodeSized charset signature = .ok header ∧
        Save.writeRoots charset document.roots roots = .ok body ∧ header ++ body = bytes := by
  simp only [saveFile, bind_eq_ok, Save.filePart_eq_ok, Save.string_eq_ok]
  constructor
  · rintro ⟨_, hsignature, signature, rfl, h⟩
    split at h
    · exact absurd h throw_ne_ok
    rename_i document hdocument
    simp only [bind_eq_ok, Save.filePart_eq_ok, Save.array_eq_ok] at h
    obtain ⟨_, hroots, roots, rfl, h⟩ := h
    by_cases hlength : roots.length ≠ document.roots.length
    · rw [if_pos hlength] at h
      exact absurd h throw_ne_ok
    · rw [if_neg hlength] at h
      obtain ⟨header, hheader, h⟩ := bind_eq_ok.1 h
      obtain ⟨body, hbody, h⟩ := bind_eq_ok.1 h
      exact ⟨signature, document, roots, header, body, hsignature, hdocument, hroots, not_not.1 hlength,
        hheader, hbody, pure_eq_ok.1 h⟩
  · rintro ⟨signature, document, roots, header, body, hsignature, hdocument, hroots, hlength, hheader,
      hbody, rfl⟩
    refine ⟨_, hsignature, signature, rfl, ?_⟩
    rw [hdocument]
    simp only [bind_eq_ok, Save.filePart_eq_ok, Save.array_eq_ok]
    refine ⟨_, hroots, roots, rfl, ?_⟩
    rw [if_neg (not_not.2 hlength)]
    exact bind_eq_ok.2 ⟨header, hheader, bind_eq_ok.2 ⟨body, hbody, rfl⟩⟩

/-! ## Roots -/

/-- Whether the rows or the nodes of a root can be counted in a word. -/
structure Save.Countable (v : Value) (s : Schema) : Prop where
  rows : ∀ d, s.actual .table = .ok d → v.tableRows.length < 0x100000000
  nodes : ∀ target t, s.resolve = .ok (.mapTree, target) → Save.mapTree s.label v = .ok t →
    t.nodes.length < 0x100000000

/-- Whether a root is read from the bytes that it is saved as, and its value is the normal form. -/
structure Save.RootReads (charset : Charset) (slot : Schema) (root : Value) : Prop where
  unsized : slot.isSized = false
  takes : ∀ bytes, root.save charset slot = .ok bytes → ∀ pos, (GameFile.skipRoot slot).Takes pos bytes ()
  value : ∀ bytes, root.save charset slot = .ok bytes → ∀ pos,
    Chunk.toValue charset ⟨some slot, some ⟨pos, bytes⟩⟩ = .ok (root.normal slot)

/-- What is written for a root holds what the root is saved as. -/
theorem Save.save_of_writeRoot {slot : Schema} {root : Value} {bytes : List UInt8}
    (h : writeRoot charset slot root = .ok bytes) :
    ∃ body, root.save charset slot = .ok body ∧ body.length ≤ bytes.length := by
  obtain ⟨body, hbody, rfl⟩ := writeRoot_eq_ok.1 h
  refine ⟨body, hbody, ?_⟩
  split
  · rw [List.length_append]
    exact Nat.le_add_left _ _
  · exact Nat.le_refl _

/-- What the roots of a file are saved as stands in the file. -/
theorem Save.save_of_writeRoots {slots : List Schema} {roots : List Value}
    (hlength : roots.length = slots.length)
    {bytes : List UInt8} (h : writeRoots charset slots roots = .ok bytes) :
    List.Forall₂ (fun slot root => ∃ b, root.save charset slot = .ok b ∧
      b.length ≤ bytes.length) slots roots := by
  induction slots generalizing roots bytes with
  | nil =>
    obtain rfl := List.length_eq_zero_iff.1 hlength
    exact .nil
  | cons slot slots ih =>
    obtain ⟨root, roots, rfl⟩ := List.exists_cons_of_length_eq_add_one hlength
    obtain ⟨first, hfirst, h⟩ := bind_eq_ok.1 h
    obtain ⟨rest, hrest, h⟩ := bind_eq_ok.1 h
    obtain rfl := pure_eq_ok.1 h
    obtain ⟨body, hbody, hle⟩ := save_of_writeRoot hfirst
    refine .cons ⟨body, hbody, by rw [List.length_append]; omega⟩ ?_
    refine (ih (by simpa using hlength) hrest).imp fun _ _ ⟨b, hb, hle⟩ => ⟨b, hb, ?_⟩
    rw [List.length_append]
    omega

theorem Parse.Takes.discard {α : Type} {p : Parse α} {pos : Nat} {bytes : List UInt8} {x : α}
    (h : p.Takes pos bytes x) : (discard p).Takes pos bytes () :=
  h.map fun _ => ()

/-- A root is read back if the entries that it is saved as are. -/
theorem Save.rootReads {slot target : Schema} {root : Value} {kind : Kind} (hs : slot.Consistent)
    (hsized : slot.isSized = false) (hkind : slot.resolve = .ok (kind, target)) (hroot : kind.isRoot)
    (hcount : Countable root slot) (hback : ∀ e, Gives root slot e → e.ReadsBack charset) :
    RootReads charset slot root := by
  have hboth : ∀ bytes, root.save charset slot = .ok bytes → ∀ pos,
      (GameFile.skipRoot slot).Takes pos bytes () ∧
        Chunk.toValue charset ⟨some slot, some ⟨pos, bytes⟩⟩ = .ok (root.normal slot) := by
    intro bytes h pos
    obtain ⟨kind', target', hkind', h⟩ := Value.save_eq_ok.1 h
    obtain ⟨rfl, rfl⟩ := Prod.mk.inj (Except.ok.inj (hkind.symm.trans hkind'))
    rw [GameFile.skipRoot, hkind]
    rcases h with ⟨rfl, d, hd, h⟩ | ⟨rfl, d, hd, h⟩ | ⟨hleaf, h⟩
    · obtain ⟨r, hr, _, hvalue⟩ :=
        Record.readsBack (hs.record hd) h (fun e he => hback e (.inl ⟨d, hd, he⟩)) none pos
      simp only [hd]
      exact ⟨hr.discard, by rw [Chunk.toValue_record hkind hd hr, hvalue, Value.normal_of_record hkind hd]⟩
    · obtain ⟨t, ht, hvalue⟩ := Table.readsBack (hs.table hd) h (hcount.rows d hd)
        (fun r hr e he => hback e (.inr ⟨d, hd, r, hr, he⟩)) pos
      simp only [hd]
      exact ⟨ht.discard, by rw [Chunk.toValue_table hkind hd ht, hvalue, Value.normal_of_table hkind hd]⟩
    · cases kind with
      | mapTree =>
        obtain ⟨t, ht, h⟩ := bind_eq_ok.1 h
        obtain rfl := pure_eq_ok.1 h
        have htakes := MapTree.takes_parse (hcount.nodes target t hkind ht) pos
        have hchunk : (Chunk.mk (some slot) (some ⟨pos, t.encode⟩)).kind = .ok .mapTree :=
          Chunk.kind_eq_ok.2 ⟨target, hkind⟩
        refine ⟨htakes.discard, ?_⟩
        rw [Chunk.toValue_eq, Chunk.valueBy_eq_ok_of_leaf hchunk rfl, Value.normal_of_leaf hkind rfl]
        refine ⟨.mapTree t, bind_eq_ok.2 ⟨t, ?_, rfl⟩, (Value.normalMapTree_of_mapTree ht).symm⟩
        exact Content.content_of_decode hchunk (Payload.decode_of_takes htakes)
      | record | table => cases hleaf
      | _ => cases hroot
  exact ⟨hsized, fun bytes h pos => (hboth bytes h pos).1, fun bytes h pos => (hboth bytes h pos).2⟩

/-- What is saved as few bytes has few rows or nodes. -/
theorem Save.countable_of_save {v : Value} {s : Schema} {bytes : List UInt8}
    (h : v.save charset s = .ok bytes) (hlen : bytes.length < 0x100000000) : Countable v s where
  rows d hd := by
    rw [Value.save_of_table hd] at h
    exact (Value.length_tableRows_le h).trans_lt hlen
  nodes target t hkind ht := by
    rw [Value.save_eq, writeBy, hkind, ok_bind] at h
    obtain ⟨t', ht', h⟩ := bind_eq_ok.1 h
    obtain rfl := pure_eq_ok.1 h
    obtain rfl := Except.ok.inj (ht.symm.trans ht')
    exact t.length_nodes_le.trans_lt hlen

namespace Document

/-- Signatures are short and in ASCII. -/
theorem check_signatures : all.all (fun entry =>
    StoredText.isAscii entry.1 && decide (entry.1.length < 100)) = true := by
  decide +kernel

/-- The length of a signature can be stored, whatever the charset. -/
theorem length_signature {signature : String} {document : Schema} (h : ofSignature? signature = some document)
    {bytes : List UInt8} (hbytes : StoredText.encode charset signature = .ok bytes) :
    bytes.length < 0x100000000 := by
  obtain ⟨hfind, _⟩ := Option.filter_eq_some_iff.1 h
  obtain ⟨v, hv, _⟩ := Option.map_eq_some_iff.1 hfind
  have hcheck := List.all_eq_true.1 check_signatures _ (Value.mem_of_lookup hv)
  obtain ⟨hascii, hshort⟩ := Bool.and_eq_true_iff.1 hcheck
  have hsize := StoredText.size_of_encode hbytes
  rw [StoredText.size, if_pos hascii] at hsize
  rw [← Except.ok.inj hsize]
  exact (of_decide_eq_true hshort).trans (by decide)

end Document

namespace GameFile

/-- A root in a file is the chunk of the bytes that it is saved as. -/
theorem takes_parseRoot {slot : Schema} {root : Value} (hreads : Save.RootReads charset slot root)
    {bytes : List UInt8} (h : root.save charset slot = .ok bytes) (pos : Nat) :
    (parseRoot slot).Takes pos bytes ⟨some slot, some ⟨pos, bytes⟩⟩ := by
  intro rest
  rw [parseRoot_of_unsized hreads.unsized, measureRoot, hreads.takes bytes h pos rest]
  simp only [Nat.add_sub_cancel_left, List.take_left]

/-- A root with its length in front is the chunk of the bytes that it is saved as, whatever they are. -/
theorem takes_parseRoot_of_sized {slot : Schema} (hsized : slot.isSized) {root : Value} {bytes : List UInt8}
    (h : Save.writeRoot charset slot root = .ok bytes) (hlen : bytes.length < 0x100000000) (pos : Nat) :
    ∃ body offset, root.save charset slot = .ok body ∧ offset + body.length = pos + bytes.length ∧
      (parseRoot slot).Takes pos bytes ⟨some slot, some ⟨offset, body⟩⟩ := by
  obtain ⟨body, hbody, hbytes⟩ := Save.writeRoot_eq_ok.1 h
  rw [if_pos hsized] at hbytes
  subst hbytes
  rw [List.length_append] at hlen
  refine ⟨body, pos + (Varint.encodeLength body.length).length, hbody, ?_, ?_⟩
  · rw [List.length_append, Nat.add_assoc]
  · rw [parseRoot, if_pos hsized]
    refine (Varint.takes_parseLength pos (by omega)).bind (Parse.takes_position_bind ?_)
    exact (Parse.takes_bytes _ body).map fun bytes => Chunk.mk (some slot) (some ⟨_, bytes⟩)

/-- The roots in a file have the normal forms of what was saved as their values. -/
theorem takes_parseRoots {slots : List Schema} {roots : List Value}
    (hreads : List.Forall₂ (Save.RootReads charset) slots roots) {bytes : List UInt8}
    (h : Save.writeRoots charset slots roots = .ok bytes) (pos : Nat) :
    ∃ chunks, (parseRoots slots).Takes pos bytes chunks ∧
      chunks.mapM (Chunk.toValue charset) = .ok (List.zipWith Value.normal roots slots) := by
  induction hreads generalizing bytes pos with
  | nil =>
    obtain rfl : [] = bytes := Except.ok.inj h
    exact ⟨[], Parse.takes_pure pos [], rfl⟩
  | @cons slot root slots roots hroot _ ih =>
    obtain ⟨first, hfirst, h⟩ := bind_eq_ok.1 h
    obtain ⟨rest, hrest, h⟩ := bind_eq_ok.1 h
    obtain rfl := pure_eq_ok.1 h
    obtain ⟨body, hbody, hbytes⟩ := Save.writeRoot_eq_ok.1 hfirst
    obtain rfl : body = first := by rwa [hroot.unsized] at hbytes
    obtain ⟨chunks, htakes, hvalues⟩ := ih hrest (pos + body.length)
    refine ⟨⟨some slot, some ⟨pos, body⟩⟩ :: chunks, ?_, ?_⟩
    · exact (takes_parseRoot hroot hbody pos).bind (htakes.map (⟨some slot, some ⟨pos, body⟩⟩ :: ·))
    · rw [List.mapM_cons, hroot.value body hbody pos, ok_bind, hvalues, ok_bind]
      rfl

/-- A file that was saved is opened, with nothing after its roots. -/
theorem open?_of_saved {signature : String} {document : Schema} {roots : List Value}
    {header body : List UInt8}
    (hdocument : Document.ofSignature? signature = some document) (hs : StoredText.Survives charset signature)
    (hheader : StoredText.encodeSized charset signature = .ok header)
    (hbody : Save.writeRoots charset document.roots roots = .ok body)
    (hreads : List.Forall₂ (Save.RootReads charset) document.roots roots) :
    ∃ chunks, open? charset (header ++ body) = .ok ⟨header ++ body, signature, .ok ⟨document, chunks, 0⟩⟩ ∧
      chunks.mapM (Chunk.toValue charset) = .ok (List.zipWith Value.normal roots document.roots) := by
  obtain ⟨text, htext, rfl⟩ := StoredText.encodeSized_eq_ok.1 hheader
  obtain ⟨chunks, htakes, hvalues⟩ := takes_parseRoots hreads hbody
    (0 + (Varint.encodeLength text.length ++ text).length)
  refine ⟨chunks, ?_, hvalues⟩
  have hroots := htakes []
  rw [List.append_nil] at hroots
  rw [open?, StoredText.takes_parseSized hs htext (Document.length_signature hdocument htext) 0 body]
  simp only [hdocument, hroots]
  rfl

end GameFile

end ChunkTree
