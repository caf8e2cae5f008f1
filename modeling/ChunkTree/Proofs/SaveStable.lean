import ChunkTree.Proofs.FileRead
import ChunkTree.Proofs.SaveNormal
import ChunkTree.Tool.Run

/-!
# Saved files are stable

A file that was saved is valid, and saving its value gives the same bytes again (`Value.saveFile_stable`).
The roots are read as their normal forms, which are saved alike (`Value.save_normal`).
-/

namespace ChunkTree

open Text (Charset)

variable {charset : Charset}

namespace Save

/-- The normal forms of roots are saved as the roots are. -/
theorem writeRoots_normal {slots : List Schema} {roots : List Value} {bytes : List UInt8}
    (hslots : ∀ slot ∈ slots, slot.IsRoot) (h : writeRoots charset slots roots = .ok bytes) :
    writeRoots charset slots (List.zipWith Value.normal roots slots) = .ok bytes := by
  induction slots generalizing roots bytes with
  | nil => exact h
  | cons slot slots ih =>
    cases roots with
    | nil => exact h
    | cons root roots =>
      obtain ⟨first, hfirst, h⟩ := bind_eq_ok.1 h
      obtain ⟨rest, hrest, h⟩ := bind_eq_ok.1 h
      have hslot := hslots slot List.mem_cons_self
      obtain ⟨body, hbody, hbytes⟩ := writeRoot_eq_ok.1 hfirst
      have hnormal := Value.save_normal hslot.consistent hslot.steady hbody
      exact bind_eq_ok.2 ⟨first, writeRoot_eq_ok.2 ⟨body, hnormal, hbytes⟩,
        bind_eq_ok.2 ⟨rest, ih (fun s hs => hslots s (List.mem_cons_of_mem _ hs)) hrest, h⟩⟩

/-- A root that was saved as few bytes is read back. -/
theorem rootReads_of_save {slot : Schema} {root : Value} (hslot : slot.IsRoot)
    (htexts : ∀ t, root.Mentions t → StoredText.Survives charset t) {bytes : List UInt8}
    (h : root.save charset slot = .ok bytes) (hlen : bytes.length < 0x100000000) :
    RootReads charset slot root := by
  obtain ⟨kind, target, hkind, hroot⟩ := hslot.kind
  refine rootReads hslot.consistent hslot.unsized hkind hroot (countable_of_save h hlen) fun e he => ?_
  exact he.readsBack hslot.consistent (fun t ht => Value.survives_of_encodes htexts ht) fun payload hp =>
    (he.length_payload_le h hp).trans_lt hlen

end Save

/-- The line that reports that a file is saved as it was. -/
def Tool.roundTripLine (path : String) (bytes : List UInt8) : Tool.Line :=
  .timed s!"OK: {path} ({bytes.length} bytes) round-trips"

/-- A file whose value is saved as the same bytes passes. -/
theorem Tool.roundTrip_of_saved {f : GameFile} {w : Value} {bytes : List UInt8}
    (hopen : GameFile.open? charset bytes = .ok f) (hvalid : f.isValid) (hvalue : f.toValue charset = .ok w)
    (hsave : w.saveFile charset = .ok bytes) (path : String) :
    roundTrip charset path bytes = .ok (roundTripLine path bytes) := by
  rw [roundTrip, hopen]
  simp only [Except.mapError, ok_bind, hvalid, hvalue, hsave, Bool.not_true, Bool.false_eq_true,
    if_false, if_true]
  rfl

theorem Tool.run_read (path : String) (tree : FileTree) :
    (FileStore.read path : StateM FileTree (Except StoreFault (List UInt8))) tree = (tree.read path, tree) :=
  rfl

/-- Verifying a file reports what its round trip comes to. -/
theorem Tool.run_verify {tree : FileTree} {path : String} {bytes : List UInt8}
    (hread : tree.read path = .ok bytes) :
    (verify charset path : StateM FileTree Outcome) tree =
      (match roundTrip charset path bytes with
        | .error f => .failed f
        | .ok line => .done [line], tree) := by
  unfold verify
  simp only [bind, StateT.bind, run_read, hread]
  cases roundTrip charset path bytes <;> rfl

/-- A file that passes is reported, and stays as it is. -/
theorem Tool.verify_of_roundTrip {tree : FileTree} {path : String} {bytes : List UInt8} {line : Line}
    (hread : tree.read path = .ok bytes) (h : roundTrip charset path bytes = .ok line) :
    (verify charset path : StateM FileTree Outcome) tree = (.done [line], tree) := by
  rw [run_verify hread, h]

/-- Saving is stable: a saved file is valid, and its value is saved as the same bytes. -/
theorem Value.saveFile_stable {v : Value} {bytes : List UInt8}
    (htexts : ∀ t, v.Mentions t → StoredText.Survives charset t) (h : v.saveFile charset = .ok bytes)
    (hlen : bytes.length < 0x80000000) :
    ∃ f w, GameFile.open? charset bytes = .ok f ∧ f.isValid ∧
      v.get? "signature" = some (.string f.signature) ∧
      f.trailing = 0 ∧ f.toValue charset = .ok w ∧ w.saveFile charset = .ok bytes ∧
      ∀ (path : String) (tree : FileTree), tree.read path = .ok bytes →
        (Tool.verify charset path : StateM FileTree Tool.Outcome) tree =
          (.done [Tool.roundTripLine path bytes], tree) := by
  obtain ⟨signature, document, roots, header, body, hsignature, hdocument, hroots, hlength, hheader,
    hbody, rfl⟩ :=
    saveFile_eq_ok.1 h
  rw [List.length_append] at hlen
  have hslots : ∀ slot ∈ document.roots, slot.IsRoot := fun slot hslot => Document.isRoot hdocument hslot
  have hreads : List.Forall₂ (Save.RootReads charset) document.roots roots := by
    refine forall₂_imp_mem (Save.save_of_writeRoots hlength hbody) ?_
    intro slot hslot root hroot ⟨b, hb, hle⟩
    refine Save.rootReads_of_save (hslots slot hslot) (fun t ht => htexts t ?_) hb (by omega)
    exact .of_get? hroots (.item hroot ht)
  obtain ⟨chunks, hopen, hvalues⟩ :=
    GameFile.open?_of_saved hdocument (htexts signature (.of_get? hsignature (.string _)))
    hheader hbody hreads
  -- the value of the file lists the normal forms of the roots
  let f : GameFile := ⟨header ++ body, signature, .ok ⟨document, chunks, 0⟩⟩
  let w : Value := .object [("signature", .string signature),
    ("root", .array (List.zipWith normal roots document.roots))]
  have hvalue : f.toValue charset = .ok w := bind_eq_ok.2 ⟨_, hvalues, rfl⟩
  have hsave : w.saveFile charset = .ok (header ++ body) := by
    refine saveFile_eq_ok.2 ⟨signature, document, _, header, body, rfl, hdocument, rfl, ?_, hheader, ?_, rfl⟩
    · rw [List.length_zipWith, hlength, Nat.min_self]
    · exact Save.writeRoots_normal hslots hbody
  refine ⟨f, w, hopen, rfl, hsignature, rfl, hvalue, hsave, fun path tree hread => ?_⟩
  exact Tool.verify_of_roundTrip hread (Tool.roundTrip_of_saved hopen rfl hvalue hsave path)

/-- A save file whose title has a level spelled by index and as a float, and a health that is the default.
It is written without the health, and found to be stable where it is kept. -/
theorem Value.saveFile_stable_title :
    let title : Value := .object [("12", .float ⟨0x401c000000000000⟩), ("hero_hp", .int 0)]
    let v : Value := .object [("signature", .string "LcfSaveData"),
      ("root", .array [.object [("title", title)]])]
    let bytes : List UInt8 := [11, 76, 99, 102, 83, 97, 118, 101, 68, 97, 116, 97, 100, 4, 12, 1, 7, 0, 0]
    let tree : FileTree := ⟨[(["Save01.lsd"], bytes)], []⟩
    (∀ t, v.Mentions t → StoredText.Survives .shiftJis t) ∧ v.saveFile .shiftJis = .ok bytes ∧
      bytes.length < 0x80000000 ∧ tree.read "Save01.lsd" = .ok bytes ∧
      ∃ f w, GameFile.open? .shiftJis bytes = .ok f ∧ f.isValid ∧
        v.get? "signature" = some (.string f.signature) ∧
        f.trailing = 0 ∧ f.toValue .shiftJis = .ok w ∧ w.saveFile .shiftJis = .ok bytes ∧
        (Tool.verify .shiftJis "Save01.lsd" : StateM FileTree Tool.Outcome) tree =
          (.done [Tool.roundTripLine "Save01.lsd" bytes], tree) := by
  intro title v bytes tree
  have htexts : ∀ t, v.Mentions t → StoredText.Survives .shiftJis t := by
    have hencode : Charset.shiftJis.encode "LcfSaveData" = some [76, 99, 102, 83, 97, 118, 101, 68, 97,
      116, 97] := by
      decide +kernel
    have hdecode : Charset.shiftJis.decode [76, 99, 102, 83, 97, 118, 101, 68, 97, 116,
      97] = some "LcfSaveData" := by
      decide +kernel
    have htitle : ∀ t, ¬title.Mentions t := by
      intro t ht
      obtain ⟨f, hf, ht⟩ := ht.of_object
      simp only [List.mem_cons, List.not_mem_nil, or_false] at hf
      rcases hf with rfl | rfl <;> cases ht
    intro t ht
    obtain ⟨f, hf, ht⟩ := ht.of_object
    simp only [List.mem_cons, List.not_mem_nil, or_false] at hf
    rcases hf with rfl | rfl
    · cases ht
      intro b hb
      rwa [← Option.some.inj (hencode.symm.trans hb)]
    · obtain ⟨root, hroot, ht⟩ := ht.of_array
      obtain rfl := List.mem_singleton.1 hroot
      obtain ⟨f, hf, ht⟩ := ht.of_object
      obtain rfl := List.mem_singleton.1 hf
      exact absurd ht (htitle t)
  have hsave : v.saveFile .shiftJis = .ok bytes := rfl
  have hread : tree.read "Save01.lsd" = .ok bytes := by decide +kernel
  obtain ⟨f, w, hopen, hvalid, hsignature, htrailing, hvalue, hsaveAgain, hverify⟩ :=
    saveFile_stable htexts hsave (by decide)
  exact ⟨htexts, hsave, by decide, hread, f, w, hopen, hvalid, hsignature, htrailing, hvalue, hsaveAgain,
    hverify "Save01.lsd" tree hread⟩

end ChunkTree
