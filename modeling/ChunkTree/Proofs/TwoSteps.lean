import ChunkTree.Proofs.Floatless
import ChunkTree.Proofs.SaveStable
import ChunkTree.Proofs.Stored

/-!
# From a file to its text and back

A file without floats that is turned into a text and back again takes the same way as one that is only
verified (`Tool.Request.two_steps_as_verified`): the text is read as the value that was written, so the second
step saves that value, and it gives the bytes of the file just if the file passes the check.
-/

namespace ChunkTree.Tool

open Text (Charset)

variable {charset : Charset} {tree tree' : FileTree} {path input output : String} {bytes : List UInt8}

/-- What a request comes to when files are kept in memory: its outcome, and the files that it leaves. -/
def Request.runIn (r : Request) (tree : FileTree) : Outcome × FileTree :=
  (r.run : StateM FileTree Outcome) tree

theorem Request.runIn_of_charset {r : Request} (h : r.charset = .ok charset) (tree : FileTree) :
    r.runIn tree = (r.job.run charset : StateM FileTree Outcome) tree := by
  rw [runIn, run, h]

/-! ## Files -/

/-- The bytes of a text are read as that text. -/
theorem textOf?_bytesOf (text : String) : textOf? (bytesOf text) = some text := by
  have hbytes : (⟨(bytesOf text).toArray⟩ : ByteArray) = text.toByteArray := by
    simp [bytesOf]
  rw [textOf?, hbytes, String.fromUTF8?, dif_pos text.isValidUTF8]
  rfl

theorem run_writeFile (path : String) (bytes : List UInt8) (tree : FileTree) :
    (writeFile path bytes : StateM FileTree Outcome) tree =
      match tree.write path bytes with
      | .error fault => (.failed ((Failure.ofFault fault).during s!"Failed to write {path}"), tree)
      | .ok tree' => (.done [.timed s!"Wrote {path} ({bytes.length} bytes)"], tree') := by
  have hrun : (FileStore.write path bytes : StateM FileTree (Except StoreFault Unit)) tree =
      FileTree.change (FileTree.write path bytes) tree := rfl
  unfold writeFile
  simp only [bind, StateT.bind, hrun, FileTree.change]
  cases tree.write path bytes <;> rfl

/-- A file that is reported as written was written. -/
theorem write_of_exitCode {o : Outcome}
    (h : (writeFile path bytes : StateM FileTree Outcome) tree = (o, tree')) (hexit : o.exitCode = 0) :
    tree.write path bytes = .ok tree' := by
  rw [run_writeFile] at h
  cases hwrite : tree.write path bytes with
  | error fault =>
    rw [hwrite] at h
    obtain ⟨rfl, _⟩ := Prod.mk.inj h
    cases hexit
  | ok t =>
    rw [hwrite] at h
    rw [(Prod.mk.inj h).2]

/-! ## The two steps -/

/-- The text of a value, with an entry on each line or without blanks. -/
theorem render_eq_ok {f : GameFile} {pretty : Bool} {text : String} :
    render charset pretty path f = .ok text ↔
      ∃ v, f.toValue charset = .ok v ∧ (if pretty then v.toPrettyText else v.toText) = text := by
  unfold render
  cases f.toValue charset with
  | ok v => simp
  | error e => simp

theorem run_openFile (hread : tree.read path = .ok bytes) :
    (openFile charset path : StateM FileTree (Except Failure GameFile)) tree =
      ((GameFile.open? charset bytes).mapError fun e => (Failure.ofError e).during s!"Failed to open {path}",
        tree) := by
  unfold openFile
  simp only [bind, StateT.bind, run_read, hread]
  rfl

/-- A file whose text was written is valid and has a value, and that is the text. -/
theorem toJson_of_exitCode {f : GameFile} {pretty : Bool} {o : Outcome} (hread : tree.read input = .ok bytes)
    (hopen : GameFile.open? charset bytes = .ok f)
    (h : (toJson charset input (some output) pretty : StateM FileTree Outcome) tree = (o, tree'))
    (hexit : o.exitCode = 0) : f.isValid ∧ ∃ v, f.toValue charset = .ok v ∧
      tree.write output (bytesOf (if pretty then v.toPrettyText else v.toText)) = .ok tree' := by
  unfold toJson at h
  simp only [bind, StateT.bind, run_openFile hread, hopen, Except.mapError] at h
  cases hvalid : f.isValid with
  | false =>
    simp only [hvalid] at h
    obtain ⟨rfl, _⟩ := Prod.mk.inj h
    cases hexit
  | true =>
    simp only [hvalid] at h
    cases hrender : render charset pretty input f with
    | error e =>
      simp only [hrender] at h
      obtain ⟨rfl, _⟩ := Prod.mk.inj h
      cases hexit
    | ok text =>
      simp only [hrender] at h
      obtain ⟨v, hv, rfl⟩ := render_eq_ok.1 hrender
      exact ⟨rfl, v, hv, write_of_exitCode h hexit⟩

/-- The text that spells a value is encoded as that value is saved. -/
theorem encodeText_bytesOf {v : Value} {text : String} (h : Value.ofText? Value.maxNesting text = some v) :
    encodeText charset path (bytesOf text) =
      (v.saveFile charset).mapError fun e => (Failure.ofError e).during s!"Failed to encode {path}" := by
  rw [encodeText, textOf?_bytesOf]
  simp only [h]
  cases v.saveFile charset <;> rfl

theorem run_fromJson (hread : tree.read input = .ok bytes) :
    (fromJson charset input output : StateM FileTree Outcome) tree =
      match encodeText charset input bytes with
      | .error f => (.failed f, tree)
      | .ok saved => (writeFile output saved : StateM FileTree Outcome) tree := by
  unfold fromJson
  simp only [bind, StateT.bind, run_read, hread]
  cases encodeText charset input bytes <;> rfl

/-- A text that was written for a value is turned into a file just if the value can be saved, and then into
the bytes that it is saved as. -/
theorem fromJson_of_text {v : Value} {text : String} (hread : tree.read input = .ok (bytesOf text))
    (htext : Value.ofText? Value.maxNesting text = some v) (hwritable : tree.Writable output) :
    (((fromJson charset input output : StateM FileTree Outcome) tree).1.exitCode = 0 ↔
        ∃ saved, v.saveFile charset = .ok saved) ∧
      ∀ saved, v.saveFile charset = .ok saved →
        ((fromJson charset input output : StateM FileTree Outcome) tree).2.read output = .ok saved := by
  rw [run_fromJson hread, encodeText_bytesOf htext]
  cases v.saveFile charset with
  | error e => exact ⟨iff_of_false nofun nofun, nofun⟩
  | ok saved =>
    obtain ⟨tree', hwrite⟩ := hwritable.write saved
    simp only [Except.mapError, run_writeFile, hwrite]
    refine ⟨iff_of_true rfl ⟨saved, rfl⟩, ?_⟩
    rintro _ ⟨⟩
    exact FileTree.read_of_write hwrite

/-! ## Verifying -/

/-- A valid file that has a value passes just if the value is saved as the bytes of the file. -/
theorem roundTrip_iff {f : GameFile} {v : Value} (hopen : GameFile.open? charset bytes = .ok f)
    (hvalid : f.isValid) (hv : f.toValue charset = .ok v) (path : String) :
    (∃ line, roundTrip charset path bytes = .ok line) ↔ v.saveFile charset = .ok bytes := by
  constructor
  · rintro ⟨line, h⟩
    rw [roundTrip, hopen] at h
    simp only [Except.mapError, ok_bind, hvalid, hv, Bool.not_true, Bool.false_eq_true, if_false] at h
    cases hsaved : v.saveFile charset with
    | error e =>
      rw [hsaved] at h
      cases h
    | ok saved =>
      simp only [hsaved, ok_bind] at h
      by_cases heq : saved = bytes
      · rw [heq]
      · rw [if_neg heq] at h
        cases h
  · intro hsave
    exact ⟨_, roundTrip_of_saved hopen hvalid hv hsave path⟩

theorem verify_exitCode {f : GameFile} {v : Value} (hread : tree.read path = .ok bytes)
    (hopen : GameFile.open? charset bytes = .ok f) (hvalid : f.isValid) (hv : f.toValue charset = .ok v) :
    ((verify charset path : StateM FileTree Outcome) tree).1.exitCode = 0 ↔
      v.saveFile charset = .ok bytes := by
  refine Iff.trans ?_ (roundTrip_iff hopen hvalid hv path)
  rw [run_verify hread]
  cases roundTrip charset path bytes with
  | error e => exact iff_of_false nofun nofun
  | ok line => exact iff_of_true rfl ⟨line, rfl⟩

/-- The two steps from a file without floats to its text and back agree with verifying it.  If the text of the
file can be written, then the second step succeeds just if the value of the file can be saved, and writes the
bytes that the value is saved as.  So the file passes the check just if the two steps give its bytes again. -/
theorem Request.two_steps_as_verified {codepage : Option String} {target : String} {pretty : Bool}
    {tree₁ : FileTree} {o : Outcome} {f : GameFile}
    (hcharset : Request.charset ⟨codepage, .verify input⟩ = .ok charset)
    (hread : tree.read input = .ok bytes) (hopen : GameFile.open? charset bytes = .ok f)
    (hkind : f.signature ∈ Document.floatless)
    (hfirst : Request.runIn ⟨codepage, .toJson input (some output) pretty⟩ tree = (o, tree₁))
    (hexit : o.exitCode = 0) (hwritable : tree₁.Writable target) :
    ∃ v, f.toValue charset = .ok v ∧
      ((Request.runIn ⟨codepage, .fromJson output target⟩ tree₁).1.exitCode = 0 ↔
        ∃ saved, v.saveFile charset = .ok saved) ∧
      (∀ saved, v.saveFile charset = .ok saved →
        (Request.runIn ⟨codepage, .fromJson output target⟩ tree₁).2.read target = .ok saved) ∧
      ((Request.runIn ⟨codepage, .verify input⟩ tree).1.exitCode = 0 ↔
        (Request.runIn ⟨codepage, .fromJson output target⟩ tree₁).1.exitCode = 0 ∧
          (Request.runIn ⟨codepage, .fromJson output target⟩ tree₁).2.read target = .ok bytes) := by
  have hfrom : Request.charset ⟨codepage, .fromJson output target⟩ = .ok charset := hcharset
  have hto : Request.charset ⟨codepage, .toJson input (some output) pretty⟩ = .ok charset := hcharset
  rw [Request.runIn_of_charset hto] at hfirst
  rw [Request.runIn_of_charset hfrom, Request.runIn_of_charset hcharset]
  obtain ⟨hvalid, v, hv, hwrite⟩ := toJson_of_exitCode hread hopen hfirst hexit
  have hplain := GameFile.plain_of_toValue hopen hvalid hkind hv
  have htext : Value.ofText? Value.maxNesting (if pretty then v.toPrettyText else v.toText) = some v := by
    cases pretty with
    | false => exact hplain.ofText?_toText
    | true => exact hplain.ofText?_toPrettyText
  -- the second step reads the value that the first has written
  obtain ⟨hback, hsaved⟩ := fromJson_of_text (FileTree.read_of_write hwrite) htext hwritable
  refine ⟨v, hv, hback, hsaved, ?_⟩
  refine (verify_exitCode hread hopen hvalid hv).trans ?_
  constructor
  · intro hsave
    exact ⟨hback.2 ⟨bytes, hsave⟩, hsaved bytes hsave⟩
  · rintro ⟨hzero, hagain⟩
    obtain ⟨saved, hsave⟩ := hback.1 hzero
    rwa [Except.ok.inj (hagain.symm.trans (hsaved saved hsave))]

/-- A map tree with one map, whose name has a quote and a tab in it, by way of a text with line breaks.  The
file passes the check, so the copy has its bytes. -/
theorem Request.two_steps_as_verified_mapTree :
    let bytes : List UInt8 := [10, 76, 99, 102, 77, 97, 112, 84, 114, 101, 101, 1, 1, 1, 3, 97, 34, 9, 0, 1, 1,
      1, 0]
    let tree : FileTree := ⟨[(["RPG_RT.lmt"], bytes)], []⟩
    let first := Request.runIn ⟨some "932", .toJson "RPG_RT.lmt" (some "RPG_RT.json") true⟩ tree
    ∃ f v, Request.charset ⟨some "932", .verify "RPG_RT.lmt"⟩ = .ok .shiftJis ∧
      tree.read "RPG_RT.lmt" = .ok bytes ∧ GameFile.open? .shiftJis bytes = .ok f ∧
      f.signature ∈ Document.floatless ∧ first.1.exitCode = 0 ∧ first.2.Writable "Copy.lmt" ∧
      f.toValue .shiftJis = .ok v ∧ v.saveFile .shiftJis = .ok bytes ∧
      (Request.runIn ⟨some "932", .verify "RPG_RT.lmt"⟩ tree).1.exitCode = 0 ∧
      (Request.runIn ⟨some "932", .fromJson "RPG_RT.json" "Copy.lmt"⟩ first.2).1.exitCode = 0 ∧
      (Request.runIn ⟨some "932", .fromJson "RPG_RT.json" "Copy.lmt"⟩ first.2).2.read "Copy.lmt" =
        .ok bytes := by
  intro bytes tree first
  let f : GameFile := ⟨bytes, "LcfMapTree", .ok ⟨⟨Document.mapTreeFile⟩, [
    ⟨some ⟨Document.root "maps" "array2d" (some "MapInfo")⟩, some ⟨11, [1, 1, 1, 3, 97, 34, 9, 0]⟩⟩,
    ⟨some ⟨Document.root "tree_order" "map_tree" none⟩, some ⟨19, [1, 1, 1]⟩⟩,
    ⟨some ⟨Document.root "start" "array1d" (some "Start")⟩, some ⟨22, [0]⟩⟩], 0⟩⟩
  have hcharset : Request.charset ⟨some "932", .verify "RPG_RT.lmt"⟩ = .ok .shiftJis := by decide +kernel
  have hread : tree.read "RPG_RT.lmt" = .ok bytes := by decide +kernel
  have hopen : GameFile.open? .shiftJis bytes = .ok f := rfl
  have hkind : f.signature ∈ Document.floatless := by decide
  have hexit : first.1.exitCode = 0 := by decide +kernel
  have hwritable : first.2.Writable "Copy.lmt" := by decide +kernel
  have hverify : (Request.runIn ⟨some "932", .verify "RPG_RT.lmt"⟩ tree).1.exitCode = 0 := by decide +kernel
  obtain ⟨v, hv, hback, hsaved, hagree⟩ :=
    two_steps_as_verified hcharset hread hopen hkind Prod.mk.eta.symm hexit hwritable
  obtain ⟨hzero, hagain⟩ := hagree.1 hverify
  obtain ⟨saved, hsave⟩ := hback.1 hzero
  obtain rfl : saved = bytes := Except.ok.inj ((hsaved saved hsave).symm.trans hagain)
  exact ⟨f, v, hcharset, hread, hopen, hkind, hexit, hwritable, hv, hsave, hverify, hzero, hagain⟩

end ChunkTree.Tool
