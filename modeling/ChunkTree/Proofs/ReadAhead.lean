import ChunkTree.Proofs.ContentRead
import ChunkTree.Proofs.Reading
import ChunkTree.Proofs.Registered
import ChunkTree.View.GameFile

/-!
# Reading ahead agrees with decoding later

No file has a root with its length in front (`Document.isRoot`).  To find where a root ends, the file is parsed
from where the root starts to wherever the content stops.  Later the root is decoded from its own bytes alone.
Both see the same content (`Chunk.ReadAhead`), and the roots of a file follow one another without a gap
(`GameFile.roots_readAhead`).
-/

namespace ChunkTree

open Text (Charset)

variable {charset : Charset} {data : List UInt8}

namespace Cursor.Leads

variable {c d : Cursor}

theorem length_take (h : c.Leads d) : (c.rest.take (d.pos - c.pos)).length = d.pos - c.pos := by
  have := h.pos_add_length
  have := h.pos_le
  rw [List.length_take]
  omega

/-- A cursor that stands in some data still does so further on. -/
theorem rest_eq_drop (h : c.Leads d) (hdata : c.rest = data.drop c.pos) : d.rest = data.drop d.pos := by
  obtain ⟨used, hrest, hpos⟩ := h
  rw [hpos, ← List.drop_drop, ← hdata, hrest, List.drop_left]

end Cursor.Leads

theorem Parse.discard_eq_ok {α : Type} {p : Parse α} {c c' : Cursor} :
    discard p c = .ok () c' ↔ ∃ x, p c = .ok x c' := by
  show EStateM.map (fun _ => ()) p c = _ ↔ _
  unfold EStateM.map
  cases p c with
  | ok x d => simp
  | error e d => simp

/-! ## Roots -/

namespace Chunk

/-- What a parser sees of a root: reading ahead in the file, it stops where the root ends, and on the bytes of
the root alone it sees the same and uses them up. -/
structure SeenAs {α : Type} (data : List UInt8) (root : Chunk) (parse : Parse α) (x : α) : Prop where
  /-- The root was passed over by this parser. -/
  skipped : ∃ slot, root.schema = some slot ∧ GameFile.skipRoot slot = discard parse
  ahead : parse ⟨root.offset, data.drop root.offset⟩ =
    .ok x ⟨root.offset + root.length, data.drop (root.offset + root.length)⟩
  bounded : ∃ p, root.payload = some p ∧ parse ⟨p.offset, p.bytes⟩ = .ok x ⟨p.offset + p.bytes.length, []⟩

/-- Whether decoding a root gives just what reading ahead saw of it. -/
def ReadAhead (data : List UInt8) (root : Chunk) : Prop :=
  (root.kind = .ok .record ∧ ∃ d r, root.SeenAs data (Record.parse d none) r ∧ root.record = .ok r) ∨
    (root.kind = .ok .table ∧ ∃ d t, root.SeenAs data (Table.parse d) t ∧ root.table = .ok t) ∨
    (root.kind = .ok .mapTree ∧ ∃ t, root.SeenAs data MapTree.parse t ∧ root.mapTree = .ok t)

/-- Whether chunks that the file holds follow one another without a gap. -/
def Tile : (start : Nat) → List Chunk → (stop : Nat) → Prop
  | start, [], stop => start = stop
  | start, root :: roots, stop =>
    root.isAbsent = false ∧ root.offset = start ∧ Tile (start + root.length) roots stop

theorem seenAs_of_within {α : Type} {slot : Schema} {parse : Parse α} {x : α} {c c' : Cursor}
    (hskip : GameFile.skipRoot slot = discard parse) (hdata : c.rest = data.drop c.pos)
    (hparse : parse c = .ok x c') (h : Cursor.Within (fun a b => parse a = .ok x b) c c') :
    SeenAs data ⟨some slot, some ⟨c.pos, c.rest.take (c'.pos - c.pos)⟩⟩ parse x := by
  refine ⟨⟨slot, rfl, hskip⟩, ?_, _, rfl, h.alone⟩
  have hstop : c.pos + (c.rest.take (c'.pos - c.pos)).length = c'.pos := by
    have := h.leads.pos_le
    rw [h.leads.length_take]
    omega
  show parse ⟨c.pos, data.drop c.pos⟩ = .ok x ⟨c.pos + (c.rest.take (c'.pos - c.pos)).length,
    data.drop (c.pos + (c.rest.take (c'.pos - c.pos)).length)⟩
  rw [hstop, ← hdata, ← h.leads.rest_eq_drop hdata]
  exact hparse

/-- A chunk is decoded to what is seen of it. -/
theorem SeenAs.decode {α : Type} {parse : Parse α} {x : α} {slot : Schema} {p : Payload}
    (h : SeenAs data ⟨some slot, some p⟩ parse x) : p.decode parse = .ok x := by
  obtain ⟨_, hp, hparse⟩ := h.bounded
  obtain rfl := Option.some.inj hp
  unfold Payload.decode
  rw [hparse]
  rfl

end Chunk

namespace GameFile

/-- A root that is stored without its length ends where its content does. -/
theorem parseRoot_of_unsized {slot : Schema} (h : slot.isSized = false) : parseRoot slot = measureRoot slot :=
  if_neg (Bool.eq_false_iff.1 h)

/-- The ways in which a root is passed over. -/
theorem skipRoot_eq_ok {slot : Schema} (hslot : slot.IsRoot) {c c' : Cursor} (h : skipRoot slot c = .ok () c') :
    (∃ d r, slot.actual .record = .ok d ∧ skipRoot slot = discard (Record.parse d none) ∧
      Record.parse d none c = .ok r c') ∨
    (∃ d t, slot.actual .table = .ok d ∧ skipRoot slot = discard (Table.parse d) ∧
      Table.parse d c = .ok t c') ∨
    ∃ target t, slot.resolve = .ok (.mapTree, target) ∧ skipRoot slot = discard MapTree.parse ∧
      MapTree.parse c = .ok t c' := by
  obtain ⟨kind, target, hkind, hroot⟩ := hslot.kind
  cases kind with
  | record =>
    cases hd : slot.actual .record with
    | error e =>
      simp only [skipRoot, hkind, hd] at h
      exact absurd h Parse.throw_ne_ok
    | ok d =>
      have hskip : skipRoot slot = discard (Record.parse d none) := by simp only [skipRoot, hkind, hd]
      obtain ⟨r, hr⟩ := Parse.discard_eq_ok.1 (hskip ▸ h)
      exact .inl ⟨d, r, rfl, hskip, hr⟩
  | table =>
    cases hd : slot.actual .table with
    | error e =>
      simp only [skipRoot, hkind, hd] at h
      exact absurd h Parse.throw_ne_ok
    | ok d =>
      have hskip : skipRoot slot = discard (Table.parse d) := by simp only [skipRoot, hkind, hd]
      obtain ⟨t, ht⟩ := Parse.discard_eq_ok.1 (hskip ▸ h)
      exact .inr (.inl ⟨d, t, rfl, hskip, ht⟩)
  | mapTree =>
    have hskip : skipRoot slot = discard MapTree.parse := by simp only [skipRoot, hkind]
    obtain ⟨t, ht⟩ := Parse.discard_eq_ok.1 (hskip ▸ h)
    exact .inr (.inr ⟨target, t, hkind, hskip, ht⟩)
  | _ => cases hroot

/-- A root takes the bytes that are passed over, and decoding them again sees the same. -/
theorem parseRoot_spec {slot : Schema} (hslot : slot.IsRoot) {c c' : Cursor} {root : Chunk}
    (hdata : c.rest = data.drop c.pos) (h : parseRoot slot c = .ok root c') :
    c.Leads c' ∧ root = ⟨some slot, some ⟨c.pos, c.rest.take (c'.pos - c.pos)⟩⟩ ∧ root.ReadAhead data := by
  rw [parseRoot_of_unsized hslot.unsized] at h
  unfold measureRoot at h
  split at h
  · rename_i stop hskip
    simp only [EStateM.Result.ok.injEq] at h
    obtain ⟨rfl, rfl⟩ := h
    rcases skipRoot_eq_ok hslot hskip with ⟨d, r, hd, hskip, hr⟩ | ⟨d, t, hd, hskip, ht⟩ |
      ⟨target, t, hkind, hskip, ht⟩
    · have hwithin := Record.within_parse hr
      have hseen := Chunk.seenAs_of_within hskip hdata hr hwithin
      obtain ⟨target, hkind⟩ := Schema.resolve_of_actual hd
      refine ⟨hwithin.leads, rfl, .inl ⟨Chunk.kind_eq_ok.2 ⟨target, hkind⟩, d, r, hseen, ?_⟩⟩
      exact bind_eq_ok.2 ⟨d, hd, hseen.decode⟩
    · have hwithin := Table.within_parse ht
      have hseen := Chunk.seenAs_of_within hskip hdata ht hwithin
      obtain ⟨target, hkind⟩ := Schema.resolve_of_actual hd
      refine ⟨hwithin.leads, rfl, .inr (.inl ⟨Chunk.kind_eq_ok.2 ⟨target, hkind⟩, d, t, hseen, ?_⟩)⟩
      exact bind_eq_ok.2 ⟨d, hd, hseen.decode⟩
    · have hwithin := MapTree.local_parse.within ht
      have hseen := Chunk.seenAs_of_within hskip hdata ht hwithin
      have hkind' : (Chunk.mk (some slot) (some ⟨c.pos, c.rest.take (stop.pos - c.pos)⟩)).kind =
          .ok .mapTree := Chunk.kind_eq_ok.2 ⟨target, hkind⟩
      refine ⟨hwithin.leads, rfl, .inr (.inr ⟨hkind', t, hseen, ?_⟩)⟩
      refine bind_eq_ok.2 ⟨(), bind_eq_ok.2 ⟨.mapTree, hkind', rfl⟩, ?_⟩
      exact bind_eq_ok.2 ⟨_, rfl, hseen.decode⟩
  · cases h

/-- The roots fill their slots, one after the other. -/
theorem parseRoots_spec {slots : List Schema} (hslots : ∀ slot ∈ slots, slot.IsRoot) {c c' : Cursor}
    {roots : List Chunk} (hdata : c.rest = data.drop c.pos) (h : parseRoots slots c = .ok roots c') :
    c.Leads c' ∧ List.Forall₂ (fun slot root => Chunk.schema root = some slot) slots roots ∧
      Chunk.Tile c.pos roots c'.pos ∧ ∀ root ∈ roots, root.ReadAhead data := by
  induction slots generalizing c roots with
  | nil =>
    obtain ⟨rfl, rfl⟩ := Parse.pure_eq_ok.1 h
    exact ⟨.refl _, .nil, rfl, by simp⟩
  | cons slot slots ih =>
    obtain ⟨root, c₁, hroot, h⟩ := Parse.bind_eq_ok.1 h
    obtain ⟨roots, c₂, hroots, h⟩ := Parse.bind_eq_ok.1 h
    obtain ⟨rfl, rfl⟩ := Parse.pure_eq_ok.1 h
    obtain ⟨hslot, hslots⟩ := List.forall_mem_cons.1 hslots
    obtain ⟨hleads, rfl, hahead⟩ := parseRoot_spec hslot hdata hroot
    obtain ⟨hleads', hfills, htile, haheads⟩ := ih hslots (hleads.rest_eq_drop hdata) hroots
    have hstop : c.pos + (c.rest.take (c₁.pos - c.pos)).length = c₁.pos := by
      have := hleads.pos_le
      rw [hleads.length_take]
      omega
    refine ⟨hleads.trans hleads', .cons rfl hfills, ⟨rfl, rfl, ?_⟩, List.forall_mem_cons.2 ⟨hahead, haheads⟩⟩
    show Chunk.Tile (c.pos + (c.rest.take (c₁.pos - c.pos)).length) _ _
    rwa [hstop]

end GameFile

theorem StoredText.leads_of_parseSized {c c' : Cursor} {t : String} (h : parseSized charset c = .ok t c') :
    c.Leads c' := by
  obtain ⟨n, c₁, hn, h⟩ := Parse.bind_eq_ok.1 h
  obtain ⟨bytes, hbytes, _⟩ := parse_eq_ok.1 h
  exact (Varint.local_parseLength.within hn).leads.trans ((Parse.local_bytes _).within hbytes).leads

namespace GameFile

/-- What a valid file is made of. -/
theorem open?_valid {bytes : List UInt8} {f : GameFile} (h : open? charset bytes = .ok f) (hvalid : f.isValid) :
    ∃ signature c document roots c', StoredText.parseSized charset ⟨0, bytes⟩ = .ok signature c ∧
      Document.ofSignature? signature = some document ∧ parseRoots document.roots c = .ok roots c' ∧
        f = ⟨bytes, signature, .ok ⟨document, roots, c'.remaining⟩⟩ := by
  unfold open? at h
  split at h
  · obtain rfl := Except.ok.inj h
    cases hvalid
  rename_i signature c hsignature
  split at h
  · obtain rfl := Except.ok.inj h
    cases hvalid
  rename_i document hdocument
  split at h
  · cases h
  rename_i roots c' hroots
  exact ⟨signature, c, document, roots, c', hsignature, hdocument, hroots, (Except.ok.inj h).symm⟩

/-- The roots of a valid file lie between its signature and the bytes that trail, one for each slot and
without a gap, and each is decoded to what reading ahead saw of it. -/
theorem roots_readAhead {bytes : List UInt8} {f : GameFile} (h : open? charset bytes = .ok f)
    (hvalid : f.isValid) :
    ∃ document start stop, Document.ofSignature? f.signature = some document ∧
      StoredText.parseSized charset ⟨0, bytes⟩ = .ok f.signature ⟨start, bytes.drop start⟩ ∧
      List.Forall₂ (fun slot root => Chunk.schema root = some slot) document.roots f.roots ∧
      Chunk.Tile start f.roots stop ∧ stop + f.trailing = bytes.length ∧
      ∀ root ∈ f.roots, root.ReadAhead bytes := by
  obtain ⟨signature, c, document, roots, c', hsignature, hdocument, hroots, rfl⟩ := open?_valid h hvalid
  have hheader := StoredText.leads_of_parseSized hsignature
  have hdata : c.rest = bytes.drop c.pos := hheader.rest_eq_drop (List.drop_zero).symm
  obtain ⟨hleads, hslots, htile, hahead⟩ :=
    parseRoots_spec (fun slot hslot => Document.isRoot hdocument hslot) hdata hroots
  refine ⟨document, c.pos, c'.pos, hdocument, ?_, hslots, htile, ?_, hahead⟩
  · rw [hsignature, ← hdata]
  · have := (hheader.trans hleads).pos_add_length
    rwa [Nat.zero_add] at this

/-- A map tree with padded varints and a start that ends with the file. -/
theorem roots_readAhead_mapTree :
    let bytes : List UInt8 := [10, 76, 99, 102, 77, 97, 112, 84, 114, 101, 101, 128, 0, 1, 1, 1, 2, 128, 1, 0]
    ∃ f, open? .shiftJis bytes = .ok f ∧ f.isValid ∧
      ∃ document start stop, Document.ofSignature? f.signature = some document ∧
        StoredText.parseSized .shiftJis ⟨0, bytes⟩ = .ok f.signature ⟨start, bytes.drop start⟩ ∧
        List.Forall₂ (fun slot root => Chunk.schema root = some slot) document.roots f.roots ∧
        Chunk.Tile start f.roots stop ∧ stop + f.trailing = bytes.length ∧
        ∀ root ∈ f.roots, root.ReadAhead bytes := by
  intro bytes
  obtain ⟨f, hf, hvalid⟩ : ∃ f, open? .shiftJis bytes = .ok f ∧ f.isValid := ⟨_, rfl, rfl⟩
  exact ⟨f, hf, hvalid, roots_readAhead hf hvalid⟩

end GameFile

end ChunkTree
