import ChunkTree.Proofs.FileRead
import ChunkTree.Proofs.NormalSame
import ChunkTree.Proofs.ReadAhead
import ChunkTree.Proofs.Savable

/-!
# Loading, saving and loading again

The value of a valid file can be saved, and the file that it is saved as has the same value again
(`GameFile.load_save_load`), whatever the file looked like.  What is needed of the file are its texts,
which have to survive, and of its value the chunks in it, which have to be short (`Save.FileHolds`).
-/

namespace ChunkTree

open Text (Charset)
open Save (Entry Holds RootReads)

variable {charset : Charset}

/-- Whether a text can be encoded and is decoded to itself. -/
def StoredText.RoundTrips (charset : Charset) (text : String) : Prop :=
  ∃ bytes, charset.encode text = some bytes ∧ charset.decode bytes = some text

namespace StoredText.RoundTrips

variable {t : String}

theorem survives (h : RoundTrips charset t) : Survives charset t := by
  obtain ⟨bytes, hencode, hdecode⟩ := h
  intro b hb
  rwa [← Option.some.inj (hencode.symm.trans hb)]

theorem exists_encode (h : RoundTrips charset t) : ∃ bytes, encode charset t = .ok bytes := by
  obtain ⟨bytes, hencode, _⟩ := h
  exact ⟨bytes, encode_eq_ok.2 hencode⟩

end StoredText.RoundTrips

/-- A text that is decoded when a file is turned into a value. -/
def GameFile.Decodes (charset : Charset) (f : GameFile) (t : String) : Prop :=
  t = f.signature ∨ ∃ root ∈ f.roots, root.Decodes charset t

/-- An entry that is saved in a file, at any depth. -/
def Save.FileHolds (v : Value) (e : Entry) : Prop :=
  ∃ signature document roots slot root, v.get? "signature" = some (.string signature) ∧
    Document.ofSignature? signature = some document ∧ v.get? "root" = some (.array roots) ∧
    (slot, root) ∈ document.roots.zip roots ∧ Holds root slot e

/-- A chunk in which a text is decoded is of a kind that has texts. -/
theorem Chunk.Decodes.kind {c : Chunk} {t : String} (h : c.Decodes charset t) :
    c.kind = .ok .string ∨ c.kind = .ok .script ∨ (c.kind = .ok .record ∧ ∃ r, c.record = .ok r ∧
      ∃ entry ∈ r.entries, entry.2.Decodes charset t) ∨ (c.kind = .ok .table ∧ ∃ t', c.table = .ok t' ∧
        ∃ row ∈ t'.rows, ∃ entry ∈ row.entries, entry.2.Decodes charset t) := by
  have hexpect : ∀ {kind}, c.expect kind = .ok () → c.kind = .ok kind := by
    intro kind h
    obtain ⟨kind', hkind, h⟩ := bind_eq_ok.1 h
    by_cases hne : kind' ≠ kind
    · rw [if_pos hne] at h
      exact absurd h throw_ne_ok
    · rw [hkind, not_not.1 hne]
  have hactual : ∀ {kind d}, c.fieldSchema kind = .ok d → c.kind = .ok kind := by
    intro kind d h
    unfold fieldSchema at h
    unfold Chunk.kind
    split at h
    · rename_i s hs
      obtain ⟨target, hkind⟩ := Schema.resolve_of_actual h
      rw [hkind]
      rfl
    · cases h
  cases h with
  | string h =>
    obtain ⟨_, h, _⟩ := bind_eq_ok.1 h
    exact .inl (hexpect h)
  | script h _ =>
    obtain ⟨_, h, _⟩ := bind_eq_ok.1 h
    exact .inr (.inl (hexpect h))
  | @record _ r entry _ h he ht =>
    obtain ⟨d, hd, _⟩ := bind_eq_ok.1 h
    exact .inr (.inr (.inl ⟨hactual hd, r, h, entry, List.mem_of_mem_filter he, ht⟩))
  | @table _ t' row entry _ h hr he ht =>
    obtain ⟨d, hd, _⟩ := bind_eq_ok.1 h
    exact .inr (.inr (.inr ⟨hactual hd, t', h, row, hr, entry, List.mem_of_mem_filter he, ht⟩))

/-- No chunk in a file that can be saved is larger than that file. -/
theorem Save.FileHolds.payloadSize_le {v : Value} {bytes : List UInt8}
    (h : v.saveFile charset = .ok bytes) {e : Entry}
    (he : FileHolds v e) {n : Nat} (hn : e.payloadSize (Value.savedSize charset) = .ok n) :
    n ≤ bytes.length := by
  obtain ⟨signature, document, roots, slot, root, hsignature, hdocument, hroots, hmem, he⟩ := he
  obtain ⟨signature', document', roots', header, body, hsignature', hdocument', hroots', hlength, _,
    hbody, rfl⟩ :=
    Value.saveFile_eq_ok.1 h
  obtain rfl : signature = signature' := by simpa [hsignature] using hsignature'
  obtain rfl := Option.some.inj (hdocument.symm.trans hdocument')
  obtain rfl : roots = roots' := by simpa [hroots] using hroots'
  obtain ⟨b, hb, hle⟩ := (List.forall₂_iff_zip.1 (save_of_writeRoots hlength hbody)).2 hmem
  obtain ⟨payload, hpayload, hle'⟩ := he.payload hb
  obtain rfl := Except.ok.inj (hn.symm.trans (Entry.payloadSize_of_payload hpayload))
  rw [List.length_append]
  omega

/-! ## Roots -/

namespace Canonical

variable {T : String → Prop} {s : Schema} {w : Value}

theorem countable (hs : s.Consistent) (h : Canonical T s w) : Save.Countable w s := by
  cases h with
  | @content _ target c hkind hfits hcount =>
    refine ⟨fun d hd => ?_, fun target' t hkind' ht => ?_⟩
    · have hleaf := c.isComposite_kind
      rw [Schema.kind_of_actual hkind hd] at hleaf
      cases hleaf
    · obtain ⟨hmapTree, -⟩ := Prod.mk.inj (Except.ok.inj (hkind.symm.trans hkind'))
      have hc := Content.ofValue_toValue hfits s.label
      rw [hmapTree] at hc
      obtain ⟨t', ht', hc⟩ := bind_eq_ok.1 hc
      obtain rfl := Except.ok.inj (ht.symm.trans ht')
      obtain rfl := pure_eq_ok.1 hc
      exact hcount
  | record hkind =>
    refine ⟨fun d hd => ?_, fun _ _ hkind' _ => ?_⟩
    · cases Schema.kind_of_actual hkind hd
    · cases hkind.symm.trans hkind'
  | table hkind hd hcount hascending hitems =>
    refine ⟨fun d' hd' => ?_, fun _ _ hkind' _ => ?_⟩
    · obtain ⟨rows', _, hagain, hsort⟩ := tableRows_tableFields (hs.table hd) hitems hascending
      rw [← Save.length_sortBy (k := Prod.fst), hsort, ← hagain.length_eq, rowObjects, List.length_map]
      exact hcount
    · cases hkind.symm.trans hkind'

/-- A canonical root is read back if its texts survive and its payloads are short. -/
theorem rootReads (hs : s.IsRoot) (h : Canonical T s w) (hT : ∀ t, T t → StoredText.Survives charset t)
    (hshort : Save.Short charset w s) : RootReads charset s w := by
  obtain ⟨kind, target, hkind, hroot⟩ := hs.kind
  refine Save.rootReads hs.consistent hs.unsized hkind hroot (h.countable hs.consistent) fun e he => ?_
  refine he.readsBack hs.consistent (fun t ht => hT t (h.of_encodes hs.consistent ht)) fun payload hp => ?_
  exact (hshort.length_payload he hp).trans (by decide)

end Canonical

theorem Save.exists_writeRoots {slots : List Schema} {roots : List Value}
    (h : List.Forall₂ (fun slot root => ∃ bytes, root.save charset slot = .ok bytes) slots roots) :
    ∃ bytes, writeRoots charset slots roots = .ok bytes := by
  induction h with
  | nil => exact ⟨[], rfl⟩
  | cons hroot _ ih =>
    obtain ⟨first, hfirst⟩ := hroot
    obtain ⟨rest, hrest⟩ := ih
    exact ⟨_, bind_eq_ok.2 ⟨_, writeRoot_eq_ok.2 ⟨first, hfirst, rfl⟩, bind_eq_ok.2 ⟨rest, hrest, rfl⟩⟩⟩

theorem Save.same_normalRoots {slots : List Schema} {roots : List Value}
    (h : List.Forall₂ (fun slot (root : Value) => (root.normal slot).same root) slots roots) :
    List.Forall₂ (fun x y : Value => x.same y) (List.zipWith Value.normal roots slots) roots := by
  induction h with
  | nil => exact .nil
  | cons hroot _ ih => exact .cons hroot ih

/-! ## The value of a file -/

namespace GameFile

/-- A root has its slot and a payload. -/
theorem payload_of_parseRoot {slot : Schema} {c c' : Cursor} {root : Chunk} (h : parseRoot slot c = .ok root c') :
    ∃ p, root = ⟨some slot, some p⟩ := by
  unfold parseRoot at h
  split at h
  · obtain ⟨_, _, _, h⟩ := Parse.bind_eq_ok.1 h
    obtain ⟨_, _, _, h⟩ := Parse.bind_eq_ok.1 h
    obtain ⟨_, _, _, h⟩ := Parse.bind_eq_ok.1 h
    exact ⟨_, (Parse.pure_eq_ok.1 h).1.symm⟩
  · unfold measureRoot at h
    split at h
    · exact ⟨_, (EStateM.Result.ok.inj h).1.symm⟩
    · cases h

theorem slots_of_parseRoots {slots : List Schema} {c c' : Cursor} {chunks : List Chunk}
    (h : parseRoots slots c = .ok chunks c') :
    List.Forall₂ (fun slot chunk => ∃ p, chunk = ⟨some slot, some p⟩) slots chunks := by
  induction slots generalizing c c' chunks with
  | nil =>
    obtain ⟨rfl, _⟩ := Parse.pure_eq_ok.1 h
    exact .nil
  | cons slot slots ih =>
    obtain ⟨root, c₁, hroot, h⟩ := Parse.bind_eq_ok.1 h
    obtain ⟨roots, c₂, hroots, h⟩ := Parse.bind_eq_ok.1 h
    obtain ⟨rfl, _⟩ := Parse.pure_eq_ok.1 h
    refine .cons ?_ (ih hroots)
    exact payload_of_parseRoot hroot

theorem values_of_slots {slots : List Schema} {chunks : List Chunk} {roots : List Value}
    (hslots : List.Forall₂ (fun slot chunk => ∃ p, chunk = ⟨some slot, some p⟩) slots chunks)
    (hvalues : List.Forall₂ (fun chunk root => Chunk.toValue charset chunk = .ok root) chunks roots) :
    List.Forall₂ (fun slot root => ∃ p, ⟨some slot, some p⟩ ∈ chunks ∧
      Chunk.toValue charset ⟨some slot, some p⟩ = .ok root) slots roots := by
  induction hslots generalizing roots with
  | nil =>
    cases hvalues
    exact .nil
  | cons hslot _ ih =>
    obtain ⟨p, rfl⟩ := hslot
    obtain _ | ⟨hvalue, hvalues⟩ := hvalues
    refine .cons ⟨p, List.mem_cons_self, hvalue⟩ ((ih hvalues).imp fun _ _ ⟨q, hq, h⟩ => ?_)
    exact ⟨q, List.mem_cons_of_mem _ hq, h⟩

/-- The value of a valid file lists the values of its roots, each of which stands in its slot. -/
theorem roots_of_toValue {bytes : List UInt8} {f : GameFile} {j : Value} (hopen : open? charset bytes = .ok f)
    (hvalid : f.isValid) (hj : f.toValue charset = .ok j) :
    ∃ document roots, Document.ofSignature? f.signature = some document ∧
      j = .object [("signature", .string f.signature), ("root", .array roots)] ∧
      f.roots.length = document.roots.length ∧
      List.Forall₂ (fun slot root => ∃ p, ⟨some slot, some p⟩ ∈ f.roots ∧
        Chunk.toValue charset ⟨some slot, some p⟩ = .ok root) document.roots roots := by
  obtain ⟨_, _, document, chunks, _, _, hdocument, hchunks, rfl⟩ := open?_valid hopen hvalid
  obtain ⟨roots, hroots, hj⟩ := bind_eq_ok.1 hj
  have hslots := slots_of_parseRoots hchunks
  exact ⟨document, roots, hdocument, (pure_eq_ok.1 hj).symm, hslots.length_eq.symm,
    values_of_slots hslots (mapM_eq_ok.1 hroots)⟩

/-- The value of a valid file can be saved, and the file that it is saved as is valid, with the same
signature, as many roots, nothing after them, and the same value. -/
theorem load_save_load {bytes : List UInt8} {f : GameFile} {j : Value} (hopen : open? charset bytes = .ok f)
    (hvalid : f.isValid) (hj : f.toValue charset = .ok j)
    (htexts : ∀ t, f.Decodes charset t → StoredText.RoundTrips charset t)
    (hshort : ∀ e, Save.FileHolds j e → ∀ n, e.payloadSize (Value.savedSize charset) = .ok n →
      n < 0x80000000) :
    ∃ bytes' f' j', j.saveFile charset = .ok bytes' ∧ open? charset bytes' = .ok f' ∧ f'.isValid ∧
      f'.signature = f.signature ∧ f'.roots.length = f.roots.length ∧ f'.trailing = 0 ∧
      f'.toValue charset = .ok j' ∧ j'.same j := by
  obtain ⟨document, roots, hdocument, rfl, hlength, hvalues⟩ := roots_of_toValue hopen hvalid hj
  have hslots : ∀ slot ∈ document.roots, slot.IsRoot := fun slot hslot => Document.isRoot hdocument hslot
  have hcanonical : List.Forall₂ (Canonical (f.Decodes charset)) document.roots roots := by
    refine forall₂_imp_mem hvalues fun slot hslot root _ ⟨p, hp, hvalue⟩ => ?_
    exact (Canonical.of_toValue (hslots slot hslot).consistent hvalue).mono fun t ht => .inr ⟨_, hp, ht⟩
  obtain ⟨hrootsLength, hzip⟩ := List.forall₂_iff_zip.1 hcanonical
  -- every root can be saved, is read back, and has the same value then
  have hshortRoot : ∀ {slot root}, (slot, root) ∈ document.roots.zip roots → Save.Short charset root slot :=
    fun hmem e he => hshort e ⟨f.signature, document, roots, _, _, rfl, hdocument, rfl, hmem, he⟩
  have hsave : List.Forall₂ (fun slot root => ∃ b, root.save charset slot = .ok b) document.roots roots :=
    List.forall₂_iff_zip.2 ⟨hrootsLength, fun hmem =>
      (hzip hmem).exists_save (hslots _ (List.of_mem_zip hmem).1).consistent
        (fun t ht => (htexts t ht).exists_encode) (hshortRoot hmem)⟩
  have hreads : List.Forall₂ (RootReads charset) document.roots roots :=
    List.forall₂_iff_zip.2 ⟨hrootsLength, fun hmem =>
      (hzip hmem).rootReads (hslots _ (List.of_mem_zip hmem).1) (fun t ht => (htexts t ht).survives)
        (hshortRoot hmem)⟩
  have hsame : List.Forall₂ (fun slot (root : Value) => (root.normal slot).same root) document.roots roots :=
    List.forall₂_iff_zip.2 ⟨hrootsLength, fun hmem =>
      (hzip hmem).same_normal (hslots _ (List.of_mem_zip hmem).1).consistent⟩
  have hsignature := htexts f.signature (.inl rfl)
  obtain ⟨text, htext⟩ := hsignature.exists_encode
  have hheader := StoredText.encodeSized_eq_ok.2 ⟨text, htext, rfl⟩
  obtain ⟨body, hbody⟩ := Save.exists_writeRoots hsave
  obtain ⟨chunks, hopen', hvalues'⟩ := open?_of_saved hdocument hsignature.survives hheader hbody hreads
  have hchunks : chunks.length = f.roots.length := by
    rw [hlength, (mapM_eq_ok.1 hvalues').length_eq, List.length_zipWith, ← hrootsLength, Nat.min_self]
  refine ⟨_, _, .object [("signature", .string f.signature),
    ("root", .array (List.zipWith Value.normal roots document.roots))],
    Value.saveFile_eq_ok.2 ⟨f.signature, document, roots, _, body, rfl, hdocument, rfl,
      hrootsLength.symm, hheader, hbody,
      rfl⟩, hopen', rfl, rfl, hchunks, rfl, bind_eq_ok.2 ⟨_, hvalues', rfl⟩, ?_⟩
  have hkeys : ["signature", "root"].Nodup := by decide
  refine Value.same_object_of_forall₂ hkeys (.cons ⟨rfl, ?_⟩ (.cons ⟨rfl, ?_⟩ .nil))
  · exact beq_self_eq_true f.signature
  · exact Value.same_array (Save.same_normalRoots hsame)

/-- A map tree with a padded count and a padded length, a default that is written out, a chunk that the
schema does not know, and a byte after the last root. -/
theorem load_save_load_mapTree :
    let bytes : List UInt8 := [10, 76, 99, 102, 77, 97, 112, 84, 114, 101, 101, 128, 0, 1, 1, 1, 2, 128,
      1, 0, 99, 1, 5, 0, 9]
    ∃ f j, open? .shiftJis bytes = .ok f ∧ f.isValid ∧ f.toValue .shiftJis = .ok j ∧
      (∀ t, f.Decodes .shiftJis t → StoredText.RoundTrips .shiftJis t) ∧
      (∀ e, Save.FileHolds j e → ∀ n, e.payloadSize (Value.savedSize .shiftJis) = .ok n → n < 0x80000000) ∧
      ∃ bytes' f' j', j.saveFile .shiftJis = .ok bytes' ∧ open? .shiftJis bytes' = .ok f' ∧ f'.isValid ∧
        f'.signature = f.signature ∧ f'.roots.length = f.roots.length ∧ f'.trailing = 0 ∧
        f'.toValue .shiftJis = .ok j' ∧ j'.same j := by
  intro bytes
  let maps : Chunk := ⟨some ⟨Document.root "maps" "array2d" (some "MapInfo")⟩, some ⟨11, [128, 0]⟩⟩
  let order : Chunk := ⟨some ⟨Document.root "tree_order" "map_tree" none⟩, some ⟨13, [1, 1, 1]⟩⟩
  let start : Chunk := ⟨some ⟨Document.root "start" "array1d" (some "Start")⟩,
    some ⟨16, [2, 128, 1, 0, 99, 1, 5, 0]⟩⟩
  let f : GameFile := ⟨bytes, "LcfMapTree", .ok ⟨⟨Document.mapTreeFile⟩, [maps, order, start], 1⟩⟩
  have hopen : open? .shiftJis bytes = .ok f := rfl
  obtain ⟨j, hj⟩ : ∃ j, f.toValue .shiftJis = .ok j := ⟨_, rfl⟩
  -- the only text is the signature: no chunk is of a kind that has texts
  have htexts : ∀ t, f.Decodes .shiftJis t → StoredText.RoundTrips .shiftJis t := by
    rintro t (rfl | ⟨root, hroot, hdecodes⟩)
    · exact ⟨[76, 99, 102, 77, 97, 112, 84, 114, 101, 101], by decide +kernel, by decide +kernel⟩
    have hroot : root ∈ [maps, order, start] := hroot
    simp only [List.mem_cons, List.not_mem_nil, or_false] at hroot
    rcases hroot with rfl | rfl | rfl
    · have hkind : maps.kind = .ok .table := rfl
      have htable : maps.table = .ok ⟨⟨Document.mapInfo⟩, [], 11, 2⟩ := rfl
      rcases hdecodes.kind with hk | hk | ⟨hk, _⟩ | ⟨_, t', ht', row, hrow, _⟩
      · cases hkind.symm.trans hk
      · cases hkind.symm.trans hk
      · cases hkind.symm.trans hk
      · obtain rfl := Except.ok.inj (htable.symm.trans ht')
        cases hrow
    · have hkind : order.kind = .ok .mapTree := rfl
      rcases hdecodes.kind with hk | hk | ⟨hk, _⟩ | ⟨hk, _⟩ <;> cases hkind.symm.trans hk
    · have hkind : start.kind = .ok .record := rfl
      let x : Chunk := ⟨some ⟨Document.preset 2 "party_x" "integer" (.int 0)⟩, some ⟨19, [0]⟩⟩
      let unknown : Chunk := ⟨none, some ⟨22, [5]⟩⟩
      have hrecord : start.record =
          .ok ⟨⟨Document.startDocument⟩, [(2, x), (99, unknown)], none, 16, 8⟩ := rfl
      have hx : x.kind = .ok .integer := rfl
      have hunknown : unknown.kind = .error (.typeMismatch "schema field" "opaque chunk") := rfl
      rcases hdecodes.kind with hk | hk | ⟨_, r, hr, entry, hentry, ht⟩ | ⟨hk, _⟩
      · cases hkind.symm.trans hk
      · cases hkind.symm.trans hk
      · obtain rfl := Except.ok.inj (hrecord.symm.trans hr)
        simp only [List.mem_cons, List.not_mem_nil, or_false] at hentry
        rcases hentry with rfl | rfl
        · rcases ht.kind with hk | hk | ⟨hk, _⟩ | ⟨hk, _⟩ <;> cases hx.symm.trans hk
        · rcases ht.kind with hk | hk | ⟨hk, _⟩ | ⟨hk, _⟩ <;> cases hunknown.symm.trans hk
      · cases hkind.symm.trans hk
  have hshort : ∀ e, Save.FileHolds j e → ∀ n, e.payloadSize (Value.savedSize .shiftJis) = .ok n →
    n < 0x80000000 := by
    have hsave : (f.toValue .shiftJis >>= Value.saveFile .shiftJis) =
        .ok [10, 76, 99, 102, 77, 97, 112, 84, 114, 101, 101, 0, 1, 1, 1, 99, 1, 5, 0] := by decide +kernel
    rw [hj, ok_bind] at hsave
    exact fun e he n hn => (he.payloadSize_le hsave hn).trans_lt (by decide)
  exact ⟨f, j, hopen, rfl, hj, htexts, hshort, load_save_load hopen rfl hj htexts hshort⟩

end GameFile

end ChunkTree
