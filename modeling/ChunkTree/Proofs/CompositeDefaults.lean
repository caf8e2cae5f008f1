import ChunkTree.Proofs.Apart

/-!
# Defaults of records and tables

Records and tables are not meant to have defaults, but only those whose type is spelled as such are held to that: a
field whose type is the name of a document takes whatever literal its value is as its default
(`Schema.default_of_composite`).  A record that leaves the field out gives and shows that default, which is neither
record nor table, and an object with the default under the field is saved without a chunk
(`Schema.composite_literal`).
-/

namespace ChunkTree

open Text (Charset)
open Save (Entry chunkBytes)

variable {charset : Charset} {d f target : Schema} {kind : Kind} {i : UInt32} {x : Value} {p : List UInt8}

/-- A field for a record or table is no size field that is written. -/
theorem Save.WrittenAs.index_ne_of_composite {fields : Fields} {given sizes : List Entry}
    {chunks : List (UInt32 × List UInt8)} (h : WrittenAs charset d fields given sizes chunks) (hd : d.Apart)
    (hf : f ∈ d.fields) (hi : f.index? = some i) (hkind : f.resolve = .ok (kind, target))
    (hcomposite : kind.isComposite) : ∀ e ∈ sizes, e.index ≠ i := by
  rintro e he rfl
  obtain ⟨g, hg, _, _, _, _, hgi, _, _, heq⟩ := mem_sizeEntries h.size he
  obtain rfl := eq_of_nodup_filterMap hd.indices_nodup hg hf hgi hi
  obtain ⟨_, _, hwrites⟩ := exists_right_of_forall₂ h.chunk (mem_sortBy.2 (List.mem_append_right given he))
  have hpayload := hwrites.payload
  rw [heq] at hpayload
  -- a number is no object
  obtain ⟨_, hobject⟩ := Value.exists_object_of_save hkind hcomposite hpayload
  cases hobject

namespace Schema

theorem typeName_of_composite (hcomposite : kind.isComposite) (hname : Kind.ofName? f.typeName = some kind) :
    f.typeName = "array1d" ∨ f.typeName = "array2d" := by
  have hspelled := List.find?_some hname
  cases kind with
  | record => exact .inl (eq_of_beq hspelled).symm
  | table => exact .inr (eq_of_beq hspelled).symm
  | _ => cases hcomposite

/-- A field for a record or table has a default just if its type is the name of a document and its value a
literal. -/
theorem default_of_composite (hkind : f.resolve = .ok (kind, target)) (hcomposite : kind.isComposite) :
    f.default? = some x ↔ Kind.ofName? f.typeName = none ∧ f.value? = some x ∧ x.asArray = none := by
  have hspelled : (f.typeName != "array1d" && f.typeName != "array2d") = true ↔ Kind.ofName? f.typeName = none := by
    constructor
    · intro hne
      cases hname : Kind.ofName? f.typeName with
      | none => rfl
      | some kind' =>
        rw [resolve, hname] at hkind
        obtain ⟨rfl, _⟩ := Prod.mk.inj (Except.ok.inj hkind)
        rcases typeName_of_composite hcomposite hname with h | h <;> rw [h] at hne <;> cases hne
    · intro hnone
      rw [Bool.and_eq_true, bne_iff_ne, bne_iff_ne]
      constructor <;> intro h <;> rw [h] at hnone <;> cases hnone
  rw [← hspelled, default?, hasDefault]
  cases f.value? with
  | none => simp
  | some y =>
    cases y with
    | array items =>
      simp only [Bool.false_eq_true, if_false, reduceCtorEq, Option.some.injEq, false_iff, not_and]
      rintro _ rfl
      nofun
    | _ =>
      simp only [Option.ite_none_right_eq_some, Option.some.injEq]
      refine and_congr_right fun _ => ⟨?_, And.left⟩
      rintro rfl
      exact ⟨rfl, rfl⟩

variable (hd : d.Apart) (hf : f ∈ d.fields) (hi : f.index? = some i) (hvisible : f.name?.any isInternal = false)
  (hkind : f.resolve = .ok (kind, target)) (hcomposite : kind.isComposite)

include hd hf hi hvisible hkind hcomposite

/-- A field for a record or table has a default just if its type is the name of a document and its value a literal.
A record without a chunk of the field gives an absent chunk then, and shows the default under the name of the field;
else it gives nothing and shows nothing.  An object is written with a chunk of the field just if a key that stands
for the field has a value other than the default. -/
theorem composite_literal (charset : Charset) :
    (∀ x, f.default? = some x ↔ Kind.ofName? f.typeName = none ∧ f.value? = some x ∧ x.asArray = none) ∧
    (∀ row c r c', Record.parse d row c = .ok r c' → r.entry? i = none →
      r.get? (.index i) = f.default?.map (fun _ => .absent f) ∧
      (∀ n, f.name? = some n → r.get? (.name n) = r.get? (.index i)) ∧
      ∀ o, r.toValue charset = .ok o → ∃ fields, o = .object fields ∧
        ∀ k x, d.designated k = some (i, some f) → (∀ j c, (j, c) ∈ r.entries → c.name? = none → k ≠ indexText j) →
          ((k, x) ∈ fields ↔ f.name? = some k ∧ f.default? = some x)) ∧
    ∀ (v : Value) fields bytes, v.asObject = some fields → v.saveRecord charset d = .ok bytes →
      ∃ chunks : List (UInt32 × List UInt8), bytes = chunks.flatMap chunkBytes ++ Varint.encode 0 ∧
        (0 :: chunks.map Prod.fst).Pairwise (· < ·) ∧
        ((∃ p, (i, p) ∈ chunks) ↔ ∃ k x, (k, x) ∈ fields ∧ d.designated k = some (i, some f) ∧
          ∀ y, f.default? = some y → y.same x = false) ∧
        (bytes.length < 0x100000000 → ∃ r, (Record.parse d none).Takes 0 bytes r ∧
          (r.contains (.index i) ↔ ∃ p, (i, p) ∈ chunks)) := by
  refine ⟨fun x => default_of_composite hkind hcomposite, fun row c r c' hr hleft => ?_,
    fun v fields bytes hv hsave => ?_⟩
  · obtain ⟨rfl, _, hin⟩ := Record.inOrder_of_parse hr
    refine ⟨Record.get?_field (find_index_of_nodup hd.indices_nodup hf hi) hleft,
      fun n hn => Record.get?_name (find_name_of_nodup hd.names_nodup hf hn) hi, fun o ho => ?_⟩
    rw [Record.toValue_eq hr] at ho
    obtain ⟨fields, rfl, hshown⟩ := Record.exists_shownAs hd.names_nodup ho
    exact ⟨fields, rfl, fun k x hk hother => hshown.mem_iff_of_left_out hd hin hleft hvisible hother hk⟩
  · obtain ⟨fields', given, sizes, chunks, hv', hwritten, hascending, rfl⟩ := Value.exists_writtenAs hd hsave
    obtain rfl := Option.some.inj (hv'.symm.trans hv)
    have hsize := hwritten.index_ne_of_composite hd hf hi hkind hcomposite
    refine ⟨chunks, rfl, hascending, hwritten.exists_chunk_iff hd hf hi hsize hvisible, fun hlen => ?_⟩
    have hshort : ∀ c ∈ chunks, c.2.length < 0x100000000 := by
      intro c hc
      have hle := Save.length_le_of_mem_chunks hc
      rw [List.length_append] at hlen
      omega
    obtain ⟨r, htakes, _, hentry⟩ := Record.exists_reread d hascending hshort
    obtain ⟨hheld, hleft⟩ := hentry i
    refine ⟨r, htakes, ?_⟩
    rw [Record.contains, Record.indexOf?, Option.bind_some]
    constructor
    · intro hsome
      by_contra hnone
      rw [hleft (not_exists.1 hnone)] at hsome
      cases hsome
    · rintro ⟨p, hp⟩
      obtain ⟨q, hq⟩ := hheld p hp
      rw [hq]
      rfl

omit hd hf hi hvisible hkind hcomposite in
/-- The music of a map, which has no default: it is neither given nor shown without a chunk, and always written. -/
theorem composite_literal_mapInfo :
    let d : Schema := ⟨Document.mapInfo⟩
    let r : Record := ⟨d, [], none, 0, 1⟩
    d.Apart ∧ Record.parse d none ⟨0, [0]⟩ = .ok r ⟨1, []⟩ ∧ r.get? (.name "music") = none ∧
      (∃ fields, r.toValue .shiftJis = .ok (.object fields) ∧ ∀ x, ("music", x) ∉ fields) ∧
      (Value.object [("music", .object [])]).saveRecord .shiftJis d = .ok [12, 1, 0, 0] ∧
      ∃ chunks : List (UInt32 × List UInt8), [12, 1, 0, 0] = chunks.flatMap chunkBytes ++ Varint.encode 0 ∧
        ∃ p, (12, p) ∈ chunks := by
  intro d r
  let f : Schema := ⟨Document.plain 12 "music" "Music"⟩
  have hd : d.Apart := ⟨by decide +kernel, by decide +kernel, by decide +kernel⟩
  have hfind : d.find? (.name "music") = some f := rfl
  have hk : d.designated "music" = some (12, some f) := rfl
  have hr : Record.parse d none ⟨0, [0]⟩ = .ok r ⟨1, []⟩ := rfl
  have hsave : (Value.object [("music", .object [])]).saveRecord .shiftJis d = .ok [12, 1, 0, 0] := rfl
  obtain ⟨o, ho⟩ := exists_of_isOk (show (r.toValue .shiftJis).isOk from by decide +kernel)
  have hkind : f.resolve = .ok (.record, ⟨Document.music⟩) := rfl
  obtain ⟨hdefault, hleft, hwritten⟩ :=
    composite_literal hd (mem_of_find_name hfind).1 (i := 12) rfl rfl hkind rfl .shiftJis
  obtain ⟨hget, hname, hshown⟩ := hleft _ _ _ _ hr rfl
  obtain ⟨fields, rfl, hfields⟩ := hshown o ho
  obtain ⟨chunks, hbytes, _, hchunk, _⟩ := hwritten _ _ _ rfl hsave
  refine ⟨hd, hr, (hname "music" rfl).trans hget, ⟨fields, ho, fun x hx => ?_⟩, hsave, chunks, hbytes, ?_⟩
  · obtain ⟨_, hx⟩ := (hfields "music" x hk nofun).1 hx
    cases hx
  · exact hchunk.2 ⟨"music", .object [], List.mem_singleton_self _, hk, nofun⟩

end Schema

/-- A record with music, whose value is meant as a default. -/
def Document.jukebox : Value :=
  composite "Jukebox" "array1d" [preset 1 "music" "Music" (.int 0)]

/-- Music that has a number as default: an empty record gives and shows it, and an object with it is saved without
a chunk. -/
theorem Schema.jukebox_default :
    let d : Schema := ⟨Document.jukebox⟩
    let f : Schema := ⟨Document.preset 1 "music" "Music" (.int 0)⟩
    let r : Record := ⟨d, [], none, 0, 1⟩
    d.Apart ∧ f ∈ d.fields ∧ f.resolve = .ok (.record, ⟨Document.music⟩) ∧
      Record.parse d none ⟨0, [0]⟩ = .ok r ⟨1, []⟩ ∧ r.get? (.name "music") = some (.absent f) ∧
      r.toValue .shiftJis = .ok (.object [("music", .int 0)]) ∧
      (Value.object [("music", .int 0)]).save .shiftJis d = .ok [0] :=
  ⟨⟨by decide +kernel, by decide +kernel, by decide +kernel⟩, .head _, rfl, rfl, rfl, rfl, by with_unfolding_all rfl⟩

end ChunkTree
