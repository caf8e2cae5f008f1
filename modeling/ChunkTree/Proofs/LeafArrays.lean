import ChunkTree.Proofs.Layout
import ChunkTree.Proofs.MinimalVarints
import ChunkTree.Proofs.Placement

/-!
# Arrays and map trees lose nothing

An array of numbers of a fixed width shows every number that its bytes hold, also where each is sliced out of the
data on its own (`IntArray.iterate_of_liesIn`), and its numbers are saved as its bytes.  Content that is a run of
varints is saved as the shortest such run (`Varint.flatMap_encode_eq_iff`), which is read as the same content.  What
this says of a kind of content is collected in `IntArray.Lossless` and `Varint.Lossless`.
-/

namespace ChunkTree

open Text (Charset)

variable {charset : Charset} {s target : Schema} {kind : Kind} {p : Payload}

/-! ## Numbers of a fixed width -/

namespace IntArray

variable {a : IntArray} {data : List UInt8} {offset width : Nat}

/-- A number within its bytes is within the data that they lie in. -/
theorem slice?_of_liesIn (h : Payload.LiesIn data ⟨offset, a.bytes⟩) (i : Nat) :
    a.slice? data offset i = a.get? i := by
  rw [slice?, get?]
  refine ite_congr rfl (fun hi => ?_) fun _ => rfl
  have hend := Nat.mul_le_of_le_div a.width (i + 1) a.bytes.length hi
  rw [Nat.add_mul, Nat.one_mul] at hend
  have hstop : offset + a.bytes.length ≤ data.length := h.stop_le
  obtain ⟨before, after, hdata, hbefore⟩ := h
  obtain rfl : before.length = offset := hbefore
  have hslice : (data.drop (before.length + i * a.width)).take a.width =
      (a.bytes.drop (i * a.width)).take a.width := by
    rw [hdata, List.append_assoc, ← List.drop_drop, List.drop_left,
      List.drop_append_of_le_length (by show _ ≤ a.bytes.length; omega),
      List.take_append_of_le_length (by rw [List.length_drop]; show _ ≤ a.bytes.length - _; omega)]
  rw [if_pos (by omega), hslice]

/-- Iterating skips no number. -/
theorem iterate_of_liesIn (h : Payload.LiesIn data ⟨offset, a.bytes⟩) : a.iterate data offset = a.toList := by
  have hslice : a.slice? data offset = fun i => a.toList[i]? := by
    funext i
    rw [slice?_of_liesIn h, getElem?_toList]
  rw [iterate, hslice, ← length_toList]
  generalize a.toList = ns
  induction ns with
  | nil => rfl
  | cons n ns ih =>
    rw [List.length_cons, List.range_succ_eq_map, List.filterMap_cons, List.filterMap_map]
    exact congrArg (n :: ·) ih

end IntArray

theorem Chunk.intArray_eq_ok {width : Nat} {a : IntArray} (hkind : s.resolve = .ok (kind, target)) :
    (Chunk.mk (some s) (some p)).intArray kind width = .ok a ↔
      p.bytes.length % width = 0 ∧ a = ⟨width, p.bytes⟩ := by
  have hchunk : (Chunk.mk (some s) (some p)).kind = .ok kind := Chunk.kind_eq_ok.2 ⟨target, hkind⟩
  rw [intArray, Content.expect_of_kind hchunk, ok_bind, present, ok_bind]
  by_cases hlen : p.bytes.length % width = 0
  · rw [if_neg (not_not.2 hlen)]
    exact ⟨fun h => ⟨hlen, (pure_eq_ok.1 h).symm⟩, fun h => pure_eq_ok.2 h.2.symm⟩
  · rw [if_pos hlen]
    refine ⟨fun h => ?_, fun h => absurd h.1 hlen⟩
    obtain ⟨_, h, _⟩ := bind_eq_ok.1 h
    exact absurd h throw_ne_ok

namespace Save

variable {field : String} {width : Nat} {ns : List Int64} {n : Int64}

/-- Integers that fit their width are taken as they are. -/
theorem ints_of_fits (h : ∀ n ∈ ns, LittleEndian.fits width n.toInt) :
    ints width field (.array (ns.map .int)) = .ok (ns.map Int64.toInt) := by
  refine items_eq_ok.2 ⟨_, rfl, ?_⟩
  rw [List.forall₂_map_left_iff, List.forall₂_map_right_iff, List.forall₂_same]
  exact fun n hn => whole_eq_ok.2 ⟨n, rfl, h n hn, rfl⟩

/-- The first integer that does not fit its width is refused. -/
theorem ints_of_find? (h : ns.find? (fun n => !LittleEndian.fits width n.toInt) = some n) :
    ints width field (.array (ns.map .int)) = .error (.valueOutOfRange field n.toInt) := by
  show (ns.map Value.int).mapM _ = _
  induction ns with
  | nil => cases h
  | cons m ns ih =>
    rw [List.map_cons, List.mapM_cons]
    by_cases hm : LittleEndian.fits width m.toInt
    · rw [List.find?_cons_of_neg (by simpa using hm)] at h
      rw [whole_eq_ok.2 ⟨m, rfl, hm, rfl⟩, ok_bind, ih h]
      rfl
    · rw [List.find?_cons_of_pos (by simpa using hm)] at h
      obtain rfl := Option.some.inj h
      have hwhole : whole field "integer" (LittleEndian.fits width) (.int m) =
          .error (.valueOutOfRange field m.toInt) :=
        if_neg hm
      rw [hwhole]
      rfl

end Save

/-- What is shown of a field of numbers of a width is what its bytes hold, and what is saved is what was shown. -/
structure IntArray.Lossless (charset : Charset) (kind : Kind) (width : Nat) : Prop where
  opens_iff : ∀ s target p, s.resolve = .ok (kind, target) →
    ((∃ a, (Chunk.mk (some s) (some p)).intArray kind width = .ok a) ↔ p.bytes.length % width = 0)
  size_eq : ∀ s target p a, s.resolve = .ok (kind, target) →
    (Chunk.mk (some s) (some p)).intArray kind width = .ok a →
      a.size = p.bytes.length / width ∧ a.toList.length = a.size
  /-- Wherever the bytes lie, no number is skipped. -/
  items_eq : ∀ s target p a data, s.resolve = .ok (kind, target) →
    (Chunk.mk (some s) (some p)).intArray kind width = .ok a → p.LiesIn data →
      a.iterate data p.offset = a.toList ∧
        ∀ i, a.slice? data p.offset i = a.toList[i]? ∧ a.get? i = a.toList[i]?
  saved : ∀ s target p a, s.resolve = .ok (kind, target) →
    (Chunk.mk (some s) (some p)).intArray kind width = .ok a →
      (Chunk.mk (some s) (some p)).toValue charset = .ok (.array (a.toList.map .ofInt)) ∧
        (Value.array (a.toList.map .ofInt)).save charset s = .ok p.bytes
  given : ∀ s target (ns : List Int64), s.resolve = .ok (kind, target) →
    (∀ n ∈ ns, LittleEndian.fits width n.toInt) →
      ∃ bytes, (Value.array (ns.map .int)).save charset s = .ok bytes ∧ ∀ pos, ∃ a,
        (Chunk.mk (some s) (some ⟨pos, bytes⟩)).intArray kind width = .ok a ∧ a.toList = ns.map Int64.toInt
  refused : ∀ s target (ns : List Int64) n, s.resolve = .ok (kind, target) →
    ns.find? (fun n => !LittleEndian.fits width n.toInt) = some n →
      (Value.array (ns.map .int)).save charset s = .error (.valueOutOfRange s.label n.toInt)

/-- A kind of content is lossless if its numbers are taken from a value and written as they are. -/
theorem IntArray.lossless {width : Nat} (hw : 0 < width) (hw' : width ≤ 4) (hleaf : kind.isComposite = false)
    (hvalue : ∀ {c : Chunk} {a}, c.kind = .ok kind → c.intArray kind width = .ok a → c.toValue charset = .ok a.toValue)
    (hbytes : ∀ field v, Save.contentBytes charset kind field v =
      (do return IntArray.encode width (← Save.ints width field v))) : Lossless charset kind width where
  opens_iff s target p hkind := by
    simp only [Chunk.intArray_eq_ok hkind]
    exact ⟨fun ⟨_, hlen, _⟩ => hlen, fun hlen => ⟨_, hlen, rfl⟩⟩
  size_eq s target p a hkind ha := by
    obtain ⟨_, rfl⟩ := (Chunk.intArray_eq_ok hkind).1 ha
    exact ⟨rfl, length_toList _⟩
  items_eq s target p a data hkind ha hdata := by
    obtain ⟨_, rfl⟩ := (Chunk.intArray_eq_ok hkind).1 ha
    refine ⟨iterate_of_liesIn hdata, fun i => ⟨?_, (getElem?_toList _ i).symm⟩⟩
    rw [slice?_of_liesIn hdata, getElem?_toList]
  saved s target p a hkind ha := by
    refine ⟨hvalue (Chunk.kind_eq_ok.2 ⟨target, hkind⟩) ha, ?_⟩
    obtain ⟨hlen, rfl⟩ := (Chunk.intArray_eq_ok hkind).1 ha
    have hfits : ∀ n ∈ toList ⟨width, p.bytes⟩, LittleEndian.fits width n := fun n hn => fits_of_mem_toList hlen hn
    rw [Value.save_of_leaf hkind hleaf, hbytes, Save.ints_ofInt hw' hfits, ok_bind]
    exact congrArg Except.ok (encode_toList (a := ⟨width, p.bytes⟩) hlen)
  given s target ns hkind hfits := by
    refine ⟨encode width (ns.map Int64.toInt), ?_,
      fun pos => ⟨⟨width, _⟩, (Chunk.intArray_eq_ok hkind).2 ⟨?_, rfl⟩, ?_⟩⟩
    · rw [Value.save_of_leaf hkind hleaf, hbytes, Save.ints_of_fits hfits, ok_bind]
      rfl
    · rw [length_encode, Nat.mul_mod_left]
    · exact toList_encode hw (List.forall_mem_map.2 hfits)
  refused s target ns n hkind hn := by
    rw [Value.save_of_leaf hkind hleaf, hbytes, Save.ints_of_find? hn]
    rfl

/-! ## Runs of varints -/

/-- What is saved of content that a parser reads is read as the same content, and what was read is saved in no more
bytes than before. -/
structure Varint.Lossless {α : Type} (charset : Charset) (kind : Kind) (parse : Parse α) (toValue : α → Value)
    (counted : α → Prop) : Prop where
  given : ∀ s target x, s.resolve = .ok (kind, target) → counted x →
    ∃ bytes, (toValue x).save charset s = .ok bytes ∧ ∀ pos,
      parse ⟨pos, bytes⟩ = .ok x ⟨pos + bytes.length, []⟩ ∧
        (Chunk.mk (some s) (some ⟨pos, bytes⟩)).content kind parse = .ok x
  decoded : ∀ s target p x, s.resolve = .ok (kind, target) →
    (Chunk.mk (some s) (some p)).content kind parse = .ok x →
      (Chunk.mk (some s) (some p)).toValue charset = .ok (toValue x) ∧
      ∃ saved, (toValue x).save charset s = .ok saved ∧
        (∀ pos, (Chunk.mk (some s) (some ⟨pos, saved⟩)).content kind parse = .ok x) ∧
        saved.length ≤ p.bytes.length ∧ (saved = p.bytes ↔ ∀ part ∈ cut p.bytes, Minimal part)

/-- A kind of content is lossless if it is written as its words in their shortest forms and read from any run of
their forms. -/
theorem Varint.lossless {α : Type} {parse : Parse α} {toValue : α → Value} {counted : α → Prop}
    (words : α → List UInt32) (hleaf : kind.isComposite = false)
    (hvalue : ∀ {c : Chunk} {x}, c.kind = .ok kind → c.content kind parse = .ok x → c.toValue charset = .ok (toValue x))
    (hbytes : ∀ field x, Save.contentBytes charset kind field (toValue x) = .ok ((words x).flatMap encode))
    (htakes : ∀ x, counted x → ∀ pos, parse ⟨pos, (words x).flatMap encode⟩ =
      .ok x ⟨pos + ((words x).flatMap encode).length, []⟩)
    (hspells : ∀ {x c c'}, parse c = .ok x c' → counted x ∧
      ∃ parts, List.Forall₂ Spells parts (words x) ∧ c.rest = parts.flatten ++ c'.rest) :
    Lossless charset kind parse toValue counted where
  given s target x hkind hx := by
    have hchunk := fun p => Chunk.kind_eq_ok (p := some p).2 ⟨target, hkind⟩
    refine ⟨_, (Value.save_of_leaf hkind hleaf _).trans (hbytes _ x), fun pos => ⟨htakes x hx pos, ?_⟩⟩
    exact Content.content_of_decode (hchunk _) (Payload.decode_eq_ok.2 ⟨_, htakes x hx pos, rfl⟩)
  decoded s target p x hkind hx := by
    have hchunk := fun p => Chunk.kind_eq_ok (p := some p).2 ⟨target, hkind⟩
    refine ⟨hvalue (hchunk p) hx, ?_⟩
    obtain ⟨_, _, hx⟩ := bind_eq_ok.1 hx
    obtain ⟨_, hp, hx⟩ := bind_eq_ok.1 hx
    obtain rfl := Except.ok.inj hp
    obtain ⟨c', hparse, hend⟩ := Payload.decode_eq_ok.1 hx
    obtain ⟨hcounted, parts, hparts, hrest⟩ := hspells hparse
    rw [hend, List.append_nil] at hrest
    have hrest : p.bytes = parts.flatten := hrest
    refine ⟨_, (Value.save_of_leaf hkind hleaf _).trans (hbytes _ x), fun pos => ?_, ?_, ?_⟩
    · exact Content.content_of_decode (hchunk _) (Payload.decode_eq_ok.2 ⟨_, htakes x hcounted pos, rfl⟩)
    · exact hrest ▸ length_flatMap_encode_le hparts
    · rw [hrest, cut_flatten hparts]
      exact flatMap_encode_eq_iff hparts

theorem Chunk.toValue_of_read {c : Chunk} {content : Content} (hkind : c.kind = .ok kind)
    (hleaf : kind.isComposite = false) (h : Content.read charset kind c = .ok content) :
    c.toValue charset = .ok content.toValue := by
  obtain ⟨_ | s, p⟩ := c
  · cases hkind
  · rw [toValue_eq, valueBy_of_leaf hkind hleaf, h]
    rfl

/-- Arrays and map trees are read and saved without loss.  An array of numbers opens just if its bytes are a whole
number of them, shows each of them, is saved as its bytes and takes just the integers of its width.  A run of varints
and a map tree are read from what they are saved as, in no more bytes than they were read from, and in the same bytes
just if each varint was minimal. -/
theorem leaves_lossless (charset : Charset) :
    (IntArray.Lossless charset .int8s 1 ∧ IntArray.Lossless charset .int16s 2 ∧
      IntArray.Lossless charset .int32s 4) ∧
    Varint.Lossless charset .varints (Parse.all Varint.parseSigned) (fun ns => .array (ns.map .ofInt32))
      (fun _ => True) ∧
    Varint.Lossless charset .mapTree MapTree.parse MapTree.toValue (fun t => t.nodes.length < 0x100000000) := by
  refine ⟨⟨?_, ?_, ?_⟩, ?_, ?_⟩
  · exact IntArray.lossless (by decide) (by decide) rfl
      (fun hkind ha => Chunk.toValue_of_read hkind rfl (bind_eq_ok.2 ⟨_, ha, rfl⟩)) fun _ _ => rfl
  · exact IntArray.lossless (by decide) (by decide) rfl
      (fun hkind ha => Chunk.toValue_of_read hkind rfl (bind_eq_ok.2 ⟨_, ha, rfl⟩)) fun _ _ => rfl
  · exact IntArray.lossless (by decide) (by decide) rfl
      (fun hkind ha => Chunk.toValue_of_read hkind rfl (bind_eq_ok.2 ⟨_, ha, rfl⟩)) fun _ _ => rfl
  · refine Varint.lossless (fun ns => ns.map Int32.toUInt32) rfl
      (fun hkind hns => Chunk.toValue_of_read hkind rfl (bind_eq_ok.2 ⟨_, hns, rfl⟩)) (fun field ns => ?_)
      (fun ns _ pos => ?_) fun h => ⟨trivial, Parse.spells_of_all h⟩
    · rw [List.flatMap_map]
      exact bind_eq_ok.2 ⟨ns, Save.items_map fun n _ => Save.int32_ofInt32 field n, rfl⟩
    · rw [List.flatMap_map]
      exact Varint.parse_of_flatMap ns pos
  · refine Varint.lossless MapTree.words rfl
      (fun hkind ht => Chunk.toValue_of_read hkind rfl (bind_eq_ok.2 ⟨_, ht, rfl⟩)) (fun field t => ?_)
      (fun t ht pos => ?_) fun h => ⟨MapTree.length_nodes_of_parse h, MapTree.spells_of_parse h⟩
    · rw [← MapTree.encode_eq]
      exact bind_eq_ok.2 ⟨t, Save.mapTree_toValue field t, rfl⟩
    · rw [← MapTree.encode_eq]
      simpa using MapTree.takes_parse ht pos []

/-- Two numbers of two bytes within other bytes, a number that is too large, and two varints of which the second has
a zero group in front. -/
theorem leaves_lossless_padded :
    let s : Schema := ⟨Document.plain 2 "party" "int16array"⟩
    let d : Schema := ⟨Document.plain 3 "tiles" "ber_array"⟩
    let p : Payload := ⟨3, [0x81, 0x00, 0x80, 0x05]⟩
    (∃ a, (Chunk.mk (some s) (some ⟨1, [0xff, 0xff, 2, 0]⟩)).int16s = .ok a ∧
      a.iterate [7, 0xff, 0xff, 2, 0, 7] 1 = [-1, 2] ∧
        (Value.array (a.toList.map .ofInt)).save .utf8 s = .ok [0xff, 0xff, 2, 0]) ∧
    (Value.array ([1, 40000, 2].map .int)).save .utf8 s = .error (.valueOutOfRange "party" 40000) ∧
    ∃ saved, (Value.array (([128, 5] : List Int32).map .ofInt32)).save .utf8 d = .ok saved ∧
      (Chunk.mk (some d) (some ⟨3, saved⟩)).varints = .ok [128, 5] ∧ saved.length ≤ p.bytes.length ∧
        saved ≠ p.bytes := by
  intro s d p
  obtain ⟨⟨_, hints, _⟩, hvarints, _⟩ := leaves_lossless .utf8
  have hs : s.resolve = .ok (.int16s, s) := rfl
  have hd : d.resolve = .ok (.varints, d) := rfl
  refine ⟨⟨⟨2, [0xff, 0xff, 2, 0]⟩, rfl, ?_, ?_⟩, ?_, ?_⟩
  · have hlies : Payload.LiesIn [7, 0xff, 0xff, 2, 0, 7] ⟨1, [0xff, 0xff, 2, 0]⟩ := ⟨[7], [7], rfl, rfl⟩
    exact (hints.items_eq s s _ _ _ hs rfl hlies).1.trans (by decide)
  · exact (hints.saved s s ⟨1, [0xff, 0xff, 2, 0]⟩ _ hs rfl).2
  · exact hints.refused s s [1, 40000, 2] 40000 hs (by decide)
  · obtain ⟨_, saved, hsave, hread, hle, hsame⟩ := hvarints.decoded d d p [128, 5] hd rfl
    refine ⟨saved, hsave, hread 3, hle, fun heq => ?_⟩
    have hminimal := hsame.1 heq [0x80, 0x05] (by decide)
    exact hminimal rfl

end ChunkTree
