import ChunkTree.Proofs.Apart
import ChunkTree.Proofs.Equivalence
import ChunkTree.Proofs.Savable

/-!
# Which bits of a float survive

A float that a record holds is converted, saved and read again with the same bits, unless the field is internal or
has a default that the float is the same as without being it: a zero of the other sign, or another pattern that is
no number.  Then the chunk is left out, and the default is read instead (`Record.float_reread`).
-/

namespace ChunkTree

open Text (Charset)
open Save (Entry chunkBytes isDefault)

variable {charset : Charset} {s d f target : Schema} {i : UInt32} {w : Binary64} {y : Option Binary64}

theorem Value.sameFloat_iff {x z : Binary64} :
    sameFloat x z ↔ x = z ∨ (x.isZero ∧ z.isZero) ∨ (x.isNaN ∧ z.isNaN) := by
  rw [sameFloat_eq_true, Binary64.eq_iff]
  constructor
  · rintro (⟨_, _, h | h⟩ | h)
    · exact .inl h
    · exact .inr (.inl h)
    · exact .inr (.inr h)
  · rintro (rfl | ⟨hx, hz⟩ | h)
    · exact sameFloat_eq_true.1 (sameFloat_self x) |>.imp_left Binary64.eq_iff.1
    · have hnan : ∀ u : Binary64, u.isZero → u.isNaN = false := fun u hu => by
        simp_all [Binary64.isZero, Binary64.isNaN]
      exact .inl ⟨hnan x hx, hnan z hz, .inr ⟨hx, hz⟩⟩
    · exact .inr h

/-- The float that a field has after a float was saved under it: the default if the field is internal or the float
is the same as the default. -/
def Schema.keptFloat (f : Schema) (default : Option Binary64) (w : Binary64) : Option Binary64 :=
  if f.name?.any isInternal || default.any (Value.sameFloat · w) then default else some w

/-- When a float is not kept as it is. -/
theorem Schema.keptFloat_ne_iff : f.keptFloat y w ≠ some w ↔ y ≠ some w ∧
    (f.name?.any isInternal ∨ ∃ x, y = some x ∧ ((x.isZero ∧ w.isZero) ∨ (x.isNaN ∧ w.isNaN))) := by
  unfold keptFloat
  cases y with
  | none => cases f.name?.any isInternal <;> simp
  | some x =>
    by_cases hxw : x = w
    · subst hxw
      simp
    · have hsame : Value.sameFloat x w ↔ (x.isZero ∧ w.isZero) ∨ (x.isNaN ∧ w.isNaN) := by
        rw [Value.sameFloat_iff, or_iff_right hxw]
      rw [Option.any_some]
      simp only [ne_eq, Option.some.injEq, exists_eq_left', ← hsame, hxw, not_false_eq_true, true_and]
      cases f.name?.any isInternal <;> cases Value.sameFloat x w <;> simp [hxw]

section

variable (hkind : f.resolve = .ok (.float, target))

include hkind

theorem Chunk.float_of_digits (q : Nat) (w : Binary64) :
    (Chunk.mk (some f) (some ⟨q, LittleEndian.digits 8 w.bits.toNat⟩)).float = .ok w := by
  have hbytes : (Content.float w).bytes .shiftJis = .ok (LittleEndian.digits 8 w.bits.toNat) := rfl
  have hfits : (Content.float w).Fits := trivial
  have hkind' : (Chunk.mk (some f) (some ⟨q, LittleEndian.digits 8 w.bits.toNat⟩)).kind = .ok .float :=
    kind_eq_ok.2 ⟨target, hkind⟩
  have hread := Content.read_of_bytes hfits (fun _ => nofun) hbytes
    (by rw [LittleEndian.length_digits]; decide) hkind'
  obtain ⟨x, hx, h⟩ := bind_eq_ok.1 hread
  obtain rfl := Content.float.inj (pure_eq_ok.1 h)
  exact hx

theorem Chunk.toValue_of_digits (q : Nat) (w : Binary64) :
    (Chunk.mk (some f) (some ⟨q, LittleEndian.digits 8 w.bits.toNat⟩)).toValue charset = .ok (.float w) := by
  rw [toValue_eq]
  exact (valueBy_eq_ok_of_leaf (kind_eq_ok.2 ⟨target, hkind⟩) rfl).2
    ⟨.float w, bind_eq_ok.2 ⟨w, float_of_digits hkind q w, rfl⟩, rfl⟩

theorem Value.save_float (w : Binary64) :
    (Value.float w).save charset f = .ok (LittleEndian.digits 8 w.bits.toNat) := by
  rw [save_of_leaf hkind rfl]
  rfl

/-- A default of a float field is read as it is. -/
theorem Chunk.float_absent (hdefault : f.default? = y.map .float) :
    (f.default?.map fun _ => absent f).map float = y.map .ok := by
  cases y with
  | none => rw [hdefault]; rfl
  | some x =>
    have hfloat : (absent f).float = .ok x := scalar_absent hkind hdefault rfl
    rw [hdefault, Option.map_some, Option.map_some, Option.map_some, hfloat, Option.map_some]

end

theorem Save.isDefault_float (hdefault : f.default? = y.map .float) :
    isDefault (some f) (.float w) = y.any (Value.sameFloat · w) := by
  rw [isDefault_eq, Option.bind_some, hdefault]
  cases y <;> rfl

namespace Record

/-- The default of a field, under its name, is not saved. -/
theorem kept_of_missing (hd : d.Apart) (hf : f ∈ d.fields) {keys : List String} {k : String} {x : Value}
    (h : f.missingDefault keys = some (k, x)) (hx : x.KeysDistinct) : d.kept k x = none := by
  obtain ⟨hn, hdefault, _⟩ := missingDefault_eq_some.1 h
  cases hkept : d.kept k x with
  | none => rfl
  | some e =>
    obtain ⟨_, hdesignated, _, hnew, _⟩ := Schema.kept_eq_some.1 hkept
    rw [Schema.designated_name hd hf hn] at hdesignated
    obtain ⟨_, _, heq⟩ := Option.map_eq_some_iff.1 hdesignated
    rw [← (Prod.mk.inj heq).2, Save.isDefault_eq, Option.bind_some, hdefault, Option.any_some, hx.same_self] at hnew
    cases hnew

section

variable {r : Record} {fields : Fields} {x : Value} (h : ShownAs charset r fields) (hd : r.schema.Apart)
  (hf : f ∈ r.schema.fields) (hi : f.index? = some i)
  (hnameless : f.name? = none → r.schema.find? (.name (indexText i)) = none)
  (honly : ∀ j chunk, (j, chunk) ∈ r.entries → j = i ∧ chunk.schema = some f ∧ chunk.toValue charset = .ok x)

include h honly in
/-- A record with a single chunk shows that chunk and defaults. -/
theorem ShownAs.eq_or_missing {k : String} {z : Value} (hz : (k, z) ∈ fields) :
    (k = f.keyAt i ∧ z = x) ∨ ∃ g ∈ r.schema.fields, g.missingDefault r.shownKeys = some (k, z) := by
  refine (h.origin k z hz).imp_left ?_
  rintro ⟨j, chunk, hmem, hkey, hvalue⟩
  obtain ⟨rfl, hschema, hx⟩ := honly j chunk hmem
  exact ⟨eq_keyAt_of_entryKey? hschema hkey, Except.ok.inj (hvalue.symm.trans hx)⟩

include h hd hf hi hnameless honly

/-- The keys that a record with a single chunk shows can be saved. -/
theorem ShownAs.exists_keyEntry (hindices : ∀ g ∈ r.schema.fields, g.index?.isSome) :
    ∀ e ∈ fields, ∃ o, Save.keyEntry r.schema e.1 e.2 = .ok o := by
  rintro ⟨k, z⟩ hz
  rcases h.eq_or_missing honly hz with ⟨rfl, _⟩ | ⟨g, hg, hmissing⟩
  · exact Save.exists_keyEntry_of_designated hd (Schema.designated_keyAt hd hf hi hnameless) z
  · obtain ⟨hn, _⟩ := missingDefault_eq_some.1 hmissing
    obtain ⟨j, hj⟩ := Option.isSome_iff_exists.1 (hindices g hg)
    have hgk : r.schema.designated k = some (j, some g) := by
      rw [Schema.designated_name hd hg hn, hj, Option.map_some]
    exact Save.exists_keyEntry_of_designated hd hgk z

/-- Of what a record with a single chunk shows, nothing but that chunk is kept. -/
theorem ShownAs.eq_of_kept (hdefaults : ∀ g ∈ r.schema.fields, ∀ x, g.default? = some x → x.KeysDistinct)
    {k : String} {z : Value} {e : Entry} (hz : (k, z) ∈ fields) (hkept : r.schema.kept k z = some e) :
    k = f.keyAt i ∧ e = ⟨i, x, some f⟩ := by
  rcases h.eq_or_missing honly hz with ⟨rfl, rfl⟩ | ⟨g, hg, hmissing⟩
  · obtain ⟨_, hdesignated, _, _, rfl⟩ := Schema.kept_eq_some.1 hkept
    rw [Schema.designated_keyAt hd hf hi hnameless] at hdesignated
    obtain ⟨hindex, hschema⟩ := Prod.mk.inj (Option.some.inj hdesignated)
    exact ⟨rfl, by rw [hindex, hschema]⟩
  · obtain ⟨_, hdefault, _⟩ := missingDefault_eq_some.1 hmissing
    rw [kept_of_missing hd hg hmissing (hdefaults g hg z hdefault)] at hkept
    cases hkept

/-- What a record with a single chunk shows is saved as that chunk at most. -/
theorem ShownAs.exists_given (hindices : ∀ g ∈ r.schema.fields, g.index?.isSome)
    (hdefaults : ∀ g ∈ r.schema.fields, ∀ x, g.default? = some x → x.KeysDistinct) :
    ∃ given, Save.givenEntries r.schema fields = .ok given ∧ (given.map Entry.index).Nodup ∧
      ∀ e ∈ given, e = ⟨i, x, some f⟩ := by
  have hkeys := h.exists_keyEntry hd hf hi hnameless honly hindices
  have hkept := fun {k z e} => h.eq_of_kept hd hf hi hnameless honly hdefaults (k := k) (z := z) (e := e)
  refine ⟨_, Save.givenEntries_eq_ok.2 ⟨hkeys, rfl⟩, ?_, fun e he => ?_⟩
  · -- only one key is saved
    refine List.pairwise_map.2 (List.pairwise_filterMap.2
      ((List.pairwise_map.1 h.keys_nodup).imp_of_mem fun ha hb hne e he e' he' _ => hne ?_))
    rw [(hkept ha he).1, (hkept hb he').1]
  · obtain ⟨⟨k, z⟩, hz, hk⟩ := List.mem_filterMap.1 he
    exact (hkept hz hk).2

end

/-- Whether bytes hold a record that gives a float, or none at all, under a field, by its index and by its name. -/
def HoldsFloat (s f : Schema) (i : UInt32) (bytes : List UInt8) (y : Option Binary64) : Prop :=
  ∃ r, (Chunk.ofBytes s bytes).record = .ok r ∧ (r.get? (.index i)).map Chunk.float = y.map .ok ∧
    ∀ n, f.name? = some n → r.get? (.name n) = r.get? (.index i)

section

variable (hd : d.Apart) (hnosize : f.sizeOf? = none) (hs : s.actual .record = .ok d) (hf : f ∈ d.fields)
  (hi : f.index? = some i)
  (hkind : f.resolve = .ok (.float, target)) (hdefault : f.default? = y.map .float)
  (hnameless : f.name? = none → d.find? (.name (indexText i)) = none)

include hd hnosize hs hf hi hkind hdefault hnameless

/-- A record that holds a float, once it was converted and saved, is read with the float that is kept of it. -/
theorem float_of_saved {row : Option UInt32} {c c' : Cursor} {r : Record} (hr : parse d row c = .ok r c')
    {chunk : Chunk} (hmem : (i, chunk) ∈ r.entries) {q : Nat}
    (hpayload : chunk.payload = some ⟨q, LittleEndian.digits 8 w.bits.toNat⟩)
    (hname : ∀ j c, (j, c) ∈ r.entries → f.name? = some (indexText j) → j = i) {v : Value}
    (hv : r.toValue charset = .ok v) {bytes : List UInt8} (hsave : v.save charset s = .ok bytes)
    (hfit : Save.Fit charset (v.keptEntries d)) : HoldsFloat s f i bytes (f.keptFloat y w) := by
  obtain ⟨rfl, _, hin⟩ := inOrder_of_parse hr
  have hfind := Schema.find_index_of_nodup hd.indices_nodup hf hi
  obtain rfl : chunk = ⟨some f, some ⟨q, LittleEndian.digits 8 w.bits.toNat⟩⟩ := by
    rw [← hpayload, ← hfind, ← hin.schema_eq hmem]
  obtain ⟨r', hread, hschema, hleft, hheld⟩ := exists_entry_of_saved hd hs hf hi hnosize hnameless hr hmem hname
    (Chunk.toValue_of_digits hkind q w) hv hsave hfit
  rw [← hschema] at hfind
  refine ⟨r', hread, ?_, fun n hn => get?_name (hschema ▸ Schema.find_name_of_nodup hd.names_nodup hf hn) hi⟩
  rw [Save.isDefault_float hdefault] at hleft hheld
  unfold Schema.keptFloat
  cases hkept : f.name?.any isInternal || y.any (Value.sameFloat · w) with
  | true => rw [get?_field hfind (hleft hkept), Option.none_or, Chunk.float_absent hkind hdefault, if_pos rfl]
  | false =>
    obtain ⟨q', p, hp, hentry⟩ := hheld hkept
    obtain rfl := Except.ok.inj ((Value.save_float hkind w).symm.trans hp)
    rw [get?_field hfind hentry, Option.some_or, Option.map_some, Chunk.float_of_digits hkind q' w]
    rfl

omit hdefault in
/-- A record that holds nothing but a float is converted and saved. -/
theorem exists_saved_float (hindices : ∀ g ∈ d.fields, g.index?.isSome)
    (hsizes : ∀ g ∈ d.fields, g.sizeOf?.isSome → ∃ target, g.resolve = .ok (.integer, target))
    (hdefaults : ∀ g ∈ d.fields, ∀ x, g.default? = some x → x.KeysDistinct) (charset : Charset) (w : Binary64) :
    ∃ r q v bytes, (parse d none).Takes 0 (chunkBytes (i, LittleEndian.digits 8 w.bits.toNat) ++ Varint.encode 0) r ∧
      r.entries = [(i, ⟨some f, some ⟨q, LittleEndian.digits 8 w.bits.toNat⟩⟩)] ∧
      r.toValue charset = .ok v ∧ v.save charset s = .ok bytes ∧ Save.Fit charset (v.keptEntries d) := by
  have hfind := Schema.find_index_of_nodup hd.indices_nodup hf hi
  have hascending : (0 :: [(i, LittleEndian.digits 8 w.bits.toNat)].map Prod.fst).Pairwise (· < ·) := by
    refine List.pairwise_cons.2 ⟨fun j hj => ?_, List.pairwise_singleton _ _⟩
    obtain rfl := List.mem_singleton.1 hj
    exact UInt32.pos_iff_ne_zero.2 fun hzero => hd.index_ne_zero f hf (hzero ▸ hi)
  have htakes := takes_parse d none 0 hascending fun c hc => by
    rw [List.mem_singleton.1 hc, LittleEndian.length_digits]
    decide
  rw [List.flatMap_singleton] at htakes
  obtain ⟨r, q, htakes, rfl, hentries⟩ : ∃ r q,
      (parse d none).Takes 0 (chunkBytes (i, LittleEndian.digits 8 w.bits.toNat) ++ Varint.encode 0) r ∧
        r.schema = d ∧ r.entries = [(i, ⟨some f, some ⟨q, LittleEndian.digits 8 w.bits.toNat⟩⟩)] :=
    ⟨_, _, htakes, rfl, by rw [chunkViews, hfind, chunkViews]⟩
  have honly : ∀ j chunk, (j, chunk) ∈ r.entries →
      j = i ∧ chunk.schema = some f ∧ chunk.toValue charset = .ok (.float w) := by
    intro j chunk hmem
    rw [hentries, List.mem_singleton] at hmem
    obtain ⟨rfl, rfl⟩ := Prod.mk.inj hmem
    exact ⟨rfl, rfl, Chunk.toValue_of_digits hkind q w⟩
  obtain ⟨v, hv⟩ := exists_valueBy fun j chunk hmem => ⟨_, (honly j chunk hmem).2.2⟩
  obtain ⟨fields, rfl, hshown⟩ := exists_shownAs hd.names_nodup hv
  obtain ⟨given, hgiven, hnodup, heq⟩ := hshown.exists_given hd hf hi hnameless honly hindices hdefaults
  have hclash : ¬Save.Clash given := by
    rintro ⟨e, he, g, t, hschema, hsize, _⟩
    rw [heq e he] at hschema
    obtain rfl := Option.some.inj hschema
    cases hnosize.symm.trans hsize
  have hpayload : ∀ e ∈ given, ∃ payload, e.payload (Value.save charset) = .ok payload ∧ payload.length = 8 := by
    intro e he
    rw [heq e he]
    exact ⟨_, Value.save_float hkind w, LittleEndian.length_digits _ _⟩
  have hshort : ∀ e ∈ given, ∃ payload, e.payload (Value.save charset) = .ok payload ∧
      payload.length < 0x80000000 := by
    intro e he
    obtain ⟨payload, hp, hlength⟩ := hpayload e he
    exact ⟨payload, hp, by rw [hlength]; decide⟩
  obtain ⟨bytes, hbytes⟩ :=
    Value.exists_saveRecord (v := .object fields) hd hsizes rfl hgiven hnodup hclash hshort
  refine ⟨r, q, _, bytes, htakes, hentries, (toValue_eq (htakes [])).trans hv, ?_, ?_⟩
  · rw [Value.save_of_record hs, hbytes]
  · rw [Value.keptEntries_of_givenEntries rfl hgiven]
    intro e he payload hp
    obtain ⟨payload', hp', hlength⟩ := hpayload e he
    rw [Except.ok.inj (hp.symm.trans hp'), hlength]
    decide

/-- A float that a record holds under a field, which is about no size, is converted, saved and read again as the
float that is kept of it, unless the name of the field is the index of another chunk; and a record that holds nothing
else can be converted and saved.  What is kept has other bits just if the field is internal or has a default with
other bits, both being zero or both being no number. -/
theorem float_reread (charset : Charset) (w : Binary64) :
    (∀ row c r c' chunk q v bytes, parse d row c = .ok r c' → (i, chunk) ∈ r.entries →
      chunk.payload = some ⟨q, LittleEndian.digits 8 w.bits.toNat⟩ →
      (∀ j c, (j, c) ∈ r.entries → f.name? = some (indexText j) → j = i) → r.toValue charset = .ok v →
      v.save charset s = .ok bytes → Save.Fit charset (v.keptEntries d) →
      HoldsFloat s f i bytes (f.keptFloat y w)) ∧
    ((∀ g ∈ d.fields, g.index?.isSome) →
      (∀ g ∈ d.fields, g.sizeOf?.isSome → ∃ target, g.resolve = .ok (.integer, target)) →
      (∀ g ∈ d.fields, ∀ x, g.default? = some x → x.KeysDistinct) →
      ∃ v bytes, (Chunk.ofBytes s (chunkBytes (i, LittleEndian.digits 8 w.bits.toNat) ++ Varint.encode 0)).toValue
          charset = .ok v ∧ v.save charset s = .ok bytes ∧ HoldsFloat s f i bytes (f.keptFloat y w)) ∧
    (f.keptFloat y w ≠ some w ↔ y ≠ some w ∧
      (f.name?.any isInternal ∨ ∃ x, y = some x ∧ ((x.isZero ∧ w.isZero) ∨ (x.isNaN ∧ w.isNaN)))) := by
  refine ⟨fun _ _ _ _ _ _ _ _ hr hmem hpayload hname hv hsave hfit => ?_, fun hindices hsizes hdefaults => ?_,
    Schema.keptFloat_ne_iff⟩
  · exact float_of_saved hd hnosize hs hf hi hkind hdefault hnameless hr hmem hpayload hname hv hsave hfit
  · obtain ⟨r, q, v, bytes, htakes, hentries, hv, hsave, hfit⟩ :=
      exists_saved_float hd hnosize hs hf hi hkind hnameless hindices hsizes hdefaults charset w
    have honly : ∀ j chunk, (j, chunk) ∈ r.entries → f.name? = some (indexText j) → j = i := by
      intro j chunk hmem _
      rw [hentries, List.mem_singleton] at hmem
      exact (Prod.mk.inj hmem).1
    have hfloat := float_of_saved hd hnosize hs hf hi hkind hdefault hnameless (htakes [])
      (hentries ▸ List.mem_singleton_self _) rfl honly hv hsave hfit
    obtain ⟨target, hrecord⟩ := Schema.resolve_of_actual hs
    refine ⟨v, bytes, ?_, hsave, hfloat⟩
    rw [Chunk.ofBytes, Chunk.toValue_record hrecord hs htakes, ← toValue_eq (htakes []), hv]

end

end Record

/-- A record with a rate, which is zero by default. -/
def Document.rates : Value :=
  composite "Rates" "array1d" [preset 1 "rate" "float" (.float ⟨0⟩)]

namespace Record

/-- A pattern that is no number is read again bit by bit. -/
theorem float_reread_rates :
    let s : Schema := ⟨Document.rates⟩
    let w : Binary64 := ⟨0xfff8000000000001⟩
    s.Apart ∧ ∃ v bytes r, (Chunk.ofBytes s (chunkBytes (1, LittleEndian.digits 8 w.bits.toNat) ++ [0])).toValue
        .shiftJis = .ok v ∧ v.save .shiftJis s = .ok bytes ∧ (Chunk.ofBytes s bytes).record = .ok r ∧
      (r.get? (.index 1)).map Chunk.float = some (.ok w) ∧ r.get? (.name "rate") = r.get? (.index 1) := by
  intro s w
  let f : Schema := ⟨Document.preset 1 "rate" "float" (.float ⟨0⟩)⟩
  have hd : s.Apart := ⟨by decide +kernel, by decide +kernel, by decide +kernel⟩
  have hfields : s.fields = [f] := rfl
  have hdefault : f.default? = (some ⟨0⟩ : Option Binary64).map .float := rfl
  have hsizes : ∀ g ∈ s.fields, g.sizeOf?.isSome → ∃ target, g.resolve = .ok (.integer, target) := by
    rw [hfields]
    rintro g (_ | ⟨_, ⟨⟩⟩) hsize
    cases hsize
  have hkept : f.keptFloat (some ⟨0⟩) w = some w := by decide +kernel
  obtain ⟨_, halone, _⟩ := float_reread hd (f := f) rfl (s := s) rfl (i := 1)
    (by rw [hfields]; exact List.mem_singleton_self f) rfl rfl hdefault nofun .shiftJis w
  obtain ⟨v, bytes, hv, hsave, r, hr, hfloat, hget⟩ := halone (by rw [hfields]; decide +kernel) hsizes (by
    rw [hfields]
    rintro g (_ | ⟨_, ⟨⟩⟩) x hx
    obtain rfl := Option.some.inj hx
    exact .scalar rfl)
  rw [hkept] at hfloat
  exact ⟨hd, v, bytes, r, hv, hsave, hr, hfloat, hget "rate" rfl⟩

/-- The sign of a zero is lost, as a negative zero is the same as the default. -/
theorem float_sign_lost :
    let s : Schema := ⟨Document.rates⟩
    let w : Binary64 := ⟨0x8000000000000000⟩
    let v : Value := .object [("rate", .float w)]
    (Chunk.ofBytes s [1, 8, 0, 0, 0, 0, 0, 0, 0, 0x80, 0]).toValue .shiftJis = .ok v ∧
      v.save .shiftJis s = .ok [0] ∧ ∃ r, (Chunk.ofBytes s [0]).record = .ok r ∧
        (r.get? (.index 1)).map Chunk.float = some (.ok ⟨0⟩) := by
  intro s w v
  have hdefault : isDefault (s.find? (.name "rate")) (.float w) = true := by decide +kernel
  have hkey : Save.keyEntry s "rate" (.float w) =
    .ok (Save.entryUnlessDefault 1 (s.find? (.name "rate")) (.float w)) := rfl
  rw [Save.entryUnlessDefault, if_pos hdefault] at hkey
  have hentries : Save.entriesOf (Value.savedSize .shiftJis) s v = .ok [] :=
    Save.entriesOf_eq_ok.2 ⟨_, [], [], rfl, Save.givenEntries_cons_eq_ok.2 ⟨none, [], hkey, rfl, rfl⟩, rfl, rfl, rfl⟩
  have hsave : v.save .shiftJis s = .ok [0] := by
    rw [Value.save_of_record (show s.actual .record = .ok s from rfl), Value.saveRecord_eq]
    exact Save.writeRecord_eq_ok.2 ⟨[], [], hentries, rfl, rfl⟩
  exact ⟨by with_unfolding_all rfl, hsave, _, rfl, rfl⟩

end Record

end ChunkTree
