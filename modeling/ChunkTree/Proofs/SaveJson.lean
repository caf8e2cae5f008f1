import ChunkTree.Proofs.JsonTrip
import ChunkTree.Proofs.Registered

/-!
# Going through JSON does not matter

A value that can be saved is saved as the same bytes after it was turned into a JSON tree and back
(`Value.save_throughJson`), if no default of the schema is a float that is not finite.  Such floats come back as
texts.  A default does not equal a float that is not finite, and it equals the text of one only if it is a text
itself, where the float could not have been saved (`Value.same_throughJson`); so the same fields are left out.
-/

namespace ChunkTree

open Text (Charset)
open Save (isDefault)

variable {charset : Charset}

namespace Schema

/-- Whether no default in a schema is a float that is not finite. -/
def FiniteDefaults (s : Schema) : Prop :=
  ∀ d, s.Reaches d → ∀ f ∈ d.fields, ∀ x, f.default? = some (.float x) → x.isFinite

theorem FiniteDefaults.field {s d f : Schema} (hs : s.FiniteDefaults) (hd : s.Reaches d) (hf : f ∈ d.fields) :
    f.FiniteDefaults :=
  fun d' h => hs d' (.field hd hf h)

theorem Steady.finiteDefaults {s : Schema} (hs : s.Steady) : s.FiniteDefaults := by
  intro d hd f hf x hx
  obtain ⟨kind, _, _, hplain⟩ := hs d hd f hf _ hx
  cases kind <;> first | exact hplain | cases hplain

end Schema

namespace Value

open Save

variable {v : Value} {d : Schema} {bytes : List UInt8}

/-! ## Defaults -/

/-- No default equals a float that is not finite. -/
theorem not_same_nonFinite {kind : Kind} {default : Value} (hfits : kind.admits default)
    (hfinite : ∀ x, default = .float x → x.isFinite) {y : Binary64} (hy : y.isFinite = false) :
    default.same (.float y) = false := by
  cases default with
  | int n =>
    have hn : (Binary64.ofInt n.toInt).isFinite := by
      have := n.le_toInt
      have := n.toInt_lt
      exact Binary64.isFinite_ofInt (by omega)
    exact Binary64.eq_of_not_finite hn hy
  | float x =>
    have hx := hfinite x rfl
    rw [same, sameFloat, Binary64.eq_of_not_finite hx hy, Binary64.not_isNaN_of_isFinite hx]
    rfl
  | _ => rfl

/-- A default that is a text is the default of a text field, where no float can be saved. -/
theorem not_same_text {kind : Kind} {default : Value} (hfits : kind.admits default) {field : String}
    {y : Binary64} (h : Save.contentBytes charset kind field (.float y) = .ok bytes) (s : String) :
    default.same (.string s) = false := by
  cases default with
  | string t =>
    cases kind with
    | string => cases h
    | _ => cases hfits
  | _ => rfl

/-- A default equals a value just if it equals what the value becomes by going through JSON, unless the value
could not be saved. -/
theorem same_throughJson {kind : Kind} {default : Value} (hfits : kind.admits default)
    (hfinite : ∀ x, default = .float x → x.isFinite) {field : String}
    (hsaved : default.same v = false → ∃ bytes, Save.contentBytes charset kind field v = .ok bytes) :
    default.same v.throughJson = default.same v := by
  have hscalar : default.asArray = none ∧ default.asObject = none := by
    cases kind <;> cases default <;> first | exact ⟨rfl, rfl⟩ | cases hfits
  cases v with
  | int n => rw [throughJson_int]
  | float y =>
    cases hy : y.isFinite with
    | true => rw [throughJson_finite hy]
    | false =>
      have hne := not_same_nonFinite hfits hfinite hy
      obtain ⟨_, hbytes⟩ := hsaved hne
      rw [throughJson_nonFinite hy, hne, not_same_text hfits hbytes]
  | array items =>
    rw [throughJson_array]
    cases default <;> first | rfl | cases hscalar.1
  | object fields =>
    rw [throughJson_object]
    cases default <;> first | rfl | cases hscalar.2
  | _ => rfl

theorem isDefault_throughJson {u : Schema}
    (hfits : ∀ default, u.default? = some default → ∃ kind target, u.resolve = .ok (kind, target) ∧
      kind.admits default)
    (hfinite : ∀ x, u.default? = some (.float x) → x.isFinite)
    (hsaved : isDefault (some u) v = false → ∃ bytes, v.save charset u = .ok bytes) :
    isDefault (some u) v.throughJson = isDefault (some u) v := by
  rw [Save.isDefault_eq, Option.bind_some] at hsaved ⊢
  rw [Save.isDefault_eq, Option.bind_some]
  cases hdefault : u.default? with
  | none => rfl
  | some default =>
    rw [hdefault, Option.any_some] at hsaved
    rw [Option.any_some, Option.any_some]
    obtain ⟨kind, target, hkind, hadmits⟩ := hfits default hdefault
    rw [save_of_leaf hkind (Kind.isComposite_of_admits hadmits)] at hsaved
    exact same_throughJson hadmits (fun x hx => hfinite x (hx ▸ hdefault)) hsaved

/-- Values that went through JSON are defaults just if they were so before, in a record that was saved. -/
theorem defaultsLike_throughJson (hd : d.ConsistentRecord)
    (hfinite : ∀ f ∈ d.fields, ∀ x, f.default? = some (.float x) → x.isFinite)
    (h : v.saveRecord charset d = .ok bytes) : DefaultsLike (fun v w => w = v.throughJson) d v := by
  rintro f hf _ rfl i field hkey hdesignated hname
  cases field with
  | none => rfl
  | some u =>
    obtain ⟨hu, _⟩ := Schema.field_of_designated hdesignated
    have hsaved : isDefault (some u) f.2 = false → ∃ bytes, f.2.save charset u = .ok bytes := by
      intro hne
      -- what is no default is kept, and so it was saved
      have hkept : d.kept f.1 f.2 = some ⟨i, f.2, some u⟩ :=
        Schema.kept_eq_some.2 ⟨hkey, hdesignated, hname, hne, rfl⟩
      obtain ⟨payload, hpayload, _⟩ := payload_of_mem_keptEntries h (List.mem_filterMap.2 ⟨f, hf, hkept⟩)
      exact ⟨payload, hpayload⟩
    exact isDefault_throughJson (hd.default_fits u hu) (hfinite u hu) hsaved

theorem defaultsLikeIn_throughJson {s : Schema} (hs : s.Consistent) (hfinite : s.FiniteDefaults)
    (h : v.save charset s = .ok bytes) : DefaultsLikeIn (fun v w => w = v.throughJson) v s := by
  refine ⟨fun d hd => ?_, fun d hd r hr => ?_⟩
  · rw [save_of_record hd] at h
    exact defaultsLike_throughJson (hs.record hd) (hfinite d (.record hd)) h
  · rw [save_of_table hd] at h
    obtain ⟨record, hrecord, _⟩ := saveRecord_of_mem_tableRows h hr
    exact defaultsLike_throughJson (hs.table hd) (hfinite d (.table hd)) hrecord

/-! ## At any depth -/

theorem save_eq_of_throughJson {s : Schema} (hs : s.Consistent) (hfinite : s.FiniteDefaults)
    (h : v.save charset s = .ok bytes) : v.throughJson.save charset s = .ok bytes := by
  induction hn : v.depth using Nat.strong_induction_on generalizing v s bytes with
  | _ n ih =>
    subst hn
    have hdefault := defaultsLikeIn_throughJson hs hfinite h
    refine (likeness_throughJson.saved rfl hs.namesDistinct hdefault (fun d _ rows hrows => ?_) ?_).2 bytes h
    · obtain ⟨fields, _, hv, _⟩ := rowsOf_eq_ok.1 hrows
      have hw : v.throughJson.asObject = some _ := (asObject_throughJson v).trans (congrArg _ hv)
      exact likeness_throughJson.rowsOf hv hw (.refl _)
        (List.forall₂_map_right_iff.2 (List.forall₂_same.2 fun _ _ => ⟨rfl, rfl⟩)) rfl hrows
    · intro e he e' hlike
      refine likeness_throughJson.follows hlike fun u hu => ?_
      obtain ⟨payload, hpayload⟩ := he.exists_save h hu
      obtain ⟨d, hd, hfield⟩ := he.mem_fields hu
      have hsave := ih e.value.depth he.depth_lt (hs.field hd hfield) (hfinite.field hd hfield) hpayload rfl
      rw [hlike.value, savedSize_of_save hpayload, savedSize_of_save hsave, hpayload, hsave]
      exact ⟨fun _ => id, fun _ => id⟩

/-- What a saved value is saved with is still so after going through JSON, converted. -/
theorem covers_throughJson {s u : Schema} {x : Value} (hx : Covers v s x u) (hs : s.Consistent)
    (hfinite : s.FiniteDefaults) (h : v.save charset s = .ok bytes) :
    Covers v.throughJson s x.throughJson u := by
  induction hx generalizing bytes with
  | self => exact .self
  | within he hu _ ih =>
    obtain ⟨e', he', hlike⟩ := likeness_throughJson.gives rfl (defaultsLikeIn_throughJson hs hfinite h) he
    obtain ⟨payload, hpayload⟩ := he.exists_save h hu
    obtain ⟨d, hd, hfield⟩ := he.mem_fields hu
    have hcovers := ih (hs.field hd hfield) (hfinite.field hd hfield) hpayload
    rw [← hlike.value] at hcovers
    exact .within he' (hlike.schema.trans hu) hcovers

/-- The text of a float that is not finite is saved as the 64 bits of that float. -/
theorem save_text {u target : Schema} (hu : u.resolve = .ok (.float, target)) {x : Binary64}
    (h : x.isFinite = false) :
    (string (NonFinite.text x)).save charset u = .ok (LittleEndian.digits 8 x.bits.toNat) := by
  have hfloat : Save.float u.label (string (NonFinite.text x)) = .ok x := by
    rw [← throughJson_nonFinite h]
    exact float_throughJson rfl
  rw [save_of_leaf hu rfl, contentBytes, hfloat]
  rfl

/-- A value that goes through JSON is saved as the same bytes.  Where it held a float that is not finite, it holds
a text that is saved as the bits of that float; what holds no such float stays as it is. -/
theorem save_throughJson {s : Schema} (hs : s.Consistent) (hfinite : s.FiniteDefaults)
    (h : v.save charset s = .ok bytes) :
    v.throughJson.save charset s = .ok bytes ∧
      (∀ x u target, Covers v s (.float x) u → u.resolve = .ok (.float, target) → x.isFinite = false →
        Covers v.throughJson s (.string (NonFinite.text x)) u ∧
          (string (NonFinite.text x)).save charset u = .ok (LittleEndian.digits 8 x.bits.toNat)) ∧
      (∀ path x, v.at? path = some (.float x) → x.isFinite = false →
        v.throughJson.at? path = some (.string (NonFinite.text x))) ∧
      ∀ path x, v.at? path = some x → x.allFinite → v.throughJson.at? path = some x := by
  refine ⟨save_eq_of_throughJson hs hfinite h, fun x u target hx hu hinfinite => ⟨?_, save_text hu hinfinite⟩,
    fun path x hx hinfinite => ?_, fun path x hx hall => ?_⟩
  · rw [← throughJson_nonFinite hinfinite]
    exact covers_throughJson hx hs hfinite h
  · rw [at?_throughJson, hx, Option.map_some, throughJson_nonFinite hinfinite]
  · rw [at?_throughJson, hx, Option.map_some, throughJson_of_allFinite x hall]

/-- A title whose time stamp is no number, with a payload of its own. -/
theorem save_throughJson_title :
    let s : Schema := ⟨Document.saveTitle⟩
    let v : Value := .object [("timestamp", .float ⟨0xfff0000000000123⟩), ("hero_level", .int 7)]
    s.Consistent ∧ s.FiniteDefaults ∧
      v.save .shiftJis s = .ok [1, 8, 0x23, 1, 0, 0, 0, 0, 0xf0, 0xff, 12, 1, 7, 0] ∧
      v.throughJson = .object [("timestamp", .string "NaN:0xfff0000000000123"), ("hero_level", .int 7)] ∧
      v.throughJson.save .shiftJis s =
        .ok [1, 8, 0x23, 1, 0, 0, 0, 0, 0xf0, 0xff, 12, 1, 7, 0] := by
  intro s v
  obtain ⟨hs, hsteady⟩ := Schema.consistent_of_check (show s.checkWithin 2 from by decide +kernel)
  have hsave : v.save .shiftJis s = .ok [1, 8, 0x23, 1, 0, 0, 0, 0, 0xf0, 0xff, 12, 1, 7, 0] := by rfl
  exact ⟨hs, hsteady.finiteDefaults, hsave, by rfl, (save_throughJson hs hsteady.finiteDefaults hsave).1⟩

end Value

end ChunkTree
