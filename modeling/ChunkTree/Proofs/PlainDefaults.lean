import ChunkTree.Proofs.Layout
import ChunkTree.Proofs.Normal
import ChunkTree.Proofs.Registered
import ChunkTree.Proofs.WholeFloats

/-!
# What is no default stays none

Where defaults are written plainly, a value that differs from the default of its field still does in its
normal form (`Value.isDefault_normal`).  Only numbers change: a whole float that becomes an integer equals
that integer, and the text of a float that is not finite becomes one that no plain default equals.
-/

namespace ChunkTree

open Save (isDefault)

namespace Kind

variable {field : String} {default v : Value} {c : Content}

theorem same_integer {n : Int64} {m : Int32} (h : Save.int32 field v = .ok m)
    (hne : (Value.int n).same v = false) :
    (Value.int n).same (.ofInt32 m) = false := by
  obtain ⟨k, hk, hkm⟩ := Save.int32_eq_ok.1 h
  obtain rfl : k = m.toInt64 := Int64.toInt_inj.1 (hkm.trans m.toInt_toInt64.symm)
  cases v with
  | int k' =>
    obtain rfl : k' = m.toInt64 := Option.some.inj hk
    exact hne
  | float x =>
    rw [Value.asInt] at hk
    split at hk
    · rename_i j hj
      split at hk
      · rename_i hsmall
        have hjm := Option.some.inj hk
        refine beq_eq_false_iff_ne.2 fun heq => ?_
        have hn : n.toInt = j := by
          rw [heq, ← hjm, Int64.toInt_ofInt_of_le (by omega) (by omega)]
        rw [Value.same, hn, Binary64.eq_of_toInt? hj] at hne
        cases hne
      · cases hk
    · cases hk
  | _ => cases hk

theorem same_float {x y : Binary64} (hx : x.isFinite) (h : Save.float field v = .ok y)
    (hne : (Value.float x).same v = false) : (Value.float x).same (.float y) = false := by
  unfold Save.float at h
  have hnan : x.isNaN = false := Binary64.not_isNaN_of_isFinite hx
  cases v with
  | int n =>
    obtain rfl : Binary64.ofInt n.toInt = y := Except.ok.inj h
    rw [Value.same, Binary64.eq_comm] at hne
    rw [Value.same, Value.sameFloat, hne, hnan]
    rfl
  | float y' =>
    obtain rfl : y' = y := Except.ok.inj h
    exact hne
  | string s =>
    simp only [Value.asFloat, Value.asString, Option.bind_some] at h
    split at h
    · rename_i hy
      cases hy
    · rename_i z hz
      obtain rfl := Except.ok.inj h
      rw [Value.same, Value.sameFloat, Binary64.eq_of_not_finite hx (NonFinite.isFinite_of_ofText? hz), hnan]
      rfl
    · cases h
  | _ => cases h

/-- The value of content equals a plain default only if the value that it was taken from does. -/
theorem same_of_admitsPlainly {kind : Kind} (hplain : kind.admitsPlainly default)
    (h : Content.ofValue kind field v = .ok c) (hne : default.same v = false) :
    default.same c.toValue = false := by
  cases kind with
  | integer =>
    obtain ⟨m, hm, h⟩ := bind_eq_ok.1 h
    obtain rfl := pure_eq_ok.1 h
    cases default with
    | int n => exact same_integer hm hne
    | _ => cases hplain
  | float =>
    obtain ⟨y, hy, h⟩ := bind_eq_ok.1 h
    obtain rfl := pure_eq_ok.1 h
    cases default with
    | float x => exact same_float hplain hy hne
    | _ => cases hplain
  | bool =>
    obtain ⟨b, hb, h⟩ := bind_eq_ok.1 h
    obtain rfl := pure_eq_ok.1 h
    rwa [Save.bool_eq_ok.1 hb] at hne
  | string =>
    obtain ⟨s, hs, h⟩ := bind_eq_ok.1 h
    obtain rfl := pure_eq_ok.1 h
    rwa [Save.string_eq_ok.1 hs] at hne
  | _ => cases default <;> cases hplain

end Kind

/-- A value that is saved for a field because it differs from the default does so in its normal form. -/
theorem Value.isDefault_normal {charset : Text.Charset} {u : Schema} {v : Value} {bytes : List UInt8}
    (hplain : ∀ default, u.default? = some default →
      ∃ kind target, u.resolve = .ok (kind, target) ∧ kind.admitsPlainly default)
    (h : v.save charset u = .ok bytes) (hne : isDefault (some u) v = false) :
    isDefault (some u) (v.normal u) = false := by
  rw [Save.isDefault_eq, Option.bind_some] at hne ⊢
  cases hdefault : u.default? with
  | none => rfl
  | some default =>
    rw [hdefault, Option.any_some] at hne
    rw [Option.any_some]
    obtain ⟨kind, target, hkind, hadmits⟩ := hplain default hdefault
    have hleaf := Kind.isComposite_of_admits (Kind.admits_of_admitsPlainly hadmits)
    rw [save_of_leaf hkind hleaf] at h
    obtain ⟨c, hc, _⟩ := (Save.contentBytes_eq_ok hleaf).1 h
    rw [normal_of_leaf hkind hleaf, normalContent_of_ofValue hc]
    exact Kind.same_of_admitsPlainly hadmits hc hne

end ChunkTree
