import ChunkTree.Proofs.Likeness
import ChunkTree.Proofs.NonFiniteText
import ChunkTree.Value.Json

/-!
# Values that go through JSON

A value that is turned into a JSON tree and back keeps its shape, and every float that is not finite becomes its
text (`Value.throughJson_nonFinite`).  So whatever was at a place is there afterwards, converted
(`Value.at?_throughJson`), and unchanged if all floats in it are finite (`Value.throughJson_of_allFinite`).  As
the text of such a float is read as that float, the value passes for what it was before
(`Value.likeness_throughJson`).
-/

namespace ChunkTree

open Save (SameKey Likeness)

/-- An integer that is turned into a number of a JSON tree is found again. -/
theorem Json.Number.toValue_ofInt (n : Int64) : (ofInt n).toValue = .int n := by
  unfold ofInt
  split
  · rfl
  · rename_i h
    have hnonneg : n.toUInt64.toNat = n.toInt.toNat := Int64.toNat_toUInt64_of_le (Int64.not_lt.1 h)
    have hlt := n.toInt_lt
    rw [toValue, asInt, if_pos (by omega)]
    exact congrArg Value.int (Int64.toInt64_toUInt64 n)

namespace Value

variable {v : Value}

/-! ## Each form of value -/

theorem throughJson_int (n : Int64) : (int n).throughJson = int n :=
  Json.Number.toValue_ofInt n

theorem throughJson_finite {x : Binary64} (h : x.isFinite) : (float x).throughJson = float x := by
  rw [throughJson, toJson, Json.Number.ofFloat?, dif_pos h]
  rfl

theorem throughJson_nonFinite {x : Binary64} (h : x.isFinite = false) :
    (float x).throughJson = string (NonFinite.text x) := by
  rw [throughJson, toJson, Json.Number.ofFloat?, dif_neg (by rw [h]; exact Bool.false_ne_true)]
  rfl

theorem throughJson_array (items : List Value) : (array items).throughJson = array (items.map throughJson) := by
  refine congrArg array ?_
  induction items with
  | nil => rfl
  | cons v items ih => exact congrArg (v.throughJson :: ·) ih

theorem throughJson_object (fields : Fields) :
    (object fields).throughJson = object (fields.map fun f => (f.1, f.2.throughJson)) := by
  refine congrArg object ?_
  induction fields with
  | nil => rfl
  | cons f fields ih => exact congrArg ((f.1, f.2.throughJson) :: ·) ih

/-! ## Parts -/

theorem asArray_throughJson (v : Value) : v.throughJson.asArray = v.asArray.map (List.map throughJson) := by
  cases v with
  | float x =>
    cases h : x.isFinite with
    | true => rw [throughJson_finite h]; rfl
    | false => rw [throughJson_nonFinite h]; rfl
  | int n => rw [throughJson_int]; rfl
  | array items => rw [throughJson_array]; rfl
  | _ => rfl

theorem asObject_throughJson (v : Value) :
    v.throughJson.asObject = v.asObject.map (List.map fun f => (f.1, f.2.throughJson)) := by
  cases v with
  | float x =>
    cases h : x.isFinite with
    | true => rw [throughJson_finite h]; rfl
    | false => rw [throughJson_nonFinite h]; rfl
  | int n => rw [throughJson_int]; rfl
  | object fields => rw [throughJson_object]; rfl
  | _ => rfl

theorem get?_throughJson (v : Value) (key : String) :
    v.throughJson.get? key = (v.get? key).map throughJson := by
  unfold get?
  rw [asObject_throughJson]
  cases v.asObject with
  | none => rfl
  | some fields =>
    rw [Option.map_some, Option.bind_some, Option.bind_some]
    induction fields with
    | nil => rfl
    | cons f fields ih =>
      rw [List.map_cons, List.lookup_cons, List.lookup_cons]
      cases key == f.1 with
      | true => rfl
      | false => exact ih

/-- A step from a value to one that it holds. -/
inductive Step where
  | key (k : String)
  | position (n : Nat)

/-- What a value holds at the end of some steps. -/
def at? (v : Value) : List Step → Option Value
  | [] => some v
  | .key k :: path => (v.get? k).bind fun x => x.at? path
  | .position n :: path => ((v.asArray.getD [])[n]?).bind fun x => x.at? path

/-- What is at a place is there afterwards, converted. -/
theorem at?_throughJson (v : Value) (path : List Step) :
    v.throughJson.at? path = (v.at? path).map throughJson := by
  induction path generalizing v with
  | nil => rfl
  | cons step path ih =>
    cases step with
    | key k =>
      rw [at?, at?, get?_throughJson]
      cases v.get? k with
      | none => rfl
      | some x => exact ih x
    | position n =>
      have hitems : v.throughJson.asArray.getD [] = (v.asArray.getD []).map throughJson := by
        rw [asArray_throughJson]
        cases v.asArray <;> rfl
      rw [at?, at?, hitems, List.getElem?_map]
      cases (v.asArray.getD [])[n]? with
      | none => rfl
      | some x => exact ih x

mutual

/-- Whether every float in a value is finite. -/
def allFinite : Value → Bool
  | float x => x.isFinite
  | array items => itemsFinite items
  | object fields => fieldsFinite fields
  | _ => true

def itemsFinite : List Value → Bool
  | [] => true
  | v :: items => v.allFinite && itemsFinite items

def fieldsFinite : Fields → Bool
  | [] => true
  | (_, v) :: fields => v.allFinite && fieldsFinite fields

end

mutual

/-- A value in which every float is finite comes back as it was. -/
theorem throughJson_of_allFinite : (v : Value) → v.allFinite → v.throughJson = v
  | null, _ | bool _, _ | string _, _ => rfl
  | int n, _ => throughJson_int n
  | float _, h => throughJson_finite h
  | array items, h => by rw [throughJson_array, map_throughJson_of_itemsFinite items h]
  | object fields, h => by rw [throughJson_object, map_throughJson_of_fieldsFinite fields h]

theorem map_throughJson_of_itemsFinite : (items : List Value) → itemsFinite items →
    items.map throughJson = items
  | [], _ => rfl
  | v :: items, h => by
    obtain ⟨hv, hitems⟩ := Bool.and_eq_true_iff.1 h
    rw [List.map_cons, throughJson_of_allFinite v hv, map_throughJson_of_itemsFinite items hitems]

theorem map_throughJson_of_fieldsFinite : (fields : Fields) → fieldsFinite fields →
    (fields.map fun f => (f.1, f.2.throughJson)) = fields
  | [], _ => rfl
  | (k, v) :: fields, h => by
    obtain ⟨hv, hfields⟩ := Bool.and_eq_true_iff.1 h
    rw [List.map_cons, throughJson_of_allFinite v hv, map_throughJson_of_fieldsFinite fields hfields]

end

/-! ## What is asked of a value -/

theorem asInt_throughJson {n : Int64} (h : v.asInt = some n) : v.throughJson.asInt = some n := by
  cases v with
  | int m => rw [throughJson_int, h]
  | float x =>
    -- a whole number is finite
    have hfinite : x.isFinite := by
      rw [asInt, Binary64.toInt?] at h
      by_contra hinfinite
      simp only [hinfinite, false_and, if_false] at h
      cases h
    rw [throughJson_finite hfinite, h]
  | _ => cases h

theorem float_throughJson {field : String} {x : Binary64} (h : Save.float field v = .ok x) :
    Save.float field v.throughJson = .ok x := by
  cases v with
  | int n => rw [throughJson_int, h]
  | float y =>
    obtain rfl : y = x := Except.ok.inj h
    cases hy : y.isFinite with
    | true => rw [throughJson_finite hy, h]
    | false =>
      rw [throughJson_nonFinite hy, Save.float]
      simp only [asFloat, asString, Option.bind_some, NonFinite.ofText?_text hy]
  | string s => exact h
  | _ => cases h

/-- A value passes for what it was before it went through JSON. -/
theorem likeness_throughJson : Likeness fun v w => w = v.throughJson where
  asInt := by
    rintro v _ n rfl h
    exact asInt_throughJson h
  asBool := by
    rintro v _ b rfl h
    cases v <;> cases h
    rfl
  asString := by
    rintro v _ s rfl h
    cases v <;> cases h
    rfl
  float := by
    rintro field v _ x rfl h
    exact float_throughJson h
  asArray := by
    rintro v _ rfl
    rw [asArray_throughJson]
    cases v.asArray with
    | none => exact .inl ⟨rfl, rfl⟩
    | some xs => exact .inr ⟨xs, _, rfl, rfl, List.forall₂_map_right_iff.2 (List.forall₂_same.2 fun _ _ => rfl)⟩
  asObject := by
    rintro v _ rfl
    rw [asObject_throughJson]
    cases v.asObject with
    | none => exact .inl ⟨rfl, rfl⟩
    | some fs =>
      exact .inr ⟨fs, fs, _, rfl, rfl, .refl _,
        List.forall₂_map_right_iff.2 (List.forall₂_same.2 fun _ _ => ⟨rfl, rfl⟩)⟩
  get? := by
    rintro v _ key rfl
    rw [get?_throughJson]
    cases v.get? key with
    | none => exact .inl ⟨rfl, rfl⟩
    | some x => exact .inr ⟨x, _, rfl, rfl, rfl⟩

end Value

end ChunkTree
