import ChunkTree.Proofs.Mentions
import ChunkTree.Proofs.NormalSame
import ChunkTree.Proofs.Registered

/-!
# Saved values are decoded to their normal form

A value that was saved under a consistent schema is decoded to the normal form of that value, whether or not
it came from a file (`Value.save_faithful`).
-/

namespace ChunkTree

open Text (Charset)

namespace Value

variable {charset : Charset}

/-- Decoding what a value was saved as gives the normal form of the value. -/
theorem save_faithful {s : Schema} {v : Value} {bytes : List UInt8} (hs : s.Consistent)
    (htexts : ∀ t, v.Mentions t → StoredText.Survives charset t) (h : v.save charset s = .ok bytes)
    (hlen : bytes.length < 0x100000000) :
    ∃ w, (Chunk.ofBytes s bytes).toValue charset = .ok w ∧ w.same (v.normal s) := by
  have hvalue := toValue_of_save hs (fun t ht => survives_of_encodes htexts ht) h hlen 0
  exact ⟨v.normal s, hvalue, (Canonical.of_toValue hs hvalue).same_self hs⟩

/-- A title whose level is spelled by index and as a float, and whose health is written out though it is the
default. -/
theorem save_faithful_title :
    let s : Schema := ⟨Document.saveTitle⟩
    let v : Value := .object [("12", .float ⟨0x401c000000000000⟩), ("hero_name", .string "Alex"),
      ("hero_hp", .int 0)]
    s.Consistent ∧ (∀ t, v.Mentions t → StoredText.Survives .shiftJis t) ∧
      v.save .shiftJis s = .ok [11, 4, 65, 108, 101, 120, 12, 1, 7, 0] ∧
      v.normal s = .object [("hero_name", .string "Alex"), ("hero_level", .int 7), ("timestamp", .float ⟨0⟩),
        ("hero_hp", .int 0), ("face1_name", .string ""), ("face1_id", .int 0), ("face2_name", .string ""),
        ("face2_id", .int 0), ("face3_name", .string ""), ("face3_id", .int 0), ("face4_name", .string ""),
        ("face4_id", .int 0)] ∧
      ∃ w, (Chunk.ofBytes s [11, 4, 65, 108, 101, 120, 12, 1, 7, 0]).toValue .shiftJis = .ok w ∧
        w.same (v.normal s) := by
  intro s v
  have hs : s.Consistent := (Schema.consistent_of_check (show s.checkWithin 2 from by decide +kernel)).1
  have htexts : ∀ t, v.Mentions t → StoredText.Survives .shiftJis t := by
    intro t ht
    have hencode : Charset.shiftJis.encode "Alex" = some [65, 108, 101, 120] := by decide +kernel
    have hdecode : Charset.shiftJis.decode [65, 108, 101, 120] = some "Alex" := by decide +kernel
    obtain ⟨f, hf, ht⟩ := ht.of_object
    simp only [List.mem_cons, List.not_mem_nil, or_false] at hf
    rcases hf with rfl | rfl | rfl <;> cases ht
    intro bytes hbytes
    rwa [← Option.some.inj (hencode.symm.trans hbytes)]
  have hsave : v.save .shiftJis s = .ok [11, 4, 65, 108, 101, 120, 12, 1, 7, 0] := rfl
  exact ⟨hs, htexts, hsave, rfl, save_faithful hs htexts hsave (by decide)⟩

end Value

end ChunkTree
