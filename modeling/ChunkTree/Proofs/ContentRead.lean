import ChunkTree.Proofs.Content
import ChunkTree.Proofs.ViewNesting

/-!
# Content is read back

The value of a chunk without chunks of its own is the value of its content (`Chunk.valueBy_eq_ok_of_leaf`),
and what content is stored as is read as that content again, provided its texts survive being encoded
(`Content.read_of_bytes`).
-/

namespace ChunkTree

open Text (Charset)

variable {charset : Charset}

/-- Whether a text that can be encoded is decoded to itself. -/
def StoredText.Survives (charset : Charset) (text : String) : Prop :=
  ∀ bytes, charset.encode text = some bytes → charset.decode bytes = some text

namespace StoredText

theorem survives_empty (charset : Charset) : Survives charset "" := by
  have hencode : charset.encode "" = some [] := by
    cases charset <;> rfl
  have hdecode : charset.decode [] = some "" := by
    cases charset <;> rfl
  rintro bytes h
  obtain rfl := Option.some.inj (hencode.symm.trans h)
  exact hdecode

/-- A text that is read is decoded from the bytes that it takes. -/
theorem parse_eq_ok {n : Nat} {c c' : Cursor} {text : String} :
    parse charset n c = .ok text c' ↔
      ∃ bytes, Parse.bytes n c = .ok bytes c' ∧ charset.decode bytes = some text := by
  rw [parse, Parse.bind_eq_ok]
  constructor
  · rintro ⟨bytes, d, hbytes, h⟩
    cases hdecode : decode charset bytes with
    | error e =>
      simp only [hdecode] at h
      exact absurd h Parse.throw_ne_ok
    | ok t =>
      simp only [hdecode] at h
      obtain ⟨rfl, rfl⟩ := Parse.pure_eq_ok.1 h
      exact ⟨bytes, hbytes, decode_eq_ok.1 hdecode⟩
  · rintro ⟨bytes, hbytes, htext⟩
    refine ⟨bytes, c', hbytes, ?_⟩
    rw [decode_eq_ok.2 htext]
    rfl

theorem takes_parse {text : String} {bytes : List UInt8} (hs : Survives charset text)
    (h : encode charset text = .ok bytes) (pos : Nat) :
    (parse charset bytes.length).Takes pos bytes text :=
  fun rest => parse_eq_ok.2 ⟨bytes, Parse.takes_bytes pos bytes rest, hs bytes (encode_eq_ok.1 h)⟩

theorem takes_parseSized {text : String} {bytes : List UInt8} (hs : Survives charset text)
    (h : encode charset text = .ok bytes) (hlen : bytes.length < 0x100000000) (pos : Nat) :
    (parseSized charset).Takes pos (Varint.encodeLength bytes.length ++ bytes) text :=
  (Varint.takes_parseLength pos hlen).bind (takes_parse hs h _)

end StoredText

theorem Varint.length_le_flatMap_encodeSigned (ns : List Int32) : ns.length ≤ (ns.flatMap encodeSigned).length :=
  length_le_length_flatMap fun n _ => encode_ne_nil n.toUInt32

/-- A list of varints is read back varint by varint. -/
theorem Varint.parse_of_flatMap (ns : List Int32) (pos : Nat) :
    Parse.all parseSigned ⟨pos, ns.flatMap encodeSigned⟩ = .ok ns ⟨pos + (ns.flatMap encodeSigned).length, []⟩ := by
  have hparts : List.Forall₂ (fun n part => ∀ pos, parseSigned.Takes pos part n) ns (ns.map encodeSigned) :=
    List.forall₂_map_right_iff.2 (List.forall₂_same.2 fun n _ pos => takes_parseSigned pos n)
  exact List.flatMap_def ▸ Parse.all_of_takes moves_parseSigned hparts pos

/-- Whether the lengths of the text and of the arguments of a command fit in a word. -/
def Command.Countable (charset : Charset) (c : Command) : Prop :=
  (∀ bytes, StoredText.encode charset c.text = .ok bytes → bytes.length < 0x100000000) ∧
    c.args.length < 0x100000000

theorem Command.takes_parse {c : Command} {bytes : List UInt8} (hs : StoredText.Survives charset c.text)
    (hcount : c.Countable charset) (h : c.encode charset = .ok bytes) (pos : Nat) :
    (parse charset).Takes pos bytes c := by
  obtain ⟨b, hb, rfl⟩ := encode_eq_ok.1 h
  have hargs := Varint.length_le_flatMap_encodeSigned c.args
  have hreplicate := fun pos =>
    Parse.takes_replicate c.args pos fun n _ pos => Varint.takes_parseSigned pos n
  have htext := fun pos => StoredText.takes_parseSized hs hb (hcount.1 b hb) pos
  have hlength := fun pos => Varint.takes_parseLength pos hcount.2
  simp only [List.append_assoc]
  refine (Varint.takes_parse _ _).bind ((Varint.takes_parse _ _).bind ?_)
  rw [← List.append_assoc (Varint.encodeLength b.length)]
  exact (htext _).bind ((hlength _).bind (Parse.takes_atMostRemaining_bind hargs
    ((hreplicate _).map fun args => (⟨c.code, c.nest, c.text, args⟩ : Command))))

/-- A command of less than `2 ^ 32` bytes has no longer text and no more arguments. -/
theorem Command.countable_of_encode {c : Command} {bytes : List UInt8} (h : c.encode charset = .ok bytes)
    (hlen : bytes.length < 0x100000000) : c.Countable charset := by
  obtain ⟨b, hb, rfl⟩ := encode_eq_ok.1 h
  have hargs := Varint.length_le_flatMap_encodeSigned c.args
  simp only [List.length_append] at hlen
  refine ⟨fun bytes hbytes => ?_, by omega⟩
  obtain rfl := Except.ok.inj (hb.symm.trans hbytes)
  omega

/-- A script is read back command by command. -/
theorem Script.parse_of_encode {commands : List Command} {bytes : List UInt8}
    (hs : ∀ c ∈ commands, StoredText.Survives charset c.text) (hcount : ∀ c ∈ commands, c.Countable charset)
    (h : encode charset commands = .ok bytes) (pos : Nat) :
    parse charset ⟨pos, bytes⟩ = .ok commands ⟨pos + bytes.length, []⟩ := by
  obtain ⟨parts, hparts, rfl⟩ := encode_eq_ok.1 h
  refine Parse.all_of_takes (Command.moves_parse charset) (forall₂_imp_mem hparts fun c hc part _ hpart => ?_) pos
  exact Command.takes_parse (hs c hc) (hcount c hc) hpart

/-- The commands of a script of less than `2 ^ 32` bytes have no longer texts and no more arguments. -/
theorem Script.countable_of_encode {commands : List Command} {bytes : List UInt8}
    (h : encode charset commands = .ok bytes) (hlen : bytes.length < 0x100000000) :
    ∀ c ∈ commands, c.Countable charset := by
  intro c hc
  obtain ⟨parts, hparts, rfl⟩ := encode_eq_ok.1 h
  obtain ⟨part, hmem, hpart⟩ := exists_right_of_forall₂ hparts hc
  have hle := (List.sublist_flatten_of_mem hmem).length_le
  exact Command.countable_of_encode hpart (hle.trans_lt hlen)

theorem MapTree.takes_parse {t : MapTree} (hlen : t.nodes.length < 0x100000000) (pos : Nat) :
    parse.Takes pos t.encode t := by
  have hnodes : t.nodes.length ≤ (t.nodes.flatMap Varint.encode ++ Varint.encode t.active).length := by
    rw [List.length_append, Varint.length_flatMap_encode]
    exact Nat.le_add_right_of_le (Varint.length_le_totalSize t.nodes)
  rw [encode, List.append_assoc]
  refine (Varint.takes_parseLength pos hlen).bind (Parse.takes_atMostRemaining_bind hnodes ?_)
  refine (Parse.takes_replicate t.nodes _ fun v _ pos => Varint.takes_parse pos v).bind ?_
  exact (Varint.takes_parse _ _).map fun active => (⟨t.nodes, active⟩ : MapTree)

theorem MapTree.length_nodes_le (t : MapTree) : t.nodes.length ≤ t.encode.length := by
  have := Varint.length_le_totalSize t.nodes
  rw [length_encode, byteSize]
  omega

theorem Parse.length_of_replicate {α : Type} {p : Parse α} {n : Nat} {c c' : Cursor} {xs : List α}
    (h : replicate p n c = .ok xs c') : xs.length = n := by
  induction n generalizing c c' xs with
  | zero =>
    obtain ⟨rfl, _⟩ := Parse.pure_eq_ok.1 h
    rfl
  | succ n ih =>
    obtain ⟨x, d, _, h⟩ := Parse.bind_eq_ok.1 h
    obtain ⟨rest, d', hrest, h⟩ := Parse.bind_eq_ok.1 h
    obtain ⟨rfl, _⟩ := Parse.pure_eq_ok.1 h
    rw [List.length_cons, ih hrest]

theorem MapTree.length_nodes_of_parse {t : MapTree} {c c' : Cursor} (h : parse c = .ok t c') :
    t.nodes.length < 0x100000000 := by
  obtain ⟨count, _, hcount, h⟩ := Parse.bind_eq_ok.1 h
  obtain ⟨word, _, rfl⟩ := Varint.parseLength_eq_ok.1 hcount
  obtain ⟨_, _, _, h⟩ := Parse.bind_eq_ok.1 h
  obtain ⟨nodes, _, hnodes, h⟩ := Parse.bind_eq_ok.1 h
  obtain ⟨active, _, _, h⟩ := Parse.bind_eq_ok.1 h
  obtain ⟨rfl, _⟩ := Parse.pure_eq_ok.1 h
  show nodes.length < _
  rw [Parse.length_of_replicate hnodes]
  exact word.toNat_lt

/-! ## Chunks with content -/

namespace Content

/-- The content of a kind that a chunk holds. -/
def read (charset : Charset) (kind : Kind) (c : Chunk) : Except Error Content :=
  match kind with
  | .integer => return .integer (← c.integer)
  | .bool => return .bool (← c.bool)
  | .float => return .float (← c.float)
  | .string => return .string (← c.string charset)
  | .script => return .script (← c.script charset)
  | .int8s => return .int8s (← c.int8s).toList
  | .int16s => return .int16s (← c.int16s).toList
  | .int32s => return .int32s (← c.int32s).toList
  | .varints => return .varints (← c.varints)
  | .mapTree => return .mapTree (← c.mapTree)
  | .record | .table => .error (.typeMismatch c.label kind.name)

theorem kind_of_read {kind : Kind} {c : Chunk} {content : Content} (h : read charset kind c = .ok content) :
    content.kind = kind := by
  cases kind with
  | record | table => cases h
  | _ =>
    obtain ⟨x, _, hx⟩ := bind_eq_ok.1 h
    rw [← pure_eq_ok.1 hx]
    rfl

theorem fits_of_intArray {c : Chunk} {kind : Kind} {width : Nat} {a : IntArray}
    (h : c.intArray kind width = .ok a) : ∀ n ∈ a.toList, LittleEndian.fits width n := by
  obtain ⟨_, _, h⟩ := bind_eq_ok.1 h
  obtain ⟨p, _, h⟩ := bind_eq_ok.1 h
  split at h
  · obtain ⟨_, h, _⟩ := bind_eq_ok.1 h
    exact absurd h throw_ne_ok
  · rename_i hlen
    obtain rfl := pure_eq_ok.1 h
    exact fun n hn => IntArray.fits_of_mem_toList (not_not.1 hlen) hn

theorem fits_of_read {kind : Kind} {c : Chunk} {content : Content} (h : read charset kind c = .ok content) :
    content.Fits := by
  cases kind with
  | record | table => cases h
  | int8s | int16s | int32s =>
    obtain ⟨a, ha, h⟩ := bind_eq_ok.1 h
    rw [← pure_eq_ok.1 h]
    exact fits_of_intArray ha
  | _ =>
    obtain ⟨x, _, hx⟩ := bind_eq_ok.1 h
    rw [← pure_eq_ok.1 hx]
    trivial

/-- Whether the items of content can be counted in a word where they have to be. -/
def Counted : Content → Prop
  | mapTree t => t.nodes.length < 0x100000000
  | _ => True

theorem counted_of_read {kind : Kind} {c : Chunk} {content : Content}
    (h : read charset kind c = .ok content) :
    content.Counted := by
  cases kind with
  | record | table => cases h
  | mapTree =>
    obtain ⟨t, ht, h⟩ := bind_eq_ok.1 h
    rw [← pure_eq_ok.1 h]
    obtain ⟨_, _, ht⟩ := bind_eq_ok.1 ht
    obtain ⟨p, _, ht⟩ := bind_eq_ok.1 ht
    obtain ⟨c', hparse, _⟩ := Payload.decode_eq_ok.1 ht
    exact MapTree.length_nodes_of_parse hparse
  | _ =>
    obtain ⟨x, _, hx⟩ := bind_eq_ok.1 h
    rw [← pure_eq_ok.1 hx]
    trivial

end Content

namespace Chunk

theorem kind_eq_ok {s : Schema} {p : Option Payload} {kind : Kind} :
    (Chunk.mk (some s) p).kind = .ok kind ↔ ∃ target, s.resolve = .ok (kind, target) := by
  show s.resolve.map Prod.fst = _ ↔ _
  cases s.resolve with
  | error e => simp [Except.map]
  | ok r =>
    obtain ⟨k, target⟩ := r
    simp [Except.map]

/-- The value of a chunk without chunks of its own is that of its content. -/
theorem valueBy_of_leaf {s : Schema} {p : Option Payload} {kind : Kind} {f : Chunk → Except Error Value}
    (hkind : (Chunk.mk (some s) p).kind = .ok kind) (hleaf : kind.isComposite = false) :
    (Chunk.mk (some s) p).valueBy charset f =
      do return (← Content.read charset kind (Chunk.mk (some s) p)).toValue := by
  unfold valueBy
  rw [hkind]
  cases kind with
  | record | table => cases hleaf
  | int8s | int16s | int32s =>
    simp only [Content.read, bind_assoc, pure_bind, ok_bind, Content.toValue]
    rfl
  | _ =>
    simp only [Content.read, bind_assoc, pure_bind, ok_bind, Content.toValue]
    rfl

theorem valueBy_eq_ok_of_leaf {s : Schema} {p : Option Payload} {kind : Kind} {f : Chunk → Except Error Value}
    {w : Value} (hkind : (Chunk.mk (some s) p).kind = .ok kind) (hleaf : kind.isComposite = false) :
    (Chunk.mk (some s) p).valueBy charset f = .ok w ↔
      ∃ content, Content.read charset kind (Chunk.mk (some s) p) = .ok content ∧ content.toValue = w := by
  rw [valueBy_of_leaf hkind hleaf, bind_eq_ok]
  simp only [pure_eq_ok]

end Chunk

theorem Payload.decode_of_takes {α : Type} {parse : Parse α} {pos : Nat} {bytes : List UInt8} {x : α}
    (h : parse.Takes pos bytes x) : (Payload.mk pos bytes).decode parse = .ok x := by
  have := h []
  rw [List.append_nil] at this
  exact Payload.decode_eq_ok.2 ⟨_, this, rfl⟩

theorem Parse.bytes_all (pos : Nat) (bytes : List UInt8) :
    Parse.bytes bytes.length ⟨pos, bytes⟩ = .ok bytes ⟨pos + bytes.length, []⟩ := by
  have := Parse.takes_bytes pos bytes []
  rwa [List.append_nil] at this

namespace Content

variable {s : Schema} {pos : Nat} {bytes : List UInt8}

theorem expect_of_kind {c : Chunk} {kind : Kind} (h : c.kind = .ok kind) : c.expect kind = .ok () := by
  rw [Chunk.expect, h, ok_bind, if_neg (not_not.2 rfl)]
  rfl

theorem scalar_of_decode {α : Type} {kind : Kind} {parse : Parse α} {ofDefault : Value → Option α} {x : α}
    (hkind : (Chunk.mk (some s) (some ⟨pos, bytes⟩)).kind = .ok kind)
    (h : (Payload.mk pos bytes).decode parse = .ok x) :
    (Chunk.mk (some s) (some ⟨pos, bytes⟩)).scalar kind parse ofDefault = .ok x := by
  rw [Chunk.scalar, expect_of_kind hkind, ok_bind]
  exact h

theorem content_of_decode {α : Type} {kind : Kind} {parse : Parse α} {x : α}
    (hkind : (Chunk.mk (some s) (some ⟨pos, bytes⟩)).kind = .ok kind)
    (h : (Payload.mk pos bytes).decode parse = .ok x) :
    (Chunk.mk (some s) (some ⟨pos, bytes⟩)).content kind parse = .ok x := by
  rw [Chunk.content, expect_of_kind hkind, ok_bind]
  exact h

theorem intArray_of_encode {kind : Kind} {width : Nat} {ns : List Int} (hw : 0 < width)
    (hkind : (Chunk.mk (some s) (some ⟨pos, IntArray.encode width ns⟩)).kind = .ok kind)
    (h : ∀ n ∈ ns, LittleEndian.fits width n) :
    ∃ a, (Chunk.mk (some s) (some ⟨pos, IntArray.encode width ns⟩)).intArray kind width = .ok a ∧
      a.toList = ns := by
  refine ⟨⟨width, IntArray.encode width ns⟩, ?_, IntArray.toList_encode hw h⟩
  have hlen : ¬(IntArray.encode width ns).length % width ≠ 0 := by
    rw [IntArray.length_encode, Nat.mul_mod_left]
    exact not_not.2 rfl
  rw [Chunk.intArray, expect_of_kind hkind, ok_bind, Chunk.present, ok_bind, if_neg hlen]
  rfl

/-- What content is stored as is read as that content. -/
theorem read_of_bytes {c : Content} (hfits : c.Fits) (hs : ∀ t ∈ c.texts, StoredText.Survives charset t)
    (h : c.bytes charset = .ok bytes) (hlen : bytes.length < 0x100000000)
    (hkind : (Chunk.mk (some s) (some ⟨pos, bytes⟩)).kind = .ok c.kind) :
    read charset c.kind ⟨some s, some ⟨pos, bytes⟩⟩ = .ok c := by
  cases c with
  | integer n =>
    obtain rfl := Except.ok.inj h
    exact bind_eq_ok.2 ⟨n, scalar_of_decode hkind
      (Payload.decode_of_takes (Varint.takes_parseSigned pos n)), rfl⟩
  | bool b =>
    obtain rfl := Except.ok.inj h
    have htakes := (Varint.takes_parse pos (if b then 1 else 0)).map (· != 0)
    have hb : ((if b then 1 else 0 : UInt32) != 0) = b := by cases b <;> rfl
    rw [hb] at htakes
    exact bind_eq_ok.2 ⟨b, scalar_of_decode hkind (Payload.decode_of_takes htakes), rfl⟩
  | float x =>
    obtain rfl := Except.ok.inj h
    have hbytes := Parse.takes_bytes pos (LittleEndian.digits 8 x.bits.toNat)
    rw [LittleEndian.length_digits] at hbytes
    have htakes := hbytes.map fun bytes => (⟨UInt64.ofNat (LittleEndian.value bytes)⟩ : Binary64)
    have hx : UInt64.ofNat (LittleEndian.value (LittleEndian.digits 8 x.bits.toNat)) = x.bits := by
      have hlt : x.bits.toNat < 256 ^ 8 := x.bits.toNat_lt
      rw [LittleEndian.value_digits, Nat.mod_eq_of_lt hlt, UInt64.ofNat_toNat]
    rw [hx] at htakes
    exact bind_eq_ok.2 ⟨x, scalar_of_decode hkind (Payload.decode_of_takes htakes), rfl⟩
  | string t =>
    have hdecode := StoredText.decode_eq_ok.2 (hs t List.mem_cons_self bytes (StoredText.encode_eq_ok.1 h))
    have hparse : (Payload.mk pos bytes).decode (StoredText.parseRest charset) = .ok t := by
      refine Payload.decode_eq_ok.2 ⟨⟨pos + bytes.length, []⟩, ?_, rfl⟩
      refine Parse.bind_eq_ok.2 ⟨bytes, _, Parse.bytes_all pos bytes, ?_⟩
      rw [hdecode]
      rfl
    exact bind_eq_ok.2 ⟨t, scalar_of_decode hkind hparse, rfl⟩
  | script commands =>
    have hparse := Script.parse_of_encode (fun c hc => hs c.text (List.mem_map_of_mem hc))
      (Script.countable_of_encode h hlen) h pos
    exact bind_eq_ok.2 ⟨commands, content_of_decode hkind (Payload.decode_eq_ok.2 ⟨_, hparse, rfl⟩), rfl⟩
  | int8s ns | int16s ns | int32s ns =>
    obtain rfl := Except.ok.inj h
    obtain ⟨a, ha, hns⟩ := intArray_of_encode (by decide) hkind hfits
    exact bind_eq_ok.2 ⟨a, ha, by rw [hns]; rfl⟩
  | varints ns =>
    obtain rfl := Except.ok.inj h
    have hparse := Varint.parse_of_flatMap ns pos
    exact bind_eq_ok.2 ⟨ns, content_of_decode hkind (Payload.decode_eq_ok.2 ⟨_, hparse, rfl⟩), rfl⟩
  | mapTree t =>
    obtain rfl := Except.ok.inj h
    have hnodes := t.length_nodes_le.trans_lt hlen
    exact bind_eq_ok.2 ⟨t, content_of_decode hkind
      (Payload.decode_of_takes (MapTree.takes_parse hnodes pos)), rfl⟩

end Content

end ChunkTree
