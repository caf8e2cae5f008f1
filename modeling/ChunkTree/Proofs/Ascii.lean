import ChunkTree.Binary.StoredText
import ChunkTree.Proofs.Except

/-!
# ASCII text takes a byte for each character

Every charset writes an ASCII character as one byte, if it writes it at all.  So the size of a text, which
is taken from the number of characters when they are all ASCII, is the number of bytes that writing it gives
(`StoredText.size_of_encode`).  Only in ISO-2022-JP there are ASCII characters that cannot be written, so only
there a text may have a size and no bytes (`StoredText.encode_of_size`), and only if it is ASCII
(`StoredText.size_agrees_iff`).
-/

namespace ChunkTree

namespace Text

/-- Characters that are written on their own and take a byte each. -/
theorem length_encodeEach {encodeChar : Char → Option (List UInt8)} {cs : List Char} {bytes : List UInt8}
    (hone : ∀ c ∈ cs, ∀ b, encodeChar c = some b → b.length = 1) (h : encodeEach encodeChar cs = some bytes) :
    bytes.length = cs.length := by
  induction cs generalizing bytes with
  | nil =>
    obtain rfl : [] = bytes := by simpa [encodeEach] using h
    rfl
  | cons c cs ih =>
    simp only [encodeEach] at h
    split at h
    · rename_i b rest hb hrest
      obtain rfl := Option.some.inj h
      rw [List.length_append, hone c List.mem_cons_self b hb,
        ih (fun d hd => hone d (List.mem_cons_of_mem c hd)) hrest, List.length_cons, Nat.add_comm]
    · simp at h

theorem Iso2022Jp.length_encodeFrom_ascii {cs : List Char} {bytes : List UInt8}
    (hcs : ∀ c ∈ cs, c.toNat < 0x80)
    (h : encodeFrom .ascii cs = some bytes) : bytes.length = cs.length := by
  induction cs generalizing bytes with
  | nil =>
    obtain rfl : [] = bytes := by simpa [encodeFrom] using h
    rfl
  | cons c cs ih =>
    have hc : c.toNat < 0x80 := hcs c List.mem_cons_self
    have hascii : encodeChar .ascii c =
        if isShift c.toNat then none else some (.ascii, [UInt8.ofNat c.toNat]) := by
      simp [encodeChar, hc]
    rw [encodeFrom, hascii] at h
    by_cases hshift : isShift c.toNat
    · simp [hshift] at h
    · simp only [hshift, Bool.false_eq_true, if_false, if_true, Option.map_eq_some_iff] at h
      obtain ⟨rest, hrest, rfl⟩ := h
      have := ih (fun d hd => hcs d (List.mem_cons_of_mem c hd)) hrest
      simp [this]

theorem Charset.length_encodeChars_ascii {charset : Charset} {cs : List Char} {bytes : List UInt8}
    (hcs : ∀ c ∈ cs, c.toNat < 0x80)
    (h : charset.encodeChars cs = some bytes) : bytes.length = cs.length := by
  cases charset with
  | iso2022Jp => exact Iso2022Jp.length_encodeFrom_ascii hcs h
  | utf8 | utf16be | utf16le | replacement =>
    refine length_encodeEach (fun c hc b hb => ?_) h
    obtain rfl := Option.some.inj hb
    have hlt := hcs c hc
    have hsize : c.utf8Size = 1 :=
      Char.utf8Size_eq_one_iff.2 (UInt32.le_iff_toNat_le.2 (Nat.le_of_lt_succ hlt))
    rw [String.length_utf8EncodeChar, hsize]
  | singleByte | gbk | gb18030 | big5 | eucKr | shiftJis | eucJp | userDefined =>
    refine length_encodeEach (fun c hc b hb => ?_) h
    have hlt := hcs c hc
    obtain rfl : [UInt8.ofNat c.toNat] = b := by
      simpa [hlt, Nat.le_of_lt hlt, CodePage.encodeChar, Gb18030.encodeChar, Big5.encodeChar,
        EucKr.encodeChar, ShiftJis.encodeChar, EucJp.encodeChar, UserDefined.encodeChar] using hb
    rfl

/-- Characters of which each can be written. -/
theorem exists_encodeEach {encodeChar : Char → Option (List UInt8)} {cs : List Char}
    (h : ∀ c ∈ cs, ∃ b, encodeChar c = some b) : ∃ bytes, encodeEach encodeChar cs = some bytes := by
  induction cs with
  | nil => exact ⟨[], rfl⟩
  | cons c cs ih =>
    obtain ⟨b, hb⟩ := h c List.mem_cons_self
    obtain ⟨rest, hrest⟩ := ih fun d hd => h d (List.mem_cons_of_mem c hd)
    exact ⟨b ++ rest, by rw [encodeEach, hb, hrest]⟩

/-- Characters that are written on their own can be written just if each of them can. -/
theorem exists_encodeEach_iff {encodeChar : Char → Option (List UInt8)} {cs : List Char} :
    (∃ bytes, encodeEach encodeChar cs = some bytes) ↔ ∀ c ∈ cs, ∃ b, encodeChar c = some b := by
  refine ⟨?_, exists_encodeEach⟩
  rintro ⟨bytes, h⟩
  induction cs generalizing bytes with
  | nil => simp
  | cons c cs ih =>
    rw [encodeEach] at h
    split at h
    · rename_i b rest hb hrest
      exact List.forall_mem_cons.2 ⟨⟨b, hb⟩, ih rest hrest⟩
    · cases h

/-- In ISO-2022-JP, ASCII text can be written if it holds no control that shifts. -/
theorem Iso2022Jp.exists_encodeFrom_ascii {cs : List Char} (hcs : ∀ c ∈ cs, c.toNat < 0x80)
    (hshift : ∀ c ∈ cs, isShift c.toNat = false) : ∃ bytes, encodeFrom .ascii cs = some bytes := by
  induction cs with
  | nil => exact ⟨[], rfl⟩
  | cons c cs ih =>
    obtain ⟨rest, hrest⟩ := ih (fun d hd => hcs d (List.mem_cons_of_mem c hd))
      fun d hd => hshift d (List.mem_cons_of_mem c hd)
    have hchar : encodeChar .ascii c = some (.ascii, [UInt8.ofNat c.toNat]) := by
      simp [encodeChar, hcs c List.mem_cons_self, hshift c List.mem_cons_self]
    exact ⟨_, by simp only [encodeFrom, hchar, hrest, Option.map_some]; rfl⟩

/-- In ISO-2022-JP, no text that can be written holds a control that shifts. -/
theorem Iso2022Jp.not_isShift_of_encodeFrom {mode : Mode} {cs : List Char} {bytes : List UInt8}
    (h : encodeFrom mode cs = some bytes) : ∀ c ∈ cs, isShift c.toNat = false := by
  induction cs generalizing mode bytes with
  | nil => simp
  | cons c cs ih =>
    rw [encodeFrom] at h
    split at h
    · rename_i next b hchar
      obtain ⟨rest, hrest, _⟩ := Option.map_eq_some_iff.1 h
      refine List.forall_mem_cons.2 ⟨?_, ih hrest⟩
      by_contra hshift
      have hlt : c.toNat < 0x80 := by
        simp only [isShift, Bool.not_eq_false, Bool.or_eq_true, beq_iff_eq] at hshift
        omega
      simp [encodeChar, hlt, hshift] at hchar
    · cases h

/-- ASCII text can be written, in ISO-2022-JP if it holds no control that shifts. -/
theorem Charset.exists_encodeChars_ascii {charset : Charset} {cs : List Char} (hcs : ∀ c ∈ cs, c.toNat < 0x80)
    (hshift : charset = .iso2022Jp → ∀ c ∈ cs, Iso2022Jp.isShift c.toNat = false) :
    ∃ bytes, charset.encodeChars cs = some bytes := by
  cases charset with
  | iso2022Jp => exact Iso2022Jp.exists_encodeFrom_ascii hcs (hshift rfl)
  | utf8 | utf16be | utf16le | replacement => exact exists_encodeEach fun c _ => ⟨_, rfl⟩
  | singleByte | gbk | gb18030 | big5 | eucKr | shiftJis | eucJp | userDefined =>
    refine exists_encodeEach fun c hc => ⟨[UInt8.ofNat c.toNat], ?_⟩
    have hlt := hcs c hc
    simp [hlt, Nat.le_of_lt hlt, CodePage.encodeChar, Gb18030.encodeChar, Big5.encodeChar, EucKr.encodeChar,
      ShiftJis.encodeChar, EucJp.encodeChar, UserDefined.encodeChar]

end Text

namespace StoredText

open Text (Charset)

theorem encode_eq_ok {charset : Charset} {text : String} {bytes : List UInt8} :
    encode charset text = .ok bytes ↔ charset.encode text = some bytes := by
  unfold encode
  split <;> simp_all

theorem encode_eq_error {charset : Charset} {text : String} {e : Error} :
    encode charset text = .error e ↔ charset.encode text = none ∧ .unencodable charset text = e := by
  unfold encode
  split <;> simp_all

theorem decode_eq_ok {charset : Charset} {text : String} {bytes : List UInt8} :
    decode charset bytes = .ok text ↔ charset.decode bytes = some text := by
  unfold decode
  split <;> simp_all

/-- The size of a text that can be written is the number of bytes that it is written with. -/
theorem size_of_encode {charset : Charset} {text : String} {bytes : List UInt8}
    (h : encode charset text = .ok bytes) : size charset text = .ok bytes.length := by
  unfold size
  split
  · rename_i hascii
    simp only [isAscii, List.all_eq_true, decide_eq_true_eq] at hascii
    have := Charset.length_encodeChars_ascii hascii (encode_eq_ok.1 h)
    rw [this, String.length_toList]
  · rw [h]
    rfl

theorem size_of_encode_error {charset : Charset} {text : String} {e : Error} (hascii : ¬isAscii text)
    (h : encode charset text = .error e) : size charset text = .error e := by
  rw [size, if_neg hascii, h]
  rfl

/-- Whether a text holds none of the controls that cannot be written in ISO-2022-JP. -/
def NoShift (text : String) : Prop :=
  ∀ c ∈ text.toList, Text.Iso2022Jp.isShift c.toNat = false

theorem noShift_of_encode {text : String} {bytes : List UInt8} (h : encode .iso2022Jp text = .ok bytes) :
    NoShift text :=
  Text.Iso2022Jp.not_isShift_of_encodeFrom (encode_eq_ok.1 h)

/-- A text that has a size can be written, in ISO-2022-JP if it holds no control that shifts. -/
theorem encode_of_size {charset : Charset} {text : String} {n : Nat} (h : size charset text = .ok n)
    (hshift : charset = .iso2022Jp → NoShift text) : ∃ bytes, encode charset text = .ok bytes := by
  unfold size at h
  split at h
  · rename_i hascii
    simp only [isAscii, List.all_eq_true, decide_eq_true_eq] at hascii
    obtain ⟨bytes, hbytes⟩ := Charset.exists_encodeChars_ascii hascii hshift
    exact ⟨bytes, encode_eq_ok.2 hbytes⟩
  · obtain ⟨bytes, hbytes, _⟩ := bind_eq_ok.1 h
    exact ⟨bytes, hbytes⟩

/-- Every text has a size just if it can be written, and then the size is the number of its bytes, in every
charset.  The only exception is ASCII text with a control that shifts, which in ISO-2022-JP has a size but cannot
be written. -/
theorem size_agrees_iff (charset : Charset) (text : String) :
    (∀ n, size charset text = .ok n ↔ ∃ bytes, encode charset text = .ok bytes ∧ bytes.length = n) ↔
      ¬(charset = .iso2022Jp ∧ isAscii text ∧ ¬NoShift text) := by
  constructor
  · rintro hagrees ⟨rfl, hascii, hshift⟩
    have hsize : size .iso2022Jp text = .ok text.length := by rw [size, if_pos hascii]
    obtain ⟨bytes, hbytes, _⟩ := (hagrees _).1 hsize
    exact hshift (noShift_of_encode hbytes)
  · intro hexcept n
    constructor
    · intro hsize
      obtain ⟨bytes, hbytes⟩ : ∃ bytes, encode charset text = .ok bytes := by
        by_cases hascii : isAscii text
        · exact encode_of_size hsize fun hiso => not_not.1 fun hshift => hexcept ⟨hiso, hascii, hshift⟩
        · rw [size, if_neg hascii] at hsize
          obtain ⟨bytes, hbytes, _⟩ := bind_eq_ok.1 hsize
          exact ⟨bytes, hbytes⟩
      have hlength := Except.ok.inj ((size_of_encode hbytes).symm.trans hsize)
      exact ⟨bytes, hbytes, hlength⟩
    · rintro ⟨bytes, hbytes, rfl⟩
      exact size_of_encode hbytes

/-- The escape has a size in ISO-2022-JP, but cannot be written. -/
theorem size_of_escape_without_bytes :
    size .iso2022Jp "\x1b" = .ok 1 ∧
      encode .iso2022Jp "\x1b" = .error (.unencodable .iso2022Jp "\x1b") :=
  ⟨rfl, rfl⟩

end StoredText

end ChunkTree
