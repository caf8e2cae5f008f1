import ChunkTree.Proofs.Forward
import ChunkTree.Proofs.VarintForms
import ChunkTree.View.Operation

/-!
# Runs of a reader

An operation of a fixed size asks for a slice of the buffer.  It gets the slice and moves behind it, or it stays
and says how much is missing (`Reader.slice_of_fits`, `Reader.slice_of_short`).  Varints and texts are read piece
by piece, but whether they succeed or fail the reader moves forward and not out of the buffer
(`Parse.Forward.run`).  So the only way to a slice outside of the buffer is an empty one at a position that was
sought (`Reader.steps_accounted`).
-/

namespace ChunkTree

open Text (Charset)

variable {α β : Type} {r : Reader} {n : Nat}

namespace Parse

/-- A parser moves the reader forward, and not out of the buffer if it was within. -/
theorem Forward.run {p : Parse α} (hp : p.Forward) (r : Reader) :
    (r.run p).2.data = r.data ∧ r.pos ≤ (r.run p).2.pos ∧
      (r.pos ≤ r.data.length → (r.run p).2.pos ≤ r.data.length) := by
  have hrun : (r.run p).2 = r.seek (p.final r.cursor).pos := by
    rw [Reader.run, final]
    cases p r.cursor <;> rfl
  have hpos : r.cursor.pos ≤ (p.final r.cursor).pos := (hp r.cursor).pos_le
  have hend := (hp r.cursor).pos_add_length
  simp only [Reader.cursor, List.length_drop] at hend hpos
  rw [hrun]
  exact ⟨rfl, hpos, fun h => by simp only [Reader.seek, Reader.cursor]; omega⟩

/-- Whether a parser never asks for a slice outside of the range. -/
def NotBeyond (p : Parse α) : Prop :=
  ∀ c c', p c ≠ .error .beyondEnd c'

theorem NotBeyond.bind {p : Parse α} {f : α → Parse β} (hp : p.NotBeyond) (hf : ∀ x, (f x).NotBeyond) :
    (p >>= f).NotBeyond := by
  intro c c' h
  cases hc : p c with
  | ok x d =>
    rw [bind_of_ok hc] at h
    exact hf x d c' h
  | error e d =>
    rw [bind_of_error hc] at h
    obtain ⟨rfl, _⟩ := EStateM.Result.error.inj h
    exact hp c d hc

theorem notBeyond_pure (x : α) : NotBeyond (pure x) := by
  intro c c' h
  cases h

theorem notBeyond_bytes (n : Nat) : (bytes n).NotBeyond := by
  intro c c' h
  unfold bytes at h
  split at h <;> cases h

theorem NotBeyond.run {p : Parse α} (hp : p.NotBeyond) (r : Reader) : (r.run p).1 ≠ .error .beyondEnd := by
  have := hp r.cursor
  unfold Reader.run
  cases h : p r.cursor with
  | ok x c => exact nofun
  | error e c =>
    rintro ⟨⟩
    exact this c h

end Parse

open Parse

theorem Varint.notBeyond_parse : parse.NotBeyond := by
  intro c c' h
  rcases parse_eq_error.1 ⟨c', h⟩ with ⟨_, he⟩ | ⟨_, he⟩ <;> cases he

theorem StoredText.notBeyond_parse (charset : Charset) (n : Nat) : (parse charset n).NotBeyond := by
  refine (notBeyond_bytes n).bind fun bytes => ?_
  unfold decode
  cases charset.decode bytes with
  | some text => exact notBeyond_pure text
  | none =>
    intro c c' h
    cases h

namespace Reader

/-! ## Slices -/

/-- The bytes of the buffer from the position on. -/
def next (n : Nat) (r : Reader) : List UInt8 :=
  (r.data.drop r.pos).take n

/-- A slice of the buffer is in it, or it is too long, or it is an empty one beyond the end. -/
theorem fits_or_short_or_beyond (n : Nat) (r : Reader) :
    r.pos + n ≤ r.data.length ∨ r.remaining < n ∨ n = 0 ∧ r.data.length < r.pos := by
  unfold remaining
  omega

variable {f : List UInt8 → α}

/-- A slice that is in the buffer is taken, and the reader moves behind it. -/
theorem slice_of_fits (f : List UInt8 → α) (h : r.pos + n ≤ r.data.length) :
    r.slice n (do return f (← Parse.bytes n)) = (.ok (f (r.next n)), r.seek (r.pos + n)) := by
  have hlength : (r.next n).length = n := by
    rw [next, List.length_take, List.length_drop]
    omega
  have hbytes : Parse.bytes n r.cursor = .ok (r.next n) (r.cursor.advance n) :=
    bytes_eq_ok.2 ⟨hlength, (List.take_append_drop n _).symm, rfl⟩
  rw [slice, if_neg (by omega), run, bind_of_ok hbytes]
  rfl

/-- When there are fewer bytes the reader stays, and says how many were asked for and how many there are. -/
theorem slice_of_short (f : List UInt8 → α) (h : r.remaining < n) :
    r.slice n (do return f (← Parse.bytes n)) = (.error (.truncated n r.remaining), r) := by
  have hlength : r.cursor.rest.length = r.remaining := List.length_drop
  have hbytes := bytes_of_lt (c := r.cursor) (hlength ▸ h)
  rw [slice, if_neg (by omega), run, bind_of_error hbytes, hlength]
  rfl

theorem slice_of_beyond (p : Parse α) (hn : n = 0) (h : r.data.length < r.pos) :
    r.slice n p = (.error .beyondEnd, r) := by
  rw [slice, if_pos ⟨hn, h⟩]

namespace Operation

/-- The number of bytes that an operation of a fixed size asks for. -/
def size? : Operation → Option Nat
  | .byte | .int8 => some 1
  | .int16 => some 2
  | .int32 => some 4
  | .float => some 8
  | .bytes n | .peek n | .skip n => some n
  | _ => none

/-- What an operation of a fixed size makes of the bytes that it asked for. -/
def ofBytes : Operation → List UInt8 → Answer
  | .byte, bs => .byte (bs.headD 0)
  | .float, bs => .float ⟨UInt64.ofNat (LittleEndian.value bs)⟩
  | .bytes _, bs | .peek _, bs => .bytes bs
  | .skip _, _ => .nothing
  | _, bs => .number (LittleEndian.signedValue bs)

/-- How far an operation of a fixed size moves when it gets its `n` bytes. -/
def advance : Operation → Nat → Nat
  | .peek _, _ => 0
  | _, n => n

/-- Where an operation leaves the reader that moved behind the bytes. -/
def settle : Operation → Reader → Reader → Reader
  | .peek _, before, _ => before
  | _, _, after => after

/-- Whether an operation asks for no bytes at all. -/
def IsEmpty : Operation → Prop
  | .bytes n | .peek n | .skip n | .text _ n => n = 0
  | _ => False

def IsSeek : Operation → Prop
  | .seek _ => True
  | _ => False

end Operation

open Operation

/-- What is made of the bytes may be changed afterwards. -/
theorem answer_slice (f : α → Answer) (g : List UInt8 → α) (n : Nat) (r : Reader) :
    answer f (r.slice n (do return g (← Parse.bytes n))) =
      r.slice n (do return f (g (← Parse.bytes n))) := by
  obtain hfits | hshort | ⟨hn, hbeyond⟩ := fits_or_short_or_beyond n r
  · rw [slice_of_fits g hfits, slice_of_fits (fun bs => f (g bs)) hfits]
    rfl
  · rw [slice_of_short g hshort, slice_of_short (fun bs => f (g bs)) hshort]
    rfl
  · rw [slice_of_beyond _ hn hbeyond, slice_of_beyond _ hn hbeyond]
    rfl

theorem answer_slice_bytes (f : List UInt8 → Answer) (n : Nat) (r : Reader) :
    answer f (r.slice n (Parse.bytes n)) = r.slice n (do return f (← Parse.bytes n)) := by
  have h := answer_slice f id n r
  rwa [show (do return id (← Parse.bytes n)) = Parse.bytes n from bind_pure _] at h

theorem byte_eq : Parse.byte = do return (← Parse.bytes 1).headD 0 := by
  funext c
  obtain ⟨pos, _ | ⟨b, rest⟩⟩ := c <;> rfl

theorem skip_eq (n : Nat) : Parse.skip n = do
    let _ ← Parse.bytes n
    return () := by
  funext c
  cases hc : c.holds n with
  | false =>
    rw [bind_of_error (e := .truncated n c.remaining) (d := c) (by simp [Parse.bytes, hc])]
    simp [Parse.skip, hc]
  | true =>
    rw [bind_of_ok (a := c.rest.take n) (d := c.advance n) (by simp [Parse.bytes, hc])]
    simp [Parse.skip, hc]
    rfl

/-- An operation of a fixed size takes its slice and makes something of it. -/
theorem perform_eq_slice {op : Operation} (h : op.size? = some n) (r : Reader) :
    op.perform r =
      let taken := r.slice n (do return op.ofBytes (← Parse.bytes n))
      (taken.1, op.settle r taken.2) := by
  cases op with
  | byte =>
    obtain rfl := Option.some.inj h
    rw [perform, byte_eq, answer_slice]
    rfl
  | int8 | int16 | int32 | float =>
    obtain rfl := Option.some.inj h
    exact answer_slice _ _ _ r
  | bytes m =>
    obtain rfl := Option.some.inj h
    exact answer_slice_bytes Answer.bytes m r
  | peek m =>
    obtain rfl := Option.some.inj h
    exact congrArg (fun x => (x.1, r)) (answer_slice_bytes Answer.bytes m r)
  | skip m =>
    obtain rfl := Option.some.inj h
    rw [perform, Reader.skip, skip_eq]
    exact answer_slice (fun _ => Answer.nothing) (fun _ => ()) m r
  | varint | signedVarint | text _ _ | sizedText _ | seek _ => cases h

theorem perform_of_fits {op : Operation} (h : op.size? = some n) (hfits : r.pos + n ≤ r.data.length) :
    op.perform r = (.ok (op.ofBytes (r.next n)), r.seek (r.pos + op.advance n)) := by
  rw [perform_eq_slice h, slice_of_fits _ hfits]
  cases op <;> rfl

theorem perform_of_short {op : Operation} (h : op.size? = some n) (hshort : r.remaining < n) :
    op.perform r = (.error (.truncated n r.remaining), r) := by
  rw [perform_eq_slice h, slice_of_short _ hshort]
  cases op <;> rfl

theorem perform_of_beyond {op : Operation} (h : op.size? = some n) (hn : n = 0)
    (hbeyond : r.data.length < r.pos) : op.perform r = (.error .beyondEnd, r) := by
  rw [perform_eq_slice h, slice_of_beyond _ hn hbeyond]
  cases op <;> rfl

/-! ## Steps -/

/-- What is accounted for in a step. -/
structure Step.Accounted (s : Step) : Prop where
  /-- The buffer stays as it is. -/
  data : s.after.data = s.before.data
  /-- A read of a fixed size that succeeds gives the bytes at the position, and moves behind them. -/
  taken : ∀ n a, s.operation.size? = some n → s.answer = .ok a →
    s.before.pos + n ≤ s.before.data.length ∧ a = s.operation.ofBytes (s.before.next n) ∧
      s.after.pos = s.before.pos + s.operation.advance n
  /-- One that fails stays and says how much is missing, unless nothing was asked for beyond the end. -/
  refused : ∀ n e, s.operation.size? = some n → s.answer = .error e →
    s.after = s.before ∧ (e = .truncated n s.before.remaining ∧ s.before.remaining < n ∨
      e = .beyondEnd ∧ n = 0 ∧ s.before.data.length < s.before.pos)
  /-- Nothing but a seek moves backwards or out of the buffer. -/
  forward : ¬s.operation.IsSeek → s.before.pos ≤ s.after.pos ∧
    (s.before.pos ≤ s.before.data.length → s.after.pos ≤ s.before.data.length)
  sought : ∀ pos, s.operation = .seek pos → s.answer = .ok .nothing ∧ s.after.pos = pos
  /-- A slice lies outside of the buffer just if it is empty and the position is beyond the end. -/
  outside : s.answer = .error .beyondEnd ↔
    s.operation.IsEmpty ∧ s.before.data.length < s.before.pos

theorem isEmpty_iff_of_size {op : Operation} (h : op.size? = some n) : op.IsEmpty ↔ n = 0 := by
  cases op <;> simp_all [size?, Operation.IsEmpty] <;> omega

/-- An operation of a fixed size is accounted for. -/
theorem accounted_of_size {op : Operation} (h : op.size? = some n) (r : Reader) :
    Step.Accounted ⟨r, op, (op.perform r).1, (op.perform r).2⟩ := by
  have hsize : ∀ m, op.size? = some m → m = n := fun m hm => Option.some.inj (hm.symm.trans h)
  have hadvance : op.advance n ≤ n := by cases op <;> simp [advance]
  have hseek : ∀ pos, op ≠ .seek pos := by
    rintro pos rfl
    cases h
  obtain hfits | hshort | ⟨hn, hbeyond⟩ := fits_or_short_or_beyond n r
  · rw [perform_of_fits h hfits]
    refine ⟨rfl, ?_, nofun, fun _ => ?_, fun pos hpos => absurd hpos (hseek pos), ?_⟩
    · rintro m a hm ⟨⟩
      rw [hsize m hm]
      exact ⟨hfits, rfl, rfl⟩
    · simp only [Reader.seek]
      omega
    · refine iff_of_false nofun fun hout => ?_
      have := hout.2
      simp only at this
      omega
  · rw [perform_of_short h hshort]
    refine ⟨rfl, nofun, ?_, fun _ => ⟨le_refl _, id⟩, fun pos hpos => absurd hpos (hseek pos), ?_⟩
    · rintro m e hm ⟨⟩
      rw [hsize m hm]
      exact ⟨rfl, .inl ⟨rfl, hshort⟩⟩
    · refine iff_of_false nofun fun hout => ?_
      have := (isEmpty_iff_of_size h).1 hout.1
      omega
  · rw [perform_of_beyond h hn hbeyond]
    refine ⟨rfl, nofun, ?_, fun _ => ⟨le_refl _, id⟩, fun pos hpos => absurd hpos (hseek pos), ?_⟩
    · rintro m e hm ⟨⟩
      rw [hsize m hm]
      exact ⟨rfl, .inr ⟨rfl, hn, hbeyond⟩⟩
    · exact iff_of_true rfl ⟨(isEmpty_iff_of_size h).2 hn, hbeyond⟩

/-- An operation that reads piece by piece is accounted for, unless nothing is asked for beyond the end. -/
theorem accounted_of_run {op : Operation} {p : Parse α} {f : α → Answer} (hforward : p.Forward)
    (hbeyond : p.NotBeyond) (hsize : op.size? = none) (hseek : ¬op.IsSeek)
    (hperform : op.perform r = answer f (r.run p)) (hout : ¬(op.IsEmpty ∧ r.data.length < r.pos)) :
    Step.Accounted ⟨r, op, (op.perform r).1, (op.perform r).2⟩ := by
  obtain ⟨hdata, hpos, hend⟩ := hforward.run r
  have hnot := hbeyond.run r
  rw [hperform, answer]
  refine ⟨hdata, fun m a hm => ?_, fun m e hm => ?_, fun _ => ⟨hpos, hend⟩, ?_, ?_⟩
  · cases hsize.symm.trans hm
  · cases hsize.symm.trans hm
  · rintro pos rfl
    exact absurd trivial hseek
  · refine iff_of_false (fun h => hnot ?_) hout
    cases hrun : (r.run p).1 with
    | ok x => simp [hrun, Except.map] at h
    | error e => simpa [hrun, Except.map] using h

/-- Whatever is asked of a reader is accounted for. -/
theorem accounted (op : Operation) (r : Reader) :
    Step.Accounted ⟨r, op, (op.perform r).1, (op.perform r).2⟩ := by
  cases op with
  | byte | int8 | int16 | int32 | float | bytes _ | peek _ | skip _ => exact accounted_of_size rfl r
  | varint =>
    exact accounted_of_run Varint.forward_parse Varint.notBeyond_parse rfl id rfl fun h => h.1
  | signedVarint =>
    exact accounted_of_run Varint.forward_parseSigned
      (Varint.notBeyond_parse.bind fun v => notBeyond_pure v.toInt32) rfl id rfl fun h => h.1
  | sizedText charset =>
    refine accounted_of_run (StoredText.forward_parseSized charset) ?_ rfl id rfl fun h => h.1
    exact (Varint.notBeyond_parse.bind fun v => notBeyond_pure v.toNat).bind fun n =>
      StoredText.notBeyond_parse charset n
  | text charset n =>
    by_cases hout : n = 0 ∧ r.data.length < r.pos
    · rw [perform, slice_of_beyond _ hout.1 hout.2]
      exact ⟨rfl, nofun, nofun, fun _ => ⟨le_refl _, id⟩, nofun, iff_of_true rfl hout⟩
    · refine accounted_of_run (f := .text) (StoredText.forward_parse charset n)
        (StoredText.notBeyond_parse charset n) rfl id ?_ hout
      rw [perform, slice, if_neg hout]
  | seek pos =>
    refine ⟨rfl, nofun, nofun, fun h => absurd trivial h, ?_, iff_of_false nofun fun h => h.1⟩
    rintro _ ⟨⟩
    exact ⟨rfl, rfl⟩

/-! ## Runs -/

/-- Every step of a run is over the same buffer, and accounted for. -/
theorem accounted_of_mem_steps {ops : List Operation} {s : Step} (h : s ∈ steps ops r) :
    s.before.data = r.data ∧ s.operation ∈ ops ∧ s.Accounted := by
  induction ops generalizing r with
  | nil => cases h
  | cons op ops ih =>
    have hfirst := accounted op r
    rcases List.mem_cons.1 h with rfl | h
    · exact ⟨rfl, List.mem_cons_self, hfirst⟩
    · obtain ⟨hdata, hmem, hs⟩ := ih h
      exact ⟨hdata.trans hfirst.data, List.mem_cons_of_mem op hmem, hs⟩

/-- Without seeks a run that starts within the buffer moves forward in it. -/
theorem within_of_mem_steps {ops : List Operation} {s : Step} (hseek : ∀ op ∈ ops, ¬op.IsSeek)
    (hstart : r.pos ≤ r.data.length) (h : s ∈ steps ops r) :
    r.pos ≤ s.before.pos ∧ s.before.pos ≤ s.after.pos ∧ s.after.pos ≤ r.data.length := by
  induction ops generalizing r with
  | nil => cases h
  | cons op ops ih =>
    have hfirst := accounted op r
    obtain ⟨hop, hops⟩ := List.forall_mem_cons.1 hseek
    obtain ⟨hpos, hend⟩ := hfirst.forward hop
    rcases List.mem_cons.1 h with rfl | h
    · exact ⟨le_refl _, hpos, hend hstart⟩
    · have hdata : (op.perform r).2.data = r.data := hfirst.data
      obtain ⟨hle, hrest⟩ := ih hops (by rw [hdata]; exact hend hstart) h
      rw [hdata] at hrest
      exact ⟨hpos.trans hle, hrest⟩

/-- The state of a reader over any run of operations, from any start over any buffer.  Each step is accounted for,
and if the run starts within the buffer and has no seeks then no step leaves the buffer or asks for a slice
outside of it. -/
theorem steps_accounted (data : List UInt8) (start : Nat) (ops : List Operation) :
    ∀ s ∈ steps ops ⟨data, start⟩, s.before.data = data ∧ s.Accounted ∧
      (start ≤ data.length → (∀ op ∈ ops, ¬op.IsSeek) →
        start ≤ s.before.pos ∧ s.before.pos ≤ s.after.pos ∧ s.after.pos ≤ data.length ∧
          s.answer ≠ .error .beyondEnd) := by
  intro s hs
  obtain ⟨hdata, _, haccounted⟩ := accounted_of_mem_steps hs
  refine ⟨hdata, haccounted, fun hstart hseek => ?_⟩
  obtain ⟨hfirst, hforward, hend⟩ := within_of_mem_steps hseek hstart hs
  refine ⟨hfirst, hforward, hend, fun hanswer => ?_⟩
  have hbeyond := (haccounted.outside.1 hanswer).2
  rw [hdata] at hbeyond
  exact absurd (hforward.trans hend) (Nat.not_le.2 hbeyond)

/-- A varint, a number that is cut off, and a byte; then the same with a seek beyond the end and a skip of nothing. -/
theorem steps_accounted_sought :
    let data : List UInt8 := [0x81, 0x00, 0x05]
    let s : Step := ⟨⟨data, 2⟩, .int32, .error (.truncated 4 1), ⟨data, 2⟩⟩
    let t : Step := ⟨⟨data, 9⟩, .skip 0, .error .beyondEnd, ⟨data, 9⟩⟩
    (s ∈ steps [.varint, .int32, .byte] ⟨data, 0⟩ ∧ s.Accounted ∧ s.after.pos ≤ data.length ∧
        s.answer ≠ .error .beyondEnd) ∧
      t ∈ steps [.varint, .int32, .byte, .seek 9, .skip 0] ⟨data, 0⟩ ∧ t.Accounted := by
  intro data s t
  have hs : s ∈ steps [.varint, .int32, .byte] ⟨data, 0⟩ := .tail _ (.head _)
  have ht : t ∈ steps [.varint, .int32, .byte, .seek 9, .skip 0] ⟨data, 0⟩ :=
    .tail _ (.tail _ (.tail _ (.tail _ (.head _))))
  obtain ⟨_, haccounted, hwithin⟩ := steps_accounted data 0 [.varint, .int32, .byte] s hs
  obtain ⟨_, _, hend, hanswer⟩ := hwithin (by decide) (by simp [Operation.IsSeek])
  exact ⟨⟨hs, haccounted, hend, hanswer⟩, ht, (steps_accounted data 0 _ t ht).2.1⟩

end Reader

end ChunkTree
