/-!
# File name patterns

In a pattern `?` stands for any character and `*` for any text, `[abc]` and `[a-z]` for one of some characters and
`[!abc]` for any other.  `**` has to fill a whole step of a path and stands for any number of folders.  All other
characters stand for themselves.
-/

namespace ChunkTree

/-- What is wrong with the text of a pattern. -/
inductive PatternFault where
  /-- More than two stars in a row. -/
  | wildcards
  /-- Two stars that do not fill a step of a path. -/
  | recursiveWildcards
  /-- A bracket that is not closed. -/
  | range
  deriving DecidableEq, Repr

def PatternFault.message : PatternFault → String
  | wildcards => "wildcards are either regular `*` or recursive `**`"
  | recursiveWildcards => "recursive wildcards must form a single path component"
  | range => "invalid range pattern"

namespace NamePattern

/-- Characters from `first` to `last`. -/
structure Span where
  first : Char
  last : Char
  deriving DecidableEq, Repr

def Span.contains (s : Span) (c : Char) : Bool :=
  decide (s.first ≤ c ∧ c ≤ s.last)

/-- A part of a pattern. -/
inductive Token where
  | char (c : Char)
  | anyChar
  | oneOf (spans : List Span)
  | noneOf (spans : List Span)
  | anyText
  | anyFolders
  deriving DecidableEq, Repr

/-- The characters listed between brackets. -/
def spansOf : List Char → List Span
  | a :: '-' :: b :: cs => ⟨a, b⟩ :: spansOf cs
  | c :: cs => ⟨c, c⟩ :: spansOf cs
  | [] => []

/-- Splits at the first closing bracket. -/
def untilBracket : List Char → Option (List Char × List Char)
  | [] => none
  | c :: cs => if c = ']' then some ([], cs) else (untilBracket cs).map fun (inner, rest) => (c :: inner, rest)

theorem untilBracket_length {cs inner rest : List Char} (h : untilBracket cs = some (inner, rest)) :
    rest.length < cs.length := by
  induction cs generalizing inner with
  | nil => simp [untilBracket] at h
  | cons c cs ih =>
    rw [untilBracket] at h
    split at h
    · simp_all
    · obtain ⟨⟨u, v⟩, hu, huv⟩ := Option.map_eq_some_iff.1 h
      simp only [Prod.mk.injEq] at huv
      have := ih (hu.trans (by rw [huv.2]))
      simp only [List.length_cons]; omega

/-- The characters between brackets; the first of them may be a closing bracket. -/
def bracketed : List Char → Option (List Char × List Char)
  | [] => none
  | c :: cs => (untilBracket cs).map fun (inner, rest) => (c :: inner, rest)

theorem bracketed_length {cs inner rest : List Char} (h : bracketed cs = some (inner, rest)) :
    rest.length < cs.length := by
  cases cs with
  | nil => simp [bracketed] at h
  | cons c cs =>
    obtain ⟨⟨u, v⟩, hu, huv⟩ := Option.map_eq_some_iff.1 h
    simp only [Prod.mk.injEq] at huv
    have := untilBracket_length (hu.trans (by rw [huv.2]))
    simp only [List.length_cons]; omega

/-- A set of characters, after its opening bracket. -/
def readSet : List Char → Option (Token × List Char)
  | '!' :: cs => (bracketed cs).map fun (inner, rest) => (.noneOf (spansOf inner), rest)
  | cs => (bracketed cs).map fun (inner, rest) => (.oneOf (spansOf inner), rest)

theorem readSet_length {cs rest : List Char} {t : Token} (h : readSet cs = some (t, rest)) :
    rest.length < cs.length := by
  unfold readSet at h
  split at h
  · obtain ⟨⟨u, v⟩, hu, huv⟩ := Option.map_eq_some_iff.1 h
    simp only [Prod.mk.injEq] at huv
    have := bracketed_length (hu.trans (by rw [huv.2]))
    simp only [List.length_cons]; omega
  · obtain ⟨⟨u, v⟩, hu, huv⟩ := Option.map_eq_some_iff.1 h
    simp only [Prod.mk.injEq] at huv
    exact bracketed_length (hu.trans (by rw [huv.2]))

/-- Reads a pattern from a position on.  `atStep` says that a step of a path starts there.  A fault comes with its
position. -/
def read (pos : Nat) (atStep : Bool) (cs : List Char) : Except (Nat × PatternFault) (List Token) :=
  match cs with
  | [] => .ok []
  | '*' :: '*' :: '*' :: _ => .error (pos + 2, .wildcards)
  | '*' :: '*' :: rest =>
    if atStep then
      match rest with
      | [] => .ok [.anyFolders]
      | '/' :: rest => (read (pos + 3) true rest).map (.anyFolders :: ·)
      | _ => .error (pos + 2, .recursiveWildcards)
    else .error (pos - 1, .recursiveWildcards)
  | '*' :: rest => (read (pos + 1) false rest).map (.anyText :: ·)
  | '?' :: rest => (read (pos + 1) false rest).map (.anyChar :: ·)
  | '[' :: inner =>
    match h : readSet inner with
    | some (t, rest) =>
      have := readSet_length h
      (read (pos + 1 + (inner.length - rest.length)) false rest).map (t :: ·)
    | none => .error (pos, .range)
  | c :: rest => (read (pos + 1) (c == '/') rest).map (.char c :: ·)
termination_by cs.length
decreasing_by all_goals simp_all only [List.length_cons]; omega

/-- What is left of a text behind each of its separators. -/
def stepsOf : List Char → List (List Char)
  | [] => []
  | c :: cs => if c = '/' then cs :: stepsOf cs else stepsOf cs

/-- What is left of a text behind each of its beginnings. -/
def endsOf : List Char → List (List Char)
  | [] => [[]]
  | c :: cs => (c :: cs) :: endsOf cs

/-- Whether the parts of a pattern stand for a text. -/
def matchTokens : List Token → List Char → Bool
  | [], cs => cs.isEmpty
  | .anyText :: ts, cs => (endsOf cs).any (matchTokens ts)
  | .anyFolders :: ts, cs => matchTokens ts cs || (stepsOf cs).any (matchTokens ts) || matchTokens ts []
  | _ :: _, [] => false
  | .char c :: ts, d :: cs => c == d && matchTokens ts cs
  | .anyChar :: ts, _ :: cs => matchTokens ts cs
  | .oneOf spans :: ts, d :: cs => spans.any (·.contains d) && matchTokens ts cs
  | .noneOf spans :: ts, d :: cs => !spans.any (·.contains d) && matchTokens ts cs

end NamePattern

/-- A pattern for the names of files. -/
structure NamePattern where
  tokens : List NamePattern.Token
  deriving DecidableEq, Repr

namespace NamePattern

/-- The pattern that a text describes, or the position and the kind of its first fault. -/
def ofText (text : String) : Except (Nat × PatternFault) NamePattern :=
  (read 0 true text.toList).map NamePattern.mk

/-- Whether a pattern stands for a name.  Capital and small letters differ. -/
def accepts (p : NamePattern) (name : String) : Bool :=
  matchTokens p.tokens name.toList

end NamePattern

end ChunkTree
