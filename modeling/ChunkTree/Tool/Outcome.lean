import ChunkTree.Error.Message
import ChunkTree.Tool.FileStore
import ChunkTree.Tool.NamePattern

/-!
# What a run of the tool ends with

A run leaves lines of output, complaints about single files, and possibly a failure that ended it.  A failure names
what was attempted and what lies beneath it, the nearest cause first.
-/

namespace ChunkTree.Tool

/-- Why a run ended early. -/
structure Failure where
  text : String
  causes : List String
  deriving DecidableEq, Repr

namespace Failure

def ofText (text : String) : Failure :=
  ⟨text, []⟩

def ofError (e : Error) : Failure :=
  ⟨e.message, e.causes.tail⟩

def ofFault (f : StoreFault) : Failure :=
  .ofText f.message

/-- A file that cannot be read is reported for the view and again for the place it was read from. -/
def ofUnread (f : StoreFault) : Failure :=
  ⟨"I/O error: " ++ f.message, [f.message]⟩

def ofPattern (pos : Nat) (fault : PatternFault) : Failure :=
  .ofText s!"Pattern syntax error near position {pos}: {fault.message}"

/-- Names what was attempted when a failure came up. -/
def during (attempt : String) (f : Failure) : Failure :=
  ⟨attempt, f.text :: f.causes⟩

/-- A text whose later lines stand below its first. -/
def hanging (start rest text : String) : String :=
  start ++ ("\n" ++ rest).intercalate (text.splitToList (· == '\n'))

def numbered : Nat → List String → List String
  | _, [] => []
  | n, cause :: causes =>
    let number := toString n
    hanging (String.ofList (List.replicate (5 - number.length) ' ') ++ number ++ ": ") "       " cause ::
      numbered (n + 1) causes

/-- The causes of a failure, a line each.  They are numbered when there are several. -/
def causeLines : List String → List String
  | [cause] => [hanging "    " "    " cause]
  | causes => numbered 0 causes

/-- The report of a failure. -/
def lines (f : Failure) : List String :=
  ("Error: " ++ f.text) :: if f.causes.isEmpty then [] else "" :: "Caused by:" :: causeLines f.causes

/-- The report of a failure on one line. -/
def line (f : Failure) : String :=
  "Error: " ++ ": ".intercalate (f.text :: f.causes)

end Failure

/-- A line of output; one that is timed goes on with the time that the run took. -/
structure Line where
  text : String
  isTimed : Bool
  deriving DecidableEq, Repr

namespace Line

def plain (text : String) : Line := ⟨text, false⟩

def timed (text : String) : Line := ⟨text, true⟩

/-- The line as it is shown after a run of a certain duration. -/
def shown (duration : String) (l : Line) : String :=
  if l.isTimed then l.text ++ " in " ++ duration else l.text

end Line

/-- A duration in the largest unit that it fills, to two places. -/
def durationText (nanoseconds : Nat) : String :=
  let (unit, name) :=
    if 1000000000 ≤ nanoseconds then (1000000000, "s")
    else if 1000000 ≤ nanoseconds then (1000000, "ms")
    else if 1000 ≤ nanoseconds then (1000, "µs")
    else (1, "ns")
  let hundredths := (nanoseconds * 100 + unit / 2) / unit
  s!"{hundredths / 100}.{hundredths / 10 % 10}{hundredths % 10}" ++ name

/-- What a run ends with. -/
structure Outcome where
  output : List Line
  complaints : List String
  failure : Option Failure
  deriving DecidableEq, Repr

namespace Outcome

def done (output : List Line) : Outcome :=
  ⟨output, [], none⟩

def failed (f : Failure) : Outcome :=
  ⟨[], [], some f⟩

def exitCode (o : Outcome) : UInt32 :=
  if o.failure.isSome then 1 else 0

/-- Everything that a run reports beside its output. -/
def reports (o : Outcome) : List String :=
  o.complaints ++ match o.failure with
    | some f => f.lines
    | none => []

end Outcome

end ChunkTree.Tool
