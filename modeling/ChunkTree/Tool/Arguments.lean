/-!
# The arguments of the tool

The words on the command line name a job and its settings.  A setting is written by its name or by its letter, and
its value is the next word or follows in the same one.  Some settings hold for every job and may stand before its
name too; what stands behind the name counts first.
-/

namespace ChunkTree.Tool

/-- How a setting is given. -/
inductive SettingForm where
  /-- By itself, and once. -/
  | switch
  /-- By itself, any number of times. -/
  | count
  /-- By itself; it asks for help. -/
  | help
  /-- With a text. -/
  | text
  /-- With a text that is not empty. -/
  | path
  deriving DecidableEq, Repr

/-- A setting and its names. -/
structure Setting where
  name : String
  letter : Option Char
  form : SettingForm
  deriving DecidableEq, Repr

/-- Why words name no job. -/
inductive Refusal where
  /-- Help was asked for. -/
  | help
  | missingJob
  | unknownWord (word : String)
  | missingValue (name : String)
  | emptyValue (name : String)
  | strayValue (name : String)
  | repeated (name : String)
  | missingSetting (job : String)
  deriving DecidableEq, Repr

/-- The settings that were given, with their values. -/
abbrev Given := List (String × String)

namespace Given

def value? (given : Given) (name : String) : Option String :=
  given.lookup name

def has (given : Given) (name : String) : Bool :=
  (given.value? name).isSome

end Given

namespace Setting

/-- Adds the value of a setting. -/
def give (s : Setting) (value : String) (given : Given) : Except Refusal Given :=
  if s.form = .path ∧ value = "" then .error (.emptyValue s.name)
  else if s.form ≠ .count ∧ given.has s.name then .error (.repeated s.name)
  else .ok (given ++ [(s.name, value)])

/-- Reads letters; the rest of the word is the value of a letter that takes one.  Answers a setting that still
needs its value. -/
def readLetters (settings : List Setting) (word : String) :
    List Char → Given → Except Refusal (Given × Option Setting)
  | [], given => .ok (given, none)
  | c :: cs, given =>
    match settings.find? (·.letter == some c) with
    | none => .error (.unknownWord word)
    | some s =>
      match s.form, cs with
      | .help, _ => .error .help
      | .switch, _ | .count, _ =>
        match s.give "" given with
        | .ok given => readLetters settings word cs given
        | .error r => .error r
      | _, [] => .ok (given, some s)
      | _, '=' :: value => (s.give (String.ofList value) given).map (·, none)
      | _, value => (s.give (String.ofList value) given).map (·, none)

/-- Splits a name from the value behind an equals sign. -/
def splitValue : List Char → List Char × Option (List Char)
  | [] => ([], none)
  | c :: cs =>
    if c = '=' then ([], some cs)
    else
      let (name, value) := splitValue cs
      (c :: name, value)

/-- Reads a name, and the value if it is in the same word.  Answers a setting that still needs its value. -/
def readName (settings : List Setting) (word : String) (cs : List Char) (given : Given) :
    Except Refusal (Given × Option Setting) :=
  let (name, value) := splitValue cs
  match settings.find? (·.name == String.ofList name) with
  | none => .error (.unknownWord word)
  | some s =>
    match s.form, value with
    | .help, none => .error .help
    | .switch, none | .count, none => (s.give "" given).map (·, none)
    | .text, none | .path, none => .ok (given, some s)
    | .text, some value | .path, some value => (s.give (String.ofList value) given).map (·, none)
    | _, some _ => .error (.strayValue s.name)

/-- Reads settings up to a word that is none, and answers the words from there on. -/
def read (settings : List Setting) : List String → Option Setting → Given → Except Refusal (Given × List String)
  | [], none, given => .ok (given, [])
  | [], some s, _ => .error (.missingValue s.name)
  | word :: words, pending, given =>
    match word.toList, pending with
    | '-' :: _ :: _, some s => .error (.missingValue s.name)
    | ['-', '-'], none => .ok (given, word :: words)
    | '-' :: '-' :: cs, none =>
      match readName settings word cs given with
      | .ok (given, pending) => read settings words pending given
      | .error r => .error r
    | '-' :: c :: cs, none =>
      match readLetters settings word (c :: cs) given with
      | .ok (given, pending) => read settings words pending given
      | .error r => .error r
    | _, some s =>
      match s.give word given with
      | .ok given => read settings words none given
      | .error r => .error r
    | _, none => .ok (given, word :: words)

end Setting

/-- What the tool is asked to do. -/
inductive Job where
  /-- Writes the value of a game file as text, into a file or to the output. -/
  | toJson (input : String) (output : Option String) (pretty : Bool)
  /-- Writes the game file with the value that a text describes. -/
  | fromJson (input output : String)
  /-- Shows the layout of a game file. -/
  | info (input : String)
  /-- Checks that saving the value of a game file gives the same bytes. -/
  | verify (input : String)
  /-- Writes the values of all game files below a folder. -/
  | convertFolder (input output : String) (filter : Option String)
  deriving DecidableEq, Repr

/-- The settings of a kind of job, and the job that given settings describe. -/
structure JobForm where
  name : String
  settings : List Setting
  job? : Given → Option Job

namespace JobForm

def inputSetting : Setting := ⟨"input", some 'i', .path⟩
def outputSetting : Setting := ⟨"output", some 'o', .path⟩
def codepageSetting : Setting := ⟨"codepage", none, .text⟩

/-- The settings that every job has. -/
def shared : List Setting :=
  [codepageSetting, ⟨"verbose", some 'v', .count⟩, ⟨"help", some 'h', .help⟩]

/-- All kinds of jobs. -/
def all : List JobForm := [
  ⟨"to-json", [inputSetting, outputSetting, ⟨"pretty", none, .switch⟩], fun g => do
    return .toJson (← g.value? "input") (g.value? "output") (g.has "pretty")⟩,
  ⟨"from-json", [inputSetting, outputSetting], fun g => do
    return .fromJson (← g.value? "input") (← g.value? "output")⟩,
  ⟨"info", [inputSetting], fun g => do return .info (← g.value? "input")⟩,
  ⟨"verify", [inputSetting], fun g => do return .verify (← g.value? "input")⟩,
  ⟨"convert-dir", [inputSetting, outputSetting, ⟨"filter", some 'f', .text⟩], fun g => do
    return .convertFolder (← g.value? "input") (← g.value? "output") (g.value? "filter")⟩]

def ofName? (name : String) : Option JobForm :=
  all.find? (·.name == name)

end JobForm

/-- A job, and the label of the charset in which texts are stored. -/
structure Request where
  codepage : Option String
  job : Job
  deriving DecidableEq, Repr

namespace Request

/-- A request for help, on everything or on one kind of job. -/
def help (names : List String) : Refusal :=
  match names with
  | [] => .help
  | [name] => if name = "help" ∨ (JobForm.ofName? name).isSome then .help else .unknownWord name
  | _ :: name :: _ => .unknownWord name

/-- Reads the settings behind the name of a job. -/
def ofJob (form : JobForm) (codepage : Option String) (words : List String) : Except Refusal Request := do
  let (given, rest) ← Setting.read (JobForm.shared ++ form.settings) words none []
  match rest with
  | [] | ["--"] =>
    match form.job? given with
    | some job => return ⟨given.value? "codepage" <|> codepage, job⟩
    | none => throw (.missingSetting form.name)
  | word :: _ => throw (.unknownWord word)

/-- Reads the command line.  The environment may name a codepage too, and counts last. -/
def ofWords (environment : Option String) (words : List String) : Except Refusal Request := do
  let (given, rest) ← Setting.read JobForm.shared words none []
  match rest with
  | [] => throw .missingJob
  | "help" :: names => throw (help names)
  | name :: words =>
    match JobForm.ofName? name with
    | some form => ofJob form (given.value? "codepage" <|> environment) words
    | none => throw (.unknownWord name)

end Request

/-- What is said about words that name no job. -/
def Refusal.message : Refusal → String
  | help => "Usage: chunktree [--codepage LABEL] [-v] JOB\nJobs: " ++ ", ".intercalate (JobForm.all.map (·.name))
  | missingJob => "no job is named"
  | unknownWord word => s!"unexpected word: {word}"
  | missingValue name => s!"--{name} needs a value"
  | emptyValue name => s!"--{name} needs a value that is not empty"
  | strayValue name => s!"--{name} takes no value"
  | repeated name => s!"--{name} is given twice"
  | missingSetting job => s!"{job} needs more settings"

/-- Asking for help is no mistake. -/
def Refusal.exitCode : Refusal → UInt32
  | help => 0
  | _ => 2

end ChunkTree.Tool
