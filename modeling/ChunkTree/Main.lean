import ChunkTree.Tool.Run

/-!
# The command line

Does the request on the command line with the files on disk.
-/

namespace ChunkTree.Tool

/-- The fault that the system reports, under a number that may be negated. -/
def faultOf : IO.Error → StoreFault
  | .alreadyExists _ code text | .noFileOrDirectory _ code text | .invalidArgument _ code text
  | .permissionDenied _ code text | .resourceExhausted _ code text | .inappropriateType _ code text
  | .noSuchThing _ code text | .interrupted _ code text | .otherError code text | .resourceBusy code text
  | .resourceVanished code text | .unsupportedOperation code text | .hardwareFault code text
  | .unsatisfiedConstraints code text | .illegalOperation code text | .protocolError code text
  | .timeExpired code text => .ofCode code.toInt32.toInt.natAbs text
  | .unexpectedEof => .ofCode 0 "unexpected end of file"
  | .userError text => .ofCode 0 text

def attempt {α : Type} (action : IO α) : IO (Except StoreFault α) := do
  try
    return .ok (← action)
  catch e =>
    return .error (faultOf e)

/-- The files at a place and below it.  What cannot be looked at is left out. -/
partial def filesAt (place : IO.FS.DirEntry) (names : List String) : IO (List (List String)) := do
  try
    match (← place.path.metadata).type with
    | .file => return [names]
    | .dir =>
      let mut files := []
      for inner in (← place.path.readDir).toList.mergeSort (fun a b => decide (a.fileName ≤ b.fileName)) do
        files := files ++ (← filesAt inner (names ++ [inner.fileName]))
      return files
    | _ => return []
  catch _ =>
    return []

instance : FileStore IO where
  read path := attempt do return (← IO.FS.readBinFile path).data.toList
  write path bytes := attempt (IO.FS.writeBinFile path ⟨bytes.toArray⟩)
  makeFolders path := attempt (IO.FS.createDirAll path)
  filesBelow path := filesAt ⟨".", path⟩ []

/-- Shows what a run ended with. -/
def report (o : Outcome) (duration : String) : IO UInt32 := do
  for line in o.output do
    IO.println (line.shown duration)
  for line in o.reports do
    IO.eprintln line
  return o.exitCode

end ChunkTree.Tool

open ChunkTree.Tool in
def main (words : List String) : IO UInt32 := do
  let start ← IO.monoNanosNow
  match Request.ofWords (← IO.getEnv "LCF_CODEPAGE") words with
  | .error refusal =>
    if refusal = .help then IO.println refusal.message else IO.eprintln refusal.message
    return refusal.exitCode
  | .ok request =>
    let outcome ← request.run
    report outcome (durationText ((← IO.monoNanosNow) - start))
