import SceneGraph.CommandLine.Run

/-!
The command line. Documents are read when a run asks for one that is not known yet; the run is then
made again with what was read, until it asks for nothing more.
-/
namespace SceneGraph.CommandLine

/-- The bytes of a file, nothing if there is none, or why it cannot be read. -/
def readFile? (path : String) : IO (Except String (Option ByteArray)) := do
  try
    return .ok (some (← IO.FS.readBinFile path))
  catch error =>
    match error with
    | .permissionDenied .. => return .error (toString error)
    | _ => return .ok none

/-- The document of a name in a directory. -/
def readDocument (directory name : String) : List String → IO (Except LoadError Tree)
  | [] => return .error (.notFound name)
  | candidate :: candidates => do
      let path := joinPath directory candidate
      match ← readFile? path with
      | .error reason => return .error (.unreadable name path (.system reason))
      | .ok (some bytes) => return Tree.ofBytes name path bytes
      | .ok none => readDocument directory name candidates

partial def runWith (settings : Settings) (answers : List (String × Except LoadError Tree)) :
    IO Outcome := do
  let (outcome, missing) := run settings (.ofAnswers answers) none
  match missing with
  | none => return outcome
  | some name =>
      let answer ← readDocument settings.sceneDirectory name (Directory.candidates name)
      runWith settings ((name, answer) :: answers)

/-- How the program is called. -/
def usage : String := "Usage: scenegraph [-d DIR] [-c N] [--max-depth N] [-p] SCENE"

end SceneGraph.CommandLine

def main (arguments : List String) : IO UInt32 := do
  let outcome ← match SceneGraph.CommandLine.Settings.ofArguments arguments with
    | .error error => do
        IO.eprintln SceneGraph.CommandLine.usage
        pure (SceneGraph.CommandLine.Outcome.ofUsageError error)
    | .ok settings => SceneGraph.CommandLine.runWith settings []
  IO.print outcome.output
  for line in outcome.report do
    IO.eprintln line
  return outcome.exitCode.toUInt32
