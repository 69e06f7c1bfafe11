import SceneGraph.CommandLine.Arguments
import SceneGraph.Json.Render
import SceneGraph.Scene.Document
import SceneGraph.Scene.Instance
import SceneGraph.World.Snapshot

/-!
The program: build a scene, instantiate it as often as asked for into one world, and print every
root with its descendants.
-/
namespace SceneGraph.CommandLine

structure Outcome where
  exitCode : Nat
  output : String
  report : List String
deriving DecidableEq, Repr

/-- A cause in a report: every line is indented, and causes are numbered when there are several. -/
def causeLines (number : Option Nat) (cause : String) : List String :=
  let (head, tail) := match number with
    | some number => ("    " ++ toString number ++ ": ", "       ")
    | none => ("    ", "    ")
  match cause.splitOn "\n" with
  | [] => []
  | first :: rest => (head ++ first) :: rest.map (tail ++ ·)

/-- What went wrong and why, the immediate cause first. -/
def failureReport (failure : String) (causes : List String) : List String :=
  let lines := match causes with
    | [cause] => causeLines none cause
    | causes => (causes.zipIdx.map fun (cause, number) => causeLines (some number) cause).flatten
  ("Error: " ++ failure).splitOn "\n" ++ ["", "Caused by:"] ++ lines

def Outcome.ofBuildError (scene : String) (error : BuildError) : Outcome :=
  ⟨1, "", failureReport ("failed to build scene '" ++ scene ++ "'")
    (error.message :: error.cause?.toList)⟩

def Outcome.ofFailure (message : String) : Outcome := ⟨1, "", ("Error: " ++ message).splitOn "\n"⟩

def instantiateCopies (forest : List Blueprint) : (copies : Nat) → Populate (List Entity)
  | 0 => return []
  | copies + 1 => do
      let roots ← Blueprint.instantiateAll forest
      return roots ++ (← instantiateCopies forest copies)

def printForest (settings : Settings) (forest : List Blueprint) : Except String String :=
  match (instantiateCopies forest settings.copies).run.run ⟨.empty, some .empty, #[]⟩ with
  | (.error error, _) => .error error.message
  | (.ok roots, population) =>
    match population.world.dumpAll roots with
    | .error error => .error error.message
    | .ok dumps => .ok ((if settings.pretty then dumps.renderPretty else dumps.render) ++ "\n")

def run {σ : Type} (settings : Settings) (loader : Loader σ) (state : σ) : Outcome × σ :=
  let builder : Builder σ := ⟨.defaults, loader, settings.maxDepth⟩
  match (builder.buildScene settings.scene).run.run (.start state) with
  | (.error error, progress) => (.ofBuildError settings.scene error, progress.loader)
  | (.ok forest, progress) =>
    match printForest settings forest with
    | .error message => (.ofFailure message, progress.loader)
    | .ok text => (⟨0, text, []⟩, progress.loader)

def Outcome.ofUsageError : UsageError → Outcome
  | .helpRequested => ⟨0, "", []⟩
  | _ => ⟨2, "", []⟩

/-- Runs the program on files, started in a directory of theirs. -/
def runIn (files : FileTree) (workingPlace : List String) (arguments : List String) : Outcome :=
  match Settings.ofArguments arguments with
  | .error error => .ofUsageError error
  | .ok settings =>
    let directory := Directory.ofPath files workingPlace settings.sceneDirectory
    (run settings (.ofDirectory directory) ()).1

end SceneGraph.CommandLine
