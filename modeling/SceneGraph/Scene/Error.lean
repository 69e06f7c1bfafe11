import SceneGraph.Tree.Document
import SceneGraph.World.Basic

/-!
What can go wrong with declared data, with documents and with builds.
-/
namespace SceneGraph

inductive ConstructError where
  | expectedMap (found : Shape)
  | expectedSequence (field : String) (found : Shape)
  | expectedNumber (field : String) (found : Shape)
  | world (error : WorldError)
deriving DecidableEq, Repr

def ConstructError.message : ConstructError → String
  | .expectedMap found => "expected a map, found " ++ found.name
  | .expectedSequence field found =>
      "field '" ++ field ++ "': expected a sequence, found " ++ found.name
  | .expectedNumber field found =>
      "field '" ++ field ++ "': expected a number, found " ++ found.name
  | .world error => error.message

inductive ReadFault where
  | invalidText
  | system (reason : String)
deriving DecidableEq, Repr

def ReadFault.message : ReadFault → String
  | .invalidText => "stream did not contain valid UTF-8"
  | .system reason => reason

inductive LoadError where
  | notFound (name : String)
  | unreadable (name path : String) (fault : ReadFault)
  | malformed (name : String) (error : Json.ParseError)
deriving DecidableEq, Repr

/-- The fault behind the error, where there is one. -/
def LoadError.cause? : LoadError → Option String
  | .notFound _ => none
  | .unreadable _ _ fault => some fault.message
  | .malformed _ error => some error.message

def LoadError.message : LoadError → String
  | .notFound name => "tree '" ++ name ++ "' not found"
  | .unreadable name path fault =>
      "failed to read tree '" ++ name ++ "' from " ++ path ++ ": " ++ fault.message
  | .malformed name error => "failed to parse tree '" ++ name ++ "': " ++ error.message

inductive BuildError where
  | load (error : LoadError)
  | templateCycle (source : String)
  | depthExceeded (name : String) (maxDepth : Nat)
  | missingScene (name : String)
deriving DecidableEq, Repr

def BuildError.cause? : BuildError → Option String
  | .load error => error.cause?
  | _ => none

def BuildError.message : BuildError → String
  | .load error => error.message
  | .templateCycle source => "template '" ++ source ++ "' includes itself"
  | .depthExceeded name maxDepth =>
      "node '" ++ name ++ "' exceeds the maximum nesting depth of " ++ toString maxDepth
  | .missingScene name => "scene document '" ++ name ++ "' has no 'scene' map"

end SceneGraph
