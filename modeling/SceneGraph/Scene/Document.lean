import SceneGraph.Scene.FileTree
import SceneGraph.Scene.Loader

/-!
Documents in files. A name stands for the file of that name, or else for the file of that name
with `.json` behind it.
-/
namespace SceneGraph

/-- The tree of a document that was read from a path as bytes. -/
def Tree.ofBytes (name path : String) (bytes : ByteArray) : Except LoadError Tree :=
  match String.fromUTF8? bytes with
  | none => .error (.unreadable name path .invalidText)
  | some text =>
    match Tree.ofText text with
    | .ok tree => .ok tree
    | .error error => .error (.malformed name error)

namespace Directory

/-- The names of files that a document may have, in order of preference. -/
def candidates (name : String) : List String := [name, name ++ ".json"]

def document? (directory : Directory) (name : String) : Option (String × ByteArray) :=
  (candidates name).findSome? fun candidate =>
    (directory.file? candidate).map fun bytes => (joinPath directory.spelling candidate, bytes)

end Directory

def Loader.ofDirectory (directory : Directory) : Loader Unit where
  load name _ :=
    match directory.document? name with
    | none => ⟨.error (.notFound name), (), []⟩
    | some (path, bytes) => ⟨Tree.ofBytes name path bytes, (), [.readingTree name path]⟩

end SceneGraph
