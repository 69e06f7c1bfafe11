/-!
Directories of files as values, and how paths find their way through them. A place is named by the
directories that lead to it, innermost first. A path is walked part by part: every part but the
last must be in an existing directory, `.` stays, `..` goes up, and a path that leaves the tree
finds nothing.
-/
namespace SceneGraph

/-- Files with their bytes and directories without, each at its place; an entry hides earlier
ones at its place, and implies the directories above it. -/
structure FileTree where
  entries : List (List String × Option ByteArray)

namespace FileTree

def empty : FileTree := ⟨[]⟩

def add (tree : FileTree) (place : List String) (content : Option ByteArray) : FileTree :=
  ⟨(place, content) :: tree.entries⟩

/-- What is found at a place where something was put. -/
def entry? (tree : FileTree) (place : List String) : Option (Option ByteArray) :=
  (tree.entries.find? fun entry => entry.1 == place).map Prod.snd

def file? (tree : FileTree) (place : List String) : Option ByteArray :=
  (tree.entry? place).bind id

def isDirectory (tree : FileTree) (place : List String) : Bool :=
  place.isEmpty ||
    match tree.entry? place with
    | some content => content.isNone
    | none => tree.entries.any fun entry => place.isSuffixOf entry.1

/-- The parts of a path; an empty part, as after a trailing slash, stays like `.`. -/
def parts (path : String) : List String := path.splitOn "/"

/-- The place that a path's parts lead to from a place. -/
def walk (tree : FileTree) : (place : List String) → List String → Option (List String)
  | place, [] => some place
  | place, part :: rest =>
      if !tree.isDirectory place then none
      else if part = "" || part = "." then walk tree place rest
      else if part = ".." then
        match place with
        | [] => none
        | _ :: outer => walk tree outer rest
      else walk tree (part :: place) rest

end FileTree

/-- A path continued by a name. An absolute name stands for itself. -/
def joinPath (path name : String) : String :=
  if name.startsWith "/" || path.isEmpty then name
  else if path.endsWith "/" then path ++ name
  else path ++ "/" ++ name

/-- A directory to read documents from: where it is, if it exists, and how it was spelled. -/
structure Directory where
  files : FileTree
  place : Option (List String)
  spelling : String

namespace Directory

def ofPath (files : FileTree) (workingPlace : List String) (path : String) : Directory :=
  ⟨files, if path.startsWith "/" then none else files.walk workingPlace (FileTree.parts path), path⟩

/-- The longest path that can name anything, in bytes. -/
def pathLimit : Nat := 4095

/-- The longest name of a file or a directory, in bytes. -/
def nameLimit : Nat := 255

def file? (directory : Directory) (name : String) : Option ByteArray :=
  if name.startsWith "/" || pathLimit < (joinPath directory.spelling name).utf8ByteSize ||
      (FileTree.parts name).any (fun part => nameLimit < part.utf8ByteSize) then none
  else
    directory.place.bind fun place =>
      (directory.files.walk place (FileTree.parts name)).bind directory.files.file?

end Directory
end SceneGraph
