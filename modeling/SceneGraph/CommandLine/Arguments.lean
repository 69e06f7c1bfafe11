import SceneGraph.Scene.Builder

/-!
The arguments of the program: the scene to build, where documents are, how many copies to make, how
deep nodes may nest and how to print. Options are given in the usual long and short forms, and
after `--` everything is a scene name.
-/
namespace SceneGraph.CommandLine

structure Settings where
  sceneDirectory : String
  scene : String
  copies : Nat
  maxDepth : Nat
  pretty : Bool
deriving DecidableEq, Repr

/-- Why arguments are refused, or that help was asked for. -/
inductive UsageError where
  | missingScene
  | unknownArgument
  | invalidNumber
  | missingValue
  | repeated
  | unexpectedValue
  | helpRequested
deriving DecidableEq, Repr

inductive Parameter where
  | sceneDirectory
  | scene
  | copies
  | maxDepth
deriving DecidableEq, Repr

/-- What has been read so far. The value that was read last is pending: it is looked at when the
next argument begins. -/
structure Reading where
  sceneDirectory : Option String
  scene : Option String
  copies : Option Nat
  maxDepth : Option Nat
  pretty : Bool
  pending : Option (Parameter × Option String)
  sceneSeen : Bool
  sceneOnly : Bool
deriving DecidableEq, Repr

def Reading.start : Reading := ⟨none, none, none, none, false, none, false, false⟩

def numberLimit : Nat := Nat.pow 2 64 - 1

/-- A natural number of at most 64 bits in decimal digits, with an optional plus sign. -/
def number? (text : String) : Option Nat :=
  let digits := match text.toList with
    | '+' :: rest => rest
    | characters => characters
  if digits.isEmpty || !digits.all Char.isDigit then none
  else
    let value := Decimal.numeralValue digits
    if numberLimit < value then none else some value

namespace Reading

def isSet (reading : Reading) : Parameter → Bool
  | .sceneDirectory => reading.sceneDirectory.isSome
  | .scene => reading.scene.isSome
  | .copies => reading.copies.isSome
  | .maxDepth => reading.maxDepth.isSome

def take (reading : Reading) (parameter : Parameter) (value : String) :
    Except UsageError Reading :=
  if reading.isSet parameter then .error .repeated
  else
    match parameter with
    | .sceneDirectory =>
        if value.isEmpty then .error .missingValue
        else .ok { reading with sceneDirectory := some value }
    | .scene => .ok { reading with scene := some value }
    | .copies =>
        match number? value with
        | some copies => .ok { reading with copies := some copies }
        | none => .error .invalidNumber
    | .maxDepth =>
        match number? value with
        | some maxDepth => .ok { reading with maxDepth := some maxDepth }
        | none => .error .invalidNumber

def settle (reading : Reading) : Except UsageError Reading :=
  match reading.pending with
  | none => .ok reading
  | some (_, none) => .error .missingValue
  | some (parameter, some value) => { reading with pending := none }.take parameter value

/-- An option with the value attached to it, or still to come. -/
def option (reading : Reading) (parameter : Parameter) (attached : Option String) :
    Except UsageError Reading := do
  let reading ← reading.settle
  match attached with
  | some value => reading.take parameter value
  | none => return { reading with pending := some (parameter, none) }

def prettyFlag (reading : Reading) : Except UsageError Reading := do
  let reading ← reading.settle
  if reading.pretty then throw .repeated else return { reading with pretty := true }

def help (reading : Reading) : Except UsageError Reading := do
  let _ ← reading.settle
  throw .helpRequested

/-- An argument that starts with two hyphens, without them; a value may follow an equals sign. -/
def long (reading : Reading) (name : String) (value : Option String) :
    Except UsageError Reading :=
  match name with
  | "scene-dir" => reading.option .sceneDirectory value
  | "copies" => reading.option .copies value
  | "max-depth" => reading.option .maxDepth value
  | "pretty" => if value.isSome then .error .unexpectedValue else reading.prettyFlag
  | "help" => if value.isSome then .error .unexpectedValue else reading.help
  | _ => .error .unknownArgument

def attachedValue : List Char → Option String
  | [] => none
  | '=' :: rest => some (String.ofList rest)
  | characters => some (String.ofList characters)

/-- An argument that starts with one hyphen, without it: flags, and last an option. -/
def short (reading : Reading) : List Char → Except UsageError Reading
  | [] => .ok reading
  | 'p' :: rest => do short (← reading.prettyFlag) rest
  | 'h' :: _ => reading.help
  | 'd' :: rest => reading.option .sceneDirectory (attachedValue rest)
  | 'c' :: rest => reading.option .copies (attachedValue rest)
  | _ => .error .unknownArgument

def sceneName (reading : Reading) (value : String) : Except UsageError Reading :=
  if reading.sceneSeen then .error .unknownArgument
  else do
    let reading ← reading.settle
    return { reading with pending := some (.scene, some value), sceneSeen := true }

/-- An argument that is no option: the value of the option before it, or the scene. -/
def plain (reading : Reading) (value : String) : Except UsageError Reading :=
  match reading.pending with
  | some (parameter, none) => .ok { reading with pending := some (parameter, some value) }
  | _ => reading.sceneName value

def splitLong (characters : List Char) : String × Option String :=
  (String.ofList (characters.takeWhile (· != '=')),
    match characters.dropWhile (· != '=') with
    | [] => none
    | _ :: value => some (String.ofList value))

def argument (reading : Reading) (text : String) : Except UsageError Reading :=
  if reading.sceneOnly then reading.sceneName text
  else
    match text.toList with
    | ['-', '-'] => .ok { reading with sceneOnly := true }
    | '-' :: '-' :: rest => reading.long (splitLong rest).1 (splitLong rest).2
    | ['-'] => reading.plain text
    | '-' :: rest => reading.short rest
    | _ => reading.plain text

end Reading

/-- The settings that arguments give, the program's name not among them. -/
def Settings.ofArguments (arguments : List String) : Except UsageError Settings := do
  let reading ← arguments.foldlM Reading.argument Reading.start
  let reading ← reading.settle
  match reading.scene with
  | none => throw .missingScene
  | some scene =>
    return {
      sceneDirectory := reading.sceneDirectory.getD "."
      scene
      copies := reading.copies.getD 1
      maxDepth := reading.maxDepth.getD defaultMaxDepth
      pretty := reading.pretty }

end SceneGraph.CommandLine
