import SceneGraph.Json.Scan
import SceneGraph.OrderedMap

/-!
JSON documents. `value` reads one value; arrays and objects nest to a fixed number of levels.
`parse` reads a whole text and says where the first fault is. A repeated key of an object keeps
its first position and takes its last value.
-/
namespace SceneGraph.Json

/-- A container's closing bracket, and the faults of a container that does not reach it. -/
structure Bracket where
  closing : Char
  unfinished : Fault
  unexpected : Fault
deriving DecidableEq, Repr

def listBracket : Bracket := ⟨']', .endInList, .expectedListEnd⟩

def objectBracket : Bracket := ⟨'}', .endInObject, .expectedObjectEnd⟩

/-- What stands next in a container: the text after its closing bracket, or an item's text. -/
inductive Upcoming (input : List Char) where
  | closed (rest : Rest input)
  | item (start : List Char) (bound : start.length ≤ input.length)

/-- Finds the next item of a container. Items after the first follow a comma, and no comma stands
before the closing bracket. -/
def upcoming (bracket : Bracket) (first : Bool) (input : List Char) :
    Except Failure (Upcoming input) :=
  have bound := length_skipSpace_le input
  match found : skipSpace input with
  | [] => .error (.before bracket.unfinished [])
  | next :: rest =>
      have bound : (next :: rest).length ≤ input.length := found ▸ bound
      if next = bracket.closing then .ok (.closed ⟨rest, bound⟩)
      else if first then .ok (.item (next :: rest) bound)
      else if next = ',' then
        have after := length_skipSpace_le rest
        match rest_found : skipSpace rest with
        | [] => .error (.before .endInValue [])
        | start :: tail =>
            if start = bracket.closing then .error (.within .trailingComma (start :: tail))
            else .ok (.item (start :: tail)
              (by rw [rest_found] at after; simp only [List.length_cons] at *; omega))
      else .error (.within bracket.unexpected (next :: rest))

/-- A reader of one value, blank space before it included. -/
abbrev Reader (α : Type) := ∀ input : List Char, Scanned α input

/-- The items of a list from a point inside it up to its closing bracket. -/
def listTail {α : Type} (item : Reader α) (first : Bool) (input : List Char) :
    Scanned (List α) input :=
  match upcoming listBracket first input with
  | .error failure => .error failure
  | .ok (.closed rest) => .ok ([], rest)
  | .ok (.item start bound) =>
    match item start with
    | .error failure => .error failure
    | .ok (value, ⟨after, shorter⟩) =>
      match listTail item false after with
      | .error failure => .error failure
      | .ok (values, final) =>
        .ok (value :: values, final.widen (Nat.le_of_lt (Nat.lt_of_lt_of_le shorter bound)))
termination_by input.length

def memberKey (key : Reader String) : Reader String
  | [] => .error (.before .keyNotString [])
  | first :: rest =>
      if first = '"' then (key rest).map fun (text, final) => (text, final.behind _)
      else .error (.within .keyNotString (first :: rest))

def colon : Reader Unit := fun input =>
  match found : skipSpace input with
  | [] => .error (.before .endInObject [])
  | first :: rest =>
      if first = ':' then .ok ((), ⟨rest, length_lt_of_skipSpace found⟩)
      else .error (.within .expectedColon (first :: rest))

/-- The members of an object from a point inside it up to its closing bracket. -/
def memberTail {α : Type} (key : Reader String) (item : Reader α) (first : Bool)
    (input : List Char) : Scanned (List (String × α)) input :=
  match upcoming objectBracket first input with
  | .error failure => .error failure
  | .ok (.closed rest) => .ok ([], rest)
  | .ok (.item start bound) =>
    match memberKey key start with
    | .error failure => .error failure
    | .ok (name, ⟨afterKey, keyShorter⟩) =>
      match colon afterKey with
      | .error failure => .error failure
      | .ok (_, ⟨afterColon, colonShorter⟩) =>
        match item afterColon with
        | .error failure => .error failure
        | .ok (value, ⟨after, shorter⟩) =>
          match memberTail key item false after with
          | .error failure => .error failure
          | .ok (members, final) =>
            .ok ((name, value) :: members, final.widen (by omega))
termination_by input.length
decreasing_by omega

structure Scalars where
  number : Reader Number
  string : Reader String

/-- Numbers must have a value and strings must be text. -/
def strict : Scalars := ⟨readNumber, readString⟩

/-- Only the form of numbers and strings counts. -/
def skimming : Scalars := ⟨skimNumber, skimString⟩

def literal (letters : List Char) (value : Json) (first : Char) (rest : List Char) :
    Scanned Json (first :: rest) :=
  (wordTail letters rest).map fun final => (value, ⟨final.val, Nat.lt_succ_of_le final.property⟩)

/-- A value from its first character on; `nested` reads the values inside it, if another level is
allowed. -/
def valueFrom (scalars : Scalars) (nested : Option (Reader Json)) : Reader Json
  | [] => .error (.before .endInValue [])
  | first :: rest =>
      match first with
      | 'n' => literal ['u', 'l', 'l'] .null first rest
      | 't' => literal ['r', 'u', 'e'] (.bool true) first rest
      | 'f' => literal ['a', 'l', 's', 'e'] (.bool false) first rest
      | '"' =>
          (scalars.string rest).map fun (text, final) => (.string text, final.behind _)
      | '[' =>
          match nested with
          | none => .error (.within .recursionLimit (first :: rest))
          | some item =>
              (listTail item true rest).map fun (items, final) =>
                (.array items, final.behind _)
      | '{' =>
          match nested with
          | none => .error (.within .recursionLimit (first :: rest))
          | some item =>
              (memberTail scalars.string item true rest).map fun (members, final) =>
                (.object (OrderedMap.ofList members).entries, final.behind _)
      | _ =>
          if first = '-' || first.isDigit then
            (scalars.number (first :: rest)).map fun (value, final) => (.number value, final)
          else .error (.within .expectedValue (first :: rest))

/-- A value that nests containers at most `levels` deep. -/
def value (scalars : Scalars) : (levels : Nat) → Reader Json
  | 0 => fun input =>
      (valueFrom scalars none (skipSpace input)).map fun (read, final) =>
        (read, final.widen (length_skipSpace_le input))
  | levels + 1 => fun input =>
      (valueFrom scalars (some (value scalars levels)) (skipSpace input)).map
        fun (read, final) => (read, final.widen (length_skipSpace_le input))

/-- How deep the containers of a document may nest. -/
def nestingLimit : Nat := 127

/-- Line and column of the position after `offset` bytes, from a position on. -/
def locate (line column : Nat) : (offset : Nat) → List Char → Nat × Nat
  | 0, _ | _, [] => (line, column)
  | offset, character :: rest =>
      if offset < character.utf8Size then (line, column + offset)
      else if character = '\n' then locate (line + 1) 0 (offset - character.utf8Size) rest
      else locate line (column + character.utf8Size) (offset - character.utf8Size) rest

def Failure.locate (failure : Failure) (text : List Char) : ParseError :=
  let (line, column) := Json.locate 1 0 (byteCount text - failure.unread) text
  ⟨failure.fault, line, column⟩

def finish (input : List Char) : Except Failure Unit :=
  match skipSpace input with
  | [] => .ok ()
  | first :: rest => .error (.within .trailingCharacters (first :: rest))

def readAll {α : Type} (reader : Reader α) (text : String) : Except ParseError α :=
  let characters := text.toList
  match reader characters with
  | .error failure => .error (failure.locate characters)
  | .ok (read, rest) =>
    match finish rest.val with
    | .error failure => .error (failure.locate characters)
    | .ok () => .ok read

def parse (text : String) : Except ParseError Json := readAll (value strict nestingLimit) text

end SceneGraph.Json
