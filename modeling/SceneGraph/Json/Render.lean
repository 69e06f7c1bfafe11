import SceneGraph.Json.Basic
import SceneGraph.Decimal.Notation

/-!
The text of a JSON value: compact, or with one item a line and two spaces of indentation a level.
-/
namespace SceneGraph.Json
open SceneGraph.Decimal

/-- Doubles have the fewest digits that read back, a decimal point or an exponent, and an exponent
from `1e+16` and below `1e-5`. -/
def doubleLayout : Layout := ⟨.even, some (-5, 16), true⟩

/-- Singles have an exponent from `1e+13` and below `1e-6`. -/
def singleLayout : Layout := ⟨.even, some (-6, 13), true⟩

/-- NaN and the infinities have no JSON number and are written as null. -/
def Number.render : Number → String
  | .integer value => toString value
  | .double value => (doubleLayout.render? Binary.double (Binary.ofFloat value)).getD "null"
  | .single value => (singleLayout.render? Binary.single (Binary.ofFloat32 value)).getD "null"

def hexDigit (value : Nat) : Char :=
  if value < 10 then Char.ofNat ('0'.toNat + value) else Char.ofNat ('a'.toNat + value - 10)

/-- A character inside a string. Only quotes, backslashes and control characters are escaped. -/
def escapeCharacter (character : Char) : List Char :=
  match character with
  | '"' => ['\\', '"']
  | '\\' => ['\\', '\\']
  | '\x08' => ['\\', 'b']
  | '\x0c' => ['\\', 'f']
  | '\n' => ['\\', 'n']
  | '\r' => ['\\', 'r']
  | '\t' => ['\\', 't']
  | _ =>
      if character.toNat < 0x20 then
        ['\\', 'u', '0', '0', hexDigit (character.toNat / 16), hexDigit (character.toNat % 16)]
      else [character]

def quote (text : String) : String :=
  String.ofList ('"' :: text.toList.flatMap escapeCharacter ++ ['"'])

mutual

def render : Json → String
  | .null => "null"
  | .bool value => if value then "true" else "false"
  | .number value => value.render
  | .string text => quote text
  | .array items => "[" ++ ",".intercalate (renderItems items) ++ "]"
  | .object members => "\x7b" ++ ",".intercalate (renderMembers members) ++ "\x7d"

def renderItems : List Json → List String
  | [] => []
  | item :: items => item.render :: renderItems items

def renderMembers : List (String × Json) → List String
  | [] => []
  | (key, value) :: members => (quote key ++ ":" ++ value.render) :: renderMembers members

end

/-- The parts of a container between its brackets, each on a line one level deeper. -/
def block (indent : String) (opening closing : String) (parts : List String) : String :=
  if parts.isEmpty then opening ++ closing
  else
    opening ++ "\n" ++ ",\n".intercalate (parts.map (indent ++ "  " ++ ·)) ++ "\n" ++ indent ++
      closing

mutual

/-- The indented text of a value that starts on a line indented by `indent`. -/
def renderIndented (indent : String) : Json → String
  | .array items => block indent "[" "]" (indentItems (indent ++ "  ") items)
  | .object members => block indent "\x7b" "\x7d" (indentMembers (indent ++ "  ") members)
  | .null => "null"
  | .bool value => if value then "true" else "false"
  | .number value => value.render
  | .string text => quote text

def indentItems (indent : String) : List Json → List String
  | [] => []
  | item :: items => renderIndented indent item :: indentItems indent items

def indentMembers (indent : String) : List (String × Json) → List String
  | [] => []
  | (key, value) :: members =>
      (quote key ++ ": " ++ renderIndented indent value) :: indentMembers indent members

end

def renderPretty (value : Json) : String := renderIndented "" value

end SceneGraph.Json
