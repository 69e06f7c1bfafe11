/-!
JSON values. An object is its list of members in order. Numbers keep the kind they were written
or built with: integers of at most 64 bits, doubles and singles.
-/
namespace SceneGraph

inductive Json.Number where
  | integer (value : Int)
  | double (value : Float)
  | single (value : Float32)
deriving DecidableEq, Repr

inductive Json where
  | null
  | bool (value : Bool)
  | number (value : Json.Number)
  | string (value : String)
  | array (items : List Json)
  | object (members : List (String × Json))

namespace Json

instance : Inhabited Json := ⟨null⟩

def natural (value : Nat) : Json := number (.integer value)

/-- Why a text is no JSON document, or not one of the expected shape. -/
inductive Fault where
  | endInValue
  | endInList
  | endInObject
  | endInString
  | expectedValue
  | expectedIdent
  | expectedColon
  | expectedListEnd
  | expectedObjectEnd
  | keyNotString
  | trailingComma
  | trailingCharacters
  | invalidNumber
  | numberOutOfRange
  | invalidEscape
  | loneSurrogate
  | unfinishedSurrogate
  | controlCharacter
  | recursionLimit
  | mismatched
deriving DecidableEq, Repr

def Fault.message : Fault → String
  | .endInValue => "EOF while parsing a value"
  | .endInList => "EOF while parsing a list"
  | .endInObject => "EOF while parsing an object"
  | .endInString => "EOF while parsing a string"
  | .expectedValue => "expected value"
  | .expectedIdent => "expected ident"
  | .expectedColon => "expected `:`"
  | .expectedListEnd => "expected `,` or `]`"
  | .expectedObjectEnd => "expected `,` or `\x7d`"
  | .keyNotString => "key must be a string"
  | .trailingComma => "trailing comma"
  | .trailingCharacters => "trailing characters"
  | .invalidNumber => "invalid number"
  | .numberOutOfRange => "number out of range"
  | .invalidEscape => "invalid escape"
  | .loneSurrogate => "lone leading surrogate in hex escape"
  | .unfinishedSurrogate => "unexpected end of hex escape"
  | .controlCharacter => "control character (\\u0000-\\u001F) found while parsing a string"
  | .recursionLimit => "recursion limit exceeded"
  | .mismatched => "value of another shape"

/-- What a fault says about the text: it ends too early, its form is wrong, or its form is right and
its shape is not the expected one. -/
inductive Fault.Kind where
  | unfinished
  | malformed
  | mismatched
deriving DecidableEq, Repr

def Fault.kind : Fault → Fault.Kind
  | .endInValue | .endInList | .endInObject | .endInString => .unfinished
  | .mismatched => .mismatched
  | _ => .malformed

/-- A fault and where it was found: lines count from one, columns in bytes since the last line
break. -/
structure ParseError where
  fault : Fault
  line : Nat
  column : Nat
deriving DecidableEq, Repr

def ParseError.message (error : ParseError) : String :=
  error.fault.message ++ " at line " ++ toString error.line ++ " column " ++ toString error.column

end Json
end SceneGraph
