import SceneGraph.Binary
import SceneGraph.Text.Blank

/-!
Numbers written by people: an optional sign, then digits with an optional point and an optional
exponent, or one of the words `inf`, `infinity` and `nan` in any case. The value is rounded once,
from the exact decimal to the nearest single.
-/
namespace SceneGraph.Decimal
open SceneGraph.Binary

def digitValue (character : Char) : Nat := character.toNat - '0'.toNat

/-- The number that decimal digits write, first digit most significant. -/
def numeralValue (digits : List Char) : Nat :=
  digits.foldl (fun value digit => 10 * value + digitValue digit) 0

/-- Digits around an optional point, and a power of ten. -/
structure Numeral where
  whole : List Char
  fraction : List Char
  exponent : Int
deriving DecidableEq, Repr

def splitSign : List Char → Bool × List Char
  | '-' :: rest => (true, rest)
  | '+' :: rest => (false, rest)
  | rest => (false, rest)

/-- The exponent part that ends a numeral: nothing, or `e` and a signed integer. -/
def exponentPart? : List Char → Option Int
  | [] => some 0
  | mark :: rest =>
      let (negative, digits) := splitSign rest
      if mark.toLower = 'e' && !digits.isEmpty && digits.all Char.isDigit then
        some (if negative then -(numeralValue digits : Int) else numeralValue digits)
      else none

/-- Reads a numeral without sign. At least one digit stands on one side of the point. -/
def Numeral.ofChars? (characters : List Char) : Option Numeral :=
  let whole := characters.takeWhile Char.isDigit
  let rest := characters.dropWhile Char.isDigit
  let (fraction, rest) := match rest with
    | '.' :: rest => (rest.takeWhile Char.isDigit, rest.dropWhile Char.isDigit)
    | _ => ([], rest)
  if whole.isEmpty && fraction.isEmpty then none
  else (exponentPart? rest).map fun exponent => ⟨whole, fraction, exponent⟩

/-- The single closest to a numeral. Far outside the range of singles the scale decides alone, so
that a large exponent costs nothing. -/
def Numeral.toFloat32 (negative : Bool) (numeral : Numeral) : Float32 :=
  let digits := (numeral.whole ++ numeral.fraction).dropWhile (· == '0')
  let exponent := numeral.exponent - numeral.fraction.length
  let scale := exponent + digits.length
  if digits.isEmpty || scale < -100 then float32OfQuotient negative 0 1
  else if 100 < scale then Binary.toFloat32 (.infinite negative)
  else float32OfQuotient negative (numeralValue digits * Nat.pow 10 exponent.toNat)
    (Nat.pow 10 (-exponent).toNat)

/-- The value of a word that stands for no finite number. -/
def wordValue? (negative : Bool) (characters : List Char) : Option Float32 :=
  match String.ofList (characters.map Char.toLower) with
  | "inf" | "infinity" => some (Binary.toFloat32 (.infinite negative))
  | "nan" => some (Binary.toFloat32 .nan)
  | _ => none

/-- The number a text writes, blank characters around it aside. -/
def float32OfText? (text : String) : Option Float32 :=
  let (negative, characters) := splitSign (Text.trimBlank text.toList)
  match Numeral.ofChars? characters with
  | some numeral => some (numeral.toFloat32 negative)
  | none => wordValue? negative characters

end SceneGraph.Decimal
