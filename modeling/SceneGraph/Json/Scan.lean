import SceneGraph.Json.Basic
import SceneGraph.Decimal.Numeral

/-!
The lexical part of JSON: blank space, numbers, strings and literal words, read from a list of
characters. A scanner returns what it read and the rest of the text, which is shorter. A failure
records how many bytes were left unread, so that no position has to be carried along.
-/
namespace SceneGraph.Json
open SceneGraph.Decimal (digitValue splitSign)

def byteCount (characters : List Char) : Nat :=
  (characters.map Char.utf8Size).foldr (· + ·) 0

structure Failure where
  fault : Fault
  unread : Nat
deriving DecidableEq, Repr

/-- A fault just before `rest`. -/
def Failure.before (fault : Fault) (rest : List Char) : Failure := ⟨fault, byteCount rest⟩

/-- A fault in the first byte of `rest`, or at the end of the text. -/
def Failure.within (fault : Fault) (rest : List Char) : Failure := ⟨fault, byteCount rest - 1⟩

/-- The rest of a text after something was read from it. -/
abbrev Rest (input : List Char) := { rest : List Char // rest.length < input.length }

abbrev Scanned (α : Type) (input : List Char) := Except Failure (α × Rest input)

def Rest.widen {input wider : List Char} (bound : input.length ≤ wider.length)
    (rest : Rest input) : Rest wider := ⟨rest.val, Nat.lt_of_lt_of_le rest.property bound⟩

/-- The same rest, of a text with one more character in front. -/
def Rest.behind {input : List Char} (first : Char) (rest : Rest input) : Rest (first :: input) :=
  rest.widen (Nat.le_succ _)

def isSpace (character : Char) : Bool :=
  character == ' ' || character == '\t' || character == '\n' || character == '\r'

def skipSpace (input : List Char) : List Char := input.dropWhile isSpace

theorem length_dropWhile_le {α : Type} (test : α → Bool) (items : List α) :
    (items.dropWhile test).length ≤ items.length :=
  (List.dropWhile_suffix test).length_le

theorem length_skipSpace_le (input : List Char) : (skipSpace input).length ≤ input.length :=
  length_dropWhile_le _ _

theorem length_lt_of_skipSpace {input rest : List Char} {first : Char}
    (found : skipSpace input = first :: rest) : rest.length < input.length := by
  have bound := length_skipSpace_le input
  rw [found] at bound
  exact bound

/-! Numbers -/

/-- A number as written: its digits, and the sign and digits of its exponent. -/
structure NumberText where
  negative : Bool
  whole : List Char
  fraction : List Char
  exponent : Option (Bool × List Char)
deriving DecidableEq, Repr

/-- One digit zero, or digits of which the first is not zero. -/
def wholePart : (input : List Char) → Scanned (List Char) input
  | [] => .error (.before .endInValue [])
  | first :: rest =>
      if first = '0' then
        if rest.head?.any Char.isDigit then .error (.within .invalidNumber rest)
        else .ok ([first], ⟨rest, by simp⟩)
      else if first.isDigit then
        .ok (first :: rest.takeWhile Char.isDigit,
          ⟨rest.dropWhile Char.isDigit, Nat.lt_succ_of_le (length_dropWhile_le _ _)⟩)
      else .error (.within .invalidNumber (first :: rest))

/-- The digits after a point, if there is a point. -/
def fractionPart (input : List Char) :
    Except Failure (List Char × { rest : List Char // rest.length ≤ input.length }) :=
  match input with
  | [] => .ok ([], ⟨[], Nat.le_refl _⟩)
  | mark :: after =>
      if mark ≠ '.' then .ok ([], ⟨mark :: after, Nat.le_refl _⟩)
      else if (after.takeWhile Char.isDigit).isEmpty then
        .error (if after.isEmpty then .before .endInValue [] else .within .invalidNumber after)
      else
        .ok (after.takeWhile Char.isDigit,
          ⟨after.dropWhile Char.isDigit, Nat.le_succ_of_le (length_dropWhile_le _ _)⟩)

theorem length_splitSign_le (input : List Char) : (splitSign input).2.length ≤ input.length := by
  unfold splitSign
  split <;> simp

/-- The sign and digits of an exponent, if there is one. -/
def exponentPart (input : List Char) :
    Except Failure
      (Option (Bool × List Char) × { rest : List Char // rest.length ≤ input.length }) :=
  match input with
  | [] => .ok (none, ⟨[], Nat.le_refl _⟩)
  | mark :: after =>
      if mark = 'e' || mark = 'E' then
        let digits := (splitSign after).2
        if digits.isEmpty then .error (.before .endInValue [])
        else if (digits.takeWhile Char.isDigit).isEmpty then .error (.within .invalidNumber digits)
        else
          .ok (some ((splitSign after).1, digits.takeWhile Char.isDigit),
            ⟨digits.dropWhile Char.isDigit,
              Nat.le_succ_of_le
                (Nat.le_trans (length_dropWhile_le _ _) (length_splitSign_le _))⟩)
      else .ok (none, ⟨mark :: after, Nat.le_refl _⟩)

def numberText (input : List Char) : Scanned NumberText input :=
  let negative := input.head? = some '-'
  let unsigned := if negative then input.tail else input
  have shorter : unsigned.length ≤ input.length := by
    simp only [unsigned]
    split <;> simp
  match wholePart unsigned with
  | .error failure => .error failure
  | .ok (whole, afterWhole) =>
    match fractionPart afterWhole.val with
    | .error failure => .error failure
    | .ok (fraction, afterFraction) =>
      match exponentPart afterFraction.val with
      | .error failure => .error failure
      | .ok (exponent, rest) =>
        .ok (⟨negative, whole, fraction, exponent⟩,
          ⟨rest.val, Nat.lt_of_le_of_lt (Nat.le_trans rest.property afterFraction.property)
            (Nat.lt_of_lt_of_le afterWhole.property shorter)⟩)

/-- Takes digits into `value` as long as it stays within `limit`; returns those left over. -/
def absorb (limit : Nat) : (value : Nat) → List Char → Nat × List Char
  | value, [] => (value, [])
  | value, digit :: digits =>
      if limit < 10 * value + digitValue digit then (value, digit :: digits)
      else absorb limit (10 * value + digitValue digit) digits

def wordLimit : Nat := Nat.pow 2 64 - 1

def exponentLimit : Nat := Nat.pow 2 31 - 1

/-- `value * 10 ^ exponent` in double arithmetic: one product or quotient with a power of ten,
after as many divisions by the largest power as a small exponent needs. Nothing when the result is
infinite. -/
def scaleByTen? (value : Float) (exponent : Int) : Option Float :=
  if exponent.natAbs ≤ 308 then
    let power := Binary.floatOfInt (Nat.pow 10 exponent.natAbs)
    if 0 ≤ exponent then
      let product := value * power
      if product.isInf then none else some product
    else some (value / power)
  else if value == 0.0 then some value
  else if 0 ≤ exponent then none
  else scaleByTen? (value / Binary.floatOfInt (Nat.pow 10 308)) (exponent + 308)
termination_by (-exponent).toNat
decreasing_by omega

def withSign (negative : Bool) (value : Float) : Float := if negative then -value else value

/-- The value of a number that was followed by `rest`. Digits count while they fit a 64-bit word;
further ones before the point only scale the value, further ones after it are dropped. -/
def NumberText.value (text : NumberText) (rest : List Char) : Except Failure Number :=
  let (wholeWord, wholeLeft) := absorb wordLimit 0 text.whole
  let (word, fractionLeft) := absorb wordLimit wholeWord text.fraction
  let scale : Int := wholeLeft.length - (text.fraction.length - fractionLeft.length : Nat)
  let scaled (exponent : Int) : Except Failure Number :=
    match scaleByTen? (Binary.floatOfInt word) exponent with
    | some value => .ok (.double (withSign text.negative value))
    | none => .error (.before .numberOutOfRange rest)
  match text.exponent with
  | some (negativeExponent, digits) =>
      let (exponent, left) := absorb exponentLimit 0 digits
      if left.isEmpty then scaled (scale + if negativeExponent then -(exponent : Int) else exponent)
      else if negativeExponent || word = 0 then .ok (.double (withSign text.negative 0.0))
      else .error ⟨.numberOutOfRange, byteCount rest + left.length - 1⟩
  | none =>
      if !text.fraction.isEmpty || !wholeLeft.isEmpty then scaled scale
      else if !text.negative then .ok (.integer word)
      else if word = 0 || Nat.pow 2 63 < word then .ok (.double (-Binary.floatOfInt word))
      else .ok (.integer (-word))

def readNumber (input : List Char) : Scanned Number input :=
  match numberText input with
  | .error failure => .error failure
  | .ok (text, rest) => (text.value rest.val).map (·, rest)

/-- A number of which only the form is looked at. -/
def skimNumber (input : List Char) : Scanned Number input :=
  match numberText input with
  | .error failure => .error ⟨.invalidNumber, failure.unread⟩
  | .ok (_, rest) => .ok (.integer 0, rest)

/-! Strings -/

def hexDigit? (character : Char) : Option Nat :=
  if character.isDigit then some (character.toNat - '0'.toNat)
  else if 'a' ≤ character && character ≤ 'f' then some (character.toNat - 'a'.toNat + 10)
  else if 'A' ≤ character && character ≤ 'F' then some (character.toNat - 'A'.toNat + 10)
  else none

/-- The 16-bit unit that four hexadecimal digits write. -/
def hexUnit (input : List Char) : Scanned Nat input :=
  let failure : Failure :=
    if byteCount input < 4 then .before .endInString []
    else ⟨.invalidEscape, byteCount input - 4⟩
  match input with
  | a :: b :: c :: d :: rest =>
      match hexDigit? a, hexDigit? b, hexDigit? c, hexDigit? d with
      | some a, some b, some c, some d =>
          .ok (((a * 16 + b) * 16 + c) * 16 + d, ⟨rest, by simp only [List.length_cons]; omega⟩)
      | _, _, _, _ => .error failure
  | _ => .error failure

def isLeadingSurrogate (unit : Nat) : Bool := 0xD800 ≤ unit && unit ≤ 0xDBFF

def isTrailingSurrogate (unit : Nat) : Bool := 0xDC00 ≤ unit && unit ≤ 0xDFFF

/-- The character of a surrogate pair. -/
def surrogatePair (leading trailing : Nat) : Char :=
  Char.ofNat (0x10000 + (leading - 0xD800) * 0x400 + (trailing - 0xDC00))

/-- Consumes one given character of an escape that a leading surrogate requires. -/
def expectPair (expected : Char) : (input : List Char) → Scanned Unit input
  | [] => .error (.before .endInString [])
  | first :: rest =>
      if first = expected then .ok ((), ⟨rest, by simp⟩)
      else .error (.within .unfinishedSurrogate (first :: rest))

/-- The character that an escape writes in 16-bit units; a character beyond them takes two. -/
def unicodeEscape (input : List Char) : Scanned Char input :=
  match hexUnit input with
  | .error failure => .error failure
  | .ok (unit, rest) =>
    if isTrailingSurrogate unit then .error (.before .loneSurrogate rest.val)
    else if isLeadingSurrogate unit then
      match expectPair '\\' rest.val with
      | .error failure => .error failure
      | .ok (_, afterSlash) =>
        match expectPair 'u' afterSlash.val with
        | .error failure => .error failure
        | .ok (_, afterLetter) =>
          match hexUnit afterLetter.val with
          | .error failure => .error failure
          | .ok (second, final) =>
            if isTrailingSurrogate second then
              .ok (surrogatePair unit second,
                ⟨final.val, by have := rest.property; have := afterSlash.property
                               have := afterLetter.property; have := final.property; omega⟩)
            else .error (.before .loneSurrogate final.val)
    else .ok (Char.ofNat unit, rest)

/-- The character that a letter after a backslash stands for. -/
def escapeLetter? : Char → Option Char
  | '"' => some '"'
  | '\\' => some '\\'
  | '/' => some '/'
  | 'b' => some '\x08'
  | 'f' => some '\x0c'
  | 'n' => some '\n'
  | 'r' => some '\r'
  | 't' => some '\t'
  | _ => none

/-- What follows a backslash; `unit` reads the part after the letter `u`. -/
def escape (unit : ∀ input, Scanned Char input) : (input : List Char) → Scanned Char input
  | [] => .error (.before .endInString [])
  | letter :: rest =>
      match escapeLetter? letter with
      | some character => .ok (character, ⟨rest, by simp⟩)
      | none =>
          if letter = 'u' then
            (unit rest).map fun (character, final) => (character, final.behind _)
          else .error (.within .invalidEscape (letter :: rest))

/-- The characters up to the closing quote, after those in `taken`, last first. -/
def stringTail (unit : ∀ input, Scanned Char input) (taken : List Char) (input : List Char) :
    Scanned String input :=
  match input with
  | [] => .error (.before .endInString [])
  | first :: rest =>
      if first = '"' then .ok (String.ofList taken.reverse, ⟨rest, by simp⟩)
      else if first = '\\' then
        match escape unit rest with
        | .error failure => .error failure
        | .ok (character, ⟨after, shorter⟩) =>
          match stringTail unit (character :: taken) after with
          | .error failure => .error failure
          | .ok (text, final) =>
            .ok (text, final.widen (by simp only [List.length_cons]; omega))
      else if first.toNat < 0x20 then .error (.within .controlCharacter (first :: rest))
      else
        match stringTail unit (first :: taken) rest with
        | .error failure => .error failure
        | .ok (text, final) => .ok (text, final.behind _)
termination_by input.length

/-- A string after its opening quote. -/
def readString (input : List Char) : Scanned String input := stringTail unicodeEscape [] input

/-- A string of which only the form is looked at: surrogates need no partner. -/
def skimString (input : List Char) : Scanned String input :=
  stringTail (fun input => (hexUnit input).map fun (_, rest) => (' ', rest)) [] input

/-! Literal words -/

/-- The remaining letters of a literal word. -/
def wordTail : (letters : List Char) → (input : List Char) →
    Except Failure { rest : List Char // rest.length ≤ input.length }
  | [], input => .ok ⟨input, Nat.le_refl _⟩
  | _ :: _, [] => .error (.before .endInValue [])
  | letter :: letters, first :: rest =>
      if first = letter then
        (wordTail letters rest).map fun final => ⟨final.val, Nat.le_succ_of_le final.property⟩
      else .error (.within .expectedIdent (first :: rest))

end SceneGraph.Json
