import SceneGraph.Text.Printable

/-!
Strings quoted for diagnostics. Quotes and backslashes take a backslash, line breaks, tabs and NUL
have short forms, and all that would not show as itself is written as its code point.
-/
namespace SceneGraph.Text

/-- A code point between braces, in lower-case hexadecimal digits. -/
def codePointEscape (character : Char) : List Char :=
  ['\\', 'u', '\x7b'] ++ Nat.toDigits 16 character.toNat ++ ['\x7d']

def quotedCharacter (character : Char) : List Char :=
  match character with
  | '"' => ['\\', '"']
  | '\\' => ['\\', '\\']
  | '\n' => ['\\', 'n']
  | '\r' => ['\\', 'r']
  | '\t' => ['\\', 't']
  | '\x00' => ['\\', '0']
  | _ =>
      if isUnprintable character || isExtender character || isFiller character then
        codePointEscape character
      else [character]

def quoted (text : String) : String :=
  String.ofList ('"' :: text.toList.flatMap quotedCharacter ++ ['"'])

def quotedList (texts : List String) : String :=
  "[" ++ ", ".intercalate (texts.map quoted) ++ "]"

end SceneGraph.Text
