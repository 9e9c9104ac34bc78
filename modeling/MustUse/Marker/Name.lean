import MustUse.Text.Cut

/-!
# Marker names

A marker is identified by a namespace and a local name, written with a colon between them. A
namespace is a lower-case letter followed by lower-case letters and digits; a local name is a
non-empty word of letters, digits, hyphens and underscores.

Main definitions:

- `Name`, `Name.mustUse`;
- `Name.text`, `Name.parse?`: writing and reading.
-/

namespace MustUse
namespace Marker

/-- The identity of a marker. -/
structure Name where
  space : String
  label : String
deriving DecidableEq, Repr

namespace Name

/-- The marker of functions whose result must be used. -/
def mustUse : Name :=
  { space := "retval", label := "mustuse" }

/-- The written form of a name. -/
def text (n : Name) : String :=
  n.space ++ ":" ++ n.label

/-- A lower-case letter of ASCII. -/
def isLowerLetter (c : Char) : Bool :=
  'a' ≤ c && c ≤ 'z'

/-- An upper-case letter of ASCII. -/
def isUpperLetter (c : Char) : Bool :=
  'A' ≤ c && c ≤ 'Z'

/-- A decimal digit of ASCII. -/
def isDigit (c : Char) : Bool :=
  '0' ≤ c && c ≤ '9'

/-- Whether a word is a namespace. -/
def isSpace : List Char → Bool
  | [] => false
  | c :: rest => isLowerLetter c && rest.all fun d => isLowerLetter d || isDigit d

/-- Whether a word is a local name. -/
def isLabel (word : List Char) : Bool :=
  !word.isEmpty &&
    word.all fun c => isLowerLetter c || isUpperLetter c || isDigit c || c = '-' || c = '_'

/-- Whether both parts of a name are well-formed. -/
def isWellFormed (n : Name) : Bool :=
  isSpace n.space.toList && isLabel n.label.toList

/-- The name written as the given characters, if they are a well-formed one. -/
def parseChars? (word : List Char) : Option Name :=
  match Text.cut ':' word with
  | none => none
  | some (space, label) =>
    if isSpace space && isLabel label then
      some { space := String.ofList space, label := String.ofList label }
    else
      none

/-- The name written as `s`, if `s` is a well-formed one. -/
def parse? (s : String) : Option Name :=
  parseChars? s.toList

end Name
end Marker
end MustUse
