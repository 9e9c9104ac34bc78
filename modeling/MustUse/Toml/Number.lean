import MustUse.Text.Float

/-!
# Numbers and times in TOML

Numbers and times start with a digit or a sign. How far they extend is decided first, by the
characters that may continue them; the text found is then read as the kind of value that it looks
like.

Main definitions:

- `Shape`, `takeNumeral`: the extent of a number or a time and what it looks like;
- `readInteger?`, `isFloat`, `isDatetime`: whether it is one.
-/

namespace MustUse
namespace Toml

open MustUse.Text

/-- A decimal digit. -/
def isDigit (c : Char) : Bool :=
  '0' ≤ c && c ≤ '9'

/-- A hexadecimal digit. -/
def isHex (c : Char) : Bool :=
  isDigit c || ('a' ≤ c && c ≤ 'f') || ('A' ≤ c && c ≤ 'F')

/-- What a number or a time looks like so far. -/
inductive Shape where
  /-- Digits only: an integer, or the beginning of a float or a time. -/
  | digits
  /-- A decimal number that is not a time. -/
  | decimal
  | float
  | datetime
  /-- An integer in a base with the given digits. -/
  | based (isDigitOf : Char → Bool)

/-- The shape after one more character, if the character continues it. -/
def Shape.next? (s : Shape) (c : Char) : Option Shape :=
  match s with
  | .digits =>
    if isDigit c then some .digits
    else if c = '-' || c = ':' then some .datetime
    else if c = '_' then some .decimal
    else if c = '.' || c = 'e' || c = 'E' then some .float
    else none
  | .decimal =>
    if isDigit c || c = '_' then some .decimal
    else if c = '.' || c = 'e' || c = 'E' then some .float
    else none
  | .float =>
    if isDigit c || ['_', '.', '-', '+', 'e', 'E'].contains c then some .float else none
  | .datetime =>
    if isDigit c || ['-', ':', 'T', 't', ' ', '.', 'Z', 'z', '+'].contains c then
      some .datetime
    else none
  | .based isDigitOf =>
    if isDigitOf c || c = '_' then some s else none

/-- The characters that continue a shape, the shape they lead to, and the rest. -/
def extend (s : Shape) : List Char → List Char × Shape × List Char
  | [] => ([], s, [])
  | c :: rest =>
    match s.next? c with
    | none => ([], s, c :: rest)
    | some t =>
      let (taken, final, after) := extend t rest
      (c :: taken, final, after)

/-- The digits of the base that a letter after a leading zero marks. -/
def baseDigits? (mark : Char) : Option (Char → Bool) :=
  if mark = 'b' then some fun c => c = '0' || c = '1'
  else if mark = 'o' then some fun c => '0' ≤ c && c ≤ '7'
  else if mark = 'x' then some isHex
  else none

/-- The extent and the shape of an unsigned number or a time that starts with a digit. A time has
at least two digits before its first separator, or a digit that is not zero. -/
def takeNumeral? (text : List Char) : Option (List Char × Shape × List Char) :=
  match text with
  | '0' :: rest =>
    match rest with
    | [] => some (['0'], .digits, [])
    | c :: more =>
      if isDigit c then
        let (taken, shape, after) := extend .digits rest
        some ('0' :: taken, shape, after)
      else
        match baseDigits? c with
        | some isDigitOf =>
          if more.head?.any isDigitOf then
            let (taken, shape, after) := extend (.based isDigitOf) more
            some ('0' :: c :: taken, shape, after)
          else none
        | none =>
          if c = '_' || c = '.' || c = 'e' || c = 'E' then
            let (taken, shape, after) := extend .decimal rest
            some ('0' :: taken, shape, after)
          else some (['0'], .digits, rest)
  | _ => some (extend .digits text)

/-- Whether every underscore stands between digits. -/
def underscoresOk (text : List Char) : Bool :=
  text.head? ≠ some '_' && text.getLast?.any isHex &&
    (text.zip text.tail).all fun (a, b) => b ≠ '_' || isHex a

/-- Whether a decimal number has a zero before its other digits. -/
def hasLeadingZero (text : List Char) : Bool :=
  match text with
  | '0' :: c :: _ => !(c = 'b' || c = 'o' || c = 'x')
  | sign :: '0' :: _ :: _ => sign = '-' || sign = '+'
  | _ => false

/-- The value of an integer of 64 bits. -/
def readInteger? (text : List Char) : Option Int :=
  if underscoresOk text && !hasLeadingZero text then
    match readInt .marked text with
    | .ok n => some n
    | .error _ => none
  else none

/-- The parts of a float between points and exponent marks, empty ones left out. -/
def floatParts (text : List Char) : List (List Char) :=
  (text.splitOnP fun c => c = '.' || c = 'e' || c = 'E').filter (!·.isEmpty)

/-- Whether every point is followed by a digit. -/
def pointsOk (text : List Char) : Bool :=
  text.getLast? ≠ some '.' && (text.zip text.tail).all fun (a, b) => a ≠ '.' || isDigit b

/-- Whether a text is a float within the range of doubles. -/
def isFloat (text : List Char) : Bool :=
  let parts := floatParts text
  let unsigned :=
    match text with
    | '+' :: rest => rest
    | '-' :: rest => rest
    | _ => text
  parts.all underscoresOk && !(parts.head?.any hasLeadingZero) && pointsOk text &&
    (readFraction? (unsigned.filter (· ≠ '_'))).any (·.isFinite)

/-! ## Times -/

/-- The number written by two digits. -/
def twoDigits? (a b : Char) : Option Nat :=
  if isDigit a && isDigit b then some ((a.toNat - 48) * 10 + (b.toNat - 48)) else none

/-- Whether a year has a 29th of February. -/
def isLeapYear (year : Nat) : Bool :=
  year % 4 = 0 && (year % 100 ≠ 0 || year % 400 = 0)

/-- The number of days of a month. -/
def daysIn (year month : Nat) : Nat :=
  if month = 2 then (if isLeapYear year then 29 else 28)
  else if month = 4 || month = 6 || month = 9 || month = 11 then 30
  else 31

/-- The rest of the text after a date. -/
def afterDate? (text : List Char) : Option (List Char) :=
  match text with
  | y1 :: y2 :: y3 :: y4 :: '-' :: m1 :: m2 :: '-' :: d1 :: d2 :: rest => do
    let century ← twoDigits? y1 y2
    let year ← twoDigits? y3 y4
    let month ← twoDigits? m1 m2
    let day ← twoDigits? d1 d2
    if 1 ≤ month && month ≤ 12 && 1 ≤ day && day ≤ daysIn (century * 100 + year) month then
      some rest
    else none
  | _ => none

/-- The rest of the text after a time of day. -/
def afterTime? (text : List Char) : Option (List Char) :=
  match text with
  | h1 :: h2 :: ':' :: m1 :: m2 :: ':' :: s1 :: s2 :: rest => do
    let hour ← twoDigits? h1 h2
    let minute ← twoDigits? m1 m2
    let second ← twoDigits? s1 s2
    if hour < 24 && minute < 60 && second < 60 then
      match rest with
      | '.' :: d :: more => if isDigit d then some (more.dropWhile isDigit) else some rest
      | _ => some rest
    else none
  | _ => none

/-- Whether a text is a time zone. -/
def isZone (text : List Char) : Bool :=
  match text with
  | ['Z'] => true
  | [sign, h1, h2, ':', m1, m2] =>
    (sign = '+' || sign = '-') && (twoDigits? h1 h2).any (· ≤ 24) &&
      (twoDigits? m1 m2).any (· ≤ 60)
  | _ => false

/-- Whether a text is a date, a time of day, or both with an optional zone. The letters may be in
lower case, and a space may stand between date and time. -/
def isDatetime (text : List Char) : Bool :=
  let trimmed := (text.reverse.dropWhile (· = ' ')).reverse
  let normal := trimmed.map fun c =>
    if c = 'z' then 'Z' else if c = 't' || c = ' ' then 'T' else c
  match afterDate? normal with
  | some [] => true
  | some ('T' :: rest) => (afterTime? rest).any fun zone => zone.isEmpty || isZone zone
  | some _ => false
  | none => (afterTime? normal).any (·.isEmpty)

end Toml
end MustUse
