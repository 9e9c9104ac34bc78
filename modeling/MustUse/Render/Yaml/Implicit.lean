import MustUse.Text.Float

/-!
# Texts that YAML reads as something else

A text written without quotes is read back as a null, a boolean, a number or a time when it looks
like one. Such texts, the booleans of YAML 1.1 and numbers in base sixty must be quoted.

Main definitions:

- `isTimestamp`: dates, and dates with a time of day;
- `isNumber`: integers and fractions;
- `isImplicit`: every text that must be quoted to stay a text.
-/

namespace MustUse
namespace Render
namespace Yaml

open MustUse.Text

/-- A decimal digit. -/
def isDigit (c : Char) : Bool :=
  '0' ≤ c && c ≤ '9'

/-- The spellings of null, of booleans and of the fractions without digits. -/
def keywords : List String :=
  ["", "~", "null", "Null", "NULL", "true", "True", "TRUE", "false", "False", "FALSE",
   ".nan", ".NaN", ".NAN", ".inf", ".Inf", ".INF", "+.inf", "+.Inf", "+.INF",
   "-.inf", "-.Inf", "-.INF"]

/-- The spellings of booleans in YAML 1.1 only. -/
def oldBooleans : List String :=
  ["y", "Y", "yes", "Yes", "YES", "on", "On", "ON", "n", "N", "no", "No", "NO",
   "off", "Off", "OFF"]

/-! ## Times -/

/-- A number of one or two digits and the rest of the text. -/
def readTwoDigits? (text : List Char) : Option (Nat × List Char) :=
  match text with
  | a :: b :: rest =>
    if isDigit a then
      if isDigit b then some ((a.toNat - 48) * 10 + (b.toNat - 48), rest)
      else some (a.toNat - 48, b :: rest)
    else none
  | [a] => if isDigit a then some (a.toNat - 48, []) else none
  | [] => none

/-- The rest of the text after an expected character. -/
def expect? (c : Char) (text : List Char) : Option (List Char) :=
  match text with
  | d :: rest => if d = c then some rest else none
  | [] => none

/-- Whether a year has a 29th of February. -/
def isLeapYear (year : Nat) : Bool :=
  year % 4 = 0 && (year % 100 ≠ 0 || year % 400 = 0)

/-- The number of days of a month. -/
def daysIn (year month : Nat) : Nat :=
  if month = 2 then (if isLeapYear year then 29 else 28)
  else if month = 4 || month = 6 || month = 9 || month = 11 then 30
  else 31

/-- The rest of the text after a date: four digits of the year, month and day. -/
def afterDate? (text : List Char) : Option (List Char) := do
  let year := text.takeWhile isDigit
  if year.length ≠ 4 then none else
  let rest ← expect? '-' (text.dropWhile isDigit)
  let (month, rest) ← readTwoDigits? rest
  let rest ← expect? '-' rest
  let (day, rest) ← readTwoDigits? rest
  let y := year.foldl (fun n d => n * 10 + (d.toNat - 48)) 0
  if 1 ≤ month && month ≤ 12 && 1 ≤ day && day ≤ daysIn y month then some rest else none

/-- The rest of the text after a fraction of a second, which may be missing. -/
def afterFraction (text : List Char) : List Char :=
  match text with
  | mark :: d :: rest =>
    if (mark = '.' || mark = ',') && isDigit d then rest.dropWhile isDigit else text
  | _ => text

/-- The rest of the text after hours, minutes and seconds. -/
def afterClock? (text : List Char) : Option (List Char) := do
  let (hour, rest) ← readTwoDigits? text
  let rest ← expect? ':' rest
  let (minute, rest) ← readTwoDigits? rest
  let rest ← expect? ':' rest
  let (second, rest) ← readTwoDigits? rest
  if hour < 24 && minute < 60 && second < 60 then some (afterFraction rest) else none

/-- Whether a text is a time zone: the letter of universal time, or a sign with hours and
minutes. -/
def isZone (text : List Char) : Bool :=
  match text with
  | ['Z'] => true
  | [sign, a, b, ':', c, d] =>
    (sign = '+' || sign = '-') && isDigit a && isDigit b && isDigit c && isDigit d &&
      (a.toNat - 48) * 10 + (b.toNat - 48) ≤ 24 && (c.toNat - 48) * 10 + (d.toNat - 48) ≤ 60
  | _ => false

/-- Whether a text is a time: a date; a date, the letter T, a time of day and a zone; or a date,
spaces and a time of day without zone. -/
def isTimestamp (text : List Char) : Bool :=
  match afterDate? text with
  | none => false
  | some [] => true
  | some (c :: rest) =>
    if c = 'T' || c = 't' then (afterClock? rest).any isZone
    else if c = ' ' then (afterClock? (rest.dropWhile (· = ' '))).any (·.isEmpty)
    else false

/-! ## Numbers -/

/-- Whether a text is read as a number. -/
def isReadable {α : Type} : Except NumeralError α → Bool
  | .ok _ => true
  | .error _ => false

/-- Whether a text consists of an optional sign, digits with an optional point, and an optional
exponent, with a digit before or after the point. -/
def hasFractionShape (text : List Char) : Bool :=
  let unsigned :=
    match text with
    | '+' :: rest => rest
    | '-' :: rest => rest
    | _ => text
  let whole := unsigned.takeWhile isDigit
  let afterWhole := unsigned.dropWhile isDigit
  let (places, rest) :=
    match afterWhole with
    | '.' :: more => (more.takeWhile isDigit, more.dropWhile isDigit)
    | _ => ([], afterWhole)
  let hasExponentShape :=
    match rest with
    | [] => true
    | e :: more =>
      (e = 'e' || e = 'E') &&
        let digits :=
          match more with
          | '+' :: ds => ds
          | '-' :: ds => ds
          | ds => ds
        !digits.isEmpty && digits.all isDigit
  (!whole.isEmpty || !places.isEmpty) && hasExponentShape

/-- Whether a text is a fraction within the range of doubles. -/
def isFiniteFraction (text : List Char) : Bool :=
  let unsigned :=
    match text with
    | '+' :: rest => rest
    | '-' :: rest => rest
    | _ => text
  (readFraction? unsigned).any (·.isFinite)

/-- Whether a text is an integer in the given base behind a mark, with an optional sign before or,
if there is none, after the mark. -/
def isMarkedInteger (mark : List Char) (base : Nat) (text : List Char) : Bool :=
  if mark.isPrefixOf text then
    let digits := text.drop mark.length
    isReadable (readInt (.fixed base) digits) || isReadable (readNat (.fixed base) digits)
  else if ('-' :: mark).isPrefixOf text then
    isReadable (readInt (.fixed base) ('-' :: text.drop (mark.length + 1)))
  else
    false

/-- Whether a text that starts with a sign or a digit is a number. Underscores do not count. -/
def isNumber (text : List Char) : Bool :=
  let plain := text.filter (· ≠ '_')
  isReadable (readInt .marked plain) || isReadable (readNat .marked plain) ||
    (hasFractionShape plain && isFiniteFraction plain) ||
    isMarkedInteger "0b".toList 2 plain || isMarkedInteger "0o".toList 8 plain

/-- Whether a text is a row of numbers in base sixty: a sign, digits, groups of at most 59 after
colons, and a fraction. -/
def isSexagesimal (text : List Char) : Bool :=
  let unsigned :=
    match text with
    | '+' :: rest => rest
    | '-' :: rest => rest
    | _ => text
  let groups := (unsigned.splitOn ':')
  match groups with
  | head :: second :: more =>
    let isHead :=
      match head with
      | c :: rest => isDigit c && rest.all fun d => isDigit d || d = '_'
      | [] => false
    let isGroup (g : List Char) : Bool :=
      match g with
      | [a] => isDigit a
      | [a, b] => isDigit a && a ≤ '5' && isDigit b
      | _ => false
    let tail := second :: more
    let last := tail.getLast?.getD []
    let lastWhole := last.takeWhile (· ≠ '.')
    let lastRest := last.dropWhile (· ≠ '.')
    isHead && tail.dropLast.all isGroup && isGroup lastWhole &&
      match lastRest with
      | [] => true
      | _ :: places => places.all fun d => isDigit d || d = '_'
  | _ => false

/-- Whether a text written without quotes would be read as something else than this text. -/
def isImplicit (s : String) : Bool :=
  let text := s.toList
  keywords.contains s || oldBooleans.contains s || isSexagesimal text ||
    match text with
    | [] => true
    | c :: _ =>
      if c = '.' then (readFraction? text).any (·.isFinite)
      else if c = '+' || c = '-' || isDigit c then isTimestamp text || isNumber text
      else false

end Yaml
end Render
end MustUse
