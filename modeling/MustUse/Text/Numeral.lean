/-!
# Numerals of 64 bits

Reading integers as written in source code: an optional sign, an optional mark for the base, digits,
and underscores between digits. The text is read from the left, so a value that is too large is
noticed before a later character that is no digit.

Main definitions:

- `NumeralError`;
- `readNat`: an unsigned numeral in a given base, or in the base that it is marked with;
- `readInt`: the same with a sign.
-/

namespace MustUse
namespace Text

/-- Why a text is not read as a number. -/
inductive NumeralError where
  /-- It is not a numeral. -/
  | malformed
  /-- Its value does not fit. -/
  | outOfRange
deriving DecidableEq, Repr

/-- The base of a numeral. -/
inductive Base where
  /-- The given base; underscores are not allowed. -/
  | fixed (base : Nat)
  /-- The base marked by the numeral itself; underscores are allowed between digits. -/
  | marked
deriving DecidableEq, Repr

/-- The value of a letter or a digit as a digit in bases up to 36. -/
def digitOf? (c : Char) : Option Nat :=
  if '0' ≤ c && c ≤ '9' then some (c.toNat - 48)
  else if 'a' ≤ c && c ≤ 'z' then some (c.toNat - 87)
  else if 'A' ≤ c && c ≤ 'Z' then some (c.toNat - 55)
  else none

/-- The base that a numeral is marked with, and its digits. A leading zero alone marks base eight.
-/
def splitBase (text : List Char) : Nat × List Char :=
  match text with
  | '0' :: mark :: c :: rest =>
    if mark = 'b' || mark = 'B' then (2, c :: rest)
    else if mark = 'o' || mark = 'O' then (8, c :: rest)
    else if mark = 'x' || mark = 'X' then (16, c :: rest)
    else (8, mark :: c :: rest)
  | '0' :: rest => (8, rest)
  | _ => (10, text)

/-- The largest unsigned value. -/
def maxNat64 : Nat :=
  Nat.pow 2 64 - 1

/-- The value of a row of digits, continuing from `acc`. -/
def readDigits (base : Nat) (underscores : Bool) (acc : Nat) :
    List Char → Except NumeralError Nat
  | [] => .ok acc
  | c :: rest =>
    if underscores && c = '_' then
      readDigits base underscores acc rest
    else
      match digitOf? c with
      | none => .error .malformed
      | some d =>
        if base ≤ d then .error .malformed
        else if maxNat64 < acc * base + d then .error .outOfRange
        else readDigits base underscores (acc * base + d) rest

/-- What stood before a character in the check of underscores. -/
inductive Before where
  | nothing
  | digit
  | underscore
  | other
deriving DecidableEq

/-- Whether every underscore stands after a digit and before a digit, given what came before. -/
def underscoresSeparateFrom (hex : Bool) : Before → List Char → Bool
  | before, [] => before ≠ .underscore
  | before, c :: rest =>
    if ('0' ≤ c && c ≤ '9') ||
        (hex && (('a' ≤ c && c ≤ 'f') || ('A' ≤ c && c ≤ 'F'))) then
      underscoresSeparateFrom hex .digit rest
    else if c = '_' then
      before = .digit && underscoresSeparateFrom hex .underscore rest
    else
      before ≠ .underscore && underscoresSeparateFrom hex .other rest

/-- Whether every underscore of a numeral separates digits; a base mark counts as a digit. -/
def underscoresSeparate (text : List Char) : Bool :=
  let unsigned :=
    match text with
    | '+' :: rest => rest
    | '-' :: rest => rest
    | _ => text
  match unsigned with
  | '0' :: mark :: rest =>
    if mark = 'b' || mark = 'B' || mark = 'o' || mark = 'O' then
      underscoresSeparateFrom false .digit rest
    else if mark = 'x' || mark = 'X' then
      underscoresSeparateFrom true .digit rest
    else
      underscoresSeparateFrom false .nothing unsigned
  | _ => underscoresSeparateFrom false .nothing unsigned

/-- The value of an unsigned numeral. -/
def readNat (base : Base) (text : List Char) : Except NumeralError Nat :=
  match text, base with
  | [], _ => .error .malformed
  | _, .fixed b => readDigits b false 0 text
  | _, .marked =>
    let (b, digits) := splitBase text
    match readDigits b true 0 digits with
    | .error e => .error e
    | .ok n =>
      if text.contains '_' && !underscoresSeparate text then .error .malformed else .ok n

/-- The value of a numeral with an optional sign, in the range of signed 64-bit numbers. -/
def readInt (base : Base) (text : List Char) : Except NumeralError Int :=
  let (negative, unsigned) :=
    match text with
    | '+' :: rest => (false, rest)
    | '-' :: rest => (true, rest)
    | _ => (false, text)
  match readNat base unsigned with
  | .error e => .error e
  | .ok n =>
    if negative then
      if Nat.pow 2 63 < n then .error .outOfRange else .ok (-(n : Int))
    else
      if Nat.pow 2 63 ≤ n then .error .outOfRange else .ok n

end Text
end MustUse
