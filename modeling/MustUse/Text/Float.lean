import MustUse.Text.Numeral

/-!
# Decimal fractions

Whether a text is a decimal fraction, and whether its value is within the range of double precision.
A value too small for a double is read as zero and so in range; a value that rounds to infinity is
not.

Main definitions:

- `Fraction`: digits and a power of ten;
- `readFraction?`: the fraction written by a text, with underscores between digits allowed;
- `Fraction.isFinite`: whether the nearest double is finite.
-/

namespace MustUse
namespace Text

/-- The number `digits * 10 ^ exponent`. -/
structure Fraction where
  digits : Nat
  exponent : Int
deriving DecidableEq, Repr

/-- The least value that is rounded to infinity: halfway between the largest double and the next
power of two. -/
def infinityBound : Nat :=
  Nat.pow 2 1024 - Nat.pow 2 970

/-- The number of decimal digits of a number, zero for zero. -/
def digitCount (n : Nat) : Nat :=
  if n = 0 then 0 else digitCount (n / 10) + 1
decreasing_by omega

/-- Whether the nearest double is finite. Only values of about the size of the bound need to be
compared with it. -/
def Fraction.isFinite (f : Fraction) : Bool :=
  let size := (digitCount f.digits : Int) + f.exponent
  if f.digits = 0 || size < 300 then true
  else if 320 < size then false
  else if 0 ≤ f.exponent then
    f.digits * Nat.pow 10 f.exponent.toNat < infinityBound
  else
    f.digits < infinityBound * Nat.pow 10 (-f.exponent).toNat

/-- The digits, underscores and at most one point at the start of a text: the digits read so far,
how many of them follow the point, whether there was a point or a digit, and the rest. -/
structure Mantissa where
  value : Nat
  places : Nat
  sawPoint : Bool
  sawDigit : Bool
  rest : List Char

/-- Reading a mantissa from the left. -/
def readMantissa (m : Mantissa) : List Char → Mantissa
  | [] => { m with rest := [] }
  | c :: rest =>
    if c = '_' then
      readMantissa m rest
    else if c = '.' && !m.sawPoint then
      readMantissa { m with sawPoint := true } rest
    else if '0' ≤ c && c ≤ '9' then
      readMantissa
        { m with
          value := m.value * 10 + (c.toNat - 48)
          places := if m.sawPoint then m.places + 1 else m.places
          sawDigit := true }
        rest
    else
      { m with rest := c :: rest }

/-- The value of a non-empty row of digits and underscores that starts with a digit. -/
def readExponentDigits? (text : List Char) : Option Nat :=
  match text with
  | [] => none
  | c :: _ =>
    if c = '_' then none
    else if text.all fun d => d = '_' || ('0' ≤ d && d ≤ '9') then
      some ((text.filter (· ≠ '_')).foldl (fun n d => n * 10 + (d.toNat - 48)) 0)
    else none

/-- The exponent after a mantissa; zero if nothing follows. -/
def readExponent? (text : List Char) : Option Int :=
  match text with
  | [] => some 0
  | c :: rest =>
    if c = 'e' || c = 'E' then
      match rest with
      | '+' :: digits => (readExponentDigits? digits).map Int.ofNat
      | '-' :: digits => (readExponentDigits? digits).map fun n => -(n : Int)
      | digits => (readExponentDigits? digits).map Int.ofNat
    else none

/-- The fraction written by an unsigned text. -/
def readFraction? (text : List Char) : Option Fraction :=
  let m := readMantissa
    { value := 0, places := 0, sawPoint := false, sawDigit := false, rest := [] } text
  if m.sawDigit && (!text.contains '_' || underscoresSeparate text) then
    (readExponent? m.rest).map fun e =>
      { digits := m.value, exponent := e - m.places }
  else
    none

end Text
end MustUse
