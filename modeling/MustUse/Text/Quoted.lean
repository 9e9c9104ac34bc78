import MustUse.Text.Printable

/-!
# Quoted texts

A text between double quotes. A quote and a backslash are written after a backslash, a printable
character stands for itself, seven control characters have a letter of their own, and every other
character is written by its code in hexadecimal: two digits for the controls of ASCII, four for
the basic plane, eight beyond it.

Main definitions:

- `quote`: the quoted form of a text;
- `hexDigits`: a number in hexadecimal with a fixed number of digits.
-/

namespace MustUse
namespace Text

/-- The lower-case hexadecimal digit of a number below sixteen. -/
def hexDigit (n : Nat) : Char :=
  if n < 10 then Char.ofNat (48 + n) else Char.ofNat (87 + n)

/-- The last `width` hexadecimal digits of `n`, the highest first. -/
def hexDigits : Nat → Nat → List Char
  | 0, _ => []
  | width + 1, n => hexDigits width (n / 16) ++ [hexDigit (n % 16)]

/-- The letter that stands for a control character after a backslash. -/
def controlLetter? (c : Char) : Option Char :=
  match c.toNat with
  | 0x07 => some 'a'
  | 0x08 => some 'b'
  | 0x0C => some 'f'
  | 0x0A => some 'n'
  | 0x0D => some 'r'
  | 0x09 => some 't'
  | 0x0B => some 'v'
  | _ => none

/-- A character by its letter or its code. -/
def escapeChar (c : Char) : List Char :=
  match controlLetter? c with
  | some letter => ['\\', letter]
  | none =>
    if c.toNat < 0x20 || c.toNat = 0x7F then
      '\\' :: 'x' :: hexDigits 2 c.toNat
    else if c.toNat < 0x10000 then
      '\\' :: 'u' :: hexDigits 4 c.toNat
    else
      '\\' :: 'U' :: hexDigits 8 c.toNat

/-- One character inside quotes of the given kind; `isPlain` tells which characters stand for
themselves. -/
def quoteCharWith (isPlain : Char → Bool) (mark : Char) (c : Char) : List Char :=
  if c = mark || c = '\\' then
    ['\\', c]
  else if isPlain c then
    [c]
  else
    escapeChar c

/-- One character inside quotes of the given kind. -/
def quoteChar (mark : Char) (c : Char) : List Char :=
  quoteCharWith isPrintable mark c

/-- The text between double quotes. -/
def quote (s : String) : String :=
  String.ofList ('"' :: s.toList.flatMap (quoteChar '"') ++ ['"'])

/-- The text between double quotes, with every character outside ASCII escaped. -/
def quoteAscii (s : String) : String :=
  let isPlain (c : Char) : Bool := c.toNat < 0x80 && isPrintable c
  String.ofList ('"' :: s.toList.flatMap (quoteCharWith isPlain '"') ++ ['"'])

/-- A single character between single quotes. -/
def quoteSingle (c : Char) : String :=
  String.ofList ('\x27' :: quoteChar '\x27' c ++ ['\x27'])

end Text
end MustUse
