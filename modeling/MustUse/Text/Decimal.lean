/-!
# Decimal numerals

Integers written in base ten, without leading zeros and with a minus sign when negative.

Main definitions:

- `digits`: the decimal digits of a natural number;
- `decimal`: the numeral of an integer.
-/

namespace MustUse
namespace Text

/-- The character of a decimal digit. -/
def digitChar (n : Nat) : Char :=
  Char.ofNat (48 + n)

/-- The decimal digits of a number, the highest first. -/
def digits (n : Nat) : List Char :=
  if n < 10 then [digitChar n] else digits (n / 10) ++ [digitChar (n % 10)]

/-- The numeral of an integer. -/
def decimal (n : Int) : String :=
  match n with
  | .ofNat k => String.ofList (digits k)
  | .negSucc k => String.ofList ('-' :: digits (k + 1))

end Text
end MustUse
