import MustUse.Toml.Number

/-!
# Strings in TOML

Strings on one line and strings over several lines, with or without escapes.

Main definitions:

- `takeBasic?`, `takeLiteral?`: strings on one line, read after their opening quote;
- `takeMultiline?`, `takeMultilineLiteral?`: strings over several lines.
-/

namespace MustUse
namespace Toml

/-- The first character of a line end. -/
def isLineEnd (c : Char) : Bool :=
  c = '\n' || c = '\r'

/-- The quote of literal strings. -/
def apostrophe : Char :=
  '\x27'

/-- The value of hexadecimal digits. -/
def hexValue (digits : List Char) : Nat :=
  digits.foldl (fun n d => n * 16 + (Text.digitOf? d).getD 0) 0

/-- The character with the given hexadecimal code, if it is one. -/
def charOfHex? (digits : List Char) : Option Char :=
  let n := hexValue digits
  if digits.all isHex && (n < 0xD800 || (0xE000 ≤ n && n ≤ 0x10FFFF)) then
    some (Char.ofNat n)
  else none

/-- The character that a letter after a backslash stands for. -/
def escapeChar? (letter : Char) : Option Char :=
  match letter with
  | 'b' => some '\x08'
  | 't' => some '\t'
  | 'n' => some '\n'
  | 'f' => some '\x0c'
  | 'r' => some '\r'
  | '"' => some '"'
  | '\\' => some '\\'
  | _ => none

/-- The text with its escapes replaced; nothing if one of them is malformed. -/
def unescape? : List Char → Option (List Char)
  | [] => some []
  | '\\' :: 'u' :: a :: b :: c :: d :: rest => do
    let r ← charOfHex? [a, b, c, d]
    return r :: (← unescape? rest)
  | '\\' :: 'U' :: a :: b :: c :: d :: e :: f :: g :: h :: rest => do
    let r ← charOfHex? [a, b, c, d, e, f, g, h]
    return r :: (← unescape? rest)
  | '\\' :: letter :: rest => do
    let r ← escapeChar? letter
    return r :: (← unescape? rest)
  | ['\\'] => none
  | c :: rest => do
    return c :: (← unescape? rest)

/-- The raw inside of a string on one line and the rest after the closing quote. -/
def takeRaw? : List Char → Option (List Char × List Char)
  | [] => none
  | '"' :: rest => some ([], rest)
  | '\\' :: c :: rest =>
    if isLineEnd c then none else do
      let (raw, after) ← takeRaw? rest
      return ('\\' :: c :: raw, after)
  | c :: rest =>
    if isLineEnd c then none else do
      let (raw, after) ← takeRaw? rest
      return (c :: raw, after)

/-- A string with escapes on one line, after its opening quote. -/
def takeBasic? (text : List Char) : Option (String × List Char) := do
  let (raw, rest) ← takeRaw? text
  let chars ← unescape? raw
  return (String.ofList chars, rest)

/-- A literal string on one line, after its opening quote. -/
def takeLiteral? (text : List Char) : Option (String × List Char) :=
  let inside := text.takeWhile fun c => c ≠ apostrophe && !isLineEnd c
  match text.dropWhile fun c => c ≠ apostrophe && !isLineEnd c with
  | c :: rest => if c = apostrophe then some (String.ofList inside, rest) else none
  | [] => none

/-- Whether the characters read so far, the last one first, end with five quotes; after a
backslash they may. -/
def endsWithFive (quote : Char) (escapes : Bool) (seen : List Char) : Bool :=
  match seen with
  | a :: b :: c :: d :: e :: before =>
    [a, b, c, d, e].all (· = quote) && !(escapes && before.head? = some '\\')
  | _ => false

/-- The raw inside of a string over several lines and the rest after its closing quotes. Up to two
quotes may stand before the closing three. `seen` holds what was read, the last character first. -/
def takeMultilineRaw? (quote : Char) (escapes : Bool) (seen : List Char) :
    List Char → Option (List Char × List Char)
  | [] => none
  | c :: rest =>
    if escapes && c = '\\' then
      match rest with
      | [] => none
      | d :: more => takeMultilineRaw? quote escapes (d :: c :: seen) more
    else if c = quote then
      match rest with
      | d :: e :: after =>
        if d = quote && e = quote then
          if after.head? = some quote then
            if endsWithFive quote escapes (quote :: quote :: quote :: seen) then none
            else takeMultilineRaw? quote escapes (c :: seen) rest
          else some (seen.reverse, after)
        else takeMultilineRaw? quote escapes (c :: seen) rest
      | _ => none
    else takeMultilineRaw? quote escapes (c :: seen) rest

/-- The text without a line end at its start. -/
def dropFirstLineEnd (text : List Char) : List Char :=
  match text with
  | '\n' :: rest => rest
  | '\r' :: '\n' :: rest => rest
  | _ => text

/-- White space that a line-ending backslash removes. -/
def isFold (c : Char) : Bool :=
  c = ' ' || c = '\t' || isLineEnd c

/-- The text without backslashes at line ends and the white space that follows them. The first
argument counts the characters of such white space that are still to be dropped. -/
def foldLines : Nat → List Char → List Char
  | _, [] => []
  | n + 1, _ :: rest => foldLines n rest
  | 0, '\\' :: '\\' :: rest => '\\' :: '\\' :: foldLines 0 rest
  | 0, '\\' :: rest =>
    let fold := rest.takeWhile isFold
    if fold.contains '\n' then foldLines fold.length rest else '\\' :: foldLines 0 rest
  | 0, c :: rest => c :: foldLines 0 rest

/-- A string with escapes over several lines, after its opening quotes. -/
def takeMultiline? (text : List Char) : Option (String × List Char) := do
  let (raw, rest) ← takeMultilineRaw? '"' true [] text
  let chars ← unescape? (foldLines 0 (dropFirstLineEnd raw))
  return (String.ofList chars, rest)

/-- A literal string over several lines, after its opening quotes. -/
def takeMultilineLiteral? (text : List Char) : Option (String × List Char) := do
  let (raw, rest) ← takeMultilineRaw? apostrophe false [] text
  return (String.ofList (dropFirstLineEnd raw), rest)

end Toml
end MustUse
