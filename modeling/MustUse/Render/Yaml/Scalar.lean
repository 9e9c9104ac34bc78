import MustUse.Render.Yaml.Implicit
import MustUse.Text.Quoted

/-!
# YAML scalars

How a text is written as the value of a key: plain, between single or double quotes, or as a literal
block. Which of them depends on the characters of the text, on where its spaces and line breaks
stand, and on whether it would be read as something else.

Main definitions:

- `Style`, `style`: the choice;
- `scalar`: the written form, with the line end that closes the value.
-/

namespace MustUse
namespace Render
namespace Yaml

/-- The ways to write a text. -/
inductive Style where
  | plain
  | singleQuoted
  | doubleQuoted
  | literal
deriving DecidableEq, Repr

/-! ## Characters -/

/-- A line break. -/
def isBreak (c : Char) : Bool :=
  c = '\n' || c = '\r' || c.toNat = 0x85 || c.toNat = 0x2028 || c.toNat = 0x2029

/-- A character that may stand outside double quotes. -/
def isAllowed (c : Char) : Bool :=
  let n := c.toNat
  n = 0x0A || (0x20 ≤ n && n ≤ 0x7E) || (0xA0 ≤ n && n ≤ 0xD7FF) ||
    (0xE000 ≤ n && n ≤ 0xFFFD && n ≠ 0xFEFF)

/-- A space or a tab. -/
def isBlank (c : Char) : Bool :=
  c = ' ' || c = '\t'

/-- A character that a comment sign may follow. -/
def isGap (c : Char) : Bool :=
  isBlank c || isBreak c || c.toNat = 0

/-- The byte order mark. -/
def byteOrderMark : Char :=
  Char.ofNat 0xFEFF

/-! ## Analysis of a text -/

/-- Neighbouring characters. -/
def neighbours (text : List Char) : List (Char × Char) :=
  text.zip text.tail

/-- A space directly before a line break. -/
def hasSpaceBreak (text : List Char) : Bool :=
  (neighbours text).any fun (a, b) => a = ' ' && isBreak b

/-- A space directly after a line break. -/
def hasBreakSpace (text : List Char) : Bool :=
  (neighbours text).any fun (a, b) => isBreak a && b = ' '

/-- A character that only double quotes can hold; a tab is none. -/
def hasSpecial (text : List Char) : Bool :=
  text.any fun c => c ≠ '\t' && !isAllowed c

/-- Whether the text starts or ends with a space or a line break. -/
def hasOuterSpace (text : List Char) : Bool :=
  [text.head?, text.getLast?].any fun c => c.any fun c => c = ' ' || isBreak c

/-- Characters that begin something else than a plain text. -/
def indicators : List Char :=
  ['#', ',', '[', ']', '\x7b', '\x7d', '&', '*', '!', '|', '>', '\x27', '"', '%', '@', '\x60']

/-- Whether the first of these characters is an indicator where it stands, at the start. -/
def startsWithIndicator (text : List Char) : Bool :=
  match text with
  | [] => false
  | [c] => indicators.contains c || c = '?' || c = ':' || c = '-'
  | c :: d :: _ =>
    indicators.contains c || ((c = '?' || c = ':' || c = '-') && isBlank d) ||
      "---".toList.isPrefixOf text || "...".toList.isPrefixOf text

/-- Whether a colon before a blank or at the end, or a number sign after a gap, ends the text
early. -/
def hasInnerIndicator (text : List Char) : Bool :=
  text.getLast? = some ':' ||
    (neighbours text).any fun (a, b) => (a = ':' && isBlank b) || (isGap a && b = '#')

/-- Whether single quotes can hold the text. -/
def allowsSingleQuotes (text : List Char) : Bool :=
  !(hasBreakSpace text || hasSpaceBreak text || text.contains '\t' || hasSpecial text)

/-- Whether the text can be written plain. -/
def allowsPlain (text : List Char) : Bool :=
  allowsSingleQuotes text &&
    !(hasOuterSpace text || text.any isBreak || startsWithIndicator text ||
      hasInnerIndicator text)

/-- Whether a literal block can hold the text. -/
def allowsLiteral (text : List Char) : Bool :=
  !(text.getLast? = some ' ' || hasSpaceBreak text || hasSpecial text)

/-- The style of a text. -/
def style (s : String) : Style :=
  let text := s.toList
  if text.contains '\n' then
    if allowsLiteral text then .literal else .doubleQuoted
  else if isImplicit s then .doubleQuoted
  else if allowsPlain text then .plain
  else if allowsSingleQuotes text then .singleQuoted
  else .doubleQuoted

/-! ## Writing -/

/-- The indentation of the lines of a value. -/
def indentation : List Char :=
  "    ".toList

/-- The inside of single quotes. A quote is doubled, and a line that a break begins is
indented. -/
def singleQuotedBody (afterBreak : Bool) : List Char → List Char
  | [] => []
  | c :: rest =>
    if isBreak c then
      c :: singleQuotedBody true rest
    else
      let indent := if afterBreak && c ≠ ' ' then indentation else []
      let written := if c = '\x27' then ['\x27', '\x27'] else [c]
      indent ++ written ++ singleQuotedBody (afterBreak && c = ' ') rest

/-- The letter that stands for a character after a backslash in double quotes. -/
def escapeLetter? (c : Char) : Option Char :=
  match c.toNat with
  | 0x00 => some '0'
  | 0x07 => some 'a'
  | 0x08 => some 'b'
  | 0x09 => some 't'
  | 0x0A => some 'n'
  | 0x0B => some 'v'
  | 0x0C => some 'f'
  | 0x0D => some 'r'
  | 0x1B => some 'e'
  | 0x22 => some '"'
  | 0x5C => some '\\'
  | 0x85 => some 'N'
  | 0xA0 => some '_'
  | 0x2028 => some 'L'
  | 0x2029 => some 'P'
  | _ => none

/-- An escaped character in double quotes, by its letter or its code in upper-case hexadecimal. -/
def escaped (c : Char) : List Char :=
  match escapeLetter? c with
  | some letter => ['\\', letter]
  | none =>
    let code (width : Nat) := (Text.hexDigits width c.toNat).map Char.toUpper
    if c.toNat ≤ 0xFF then '\\' :: 'x' :: code 2
    else if c.toNat ≤ 0xFFFF then '\\' :: 'u' :: code 4
    else '\\' :: 'U' :: code 8

/-- The inside of double quotes. In a text that starts with a byte order mark every character is
escaped. -/
def doubleQuotedBody (text : List Char) : List Char :=
  let escapeAll := text.head? = some byteOrderMark
  text.flatMap fun c =>
    if escapeAll || !isAllowed c || isBreak c || c = '"' || c = '\\' then escaped c else [c]

/-- The marks after the sign of a literal block: an indentation hint when the text starts with a
space or a break, and how trailing breaks are kept. -/
def literalHints (text : List Char) : List Char :=
  let hint := if text.head?.any fun c => c = ' ' || isBreak c then ['2'] else []
  let keep :=
    match text.reverse with
    | [] => ['-']
    | [c] => if isBreak c then ['+'] else ['-']
    | c :: d :: _ => if isBreak c then (if isBreak d then ['+'] else []) else ['-']
  hint ++ keep

/-- The lines of a literal block. The first break of the text, when it stands at the start, ends
the header line. -/
def literalBody (inHeader afterBreak : Bool) : List Char → List Char
  | [] => []
  | c :: rest =>
    if isBreak c then
      c :: literalBody false true rest
    else
      let lineEnd := if afterBreak && inHeader then ['\n'] else []
      let indent := if afterBreak then indentation else []
      lineEnd ++ indent ++ c :: literalBody false false rest

/-- The written form of a text as the value of a key, with the end of its last line. -/
def scalar (s : String) : String :=
  let text := s.toList
  match style s with
  | .plain => s ++ "\n"
  | .singleQuoted =>
    String.ofList ('\x27' :: singleQuotedBody false text ++ ['\x27', '\n'])
  | .doubleQuoted =>
    String.ofList ('"' :: doubleQuotedBody text ++ ['"', '\n'])
  | .literal =>
    let lineEnd := if text.getLast?.any isBreak then [] else ['\n']
    String.ofList ('|' :: literalHints text ++ literalBody true true text ++ lineEnd)

end Yaml
end Render
end MustUse
