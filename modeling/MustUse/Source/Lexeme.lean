/-!
# Lexemes

The division of a source text into lexemes: words, literals, marks, comments and the white space
between them. The division loses nothing, so the lexemes of a text joined together are the text.

Main definitions:

- `LexemeClass`, `Lexeme`;
- `classify`: the class and the length of the first lexeme of a text;
- `lexemes`: all lexemes of a text.

Main statement: `lexemes_join`.
-/

namespace MustUse
namespace Source

/-- The classes of lexemes. -/
inductive LexemeClass where
  /-- Spaces, tabs and carriage returns. -/
  | blank
  /-- A single line feed. -/
  | lineFeed
  | comment
  /-- A name or a keyword. -/
  | word
  /-- A number, a character or a string. -/
  | literal
  /-- An operator or a delimiter. -/
  | mark
  /-- A character that starts no lexeme of another class. -/
  | stray
deriving DecidableEq, Repr

/-- A piece of a text with its class. -/
structure Lexeme where
  kind : LexemeClass
  text : List Char
deriving DecidableEq, Repr

/-- Whether a character is white space inside a line. -/
def isLineBlank (c : Char) : Bool :=
  c = ' ' || c = '\t' || c = '\r'

/-- Whether a character is a decimal digit. -/
def isDigit (c : Char) : Bool :=
  '0' ≤ c && c ≤ '9'

/-- Whether a character can start a word. Every character outside ASCII is taken for a letter. -/
def startsWord (c : Char) : Bool :=
  ('a' ≤ c && c ≤ 'z') || ('A' ≤ c && c ≤ 'Z') || c = '_' || 0x80 ≤ c.toNat

/-- Whether a character can continue a word. -/
def continuesWord (c : Char) : Bool :=
  startsWord c || isDigit c

/-- The marks, longer ones before those they start with. -/
def marks : List String :=
  ["<<=", ">>=", "&^=", "...", "<<", ">>", "&^", "+=", "-=", "*=", "/=", "%=", "&=", "|=", "^=",
   "&&", "||", "<-", "++", "--", "==", "!=", "<=", ">=", ":=", "+", "-", "*", "/", "%", "&", "|",
   "^", "<", ">", "=", "!", "(", ")", "[", "]", "\x7b", "\x7d", ",", ";", ".", ":", "~"]

/-- How many characters up to and with the closing mark of a literal; a backslash shields the next
character, and a line feed ends a literal that is not closed. -/
def quotedLength (closing : Char) : List Char → Nat
  | [] => 0
  | '\\' :: c :: rest =>
    if c = '\n' then 1 else 2 + quotedLength closing rest
  | c :: rest =>
    if c = '\n' then 0
    else if c = closing then 1
    else 1 + quotedLength closing rest

/-- How many characters up to and with the closing mark of a raw string. -/
def rawLength : List Char → Nat
  | [] => 0
  | c :: rest => if c = '\x60' then 1 else 1 + rawLength rest

/-- How many characters belong to a number after a character of it. A sign belongs to it after the
letter of an exponent. -/
def numberLength (before : Char) : List Char → Nat
  | [] => 0
  | c :: rest =>
    let isExponent := before = 'e' || before = 'E' || before = 'p' || before = 'P'
    if continuesWord c || c = '.' || (isExponent && (c = '+' || c = '-')) then
      1 + numberLength c rest
    else
      0

/-- How many characters up to and with the end of a comment between stars. -/
def starredLength : List Char → Nat
  | [] => 0
  | '*' :: '/' :: _ => 2
  | _ :: rest => 1 + starredLength rest

/-- The class of the lexeme that starts with `c`, and how many of the following characters belong
to it. -/
def classify (c : Char) (rest : List Char) : LexemeClass × Nat :=
  if c = '\n' then
    (.lineFeed, 0)
  else if isLineBlank c then
    (.blank, (rest.takeWhile isLineBlank).length)
  else if startsWord c then
    (.word, (rest.takeWhile continuesWord).length)
  else if isDigit c || (c = '.' && rest.head?.any isDigit) then
    (.literal, numberLength c rest)
  else if c = '"' || c = '\x27' then
    (.literal, quotedLength c rest)
  else if c = '\x60' then
    (.literal, rawLength rest)
  else if c = '/' && rest.head? = some '/' then
    (.comment, (rest.takeWhile (· ≠ '\n')).length)
  else if c = '/' && rest.head? = some '*' then
    (.comment, 1 + starredLength rest.tail)
  else
    match marks.find? (·.toList.isPrefixOf (c :: rest)) with
    | some mark => (.mark, mark.length - 1)
    | none => (.stray, 0)

/-- The lexemes of a text in order. -/
def lexemes : List Char → List Lexeme
  | [] => []
  | c :: rest =>
    let (kind, more) := classify c rest
    { kind := kind, text := c :: rest.take more } :: lexemes (rest.drop more)
termination_by text => text.length
decreasing_by
  simp only [List.length_cons, List.length_drop]
  omega

/-- The lexemes of a text joined together are the text. -/
theorem lexemes_join
    (text : List Char) :
    (lexemes text).flatMap (·.text) = text := by
  fun_induction lexemes text with
  | case1 => rfl
  | case2 c rest kind more _ ih =>
      simp [ih, List.take_append_drop]

end Source
end MustUse
