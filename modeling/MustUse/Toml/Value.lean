import MustUse.Toml.String

/-!
# Values and statements of TOML

A document is a list of statements: table headers and assignments of values to keys.

Main definitions:

- `Key`, `Value`, `Statement`;
- `takeKey?`, `takeValue?`: reading a key and a value;
- `statements?`: reading a document.
-/

namespace MustUse
namespace Toml

/-- A dotted key: its parts in order. -/
abbrev Key := List String

/-- A value. Only what settings need is kept of floats and times. -/
inductive Value where
  | text (s : String)
  | integer (n : Int)
  | float
  | bool (b : Bool)
  | datetime
  | array (items : List Value)
  | table (keys : List Key) (values : List Value)
deriving Repr

/-- A statement of a document. -/
inductive Statement where
  /-- A table header, or the header of a further element in an array of tables. -/
  | header (isArray : Bool) (key : Key)
  /-- An assignment. -/
  | assign (key : Key) (value : Value)
deriving Repr

/-! ## Characters -/

/-- White space inside a line. -/
def isSpace (c : Char) : Bool :=
  c = ' ' || c = '\t'

/-- The text without white space at its start. -/
def skipSpace (text : List Char) : List Char :=
  text.dropWhile isSpace

/-- A character of a key without quotes. -/
def isBare (c : Char) : Bool :=
  isDigit c || ('a' ≤ c && c ≤ 'z') || ('A' ≤ c && c ≤ 'Z') || c = '_' || c = '-'

/-- The text after a comment at its start. -/
def skipComment (text : List Char) : List Char :=
  text.dropWhile (!isLineEnd ·)

/-- Whether a character may stand in a document: control characters other than tab and line ends
may not. -/
def isLegal (c : Char) : Bool :=
  c = '\t' || isLineEnd c || (0x20 ≤ c.toNat && c.toNat ≠ 0x7F && c.toNat ≠ 0xFFFD)

/-- Whether all characters are legal and every carriage return is part of a line end. -/
def isLegalText : List Char → Bool
  | [] => true
  | '\r' :: rest => rest.head? = some '\n' && isLegalText rest
  | c :: rest => isLegal c && isLegalText rest

/-! ## Keys -/

/-- One part of a key and the rest. -/
def takePart? (text : List Char) : Option (String × List Char) :=
  match text with
  | [] => none
  | c :: rest =>
    if c = '"' then takeBasic? rest
    else if c = apostrophe then takeLiteral? rest
    else if isBare c then
      some (String.ofList (text.takeWhile isBare), text.dropWhile isBare)
    else none

/-- A key and the rest after the white space behind it. The number bounds how many parts are
read. -/
def takeKeyWithin? : Nat → List Char → Option (Key × List Char)
  | 0, _ => none
  | n + 1, text => do
    let (part, rest) ← takePart? (skipSpace text)
    match skipSpace rest with
    | '.' :: more =>
      let (parts, after) ← takeKeyWithin? n more
      return (part :: parts, after)
    | after => return ([part], after)

/-- A key and the rest after the white space behind it. -/
def takeKey? (text : List Char) : Option (Key × List Char) :=
  takeKeyWithin? (text.length + 1) text

/-! ## Values -/

/-- The text after an expected word. -/
def expect? (word : String) (text : List Char) : Option (List Char) :=
  if word.toList.isPrefixOf text then some (text.drop word.length) else none

/-- A number or a time that starts with a digit. -/
def takeNumber? (text : List Char) : Option (Value × List Char) := do
  let (taken, shape, rest) ← takeNumeral? text
  match shape with
  | .float => if isFloat taken then some (.float, rest) else none
  | .datetime => if isDatetime taken then some (.datetime, rest) else none
  | _ => return (.integer (← readInteger? taken), rest)

/-- A decimal number after its sign. -/
def takeSigned? (sign : Char) (text : List Char) : Option (Value × List Char) :=
  match text with
  | [] => none
  | c :: _ =>
    if isDigit c then
      let (taken, shape, rest) := extend .decimal text
      match shape with
      | .float => if isFloat (sign :: taken) then some (.float, rest) else none
      | _ => (readInteger? (sign :: taken)).map fun n => (.integer n, rest)
    else
      match expect? "inf" text, expect? "nan" text with
      | some rest, _ => some (.float, rest)
      | none, some rest => some (.float, rest)
      | none, none => none

/-- A letter of ASCII. -/
def isLetter (c : Char) : Bool :=
  ('a' ≤ c && c ≤ 'z') || ('A' ≤ c && c ≤ 'Z')

/-- A word: a boolean, or a float without digits. -/
def takeWord? (text : List Char) : Option (Value × List Char) :=
  match expect? "inf" text, expect? "nan" text with
  | some rest, _ => some (.float, rest)
  | none, some rest => some (.float, rest)
  | none, none =>
    let word := String.ofList (text.takeWhile isLetter)
    let rest := text.dropWhile isLetter
    if word = "true" then some (.bool true, rest)
    else if word = "false" then some (.bool false, rest)
    else none

/-- The text after white space, line ends and comments. The number bounds how many comments are
skipped. -/
def skipGaps : Nat → List Char → List Char
  | 0, text => text
  | n + 1, text =>
    match text.dropWhile fun c => isSpace c || isLineEnd c with
    | '#' :: rest => skipGaps n (skipComment rest)
    | rest => rest

mutual

/-- A value and the rest after it. The number bounds how deep values are nested and how many there
are. -/
def takeValue? : Nat → List Char → Option (Value × List Char)
  | 0, _ => none
  | n + 1, text =>
    match skipSpace text with
    | [] => none
    | c :: rest =>
      if c = '[' then do
        let (items, after) ← takeItems? n rest
        return (.array items, after)
      else if c = '\x7b' then do
        let (keys, values, after) ← takeEntries? n true rest
        return (.table keys values, after)
      else if c = '"' then do
        let (s, after) ←
          match expect? "\"\"" rest with
          | some inside => takeMultiline? inside
          | none => takeBasic? rest
        return (.text s, after)
      else if c = apostrophe then do
        let (s, after) ←
          match expect? "\x27\x27" rest with
          | some inside => takeMultilineLiteral? inside
          | none => takeLiteral? rest
        return (.text s, after)
      else if isDigit c then takeNumber? (c :: rest)
      else if c = '-' || c = '+' then takeSigned? c rest
      else takeWord? (c :: rest)

/-- The items of an array and the rest after its closing bracket. -/
def takeItems? : Nat → List Char → Option (List Value × List Char)
  | 0, _ => none
  | n + 1, text =>
    match skipGaps (text.length + 1) text with
    | ']' :: rest => some ([], rest)
    | start => do
      let (item, rest) ← takeValue? n start
      match skipGaps (rest.length + 1) rest with
      | ',' :: more =>
        let (items, after) ← takeItems? n more
        return (item :: items, after)
      | ']' :: after => return ([item], after)
      | _ => none

/-- The entries of an inline table and the rest after its closing brace. Only a table without
entries may close where an entry could stand. -/
def takeEntries? : Nat → Bool → List Char → Option (List Key × List Value × List Char)
  | 0, _, _ => none
  | n + 1, mayClose, text =>
    match skipSpace text with
    | '\x7d' :: rest => if mayClose then some ([], [], rest) else none
    | start => do
      let (key, rest) ← takeKey? start
      let rest ← expect? "=" rest
      let (value, rest) ← takeValue? n rest
      match skipSpace rest with
      | ',' :: more =>
        let (keys, values, after) ← takeEntries? n false more
        return (key :: keys, value :: values, after)
      | '\x7d' :: after => return ([key], [value], after)
      | _ => none

end

/-! ## Statements -/

/-- The text after the rest of a line that may hold only a comment. -/
def endLine? (text : List Char) : Option (List Char) :=
  match skipSpace text with
  | [] => some []
  | c :: rest =>
    if c = '#' then some (skipComment rest)
    else if isLineEnd c then some rest
    else none

/-- One statement and the rest after its line. -/
def takeStatement? (text : List Char) : Option (Statement × List Char) :=
  match text with
  | '[' :: '[' :: rest => do
    let (key, rest) ← takeKey? rest
    let rest ← expect? "]]" rest
    return (.header true key, ← endLine? rest)
  | '[' :: rest => do
    let (key, rest) ← takeKey? rest
    let rest ← expect? "]" rest
    return (.header false key, ← endLine? rest)
  | _ => do
    let (key, rest) ← takeKey? text
    let rest ← expect? "=" rest
    let (value, rest) ← takeValue? (text.length + 1) rest
    return (.assign key value, ← endLine? rest)

/-- The statements of a text. The number bounds how many there are. -/
def statementsWithin? : Nat → List Char → Option (List Statement)
  | 0, _ => none
  | n + 1, text =>
    match skipGaps (text.length + 1) text with
    | [] => some []
    | start => do
      let (statement, rest) ← takeStatement? start
      return statement :: (← statementsWithin? n rest)

/-- The statements of a document; nothing if it is malformed. A byte order mark at the start does
not count. -/
def statements? (document : String) : Option (List Statement) :=
  let text :=
    match document.toList with
    | c :: rest => if c.toNat = 0xFEFF then rest else c :: rest
    | [] => []
  if isLegalText text then statementsWithin? (text.length + 1) text else none

end Toml
end MustUse
