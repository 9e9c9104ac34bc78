import MustUse.Text.Decimal

/-!
# Comma-separated records

One record of comma-separated fields. A field may stand between double quotes; inside of them a
quote is written twice, and commas and line breaks stand for themselves. Empty lines before the
record are passed over, and what follows the record is not read.

Main definitions:

- `Csv.Fault`, `Csv.Fault.message`;
- `Csv.normalize`: one form for all line breaks;
- `Csv.record`: the fields of the first record of a text.
-/

namespace MustUse
namespace Text
namespace Csv

/-- A position in a text: line and column from one, the column in bytes. -/
structure Mark where
  line : Nat
  column : Nat
deriving DecidableEq, Repr

/-- The position after a character that is not a line break. -/
def Mark.after (m : Mark) (c : Char) : Mark :=
  { m with column := m.column + c.utf8Size }

/-- Why a text has no first record. -/
inductive Fault where
  /-- All lines are empty. -/
  | noRecord
  /-- A quote stands in a field that does not start with one. -/
  | bareQuote (start : Nat) (mark : Mark)
  /-- A quoted field goes on after its closing quote, or has none. -/
  | badQuote (start : Nat) (mark : Mark)
deriving DecidableEq, Repr

/-- Where a fault lies; the first line of the record is told if it is another one. -/
def Fault.location (start : Nat) (mark : Mark) : String :=
  (if start = mark.line then "" else "record on line " ++ decimal start ++ "; ") ++
    "parse error on line " ++ decimal mark.line ++ ", column " ++ decimal mark.column ++ ": "

/-- The description of a fault. -/
def Fault.message : Fault → String
  | .noRecord => "EOF"
  | .bareQuote start mark => location start mark ++ "bare \" in non-quoted-field"
  | .badQuote start mark => location start mark ++ "extraneous or missing \" in quoted-field"

/-- The text with a single line feed for each line break. A carriage return at the very end is
dropped. -/
def normalize : List Char → List Char
  | [] => []
  | ['\r'] => []
  | '\r' :: '\n' :: rest => '\n' :: normalize rest
  | c :: rest => c :: normalize rest

/-- Where the reading of a record stands. -/
inductive State where
  /-- At the start of a field. -/
  | start
  /-- In a field without quotes. -/
  | plain
  /-- Between the quotes of a field. -/
  | quoted
  /-- After a quote in a quoted field; `quote` is where it stands. -/
  | closed (quote : Mark)
deriving DecidableEq, Repr

/-- The position after a line break in a quoted field. The end of the text is no further line. -/
def Mark.afterBreak (m : Mark) (rest : List Char) : Mark :=
  if rest.isEmpty then { m with column := m.column + 1 } else { line := m.line + 1, column := 1 }

/-- The fields from a state on; `first` is the first line of the record and `field` the part of
the current field that has been read. -/
def fields (first : Nat) :
    State → Mark → List Char → List Char → Except Fault (List (List Char))
  | .quoted, mark, _, [] => .error (.badQuote first mark)
  | _, _, field, [] => .ok [field]
  | .quoted, mark, field, c :: rest =>
    if c = '"' then
      fields first (.closed mark) (mark.after c) field rest
    else if c = '\n' then
      fields first .quoted (mark.afterBreak rest) (field ++ [c]) rest
    else
      fields first .quoted (mark.after c) (field ++ [c]) rest
  | .closed quote, mark, field, c :: rest =>
    if c = '"' then
      fields first .quoted (mark.after c) (field ++ [c]) rest
    else if c = ',' then
      (fields first .start (mark.after c) [] rest).map (field :: ·)
    else if c = '\n' then
      .ok [field]
    else
      .error (.badQuote first quote)
  | state, mark, field, c :: rest =>
    if c = '"' then
      if state = .start then fields first .quoted (mark.after c) field rest
      else .error (.bareQuote first mark)
    else if c = ',' then
      (fields first .start (mark.after c) [] rest).map (field :: ·)
    else if c = '\n' then
      .ok [field]
    else
      fields first .plain (mark.after c) (field ++ [c]) rest

/-- The fields of the first record of a text; the empty text is a record without fields. -/
def record (text : String) : Except Fault (List String) :=
  if text = "" then
    .ok []
  else
    let lines := normalize text.toList
    let skipped := (lines.takeWhile (· = '\n')).length
    match lines.drop skipped with
    | [] => .error .noRecord
    | rest =>
      (fields (skipped + 1) .start { line := skipped + 1, column := 1 } [] rest).map fun fs =>
        fs.map String.ofList

end Csv
end Text
end MustUse
