import MustUse.Text.Decimal

/-!
# Places and positions

A place is an offset in a file of the file set. Resolving it against the file's line table gives a
position: the name, line and column that a reader is shown. Line directives in a file replace the
name and the line count from their own offset on.

Main definitions:

- `Place` and its order: file first, then offset; a missing place comes before all others;
- `LineTable`: line starts and line directives of one file;
- `FileSet.position`: the position of a place;
- `Position.text`: the written form of a position.
-/

namespace MustUse
namespace Syntax

/-- An offset in the file with the given number. -/
structure Place where
  file : Nat
  offset : Nat
deriving DecidableEq, Repr

/-- The order of places: by file, then by offset. -/
def Place.le (a b : Place) : Bool :=
  a.file < b.file || (a.file = b.file && a.offset ≤ b.offset)

/-- The order of possibly missing places: a missing one comes first. -/
def Place.leMissingFirst : Option Place → Option Place → Bool
  | none, _ => true
  | some _, none => false
  | some a, some b => a.le b

theorem Place.le_iff
    (a b : Place) :
    a.le b = true ↔ a.file < b.file ∨ a.file = b.file ∧ a.offset ≤ b.offset := by
  simp [Place.le]

theorem Place.leMissingFirst_trans
    (a b c : Option Place)
    (hab : Place.leMissingFirst a b = true) (hbc : Place.leMissingFirst b c = true) :
    Place.leMissingFirst a c = true := by
  cases a with
  | none => rfl
  | some a =>
      cases b with
      | none => cases hab
      | some b =>
          cases c with
          | none => cases hbc
          | some c =>
              have h₁ := (Place.le_iff a b).mp hab
              have h₂ := (Place.le_iff b c).mp hbc
              exact (Place.le_iff a c).mpr (by omega)

theorem Place.leMissingFirst_total
    (a b : Option Place) :
    (Place.leMissingFirst a b || Place.leMissingFirst b a) = true := by
  cases a with
  | none => rfl
  | some a =>
      cases b with
      | none => rfl
      | some b =>
          rw [Bool.or_eq_true]
          by_cases h : a.file < b.file ∨ a.file = b.file ∧ a.offset ≤ b.offset
          · exact Or.inl ((Place.le_iff a b).mpr h)
          · exact Or.inr ((Place.le_iff b a).mpr (by omega))

/-- A line directive: from `offset` on, positions are counted in `name` from `line` and `column`;
column zero means that columns are not tracked. -/
structure LineDirective where
  offset : Nat
  name : String
  line : Nat
  column : Nat
deriving DecidableEq, Repr

/-- The lines of a file: its name, the offsets at which lines start and its line directives in
the order of their offsets. -/
structure LineTable where
  name : String
  starts : List Nat
  directives : List LineDirective
deriving Repr

/-- A resolved position. Line zero or below means that nothing is known but the name. -/
structure Position where
  file : String
  offset : Int
  line : Int
  column : Int
deriving DecidableEq, Repr

/-- The position of a missing place. -/
def Position.unknown : Position :=
  { file := "", offset := 0, line := 0, column := 0 }

/-- The files that places refer to, by number. -/
abbrev FileSet := List LineTable

namespace LineTable

/-- The offsets at which lines start; a table without entries has one line from the start. -/
def lineStarts (t : LineTable) : List Nat :=
  if t.starts.isEmpty then [0] else t.starts

/-- The starts of the lines up to the one that holds `offset`. -/
def startsUpTo (t : LineTable) (offset : Nat) : List Nat :=
  t.lineStarts.filter (· ≤ offset)

/-- The number of the line that holds `offset`, counted from one. -/
def line (t : LineTable) (offset : Nat) : Nat :=
  (t.startsUpTo offset).length

/-- The column of `offset` in its line, counted from one. -/
def column (t : LineTable) (offset : Nat) : Nat :=
  offset - (t.startsUpTo offset).getLast?.getD 0 + 1

/-- The line directive in force at `offset`. -/
def directiveAt? (t : LineTable) (offset : Nat) : Option LineDirective :=
  (t.directives.filter (·.offset ≤ offset)).getLast?

/-- The position of `offset`, with line directives applied. -/
def position (t : LineTable) (offset : Nat) : Position :=
  match t.directiveAt? offset with
  | none =>
    { file := t.name, offset := offset, line := t.line offset, column := t.column offset }
  | some d =>
    let below := t.line offset - t.line d.offset
    { file := d.name
      offset := offset
      line := d.line + below
      column :=
        if d.column = 0 then 0
        else if below = 0 then d.column + (offset - d.offset)
        else t.column offset }

end LineTable

/-- The position of a place; of a missing place, or of one outside the file set, nothing is
known. -/
def FileSet.position (files : FileSet) : Option Place → Position
  | none => Position.unknown
  | some p =>
    match files[p.file]? with
    | none => Position.unknown
    | some table => table.position p.offset

/-- The written form of a position: name, line and column with colons between them. The line and
column are left out when the line is not known, the column also when it is zero, and a position of
which nothing is known is a dash. -/
def Position.text (p : Position) : String :=
  let known :=
    if p.line > 0 then
      (if p.file = "" then "" else p.file ++ ":") ++ Text.decimal p.line ++
        (if p.column = 0 then "" else ":" ++ Text.decimal p.column)
    else
      p.file
  if known = "" then "-" else known

end Syntax
end MustUse
