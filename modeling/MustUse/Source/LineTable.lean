import MustUse.FileTree.Path
import MustUse.Source.Token
import MustUse.Text.Numeral

/-!
# Line tables of source texts

The lines of a source text. A comment at the start of a line can name the file and the line that
the following text comes from.

Main definitions:

- `lineDirective?`: what a comment says about the text after it;
- `lineTable`: the lines of a text with its directives.
-/

namespace MustUse
namespace Source

open Syntax FileTree

/-- The largest line or column in a line directive. -/
def maxLineNumber : Nat := Nat.pow 2 30

/-- The number after the last colon of a text, and what stands before the colon. -/
def trailingNumber? (text : List Char) : Option (List Char × Nat) :=
  match Text.cutLast ':' text with
  | none => none
  | some (before, digits) =>
    match Text.readNat (.fixed 10) digits with
    | .ok n => some (before, n)
    | .error _ => none

/-- Whether a number can be a line or a column. -/
def isLineNumber (n : Nat) : Bool :=
  0 < n && n ≤ maxLineNumber

/-- The text of a line directive without its marks, if a comment has the form of one. -/
def directiveText? (text : List Char) : Option (List Char) :=
  match Text.after? "//line ".toList text with
  | some rest => some rest
  | none => (Text.after? "/*line ".toList text).map fun rest => rest.take (rest.length - 2)

/-- What a comment says about the text from `next` on. The file keeps its name if only a line and a
column are given; a name is seen from the directory of the file. -/
def lineDirective? (dir : Path) (current : String) (next : Nat) (text : List Char) :
    Option LineDirective := do
  let body ← directiveText? text
  let (before, last) ← trailingNumber? body
  let name (written : List Char) : String :=
    if written.isEmpty then "" else (dir.resolve (String.ofList written)).text
  match trailingNumber? before with
  | some (file, line) =>
    if isLineNumber line && isLineNumber last then
      let shown := if file.isEmpty then current else name file
      return { offset := next, name := shown, line := line, column := last }
    else
      none
  | none =>
    if isLineNumber last then
      return { offset := next, name := name before, line := last, column := 0 }
    else
      none

/-- The line directives among the comments of a file; `starts` are the starts of its lines. -/
def lineDirectives (dir : Path) (starts : List Nat) (current : String) :
    List Comment → List LineDirective
  | [] => []
  | c :: rest =>
    let text := c.text.toList
    let isLong := text[1]? = some '*'
    let next := c.offset + byteLength text + (if isLong then 0 else 1)
    let found :=
      if isLong || starts.contains c.offset then lineDirective? dir current next text else none
    match found with
    | none => lineDirectives dir starts current rest
    | some d => d :: lineDirectives dir starts d.name rest

/-- The lines of the text of the file at `path`, with the given comments. -/
def lineTable (path : Path) (text : String) (comments : List Comment) : LineTable :=
  let starts := 0 :: lineStarts 0 text.toList
  { name := path.text
    starts := starts
    directives := lineDirectives path.tail starts path.text comments }

end Source
end MustUse
