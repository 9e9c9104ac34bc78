import MustUse.Syntax.Place

/-!
# Diagnostics

A discarded result that should have been used, with the place of the call and its resolved position.

Main definitions:

- `Diagnostic`, `Diagnostic.ofCall`, `Diagnostic.text`;
- `Diagnostic.sort`: by file name, line and column, keeping the order of equals;
- `Collector`, `Collector.emit`: diagnostics as they are found.
-/

namespace MustUse
namespace Report

open Syntax

/-- A finding: the rule, its message, the function that was called and where. -/
structure Diagnostic where
  rule : String
  severity : String
  message : String
  func : String
  place : Option Place
  position : Position
deriving DecidableEq, Repr

/-- The name of the rule on discarded results. -/
def ruleName : String :=
  "RetVal"

/-- The severity of every diagnostic of that rule. -/
def ruleSeverity : String :=
  "warning"

/-- The message about a discarded result of the named function. -/
def message (func : String) : String :=
  "The return value of '" ++ func ++ "' should not be ignored"

namespace Diagnostic

/-- The diagnostic for a discarded call of `func` at a place. -/
def ofCall (files : FileSet) (place : Option Place) (func : String) : Diagnostic :=
  { rule := ruleName
    severity := ruleSeverity
    message := Report.message func
    func := func
    place := place
    position := files.position place }

/-- The written form: position, rule and message. -/
def text (d : Diagnostic) : String :=
  d.position.text ++ ": " ++ d.rule ++ ": " ++ d.message

/-- The order of diagnostics: by file name in code point order, then line, then column. -/
def le (a b : Diagnostic) : Bool :=
  let p := a.position
  let q := b.position
  if p.file = q.file then
    if p.line = q.line then p.column ≤ q.column else p.line < q.line
  else
    p.file < q.file

/-- The diagnostics in order; those at the same position keep their order. -/
def sort (ds : List Diagnostic) : List Diagnostic :=
  ds.mergeSort le

end Diagnostic

/-- Diagnostics in the order in which they were found. -/
structure Collector where
  files : FileSet
  found : List Diagnostic
deriving Repr

namespace Collector

/-- A collector without diagnostics. -/
def new (files : FileSet) : Collector :=
  { files := files, found := [] }

/-- The collector after one more discarded call. -/
def emit (c : Collector) (place : Option Place) (func : String) : Collector :=
  { c with found := c.found ++ [.ofCall c.files place func] }

/-- The number of diagnostics. -/
def size (c : Collector) : Nat :=
  c.found.length

@[simp] theorem files_emit
    (c : Collector) (place : Option Place) (func : String) :
    (c.emit place func).files = c.files := by
  rfl

@[simp] theorem found_emit
    (c : Collector) (place : Option Place) (func : String) :
    (c.emit place func).found = c.found ++ [.ofCall c.files place func] := by
  rfl

/-- Calls that are emitted one after the other give one diagnostic each, in their order and behind
what was found before. -/
theorem found_foldl_emit
    {α : Type} (place : α → Option Place) (func : α → String) (c : Collector) (calls : List α) :
    (calls.foldl (fun c call => c.emit (place call) (func call)) c).found =
      c.found ++ calls.map fun call => .ofCall c.files (place call) (func call) := by
  induction calls generalizing c with
  | nil => simp
  | cons call calls ih =>
      rw [List.foldl_cons, ih, found_emit, files_emit, List.append_assoc, List.map_cons]
      rfl

end Collector
end Report
end MustUse
