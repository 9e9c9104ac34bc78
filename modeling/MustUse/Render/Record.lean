import MustUse.Report.Diagnostic

/-!
# Records

The fields of a diagnostic in the structured output formats, in the order in which they are written.

Main definitions: `Value` and `fields`.
-/

namespace MustUse
namespace Render

open Report

/-- The value of a field. -/
inductive Value where
  | text (s : String)
  | number (n : Int)
deriving DecidableEq, Repr

/-- The fields of a diagnostic in order. -/
def fields (d : Diagnostic) : List (String × Value) :=
  [("file", .text d.position.file),
   ("line", .number d.position.line),
   ("column", .number d.position.column),
   ("rule", .text d.rule),
   ("severity", .text d.severity),
   ("func", .text d.func),
   ("message", .text d.message)]

end Render
end MustUse
