import MustUse.Render.Record
import MustUse.Render.Yaml.Scalar

/-!
# YAML output

A block sequence with one mapping for each diagnostic.

Main definition: `yaml`.
-/

namespace MustUse
namespace Render

open Report

namespace Yaml

/-- The value of a field and the end of its line. -/
def value : Value → String
  | .text s => scalar s
  | .number n => Text.decimal n ++ "\n"

/-- The lines of one field. -/
def field (entry : String × Value) : String :=
  entry.1 ++ ": " ++ value entry.2

/-- One item of the sequence. -/
def item (d : Diagnostic) : String :=
  match fields d with
  | [] => "- \x7b\x7d\n"
  | first :: rest => "- " ++ field first ++ String.join (rest.map fun f => "  " ++ field f)

end Yaml

/-- The diagnostics as a YAML sequence. -/
def yaml (ds : List Diagnostic) : String :=
  if ds.isEmpty then "[]\n" else String.join (ds.map Yaml.item)

end Render
end MustUse
