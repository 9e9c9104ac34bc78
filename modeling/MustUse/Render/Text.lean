import MustUse.Report.Diagnostic

/-!
# Text output

One line for each diagnostic: file, line and column, the rule and the message. With color the
location is cyan and the rule yellow.

Main definitions: `line` and `text`.
-/

namespace MustUse
namespace Render

open Report

/-- The escape sequence that sets a color. -/
def colorStart (code : String) : String :=
  "\x1b[" ++ code ++ "m"

/-- A text in a color; unchanged without color. -/
def colored (color : Bool) (code : String) (s : String) : String :=
  if color then colorStart code ++ s ++ colorStart "0" else s

/-- The color of locations. -/
def cyan : String :=
  "36"

/-- The color of rules. -/
def yellow : String :=
  "33"

/-- The location of a diagnostic. Line and column are written even if they are zero. -/
def location (d : Diagnostic) : String :=
  d.position.file ++ ":" ++ Text.decimal d.position.line ++ ":" ++
    Text.decimal d.position.column

/-- The line for a diagnostic. -/
def line (color : Bool) (d : Diagnostic) : String :=
  colored color cyan (location d) ++ ": " ++ colored color yellow d.rule ++ ": " ++
    d.message ++ "\n"

/-- The lines of several diagnostics. -/
def text (color : Bool) (ds : List Diagnostic) : String :=
  String.join (ds.map (line color))

end Render
end MustUse
