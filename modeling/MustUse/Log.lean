import MustUse.Text.Template

/-!
# The log

Lines about the progress of a run, written only when the log is enabled and has a destination.

Main definitions: `Log` and `Log.line`.
-/

namespace MustUse

/-- A log: whether it is enabled and whether it has a destination. -/
structure Log where
  enabled : Bool
  hasWriter : Bool
deriving Repr

/-- What is written for a template and its arguments. -/
def Log.line (log : Log) (template : String) (args : List String) : String :=
  if log.enabled && log.hasWriter then Text.fill (template ++ "\n") args else ""

end MustUse
