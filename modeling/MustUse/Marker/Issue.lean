import MustUse.Marker.Name
import MustUse.Syntax.Place

/-!
# Issues of directives

A must-use directive that is misplaced, carries arguments or stands on a function without results.

Main definitions: `IssueKind`, `Issue` and `Issue.message`.
-/

namespace MustUse
namespace Marker

open Syntax

/-- What is wrong with a directive. -/
inductive IssueKind where
  /-- It is not attached to a function or an interface method. -/
  | misplaced
  /-- It is followed by arguments. -/
  | hasArgs
  /-- It is attached to a function that returns nothing. -/
  | noResult
deriving DecidableEq, Repr

/-- A directive with something wrong; the function is empty for a misplaced one. -/
structure Issue where
  kind : IssueKind
  place : Option Place
  func : String
deriving DecidableEq, Repr

namespace Issue

/-- The description of an issue. -/
def message (i : Issue) : String :=
  let directive := "//" ++ Name.mustUse.text ++ " directive"
  match i.kind with
  | .misplaced => directive ++ " is only allowed on functions and methods"
  | .hasArgs => directive ++ " takes no arguments"
  | .noResult => directive ++ " has no effect on '" ++ i.func ++ "' which returns no value"

end Issue
end Marker
end MustUse
