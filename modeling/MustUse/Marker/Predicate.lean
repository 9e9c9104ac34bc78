import MustUse.Marker.Table
import MustUse.Spec

/-!
# Which functions are marked

A function is marked when one of several sources attaches the must-use marker to its origin, or when
it is one of the functions specified by configuration.

Main definitions: `Source`, `Predicate` and `Predicate.isMarked`.
-/

namespace MustUse
namespace Marker

open Syntax

/-- A source of markers: a table, or facts of other packages. -/
abbrev Source := Func → Option Set

/-- The sources to consult in order, and the functions marked by configuration. -/
structure Predicate where
  extra : List Spec
  sources : List Source

namespace Predicate

/-- Whether a source attaches the must-use marker to a function. -/
def isMarkedBy (f : Func) (source : Source) : Bool :=
  match source f with
  | none => false
  | some set => set.contains Name.mustUse

/-- Whether the result of a function must be used. Views of a function are judged by its origin. -/
def isMarked (p : Predicate) (f : Func) : Bool :=
  p.sources.any (isMarkedBy f.origin) || Spec.anyMatch p.extra f.origin

/-- The predicate over a table and a store of facts. -/
def ofSources (extra : List Spec) (table : Table) (facts : FactStore) : Predicate :=
  { extra := extra, sources := [table.markers, facts.markers] }

end Predicate
end Marker
end MustUse
