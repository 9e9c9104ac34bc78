import MustUse.Marker.Set
import MustUse.Syntax.Func

/-!
# Facts

The markers of a function as they travel between packages: a list of written names. Facts are stored
for exactly one function each; a view through an instantiation has a fact of its own or none.

Main definitions:

- `Fact`, `Fact.ofSet`, `Fact.toSet`, `Fact.text`;
- `FactStore`, `FactStore.find?`, `FactStore.put`.
-/

namespace MustUse
namespace Marker

open Syntax

/-- The written names of the markers of a function. -/
structure Fact where
  markers : List String
deriving DecidableEq, Repr

namespace Fact

/-- The fact that carries a set: its names in increasing order. -/
def ofSet (s : Set) : Fact :=
  { markers := s.texts }

/-- The set that a fact carries. Malformed names are dropped. -/
def toSet (f : Fact) : Set :=
  Set.ofList (f.markers.filterMap Name.parse?)

/-- The written form of a fact. -/
def text (f : Fact) : String :=
  "markers(" ++ Text.joinWith "," f.markers ++ ")"

end Fact

/-- Facts by function; the entry made last counts. -/
structure FactStore where
  entries : List (Func × Fact)
deriving Repr

namespace FactStore

/-- The store without facts. -/
def empty : FactStore :=
  { entries := [] }

/-- The fact stored for exactly this function. -/
def find? (s : FactStore) (f : Func) : Option Fact :=
  s.entries.lookup f

/-- The store after a fact is stored for a function. -/
def put (s : FactStore) (f : Func) (fact : Fact) : FactStore :=
  { entries := (f, fact) :: s.entries }

/-- The store after several facts are stored in order. -/
def putAll (s : FactStore) (facts : List (Func × Fact)) : FactStore :=
  facts.foldl (fun store entry => store.put entry.1 entry.2) s

/-- The markers that the store has for exactly this function. -/
def markers (s : FactStore) (f : Func) : Option Set :=
  (s.find? f).map Fact.toSet

end FactStore
end Marker
end MustUse
