import MustUse.Syntax.Func
import MustUse.Text.Cut

/-!
# Types

Types as far as the look-up of methods depends on them. What is not needed for that is not told
apart: slices, arrays, maps and channels are all rows of elements.

Main definitions:

- `Ty`;
- `Ty.subst`: a type with types for its parameters;
- `Ty.solve`: the parameters that make one type look like another;
- `Ty.text`: the written form of a type.
-/

namespace MustUse
namespace Typing

open Syntax

/-- A type. -/
inductive Ty where
  /-- A type of which nothing is known. -/
  | unknown
  /-- A predeclared type. -/
  | basic (name : String)
  /-- A type parameter. -/
  | param (name : String)
  /-- A defined type of a package, with its type arguments. -/
  | named (package : Nat) (name : String) (args : List Ty)
  | pointer (target : Ty)
  /-- A slice, an array, a map or a channel. -/
  | row (element : Ty)
  /-- A function with the names of its type parameters. -/
  | function (generics : List String) (params results : List Ty)
  /-- A structure with the names and types of its fields; the types of embedded fields are also
  listed on their own. -/
  | struct (names : List String) (types embedded : List Ty)
  /-- An interface with its methods and their types, and the types embedded in it. -/
  | interface (methods : List Declaration) (types embedded : List Ty)
deriving Repr, Inhabited

namespace Ty

/-- Types for type parameters. -/
abbrev Subst := List (String × Ty)

mutual

/-- A type with the given types for its parameters. -/
def subst (σ : Subst) : Ty → Ty
  | .unknown => .unknown
  | .basic name => .basic name
  | .param name => (σ.lookup name).getD (.param name)
  | .named package name args => .named package name (substAll σ args)
  | .pointer target => .pointer (target.subst σ)
  | .row element => .row (element.subst σ)
  | .function generics params results =>
    .function generics (substAll σ params) (substAll σ results)
  | .struct names types embedded => .struct names (substAll σ types) (substAll σ embedded)
  | .interface methods types embedded =>
    .interface methods (substAll σ types) (substAll σ embedded)

/-- Several types with the given types for their parameters. -/
def substAll (σ : Subst) : List Ty → List Ty
  | [] => []
  | t :: rest => t.subst σ :: substAll σ rest

end

mutual

/-- The types for parameters that are read off when a type is compared with another one. -/
def solve : Ty → Ty → Subst
  | .param name, t => [(name, t)]
  | .named _ _ args, .named _ _ others => solveAll args others
  | .pointer t, .pointer u => solve t u
  | .row t, .row u => solve t u
  | .function _ params results, .function _ params' results' =>
    solveAll params params' ++ solveAll results results'
  | _, _ => []

/-- The types for parameters that are read off from several types. -/
def solveAll : List Ty → List Ty → Subst
  | t :: ts, u :: us => solve t u ++ solveAll ts us
  | _, _ => []

end

/-- The type that a pointer points to, and any other type itself. -/
def dropPointer : Ty → Ty
  | .pointer target => target
  | t => t

/-- The type of the elements of a row, also behind a pointer. -/
def element (t : Ty) : Ty :=
  match t.dropPointer with
  | .row element => element
  | _ => .unknown

mutual

/-- The written form of a type; `qualify` gives what stands before a name of a package. -/
def text (qualify : Nat → String) : Ty → String
  | .unknown => "invalid type"
  | .basic name => name
  | .param name => name
  | .named package name [] => qualify package ++ name
  | .named package name args =>
    qualify package ++ name ++ "[" ++ Text.joinWith "," (textAll qualify args) ++ "]"
  | .pointer target => "*" ++ target.text qualify
  | .row element => "[]" ++ element.text qualify
  | .function _ params results =>
    "func(" ++ Text.joinWith ", " (textAll qualify params) ++ ")" ++
      match textAll qualify results with
      | [] => ""
      | [result] => " " ++ result
      | several => " (" ++ Text.joinWith ", " several ++ ")"
  | .struct names types _ =>
    "struct\x7b" ++
      Text.joinWith "; "
        ((names.zip (textAll qualify types)).map fun (name, type) => name ++ " " ++ type) ++
      "\x7d"
  | .interface methods _ _ =>
    "interface\x7b" ++ Text.joinWith "; " (methods.map fun m => m.name ++ "()") ++ "\x7d"

/-- The written forms of several types. -/
def textAll (qualify : Nat → String) : List Ty → List String
  | [] => []
  | t :: rest => t.text qualify :: textAll qualify rest

end

end Ty
end Typing
end MustUse
