import MustUse.Syntax.Node

/-!
# The function behind a callee

A callee is looked up through parentheses and explicit instantiations. What remains is an
identifier, bound by its use, or a selector, bound by its selection or, for a name qualified by a
package, by the use of the selected identifier.

Main definitions:

- `Resolution`: the outcome of looking up a callee;
- `core`: the callee without parentheses and instantiations;
- `calleeFunc?`, `resolve`: the origin of the function that is called.
-/

namespace MustUse
namespace Scan

open Syntax

/-- The outcome of looking up the function that a callee stands for. -/
inductive Resolution where
  | found (f : Func)
  /-- The callee is not a statically known function. -/
  | unknown
  /-- The look-up broke down on this callee. -/
  | failed
deriving DecidableEq, Repr

/-- The function that was found. -/
def Resolution.func? : Resolution → Option Func
  | .found f => some f
  | _ => none

/-- A way to look up callees. -/
abbrev Resolver := Node → Resolution

mutual

/-- The callee without layers of parentheses and instantiation; nothing if such a layer is
empty. -/
def core? : Node → Option Node
  | .mk k s a cs =>
    match k with
    | .paren => coreIn cs
    | .index => coreIn cs
    | .indexList => coreIn cs
    | _ => some (.mk k s a cs)

/-- The core of the first child that stands in the operand slot. -/
def coreIn : List Node → Option Node
  | [] => none
  | n :: rest => if n.slot = .x then core? n else coreIn rest

end

/-- The object that the core of a callee is bound to. A selection counts even if it is not a
function. -/
def binding? (n : Node) : Option Obj :=
  match n.kind with
  | .ident => n.attrs.use
  | .selector =>
    match n.attrs.selection with
    | some obj => some obj
    | none => (n.child? .sel).bind (·.attrs.use)
  | _ => none

/-- The origin of the function that a callee is bound to. -/
def calleeFunc? (callee : Node) : Option Func :=
  (((core? callee).bind binding?).bind Obj.func?).map Func.origin

/-- Looking up callees by the bindings in the tree. -/
def resolve : Resolver := fun callee =>
  match calleeFunc? callee with
  | some f => .found f
  | none => .unknown

/-- Looking up callees in a tree without bindings. -/
def resolveNothing : Resolver := fun _ => .unknown

end Scan
end MustUse
