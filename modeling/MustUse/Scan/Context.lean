import MustUse.Syntax.Kind

/-!
# The context of a call

Whether the value of an expression is used is decided by the nearest ancestor that is not a pair of
parentheses. Only the shapes listed here use a value; a statement that consists of the call, a
`go` and a `defer` statement discard it.

Main definitions: `uses` and `isUsed`.
-/

namespace MustUse
namespace Scan

open Syntax

/-- Whether a node of this kind uses the value of an expression below it. -/
def uses : Kind → Bool
  | .call => true
  | .binary => true
  | .assignStmt | .valueSpec | .keyValue | .compositeLit => true
  | .returnStmt => true
  | .selector | .index | .indexList | .slice | .star | .unary | .typeAssert => true
  | .sendStmt | .incDecStmt => true
  | .ifStmt | .forStmt | .switchStmt | .typeSwitchStmt | .caseClause | .rangeStmt => true
  | _ => false

/-- Whether a value is used by the ancestors of its expression, the innermost first. A missing
ancestor uses nothing, and so does an empty chain. -/
def isUsed : List (Option Kind) → Bool
  | [] => false
  | some .paren :: rest => isUsed rest
  | some k :: _ => uses k
  | none :: _ => false

end Scan
end MustUse
