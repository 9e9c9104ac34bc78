import MustUse.Proofs.Syntax.TreePath

/-!
# Which nodes a slot admits

A slot of a node admits nodes of one class only: an expression, a statement, an identifier and so
on. Expressions are told apart further by what they are for, since types and the lengths of arrays
are written as expressions too.

Main definitions:

- `SlotType`, `SlotType.admits`: the classes of nodes;
- `Kind.slotTypes`: the slots of a kind with their classes, in traversal order;
- `Kind.holdsExpr`: the slots that every expression may stand in;
- `Node.WellSlotted`: every node of a tree stands in a slot that admits it.

Main statement: `Kind.map_fst_slotTypes`, the slots with a class are the slots that a node has.
-/

namespace MustUse
namespace Syntax

/-- What a slot is for. -/
inductive SlotType where
  /-- An expression with a value. -/
  | value
  /-- An expression that denotes a type. -/
  | type
  /-- The length of an array type. -/
  | length
  | ident
  | literal
  | funcType
  | call
  | fieldList
  | field
  | stmt
  | block
  | spec
  | decl
deriving DecidableEq, Repr

namespace Kind

def isExpr : Kind → Bool
  | .ident | .basicLit | .badExpr | .ellipsis | .funcLit | .compositeLit | .paren | .star
  | .unary | .selector | .index | .indexList | .slice | .typeAssert | .call | .binary | .keyValue
  | .arrayType | .structType | .funcType | .interfaceType | .mapType | .chanType => true
  | _ => false

def isStmt : Kind → Bool
  | .badStmt | .emptyStmt | .declStmt | .labeledStmt | .exprStmt | .incDecStmt | .sendStmt
  | .assignStmt | .goStmt | .deferStmt | .returnStmt | .branchStmt | .blockStmt | .ifStmt
  | .caseClause | .switchStmt | .typeSwitchStmt | .commClause | .selectStmt | .forStmt
  | .rangeStmt => true
  | _ => false

def isSpec : Kind → Bool
  | .importSpec | .valueSpec | .typeSpec => true
  | _ => false

def isDecl : Kind → Bool
  | .badDecl | .genDecl | .funcDecl => true
  | _ => false

end Kind

namespace SlotType

/-- Whether a node of this kind may stand in the slot. -/
def admits : SlotType → Kind → Bool
  | .value, k | .type, k | .length, k => k.isExpr
  | .ident, k => k = .ident
  | .literal, k => k = .basicLit
  | .funcType, k => k = .funcType
  | .call, k => k = .call
  | .fieldList, k => k = .fieldList
  | .field, k => k = .field
  | .stmt, k => k.isStmt
  | .block, k => k = .blockStmt
  | .spec, k => k.isSpec
  | .decl, k => k.isDecl

/-- Whether every expression may stand in the slot. -/
def isExpr : SlotType → Bool
  | .value | .type | .length => true
  | _ => false

end SlotType

namespace Kind

/-- The slots of a kind in traversal order, and what they are for. -/
def slotTypes : Kind → List (Slot × SlotType)
  | .ellipsis => [(.elt, .type)]
  | .funcLit => [(.type, .funcType), (.body, .block)]
  | .compositeLit => [(.type, .type), (.elts, .value)]
  | .paren => [(.x, .value)]
  | .star => [(.x, .value)]
  | .unary => [(.x, .value)]
  | .selector => [(.x, .value), (.sel, .ident)]
  | .index => [(.x, .value), (.index, .value)]
  | .indexList => [(.x, .value), (.indices, .value)]
  | .slice => [(.x, .value), (.low, .value), (.high, .value), (.max, .value)]
  | .typeAssert => [(.x, .value), (.type, .type)]
  | .call => [(.fn, .value), (.args, .value)]
  | .binary => [(.x, .value), (.y, .value)]
  | .keyValue => [(.key, .value), (.value, .value)]
  | .arrayType => [(.len, .length), (.elt, .type)]
  | .structType => [(.fields, .fieldList)]
  | .funcType => [(.typeParams, .fieldList), (.params, .fieldList), (.results, .fieldList)]
  | .interfaceType => [(.methods, .fieldList)]
  | .mapType => [(.key, .type), (.value, .type)]
  | .chanType => [(.value, .type)]
  | .fieldList => [(.list, .field)]
  | .field => [(.names, .ident), (.type, .type), (.tag, .literal)]
  | .declStmt => [(.decl, .decl)]
  | .labeledStmt => [(.label, .ident), (.stmt, .stmt)]
  | .exprStmt => [(.x, .value)]
  | .incDecStmt => [(.x, .value)]
  | .sendStmt => [(.chan, .value), (.value, .value)]
  | .assignStmt => [(.lhs, .value), (.rhs, .value)]
  | .goStmt => [(.call, .call)]
  | .deferStmt => [(.call, .call)]
  | .returnStmt => [(.results, .value)]
  | .branchStmt => [(.label, .ident)]
  | .blockStmt => [(.list, .stmt)]
  | .ifStmt => [(.init, .stmt), (.cond, .value), (.body, .block), (.els, .stmt)]
  | .caseClause => [(.list, .value), (.body, .stmt)]
  | .switchStmt => [(.init, .stmt), (.tag, .value), (.body, .block)]
  | .typeSwitchStmt => [(.init, .stmt), (.assign, .stmt), (.body, .block)]
  | .commClause => [(.comm, .stmt), (.body, .stmt)]
  | .selectStmt => [(.body, .block)]
  | .forStmt => [(.init, .stmt), (.cond, .value), (.post, .stmt), (.body, .block)]
  | .rangeStmt => [(.key, .value), (.value, .value), (.x, .value), (.body, .block)]
  | .importSpec => [(.name, .ident), (.path, .literal)]
  | .valueSpec => [(.names, .ident), (.type, .type), (.values, .value)]
  | .typeSpec => [(.name, .ident), (.typeParams, .fieldList), (.type, .type)]
  | .genDecl => [(.specs, .spec)]
  | .funcDecl => [(.recv, .fieldList), (.name, .ident), (.type, .funcType), (.body, .block)]
  | .file => [(.decls, .decl)]
  | _ => []

theorem map_fst_slotTypes
    (k : Kind) :
    k.slotTypes.map (·.1) = k.slots := by
  cases k <;> rfl

/-- Whether every expression may stand in the slot of a node of this kind. -/
def holdsExpr (k : Kind) (s : Slot) : Bool :=
  k.slotTypes.any fun e => e.1 = s && e.2.isExpr

end Kind

namespace Node

/-- Every node below the root stands in a slot of its parent that admits it. -/
def WellSlotted (root : Node) : Prop :=
  ∀ n ∈ root.descendants, ∀ c ∈ n.children,
    ∃ e ∈ n.kind.slotTypes, e.1 = c.slot ∧ e.2.admits c.kind = true

/-- No call stands in a type or in the length of an array, at any depth. -/
def CallFreeTypes (root : Node) : Prop :=
  ∀ n ∈ root.descendants, ∀ c ∈ n.children, ∀ e ∈ n.kind.slotTypes,
    e.1 = c.slot → e.2 = .type ∨ e.2 = .length → ∀ x ∈ c.descendants, x.kind ≠ .call

instance (root : Node) : Decidable root.WellSlotted :=
  inferInstanceAs (Decidable (∀ n ∈ root.descendants, ∀ c ∈ n.children,
    ∃ e ∈ n.kind.slotTypes, e.1 = c.slot ∧ e.2.admits c.kind = true))

instance (root : Node) : Decidable root.CallFreeTypes :=
  inferInstanceAs (Decidable (∀ n ∈ root.descendants, ∀ c ∈ n.children, ∀ e ∈ n.kind.slotTypes,
    e.1 = c.slot → e.2 = .type ∨ e.2 = .length → ∀ x ∈ c.descendants, x.kind ≠ .call))

end Node
end Syntax
end MustUse
