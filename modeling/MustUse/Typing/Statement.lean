import MustUse.Typing.Expression

/-!
# Statements

The binding of statements. A block, a conditional, a loop and a clause have scopes of their own.

Main definitions: `declareShort`, `localSpec`, `caseClause`, `stmt`.
-/

namespace MustUse
namespace Typing

open Syntax Source

variable (d : Deeper)

/-- The types of as many values as there are names. -/
def spread (count : Nat) (meanings : List Meaning) : List Ty :=
  match meanings with
  | [.tuple ts] => ts
  | [m] => m.ty :: List.replicate (count - 1) .unknown
  | several => several.map (·.ty)

/-- The binding of the left side of an assignment. A plain name is not read by it. -/
def assigned (n : Node) : Binding (Node × Meaning) :=
  if n.kind = .ident then bindIdent false n else d.expr n

/-- Adds the variables of a short declaration that are not yet in the innermost scope. -/
def declareShort (pairs : List (Node × Ty)) : Binding Unit :=
  pairs.forM fun (n, t) => do
    let s ← get
    let isNew := !((s.scopes.headD []).any (·.name = n.attrs.name))
    if n.kind = .ident && isNew then
      declare
        { name := n.attrs.name, entity := .var t, start := n.attrs.start.getD 0, isOwed := true }

/-- The types of names from their declared type or from their values. -/
def specTypes (count : Nat) (declared : List Ty) (values : List Meaning) : List Ty :=
  match declared with
  | t :: _ => List.replicate count t
  | [] => if values.isEmpty then List.replicate count .unknown else spread count values

/-- The binding of a specification inside of a function. -/
def localSpec (keyword : String) (n : Node) : Binding Node := do
  match n.kind with
  | .valueSpec =>
    let names := n.childrenIn .names
    let (type, ts) ← inSlot n .type (d.type none)
    let (values, ms) ← inSlot n .values d.expr
    (names.zip (specTypes names.length ts ms)).forM fun (name, t) =>
      declare
        { name := name.attrs.name, entity := .var t, start := name.attrs.start.getD 0
          isOwed := keyword = "var" }
    return rebuild n [(.names, names), (.type, type), (.values, values)]
  | .typeSpec =>
    let names := n.childrenIn .name
    let (type, ts) ← inScope do
      declareGenerics (genericNames (n.childrenIn .typeParams) ++ names)
      inSlot n .type (d.type none)
    names.forM fun name =>
      declare
        { name := name.attrs.name, entity := .type (ts.headD .unknown)
          start := name.attrs.start.getD 0, isOwed := false }
    return rebuild n [(.name, names), (.typeParams, n.childrenIn .typeParams), (.type, type)]
  | _ => return n

/-- The binding of a clause of a switch; `subject` is the variable that has the type of the clause,
if there is one. -/
def caseClause (subject : Option Node) (n : Node) : Binding Node :=
  inScope do
    let (list, ms) ← inSlot n .list d.expr
    let t := match ms with
      | [.type t] => t
      | _ => .unknown
    subject.forM fun name =>
      declare
        { name := name.attrs.name, entity := .var t, start := name.attrs.start.getD 0
          isOwed := false }
    let body ← plainly n .body d.stmt
    return rebuild n [(.list, list), (.body, body)]

/-- The binding of the clauses of a switch. -/
def clauses (clause : Node → Binding Node) (n : Node) : Binding (List Node) :=
  plainly n .body fun block => do
    return rebuild block [(.list, ← plainly block .list clause)]

/-- The binding of a statement. -/
def stmt (n : Node) : Binding Node := do
  let plainExprs (s : Slot) : Binding (List Node) := do
    return (← inSlot n s d.expr).1
  match n.kind with
  | .exprStmt => return rebuild n [(.x, ← plainExprs .x)]
  | .incDecStmt => return rebuild n [(.x, (← inSlot n .x (assigned d)).1)]
  | .goStmt => return rebuild n [(.call, ← plainExprs .call)]
  | .deferStmt => return rebuild n [(.call, ← plainExprs .call)]
  | .returnStmt => return rebuild n [(.results, ← plainExprs .results)]
  | .sendStmt => return rebuild n [(.chan, ← plainExprs .chan), (.value, ← plainExprs .value)]
  | .assignStmt =>
    let (rhs, ms) ← inSlot n .rhs d.expr
    let lhs := n.childrenIn .lhs
    if n.attrs.name = ":=" then
      declareShort (lhs.zip (spread lhs.length ms))
      return rebuild n [(.lhs, lhs), (.rhs, rhs)]
    else
      return rebuild n [(.lhs, (← inSlot n .lhs (assigned d)).1), (.rhs, rhs)]
  | .declStmt =>
    let decls ← plainly n .decl fun decl => do
      return rebuild decl [(.specs, ← plainly decl .specs (localSpec d decl.attrs.name))]
    return rebuild n [(.decl, decls)]
  | .labeledStmt =>
    return rebuild n [(.label, n.childrenIn .label), (.stmt, ← plainly n .stmt d.stmt)]
  | .blockStmt => inScope do return rebuild n [(.list, ← plainly n .list d.stmt)]
  | .ifStmt =>
    inScope do
      let init ← plainly n .init d.stmt
      let cond ← plainExprs .cond
      let body ← plainly n .body d.stmt
      let els ← plainly n .els d.stmt
      return rebuild n [(.init, init), (.cond, cond), (.body, body), (.els, els)]
  | .forStmt =>
    inScope do
      let init ← plainly n .init d.stmt
      let cond ← plainExprs .cond
      let post ← plainly n .post d.stmt
      let body ← plainly n .body d.stmt
      return rebuild n [(.init, init), (.cond, cond), (.post, post), (.body, body)]
  | .rangeStmt =>
    inScope do
      let (x, ms) ← inSlot n .x d.expr
      let names := n.childrenIn .key ++ n.childrenIn .value
      let head ←
        if n.attrs.name = ":=" then do
          declareShort (names.zip [.unknown, (ms.headD .unknown).ty.element])
          pure [(Slot.key, n.childrenIn .key), (.value, n.childrenIn .value)]
        else
          pure [(.key, (← inSlot n .key (assigned d)).1),
            (.value, (← inSlot n .value (assigned d)).1)]
      return rebuild n (head ++ [(.x, x), (.body, ← plainly n .body d.stmt)])
  | .switchStmt =>
    inScope do
      let init ← plainly n .init d.stmt
      let tag ← plainExprs .tag
      return rebuild n [(.init, init), (.tag, tag), (.body, ← clauses (caseClause d none) n)]
  | .typeSwitchStmt =>
    inScope do
      let init ← plainly n .init d.stmt
      let assign ← plainly n .assign fun a => do
        if a.kind = .assignStmt then
          return rebuild a [(.lhs, a.childrenIn .lhs), (.rhs, (← inSlot a .rhs d.expr).1)]
        else
          d.stmt a
      let subject := (n.child? .assign).bind (·.child? .lhs)
      return rebuild n
        [(.init, init), (.assign, assign), (.body, ← clauses (caseClause d subject) n)]
  | .selectStmt =>
    let clause (c : Node) : Binding Node :=
      inScope do
        let comm ← plainly c .comm d.stmt
        return rebuild c [(.comm, comm), (.body, ← plainly c .body d.stmt)]
    return rebuild n [(.body, ← clauses clause n)]
  | _ => return n

end Typing
end MustUse
