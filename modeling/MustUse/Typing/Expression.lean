import MustUse.Typing.Signature

/-!
# Expressions

The binding of expressions, and what they stand for. A selector is bound to the method it selects,
found through the type of its operand.

Main definitions:

- `qualified`: a name of another package;
- `selector`, `applyBrackets`, `applyCall`;
- `functionBody`: the body of a function;
- `expr`: the binding of an expression.
-/

namespace MustUse
namespace Typing

open Syntax Source

variable (d : Deeper)

/-- The function of a package that is not read: it is taken to have a result. -/
def foreignFunc (number : Nat) (path name : String) : Func :=
  .declared
    { id := 0
      name := name
      package := some { id := number, path := path }
      signature := some { receiver := none, results := 1 }
      place := none }

/-- Whether a name can be used outside of its package. -/
def isExported (name : String) : Bool :=
  name.toList.head?.any fun c => 'A' ≤ c && c ≤ 'Z'

/-- The binding of a name of another package. -/
def qualified (target : Target) (package : String) (sel : Node) : Binding (Node × Meaning) := do
  let ctx ← read
  let name := sel.attrs.name
  let start := sel.attrs.start.getD 0
  match target with
  | .missing => return (sel, .unknown)
  | .foreign path => return (withUse sel (foreignFunc ctx.program.length path name), .unknown)
  | .known number =>
    match ctx.program.find? (·.package.id = number) with
    | none => return (sel, .unknown)
    | some scope =>
      match scope.entities.lookup name with
      | none =>
        report start ("undefined: " ++ package ++ "." ++ name)
        return (sel, .unknown)
      | some entity =>
        if !isExported name then
          report start ("name " ++ name ++ " not exported by package " ++ scope.name)
        let bound := match entity.func? with
          | some f => withUse sel f
          | none => sel
        return (bound, entity.meaning name)

/-- What stands before a name of a package in the written form of a type. -/
def Context.qualify (ctx : Context) (package : Nat) : String :=
  if package = ctx.self.package.id then ""
  else ((ctx.program.find? (·.package.id = package)).map fun s => s.name ++ ".").getD ""

/-- How deep members are searched. -/
def memberDepth : Nat := 32

/-- The written form of an operand in the description of a fault. -/
def operandText (n : Node) : String :=
  Text.joinWith "." ((n.descendants.filter (·.kind = .ident)).map (·.attrs.name))

/-- The binding of a selector. -/
def selector (n : Node) : Binding (Node × Meaning) := do
  let ctx ← read
  let (x, meanings) ← inSlot n .x d.expr
  match meanings, n.child? .sel with
  | [.package target name], some sel =>
    let (sel, meaning) ← qualified target name sel
    return (rebuild n [(.x, x), (.sel, [sel])], meaning)
  | [meaning], some sel =>
    let t := match meaning with
      | .type t => t
      | m => m.ty
    match member ctx.typeInfo? sel.attrs.name memberDepth t with
    | .found (.field type) => return (rebuild n [(.x, x), (.sel, [sel])], .value type)
    | .found (.method f type) =>
      let bound := rebuild n [(.x, x), (.sel, [withUse sel f])]
      return (.mk bound.kind bound.slot { bound.attrs with selection := some (.func f) }
          bound.children, .value type)
    | .absent =>
      report (sel.attrs.start.getD 0)
        (operandText n ++ " undefined (type " ++ t.text ctx.qualify ++
          " has no field or method " ++ sel.attrs.name ++ ")")
      return (rebuild n [(.x, x), (.sel, [sel])], .unknown)
    | .unknown => return (rebuild n [(.x, x), (.sel, [sel])], .unknown)
  | _, _ => return (rebuild n [(.x, x), (.sel, n.childrenIn .sel)], .unknown)

/-- Something with arguments in brackets. -/
def applyBrackets (x : Meaning) (args : List Meaning) : Meaning :=
  let types := args.map (·.asType)
  match x with
  | .type (.named package name _) => .type (.named package name types)
  | .value (.function generics params results) =>
    let σ := generics.zip types
    .value (.function (generics.drop types.length) (Ty.substAll σ params) (Ty.substAll σ results))
  | .value t => .value t.element
  | _ => .unknown

/-- What a call of a predeclared function stands for. -/
def builtinCall (name : String) (args : List Meaning) : Meaning :=
  if name = "new" then .value (.pointer ((args.head?.map (·.asType)).getD .unknown))
  else if name = "make" then .value ((args.head?.map (·.asType)).getD .unknown)
  else if ["append", "max", "min"].contains name then
    .value ((args.head?.map (·.ty)).getD .unknown)
  else if ["len", "cap", "copy"].contains name then .value (.basic "int")
  else .unknown

/-- What a call stands for: its results, with the type parameters read off from the arguments. -/
def applyCall (fn : Meaning) (args : List Meaning) : Meaning :=
  match fn with
  | .type t => .value t
  | .builtin name => builtinCall name args
  | .value (.function _ params results) =>
    match Ty.substAll (Ty.solveAll params (args.map (·.ty))) results with
    | [result] => .value result
    | several => .tuple several
  | _ => .unknown

/-- The type of a literal. -/
def literalType (text : String) : Ty :=
  match text.toList with
  | [] => .unknown
  | c :: rest =>
    if c = '"' || c = '\x60' then .basic "string"
    else if c = '\x27' then .basic "rune"
    else if rest.contains '.' || c = '.' then .basic "float64"
    else .basic "int"

/-- The type behind the name of a defined type. -/
def underlying (ctx : Context) (t : Ty) : Ty :=
  match t with
  | .named package name args =>
    match ctx.typeInfo? package name with
    | some info => info.underlying.subst (info.generics.zip args)
    | none => .unknown
  | _ => t

/-- The binding of an element of a literal of the given type. The keys of a structure are names of
its fields. -/
def element (isStruct : Bool) (n : Node) : Binding (Node × Meaning) := do
  if n.kind = .keyValue then
    let (key, _) ← inSlot n .key fun key =>
      if isStruct && key.kind = .ident then return (key, .unknown) else d.expr key
    let (value, meanings) ← inSlot n .value d.expr
    return (rebuild n [(.key, key), (.value, value)], meanings.headD .unknown)
  else
    d.expr n

/-- The binding of a body with the names of its signature in scope. Variables of the function that
are not used are faults after those of its body. -/
def functionBody (n : Node) : Binding (List Node) := do
  let before ← get
  set { before with inBody := true, unused := [] }
  let body ← plainly n .body d.stmt
  modify fun s =>
    { s with
      inBody := before.inBody
      inner := s.inner ++ s.unused.mergeSort fun a b => a.start ≤ b.start
      unused := before.unused }
  return body

/-- The binding of an expression. -/
def expr (n : Node) : Binding (Node × Meaning) := do
  match n.kind with
  | .ident => bindIdent true n
  | .basicLit => return (n, .value (literalType n.attrs.name))
  | .funcLit =>
    inScope do
      let (type, ts) ← inSlot n .type (bindSignature d)
      let body ← functionBody d n
      return (rebuild n [(.type, type), (.body, body)], .value (ts.headD .unknown))
  | .compositeLit =>
    let ctx ← read
    let (type, ts) ← inSlot n .type (d.type none)
    let t := ts.headD .unknown
    let isStruct := match underlying ctx t with
      | .struct .. => true
      | .unknown => true
      | _ => false
    let (elts, _) ← inSlot n .elts (element d isStruct)
    return (rebuild n [(.type, type), (.elts, elts)], .value t)
  | .paren =>
    let (x, ms) ← inSlot n .x d.expr
    return (rebuild n [(.x, x)], ms.headD .unknown)
  | .star =>
    let (x, ms) ← inSlot n .x d.expr
    let meaning := match ms.headD .unknown with
      | .type t => Meaning.type (.pointer t)
      | .value t => .value t.dropPointer
      | _ => .unknown
    return (rebuild n [(.x, x)], meaning)
  | .unary =>
    let (x, ms) ← inSlot n .x d.expr
    let t := (ms.headD .unknown).ty
    let result := if n.attrs.name = "&" then .pointer t
      else if n.attrs.name = "<-" then t.element
      else t
    return (rebuild n [(.x, x)], .value result)
  | .selector => selector d n
  | .index =>
    let (x, ms) ← inSlot n .x d.expr
    let (index, args) ← inSlot n .index d.expr
    return (rebuild n [(.x, x), (.index, index)], applyBrackets (ms.headD .unknown) args)
  | .indexList =>
    let (x, ms) ← inSlot n .x d.expr
    let (indices, args) ← inSlot n .indices d.expr
    return (rebuild n [(.x, x), (.indices, indices)], applyBrackets (ms.headD .unknown) args)
  | .slice =>
    let (x, ms) ← inSlot n .x d.expr
    let (low, _) ← inSlot n .low d.expr
    let (high, _) ← inSlot n .high d.expr
    let (max, _) ← inSlot n .max d.expr
    return (rebuild n [(.x, x), (.low, low), (.high, high), (.max, max)], ms.headD .unknown)
  | .typeAssert =>
    let (x, _) ← inSlot n .x d.expr
    let (type, ts) ← inSlot n .type (d.type none)
    return (rebuild n [(.x, x), (.type, type)], .value (ts.headD .unknown))
  | .call =>
    let (fn, ms) ← inSlot n .fn d.expr
    let (args, values) ← inSlot n .args d.expr
    return (rebuild n [(.fn, fn), (.args, args)], applyCall (ms.headD .unknown) values)
  | .binary =>
    let (x, ms) ← inSlot n .x d.expr
    let (y, _) ← inSlot n .y d.expr
    let isTest := ["==", "!=", "<", "<=", ">", ">=", "&&", "||"].contains n.attrs.name
    return (rebuild n [(.x, x), (.y, y)],
      .value (if isTest then .basic "bool" else (ms.headD .unknown).ty))
  | _ =>
    let (bound, t) ← d.type none n
    return (bound, .type t)

end Typing
end MustUse
