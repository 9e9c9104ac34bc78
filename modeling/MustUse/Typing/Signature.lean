import MustUse.Typing.Context

/-!
# Types and signatures

The binding of types. The methods of an interface are declared where they stand, with the name that
the interface is being given as their receiver.

Main definitions:

- `bindSignature`: parameters and results of a function;
- `declarationAt`: the declaration of a function;
- `typeOf`: the binding of a type.
-/

namespace MustUse
namespace Typing

open Syntax Source

variable (d : Deeper)

/-- The names of a field. -/
def fieldNames (field : Node) : List Node :=
  field.childrenIn .names

/-- The binding of a list of fields; each field has its names and its type. -/
def fields (list : Node) : Binding (Node × List (List Node × Ty)) := do
  let (nodes, entries) ← inSlot list .list fun field => do
    let (type, ts) ← inSlot field .type (d.type none)
    return (rebuild field
        [(.names, fieldNames field), (.type, type), (.tag, field.childrenIn .tag)],
      (fieldNames field, ts.headD .unknown))
  return (rebuild list [(.list, nodes)], entries)

/-- The types of the values in a list of fields, one for each name. -/
def valueTypes (entries : List (List Node × Ty)) : List Ty :=
  entries.flatMap fun (names, type) =>
    if names.isEmpty then [type] else names.map fun _ => type

/-- Adds the names of a list of fields to the scope. -/
def declareFields (entries : List (List Node × Ty)) : Binding Unit :=
  entries.forM fun (names, type) =>
    names.forM fun n =>
      declare
        { name := n.attrs.name, entity := .var type, start := n.attrs.start.getD 0
          isOwed := false }

/-- Adds type parameters to the scope. -/
def declareGenerics (names : List Node) : Binding Unit :=
  names.forM fun n =>
    declare
      { name := n.attrs.name, entity := .type (.param n.attrs.name)
        start := n.attrs.start.getD 0, isOwed := false }

/-- The names of the type parameters in a list of fields. -/
def genericNames (lists : List Node) : List Node :=
  lists.flatMap fun list => (list.childrenIn .list).flatMap fieldNames

/-- The binding of parameters and results. All names are added to the scope. -/
def bindSignature (n : Node) : Binding (Node × Ty) := do
  let generics := genericNames (n.childrenIn .typeParams)
  declareGenerics generics
  let (typeParams, _) ← inSlot n .typeParams (fields d)
  let (params, paramEntries) ← inSlot n .params (fields d)
  let (results, resultEntries) ← inSlot n .results (fields d)
  declareFields paramEntries.flatten
  declareFields resultEntries.flatten
  return (rebuild n [(.typeParams, typeParams), (.params, params), (.results, results)],
    .function (generics.map (·.attrs.name)) (valueTypes paramEntries.flatten)
      (valueTypes resultEntries.flatten))

/-- The number of results of a function. -/
def resultCount : Ty → Nat
  | .function _ _ results => results.length
  | _ => 0

/-- The declaration of a function at the name in a tree. -/
def declarationAt (ctx : Context) (name : Node) (receiver : Option ReceiverType) (type : Ty) :
    Declaration :=
  let start := name.attrs.start.getD 0
  { id := ctx.base + start
    name := name.attrs.name
    package := some ctx.self.package
    signature := some { receiver := receiver, results := resultCount type }
    place := some { file := ctx.file, offset := start } }

/-- The name of a function bound to its declaration. -/
def withDefinition (n : Node) (decl : Declaration) : Node :=
  .mk n.kind n.slot { n.attrs with defines := some (.func (.declared decl)) } n.children

/-- The name under which an embedded type can be selected. -/
def embeddedName (type : Node) : String :=
  let names := type.descendants.filter (·.kind = .ident)
  match type.kind with
  | .selector => ((type.child? .sel).map (·.attrs.name)).getD ""
  | _ => (names.head?.map (·.attrs.name)).getD ""

/-- The binding of the fields of a structure. -/
def structFields (n : Node) : Binding (Node × Ty) := do
  let (nodes, entries) ← inSlot n .fields (fields d)
  let named := entries.flatten.flatMap fun (names, type) =>
    names.map fun n => (n.attrs.name, type)
  let embedded :=
    ((nodes.flatMap (·.childrenIn .list)).zip entries.flatten).filterMap fun (field, names, type) =>
      if names.isEmpty then (field.child? .type).map fun t => (embeddedName t, type) else none
  let all := named ++ embedded
  return (rebuild n [(.fields, nodes)],
    .struct (all.map (·.1)) (all.map (·.2)) (embedded.map (·.2)))

/-- The binding of an element of an interface: a method, or an embedded type. -/
def interfaceField (owner : Option String) (field : Node) :
    Binding (Node × (Option (Declaration × Ty) × Option Ty)) := do
  let ctx ← read
  match fieldNames field, field.child? .type with
  | [name], some type =>
    let (bound, t) ← inScope (bindSignature d type)
    let receiver : ReceiverType :=
      match owner with
      | some name => .named name
      | none => .unnamed
    let decl := declarationAt ctx name (some receiver) t
    return (rebuild field [(.names, [withDefinition name decl]), (.type, [bound])],
      (some (decl, t), none))
  | _, _ =>
    let (type, ts) ← inSlot field .type (d.type none)
    return (rebuild field [(.type, type)], (none, ts.head?))

/-- The binding of the elements of an interface. -/
def interfaceMethods (owner : Option String) (n : Node) : Binding (Node × Ty) := do
  let (lists, entries) ← inSlot n .methods fun list => do
    let (nodes, entries) ← inSlot list .list (interfaceField d owner)
    return (rebuild list [(.list, nodes)], entries)
  let methods := entries.flatten.filterMap (·.1)
  return (rebuild n [(.methods, lists)],
    .interface (methods.map (·.1)) (methods.map (·.2)) (entries.flatten.filterMap (·.2)))

/-- The binding of a type. -/
def typeOf (owner : Option String) (n : Node) : Binding (Node × Ty) := do
  match n.kind with
  | .paren =>
    let (x, ts) ← inSlot n .x (d.type owner)
    return (rebuild n [(.x, x)], ts.headD .unknown)
  | .star =>
    let (x, ts) ← inSlot n .x (d.type none)
    return (rebuild n [(.x, x)], .pointer (ts.headD .unknown))
  | .ellipsis =>
    let (elt, ts) ← inSlot n .elt (d.type none)
    return (rebuild n [(.elt, elt)], .row (ts.headD .unknown))
  | .arrayType =>
    let (len, _) ← inSlot n .len d.expr
    let (elt, ts) ← inSlot n .elt (d.type none)
    return (rebuild n [(.len, len), (.elt, elt)], .row (ts.headD .unknown))
  | .mapType =>
    let (key, _) ← inSlot n .key (d.type none)
    let (value, ts) ← inSlot n .value (d.type none)
    return (rebuild n [(.key, key), (.value, value)], .row (ts.headD .unknown))
  | .chanType =>
    let (value, ts) ← inSlot n .value (d.type none)
    return (rebuild n [(.value, value)], .row (ts.headD .unknown))
  | .funcType => inScope (bindSignature d n)
  | .structType => structFields d n
  | .interfaceType => interfaceMethods d owner n
  | .unary =>
    let (x, _) ← inSlot n .x (d.type none)
    return (rebuild n [(.x, x)], .unknown)
  | .binary =>
    let (x, _) ← inSlot n .x (d.type none)
    let (y, _) ← inSlot n .y (d.type none)
    return (rebuild n [(.x, x), (.y, y)], .unknown)
  | _ =>
    let (bound, meaning) ← d.expr n
    return (bound, meaning.asType)

end Typing
end MustUse
