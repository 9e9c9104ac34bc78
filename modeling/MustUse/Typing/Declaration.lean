import MustUse.Typing.Statement

/-!
# Declarations of a file

The rules for nested nodes tied together by depth, and the binding of the declarations of a file.

Main definitions:

- `binder`: the rules up to a depth;
- `functionHead`: receiver, type and declaration of a function;
- `bindDecl`: the binding of a declaration.
-/

namespace MustUse
namespace Typing

open Syntax Source

/-- The rules up to a depth; at depth zero nodes stay as they are. -/
def binder : Nat → Deeper
  | 0 =>
    { expr := fun n => return (n, .unknown)
      type := fun _ n => return (n, .unknown)
      stmt := fun n => return n }
  | depth + 1 =>
    let d := binder depth
    { expr := expr d, type := typeOf d, stmt := stmt d }

/-- The rules for a whole node. -/
def binderFor (n : Node) : Deeper :=
  binder (n.descendants.length + 1)

/-- The type of a receiver without parentheses and pointers, and whether there is a pointer. -/
def receiverBase : Node → Bool × Option Node
  | .mk .star _ _ (x :: _) => (true, (receiverBase x).2)
  | .mk .paren _ _ (x :: _) => receiverBase x
  | n => (false, some n)

/-- The name of a receiver's type and the names it gives to the type's parameters. -/
def receiverName (base : Node) : String × List Node :=
  match base.kind with
  | .index => (((base.child? .x).map (·.attrs.name)).getD "", base.childrenIn .index)
  | .indexList => (((base.child? .x).map (·.attrs.name)).getD "", base.childrenIn .indices)
  | _ => (base.attrs.name, [])

/-- A receiver as it is written: its type's name, the names of type parameters, and its type. -/
structure Receiver where
  owner : String
  generics : List Node
  type : ReceiverType

/-- The receiver of a function declaration. -/
def receiver? (decl : Node) : Option Receiver := do
  let list ← decl.child? .recv
  let field ← list.child? .list
  let type ← field.child? .type
  let (isPointer, base?) := receiverBase type
  let base ← base?
  let (owner, generics) := receiverName base
  let named : ReceiverType := .named owner
  return {
    owner := owner
    generics := generics
    type := if isPointer then .pointer named else named }

/-- The binding of the head of a function declaration, with the names of the head left in the
scope: its receiver, its type and its declaration. -/
def functionHead (decl : Node) : Binding (List Node × List Node × Ty × Option Declaration) := do
  let ctx ← read
  let d := binderFor decl
  let receiver := receiver? decl
  declareGenerics ((receiver.map (·.generics)).getD [])
  let (recv, recvEntries) ← inSlot decl .recv (fields d)
  declareFields recvEntries.flatten
  let (type, ts) ← inSlot decl .type (bindSignature d)
  let t := ts.headD .unknown
  return (recv, type, t,
    (decl.child? .name).map fun name => declarationAt ctx name (receiver.map (·.type)) t)

/-- The binding of a specification of a file. -/
def fileSpec (spec : Node) : Binding Node := do
  let d := binderFor spec
  match spec.kind with
  | .valueSpec =>
    let (type, _) ← inSlot spec .type (d.type none)
    let (values, _) ← inSlot spec .values d.expr
    return rebuild spec [(.names, spec.childrenIn .names), (.type, type), (.values, values)]
  | .typeSpec =>
    inScope do
      declareGenerics (genericNames (spec.childrenIn .typeParams))
      let (typeParams, _) ← inSlot spec .typeParams (fields d)
      let owner := (spec.child? .name).map (·.attrs.name)
      let (type, _) ← inSlot spec .type (d.type owner)
      return rebuild spec
        [(.name, spec.childrenIn .name), (.typeParams, typeParams), (.type, type)]
  | _ => return spec

/-- The binding of a declaration of a file. -/
def bindDecl (decl : Node) : Binding Node := do
  match decl.kind with
  | .funcDecl =>
    inScope do
      let (recv, type, _, declared) ← functionHead decl
      let body ← functionBody (binderFor decl) decl
      let names := (decl.childrenIn .name).map fun name =>
        match declared with
        | some declaration => withDefinition name declaration
        | none => name
      return rebuild decl [(.recv, recv), (.name, names), (.type, type), (.body, body)]
  | .genDecl => return rebuild decl [(.specs, ← plainly decl .specs fileSpec)]
  | _ => return decl

end Typing
end MustUse
