import MustUse.Source.Reader
import MustUse.Typing.Scope

/-!
# Surroundings of a tree

What is known while the names of a tree are bound, and the binding of a single name. Names of
functions are bound to the functions they stand for; nothing else is asked for later, so nothing
else is bound. A name that stands for nothing is a fault.

Main definitions:

- `TypeFault`, `Context`, `State`, `Binding`;
- `Meaning`: what an expression stands for;
- `Deeper`: the rules for what is nested inside of a node;
- `inScope`: a binding in a scope of its own;
- `bindIdent`: the binding of an identifier.
-/

namespace MustUse
namespace Typing

open Syntax Source

/-- Something wrong with the names of a file, at an offset. -/
structure TypeFault where
  start : Nat
  message : String
deriving DecidableEq, Repr

/-- What is known about the surroundings of a tree. -/
structure Context where
  /-- The packages that have been read before. -/
  program : List PackageScope
  /-- The package that the tree belongs to. -/
  self : PackageScope
  /-- The number of the file. -/
  file : Nat
  /-- Where the file starts in the row of all files. -/
  base : Nat
  imports : List Import

/-- A name inside of a function. -/
structure Local where
  name : String
  entity : Entity
  start : Nat
  /-- Whether the name is a variable that must be used. -/
  isOwed : Bool

/-- What changes while a tree is bound. -/
structure State where
  /-- The names inside of functions, the innermost scope first. -/
  scopes : List (List Local) := []
  /-- Whether the body of a function is being bound. -/
  inBody : Bool := false
  /-- Faults outside of function bodies. -/
  outer : List TypeFault := []
  /-- Faults in function bodies. -/
  inner : List TypeFault := []
  /-- Variables of the current function that are not used. -/
  unused : List TypeFault := []
  /-- The names of the imports that are used. -/
  used : List String := []

/-- A binding with its surroundings. -/
abbrev Binding := ReaderT Context (StateM State)

/-- What an expression stands for. -/
inductive Meaning where
  | value (t : Ty)
  /-- The results of a call that has not exactly one. -/
  | tuple (ts : List Ty)
  | type (t : Ty)
  | package (target : Target) (name : String)
  | builtin (name : String)
  | unknown

/-- The type of a value. -/
def Meaning.ty : Meaning → Ty
  | .value t => t
  | _ => .unknown

/-- The type that is named. -/
def Meaning.asType : Meaning → Ty
  | .type t => t
  | _ => .unknown

/-- The rules for what is nested. The first argument of `type` is the name that is being given to
the type. -/
structure Deeper where
  expr : Node → Binding (Node × Meaning)
  type : Option String → Node → Binding (Node × Ty)
  stmt : Node → Binding Node

/-! ## Names -/

/-- Records a fault. -/
def report (start : Nat) (message : String) : Binding Unit :=
  modify fun s =>
    let f : TypeFault := { start := start, message := message }
    if s.inBody then { s with inner := s.inner ++ [f] } else { s with outer := s.outer ++ [f] }

/-- Adds a name to the innermost scope. The blank name is no name. -/
def declare (l : Local) : Binding Unit :=
  modify fun s =>
    if l.name = "_" then
      s
    else
      match s.scopes with
      | [] => { s with scopes := [[l]] }
      | scope :: rest => { s with scopes := (l :: scope) :: rest }

/-- The fault of a variable that is not used. -/
def unusedFault (l : Local) : TypeFault :=
  { start := l.start, message := "declared and not used: " ++ l.name }

/-- A binding in a scope of its own. -/
def inScope {α : Type} (b : Binding α) : Binding α := do
  modify fun s => { s with scopes := [] :: s.scopes }
  let a ← b
  modify fun s =>
    { s with
      scopes := s.scopes.tail
      unused := s.unused ++ ((s.scopes.headD []).filter (·.isOwed)).map unusedFault }
  return a

/-- The scopes with the innermost meaning of a name counted as used. -/
def markUsed (name : String) : List (List Local) → List (List Local)
  | [] => []
  | scope :: rest =>
    if scope.any (·.name = name) then
      scope.map (fun l => if l.name = name then { l with isOwed := false } else l) :: rest
    else
      scope :: markUsed name rest

/-- The declaration of a defined type. -/
def Context.typeInfo? (ctx : Context) (package : Nat) (name : String) : Option TypeInfo :=
  let scope :=
    if package = ctx.self.package.id then some ctx.self
    else ctx.program.find? (·.package.id = package)
  scope.bind fun s => s.types.find? (·.name = name)

/-- The names of the packages that the file imports without a name of their own. -/
def Context.merged (ctx : Context) : List (String × Entity) :=
  (ctx.imports.filter (·.name = ".")).flatMap fun i =>
    ((ctx.program.find? fun s => i.target = .known s.package.id).map (·.entities)).getD []

/-- What a name stands for, from the innermost scope outwards. -/
def lookup (name : String) : Binding (Option Entity) := do
  let ctx ← read
  let s ← get
  match s.scopes.flatten.find? (·.name = name) with
  | some l => return some l.entity
  | none =>
    match ctx.imports.find? (·.name = name) with
    | some i =>
      modify fun s => { s with used := name :: s.used }
      return some (.package i.target)
    | none =>
      match ctx.self.entities.lookup name with
      | some entity => return some entity
      | none =>
        match ctx.merged.lookup name with
        | some entity =>
          modify fun s => { s with used := "." :: s.used }
          return some entity
        | none => return predeclared name

/-- What an entity stands for in an expression. -/
def Entity.meaning (name : String) : Entity → Meaning
  | .func _ t => .value t
  | .var t => .value t
  | .type t => .type t
  | .package target => .package target name
  | .builtin name => .builtin name

/-- The identifier bound to a function. -/
def withUse (n : Node) (f : Func) : Node :=
  .mk n.kind n.slot { n.attrs with use := some (.func f) } n.children

/-- The function that an entity is. -/
def Entity.func? : Entity → Option Func
  | .func decl _ => some (.declared decl)
  | _ => none

/-- The binding of an identifier; `isRead` tells whether its value is used. -/
def bindIdent (isRead : Bool) (n : Node) : Binding (Node × Meaning) := do
  let name := n.attrs.name
  if name = "_" then
    return (n, .unknown)
  else
    match ← lookup name with
    | none =>
      report (n.attrs.start.getD 0) ("undefined: " ++ name)
      return (n, .unknown)
    | some entity =>
      if isRead then modify fun s => { s with scopes := markUsed name s.scopes }
      let bound := match entity.func? with
        | some f => withUse n f
        | none => n
      return (bound, entity.meaning name)

/-! ## Parts of nodes -/

/-- The node with other children. -/
def rebuild (n : Node) (parts : List (Slot × List Node)) : Node :=
  (build n.kind n.attrs parts).inSlot n.slot

/-- The binding of the children in a slot, with what they stand for. -/
def inSlot {α : Type} (n : Node) (s : Slot) (f : Node → Binding (Node × α)) :
    Binding (List Node × List α) := do
  let pairs ← (n.childrenIn s).mapM f
  return (pairs.map (·.1), pairs.map (·.2))

/-- The binding of the children in a slot that have no meaning of their own. -/
def plainly (n : Node) (s : Slot) (f : Node → Binding Node) : Binding (List Node) :=
  (n.childrenIn s).mapM f

end Typing
end MustUse
