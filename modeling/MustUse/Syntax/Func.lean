import MustUse.Syntax.Place

/-!
# Functions and the objects that names are bound to

A function is declared once and may be seen through instantiations of its generic receiver type.
Every view of it has the declaration as its origin.

Main definitions:

- `Package`, `ReceiverType`, `Signature`, `Declaration`;
- `Func` and `Func.origin`;
- `Obj`: what an identifier is bound to, a function or something else.
-/

namespace MustUse
namespace Syntax

/-- A package. Two packages with the same path are told apart by their number. -/
structure Package where
  id : Nat
  path : String
deriving DecidableEq, Repr

/-- The type of a method's receiver, as far as its name depends on it. -/
inductive ReceiverType where
  /-- A defined type with a name. -/
  | named (name : String)
  /-- A pointer. -/
  | pointer (target : ReceiverType)
  /-- Another name for a type. -/
  | alias (name : String) (target : ReceiverType)
  /-- A type without a name of its own to report. -/
  | unnamed
deriving DecidableEq, Repr

namespace ReceiverType

/-- The type that remains when outer aliases are replaced by what they stand for. -/
def unalias : ReceiverType → ReceiverType
  | .alias _ target => target.unalias
  | t => t

/-- The type without an outermost pointer. A pointer inside an alias stays. -/
def dropPointer : ReceiverType → ReceiverType
  | .pointer target => target
  | t => t

/-- The name under which a method with this receiver is specified, empty if there is none. -/
def specName (t : ReceiverType) : String :=
  match t.dropPointer.unalias with
  | .named name => name
  | _ => ""

end ReceiverType

/-- The receiver of a function, if it is a method, and the number of its results. -/
structure Signature where
  receiver : Option ReceiverType
  results : Nat
deriving DecidableEq, Repr

/-- A declared function. The number tells declarations apart; a declaration may lack a package, a
signature or a place. -/
structure Declaration where
  id : Nat
  name : String
  package : Option Package
  signature : Option Signature
  place : Option Place
deriving DecidableEq, Repr

/-- A function: a declaration, or the view of one through an instantiated receiver type. -/
inductive Func where
  | declared (decl : Declaration)
  | instantiated (id : Nat) (decl : Declaration)
deriving DecidableEq, Repr

namespace Func

/-- The declaration behind a function. -/
def decl : Func → Declaration
  | .declared d => d
  | .instantiated _ d => d

/-- The declared function behind a view of it. -/
def origin (f : Func) : Func :=
  .declared f.decl

/-- The number of the function. -/
def id : Func → Nat
  | .declared d => d.id
  | .instantiated id _ => id

/-- The name of the function. -/
def name (f : Func) : String :=
  f.decl.name

/-- The package that declares the function. -/
def package (f : Func) : Option Package :=
  f.decl.package

/-- The signature of the function. -/
def signature (f : Func) : Option Signature :=
  f.decl.signature

/-- Where the function is declared. -/
def place (f : Func) : Option Place :=
  f.decl.place

/-- Whether the function has at least one result. -/
def returnsValue (f : Func) : Bool :=
  match f.signature with
  | none => false
  | some sig => 0 < sig.results

@[simp] theorem origin_origin
    (f : Func) :
    f.origin.origin = f.origin := by
  rfl

@[simp] theorem name_origin
    (f : Func) :
    f.origin.name = f.name := by
  rfl

@[simp] theorem returnsValue_origin
    (f : Func) :
    f.origin.returnsValue = f.returnsValue := by
  rfl

end Func

/-- What an identifier or a selector is bound to. -/
inductive Obj where
  | func (f : Func)
  /-- A variable, a type or a built-in function. -/
  | other (id : Nat)
deriving DecidableEq, Repr

/-- The function an object is, if it is one. -/
def Obj.func? : Obj → Option Func
  | .func f => some f
  | .other _ => none

end Syntax
end MustUse
