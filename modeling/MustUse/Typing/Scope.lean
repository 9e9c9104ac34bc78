import MustUse.Typing.Ty

/-!
# Scopes

What names stand for: the names of a package, the names a file imports, the names inside a function
and the predeclared names.

Main definitions:

- `Entity`: what a name stands for;
- `TypeInfo`, `PackageScope`: the names of a package;
- `Target`, `Import`: what a file imports;
- `predeclared`: the predeclared names;
- `member`: the field or method of a type with a given name.
-/

namespace MustUse
namespace Typing

open Syntax

/-- What an import leads to. -/
inductive Target where
  /-- A package that has been read. -/
  | known (number : Nat)
  /-- A package of the language itself, which is not read. -/
  | foreign (path : String)
  /-- Nothing. -/
  | missing
deriving DecidableEq, Repr

/-- What a name stands for. -/
inductive Entity where
  | func (decl : Declaration) (type : Ty)
  | var (type : Ty)
  /-- A type; a defined type without its arguments. -/
  | type (t : Ty)
  | package (target : Target)
  | builtin (name : String)
deriving Repr

/-- A method of a defined type, with its own names for the type's parameters. -/
structure Method where
  decl : Declaration
  generics : List String
  type : Ty
deriving Repr

/-- A type that a package declares. Another name for a type is kept like a type of its own; what
it stands for is then found behind it. -/
structure TypeInfo where
  name : String
  generics : List String
  underlying : Ty
  methods : List Method
deriving Repr

/-- The names of a package. -/
structure PackageScope where
  package : Package
  name : String
  entities : List (String × Entity)
  types : List TypeInfo
deriving Repr

/-- An import of a file: the name it is known by, what it leads to, where it stands and
where its path stands. -/
structure Import where
  name : String
  isRenamed : Bool
  path : String
  target : Target
  start : Nat
  pathStart : Nat
deriving Repr

/-- The predeclared types. -/
def basicTypes : List String :=
  ["any", "bool", "byte", "comparable", "complex64", "complex128", "error", "float32", "float64",
   "int", "int8", "int16", "int32", "int64", "rune", "string", "uint", "uint8", "uint16", "uint32",
   "uint64", "uintptr"]

/-- The predeclared functions. -/
def builtins : List String :=
  ["append", "cap", "clear", "close", "complex", "copy", "delete", "imag", "len", "make", "max",
   "min", "new", "panic", "print", "println", "real", "recover"]

/-- What a predeclared name stands for. -/
def predeclared (name : String) : Option Entity :=
  if basicTypes.contains name then some (.type (.basic name))
  else if builtins.contains name then some (.builtin name)
  else if name = "true" || name = "false" then some (.var (.basic "bool"))
  else if name = "iota" then some (.var (.basic "int"))
  else if name = "nil" then some (.var .unknown)
  else none

/-- The last element of a path that names a package; a version behind it does not count. -/
def lastElement (path : String) : String :=
  let isVersion (element : List Char) : Bool :=
    match element with
    | 'v' :: digits => !digits.isEmpty && digits.all fun c => '0' ≤ c && c ≤ '9'
    | _ => false
  match (path.toList.splitOn '/').reverse with
  | [] => path
  | [only] => String.ofList only
  | last :: parent :: _ => String.ofList (if isVersion last then parent else last)

/-- A field or a method of a type. -/
inductive Member where
  | field (type : Ty)
  | method (f : Func) (type : Ty)
deriving Repr

/-- The outcome of looking up a member. -/
inductive MemberSearch where
  | found (m : Member)
  | absent
  /-- The type is not known well enough. -/
  | unknown
deriving Repr

/-- The first outcome that is not an absence; what is not known stays so. -/
def MemberSearch.first : List MemberSearch → MemberSearch
  | [] => .absent
  | .absent :: rest => first rest
  | s :: _ => s

/-- A declaration seen from a type with the given arguments. -/
def viewThrough (args : List Ty) (decl : Declaration) : Func :=
  if args.isEmpty then .declared decl else .instantiated decl.id decl

/-- The member of a type called `name`, at most `depth` defined or embedded types deep; `info?`
gives the declaration of a defined type. -/
def member (info? : Nat → String → Option TypeInfo) (name : String) :
    Nat → Ty → MemberSearch
  | 0, _ => .unknown
  | depth + 1, t =>
    match t.dropPointer with
    | .named package typeName args =>
      match info? package typeName with
      | none => .unknown
      | some info =>
        match info.methods.find? (·.decl.name = name) with
        | some m =>
          .found (.method (viewThrough args m.decl) (m.type.subst (m.generics.zip args)))
        | none =>
          match member info? name depth (info.underlying.subst (info.generics.zip args)) with
          | .found (.method f type) =>
            .found (.method (if args.isEmpty then f else .instantiated f.id f.decl) type)
          | outcome => outcome
    | .struct names types embedded =>
      match (names.zip types).lookup name with
      | some type => .found (.field type)
      | none => .first (embedded.map (member info? name depth))
    | .interface methods types embedded =>
      match (methods.zip types).find? (·.1.name = name) with
      | some (decl, type) => .found (.method (.declared decl) type)
      | none => .first (embedded.map (member info? name depth))
    | .pointer _ => .absent
    | _ => .unknown

end Typing
end MustUse
