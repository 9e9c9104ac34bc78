import MustUse.Source.Grammar
import MustUse.Text.Quoted
import MustUse.Typing.Declaration

/-!
# The names of a package

The binding of all files of a package. First the names of the package are declared: its types, then
its functions and methods, then its variables. After that the trees of the files are bound.

Main definitions:

- `SourceFile`, `importsOf`: a file of a package and what it imports;
- `PackageScope.ofFiles`: the names that files declare;
- `bindFiles`: the bound files and what is wrong with their names.
-/

namespace MustUse
namespace Typing

open Syntax Source

/-- A file of a package: its number, where it starts in the row of all files, and its tree. -/
structure SourceFile where
  id : Nat
  base : Nat
  parsed : ParsedFile
  imports : List Import
deriving Repr

/-- The text of a literal without its marks. -/
def unquoted (literal : String) : String :=
  String.ofList (literal.toList.drop 1).dropLast

/-- The specifications in the declarations of a file that start with the given keyword. -/
def specsOf (keyword : String) (decls : List Node) : List Node :=
  (decls.filter fun d => d.kind = .genDecl && d.attrs.name = keyword).flatMap (·.childrenIn .specs)

/-- The paths that a file imports. -/
def importPaths (decls : List Node) : List String :=
  (specsOf "import" decls).filterMap fun spec =>
    (spec.child? .path).map fun path => unquoted path.attrs.name

/-- The name that a package is known by if it is not renamed. -/
def targetName (program : List PackageScope) (path : String) : Target → String
  | .known number =>
    ((program.find? (·.package.id = number)).map (·.name)).getD (lastElement path)
  | _ => lastElement path

/-- The imports of a file; `target` tells where a path leads to. -/
def importsOf (program : List PackageScope) (target : String → Target) (decls : List Node) :
    List Import :=
  (specsOf "import" decls).filterMap fun spec =>
    (spec.child? .path).map fun literal =>
      let path := unquoted literal.attrs.name
      let given := spec.child? .name
      { name := (given.map (·.attrs.name)).getD (targetName program path (target path))
        isRenamed := given.isSome
        path := path
        target := target path
        start := (given.getD literal).attrs.start.getD 0
        pathStart := literal.attrs.start.getD 0 }

/-- The surroundings of a file. -/
def contextOf (program : List PackageScope) (self : PackageScope) (f : SourceFile) : Context :=
  { program := program, self := self, file := f.id, base := f.base, imports := f.imports }

/-- What a binding gives, without what it changes. -/
def answer {α : Type} (ctx : Context) (b : Binding α) : α :=
  ((b.run ctx).run {}).1

/-- A function declaration without receiver that declares a name. -/
def declaresName (decl : Node) : Bool :=
  decl.kind = .funcDecl && (decl.child? .recv).isNone &&
    (decl.child? .name).any fun n => n.attrs.name ≠ "_" && n.attrs.name ≠ "init"

/-- The names of a package before their types are known. -/
def namesOf (package : Package) (decls : List Node) : List (String × Entity) :=
  let types := (specsOf "type" decls).filterMap fun spec =>
    (spec.child? .name).map fun n =>
      (n.attrs.name, Entity.type (.named package.id n.attrs.name []))
  let values := (specsOf "var" decls ++ specsOf "const" decls).flatMap fun spec =>
    (spec.childrenIn .names).map fun n => (n.attrs.name, Entity.var .unknown)
  let funcs := (decls.filter declaresName).filterMap fun decl =>
    (decl.child? .name).map fun n => (n.attrs.name, Entity.var .unknown)
  types ++ values ++ funcs

/-- The declaration of a type. -/
def typeInfo (spec : Node) : Binding TypeInfo := do
  let generics := genericNames (spec.childrenIn .typeParams)
  let name := ((spec.child? .name).map (·.attrs.name)).getD ""
  let (_, ts) ← inScope do
    declareGenerics generics
    inSlot spec .type ((binderFor spec).type (some name))
  return {
    name := name
    generics := generics.map (·.attrs.name)
    underlying := ts.headD .unknown
    methods := [] }

/-- The scope with another meaning for a name. -/
def PackageScope.redefine (scope : PackageScope) (name : String) (entity : Entity) :
    PackageScope :=
  { scope with
    entities := scope.entities.map fun (n, e) => if n = name then (n, entity) else (n, e) }

/-- The scope with a function. -/
def PackageScope.addFunction (scope : PackageScope) (ctx : Context) (decl : Node) :
    PackageScope :=
  let (_, _, type, declared) := answer ctx (inScope (functionHead decl))
  match declared, receiver? decl with
  | none, _ => scope
  | some declaration, none =>
    if declaresName decl then scope.redefine declaration.name (.func declaration type) else scope
  | some declaration, some receiver =>
    let method : Method :=
      { decl := declaration, generics := receiver.generics.map (·.attrs.name), type := type }
    { scope with
      types := scope.types.map fun info =>
        if info.name = receiver.owner then { info with methods := info.methods ++ [method] }
        else info }

/-- The scope with the variables of a specification. -/
def PackageScope.addValues (scope : PackageScope) (ctx : Context) (spec : Node) : PackageScope :=
  let d := binderFor spec
  let names := spec.childrenIn .names
  let types := answer ctx do
    let (_, declared) ← inSlot spec .type (d.type none)
    let (_, values) ← inSlot spec .values d.expr
    return specTypes names.length declared values
  (names.zip types).foldl (fun s (n, t) => s.redefine n.attrs.name (.var t)) scope

/-- The scope with something from each declaration of each file. -/
def PackageScope.addFrom (scope : PackageScope) (program : List PackageScope)
    (files : List SourceFile) (pick : List Node → List Node)
    (add : PackageScope → Context → Node → PackageScope) : PackageScope :=
  files.foldl
    (fun scope f =>
      (pick f.parsed.decls).foldl (fun scope n => add scope (contextOf program scope f) n) scope)
    scope

/-- The names that the files of a package declare. Variables are looked at twice, since the type of
one may depend on a later one. -/
def PackageScope.ofFiles (program : List PackageScope) (package : Package)
    (files : List SourceFile) : PackageScope :=
  let decls := files.flatMap (·.parsed.decls)
  let named : PackageScope :=
    { package := package
      name := (files.head?.map (·.parsed.packageName)).getD ""
      entities := namesOf package decls
      types := [] }
  let types := files.flatMap fun f =>
    (specsOf "type" f.parsed.decls).map fun spec =>
      answer (contextOf program named f) (typeInfo spec)
  let typed := { named with types := types }
  let withFuncs := typed.addFrom program files (·.filter (·.kind = .funcDecl))
    PackageScope.addFunction
  let values (decls : List Node) : List Node := specsOf "const" decls ++ specsOf "var" decls
  (withFuncs.addFrom program files values PackageScope.addValues).addFrom program files values
    PackageScope.addValues

/-- A fault with the file it lies in. -/
abbrev PlacedFault := Nat × TypeFault

/-- What is wrong with the imports of a file. -/
def missingImports (f : SourceFile) : List PlacedFault :=
  (f.imports.filter (·.target = .missing)).map fun i =>
    (f.id, { start := i.pathStart
             message := "could not import " ++ i.path ++ " (invalid package name: \"\")" })

/-- The imports of a file that it does not use. -/
def unusedImports (f : SourceFile) (used : List String) : List PlacedFault :=
  (f.imports.filter fun i => i.name ≠ "_" && !used.contains i.name).map fun i =>
    (f.id, { start := i.start
             message := Text.quote i.path ++ " imported " ++
               (if i.isRenamed then "as " ++ i.name ++ " " else "") ++ "and not used" })

/-- The bound files of a package, and what is wrong with their names: first what concerns imports,
then declarations, then bodies of functions, and imports that are not used at last. -/
def bindFiles (program : List PackageScope) (scope : PackageScope) (files : List SourceFile) :
    List File × List PlacedFault :=
  let bound := files.map fun f =>
    let (decls, s) := ((f.parsed.decls.mapM bindDecl).run (contextOf program scope f)).run {}
    (f, decls, s)
  let syntaxFiles := bound.map fun (f, decls, _) =>
    { id := f.id
      packageStart := f.parsed.packageStart
      comments := f.parsed.comments
      decls := decls : File }
  let place (f : SourceFile) (faults : List TypeFault) : List PlacedFault :=
    faults.map fun fault => (f.id, fault)
  (syntaxFiles,
    files.flatMap missingImports ++
      bound.flatMap (fun (f, _, s) => place f s.outer) ++
      bound.flatMap (fun (f, _, s) => place f s.inner) ++
      bound.flatMap (fun (f, _, s) => unusedImports f s.used))

end Typing
end MustUse
