import MustUse.Host.Pass
import MustUse.Host.Run
import MustUse.Load.Package
import MustUse.Source.LineTable

/-!
# Loading packages

The packages that patterns name, read together with the packages they import and bound to the names
that they use.

Main definitions:

- `Program`: the packages of a module with their names bound;
- `load`: the program that patterns name;
- `Program.batch`, `Program.units`: the program as it is given to the analyses.
-/

namespace MustUse
namespace Load

open FileTree Syntax Source Typing Host

/-- A package with its names bound. -/
structure BoundPackage where
  id : String
  scope : PackageScope
  forTest : Option String
  isNamed : Bool
  files : List File
  errors : List PackageError
deriving Repr

/-- The packages of a module with their names bound, and the lines of their files. -/
structure Program where
  fileSet : FileSet
  packages : List BoundPackage
deriving Repr

namespace Program

/-- The program without packages. -/
def empty : Program :=
  { fileSet := [], packages := [] }

/-- The package that an import leads to. What is built for a test imports what is built for the same
test, if there is such a package. -/
def imported? (program : Program) (forTest : Option String) (path : String) :
    Option BoundPackage :=
  let candidates := program.packages.filter (·.scope.package.path = path)
  (candidates.find? fun p => p.forTest.isSome && p.forTest = forTest) <|>
    candidates.find? (·.forTest.isNone)

/-- Where an import of a package leads to. -/
def target (program : Program) (m : Module) (forTest : Option String) (path : String) : Target :=
  match program.imported? forTest path with
  | some p => .known p.scope.package.id
  | none =>
    if (m.directory? path).isNone && isForeign path then .foreign path else .missing

/-- The files of a package with their numbers and starts. -/
def number (scopes : List PackageScope) (target : String → Target) :
    Nat → Nat → List FileText → List SourceFile
  | _, _, [] => []
  | id, base, f :: rest =>
    { id := id, base := base, parsed := f.parsed
      imports := importsOf scopes target f.parsed.decls } ::
        number scopes target (id + 1) (base + f.text.utf8ByteSize + 1) rest

/-- The program with one more package. -/
def add (m : Module) (state : Program × Nat) (p : PackageText) : Program × Nat :=
  let (program, base) := state
  let scopes := program.packages.map (·.scope)
  let files := number scopes (program.target m p.forTest) program.fileSet.length base p.files
  let fileSet := program.fileSet ++ p.files.map fun f =>
    lineTable f.path f.text f.parsed.comments.flatten
  let package : Package := { id := program.packages.length, path := p.importPath }
  let scope := PackageScope.ofFiles scopes package files
  let (bound, faults) := bindFiles scopes scope files
  let positionText (file start : Nat) : String :=
    (fileSet.position (some { file := file, offset := start })).text
  let parseErrors := files.filterMap fun f =>
    f.parsed.fault.map fun e =>
      { position := positionText f.id e.offset
        message := e.message
        stage := .parsing : PackageError }
  let typeErrors := faults.map fun (file, e) =>
    { position := positionText file e.start, message := e.message, stage := .typing : PackageError }
  let entry : BoundPackage :=
    { id := p.id
      scope := scope
      forTest := p.forTest
      isNamed := p.isNamed
      files := bound
      errors := p.listErrors ++ parseErrors ++ typeErrors }
  ({ fileSet := fileSet, packages := program.packages ++ [entry] },
    p.files.foldl (fun base f => base + f.text.utf8ByteSize + 1) base)

/-- The packages that were named. -/
def named (program : Program) : List BoundPackage :=
  program.packages.filter (·.isNamed)

/-- The program as it is given to the analysis of all packages at once. -/
def batch (program : Program) : Batch :=
  { fileSet := program.fileSet
    packages := program.named.map fun p =>
      { id := p.id, files := p.files, errors := p.errors }
    sources := program.packages.flatMap (·.files) }

/-- The program as it is given to the analysis of one package after the other. -/
def units (program : Program) (funcs : String) : List PackageUnit :=
  program.packages.map fun p =>
    { package := p.scope.package, files := p.files, funcs := funcs, isInspected := true }

end Program

/-- The directories that patterns name, each once. -/
def namedDirectories (m : Module) (tree : Tree) (cwd : Path) (patterns : List String) :
    Except String (List Path) := do
  let found ← patterns.mapM fun text =>
    match (Pattern.ofText cwd text).directories m tree with
    | some dirs => .ok dirs
    | none => .error ("pattern " ++ text ++ ": no such package")
  let dirs := found.flatten.eraseDups
  match dirs.find? fun dir => !isImportPath (m.importPath dir) with
  | some dir => .error ("malformed import path " ++ Text.quote (m.importPath dir))
  | none => .ok dirs

/-- The program that patterns name, seen from a directory, with tests if these are asked for. -/
def load (tree : Tree) (cwd : Path) (patterns : List String) (tests : Bool) :
    Except String Program := do
  if !tree.isDirectory cwd then
    .error ("chdir " ++ cwd.text ++ ": no such directory")
  else
    match Module.find? tree cwd with
    | none => .error "no module is found in the current directory or above it"
    | some m =>
      let dirs ← namedDirectories m tree cwd patterns
      match packagesOf m tree dirs tests with
      | none => .error "import cycle not allowed"
      | some packages => .ok (packages.foldl (Program.add m) (.empty, 0)).1

end Load
end MustUse
