import MustUse.Host.Batch
import MustUse.Load.Pattern
import MustUse.Typing.Package

/-!
# The packages of a module

The packages in directories of a module as they are read, together with the packages they import. A
package comes after the packages it imports. With tests, a package with test files has a variant to
which the tests inside of the package are added; the tests outside of it are a package of their own.
What lies between the two and imports the package is built once more, to import the variant.

Main definitions:

- `PackageText`: a package with the trees of its files;
- `withImports`: packages in the order of their imports;
- `Tests`, `Tests.packages`: the tests of a package, and the packages they add;
- `packagesOf`: the packages in some directories.
-/

namespace MustUse
namespace Load

open FileTree Source Typing Host

/-- A file of a package as it is read. -/
structure FileText where
  path : Path
  text : String
  parsed : ParsedFile

/-- The files with the given names in a directory. -/
def readFiles (tree : Tree) (dir : Path) (names : List String) : List FileText :=
  names.filterMap fun name =>
    (tree.read? (name :: dir)).map fun text =>
      { path := name :: dir, text := text, parsed := parse text }

/-- The paths that files import, in increasing order, each once. -/
def importsOfFiles (files : List FileText) : List String :=
  ((files.flatMap fun f => importPaths f.parsed.decls).mergeSort fun a b => !(b < a)).eraseDups

/-- A package as it is read. -/
structure PackageText where
  dir : Path
  id : String
  importPath : String
  /-- The path of the package whose test this one is built for. -/
  forTest : Option String
  /-- Whether the package was asked for, and not only imported. -/
  isNamed : Bool
  files : List FileText

namespace PackageText

/-- The package in a directory of a module. -/
def read (m : Module) (tree : Tree) (named : List Path) (dir : Path) : PackageText :=
  { dir := dir
    id := m.importPath dir
    importPath := m.importPath dir
    forTest := none
    isNamed := named.contains dir
    files := readFiles tree dir (sourceNames tree dir) }

/-- The import paths of a package in increasing order, each once. -/
def imports (p : PackageText) : List String :=
  importsOfFiles p.files

/-- The errors found before the packages are compared: files that do not start as they must, and
files of different packages in one directory. -/
def listErrors (p : PackageText) : List PackageError :=
  let broken := p.files.filterMap fun f =>
    if f.parsed.hasHead then none
    else f.parsed.fault.map fun e =>
      { position := f.path.text, message := e.message, stage := .listing }
  let names := (p.files.map (·.parsed.packageName)).eraseDups
  let mixed : List PackageError :=
    if broken.isEmpty && 1 < names.length then
      [{ position := ""
         message := "found packages " ++ Text.joinWith " and " names ++ " in " ++ p.dir.text
         stage := .listing }]
    else
      []
  broken ++ mixed

end PackageText

/-- Whether an import path belongs to the language itself: its first element has no dot. -/
def isForeign (path : String) : Bool :=
  !((path.toList.splitOn '/').headD []).contains '.'

/-- The directory of a package of the module that a path leads to. -/
def importedDirectory? (m : Module) (tree : Tree) (path : String) : Option Path :=
  (m.directory? path).filter (isNameable m tree)

/-- The packages in the order of their imports, at most `depth` imports deep; `above` are the
directories that lead to a package, and `found` what has been found before. There is no such order
if packages import each other. -/
def withImports (m : Module) (tree : Tree) (named : List Path) :
    Nat → List Path → List PackageText → Path → Option (List PackageText)
  | 0, _, _, _ => none
  | depth + 1, above, found, dir =>
    if found.any (·.dir = dir) then
      some found
    else if above.contains dir then
      none
    else
      let package := PackageText.read m tree named dir
      let targets := package.imports.filterMap (importedDirectory? m tree)
      (targets.foldlM
        (fun found target => withImports m tree named depth (dir :: above) found target)
        found).map (· ++ [package])

/-- The paths of the packages that import `path`, directly or through others, and `path` itself. -/
def dependents (packages : List PackageText) (path : String) : List String :=
  packages.foldl
    (fun found p => if p.imports.any found.contains then p.importPath :: found else found) [path]

/-- The paths that imports lead to, directly or through others. -/
def reached (packages : List PackageText) (imports : List String) : List String :=
  packages.foldr
    (fun p found => if found.contains p.importPath then p.imports ++ found else found) imports

/-- The tests of a package: those inside of it, and those outside of it. -/
structure Tests where
  subject : PackageText
  inner : List FileText
  outer : List FileText

namespace Tests

/-- The tests of a package. Tests outside of it say so in the name of their package. -/
def read (tree : Tree) (subject : PackageText) : Tests :=
  let files := readFiles tree subject.dir (testNames tree subject.dir)
  let names := subject.files.map (·.parsed.packageName)
  let isOuter (f : FileText) : Bool :=
    "_test".toList.isSuffixOf f.parsed.packageName.toList && !names.contains f.parsed.packageName
  { subject := subject, inner := files.filter (!isOuter ·), outer := files.filter isOuter }

/-- Whether there is a test. -/
def isPresent (t : Tests) : Bool :=
  !t.inner.isEmpty || !t.outer.isEmpty

/-- The name of the test. -/
def name (t : Tests) : String :=
  t.subject.importPath ++ ".test"

/-- A package as it is built for the test. -/
def build (t : Tests) (p : PackageText) (isNamed : Bool) : PackageText :=
  { p with
    id := p.importPath ++ " [" ++ t.name ++ "]"
    forTest := some t.subject.importPath
    isNamed := isNamed }

/-- The packages that tests add to others, in the order of their imports. The last one stands for
the program that makes the tests, which has no files of its own. There is no such order if a test
inside of a package imports what imports the package. -/
def packages (t : Tests) (others : List PackageText) : Option (List PackageText) :=
  let path := t.subject.importPath
  let above := dependents others path
  let needed := reached others (importsOfFiles t.outer)
  let isBetween (p : PackageText) : Bool :=
    p.importPath ≠ path && above.contains p.importPath && needed.contains p.importPath
  let variants :=
    if t.inner.isEmpty then []
    else
      t.build { t.subject with files := t.subject.files ++ t.inner } true ::
        (others.filter isBetween).map (t.build · false)
  let outside :=
    if t.outer.isEmpty then []
    else [t.build { t.subject with importPath := path ++ "_test", files := t.outer } true]
  let program : PackageText :=
    { t.subject with
      id := t.name, importPath := t.name, forTest := some path, isNamed := true, files := [] }
  if (importsOfFiles t.inner).any above.contains then none
  else some (variants ++ outside ++ [program])

end Tests

/-- The packages in directories with the packages they import, and with their tests if these are
asked for. -/
def packagesOf (m : Module) (tree : Tree) (dirs : List Path) (tests : Bool) :
    Option (List PackageText) := do
  let depth := (tree.directoriesWithin []).length + 1
  let add := withImports m tree dirs depth []
  let found ← dirs.foldlM add []
  if tests then
    let subjects := found.filter (·.isNamed)
    let present := (subjects.map (Tests.read tree)).filter (·.isPresent)
    let targets := (importsOfFiles (present.flatMap fun t => t.inner ++ t.outer)).filterMap
      (importedDirectory? m tree)
    let others ← targets.foldlM add found
    let added ← present.mapM (·.packages others)
    return others ++ added.flatten
  else
    return found

end Load
end MustUse
