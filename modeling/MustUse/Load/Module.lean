import MustUse.FileTree.Basic
import MustUse.Text.Blank

/-!
# Modules

A module is a directory with a file that gives the module's path. The packages of the module lie in
the directory and below it, as far as no other module starts there; the import path of a package is
the path of the module followed by the way to the package's directory.

Main definitions:

- `modulePath?`: the path in the text of a module file;
- `Module`, `Module.find?`: the module that a directory lies in;
- `Module.importPath`, `Module.directory?`: import paths and directories.
-/

namespace MustUse
namespace Load

open FileTree

/-- The name of module files. -/
def moduleFileName : String :=
  "go.mod"

/-- The words that start an entry of a module file. -/
def moduleWords : List String :=
  ["module", "go", "toolchain", "godebug", "require", "exclude", "replace", "retract", "tool",
   "ignore"]

/-- The words of a line without its comment. -/
def lineWords (line : List Char) : List String :=
  (((Text.before "//".toList line).splitOnP Text.isBlank).filter (!·.isEmpty)).map String.ofList

/-- A text without quotes around it. -/
def unquoteWord (word : String) : String :=
  match word.toList with
  | '"' :: rest => String.ofList rest.dropLast
  | '\x60' :: rest => String.ofList rest.dropLast
  | _ => word

/-- The path in the lines of a module file, if every entry is well-formed; `block` is the word of
the block that the lines stand in, and `found` the path so far. -/
def readModuleLines (block : Option String) (found : Option String) :
    List (List String) → Option String
  | [] => if block.isNone then found else none
  | [] :: rest => readModuleLines block found rest
  | [")"] :: rest => if block.isSome then readModuleLines none found rest else none
  | (word :: args) :: rest =>
    match block with
    | some "module" =>
      if args.isEmpty && found.isNone then readModuleLines block (some (unquoteWord word)) rest
      else none
    | some _ => readModuleLines block found rest
    | none =>
      if !moduleWords.contains word then none
      else if args = ["("] then readModuleLines (some word) found rest
      else if word = "module" then
        match args, found with
        | [path], none => readModuleLines none (some (unquoteWord path)) rest
        | _, _ => none
      else if args.isEmpty then none
      else readModuleLines none found rest

/-- The path of a module from the text of its module file. -/
def modulePath? (text : String) : Option String :=
  readModuleLines none none ((text.toList.splitOn '\n').map lineWords)

/-- A module: its path and its directory. -/
structure Module where
  path : String
  root : Path
deriving Repr

/-- The nearest directory at or above `dir` that has a module file. -/
def moduleRoot? (tree : Tree) : Path → Option Path
  | [] => if (tree.read? [moduleFileName]).isSome then some [] else none
  | name :: parent =>
    if (tree.read? (moduleFileName :: name :: parent)).isSome then some (name :: parent)
    else moduleRoot? tree parent

namespace Module

/-- The module that a directory lies in. -/
def find? (tree : Tree) (dir : Path) : Option Module := do
  let root ← moduleRoot? tree dir
  let text ← tree.read? (moduleFileName :: root)
  let path ← modulePath? text
  return { path := path, root := root }

/-- The elements that lead from `dir` to a path below it, the outermost first. -/
def wayFrom (dir p : Path) : List String :=
  (p.take (p.length - dir.length)).reverse

/-- The import path of a directory of the module. -/
def importPath (m : Module) (dir : Path) : String :=
  Text.joinWith "/" (m.path :: wayFrom m.root dir)

/-- The directory of an import path that starts with the path of the module. -/
def directory? (m : Module) (path : String) : Option Path :=
  if path = m.path then
    some m.root
  else
    (Text.after? (m.path ++ "/").toList path.toList).map fun rest =>
      Path.resolve m.root (String.ofList rest)

/-- Whether a directory belongs to the module and not to another one inside of it. -/
def contains (m : Module) (tree : Tree) (dir : Path) : Bool :=
  moduleRoot? tree dir = some m.root

end Module

/-- Whether a file is a source file by its name. Names that start with an underscore or a dot are
set aside. -/
def isSourceName (name : String) : Bool :=
  let cs := name.toList
  ".go".toList.isSuffixOf cs && cs.head? ≠ some '_' && cs.head? ≠ some '.'

/-- Whether a source file is part of the tests of its package. -/
def isTestName (name : String) : Bool :=
  "_test.go".toList.isSuffixOf name.toList

/-- Whether a directory holds a package. -/
def isPackage (tree : Tree) (dir : Path) : Bool :=
  (tree.filesIn dir).any isSourceName

/-- The names of the source files of a package, without those of its tests. -/
def sourceNames (tree : Tree) (dir : Path) : List String :=
  (tree.filesIn dir).filter fun name => isSourceName name && !isTestName name

/-- The names of the test files of a package. -/
def testNames (tree : Tree) (dir : Path) : List String :=
  (tree.filesIn dir).filter fun name => isSourceName name && isTestName name

end Load
end MustUse
