import MustUse.Text.Cut

/-!
# Paths

An absolute path is the list of its elements, the innermost first, so that the parent of a directory
is the tail of its list.

Main definitions:

- `Path`, `Path.text`;
- `Path.resolve`: the path that a text names, seen from a directory; the text is cleaned of empty
  elements, single dots and double dots.
-/

namespace MustUse
namespace FileTree

/-- An absolute path: its elements, the innermost first. -/
abbrev Path := List String

namespace Path

/-- The written form of a path. -/
def text (p : Path) : String :=
  "/" ++ Text.joinWith "/" p.reverse

/-- The elements of a written path. -/
def elements (s : String) : List String :=
  (s.toList.splitOn '/').map String.ofList

/-- The path after one element. The parent of the root is the root. -/
def step (p : Path) (element : String) : Path :=
  if element = "" || element = "." then p
  else if element = ".." then p.tail
  else element :: p

/-- Whether a written path is absolute. -/
def isAbsolute (s : String) : Bool :=
  s.toList.head? = some '/'

/-- The path that `s` names, seen from the directory `cwd`. -/
def resolve (cwd : Path) (s : String) : Path :=
  (elements s).foldl step (if isAbsolute s then [] else cwd)

/-- Whether `p` is `dir` or lies below it. -/
def isWithin (dir p : Path) : Bool :=
  dir.isSuffixOf p

end Path
end FileTree
end MustUse
