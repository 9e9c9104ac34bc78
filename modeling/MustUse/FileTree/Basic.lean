import MustUse.FileTree.Path

/-!
# File trees

A snapshot of directories and files.

Main definitions:

- `Entry`: what stands at a path;
- `Tree`, `Tree.entry`, `Tree.read?`.
-/

namespace MustUse
namespace FileTree

/-- What stands at a path. -/
inductive Entry where
  | absent
  | file
  | directory
deriving DecidableEq, Repr

/-- Files with their contents, and directories. Every directory on the way to an entry exists. -/
structure Tree where
  files : List (Path × String)
  directories : List Path
deriving Repr

namespace Tree

/-- The content of the file at a path. -/
def read? (t : Tree) (p : Path) : Option String :=
  t.files.lookup p

/-- Whether a directory stands at a path. -/
def isDirectory (t : Tree) (p : Path) : Bool :=
  p = [] || t.directories.any (p.isWithin ·) || t.files.any fun f => p.isWithin f.1.tail

/-- What stands at a path. -/
def entry (t : Tree) (p : Path) : Entry :=
  if (t.read? p).isSome then .file
  else if t.isDirectory p then .directory
  else .absent

/-- The names of the files directly in a directory, in increasing order. -/
def filesIn (t : Tree) (dir : Path) : List String :=
  (t.files.filterMap fun (p, _) =>
    match p with
    | name :: parent => if parent = dir then some name else none
    | [] => none).mergeSort fun a b => !(b < a)

/-- All directories at or below `dir`. -/
def directoriesWithin (t : Tree) (dir : Path) : List Path :=
  let above := (t.files.map (·.1.tail) ++ t.directories).flatMap fun p =>
    (List.range (p.length + 1)).map p.drop
  (above.filter dir.isWithin).eraseDups

end Tree
end FileTree
end MustUse
