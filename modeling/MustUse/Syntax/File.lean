import MustUse.Syntax.Node
import MustUse.Text.Cut

/-!
# Source files

A parsed file: its number in the file set, the start of its package clause, its comments and its
declarations.

Main definitions:

- `Comment`, `File`;
- `File.name`: the name of a file as resolved at its package clause;
- `File.isGenerated`: whether a comment up to the package clause declares the file as generated.
-/

namespace MustUse
namespace Syntax

/-- A comment with its start and its raw text. -/
structure Comment where
  offset : Nat
  text : String
deriving DecidableEq, Repr

/-- A parsed source file. -/
structure File where
  /-- Its number in the file set. -/
  id : Nat
  /-- The start of its package clause. -/
  packageStart : Nat
  /-- Its comment groups in order. -/
  comments : List (List Comment)
  /-- Its declarations in order. -/
  decls : List Node
deriving Repr

namespace File

/-- The place of an offset in the file. -/
def place (f : File) (offset : Nat) : Place :=
  { file := f.id, offset := offset }

/-- The place where a node of the file starts. -/
def placeOf (f : File) (n : Node) : Option Place :=
  n.start.map f.place

/-- All comments of the file in order. -/
def allComments (f : File) : List Comment :=
  f.comments.flatten

/-- The comments of the group with the given number. -/
def group (f : File) (number : Nat) : List Comment :=
  f.comments[number]?.getD []

/-- The root of the file's tree. -/
def root (f : File) : Node :=
  .mk .file .decls {} f.decls

/-- The name of the file in the positions shown to readers, resolved at the package clause. -/
def name (files : FileSet) (f : File) : String :=
  (files.position (some (f.place f.packageStart))).file

end File

/-- Whether a line declares its file as generated: it starts with the announcement, and what
follows the announcement ends with the request not to edit. -/
def isGeneratedLine (line : List Char) : Bool :=
  match Text.after? "// Code generated ".toList line with
  | none => false
  | some rest => " DO NOT EDIT.".toList.isSuffixOf rest

/-- Whether the file says of itself that it is generated. Only comments that start no later than
the package clause count. -/
def File.isGenerated (f : File) : Bool :=
  f.allComments.any fun c =>
    c.offset ≤ f.packageStart && (c.text.toList.splitOn '\n').any isGeneratedLine

end Syntax
end MustUse
