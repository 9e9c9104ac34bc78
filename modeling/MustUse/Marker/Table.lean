import MustUse.Marker.Directive
import MustUse.Marker.Fact
import MustUse.Marker.Issue
import MustUse.Syntax.File

/-!
# The marker table

The markers that the source of a program attaches to its functions. Directives count in the doc
comment of a function declaration and of a named method in an interface type, wherever these stand
in a file. A must-use directive anywhere else is misplaced.

Main definitions:

- `sites`: the declarations of a file that directives can be attached to, in traversal order;
- `Table`, `Table.addFile`, `Table.build`;
- `Table.markers`: the markers of a function, kept for its origin;
- `Table.issues`: what is wrong with the directives, in the order of their places;
- `Table.exports`: the facts that a package shares with the packages that import it.
-/

namespace MustUse
namespace Marker

open Syntax

/-- A declaration that directives can be attached to: its doc comment and its name. -/
structure Site where
  doc : Option Nat
  name : Node
deriving Repr

/-- The site of a method in the method list of an interface. Embedded types are none. -/
def fieldSite? (field : Node) : Option Site :=
  match field.child? .type, field.child? .names with
  | some type, some name =>
    if type.kind = .funcType then some { doc := field.attrs.doc, name := name } else none
  | _, _ => none

/-- The sites that a node itself is or directly holds. -/
def nodeSites (n : Node) : List Site :=
  match n.kind with
  | .funcDecl =>
    match n.child? .name with
    | some name => [{ doc := n.attrs.doc, name := name }]
    | none => []
  | .interfaceType =>
    match n.child? .methods with
    | some methods => (methods.childrenIn .list).filterMap fieldSite?
    | none => []
  | _ => []

/-- The sites of a file in traversal order. -/
def sites (file : File) : List Site :=
  file.root.descendants.flatMap nodeSites

/-- The function that a site declares, if its name declares one. -/
def Site.func? (s : Site) : Option Func :=
  s.name.attrs.defines.bind Obj.func?

/-- The comments of a site's doc. -/
def Site.comments (file : File) (s : Site) : List Comment :=
  match s.doc with
  | none => []
  | some number => file.group number

/-- What a doc comment says about the function `f` it belongs to. -/
structure Reading where
  /-- The markers it attaches. -/
  set : Set
  /-- What is wrong with its must-use directives. -/
  issues : List Issue
  /-- The offsets of its must-use directives. -/
  attached : List Nat
deriving Repr

/-- The reading of no comments. -/
def Reading.empty : Reading :=
  { set := .empty, issues := [], attached := [] }

/-- One more comment of the doc of `f`. A must-use directive with arguments attaches nothing; on
a function without results it is reported and still attached. -/
def Reading.add (file : File) (f : Func) (r : Reading) (c : Comment) : Reading :=
  match Directive.parse? c.text with
  | none => r
  | some d =>
    if d.isMustUse then
      let issue (kind : IssueKind) : Issue :=
        { kind := kind, place := some (file.place c.offset), func := f.name }
      let attached := r.attached ++ [c.offset]
      if d.args ≠ "" then
        { r with issues := r.issues ++ [issue .hasArgs], attached := attached }
      else if f.returnsValue then
        { r with set := r.set.insert d.name, attached := attached }
      else
        { set := r.set.insert d.name
          issues := r.issues ++ [issue .noResult]
          attached := attached }
    else
      { r with set := r.set.insert d.name }

/-- What the doc comment of a site says; nothing if the site declares no function. -/
def Site.read (file : File) (s : Site) : Option (Func × Reading) :=
  s.func?.map fun f => (f, (s.comments file).foldl (Reading.add file f) .empty)

/-- The markers of functions by origin, and the issues in the order they were found. -/
structure Table where
  sets : List (Func × Set)
  found : List Issue
deriving Repr

namespace Table

/-- The table without entries. -/
def empty : Table :=
  { sets := [], found := [] }

/-- The entries with more markers for the function `f`. -/
def mergeInto (f : Func) (set : Set) : List (Func × Set) → List (Func × Set)
  | [] => [(f, set)]
  | (g, existing) :: rest =>
    if g = f then
      (g, existing.union set) :: rest
    else
      (g, existing) :: mergeInto f set rest

/-- The table with what a doc comment says about `f`. -/
def attach (t : Table) (f : Func) (r : Reading) : Table :=
  { sets := if r.set.isEmpty then t.sets else mergeInto f.origin r.set t.sets
    found := t.found ++ r.issues }

/-- The offsets of all must-use directives of a file, attached or not, each once. -/
def mustUseOffsets (file : File) : List Nat :=
  (file.allComments.filterMap fun c =>
    match Directive.parse? c.text with
    | some d => if d.isMustUse then some c.offset else none
    | none => none).eraseDups

/-- A misplaced directive at an offset of a file. -/
def misplaced (file : File) (offset : Nat) : Issue :=
  { kind := .misplaced, place := some (file.place offset), func := "" }

/-- The table with the directives of one more file. -/
def addFile (t : Table) (file : File) : Table :=
  let readings := (sites file).filterMap (Site.read file)
  let attached := readings.flatMap (·.2.attached)
  let table := readings.foldl (fun t reading => t.attach reading.1 reading.2) t
  let left := (mustUseOffsets file).filter (!attached.contains ·)
  { table with found := table.found ++ left.map (misplaced file) }

/-- The table with the directives of more files. -/
def addFiles (t : Table) (files : List File) : Table :=
  files.foldl addFile t

/-- The table of some files. -/
def build (files : List File) : Table :=
  empty.addFiles files

/-- The markers of a function; nothing if it has none. -/
def markers (t : Table) (f : Func) : Option Set :=
  t.sets.lookup f.origin

/-- The functions with markers in the order of their declarations. -/
def funcs (t : Table) : List Func :=
  (t.sets.map (·.1)).mergeSort fun a b => Place.leMissingFirst a.place b.place

/-- The issues in the order of their places. -/
def issues (t : Table) : List Issue :=
  t.found.mergeSort fun a b => Place.leMissingFirst a.place b.place

/-- The facts that a package shares: one for each of its own functions that is marked must-use,
in the order of their declarations. -/
def exports (t : Table) (package : Package) : List (Func × Fact) :=
  t.funcs.filterMap fun f =>
    if f.package = some package then
      match t.markers f with
      | some set => if set.contains Name.mustUse then some (f, Fact.ofSet set) else none
      | none => none
    else
      none

end Table
end Marker
end MustUse
