import MustUse.Marker.Predicate
import MustUse.Scan.Discarded

/-!
# Many packages at once

The analysis of all loaded packages with one table of markers. A file may belong to several loaded
packages, when tests are loaded too; one of them owns it and reports on it, the test variant if
there is one. Packages with errors own nothing and are not scanned.

Main definitions:

- `LoadedPackage`, `LoadFailure`;
- `owners`: the owner of each file name;
- `scanPackage`: the diagnostics of one package;
- `Batch.run`: the sorted diagnostics of all packages, or why there are none.
-/

namespace MustUse
namespace Host

open Syntax Marker Scan Report

/-- The stage of loading at which an error arose. -/
inductive ErrorStage where
  | unknown
  | listing
  | parsing
  | typing
deriving DecidableEq, Repr

/-- An error of a loaded package. -/
structure PackageError where
  position : String
  message : String
  stage : ErrorStage
deriving DecidableEq, Repr

/-- The written form of an error; a dash stands for a missing position. -/
def PackageError.text (e : PackageError) : String :=
  (if e.position = "" then "-" else e.position) ++ ": " ++ e.message

/-- A loaded package. -/
structure LoadedPackage where
  id : String
  files : List File
  errors : List PackageError
deriving Repr

namespace LoadedPackage

/-- Whether the package was loaded without errors. -/
def isSound (p : LoadedPackage) : Bool :=
  p.errors.isEmpty

/-- Whether the package is a variant of another one with its tests added. -/
def isTestVariant (p : LoadedPackage) : Bool :=
  ".test]".toList.isSuffixOf p.id.toList

end LoadedPackage

/-- Why the packages cannot be analysed. -/
inductive LoadFailure where
  /-- Packages could not be listed. -/
  | listErrors (errors : List PackageError)
  /-- No package is matched. -/
  | noPackages (patterns : List String)
  /-- The loader gave up. -/
  | loader (reason : String)
deriving DecidableEq, Repr

/-- The description of a failure. -/
def LoadFailure.message (f : LoadFailure) : String :=
  "package load failed: " ++
    match f with
    | .listErrors errors => Text.joinWith "\n" (errors.map (·.text))
    | .noPackages patterns => "no packages matched " ++ Text.joinWith " " patterns
    | .loader reason => reason

/-- The owner of each file name, a number in the list of packages. -/
abbrev Owners := List (String × Nat)

/-- The owners after a package has claimed its files; a name that is taken stays. -/
def claim (fileSet : FileSet) (owners : Owners) (entry : LoadedPackage × Nat) : Owners :=
  if entry.1.isSound then
    (entry.1.files.map (·.name fileSet)).foldl
      (fun owners name =>
        if (owners.lookup name).isSome then owners else owners ++ [(name, entry.2)])
      owners
  else
    owners

/-- The owner of each file name. Test variants claim their files first. -/
def owners (fileSet : FileSet) (packages : List LoadedPackage) : Owners :=
  let numbered := packages.zipIdx
  let variants := numbered.filter (·.1.isTestVariant)
  let others := numbered.filter (!·.1.isTestVariant)
  (variants ++ others).foldl (claim fileSet) []

/-- The names of the files of package number `i` that it does not report on: those it does not
own and the generated ones. -/
def skipNames (fileSet : FileSet) (owners : Owners) (i : Nat) (files : List File) :
    List String :=
  (files.filter fun f =>
    owners.lookup (f.name fileSet) ≠ some i || f.isGenerated).map (·.name fileSet)

/-- The diagnostics of package number `i`. -/
def scanPackage (fileSet : FileSet) (isMarked : Func → Bool) (owners : Owners)
    (package : LoadedPackage) (i : Nat) : List Diagnostic :=
  let detector : Detector := { resolver := resolve, isMarked := isMarked }
  detector.scan fileSet (skipNames fileSet owners i package.files) package.files

/-- Packages to be analysed together, and all files whose markers count, those of packages that
are only imported included. -/
structure Batch where
  fileSet : FileSet
  packages : List LoadedPackage
  sources : List File
deriving Repr

namespace Batch

/-- The errors of listing. -/
def listErrors (b : Batch) : List PackageError :=
  b.packages.flatMap fun p => p.errors.filter (·.stage = .listing)

/-- The diagnostics of each package in order; nothing for a package with errors. -/
def results (b : Batch) (extra : List Spec) : List (Option (List Diagnostic)) :=
  let predicate : Predicate :=
    { extra := extra, sources := [(Table.build b.sources).markers] }
  let owners := owners b.fileSet b.packages
  b.packages.zipIdx.map fun (p, i) =>
    if p.isSound then some (scanPackage b.fileSet predicate.isMarked owners p i) else none

/-- The diagnostics of all packages, sorted. -/
def run (b : Batch) (extra : List Spec) : Except LoadFailure (List Diagnostic) :=
  match b.listErrors with
  | [] => .ok (Diagnostic.sort ((b.results extra).flatMap (·.getD [])))
  | errors => .error (.listErrors errors)

/-- What a verbose run tells about its progress. -/
def progress (b : Batch) (extra : List Spec) : List String :=
  ("loaded " ++ Text.decimal b.packages.length ++ " packages") ::
    (b.packages.zip (b.results extra)).map fun (p, result) =>
      match result, p.errors with
      | some diagnostics, _ => p.id ++ ": " ++ Text.decimal diagnostics.length ++ " diagnostics"
      | none, e :: _ => "skipping " ++ p.id ++ ": " ++ e.text
      | none, [] => "skipping " ++ p.id

end Batch
end Host
end MustUse
