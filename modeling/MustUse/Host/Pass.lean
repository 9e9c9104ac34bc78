import MustUse.Marker.Predicate
import MustUse.Scan.Discarded

/-!
# One pass per package

The analysis of one package at a time. A pass reads the markers of its own package from the source
and those of other packages from the facts that earlier passes stored; it stores facts for its own
functions. Generated files are read for markers, but nothing in them is reported.

Main definitions:

- `PackageUnit`: a package to be analysed;
- `Finding`, `Category`: what a pass reports;
- `Pass.run`: the findings and the facts of one package;
- `Pass.runAll`: packages in order, with one store of facts.
-/

namespace MustUse
namespace Host

open Syntax Marker Scan Report

/-- What a finding is about. -/
inductive Category where
  /-- A discarded result. -/
  | discarded
  /-- A directive. -/
  | directive
deriving DecidableEq, Repr

/-- The written form of a category. -/
def Category.text : Category → String
  | .discarded => ruleName
  | .directive => ruleName ++ "Marker"

/-- What a pass reports: where, what about, and the message. -/
structure Finding where
  place : Option Place
  category : Category
  message : String
deriving DecidableEq, Repr

/-- A package to be analysed. The trees to be walked come from an earlier stage, which may not have
run. -/
structure PackageUnit where
  package : Package
  files : List File
  funcs : String
  isInspected : Bool
deriving Repr

/-- Why a pass cannot run. -/
inductive PassError where
  /-- The trees to be walked are missing. -/
  | noInspector
deriving DecidableEq, Repr

/-- The description of an error. -/
def PassError.message : PassError → String
  | .noInspector => "inspector analyzer result not found"

/-- The result of a pass: what it reports, and the facts it stores in order. -/
structure PassResult where
  findings : List Finding
  facts : List (Func × Fact)
deriving Repr

namespace Pass

/-- The names of the generated files. -/
def generatedNames (fileSet : FileSet) (files : List File) : List String :=
  (files.filter (·.isGenerated)).map (·.name fileSet)

/-- The finding for an issue of a directive. -/
def ofIssue (i : Issue) : Finding :=
  { place := i.place, category := .directive, message := i.message }

/-- The finding for a discarded result. -/
def ofDiagnostic (d : Diagnostic) : Finding :=
  { place := d.place, category := .discarded, message := d.message }

/-- The issues of a table, without those whose position is in a file to be skipped. -/
def issueFindings (fileSet : FileSet) (skip : List String) (table : Table) : List Finding :=
  (table.issues.filter fun i => !skip.contains (fileSet.position i.place).file).map ofIssue

/-- The analysis of one package: issues of directives first, then discarded results. The facts of
the package itself are in the store when its calls are judged. -/
def run (fileSet : FileSet) (store : FactStore) (unit : PackageUnit) :
    Except PassError PassResult :=
  if unit.isInspected then
    let skip := generatedNames fileSet unit.files
    let table := Table.build unit.files
    let facts := table.exports unit.package
    let predicate :=
      Predicate.ofSources (Spec.parseList unit.funcs) table (store.putAll facts)
    let detector : Detector := { resolver := resolve, isMarked := predicate.isMarked }
    .ok
      { findings :=
          issueFindings fileSet skip table ++
            (detector.scan fileSet skip unit.files).map ofDiagnostic
        facts := facts }
  else
    .error .noInspector

/-- The facts that a pass leaves to later ones. -/
def storeAfter (store : FactStore) : Except PassError PassResult → FactStore
  | .ok result => store.putAll result.facts
  | .error _ => store

/-- The analysis of several packages in order, each seeing the facts of those before it. -/
def runAll (fileSet : FileSet) (store : FactStore) :
    List PackageUnit → List (Except PassError PassResult) × FactStore
  | [] => ([], store)
  | unit :: rest =>
    let result := run fileSet store unit
    let (results, final) := runAll fileSet (storeAfter store result) rest
    (result :: results, final)

end Pass
end Host
end MustUse
