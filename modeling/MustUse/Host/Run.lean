import MustUse.Host.Batch

/-!
# A run over packages

What a run is asked for and what it comes to. The packages are read by a loader, and a machine makes
one pass over each of them, some of them at once. Both are given from outside, so that what is said
about a run holds for any of them.

Main definitions:

- `LoadRequest`, `Loader`: how packages are asked for;
- `Machine`: how passes are made side by side;
- `RunOptions`: what a run is asked for;
- `Findings`: what a run gives;
- `analyse`: the run.
-/

namespace MustUse
namespace Host

open Report

/-- What a loader is asked for. -/
structure LoadRequest where
  /-- The directory to work in, empty for the current one. -/
  dir : String
  /-- The patterns that name the packages. -/
  patterns : List String
  /-- Whether the packages are loaded with their tests. -/
  tests : Bool
deriving DecidableEq, Repr

/-- What loads packages, or says why it cannot. -/
abbrev Loader := LoadRequest → Except String Batch

/-- A machine that makes passes side by side. -/
structure Machine where
  /-- How many passes are made at once if nothing else is asked for. -/
  processors : Nat
  /-- The order in which passes end, from the number of passes that may be made at once and from the
  numbers of the passes. -/
  schedule : Nat → List Nat → List Nat
  processors_pos : 0 < processors
  /-- If a pass may be made at all, each pass ends once. -/
  schedule_perm : ∀ limit passes, 0 < limit → (schedule limit passes).Perm passes

/-- The machine that makes one pass after the other. -/
def Machine.sequential : Machine :=
  { processors := 1
    schedule := fun _ passes => passes
    processors_pos := Nat.one_pos
    schedule_perm := fun _ passes _ => List.Perm.refl passes }

/-- What a run is asked for. -/
structure RunOptions where
  /-- The directory to work in, empty for the current one. -/
  dir : String
  /-- The patterns that name the packages. -/
  patterns : List String
  /-- Whether test files are analysed. -/
  tests : Bool
  /-- Further functions whose result must be used. -/
  funcs : List Spec
  /-- How many passes are made at once; zero leaves it to the machine. -/
  jobs : Int
deriving DecidableEq, Repr

/-- The patterns that are meant when none are given. -/
def defaultPatterns : List String :=
  ["./..."]

namespace RunOptions

/-- What the loader is asked for. -/
def request (o : RunOptions) : LoadRequest :=
  { dir := o.dir
    patterns := if o.patterns.isEmpty then defaultPatterns else o.patterns
    tests := o.tests }

/-- How many passes are made at once. -/
def limit (o : RunOptions) (machine : Machine) : Nat :=
  if o.jobs ≤ 0 then machine.processors else o.jobs.toNat

end RunOptions

/-- What a run gives: the diagnostics, and what it tells about its progress. The latter is logged by
who asked for the run. -/
structure Findings where
  diagnostics : List Diagnostic
  progress : List String
deriving Repr

/-- The numbers of the packages that are analysed. -/
def Batch.passes (b : Batch) : List Nat :=
  (b.packages.zipIdx.filter (·.1.isSound)).map (·.2)

/-- The results of passes that end in the given order. Each pass has a place of its own. -/
def collect {α : Type} (results : List (Option α)) (ended : List Nat) : List (Option α) :=
  ended.foldl (fun places i => places.set i (results[i]?).join) (results.map fun _ => none)

/-- The run over the packages that options ask for. -/
def analyse (machine : Machine) (load : Loader) (o : RunOptions) : Except LoadFailure Findings :=
  match load o.request with
  | .error reason => .error (.loader reason)
  | .ok batch =>
    if batch.packages.isEmpty then
      .error (.noPackages o.request.patterns)
    else
      match batch.listErrors with
      | [] =>
        let ended := machine.schedule (o.limit machine) batch.passes
        let results := collect (batch.results o.funcs) ended
        .ok
          { diagnostics := Diagnostic.sort (results.flatMap (·.getD []))
            progress := batch.progress o.funcs }
      | errors => .error (.listErrors errors)

end Host
end MustUse
