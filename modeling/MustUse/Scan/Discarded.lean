import MustUse.Report.Diagnostic
import MustUse.Scan.Callee
import MustUse.Scan.Context
import MustUse.Syntax.File

/-!
# Discarded results

The walk over the trees of some files that reports each call whose value is not used although the
function has a result and is marked.

Main definitions:

- `Detector`: how callees are looked up and which functions are marked;
- `Detector.discarded?`: the function of a call that is to be reported;
- `Detector.scanFile`, `Detector.scan`: the diagnostics of a file and of several files.
-/

namespace MustUse
namespace Scan

open Syntax Report

/-- How callees are looked up, and whether the result of a function must be used. -/
structure Detector where
  resolver : Resolver
  isMarked : Func → Bool

namespace Detector

/-- The function called by `call` when the call is to be reported: its value is not used, the
callee is found, the function has a result and is marked. A failed look-up counts as not found. A
call without ancestors would not be reported, but there is none: a walk starts at the root of a
file, so every call has an ancestor and the case is left out. -/
def discarded? (d : Detector) (ancestors : List (Option Kind)) (call : Node) : Option Func :=
  if isUsed ancestors then
    none
  else
    match (call.child? .fn).bind fun callee => (d.resolver callee).func? with
    | none => none
    | some f => if f.returnsValue && d.isMarked f then some f else none

/-- The diagnostic for a node of a file, if it is a call to be reported. -/
def check (d : Detector) (files : FileSet) (file : File) (ancestors : List (Option Kind))
    (n : Node) : List Diagnostic :=
  if n.kind = .call then
    match d.discarded? ancestors n with
    | none => []
    | some f => [.ofCall files (file.placeOf n) f.name]
  else
    []

mutual

/-- The diagnostics of a node and the nodes below it, each node before those below it. -/
def scanNode (d : Detector) (files : FileSet) (file : File) (ancestors : List (Option Kind)) :
    Node → List Diagnostic
  | .mk k s a cs =>
    d.check files file ancestors (.mk k s a cs) ++
      scanNodes d files file (some k :: ancestors) cs

/-- The diagnostics of the children of one node in order. -/
def scanNodes (d : Detector) (files : FileSet) (file : File) (ancestors : List (Option Kind)) :
    List Node → List Diagnostic
  | [] => []
  | n :: rest => scanNode d files file ancestors n ++ scanNodes d files file ancestors rest

end

/-- The diagnostics of one file; none if its name is to be skipped. -/
def scanFile (d : Detector) (files : FileSet) (skip : List String) (file : File) :
    List Diagnostic :=
  if skip.contains (file.name files) then [] else d.scanNode files file [] file.root

/-- The diagnostics of several files in order. -/
def scan (d : Detector) (files : FileSet) (skip : List String) (sources : List File) :
    List Diagnostic :=
  sources.flatMap (d.scanFile files skip)

end Detector
end Scan
end MustUse
