import MustUse.Proofs.Marker.Origins
import MustUse.Proofs.Scan.Marking

/-!
# Instantiations are transparent

A call through an instantiated receiver type is a call of the declared method: the look-up of a
callee ends at an origin, markers are kept for origins, and a function is judged by its origin. So
nothing changes when every binding to a view of a function is replaced by one to its origin, and a
fact that is stored for a view is not consulted.

Main statements:

- `resolve_toOrigins`: the look-up of a callee with bindings to origins;
- `Detector.scan_toOrigins`: the scan of files with bindings to origins;
- `instantiations_transparent`.
-/

namespace MustUse
namespace Scan

open Syntax Report Marker

theorem core?_toOrigins
    (n : Node) :
    core? n.toOrigins = (core? n).map Node.toOrigins := by
  induction n using Node.induct with
  | step k s a cs ih =>
      rw [core?_eq, core?_eq (.mk k s a cs)]
      unfold Node.toOrigins
      rw [Node.kind_mapAttrs, Node.child?_mapAttrs]
      split
      · cases hx : (Node.mk k s a cs).child? .x with
        | none => rfl
        | some c => exact ih c (List.mem_of_find?_eq_some hx)
      · rfl

theorem binding?_toOrigins
    (n : Node) :
    binding? n.toOrigins = (binding? n).map Obj.toOrigin := by
  unfold binding? Node.toOrigins
  rw [Node.kind_mapAttrs, Node.attrs_mapAttrs, Node.child?_mapAttrs]
  split
  · rfl
  · cases hs : n.attrs.selection with
    | some o => simp [Attrs.toOrigins, hs]
    | none =>
        cases n.child? .sel with
        | none => simp [Attrs.toOrigins, hs]
        | some c => simp [Attrs.toOrigins, hs]
  · rfl

/-- A callee stands for the same function, whether it is bound to a view or to the origin. -/
theorem resolve_toOrigins
    (callee : Node) :
    resolve callee.toOrigins = resolve callee := by
  have hfunc : calleeFunc? callee.toOrigins = calleeFunc? callee := by
    unfold calleeFunc?
    rw [core?_toOrigins]
    cases core? callee with
    | none => rfl
    | some n =>
        simp only [Option.map_some, Option.bind_some, binding?_toOrigins]
        cases binding? n with
        | none => rfl
        | some o =>
            simp only [Option.map_some, Option.bind_some, Obj.func?_toOrigin, Option.map_map]
            rfl
  simp only [resolve, hfunc]

namespace Detector

variable {d : Detector} (hresolver : d.resolver = resolve)
include hresolver

theorem check_toOrigins
    (files : FileSet) (file : File) (ancestors : List (Option Kind)) (n : Node) :
    d.check files file.toOrigins ancestors n.toOrigins = d.check files file ancestors n := by
  have hcallee : ((n.toOrigins.child? .fn).bind fun callee => (d.resolver callee).func?) =
      (n.child? .fn).bind fun callee => (d.resolver callee).func? := by
    rw [Node.toOrigins, Node.child?_mapAttrs, hresolver]
    cases n.child? .fn with
    | none => rfl
    | some callee =>
        exact congrArg Resolution.func? (resolve_toOrigins callee)
  have hkind : n.toOrigins.kind = n.kind := Node.kind_mapAttrs _ n
  have hplace : file.toOrigins.placeOf n.toOrigins = file.placeOf n := by
    have hstart : n.toOrigins.start = n.start :=
      Node.start_mapAttrs Attrs.toOrigins (fun _ => rfl) n
    simp only [File.placeOf, hstart]
    rfl
  simp only [check, discarded?, hcallee, hkind, hplace]

theorem scanNode_toOrigins
    (files : FileSet) (file : File) (ancestors : List (Option Kind)) (n : Node) :
    d.scanNode files file.toOrigins ancestors n.toOrigins = d.scanNode files file ancestors n := by
  induction n using Node.induct generalizing ancestors with
  | step k s a cs ih =>
      have hcheck := check_toOrigins hresolver files file ancestors (.mk k s a cs)
      rw [Node.toOrigins, Node.mapAttrs, Node.mapAttrsAll_eq_map] at hcheck ⊢
      rw [scanNode, scanNode, hcheck, scanNodes_eq_flatMap, scanNodes_eq_flatMap,
        List.flatMap_map]
      congr 1
      exact List.flatMap_congr fun c hc => ih c hc (some k :: ancestors)

theorem scan_toOrigins
    (files : FileSet) (skip : List String) (sources : List File) :
    d.scan files skip (sources.map File.toOrigins) = d.scan files skip sources := by
  unfold scan
  rw [List.flatMap_map]
  apply List.flatMap_congr
  intro file _
  have hname : file.toOrigins.name files = file.name files := rfl
  unfold scanFile
  rw [hname, file.root_toOrigins, scanNode_toOrigins hresolver]

end Detector

/-- Let every binding of a name to a view of a function in some files be replaced by one to its
origin. Then all functions have the same markers, the directives have the same issues, every
package shares the same facts in the same order, and a scan gives the same diagnostics. Nor does a
scan change when the facts that are stored for views are dropped. -/
theorem instantiations_transparent
    (sources : List File) :
    (∀ f, (Table.build (sources.map File.toOrigins)).markers f =
      (Table.build sources).markers f) ∧
    (Table.build (sources.map File.toOrigins)).issues = (Table.build sources).issues ∧
    (∀ package, (Table.build (sources.map File.toOrigins)).exports package =
      (Table.build sources).exports package) ∧
    ∀ (files : FileSet) (skip : List String) (specs : List Spec) (facts : FactStore),
      (Detector.ofFiles specs (sources.map File.toOrigins) facts).scan files skip
          (sources.map File.toOrigins) =
        (Detector.ofFiles specs sources facts).scan files skip sources ∧
      (Detector.ofFiles specs sources facts.ofOrigins).scan files skip sources =
        (Detector.ofFiles specs sources facts).scan files skip sources := by
  rw [Table.build_toOrigins]
  refine ⟨fun _ => rfl, rfl, fun _ => rfl, ?_⟩
  intro files skip specs facts
  unfold Detector.ofFiles
  rw [Table.build_toOrigins, Predicate.isMarked_ofOrigins]
  exact ⟨Detector.scan_toOrigins rfl files skip sources, rfl⟩

/-- The method `Get` of a generic type. -/
def boxGet : Declaration :=
  { id := 0, name := "Get", package := none
    signature := some { receiver := some (.pointer (.named "Box")), results := 1 }, place := none }

/-- The statement `b.Get()`, where the type of `b` is an instantiation of the generic type. -/
def boxFile : File :=
  { id := 0, packageStart := 0, comments := []
    decls :=
      [.mk .funcDecl .decls {} [.mk .blockStmt .body {} [.mk .exprStmt .list {}
        [.mk .call .x {}
          [.mk .selector .fn { selection := some (.func (.instantiated 1 boxGet)) }
            [.mk .ident .x { start := some 20 } []]]]]]] }

example :
    let fact : Fact := { markers := ["retval:mustuse"] }
    (Detector.ofFiles [] [boxFile] ⟨[(.declared boxGet, fact)]⟩).scan [] [] [boxFile] =
      [.ofCall [] (some ⟨0, 20⟩) "Get"] ∧
    (Detector.ofFiles [] [boxFile] ⟨[(.instantiated 1 boxGet, fact)]⟩).scan [] [] [boxFile] =
      [] := by
  decide

end Scan
end MustUse
