import MustUse.Proofs.Host.Generated
import MustUse.Proofs.Marker.Transport

/-!
# The order of passes

Packages are analysed one after the other with one store of facts. A pass writes facts for functions
of its own package only, and it asks the store only about functions that are called in the package.
When these belong to no later package, what the pass reads is never written again, so every pass
gives the result that it would give with the final store. The final store is the same for all orders
of the same packages, and so are the results.

Main definitions:

- `PackageUnit.written`: the facts that a pass stores;
- `PackageUnit.Uses`, `FollowsCalls`: which packages call into which, and the orders that follow;
- `stored`: the store after some passes.

Main statements:

- `find?_stored_of_mem`, `find?_stored_of_not_mem`: what the store finally says about a function;
- `runAll_fst_eq_map`: every pass might as well have started with the final store;
- `runAll_results_independent_of_order`.
-/

namespace MustUse
namespace Host

open Syntax Marker Scan Report

namespace PackageUnit

/-- The facts that the pass over a package stores; none if the pass cannot run. -/
def written (u : PackageUnit) : List (Func × Fact) :=
  if u.isInspected then (Table.build u.files).exports u.package else []

/-- A file of `u` calls a function that belongs to the package of `v`. -/
def Uses (u v : PackageUnit) : Prop :=
  ∃ file ∈ u.files, ∃ f, Calls resolve file f ∧ f.package = some v.package

theorem uses_iff
    (u v : PackageUnit) :
    u.Uses v ↔
      ∃ file ∈ u.files, ∃ f ∈ calledFuncs resolve file, f.package = some v.package := by
  simp only [Uses, mem_calledFuncs]

instance (u v : PackageUnit) : Decidable (u.Uses v) :=
  decidable_of_iff _ (uses_iff u v).symm

theorem package_of_mem_written
    {u : PackageUnit} {e : Func × Fact} (he : e ∈ u.written) :
    e.1.package = some u.package := by
  unfold written at he
  split at he
  · have hexports := (Table.wellFormed_build u.files).mem_exports u.package e.1 e.2
    exact (hexports.mp he).2.1
  · simp at he

end PackageUnit

/-- Packages in an order of analysis: none calls a function of a later one. -/
def FollowsCalls (units : List PackageUnit) : Prop :=
  units.Pairwise fun u v => ¬ u.Uses v

instance (units : List PackageUnit) : Decidable (FollowsCalls units) :=
  inferInstanceAs (Decidable (units.Pairwise fun u v => ¬ u.Uses v))

/-- The store after the passes over some packages. -/
def stored (store : FactStore) (units : List PackageUnit) : FactStore :=
  units.foldl (fun s u => s.putAll u.written) store

section Store

variable (store : FactStore)

theorem find?_putAll
    (facts : List (Func × Fact)) (f : Func) :
    (store.putAll facts).find? f = (facts.reverse.lookup f).or (store.find? f) := by
  unfold FactStore.find?
  rw [FactStore.entries_putAll, List.lookup_append]

/-- A pass leaves alone what the store says about functions of other packages. -/
theorem find?_putAll_written
    {u : PackageUnit} {f : Func} (hf : f.package ≠ some u.package) :
    (store.putAll u.written).find? f = store.find? f := by
  have hnone : u.written.reverse.lookup f = none := by
    rw [List.lookup_eq_none_iff]
    intro e he
    have hpackage := PackageUnit.package_of_mem_written (List.mem_reverse.mp he)
    rw [bne_iff_ne]
    rintro rfl
    exact hf hpackage
  rw [find?_putAll, hnone, Option.none_or]

/-- A run of passes over other packages leaves alone what the store says about a function. -/
theorem find?_stored_of_not_mem
    {units : List PackageUnit} {f : Func} (hf : ∀ u ∈ units, f.package ≠ some u.package) :
    (stored store units).find? f = store.find? f := by
  unfold stored
  induction units generalizing store with
  | nil => rfl
  | cons u units ih =>
      have hu := hf u List.mem_cons_self
      have hrest : ∀ v ∈ units, f.package ≠ some v.package := by
        intro v hv
        exact hf v (List.mem_cons_of_mem u hv)
      rw [List.foldl_cons, ih _ hrest, find?_putAll_written store hu]

/-- What the store finally says about a function is what the pass over its own package leaves. -/
theorem find?_stored_of_mem
    {units : List PackageUnit} (hdistinct : (units.map (·.package)).Nodup)
    {u : PackageUnit} (hu : u ∈ units) {f : Func} (hf : f.package = some u.package) :
    (stored store units).find? f = (store.putAll u.written).find? f := by
  obtain ⟨done, rest, rfl⟩ := List.append_of_mem hu
  have hother : ∀ v, v ∈ done ∨ v ∈ rest → f.package ≠ some v.package := by
    simp only [List.map_append, List.map_cons, List.nodup_append, List.nodup_cons,
      List.mem_map, List.mem_cons] at hdistinct
    intro v hv heq
    have hsame : u.package = v.package := Option.some.inj (hf.symm.trans heq)
    rcases hv with hv | hv
    · exact hdistinct.2.2 v.package ⟨v, hv, rfl⟩ u.package (Or.inl rfl) hsame.symm
    · exact hdistinct.2.1.1 ⟨v, hv, hsame.symm⟩
  have hsplit : stored store (done ++ u :: rest) =
      stored ((stored store done).putAll u.written) rest := by
    simp [stored]
  have hdone := find?_stored_of_not_mem store fun v hv => hother v (Or.inl hv)
  rw [hsplit, find?_stored_of_not_mem _ fun v hv => hother v (Or.inr hv), find?_putAll,
    find?_putAll, hdone]

/-- The final store does not depend on the order. -/
theorem find?_stored_of_perm
    {units units' : List PackageUnit} (hperm : units.Perm units')
    (hdistinct : (units.map (·.package)).Nodup) (f : Func) :
    (stored store units).find? f = (stored store units').find? f := by
  have hdistinct' : (units'.map (·.package)).Nodup := (hperm.map _).nodup_iff.mp hdistinct
  by_cases hown : ∃ u ∈ units, f.package = some u.package
  · obtain ⟨u, hu, hf⟩ := hown
    rw [find?_stored_of_mem store hdistinct hu hf,
      find?_stored_of_mem store hdistinct' (hperm.mem_iff.mp hu) hf]
  · have hnone : ∀ u ∈ units, f.package ≠ some u.package := by
      intro u hu hf
      exact hown ⟨u, hu, hf⟩
    have hnone' : ∀ u ∈ units', f.package ≠ some u.package := by
      intro u hu
      exact hnone u (hperm.mem_iff.mpr hu)
    rw [find?_stored_of_not_mem store hnone, find?_stored_of_not_mem store hnone']

/-- A package finds its own facts in the final store. -/
theorem find?_putAll_written_stored
    {units : List PackageUnit} (hdistinct : (units.map (·.package)).Nodup)
    {u : PackageUnit} (hu : u ∈ units) (f : Func) :
    ((stored store units).putAll u.written).find? f = (stored store units).find? f := by
  by_cases hf : f.package = some u.package
  · rw [find?_putAll, find?_stored_of_mem store hdistinct hu hf, find?_putAll, ← Option.or_assoc,
      Option.or_self]
  · exact find?_putAll_written _ hf

end Store

namespace Pass

/-- A pass asks the store about called functions only. -/
theorem run_congr
    (fileSet : FileSet) {store store' : FactStore} {u : PackageUnit}
    (hsame : ∀ file ∈ u.files, ∀ f, Calls resolve file f →
      (store.putAll u.written).find? f.origin = (store'.putAll u.written).find? f.origin) :
    run fileSet store u = run fileSet store' u := by
  by_cases hinspected : u.isInspected = true
  · have hwritten : u.written = (Table.build u.files).exports u.package := by
      simp [PackageUnit.written, hinspected]
    rw [hwritten] at hsame
    have hscan : (detector store u).scan fileSet (generatedNames fileSet u.files) u.files =
        (detector store' u).scan fileSet (generatedNames fileSet u.files) u.files := by
      apply Detector.scan_congr
      · rfl
      · intro file hfile f hcalls
        have hmarkers := congrArg (Option.map Fact.toSet) (hsame file hfile f hcalls)
        simp only [detector, Predicate.isMarked, Predicate.ofSources, Predicate.isMarkedBy,
          List.any_cons, FactStore.markers, hmarkers]
    rw [run_eq fileSet store hinspected, run_eq fileSet store' hinspected, hscan]
  · simp [run, hinspected]

theorem storeAfter_run
    (fileSet : FileSet) (store : FactStore) (u : PackageUnit) :
    storeAfter store (run fileSet store u) = store.putAll u.written := by
  by_cases hinspected : u.isInspected = true
  · simp [run, storeAfter, PackageUnit.written, hinspected]
  · simp [run, storeAfter, PackageUnit.written, FactStore.putAll, hinspected]

theorem runAll_snd
    (fileSet : FileSet) (store : FactStore) (units : List PackageUnit) :
    (runAll fileSet store units).2 = stored store units := by
  unfold stored
  induction units generalizing store with
  | nil => rfl
  | cons u units ih =>
      rw [runAll, List.foldl_cons, ← storeAfter_run fileSet]
      exact ih _

/-- One step: the facts that a pass can read are final when it starts. -/
theorem run_stored
    (fileSet : FileSet) (store : FactStore) {done rest : List PackageUnit} {u : PackageUnit}
    (hdistinct : ((done ++ u :: rest).map (·.package)).Nodup)
    (hcalls : FollowsCalls (done ++ u :: rest)) :
    run fileSet (stored store done) u =
      run fileSet (stored store (done ++ u :: rest)) u := by
  have hlater : ∀ v ∈ rest, ¬ u.Uses v :=
    (List.pairwise_cons.mp (List.pairwise_append.mp hcalls).2.1).1
  apply run_congr
  intro file hfile f hf
  have hother : ∀ v ∈ rest, f.origin.package ≠ some v.package := by
    intro v hv heq
    exact hlater v hv ⟨file, hfile, f, hf, heq⟩
  have hu : u ∈ done ++ u :: rest := by
    simp
  have hsplit : stored store (done ++ u :: rest) =
      stored ((stored store done).putAll u.written) rest := by
    simp [stored]
  rw [find?_putAll_written_stored store hdistinct hu, hsplit, find?_stored_of_not_mem _ hother]

/-- A run of steps: every pass gives the result that it gives with the final store. -/
theorem runAll_fst_eq_map
    (fileSet : FileSet) (store : FactStore) (done rest : List PackageUnit)
    (hdistinct : ((done ++ rest).map (·.package)).Nodup) (hcalls : FollowsCalls (done ++ rest)) :
    (runAll fileSet (stored store done) rest).1 =
      rest.map (run fileSet (stored store (done ++ rest))) := by
  induction rest generalizing done with
  | nil => rfl
  | cons u rest ih =>
      have hassoc : done ++ u :: rest = (done ++ [u]) ++ rest := by
        simp
      have hnext : stored store (done ++ [u]) =
          storeAfter (stored store done) (run fileSet (stored store done) u) := by
        rw [storeAfter_run]
        simp [stored]
      have hrest := ih (done ++ [u]) (by rwa [← hassoc]) (by rwa [← hassoc])
      rw [← hassoc, hnext] at hrest
      rw [List.map_cons, ← run_stored fileSet store hdistinct hcalls, ← hrest]
      rfl

end Pass

/-- The order of analysis does not matter. Whatever facts are there before and whatever functions
each package has configured, any two orders of different packages in which no package calls a
function of a later one give every package the same result, its findings and its facts, and leave
the same facts for every function. -/
theorem runAll_results_independent_of_order
    (fileSet : FileSet) (store : FactStore) {units units' : List PackageUnit}
    (hperm : units.Perm units') (hdistinct : (units.map (·.package)).Nodup)
    (hcalls : FollowsCalls units) (hcalls' : FollowsCalls units') :
    (∃ result : PackageUnit → Except PassError PassResult,
      (Pass.runAll fileSet store units).1 = units.map result ∧
      (Pass.runAll fileSet store units').1 = units'.map result) ∧
    ∀ f, (Pass.runAll fileSet store units).2.find? f =
      (Pass.runAll fileSet store units').2.find? f := by
  have hdistinct' : (units'.map (·.package)).Nodup := (hperm.map _).nodup_iff.mp hdistinct
  have hfinal := find?_stored_of_perm store hperm hdistinct
  refine ⟨⟨Pass.run fileSet (stored store units), ?_, ?_⟩, ?_⟩
  · exact Pass.runAll_fst_eq_map fileSet store [] units hdistinct hcalls
  · have hruns := Pass.runAll_fst_eq_map fileSet store [] units' hdistinct' hcalls'
    refine hruns.trans (List.map_congr_left ?_)
    intro u _
    apply Pass.run_congr
    intro file _ f _
    rw [find?_putAll, find?_putAll, List.nil_append, hfinal]
  · intro f
    rw [Pass.runAll_snd, Pass.runAll_snd, hfinal]

section Examples

/-- A package that only consists of the file with this number, which calls the function of the file
with the number zero. -/
def callingUnit (id : Nat) (funcs : String) : PackageUnit :=
  { package := { id := id, path := "example.com/app" }
    files :=
      [{ id := id
         packageStart := 0
         comments := []
         decls :=
          [.mk .funcDecl .decls {}
            [.mk .blockStmt .body {}
              [.mk .exprStmt .list {}
                [.mk .call .x {}
                  [.mk .ident .fn { start := some 30, use := some (.func (markedIn 0)) } []]]]]] }]
    funcs := funcs
    isInspected := true }

/-- The lines of three files. -/
def callingLines : FileSet :=
  ["lib.go", "app.go", "tool.go"].map fun name => { markingLines with name := name }

/-- A package that marks the function may be followed by the packages that call it in either order,
also when the store has an older fact for the function. -/
theorem runAll_results_independent_of_order_callers :
    let store := FactStore.empty.put (markedIn 0) ⟨["doc:stable"]⟩
    let lib := unitOf [markingFile 0]
    let app := callingUnit 1 ""
    let tool := callingUnit 2 "example.com/p.F"
    [lib, app, tool].Perm [lib, tool, app] ∧
    ([lib, app, tool].map (·.package)).Nodup ∧
    FollowsCalls [lib, app, tool] ∧ FollowsCalls [lib, tool, app] ∧
    (∃ result : PackageUnit → Except PassError PassResult,
      (Pass.runAll callingLines store [lib, app, tool]).1 = [result lib, result app, result tool] ∧
      (Pass.runAll callingLines store [lib, tool, app]).1 =
        [result lib, result tool, result app]) ∧
    ∀ f, (Pass.runAll callingLines store [lib, app, tool]).2.find? f =
      (Pass.runAll callingLines store [lib, tool, app]).2.find? f := by
  intro store lib app tool
  have hperm : [lib, app, tool].Perm [lib, tool, app] := (List.Perm.swap tool app []).cons lib
  have hdistinct : ([lib, app, tool].map (·.package)).Nodup := by
    decide
  have hcalls : FollowsCalls [lib, app, tool] := by
    decide
  have hcalls' : FollowsCalls [lib, tool, app] := by
    decide
  exact ⟨hperm, hdistinct, hcalls, hcalls',
    runAll_results_independent_of_order callingLines store hperm hdistinct hcalls hcalls'⟩

end Examples

end Host
end MustUse
