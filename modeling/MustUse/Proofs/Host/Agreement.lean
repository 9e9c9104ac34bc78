import MustUse.Host.Pass
import MustUse.Proofs.Host.Ownership
import MustUse.Proofs.Marker.Facts
import MustUse.Proofs.Scan.Discarded

/-!
# The two hosts agree

One host analyses packages one at a time and moves markers between them as facts; the other has one
table for all packages and an owner for each file. On packages that are listed after those they
depend on, both report the same discarded results.

After each pass, the store has the must-use marker for exactly the functions that the tables of the
packages so far have it for. A function that a package calls is not declared by a later one, so at
this point the store says as much about it as the table of all packages.

Main definitions:

- `SourcePackage`: a package as both hosts receive it;
- `Family`: what is asked of the packages and their order;
- `Represents`: the invariant of the store;
- `discardedResults`: the diagnostics of one host in the form of the other.

Main statement: `runAll_agrees_with_batch`.
-/

namespace MustUse
namespace Host

open Syntax Marker Scan Report

/-- A package without errors, as it is given to either host. -/
structure SourcePackage where
  id : String
  package : Package
  files : List File

namespace SourcePackage

/-- The package as it is given to a pass. -/
def toUnit (funcs : String) (p : SourcePackage) : PackageUnit :=
  { package := p.package, files := p.files, funcs := funcs, isInspected := true }

/-- The package as it is loaded with others. -/
def toLoaded (p : SourcePackage) : LoadedPackage :=
  { id := p.id, files := p.files, errors := [] }

/-- The source of the package attaches the must-use marker to `f`. -/
def Marks (p : SourcePackage) (f : Func) : Prop :=
  (Table.build p.files).Marks f Name.mustUse

end SourcePackage

/-- All packages together, with the markers of all their files. -/
def batchOf (fileSet : FileSet) (ps : List SourcePackage) : Batch :=
  { fileSet := fileSet
    packages := ps.map (·.toLoaded)
    sources := ps.flatMap (·.files) }

/-- Packages in an order of analysis. A function that is declared in a file of a package belongs to
this package. A function that is called in a package belongs to this package, to an earlier one or
to none of them: every package that it belongs to comes no later. Files of different packages have
different names. Nothing is asked of the identifiers. -/
structure Family (fileSet : FileSet) (ps : List SourcePackage) : Prop where
  declared : ∀ p ∈ ps, ∀ file ∈ p.files, ∀ path i doc f,
    Declares file path i doc f → f.package = some p.package
  called : ∀ (i : Nat) (p : SourcePackage), ps[i]? = some p →
    ∀ file ∈ p.files, ∀ f, Calls resolve file f →
      ∀ (j : Nat) (q : SourcePackage), ps[j]? = some q → f.package = some q.package → j ≤ i
  named : ∀ (i j : Nat) (p q : SourcePackage), ps[i]? = some p → ps[j]? = some q →
    ∀ file ∈ p.files, ∀ file' ∈ q.files, file.name fileSet = file'.name fileSet → i = j

/-- What is asked of packages in a form that can be computed. -/
theorem family_iff
    (fileSet : FileSet) (ps : List SourcePackage) :
    Family fileSet ps ↔
      (∀ p ∈ ps, ∀ file ∈ p.files, ∀ s ∈ sites file, ∀ f ∈ s.func?,
        f.package = some p.package) ∧
      (∀ e ∈ ps.zipIdx, ∀ file ∈ e.1.files, ∀ f ∈ calledFuncs resolve file,
        ∀ e' ∈ ps.zipIdx, f.package = some e'.1.package → e'.2 ≤ e.2) ∧
      (∀ e ∈ ps.zipIdx, ∀ e' ∈ ps.zipIdx, ∀ file ∈ e.1.files, ∀ file' ∈ e'.1.files,
        file.name fileSet = file'.name fileSet → e.2 = e'.2) := by
  simp only [List.mem_zipIdx_iff_getElem?, mem_calledFuncs]
  constructor
  · intro h
    refine ⟨?_, ?_, ?_⟩
    · intro p hp file hfile s hs f hf
      obtain ⟨path, i, hdeclares⟩ := (exists_site_iff_declares file s.doc f).mp ⟨s, hs, rfl, hf⟩
      exact h.declared p hp file hfile path i s.doc f hdeclares
    · intro e he file hfile f hf e' he'
      exact h.called e.2 e.1 he file hfile f hf e'.2 e'.1 he'
    · intro e he e' he'
      exact h.named e.2 e'.2 e.1 e'.1 he he'
  · rintro ⟨hdeclared, hcalled, hnamed⟩
    constructor
    · intro p hp file hfile path i doc f hdeclares
      obtain ⟨s, hs, _, hf⟩ := (exists_site_iff_declares file doc f).mpr ⟨path, i, hdeclares⟩
      exact hdeclared p hp file hfile s hs f hf
    · intro i p hp file hfile f hf j q hq
      exact hcalled (p, i) hp file hfile f hf (q, j) hq
    · intro i j p q hp hq
      exact hnamed (p, i) hp (q, j) hq

instance (fileSet : FileSet) (ps : List SourcePackage) : Decidable (Family fileSet ps) :=
  decidable_of_iff _ (family_iff fileSet ps).symm

/-- A finding as a diagnostic at its resolved position. A finding does not name the function. -/
def Finding.toDiagnostic (fileSet : FileSet) (x : Finding) : Diagnostic :=
  { rule := x.category.text
    severity := ruleSeverity
    message := x.message
    func := ""
    place := x.place
    position := fileSet.position x.place }

/-- The discarded results among what passes report, as diagnostics. -/
def discardedResults (fileSet : FileSet) (results : List PassResult) : List Diagnostic :=
  results.flatMap fun result =>
    (result.findings.filter (·.category = .discarded)).map (·.toDiagnostic fileSet)

/-- The store after the passes over some packages has the must-use marker for exactly the functions
that the source of one of them attaches it to. -/
def Represents (store : FactStore) (done : List SourcePackage) : Prop :=
  ∀ f : Func, f.origin = f → (store.Marks f Name.mustUse ↔ ∃ p ∈ done, p.Marks f)

/-- The diagnostics of a package for a choice of marked functions, without those in generated
files. -/
def report (fileSet : FileSet) (isMarked : Func → Bool) (p : SourcePackage) : List Diagnostic :=
  Detector.scan { resolver := resolve, isMarked := isMarked } fileSet
    (Pass.generatedNames fileSet p.files) p.files

/-- The functions that are marked by the table of all packages or by configuration. -/
def isMarkedIn (ps : List SourcePackage) (extra : List Spec) : Func → Bool :=
  Predicate.isMarked
    { extra := extra, sources := [(Table.build (ps.flatMap (·.files))).markers] }

/-- The table of all packages has the markers that their own tables have. -/
theorem marks_build_flatMap
    (ps : List SourcePackage) (f : Func) :
    (Table.build (ps.flatMap (·.files))).Marks f Name.mustUse ↔ ∃ p ∈ ps, p.Marks f := by
  unfold SourcePackage.Marks
  simp only [Table.marks_build, List.mem_flatMap]
  constructor
  · rintro ⟨file, ⟨p, hp, hfile⟩, hg⟩
    exact ⟨p, hp, file, hfile, hg⟩
  · rintro ⟨p, hp, file, hfile, hg⟩
    exact ⟨file, ⟨p, hp, hfile⟩, hg⟩

/-- A package marks functions of its own only. -/
theorem Family.package_of_marks
    {fileSet : FileSet} {ps : List SourcePackage} (h : Family fileSet ps)
    {p : SourcePackage} (hp : p ∈ ps) {f : Func} (hf : p.Marks f) :
    f.package = some p.package := by
  obtain ⟨file, hfile, g, hg, c, d, hdoc, _⟩ := (Table.marks_build p.files f Name.mustUse).mp hf
  obtain ⟨path, i, number, hdeclares, _⟩ := hdoc
  have hpackage := h.declared p hp file hfile path i (some number) g hdeclares
  have hdecl : g.decl = f.decl := by
    injection hg
  unfold Func.package at hpackage ⊢
  rw [← hdecl]
  exact hpackage

theorem represents_empty :
    Represents FactStore.empty [] := by
  intro f _
  constructor
  · intro hf
    exact absurd hf (FactStore.not_marks_empty f Name.mustUse)
  · rintro ⟨p, hp, _⟩
    cases hp

/-- One step: the facts of one more package extend what the store represents by this package. -/
theorem Represents.putAll
    {fileSet : FileSet} {ps : List SourcePackage} (h : Family fileSet ps)
    {store : FactStore} {done : List SourcePackage} (hstore : Represents store done)
    {p : SourcePackage} (hp : p ∈ ps) :
    Represents (store.putAll ((Table.build p.files).exports p.package)) (done ++ [p]) := by
  intro f hf
  rw [FactStore.marks_putAll_exports store (Table.wellFormed_build p.files) p.package hf, hstore f hf]
  constructor
  · rintro (⟨q, hq, hmarks⟩ | ⟨_, hmarks⟩)
    · exact ⟨q, List.mem_append_left _ hq, hmarks⟩
    · exact ⟨p, List.mem_append_right _ (List.mem_singleton_self p), hmarks⟩
  · rintro ⟨q, hq, hmarks⟩
    rcases List.mem_append.mp hq with hq | hq
    · exact Or.inl ⟨q, hq, hmarks⟩
    · rw [List.mem_singleton] at hq
      subst hq
      exact Or.inr ⟨h.package_of_marks hp hmarks, hmarks⟩

/-- What is called in a package and marked in any package is marked in this or an earlier one. -/
theorem Family.exists_marks_iff
    {fileSet : FileSet} {done rest : List SourcePackage} {p : SourcePackage}
    (h : Family fileSet (done ++ p :: rest)) {file : File} (hfile : file ∈ p.files)
    {f : Func} (hcalls : Calls resolve file f) :
    (∃ q ∈ done ++ p :: rest, q.Marks f) ↔ ∃ q ∈ done ++ [p], q.Marks f := by
  have hp : (done ++ p :: rest)[done.length]? = some p := by
    simp
  constructor
  · rintro ⟨q, hq, hmarks⟩
    obtain ⟨j, hj⟩ := List.mem_iff_getElem?.mp hq
    have hle := h.called done.length p hp file hfile f hcalls j q hj (h.package_of_marks hq hmarks)
    have hj' : (done ++ [p])[j]? = some q := by
      rw [← hj, List.getElem?_append, List.getElem?_append]
      split
      · rfl
      · have hzero : j - done.length = 0 := by omega
        rw [hzero]
        rfl
    exact ⟨q, List.mem_of_getElem? hj', hmarks⟩
  · rintro ⟨q, hq, hmarks⟩
    refine ⟨q, ?_, hmarks⟩
    rcases List.mem_append.mp hq with hq | hq
    · exact List.mem_append_left _ hq
    · rw [List.mem_singleton] at hq
      subst hq
      exact List.mem_append_right _ List.mem_cons_self

/-- What is called in a package is judged alike by its pass and by the table of all packages. -/
theorem Family.isMarked_eq
    {fileSet : FileSet} {done rest : List SourcePackage} {p : SourcePackage}
    (h : Family fileSet (done ++ p :: rest))
    {store : FactStore} (hstore : Represents store (done ++ [p])) (extra : List Spec)
    {file : File} (hfile : file ∈ p.files) {f : Func} (hcalls : Calls resolve file f) :
    (Predicate.ofSources extra (Table.build p.files) store).isMarked f =
      isMarkedIn (done ++ p :: rest) extra f := by
  have hall : (Table.build ((done ++ p :: rest).flatMap (·.files))).Marks f Name.mustUse ↔
      ∃ q ∈ done ++ [p], q.Marks f := by
    rw [marks_build_flatMap, h.exists_marks_iff hfile hcalls]
  have hpass : (p.Marks f ∨ store.Marks f.origin Name.mustUse) ↔
      ∃ q ∈ done ++ [p], q.Marks f := by
    rw [hstore f.origin (Func.origin_origin f)]
    apply or_iff_right_of_imp
    intro hmarks
    exact ⟨p, List.mem_append_right _ (List.mem_singleton_self p), hmarks⟩
  rw [Bool.eq_iff_iff]
  unfold isMarkedIn
  rw [Predicate.isMarked_iff, Predicate.isMarked_iff]
  apply or_congr _ Iff.rfl
  simp only [Predicate.ofSources, List.mem_cons, List.not_mem_nil, or_false,
    exists_eq_or_imp, exists_eq_left]
  exact hpass.trans hall.symm

/-- A diagnostic without the name of the function. -/
def unnamed (d : Diagnostic) : Diagnostic :=
  { d with func := "" }

theorem toDiagnostic_ofDiagnostic
    {fileSet : FileSet} {isMarked : Func → Bool} {p : SourcePackage} {d : Diagnostic}
    (hd : d ∈ report fileSet isMarked p) :
    (Pass.ofDiagnostic d).toDiagnostic fileSet = unnamed d := by
  obtain ⟨place, func, rfl⟩ := Detector.exists_ofCall_of_mem_scan hd
  rfl

theorem report_congr
    {fileSet : FileSet} {isMarked isMarked' : Func → Bool} {p : SourcePackage}
    (hsame : ∀ file ∈ p.files, ∀ f, Calls resolve file f → isMarked f = isMarked' f) :
    report fileSet isMarked p = report fileSet isMarked' p := by
  unfold report
  apply Detector.scan_congr
  · rfl
  · exact hsame

/-- The functions that the pass over a package takes for marked. -/
def passPredicate (store : FactStore) (funcs : String) (p : SourcePackage) : Predicate :=
  Predicate.ofSources (Spec.parseList funcs) (Table.build p.files)
    (store.putAll ((Table.build p.files).exports p.package))

/-- The result of the pass over a package. -/
def passResult (fileSet : FileSet) (store : FactStore) (funcs : String) (p : SourcePackage) :
    PassResult :=
  { findings :=
      Pass.issueFindings fileSet (Pass.generatedNames fileSet p.files) (Table.build p.files) ++
        (report fileSet (passPredicate store funcs p).isMarked p).map Pass.ofDiagnostic
    facts := (Table.build p.files).exports p.package }

theorem runAll_toUnit_cons
    (fileSet : FileSet) (store : FactStore) (funcs : String) (p : SourcePackage)
    (rest : List SourcePackage) :
    (Pass.runAll fileSet store ((p :: rest).map (·.toUnit funcs))).1 =
      .ok (passResult fileSet store funcs p) ::
        (Pass.runAll fileSet (store.putAll ((Table.build p.files).exports p.package))
          (rest.map (·.toUnit funcs))).1 := by
  rfl

/-- One step: the discarded results of a pass, then those of the others. -/
theorem discardedResults_cons
    (fileSet : FileSet) (store : FactStore) (funcs : String) (p : SourcePackage)
    (results : List PassResult) :
    discardedResults fileSet (passResult fileSet store funcs p :: results) =
      (report fileSet (passPredicate store funcs p).isMarked p).map unnamed ++
        discardedResults fileSet results := by
  have hissues : ∀ skip table, (Pass.issueFindings fileSet skip table).filter
      (·.category = .discarded) = [] := by
    intro skip table
    rw [List.filter_eq_nil_iff]
    intro x hx
    obtain ⟨i, _, rfl⟩ := List.mem_map.mp hx
    simp [Pass.ofIssue]
  have hdiagnostics : ∀ ds : List Diagnostic,
      (ds.map Pass.ofDiagnostic).filter (·.category = .discarded) =
        ds.map Pass.ofDiagnostic := by
    intro ds
    rw [List.filter_eq_self]
    intro x hx
    obtain ⟨d, _, rfl⟩ := List.mem_map.mp hx
    simp [Pass.ofDiagnostic]
  unfold discardedResults
  rw [List.flatMap_cons]
  congr 1
  unfold passResult
  rw [List.filter_append, hissues, hdiagnostics, List.nil_append, List.map_map]
  apply List.map_congr_left
  intro d hd
  exact toDiagnostic_ofDiagnostic hd

/-- A run of passes, after those over the packages in `done`: none fails, and their discarded
results are those of scans with the table of all packages. A pass sees the facts of `done` and its
own. -/
theorem Family.exists_results
    {fileSet : FileSet} {done rest : List SourcePackage} (h : Family fileSet (done ++ rest))
    {store : FactStore} (hstore : Represents store done) (funcs : String) :
    ∃ results : List PassResult,
      (Pass.runAll fileSet store (rest.map (·.toUnit funcs))).1 = results.map Except.ok ∧
      discardedResults fileSet results =
        (rest.flatMap (report fileSet
          (isMarkedIn (done ++ rest) (Spec.parseList funcs)))).map unnamed := by
  induction rest generalizing done store with
  | nil => exact ⟨[], rfl, rfl⟩
  | cons p rest ih =>
      have hp : p ∈ done ++ p :: rest := List.mem_append_right _ List.mem_cons_self
      have hstep := hstore.putAll h hp
      have hassoc : done ++ [p] ++ rest = done ++ p :: rest := by
        simp
      obtain ⟨results, hruns, hresults⟩ := ih (by rw [hassoc]; exact h) hstep
      rw [hassoc] at hresults
      have hreport : report fileSet (passPredicate store funcs p).isMarked p =
          report fileSet (isMarkedIn (done ++ p :: rest) (Spec.parseList funcs)) p := by
        apply report_congr
        intro file hfile f hcalls
        exact h.isMarked_eq hstep (Spec.parseList funcs) hfile hcalls
      refine ⟨passResult fileSet store funcs p :: results, ?_, ?_⟩
      · rw [runAll_toUnit_cons, hruns, List.map_cons]
      · rw [discardedResults_cons, hreport, hresults, List.flatMap_cons, List.map_append]

/-- A package of a family reports on all of its files but the generated ones. -/
theorem Family.skipNames_eq
    {fileSet : FileSet} {ps : List SourcePackage} (h : Family fileSet ps)
    {i : Nat} {p : SourcePackage} (hp : ps[i]? = some p) :
    skipNames fileSet (owners fileSet (ps.map (·.toLoaded))) i p.files =
      Pass.generatedNames fileSet p.files := by
  apply skipNames_eq_generatedNames (p := p.toLoaded)
  · rw [List.getElem?_map, hp]
    rfl
  · rfl
  · intro file hfile j q hq hholds
    rw [List.getElem?_map, Option.map_eq_some_iff] at hq
    obtain ⟨q, hq, rfl⟩ := hq
    obtain ⟨_, file', hfile', hname⟩ := (LoadedPackage.holds_eq_true_iff _ _ _).mp hholds
    exact h.named j i q p hq hp file' hfile' file hfile hname

/-- The diagnostics of all packages together are those of scans with the table of all packages. -/
theorem Family.run_batchOf
    {fileSet : FileSet} {ps : List SourcePackage} (h : Family fileSet ps) (extra : List Spec) :
    (batchOf fileSet ps).run extra =
      .ok (Diagnostic.sort (ps.flatMap (report fileSet (isMarkedIn ps extra)))) := by
  have herrors : (batchOf fileSet ps).listErrors = [] := by
    unfold Batch.listErrors
    rw [List.flatMap_eq_nil_iff]
    intro q hq
    obtain ⟨p, _, rfl⟩ := List.mem_map.mp hq
    rfl
  have hresults : ((batchOf fileSet ps).results extra).flatMap (·.getD []) =
      ps.flatMap (report fileSet (isMarkedIn ps extra)) := by
    unfold Batch.results batchOf
    rw [List.zipIdx_map, List.map_map, List.flatMap_map,
      ← flatMap_fst_zipIdx ps (report fileSet (isMarkedIn ps extra))]
    apply List.flatMap_congr
    rintro ⟨p, i⟩ hp
    have hskip := h.skipNames_eq (List.mem_zipIdx_iff_getElem?.mp hp)
    unfold report
    rw [← hskip]
    rfl
  unfold Batch.run
  rw [herrors, hresults]

/-- The two hosts agree. For packages in an order of analysis, no pass fails and no package is in
the way of the analysis of all together, and the discarded results that the passes report, sorted,
have the positions and messages of the diagnostics of all packages together, in the same order. -/
theorem runAll_agrees_with_batch
    {fileSet : FileSet} {ps : List SourcePackage} (h : Family fileSet ps) (funcs : String) :
    ∃ (results : List PassResult) (diagnostics : List Diagnostic),
      (Pass.runAll fileSet FactStore.empty (ps.map (·.toUnit funcs))).1 =
        results.map Except.ok ∧
      (batchOf fileSet ps).run (Spec.parseList funcs) = .ok diagnostics ∧
      (Diagnostic.sort (discardedResults fileSet results)).map
          (fun d => (d.position, d.message)) =
        diagnostics.map fun d => (d.position, d.message) := by
  have hnone : Family fileSet ([] ++ ps) := h
  obtain ⟨results, hruns, hresults⟩ := hnone.exists_results represents_empty funcs
  refine ⟨results, _, hruns, h.run_batchOf (Spec.parseList funcs), ?_⟩
  have hsort : ∀ ds : List Diagnostic,
      Diagnostic.sort (ds.map unnamed) = (Diagnostic.sort ds).map unnamed := by
    intro ds
    unfold Diagnostic.sort
    rw [List.map_mergeSort]
    intro a _ b _
    rfl
  rw [hresults, hsort, List.map_map]
  rfl

/-- A function with a result, declared in the package `lib`. -/
def markedFunc : Func :=
  .declared
    { id := 0, name := "F", package := some { id := 0, path := "lib" }
      signature := some { receiver := none, results := 1 }, place := some ⟨0, 40⟩ }

/-- A package that marks a function, and one that calls it and discards the result. -/
def markerAndCaller : List SourcePackage :=
  [{ id := "lib"
     package := { id := 0, path := "lib" }
     files :=
      [{ id := 0
         packageStart := 0
         comments := [[⟨20, "//retval:mustuse"⟩]]
         decls :=
          [.mk .funcDecl .decls { doc := some 0 }
            [.mk .ident .name { start := some 40, defines := some (.func markedFunc) } []]] }] },
    { id := "app"
      package := { id := 1, path := "app" }
      files :=
      [{ id := 1
         packageStart := 0
         comments := []
         decls :=
          [.mk .funcDecl .decls {}
            [.mk .blockStmt .body {}
              [.mk .exprStmt .list {}
                [.mk .call .x {}
                  [.mk .selector .fn {}
                    [.mk .ident .x { start := some 30 } [],
                      .mk .ident .sel { use := some (.func markedFunc) } []]]]]]] }] }]

/-- The names and lines of their files. -/
def markerAndCallerFiles : FileSet :=
  [{ name := "lib.go", starts := [0, 20, 35], directives := [] },
    { name := "app.go", starts := [0, 25], directives := [] }]

/-- The hosts agree on these packages: the marker reaches the other package. -/
theorem runAll_agrees_with_batch_markerAndCaller :
    Family markerAndCallerFiles markerAndCaller ∧
    ∃ (results : List PassResult) (diagnostics : List Diagnostic),
      (Pass.runAll markerAndCallerFiles FactStore.empty
        (markerAndCaller.map (·.toUnit ""))).1 = results.map Except.ok ∧
      (batchOf markerAndCallerFiles markerAndCaller).run (Spec.parseList "") =
        .ok diagnostics ∧
      (Diagnostic.sort (discardedResults markerAndCallerFiles results)).map
          (fun d => (d.position, d.message)) =
        diagnostics.map fun d => (d.position, d.message) := by
  have h : Family markerAndCallerFiles markerAndCaller := by decide
  exact ⟨h, runAll_agrees_with_batch h ""⟩

example :
    ((batchOf markerAndCallerFiles markerAndCaller).results []).map
        (fun result => result.map fun ds => ds.map fun d => (d.position, d.func)) =
      [some [], some [(⟨"app.go", 30, 2, 6⟩, "F")]] := by
  decide

end Host
end MustUse
