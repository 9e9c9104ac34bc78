import MustUse.Proofs.Host.Coverage
import MustUse.Proofs.Marker.Facts
import MustUse.Proofs.Report.Stability

/-!
# The order of loaded packages

When many packages are analysed at once, the list of packages is used three times: it fills the
table of markers, it settles who owns a file, and it gives the order in which diagnostics are
collected before they are sorted. If no two packages show a file name in common, none of this is seen in the
result. The markers of a function do not depend on the order of files, every package owns all its
files, and diagnostics with the same position come from one package, which lists them in one order.

Main definitions:

- `LoadedPackage.Shows`: a name stands at a package clause or at a call of a package;
- `LoadedPackage.Apart`: two packages show no name in common;
- `ownReport`: the diagnostics of a package that shares no names.

Main statements:

- `Batch.run_of_apart`: packages that are apart report as if each were alone;
- `sort_flatMap_ownReport`: the order of their reports is lost when they are sorted;
- `run_independent_of_package_order`.
-/

namespace MustUse
namespace Host

open Syntax Marker Scan Report

namespace LoadedPackage

/-- The name stands in the position of a package clause or of a call in a file of the package. -/
def Shows (fileSet : FileSet) (p : LoadedPackage) (name : String) : Prop :=
  ∃ file ∈ p.files, file.name fileSet = name ∨
    ∃ path call, file.root.at? path = some call ∧ call.kind = .call ∧
      (fileSet.position (file.placeOf call)).file = name

/-- No name is shown by both packages. -/
def Apart (fileSet : FileSet) (p q : LoadedPackage) : Prop :=
  ∀ name, p.Shows fileSet name → ¬ q.Shows fileSet name

theorem Apart.symm
    {fileSet : FileSet} {p q : LoadedPackage} (h : p.Apart fileSet q) :
    q.Apart fileSet p := by
  intro name hq hp
  exact h name hp hq

def shownNames (fileSet : FileSet) (p : LoadedPackage) : List String :=
  p.files.flatMap fun file =>
    file.name fileSet ::
      ((file.root.descendants.filter (·.kind = .call)).map fun call =>
        (fileSet.position (file.placeOf call)).file)

theorem mem_shownNames
    (fileSet : FileSet) (p : LoadedPackage) (name : String) :
    name ∈ p.shownNames fileSet ↔ p.Shows fileSet name := by
  simp only [shownNames, Shows, List.mem_flatMap, List.mem_cons, List.mem_map, List.mem_filter,
    decide_eq_true_eq, Node.mem_descendants]
  apply exists_congr
  intro file
  apply and_congr_right
  intro _
  constructor
  · rintro (rfl | ⟨call, ⟨⟨path, hpath⟩, hkind⟩, hname⟩)
    · exact Or.inl rfl
    · exact Or.inr ⟨path, call, hpath, hkind, hname⟩
  · rintro (rfl | ⟨path, call, hpath, hkind, hname⟩)
    · exact Or.inl rfl
    · exact Or.inr ⟨call, ⟨⟨path, hpath⟩, hkind⟩, hname⟩

theorem apart_iff
    (fileSet : FileSet) (p q : LoadedPackage) :
    p.Apart fileSet q ↔ ∀ name ∈ p.shownNames fileSet, name ∉ q.shownNames fileSet := by
  simp only [Apart, mem_shownNames]

instance (fileSet : FileSet) (p q : LoadedPackage) : Decidable (p.Apart fileSet q) :=
  decidable_of_iff _ (apart_iff fileSet p q).symm

/-- In a list of packages that are apart, one that shows a name is the only one to do so. -/
theorem index_eq_of_shows
    {fileSet : FileSet} {packages : List LoadedPackage}
    (hapart : packages.Pairwise (Apart fileSet))
    {i j : Nat} {p q : LoadedPackage} (hp : packages[i]? = some p) (hq : packages[j]? = some q)
    {name : String} (hshows : p.Shows fileSet name) (hshows' : q.Shows fileSet name) :
    j = i := by
  obtain ⟨hi, rfl⟩ := List.getElem?_eq_some_iff.mp hp
  obtain ⟨hj, rfl⟩ := List.getElem?_eq_some_iff.mp hq
  rw [List.pairwise_iff_getElem] at hapart
  rcases Nat.lt_trichotomy i j with hlt | heq | hgt
  · exact absurd hshows' (hapart i j hi hj hlt name hshows)
  · exact heq.symm
  · exact absurd hshows (hapart j i hj hi hgt name hshows')

end LoadedPackage

/-- A diagnostic of a scan stands at a call of one of the files. -/
theorem shows_of_mem_scan
    {d : Detector} {fileSet : FileSet} {skip : List String} {p : LoadedPackage} {x : Diagnostic}
    (hx : x ∈ d.scan fileSet skip p.files) :
    p.Shows fileSet x.position.file := by
  rw [Detector.scan_eq_map_calls] at hx
  obtain ⟨c, hc, rfl⟩ := List.mem_map.mp hx
  have hdiscarded := (Detector.mem_calls _ _ _ _ c).mp hc
  have hfile : c.file ∈ p.files := List.mem_of_getElem? hdiscarded.file_eq
  exact ⟨c.file, hfile, Or.inr ⟨c.path, c.call, hdiscarded.call_eq, hdiscarded.is_call, rfl⟩⟩

/-- Blocks of which at most one is not empty may be joined in any order. -/
theorem flatMap_eq_of_perm
    {α β : Type} {l l' : List α} (hperm : l.Perm l') (block : α → List β)
    (halone : l.Pairwise fun a b => block a = [] ∨ block b = []) :
    l.flatMap block = l'.flatMap block := by
  induction hperm with
  | nil => rfl
  | cons a _ ih =>
      rw [List.pairwise_cons] at halone
      rw [List.flatMap_cons, List.flatMap_cons, ih halone.2]
  | swap a b l =>
      rw [List.pairwise_cons] at halone
      rcases halone.1 a List.mem_cons_self with hempty | hempty
      · simp [hempty]
      · simp [hempty]
  | trans hperm _ ih ih' =>
      have halone' := hperm.pairwise halone fun h => h.symm
      rw [ih halone, ih' halone']

/-- The diagnostics of a package that owns all its files; nothing for a package with errors. -/
def ownReport (d : Detector) (fileSet : FileSet) (p : LoadedPackage) : List Diagnostic :=
  if p.isSound then d.scan fileSet (Pass.generatedNames fileSet p.files) p.files else []

section Sorting

variable {d : Detector} {fileSet : FileSet}

/-- Diagnostics with one key come from packages that show one name. -/
theorem shows_of_withKey_ownReport
    {p : LoadedPackage} {k : String × Int × Int}
    (hp : Diagnostic.withKey k (ownReport d fileSet p) ≠ []) :
    p.Shows fileSet k.1 := by
  obtain ⟨x, hx⟩ := List.exists_mem_of_ne_nil _ hp
  obtain ⟨hmem, rfl⟩ := Diagnostic.mem_withKey.mp hx
  unfold ownReport at hmem
  split at hmem
  · exact shows_of_mem_scan hmem
  · simp at hmem

theorem sort_flatMap_ownReport
    {packages packages' : List LoadedPackage} (hperm : packages.Perm packages')
    (hapart : packages.Pairwise (LoadedPackage.Apart fileSet)) :
    Diagnostic.sort (packages.flatMap (ownReport d fileSet)) =
      Diagnostic.sort (packages'.flatMap (ownReport d fileSet)) := by
  apply Diagnostic.sort_eq_sort
  intro k
  have halone : packages.Pairwise fun p q =>
      Diagnostic.withKey k (ownReport d fileSet p) = [] ∨
        Diagnostic.withKey k (ownReport d fileSet q) = [] := by
    refine hapart.imp ?_
    intro p q hpq
    by_contra hboth
    rw [not_or] at hboth
    exact hpq k.1 (shows_of_withKey_ownReport hboth.1) (shows_of_withKey_ownReport hboth.2)
  have hblocks := flatMap_eq_of_perm hperm _ halone
  simpa only [Diagnostic.withKey, List.filter_flatMap] using hblocks

end Sorting

namespace Batch

/-- What is marked depends on which files are read, not on their order. -/
theorem detector_eq
    {b b' : Batch} (hsources : ∀ file, file ∈ b.sources ↔ file ∈ b'.sources) (extra : List Spec) :
    b.detector extra = b'.detector extra := by
  have hmarks : ∀ f, (Table.build b.sources).Marks f Name.mustUse ↔
      (Table.build b'.sources).Marks f Name.mustUse := by
    intro f
    simp only [Table.marks_build, hsources]
  unfold detector
  congr 1
  funext f
  rw [Bool.eq_iff_iff, Predicate.isMarked_iff, Predicate.isMarked_iff]
  simp only [List.mem_singleton, exists_eq_left]
  exact or_congr (hmarks f.origin) Iff.rfl

theorem flatMap_results_of_apart
    {b : Batch} (hapart : b.packages.Pairwise (LoadedPackage.Apart b.fileSet))
    (extra : List Spec) :
    (b.results extra).flatMap (·.getD []) =
      b.packages.flatMap (ownReport (b.detector extra) b.fileSet) := by
  unfold results
  rw [List.flatMap_map, ← flatMap_fst_zipIdx b.packages]
  apply List.flatMap_congr
  rintro ⟨p, i⟩ he
  have hp := List.mem_zipIdx_iff_getElem?.mp he
  cases hsound : p.isSound with
  | false => simp [ownReport, hsound]
  | true =>
      have hskip : skipNames b.fileSet (owners b.fileSet b.packages) i p.files =
          Pass.generatedNames b.fileSet p.files := by
        apply skipNames_eq_generatedNames hp hsound
        intro file hfile j q hq hholds
        obtain ⟨_, file', hfile', hname⟩ := (LoadedPackage.holds_eq_true_iff _ _ _).mp hholds
        exact LoadedPackage.index_eq_of_shows hapart hp hq ⟨file, hfile, Or.inl rfl⟩
          ⟨file', hfile', Or.inl hname⟩
      simp only [hsound, if_true, Option.getD_some, ownReport]
      rw [← hskip]
      rfl

/-- Packages that are apart report as if each were alone. -/
theorem run_of_apart
    {b : Batch} (hapart : b.packages.Pairwise (LoadedPackage.Apart b.fileSet))
    (hlist : ∀ p ∈ b.packages, ∀ e ∈ p.errors, e.stage ≠ .listing) (extra : List Spec) :
    b.run extra =
      .ok (Diagnostic.sort (b.packages.flatMap (ownReport (b.detector extra) b.fileSet))) := by
  have herrors : b.listErrors = [] := by
    simpa [listErrors] using hlist
  unfold run
  rw [herrors, flatMap_results_of_apart hapart]

end Batch

/-- The order of packages does not matter. For packages that were listed without errors and of
which no two show a file name in common, every order of the packages gives the same list of
diagnostics, also where positions are equal, and so does every order of the files that markers are
read from. -/
theorem run_independent_of_package_order
    (fileSet : FileSet) {packages packages' : List LoadedPackage} {sources sources' : List File}
    (hperm : packages.Perm packages')
    (hsources : ∀ file, file ∈ sources ↔ file ∈ sources')
    (hapart : packages.Pairwise (LoadedPackage.Apart fileSet))
    (hlist : ∀ p ∈ packages, ∀ e ∈ p.errors, e.stage ≠ .listing)
    (extra : List Spec) :
    ∃ ds, Batch.run ⟨fileSet, packages, sources⟩ extra = .ok ds ∧
      Batch.run ⟨fileSet, packages', sources'⟩ extra = .ok ds := by
  have hapart' : packages'.Pairwise (LoadedPackage.Apart fileSet) :=
    hperm.pairwise hapart LoadedPackage.Apart.symm
  have hlist' : ∀ p ∈ packages', ∀ e ∈ p.errors, e.stage ≠ .listing := by
    intro p hp
    exact hlist p (hperm.mem_iff.mpr hp)
  have hdetector : Batch.detector ⟨fileSet, packages, sources⟩ extra =
      Batch.detector ⟨fileSet, packages', sources'⟩ extra := Batch.detector_eq hsources extra
  have hrun := Batch.run_of_apart (b := ⟨fileSet, packages, sources⟩) hapart hlist extra
  have hrun' := Batch.run_of_apart (b := ⟨fileSet, packages', sources'⟩) hapart' hlist' extra
  rw [← hdetector, ← sort_flatMap_ownReport hperm hapart] at hrun'
  exact ⟨_, hrun, hrun'⟩

section Examples

/-- A file with two calls at one position: a line directive without a column hides their columns. -/
def tiedCallsFile (id : Nat) (first second : Func) : File :=
  { id := id
    packageStart := 0
    comments := [[⟨10, "//retval:mustuse"⟩]]
    decls :=
      [.mk .funcDecl .decls { doc := some 0 }
        [.mk .ident .name { start := some 33, defines := some (.func first) } [],
          .mk .blockStmt .body {}
            [.mk .exprStmt .list {}
              [.mk .call .x {} [.mk .ident .fn { start := some 50, use := some (.func first) } []]],
             .mk .exprStmt .list {}
              [.mk .call .x {}
                [.mk .ident .fn { start := some 55, use := some (.func second) } []]]]]] }

def tiedFunc (id : Nat) (name : String) : Func :=
  .declared
    { id := id, name := name, package := none
      signature := some { receiver := none, results := 1 }, place := none }

/-- Two packages, each of which calls what the other one marks. -/
def tiedPackages : List LoadedPackage :=
  [{ id := "lib", files := [tiedCallsFile 0 (tiedFunc 0 "F") (tiedFunc 1 "G")], errors := [] },
    { id := "app", files := [tiedCallsFile 1 (tiedFunc 1 "G") (tiedFunc 0 "F")], errors := [] }]

def tiedLines : FileSet :=
  ["lib", "app"].map fun name =>
    { name := name ++ ".go", starts := [0, 40], directives := [⟨40, name ++ ".y", 7, 0⟩] }

/-- Either order of these packages gives the same list, ties included. -/
theorem run_independent_of_package_order_tied :
    tiedPackages.Perm tiedPackages.reverse ∧
    (∀ file, file ∈ tiedPackages.flatMap (·.files) ↔
      file ∈ tiedPackages.reverse.flatMap (·.files)) ∧
    tiedPackages.Pairwise (LoadedPackage.Apart tiedLines) ∧
    (∀ p ∈ tiedPackages, ∀ e ∈ p.errors, e.stage ≠ .listing) ∧
    ∃ ds, Batch.run ⟨tiedLines, tiedPackages, tiedPackages.flatMap (·.files)⟩ [] = .ok ds ∧
      Batch.run ⟨tiedLines, tiedPackages.reverse, tiedPackages.reverse.flatMap (·.files)⟩ [] =
        .ok ds := by
  have hperm : tiedPackages.Perm tiedPackages.reverse := (List.reverse_perm _).symm
  have hsources : ∀ file, file ∈ tiedPackages.flatMap (·.files) ↔
      file ∈ tiedPackages.reverse.flatMap (·.files) := by
    intro file
    exact (hperm.flatMap_right _).mem_iff
  have hapart : tiedPackages.Pairwise (LoadedPackage.Apart tiedLines) := by
    decide
  have hlist : ∀ p ∈ tiedPackages, ∀ e ∈ p.errors, e.stage ≠ .listing := by
    decide
  exact ⟨hperm, hsources, hapart, hlist,
    run_independent_of_package_order tiedLines hperm hsources hapart hlist []⟩

example :
    (Batch.results ⟨tiedLines, tiedPackages, tiedPackages.flatMap (·.files)⟩ []).map
        (fun result => result.map fun ds => ds.map fun d => (d.key, d.func)) =
      [some [(("lib.y", 7, 0), "F"), (("lib.y", 7, 0), "G")],
        some [(("app.y", 7, 0), "G"), (("app.y", 7, 0), "F")]] := by
  decide

end Examples

end Host
end MustUse
