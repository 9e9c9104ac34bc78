import MustUse.Proofs.Host.Ownership
import MustUse.Proofs.Report.Order
import MustUse.Proofs.Scan.Discarded
import Mathlib.Data.List.Nodup

/-!
# Every file is scanned once

When many packages are analysed at once, a file may be part of several of them. Its name has one
owner: the first test variant without errors that has the file, or else the first other package
without errors that has it. The pass over the owner scans the file unless it is generated, every
other pass leaves it out, and so the diagnostics of all passes are those of the owners' scans.

Main definitions:

- `Batch.Holds`, `Batch.IsVariant`, `Batch.IsOwner`: who can claim a name, and who owns it;
- `Batch.Keeps`, `Batch.Scans`: what a pass does with a name and with a file;
- `Batch.ownScans`: the scans of the owners.

Main statements:

- `Batch.isOwner_iff`: the owner by order in the list is the one that claims made first;
- `Batch.scans_iff`: which files a pass scans;
- `scanned_once_by_owner`: what a run reports.
-/

namespace MustUse
namespace Host

open Syntax Marker Scan Report

theorem LoadedPackage.isSound_iff
    (p : LoadedPackage) :
    p.isSound = true ↔ p.errors = [] := by
  unfold isSound
  exact List.isEmpty_iff

theorem LoadedPackage.isTestVariant_iff
    (p : LoadedPackage) :
    p.isTestVariant = true ↔ ∃ base, p.id = base ++ ".test]" := by
  unfold isTestVariant
  rw [List.isSuffixOf_iff_suffix]
  constructor
  · rintro ⟨front, hfront⟩
    refine ⟨String.ofList front, String.toList_injective ?_⟩
    rw [String.toList_append, String.toList_ofList]
    exact hfront.symm
  · rintro ⟨base, hbase⟩
    refine ⟨base.toList, ?_⟩
    rw [hbase, String.toList_append]

namespace Batch

/-- Package number `i` has no errors, and one of its files has this name. -/
def Holds (b : Batch) (name : String) (i : Nat) : Prop :=
  ∃ p, b.packages[i]? = some p ∧ p.errors = [] ∧ ∃ file ∈ p.files, file.name b.fileSet = name

/-- Package number `i` is a test variant: its identifier says so at its end. -/
def IsVariant (b : Batch) (i : Nat) : Prop :=
  ∃ p, b.packages[i]? = some p ∧ ∃ base, p.id = base ++ ".test]"

/-- Package number `i` owns a name: it is the first test variant that holds it, or it is the first
package that holds it and no test variant does. -/
def IsOwner (b : Batch) (name : String) (i : Nat) : Prop :=
  b.Holds name i ∧
    ((b.IsVariant i ∧ ∀ j < i, b.Holds name j → ¬ b.IsVariant j) ∨
      ((∀ j, b.Holds name j → ¬ b.IsVariant j) ∧ ∀ j < i, ¬ b.Holds name j))

/-- The pass over package number `i` comes upon a name and does not leave it to another package. -/
def Keeps (b : Batch) (name : String) (i : Nat) : Prop :=
  b.Holds name i ∧ (owners b.fileSet b.packages).lookup name = some i

/-- The pass over package number `i` scans a file: the package has no errors, and the name of the
file is not to be skipped. -/
def Scans (b : Batch) (i : Nat) (file : File) : Prop :=
  ∃ p, b.packages[i]? = some p ∧ p.errors = [] ∧ file ∈ p.files ∧
    file.name b.fileSet ∉ skipNames b.fileSet (owners b.fileSet b.packages) i p.files

section Owner

variable (b : Batch) (name : String)

theorem holds_iff
    (i : Nat) :
    b.Holds name i ↔ ∃ p, b.packages[i]? = some p ∧ p.holds b.fileSet name = true := by
  unfold Holds
  simp only [LoadedPackage.holds_eq_true_iff, LoadedPackage.isSound_iff]

theorem isVariant_iff
    (i : Nat) :
    b.IsVariant i ↔ ∃ p, b.packages[i]? = some p ∧ p.isTestVariant = true := by
  unfold IsVariant
  simp only [LoadedPackage.isTestVariant_iff]

/-- The owner of a name as two searches through the list of packages. -/
theorem lookup_owners_eq_or :
    (owners b.fileSet b.packages).lookup name =
      (b.packages.findIdx? fun p => p.isTestVariant && p.holds b.fileSet name).or
        (b.packages.findIdx? fun p => !p.isTestVariant && p.holds b.fileSet name) := by
  rw [lookup_owners, List.find?_append, List.find?_filter, List.find?_filter, Option.map_or,
    List.findIdx?_eq_fst_find?_zipIdx, List.findIdx?_eq_fst_find?_zipIdx]
  simp only [Bool.decide_and, Bool.decide_eq_true]

theorem isVariant_of_getElem?
    {j : Nat} {p : LoadedPackage} (hp : b.packages[j]? = some p) :
    b.IsVariant j ↔ p.isTestVariant = true := by
  rw [isVariant_iff, hp]
  simp

section Search

variable {sort : LoadedPackage → Bool} {S : Nat → Prop}
variable (hsort : ∀ {j p}, b.packages[j]? = some p → (S j ↔ sort p = true))
include hsort

/-- A search finds the first package of its sort, a variant or not, that holds the name. -/
theorem findIdx?_eq_some_iff
    (i : Nat) :
    b.packages.findIdx? (fun p => sort p && p.holds b.fileSet name) = some i ↔
      b.Holds name i ∧ S i ∧ ∀ j < i, b.Holds name j → ¬ S j := by
  simp only [List.findIdx?_eq_some_iff_getElem, holds_iff, Bool.and_eq_true]
  constructor
  · rintro ⟨hi, ⟨hs, hholds⟩, hfirst⟩
    have hp := List.getElem?_eq_getElem hi
    refine ⟨⟨_, hp, hholds⟩, (hsort hp).mpr hs, ?_⟩
    rintro j hj ⟨q, hq, hholds'⟩ hs'
    have hs'' := (hsort hq).mp hs'
    obtain ⟨_, rfl⟩ := List.getElem?_eq_some_iff.mp hq
    exact hfirst j hj ⟨hs'', hholds'⟩
  · rintro ⟨⟨p, hp, hholds⟩, hs, hfirst⟩
    have hs' := (hsort hp).mp hs
    obtain ⟨hi, rfl⟩ := List.getElem?_eq_some_iff.mp hp
    refine ⟨hi, ⟨hs', hholds⟩, ?_⟩
    rintro j hj ⟨hs'', hholds'⟩
    have hq := List.getElem?_eq_getElem (Nat.lt_trans hj hi)
    exact hfirst j hj ⟨_, hq, hholds'⟩ ((hsort hq).mpr hs'')

theorem findIdx?_eq_none_iff :
    b.packages.findIdx? (fun p => sort p && p.holds b.fileSet name) = none ↔
      ∀ j, b.Holds name j → ¬ S j := by
  simp only [List.findIdx?_eq_none_iff, holds_iff, ← Bool.not_eq_true, Bool.and_eq_true]
  constructor
  · rintro hnone j ⟨p, hp, hholds⟩ hs
    exact hnone p (List.mem_of_getElem? hp) ⟨(hsort hp).mp hs, hholds⟩
  · rintro hno p hp ⟨hs, hholds⟩
    obtain ⟨j, hj⟩ := List.mem_iff_getElem?.mp hp
    exact hno j ⟨p, hj, hholds⟩ ((hsort hj).mpr hs)

end Search

/-- The owner by the order of the list is the package whose claim came first. -/
theorem isOwner_iff
    (i : Nat) :
    b.IsOwner name i ↔ (owners b.fileSet b.packages).lookup name = some i := by
  have hother : ∀ {j p}, b.packages[j]? = some p →
      (¬ b.IsVariant j ↔ (!p.isTestVariant) = true) := by
    intro j p hp
    rw [isVariant_of_getElem? b hp, Bool.not_eq_true', Bool.not_eq_true]
  rw [lookup_owners_eq_or, Option.or_eq_some_iff,
    findIdx?_eq_some_iff b name (isVariant_of_getElem? b),
    findIdx?_eq_none_iff b name (isVariant_of_getElem? b), findIdx?_eq_some_iff b name hother]
  unfold IsOwner
  constructor
  · rintro ⟨hholds, ⟨hvariant, hfirst⟩ | ⟨hno, hfirst⟩⟩
    · exact Or.inl ⟨hholds, hvariant, hfirst⟩
    · exact Or.inr ⟨hno, hholds, hno i hholds, fun j hj h => absurd h (hfirst j hj)⟩
  · rintro (⟨hholds, hvariant, hfirst⟩ | ⟨hno, hholds, _, hfirst⟩)
    · exact ⟨hholds, Or.inl ⟨hvariant, hfirst⟩⟩
    · exact ⟨hholds, Or.inr ⟨hno, fun j hj h => hfirst j hj h (hno j h)⟩⟩

instance (i : Nat) : Decidable (b.IsOwner name i) :=
  decidable_of_iff _ (isOwner_iff b name i).symm

/-- A name that some package holds has an owner. -/
theorem exists_isOwner
    {i : Nat} (h : b.Holds name i) :
    ∃ j, b.IsOwner name j := by
  simp only [isOwner_iff]
  rw [← Option.isSome_iff_exists, lookup_owners_eq_or, Option.isSome_or, Bool.or_eq_true,
    List.findIdx?_isSome, List.findIdx?_isSome, List.any_eq_true, List.any_eq_true]
  obtain ⟨p, hp, hholds⟩ := (holds_iff b name i).mp h
  have hmem := List.mem_of_getElem? hp
  cases hvariant : p.isTestVariant with
  | true => exact Or.inl ⟨p, hmem, by simp [hvariant, hholds]⟩
  | false => exact Or.inr ⟨p, hmem, by simp [hvariant, hholds]⟩

theorem keeps_iff
    (i : Nat) :
    b.Keeps name i ↔ b.IsOwner name i := by
  unfold Keeps
  rw [← isOwner_iff]
  constructor
  · exact And.right
  · intro h
    exact ⟨h.1, h⟩

theorem IsOwner.unique
    {b : Batch} {name : String} {i j : Nat} (hi : b.IsOwner name i) (hj : b.IsOwner name j) :
    j = i := by
  rw [isOwner_iff] at hi hj
  exact Option.some.inj (hj.symm.trans hi)

end Owner

section Scanning

variable {b : Batch} (hnames : ∀ p ∈ b.packages, (p.files.map (·.name b.fileSet)).Nodup)
include hnames

/-- In a package with different file names, a name is skipped on account of its own file. -/
theorem not_mem_skipNames_iff
    {p : LoadedPackage} {i : Nat} (hp : b.packages[i]? = some p) {file : File}
    (hfile : file ∈ p.files) :
    file.name b.fileSet ∉ skipNames b.fileSet (owners b.fileSet b.packages) i p.files ↔
      b.IsOwner (file.name b.fileSet) i ∧ file.isGenerated = false := by
  have hmem : file.name b.fileSet ∈
      skipNames b.fileSet (owners b.fileSet b.packages) i p.files ↔
        ¬ b.IsOwner (file.name b.fileSet) i ∨ file.isGenerated = true := by
    unfold skipNames
    simp only [List.mem_map, List.mem_filter, Bool.or_eq_true, decide_eq_true_eq]
    rw [isOwner_iff]
    constructor
    · rintro ⟨file', ⟨hfile', hskip⟩, hname⟩
      have heq : file' = file :=
        List.inj_on_of_nodup_map (hnames p (List.mem_of_getElem? hp)) hfile' hfile hname
      rw [heq] at hskip
      exact hskip
    · intro hskip
      exact ⟨file, ⟨hfile, hskip⟩, rfl⟩
  rw [hmem, not_or, not_not, Bool.not_eq_true]

/-- A pass scans the files that its package owns, without the generated ones. -/
theorem scans_iff
    (i : Nat) (file : File) :
    b.Scans i file ↔
      b.IsOwner (file.name b.fileSet) i ∧ file.isGenerated = false ∧
        ∃ p, b.packages[i]? = some p ∧ file ∈ p.files := by
  constructor
  · rintro ⟨p, hp, _, hfile, hskip⟩
    obtain ⟨howner, hgenerated⟩ := (not_mem_skipNames_iff hnames hp hfile).mp hskip
    exact ⟨howner, hgenerated, p, hp, hfile⟩
  · rintro ⟨howner, hgenerated, p, hp, hfile⟩
    obtain ⟨⟨q, hq, herrors, _⟩, _⟩ := id howner
    rw [hp] at hq
    cases hq
    exact ⟨p, hp, herrors, hfile, (not_mem_skipNames_iff hnames hp hfile).mpr ⟨howner, hgenerated⟩⟩

end Scanning

/-- How calls are judged in all passes: by the table of all sources and by configuration. -/
def detector (b : Batch) (extra : List Spec) : Detector :=
  { resolver := resolve
    isMarked := Predicate.isMarked
      { extra := extra, sources := [(Table.build b.sources).markers] } }

/-- The files that package number `i` owns, without the generated ones. -/
def ownFiles (b : Batch) (e : LoadedPackage × Nat) : List File :=
  e.1.files.filter fun file =>
    decide (b.IsOwner (file.name b.fileSet) e.2) && !file.isGenerated

/-- The scans of all packages over the files that they own, one after the other. -/
def ownScans (b : Batch) (extra : List Spec) : List Diagnostic :=
  b.packages.zipIdx.flatMap fun e => (b.detector extra).scan b.fileSet [] (b.ownFiles e)

theorem mem_ownFiles
    {b : Batch} {e : LoadedPackage × Nat} {file : File} :
    file ∈ b.ownFiles e ↔
      file ∈ e.1.files ∧ b.IsOwner (file.name b.fileSet) e.2 ∧ file.isGenerated = false := by
  unfold ownFiles
  simp only [List.mem_filter, Bool.and_eq_true, decide_eq_true_eq, Bool.not_eq_true']

/-- A package with errors owns nothing. -/
theorem ownFiles_eq_nil
    {b : Batch} {p : LoadedPackage} {i : Nat} (hp : b.packages[i]? = some p)
    (herrors : ¬ p.errors = []) :
    b.ownFiles (p, i) = [] := by
  rw [List.eq_nil_iff_forall_not_mem]
  intro file hfile
  obtain ⟨_, ⟨⟨q, hq, hnone, _⟩, _⟩, _⟩ := mem_ownFiles.mp hfile
  rw [hp] at hq
  cases hq
  exact herrors hnone

/-- One pass: it reports what a scan of its own files finds. -/
theorem scanPackage_eq
    {b : Batch} (hnames : ∀ p ∈ b.packages, (p.files.map (·.name b.fileSet)).Nodup)
    (extra : List Spec) {p : LoadedPackage} {i : Nat} (hp : b.packages[i]? = some p) :
    scanPackage b.fileSet (b.detector extra).isMarked (owners b.fileSet b.packages) p i =
      (b.detector extra).scan b.fileSet [] (b.ownFiles (p, i)) := by
  have hfiles : p.files.filter (fun file => !(skipNames b.fileSet
      (owners b.fileSet b.packages) i p.files).contains (file.name b.fileSet)) =
        b.ownFiles (p, i) := by
    unfold ownFiles
    apply List.filter_congr
    intro file hfile
    have h := not_mem_skipNames_iff hnames hp hfile
    rw [Bool.eq_iff_iff]
    simpa using h
  unfold scanPackage
  rw [Detector.scan_eq_scan_filter, hfiles]
  rfl

/-- All passes: their diagnostics are those of the owners' scans. -/
theorem flatMap_results
    {b : Batch} (hnames : ∀ p ∈ b.packages, (p.files.map (·.name b.fileSet)).Nodup)
    (extra : List Spec) :
    (b.results extra).flatMap (·.getD []) = b.ownScans extra := by
  unfold results ownScans
  rw [List.flatMap_map]
  apply List.flatMap_congr
  rintro ⟨p, i⟩ he
  have hp := List.mem_zipIdx_iff_getElem?.mp he
  by_cases herrors : p.errors = []
  · have hsound := p.isSound_iff.mpr herrors
    simp only [hsound, if_true, Option.getD_some]
    exact scanPackage_eq hnames extra hp
  · have hsound : ¬ p.isSound = true := by
      rw [LoadedPackage.isSound_iff]
      exact herrors
    simp only [ownFiles_eq_nil hp herrors, hsound, if_false, Option.getD_none, Bool.false_eq_true]
    rfl

theorem exists_of_mem_ownScans
    {b : Batch} {extra : List Spec} {d : Diagnostic} (hd : d ∈ b.ownScans extra) :
    ∃ i p file, b.packages[i]? = some p ∧ p.errors = [] ∧ file ∈ p.files ∧
      b.IsOwner (file.name b.fileSet) i ∧ file.isGenerated = false ∧
        d ∈ (b.detector extra).scanFile b.fileSet [] file := by
  unfold ownScans at hd
  obtain ⟨⟨p, i⟩, he, hd⟩ := List.mem_flatMap.mp hd
  obtain ⟨file, hfile, hd⟩ := List.mem_flatMap.mp hd
  have hp := List.mem_zipIdx_iff_getElem?.mp he
  obtain ⟨hmem, howner, hgenerated⟩ := mem_ownFiles.mp hfile
  obtain ⟨⟨q, hq, herrors, _⟩, _⟩ := id howner
  rw [hp] at hq
  cases hq
  exact ⟨i, p, file, hp, herrors, hmem, howner, hgenerated, hd⟩

end Batch

/-- Files are scanned once. For packages that were listed without errors, each with different file
names: a name that no package without errors has is scanned by no pass; any other name has an
owner, and the pass over the owner is the only one that does not leave it to another. A pass scans
the files that its package owns, without the generated ones. A run gives the diagnostics of these
scans and no others, in order, each as often as it was found, and each from a package without
errors. -/
theorem scanned_once_by_owner
    {b : Batch} (hnames : ∀ p ∈ b.packages, (p.files.map (·.name b.fileSet)).Nodup)
    (hlist : b.listErrors = []) (extra : List Spec) :
    (∀ name, (∀ i, ¬ b.Holds name i) → ∀ i file, b.Scans i file → file.name b.fileSet ≠ name) ∧
    (∀ name, (∃ i, b.Holds name i) → ∃ i, b.IsOwner name i ∧ ∀ j, b.Keeps name j ↔ j = i) ∧
    (∀ i file, b.Scans i file ↔
      b.IsOwner (file.name b.fileSet) i ∧ file.isGenerated = false ∧
        ∃ p, b.packages[i]? = some p ∧ file ∈ p.files) ∧
    ∃ ds, b.run extra = .ok ds ∧ ds.Perm (b.ownScans extra) ∧ ds.Pairwise Diagnostic.InOrder ∧
      ∀ d ∈ ds, ∃ i p file, b.packages[i]? = some p ∧ p.errors = [] ∧ file ∈ p.files ∧
        b.IsOwner (file.name b.fileSet) i ∧ file.isGenerated = false ∧
          d ∈ (b.detector extra).scanFile b.fileSet [] file := by
  refine ⟨?_, ?_, Batch.scans_iff hnames, ?_⟩
  · rintro name hnone i file hscans rfl
    exact hnone i ((Batch.scans_iff hnames i file).mp hscans).1.1
  · rintro name ⟨i, hi⟩
    obtain ⟨j, hj⟩ := Batch.exists_isOwner b name hi
    refine ⟨j, hj, ?_⟩
    intro k
    rw [Batch.keeps_iff]
    constructor
    · exact hj.unique
    · rintro rfl
      exact hj
  · have hperm : (Diagnostic.sort (b.ownScans extra)).Perm (b.ownScans extra) :=
      Diagnostic.sort_perm _
    refine ⟨Diagnostic.sort (b.ownScans extra), ?_, hperm, Diagnostic.pairwise_sort _, ?_⟩
    · unfold Batch.run
      rw [hlist, Batch.flatMap_results hnames]
    · intro d hd
      exact Batch.exists_of_mem_ownScans (hperm.mem_iff.mp hd)

/-- A function whose result must be used by configuration. -/
def listedFunc : Func :=
  .declared
    { id := 0, name := "F", package := some { id := 0, path := "lib" }
      signature := some { receiver := none, results := 1 }, place := none }

/-- A file that calls it and discards the result. -/
def callingFile (id : Nat) (comments : List (List Comment)) : File :=
  { id := id
    packageStart := 50
    comments := comments
    decls :=
      [.mk .funcDecl .decls {}
        [.mk .blockStmt .body {}
          [.mk .exprStmt .list {}
            [.mk .call .x {}
              [.mk .ident .fn { start := some 70, use := some (.func listedFunc) } []]]]]] }

/-- A package, its test variant with one more file, and a broken package with a file of both. One
file is generated. -/
def variantBatch : Batch :=
  let shared := [callingFile 0 [], callingFile 1 [[⟨0, "// Code generated by hand. DO NOT EDIT."⟩]]]
  { fileSet :=
      [{ name := "a.go", starts := [0, 60], directives := [] },
        { name := "gen.go", starts := [0, 60], directives := [] },
        { name := "a_test.go", starts := [0, 60], directives := [] }]
    packages :=
      [{ id := "lib", files := shared, errors := [] },
        { id := "app", files := [callingFile 0 []], errors := [⟨"", "undefined: G", .typing⟩] },
        { id := "lib [lib.test]", files := shared ++ [callingFile 2 []], errors := [] }]
    sources := [] }

/-- The test variant reports on the file that it shares with the package, and on its own. -/
theorem scanned_once_by_owner_variantBatch :
    (∀ p ∈ variantBatch.packages, (p.files.map (·.name variantBatch.fileSet)).Nodup) ∧
    variantBatch.listErrors = [] ∧
    (∀ j, variantBatch.Keeps "a.go" j ↔ j = 2) ∧
    ∃ ds, variantBatch.run [⟨"lib", "", "F"⟩] = .ok ds ∧
      (ds.map fun d => (d.position.file, d.func)).Perm [("a.go", "F"), ("a_test.go", "F")] := by
  have hnames : ∀ p ∈ variantBatch.packages,
      (p.files.map (·.name variantBatch.fileSet)).Nodup := by
    decide
  have hlist : variantBatch.listErrors = [] := by
    decide
  have howner : variantBatch.IsOwner "a.go" 2 := by
    decide
  obtain ⟨_, hkeeps, _, ds, hrun, hperm, _⟩ :=
    scanned_once_by_owner hnames hlist [⟨"lib", "", "F"⟩]
  refine ⟨hnames, hlist, ?_, ds, hrun, ?_⟩
  · obtain ⟨i, hi, hj⟩ := hkeeps "a.go" ⟨2, howner.1⟩
    rwa [howner.unique hi] at hj
  · have hscans : (variantBatch.ownScans [⟨"lib", "", "F"⟩]).map
        (fun d => (d.position.file, d.func)) = [("a.go", "F"), ("a_test.go", "F")] := by
      decide
    rw [← hscans]
    exact hperm.map _

end Host
end MustUse
