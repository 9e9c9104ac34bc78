import MustUse.Host.Pass
import MustUse.Proofs.Marker.Accounting
import MustUse.Proofs.Scan.Discarded

/-!
# Generated files in a pass

A pass reports nothing about generated files. It goes by names: a file is left out when its name,
as resolved at its package clause, is that of a generated file, and an issue is left out when the
name shown at its own place is. Line directives can give a file the name of another one, and can
change the name in the middle of a file. So the filter is one of files exactly as far as the names
tell: the names shown at directives must be those of their files, and no generated file may have the
name of one that is not.

Main definitions:

- `Issue.LiesIn`: the file of an issue;
- `NamesTell`: the names of files tell which of them are generated;
- `Pass.detector`: how a pass judges calls.

Main statements:

- `exists_liesIn`: every issue of a table lies in one of its files;
- `findings_filtered_by_name`: what a pass reports, by names and by files;
- `filter_by_name_not_by_file`: line directives for which the two differ.
-/

namespace MustUse
namespace Marker

open Syntax

/-- An issue is about a must-use directive of the file. -/
def Issue.LiesIn (i : Issue) (file : File) : Prop :=
  ∃ c ∈ file.allComments, isMustUse c = true ∧ i.place = some (file.place c.offset)

/-- One step: the issues of one more file lie in it. -/
theorem liesIn_of_mem_found_addFile
    {t : Table} {file : File} {i : Issue} (hi : i ∈ (t.addFile file).found) :
    i ∈ t.found ∨ i.LiesIn file := by
  rw [addFile_eq_addFileInOrder] at hi
  unfold Table.addFileInOrder at hi
  simp only [found_foldl_attach, issues_readings, List.mem_append] at hi
  rcases hi with (hi | hi) | hi
  · exact Or.inl hi
  · right
    obtain ⟨⟨f, c⟩, ha, hissue⟩ := List.mem_filterMap.mp hi
    obtain ⟨hmust, hplace⟩ := place_of_issue? hissue
    exact ⟨c, ((mem_attachments file f c).mp ha).mem_allComments, hmust, hplace⟩
  · right
    obtain ⟨offset, hoffset, rfl⟩ := List.mem_map.mp hi
    have hmem : offset ∈ Table.mustUseOffsets file := (List.mem_filter.mp hoffset).1
    obtain ⟨c, hc, hmust, rfl⟩ := (mem_mustUseOffsets file offset).mp hmem
    exact ⟨c, hc, hmust, rfl⟩

/-- A run of steps: every issue is left from before or lies in one of the files. -/
theorem liesIn_of_mem_found_addFiles
    {t : Table} {files : List File} {i : Issue} (hi : i ∈ (t.addFiles files).found) :
    i ∈ t.found ∨ ∃ file ∈ files, i.LiesIn file := by
  unfold Table.addFiles at hi
  induction files generalizing t with
  | nil => exact Or.inl hi
  | cons file files ih =>
      rcases ih hi with hi | ⟨file', hfile', hlies⟩
      · rcases liesIn_of_mem_found_addFile hi with hi | hlies
        · exact Or.inl hi
        · exact Or.inr ⟨file, List.mem_cons_self, hlies⟩
      · exact Or.inr ⟨file', List.mem_cons_of_mem _ hfile', hlies⟩

/-- The issues of a table in order are those that were found. -/
theorem mem_issues_iff_mem_found
    (t : Table) (i : Issue) :
    i ∈ t.issues ↔ i ∈ t.found := by
  unfold Table.issues
  rw [List.mem_mergeSort]

theorem exists_liesIn
    {files : List File} {i : Issue} (hi : i ∈ (Table.build files).issues) :
    ∃ file ∈ files, i.LiesIn file := by
  rw [mem_issues_iff_mem_found] at hi
  rcases liesIn_of_mem_found_addFiles hi with hi | hlies
  · cases hi
  · exact hlies

end Marker

namespace Host

open Syntax Marker Scan Report

/-- The names of files tell which of them are generated: at each must-use directive the name of its
file is shown, and files of the same name are generated or not alike. -/
structure NamesTell (fileSet : FileSet) (files : List File) : Prop where
  shown : ∀ file ∈ files, ∀ c ∈ file.allComments, isMustUse c = true →
    (fileSet.position (some (file.place c.offset))).file = file.name fileSet
  alike : ∀ file ∈ files, ∀ file' ∈ files, file.name fileSet = file'.name fileSet →
    file.isGenerated = file'.isGenerated

theorem namesTell_iff
    (fileSet : FileSet) (files : List File) :
    NamesTell fileSet files ↔
      (∀ file ∈ files, ∀ c ∈ file.allComments, isMustUse c = true →
        (fileSet.position (some (file.place c.offset))).file = file.name fileSet) ∧
      ∀ file ∈ files, ∀ file' ∈ files, file.name fileSet = file'.name fileSet →
        file.isGenerated = file'.isGenerated := by
  constructor
  · intro h
    exact ⟨h.shown, h.alike⟩
  · rintro ⟨hshown, halike⟩
    exact ⟨hshown, halike⟩

instance (fileSet : FileSet) (files : List File) : Decidable (NamesTell fileSet files) :=
  decidable_of_iff _ (namesTell_iff fileSet files).symm

namespace Pass

/-- How a pass judges calls: by its own table, by the facts of earlier passes and its own, and by
configuration. -/
def detector (store : FactStore) (unit : PackageUnit) : Detector :=
  { resolver := resolve
    isMarked := Predicate.isMarked
      (Predicate.ofSources (Spec.parseList unit.funcs) (Table.build unit.files)
        (store.putAll ((Table.build unit.files).exports unit.package))) }

theorem run_eq
    (fileSet : FileSet) (store : FactStore) {unit : PackageUnit}
    (hinspected : unit.isInspected = true) :
    run fileSet store unit = .ok
      { findings :=
          issueFindings fileSet (generatedNames fileSet unit.files) (Table.build unit.files) ++
            ((detector store unit).scan fileSet (generatedNames fileSet unit.files)
              unit.files).map ofDiagnostic
        facts := (Table.build unit.files).exports unit.package } := by
  unfold run
  rw [if_pos hinspected]
  rfl

theorem mem_generatedNames
    (fileSet : FileSet) (files : List File) (name : String) :
    name ∈ generatedNames fileSet files ↔
      ∃ file ∈ files, file.isGenerated = true ∧ file.name fileSet = name := by
  unfold generatedNames
  simp only [List.mem_map, List.mem_filter, and_assoc]

theorem not_mem_generatedNames
    (fileSet : FileSet) (files : List File) (name : String) :
    name ∉ generatedNames fileSet files ↔
      ∀ file ∈ files, file.isGenerated = true → file.name fileSet ≠ name := by
  rw [mem_generatedNames]
  simp only [not_exists, not_and, ne_eq]

/-- The issues that a pass reports. -/
def reportedIssues (fileSet : FileSet) (files : List File) : List Issue :=
  (Table.build files).issues.filter fun i =>
    !(generatedNames fileSet files).contains (fileSet.position i.place).file

/-- The calls that a pass reports. -/
def reportedCalls (fileSet : FileSet) (store : FactStore) (unit : PackageUnit) : List CallSite :=
  (detector store unit).calls fileSet (generatedNames fileSet unit.files) unit.files

theorem mem_reportedIssues
    {fileSet : FileSet} {files : List File} {i : Issue} (hi : i ∈ (Table.build files).issues) :
    i ∈ reportedIssues fileSet files ↔
      (fileSet.position i.place).file ∉ generatedNames fileSet files := by
  simp [reportedIssues, hi]

theorem mem_reportedCalls
    (fileSet : FileSet) (store : FactStore) (unit : PackageUnit) (c : CallSite) :
    c ∈ reportedCalls fileSet store unit ↔
      c.IsDiscarded (detector store unit) fileSet [] unit.files ∧
        c.file.name fileSet ∉ generatedNames fileSet unit.files := by
  unfold reportedCalls
  rw [Detector.mem_calls]
  constructor
  · intro h
    exact ⟨{ h with not_skipped := List.not_mem_nil }, h.not_skipped⟩
  · rintro ⟨h, hskip⟩
    exact { h with not_skipped := hskip }

/-- A pass that can run reports these issues, then these calls. -/
theorem exists_result
    (fileSet : FileSet) (store : FactStore) {unit : PackageUnit}
    (hinspected : unit.isInspected = true) :
    ∃ result, run fileSet store unit = .ok result ∧
      result.findings =
        (reportedIssues fileSet unit.files).map ofIssue ++
          (reportedCalls fileSet store unit).map fun c => ofDiagnostic (c.diagnostic fileSet) := by
  refine ⟨_, run_eq fileSet store hinspected, ?_⟩
  rw [Detector.scan_eq_map_calls, List.map_map]
  rfl

end Pass

section Names

variable {fileSet : FileSet} {files : List File} (h : NamesTell fileSet files)
include h

/-- Where names tell, a file has the name of a generated one only if it is generated. -/
theorem NamesTell.name_mem_iff
    {file : File} (hfile : file ∈ files) :
    file.name fileSet ∈ Pass.generatedNames fileSet files ↔ file.isGenerated = true := by
  rw [Pass.mem_generatedNames]
  constructor
  · rintro ⟨file', hfile', hgenerated, hname⟩
    rw [← h.alike file' hfile' file hfile hname]
    exact hgenerated
  · intro hgenerated
    exact ⟨file, hfile, hgenerated, rfl⟩

/-- Where names tell, the name at an issue is that of a generated file only if the issue lies in a
generated file. -/
theorem NamesTell.shown_mem_iff
    {i : Issue} (hi : i ∈ (Table.build files).issues) :
    (fileSet.position i.place).file ∈ Pass.generatedNames fileSet files ↔
      ∃ file ∈ files, i.LiesIn file ∧ file.isGenerated = true := by
  have hname : ∀ file ∈ files, i.LiesIn file →
      (fileSet.position i.place).file = file.name fileSet := by
    rintro file hfile ⟨c, hc, hmust, hplace⟩
    rw [hplace]
    exact h.shown file hfile c hc hmust
  constructor
  · intro hmem
    obtain ⟨file, hfile, hlies⟩ := exists_liesIn hi
    rw [hname file hfile hlies, h.name_mem_iff hfile] at hmem
    exact ⟨file, hfile, hlies, hmem⟩
  · rintro ⟨file, hfile, hlies, hgenerated⟩
    rw [hname file hfile hlies, h.name_mem_iff hfile]
    exact hgenerated

end Names

/-- What a pass reports: issues of directives in their order, then discarded calls. An issue is
reported unless a generated file has the name that is shown at it, and a discarded call unless a
generated file has the name of its file; so no call of a generated file is reported. Where the names
tell, exactly those issues and calls are reported that lie in no generated file. -/
theorem findings_filtered_by_name
    (fileSet : FileSet) (store : FactStore) {unit : PackageUnit}
    (hinspected : unit.isInspected = true) :
    ∃ (result : PassResult) (issues : List Issue) (calls : List CallSite),
      Pass.run fileSet store unit = .ok result ∧
      result.findings =
        issues.map Pass.ofIssue ++ calls.map (fun c => Pass.ofDiagnostic (c.diagnostic fileSet)) ∧
      issues.Sublist (Table.build unit.files).issues ∧
      calls.Nodup ∧ calls.Pairwise CallSite.Before ∧
      (∀ i ∈ (Table.build unit.files).issues, i ∈ issues ↔
        ∀ file ∈ unit.files, file.isGenerated = true →
          file.name fileSet ≠ (fileSet.position i.place).file) ∧
      (∀ c, c ∈ calls ↔ c.IsDiscarded (Pass.detector store unit) fileSet [] unit.files ∧
        ∀ file ∈ unit.files, file.isGenerated = true →
          file.name fileSet ≠ c.file.name fileSet) ∧
      (∀ c ∈ calls, c.file.isGenerated = false) ∧
      (NamesTell fileSet unit.files →
        (∀ i ∈ (Table.build unit.files).issues, i ∈ issues ↔
          ∀ file ∈ unit.files, i.LiesIn file → file.isGenerated = false) ∧
        ∀ c, c ∈ calls ↔ c.IsDiscarded (Pass.detector store unit) fileSet [] unit.files ∧
          c.file.isGenerated = false) := by
  obtain ⟨result, hrun, hfindings⟩ := Pass.exists_result fileSet store hinspected
  refine ⟨result, _, _, hrun, hfindings, List.filter_sublist, Detector.calls_nodup _ _ _ _,
    Detector.calls_pairwise _ _ _ _, ?_, ?_, ?_, ?_⟩
  · intro i hi
    rw [Pass.mem_reportedIssues hi, Pass.not_mem_generatedNames]
  · intro c
    rw [Pass.mem_reportedCalls, Pass.not_mem_generatedNames]
  · intro c hc
    obtain ⟨hdiscarded, hname⟩ := (Pass.mem_reportedCalls fileSet store unit c).mp hc
    rw [Pass.not_mem_generatedNames] at hname
    rw [← Bool.not_eq_true]
    intro hgenerated
    exact hname c.file (List.mem_of_getElem? hdiscarded.file_eq) hgenerated rfl
  · intro hnames
    constructor
    · intro i hi
      rw [Pass.mem_reportedIssues hi, hnames.shown_mem_iff hi]
      simp only [not_exists, not_and, Bool.not_eq_true]
    · intro c
      rw [Pass.mem_reportedCalls]
      apply and_congr_right
      intro hdiscarded
      rw [hnames.name_mem_iff (List.mem_of_getElem? hdiscarded.file_eq), Bool.not_eq_true]

section Examples

/-- A function that a file marks, declared at an offset of the file with the given number. -/
def markedIn (file : Nat) : Func :=
  .declared
    { id := 0, name := "F", package := some { id := 0, path := "example.com/p" }
      signature := some { receiver := none, results := 1 }, place := some ⟨file, 33⟩ }

/-- A file that marks the function, calls it and discards the result. -/
def markingFile (id : Nat) : File :=
  { id := id
    packageStart := 0
    comments := [[⟨11, "//retval:mustuse"⟩]]
    decls :=
      [.mk .funcDecl .decls { doc := some 0 }
        [.mk .ident .name { start := some 33, defines := some (.func (markedIn id)) } []],
       .mk .funcDecl .decls {}
        [.mk .blockStmt .body {}
          [.mk .exprStmt .list {}
            [.mk .call .x {}
              [.mk .ident .fn { start := some 67, use := some (.func (markedIn id)) } []]]]]] }

/-- The lines of that file. -/
def markingLines : LineTable :=
  { name := "lib.go", starts := [0, 10, 11, 28, 54, 55, 66, 71], directives := [] }

/-- A generated file with a directive on a type, below its package clause. -/
def yaccFile : File :=
  { id := 0
    packageStart := 43
    comments :=
      [[⟨0, "// Code generated by goyacc. DO NOT EDIT."⟩],
       [⟨54, "//line gram.y:10"⟩, ⟨71, "//retval:mustuse"⟩]]
    decls :=
      [.mk .genDecl .decls {}
        [.mk .typeSpec .specs {} [.mk .ident .name { start := some 93 } []]]] }

/-- The lines of that file, with its line directives. -/
def yaccLines (directives : List LineDirective) : LineTable :=
  { name := "gen.go", starts := [0, 42, 43, 53, 54, 71, 88], directives := directives }

/-- A generated file with a line directive between the comment that says so and its package clause. -/
def renamedFile : File :=
  { id := 0
    packageStart := 53
    comments := [[⟨0, "// Code generated by x. DO NOT EDIT."⟩, ⟨37, "//line lib.go:1"⟩]]
    decls := [] }

/-- The lines of that file. From its package clause on it has the name of another file. -/
def renamedLines : LineTable :=
  { name := "gen.go", starts := [0, 37, 53], directives := [⟨53, "lib.go", 1, 0⟩] }

/-- A package of some files, without functions marked by configuration. -/
def unitOf (files : List File) : PackageUnit :=
  { package := { id := 0, path := "example.com/p" }, files := files, funcs := ""
    isInspected := true }

/-- A generated file beside one that is not, without line directives: only the other one is
reported on. -/
theorem findings_filtered_by_name_yacc :
    (unitOf [yaccFile, markingFile 1]).isInspected = true ∧
    NamesTell [yaccLines [], markingLines] [yaccFile, markingFile 1] ∧
    ∃ (result : PassResult) (issues : List Issue) (calls : List CallSite),
      Pass.run [yaccLines [], markingLines] FactStore.empty
        (unitOf [yaccFile, markingFile 1]) = .ok result ∧
      result.findings =
        issues.map Pass.ofIssue ++ calls.map (fun c =>
          Pass.ofDiagnostic (c.diagnostic [yaccLines [], markingLines])) ∧
      Table.misplaced yaccFile 71 ∉ issues ∧
      ∀ c, c ∈ calls ↔
        c.IsDiscarded (Pass.detector FactStore.empty (unitOf [yaccFile, markingFile 1]))
          [yaccLines [], markingLines] [] [yaccFile, markingFile 1] ∧
        c.file.isGenerated = false := by
  have hnames : NamesTell [yaccLines [], markingLines] [yaccFile, markingFile 1] := by
    decide
  have hinspected : (unitOf [yaccFile, markingFile 1]).isInspected = true := rfl
  have hissue : Table.misplaced yaccFile 71 ∈ (Table.build [yaccFile, markingFile 1]).issues := by
    rw [mem_issues_iff_mem_found]
    decide
  have hlies : (Table.misplaced yaccFile 71).LiesIn yaccFile :=
    ⟨⟨71, "//retval:mustuse"⟩, by decide, by decide, rfl⟩
  obtain ⟨result, issues, calls, hrun, hfindings, _, _, _, _, _, _, htell⟩ :=
    findings_filtered_by_name [yaccLines [], markingLines] FactStore.empty hinspected
  obtain ⟨hissues, hcalls⟩ := htell hnames
  refine ⟨hinspected, hnames, result, issues, calls, hrun, hfindings, ?_, hcalls⟩
  intro hreported
  have hgenerated := (hissues _ hissue).mp hreported yaccFile List.mem_cons_self hlies
  exact absurd hgenerated (by decide)

/-- The filter is not one of files. A line directive below the package clause makes a pass report a
directive in a generated file, the only file of the package. A line directive above it gives the
generated file the name of another one, and the discarded call there is lost. -/
theorem filter_by_name_not_by_file :
    (∃ result, Pass.run [yaccLines [⟨71, "gram.y", 10, 0⟩]] FactStore.empty
        (unitOf [yaccFile]) = .ok result ∧
      yaccFile.isGenerated = true ∧
      ∃ x ∈ result.findings, x.category = .directive ∧ x.place = some (yaccFile.place 71)) ∧
    (∃ result, Pass.run [renamedLines, markingLines] FactStore.empty
        (unitOf [renamedFile, markingFile 1]) = .ok result ∧
      renamedFile.isGenerated = true ∧ (markingFile 1).isGenerated = false ∧
      (Pass.detector FactStore.empty (unitOf [renamedFile, markingFile 1])).scan
        [renamedLines, markingLines] [] [markingFile 1] ≠ [] ∧
      ∀ x ∈ result.findings, x.category ≠ .discarded) := by
  constructor
  · obtain ⟨result, hrun, hfindings⟩ :=
      Pass.exists_result [yaccLines [⟨71, "gram.y", 10, 0⟩]] FactStore.empty
        (show (unitOf [yaccFile]).isInspected = true from rfl)
    have hissue : Table.misplaced yaccFile 71 ∈ (Table.build [yaccFile]).issues := by
      rw [mem_issues_iff_mem_found]
      decide
    refine ⟨result, hrun, by decide, Pass.ofIssue (Table.misplaced yaccFile 71), ?_, rfl, rfl⟩
    rw [hfindings]
    apply List.mem_append_left
    apply List.mem_map_of_mem
    apply (Pass.mem_reportedIssues hissue).mpr
    decide
  · obtain ⟨result, hrun, hfindings⟩ :=
      Pass.exists_result [renamedLines, markingLines] FactStore.empty
        (show (unitOf [renamedFile, markingFile 1]).isInspected = true from rfl)
    have hcalls : Pass.reportedCalls [renamedLines, markingLines] FactStore.empty
        (unitOf [renamedFile, markingFile 1]) = [] := by
      rfl
    refine ⟨result, hrun, by decide, by decide, by decide, ?_⟩
    rw [hfindings, hcalls, List.map_nil, List.append_nil]
    intro x hx
    obtain ⟨i, _, rfl⟩ := List.mem_map.mp hx
    simp [Pass.ofIssue]

end Examples

end Host
end MustUse
