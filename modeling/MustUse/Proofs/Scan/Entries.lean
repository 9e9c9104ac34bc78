import MustUse.Config.Basic
import MustUse.Proofs.Scan.Marking
import MustUse.Proofs.Spec.Listed

/-!
# Entries of a list only add

A joined list has the specifications of its entries, whatever separators and blanks the entries
hold. So a scan with a joined list reports the calls that scans with the single entries report, and
no entry takes a diagnostic away.

Main definition: `Detector.ofList`, the detector that a list of specifications leads to.

Main statements:

- `Spec.parseList_joinWith`: the specifications of a joined list;
- `Detector.calls_ofList_sublist`: more specifications find more calls;
- `entries_add_discarded_calls`.
-/

namespace MustUse

open Syntax Marker Text Config

namespace Spec

/-- A joined list has the specifications of its entries. -/
theorem parseList_joinWith
    (entries : List String) :
    parseList (joinWith "," entries) = entries.flatMap parseList := by
  by_cases h : entries = []
  · subst h
    decide
  · have hsplit : (joinWith "," entries).toList.splitOn ',' =
        entries.flatMap (·.toList.splitOn ',') := splitOn_toList_joinWith h
    unfold parseList
    rw [hsplit, List.map_flatMap, List.filter_flatMap, List.map_flatMap]

theorem parseList_joinWith_subset
    {entries entries' : List String} (h : entries ⊆ entries') :
    parseList (joinWith "," entries) ⊆ parseList (joinWith "," entries') := by
  intro s hs
  rw [parseList_joinWith, List.mem_flatMap] at hs ⊢
  obtain ⟨entry, hentry, hs⟩ := hs
  exact ⟨entry, h hentry, hs⟩

theorem anyMatch_parseList_joinWith
    (entries : List String) (f : Func) :
    anyMatch (parseList (joinWith "," entries)) f = true ↔
      ∃ entry ∈ entries, anyMatch (parseList entry) f = true := by
  rw [parseList_joinWith, anyMatch, List.any_flatMap, List.any_eq_true]
  rfl

end Spec

namespace Scan

open Report

namespace Detector

/-- Functions are marked by a table, by facts and by a comma-separated list of specifications. -/
def ofList (resolver : Resolver) (table : Table) (facts : FactStore) (list : String) : Detector :=
  { resolver := resolver
    isMarked := (Predicate.ofSources (Spec.parseList list) table facts).isMarked }

variable {resolver : Resolver} {table : Table} {facts : FactStore}
variable {files : FileSet} {skip : List String} {sources : List File}

/-- Table and facts mark a function whatever the list says. -/
theorem isMarked_ofList_iff
    (list : String) (f : Func) :
    (ofList resolver table facts list).isMarked f = true ↔
      (Predicate.ofSources [] table facts).isMarked f = true ∨
        Spec.anyMatch (Spec.parseList list) f.origin = true := by
  simp [ofList, Predicate.isMarked, Predicate.ofSources, Spec.anyMatch]

theorem isMarked_ofList_joinWith
    {entries : List String} (hentries : entries ≠ []) (f : Func) :
    (ofList resolver table facts (joinWith "," entries)).isMarked f = true ↔
      ∃ entry ∈ entries, (ofList resolver table facts entry).isMarked f = true := by
  obtain ⟨first, hfirst⟩ := List.exists_mem_of_ne_nil entries hentries
  simp only [isMarked_ofList_iff, Spec.anyMatch_parseList_joinWith]
  constructor
  · rintro (hmarked | ⟨entry, hentry, hmarked⟩)
    · exact ⟨first, hfirst, Or.inl hmarked⟩
    · exact ⟨entry, hentry, Or.inr hmarked⟩
  · rintro ⟨entry, hentry, hmarked | hmarked⟩
    · exact Or.inl hmarked
    · exact Or.inr ⟨entry, hentry, hmarked⟩

theorem mem_calls_ofList_joinWith
    {entries : List String} (hentries : entries ≠ []) (x : CallSite) :
    x ∈ (ofList resolver table facts (joinWith "," entries)).calls files skip sources ↔
      ∃ entry ∈ entries, x ∈ (ofList resolver table facts entry).calls files skip sources := by
  simp only [mem_calls]
  constructor
  · intro hx
    obtain ⟨entry, hentry, hmarked⟩ := (isMarked_ofList_joinWith hentries x.func).mp hx.marked
    exact ⟨entry, hentry, hx.of_isMarked rfl hmarked⟩
  · rintro ⟨entry, hentry, hx⟩
    exact hx.of_isMarked rfl
      ((isMarked_ofList_joinWith hentries x.func).mpr ⟨entry, hentry, hx.marked⟩)

/-- A list with more specifications finds more calls, and no call less. -/
theorem calls_ofList_sublist
    {list list' : String} (h : Spec.parseList list ⊆ Spec.parseList list') :
    ((ofList resolver table facts list).calls files skip sources).Sublist
      ((ofList resolver table facts list').calls files skip sources) := by
  have hfewer : ∀ f, (ofList resolver table facts list).isMarked f = true →
      (ofList resolver table facts list').isMarked f = true := by
    intro f
    rw [isMarked_ofList_iff, isMarked_ofList_iff, Spec.anyMatch, Spec.anyMatch,
      List.any_eq_true, List.any_eq_true]
    rintro (hmarked | ⟨s, hs, hmatch⟩)
    · exact Or.inl hmarked
    · exact Or.inr ⟨s, h hs, hmatch⟩
  have hresolver : (ofList resolver table facts list).resolver =
      (ofList resolver table facts list').resolver := rfl
  rw [calls_eq_filter_isMarked hresolver hfewer]
  exact List.filter_sublist

end Detector

/-- Let functions be marked by a table, by facts and by a list that is joined from entries. Then a
scan reports exactly the calls that it reports with one of the entries as its list, in the same
traversal order. So an entry that is added to a list, or to the configured functions, takes no
diagnostic away; order and repetition of entries do not matter; and the configured functions mean
what their entries mean one by one. -/
theorem entries_add_discarded_calls
    (resolver : Resolver) (table : Table) (facts : FactStore)
    (files : FileSet) (skip : List String) (sources : List File)
    (entries : List String) (hentries : entries ≠ []) :
    ∃ found : String → List CallSite,
      (∀ list,
        (Detector.ofList resolver table facts list).scan files skip sources =
          (found list).map (CallSite.diagnostic files) ∧
        (found list).Pairwise CallSite.Before ∧
        ∀ x, x ∈ found list ↔
          x.IsDiscarded (Detector.ofList resolver table facts list) files skip sources) ∧
      (∀ x, x ∈ found (joinWith "," entries) ↔ ∃ entry ∈ entries, x ∈ found entry) ∧
      (∀ entry ∈ entries, (found entry).Sublist (found (joinWith "," entries))) ∧
      (∀ list entry, (found list).Sublist (found (list ++ "," ++ entry))) ∧
      (∀ entries', (∀ entry, entry ∈ entries' ↔ entry ∈ entries) →
        found (joinWith "," entries') = found (joinWith "," entries)) ∧
      (∀ settings : Settings, settings.funcs = entries →
        found settings.funcList = found (joinWith "," entries)) ∧
      ∀ settings settings' : Settings, settings.funcs ⊆ settings'.funcs →
        (found settings.funcList).Sublist (found settings'.funcList) := by
  obtain ⟨found, hfound⟩ : ∃ found : String → List CallSite, ∀ list,
      found list = (Detector.ofList resolver table facts list).calls files skip sources :=
    ⟨_, fun _ => rfl⟩
  have hsublist : ∀ {old new : List String}, old ⊆ new →
      (found (joinWith "," old)).Sublist (found (joinWith "," new)) := by
    intro old new hsubset
    rw [hfound, hfound]
    exact Detector.calls_ofList_sublist (Spec.parseList_joinWith_subset hsubset)
  refine ⟨found, ?_, ?_, ?_, ?_, ?_, ?_, ?_⟩
  · intro list
    rw [hfound]
    exact ⟨Detector.scan_eq_map_calls _ files skip sources,
      Detector.calls_pairwise _ files skip sources, Detector.mem_calls _ files skip sources⟩
  · intro x
    simp only [hfound]
    exact Detector.mem_calls_ofList_joinWith hentries x
  · intro entry hentry
    have hsubset : [entry] ⊆ entries := List.cons_subset.mpr ⟨hentry, List.nil_subset entries⟩
    exact hsublist hsubset
  · intro list entry
    have hsubset : [list] ⊆ [list, entry] := List.subset_append_left [list] [entry]
    exact hsublist hsubset
  · intro entries' hsame
    exact (hsublist fun entry => (hsame entry).mp).antisymm
      (hsublist fun entry => (hsame entry).mpr)
  · rintro settings rfl
    rfl
  · intro settings settings' hsubset
    exact hsublist hsubset

/-- A file that discards a result of `Decode` and one of `Marshal`. -/
def yamlFile : File :=
  { id := 0, packageStart := 0, comments := []
    decls :=
      [.mk .funcDecl .decls {} [.mk .blockStmt .body {}
        [storeCall 50 Spec.decodeMethod,
          .mk .exprStmt .list {} [.mk .call .x {}
            [.mk .ident .fn { start := some 60, use := some (.func Spec.marshalFunc) } []]]]]] }

/-- A blank entry, one with separators of its own, and one more. -/
def yamlEntries : List String :=
  [" ", ",gopkg.in/yaml.v3.Marshal, ,example.com/p.F", "gopkg.in/yaml.v3.Node.Decode "]

example :
    let reported := fun list =>
      (Detector.ofList resolve .empty .empty list).scan [] [] [yamlFile]
    yamlEntries.map reported =
      [[], [.ofCall [] (some ⟨0, 60⟩) "Marshal"], [.ofCall [] (some ⟨0, 50⟩) "Decode"]] ∧
    reported (joinWith "," yamlEntries) =
      [.ofCall [] (some ⟨0, 50⟩) "Decode", .ofCall [] (some ⟨0, 60⟩) "Marshal"] := by
  decide +kernel

/-- The entries report the two calls one by one, in another order than the joined list does. -/
theorem entries_add_discarded_calls_yaml :
    yamlEntries ≠ [] ∧
    ∃ found : String → List CallSite,
      (∀ list, (Detector.ofList resolve .empty .empty list).scan [] [] [yamlFile] =
        (found list).map (CallSite.diagnostic [])) ∧
      (∀ x, x ∈ found (joinWith "," yamlEntries) ↔ ∃ entry ∈ yamlEntries, x ∈ found entry) ∧
      ∀ entry ∈ yamlEntries, (found entry).Sublist (found (joinWith "," yamlEntries)) := by
  have hentries : yamlEntries ≠ [] := by decide
  obtain ⟨found, hfound, hmem, hsublist, _⟩ :=
    entries_add_discarded_calls resolve .empty .empty [] [] [yamlFile] yamlEntries hentries
  exact ⟨hentries, found, fun list => (hfound list).1, hmem, hsublist⟩

end Scan
end MustUse
