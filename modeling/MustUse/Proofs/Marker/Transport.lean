import MustUse.Proofs.Marker.Facts

/-!
# Markers that travel as facts

What a package stores for others is written down as names, kept for one function each, and read
again. Whoever asks the store about a function of the package gets the answer of the table, and for
a function that must be used the same markers.

Main definitions:

- `Table.Reached`: the tables that files lead to;
- `Table.exported`: the store that holds the facts of one package.

Main statements:

- `FactStore.find?_putAll_of_mem`: the fact of a function that is stored once;
- `Table.WellFormed.nodup_exports`, `Table.pairwise_exports`: the order of facts;
- `exports_transport_markers`: the store answers like the table.
-/

namespace MustUse
namespace Marker

open Syntax

namespace FactStore

theorem entries_putAll
    (s : FactStore) (facts : List (Func × Fact)) :
    (s.putAll facts).entries = facts.reverse ++ s.entries := by
  unfold putAll
  induction facts generalizing s with
  | nil => rfl
  | cons e facts ih =>
      rw [List.foldl_cons, ih]
      simp [put]

/-- Of facts that are stored for different functions, none is lost: the fact stored last stands first,
and a search passes what was stored after the one it looks for. -/
theorem find?_putAll_of_mem
    (s : FactStore) {facts : List (Func × Fact)} (hkeys : (facts.map (·.1)).Nodup)
    {f : Func} {fact : Fact} (hmem : (f, fact) ∈ facts) :
    (s.putAll facts).find? f = some fact := by
  obtain ⟨before, after, rfl⟩ := List.append_of_mem hmem
  have hafter : ∀ e ∈ after, f ≠ e.1 := by
    intro e he hf
    have hcons := (List.nodup_append.mp (by simpa using hkeys)).2.1
    rw [List.nodup_cons] at hcons
    exact hcons.1 (List.mem_map.mpr ⟨e, he, hf.symm⟩)
  unfold find?
  rw [entries_putAll, List.lookup_eq_some_iff]
  refine ⟨after.reverse, before.reverse ++ s.entries, by simp, ?_⟩
  intro e he
  simpa using hafter e (List.mem_reverse.mp he)

end FactStore

namespace Table

/-- The tables that are reached from the empty one by adding files. -/
inductive Reached : Table → Prop
  | empty : Reached Table.empty
  | addFiles {t : Table} (h : Reached t) (files : List File) : Reached (t.addFiles files)

theorem Reached.wellFormed
    {t : Table} (h : t.Reached) :
    t.WellFormed := by
  induction h with
  | empty => exact wellFormed_empty
  | addFiles _ files ih => exact ih.addFiles files

/-- The store that holds the facts of a package and nothing else. -/
def exported (t : Table) (package : Package) : FactStore :=
  FactStore.empty.putAll (t.exports package)

theorem sublist_of_filterMap
    {g : Func → Option (Func × Fact)} (hg : ∀ f e, g f = some e → e.1 = f) (funcs : List Func) :
    ((funcs.filterMap g).map (·.1)).Sublist funcs := by
  induction funcs with
  | nil => exact List.Sublist.slnil
  | cons f funcs ih =>
      cases he : g f with
      | none =>
          rw [List.filterMap_cons_none he]
          exact ih.cons f
      | some e =>
          rw [List.filterMap_cons_some he, List.map_cons, hg f e he]
          exact ih.cons_cons f

/-- The functions of the shared facts are functions of the table, in the same order. -/
theorem sublist_funcs
    (t : Table) (package : Package) :
    ((t.exports package).map (·.1)).Sublist t.funcs := by
  unfold exports
  apply sublist_of_filterMap
  intro f e he
  split at he
  · split at he
    · split at he
      · cases he
        rfl
      · cases he
    · cases he
  · cases he

theorem WellFormed.nodup_exports
    {t : Table} (h : t.WellFormed) (package : Package) :
    ((t.exports package).map (·.1)).Nodup := by
  have hfuncs : t.funcs.Nodup := by
    unfold funcs
    rw [(List.mergeSort_perm _ _).nodup_iff]
    exact h.keys_nodup
  exact hfuncs.sublist (t.sublist_funcs package)

/-- Facts are shared in the order in which their functions are declared. -/
theorem pairwise_exports
    (t : Table) (package : Package) :
    (t.exports package).Pairwise fun a b =>
      Place.leMissingFirst a.1.place b.1.place = true := by
  have hfuncs : t.funcs.Pairwise fun a b => Place.leMissingFirst a.place b.place = true := by
    unfold funcs
    apply List.pairwise_mergeSort
    · intro a b c
      exact Place.leMissingFirst_trans a.place b.place c.place
    · intro a b
      exact Place.leMissingFirst_total a.place b.place
  rw [← List.pairwise_map (f := fun e : Func × Fact => e.1)
    (R := fun a b => Place.leMissingFirst a.place b.place = true)]
  exact hfuncs.sublist (t.sublist_funcs package)

/-- The set that the store has for a function that must be used. -/
theorem WellFormed.markers_exported
    {t : Table} (h : t.WellFormed) {package : Package} {f : Func} (horigin : f.origin = f)
    (hpackage : f.package = some package) {s : Set} (hs : t.markers f = some s)
    (hmember : Name.mustUse ∈ s) :
    (t.exported package).markers f = some (Fact.ofSet s).toSet := by
  have hmem : (f, Fact.ofSet s) ∈ t.exports package :=
    (h.mem_exports package f _).mpr ⟨horigin, hpackage, s, hs, hmember, rfl⟩
  unfold FactStore.markers exported
  rw [FactStore.find?_putAll_of_mem FactStore.empty (h.nodup_exports package) hmem]
  rfl

/-- The store has the must-use marker for the functions of the package that the table has it
for. -/
theorem WellFormed.marks_exported
    {t : Table} (h : t.WellFormed) {package : Package} {f : Func} (horigin : f.origin = f)
    (hpackage : f.package = some package) :
    (t.exported package).Marks f Name.mustUse ↔ t.Marks f Name.mustUse := by
  unfold exported
  rw [FactStore.marks_putAll_exports _ h package horigin]
  constructor
  · rintro (hempty | ⟨_, hmarks⟩)
    · exact absurd hempty (FactStore.not_marks_empty f Name.mustUse)
    · exact hmarks
  · intro hmarks
    exact Or.inr ⟨hpackage, hmarks⟩

end Table

/-- Facts carry markers exactly. The store with the facts of a package marks the functions of this
package that the table marks, whatever is specified besides, and has the markers of the table for
those that must be used. It is asked about the origin of a function, as facts are kept for origins
only. Facts are written for functions of the package that must be used and for no others, once each
and in the order of their declarations. -/
theorem exports_transport_markers
    {t : Table} (h : t.Reached) (package : Package) :
    (∀ (specs : List Spec) (f : Func), f.origin.package = some package →
      Predicate.isMarked { extra := specs, sources := [(t.exported package).markers] } f =
        Predicate.isMarked { extra := specs, sources := [t.markers] } f) ∧
    (∀ (f : Func) (s : Set), f.origin.package = some package →
      t.markers f = some s → Name.mustUse ∈ s →
      ∃ s', (t.exported package).markers f.origin = some s' ∧ ∀ n, n ∈ s' ↔ n ∈ s) ∧
    (∀ e ∈ t.exports package,
      e.1.origin = e.1 ∧ e.1.package = some package ∧ t.Marks e.1 Name.mustUse) ∧
    ((t.exports package).map (·.1)).Nodup ∧
    (t.exports package).Pairwise fun a b =>
      Place.leMissingFirst a.1.place b.1.place = true := by
  have hwf := h.wellFormed
  refine ⟨?_, ?_, ?_, hwf.nodup_exports package, t.pairwise_exports package⟩
  · intro specs f hpackage
    rw [Bool.eq_iff_iff, Predicate.isMarked_iff, Predicate.isMarked_iff]
    apply or_congr _ Iff.rfl
    simp only [List.mem_singleton, exists_eq_left]
    exact hwf.marks_exported (Func.origin_origin f) hpackage
  · intro f s hpackage hs hmember
    refine ⟨(Fact.ofSet s).toSet,
      hwf.markers_exported (Func.origin_origin f) hpackage hs hmember, ?_⟩
    exact Fact.mem_toSet_ofSet (hwf.parsed _ (Table.mem_sets_of_markers hs))
  · rintro ⟨f, fact⟩ he
    obtain ⟨horigin, hpackage, s, hs, hmember, _⟩ := (hwf.mem_exports package f fact).mp he
    exact ⟨horigin, hpackage, s, hs, hmember⟩

/-- A method of a generic type. -/
def firstDecl : Declaration :=
  { id := 0, name := "First", package := some { id := 0, path := "lib" }
    signature := some { receiver := some (.pointer (.named "Pair")), results := 1 }
    place := some ⟨0, 50⟩ }

/-- A file that attaches two markers to it. -/
def firstFile : File :=
  { id := 0
    packageStart := 0
    comments := [[⟨20, "//retval:mustuse"⟩, ⟨37, "//doc:stable"⟩]]
    decls :=
      [.mk .funcDecl .decls { doc := some 0 }
        [.mk .ident .name { start := some 50, defines := some (.func (.declared firstDecl)) } []]] }

/-- Both markers of the method reach those who call it through an instantiated type. -/
theorem exports_transport_markers_view :
    (Table.build [firstFile]).Reached ∧
    (Func.instantiated 1 firstDecl).origin.package = some ⟨0, "lib"⟩ ∧
    Predicate.isMarked
      { extra := [], sources := [((Table.build [firstFile]).exported ⟨0, "lib"⟩).markers] }
      (Func.instantiated 1 firstDecl) = true ∧
    ∃ s, ((Table.build [firstFile]).exported ⟨0, "lib"⟩).markers
        (Func.instantiated 1 firstDecl).origin = some s ∧
      ∀ n, n ∈ s ↔ n = ⟨"retval", "mustuse"⟩ ∨ n = ⟨"doc", "stable"⟩ := by
  have h : (Table.build [firstFile]).Reached := Table.Reached.addFiles Table.Reached.empty _
  obtain ⟨hmarked, hset, _⟩ := exports_transport_markers h ⟨0, "lib"⟩
  refine ⟨h, rfl, ?_, ?_⟩
  · rw [hmarked [] (Func.instantiated 1 firstDecl) rfl]
    decide
  · obtain ⟨s, hs, hsame⟩ := hset (Func.instantiated 1 firstDecl)
      ⟨[⟨"retval", "mustuse"⟩, ⟨"doc", "stable"⟩]⟩ rfl (by decide) List.mem_cons_self
    refine ⟨s, hs, ?_⟩
    intro n
    rw [hsame n]
    simp

end Marker
end MustUse
