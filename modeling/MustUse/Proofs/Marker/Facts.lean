import MustUse.Marker.Predicate
import MustUse.Proofs.Marker.Encoding
import MustUse.Proofs.Marker.Table

/-!
# What facts carry

A fact carries the set it was made from, if all names in the set are written as they are read, as
those of a table are. So a package leaves to later ones exactly the must-use markers that its table
has for its own functions.

Main definitions: `FactStore.Marks`, a store has a marker for a function.

Main statements:

- `Fact.mem_toSet_ofSet`: the set behind a fact;
- `Table.WellFormed.mem_exports`: the facts that a package shares;
- `FactStore.marks_putAll_exports`: what they add to a store;
- `Predicate.isMarked_iff`: when a function is marked.
-/

namespace MustUse
namespace Marker

open Syntax

/-- The set that a fact carries is the one it was made from. -/
theorem Fact.mem_toSet_ofSet
    {s : Set} (hparsed : ∀ n ∈ s, Name.parse? n.text = some n) (n : Name) :
    n ∈ (Fact.ofSet s).toSet ↔ n ∈ s := by
  rw [Fact.mem_toSet_ofSet_iff]
  constructor
  · exact And.left
  · intro hn
    exact ⟨hn, ((Name.parse?_eq_some_iff n.text n).mp (hparsed n hn)).1⟩

namespace Table

/-- The facts that a package shares are those of its own functions that are marked must-use. -/
theorem WellFormed.mem_exports
    {t : Table} (h : t.WellFormed) (package : Package) (f : Func) (fact : Fact) :
    (f, fact) ∈ t.exports package ↔
      f.origin = f ∧ f.package = some package ∧
        ∃ s, t.markers f = some s ∧ Name.mustUse ∈ s ∧ fact = Fact.ofSet s := by
  have hfuncs : ∀ g, g ∈ t.funcs ↔ g ∈ t.sets.map (·.1) := by
    intro g
    unfold funcs
    rw [List.mem_mergeSort]
  unfold exports
  rw [List.mem_filterMap]
  constructor
  · rintro ⟨g, hg, hfact⟩
    obtain ⟨e, he, rfl⟩ := List.mem_map.mp ((hfuncs g).mp hg)
    split at hfact
    · rename_i hpackage
      cases hs : t.markers e.1 with
      | none =>
          rw [hs] at hfact
          cases hfact
      | some s =>
          simp only [hs] at hfact
          split at hfact
          · rename_i hmember
            cases hfact
            exact ⟨h.origin e he, hpackage, s, hs, (Set.contains_iff s _).mp hmember, rfl⟩
          · cases hfact
    · cases hfact
  · rintro ⟨horigin, hpackage, s, hs, hmember, rfl⟩
    have hentry : (f, s) ∈ t.sets := by
      have hsets := mem_sets_of_markers hs
      rwa [horigin] at hsets
    refine ⟨f, (hfuncs f).mpr (List.mem_map.mpr ⟨(f, s), hentry, rfl⟩), ?_⟩
    have hcontains := (Set.contains_iff s Name.mustUse).mpr hmember
    simp [hpackage, hs, hcontains]

theorem WellFormed.mustUse_mem_of_mem_exports
    {t : Table} (h : t.WellFormed) {package : Package} {e : Func × Fact}
    (he : e ∈ t.exports package) :
    Name.mustUse ∈ e.2.toSet := by
  obtain ⟨_, _, s, hs, hmember, hfact⟩ := (h.mem_exports package e.1 e.2).mp he
  rw [hfact, Fact.mem_toSet_ofSet (h.parsed _ (mem_sets_of_markers hs))]
  exact hmember

end Table

namespace FactStore

/-- The store has the marker `n` for exactly the function `f`. -/
def Marks (s : FactStore) (f : Func) (n : Name) : Prop :=
  ∃ set, s.markers f = some set ∧ n ∈ set

theorem not_marks_empty
    (f : Func) (n : Name) :
    ¬ empty.Marks f n := by
  rintro ⟨set, hset, _⟩
  cases hset

/-- One step: a fact replaces the one stored for the same function. -/
theorem marks_put
    (s : FactStore) (f g : Func) (fact : Fact) (n : Name) :
    (s.put g fact).Marks f n ↔ if f = g then n ∈ fact.toSet else s.Marks f n := by
  unfold Marks markers find? put
  rw [List.lookup_cons]
  by_cases hfg : f = g
  · subst hfg
    simp
  · rw [beq_eq_false_iff_ne.mpr hfg, if_neg hfg]

/-- A run of steps: when every new fact carries the marker `n`, so does the store for the functions
that it had it for and for those with a new fact. -/
theorem marks_putAll
    {facts : List (Func × Fact)} {n : Name} (hcarry : ∀ e ∈ facts, n ∈ e.2.toSet)
    (s : FactStore) (f : Func) :
    (s.putAll facts).Marks f n ↔ s.Marks f n ∨ ∃ fact, (f, fact) ∈ facts := by
  unfold putAll
  induction facts generalizing s with
  | nil => simp
  | cons e facts ih =>
      obtain ⟨g, fact⟩ := e
      have hg : n ∈ fact.toSet := hcarry (g, fact) List.mem_cons_self
      have hrest : ∀ e ∈ facts, n ∈ e.2.toSet := by
        intro e he
        exact hcarry e (List.mem_cons_of_mem _ he)
      rw [List.foldl_cons, ih hrest, marks_put]
      by_cases hfg : f = g
      · subst hfg
        rw [if_pos rfl]
        constructor
        · intro _
          exact Or.inr ⟨fact, List.mem_cons_self⟩
        · intro _
          exact Or.inl hg
      · rw [if_neg hfg]
        apply or_congr Iff.rfl
        simp [hfg]

/-- What a package adds to a store: the must-use markers of its own functions. -/
theorem marks_putAll_exports
    (s : FactStore) {t : Table} (h : t.WellFormed) (package : Package)
    {f : Func} (hf : f.origin = f) :
    (s.putAll (t.exports package)).Marks f Name.mustUse ↔
      s.Marks f Name.mustUse ∨ (f.package = some package ∧ t.Marks f Name.mustUse) := by
  rw [marks_putAll fun e he => h.mustUse_mem_of_mem_exports he]
  apply or_congr Iff.rfl
  constructor
  · rintro ⟨fact, hfact⟩
    obtain ⟨_, hpackage, s, hs, hmember, _⟩ := (h.mem_exports package f fact).mp hfact
    exact ⟨hpackage, s, hs, hmember⟩
  · rintro ⟨hpackage, s, hs, hmember⟩
    exact ⟨Fact.ofSet s, (h.mem_exports package f _).mpr ⟨hf, hpackage, s, hs, hmember, rfl⟩⟩

end FactStore

namespace Predicate

theorem isMarkedBy_iff
    (f : Func) (source : Source) :
    isMarkedBy f source = true ↔ ∃ s, source f = some s ∧ Name.mustUse ∈ s := by
  unfold isMarkedBy
  cases source f with
  | none => simp
  | some s => simp

/-- A function is marked when a source has the must-use marker for its origin, or by
configuration. -/
theorem isMarked_iff
    (p : Predicate) (f : Func) :
    p.isMarked f = true ↔
      (∃ source ∈ p.sources, ∃ s, source f.origin = some s ∧ Name.mustUse ∈ s) ∨
        Spec.anyMatch p.extra f.origin = true := by
  unfold isMarked
  rw [Bool.or_eq_true, List.any_eq_true]
  simp only [isMarkedBy_iff]

end Predicate
end Marker
end MustUse
