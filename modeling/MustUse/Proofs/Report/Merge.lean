import MustUse.Proofs.Report.Stability
import MustUse.Proofs.Text.Octets

/-!
# Merging reports by sorting

Diagnostics are found package by package and put into one order at the end. Nothing about the result
is left to the way it is computed: a list in order that keeps diagnostics with the same position as
they were found is unique. So it does not matter whether the parts are in order before they are
merged.

Main definitions:

- `Diagnostic.Precedes`: the order of positions, with file names compared octet by octet;
- `Diagnostic.IsStableSort`: a list in order that keeps the order of equals.

Main statements:

- `Diagnostic.isStableSort_iff`: there is one such list, and sorting gives it;
- `Diagnostic.sort_canonical`: sorting is canonical, also for a list in parts.
-/

namespace MustUse
namespace Report
namespace Diagnostic

open Text

/-- The position of `a` does not come after that of `b`: the octets of the file name decide, then
the line, then the column. -/
def Precedes (a b : Diagnostic) : Prop :=
  octets a.position.file < octets b.position.file ∨
    a.position.file = b.position.file ∧
      (a.position.line < b.position.line ∨
        a.position.line = b.position.line ∧ a.position.column ≤ b.position.column)

theorem precedes_iff
    (a b : Diagnostic) :
    Precedes a b ↔ InOrder a b := by
  unfold Precedes InOrder
  rw [octets_lt_iff]

/-- The diagnostics of `ds` in the order of their positions, with those at the same position as they
stand in `ds`. -/
structure IsStableSort (ds sorted : List Diagnostic) : Prop where
  perm : sorted.Perm ds
  ordered : sorted.Pairwise Precedes
  stable : ∀ k, withKey k sorted = withKey k ds

/-- There is exactly one such list. -/
theorem isStableSort_iff
    (ds sorted : List Diagnostic) :
    IsStableSort ds sorted ↔ sorted = sort ds := by
  constructor
  · intro h
    have hordered : sorted.Pairwise InOrder :=
      h.ordered.imp fun {a b} => (precedes_iff a b).mp
    apply eq_of_withKey_eq hordered (pairwise_sort ds)
    intro k
    rw [h.stable, withKey_sort]
  · rintro rfl
    refine ⟨sort_perm ds, ?_, fun k => withKey_sort k ds⟩
    exact (pairwise_sort ds).imp fun {a b} => (precedes_iff a b).mpr

theorem withKey_flatten
    (k : String × Int × Int) (slots : List (List Diagnostic)) :
    withKey k slots.flatten = (slots.map (withKey k)).flatten :=
  List.filter_flatten

theorem sort_sort
    (ds : List Diagnostic) :
    sort (sort ds) = sort ds :=
  sort_eq_sort fun k => withKey_sort k ds

/-- Parts may be sorted before they are merged. -/
theorem sort_flatten_map_sort
    (slots : List (List Diagnostic)) :
    sort (slots.map sort).flatten = sort slots.flatten := by
  apply sort_eq_sort
  intro k
  rw [withKey_flatten, withKey_flatten, List.map_map]
  congr 1
  apply List.map_congr_left
  intro slot _
  exact withKey_sort k slot

/-- Sorting is canonical. The sorted list is a rearrangement in the order of file names, lines and
columns that keeps the order of diagnostics with the same key, and it is the only one. So the result
for a list in parts is the same whether or not each part is sorted first, and sorting a second time
changes nothing. -/
theorem sort_canonical :
    (∀ ds sorted : List Diagnostic, IsStableSort ds sorted ↔ sorted = sort ds) ∧
    (∀ slots : List (List Diagnostic), sort slots.flatten = sort (slots.map sort).flatten) ∧
    ∀ ds : List Diagnostic, sort (sort ds) = sort ds := by
  refine ⟨isStableSort_iff, ?_, sort_sort⟩
  intro slots
  exact (sort_flatten_map_sort slots).symm

end Diagnostic
end Report
end MustUse
