import MustUse.Report.Diagnostic

/-!
# The order of diagnostics

Diagnostics are sorted by three keys one after the other: the name of the file, the line and the
column. The comparison is a total order of these keys, so a sorted list is in order pair by pair.

Main definitions: `Diagnostic.InOrder`.

Main statement: `Diagnostic.pairwise_sort`.
-/

namespace MustUse
namespace Report
namespace Diagnostic

/-- The position of `a` does not come after that of `b`: the file name decides, then the line, then
the column. -/
def InOrder (a b : Diagnostic) : Prop :=
  a.position.file < b.position.file ∨
    a.position.file = b.position.file ∧
      (a.position.line < b.position.line ∨
        a.position.line = b.position.line ∧ a.position.column ≤ b.position.column)

theorem le_iff
    (a b : Diagnostic) :
    le a b = true ↔ InOrder a b := by
  unfold le InOrder
  by_cases hfile : a.position.file = b.position.file
  · by_cases hline : a.position.line = b.position.line
    · simp [hfile, hline]
    · simp [hfile, hline]
  · simp [hfile]

theorem InOrder.trans
    {a b c : Diagnostic} (hab : InOrder a b) (hbc : InOrder b c) :
    InOrder a c := by
  unfold InOrder at *
  rcases hab with hab | ⟨hab, hab'⟩
  · rcases hbc with hbc | ⟨hbc, _⟩
    · exact Or.inl (String.lt_trans hab hbc)
    · exact Or.inl (hbc ▸ hab)
  · rcases hbc with hbc | ⟨hbc, hbc'⟩
    · exact Or.inl (hab ▸ hbc)
    · exact Or.inr ⟨hab.trans hbc, by omega⟩

theorem InOrder.total
    (a b : Diagnostic) :
    InOrder a b ∨ InOrder b a := by
  unfold InOrder
  by_cases hlt : a.position.file < b.position.file
  · exact Or.inl (Or.inl hlt)
  by_cases hgt : b.position.file < a.position.file
  · exact Or.inr (Or.inl hgt)
  have heq : a.position.file = b.position.file :=
    String.le_antisymm (String.not_lt.mp hgt) (String.not_lt.mp hlt)
  by_cases h : a.position.line < b.position.line ∨
      a.position.line = b.position.line ∧ a.position.column ≤ b.position.column
  · exact Or.inl (Or.inr ⟨heq, h⟩)
  · exact Or.inr (Or.inr ⟨heq.symm, by omega⟩)

theorem trans_le
    (a b c : Diagnostic) (hab : le a b = true) (hbc : le b c = true) :
    le a c = true := by
  rw [le_iff] at hab hbc ⊢
  exact hab.trans hbc

theorem total_le
    (a b : Diagnostic) :
    (le a b || le b a) = true := by
  rw [Bool.or_eq_true, le_iff, le_iff]
  exact InOrder.total a b

theorem sort_perm
    (ds : List Diagnostic) :
    (sort ds).Perm ds :=
  List.mergeSort_perm ds le

/-- Sorted diagnostics are in order. -/
theorem pairwise_sort
    (ds : List Diagnostic) :
    (sort ds).Pairwise InOrder := by
  have h : (sort ds).Pairwise fun a b => le a b = true :=
    List.pairwise_mergeSort trans_le total_le ds
  simpa only [le_iff] using h

end Diagnostic
end Report
end MustUse
