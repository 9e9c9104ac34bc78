import MustUse.Proofs.Report.Order

/-!
# Sorting keeps the order of equals

Two diagnostics with the same file name, line and column are in order both ways, so a sorted list is
not determined by its members alone. It is determined by the lists of those with the same key: a
list in order is put together from them in one way only. Sorting keeps each of these lists.

Main definitions: `Diagnostic.key`, `Diagnostic.withKey`.

Main statements:

- `Diagnostic.withKey_sort`: sorting keeps the order of diagnostics with the same key;
- `Diagnostic.eq_of_withKey_eq`: a list in order is determined by its parts with the same key;
- `Diagnostic.sort_eq_sort`: lists with the same parts are sorted alike.
-/

namespace MustUse
namespace Report
namespace Diagnostic

/-- What diagnostics are sorted by. -/
def key (d : Diagnostic) : String × Int × Int :=
  (d.position.file, d.position.line, d.position.column)

/-- The diagnostics of a list with the given key, in their order. -/
def withKey (k : String × Int × Int) (ds : List Diagnostic) : List Diagnostic :=
  ds.filter fun d => d.key = k

theorem mem_withKey
    {k : String × Int × Int} {ds : List Diagnostic} {d : Diagnostic} :
    d ∈ withKey k ds ↔ d ∈ ds ∧ d.key = k := by
  simp [withKey]

theorem InOrder.of_key_eq
    {a b : Diagnostic} (h : a.key = b.key) :
    InOrder a b := by
  simp only [key, Prod.mk.injEq] at h
  obtain ⟨hfile, hline, hcolumn⟩ := h
  exact Or.inr ⟨hfile, Or.inr ⟨hline, by omega⟩⟩

theorem InOrder.key_eq
    {a b : Diagnostic} (hab : InOrder a b) (hba : InOrder b a) :
    a.key = b.key := by
  have hirrefl : ∀ s : String, ¬ s < s := String.lt_irrefl
  rcases hab with hlt | ⟨hfile, hab⟩
  · rcases hba with hgt | ⟨hfile, _⟩
    · exact absurd (String.lt_trans hlt hgt) (hirrefl _)
    · rw [hfile] at hlt
      exact absurd hlt (hirrefl _)
  · rcases hba with hgt | ⟨_, hba⟩
    · rw [hfile] at hgt
      exact absurd hgt (hirrefl _)
    · have hline : a.position.line = b.position.line := by omega
      have hcolumn : a.position.column = b.position.column := by omega
      simp [key, hfile, hline, hcolumn]

/-- Sorting keeps the order of diagnostics with the same key. -/
theorem withKey_sort
    (k : String × Int × Int) (ds : List Diagnostic) :
    withKey k (sort ds) = withKey k ds := by
  have hequal : (withKey k ds).Pairwise fun a b => le a b = true := by
    rw [List.pairwise_iff_forall_sublist]
    intro a b hsub
    have ha := (mem_withKey.mp (hsub.subset (by simp : a ∈ [a, b]))).2
    have hb := (mem_withKey.mp (hsub.subset (by simp : b ∈ [a, b]))).2
    exact (le_iff a b).mpr (InOrder.of_key_eq (ha.trans hb.symm))
  have hsub : (withKey k ds).Sublist (sort ds) :=
    List.sublist_mergeSort trans_le total_le hequal List.filter_sublist
  have hpart : (withKey k ds).Sublist (withKey k (sort ds)) := by
    have h := hsub.filter fun d => d.key = k
    simpa [withKey, List.filter_filter] using h
  have hlength : (withKey k ds).length = (withKey k (sort ds)).length :=
    ((sort_perm ds).filter _).length_eq.symm
  exact (hpart.eq_of_length hlength).symm

theorem mem_iff_of_withKey_eq
    {ds ds' : List Diagnostic} (hsame : ∀ k, withKey k ds = withKey k ds') (d : Diagnostic) :
    d ∈ ds ↔ d ∈ ds' := by
  have h : d ∈ withKey d.key ds ↔ d ∈ withKey d.key ds' := by
    rw [hsame]
  simpa [mem_withKey] using h

/-- A list in order is determined by its parts with the same key: the heads of two such lists are
least, so they have the same key and lead the same part. -/
theorem eq_of_withKey_eq
    {ds ds' : List Diagnostic} (hds : ds.Pairwise InOrder) (hds' : ds'.Pairwise InOrder)
    (hsame : ∀ k, withKey k ds = withKey k ds') :
    ds = ds' := by
  have hmem := mem_iff_of_withKey_eq hsame
  induction ds generalizing ds' with
  | nil =>
      cases ds' with
      | nil => rfl
      | cons b ds' => exact absurd ((hmem b).mpr List.mem_cons_self) List.not_mem_nil
  | cons a ds ih =>
      cases ds' with
      | nil => exact absurd ((hmem a).mp List.mem_cons_self) List.not_mem_nil
      | cons b ds' =>
          rw [List.pairwise_cons] at hds hds'
          have hab : InOrder a b := by
            rcases List.mem_cons.mp ((hmem b).mpr List.mem_cons_self) with rfl | hb
            · exact InOrder.of_key_eq rfl
            · exact hds.1 b hb
          have hba : InOrder b a := by
            rcases List.mem_cons.mp ((hmem a).mp List.mem_cons_self) with rfl | ha
            · exact InOrder.of_key_eq rfl
            · exact hds'.1 a ha
          have hkey := hab.key_eq hba
          have hhead : a = b := by
            have h := hsame a.key
            simp only [withKey, List.filter_cons, hkey, decide_true, if_true] at h
            exact (List.cons.inj h).1
          subst hhead
          have hrest : ∀ k, withKey k ds = withKey k ds' := by
            intro k
            have h := hsame k
            by_cases hk : a.key = k
            · simpa [withKey, List.filter_cons, hk] using h
            · simpa [withKey, List.filter_cons, hk] using h
          have hmem' := mem_iff_of_withKey_eq hrest
          rw [ih hds.2 hds'.2 hrest hmem']

/-- Lists with the same parts are sorted alike. -/
theorem sort_eq_sort
    {ds ds' : List Diagnostic} (hsame : ∀ k, withKey k ds = withKey k ds') :
    sort ds = sort ds' := by
  apply eq_of_withKey_eq (pairwise_sort ds) (pairwise_sort ds')
  intro k
  rw [withKey_sort, withKey_sort, hsame]

end Diagnostic
end Report
end MustUse
