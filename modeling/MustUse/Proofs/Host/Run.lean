import MustUse.Host.Run

/-!
# What a run comes to

The passes of a run end in an order that the machine chooses. Each pass writes to a place of its
own, so neither this order nor the number of passes that are made at once shows in what is found.

Main statements:

- `getElem?_foldl_set`: the places after some passes have ended;
- `collect_schedule`: every machine collects the result of every pass;
- `analyse_eq_ok_iff`: when a run succeeds, and what it finds.
-/

namespace MustUse
namespace Host

open Report

section Places

variable {α : Type} (results : List (Option α))

theorem getElem?_set_result
    {places : List (Option α)} (hlength : places.length = results.length) (i j : Nat) :
    (places.set j (results[j]?).join)[i]? = if i = j then results[i]? else places[i]? := by
  by_cases hij : i = j
  · subst hij
    by_cases hi : i < results.length
    · simp [hlength, hi]
    · simp [hlength, hi]
  · simp [hij, List.getElem?_set_ne (Ne.symm hij)]

/-- The places after some passes have ended: a pass that has ended has left its result, and all
other places are as before. -/
theorem getElem?_foldl_set
    (ended : List Nat) {places : List (Option α)} (hlength : places.length = results.length)
    (i : Nat) :
    (ended.foldl (fun places j => places.set j (results[j]?).join) places)[i]? =
      if i ∈ ended then results[i]? else places[i]? := by
  induction ended generalizing places with
  | nil => simp
  | cons j rest ih =>
      rw [List.foldl_cons, ih (by simpa using hlength), getElem?_set_result results hlength]
      by_cases hrest : i ∈ rest
      · simp [hrest]
      · simp [hrest]

/-- If every pass with a result ends, all results are collected. -/
theorem collect_eq
    {ended : List Nat} (h : ∀ i, ((results[i]?).join).isSome → i ∈ ended) :
    collect results ended = results := by
  apply List.ext_getElem?
  intro i
  unfold collect
  rw [getElem?_foldl_set results ended (by simp)]
  split
  · rfl
  · rename_i hended
    have hnone : (results[i]?).join = none := by
      simpa using fun hsome => hended (h i hsome)
    rw [List.getElem?_map]
    cases hresult : results[i]? with
    | none => rfl
    | some r =>
        rw [hresult, Option.join_some] at hnone
        rw [hnone, Option.map_some]

end Places

/-- Only sound packages have results, and these are the ones that are analysed. -/
theorem mem_passes_of_isSome_results
    {b : Batch} {extra : List Spec} {i : Nat} (h : (((b.results extra)[i]?).join).isSome) :
    i ∈ b.passes := by
  unfold Batch.results at h
  simp only [List.getElem?_map, List.getElem?_zipIdx] at h
  unfold Batch.passes
  cases hp : b.packages[i]? with
  | none => simp [hp] at h
  | some p =>
      cases hsound : p.isSound with
      | false => simp [hp, hsound] at h
      | true =>
          have hmem : (p, i) ∈ b.packages.zipIdx := List.mem_zipIdx_iff_getElem?.mpr hp
          exact List.mem_map.mpr ⟨(p, i), List.mem_filter.mpr ⟨hmem, hsound⟩, rfl⟩

theorem RunOptions.limit_pos
    (o : RunOptions) (machine : Machine) :
    0 < o.limit machine := by
  unfold RunOptions.limit
  split
  · exact machine.processors_pos
  · omega

/-- Every machine collects the result of every pass, however many passes it makes at once. -/
theorem collect_schedule
    (machine : Machine) (o : RunOptions) (b : Batch) :
    collect (b.results o.funcs) (machine.schedule (o.limit machine) b.passes) =
      b.results o.funcs := by
  apply collect_eq
  intro i hi
  have hperm := machine.schedule_perm (o.limit machine) b.passes (o.limit_pos machine)
  exact hperm.mem_iff.mpr (mem_passes_of_isSome_results hi)

theorem request_eq
    (o : RunOptions) :
    o.request =
      { dir := o.dir
        patterns := if o.patterns = [] then ["./..."] else o.patterns
        tests := o.tests } := by
  simp [RunOptions.request, defaultPatterns]

/-- A run succeeds exactly if the loader gives packages without errors of listing, and finds what is
found in these. The loader is asked for the packages that the patterns name, for all below the
directory if there are no patterns, and for tests if these are to be analysed. -/
theorem analyse_eq_ok_iff
    (machine : Machine) (load : Loader) (o : RunOptions) (found : Findings) :
    analyse machine load o = .ok found ↔
      ∃ batch,
        load
          { dir := o.dir
            patterns := if o.patterns = [] then ["./..."] else o.patterns
            tests := o.tests } = .ok batch ∧
        batch.packages ≠ [] ∧ batch.run o.funcs = .ok found.diagnostics ∧
        found.progress = batch.progress o.funcs := by
  rw [← request_eq]
  unfold analyse
  cases hload : load o.request with
  | error reason => simp
  | ok batch =>
      simp only [Except.ok.injEq, exists_eq_left', collect_schedule]
      by_cases hempty : batch.packages = []
      · simp [hempty]
      · simp only [List.isEmpty_iff, hempty, if_false, ne_eq, not_false_eq_true, true_and]
        unfold Batch.run
        cases hlist : batch.listErrors with
        | nil =>
            simp only [Except.ok.injEq]
            constructor
            · rintro rfl
              exact ⟨rfl, rfl⟩
            · rintro ⟨hdiagnostics, hprogress⟩
              rw [hdiagnostics, ← hprogress]
        | cons e errors => simp

end Host
end MustUse
