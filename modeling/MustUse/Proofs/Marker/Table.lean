import MustUse.Proofs.Marker.Reading

/-!
# The meaning of the marker table

The markers that a table has for a function are those that the added files attach to it, under any
of its views, in any order and however often. Every table that is reached keeps its entries in good
shape.

Main definitions:

- `Table.Marks`: a table has a marker for a function;
- `Table.WellFormed`: the shape of the entries.

Main statements:

- `marks_addFiles`: what more files add to the meaning of a table;
- `markers_eq_union_attached`: the meaning and the shape of every table that is reached.
-/

namespace MustUse
namespace Marker

open Syntax

namespace Table

/-- The table has the marker `n` for the function `f`. -/
def Marks (t : Table) (f : Func) (n : Name) : Prop :=
  ∃ s, t.markers f = some s ∧ n ∈ s

/-- The shape of the entries of a table: one for each function, kept for its origin, with at least
one marker, none twice, and with names that are written as they are read. -/
structure WellFormed (t : Table) : Prop where
  keys_nodup : (t.sets.map (·.1)).Nodup
  origin : ∀ e ∈ t.sets, e.1.origin = e.1
  nonempty : ∀ e ∈ t.sets, ∃ n, n ∈ e.2
  names_nodup : ∀ e ∈ t.sets, e.2.names.Nodup
  parsed : ∀ e ∈ t.sets, ∀ n ∈ e.2, Name.parse? n.text = some n

theorem lookup_cons_of_ne
    {f k : Func} (h : f ≠ k) (s : Set) (sets : List (Func × Set)) :
    ((k, s) :: sets).lookup f = sets.lookup f := by
  rw [List.lookup_cons, beq_eq_false_iff_ne.mpr h]

/-- Merging changes the entry of its own function only. -/
theorem lookup_mergeInto
    (f g : Func) (set : Set) (sets : List (Func × Set)) :
    (mergeInto g set sets).lookup f =
      if f = g then some ((sets.lookup g).elim set fun s => s.union set) else sets.lookup f := by
  induction sets with
  | nil =>
      by_cases h : f = g
      · simp [mergeInto, h]
      · rw [mergeInto, lookup_cons_of_ne h, if_neg h]
  | cons e sets ih =>
      obtain ⟨k, s⟩ := e
      by_cases hk : k = g
      · subst hk
        rw [mergeInto, if_pos rfl]
        by_cases h : f = k
        · simp [h]
        · rw [lookup_cons_of_ne h, lookup_cons_of_ne h, if_neg h]
      · rw [mergeInto, if_neg hk, lookup_cons_of_ne (Ne.symm hk)]
        by_cases h : f = k
        · subst h
          simp [hk]
        · rw [lookup_cons_of_ne h, lookup_cons_of_ne h, ih]

theorem map_fst_mergeInto
    (g : Func) (set : Set) (sets : List (Func × Set)) :
    (mergeInto g set sets).map (·.1) =
      if g ∈ sets.map (·.1) then sets.map (·.1) else sets.map (·.1) ++ [g] := by
  induction sets with
  | nil => simp [mergeInto]
  | cons e sets ih =>
      obtain ⟨k, s⟩ := e
      by_cases hk : k = g
      · subst hk
        simp [mergeInto]
      · rw [mergeInto, if_neg hk, List.map_cons, List.map_cons, ih]
        have hne : ¬ g = k := Ne.symm hk
        by_cases hmem : g ∈ sets.map (·.1)
        · simp [hmem]
        · simp [hmem, hne]

/-- What holds of all entries holds after merging, if it holds of the new entry and of the union
with an old one. -/
theorem forall_mem_mergeInto
    {P : Func × Set → Prop} {g : Func} {set : Set} {sets : List (Func × Set)}
    (hold : ∀ e ∈ sets, P e) (hnew : P (g, set))
    (hunion : ∀ s, (g, s) ∈ sets → P (g, s.union set)) :
    ∀ e ∈ mergeInto g set sets, P e := by
  induction sets with
  | nil =>
      intro e he
      rw [mergeInto, List.mem_singleton] at he
      rw [he]
      exact hnew
  | cons a sets ih =>
      obtain ⟨k, s⟩ := a
      have hrest : ∀ e ∈ sets, P e := by
        intro e he
        exact hold e (List.mem_cons_of_mem _ he)
      intro e he
      by_cases hk : k = g
      · subst hk
        rw [mergeInto, if_pos rfl, List.mem_cons] at he
        rcases he with rfl | he
        · exact hunion s List.mem_cons_self
        · exact hrest e he
      · rw [mergeInto, if_neg hk, List.mem_cons] at he
        rcases he with rfl | he
        · exact hold (k, s) List.mem_cons_self
        · exact ih hrest (fun s' hs' => hunion s' (List.mem_cons_of_mem _ hs')) e he

theorem wellFormed_empty :
    empty.WellFormed := by
  constructor
  · exact List.nodup_nil
  · intro e he
    cases he
  · intro e he
    cases he
  · intro e he
    cases he
  · intro e he
    cases he

theorem WellFormed.of_sets_eq
    {t t' : Table} (h : t.WellFormed) (hsets : t'.sets = t.sets) :
    t'.WellFormed := by
  obtain ⟨sets, found⟩ := t
  obtain ⟨sets', found'⟩ := t'
  cases hsets
  exact ⟨h.keys_nodup, h.origin, h.nonempty, h.names_nodup, h.parsed⟩

/-- One step: attaching a reading with names that are written as they are read. -/
theorem WellFormed.attach
    {t : Table} (h : t.WellFormed) (f : Func) {r : Reading}
    (hnodup : r.set.names.Nodup)
    (hparsed : ∀ n ∈ r.set, Name.parse? n.text = some n) :
    (t.attach f r).WellFormed := by
  by_cases hr : r.set.isEmpty = true
  · exact h.of_sets_eq (by simp [Table.attach, hr])
  · have hsets : (t.attach f r).sets = mergeInto f.origin r.set t.sets := by
      simp [Table.attach, hr]
    have hsome : ∃ n, n ∈ r.set := by
      by_contra hnone
      exact hr ((Set.isEmpty_eq_true_iff r.set).mpr fun n hn => hnone ⟨n, hn⟩)
    constructor
    · rw [hsets, map_fst_mergeInto]
      split
      · exact h.keys_nodup
      · rename_i hnew
        rw [List.nodup_append]
        refine ⟨h.keys_nodup, by simp, ?_⟩
        intro a ha b hb hab
        rw [List.mem_singleton] at hb
        rw [hab, hb] at ha
        exact hnew ha
    · rw [hsets]
      exact forall_mem_mergeInto h.origin rfl fun _ _ => rfl
    · rw [hsets]
      apply forall_mem_mergeInto h.nonempty hsome
      intro s _
      obtain ⟨n, hn⟩ := hsome
      exact ⟨n, (Set.mem_union s r.set n).mpr (Or.inr hn)⟩
    · rw [hsets]
      apply forall_mem_mergeInto h.names_nodup hnodup
      intro s hs
      exact Set.nodup_foldl_insert _ (h.names_nodup _ hs)
    · rw [hsets]
      apply forall_mem_mergeInto h.parsed hparsed
      intro s hs n hn
      rcases (Set.mem_union s r.set n).mp hn with hn | hn
      · exact h.parsed _ hs n hn
      · exact hparsed n hn

/-- One step: attaching a reading to `g` gives its markers to the views of `g`. -/
theorem marks_attach
    (t : Table) (f g : Func) (r : Reading) (n : Name) :
    (t.attach g r).Marks f n ↔ t.Marks f n ∨ (g.origin = f.origin ∧ n ∈ r.set) := by
  by_cases hr : r.set.isEmpty = true
  · have hnone := (Set.isEmpty_eq_true_iff r.set).mp hr
    have hmarkers : (t.attach g r).markers f = t.markers f := by
      simp [Table.attach, Table.markers, hr]
    unfold Marks
    rw [hmarkers]
    constructor
    · exact Or.inl
    · rintro (h | ⟨_, hn⟩)
      · exact h
      · exact absurd hn (hnone n)
  · have hmarkers :
        (t.attach g r).markers f = (mergeInto g.origin r.set t.sets).lookup f.origin := by
      simp [Table.attach, Table.markers, hr]
    unfold Marks
    rw [hmarkers, lookup_mergeInto]
    by_cases hfg : f.origin = g.origin
    · rw [if_pos hfg, ← hfg]
      unfold Table.markers
      cases t.sets.lookup f.origin with
      | none => simp
      | some s => simpa using Set.mem_union s r.set n
    · rw [if_neg hfg]
      constructor
      · exact Or.inl
      · rintro (h | ⟨hgf, _⟩)
        · exact h
        · exact absurd hgf.symm hfg

/-- A run of steps: the markers of several readings. -/
theorem marks_foldl_attach
    (readings : List (Func × Reading)) (t : Table) (f : Func) (n : Name) :
    (readings.foldl (fun t e => t.attach e.1 e.2) t).Marks f n ↔
      t.Marks f n ∨ ∃ e ∈ readings, e.1.origin = f.origin ∧ n ∈ e.2.set := by
  induction readings generalizing t with
  | nil => simp
  | cons e readings ih =>
      rw [List.foldl_cons, ih, marks_attach, or_assoc]
      simp only [List.mem_cons, exists_eq_or_imp]

/-- A run of steps: several readings with names that are written as they are read. -/
theorem WellFormed.foldl_attach
    {readings : List (Func × Reading)} {t : Table} (h : t.WellFormed)
    (hnodup : ∀ e ∈ readings, e.2.set.names.Nodup)
    (hparsed : ∀ e ∈ readings, ∀ n ∈ e.2.set, Name.parse? n.text = some n) :
    (readings.foldl (fun t e => t.attach e.1 e.2) t).WellFormed := by
  induction readings generalizing t with
  | nil => exact h
  | cons e readings ih =>
      apply ih
      · exact h.attach e.1 (hnodup e List.mem_cons_self) (hparsed e List.mem_cons_self)
      · intro e' he'
        exact hnodup e' (List.mem_cons_of_mem _ he')
      · intro e' he'
        exact hparsed e' (List.mem_cons_of_mem _ he')

theorem sets_addFile
    (t : Table) (file : File) :
    (t.addFile file).sets =
      (((sites file).filterMap (Site.read file)).foldl
        (fun t e => t.attach e.1 e.2) t).sets := by
  rfl

/-- What one more file adds to the meaning of a table. -/
theorem marks_addFile
    (t : Table) (file : File) (f : Func) (n : Name) :
    (t.addFile file).Marks f n ↔
      t.Marks f n ∨ ∃ g, g.origin = f.origin ∧ Attaches file g n := by
  have hmarks : (t.addFile file).Marks f n ↔
      (((sites file).filterMap (Site.read file)).foldl
        (fun t e => t.attach e.1 e.2) t).Marks f n := by
    unfold Marks markers
    rw [sets_addFile]
  rw [hmarks, marks_foldl_attach]
  apply or_congr Iff.rfl
  simp only [attaches_iff]
  constructor
  · rintro ⟨⟨g, r⟩, he, hg, hn⟩
    obtain ⟨s, hs, hr⟩ := List.mem_filterMap.mp he
    exact ⟨g, hg, s, hs, r, hr, hn⟩
  · rintro ⟨g, hg, s, hs, r, hr, hn⟩
    exact ⟨(g, r), List.mem_filterMap.mpr ⟨s, hs, hr⟩, hg, hn⟩

theorem WellFormed.addFile
    {t : Table} (h : t.WellFormed) (file : File) :
    (t.addFile file).WellFormed := by
  have hread : ∀ e ∈ (sites file).filterMap (Site.read file),
      ∃ s : Site, e.2 = s.reading file e.1 := by
    rintro ⟨f, r⟩ he
    obtain ⟨s, _, hr⟩ := List.mem_filterMap.mp he
    exact ⟨s, ((read_eq_some_iff file s f r).mp hr).2⟩
  refine WellFormed.of_sets_eq (h.foldl_attach ?_ ?_) (sets_addFile t file)
  · intro e he
    obtain ⟨s, hs⟩ := hread e he
    rw [hs]
    exact Set.nodup_foldl_insert _ List.nodup_nil
  · intro e he n hn
    obtain ⟨s, hs⟩ := hread e he
    rw [hs] at hn
    obtain ⟨c, _, hc⟩ := (mem_set_reading file s e.1 n).mp hn
    obtain ⟨d, hd, rfl, _⟩ := (marker?_eq_some_iff c n).mp hc
    exact parse?_text_of_parse? hd

/-- What more files add to the meaning of a table. -/
theorem marks_addFiles
    (t : Table) (files : List File) (f : Func) (n : Name) :
    (t.addFiles files).Marks f n ↔
      t.Marks f n ∨ ∃ file ∈ files, ∃ g, g.origin = f.origin ∧ Attaches file g n := by
  unfold addFiles
  induction files generalizing t with
  | nil => simp
  | cons file files ih =>
      rw [List.foldl_cons, ih, marks_addFile, or_assoc]
      simp only [List.mem_cons, exists_eq_or_imp]

theorem WellFormed.addFiles
    {t : Table} (h : t.WellFormed) (files : List File) :
    (t.addFiles files).WellFormed := by
  unfold Table.addFiles
  induction files generalizing t with
  | nil => exact h
  | cons file files ih => exact ih (h.addFile file)

theorem not_marks_empty
    (f : Func) (n : Name) :
    ¬ empty.Marks f n := by
  rintro ⟨s, hs, _⟩
  cases hs

/-- The table of some files has the markers that they attach. -/
theorem marks_build
    (files : List File) (f : Func) (n : Name) :
    (build files).Marks f n ↔
      ∃ file ∈ files, ∃ g, g.origin = f.origin ∧ Attaches file g n := by
  unfold build
  rw [marks_addFiles]
  exact or_iff_right (not_marks_empty f n)

theorem wellFormed_build
    (files : List File) :
    (build files).WellFormed := by
  exact wellFormed_empty.addFiles files

theorem foldl_addFiles
    (calls : List (List File)) (t : Table) :
    calls.foldl addFiles t = t.addFiles calls.flatten := by
  induction calls generalizing t with
  | nil => rfl
  | cons files calls ih =>
      rw [List.foldl_cons, ih, List.flatten_cons]
      unfold addFiles
      rw [List.foldl_append]

/-- The set that a table has for a function is the one in the entry of its origin. -/
theorem mem_sets_of_markers
    {t : Table} {f : Func} {s : Set} (hs : t.markers f = some s) :
    (f.origin, s) ∈ t.sets := by
  obtain ⟨l₁, l₂, hsets, _⟩ := List.lookup_eq_some_iff.mp hs
  rw [hsets]
  exact List.mem_append_right _ List.mem_cons_self

/-- A well-formed table has no set for a function exactly if it has no marker for it. -/
theorem WellFormed.markers_eq_none_iff
    {t : Table} (h : t.WellFormed) (f : Func) :
    t.markers f = none ↔ ∀ n, ¬ t.Marks f n := by
  constructor
  · rintro hnone n ⟨s, hs, _⟩
    rw [hnone] at hs
    cases hs
  · intro hno
    cases hs : t.markers f with
    | none => rfl
    | some s =>
        obtain ⟨n, hn⟩ := h.nonempty _ (mem_sets_of_markers hs)
        exact absurd ⟨s, hs, hn⟩ (hno n)

/-- Well-formed tables with the same markers for a function give it the same answer. -/
theorem rel_markers
    {t t' : Table} (h : t.WellFormed) (h' : t'.WellFormed) {f : Func}
    (hsame : ∀ n, t.Marks f n ↔ t'.Marks f n) :
    Option.Rel (fun s s' => ∀ n, n ∈ s ↔ n ∈ s') (t.markers f) (t'.markers f) := by
  cases hs : t.markers f with
  | none =>
      have hnone : t'.markers f = none := by
        rw [h'.markers_eq_none_iff]
        intro n hn
        exact (h.markers_eq_none_iff f).mp hs n ((hsame n).mpr hn)
      rw [hnone]
      exact Option.Rel.none
  | some s =>
      cases hs' : t'.markers f with
      | none =>
          have hnone : t.markers f = none := by
            rw [h.markers_eq_none_iff]
            intro n hn
            exact (h'.markers_eq_none_iff f).mp hs' n ((hsame n).mp hn)
          rw [hs] at hnone
          cases hnone
      | some s' =>
          refine Option.Rel.some fun n => ?_
          have hn := hsame n
          unfold Marks at hn
          rw [hs, hs'] at hn
          simpa using hn

end Table

/-- The meaning of the marker table, after files have been added in any calls. Its entries are
well-formed. The markers of a function are those that the added files attach to it or to another
view of it, and there is no set for a function exactly if nothing is attached. Only which files have
been added matters, not in which order, how often or in which calls. -/
theorem markers_eq_union_attached
    (calls : List (List File)) :
    (calls.foldl Table.addFiles Table.empty).WellFormed ∧
    (∀ f n, (calls.foldl Table.addFiles Table.empty).Marks f n ↔
      ∃ file ∈ calls.flatten, ∃ g, g.origin = f.origin ∧ Attaches file g n) ∧
    (∀ f, (calls.foldl Table.addFiles Table.empty).markers f = none ↔
      ∀ file ∈ calls.flatten, ∀ g n, g.origin = f.origin → ¬ Attaches file g n) ∧
    ∀ calls' : List (List File),
      (∀ file, file ∈ calls'.flatten ↔ file ∈ calls.flatten) →
      ∀ f, Option.Rel (fun s s' => ∀ n, n ∈ s ↔ n ∈ s')
        ((calls.foldl Table.addFiles Table.empty).markers f)
        ((calls'.foldl Table.addFiles Table.empty).markers f) := by
  have hbuild : ∀ calls : List (List File),
      calls.foldl Table.addFiles Table.empty = Table.build calls.flatten := by
    intro calls
    exact Table.foldl_addFiles calls Table.empty
  simp only [hbuild]
  refine ⟨Table.wellFormed_build _, Table.marks_build _, ?_, ?_⟩
  · intro f
    rw [(Table.wellFormed_build _).markers_eq_none_iff]
    simp only [Table.marks_build]
    constructor
    · intro h file hfile g n hg hn
      exact h n ⟨file, hfile, g, hg, hn⟩
    · rintro h n ⟨file, hfile, g, hg, hn⟩
      exact h file hfile g n hg hn
  · intro calls' hfiles f
    apply Table.rel_markers (Table.wellFormed_build _) (Table.wellFormed_build _)
    intro n
    rw [Table.marks_build, Table.marks_build]
    simp only [hfiles]

end Marker
end MustUse
