import MustUse.Proofs.Marker.Table
import Mathlib.Data.List.Nodup

/-!
# Accounting for must-use directives

Every must-use directive of a file is accounted for exactly once: it is misplaced, it has arguments,
it stands on a function without results, or it is accepted. The first three give one issue each, the
last two give the marker to the function, and there are no other issues.

The directives that are left over, when all declarations have been read, may be met in any order.
The issues are listed by place, so the order does not show.

Main definitions:

- `unattached`, `Table.addFileInOrder`: the directives left over, and the table that meets them in a
  given order;
- `attachments`: the comments of doc comments with the functions they document;
- `Disposition`: what becomes of a directive.

Main statement: `mustUse_accounted_once`.
-/

namespace MustUse
namespace Marker

open Syntax

/-- The offsets of the must-use directives of a file that are in no doc comment of a function. -/
def unattached (file : File) : List Nat :=
  (Table.mustUseOffsets file).filter fun offset =>
    !(((sites file).filterMap (Site.read file)).flatMap (·.2.attached)).contains offset

/-- The table with the directives of one more file, where the directives left over are met in the
order `left`. -/
def Table.addFileInOrder (t : Table) (file : File) (left : List Nat) : Table :=
  let table := ((sites file).filterMap (Site.read file)).foldl (fun t e => t.attach e.1 e.2) t
  { table with found := table.found ++ left.map (misplaced file) }

/-- A file is added with the directives left over in the order of its comments. -/
theorem addFile_eq_addFileInOrder
    (t : Table) (file : File) :
    t.addFile file = t.addFileInOrder file (unattached file) := by
  rfl

/-- The comments of a site, each with the function that the site declares. -/
def Site.attachments (file : File) (s : Site) : List (Func × Comment) :=
  s.func?.elim [] fun f => (s.comments file).map fun c => (f, c)

/-- The comments of doc comments, each with the function it documents. -/
def attachments (file : File) : List (Func × Comment) :=
  (sites file).flatMap (Site.attachments file)

theorem Site.mem_attachments
    (file : File) (s : Site) (a : Func × Comment) :
    a ∈ s.attachments file ↔ s.func? = some a.1 ∧ a.2 ∈ s.comments file := by
  obtain ⟨f, c⟩ := a
  unfold Site.attachments
  cases s.func? with
  | none => simp
  | some g => simp [and_comm]

theorem mem_attachments
    (file : File) (f : Func) (c : Comment) :
    (f, c) ∈ attachments file ↔ Documents file c f := by
  unfold attachments
  rw [documents_iff, List.mem_flatMap]
  simp only [Site.mem_attachments]

/-- What is collected from the readings of a file is collected from its attachments. -/
theorem flatMap_readings
    {β : Type} (file : File) (g : Func × Reading → List β) (k : Func × Comment → List β)
    (hgk : ∀ (s : Site) (f : Func),
      g (f, s.reading file f) = (s.comments file).flatMap fun c => k (f, c)) :
    ((sites file).filterMap (Site.read file)).flatMap g = (attachments file).flatMap k := by
  unfold attachments
  rw [List.filterMap_eq_flatMap_toList, List.flatMap_assoc, List.flatMap_assoc]
  apply List.flatMap_congr
  intro s _
  unfold Site.attachments
  cases hf : s.func? with
  | none => simp [Site.read, hf]
  | some f =>
      have hread : s.read file = some (f, s.reading file f) :=
        (read_eq_some_iff file s f _).mpr ⟨hf, rfl⟩
      simp [hread, hgk, List.flatMap_map]

theorem issues_readings
    (file : File) :
    ((sites file).filterMap (Site.read file)).flatMap (·.2.issues) =
      (attachments file).filterMap fun a => issue? file a.1 a.2 := by
  rw [List.filterMap_eq_flatMap_toList _ (attachments file)]
  apply flatMap_readings
  intro s f
  exact List.filterMap_eq_flatMap_toList (issue? file f) (s.comments file)

theorem attached_readings
    (file : File) :
    ((sites file).filterMap (Site.read file)).flatMap (·.2.attached) =
      (attachments file).flatMap fun a => if isMustUse a.2 then [a.2.offset] else [] := by
  apply flatMap_readings
  intro s f
  unfold Site.reading
  induction s.comments file with
  | nil => rfl
  | cons c cs ih =>
      simp only at ih
      cases hc : isMustUse c with
      | true => simp [hc, ih]
      | false => simp [hc, ih]

section Distinct

variable {file : File} (hpos : (file.allComments.map (·.offset)).Nodup)

theorem mem_allComments_of_mem_group
    {number : Nat} {c : Comment} (hc : c ∈ file.group number) :
    c ∈ file.allComments := by
  unfold File.group at hc
  cases hg : file.comments[number]? with
  | none => simp [hg] at hc
  | some group =>
      simp only [hg, Option.getD_some] at hc
      exact List.mem_flatten.mpr ⟨group, List.mem_of_getElem? hg, hc⟩

include hpos

theorem eq_of_offset_eq
    {c c' : Comment} (hc : c ∈ file.allComments) (hc' : c' ∈ file.allComments)
    (h : c.offset = c'.offset) :
    c = c' := by
  exact List.inj_on_of_nodup_map hpos hc hc' h

theorem pairwise_group
    (number : Nat) :
    (file.group number).Pairwise fun c c' => c.offset ≠ c'.offset := by
  have h : file.comments.flatten.Pairwise fun c c' => c.offset ≠ c'.offset :=
    List.pairwise_map.mp hpos
  unfold File.group
  cases hg : file.comments[number]? with
  | none => exact List.Pairwise.nil
  | some group => exact (List.pairwise_flatten.mp h).1 group (List.mem_of_getElem? hg)

theorem offset_ne_of_groups
    {k l : Nat} (hkl : k ≠ l) {c c' : Comment}
    (hc : c ∈ file.group k) (hc' : c' ∈ file.group l) :
    c.offset ≠ c'.offset := by
  have h : file.comments.flatten.Pairwise fun c c' => c.offset ≠ c'.offset :=
    List.pairwise_map.mp hpos
  have hgroups := List.pairwise_iff_getElem.mp (List.pairwise_flatten.mp h).2
  have hmem : ∀ (m : Nat) (x : Comment), x ∈ file.group m →
      ∃ hm : m < file.comments.length, x ∈ file.comments[m] := by
    intro m x hx
    unfold File.group at hx
    cases hg : file.comments[m]? with
    | none => simp [hg] at hx
    | some group =>
        obtain ⟨hm, he⟩ := List.getElem?_eq_some_iff.mp hg
        simp only [hg, Option.getD_some] at hx
        exact ⟨hm, by rw [he]; exact hx⟩
  obtain ⟨hk, hck⟩ := hmem k c hc
  obtain ⟨hl, hcl⟩ := hmem l c' hc'
  rcases Nat.lt_or_gt_of_ne hkl with hlt | hgt
  · exact hgroups k l hk hl hlt c hck c' hcl
  · exact (hgroups l k hl hk hgt c' hcl c hck).symm

/-- No offset is met twice among the attachments. -/
theorem pairwise_attachments
    (hdoc : DocsUnshared file) :
    (attachments file).Pairwise fun a b => a.2.offset ≠ b.2.offset := by
  unfold attachments
  rw [List.pairwise_flatMap]
  constructor
  · intro s _
    unfold Site.attachments Site.comments
    cases s.func? with
    | none => exact List.Pairwise.nil
    | some f =>
        cases s.doc with
        | none => exact List.Pairwise.nil
        | some number => exact List.pairwise_map.mpr (pairwise_group hpos number)
  · refine hdoc.pairwise_sites.imp ?_
    intro s s' hapart a ha b hb
    obtain ⟨hf, hc⟩ := (Site.mem_attachments file s a).mp ha
    obtain ⟨hg, hc'⟩ := (Site.mem_attachments file s' b).mp hb
    obtain ⟨k, hk, hc⟩ := (mem_comments file s a.2).mp hc
    obtain ⟨l, hl, hc'⟩ := (mem_comments file s' b.2).mp hc'
    have hkl : k ≠ l := by
      rintro rfl
      exact hapart _ _ k hf hg hk hl
    exact offset_ne_of_groups hpos hkl hc hc'

/-- A comment documents one function at most. -/
theorem Documents.func_unique
    (hdoc : DocsUnshared file) {c : Comment} {f g : Func}
    (hf : Documents file c f) (hg : Documents file c g) :
    f = g := by
  have hnodup : ((attachments file).map (·.2.offset)).Nodup :=
    List.pairwise_map.mpr (pairwise_attachments hpos hdoc)
  have heq : (f, c) = (g, c) := List.inj_on_of_nodup_map hnodup
    ((mem_attachments file f c).mpr hf) ((mem_attachments file g c).mpr hg) rfl
  exact congrArg Prod.fst heq

end Distinct

theorem Documents.mem_allComments
    {file : File} {c : Comment} {f : Func} (h : Documents file c f) :
    c ∈ file.allComments := by
  obtain ⟨_, _, number, _, hc⟩ := h
  exact mem_allComments_of_mem_group hc

section LeftOver

theorem nodup_eraseDups
    (l : List Nat) :
    l.eraseDups.Nodup := by
  match l with
  | [] => exact List.nodup_nil
  | a :: l =>
      rw [List.eraseDups_cons, List.nodup_cons]
      constructor
      · intro ha
        simpa using List.mem_eraseDups.mp ha
      · exact nodup_eraseDups _
termination_by l.length
decreasing_by exact Nat.lt_succ_of_le (List.length_filter_le _ _)

theorem nodup_unattached
    (file : File) :
    (unattached file).Nodup := by
  exact (nodup_eraseDups _).sublist List.filter_sublist

theorem mem_mustUseOffsets
    (file : File) (offset : Nat) :
    offset ∈ Table.mustUseOffsets file ↔
      ∃ c ∈ file.allComments, isMustUse c = true ∧ c.offset = offset := by
  unfold Table.mustUseOffsets
  rw [List.mem_eraseDups, List.mem_filterMap]
  apply exists_congr
  intro c
  apply and_congr_right
  intro _
  unfold isMustUse
  cases Directive.parse? c.text with
  | none => simp
  | some d =>
      by_cases hd : d.isMustUse = true
      · simp [hd]
      · simp [hd]

/-- The directives left over are those that document no function. -/
theorem mem_unattached
    {file : File} (hpos : (file.allComments.map (·.offset)).Nodup) (offset : Nat) :
    offset ∈ unattached file ↔
      ∃ c ∈ file.allComments, isMustUse c = true ∧ (∀ f, ¬ Documents file c f) ∧
        c.offset = offset := by
  unfold unattached
  rw [List.mem_filter, mem_mustUseOffsets, attached_readings]
  simp only [Bool.not_eq_true', List.contains_eq_mem, decide_eq_false_iff_not, List.mem_flatMap]
  constructor
  · rintro ⟨⟨c, hc, hmust, hoff⟩, hnot⟩
    refine ⟨c, hc, hmust, ?_, hoff⟩
    intro f hf
    refine hnot ⟨(f, c), (mem_attachments file f c).mpr hf, ?_⟩
    simp [hmust, hoff]
  · rintro ⟨c, hc, hmust, hnone, hoff⟩
    refine ⟨⟨c, hc, hmust, hoff⟩, ?_⟩
    rintro ⟨⟨f, c'⟩, ha, hmem⟩
    have hf := (mem_attachments file f c').mp ha
    by_cases hmust' : isMustUse c' = true
    · simp only [hmust', if_true, List.mem_singleton] at hmem
      have heq : c = c' := eq_of_offset_eq hpos hc hf.mem_allComments (hoff.trans hmem)
      rw [heq] at hnone
      exact hnone f hf
    · simp [hmust'] at hmem

end LeftOver

section Issues

/-- One issue is before another in the same file. -/
def Issue.Before (i j : Issue) : Prop :=
  ∃ p q, i.place = some p ∧ j.place = some q ∧ p.file = q.file ∧ p.offset < q.offset

theorem offset_eq_of_place_eq
    {file : File} {a b : Nat} (h : some (file.place a) = some (file.place b)) :
    a = b := by
  exact congrArg Place.offset (Option.some.inj h)

/-- An issue of a doc comment is at the must-use directive it is about. -/
theorem place_of_issue?
    {file : File} {f : Func} {c : Comment} {i : Issue}
    (h : issue? file f c = some i) :
    isMustUse c = true ∧ i.place = some (file.place c.offset) := by
  unfold issue? at h
  obtain ⟨d, hd, h⟩ := Option.bind_eq_some_iff.mp h
  unfold isMustUse
  rw [hd]
  split at h
  · rename_i hmust
    refine ⟨hmust, ?_⟩
    split at h
    · cases h
      rfl
    · split at h
      · cases h
      · cases h
        rfl
  · cases h

theorem found_foldl_attach
    (readings : List (Func × Reading)) (t : Table) :
    (readings.foldl (fun t e => t.attach e.1 e.2) t).found =
      t.found ++ readings.flatMap (·.2.issues) := by
  induction readings generalizing t with
  | nil => simp
  | cons e readings ih =>
      rw [List.foldl_cons, ih, List.flatMap_cons, ← List.append_assoc]
      rfl

/-- The issues of one file: those of its doc comments and one for each directive left over. -/
theorem found_addFileInOrder
    (file : File) (left : List Nat) :
    (Table.empty.addFileInOrder file left).found =
      ((attachments file).filterMap fun a => issue? file a.1 a.2) ++
        left.map (Table.misplaced file) := by
  unfold Table.addFileInOrder
  simp only
  rw [found_foldl_attach, issues_readings]
  rfl

/-- The issues of a table at the place of a comment. -/
def Table.issuesAt (t : Table) (file : File) (c : Comment) : List Issue :=
  t.issues.filter fun i => i.place = some (file.place c.offset)

variable {file : File} (hpos : (file.allComments.map (·.offset)).Nodup)
variable {left : List Nat} (hleft : left.Perm (unattached file))
include hpos hleft

theorem mem_issues
    (i : Issue) :
    i ∈ (Table.empty.addFileInOrder file left).issues ↔
      (∃ c f, Documents file c f ∧ issue? file f c = some i) ∨
      ∃ c ∈ file.allComments, isMustUse c = true ∧ (∀ f, ¬ Documents file c f) ∧
        i = Table.misplaced file c.offset := by
  unfold Table.issues
  rw [List.mem_mergeSort, found_addFileInOrder, List.mem_append, List.mem_filterMap, List.mem_map]
  constructor
  · rintro (⟨⟨f, c⟩, ha, hi⟩ | ⟨offset, ho, rfl⟩)
    · exact Or.inl ⟨c, f, (mem_attachments file f c).mp ha, hi⟩
    · obtain ⟨c, hc, hmust, hnone, rfl⟩ := (mem_unattached hpos offset).mp (hleft.mem_iff.mp ho)
      exact Or.inr ⟨c, hc, hmust, hnone, rfl⟩
  · rintro (⟨c, f, hf, hi⟩ | ⟨c, hc, hmust, hnone, rfl⟩)
    · exact Or.inl ⟨(f, c), (mem_attachments file f c).mpr hf, hi⟩
    · refine Or.inr ⟨c.offset, hleft.mem_iff.mpr ?_, rfl⟩
      exact (mem_unattached hpos c.offset).mpr ⟨c, hc, hmust, hnone, rfl⟩

/-- An issue of a doc comment is at an attached directive, the others are at those left over. -/
theorem pairwise_found
    (hdoc : DocsUnshared file) :
    (Table.empty.addFileInOrder file left).found.Pairwise fun i j => i.place ≠ j.place := by
  rw [found_addFileInOrder, List.pairwise_append]
  refine ⟨?_, ?_, ?_⟩
  · rw [List.pairwise_filterMap]
    refine (pairwise_attachments hpos hdoc).imp ?_
    intro a b hne i hi j hj heq
    rw [(place_of_issue? hi).2, (place_of_issue? hj).2] at heq
    exact hne (offset_eq_of_place_eq heq)
  · rw [List.pairwise_map]
    have hnodup : left.Nodup := hleft.nodup_iff.mpr (nodup_unattached file)
    refine hnodup.imp ?_
    intro a b hne heq
    exact hne (offset_eq_of_place_eq heq)
  · intro i hi j hj heq
    obtain ⟨⟨f, c⟩, ha, hi⟩ := List.mem_filterMap.mp hi
    obtain ⟨offset, ho, rfl⟩ := List.mem_map.mp hj
    obtain ⟨c', hc', _, hnone, rfl⟩ := (mem_unattached hpos offset).mp (hleft.mem_iff.mp ho)
    have hf := (mem_attachments file f c).mp ha
    rw [(place_of_issue? hi).2] at heq
    have hcc : c = c' :=
      eq_of_offset_eq hpos hf.mem_allComments hc' (offset_eq_of_place_eq heq)
    rw [← hcc] at hnone
    exact hnone f hf

/-- The issues are listed by strictly increasing place. -/
theorem pairwise_issues
    (hdoc : DocsUnshared file) :
    (Table.empty.addFileInOrder file left).issues.Pairwise Issue.Before := by
  have hplace : ∀ i ∈ (Table.empty.addFileInOrder file left).issues,
      ∃ offset, i.place = some (file.place offset) := by
    intro i hi
    rcases (mem_issues hpos hleft i).mp hi with ⟨c, f, _, hi⟩ | ⟨c, _, _, _, rfl⟩
    · exact ⟨c.offset, (place_of_issue? hi).2⟩
    · exact ⟨c.offset, rfl⟩
  have hsorted : (Table.empty.addFileInOrder file left).issues.Pairwise fun i j =>
      Place.leMissingFirst i.place j.place = true := by
    apply List.pairwise_mergeSort
    · intro i j k
      exact Place.leMissingFirst_trans i.place j.place k.place
    · intro i j
      exact Place.leMissingFirst_total i.place j.place
  have hdistinct : (Table.empty.addFileInOrder file left).issues.Pairwise fun i j =>
      i.place ≠ j.place :=
    (List.mergeSort_perm _ _).symm.pairwise (pairwise_found hpos hleft hdoc) Ne.symm
  refine (hsorted.and hdistinct).imp_of_mem ?_
  rintro i j hi hj ⟨hle, hne⟩
  obtain ⟨a, ha⟩ := hplace i hi
  obtain ⟨b, hb⟩ := hplace j hj
  rw [ha, hb] at hle hne
  refine ⟨file.place a, file.place b, ha, hb, rfl, ?_⟩
  have hab : a ≠ b := by
    rintro rfl
    exact hne rfl
  rcases (Place.le_iff (file.place a) (file.place b)).mp hle with hlt | ⟨_, hle⟩
  · exact absurd hlt (Nat.lt_irrefl file.id)
  · exact Nat.lt_of_le_of_ne hle hab

/-- At the place of an issue there is no other. -/
theorem filter_issues_eq_singleton
    (hdoc : DocsUnshared file) {i : Issue}
    (hi : i ∈ (Table.empty.addFileInOrder file left).issues) :
    ((Table.empty.addFileInOrder file left).issues.filter fun j => j.place = i.place) = [i] := by
  have hdistinct : (Table.empty.addFileInOrder file left).issues.Pairwise fun i j =>
      i.place ≠ j.place :=
    (List.mergeSort_perm _ _).symm.pairwise (pairwise_found hpos hleft hdoc) Ne.symm
  obtain ⟨before, after, heq⟩ := List.append_of_mem hi
  rw [heq, List.pairwise_append, List.pairwise_cons] at hdistinct
  obtain ⟨_, ⟨hafter, _⟩, hbefore⟩ := hdistinct
  have hnil : before.filter (fun j => j.place = i.place) = [] := by
    rw [List.filter_eq_nil_iff]
    intro j hj
    simpa using hbefore j hj i List.mem_cons_self
  have hnil' : after.filter (fun j => j.place = i.place) = [] := by
    rw [List.filter_eq_nil_iff]
    intro j hj
    simpa using (hafter j hj).symm
  rw [heq, List.filter_append, List.filter_cons, hnil, hnil']
  simp

/-- The issues do not depend on the order in which the directives left over are met. -/
theorem issues_eq_of_perm
    (hdoc : DocsUnshared file) {left' : List Nat} (hleft' : left'.Perm (unattached file)) :
    (Table.empty.addFileInOrder file left).issues =
      (Table.empty.addFileInOrder file left').issues := by
  refine List.Perm.eq_of_pairwise ?_ (pairwise_issues hpos hleft hdoc)
    (pairwise_issues hpos hleft' hdoc) ?_
  · rintro i j _ _ ⟨p, q, hi, hj, _, hlt⟩ ⟨q', p', hj', hi', _, hlt'⟩
    rw [hi] at hi'
    rw [hj] at hj'
    cases hi'
    cases hj'
    exact absurd hlt' (Nat.lt_asymm hlt)
  · refine (List.mergeSort_perm _ _).trans (List.Perm.trans ?_ (List.mergeSort_perm _ _).symm)
    rw [found_addFileInOrder, found_addFileInOrder]
    exact ((hleft.trans hleft'.symm).map _).append_left _

/-- At a comment in the doc comment of `f` stands what is wrong with it there. -/
theorem issuesAt_of_documents
    (hdoc : DocsUnshared file) {c : Comment} {f : Func} (hf : Documents file c f) :
    (Table.empty.addFileInOrder file left).issuesAt file c = (issue? file f c).toList := by
  unfold Table.issuesAt
  cases hi : issue? file f c with
  | some i =>
      have hmem := (mem_issues hpos hleft i).mpr (Or.inl ⟨c, f, hf, hi⟩)
      rw [← (place_of_issue? hi).2]
      exact filter_issues_eq_singleton hpos hleft hdoc hmem
  | none =>
      rw [Option.toList_none, List.filter_eq_nil_iff]
      intro j hj hplace
      rw [decide_eq_true_eq] at hplace
      rcases (mem_issues hpos hleft j).mp hj with ⟨c', g, hg, hj⟩ | ⟨c', hc', _, hnone, rfl⟩
      · rw [(place_of_issue? hj).2] at hplace
        have hcc : c' = c :=
          eq_of_offset_eq hpos hg.mem_allComments hf.mem_allComments
            (offset_eq_of_place_eq hplace)
        rw [hcc] at hg hj
        rw [← hf.func_unique hpos hdoc hg, hi] at hj
        cases hj
      · have hcc : c' = c :=
          eq_of_offset_eq hpos hc' hf.mem_allComments (offset_eq_of_place_eq hplace)
        rw [hcc] at hnone
        exact hnone f hf

/-- At a must-use directive that documents no function stands that it is misplaced. -/
theorem issuesAt_of_not_documents
    (hdoc : DocsUnshared file) {c : Comment} (hc : c ∈ file.allComments)
    (hmust : isMustUse c = true) (hnone : ∀ f, ¬ Documents file c f) :
    (Table.empty.addFileInOrder file left).issuesAt file c =
      [Table.misplaced file c.offset] := by
  have hmem := (mem_issues hpos hleft (Table.misplaced file c.offset)).mpr
    (Or.inr ⟨c, hc, hmust, hnone, rfl⟩)
  exact filter_issues_eq_singleton hpos hleft hdoc hmem

end Issues

/-- What becomes of a must-use directive. -/
inductive Disposition where
  /-- It documents no function. -/
  | misplaced
  /-- It documents `f` and has arguments. -/
  | arguments (f : Func)
  /-- It documents `f`, which has no results, and marks it. -/
  | useless (f : Func)
  /-- It documents `f`, which has results, and marks it. -/
  | accepted (f : Func)

/-- When a directive has the given disposition: what it is attached to, and what the table says
about it. -/
def Disposition.Holds (file : File) (t : Table) (c : Comment) (d : Directive) :
    Disposition → Prop
  | .misplaced =>
      (∀ f, ¬ Documents file c f) ∧
        t.issuesAt file c = [⟨.misplaced, some (file.place c.offset), ""⟩]
  | .arguments f =>
      Documents file c f ∧ d.args ≠ "" ∧
        t.issuesAt file c = [⟨.hasArgs, some (file.place c.offset), f.name⟩]
  | .useless f =>
      Documents file c f ∧ d.args = "" ∧ f.returnsValue = false ∧
        t.issuesAt file c = [⟨.noResult, some (file.place c.offset), f.name⟩] ∧
        t.Marks f Name.mustUse
  | .accepted f =>
      Documents file c f ∧ d.args = "" ∧ f.returnsValue = true ∧
        t.issuesAt file c = [] ∧ t.Marks f Name.mustUse

/-- The markers of a file do not depend on the order of the directives left over. -/
theorem marks_addFileInOrder
    (t : Table) (file : File) (left : List Nat) (f : Func) (n : Name) :
    (t.addFileInOrder file left).Marks f n ↔
      t.Marks f n ∨ ∃ g, g.origin = f.origin ∧ Attaches file g n := by
  exact t.marks_addFile file f n

/-- What is wrong with a must-use directive in the doc comment of `f`. -/
theorem issue?_of_mustUse
    {file : File} {f : Func} {c : Comment} {d : Directive}
    (hd : Directive.parse? c.text = some d) (hname : d.name = Name.mustUse) :
    issue? file f c =
      if d.args ≠ "" then some ⟨.hasArgs, some (file.place c.offset), f.name⟩
      else if f.returnsValue then none
      else some ⟨.noResult, some (file.place c.offset), f.name⟩ := by
  unfold issue?
  rw [hd, Option.bind_some, if_pos]
  exact decide_eq_true hname

theorem exists_disposition
    {file : File} (hpos : (file.allComments.map (·.offset)).Nodup) (hdoc : DocsUnshared file)
    {left : List Nat} (hleft : left.Perm (unattached file))
    {c : Comment} {d : Directive} (hc : c ∈ file.allComments)
    (hd : Directive.parse? c.text = some d) (hname : d.name = Name.mustUse) :
    ∃ k : Disposition, k.Holds file (Table.empty.addFileInOrder file left) c d := by
  by_cases hex : ∃ f, Documents file c f
  · obtain ⟨f, hf⟩ := hex
    have hissues := issuesAt_of_documents hpos hleft hdoc hf
    rw [issue?_of_mustUse hd hname] at hissues
    by_cases hargs : d.args = ""
    · have hmarks : (Table.empty.addFileInOrder file left).Marks f Name.mustUse := by
        rw [marks_addFileInOrder]
        exact Or.inr ⟨f, rfl, c, d, hf, hd, hname, fun _ => hargs⟩
      rw [if_neg (not_not_intro hargs)] at hissues
      cases hresult : f.returnsValue with
      | true =>
          rw [if_pos hresult] at hissues
          exact ⟨.accepted f, hf, hargs, hresult, hissues, hmarks⟩
      | false =>
          rw [if_neg (by simp [hresult])] at hissues
          exact ⟨.useless f, hf, hargs, hresult, hissues, hmarks⟩
    · rw [if_pos hargs] at hissues
      exact ⟨.arguments f, hf, hargs, hissues⟩
  · have hnone : ∀ f, ¬ Documents file c f := fun f hf => hex ⟨f, hf⟩
    have hmust := (isMustUse_iff c).mpr ⟨d, hd, hname⟩
    exact ⟨.misplaced, hnone, issuesAt_of_not_documents hpos hleft hdoc hc hmust hnone⟩

/-- A directive has one disposition at most: the conditions exclude each other, and the function is
determined by the comment. -/
theorem disposition_unique
    {file : File} (hpos : (file.allComments.map (·.offset)).Nodup) (hdoc : DocsUnshared file)
    {t : Table} {c : Comment} {d : Directive} {k k' : Disposition}
    (hk : k.Holds file t c d) (hk' : k'.Holds file t c d) :
    k = k' := by
  have hfunc : ∀ {f g : Func}, Documents file c f → Documents file c g → f = g :=
    fun hf hg => hf.func_unique hpos hdoc hg
  cases k with
  | misplaced =>
      cases k' with
      | misplaced => rfl
      | arguments g => exact absurd hk'.1 (hk.1 g)
      | useless g => exact absurd hk'.1 (hk.1 g)
      | accepted g => exact absurd hk'.1 (hk.1 g)
  | arguments f =>
      cases k' with
      | misplaced => exact absurd hk.1 (hk'.1 f)
      | arguments g => rw [hfunc hk.1 hk'.1]
      | useless g => exact absurd hk'.2.1 hk.2.1
      | accepted g => exact absurd hk'.2.1 hk.2.1
  | useless f =>
      cases k' with
      | misplaced => exact absurd hk.1 (hk'.1 f)
      | arguments g => exact absurd hk.2.1 hk'.2.1
      | useless g => rw [hfunc hk.1 hk'.1]
      | accepted g =>
          have hresult := hk'.2.2.1
          rw [← hfunc hk.1 hk'.1, hk.2.2.1] at hresult
          cases hresult
  | accepted f =>
      cases k' with
      | misplaced => exact absurd hk.1 (hk'.1 f)
      | arguments g => exact absurd hk.2.1 hk'.2.1
      | useless g =>
          have hresult := hk'.2.2.1
          rw [← hfunc hk.1 hk'.1, hk.2.2.1] at hresult
          cases hresult
      | accepted g => rw [hfunc hk.1 hk'.1]

/-- Every must-use directive of a file is accounted for exactly once, in whatever order the
directives left over are met: it has exactly one disposition, there are no issues but those at
must-use directives, and the issues are listed by strictly increasing place, so that the list is the
same for every such order. -/
theorem mustUse_accounted_once
    (file : File)
    (hpos : (file.allComments.map (·.offset)).Nodup)
    (hdoc : DocsUnshared file)
    (left : List Nat)
    (hleft : left.Perm (unattached file)) :
    (∀ c d, c ∈ file.allComments → Directive.parse? c.text = some d →
      d.name = Name.mustUse →
      ∃! k : Disposition, k.Holds file (Table.empty.addFileInOrder file left) c d) ∧
    (∀ i ∈ (Table.empty.addFileInOrder file left).issues,
      ∃ c ∈ file.allComments, ∃ d, Directive.parse? c.text = some d ∧
        d.name = Name.mustUse ∧ i.place = some (file.place c.offset)) ∧
    (Table.empty.addFileInOrder file left).issues.Pairwise Issue.Before ∧
    (Table.empty.addFileInOrder file left).issues = (Table.empty.addFiles [file]).issues := by
  refine ⟨?_, ?_, pairwise_issues hpos hleft hdoc, ?_⟩
  · intro c d hc hd hname
    obtain ⟨k, hk⟩ := exists_disposition hpos hdoc hleft hc hd hname
    exact ⟨k, hk, fun k' hk' => disposition_unique hpos hdoc hk' hk⟩
  · intro i hi
    rcases (mem_issues hpos hleft i).mp hi with ⟨c, f, hf, hi⟩ | ⟨c, hc, hmust, _, rfl⟩
    · obtain ⟨hmust, hplace⟩ := place_of_issue? hi
      obtain ⟨d, hd, hname⟩ := (isMustUse_iff c).mp hmust
      exact ⟨c, hf.mem_allComments, d, hd, hname, hplace⟩
    · obtain ⟨d, hd, hname⟩ := (isMustUse_iff c).mp hmust
      exact ⟨c, hc, d, hd, hname, rfl⟩
  · have hfile :
        Table.empty.addFiles [file] = Table.empty.addFileInOrder file (unattached file) :=
      addFile_eq_addFileInOrder Table.empty file
    rw [hfile]
    exact issues_eq_of_perm hpos hleft hdoc (List.Perm.refl (unattached file))

/-- A function declaration with a doc comment. -/
def fiveDirectivesDecl (id results doc : Nat) : Node :=
  .mk .funcDecl .decls { doc := some doc }
    [.mk .ident .name
      { defines := some (.func (.declared
          { id := id, name := "F", package := none
            signature := some { receiver := none, results := results }, place := none })) } []]

/-- A file with five must-use directives: on a function with a result, on one without, with
arguments, and two that document nothing. -/
def fiveDirectives : File :=
  { id := 0
    packageStart := 0
    comments :=
      [[⟨10, "//retval:mustuse"⟩], [⟨20, "//retval:mustuse"⟩], [⟨30, "//retval:mustuse now"⟩],
        [⟨40, "//retval:mustuse"⟩], [⟨50, "// retval:mustuse"⟩]]
    decls :=
      [fiveDirectivesDecl 0 1 0, fiveDirectivesDecl 1 0 1, fiveDirectivesDecl 2 1 2] }

/-- In this file, the declaration with the number `k` has the comment group with this number. -/
theorem declares_fiveDirectives
    {p : TreePath} {i doc : Option Nat} {f : Func} (h : Declares fiveDirectives p i doc f) :
    i = none ∧ p.map some = [doc] := by
  have hnodes : ∀ {n : Node}, fiveDirectives.root.at? p = some n →
      n.kind ≠ .interfaceType ∧ (n.kind = .funcDecl → p.map some = [n.attrs.doc]) := by
    intro n hn
    have hmem := (Node.mem_addressed _ _ _).mpr hn
    simp only [fiveDirectives, fiveDirectivesDecl, File.root, Node.addressed, Node.addressedFrom,
      List.map_cons, List.map_nil, List.append_nil, List.cons_append, List.nil_append,
      List.mem_cons, List.not_mem_nil, or_false, Prod.mk.injEq] at hmem
    rcases hmem with ⟨rfl, rfl⟩ | ⟨rfl, rfl⟩ | ⟨rfl, rfl⟩ | ⟨rfl, rfl⟩ | ⟨rfl, rfl⟩ | ⟨rfl, rfl⟩ |
      ⟨rfl, rfl⟩ <;> decide
  cases h with
  | function hn hkind _ _ => exact ⟨rfl, (hnodes hn).2 hkind⟩
  | method hn hkind => exact absurd hkind (hnodes hn).1

theorem docsUnshared_fiveDirectives :
    DocsUnshared fiveDirectives := by
  intro p q i j number f g hp hq
  obtain ⟨rfl, hpath⟩ := declares_fiveDirectives hp
  obtain ⟨rfl, hpath'⟩ := declares_fiveDirectives hq
  refine ⟨?_, rfl⟩
  exact (List.map_inj_right fun _ _ => Option.some.inj).mp (hpath.trans hpath'.symm)

/-- The directives left over in this file may be met from the last to the first. -/
theorem mustUse_accounted_once_fiveDirectives :
    (fiveDirectives.allComments.map (·.offset)).Nodup ∧ DocsUnshared fiveDirectives ∧
    [50, 40].Perm (unattached fiveDirectives) ∧
    (∃! k : Disposition,
      k.Holds fiveDirectives (Table.empty.addFileInOrder fiveDirectives [50, 40])
        ⟨50, "// retval:mustuse"⟩ ⟨Name.mustUse, ""⟩) ∧
    (Table.empty.addFileInOrder fiveDirectives [50, 40]).issues =
      (Table.empty.addFiles [fiveDirectives]).issues := by
  have hpos : (fiveDirectives.allComments.map (·.offset)).Nodup := by decide
  have hleft : [50, 40].Perm (unattached fiveDirectives) := by decide
  have h := mustUse_accounted_once fiveDirectives hpos docsUnshared_fiveDirectives [50, 40] hleft
  refine ⟨hpos, docsUnshared_fiveDirectives, hleft, ?_, h.2.2.2⟩
  exact h.1 ⟨50, "// retval:mustuse"⟩ ⟨Name.mustUse, ""⟩ (by decide) (by decide) (by decide)

end Marker
end MustUse
