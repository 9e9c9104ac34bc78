import MustUse.Proofs.Marker.Facts
import MustUse.Proofs.Syntax.Alike

/-!
# One more comment in a doc comment

A comment is added to the doc comment of one declaration, or becomes its doc comment if there was
none, and no other declaration is documented by it. Then the function of this declaration gains the
marker that the comment names, and nothing else is attached or lost.

Main definitions:

- `docComments`: the comments of a doc comment that may be missing;
- `AddsComment`: two files differ in one more comment in the doc comment of one declaration.

Main statements:

- `Declares.of_alike`: alike trees have the same declarations;
- `addsComment_to_group`, `addsComment_as_group`: the two ways to add a comment;
- `AddsComment.attaches_iff`: what the comment attaches;
- `AddsComment.isMarked_iff`: which functions a must-use directive marks.
-/

namespace MustUse
namespace Marker

open Syntax

def docComments (file : File) (doc : Option Nat) : List Comment :=
  doc.elim [] file.group

theorem documents_iff_docComments
    (file : File) (c : Comment) (f : Func) :
    Documents file c f ↔ ∃ p i doc, Declares file p i doc f ∧ c ∈ docComments file doc := by
  constructor
  · rintro ⟨p, i, number, hdecl, hc⟩
    exact ⟨p, i, some number, hdecl, hc⟩
  · rintro ⟨p, i, doc, hdecl, hc⟩
    cases doc with
    | none => cases hc
    | some number => exact ⟨p, i, number, hdecl, hc⟩

theorem attaches_iff_documents
    (file : File) (f : Func) (n : Name) :
    Attaches file f n ↔ ∃ c, Documents file c f ∧ marker? c = some n := by
  simp only [Attaches, marker?_eq_some_iff, exists_and_left]

section Declarations

variable {file file' : File} {p : TreePath} {i doc : Option Nat} {f : Func}

/-- Alike trees have the same declarations, with related doc comments. -/
theorem Declares.of_alike
    {R : Option Nat → Option Nat → Prop} (halike : Node.Alike R file.root file'.root)
    (h : Declares file p i doc f) :
    ∃ doc', R doc doc' ∧ Declares file' p i doc' f := by
  cases h with
  | function hn hkind hname hdef =>
      obtain ⟨n', hn', hnode⟩ := exists_of_rel_some (halike.at? p) hn
      obtain ⟨name', hname', hid⟩ := exists_of_rel_some (hnode.child? .name) hname
      refine ⟨n'.attrs.doc, hnode.doc, ?_⟩
      exact Declares.function hn' (hnode.kind_eq ▸ hkind) hname' (hid.defines_eq ▸ hdef)
  | method hn hkind hmethods hfield htype hfunc hname hdef =>
      obtain ⟨n', hn', hnode⟩ := exists_of_rel_some (halike.at? p) hn
      obtain ⟨methods', hmethods', hlist⟩ := exists_of_rel_some (hnode.child? .methods) hmethods
      obtain ⟨field', hfield', hentry⟩ :=
        exists_of_rel_some (rel_getElem? (hlist.childrenIn .list) _) hfield
      obtain ⟨type', htype', hty⟩ := exists_of_rel_some (hentry.child? .type) htype
      obtain ⟨name', hname', hid⟩ := exists_of_rel_some (hentry.child? .names) hname
      refine ⟨field'.attrs.doc, hentry.doc, ?_⟩
      exact Declares.method hn' (hnode.kind_eq ▸ hkind) hmethods' hfield' htype'
        (hty.kind_eq ▸ hfunc) hname' (hid.defines_eq ▸ hdef)

theorem Declares.of_root_eq
    (hroot : file.root = file'.root) (h : Declares file p i doc f) :
    Declares file' p i doc f := by
  have halike : Node.Alike Eq file.root file'.root :=
    hroot ▸ Node.Alike.refl (fun _ => rfl) file.root
  obtain ⟨_, rfl, h'⟩ := h.of_alike halike
  exact h'

end Declarations

/-- The files differ in the doc comment of the declaration of `f` at one place: the second one has
one more comment `c` there. All other declarations are documented as before. -/
structure AddsComment (file file' : File) (p : TreePath) (i : Option Nat) (f : Func) (c : Comment) :
    Prop where
  alike : file.Alike file'
  added : ∃ doc doc' before after,
    Declares file p i doc f ∧ Declares file' p i doc' f ∧
    docComments file doc = before ++ after ∧ docComments file' doc' = before ++ c :: after
  others : ∀ {q j g doc doc'}, (q, j) ≠ (p, i) →
    Declares file q j doc g → Declares file' q j doc' g →
    docComments file' doc' = docComments file doc

section Additions

variable {file file' : File} {p : TreePath} {i : Option Nat} {f : Func} {c : Comment}
variable (hid : file'.id = file.id) (hstart : file'.packageStart = file.packageStart)
include hid hstart

/-- A comment is added to a group that documents no other declaration. -/
theorem addsComment_to_group
    (number : Nat) (before after : List Comment)
    (hroot : file.root = file'.root)
    (hgroup : file.comments[number]? = some (before ++ after))
    (hcomments : file'.comments = file.comments.set number (before ++ c :: after))
    (hdecl : Declares file p i (some number) f)
    (hown : ∀ {q j g}, Declares file q j (some number) g → (q, j) = (p, i)) :
    AddsComment file file' p i f c := by
  obtain ⟨hlt, _⟩ := List.getElem?_eq_some_iff.mp hgroup
  refine ⟨⟨hid, hstart, hroot ▸ Node.Alike.refl (fun _ => trivial) file.root⟩, ?_, ?_⟩
  · refine ⟨some number, some number, before, after, hdecl, hdecl.of_root_eq hroot, ?_, ?_⟩
    · simp [docComments, File.group, hgroup]
    · simp [docComments, File.group, hcomments, hlt]
  · intro q j g doc doc' hne h h'
    obtain ⟨rfl, _⟩ := (h.of_root_eq hroot).unique h'
    cases doc with
    | none => rfl
    | some k =>
        have hk : number ≠ k := by
          rintro rfl
          exact hne (hown h)
        simp [docComments, File.group, hcomments, List.getElem?_set_ne hk]

/-- A comment becomes the doc comment of a declaration that had none, in a group of its own. -/
theorem addsComment_as_group
    (path : TreePath)
    (hroot : file'.root = file.root.setDoc (some file.comments.length) path)
    (hcomments : file'.comments = file.comments ++ [[c]])
    (hdecl : Declares file p i none f)
    (hdoc : Declares file' p i (some file.comments.length) f)
    (hown : ∀ {q j g}, Declares file' q j (some file.comments.length) g → (q, j) = (p, i)) :
    AddsComment file file' p i f c := by
  have halike := hroot ▸ Node.alike_setDoc (some file.comments.length) path file.root
  refine ⟨⟨hid, hstart, halike.mono fun _ _ _ => trivial⟩, ?_, ?_⟩
  · refine ⟨none, _, [], [], hdecl, hdoc, rfl, ?_⟩
    simp [docComments, File.group, hcomments]
  · intro q j g doc doc' hne h h'
    have hother : doc' ≠ some file.comments.length := by
      rintro rfl
      exact hne (hown h')
    have hkept : doc' = doc := by
      obtain ⟨_, hor, hmoved⟩ := h.of_alike halike
      rw [(hmoved.unique h').1] at hor
      exact hor.resolve_right hother
    subst hkept
    cases doc' with
    | none => rfl
    | some k =>
        have hk : k ≠ file.comments.length := fun hk => hother (congrArg some hk)
        have hgroup : (file.comments ++ [[c]])[k]? = file.comments[k]? := by
          rw [List.getElem?_append]
          split
          · rfl
          · rw [List.getElem?_eq_none (by simp; omega), List.getElem?_eq_none (by omega)]
        simp [docComments, File.group, hcomments, hgroup]

end Additions

namespace AddsComment

variable {file file' : File} {p : TreePath} {i : Option Nat} {f : Func} {c : Comment}
variable (h : AddsComment file file' p i f c)
include h

theorem documents_iff
    (x : Comment) (g : Func) :
    Documents file' x g ↔ Documents file x g ∨ x = c ∧ g = f := by
  obtain ⟨doc, doc', before, after, hdecl, hdecl', hold, hnew⟩ := h.added
  simp only [documents_iff_docComments]
  constructor
  · rintro ⟨q, j, e', hq', hx⟩
    obtain ⟨e, _, hq⟩ := hq'.of_alike h.alike.root.symm
    by_cases hat : (q, j) = (p, i)
    · cases hat
      obtain ⟨rfl, rfl⟩ := hq'.unique hdecl'
      have hx : x = c ∨ x ∈ docComments file doc := by
        rw [hnew] at hx
        rw [hold]
        simp only [List.mem_append, List.mem_cons] at hx ⊢
        tauto
      rcases hx with rfl | hx
      · exact Or.inr ⟨rfl, rfl⟩
      · exact Or.inl ⟨_, _, doc, hdecl, hx⟩
    · rw [h.others hat hq hq'] at hx
      exact Or.inl ⟨q, j, e, hq, hx⟩
  · rintro (⟨q, j, e, hq, hx⟩ | ⟨rfl, rfl⟩)
    · obtain ⟨e', _, hq'⟩ := hq.of_alike h.alike.root
      by_cases hat : (q, j) = (p, i)
      · cases hat
        obtain ⟨rfl, rfl⟩ := hq.unique hdecl
        refine ⟨_, _, doc', hdecl', ?_⟩
        rw [hold] at hx
        rw [hnew]
        simp only [List.mem_append, List.mem_cons] at hx ⊢
        tauto
      · exact ⟨q, j, e', hq', (h.others hat hq hq').symm ▸ hx⟩
    · exact ⟨p, i, doc', hdecl', hnew ▸ List.mem_append_right _ List.mem_cons_self⟩

/-- The function of the declaration gains the marker that the comment names, and no other marker is
attached or lost. -/
theorem attaches_iff
    {n : Name} (hn : marker? c = some n) (g : Func) (m : Name) :
    Attaches file' g m ↔ Attaches file g m ∨ g = f ∧ m = n := by
  simp only [attaches_iff_documents, h.documents_iff]
  constructor
  · rintro ⟨x, hx | ⟨rfl, rfl⟩, hm⟩
    · exact Or.inl ⟨x, hx, hm⟩
    · exact Or.inr ⟨rfl, Option.some.inj (hm.symm.trans hn)⟩
  · rintro (⟨x, hx, hm⟩ | ⟨rfl, rfl⟩)
    · exact ⟨x, Or.inl hx, hm⟩
    · exact ⟨c, Or.inr ⟨rfl, rfl⟩, hn⟩

/-- In the table of all files, the views of the function gain the marker. -/
theorem marks_build_iff
    {n : Name} (hn : marker? c = some n) (before after : List File) (g : Func) (m : Name) :
    (Table.build (before ++ file' :: after)).Marks g m ↔
      (Table.build (before ++ file :: after)).Marks g m ∨ g.origin = f.origin ∧ m = n := by
  have hsplit : ∀ x : File, (Table.build (before ++ x :: after)).Marks g m ↔
      (Table.build (before ++ after)).Marks g m ∨
        ∃ k, k.origin = g.origin ∧ Attaches x k m := by
    intro x
    simp only [Table.marks_build, List.mem_append, List.mem_cons, or_and_right, exists_or,
      exists_eq_left]
    exact (or_congr Iff.rfl or_comm).trans or_assoc.symm
  have hfile : (∃ k, k.origin = g.origin ∧ Attaches file' k m) ↔
      (∃ k, k.origin = g.origin ∧ Attaches file k m) ∨ g.origin = f.origin ∧ m = n := by
    simp only [h.attaches_iff hn]
    constructor
    · rintro ⟨k, hk, hm | ⟨rfl, rfl⟩⟩
      · exact Or.inl ⟨k, hk, hm⟩
      · exact Or.inr ⟨hk.symm, rfl⟩
    · rintro (⟨k, hk, hm⟩ | ⟨hg, rfl⟩)
      · exact ⟨k, hk, Or.inl hm⟩
      · exact ⟨f, hg.symm, Or.inr ⟨rfl, rfl⟩⟩
  rw [hsplit, hsplit, hfile, or_assoc]

/-- A must-use directive marks the function it documents, under all its views, and no other. -/
theorem isMarked_iff
    (hc : marker? c = some Name.mustUse) (specs : List Spec) (facts : FactStore)
    (before after : List File) (g : Func) :
    (Predicate.ofSources specs (Table.build (before ++ file' :: after)) facts).isMarked g = true ↔
      (Predicate.ofSources specs (Table.build (before ++ file :: after)) facts).isMarked g = true ∨
        g.origin = f.origin := by
  have hmarks := h.marks_build_iff hc before after g.origin Name.mustUse
  simp only [Table.Marks, Func.origin_origin, and_true] at hmarks
  simp only [Predicate.isMarked_iff, Predicate.ofSources, List.mem_cons, List.not_mem_nil, or_false,
    exists_eq_or_imp, exists_eq_left, hmarks]
  constructor
  · rintro (((hm | hg) | hm) | hm)
    · exact Or.inl (Or.inl (Or.inl hm))
    · exact Or.inr hg
    · exact Or.inl (Or.inl (Or.inr hm))
    · exact Or.inl (Or.inr hm)
  · rintro (((hm | hm) | hm) | hg)
    · exact Or.inl (Or.inl (Or.inl hm))
    · exact Or.inl (Or.inr hm)
    · exact Or.inr hm
    · exact Or.inl (Or.inl (Or.inr hg))

end AddsComment

end Marker
end MustUse
