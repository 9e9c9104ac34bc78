import MustUse.Marker.Table
import MustUse.Proofs.Syntax.TreePath

/-!
# Declarations that directives are attached to

Which functions a file declares, where and with which doc comments, and which markers these doc
comments attach. The relations speak of the nodes of the tree only, not of the walk that collects
them.

Main definitions:

- `Declares`: a declaration of a function or of an interface method, with its doc comment;
- `DocsUnshared`: no doc comment belongs to two declarations;
- `Documents`: a comment stands in the doc comment of a function;
- `Attaches`: a file attaches a marker to a function;
- `declarations`: the declarations of a file as a list.

Main statements:

- `exists_site_iff_declares`: the walk collects exactly the declarations;
- `mem_declarations`: so does the list;
- `DocsUnshared.pairwise_sites`: it meets no doc comment twice, if none is shared.
-/

namespace MustUse
namespace Marker

open Syntax

/-- A file declares `f` at a place of its tree, with the comment group of the given number as its
doc comment: by a function declaration at the end of a path, or as a named method that stands
directly in the method list of the interface type there, with the given number in that list. The
name must be bound to the function. -/
inductive Declares (file : File) : TreePath → Option Nat → Option Nat → Func → Prop
  | function
      {p : TreePath} {n name : Node} {f : Func}
      (hn : file.root.at? p = some n)
      (hkind : n.kind = .funcDecl)
      (hname : n.child? .name = some name)
      (hdef : name.attrs.defines = some (.func f)) :
      Declares file p none n.attrs.doc f
  | method
      {p : TreePath} {i : Nat} {n methods field type name : Node} {f : Func}
      (hn : file.root.at? p = some n)
      (hkind : n.kind = .interfaceType)
      (hmethods : n.child? .methods = some methods)
      (hfield : (methods.childrenIn .list)[i]? = some field)
      (htype : field.child? .type = some type)
      (hfunc : type.kind = .funcType)
      (hname : field.child? .names = some name)
      (hdef : name.attrs.defines = some (.func f)) :
      Declares file p (some i) field.attrs.doc f

/-- No comment group is the doc comment of two declarations. -/
def DocsUnshared (file : File) : Prop :=
  ∀ {p q : TreePath} {i j : Option Nat} {number : Nat} {f g : Func},
    Declares file p i (some number) f → Declares file q j (some number) g → p = q ∧ i = j

/-- The comment `c` stands in the doc comment of a declaration of `f`. -/
def Documents (file : File) (c : Comment) (f : Func) : Prop :=
  ∃ p i number, Declares file p i (some number) f ∧ c ∈ file.group number

/-- A directive in the doc comment of `f` names the marker. The must-use marker counts only
without arguments. -/
def Attaches (file : File) (f : Func) (n : Name) : Prop :=
  ∃ c d, Documents file c f ∧ Directive.parse? c.text = some d ∧ d.name = n ∧
    (n = Name.mustUse → d.args = "")

theorem func?_eq_some_iff
    (s : Site) (f : Func) :
    s.func? = some f ↔ s.name.attrs.defines = some (.func f) := by
  unfold Site.func?
  rw [Option.bind_eq_some_iff]
  constructor
  · rintro ⟨obj, hobj, hf⟩
    cases obj with
    | func g =>
        cases hf
        exact hobj
    | other i => cases hf
  · intro h
    exact ⟨.func f, h, rfl⟩

theorem fieldSite?_eq_some_iff
    (field : Node) (s : Site) :
    fieldSite? field = some s ↔
      ∃ type, field.child? .type = some type ∧ type.kind = .funcType ∧
        field.child? .names = some s.name ∧ s.doc = field.attrs.doc := by
  unfold fieldSite?
  cases field.child? .type with
  | none => simp
  | some type =>
      cases field.child? .names with
      | none => simp
      | some name =>
          by_cases hk : type.kind = .funcType
          · simp only [hk, if_true, Option.some.injEq]
            constructor
            · rintro rfl
              exact ⟨type, rfl, hk, rfl, rfl⟩
            · rintro ⟨_, _, _, hname, hdoc⟩
              cases s
              cases hname
              cases hdoc
              rfl
          · simp [hk]

/-- The sites of a node are those of a function declaration or of the methods of an interface. -/
theorem mem_nodeSites
    (n : Node) (s : Site) :
    s ∈ nodeSites n ↔
      (n.kind = .funcDecl ∧ n.child? .name = some s.name ∧ s.doc = n.attrs.doc) ∨
      (n.kind = .interfaceType ∧ ∃ methods field, n.child? .methods = some methods ∧
        field ∈ methods.childrenIn .list ∧ fieldSite? field = some s) := by
  unfold nodeSites
  split
  · rename_i hkind
    cases n.child? .name with
    | none => simp [hkind]
    | some name =>
        simp only [List.mem_singleton, hkind, true_and, reduceCtorEq, false_and, or_false,
          Option.some.injEq]
        constructor
        · rintro rfl
          exact ⟨rfl, rfl⟩
        · rintro ⟨rfl, hdoc⟩
          cases s
          cases hdoc
          rfl
  · rename_i hkind
    cases n.child? .methods with
    | none => simp [hkind]
    | some methods => simp [hkind]
  · rename_i hfunc hiface
    constructor
    · intro h
      cases h
    · rintro (⟨hkind, _⟩ | ⟨hkind, _⟩)
      · exact (hfunc hkind).elim
      · exact (hiface hkind).elim

theorem declares_of_fieldSite?
    {file : File} {p : TreePath} {i : Nat} {n methods field : Node} {s : Site} {f : Func}
    (hn : file.root.at? p = some n) (hkind : n.kind = .interfaceType)
    (hmethods : n.child? .methods = some methods)
    (hfield : (methods.childrenIn .list)[i]? = some field)
    (hs : fieldSite? field = some s) (hf : s.func? = some f) :
    Declares file p (some i) s.doc f := by
  obtain ⟨type, htype, hfunc, hname, hdoc⟩ := (fieldSite?_eq_some_iff field s).mp hs
  rw [hdoc]
  exact Declares.method hn hkind hmethods hfield htype hfunc hname
    ((func?_eq_some_iff s f).mp hf)

/-- The sites of a node that declare a function are declarations at the place of the node. -/
theorem declares_of_mem_nodeSites
    {file : File} {p : TreePath} {n : Node} {s : Site} {f : Func}
    (hn : file.root.at? p = some n)
    (hs : s ∈ nodeSites n) (hf : s.func? = some f) :
    ∃ i, Declares file p i s.doc f := by
  rcases (mem_nodeSites n s).mp hs with
    ⟨hkind, hname, hdoc⟩ | ⟨hkind, methods, field, hmethods, hfield, hs⟩
  · refine ⟨none, ?_⟩
    rw [hdoc]
    exact Declares.function hn hkind hname ((func?_eq_some_iff s f).mp hf)
  · obtain ⟨i, hi⟩ := List.mem_iff_getElem?.mp hfield
    exact ⟨some i, declares_of_fieldSite? hn hkind hmethods hi hs hf⟩

/-- The walk collects exactly the declarations of functions. -/
theorem exists_site_iff_declares
    (file : File) (doc : Option Nat) (f : Func) :
    (∃ s ∈ sites file, s.doc = doc ∧ s.func? = some f) ↔ ∃ p i, Declares file p i doc f := by
  unfold sites
  constructor
  · rintro ⟨s, hs, rfl, hf⟩
    obtain ⟨n, hn, hs⟩ := List.mem_flatMap.mp hs
    obtain ⟨p, hp⟩ := (Node.mem_descendants _ _).mp hn
    exact ⟨p, declares_of_mem_nodeSites hp hs hf⟩
  · rintro ⟨p, i, h⟩
    cases h with
    | @function n name f hn hkind hname hdef =>
        refine ⟨⟨n.attrs.doc, name⟩, ?_, rfl, (func?_eq_some_iff _ _).mpr hdef⟩
        exact List.mem_flatMap.mpr
          ⟨n, (Node.mem_descendants _ _).mpr ⟨p, hn⟩,
            (mem_nodeSites n _).mpr (Or.inl ⟨hkind, hname, rfl⟩)⟩
    | @method i n methods field type name f hn hkind hmethods hfield htype hfunc hname hdef =>
        refine ⟨⟨field.attrs.doc, name⟩, ?_, rfl, (func?_eq_some_iff _ _).mpr hdef⟩
        have hsite := (fieldSite?_eq_some_iff field ⟨field.attrs.doc, name⟩).mpr
          ⟨type, htype, hfunc, hname, rfl⟩
        have hmem : field ∈ methods.childrenIn .list := List.mem_of_getElem? hfield
        exact List.mem_flatMap.mpr
          ⟨n, (Node.mem_descendants _ _).mpr ⟨p, hn⟩,
            (mem_nodeSites n _).mpr (Or.inr ⟨hkind, methods, field, hmethods, hmem, hsite⟩)⟩

theorem mem_comments
    (file : File) (s : Site) (c : Comment) :
    c ∈ s.comments file ↔ ∃ number, s.doc = some number ∧ c ∈ file.group number := by
  unfold Site.comments
  cases s.doc with
  | none => simp
  | some number => simp

/-- The comments of the sites that declare `f` are those that document it. -/
theorem documents_iff
    (file : File) (c : Comment) (f : Func) :
    Documents file c f ↔ ∃ s ∈ sites file, s.func? = some f ∧ c ∈ s.comments file := by
  unfold Documents
  constructor
  · rintro ⟨p, i, number, hdecl, hc⟩
    obtain ⟨s, hs, hdoc, hf⟩ := (exists_site_iff_declares file _ f).mpr ⟨p, i, hdecl⟩
    exact ⟨s, hs, hf, (mem_comments file s c).mpr ⟨number, hdoc, hc⟩⟩
  · rintro ⟨s, hs, hf, hc⟩
    obtain ⟨number, hdoc, hc⟩ := (mem_comments file s c).mp hc
    obtain ⟨p, i, hdecl⟩ := (exists_site_iff_declares file _ f).mp ⟨s, hs, hdoc, hf⟩
    exact ⟨p, i, number, hdecl, hc⟩

section List

variable {file : File} {p : TreePath} {i doc : Option Nat} {f : Func}

/-- At one place there is one declaration at most. -/
theorem Declares.unique
    {doc' : Option Nat} {g : Func}
    (h : Declares file p i doc f) (h' : Declares file p i doc' g) :
    doc = doc' ∧ f = g := by
  cases h with
  | function hn _ hname hdef =>
      cases h' with
      | function hn' _ hname' hdef' =>
          cases hn.symm.trans hn'
          cases hname.symm.trans hname'
          cases hdef.symm.trans hdef'
          exact ⟨rfl, rfl⟩
  | method hn _ hmethods hfield _ _ hname hdef =>
      cases h' with
      | method hn' _ hmethods' hfield' _ _ hname' hdef' =>
          cases hn.symm.trans hn'
          cases hmethods.symm.trans hmethods'
          cases hfield.symm.trans hfield'
          cases hname.symm.trans hname'
          cases hdef.symm.trans hdef'
          exact ⟨rfl, rfl⟩

/-- The declarations that a node is or directly holds: their numbers in the method list of an
interface, their doc comments and their functions. -/
def declarationsAt (n : Node) : List (Option Nat × Option Nat × Func) :=
  match n.kind with
  | .funcDecl => (nodeSites n).filterMap fun s => s.func?.map (none, s.doc, ·)
  | .interfaceType =>
    ((n.child? .methods).elim [] (·.childrenIn .list)).zipIdx.filterMap fun e =>
      (fieldSite? e.1).bind fun s => s.func?.map (some e.2, s.doc, ·)
  | _ => []

/-- The declarations of a file in traversal order, with their paths. -/
def declarations (file : File) : List (TreePath × Option Nat × Option Nat × Func) :=
  file.root.addressed.flatMap fun e => (declarationsAt e.2).map (e.1, ·)

theorem mem_declarationsAt
    {n : Node} (hn : file.root.at? p = some n) :
    (i, doc, f) ∈ declarationsAt n ↔ Declares file p i doc f := by
  constructor
  · intro h
    unfold declarationsAt at h
    split at h
    · rename_i hkind
      obtain ⟨s, hs, he⟩ := List.mem_filterMap.mp h
      obtain ⟨g, hg, he⟩ := Option.map_eq_some_iff.mp he
      cases he
      rcases (mem_nodeSites n s).mp hs with ⟨_, hname, hdoc⟩ | ⟨hiface, _⟩
      · rw [hdoc]
        exact Declares.function hn hkind hname ((func?_eq_some_iff s f).mp hg)
      · rw [hkind] at hiface
        cases hiface
    · rename_i hkind
      obtain ⟨⟨field, k⟩, hfield, he⟩ := List.mem_filterMap.mp h
      obtain ⟨s, hs, he⟩ := Option.bind_eq_some_iff.mp he
      obtain ⟨g, hg, he⟩ := Option.map_eq_some_iff.mp he
      cases he
      cases hmethods : n.child? .methods with
      | none =>
          rw [hmethods] at hfield
          cases hfield
      | some methods =>
          rw [hmethods] at hfield
          have hfield := List.mem_zipIdx_iff_getElem?.mp hfield
          exact declares_of_fieldSite? hn hkind hmethods hfield hs hg
    · cases h
  · intro h
    cases h with
    | @function n' name f hn' hkind hname hdef =>
        cases hn.symm.trans hn'
        have hsite : ⟨n.attrs.doc, name⟩ ∈ nodeSites n :=
          (mem_nodeSites n _).mpr (Or.inl ⟨hkind, hname, rfl⟩)
        simp only [declarationsAt, hkind, List.mem_filterMap]
        exact ⟨_, hsite, by simpa using (func?_eq_some_iff _ f).mpr hdef⟩
    | @method i n' methods field type name f hn' hkind hmethods hfield htype hfunc hname hdef =>
        cases hn.symm.trans hn'
        have hsite := (fieldSite?_eq_some_iff field ⟨field.attrs.doc, name⟩).mpr
          ⟨type, htype, hfunc, hname, rfl⟩
        simp only [declarationsAt, hkind, hmethods, Option.elim_some, List.mem_filterMap]
        refine ⟨(field, i), List.mem_zipIdx_iff_getElem?.mpr hfield, ?_⟩
        simpa [hsite] using (func?_eq_some_iff _ f).mpr hdef

theorem Declares.exists_node
    (h : Declares file p i doc f) :
    ∃ n, file.root.at? p = some n := by
  cases h with
  | function hn => exact ⟨_, hn⟩
  | method hn => exact ⟨_, hn⟩

/-- The list holds the declarations of the file. -/
theorem mem_declarations :
    (p, i, doc, f) ∈ declarations file ↔ Declares file p i doc f := by
  simp only [declarations, List.mem_flatMap, List.mem_map, Prod.exists, Prod.mk.injEq]
  constructor
  · rintro ⟨q, n, hn, i', doc', f', h, rfl, rfl, rfl, rfl⟩
    exact (mem_declarationsAt ((Node.mem_addressed _ _ _).mp hn)).mp h
  · intro h
    obtain ⟨n, hn⟩ := h.exists_node
    have hmem := (Node.mem_addressed file.root p n).mpr hn
    exact ⟨p, n, hmem, i, doc, f, (mem_declarationsAt hn).mpr h, rfl, rfl, rfl, rfl⟩

end List

section Unshared

/-- Two sites that declare functions have different doc comments. -/
def Site.Apart (s s' : Site) : Prop :=
  ∀ f g number, s.func? = some f → s'.func? = some g →
    s.doc = some number → s'.doc ≠ some number

variable {file : File} (h : DocsUnshared file)
include h

theorem DocsUnshared.pairwise_nodeSites
    {p : TreePath} {n : Node} (hn : file.root.at? p = some n) :
    (nodeSites n).Pairwise Site.Apart := by
  unfold nodeSites
  split
  · cases n.child? .name with
    | none => exact List.Pairwise.nil
    | some name => exact List.pairwise_singleton _ _
  · rename_i hkind
    cases hmethods : n.child? .methods with
    | none => exact List.Pairwise.nil
    | some methods =>
        rw [List.pairwise_filterMap, List.pairwise_iff_getElem]
        intro i j hi hj hij s hs s' hs' f g number hf hg hdoc hdoc'
        have hd := declares_of_fieldSite? hn hkind hmethods (List.getElem?_eq_getElem hi) hs hf
        have hd' := declares_of_fieldSite? hn hkind hmethods (List.getElem?_eq_getElem hj) hs' hg
        rw [hdoc] at hd
        rw [hdoc'] at hd'
        have heq := Option.some.inj (h hd hd').2
        omega
  · exact List.Pairwise.nil

/-- The walk meets no doc comment twice. -/
theorem DocsUnshared.pairwise_sites :
    (sites file).Pairwise Site.Apart := by
  unfold sites
  rw [← Node.map_snd_addressed, List.flatMap_map, List.pairwise_flatMap]
  constructor
  · rintro ⟨p, n⟩ hn
    exact h.pairwise_nodeSites ((Node.mem_addressed _ _ _).mp hn)
  · refine (Node.addressed_pairwise file.root).imp_of_mem ?_
    rintro ⟨p, n⟩ ⟨q, m⟩ hn hm hbefore s hs s' hs' f g number hf hg hdoc hdoc'
    obtain ⟨i, hd⟩ := declares_of_mem_nodeSites ((Node.mem_addressed _ _ _).mp hn) hs hf
    obtain ⟨j, hd'⟩ := declares_of_mem_nodeSites ((Node.mem_addressed _ _ _).mp hm) hs' hg
    rw [hdoc] at hd
    rw [hdoc'] at hd'
    have heq : p = q := (h hd hd').1
    rw [heq] at hbefore
    exact TreePath.Before.irrefl q hbefore

end Unshared

end Marker
end MustUse
