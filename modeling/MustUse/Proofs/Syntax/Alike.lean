import MustUse.Proofs.Syntax.TreePath
import MustUse.Syntax.File
import Mathlib.Data.List.Forall2

/-!
# Trees that differ in doc comments only

The doc comment of a declaration is kept as a number in the tree, and documenting a declaration
changes that number. Two trees are alike if they are the same but for these numbers. Paths, slots,
starts and bindings cannot tell them apart.

Main definitions:

- `Node.Alike`: trees that are the same but for the numbers of doc comments, which are related;
- `Node.setDoc`: the tree with another number at the end of a path;
- `File.Alike`: files with alike trees.

Main statements:

- `Node.Alike.at?`, `Node.Alike.child?`, `Node.Alike.childrenIn`: alike trees have alike parts;
- `Node.Alike.start_eq`: and start at the same place;
- `Node.alike_setDoc`: another number at one node leaves the rest of the tree alone.
-/

namespace MustUse
namespace Syntax

def Attrs.withoutDoc (a : Attrs) : Attrs :=
  { a with doc := none }

section Lists

variable {α β : Type} {R : α → β → Prop}

theorem rel_getElem?
    {l : List α} {l' : List β} (h : List.Forall₂ R l l') (i : Nat) :
    Option.Rel R l[i]? l'[i]? := by
  induction h generalizing i with
  | nil => exact Option.Rel.none
  | cons h _ ih =>
      cases i with
      | zero => exact Option.Rel.some h
      | succ i => exact ih i

theorem forall₂_imp_of_mem
    {S : α → β → Prop} {l : List α} {l' : List β} (h : List.Forall₂ R l l')
    (himp : ∀ a ∈ l, ∀ b, R a b → S a b) :
    List.Forall₂ S l l' := by
  induction h with
  | nil => exact List.Forall₂.nil
  | cons hab _ ih =>
      have hrest := ih fun a ha => himp a (List.mem_cons_of_mem _ ha)
      exact List.Forall₂.cons (himp _ List.mem_cons_self _ hab) hrest

theorem exists_of_rel_some
    {x : Option α} {y : Option β} (h : Option.Rel R x y) {a : α} (ha : x = some a) :
    ∃ b, y = some b ∧ R a b := by
  subst ha
  cases h with
  | some h => exact ⟨_, rfl, h⟩

theorem map_eq_of_rel
    {γ : Type} {f : α → γ} {g : β → γ} {x : Option α} {y : Option β} (h : Option.Rel R x y)
    (hfg : ∀ a ∈ x, ∀ b, R a b → f a = g b) :
    x.map f = y.map g := by
  cases h with
  | none => rfl
  | some h => simp [hfg _ rfl _ h]

theorem rel_bind
    {γ δ : Type} {S : γ → δ → Prop} {f : α → Option γ} {g : β → Option δ}
    {x : Option α} {y : Option β} (h : Option.Rel R x y)
    (hfg : ∀ a ∈ x, ∀ b, R a b → Option.Rel S (f a) (g b)) :
    Option.Rel S (x.bind f) (y.bind g) := by
  cases h with
  | none => exact Option.Rel.none
  | some h => exact hfg _ rfl _ h

theorem bind_eq_of_rel
    {γ : Type} {f : α → Option γ} {g : β → Option γ} {x : Option α} {y : Option β}
    (h : Option.Rel R x y) (hfg : ∀ a ∈ x, ∀ b, R a b → f a = g b) :
    x.bind f = y.bind g := by
  cases h with
  | none => rfl
  | some h => exact hfg _ rfl _ h

theorem rel_find?
    {p : α → Bool} {q : β → Bool} {l : List α} {l' : List β} (h : List.Forall₂ R l l')
    (hpq : ∀ a b, R a b → p a = q b) :
    Option.Rel R (l.find? p) (l'.find? q) := by
  induction h with
  | nil => exact Option.Rel.none
  | @cons a b _ _ hab _ ih =>
      rw [List.find?_cons, List.find?_cons, ← hpq a b hab]
      cases p a with
      | true => exact Option.Rel.some hab
      | false => exact ih

end Lists

namespace Node

/-- The trees are the same but for the numbers of doc comments, and these are related by `R`. -/
inductive Alike (R : Option Nat → Option Nat → Prop) : Node → Node → Prop
  | node
      {k : Kind} {s : Slot} {a a' : Attrs} {cs cs' : List Node}
      (hattrs : a.withoutDoc = a'.withoutDoc)
      (hdoc : R a.doc a'.doc)
      (hchildren : List.Forall₂ (Alike R) cs cs') :
      Alike R (.mk k s a cs) (.mk k s a' cs')

namespace Alike

variable {R : Option Nat → Option Nat → Prop} {n n' : Node}

theorem kind_eq (h : Alike R n n') : n.kind = n'.kind := by
  cases h
  rfl

theorem slot_eq (h : Alike R n n') : n.slot = n'.slot := by
  cases h
  rfl

theorem attrs_eq (h : Alike R n n') : n.attrs.withoutDoc = n'.attrs.withoutDoc := by
  cases h with
  | node hattrs _ _ => exact hattrs

theorem doc (h : Alike R n n') : R n.attrs.doc n'.attrs.doc := by
  cases h with
  | node _ hdoc _ => exact hdoc

theorem children (h : Alike R n n') : List.Forall₂ (Alike R) n.children n'.children := by
  cases h with
  | node _ _ hchildren => exact hchildren

theorem use_eq (h : Alike R n n') : n.attrs.use = n'.attrs.use :=
  (congrArg Attrs.use h.attrs_eq :)

theorem defines_eq (h : Alike R n n') : n.attrs.defines = n'.attrs.defines :=
  (congrArg Attrs.defines h.attrs_eq :)

theorem selection_eq (h : Alike R n n') : n.attrs.selection = n'.attrs.selection :=
  (congrArg Attrs.selection h.attrs_eq :)

theorem refl
    (hR : ∀ d, R d d) (n : Node) :
    Alike R n n := by
  induction n using Node.induct with
  | step k s a cs ih =>
      have hchildren : List.Forall₂ (Alike R) cs cs := List.forall₂_same.mpr ih
      exact Alike.node rfl (hR a.doc) hchildren

theorem symm
    (h : Alike R n n') :
    Alike (flip R) n' n := by
  induction n using Node.induct generalizing n' with
  | step k s a cs ih =>
      cases h with
      | node hattrs hdoc hchildren =>
          have hback := forall₂_imp_of_mem hchildren fun c hc c' h => ih c hc h
          exact Alike.node hattrs.symm hdoc hback.flip

theorem mono
    {S : Option Nat → Option Nat → Prop} (hRS : ∀ d d', R d d' → S d d') (h : Alike R n n') :
    Alike S n n' := by
  induction n using Node.induct generalizing n' with
  | step k s a cs ih =>
      cases h with
      | node hattrs hdoc hchildren =>
          have hall := forall₂_imp_of_mem hchildren fun c hc c' h => ih c hc h
          exact Alike.node hattrs (hRS _ _ hdoc) hall

theorem childrenIn
    (h : Alike R n n') (s : Slot) :
    List.Forall₂ (Alike R) (n.childrenIn s) (n'.childrenIn s) := by
  refine List.rel_filter ?_ h.children
  intro c c' hc
  simp [hc.slot_eq]

theorem child?
    (h : Alike R n n') (s : Slot) :
    Option.Rel (Alike R) (n.child? s) (n'.child? s) := by
  apply rel_find? h.children
  intro c c' hc
  rw [hc.slot_eq]

theorem at?
    (h : Alike R n n') (p : TreePath) :
    Option.Rel (Alike R) (n.at? p) (n'.at? p) := by
  induction p generalizing n n' with
  | nil => exact Option.Rel.some h
  | cons i p ih =>
      rw [at?_cons, at?_cons]
      exact rel_bind (rel_getElem? h.children i) fun c _ c' hc => ih hc

end Alike

theorem startIn_eq
    (s : Slot) (cs : List Node) :
    startIn s cs = (cs.find? (·.slot = s)).map start := by
  induction cs with
  | nil => rfl
  | cons c cs ih =>
      by_cases hc : c.slot = s
      · simp [startIn, hc]
      · simp [startIn, hc, ih]

/-- Where a node starts, by its kind, its own start and the start of its leading part. -/
theorem start_eq
    (n : Node) :
    n.start =
      match n.kind.leading? with
      | none => n.attrs.start
      | some s => ((n.child? s).map start).getD
          (if n.kind = .compositeLit then n.attrs.start else none) := by
  cases n with
  | mk k s a cs =>
      rw [start]
      simp only [startIn_eq, Node.kind, Node.attrs, Node.child?, Node.children]
      cases k.leading? with
      | none => rfl
      | some s =>
          dsimp only
          cases cs.find? (·.slot = s) with
          | none => rfl
          | some c => rfl

/-- Alike trees start at the same place. -/
theorem Alike.start_eq
    {R : Option Nat → Option Nat → Prop} {n n' : Node} (h : Alike R n n') :
    n.start = n'.start := by
  induction n using Node.induct generalizing n' with
  | step k s a cs ih =>
      have hown : (Node.mk k s a cs).attrs.start = n'.attrs.start :=
        (congrArg Attrs.start h.attrs_eq :)
      have hpart : ∀ t, ((Node.mk k s a cs).child? t).map start = (n'.child? t).map start := by
        intro t
        apply map_eq_of_rel (h.child? t)
        intro c hc c' halike
        exact ih c (List.mem_of_find?_eq_some hc) halike
      rw [Node.start_eq, Node.start_eq n', ← h.kind_eq, hown]
      simp only [hpart]

/-- The tree with the number `d` for the doc comment of the node at the end of a path. -/
def setDoc (d : Option Nat) : TreePath → Node → Node
  | [], .mk k s a cs => .mk k s { a with doc := d } cs
  | i :: p, .mk k s a cs => .mk k s a (cs.modify i (setDoc d p))

/-- Another number at one node leaves all others as they are. -/
theorem alike_setDoc
    (d : Option Nat) (p : TreePath) (n : Node) :
    Alike (fun e e' => e' = e ∨ e' = d) n (n.setDoc d p) := by
  have hrefl := Alike.refl (R := fun e e' => e' = e ∨ e' = d) fun e => Or.inl rfl
  induction p generalizing n with
  | nil =>
      cases n with
      | mk k s a cs =>
          exact Alike.node rfl (Or.inr rfl) (List.forall₂_same.mpr fun c _ => hrefl c)
  | cons i p ih =>
      cases n with
      | mk k s a cs =>
          refine Alike.node rfl (Or.inl rfl) ?_
          rw [List.forall₂_iff_get]
          refine ⟨by simp, ?_⟩
          intro j hj hj'
          simp only [List.get_eq_getElem, List.getElem_modify]
          split
          · exact ih _
          · exact hrefl _

end Node

/-- The files are the same but for their comments. -/
structure File.Alike (file file' : File) : Prop where
  id_eq : file'.id = file.id
  packageStart_eq : file'.packageStart = file.packageStart
  root : Node.Alike (fun _ _ => True) file.root file'.root

namespace File.Alike

variable {file file' : File}

theorem name_eq
    (h : file.Alike file') (files : FileSet) :
    file'.name files = file.name files := by
  simp only [File.name, File.place, h.id_eq, h.packageStart_eq]

theorem placeOf_eq
    (h : file.Alike file') {R : Option Nat → Option Nat → Prop} {n n' : Node}
    (hn : Node.Alike R n n') :
    file'.placeOf n' = file.placeOf n := by
  have hplace : file'.place = file.place := by
    funext offset
    simp only [File.place, h.id_eq]
  rw [File.placeOf, File.placeOf, hplace, hn.start_eq]

end File.Alike
end Syntax
end MustUse
