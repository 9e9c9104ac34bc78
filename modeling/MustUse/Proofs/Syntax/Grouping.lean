import MustUse.Proofs.Syntax.Alike
import MustUse.Proofs.Syntax.SlotTypes

/-!
# Parentheses put around expressions

Parentheses may be put around every node that stands in a slot for expressions, any number of them
and in many places at once. The names and bindings stay where they are. The tokens after an opening
parenthesis move, so nothing is said about where the nodes start.

Main definitions:

- `Node.inParens`: a node in a pair of parentheses;
- `Node.Grouped`, `Node.GroupedAll`: trees, and lists of them, with parentheses put around some of
  their expressions;
- `File.Grouped`: the same for files.

Main statement: `Node.Grouped.induct`, induction on the way in which parentheses were put in.
-/

namespace MustUse
namespace Syntax

/-- The attributes are the same but for the start. -/
def Attrs.Moved (a a' : Attrs) : Prop :=
  { a' with start := a.start } = a

theorem Attrs.Moved.use_eq
    {a a' : Attrs} (h : a.Moved a') :
    a'.use = a.use :=
  (congrArg Attrs.use h :)

theorem Attrs.Moved.selection_eq
    {a a' : Attrs} (h : a.Moved a') :
    a'.selection = a.selection :=
  (congrArg Attrs.selection h :)

namespace Node

/-- The node in a pair of parentheses with the given attributes. -/
def inParens (a : Attrs) (n : Node) : Node :=
  .mk .paren n.slot a [n.inSlot .x]

mutual

/-- The second tree is the first one with parentheses put around some of its expressions. The tree
stands below a node of kind `parent`. -/
inductive Grouped : Kind → Node → Node → Prop
  | node
      {parent k : Kind} {s : Slot} {a a' : Attrs} {cs cs' : List Node}
      (hattrs : a.Moved a')
      (hchildren : GroupedAll k cs cs') :
      Grouped parent (.mk k s a cs) (.mk k s a' cs')
  | parens
      {parent : Kind} {n n' : Node}
      (a : Attrs)
      (hslot : parent.holdsExpr n.slot = true)
      (hn : Grouped parent n n') :
      Grouped parent n (n'.inParens a)

/-- The second list of trees is the first one with parentheses put around some of its expressions.
The trees stand below one node of kind `parent`. -/
inductive GroupedAll : Kind → List Node → List Node → Prop
  | nil {parent : Kind} : GroupedAll parent [] []
  | cons
      {parent : Kind} {c c' : Node} {cs cs' : List Node}
      (hc : Grouped parent c c')
      (hcs : GroupedAll parent cs cs') :
      GroupedAll parent (c :: cs) (c' :: cs')

end

namespace Grouped

/-- Induction on the way in which parentheses were put in: a property holds of a node with its
children grouped when it holds of the children, and more parentheses keep it. -/
theorem induct
    {P : Kind → Node → Node → Prop}
    (node : ∀ parent k s a a' cs cs', a.Moved a' →
      List.Forall₂ (fun c c' => Grouped k c c' ∧ P k c c') cs cs' →
        P parent (.mk k s a cs) (.mk k s a' cs'))
    (parens : ∀ parent n n' a, P parent n n' → P parent n (n'.inParens a))
    {parent : Kind} {n n' : Node} (h : Grouped parent n n') :
    P parent n n' := by
  refine @Grouped.rec (fun parent n n' _ => P parent n n')
    (fun parent cs cs' _ => List.Forall₂ (fun c c' => Grouped parent c c' ∧ P parent c c') cs cs')
    ?_ ?_ ?_ ?_ parent n n' h
  · intro parent k s a a' cs cs' hattrs _ ih
    exact node parent k s a a' cs cs' hattrs ih
  · intro parent n n' a _ _ ih
    exact parens parent n n' a ih
  · intro parent
    exact List.Forall₂.nil
  · intro parent c c' cs cs' hc _ ihc ihcs
    exact List.Forall₂.cons ⟨hc, ihc⟩ ihcs

theorem slot_eq
    {parent : Kind} {n n' : Node} (h : Grouped parent n n') :
    n'.slot = n.slot := by
  refine Grouped.induct (P := fun _ n n' => n'.slot = n.slot) ?_ ?_ h
  · intros
    rfl
  · intro parent n n' a ih
    exact ih

/-- Where parentheses cannot be put, the node keeps its attributes. -/
theorem moved
    {parent : Kind} {n n' : Node} (h : Grouped parent n n')
    (hslot : parent.holdsExpr n.slot = false) :
    n.attrs.Moved n'.attrs := by
  cases h with
  | node hattrs _ => exact hattrs
  | parens _ hexpr _ =>
      rw [hslot] at hexpr
      cases hexpr

/-- The first children in a slot are the same but for parentheses. -/
theorem rel_child?
    {P : Node → Node → Prop} {k : Kind} {t : Slot} {a a' : Attrs} {cs cs' : List Node}
    (h : List.Forall₂ (fun c c' => Grouped k c c' ∧ P c c') cs cs') (s : Slot) :
    Option.Rel (fun c c' => Grouped k c c' ∧ P c c')
      ((Node.mk k t a cs).child? s) ((Node.mk k t a' cs').child? s) := by
  apply rel_find? h
  rintro c c' ⟨hc, _⟩
  rw [hc.slot_eq]

end Grouped
end Node

/-- The file, with positions from the second file set, is the other one with parentheses put around
some of its expressions. It keeps its name. -/
structure File.Grouped (files files' : FileSet) (file file' : File) : Prop where
  name_eq : file'.name files' = file.name files
  decls : Node.GroupedAll .file file.decls file'.decls

theorem File.Grouped.root
    {files files' : FileSet} {file file' : File} (h : File.Grouped files files' file file') :
    Node.Grouped .file file.root file'.root :=
  Node.Grouped.node rfl h.decls

end Syntax
end MustUse
