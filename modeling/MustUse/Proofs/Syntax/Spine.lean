import MustUse.Proofs.Syntax.Alike
import Mathlib.Data.List.Pairwise

/-!
# Where a node starts

A node starts with a token of its own, or it takes its start from the part that it leads with: a
call from its callee, a selector from its operand, and so on. Going from leading part to leading
part gives the spine of a node. It ends at the node that brings the token.

Main definitions:

- `Node.ownStart?`: the start that a node does not take from a part of it;
- `Node.Spine`: the paths along leading parts.

Main statements:

- `Node.exists_spine_of_start`: every start is the own start of a node on the spine;
- `Node.Spine.leads`: each step of a spine goes to the leading part;
- `Node.eq_of_ownStart?_eq`: where own starts are not shared, they tell paths apart.
-/

namespace MustUse
namespace Syntax

/-- Members with the same image are the same, if no image is repeated. -/
theorem eq_of_nodup_filterMap
    {α β : Type} {f : α → Option β} {l : List α} (h : (l.filterMap f).Nodup)
    {a b : α} {x : β} (ha : a ∈ l) (hb : b ∈ l) (hax : f a = some x) (hbx : f b = some x) :
    a = b := by
  rw [List.Nodup, List.pairwise_filterMap] at h
  have hsymm : Std.Symm fun a b => ∀ x, f a = some x → ∀ y, f b = some y → x ≠ y := by
    constructor
    intro a b hab y hy x hx hyx
    exact hab x hx y hy hyx.symm
  by_contra hne
  exact h.forall ha hb hne x hax x hbx rfl

namespace Node

/-- The start of a node that it does not take from its leading part. A composite literal has one
only without a type. -/
def ownStart? (n : Node) : Option Nat :=
  match n.kind.leading? with
  | none => n.attrs.start
  | some s => if n.kind = .compositeLit ∧ (n.child? s).isNone then n.attrs.start else none

/-- The path goes from leading part to leading part. -/
inductive Spine : Node → TreePath → Prop
  | here (n : Node) : Spine n []
  | leading
      {n c : Node} {s : Slot} {i : Nat} {p : TreePath}
      (hleading : n.kind.leading? = some s)
      (hpart : n.child? s = some c)
      (hi : n.children[i]? = some c)
      (hrest : Spine c p) :
      Spine n (i :: p)

theorem ownStart?_or_of_start
    {n : Node} {o : Nat} (h : n.start = some o) :
    n.ownStart? = some o ∨
      ∃ s c, n.kind.leading? = some s ∧ n.child? s = some c ∧ c.start = some o := by
  rw [start_eq] at h
  unfold ownStart?
  cases hk : n.kind.leading? with
  | none =>
      rw [hk] at h
      exact Or.inl h
  | some s =>
      rw [hk] at h
      dsimp only at h ⊢
      cases hc : n.child? s with
      | none =>
          rw [hc] at h
          left
          simpa using h
      | some c =>
          rw [hc] at h
          exact Or.inr ⟨s, c, rfl, hc, h⟩

theorem exists_spine_of_start
    {n : Node} {o : Nat} (h : n.start = some o) :
    ∃ p m, n.Spine p ∧ n.at? p = some m ∧ m.ownStart? = some o := by
  induction n using Node.induct with
  | step k s a cs ih =>
      rcases ownStart?_or_of_start h with hown | ⟨t, c, hleading, hpart, hc⟩
      · exact ⟨[], _, Spine.here _, rfl, hown⟩
      · have hmem : c ∈ cs := List.mem_of_find?_eq_some hpart
        obtain ⟨p, m, hspine, hm, hown⟩ := ih c hmem hc
        obtain ⟨i, hi⟩ := List.getElem?_of_mem hmem
        refine ⟨i :: p, m, Spine.leading hleading hpart hi hspine, ?_, hown⟩
        rw [at?_cons]
        simp only [Node.children, hi, Option.bind_some, hm]

/-- Where a spine goes on, it goes to the leading part. -/
theorem Spine.leads
    {n x : Node} {p q : TreePath} {i : Nat}
    (h : n.Spine (p ++ i :: q)) (hx : n.at? p = some x) :
    ∃ s c, x.kind.leading? = some s ∧ x.child? s = some c ∧ x.children[i]? = some c := by
  induction p generalizing n with
  | nil =>
      cases hx
      cases h with
      | leading hleading hpart hi _ => exact ⟨_, _, hleading, hpart, hi⟩
  | cons j p ih =>
      cases h with
      | leading _ _ hj hrest =>
          rw [at?_cons, hj] at hx
          exact ih hrest hx

/-- Where no two nodes share an own start, the own start tells the path. -/
theorem eq_of_ownStart?_eq
    {root : Node} (hroot : (root.descendants.filterMap ownStart?).Nodup)
    {p q : TreePath} {m n : Node} {o : Nat}
    (hm : root.at? p = some m) (hn : root.at? q = some n)
    (hmo : m.ownStart? = some o) (hno : n.ownStart? = some o) :
    p = q := by
  rw [← map_snd_addressed, List.filterMap_map] at hroot
  have hp := (mem_addressed root p m).mpr hm
  have hq := (mem_addressed root q n).mpr hn
  exact congrArg Prod.fst (eq_of_nodup_filterMap hroot hp hq hmo hno)

end Node
end Syntax
end MustUse
