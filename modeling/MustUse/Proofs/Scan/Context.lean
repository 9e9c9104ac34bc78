import MustUse.Proofs.Syntax.TreePath
import MustUse.Scan.Context
import Mathlib.Data.List.Induction

/-!
# The context of a node on its path

The context of a node is the nearest node above it that is not a pair of parentheses. It is
described here on the path to the node alone, and compared with the verdict that `isUsed` gives on
the chain of ancestors that a traversal hands on.

Main definitions:

- `IsContext`: the context of the node at the end of a path;
- `kindsAbove`: the chain of ancestors of that node, the innermost first.

Main statement: `isUsed_kindsAbove`, the verdict on the chain is the one on the context.
-/

namespace MustUse
namespace Scan

open Syntax

/-- The node `m` is the context of the node at the end of `p`: it is above it, it is not a pair of
parentheses, and everything between the two is. -/
def IsContext (root : Node) (p : TreePath) (m : Node) : Prop :=
  ∃ q : TreePath, q.IsAbove p ∧ root.at? q = some m ∧ m.kind ≠ .paren ∧
    ∀ (r : TreePath) (n : Node),
      q.IsAbove r → r.IsAbove p → root.at? r = some n → n.kind = .paren

/-- The kinds of the nodes above the end of a path, the innermost first. -/
def kindsAbove (root : Node) : TreePath → List (Option Kind)
  | [] => []
  | i :: p => (root.children[i]?.elim [] fun c => kindsAbove c p) ++ [some root.kind]

theorem kindsAbove_append
    {root m : Node} {q : TreePath} (hm : root.at? q = some m) (r : TreePath) :
    kindsAbove root (q ++ r) = kindsAbove m r ++ kindsAbove root q := by
  induction q generalizing root with
  | nil =>
      cases hm
      simp [kindsAbove]
  | cons i q ih =>
      rw [Node.at?_cons, Option.bind_eq_some_iff] at hm
      obtain ⟨c, hc, hm⟩ := hm
      simp [kindsAbove, hc, ih hm]

theorem kindsAbove_snoc
    {root m : Node} {p : TreePath}
    (hm : root.at? p = some m) (i : Nat) :
    kindsAbove root (p ++ [i]) = some m.kind :: kindsAbove root p := by
  rw [kindsAbove_append hm]
  cases hc : m.children[i]? with
  | none => simp [kindsAbove, hc]
  | some c => simp [kindsAbove, hc]

theorem isUsed_cons_of_ne_paren
    {k : Kind} (hk : k ≠ .paren) (rest : List (Option Kind)) :
    isUsed (some k :: rest) = uses k := by
  rw [isUsed]
  exact hk

/-- Below a node that is not a pair of parentheses, that node is the context. -/
theorem isContext_snoc_of_ne_paren
    {root m : Node} {p : TreePath}
    (hm : root.at? p = some m) (hk : m.kind ≠ .paren) (i : Nat) (x : Node) :
    IsContext root (p ++ [i]) x ↔ x = m := by
  constructor
  · rintro ⟨q, hq, hx, _, hbetween⟩
    rcases (TreePath.isAbove_snoc q p i).mp hq with rfl | hqp
    · rw [hm] at hx
      exact (Option.some.inj hx).symm
    · have hp : TreePath.IsAbove p (p ++ [i]) := (TreePath.isAbove_snoc p p i).mpr (Or.inl rfl)
      exact absurd (hbetween p m hqp hp hm) hk
  · rintro rfl
    refine ⟨p, (TreePath.isAbove_snoc p p i).mpr (Or.inl rfl), hm, hk, ?_⟩
    intro r n hpr hrp _
    rcases (TreePath.isAbove_snoc r p i).mp hrp with rfl | hrp
    · exact absurd rfl hpr.2
    · have hle := hrp.1.length_le
      have heq := hpr.1.eq_of_length_le hle
      exact absurd heq hpr.2

/-- Below a pair of parentheses, the context is that of the parentheses. -/
theorem isContext_snoc_of_paren
    {root m : Node} {p : TreePath}
    (hm : root.at? p = some m) (hk : m.kind = .paren) (i : Nat) (x : Node) :
    IsContext root (p ++ [i]) x ↔ IsContext root p x := by
  constructor
  · rintro ⟨q, hq, hx, hxk, hbetween⟩
    rcases (TreePath.isAbove_snoc q p i).mp hq with rfl | hqp
    · rw [hm] at hx
      cases hx
      exact absurd hk hxk
    · refine ⟨q, hqp, hx, hxk, ?_⟩
      intro r n hqr hrp hn
      exact hbetween r n hqr ((TreePath.isAbove_snoc r p i).mpr (Or.inr hrp)) hn
  · rintro ⟨q, hqp, hx, hxk, hbetween⟩
    refine ⟨q, (TreePath.isAbove_snoc q p i).mpr (Or.inr hqp), hx, hxk, ?_⟩
    intro r n hqr hrp hn
    rcases (TreePath.isAbove_snoc r p i).mp hrp with rfl | hrp
    · rw [hm] at hn
      cases hn
      exact hk
    · exact hbetween r n hqr hrp hn

/-- The verdict on the chain of ancestors is the verdict on the context. A root that is not a pair
of parentheses makes sure that there is one. -/
theorem isUsed_kindsAbove
    {root n : Node} {p : TreePath}
    (hroot : root.kind ≠ .paren) (hp : p ≠ [])
    (hn : root.at? p = some n) (used : Bool) :
    isUsed (kindsAbove root p) = used ↔ ∃ m, IsContext root p m ∧ uses m.kind = used := by
  induction p using List.reverseRecOn generalizing n with
  | nil => exact absurd rfl hp
  | append_singleton p i ih =>
      rw [Node.at?_append, Option.bind_eq_some_iff] at hn
      obtain ⟨m, hm, _⟩ := hn
      rw [kindsAbove_snoc hm]
      by_cases hk : m.kind = .paren
      · have hp : p ≠ [] := by
          rintro rfl
          cases hm
          exact hroot hk
        have hstep : isUsed (some m.kind :: kindsAbove root p) = isUsed (kindsAbove root p) := by
          rw [hk]
          rfl
        rw [hstep, ih hp hm]
        simp only [isContext_snoc_of_paren hm hk]
      · rw [isUsed_cons_of_ne_paren hk]
        simp only [isContext_snoc_of_ne_paren hm hk, exists_eq_left]

end Scan
end MustUse
