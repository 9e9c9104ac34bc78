import MustUse.Syntax.Node
import Mathlib.Data.List.Basic

/-!
# Paths in syntax trees

A node of a tree is addressed by the way down to it from the root: at each node on the way, the
number of the child to go to. Paths give every occurrence of a node an identity of its own, also
where two occurrences look alike, and they carry the order in which a traversal meets the nodes.

Main definitions:

- `TreePath`, `Node.at?`: the node at the end of a path;
- `TreePath.Before`: the order of a traversal that meets each node before those below it;
- `TreePath.IsAbove`: proper ancestors;
- `Node.addressed`: all occurrences of nodes with their paths.

Main statements:

- `Node.mem_addressed`: the list of occurrences holds exactly the paths that lead to a node;
- `Node.addressed_pairwise`: it is in traversal order, so no occurrence is listed twice;
- `Node.mem_descendants`: the nodes of a tree are those that some path leads to.
-/

namespace MustUse
namespace Syntax

/-- The way from the root of a tree to a node below it: the number of a child at each step. -/
abbrev TreePath := List Nat

section Numbering

variable {α β : Type}

/-- The numbers of the members of a list increase. -/
theorem pairwise_zipIdx
    (l : List α) :
    l.zipIdx.Pairwise fun a b => a.2 < b.2 := by
  have h := List.pairwise_lt_range' (s := 0) (n := l.length)
  rw [← List.zipIdx_map_snd, List.pairwise_map] at h
  exact h

/-- Numbers that are not looked at do not matter. -/
theorem flatMap_fst_zipIdx
    (l : List α) (g : α → List β) :
    (l.zipIdx.flatMap fun a => g a.1) = l.flatMap g := by
  calc (l.zipIdx.flatMap fun a => g a.1)
      = (l.zipIdx.map Prod.fst).flatMap g := (List.flatMap_map Prod.fst g l.zipIdx).symm
    _ = l.flatMap g := by rw [List.zipIdx_map_fst]

end Numbering

namespace TreePath

/-- The order of a traversal that meets a node before the nodes below it, and the nodes below one
child before those below the next. -/
inductive Before : TreePath → TreePath → Prop
  | ancestor (i : Nat) (p : TreePath) : Before [] (i :: p)
  | sibling {i j : Nat} (p q : TreePath) : i < j → Before (i :: p) (j :: q)
  | inside (i : Nat) {p q : TreePath} : Before p q → Before (i :: p) (i :: q)

theorem Before.irrefl
    (p : TreePath) :
    ¬ Before p p := by
  induction p with
  | nil =>
      intro h
      cases h
  | cons i p ih =>
      intro h
      cases h with
      | sibling _ _ hlt => exact Nat.lt_irrefl i hlt
      | inside _ h => exact ih h

/-- The path `q` leads to a proper ancestor of the node that `p` leads to. -/
def IsAbove (q p : TreePath) : Prop :=
  q <+: p ∧ q ≠ p

/-- One step further down, the ancestors are the node left behind and what is above it. -/
theorem isAbove_snoc
    (q p : TreePath) (i : Nat) :
    IsAbove q (p ++ [i]) ↔ q = p ∨ IsAbove q p := by
  constructor
  · rintro ⟨hstart, hne⟩
    have hp : q <+: p := (List.prefix_concat_iff.mp hstart).resolve_left hne
    by_cases he : q = p
    · exact Or.inl he
    · exact Or.inr ⟨hp, he⟩
  · intro h
    have hp : q <+: p := by
      rcases h with rfl | ⟨hp, _⟩
      · exact List.prefix_refl q
      · exact hp
    refine ⟨hp.trans (List.prefix_append p [i]), ?_⟩
    rintro rfl
    have hlen := hp.length_le
    rw [List.length_append, List.length_singleton] at hlen
    omega

end TreePath

namespace Node

/-- Induction on trees: a property holds of a node when it holds of its children. -/
theorem induct
    {P : Node → Prop}
    (step : ∀ k s a cs, (∀ c ∈ cs, P c) → P (.mk k s a cs)) :
    ∀ n, P n := by
  intro n
  refine @Node.rec P (fun cs => ∀ c ∈ cs, P c) step ?_ ?_ n
  · intro c hc
    cases hc
  · intro head tail hhead htail c hc
    rcases List.mem_cons.mp hc with rfl | hc
    · exact hhead
    · exact htail c hc

/-- The node at the end of a path, if the path stays in the tree. -/
def at? (n : Node) : TreePath → Option Node
  | [] => some n
  | i :: p => n.children[i]?.bind fun c => c.at? p

@[simp] theorem at?_nil
    (n : Node) :
    n.at? [] = some n := by
  rfl

theorem at?_cons
    (n : Node) (i : Nat) (p : TreePath) :
    n.at? (i :: p) = n.children[i]?.bind fun c => c.at? p := by
  rfl

theorem at?_append
    (n : Node) (p q : TreePath) :
    n.at? (p ++ q) = (n.at? p).bind fun m => m.at? q := by
  induction p generalizing n with
  | nil => rfl
  | cons i p ih =>
      rw [List.cons_append, at?_cons, at?_cons, Option.bind_assoc]
      simp only [ih]

mutual

/-- The occurrences of nodes in a tree with their paths, in traversal order. -/
def addressed : Node → List (TreePath × Node)
  | .mk k s a cs => ([], .mk k s a cs) :: addressedFrom 0 cs

/-- The occurrences below several children, the first of which has the number `i`. -/
def addressedFrom : Nat → List Node → List (TreePath × Node)
  | _, [] => []
  | i, n :: rest =>
    (n.addressed.map fun e => (i :: e.1, e.2)) ++ addressedFrom (i + 1) rest

end

theorem addressedFrom_eq_flatMap
    (i : Nat) (cs : List Node) :
    addressedFrom i cs =
      (cs.zipIdx i).flatMap fun c => c.1.addressed.map fun e => (c.2 :: e.1, e.2) := by
  induction cs generalizing i with
  | nil => rfl
  | cons c cs ih =>
      rw [addressedFrom, ih, List.zipIdx_cons, List.flatMap_cons]

/-- The occurrences in a tree: its root, and those below each numbered child. -/
theorem addressed_eq
    (n : Node) :
    n.addressed =
      ([], n) ::
        n.children.zipIdx.flatMap fun c => c.1.addressed.map fun e => (c.2 :: e.1, e.2) := by
  cases n with
  | mk k s a cs =>
      rw [addressed, addressedFrom_eq_flatMap]
      rfl

/-- The list of occurrences holds exactly the paths that lead to a node. -/
theorem mem_addressed
    (n : Node) (p : TreePath) (m : Node) :
    (p, m) ∈ n.addressed ↔ n.at? p = some m := by
  induction p generalizing n with
  | nil =>
      rw [addressed_eq]
      simp [eq_comm]
  | cons i p ih =>
      rw [addressed_eq, at?_cons, Option.bind_eq_some_iff]
      simp only [List.mem_cons, Prod.mk.injEq, reduceCtorEq, false_and, false_or,
        List.mem_flatMap, List.mem_map, Prod.exists]
      constructor
      · rintro ⟨c, j, hc, q, x, hx, ⟨rfl, rfl⟩, rfl⟩
        exact ⟨c, List.mem_zipIdx_iff_getElem?.mp hc, (ih c).mp hx⟩
      · rintro ⟨c, hc, hp⟩
        exact ⟨c, i, List.mem_zipIdx_iff_getElem?.mpr hc, p, m, (ih c).mpr hp, rfl, rfl⟩

/-- Occurrences are listed in traversal order, so none is listed twice. -/
theorem addressed_pairwise
    (n : Node) :
    n.addressed.Pairwise fun a b => TreePath.Before a.1 b.1 := by
  induction n using Node.induct with
  | step k s a cs ih =>
      rw [addressed_eq, List.pairwise_cons, List.pairwise_flatMap]
      refine ⟨?_, ?_, ?_⟩
      · rintro ⟨p, m⟩ hm
        simp only [List.mem_flatMap, List.mem_map] at hm
        obtain ⟨c, _, e, _, he⟩ := hm
        cases he
        exact TreePath.Before.ancestor _ _
      · rintro ⟨c, i⟩ hc
        rw [List.pairwise_map]
        have hmem : c ∈ cs := (List.mem_zipIdx hc).2.2 ▸ List.getElem_mem _
        exact (ih c hmem).imp fun h => TreePath.Before.inside i h
      · refine (pairwise_zipIdx cs).imp ?_
        rintro ⟨c, i⟩ ⟨d, j⟩ hij x hx y hy
        simp only [List.mem_map] at hx hy
        obtain ⟨e, _, rfl⟩ := hx
        obtain ⟨e', _, rfl⟩ := hy
        exact TreePath.Before.sibling _ _ hij

theorem descendantsOf_eq_flatMap
    (cs : List Node) :
    descendantsOf cs = cs.flatMap descendants := by
  induction cs with
  | nil => rfl
  | cons c cs ih =>
      rw [descendantsOf, ih, List.flatMap_cons]

/-- The nodes of a tree in traversal order are the ends of the paths in that order. -/
theorem map_snd_addressed
    (n : Node) :
    n.addressed.map (·.2) = n.descendants := by
  induction n using Node.induct with
  | step k s a cs ih =>
      rw [addressed_eq, descendants, descendantsOf_eq_flatMap, List.map_cons, List.map_flatMap]
      simp only [List.map_map, Function.comp_def]
      have hbelow :
          (cs.zipIdx.flatMap fun c => c.1.addressed.map (·.2)) = cs.flatMap descendants := by
        rw [flatMap_fst_zipIdx cs fun c => c.addressed.map (·.2)]
        exact List.flatMap_congr ih
      exact congrArg (List.cons _) hbelow

theorem mem_descendants
    (n m : Node) :
    m ∈ n.descendants ↔ ∃ p, n.at? p = some m := by
  rw [← map_snd_addressed, List.mem_map]
  constructor
  · rintro ⟨⟨p, x⟩, hx, rfl⟩
    exact ⟨p, (mem_addressed n p x).mp hx⟩
  · rintro ⟨p, hp⟩
    exact ⟨(p, m), (mem_addressed n p m).mpr hp, rfl⟩

end Node
end Syntax
end MustUse
