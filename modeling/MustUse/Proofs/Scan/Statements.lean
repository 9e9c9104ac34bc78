import MustUse.Proofs.Scan.Discarded
import MustUse.Proofs.Syntax.SlotTypes

/-!
# Which statements discard a value

Going up from a call through parentheses leads to the node that decides whether its value is used.
In a tree whose nodes stand in slots that admit them, this node does not use the value just when
the call makes up an expression statement or is the call of a `go` or a `defer` statement. Types
and the lengths of arrays are left out: a call in one of them is neither used nor discarded.

Main definitions:

- `Bare`: a node with nothing but parentheses around it;
- `IsStatement`: a call that is discarded by the statement it stands in.

Main statements:

- `isUsed_eq_false_iff`: the verdict on a call in any tree;
- `isUsed_eq_false_iff_statement`: the verdict on a call of a file.
-/

namespace MustUse
namespace Scan

open Syntax

/-- Nothing but parentheses stands above the node at the end of the path. -/
inductive Bare : Node → TreePath → Prop
  | here (n : Node) : Bare n []
  | paren
      {n c : Node} {i : Nat} {p : TreePath}
      (hkind : n.kind = .paren)
      (hi : n.children[i]? = some c)
      (hrest : Bare c p) :
      Bare n (i :: p)

/-- The node at the end of the path is, possibly in parentheses, the expression of an expression
statement, or the call of a `go` or a `defer` statement. -/
def IsStatement (root : Node) (p : TreePath) : Prop :=
  ∃ (q r : TreePath) (i : Nat) (m c : Node),
    p = q ++ i :: r ∧ root.at? q = some m ∧ m.children[i]? = some c ∧ Bare c r ∧
      (m.kind = .exprStmt ∧ c.slot = .x ∨
        (m.kind = .goStmt ∨ m.kind = .deferStmt) ∧ c.slot = .call)

theorem isUsed_append_of_bare
    {c : Node} {r : TreePath} (h : Bare c r) (rest : List (Option Kind)) :
    isUsed (kindsAbove c r ++ rest) = isUsed rest := by
  induction h generalizing rest with
  | here n => simp [kindsAbove]
  | paren hkind hi _ ih =>
      simp only [kindsAbove, hi, hkind, Option.elim_some, List.append_assoc, ih]
      rfl

/-- Every node is bare, or the way up through parentheses ends at another node. -/
theorem bare_or_exists_above
    {root n : Node} {p : TreePath} (hn : root.at? p = some n) :
    Bare root p ∨
      ∃ (q r : TreePath) (i : Nat) (m c : Node),
        p = q ++ i :: r ∧ root.at? q = some m ∧ m.kind ≠ .paren ∧ m.children[i]? = some c ∧
          Bare c r := by
  induction p generalizing root with
  | nil => exact Or.inl (Bare.here root)
  | cons i p ih =>
      rw [Node.at?_cons, Option.bind_eq_some_iff] at hn
      obtain ⟨c, hi, hn⟩ := hn
      rcases ih hn with hbare | ⟨q, r, j, m, x, rfl, hm, hkind, hx, hbare⟩
      · by_cases hroot : root.kind = .paren
        · exact Or.inl (Bare.paren hroot hi hbare)
        · exact Or.inr ⟨[], p, i, root, c, rfl, rfl, hroot, hi, hbare⟩
      · refine Or.inr ⟨i :: q, r, j, m, x, rfl, ?_, hkind, hx, hbare⟩
        rw [Node.at?_cons, hi]
        exact hm

/-- The node at which the way up through parentheses ends decides. -/
theorem isUsed_eq_uses
    {root m c : Node} {q r : TreePath} {i : Nat}
    (hm : root.at? q = some m) (hkind : m.kind ≠ .paren) (hi : m.children[i]? = some c)
    (hbare : Bare c r) :
    isUsed (kindsAbove root (q ++ i :: r)) = uses m.kind := by
  rw [kindsAbove_append hm]
  simp only [kindsAbove, hi, Option.elim_some, List.append_assoc, List.singleton_append]
  rw [isUsed_append_of_bare hbare, isUsed_cons_of_ne_paren hkind]

theorem kind_of_bare
    {c call : Node} {r : TreePath} (hbare : Bare c r) (hcall : c.at? r = some call)
    (hkind : call.kind = .call) :
    c.kind = .call ∨ c.kind = .paren := by
  cases hbare with
  | here =>
      cases hcall
      exact Or.inl hkind
  | paren hparen _ _ => exact Or.inr hparen

/-- Of all slots that admit a call, in parentheses or not, and are neither for types nor for
lengths, those of the three statements alone do not use it. -/
theorem slot_of_not_uses
    {k l : Kind} {e : Slot × SlotType} (he : e ∈ k.slotTypes)
    (hl : l = .call ∨ l = .paren) (hadmits : e.2.admits l = true)
    (hvalue : ¬ (e.2 = .type ∨ e.2 = .length)) (hkind : k ≠ .paren) (huses : uses k = false) :
    k = .exprStmt ∧ e.1 = .x ∨ (k = .goStmt ∨ k = .deferStmt) ∧ e.1 = .call := by
  have htable : ∀ k ∈ Kind.all, ∀ e ∈ k.slotTypes,
      e.2.admits .call = true ∨ e.2.admits .paren = true → ¬ (e.2 = .type ∨ e.2 = .length) →
        k ≠ .paren → uses k = false →
          k = .exprStmt ∧ e.1 = .x ∨ (k = .goStmt ∨ k = .deferStmt) ∧ e.1 = .call := by
    decide
  have hcall : e.2.admits .call = true ∨ e.2.admits .paren = true := by
    rcases hl with rfl | rfl
    · exact Or.inl hadmits
    · exact Or.inr hadmits
  exact htable k k.mem_all e he hcall hvalue hkind huses

/-- The value of a call is not used just when it is discarded by a statement, or when the call is
the whole tree. -/
theorem isUsed_eq_false_iff
    {root call : Node} {p : TreePath} (hslots : root.WellSlotted) (htypes : root.CallFreeTypes)
    (hcall : root.at? p = some call) (hkind : call.kind = .call) :
    isUsed (kindsAbove root p) = false ↔ IsStatement root p ∨ Bare root p := by
  constructor
  · intro hused
    rcases bare_or_exists_above hcall with hbare | ⟨q, r, i, m, c, rfl, hm, hparen, hi, hbare⟩
    · exact Or.inr hbare
    · rw [isUsed_eq_uses hm hparen hi hbare] at hused
      have hmem : m ∈ root.descendants := (Node.mem_descendants _ _).mpr ⟨q, hm⟩
      have hc : c ∈ m.children := List.mem_of_getElem? hi
      have hcr : c.at? r = some call := by
        rw [Node.at?_append, hm, Option.bind_some, Node.at?_cons, hi] at hcall
        exact hcall
      obtain ⟨e, he, hslot, hadmits⟩ := hslots m hmem c hc
      have hvalue : ¬ (e.2 = .type ∨ e.2 = .length) := by
        intro htype
        have hbelow : call ∈ c.descendants := (Node.mem_descendants _ _).mpr ⟨r, hcr⟩
        exact htypes m hmem c hc e he hslot htype call hbelow hkind
      have hdiscards :=
        slot_of_not_uses he (kind_of_bare hbare hcr hkind) hadmits hvalue hparen hused
      rw [hslot] at hdiscards
      exact Or.inl ⟨q, r, i, m, c, rfl, hm, hi, hbare, hdiscards⟩
  · rintro (⟨q, r, i, m, c, rfl, hm, hi, hbare, hdiscards⟩ | hbare)
    · rcases hdiscards with ⟨hexpr, _⟩ | ⟨hgo | hdefer, _⟩
      · rw [isUsed_eq_uses hm (by simp [hexpr]) hi hbare, hexpr]
        rfl
      · rw [isUsed_eq_uses hm (by simp [hgo]) hi hbare, hgo]
        rfl
      · rw [isUsed_eq_uses hm (by simp [hdefer]) hi hbare, hdefer]
        rfl
    · have h := isUsed_append_of_bare hbare []
      rw [List.append_nil] at h
      exact h

/-- In a file whose nodes stand in slots that admit them, with no call in a type or in the length
of an array, the value of a call is not used just when the call, possibly in parentheses, is an
expression statement or the call of a `go` or a `defer` statement. So these calls are the ones that
are reported, as far as their callees are found, have a result and are marked. -/
theorem isUsed_eq_false_iff_statement
    (file : File) (hslots : file.root.WellSlotted) (htypes : file.root.CallFreeTypes)
    (p : TreePath) (call : Node)
    (hcall : file.root.at? p = some call) (hkind : call.kind = .call) :
    (isUsed (kindsAbove file.root p) = false ↔ IsStatement file.root p) ∧
      ∀ (d : Detector) (f : Func),
        d.discarded? (kindsAbove file.root p) call = some f ↔
          IsStatement file.root p ∧
            ∃ callee, call.child? .fn = some callee ∧ d.resolver callee = .found f ∧
              f.returnsValue = true ∧ d.isMarked f = true := by
  have hnotBare : ¬ Bare file.root p := by
    intro hbare
    rcases kind_of_bare hbare hcall hkind with h | h <;> cases h
  have hiff : isUsed (kindsAbove file.root p) = false ↔ IsStatement file.root p := by
    rw [isUsed_eq_false_iff hslots htypes hcall hkind]
    simp [hnotBare]
  refine ⟨hiff, ?_⟩
  intro d f
  rw [d.discarded?_eq_some_iff, hiff]

/-- The call of a function without arguments in the given slot. -/
def callIn (s : Slot) : Node :=
  .mk .call s {} [.mk .ident .fn {} []]

/-- A function with the body `for f() { L: ((f())); defer f(f()) }`. -/
def loopFile : File :=
  { id := 0, packageStart := 0, comments := []
    decls :=
      [.mk .funcDecl .decls {}
        [.mk .ident .name {} [], .mk .funcType .type {} [],
          .mk .blockStmt .body {}
            [.mk .forStmt .list {}
              [callIn .cond,
                .mk .blockStmt .body {}
                  [.mk .labeledStmt .list {}
                    [.mk .ident .label {} [],
                      .mk .exprStmt .stmt {} [.mk .paren .x {} [.mk .paren .x {} [callIn .x]]]],
                    .mk .deferStmt .list {}
                      [.mk .call .call {} [.mk .ident .fn {} [], callIn .args]]]]]]] }

/-- The call in parentheses and the deferred one are discarded, the condition of the loop and the
argument are used. -/
theorem isUsed_eq_false_iff_statement_loop :
    loopFile.root.WellSlotted ∧ loopFile.root.CallFreeTypes ∧
      IsStatement loopFile.root [0, 2, 0, 1, 0, 1, 0, 0, 0] ∧
      IsStatement loopFile.root [0, 2, 0, 1, 1, 0] ∧
      ¬ IsStatement loopFile.root [0, 2, 0, 0] ∧
      ¬ IsStatement loopFile.root [0, 2, 0, 1, 1, 0, 1] := by
  have hslots : loopFile.root.WellSlotted := by decide
  have htypes : loopFile.root.CallFreeTypes := by decide
  have hiff := isUsed_eq_false_iff_statement loopFile hslots htypes
  refine ⟨hslots, htypes, ?_, ?_, ?_, ?_⟩
  · exact (hiff _ (callIn .x) rfl rfl).1.mp (by decide)
  · exact (hiff _ (.mk .call .call {} [.mk .ident .fn {} [], callIn .args]) rfl rfl).1.mp
      (by decide)
  · exact fun h => absurd ((hiff _ (callIn .cond) rfl rfl).1.mpr h) (by decide)
  · exact fun h => absurd ((hiff _ (callIn .args) rfl rfl).1.mpr h) (by decide)

end Scan
end MustUse
