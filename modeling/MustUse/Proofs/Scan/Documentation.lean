import MustUse.Proofs.Scan.Discarded
import MustUse.Proofs.Syntax.Alike

/-!
# A scan does not look at doc comments

Callees are looked up, and contexts are judged, by kinds, slots and bindings. So a scan reports the
same on files that differ in their comments only, as long as the same functions are marked.

Main statements:

- `resolve_eq_of_alike`: alike callees stand for the same function;
- `Detector.scanFile_eq_of_alike`: a scan of alike files gives the same diagnostics.
-/

namespace MustUse
namespace Scan

open Syntax Report

theorem coreIn_eq
    (cs : List Node) :
    coreIn cs = (cs.find? (·.slot = .x)).bind core? := by
  induction cs with
  | nil => rfl
  | cons c cs ih =>
      by_cases hc : c.slot = .x
      · simp [coreIn, hc]
      · simp [coreIn, hc, ih]

/-- The core of a callee is that of its operand, if it is a layer, and else the callee itself. -/
theorem core?_eq
    (n : Node) :
    core? n =
      if n.kind = .paren ∨ n.kind = .index ∨ n.kind = .indexList then (n.child? .x).bind core?
      else some n := by
  cases n with
  | mk k s a cs =>
      simp only [Node.kind, Node.child?, Node.children, ← coreIn_eq]
      unfold core?
      split
      · simp
      · simp
      · simp
      · simp_all

section Alike

variable {R : Option Nat → Option Nat → Prop} {n n' : Node}

theorem rel_core?
    (h : Node.Alike R n n') :
    Option.Rel (Node.Alike R) (core? n) (core? n') := by
  induction n using Node.induct generalizing n' with
  | step k s a cs ih =>
      rw [core?_eq, core?_eq n', ← h.kind_eq]
      split
      · apply rel_bind (h.child? .x)
        intro c hc c' halike
        exact ih c (List.mem_of_find?_eq_some hc) halike
      · exact Option.Rel.some h

theorem binding?_eq_of_alike
    (h : Node.Alike R n n') :
    binding? n = binding? n' := by
  have hsel : (n.child? .sel).bind (·.attrs.use) = (n'.child? .sel).bind (·.attrs.use) :=
    bind_eq_of_rel (h.child? .sel) fun _ _ _ hc => hc.use_eq
  simp only [binding?, ← h.kind_eq, ← h.use_eq, ← h.selection_eq, hsel]

/-- Alike callees stand for the same function. -/
theorem resolve_eq_of_alike
    (h : Node.Alike R n n') :
    resolve n = resolve n' := by
  have hbinding : (core? n).bind binding? = (core? n').bind binding? :=
    bind_eq_of_rel (rel_core? h) fun _ _ _ hc => binding?_eq_of_alike hc
  simp only [resolve, calleeFunc?, hbinding]

end Alike

namespace Detector

variable {d : Detector} (hresolver : d.resolver = resolve)
variable {file file' : File} (hfile : file.Alike file')
include hresolver hfile

theorem check_eq_of_alike
    {n n' : Node} (h : Node.Alike (fun _ _ => True) n n')
    (files : FileSet) (ancestors : List (Option Kind)) :
    d.check files file' ancestors n' = d.check files file ancestors n := by
  have hcallee : ((n.child? .fn).bind fun callee => (d.resolver callee).func?) =
      (n'.child? .fn).bind fun callee => (d.resolver callee).func? := by
    apply bind_eq_of_rel (h.child? .fn)
    intro c _ c' hc
    rw [hresolver, resolve_eq_of_alike hc]
  simp only [check, discarded?, hcallee, h.kind_eq, hfile.placeOf_eq h]

theorem scanNode_eq_of_alike
    {n n' : Node} (h : Node.Alike (fun _ _ => True) n n')
    (files : FileSet) (ancestors : List (Option Kind)) :
    d.scanNode files file' ancestors n' = d.scanNode files file ancestors n := by
  induction n using Node.induct generalizing n' ancestors with
  | step k s a cs ih =>
      have hcheck := check_eq_of_alike hresolver hfile h files ancestors
      cases h with
      | @node _ _ _ a' _ cs' _ _ hchildren =>
          have hbelow : ∀ ancestors, d.scanNodes files file' ancestors cs' =
              d.scanNodes files file ancestors cs := by
            intro ancestors
            clear hcheck
            induction hchildren with
            | nil => rfl
            | cons hc _ ihcs =>
                have hrest := ihcs fun c hc => ih c (List.mem_cons_of_mem _ hc)
                rw [scanNodes, scanNodes, ih _ List.mem_cons_self hc, hrest]
          rw [scanNode, scanNode, hcheck, hbelow]

theorem scanFile_eq_of_alike
    (files : FileSet) (skip : List String) :
    d.scanFile files skip file' = d.scanFile files skip file := by
  rw [scanFile, scanFile, hfile.name_eq, scanNode_eq_of_alike hresolver hfile hfile.root]

end Detector
end Scan
end MustUse
