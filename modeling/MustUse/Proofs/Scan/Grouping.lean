import MustUse.Proofs.Scan.Documentation
import MustUse.Proofs.Syntax.Grouping

/-!
# Parentheses are transparent

Parentheses around a call do not change the node that decides whether its value is used, and
parentheses in a callee do not change the function it stands for. So a scan reports calls of the
same functions in the same order, however many parentheses are put into the files.

Main statements:

- `resolve_eq_of_grouped`: a callee with parentheses in it stands for the same function;
- `Detector.funcs_scanNode_of_grouped`: the walk over a tree reports the same functions;
- `scan_funcs_of_grouped`: so does a scan of files.
-/

namespace MustUse
namespace Scan

open Syntax Report

/-- What the core of a callee is bound to. -/
def coreBinding? (n : Node) : Option Obj :=
  (core? n).bind binding?

theorem coreBinding?_eq
    (n : Node) :
    coreBinding? n =
      if n.kind = .paren ∨ n.kind = .index ∨ n.kind = .indexList then
        (n.child? .x).bind coreBinding?
      else
        binding? n := by
  unfold coreBinding?
  rw [core?_eq]
  split
  · rw [Option.bind_assoc]
  · rfl

theorem coreBinding?_inSlot
    (n : Node) (s : Slot) :
    coreBinding? (n.inSlot s) = coreBinding? n := by
  cases n with
  | mk k t a cs =>
      rw [coreBinding?_eq, coreBinding?_eq (.mk k t a cs)]
      rfl

theorem coreBinding?_inParens
    (n : Node) (a : Attrs) :
    coreBinding? (n.inParens a) = coreBinding? n := by
  have hx : (n.inSlot .x).slot = .x := by
    cases n
    rfl
  rw [coreBinding?_eq]
  simp [Node.inParens, Node.kind, Node.child?, Node.children, hx, coreBinding?_inSlot]

theorem binding?_of_grouped
    {P : Node → Node → Prop} {k : Kind} {s : Slot} {a a' : Attrs} {cs cs' : List Node}
    (hattrs : a.Moved a')
    (hchildren : List.Forall₂ (fun c c' => Node.Grouped k c c' ∧ P c c') cs cs') :
    binding? (.mk k s a' cs') = binding? (.mk k s a cs) := by
  unfold binding?
  simp only [Node.kind]
  split
  · exact hattrs.use_eq
  · have hsel : ((Node.mk .selector s a cs).child? .sel).bind (·.attrs.use) =
        ((Node.mk .selector s a' cs').child? .sel).bind (·.attrs.use) := by
      apply bind_eq_of_rel (Node.Grouped.rel_child? hchildren .sel)
      rintro c hc c' ⟨hgrouped, _⟩
      have hslot : c.slot = .sel := by simpa using List.find?_some hc
      exact (hgrouped.moved (by rw [hslot]; rfl)).use_eq.symm
    have hselection : (Node.mk .selector s a' cs').attrs.selection =
        (Node.mk .selector s a cs).attrs.selection := hattrs.selection_eq
    rw [hselection, hsel]
  · rfl

theorem coreBinding?_of_grouped
    {parent : Kind} {n n' : Node} (h : Node.Grouped parent n n') :
    coreBinding? n' = coreBinding? n := by
  refine Node.Grouped.induct (P := fun _ n n' => coreBinding? n' = coreBinding? n) ?_ ?_ h
  · intro parent k s a a' cs cs' hattrs hchildren
    have hoperand : ((Node.mk k s a cs).child? .x).bind coreBinding? =
        ((Node.mk k s a' cs').child? .x).bind coreBinding? := by
      apply bind_eq_of_rel (Node.Grouped.rel_child? hchildren .x)
      rintro c _ c' ⟨_, ih⟩
      exact ih.symm
    rw [coreBinding?_eq, coreBinding?_eq (.mk k s a cs), hoperand,
      binding?_of_grouped hattrs hchildren]
    rfl
  · intro parent n n' a ih
    rw [coreBinding?_inParens, ih]

theorem resolve_eq_of_grouped
    {parent : Kind} {n n' : Node} (h : Node.Grouped parent n n') :
    resolve n' = resolve n := by
  have hbinding := coreBinding?_of_grouped h
  unfold coreBinding? at hbinding
  simp only [resolve, calleeFunc?, hbinding]

theorem isUsed_cons_congr
    {ancestors ancestors' : List (Option Kind)} (h : isUsed ancestors' = isUsed ancestors)
    (k : Kind) :
    isUsed (some k :: ancestors') = isUsed (some k :: ancestors) := by
  by_cases hk : k = .paren
  · rw [hk]
    exact h
  · rw [isUsed_cons_of_ne_paren hk, isUsed_cons_of_ne_paren hk]

namespace Detector

theorem scanNode_inSlot
    (d : Detector) (files : FileSet) (file : File) (ancestors : List (Option Kind)) (n : Node)
    (s : Slot) :
    d.scanNode files file ancestors (n.inSlot s) = d.scanNode files file ancestors n := by
  cases n with
  | mk k t a cs =>
      have hstart : (Node.mk k s a cs).start = (Node.mk k t a cs).start := by
        rw [Node.start, Node.start]
      have hcheck : d.check files file ancestors (.mk k s a cs) =
          d.check files file ancestors (.mk k t a cs) := by
        simp only [check, discarded?, File.placeOf, hstart]
        rfl
      rw [Node.inSlot, scanNode, scanNode, hcheck]

theorem scanNode_inParens
    (d : Detector) (files : FileSet) (file : File) (ancestors : List (Option Kind)) (a : Attrs)
    (n : Node) :
    d.scanNode files file ancestors (n.inParens a) =
      d.scanNode files file (some .paren :: ancestors) n := by
  rw [Node.inParens, scanNode, scanNodes, scanNodes, scanNode_inSlot, List.append_nil]
  rfl

theorem funcs_check
    (d : Detector) (files : FileSet) (file : File) (ancestors : List (Option Kind)) (n : Node) :
    (d.check files file ancestors n).map (·.func) =
      if n.kind = .call then ((d.discarded? ancestors n).map Func.name).toList else [] := by
  unfold check
  by_cases hkind : n.kind = .call
  · rw [if_pos hkind, if_pos hkind]
    cases d.discarded? ancestors n with
    | none => rfl
    | some f => rfl
  · rw [if_neg hkind, if_neg hkind]
    rfl

section Grouped

variable {d : Detector} (hresolver : d.resolver = resolve)
variable (files files' : FileSet) (file file' : File)
include hresolver

theorem funcs_check_of_grouped
    {P : Node → Node → Prop} {k : Kind} {s : Slot} {a a' : Attrs} {cs cs' : List Node}
    (hchildren : List.Forall₂ (fun c c' => Node.Grouped k c c' ∧ P c c') cs cs')
    {ancestors ancestors' : List (Option Kind)} (h : isUsed ancestors' = isUsed ancestors) :
    (d.check files' file' ancestors' (.mk k s a' cs')).map (·.func) =
      (d.check files file ancestors (.mk k s a cs)).map (·.func) := by
  have hcallee : ((Node.mk k s a cs).child? .fn).bind (fun callee => (d.resolver callee).func?) =
      ((Node.mk k s a' cs').child? .fn).bind fun callee => (d.resolver callee).func? := by
    apply bind_eq_of_rel (Node.Grouped.rel_child? hchildren .fn)
    rintro c _ c' ⟨hgrouped, _⟩
    rw [hresolver, resolve_eq_of_grouped hgrouped]
  have hdiscarded : d.discarded? ancestors' (.mk k s a' cs') =
      d.discarded? ancestors (.mk k s a cs) := by
    simp only [discarded?, h, hcallee]
  rw [funcs_check, funcs_check, hdiscarded]
  rfl

/-- A walk over a tree with parentheses put into it reports the same functions. The chains of
ancestors differ by parentheses, so only their verdicts can be compared. -/
theorem funcs_scanNode_of_grouped
    {parent : Kind} {n n' : Node} (hn : Node.Grouped parent n n') :
    ∀ ancestors ancestors', isUsed ancestors' = isUsed ancestors →
      (d.scanNode files' file' ancestors' n').map (·.func) =
        (d.scanNode files file ancestors n).map (·.func) := by
  refine Node.Grouped.induct (P := fun _ n n' => ∀ ancestors ancestors',
    isUsed ancestors' = isUsed ancestors →
      (d.scanNode files' file' ancestors' n').map (·.func) =
        (d.scanNode files file ancestors n).map (·.func)) ?_ ?_ hn
  · intro parent k s a a' cs cs' _ hchildren ancestors ancestors' h
    have hcheck : (d.check files' file' ancestors' (.mk k s a' cs')).map (·.func) =
        (d.check files file ancestors (.mk k s a cs)).map (·.func) :=
      funcs_check_of_grouped hresolver files files' file file' hchildren h
    have hbelow : (d.scanNodes files' file' (some k :: ancestors') cs').map (·.func) =
        (d.scanNodes files file (some k :: ancestors) cs).map (·.func) := by
      clear hcheck
      induction hchildren with
      | nil => rfl
      | cons hc _ ih =>
          rw [scanNodes, scanNodes, List.map_append, List.map_append, ih,
            hc.2 _ _ (isUsed_cons_congr h k)]
    rw [scanNode, scanNode, List.map_append, List.map_append, hcheck, hbelow]
  · intro parent n n' a ih ancestors ancestors' h
    rw [scanNode_inParens]
    exact ih ancestors (some .paren :: ancestors') h

end Grouped
end Detector

/-- A scan of files with parentheses put around some of their expressions reports calls of the same
functions in the same order. -/
theorem scan_funcs_of_grouped
    (isMarked : Func → Bool) (files files' : FileSet) (skip : List String)
    (sources sources' : List File)
    (h : List.Forall₂ (File.Grouped files files') sources sources') :
    (Detector.scan ⟨resolve, isMarked⟩ files' skip sources').map (·.func) =
      (Detector.scan ⟨resolve, isMarked⟩ files skip sources).map (·.func) := by
  unfold Detector.scan
  induction h with
  | nil => rfl
  | @cons file file' sources sources' hfile _ ih =>
      have hroot := Detector.funcs_scanNode_of_grouped (d := ⟨resolve, isMarked⟩) rfl files files'
        file file' hfile.root [] [] rfl
      rw [List.flatMap_cons, List.flatMap_cons, List.map_append, List.map_append, ih]
      congr 1
      unfold Detector.scanFile
      rw [hfile.name_eq]
      split
      · rfl
      · exact hroot

/-- A generic function with a result. -/
def groupedFunc : Func :=
  .declared
    { id := 0, name := "F", package := none
      signature := some { receiver := none, results := 1 }, place := none }

/-- A file `a.go` with a function of one statement. -/
def oneStatement (x : Node) : File :=
  { id := 0, packageStart := 0, comments := []
    decls := [.mk .funcDecl .decls {} [.mk .blockStmt .body {} [.mk .exprStmt .list {} [x]]]] }

/-- The statement `F[int](F(0))`. -/
def plainStatement : Node :=
  .mk .call .x {}
    [.mk .index .fn {}
      [.mk .ident .x { start := some 30, use := some (.func groupedFunc) } [],
        .mk .ident .index { start := some 32 } []],
      .mk .call .args {}
        [.mk .ident .fn { start := some 37, use := some (.func groupedFunc) } [],
          .mk .basicLit .args { start := some 39 } []]]

/-- The statement `(((F)[int])(((F(0)))))`. -/
def groupedStatement : Node :=
  .inParens { start := some 30 }
    (.mk .call .x {}
      [.inParens { start := some 31 }
        (.mk .index .fn {}
          [.inParens { start := some 32 }
            (.mk .ident .x { start := some 33, use := some (.func groupedFunc) } []),
            .mk .ident .index { start := some 36 } []]),
        .inParens { start := some 42 } (.inParens { start := some 43 }
          (.mk .call .args {}
            [.mk .ident .fn { start := some 44, use := some (.func groupedFunc) } [],
              .mk .basicLit .args { start := some 46 } []]))])

theorem grouped_oneStatement :
    File.Grouped [⟨"a.go", [0, 10], []⟩] [⟨"a.go", [0, 10], []⟩] (oneStatement plainStatement)
      (oneStatement groupedStatement) := by
  constructor
  · rfl
  · repeat' first | exact rfl | constructor

/-- The outer call is reported with its parentheses as without them. -/
theorem scan_funcs_of_grouped_oneStatement :
    List.Forall₂ (File.Grouped [⟨"a.go", [0, 10], []⟩] [⟨"a.go", [0, 10], []⟩])
      [oneStatement plainStatement] [oneStatement groupedStatement] ∧
    (Detector.scan ⟨resolve, fun _ => true⟩ [⟨"a.go", [0, 10], []⟩] []
      [oneStatement plainStatement]).map (·.func) = ["F"] ∧
    (Detector.scan ⟨resolve, fun _ => true⟩ [⟨"a.go", [0, 10], []⟩] []
      [oneStatement groupedStatement]).map (·.func) = ["F"] := by
  have h : List.Forall₂ (File.Grouped [⟨"a.go", [0, 10], []⟩] [⟨"a.go", [0, 10], []⟩])
      [oneStatement plainStatement] [oneStatement groupedStatement] :=
    List.Forall₂.cons grouped_oneStatement List.Forall₂.nil
  have hplain : (Detector.scan ⟨resolve, fun _ => true⟩ [⟨"a.go", [0, 10], []⟩] []
      [oneStatement plainStatement]).map (·.func) = ["F"] := by
    decide
  exact ⟨h, hplain, (scan_funcs_of_grouped (fun _ => true) _ _ [] _ _ h).trans hplain⟩

end Scan
end MustUse
