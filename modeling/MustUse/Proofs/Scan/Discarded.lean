import MustUse.Proofs.Scan.Context
import MustUse.Scan.Discarded

/-!
# Which calls a scan reports

A call is discarded when its file is not skipped, its context does not use its value, its callee is
found, and the function has a result and is marked. The conditions are those of the call alone, on
its path in the tree of its file. A scan reports exactly the discarded calls, each once, file by
file and in traversal order, whatever the look-up of other callees comes to.

Main definitions:

- `CallSite`, `CallSite.IsDiscarded`: an occurrence of a call, and when it is discarded;
- `CallSite.Before`: the order of occurrences;
- `Detector.failingOn`: a detector whose look-up breaks down on some callees.

Main statements: `scan_eq_discarded_calls`, and `scan_eq_found` on the collector of diagnostics.
-/

namespace MustUse
namespace Scan

open Syntax Report

/-- An occurrence of a call in one of several files: the number of the file, the file, the path to
the call, the call itself, its callee and the function that the callee stands for. -/
structure CallSite where
  index : Nat
  file : File
  path : TreePath
  call : Node
  callee : Node
  func : Func

namespace CallSite

/-- The order of occurrences: by file, and in traversal order inside a file. -/
def Before (a b : CallSite) : Prop :=
  a.index < b.index ∨ a.index = b.index ∧ a.path.Before b.path

/-- The diagnostic for an occurrence of a call. -/
def diagnostic (files : FileSet) (c : CallSite) : Diagnostic :=
  .ofCall files (c.file.placeOf c.call) c.func.name

/-- An occurrence of a call whose result is discarded although it must be used. -/
structure IsDiscarded (d : Detector) (files : FileSet) (skip : List String)
    (sources : List File) (c : CallSite) : Prop where
  file_eq : sources[c.index]? = some c.file
  not_skipped : c.file.name files ∉ skip
  call_eq : c.file.root.at? c.path = some c.call
  is_call : c.call.kind = .call
  not_used : ∃ m, IsContext c.file.root c.path m ∧ uses m.kind = false
  callee_eq : c.call.child? .fn = some c.callee
  found : d.resolver c.callee = .found c.func
  has_result : ∃ sig, c.func.signature = some sig ∧ 0 < sig.results
  marked : d.isMarked c.func = true

/-- A call that one detector finds discarded is so to every other that looks up callees in the same
way and marks its function. -/
theorem IsDiscarded.of_isMarked
    {d d' : Detector} {files : FileSet} {skip : List String} {sources : List File} {c : CallSite}
    (h : c.IsDiscarded d files skip sources) (hresolver : d'.resolver = d.resolver)
    (hmarked : d'.isMarked c.func = true) :
    c.IsDiscarded d' files skip sources :=
  { h with found := hresolver ▸ h.found, marked := hmarked }

theorem Before.irrefl
    (c : CallSite) :
    ¬ c.Before c := by
  rintro (h | ⟨_, h⟩)
  · exact Nat.lt_irrefl _ h
  · exact TreePath.Before.irrefl _ h

end CallSite

/-- A file calls `f`: the look-up finds `f` for the callee of one of its calls. -/
def Calls (r : Resolver) (file : File) (f : Func) : Prop :=
  ∃ p call callee, file.root.at? p = some call ∧ call.kind = .call ∧
    call.child? .fn = some callee ∧ r callee = .found f

/-- The functions that a file calls. -/
def calledFuncs (r : Resolver) (file : File) : List Func :=
  (file.root.descendants.filter (·.kind = .call)).filterMap fun call =>
    (call.child? .fn).bind fun callee => (r callee).func?

theorem mem_calledFuncs
    (r : Resolver) (file : File) (f : Func) :
    f ∈ calledFuncs r file ↔ Calls r file f := by
  have hfound : ∀ callee, (r callee).func? = some f ↔ r callee = .found f := by
    intro callee
    cases r callee with
    | found g => simp [Resolution.func?]
    | unknown => simp [Resolution.func?]
    | failed => simp [Resolution.func?]
  unfold calledFuncs Calls
  rw [List.mem_filterMap]
  simp only [List.mem_filter, decide_eq_true_eq, Node.mem_descendants, Option.bind_eq_some_iff,
    hfound]
  constructor
  · rintro ⟨call, ⟨⟨p, hp⟩, hkind⟩, callee, hcallee, hf⟩
    exact ⟨p, call, callee, hp, hkind, hcallee, hf⟩
  · rintro ⟨p, call, callee, hp, hkind, hcallee, hf⟩
    exact ⟨call, ⟨⟨p, hp⟩, hkind⟩, callee, hcallee, hf⟩

theorem returnsValue_iff
    (f : Func) :
    f.returnsValue = true ↔ ∃ sig, f.signature = some sig ∧ 0 < sig.results := by
  unfold Func.returnsValue
  cases f.signature with
  | none => simp
  | some sig => simp

namespace Detector

/-- The detector with a look-up that breaks down on some callees. -/
def failingOn (d : Detector) (broken : Node → Bool) : Detector :=
  { d with resolver := fun callee => if broken callee then .failed else d.resolver callee }

theorem scanNodes_eq_flatMap
    (d : Detector) (files : FileSet) (file : File) (ancestors : List (Option Kind))
    (cs : List Node) :
    d.scanNodes files file ancestors cs = cs.flatMap (d.scanNode files file ancestors) := by
  induction cs with
  | nil => rfl
  | cons c cs ih =>
      rw [scanNodes, ih, List.flatMap_cons]

/-- The walk with a chain of ancestors is a walk over paths: at the end of each path the chain
holds the kinds above it. -/
theorem scanNode_eq_flatMap
    (d : Detector) (files : FileSet) (file : File) (ancestors : List (Option Kind))
    (n : Node) :
    d.scanNode files file ancestors n =
      n.addressed.flatMap fun e => d.check files file (kindsAbove n e.1 ++ ancestors) e.2 := by
  induction n using Node.induct generalizing ancestors with
  | step k s a cs ih =>
      rw [scanNode, scanNodes_eq_flatMap, Node.addressed_eq, List.flatMap_cons,
        List.flatMap_assoc]
      congr 1
      rw [← flatMap_fst_zipIdx]
      apply List.flatMap_congr
      rintro ⟨c, i⟩ hc
      have hchild : cs[i]? = some c := List.mem_zipIdx_iff_getElem?.mp hc
      rw [ih c (List.mem_of_getElem? hchild), List.flatMap_map]
      apply List.flatMap_congr
      rintro ⟨p, m⟩ _
      have hkinds :
          kindsAbove (.mk k s a cs) (i :: p) = kindsAbove c p ++ [some k] := by
        simp [kindsAbove, Node.children, Node.kind, hchild]
      rw [hkinds, List.append_assoc]
      rfl

/-- When the function of a call is to be reported. -/
theorem discarded?_eq_some_iff
    (d : Detector) (ancestors : List (Option Kind)) (n : Node) (f : Func) :
    d.discarded? ancestors n = some f ↔
      isUsed ancestors = false ∧
        ∃ callee, n.child? .fn = some callee ∧ d.resolver callee = .found f ∧
          f.returnsValue = true ∧ d.isMarked f = true := by
  unfold discarded?
  cases isUsed ancestors with
  | true => simp
  | false =>
      cases n.child? .fn with
      | none => simp
      | some callee =>
          cases hr : d.resolver callee with
          | found g =>
              simp only [Bool.false_eq_true, ite_false, Option.bind_some, hr, Resolution.func?]
              constructor
              · intro h
                split at h
                · rename_i hg
                  cases h
                  rw [Bool.and_eq_true] at hg
                  exact ⟨trivial, callee, rfl, hr, hg⟩
                · cases h
              · rintro ⟨_, _, hcallee, hg, hmarked⟩
                cases hcallee
                rw [hr] at hg
                cases hg
                rw [if_pos (by rw [Bool.and_eq_true]; exact hmarked)]
          | unknown => simp [hr, Resolution.func?]
          | failed => simp [hr, Resolution.func?]

/-- The occurrence of a discarded call at the end of a path in the file with number `i`. -/
def callAt? (d : Detector) (i : Nat) (file : File) (e : TreePath × Node) : Option CallSite :=
  if e.2.kind = .call then
    (e.2.child? .fn).bind fun callee =>
      (d.discarded? (kindsAbove file.root e.1) e.2).map fun f =>
        { index := i, file := file, path := e.1, call := e.2, callee := callee, func := f }
  else
    none

/-- The occurrences of discarded calls in one file. -/
def callsOf (d : Detector) (files : FileSet) (skip : List String) (source : File × Nat) :
    List CallSite :=
  if skip.contains (source.1.name files) then []
  else source.1.root.addressed.filterMap (d.callAt? source.2 source.1)

/-- The occurrences of discarded calls in several files. -/
def calls (d : Detector) (files : FileSet) (skip : List String) (sources : List File) :
    List CallSite :=
  sources.zipIdx.flatMap (d.callsOf files skip)

theorem callAt?_eq_some_iff
    (d : Detector) (i : Nat) (file : File) (e : TreePath × Node) (c : CallSite) :
    d.callAt? i file e = some c ↔
      c.index = i ∧ c.file = file ∧ (c.path, c.call) = e ∧ c.call.kind = .call ∧
        isUsed (kindsAbove file.root c.path) = false ∧ c.call.child? .fn = some c.callee ∧
        d.resolver c.callee = .found c.func ∧ c.func.returnsValue = true ∧
        d.isMarked c.func = true := by
  obtain ⟨p, n⟩ := e
  unfold callAt?
  constructor
  · intro h
    split at h
    · rename_i hkind
      simp only [Option.bind_eq_some_iff, Option.map_eq_some_iff] at h
      obtain ⟨callee, hcallee, f, hf, rfl⟩ := h
      obtain ⟨hused, callee', hcallee', hrest⟩ := (discarded?_eq_some_iff d _ n f).mp hf
      rw [hcallee] at hcallee'
      cases hcallee'
      exact ⟨rfl, rfl, rfl, hkind, hused, hcallee, hrest⟩
    · cases h
  · rintro ⟨rfl, rfl, he, hkind, hused, hcallee, hrest⟩
    cases he
    have hf := (discarded?_eq_some_iff d (kindsAbove c.file.root c.path) c.call c.func).mpr
      ⟨hused, c.callee, hcallee, hrest⟩
    rw [if_pos hkind, hcallee, hf]
    rfl

theorem check_eq_callAt?
    (d : Detector) (files : FileSet) (i : Nat) (file : File) (e : TreePath × Node) :
    d.check files file (kindsAbove file.root e.1) e.2 =
      (d.callAt? i file e).toList.map (CallSite.diagnostic files) := by
  unfold check callAt?
  by_cases hkind : e.2.kind = .call
  · rw [if_pos hkind, if_pos hkind]
    cases hf : d.discarded? (kindsAbove file.root e.1) e.2 with
    | none => simp
    | some f =>
        obtain ⟨_, callee, hcallee, _⟩ := (discarded?_eq_some_iff d _ e.2 f).mp hf
        rw [hcallee]
        rfl
  · rw [if_neg hkind, if_neg hkind]
    rfl

/-- A scan reports the occurrences of discarded calls. -/
theorem scan_eq_map_calls
    (d : Detector) (files : FileSet) (skip : List String) (sources : List File) :
    d.scan files skip sources = (d.calls files skip sources).map (CallSite.diagnostic files) := by
  unfold scan calls
  rw [List.map_flatMap, ← flatMap_fst_zipIdx]
  apply List.flatMap_congr
  rintro ⟨file, i⟩ _
  unfold scanFile callsOf
  by_cases hskip : skip.contains (file.name files) = true
  · rw [if_pos hskip, if_pos hskip]
    rfl
  · rw [if_neg hskip, if_neg hskip, scanNode_eq_flatMap, List.filterMap_eq_flatMap_toList,
      List.map_flatMap]
    apply List.flatMap_congr
    intro e _
    rw [List.append_nil]
    exact check_eq_callAt? d files i file e

/-- A scan gives what is collected when the discarded calls are emitted one after the other. -/
theorem scan_eq_found
    (d : Detector) (files : FileSet) (skip : List String) (sources : List File) :
    d.scan files skip sources =
      ((d.calls files skip sources).foldl
        (fun collector c => collector.emit (c.file.placeOf c.call) c.func.name)
        (Collector.new files)).found := by
  have hfound := Collector.found_foldl_emit (fun c : CallSite => c.file.placeOf c.call)
    (fun c => c.func.name) (Collector.new files) (d.calls files skip sources)
  rw [hfound, scan_eq_map_calls]
  rfl

/-- The occurrences in the list are the discarded calls. -/
theorem mem_calls
    (d : Detector) (files : FileSet) (skip : List String) (sources : List File) (c : CallSite) :
    c ∈ d.calls files skip sources ↔ c.IsDiscarded d files skip sources := by
  have hroot : c.file.root.kind ≠ .paren := by
    intro h
    cases h
  have hpath : c.file.root.at? c.path = some c.call → c.call.kind = .call → c.path ≠ [] := by
    intro hcall hkind hp
    rw [hp] at hcall
    rw [← Option.some.inj hcall] at hkind
    cases hkind
  unfold calls
  rw [List.mem_flatMap]
  constructor
  · rintro ⟨⟨file, i⟩, hfile, hc⟩
    unfold callsOf at hc
    split at hc
    · cases hc
    · rename_i hskip
      obtain ⟨e, he, hc⟩ := List.mem_filterMap.mp hc
      obtain ⟨rfl, rfl, rfl, hkind, hused, hcallee, hfound, hresult, hmarked⟩ :=
        (callAt?_eq_some_iff d i file e c).mp hc
      have hcall := (Node.mem_addressed _ _ _).mp he
      exact
        { file_eq := List.mem_zipIdx_iff_getElem?.mp hfile
          not_skipped := by simpa using hskip
          call_eq := hcall
          is_call := hkind
          not_used := (isUsed_kindsAbove hroot (hpath hcall hkind) hcall false).mp hused
          callee_eq := hcallee
          found := hfound
          has_result := (returnsValue_iff c.func).mp hresult
          marked := hmarked }
  · intro h
    refine ⟨(c.file, c.index), List.mem_zipIdx_iff_getElem?.mpr h.file_eq, ?_⟩
    unfold callsOf
    rw [if_neg (by simpa using h.not_skipped), List.mem_filterMap]
    refine ⟨(c.path, c.call), (Node.mem_addressed _ _ _).mpr h.call_eq, ?_⟩
    have hused :=
      (isUsed_kindsAbove hroot (hpath h.call_eq h.is_call) h.call_eq false).mpr h.not_used
    exact (callAt?_eq_some_iff d c.index c.file (c.path, c.call) c).mpr
      ⟨rfl, rfl, rfl, h.is_call, hused, h.callee_eq, h.found,
        (returnsValue_iff c.func).mpr h.has_result, h.marked⟩

theorem index_of_mem_callsOf
    {d : Detector} {files : FileSet} {skip : List String} {source : File × Nat} {c : CallSite}
    (hc : c ∈ d.callsOf files skip source) :
    c.index = source.2 := by
  unfold callsOf at hc
  split at hc
  · cases hc
  · obtain ⟨e, _, hc⟩ := List.mem_filterMap.mp hc
    exact ((callAt?_eq_some_iff d source.2 source.1 e c).mp hc).1

theorem callsOf_pairwise
    (d : Detector) (files : FileSet) (skip : List String) (source : File × Nat) :
    (d.callsOf files skip source).Pairwise CallSite.Before := by
  unfold callsOf
  split
  · exact List.Pairwise.nil
  · rw [List.pairwise_filterMap]
    refine (Node.addressed_pairwise source.1.root).imp ?_
    intro e e' hbefore c hc c' hc'
    obtain ⟨hi, _, rfl, _⟩ := (callAt?_eq_some_iff d _ _ e c).mp hc
    obtain ⟨hi', _, rfl, _⟩ := (callAt?_eq_some_iff d _ _ e' c').mp hc'
    exact Or.inr ⟨hi.trans hi'.symm, hbefore⟩

/-- Occurrences of discarded calls are listed file by file and in traversal order. -/
theorem calls_pairwise
    (d : Detector) (files : FileSet) (skip : List String) (sources : List File) :
    (d.calls files skip sources).Pairwise CallSite.Before := by
  unfold calls
  rw [List.pairwise_flatMap]
  constructor
  · intro source _
    exact callsOf_pairwise d files skip source
  · refine (pairwise_zipIdx sources).imp ?_
    intro source source' hlt c hc c' hc'
    left
    rw [index_of_mem_callsOf hc, index_of_mem_callsOf hc']
    exact hlt

/-- At one path, a look-up that breaks down on some callees loses the call if it has one of
them. -/
theorem callAt?_failingOn
    (d : Detector) (broken : Node → Bool) (i : Nat) (file : File) (e : TreePath × Node) :
    (d.failingOn broken).callAt? i file e =
      (d.callAt? i file e).filter fun c => !broken c.callee := by
  have hresolver : ∀ callee f,
      (d.failingOn broken).resolver callee = .found f ↔
        broken callee = false ∧ d.resolver callee = .found f := by
    intro callee f
    cases hb : broken callee with
    | true => simp [failingOn, hb]
    | false => simp [failingOn, hb]
  apply Option.ext
  intro c
  rw [callAt?_eq_some_iff, Option.filter_eq_some_iff, callAt?_eq_some_iff, hresolver]
  simp only [Bool.not_eq_true']
  constructor
  · rintro ⟨hi, hfile, he, hkind, hused, hcallee, ⟨hbroken, hfound⟩, hresult, hmarked⟩
    exact ⟨⟨hi, hfile, he, hkind, hused, hcallee, hfound, hresult, hmarked⟩, hbroken⟩
  · rintro ⟨⟨hi, hfile, he, hkind, hused, hcallee, hfound, hresult, hmarked⟩, hbroken⟩
    exact ⟨hi, hfile, he, hkind, hused, hcallee, ⟨hbroken, hfound⟩, hresult, hmarked⟩

theorem calls_nodup
    (d : Detector) (files : FileSet) (skip : List String) (sources : List File) :
    (d.calls files skip sources).Nodup := by
  refine (d.calls_pairwise files skip sources).imp ?_
  rintro c c' hbefore rfl
  exact CallSite.Before.irrefl c hbefore

/-- If one detector finds, at every path, what another finds and a test keeps, then so it does in
all files. -/
theorem calls_eq_filter
    {d d' : Detector} {keep : CallSite → Bool}
    (h : ∀ i file e, d.callAt? i file e = (d'.callAt? i file e).filter keep)
    (files : FileSet) (skip : List String) (sources : List File) :
    d.calls files skip sources = (d'.calls files skip sources).filter keep := by
  unfold calls
  rw [List.filter_flatMap]
  apply List.flatMap_congr
  intro source _
  unfold callsOf
  split
  · rfl
  · rw [List.filter_filterMap]
    apply List.filterMap_congr
    intro e _
    exact h source.2 source.1 e

/-- A look-up that breaks down on some callees loses the calls with these callees and no other. -/
theorem calls_failingOn
    (d : Detector) (broken : Node → Bool) (files : FileSet) (skip : List String)
    (sources : List File) :
    (d.failingOn broken).calls files skip sources =
      (d.calls files skip sources).filter fun c => !broken c.callee :=
  calls_eq_filter (d.callAt?_failingOn broken) files skip sources

/-- Whether functions are marked matters for those only that the files call. -/
theorem scan_congr
    {d d' : Detector} {sources : List File} (hresolver : d'.resolver = d.resolver)
    (hsame : ∀ file ∈ sources, ∀ f, Calls d.resolver file f → d.isMarked f = d'.isMarked f)
    (files : FileSet) (skip : List String) :
    d.scan files skip sources = d'.scan files skip sources := by
  rw [scan_eq_map_calls, scan_eq_map_calls]
  congr 1
  unfold calls
  apply List.flatMap_congr
  rintro ⟨file, i⟩ hfile
  have hmem : file ∈ sources := List.mem_of_getElem? (List.mem_zipIdx_iff_getElem?.mp hfile)
  unfold callsOf
  split
  · rfl
  · apply List.filterMap_congr
    intro e he
    have hn := (Node.mem_addressed _ _ _).mp he
    apply Option.ext
    intro c
    rw [callAt?_eq_some_iff, callAt?_eq_some_iff, hresolver]
    constructor
    · rintro ⟨hi, rfl, rfl, hkind, hused, hcallee, hfound, hresult, hmarked⟩
      rw [hsame c.file hmem c.func ⟨_, _, _, hn, hkind, hcallee, hfound⟩] at hmarked
      exact ⟨hi, rfl, rfl, hkind, hused, hcallee, hfound, hresult, hmarked⟩
    · rintro ⟨hi, rfl, rfl, hkind, hused, hcallee, hfound, hresult, hmarked⟩
      rw [← hsame c.file hmem c.func ⟨_, _, _, hn, hkind, hcallee, hfound⟩] at hmarked
      exact ⟨hi, rfl, rfl, hkind, hused, hcallee, hfound, hresult, hmarked⟩

/-- Files whose names are to be skipped might as well be left out. -/
theorem scan_eq_scan_filter
    (d : Detector) (files : FileSet) (skip : List String) (sources : List File) :
    d.scan files skip sources =
      d.scan files [] (sources.filter fun file => !skip.contains (file.name files)) := by
  unfold scan
  induction sources with
  | nil => rfl
  | cons file sources ih =>
      rw [List.flatMap_cons, ih]
      by_cases hskip : file.name files ∈ skip
      · rw [List.filter_cons_of_neg (by simpa using hskip)]
        simp [scanFile, hskip]
      · rw [List.filter_cons_of_pos (by simpa using hskip), List.flatMap_cons]
        simp [scanFile, hskip]

theorem exists_ofCall_of_mem_scan
    {d : Detector} {files : FileSet} {skip : List String} {sources : List File}
    {diagnostic : Diagnostic} (h : diagnostic ∈ d.scan files skip sources) :
    ∃ place func, diagnostic = .ofCall files place func := by
  rw [scan_eq_map_calls] at h
  obtain ⟨c, _, rfl⟩ := List.mem_map.mp h
  exact ⟨_, _, rfl⟩

end Detector

/-- A scan reports exactly the discarded calls: there is a list of occurrences, in the order of
files and in traversal order inside a file, that holds each discarded call once and nothing else,
and the scan gives one diagnostic for each member in this order. A look-up that breaks down on some
callees takes away the diagnostics of the calls with these callees and leaves all others. -/
theorem scan_eq_discarded_calls
    (d : Detector) (files : FileSet) (skip : List String) (sources : List File) :
    ∃ calls : List CallSite,
      calls.Nodup ∧ calls.Pairwise CallSite.Before ∧
      (∀ c, c ∈ calls ↔ c.IsDiscarded d files skip sources) ∧
      d.scan files skip sources = calls.map (CallSite.diagnostic files) ∧
      ∀ broken : Node → Bool,
        (d.failingOn broken).scan files skip sources =
          (calls.filter fun c => !broken c.callee).map (CallSite.diagnostic files) := by
  refine ⟨d.calls files skip sources, d.calls_nodup files skip sources,
    d.calls_pairwise files skip sources, d.mem_calls files skip sources,
    d.scan_eq_map_calls files skip sources, ?_⟩
  intro broken
  rw [Detector.scan_eq_map_calls, Detector.calls_failingOn]

end Scan
end MustUse
