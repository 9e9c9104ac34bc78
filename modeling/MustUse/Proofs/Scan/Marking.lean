import MustUse.Proofs.Marker.Addition
import MustUse.Proofs.Scan.Documentation

/-!
# Marking one function

Functions are told apart by their origins, never by their names, their receivers or the interfaces
they satisfy. So a must-use directive that is added to one declaration makes the discarded calls of
this function known, and the calls of all other functions are reported as before.

Main definitions:

- `Detector.ofFiles`: the detector that a marker table of some files leads to;
- `Detector.onlyFor`: the detector to which one function is marked and no other.

Main statements:

- `Detector.calls_eq_filter_isMarked`: fewer marks lose the calls of the functions without a mark;
- `marking_adds_own_discarded_calls`: what a must-use directive adds to a scan.
-/

namespace MustUse
namespace Scan

open Syntax Report Marker

theorem origin_eq_of_resolve
    {callee : Node} {g : Func} (h : resolve callee = .found g) :
    g.origin = g := by
  simp only [resolve, calleeFunc?] at h
  split at h
  · rename_i k hk
    cases h
    obtain ⟨_, _, rfl⟩ := Option.map_eq_some_iff.mp hk
    rfl
  · cases h

namespace Detector

/-- Functions are marked by the directives in some files, by facts and by configuration. -/
def ofFiles (specs : List Spec) (sources : List File) (facts : FactStore) : Detector :=
  { resolver := resolve
    isMarked := (Predicate.ofSources specs (Table.build sources) facts).isMarked }

/-- One function is marked, and no other. -/
def onlyFor (f : Func) : Detector :=
  { resolver := resolve, isMarked := fun g => g = f.origin }

section Fewer

variable {d d' : Detector} (hresolver : d.resolver = d'.resolver)
variable (hfewer : ∀ g, d.isMarked g = true → d'.isMarked g = true)
include hresolver hfewer

theorem callAt?_eq_filter_isMarked
    (i : Nat) (file : File) (e : TreePath × Node) :
    d.callAt? i file e = (d'.callAt? i file e).filter fun x => d.isMarked x.func := by
  apply Option.ext
  intro x
  rw [Option.filter_eq_some_iff, callAt?_eq_some_iff, callAt?_eq_some_iff, hresolver]
  constructor
  · rintro ⟨hi, hfile, he, hkind, hused, hcallee, hfound, hresult, hmarked⟩
    exact ⟨⟨hi, hfile, he, hkind, hused, hcallee, hfound, hresult, hfewer _ hmarked⟩, hmarked⟩
  · rintro ⟨⟨hi, hfile, he, hkind, hused, hcallee, hfound, hresult, _⟩, hmarked⟩
    exact ⟨hi, hfile, he, hkind, hused, hcallee, hfound, hresult, hmarked⟩

/-- With fewer marks, the calls of the functions that have lost theirs are lost, and no other. -/
theorem calls_eq_filter_isMarked
    (files : FileSet) (skip : List String) (sources : List File) :
    d.calls files skip sources =
      (d'.calls files skip sources).filter fun x => d.isMarked x.func :=
  calls_eq_filter (callAt?_eq_filter_isMarked hresolver hfewer) files skip sources

end Fewer

section OneMore

variable {d d' : Detector} {f : Func} (hd : d.resolver = resolve) (hd' : d'.resolver = resolve)
variable (hmarks : ∀ g, d'.isMarked g = true ↔ d.isMarked g = true ∨ g.origin = f.origin)
include hd hd' hmarks

theorem isDiscarded_iff_of_one_more
    (files : FileSet) (skip : List String) (sources : List File) (x : CallSite) :
    x.IsDiscarded d' files skip sources ↔
      x.IsDiscarded d files skip sources ∨ x.IsDiscarded (onlyFor f) files skip sources := by
  constructor
  · intro hx
    rcases (hmarks x.func).mp hx.marked with hmarked | horigin
    · exact Or.inl (hx.of_isMarked (hd.trans hd'.symm) hmarked)
    · have hfound : resolve x.callee = .found x.func := hd' ▸ hx.found
      have hfunc : x.func = f.origin := (origin_eq_of_resolve hfound).symm.trans horigin
      exact Or.inr (hx.of_isMarked hd'.symm (decide_eq_true hfunc))
  · rintro (hx | hx)
    · exact hx.of_isMarked (hd'.trans hd.symm) ((hmarks x.func).mpr (Or.inl hx.marked))
    · have hfunc : x.func = f.origin := of_decide_eq_true hx.marked
      have horigin : x.func.origin = f.origin := by rw [hfunc, Func.origin_origin]
      exact hx.of_isMarked hd' ((hmarks x.func).mpr (Or.inr horigin))

/-- With a mark for one more function, its discarded calls are found besides. -/
theorem mem_calls_of_one_more
    (files : FileSet) (skip : List String) (sources : List File) (x : CallSite) :
    x ∈ d'.calls files skip sources ↔
      x ∈ d.calls files skip sources ∨ x.IsDiscarded (onlyFor f) files skip sources := by
  rw [mem_calls, mem_calls]
  exact isDiscarded_iff_of_one_more hd hd' hmarks files skip sources x

theorem calls_eq_filter_of_one_more
    (files : FileSet) (skip : List String) (sources : List File) :
    d.calls files skip sources =
      (d'.calls files skip sources).filter fun x => d.isMarked x.func := by
  refine calls_eq_filter_isMarked (hd.trans hd'.symm) ?_ files skip sources
  intro g hg
  exact (hmarks g).mpr (Or.inl hg)

/-- Among the calls found then, those of other functions had been found before, and all of them had
if the function has no result. -/
theorem isMarked_of_mem_calls_of_one_more
    {files : FileSet} {skip : List String} {sources : List File} {x : CallSite}
    (hx : x ∈ d'.calls files skip sources) (hf : x.func = f.origin → f.returnsValue = false) :
    d.isMarked x.func = true := by
  rcases (mem_calls_of_one_more hd hd' hmarks files skip sources x).mp hx with hx | hx
  · exact ((d.mem_calls files skip sources x).mp hx).marked
  · have hfunc : x.func = f.origin := of_decide_eq_true hx.marked
    have hresult := (returnsValue_iff x.func).mpr hx.has_result
    rw [hfunc, Func.returnsValue_origin, hf hfunc] at hresult
    cases hresult

/-- The calls of every other function are found as before. -/
theorem filter_calls_of_one_more
    (files : FileSet) (skip : List String) (sources : List File) :
    (d'.calls files skip sources).filter (·.func ≠ f.origin) =
      (d.calls files skip sources).filter (·.func ≠ f.origin) := by
  rw [calls_eq_filter_of_one_more hd hd' hmarks, List.filter_filter]
  apply List.filter_congr
  intro x hx
  by_cases hother : x.func = f.origin
  · simp [hother]
  · have hmarked := isMarked_of_mem_calls_of_one_more hd hd' hmarks hx (absurd · hother)
    simp [hother, hmarked]

end OneMore

theorem scan_eq_of_alike
    {d : Detector} (hresolver : d.resolver = resolve) {file file' : File}
    (hfile : file.Alike file') (files : FileSet) (skip : List String) (before after : List File) :
    d.scan files skip (before ++ file' :: after) = d.scan files skip (before ++ file :: after) := by
  simp only [scan, List.flatMap_append, List.flatMap_cons,
    scanFile_eq_of_alike hresolver hfile files skip]

end Detector

/-- A must-use directive without arguments is added to the doc comment of the declaration of `f` in
one of several files, or becomes its doc comment. Then a scan reports what it reported before, and
the discarded calls of `f` besides, all in traversal order. The calls of every other function are
reported exactly as before, and if `f` has no result nothing changes at all. The occurrences of
calls are those in the files before the directive was added. -/
theorem marking_adds_own_discarded_calls
    (files : FileSet) (skip : List String) (specs : List Spec) (facts : FactStore)
    (before after : List File) (file file' : File)
    (p : TreePath) (i : Option Nat) (f : Func) (c : Comment)
    (hc : Directive.parse? c.text = some ⟨Name.mustUse, ""⟩)
    (hadd : AddsComment file file' p i f c) :
    ∃ old new : List CallSite,
      (Detector.ofFiles specs (before ++ file :: after) facts).scan files skip
          (before ++ file :: after) = old.map (CallSite.diagnostic files) ∧
      (Detector.ofFiles specs (before ++ file' :: after) facts).scan files skip
          (before ++ file' :: after) = new.map (CallSite.diagnostic files) ∧
      old.Pairwise CallSite.Before ∧ new.Pairwise CallSite.Before ∧ old.Sublist new ∧
      (∀ x, x ∈ old ↔ x.IsDiscarded (Detector.ofFiles specs (before ++ file :: after) facts)
        files skip (before ++ file :: after)) ∧
      (∀ x, x ∈ new ↔ x ∈ old ∨
        x.IsDiscarded (Detector.onlyFor f) files skip (before ++ file :: after)) ∧
      new.filter (·.func ≠ f.origin) = old.filter (·.func ≠ f.origin) ∧
      (f.returnsValue = false → new = old) := by
  have hmarker : marker? c = some Name.mustUse :=
    (marker?_eq_some_iff c _).mpr ⟨_, hc, rfl, fun _ => rfl⟩
  have hmarks := hadd.isMarked_iff hmarker specs facts before after
  let sources := before ++ file :: after
  let d := Detector.ofFiles specs sources facts
  let d' := Detector.ofFiles specs (before ++ file' :: after) facts
  have hold : d.calls files skip sources =
      (d'.calls files skip sources).filter fun x => d.isMarked x.func :=
    Detector.calls_eq_filter_of_one_more rfl rfl hmarks files skip sources
  refine ⟨d.calls files skip sources, d'.calls files skip sources,
    d.scan_eq_map_calls files skip sources, ?_, d.calls_pairwise files skip sources,
    d'.calls_pairwise files skip sources, hold ▸ List.filter_sublist,
    d.mem_calls files skip sources,
    Detector.mem_calls_of_one_more rfl rfl hmarks files skip sources,
    Detector.filter_calls_of_one_more rfl rfl hmarks files skip sources, ?_⟩
  · rw [Detector.scan_eq_of_alike rfl hadd.alike]
    exact d'.scan_eq_map_calls files skip sources
  · intro hresult
    have hkeep : ∀ x ∈ d'.calls files skip sources, d.isMarked x.func = true := fun x hx =>
      Detector.isMarked_of_mem_calls_of_one_more rfl rfl hmarks hx fun _ => hresult
    rw [hold, List.filter_eq_self.mpr hkeep]

/-- The method `Get` of an interface, or of a type that implements it. -/
def storeGet (id : Nat) (receiver : String) : Func :=
  .declared
    { id := id, name := "Get", package := none
      signature := some { receiver := some (.named receiver), results := 1 }, place := none }

/-- A statement that discards the result of a method. -/
def storeCall (start : Nat) (f : Func) : Node :=
  .mk .exprStmt .list {}
    [.mk .call .x {}
      [.mk .selector .fn { selection := some (.func f) }
        [.mk .ident .x { start := some start } []]]]

/-- An interface with the method `Get`, whose doc comment is the first group, and a type that
implements it. The body of the implementation discards a result of each. -/
def storeFile (comments : List (List Comment)) (doc : Option Nat) : File :=
  { id := 0
    packageStart := 0
    comments := comments
    decls :=
      [.mk .genDecl .decls {} [.mk .typeSpec .specs {} [.mk .interfaceType .type {}
        [.mk .fieldList .methods {} [.mk .field .list { doc := some 0 }
          [.mk .ident .names { defines := some (.func (storeGet 0 "Store")) } [],
            .mk .funcType .type {} []]]]]],
        .mk .funcDecl .decls { doc := doc }
          [.mk .ident .name { defines := some (.func (storeGet 1 "memStore")) } [],
            .mk .blockStmt .body {}
              [storeCall 50 (storeGet 0 "Store"), storeCall 60 (storeGet 1 "memStore")]]] }

def unmarkedStore : File :=
  storeFile [[⟨10, "// Get returns the value."⟩]] none

/-- A directive stands in the doc comment of the interface method. -/
def markedStore : File :=
  storeFile [[⟨10, "// Get returns the value."⟩, ⟨20, "//retval:mustuse"⟩]] none

/-- A directive is the doc comment of the implementation. -/
def markedMemStore : File :=
  storeFile [[⟨10, "// Get returns the value."⟩], [⟨40, "//retval:mustuse"⟩]] (some 1)

example :
    (Detector.ofFiles [] [unmarkedStore] .empty).scan [] [] [unmarkedStore] = [] ∧
    (Detector.ofFiles [] [markedStore] .empty).scan [] [] [markedStore] =
      [.ofCall [] (some ⟨0, 50⟩) "Get"] ∧
    (Detector.ofFiles [] [markedMemStore] .empty).scan [] [] [markedMemStore] =
      [.ofCall [] (some ⟨0, 60⟩) "Get"] := by
  decide

theorem addsComment_markedStore :
    AddsComment unmarkedStore markedStore [0, 0, 0] (some 0) (storeGet 0 "Store")
      ⟨20, "//retval:mustuse"⟩ := by
  have hall : ∀ e ∈ declarations unmarkedStore, e.2.2.1 = some 0 →
      (e.1, e.2.1) = ([0, 0, 0], some 0) := by
    decide
  refine addsComment_to_group rfl rfl 0 [⟨10, "// Get returns the value."⟩] [] rfl rfl rfl
    (mem_declarations.mp (by decide)) ?_
  intro q j g h
  exact hall _ (mem_declarations.mpr h) rfl

theorem addsComment_markedMemStore :
    AddsComment unmarkedStore markedMemStore [1] none (storeGet 1 "memStore")
      ⟨40, "//retval:mustuse"⟩ := by
  have hall : ∀ e ∈ declarations markedMemStore, e.2.2.1 = some 1 →
      (e.1, e.2.1) = ([1], none) := by
    decide
  refine addsComment_as_group rfl rfl [1] rfl rfl (mem_declarations.mp (by decide))
    (mem_declarations.mp (by decide)) ?_
  intro q j g h
  exact hall _ (mem_declarations.mpr h) rfl

/-- Marking the interface method reports the call through the interface, marking the implementation
reports the other call. -/
theorem marking_adds_own_discarded_calls_store :
    AddsComment unmarkedStore markedStore [0, 0, 0] (some 0) (storeGet 0 "Store")
      ⟨20, "//retval:mustuse"⟩ ∧
    AddsComment unmarkedStore markedMemStore [1] none (storeGet 1 "memStore")
      ⟨40, "//retval:mustuse"⟩ ∧
    (∃ old new : List CallSite,
      (Detector.ofFiles [] [unmarkedStore] .empty).scan [] [] [unmarkedStore] =
        old.map (CallSite.diagnostic []) ∧
      (Detector.ofFiles [] [markedStore] .empty).scan [] [] [markedStore] =
        new.map (CallSite.diagnostic []) ∧
      ∀ x, x ∈ new ↔
        x ∈ old ∨ x.IsDiscarded (Detector.onlyFor (storeGet 0 "Store")) [] [] [unmarkedStore]) ∧
    ∃ old new : List CallSite,
      (Detector.ofFiles [] [unmarkedStore] .empty).scan [] [] [unmarkedStore] =
        old.map (CallSite.diagnostic []) ∧
      (Detector.ofFiles [] [markedMemStore] .empty).scan [] [] [markedMemStore] =
        new.map (CallSite.diagnostic []) ∧
      ∀ x, x ∈ new ↔
        x ∈ old ∨ x.IsDiscarded (Detector.onlyFor (storeGet 1 "memStore")) [] []
          [unmarkedStore] := by
  have hstore := marking_adds_own_discarded_calls [] [] [] .empty [] [] unmarkedStore markedStore
    [0, 0, 0] (some 0) (storeGet 0 "Store") _ (by decide) addsComment_markedStore
  have hmem := marking_adds_own_discarded_calls [] [] [] .empty [] [] unmarkedStore markedMemStore
    [1] none (storeGet 1 "memStore") _ (by decide) addsComment_markedMemStore
  obtain ⟨old, new, hold, hnew, _, _, _, _, hall, _⟩ := hstore
  obtain ⟨old', new', hold', hnew', _, _, _, _, hall', _⟩ := hmem
  exact ⟨addsComment_markedStore, addsComment_markedMemStore,
    ⟨old, new, hold, hnew, hall⟩, ⟨old', new', hold', hnew', hall'⟩⟩

end Scan
end MustUse
