import MustUse.Proofs.Scan.Discarded
import MustUse.Proofs.Syntax.Spine

/-!
# One diagnostic for a place

In `a().b()[i](c)()` every call starts at `a`, since a call starts where its callee does. All these
calls stand on the spine of the outermost one, and whatever hands its start up along a spine uses
the value below it, a function literal excepted, which leads with a type. So at most the outermost
call is discarded, and no two diagnostics of a scan are at the same place.

Main definition: `StartsApart`, the starts of a file tell its nodes apart.

Main statement: `scan_places_distinct`.
-/

namespace MustUse
namespace Scan

open Syntax Report

/-- The starts of a file tell its nodes apart: no two nodes share an own start, every call starts
somewhere, and a function literal leads with the type of a function. -/
structure StartsApart (file : File) : Prop where
  literal_type : ∀ n ∈ file.root.descendants, n.kind = .funcLit →
    ∀ t ∈ n.child? .type, t.kind = .funcType
  call_start : ∀ n ∈ file.root.descendants, n.kind = .call → n.start.isSome
  own_starts : (file.root.descendants.filterMap Node.ownStart?).Nodup

theorem uses_of_leading?
    {k : Kind} {s : Slot} (hs : k.leading? = some s) (hk : k ≠ .funcLit) :
    uses k = true := by
  have htable : ∀ k ∈ Kind.all, k.leading?.isSome → k ≠ .funcLit → uses k = true := by
    decide
  exact htable k k.mem_all (Option.isSome_of_eq_some hs) hk

theorem ne_paren_of_leading?
    {k : Kind} {s : Slot} (hs : k.leading? = some s) :
    k ≠ .paren := by
  rintro rfl
  cases hs

namespace StartsApart

variable {file : File} (h : StartsApart file)
include h

/-- A call below another node of its spine is used. -/
theorem uses_of_spine
    {p q r : TreePath} {i : Nat} {n call m : Node}
    (hn : file.root.at? p = some n) (hspine : n.Spine (q ++ i :: r))
    (hcall : file.root.at? (p ++ (q ++ [i])) = some call) (hkind : call.kind = .call)
    (hm : IsContext file.root (p ++ (q ++ [i])) m) :
    uses m.kind = true := by
  rw [← List.append_assoc] at hcall hm
  rw [Node.at?_append, Option.bind_eq_some_iff] at hcall
  obtain ⟨x, hx, hi⟩ := hcall
  have hxn : n.at? q = some x := by
    rw [Node.at?_append, hn] at hx
    exact hx
  obtain ⟨s, c, hleading, hpart, hc⟩ := hspine.leads hxn
  have hcall : c = call := by
    rw [Node.at?_cons, hc] at hi
    exact Option.some.inj hi
  subst hcall
  have hlit : x.kind ≠ .funcLit := by
    intro hxk
    have hmem := (Node.mem_descendants _ _).mpr ⟨_, hx⟩
    rw [hxk] at hleading
    cases hleading
    have htype := h.literal_type x hmem hxk c hpart
    rw [hkind] at htype
    cases htype
  have hmx := (isContext_snoc_of_ne_paren hx (ne_paren_of_leading? hleading) i m).mp hm
  rw [hmx]
  exact uses_of_leading? hleading hlit

theorem eq_nil_of_spine
    {p q r : TreePath} {n call m : Node}
    (hn : file.root.at? p = some n) (hspine : n.Spine (q ++ r))
    (hcall : file.root.at? (p ++ q) = some call) (hkind : call.kind = .call)
    (hm : IsContext file.root (p ++ q) m) (hused : uses m.kind = false) :
    q = [] := by
  rcases List.eq_nil_or_concat q with hq | ⟨q, i, rfl⟩
  · exact hq
  · rw [List.concat_eq_append] at hspine hcall hm
    rw [List.append_assoc] at hspine
    rw [h.uses_of_spine hn hspine hcall hkind hm] at hused
    cases hused

/-- Discarded calls of a file that start at the same place are the same occurrence: their spines end
at the same node, so one of two calls would be above the other on its spine. -/
theorem path_eq_of_start_eq
    {p p' : TreePath} {call call' m m' : Node}
    (hcall : file.root.at? p = some call) (hkind : call.kind = .call)
    (hm : IsContext file.root p m) (hused : uses m.kind = false)
    (hcall' : file.root.at? p' = some call') (hkind' : call'.kind = .call)
    (hm' : IsContext file.root p' m') (hused' : uses m'.kind = false)
    (hstart : call.start = call'.start) :
    p = p' := by
  have hmem := (Node.mem_descendants _ _).mpr ⟨_, hcall⟩
  obtain ⟨o, ho⟩ := Option.isSome_iff_exists.mp (h.call_start call hmem hkind)
  obtain ⟨q, x, hspine, hx, hown⟩ := Node.exists_spine_of_start ho
  obtain ⟨q', x', hspine', hx', hown'⟩ := Node.exists_spine_of_start (hstart ▸ ho)
  have hends : p ++ q = p' ++ q' := by
    refine Node.eq_of_ownStart?_eq h.own_starts (o := o) ?_ ?_ hown hown'
    · rw [Node.at?_append, hcall]
      exact hx
    · rw [Node.at?_append, hcall']
      exact hx'
  rcases List.append_eq_append_iff.mp hends with ⟨r, rfl, rfl⟩ | ⟨r, rfl, rfl⟩
  · rw [h.eq_nil_of_spine hcall hspine hcall' hkind' hm' hused', List.append_nil]
  · rw [h.eq_nil_of_spine hcall' hspine' hcall hkind hm hused, List.append_nil]

end StartsApart

theorem CallSite.IsDiscarded.exists_place
    {d : Detector} {files : FileSet} {skip : List String} {sources : List File} {c : CallSite}
    (hfile : StartsApart c.file) (h : c.IsDiscarded d files skip sources) :
    ∃ o, c.call.start = some o ∧ (c.diagnostic files).place = some (c.file.place o) := by
  have hmem := (Node.mem_descendants _ _).mpr ⟨_, h.call_eq⟩
  obtain ⟨o, ho⟩ := Option.isSome_iff_exists.mp (hfile.call_start c.call hmem h.is_call)
  refine ⟨o, ho, ?_⟩
  simp [CallSite.diagnostic, Diagnostic.ofCall, File.placeOf, ho]

theorem CallSite.IsDiscarded.mem_sources
    {d : Detector} {files : FileSet} {skip : List String} {sources : List File} {c : CallSite}
    (h : c.IsDiscarded d files skip sources) :
    c.file ∈ sources :=
  List.mem_of_getElem? h.file_eq

section Distinct

variable {d : Detector} {files : FileSet} {skip : List String} {sources : List File}
variable (hids : (sources.map File.id).Nodup) (hstarts : ∀ file ∈ sources, StartsApart file)
include hids hstarts

/-- Occurrences of discarded calls at the same place are the same. -/
theorem not_before_of_place_eq
    {c c' : CallSite}
    (hc : c.IsDiscarded d files skip sources) (hc' : c'.IsDiscarded d files skip sources)
    (hplace : (c.diagnostic files).place = (c'.diagnostic files).place) :
    ¬ c.Before c' := by
  obtain ⟨o, ho, hp⟩ := hc.exists_place (hstarts _ hc.mem_sources)
  obtain ⟨o', ho', hp'⟩ := hc'.exists_place (hstarts _ hc'.mem_sources)
  have heq : c.file.place o = c'.file.place o' := by
    rw [hp, hp'] at hplace
    exact Option.some.inj hplace
  have hid : c.file.id = c'.file.id := congrArg Place.file heq
  have hoffset : o = o' := congrArg Place.offset heq
  have hindex : c.index = c'.index := by
    have hget : (sources.map File.id)[c.index]? = some c.file.id := by
      rw [List.getElem?_map, hc.file_eq, Option.map_some]
    have hget' : (sources.map File.id)[c'.index]? = some c.file.id := by
      rw [List.getElem?_map, hc'.file_eq, Option.map_some, hid]
    obtain ⟨hlt, _⟩ := List.getElem?_eq_some_iff.mp hget
    exact (List.getElem?_inj hlt hids).mp (hget.trans hget'.symm)
  have hfile : c.file = c'.file := by
    have hget := hc'.file_eq
    rw [← hindex, hc.file_eq] at hget
    exact Option.some.inj hget
  obtain ⟨m, hm, hused⟩ := hc.not_used
  obtain ⟨m', hm', hused'⟩ := hc'.not_used
  have hcall' := hc'.call_eq
  rw [← hfile] at hcall' hm'
  have hstart : c.call.start = c'.call.start := by rw [ho, ho', hoffset]
  have hpath := (hstarts _ hc.mem_sources).path_eq_of_start_eq hc.call_eq hc.is_call hm hused
    hcall' hc'.is_call hm' hused' hstart
  rintro (hlt | ⟨_, hbefore⟩)
  · omega
  · rw [hpath] at hbefore
    exact TreePath.Before.irrefl _ hbefore

end Distinct

/-- In files whose starts tell their nodes apart, every diagnostic of a scan has a place, and no
two of them have the same one. -/
theorem scan_places_distinct
    (d : Detector) (files : FileSet) (skip : List String) (sources : List File)
    (hids : (sources.map File.id).Nodup) (hstarts : ∀ file ∈ sources, StartsApart file) :
    (∀ x ∈ d.scan files skip sources, ∃ place, x.place = some place) ∧
      ((d.scan files skip sources).map (·.place)).Nodup := by
  rw [d.scan_eq_map_calls]
  constructor
  · intro x hx
    obtain ⟨c, hc, rfl⟩ := List.mem_map.mp hx
    have hdiscarded := (d.mem_calls files skip sources c).mp hc
    obtain ⟨o, _, hplace⟩ := hdiscarded.exists_place (hstarts _ hdiscarded.mem_sources)
    exact ⟨_, hplace⟩
  · rw [List.map_map, List.Nodup, List.pairwise_map]
    refine (d.calls_pairwise files skip sources).imp_of_mem ?_
    intro c c' hc hc' hbefore hplace
    have hdiscarded := (d.mem_calls files skip sources c).mp hc
    have hdiscarded' := (d.mem_calls files skip sources c').mp hc'
    exact not_before_of_place_eq hids hstarts hdiscarded hdiscarded' hplace hbefore

/-- A function with a result. -/
def chainFunc : Func :=
  .declared
    { id := 0, name := "F", package := none
      signature := some { receiver := none, results := 1 }, place := none }

/-- The statements `a().b()[i](c())()` and `func() { g() }()`. -/
def chainFile : File :=
  { id := 0
    packageStart := 0
    comments := []
    decls :=
      [.mk .funcDecl .decls {}
        [.mk .blockStmt .body {}
          [.mk .exprStmt .list {}
            [.mk .call .x {}
              [.mk .call .fn {}
                [.mk .index .fn {}
                  [.mk .call .x {}
                    [.mk .selector .fn {}
                      [.mk .call .x {} [.mk .ident .fn { start := some 20 } []],
                        .mk .ident .sel { start := some 24 } []]],
                    .mk .ident .index { start := some 28 } []],
                  .mk .call .args {} [.mk .ident .fn { start := some 31 } []]]]],
            .mk .exprStmt .list {}
              [.mk .call .x {}
                [.mk .funcLit .fn {}
                  [.mk .funcType .type { start := some 40 } [],
                    .mk .blockStmt .body {}
                      [.mk .exprStmt .list {}
                        [.mk .call .x {} [.mk .ident .fn { start := some 49 } []]]]]]]]]] }

/-- Of the four calls that start at the same token only the outermost is reported. -/
theorem scan_places_distinct_chain :
    StartsApart chainFile ∧
      let scan := Detector.scan ⟨fun _ => .found chainFunc, fun _ => true⟩ [] [] [chainFile]
      scan.map (·.place) = [some ⟨0, 20⟩, some ⟨0, 40⟩, some ⟨0, 49⟩] ∧
        (∀ x ∈ scan, ∃ place, x.place = some place) ∧ (scan.map (·.place)).Nodup := by
  have hchain : StartsApart chainFile := ⟨by decide, by decide, by decide⟩
  refine ⟨hchain, by decide, ?_⟩
  refine scan_places_distinct _ [] [] [chainFile] (by decide) ?_
  intro file hfile
  rw [List.mem_singleton.mp hfile]
  exact hchain

end Scan
end MustUse
