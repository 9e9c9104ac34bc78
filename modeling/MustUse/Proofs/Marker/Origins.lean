import MustUse.Marker.Predicate
import MustUse.Proofs.Syntax.Origins

/-!
# Markers are kept for origins

A doc comment says the same about a view of a function as about its origin, since the two share
their name and their results, and what it says is entered for the origin. So the table of some
files does not depend on whether their declarations bind views or origins. Nor does it matter which
facts are stored for views, since a function is judged by its origin.

Main definition: `FactStore.ofOrigins`, a store without the facts for views.

Main statements:

- `read_toOrigins`: what a doc comment says, read for the origin;
- `Table.addFile_toOrigins`, `Table.build_toOrigins`: the same table comes about;
- `Predicate.isMarked_ofOrigins`: the same functions are marked.
-/

namespace MustUse
namespace Marker

open Syntax

/-- The site with its name bound to the origin. -/
def Site.toOrigin (s : Site) : Site :=
  { s with name := s.name.toOrigins }

theorem fieldSite?_toOrigins
    (field : Node) :
    fieldSite? field.toOrigins = (fieldSite? field).map Site.toOrigin := by
  unfold fieldSite? Node.toOrigins
  rw [Node.child?_mapAttrs, Node.child?_mapAttrs]
  cases field.child? .type with
  | none => rfl
  | some type =>
      cases field.child? .names with
      | none => rfl
      | some name =>
          simp only [Option.map_some, Node.kind_mapAttrs, Node.attrs_mapAttrs]
          split
          · rfl
          · rfl

theorem nodeSites_toOrigins
    (n : Node) :
    nodeSites n.toOrigins = (nodeSites n).map Site.toOrigin := by
  unfold nodeSites Node.toOrigins
  rw [Node.kind_mapAttrs, Node.child?_mapAttrs, Node.child?_mapAttrs]
  split
  · cases n.child? .name with
    | none => rfl
    | some name =>
        simp only [Option.map_some, Node.attrs_mapAttrs]
        rfl
  · cases n.child? .methods with
    | none => rfl
    | some methods =>
        simp only [Option.map_some, Node.childrenIn_mapAttrs, List.filterMap_map,
          List.map_filterMap]
        apply List.filterMap_congr
        intro field _
        exact fieldSite?_toOrigins field
  · rfl

theorem sites_toOrigins
    (file : File) :
    sites file.toOrigins = (sites file).map Site.toOrigin := by
  unfold sites
  rw [file.root_toOrigins, Node.toOrigins, Node.descendants_mapAttrs, List.flatMap_map,
    List.map_flatMap]
  exact List.flatMap_congr fun n _ => nodeSites_toOrigins n

theorem func?_toOrigin
    (s : Site) :
    s.toOrigin.func? = s.func?.map Func.origin := by
  unfold Site.func? Site.toOrigin Node.toOrigins
  rw [Node.attrs_mapAttrs]
  cases h : s.name.attrs.defines with
  | none => simp [Attrs.toOrigins, h]
  | some o => simp [Attrs.toOrigins, h, Obj.func?_toOrigin]

/-- A doc comment says the same about a view of a function as about its origin. -/
theorem read_toOrigins
    (file : File) (s : Site) :
    Site.read file.toOrigins s.toOrigin =
      (Site.read file s).map fun e => (e.1.origin, e.2) := by
  unfold Site.read
  rw [func?_toOrigin]
  cases s.func? with
  | none => rfl
  | some f => rfl

namespace Table

theorem attach_origin
    (t : Table) (f : Func) (r : Reading) :
    t.attach f.origin r = t.attach f r := by
  rfl

theorem addFile_toOrigins
    (t : Table) (file : File) :
    t.addFile file.toOrigins = t.addFile file := by
  have hreadings : (sites file.toOrigins).filterMap (Site.read file.toOrigins) =
      ((sites file).filterMap (Site.read file)).map fun e => (e.1.origin, e.2) := by
    rw [sites_toOrigins, List.filterMap_map, List.map_filterMap]
    apply List.filterMap_congr
    intro s _
    exact read_toOrigins file s
  have hattached : ((sites file.toOrigins).filterMap (Site.read file.toOrigins)).flatMap
        (·.2.attached) =
      ((sites file).filterMap (Site.read file)).flatMap (·.2.attached) := by
    rw [hreadings, List.flatMap_map]
  have htable : ((sites file.toOrigins).filterMap (Site.read file.toOrigins)).foldl
        (fun t reading => t.attach reading.1 reading.2) t =
      ((sites file).filterMap (Site.read file)).foldl
        (fun t reading => t.attach reading.1 reading.2) t := by
    rw [hreadings, List.foldl_map]
    simp only [attach_origin]
  simp only [addFile, hattached, htable]
  rfl

theorem build_toOrigins
    (files : List File) :
    build (files.map File.toOrigins) = build files := by
  unfold build addFiles
  rw [List.foldl_map]
  simp only [addFile_toOrigins]

end Table

/-- Whether the fact is stored for a declared function, and not for a view of one. -/
def isOfOrigin : Func × Fact → Bool
  | (.declared _, _) => true
  | (.instantiated _ _, _) => false

/-- The store without the facts for views of functions. -/
def FactStore.ofOrigins (s : FactStore) : FactStore :=
  { entries := s.entries.filter isOfOrigin }

theorem lookup_filter_isOfOrigin
    (entries : List (Func × Fact)) (f : Func) :
    (entries.filter isOfOrigin).lookup f.origin = entries.lookup f.origin := by
  induction entries with
  | nil => rfl
  | cons e entries ih =>
      obtain ⟨g, fact⟩ := e
      cases g with
      | declared decl =>
          rw [List.filter_cons_of_pos rfl, List.lookup_cons, List.lookup_cons, ih]
      | instantiated id decl =>
          have hne : (f.origin == Func.instantiated id decl) = false := by
            simp [Func.origin]
          rw [List.filter_cons_of_neg (by simp [isOfOrigin]), List.lookup_cons, hne, ih]

/-- A function is judged by its origin, so facts for views are not consulted. -/
theorem Predicate.isMarked_ofOrigins
    (specs : List Spec) (table : Table) (facts : FactStore) :
    (Predicate.ofSources specs table facts.ofOrigins).isMarked =
      (Predicate.ofSources specs table facts).isMarked := by
  funext f
  have hmarkers : facts.ofOrigins.markers f.origin = facts.markers f.origin := by
    simp only [FactStore.markers, FactStore.find?, FactStore.ofOrigins, lookup_filter_isOfOrigin]
  simp [Predicate.isMarked, Predicate.ofSources, Predicate.isMarkedBy, hmarkers]

end Marker
end MustUse
