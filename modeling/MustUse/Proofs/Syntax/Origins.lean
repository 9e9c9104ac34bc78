import MustUse.Proofs.Syntax.Alike

/-!
# Binding names to origins

A name may be bound to the view of a method through an instantiated receiver type. Here every such
binding in a tree is replaced by one to the declared method behind it. The replacement is a change
of attributes only, and a change of attributes commutes with moving about in a tree.

Main definitions:

- `Node.mapAttrs`: the tree with its attributes changed;
- `Node.toOrigins`, `File.toOrigins`: the tree and the file with all names bound to origins.

Main statements:

- `Node.child?_mapAttrs`, `Node.childrenIn_mapAttrs`, `Node.descendants_mapAttrs`;
- `Node.start_mapAttrs`: a change of attributes that keeps starts keeps the start of every node.
-/

namespace MustUse
namespace Syntax
namespace Node

variable (g : Attrs → Attrs)

mutual

/-- The tree with all its attributes changed. -/
def mapAttrs : Node → Node
  | .mk k s a cs => .mk k s (g a) (mapAttrsAll cs)

/-- Several trees with all their attributes changed. -/
def mapAttrsAll : List Node → List Node
  | [] => []
  | n :: rest => n.mapAttrs :: mapAttrsAll rest

end

theorem mapAttrsAll_eq_map
    (cs : List Node) :
    mapAttrsAll g cs = cs.map (mapAttrs g) := by
  induction cs with
  | nil => rfl
  | cons c cs ih => rw [mapAttrsAll, ih, List.map_cons]

@[simp] theorem kind_mapAttrs
    (n : Node) :
    (n.mapAttrs g).kind = n.kind := by
  cases n
  rfl

@[simp] theorem slot_mapAttrs
    (n : Node) :
    (n.mapAttrs g).slot = n.slot := by
  cases n
  rfl

@[simp] theorem attrs_mapAttrs
    (n : Node) :
    (n.mapAttrs g).attrs = g n.attrs := by
  cases n
  rfl

@[simp] theorem children_mapAttrs
    (n : Node) :
    (n.mapAttrs g).children = n.children.map (mapAttrs g) := by
  cases n with
  | mk k s a cs => exact mapAttrsAll_eq_map g cs

theorem child?_mapAttrs
    (n : Node) (s : Slot) :
    (n.mapAttrs g).child? s = (n.child? s).map (mapAttrs g) := by
  simp only [child?, children_mapAttrs, List.find?_map, Function.comp_def, slot_mapAttrs]

theorem childrenIn_mapAttrs
    (n : Node) (s : Slot) :
    (n.mapAttrs g).childrenIn s = (n.childrenIn s).map (mapAttrs g) := by
  simp [childrenIn, List.filter_map, Function.comp_def]

theorem descendants_mapAttrs
    (n : Node) :
    (n.mapAttrs g).descendants = n.descendants.map (mapAttrs g) := by
  induction n using Node.induct with
  | step k s a cs ih =>
      rw [mapAttrs, mapAttrsAll_eq_map, descendants, descendants, List.map_cons, mapAttrs,
        mapAttrsAll_eq_map, descendantsOf_eq_flatMap, descendantsOf_eq_flatMap, List.flatMap_map,
        List.map_flatMap]
      congr 1
      exact List.flatMap_congr ih

theorem start_mapAttrs
    (hg : ∀ a, (g a).start = a.start) (n : Node) :
    (n.mapAttrs g).start = n.start := by
  induction n using Node.induct with
  | step k s a cs ih =>
      have hpart : ∀ t, ((Node.mk k s a cs).child? t).map (fun c => (c.mapAttrs g).start) =
          ((Node.mk k s a cs).child? t).map start := by
        intro t
        apply Option.map_congr
        intro c hc
        exact ih c (List.mem_of_find?_eq_some hc)
      rw [start_eq, start_eq (.mk k s a cs)]
      simp only [kind_mapAttrs, attrs_mapAttrs, child?_mapAttrs, Option.map_map,
        Function.comp_def, hpart, hg]

end Node

/-- The object, or the declared function behind a view of it. -/
def Obj.toOrigin : Obj → Obj
  | .func f => .func f.origin
  | .other id => .other id

theorem Obj.func?_toOrigin
    (o : Obj) :
    o.toOrigin.func? = o.func?.map Func.origin := by
  cases o with
  | func f => rfl
  | other id => rfl

/-- The attributes with bindings to origins. -/
def Attrs.toOrigins (a : Attrs) : Attrs :=
  { a with
    use := a.use.map Obj.toOrigin
    defines := a.defines.map Obj.toOrigin
    selection := a.selection.map Obj.toOrigin }

/-- The tree with every binding to a view of a function replaced by one to its origin. -/
def Node.toOrigins : Node → Node :=
  Node.mapAttrs Attrs.toOrigins

/-- The file with every binding to a view of a function replaced by one to its origin. -/
def File.toOrigins (file : File) : File :=
  { file with decls := file.decls.map Node.toOrigins }

theorem File.root_toOrigins
    (file : File) :
    file.toOrigins.root = file.root.toOrigins := by
  simp only [File.root, File.toOrigins, Node.toOrigins, Node.mapAttrs, Node.mapAttrsAll_eq_map]
  rfl

end Syntax
end MustUse
