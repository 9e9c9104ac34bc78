import MustUse.Syntax.Func
import MustUse.Syntax.Kind

/-!
# Syntax trees

A node has a kind, the slot it stands in, its attributes and its children in traversal order. The
attributes carry what later stages need: the node's own start, the text and the bindings of an
identifier, the binding of a selector and the doc comment of a declaration.

Main definitions:

- `Attrs` and `Node`;
- `Node.start`: where a node starts, taken from the node itself or from its leftmost part;
- `Node.child?`: the first child in a slot;
- `Node.descendants`: the node and all nodes below it, parents before children.
-/

namespace MustUse
namespace Syntax

/-- What a node carries besides its kind and children. -/
structure Attrs where
  /-- The node's own start offset. -/
  start : Option Nat := none
  /-- The text of an identifier, a literal or an operator. -/
  name : String := ""
  /-- The object that an identifier refers to. -/
  use : Option Obj := none
  /-- The object that an identifier declares. -/
  defines : Option Obj := none
  /-- The object that a selector selects. -/
  selection : Option Obj := none
  /-- The number of the comment group that documents a declaration or a field. -/
  doc : Option Nat := none
deriving DecidableEq, Repr

/-- A syntax tree. -/
inductive Node where
  | mk (kind : Kind) (slot : Slot) (attrs : Attrs) (children : List Node)
deriving Repr

namespace Node

/-- The kind of a node. -/
def kind : Node → Kind
  | .mk k _ _ _ => k

/-- The slot a node stands in. -/
def slot : Node → Slot
  | .mk _ s _ _ => s

/-- The attributes of a node. -/
def attrs : Node → Attrs
  | .mk _ _ a _ => a

/-- The children of a node in traversal order. -/
def children : Node → List Node
  | .mk _ _ _ cs => cs

/-- The same node in another slot. -/
def inSlot (s : Slot) : Node → Node
  | .mk k _ a cs => .mk k s a cs

/-- The first child that stands in `s`. -/
def child? (n : Node) (s : Slot) : Option Node :=
  n.children.find? (·.slot = s)

/-- The children that stand in `s`. -/
def childrenIn (n : Node) (s : Slot) : List Node :=
  n.children.filter (·.slot = s)

end Node

/-- The slot of the part that a node of this kind starts with; other nodes have a start of their
own. -/
def Kind.leading? : Kind → Option Slot
  | .funcLit => some .type
  | .compositeLit => some .type
  | .selector => some .x
  | .index => some .x
  | .indexList => some .x
  | .slice => some .x
  | .typeAssert => some .x
  | .call => some .fn
  | .binary => some .x
  | .keyValue => some .key
  | _ => none

namespace Node

mutual

/-- Where a node starts. A composite literal without a type starts at its own start. -/
def start : Node → Option Nat
  | .mk k _ a cs =>
    match k.leading? with
    | none => a.start
    | some s =>
      match startIn s cs with
      | some inherited => inherited
      | none => if k = .compositeLit then a.start else none

/-- Where the first child in `s` starts; nothing if no child stands there. -/
def startIn (s : Slot) : List Node → Option (Option Nat)
  | [] => none
  | n :: rest => if n.slot = s then some n.start else startIn s rest

end

mutual

/-- The node and all nodes below it, each before the nodes below it. -/
def descendants : Node → List Node
  | .mk k s a cs => .mk k s a cs :: descendantsOf cs

/-- The descendants of several nodes in order. -/
def descendantsOf : List Node → List Node
  | [] => []
  | n :: rest => n.descendants ++ descendantsOf rest

end

end Node

end Syntax
end MustUse
