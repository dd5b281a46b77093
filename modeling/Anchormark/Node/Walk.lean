import Anchormark.Node.Basic

/-!
# Walking a Tree

A walk visits a node before its children and the children from first to last: document order.
Everything that is collected from a tree is collected along the walk.

A loop over the nodes does not recur on the tree. It has a stack of what is still to be visited, and
each node that it takes off the stack leaves its children there.

## Main definitions

* `Node.walk`: all nodes of a tree in document order.
* `Walker`: a walk that is under way.
* `Walker.next?`: the next node of a walk, and the walk behind it.
* `Walker.fold`: a loop over the nodes that are left.
* `Node.plainText`: the text of a tree without its markup.
* `Node.anchors`: the anchors of a tree.
-/

namespace Anchormark

namespace Node

mutual

/-- The node and everything below it, in document order. -/
def walk : Node → List Node
  | ⟨kind, children, span, hint⟩ => ⟨kind, children, span, hint⟩ :: walkAll children

/-- The walks of several trees, one after the other. -/
def walkAll : List Node → List Node
  | [] => []
  | n :: rest => walk n ++ walkAll rest

end

end Node

/-- A walk that is under way: the nodes still to be visited, each with everything below it. The next
    one comes last. -/
structure Walker where
  stack : List Node

namespace Walker

/-- The walk of a tree, before its first node. -/
def start (n : Node) : Walker :=
  { stack := [n] }

/-- The next node, and the walk behind it. The children of the node come onto the stack with the
    first of them last. -/
def next? (w : Walker) : Option (Node × Walker) :=
  w.stack.getLast?.map fun n => (n, { stack := w.stack.dropLast ++ n.children.reverse })

/-- Takes the nodes that are left one by one, in at most `limit` rounds. There is no result if that
    is not enough to find that no nodes are left. -/
def fold {α : Type} (f : α → Node → α) : (limit : Nat) → α → Walker → Option α
  | 0, _, _ => none
  | limit + 1, a, w =>
    match w.next? with
    | none => some a
    | some (n, w) => fold f limit (f a n) w

end Walker

namespace Node

/-- The texts, code spans and image descriptions of a tree, in document order. -/
def plainText (n : Node) : String :=
  String.join (n.walk.map fun m => m.kind.ownText)

/-- The anchors of a tree, in document order. -/
def anchors (n : Node) : List Anchor :=
  n.walk.filterMap fun m => m.kind.anchor?

end Node

end Anchormark
