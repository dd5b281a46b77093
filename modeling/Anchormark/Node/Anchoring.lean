import Anchormark.Node.Walk

/-!
# Placing Anchors

A placeholder is a link with nothing to it but an identifier: no text, no destination, no title.
Placing anchors puts an anchor with that identifier where each placeholder stood. Every other
link stays as it is, even when it carries an identifier.

The root of the tree is never replaced. An anchor has no children and is no link, so placing
anchors twice finds nothing the second time.

## Main definitions

* `Node.isPlaceholder`: a link that an anchor replaces.
* `Node.placeAnchors`: the tree with its placeholders replaced, and how many there were.
-/

namespace Anchormark

namespace Node

/-- A link without text, destination and title that has an identifier. -/
def isPlaceholder (n : Node) : Bool :=
  match n.kind with
  | .link url none => url.isEmpty && n.children.isEmpty && n.hint.any (!·.isEmpty)
  | _ => false

/-- The anchor that replaces a placeholder. -/
def toAnchor (n : Node) : Node :=
  { kind := .anchor { id := n.hint.getD "" }, span := n.span }

mutual

/-- Replaces the placeholders below the node. -/
def placeAnchors : Node → Node × Nat
  | ⟨kind, children, span, hint⟩ =>
    let (children, count) := placeAnchorsAll children
    (⟨kind, children, span, hint⟩, count)

/-- Replaces the placeholders among the nodes and below them. -/
def placeAnchorsAll : List Node → List Node × Nat
  | [] => ([], 0)
  | n :: rest =>
    let (first, inside) := if n.isPlaceholder then (n.toAnchor, 1) else placeAnchors n
    let (others, count) := placeAnchorsAll rest
    (first :: others, inside + count)

end

end Node

end Anchormark
