import Anchormark.Proofs.Anchor.Placeholders
import Anchormark.Proofs.Node.Paths

/-!
# Placing Anchors, Node by Node

Placing anchors goes through lists of siblings while it changes them, at every depth and below every
kind of node. What it does to a tree can still be said for each node by itself. A node is named by
the path that leads to it, a list of indices of children. The paths of a tree do not change, because
a link that is replaced has nothing below it and neither has its anchor. So the tree before and the
tree after can be compared path by path.

The count and the identifiers of the anchors are read off the walk of the tree before. A second run
finds nothing to do, since no node that is left is a link to be replaced: whatever became of the
nodes below one, it has as many children as before.

## Main definitions

* `Node.StandsIn`: A link that stands in for an anchor.
* `Node.givenId?`: The identifier of the anchor that a node is or becomes.

## Theorems

* `Node.at?_placeAnchors`: What stands at each path.
* `Node.count_placeAnchors`: How many links are replaced.
* `Node.anchorIds_placeAnchors_eq`: Which anchors there are then.
* `Node.placeAnchors_placeAnchors`: A second run.
* `placeAnchors_pathwise`: All of it together.
-/

namespace Anchormark

namespace Node

/-- A link that stands in for an anchor: it has no children, no destination and no title, but an
    identifier. -/
def StandsIn (n : Node) : Prop :=
  n.kind = .link "" none ∧ n.children = [] ∧ ∃ id, n.hint = some id ∧ id ≠ ""

instance (n : Node) : Decidable n.StandsIn :=
  decidable_of_iff (n.isPlaceholder = true) isPlaceholder_iff

/-- The identifier of the anchor that a node below the root is or becomes. -/
def givenId? (n : Node) : Option String :=
  if n.StandsIn then n.hint else n.kind.anchor?.map Anchor.id

/-- A link that stands in for an anchor becomes that anchor. -/
theorem placed_of_standsIn {n : Node} (h : n.StandsIn) : n.placed = n.toAnchor := by
  rw [placed, if_pos (isPlaceholder_iff.mpr h)]

/-- Any other node keeps everything but its children. -/
theorem placed_of_not_standsIn {n : Node} (h : ¬ n.StandsIn) :
    n.placed = { n with children := n.children.map placed } := by
  have hplaceholder : ¬ n.isPlaceholder = true := fun hn => h (isPlaceholder_iff.mp hn)
  rw [placed, if_neg hplaceholder, placeAnchors_eq]

/-- Below the root, each path leads to what became of the node that it led to. -/
theorem at?_placeAnchors (n : Node) (i : Nat) (path : List Nat) :
    n.placeAnchors.1.at? (i :: path) = (n.at? (i :: path)).map placed := by
  induction path generalizing n i with
  | nil =>
      rw [placeAnchors_eq, at?_cons, at?_cons, List.getElem?_map]
      cases n.children[i]? <;> rfl
  | cons j path ih =>
      rw [placeAnchors_eq, at?_cons, at?_cons, List.getElem?_map]
      cases n.children[i]? with
      | none => rfl
      | some c =>
          change c.placed.at? (j :: path) = (c.at? (j :: path)).map placed
          by_cases hc : c.StandsIn
          · -- There is nothing below the link, and nothing below its anchor.
            rw [placed_of_standsIn hc, at?_cons_leaf rfl, at?_cons_leaf hc.2.1, Option.map_none]
          · rw [placed_of_not_standsIn hc, ← placeAnchors_eq]
            exact ih c j

/-- The paths of a tree stay the same. -/
theorem isSome_at?_placeAnchors (n : Node) (path : List Nat) :
    (n.placeAnchors.1.at? path).isSome = (n.at? path).isSome := by
  cases path with
  | nil => rfl
  | cons i path => rw [at?_placeAnchors, Option.isSome_map]

/-- The count of several trees is that of the links among all their nodes. The induction is on the
    tree, and then on the siblings: a link that is replaced counts once, with nothing below it. -/
theorem count_placeAnchors (n : Node) :
    n.placeAnchors.2 = (n.children.flatMap walk).countP (·.StandsIn) := by
  induction n using induct with
  | h n ih =>
      have hall : ∀ cs : List Node,
          (∀ c ∈ cs, c.placeAnchors.2 = (c.children.flatMap walk).countP (·.StandsIn)) →
            (placeAnchorsAll cs).2 = (cs.flatMap walk).countP (·.StandsIn) := by
        intro cs hcs
        induction cs with
        | nil => rfl
        | cons c cs ihcs =>
            rw [List.forall_mem_cons] at hcs
            have hrest := ihcs hcs.2
            rw [List.flatMap_cons, List.countP_append, ← hrest, walk_eq, List.countP_cons]
            by_cases hc : c.StandsIn
            · simp only [placeAnchorsAll, if_pos (isPlaceholder_iff.mpr hc), hc.2.1,
                List.flatMap_nil, List.countP_nil, hc, decide_true, if_true]
            · have hplaceholder : ¬ c.isPlaceholder = true := fun h => hc (isPlaceholder_iff.mp h)
              simp only [placeAnchorsAll, if_neg hplaceholder, hcs.1, hc, decide_false,
                Bool.false_eq_true, if_false, Nat.add_zero]
      cases n
      exact hall _ ih

/-- What becomes of a node below the root has the identifiers that are given in its tree. -/
theorem placedIds_eq (n : Node) : n.placedIds = n.walk.filterMap givenId? := by
  induction n using induct with
  | h n ih =>
      have hbelow : n.children.flatMap placedIds =
          (n.children.flatMap walk).filterMap givenId? := by
        rw [List.filterMap_flatMap]
        exact List.flatMap_congr ih
      rw [walk_eq, List.filterMap_cons]
      by_cases hn : n.StandsIn
      · have hgiven : n.givenId? = n.hint := if_pos hn
        rcases hn.2 with ⟨hchildren, id, hid, -⟩
        rw [placedIds_of_isPlaceholder (isPlaceholder_iff.mpr hn) hid, hgiven, hid, hchildren]
        rfl
      · rw [givenId?, if_neg hn, ← hbelow, placedIds, placed_of_not_standsIn hn, anchorIds_eq,
          List.flatMap_map]
        cases n.kind.anchor? <;> rfl

/-- The root keeps its own anchor if it is one, and below it come the identifiers given there. -/
theorem anchorIds_placeAnchors_eq (n : Node) :
    n.placeAnchors.1.anchorIds =
      (n.kind.anchor?.map Anchor.id).toList ++ (n.children.flatMap walk).filterMap givenId? := by
  rw [placeAnchors_eq, anchorIds_eq, List.flatMap_map, List.filterMap_flatMap]
  congr 1
  exact List.flatMap_congr fun c _ => placedIds_eq c

/-- No link that is left stands in for an anchor. A link with children keeps as many of them. -/
theorem not_standsIn_placed (n : Node) : ¬ n.placed.StandsIn := by
  by_cases hn : n.StandsIn
  · rw [placed_of_standsIn hn]
    rintro ⟨hkind, -⟩
    cases hkind
  · rw [placed_of_not_standsIn hn]
    rintro ⟨hkind, hchildren, hhint⟩
    exact hn ⟨hkind, List.map_eq_nil_iff.mp hchildren, hhint⟩

/-- What has been placed stays as it is. -/
theorem placed_placed (n : Node) : n.placed.placed = n.placed := by
  induction n using induct with
  | h n ih =>
      rw [placed_of_not_standsIn (not_standsIn_placed n)]
      by_cases hn : n.StandsIn
      · rw [placed_of_standsIn hn]
        rfl
      · have hchildren : n.children.map (placed ∘ placed) = n.children.map placed :=
          List.map_congr_left ih
        rw [placed_of_not_standsIn hn, List.map_map, hchildren]

/-- Nothing below the root of a placed tree stands in for an anchor. -/
theorem not_standsIn_of_mem_walk_placed {n m : Node} (hm : m ∈ n.placed.walk) : ¬ m.StandsIn := by
  induction n using induct with
  | h n ih =>
      rcases mem_walk_iff.mp hm with rfl | ⟨c, hc, hm⟩
      · exact not_standsIn_placed n
      · by_cases hn : n.StandsIn
        · rw [placed_of_standsIn hn] at hc
          exact absurd hc List.not_mem_nil
        · rw [placed_of_not_standsIn hn] at hc
          rcases List.mem_map.mp hc with ⟨d, hd, rfl⟩
          exact ih d hd hm

/-- A second run finds nothing and changes nothing. -/
theorem placeAnchors_placeAnchors (n : Node) : n.placeAnchors.1.placeAnchors =
    (n.placeAnchors.1, 0) := by
  have htree : n.placeAnchors.1.placeAnchors.1 = n.placeAnchors.1 := by
    rw [placeAnchors_eq n, placeAnchors_eq, List.map_map]
    congr 1
    exact List.map_congr_left fun c _ => placed_placed c
  have hcount : n.placeAnchors.1.placeAnchors.2 = 0 := by
    rw [count_placeAnchors, List.countP_eq_zero]
    intro m hm
    rw [placeAnchors_eq] at hm
    rcases List.mem_flatMap.mp hm with ⟨d, hd, hm⟩
    rcases List.mem_map.mp hd with ⟨c, -, rfl⟩
    rw [decide_eq_true_eq]
    exact not_standsIn_of_mem_walk_placed hm
  exact Prod.ext htree hcount

end Node

/-- Placing anchors, node by node. The root keeps all but its children, and the paths of the tree
    are the same as before. At any path below the root, a link that stands in for an anchor is
    replaced by it, and any other node keeps everything but its children. The count is that of the
    links replaced, and the identifiers of the anchors are the old ones and those of the links, in
    document order. A second run finds nothing and changes nothing. -/
theorem placeAnchors_pathwise (n : Node) :
    let after := n.placeAnchors.1
    (after.kind = n.kind ∧ after.span = n.span ∧ after.hint = n.hint) ∧
    (∀ path, (after.at? path).isSome = (n.at? path).isSome) ∧
    (∀ i path m, n.at? (i :: path) = some m →
      (m.StandsIn → ∃ id, m.hint = some id ∧ after.at? (i :: path) = some
        { kind := .anchor { id, value := "" }, children := [], span := m.span, hint := none }) ∧
      (¬ m.StandsIn → ∃ children, children.length = m.children.length ∧
        after.at? (i :: path) = some { m with children })) ∧
    n.placeAnchors.2 = n.walk.tail.countP (·.StandsIn) ∧
    after.anchorIds =
      (n.kind.anchor?.map Anchor.id).toList ++ n.walk.tail.filterMap Node.givenId? ∧
    after.placeAnchors = (after, 0) := by
  intro after
  have htail : n.walk.tail = n.children.flatMap Node.walk := by rw [Node.walk_eq, List.tail_cons]
  have hroot : after = { n with children := n.children.map Node.placed } := n.placeAnchors_eq
  refine ⟨by rw [hroot]; exact ⟨rfl, rfl, rfl⟩, n.isSome_at?_placeAnchors, ?_,
    by rw [htail]; exact n.count_placeAnchors, by rw [htail]; exact n.anchorIds_placeAnchors_eq,
    n.placeAnchors_placeAnchors⟩
  intro i path m hm
  -- Below the root every node is replaced by what placing makes of it.
  have hafter : after.at? (i :: path) = some m.placed := by
    rw [n.at?_placeAnchors, hm, Option.map_some]
  constructor
  · intro hstands
    rcases hstands with ⟨hkind, hchildren, id, hid, hne⟩
    refine ⟨id, hid, ?_⟩
    rw [hafter, Node.placed_of_standsIn ⟨hkind, hchildren, id, hid, hne⟩, Node.toAnchor, hid,
      Option.getD_some]
  · intro hother
    refine ⟨m.children.map Node.placed, List.length_map .., ?_⟩
    rw [hafter, Node.placed_of_not_standsIn hother]

/-- Below a text, a link that stands in for an anchor is replaced, and the root is not, although it
    is such a link but for its children. -/
theorem placeAnchors_pathwise_nested :
    let link : Node := { kind := .link "" none, span := some ⟨4, 8⟩, hint := some "b" }
    let old : Node := { kind := .anchor { id := "a" } }
    let text : Node := { kind := .text "t", children := [old, link] }
    let tree : Node := { link with children := [text] }
    tree.at? [0, 1] = some link ∧ link.StandsIn ∧ tree.at? [0] = some text ∧ ¬ text.StandsIn ∧
      tree.placeAnchors.1.at? [0, 1] =
        some { kind := .anchor { id := "b" }, span := some ⟨4, 8⟩ } ∧
      (∃ children, children.length = 2 ∧
        tree.placeAnchors.1.at? [0] = some { text with children }) ∧
      tree.placeAnchors.1.type = .link ∧ tree.placeAnchors.2 = 1 ∧
      tree.placeAnchors.1.anchorIds = ["a", "b"] ∧
      tree.placeAnchors.1.placeAnchors = (tree.placeAnchors.1, 0) := by
  intro link old text tree
  have hlink : link.StandsIn := ⟨rfl, rfl, "b", rfl, by decide⟩
  have htext : ¬ text.StandsIn := by decide
  rcases placeAnchors_pathwise tree with ⟨hroot, -, hnodes, hcount, hids, hagain⟩
  rcases (hnodes 0 [1] link rfl).1 hlink with ⟨id, hid, hafter⟩
  cases hid
  refine ⟨rfl, hlink, rfl, htext, hafter, (hnodes 0 [] text rfl).2 htext,
    congrArg Kind.type hroot.1, hcount.trans ?_, hids.trans ?_, hagain⟩
  · decide
  · decide

end Anchormark
