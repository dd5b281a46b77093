import Anchormark.Node.Walk

/-!
# Induction on Trees

A tree is a node over a list of trees, so the recursor that comes with it speaks about trees and
lists of trees at once. For a property of trees that is more than is needed: it holds of a node if
it holds of the children. `Node.induct` states that.

What a walk visits is stated in the same form, a node and then whatever is below its children.

Any kind of node may have children, texts included. Where that matters, a tree has to be one whose
texts are leaves.

## Main definitions

* `Node.TextsAreLeaves`: no text has children.

## Theorems

* `Node.induct`: Induction over a tree, from the children to the node.
* `walk_eq`, `mem_walk_iff`: A walk visits the node and what the walks of its children visit.
* `forall_mem_walk`: What holds throughout a tree holds of the root and throughout the children.
-/

namespace Anchormark

namespace Node

/-- A property of trees holds of every tree if it holds of each node whose children have it. -/
@[elab_as_elim]
theorem induct {P : Node → Prop} (h : ∀ n : Node, (∀ c ∈ n.children, P c) → P n) (n : Node) :
    P n := by
  refine @Node.rec P (fun cs => ∀ c ∈ cs, P c) ?_ ?_ ?_ n
  · intro kind children span hint ih
    exact h ⟨kind, children, span, hint⟩ ih
  · intro c hc
    exact absurd hc List.not_mem_nil
  · intro c cs hc ih d hd
    rcases List.mem_cons.mp hd with rfl | hd
    · exact hc
    · exact ih d hd

/-- Walking several trees is walking each of them. -/
theorem walkAll_eq_flatMap (cs : List Node) : walkAll cs = cs.flatMap walk := by
  induction cs with
  | nil => rfl
  | cons c cs ih => rw [walkAll, ih, List.flatMap_cons]

/-- A walk visits the node first, and then walks the children. -/
theorem walk_eq (n : Node) : n.walk = n :: n.children.flatMap walk := by
  rw [← walkAll_eq_flatMap]
  cases n
  rfl

/-- A walk visits the node and what the walks of its children visit. -/
theorem mem_walk_iff {n m : Node} : m ∈ n.walk ↔ m = n ∨ ∃ c ∈ n.children, m ∈ c.walk := by
  rw [walk_eq, List.mem_cons, List.mem_flatMap]

theorem mem_walk_self (n : Node) : n ∈ n.walk :=
  mem_walk_iff.mpr (.inl rfl)

theorem mem_walk_of_child {n c m : Node} (hc : c ∈ n.children) (hm : m ∈ c.walk) : m ∈ n.walk :=
  mem_walk_iff.mpr (.inr ⟨c, hc, hm⟩)

/-- What holds throughout a tree holds of the root and throughout the children. -/
theorem forall_mem_walk {n : Node} {P : Node → Prop} :
    (∀ m ∈ n.walk, P m) ↔ P n ∧ ∀ c ∈ n.children, ∀ m ∈ c.walk, P m := by
  constructor
  · intro h
    exact ⟨h n (mem_walk_self n), fun c hc m hm => h m (mem_walk_of_child hc hm)⟩
  · rintro ⟨hroot, hchildren⟩ m hm
    rcases mem_walk_iff.mp hm with rfl | ⟨c, hc, hm⟩
    · exact hroot
    · exact hchildren c hc m hm

/-- No text of the tree has children. -/
def TextsAreLeaves (n : Node) : Prop :=
  ∀ m ∈ n.walk, m.type = .text → m.children = []

instance (n : Node) : Decidable n.TextsAreLeaves :=
  decidable_of_iff (∀ m ∈ n.walk, m.type = .text → m.children.isEmpty = true)
    (by simp only [TextsAreLeaves, List.isEmpty_iff])

end Node

end Anchormark
