import Anchormark.Proofs.Node.Paths
import Mathlib.Data.List.Forall2

/-!
# A Tree from the Depths of Its Nodes

The nodes of a tree in walk order, each with its depth, determine the tree. A node has a greater
depth than its parent, and whatever comes behind a tree in the list has not: its siblings have the
same depth, and all else is nearer to the root. So the list of a tree ends in front of the first
entry that is not deeper, and two lists that are equal end at the same place. That is what the
induction carries along, a rest behind each of the two trees that begins no deeper than their
children.

The depth of a node is the length of its path.

## Main definitions

* `Node.walkFrom`: The walk of a tree with the depths of the nodes.
* `Node.SameTypes`: Trees with the same paths and the same types of nodes at them.

## Theorems

* `map_fst_walkFrom`, `map_snd_walkFrom`: The depths are those of the paths, the nodes those of the
  walk.
* `sameTypes_of_children`: Trees are alike if their roots and their children are.
* `sameTypes_of_profile_eq`: Depths and types in walk order determine the types at all paths.
-/

namespace Anchormark

namespace Node

mutual

/-- The walk of a tree whose root has the given depth, with the depth of each node. -/
def walkFrom (depth : Nat) : Node → List (Nat × Node)
  | ⟨kind, children, span, hint⟩ =>
    (depth, ⟨kind, children, span, hint⟩) :: walkAllFrom (depth + 1) children

/-- The walks of several trees at the same depth. -/
def walkAllFrom (depth : Nat) : List Node → List (Nat × Node)
  | [] => []
  | n :: rest => walkFrom depth n ++ walkAllFrom depth rest

end

/-- The depths and types of a tree in walk order. -/
def profile (depth : Nat) (n : Node) : List (Nat × NodeType) :=
  (n.walkFrom depth).map fun entry => (entry.1, entry.2.type)

/-- The trees have the same paths, and the same types of nodes at them. -/
def SameTypes (n m : Node) : Prop :=
  ∀ path, (n.at? path).map type = (m.at? path).map type

theorem walkAllFrom_eq_flatMap (depth : Nat) (cs : List Node) :
    walkAllFrom depth cs = cs.flatMap (walkFrom depth) := by
  induction cs with
  | nil => rfl
  | cons c cs ih => rw [walkAllFrom, ih, List.flatMap_cons]

/-- The node comes first, and then its children one level deeper. -/
theorem walkFrom_eq (depth : Nat) (n : Node) :
    n.walkFrom depth = (depth, n) :: n.children.flatMap (walkFrom (depth + 1)) := by
  rw [← walkAllFrom_eq_flatMap]
  cases n
  rfl

theorem profile_eq (depth : Nat) (n : Node) :
    n.profile depth = (depth, n.type) :: n.children.flatMap (profile (depth + 1)) := by
  rw [profile, walkFrom_eq, List.map_cons, List.map_flatMap]
  rfl

/-- Without the depths it is the walk. -/
theorem map_snd_walkFrom (depth : Nat) (n : Node) :
    (n.walkFrom depth).map Prod.snd = n.walk := by
  induction n using induct generalizing depth with
  | h n ih =>
      rw [walkFrom_eq, walk_eq, List.map_cons, List.map_flatMap]
      exact congrArg (n :: ·) (List.flatMap_congr fun c hc => ih c hc (depth + 1))

/-- The depth of a node is the length of its path. -/
theorem map_fst_walkFrom (depth : Nat) (n : Node) :
    (n.walkFrom depth).map Prod.fst = n.paths.map fun path => depth + path.length := by
  induction n using induct generalizing depth with
  | h n ih =>
      -- The indices do not matter for the lengths, so the siblings may begin at any.
      have hall : ∀ (cs : List Node) (k : Nat), (∀ c ∈ cs, ∀ depth,
          (c.walkFrom depth).map Prod.fst = c.paths.map fun path => depth + path.length) →
          (cs.flatMap (walkFrom (depth + 1))).map Prod.fst =
            (pathsFrom k cs).map fun path => depth + path.length := by
        intro cs
        induction cs with
        | nil => exact fun _ _ => rfl
        | cons c cs ihcs =>
            intro k hcs
            rw [List.forall_mem_cons] at hcs
            rw [List.flatMap_cons, List.map_append, pathsFrom, List.map_append, hcs.1,
              ihcs (k + 1) hcs.2, List.map_map]
            congr 1
            refine List.map_congr_left fun path _ => ?_
            rw [Function.comp_apply, List.length_cons]
            omega
      rw [walkFrom_eq, paths_eq, List.map_cons, List.map_cons, hall n.children 0 ih]
      rfl

/-- The entry of a node has the length of its path. -/
theorem getElem?_walkFrom {n m : Node} {path : List Nat} {i : Nat} (hpath : n.paths[i]? = some path)
    (hm : n.walk[i]? = some m) : (n.walkFrom 0)[i]? = some (path.length, m) := by
  have hnode := congrArg (·[i]?) (n.map_snd_walkFrom 0)
  have hdepth := congrArg (·[i]?) (n.map_fst_walkFrom 0)
  simp only [List.getElem?_map, hm, hpath, Option.map_some, Option.map_eq_some_iff,
    Nat.zero_add] at hnode hdepth
  rcases hnode with ⟨⟨d, k⟩, hentry, rfl⟩
  rcases hdepth with ⟨entry, hentry', hd⟩
  rw [hentry, Option.some.injEq] at hentry'
  rw [hentry, ← hd, ← hentry']

/-- Trees are alike if their roots are and their children are, one by one. -/
theorem sameTypes_of_children {n m : Node} (htype : n.type = m.type)
    (hchildren : List.Forall₂ SameTypes n.children m.children) : n.SameTypes m := by
  intro path
  cases path with
  | nil => exact congrArg some htype
  | cons i path =>
      rw [at?_cons, at?_cons]
      by_cases hn : i < n.children.length
      · have hm : i < m.children.length := hchildren.length_eq ▸ hn
        rw [List.getElem?_eq_getElem hn, List.getElem?_eq_getElem hm]
        exact hchildren.get hn hm path
      · have hm : ¬ i < m.children.length := hchildren.length_eq ▸ hn
        rw [List.getElem?_eq_none (Nat.le_of_not_lt hn),
          List.getElem?_eq_none (Nat.le_of_not_lt hm)]

/-- The list does not begin with anything that is deeper. -/
def EndsAt (depth : Nat) (entries : List (Nat × NodeType)) : Prop :=
  ∀ entry, entries.head? = some entry → entry.1 ≤ depth

/-- Behind a tree may come its siblings. -/
theorem endsAt_flatMap_profile {depth : Nat} {rest : List (Nat × NodeType)}
    (h : EndsAt depth rest) (cs : List Node) :
    EndsAt (depth + 1) (cs.flatMap (profile (depth + 1)) ++ rest) := by
  intro entry hentry
  cases cs with
  | nil => exact Nat.le_succ_of_le (h entry hentry)
  | cons c cs =>
      rw [List.flatMap_cons, profile_eq, List.cons_append, List.cons_append, List.head?_cons,
        Option.some.injEq] at hentry
      exact hentry ▸ Nat.le_refl _

/-- Depths and types determine a tree at the front of a list, and what is behind it. The induction
    is on the first tree, and then on its children. -/
theorem sameTypes_of_profile_append {n m : Node} {depth : Nat} {rest rest' : List (Nat × NodeType)}
    (h : n.profile depth ++ rest = m.profile depth ++ rest') (hrest : EndsAt depth rest)
    (hrest' : EndsAt depth rest') : n.SameTypes m ∧ rest = rest' := by
  induction n using induct generalizing m depth rest rest' with
  | h n ih =>
      have hall : ∀ cs ds : List Node, (∀ c ∈ cs, c ∈ n.children) →
          cs.flatMap (profile (depth + 1)) ++ rest = ds.flatMap (profile (depth + 1)) ++ rest' →
            List.Forall₂ SameTypes cs ds ∧ rest = rest' := by
        intro cs
        induction cs with
        | nil =>
            intro ds _ heq
            cases ds with
            | nil => exact ⟨.nil, heq⟩
            | cons d ds =>
                -- What follows the one tree would be a child of the other.
                rw [List.flatMap_nil, List.nil_append, List.flatMap_cons, profile_eq] at heq
                have hle := hrest (depth + 1, d.type) (by rw [heq]; rfl)
                exact absurd hle (Nat.not_succ_le_self depth)
        | cons c cs ihcs =>
            intro ds hcs heq
            rw [List.forall_mem_cons] at hcs
            cases ds with
            | nil =>
                rw [List.flatMap_nil, List.nil_append, List.flatMap_cons, profile_eq] at heq
                have hle := hrest' (depth + 1, c.type) (by rw [← heq]; rfl)
                exact absurd hle (Nat.not_succ_le_self depth)
            | cons d ds =>
                rw [List.flatMap_cons, List.flatMap_cons, List.append_assoc,
                  List.append_assoc] at heq
                rcases ih c hcs.1 heq (endsAt_flatMap_profile hrest cs)
                  (endsAt_flatMap_profile hrest' ds) with ⟨hfirst, heq⟩
                rcases ihcs ds hcs.2 heq with ⟨hothers, heq⟩
                exact ⟨.cons hfirst hothers, heq⟩
      rw [profile_eq, profile_eq, List.cons_append, List.cons_append, List.cons.injEq,
        Prod.mk.injEq] at h
      rcases hall n.children m.children (fun _ hc => hc) h.2 with ⟨hchildren, heq⟩
      exact ⟨sameTypes_of_children h.1.2 hchildren, heq⟩

/-- Depths and types in walk order determine the types at all paths. -/
theorem sameTypes_of_profile_eq {n m : Node} (h : n.profile 0 = m.profile 0) : n.SameTypes m := by
  have hempty : EndsAt 0 [] := fun _ hentry => nomatch hentry
  have hnil : n.profile 0 ++ [] = m.profile 0 ++ [] := by
    rw [List.append_nil, List.append_nil, h]
  exact (sameTypes_of_profile_append hnil hempty hempty).1

end Node

end Anchormark
