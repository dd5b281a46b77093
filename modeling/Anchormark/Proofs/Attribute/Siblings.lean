import Anchormark.Proofs.Attribute.Edges
import Mathlib.Algebra.GroupWithZero.Nat

/-!
# Resolving a List of Siblings

The pass over a list of siblings threads the sibling before each text through the list, because
taking a block changes both. What it comes to is simpler: whether a block moves between two
neighbours depends on the kind of the one and the text of the other, and neither is changed by
what happens on its far side. A text takes no block, so a text that has just lost one is as good
as the text it was.

So every sibling has its result on its own, given its two neighbours as they were, and `settle`
writes the pass down in this form.

## Main definitions

* `opened`: a text without the block that its neighbour takes.
* `marked`: an element with the identifier of the block behind it.
* `gain`, `moves`: how many blocks an element takes, and all siblings together.
* `settle`: every sibling with its own result.
* `survivors`: the siblings that are left when the empty texts are gone.

## Theorems

* `node_eq_assemble`: A tree is resolved over its resolved children.
* `node_eq_self`: Without children there is nothing to resolve.
* `leading_eq_settle`: The pass gives every sibling its own result.
* `getElem?_settle`: The result of a sibling depends on its two neighbours.
* `trailing?_eq_some_iff`: Cutting a block changes the last sibling and no other.
* `assemble_eq`: An element is put together from what is left.
* `node_eq_self_of_children`: An element whose children keep out of each other's way stays.
-/

namespace Anchormark

namespace Resolve

/-- Several trees are resolved one by one. -/
theorem nodes_eq_map (source : List Char) (cs : List Node) :
    nodes source cs = cs.map (node source) := by
  induction cs with
  | nil => rfl
  | cons c cs ih => rw [nodes, ih, List.map_cons]

/-- A tree is resolved over its resolved children. -/
theorem node_eq_assemble (source : List Char) (n : Node) :
    node source n = assemble source { n with children := [] } (n.children.map (node source)) := by
  rw [← nodes_eq_map]
  cases n
  rfl

/-- Without children there is nothing to resolve. -/
theorem node_eq_self {source : List Char} {n : Node} (h : n.children = []) :
    node source n = (n, 0) := by
  rcases n with ⟨kind, children, span, hint⟩
  subst h
  simp only [node, nodes, assemble, List.filter_nil, trailing?, ite_self, List.map_nil,
    List.foldl_nil, Nat.add_zero]

/-- Where no sibling takes a block, the leading pass changes nothing. -/
theorem leading_eq_self {source : List Char} {first : Node} {rest : List Node}
    (h : (first :: rest).IsChain fun a b => a.moveLeading? source b = none) :
    leading source (first, 0) (rest.map fun c => (c, 0)) =
      ((first :: rest).map fun c => (c, 0), 0) := by
  induction rest generalizing first with
  | nil => rfl
  | cons next rest ih =>
      rw [List.isChain_cons_cons] at h
      simp only [List.map_cons, leading, h.1]
      rw [ih h.2, List.map_cons]

/-- Where the last sibling has no block at its end, nothing is cut. -/
theorem trailing?_eq_none {source : List Char} {cs : List Resolved}
    (h : ∀ last ∈ cs.getLast?, last.1.cutTrailing? source = none) :
    trailing? source cs = none := by
  induction cs with
  | nil => rfl
  | cons first rest ih =>
      cases rest with
      | nil =>
          rw [trailing?, h first rfl]
          rfl
      | cons second rest =>
          rw [List.getLast?_cons_cons] at h
          rw [trailing?, ih h]
          rfl

/-- Only elements that take leading blocks take one. -/
theorem moveLeading?_eq_none_of_kind {source : List Char} {n next : Node}
    (h : n.kind.takesLeadingBlock = false) : n.moveLeading? source next = none := by
  rw [Option.eq_none_iff_forall_ne_some]
  rintro ⟨target, text⟩ hmove
  have htakes := (Node.moveLeading?_eq_some_iff.mp hmove).1
  rw [h] at htakes
  exact Bool.false_ne_true htakes

/-- The text `n` behind the sibling `before`, without the block that the sibling takes. -/
def opened (source : List Char) (before : Option Node) (n : Node) : Node :=
  ((before.bind (·.moveLeading? source n)).map Prod.snd).getD n

/-- The element `n` with the identifier of the block at the start of what stands behind it. -/
def marked (source : List Char) (n : Node) (behind : Option Node) : Node :=
  ((behind.bind (n.moveLeading? source)).map Prod.fst).getD n

/-- How many blocks the element takes from what stands behind it: one or none. -/
def gain (source : List Char) (n : Node) (behind : Option Node) : Nat :=
  if (behind.bind (n.moveLeading? source)).isSome then 1 else 0

/-- The siblings behind `before`, each with its own result. -/
def settle (source : List Char) (before : Option Node) : List Resolved → List Resolved
  | [] => []
  | r :: rest =>
    (marked source (opened source before r.1) (rest.head?.map Prod.fst), r.2) ::
      settle source (some r.1) rest

/-- How many blocks move among the siblings. -/
def moves (source : List Char) : List Resolved → Nat
  | [] => 0
  | r :: rest => gain source r.1 (rest.head?.map Prod.fst) + moves source rest

/-- Losing a block leaves a text a text, and nothing else loses one. -/
theorem opened_eq_self_or {source : List Char} (before : Option Node) (n : Node) :
    opened source before n = n ∨
      (n.kind.takesLeadingBlock = false ∧
        (opened source before n).kind.takesLeadingBlock = false) := by
  cases before with
  | none => exact .inl rfl
  | some b =>
      cases hmove : b.moveLeading? source n with
      | none =>
          -- Nothing moves, so nothing changes.
          left
          rw [opened, Option.bind_some, hmove]
          rfl
      | some moved =>
          right
          rcases Node.moveLeading?_eq_some_iff.mp hmove with
            ⟨-, a, block, rest, hopens, -, htext⟩
          refine ⟨by rw [hopens.kind]; rfl, ?_⟩
          rw [opened, Option.bind_some, hmove, Option.map_some, Option.getD_some, htext]
          rfl

/-- A sibling takes the same blocks whether or not it has lost one itself. -/
theorem moveLeading?_opened (source : List Char) (before : Option Node) (n next : Node) :
    (opened source before n).moveLeading? source next = n.moveLeading? source next := by
  rcases opened_eq_self_or before n with heq | ⟨hn, hopened⟩
  · rw [heq]
  · rw [moveLeading?_eq_none_of_kind hn, moveLeading?_eq_none_of_kind hopened]

/-- The pass gives every sibling its own result. The induction is on the siblings still to come;
    the one before them stands for itself with or without a block that it has lost. -/
theorem leading_eq_settle {source : List Char} (before : Option Node) (r : Resolved)
    (rest : List Resolved) :
    leading source (opened source before r.1, r.2) rest =
      (settle source before (r :: rest), moves source (r :: rest)) := by
  induction rest generalizing before r with
  | nil => rfl
  | cons next rest ih =>
      rw [settle, moves, List.head?_cons, Option.map_some, leading]
      have hsame := moveLeading?_opened source before r.1 next.1
      cases hmove : r.1.moveLeading? source next.1 with
      | none =>
          -- The pass goes on with the next sibling as it is.
          have hnext : opened source (some r.1) next.1 = next.1 := by
            rw [opened, Option.bind_some, hmove]
            rfl
          have ih' := ih (some r.1) next
          rw [hnext] at ih'
          rw [hmove] at hsame
          simp only [ih', marked, gain, Option.bind_some, hmove, hsame, Option.map_none,
            Option.getD_none, Option.isSome_none, Bool.false_eq_true, if_false, Nat.zero_add]
      | some moved =>
          -- The pass goes on with the text that has lost its block.
          rcases moved with ⟨target, text⟩
          have hnext : opened source (some r.1) next.1 = text := by
            rw [opened, Option.bind_some, hmove]
            rfl
          have ih' := ih (some r.1) next
          rw [hnext] at ih'
          rw [hmove] at hsame
          simp only [ih', marked, gain, Option.bind_some, hmove, hsame, Option.map_some,
            Option.getD_some, Option.isSome_some, if_true, Nat.add_comm]

/-- The result of the sibling with index `i`, given its two neighbours. -/
theorem getElem?_settle {source : List Char} (before : Option Node) (rs : List Resolved) (i : Nat) :
    (settle source before rs)[i]? = rs[i]?.map fun r =>
      (marked source
        (opened source (if i = 0 then before else rs[i - 1]?.map Prod.fst) r.1)
        (rs[i + 1]?.map Prod.fst), r.2) := by
  induction rs generalizing before i with
  | nil => rfl
  | cons r rest ih =>
      cases i with
      | zero =>
          rw [settle, List.getElem?_cons_zero, List.getElem?_cons_zero, List.head?_eq_getElem?]
          rfl
      | succ i =>
          rw [settle, List.getElem?_cons_succ, ih, List.getElem?_cons_succ]
          cases i with
          | zero => rfl
          | succ i => rfl

/-- Counting along a list is adding a sum. -/
theorem foldl_eq_add_sum (count : Nat) (rs : List Resolved) :
    rs.foldl (fun count child => count + child.2) count = count + (rs.map Prod.snd).sum := by
  induction rs generalizing count with
  | nil => rfl
  | cons r rest ih => rw [List.foldl_cons, ih, List.map_cons, List.sum_cons, Nat.add_assoc]

/-- Cutting the block at the end of the siblings changes the last of them and no other. -/
theorem trailing?_eq_some_iff {source : List Char} {rs rs' : List Resolved} {a : Attributes} :
    trailing? source rs = some (rs', a) ↔
      ∃ front last inside text, rs = front ++ [(last, inside)] ∧
        last.cutTrailing? source = some (text, a) ∧
        rs' = front ++ if text.isEmptyText then [] else [(text, inside)] := by
  constructor
  · induction rs generalizing rs' with
    | nil => simp only [trailing?, reduceCtorEq, false_implies]
    | cons first rest ih =>
        intro h
        cases rest with
        | nil =>
            -- The pass goes to the last of the siblings, and the others are put back in front.
            rcases first with ⟨last, inside⟩
            simp only [trailing?, Option.bind_eq_bind, Option.bind_eq_some_iff, Option.pure_def,
              Option.some.injEq, Prod.mk.injEq, Prod.exists] at h
            rcases h with ⟨text, a', hcut, rfl, rfl⟩
            exact ⟨[], last, inside, text, rfl, hcut, rfl⟩
        | cons second rest =>
            simp only [trailing?, Option.bind_eq_bind, Option.bind_eq_some_iff, Option.pure_def,
              Option.some.injEq, Prod.mk.injEq, Prod.exists] at h
            rcases h with ⟨siblings, a', hrest, rfl, rfl⟩
            rcases ih hrest with ⟨front, last, inside, text, heq, hcut, rfl⟩
            exact ⟨first :: front, last, inside, text, by rw [heq, List.cons_append], hcut, rfl⟩
  · rintro ⟨front, last, inside, text, rfl, hcut, rfl⟩
    induction front with
    | nil =>
        rw [List.nil_append, trailing?, hcut]
        rfl
    | cons first front ih =>
        rcases List.exists_cons_of_ne_nil (List.append_ne_nil_of_right_ne_nil front
          (List.cons_ne_nil (last, inside) [])) with ⟨second, rest, hrest⟩
        rw [List.cons_append, hrest, trailing?, ← hrest, ih]
        rfl

/-- The siblings that are left when the leading blocks and the empty texts are gone. -/
def survivors (source : List Char) (rs : List Resolved) : List Resolved :=
  (settle source none rs).filter fun r => !r.1.isEmptyText

/-- An element over its resolved children: the leading pass, then the trailing block. -/
theorem assemble_eq (source : List Char) (n : Node) (rs : List Resolved) :
    assemble source n rs =
      match if n.kind.takesTrailingBlock then trailing? source (survivors source rs) else none with
      | some (children, a) =>
        ({ n.attach a with children := children.map Prod.fst },
          moves source rs + 1 + (children.map Prod.snd).sum)
      | none =>
        ({ n with children := (survivors source rs).map Prod.fst },
          moves source rs + ((survivors source rs).map Prod.snd).sum) := by
  cases rs with
  | nil =>
      have hnone : (if n.kind.takesTrailingBlock then trailing? source [] else none) = none := by
        rw [trailing?, ite_self]
      simp only [assemble, survivors, settle, moves, List.filter_nil, hnone, List.map_nil,
        List.foldl_nil, List.sum_nil]
  | cons first rest =>
      have hpass : leading source first rest =
          (settle source none (first :: rest), moves source (first :: rest)) :=
        leading_eq_settle none first rest
      simp only [assemble, hpass, survivors, foldl_eq_add_sum]
      -- Whether a block is cut or not, the two sides put the same parts together.
      generalize (if n.kind.takesTrailingBlock then trailing? source
        ((settle source none (first :: rest)).filter fun r => !r.1.isEmptyText) else none) = cut
      cases cut with
      | none => rfl
      | some cut => rfl

/-- An element over children none of which is empty, takes a block or loses one is left as it is,
    if so are the children. -/
theorem node_eq_self_of_children {source : List Char} {n : Node}
    (hself : ∀ c ∈ n.children, node source c = (c, 0))
    (hlead : n.children.IsChain fun a b => a.moveLeading? source b = none)
    (hfull : ∀ c ∈ n.children, c.isEmptyText = false)
    (hlast : ∀ last ∈ n.children.getLast?, last.cutTrailing? source = none) :
    node source n = (n, 0) := by
  have hmap : n.children.map (node source) = n.children.map fun c => (c, 0) :=
    List.map_congr_left hself
  -- Nothing moves in the leading pass, nothing is empty, and nothing is cut.
  have hpass : settle source none (n.children.map fun c => (c, 0)) =
      n.children.map (fun c => (c, 0)) ∧ moves source (n.children.map fun c => (c, 0)) = 0 := by
    cases hcs : n.children with
    | nil => exact ⟨rfl, rfl⟩
    | cons first rest =>
        rw [hcs] at hlead
        have h := (leading_eq_settle none (first, 0) (rest.map fun c => (c, 0))).symm.trans
          (leading_eq_self hlead)
        exact ⟨congrArg Prod.fst h, congrArg Prod.snd h⟩
  have hsurvive : survivors source (n.children.map fun c => (c, 0)) =
      n.children.map fun c => (c, 0) := by
    rw [survivors, hpass.1, List.filter_eq_self]
    intro r hr
    rcases List.mem_map.mp hr with ⟨c, hc, rfl⟩
    rw [hfull c hc]
    rfl
  have hcut : trailing? source (n.children.map fun c => (c, 0)) = none := by
    refine trailing?_eq_none fun r hr => ?_
    rw [List.getLast?_map, Option.mem_def, Option.map_eq_some_iff] at hr
    rcases hr with ⟨c, hc, rfl⟩
    exact hlast c hc
  rw [node_eq_assemble, hmap, assemble_eq, hsurvive, hcut, ite_self, hpass.2]
  simp only [List.map_map, Function.comp_def, List.map_id', List.map_const',
    List.sum_replicate_nat, Nat.mul_zero, Nat.add_zero]
  cases n
  rfl

end Resolve

end Anchormark
