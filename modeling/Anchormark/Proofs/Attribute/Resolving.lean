import Anchormark.Proofs.Attribute.Resolution
import Anchormark.Proofs.Attribute.Siblings

/-!
# Resolving Is Resolution

The passes of the resolver and the description of what they come to. On one level of a tree the
argument has two halves.

The leading pass gives every sibling its own result, so it is enough to look at a sibling and its
two neighbours. The neighbours have been resolved inside by then, but that changes neither their
kind nor their span, and a text that opens with a block is a leaf.

The trailing pass changes the last sibling that is left. The description finds it from the front:
a child that has a block at its end and only vanishing texts behind it. Both find the same one,
since an empty text never closes with a block.

From one level the whole tree follows by induction.

## Main definitions

* `Resolve.tally`: the blocks of every sibling, with the one that it takes itself.
* `Resolve.Cut`: what the passes come to on one level, child by child.

## Theorems

* `node_kind`, `node_span`: A node keeps its kind and its span.
* `settle_text`: The leading pass leaves a text without the block at its start.
* `settle_other`: The leading pass leaves any other node with what it takes.
* `survivors_of_trailsAt`: A child with a block for its parent is the last one left.
* `exists_cut`: The two passes come to a cut.
* `Cut.text`, `Cut.other`: What a cut makes of a text, and of any other node.
* `resolution_node`: A tree resolves to what the passes make of it.
* `resolve_eq_iff`: Resolving gives the resolution and no other tree or number.
-/

namespace Anchormark

variable {source : List Char}

namespace Resolve

/-- A node keeps its kind and its span. -/
theorem assemble_kind_span (source : List Char) (n : Node) (rs : List Resolved) :
    (assemble source n rs).1.kind = n.kind ∧ (assemble source n rs).1.span = n.span := by
  rw [assemble_eq]
  split <;> exact ⟨rfl, rfl⟩

theorem node_kind (source : List Char) (n : Node) : (node source n).1.kind = n.kind := by
  rw [node_eq_assemble]
  exact (assemble_kind_span source _ _).1

theorem node_span (source : List Char) (n : Node) : (node source n).1.span = n.span := by
  rw [node_eq_assemble]
  exact (assemble_kind_span source _ _).2

/-- Whether a text opens with a block does not depend on what happens inside it. -/
theorem opensWith_node {n : Node} {a : Attributes} {block rest : List Char} :
    (node source n).1.OpensWith source a block rest ↔ n.OpensWith source a block rest := by
  constructor
  · intro h
    exact ⟨(node_kind source n) ▸ h.kind, h.read, (node_span source n) ▸ h.literal⟩
  · intro h
    exact ⟨(node_kind source n).symm ▸ h.kind, h.read, (node_span source n).symm ▸ h.literal⟩

/-- The blocks of every sibling, those inside it and the one that it takes. -/
def tally (source : List Char) : List Resolved → List Nat
  | [] => []
  | r :: rest => (r.2 + gain source r.1 (rest.head?.map Prod.fst)) :: tally source rest

theorem getElem?_tally (rs : List Resolved) (i : Nat) :
    (tally source rs)[i]? =
      rs[i]?.map fun r => r.2 + gain source r.1 (rs[i + 1]?.map Prod.fst) := by
  induction rs generalizing i with
  | nil => rfl
  | cons r rest ih =>
      cases i with
      | zero =>
          rw [tally, List.getElem?_cons_zero, List.getElem?_cons_zero, List.head?_eq_getElem?]
          rfl
      | succ i => rw [tally, List.getElem?_cons_succ, ih, List.getElem?_cons_succ,
          List.getElem?_cons_succ]

theorem sum_tally (rs : List Resolved) :
    (tally source rs).sum = moves source rs + (rs.map Prod.snd).sum := by
  induction rs with
  | nil => rfl
  | cons r rest ih =>
      rw [tally, moves, List.sum_cons, ih, List.map_cons, List.sum_cons]
      omega

theorem length_tally (rs : List Resolved) : (tally source rs).length = rs.length := by
  induction rs with
  | nil => rfl
  | cons r rest ih => rw [tally, List.length_cons, ih, List.length_cons]

/-- The leading pass changes no number of blocks. -/
theorem map_snd_settle (before : Option Node) (rs : List Resolved) :
    (settle source before rs).map Prod.snd = rs.map Prod.snd := by
  induction rs generalizing before with
  | nil => rfl
  | cons r rest ih => rw [settle, List.map_cons, ih, List.map_cons]

theorem length_settle (before : Option Node) (rs : List Resolved) :
    (settle source before rs).length = rs.length := by
  rw [← List.length_map Prod.snd, map_snd_settle, List.length_map]

/-- The block that a child takes is the one behind it that belongs to the sibling before. -/
theorem leadsAt_succ_iff {cs : List Node} {i : Nat} {a : Attributes} {block : List Char} :
    LeadsAt source cs (i + 1) a block ↔
      ∃ target text rest, cs[i]? = some target ∧ cs[i + 1]? = some text ∧
        target.kind.takesLeadingBlock = true ∧ text.OpensWith source a block rest := by
  constructor
  · rintro ⟨k, target, text, rest, hk, htarget, htext, htakes, hopens⟩
    cases hk
    exact ⟨target, text, rest, htarget, htext, htakes, hopens⟩
  · rintro ⟨target, text, rest, htarget, htext, htakes, hopens⟩
    exact ⟨i, target, text, rest, rfl, htarget, htext, htakes, hopens⟩

/-- The same for a child that is known. -/
theorem exists_leadsAt_iff {cs : List Node} {i : Nat} {c : Node} (hc : cs[i]? = some c)
    (a : Attributes) :
    (∃ block, LeadsAt source cs (i + 1) a block) ↔
      ∃ text block rest, cs[i + 1]? = some text ∧ c.kind.takesLeadingBlock = true ∧
        text.OpensWith source a block rest := by
  constructor
  · rintro ⟨block, hleads⟩
    rcases leadsAt_succ_iff.mp hleads with ⟨target, text, rest, htarget, hnext, htakes, hopens⟩
    rw [hc, Option.some.injEq] at htarget
    subst htarget
    exact ⟨text, block, rest, hnext, htakes, hopens⟩
  · rintro ⟨text, block, rest, hnext, htakes, hopens⟩
    exact ⟨block, leadsAt_succ_iff.mpr ⟨c, text, rest, hc, hnext, htakes, hopens⟩⟩

/-- What a resolved child gets from the resolved sibling behind it, and how many blocks that is. -/
theorem marked_node {cs : List Node} {i : Nat} {c : Node} (hc : cs[i]? = some c)
    {ahead : Option Attributes}
    (hahead : ∀ a, ahead = some a ↔ ∃ block, LeadsAt source cs (i + 1) a block) :
    marked source (node source c).1 ((cs.map (node source))[i + 1]?.map Prod.fst) =
        { (node source c).1 with
          hint := (node source c).1.hint <|> ahead.bind Attributes.usableId } ∧
      gain source (node source c).1 ((cs.map (node source))[i + 1]?.map Prod.fst) =
        ahead.toList.length := by
  rw [List.getElem?_map, Option.map_map]
  cases ahead with
  | some a =>
      -- The block that the description speaks of is the one that moves.
      rcases (hahead a).mp rfl with ⟨block, hleads⟩
      rcases leadsAt_succ_iff.mp hleads with ⟨target, text, rest, htarget, htext, htakes, hopens⟩
      rw [hc, Option.some.injEq] at htarget
      subst htarget
      have hmove : (node source c).1.moveLeading? source (node source text).1 =
          some ((node source c).1.attach a, (node source text).1.dropLead block rest) :=
        Node.moveLeading?_eq_some_iff.mpr
          ⟨(node_kind source c).symm ▸ htakes, a, block, rest, opensWith_node.mpr hopens, rfl, rfl⟩
      rw [marked, gain, htext, Option.map_some, Option.bind_some, Function.comp_apply, hmove]
      exact ⟨rfl, rfl⟩
  | none =>
      -- A block that moved would be one that the description speaks of.
      have hnone : (cs[i + 1]?.map (Prod.fst ∘ node source)).bind
          ((node source c).1.moveLeading? source) = none := by
        rw [Option.eq_none_iff_forall_ne_some]
        rintro ⟨target, text⟩ hmove
        rcases Option.bind_eq_some_iff.mp hmove with ⟨next, hnext, hmove⟩
        rcases Option.map_eq_some_iff.mp hnext with ⟨d, hd, rfl⟩
        rcases Node.moveLeading?_eq_some_iff.mp hmove with ⟨htakes, a, block, rest, hopens, -, -⟩
        have hleads : LeadsAt source cs (i + 1) a block :=
          leadsAt_succ_iff.mpr ⟨c, d, rest, hc, hd, (node_kind source c) ▸ htakes,
            opensWith_node.mp hopens⟩
        exact Option.some_ne_none a ((hahead a).mpr ⟨block, hleads⟩).symm
      rw [marked, gain, hnone]
      refine ⟨?_, rfl⟩
      simp only [Option.map_none, Option.getD_none, Option.bind_none, Option.orElse_eq_orElse,
        Option.orElse_eq_or, Option.or_none]
      cases (node source c).1
      rfl

/-- The result of the child with index `i` after the leading pass. -/
theorem getElem?_settle_map (cs : List Node) (i : Nat) :
    (settle source none (cs.map (node source)))[i]? = cs[i]?.map fun c =>
      (marked source
        (opened source (if i = 0 then none else cs[i - 1]?.map fun b => (node source b).1)
          (node source c).1)
        ((cs.map (node source))[i + 1]?.map Prod.fst), (node source c).2) := by
  simp only [getElem?_settle, List.getElem?_map, Option.map_map, Function.comp_def]

/-- The leading pass leaves any other node than a text with what it takes. -/
theorem settle_other {cs : List Node} {i : Nat} {c : Node} (hc : cs[i]? = some c)
    (hother : c.type ≠ .text) {ahead : Option Attributes}
    (hahead : ∀ a, ahead = some a ↔ ∃ block, LeadsAt source cs (i + 1) a block) :
    (settle source none (cs.map (node source)))[i]? =
      some ({ (node source c).1 with
        hint := (node source c).1.hint <|> ahead.bind Attributes.usableId },
        (node source c).2) := by
  have hopened (before : Option Node) : opened source before (node source c).1 =
      (node source c).1 := by
    cases before with
    | none => rfl
    | some b =>
        have hnone : b.moveLeading? source (node source c).1 = none := by
          refine Node.moveLeading?_eq_none fun a block rest hopens => hother ?_
          rw [Node.type, (opensWith_node.mp hopens).kind]
          rfl
        rw [opened, Option.bind_some, hnone]
        rfl
  rw [getElem?_settle_map, hc, Option.map_some, hopened, (marked_node hc hahead).1]

/-- A text behind its sibling loses the block that the sibling takes. -/
theorem led_opened (source : List Char) {cs : List Node} {i : Nat} {c : Node}
    (hc : cs[i]? = some c) :
    Led source cs i (opened source
      (if i = 0 then none else cs[i - 1]?.map fun b => (node source b).1) c) := by
  refine ⟨c, hc, ?_⟩
  cases i with
  | zero =>
      -- There is no sibling before the first one.
      right
      refine ⟨?_, rfl⟩
      rintro a block ⟨k, target, text, rest, hk, -⟩
      omega
  | succ k =>
      rw [if_neg (Nat.succ_ne_zero k), Nat.add_sub_cancel, opened]
      cases hmove : (cs[k]?.map fun b => (node source b).1).bind (·.moveLeading? source c) with
      | some moved =>
          left
          rcases Option.bind_eq_some_iff.mp hmove with ⟨m, hm, hmove⟩
          rcases Option.map_eq_some_iff.mp hm with ⟨b, hb, rfl⟩
          rcases Node.moveLeading?_eq_some_iff.mp hmove with
            ⟨htakes, a, block, rest, hopens, -, htext⟩
          rw [node_kind] at htakes
          exact ⟨a, block, rest, leadsAt_succ_iff.mpr ⟨b, c, rest, hb, hc, htakes, hopens⟩, hopens,
            htext⟩
      | none =>
          right
          refine ⟨fun a block hleads => ?_, rfl⟩
          rcases leadsAt_succ_iff.mp hleads with ⟨b, d, rest, hb, hd, htakes, hopens⟩
          rw [hc, Option.some.injEq] at hd
          subst hd
          rw [hb, Option.map_some, Option.bind_some, Option.eq_none_iff_forall_ne_some] at hmove
          rw [← node_kind source] at htakes
          exact hmove _ (Node.moveLeading?_eq_some_iff.mpr
            ⟨htakes, a, block, rest, hopens, rfl, rfl⟩)

/-- A text takes nothing. -/
theorem marked_text {t : Node} (ht : t.type = .text) (behind : Option Node) :
    marked source t behind = t ∧ gain source t behind = 0 := by
  rcases exists_text_of_type ht with ⟨value, hvalue⟩
  have hnone : behind.bind (t.moveLeading? source) = none := by
    cases behind with
    | none => rfl
    | some next => exact moveLeading?_eq_none_of_kind (by rw [hvalue]; rfl)
  rw [marked, gain, hnone]
  exact ⟨rfl, rfl⟩

/-- The leading pass leaves a text without the block at its start. -/
theorem settle_text {cs : List Node} {i : Nat} {c : Node} (hc : cs[i]? = some c)
    (htext : c.type = .text) (hleaf : c.children = []) :
    ∃ t, (settle source none (cs.map (node source)))[i]? = some (t, 0) ∧ Led source cs i t := by
  have hled := led_opened source hc
  refine ⟨_, ?_, hled⟩
  have hself : node source c = (c, 0) := node_eq_self hleaf
  rw [getElem?_settle_map, hc, Option.map_some, hself,
    (marked_text ((hled.type_eq hc).trans htext) _).1]

/-- What a child gives and takes is determined, so there is a block that it takes or none. -/
theorem exists_ahead (source : List Char) (cs : List Node) (i : Nat) :
    ∃ ahead : Option Attributes, ∀ a, ahead = some a ↔ ∃ block, LeadsAt source cs i a block := by
  by_cases h : ∃ a block, LeadsAt source cs i a block
  · rcases h with ⟨a, block, hleads⟩
    refine ⟨some a, fun a' => ?_⟩
    rw [Option.some.injEq]
    constructor
    · rintro rfl
      exact ⟨block, hleads⟩
    · rintro ⟨block', hleads'⟩
      exact (hleads.unique hleads').1
  · refine ⟨none, fun a => ?_⟩
    constructor
    · intro ha
      exact absurd ha.symm (Option.some_ne_none a)
    · rintro ⟨block, hleads⟩
      exact absurd ⟨a, block, hleads⟩ h

/-- The leading pass keeps the type of every child, and leaves a text without the block at its
    start. -/
theorem settle_spec (source : List Char) {cs : List Node}
    (hleaf : ∀ c ∈ cs, c.type = .text → c.children = []) {i : Nat} {c : Node}
    (hc : cs[i]? = some c) :
    ∃ r, (settle source none (cs.map (node source)))[i]? = some r ∧ r.1.type = c.type ∧
      (c.type = .text → Led source cs i r.1 ∧ r.2 = 0) := by
  by_cases htext : c.type = .text
  · rcases settle_text hc htext (hleaf c (List.mem_of_getElem? hc) htext) with ⟨t, ht, hled⟩
    exact ⟨(t, 0), ht, hled.type_eq hc, fun _ => ⟨hled, rfl⟩⟩
  · rcases exists_ahead source cs (i + 1) with ⟨ahead, hahead⟩
    refine ⟨_, settle_other hc htext hahead, ?_, fun h => absurd h htext⟩
    rw [Node.type, Node.type, node_kind]

/-- A text that the leading pass leaves, read off the pass. -/
theorem led_of_settle {cs : List Node} (hleaf : ∀ c ∈ cs, c.type = .text → c.children = [])
    {i : Nat} {r : Resolved} (hr : (settle source none (cs.map (node source)))[i]? = some r)
    (htext : r.1.type = .text) : Led source cs i r.1 ∧ r.2 = 0 := by
  have hi : i < cs.length := by
    rw [getElem?_settle_map] at hr
    rcases Option.map_eq_some_iff.mp hr with ⟨c, hc, -⟩
    exact (List.getElem?_eq_some_iff.mp hc).1
  rcases settle_spec source hleaf (List.getElem?_eq_getElem hi) with
    ⟨r', hr', htype, hled⟩
  rw [hr, Option.some.injEq] at hr'
  subst hr'
  exact hled (htype.symm.trans htext)

/-- A text without the block at its start is what the leading pass leaves. -/
theorem settle_of_led {cs : List Node} (hleaf : ∀ c ∈ cs, c.type = .text → c.children = [])
    {i : Nat} {t : Node} (hled : Led source cs i t) (htext : t.type = .text) :
    (settle source none (cs.map (node source)))[i]? = some (t, 0) := by
  have hcopy := hled
  rcases hcopy with ⟨c, hc, -⟩
  rcases settle_spec source hleaf hc with ⟨⟨t', k⟩, hr, -, hled'⟩
  rcases hled' ((hled.type_eq hc).symm.trans htext) with ⟨hled', rfl⟩
  have heq : t' = t := hled'.unique hled
  rw [hr, heq]

/-- An empty text is a text. -/
theorem type_of_isEmptyText {n : Node} (h : n.isEmptyText = true) : n.type = .text := by
  unfold Node.isEmptyText at h
  split at h
  · next value hkind =>
      rw [Node.type, hkind]
      rfl
  · exact absurd h Bool.false_ne_true

/-- A child that has a block for its parent is the last one left, because what stands behind it
    vanishes. -/
theorem survivors_of_trailsAt {n : Node}
    (hleaf : ∀ c ∈ n.children, c.type = .text → c.children = []) {i : Nat} {a : Attributes}
    {block : List Char} (h : TrailsAt source n i a block) :
    ∃ pre t front, survivors source (n.children.map (node source)) = pre ++ [(t, 0)] ∧
      t.ClosesWith source a front block := by
  rcases h with ⟨-, ⟨t, front, hled, hcloses⟩, hvanish⟩
  set passed := settle source none (n.children.map (node source)) with hpassed
  have ht : passed[i]? = some (t, 0) := by
    refine settle_of_led hleaf hled ?_
    rw [Node.type, hcloses.kind]
    rfl
  rcases List.getElem?_eq_some_iff.mp ht with ⟨hi, hget⟩
  refine ⟨(passed.take i).filter fun r => !r.1.isEmptyText, t, front, ?_, hcloses⟩
  -- What stands behind the text is empty when the filter sees it.
  have hpost : (passed.drop (i + 1)).filter (fun r => !r.1.isEmptyText) = [] := by
    rw [List.filter_eq_nil_iff]
    intro r hr
    rcases List.getElem?_of_mem hr with ⟨k, hk⟩
    rw [List.getElem?_drop] at hk
    have hlt : i + 1 + k < n.children.length := by
      have hlen := (List.getElem?_eq_some_iff.mp hk).1
      rw [hpassed, length_settle, List.length_map] at hlen
      exact hlen
    rcases hvanish (i + 1 + k) (by omega) hlt with ⟨t', hled', hempty⟩
    rw [settle_of_led hleaf hled' (type_of_isEmptyText hempty), Option.some.injEq] at hk
    rw [← hk, hempty]
    exact Bool.false_ne_true
  have hsplit : passed = passed.take i ++ (t, 0) :: passed.drop (i + 1) := by
    rw [← hget, ← List.drop_eq_getElem_cons hi, List.take_append_drop]
  rw [survivors, ← hpassed]
  -- Only on the left, since the right side speaks of the same list.
  conv_lhs => rw [hsplit]
  rw [List.filter_append, List.filter_cons, hcloses.isEmptyText, hpost]
  rfl

/-- The last child left, when it has a block at its end, has it for its parent. -/
theorem trailsAt_of_survivors {n : Node}
    (hleaf : ∀ c ∈ n.children, c.type = .text → c.children = [])
    (htakes : n.kind.takesTrailingBlock = true) {pre post : List Resolved} {last : Resolved}
    (hsplit : settle source none (n.children.map (node source)) = pre ++ last :: post)
    (hpost : ∀ r ∈ post, r.1.isEmptyText = true) {a : Attributes} {front block : List Char}
    (hcloses : last.1.ClosesWith source a front block) :
    TrailsAt source n pre.length a block := by
  have hlast : (settle source none (n.children.map (node source)))[pre.length]? = some last :=
    getElem?_of_split hsplit
  have htext : last.1.type = .text := by
    rw [Node.type, hcloses.kind]
    rfl
  refine ⟨htakes, ⟨last.1, front, (led_of_settle hleaf hlast htext).1, hcloses⟩, ?_⟩
  -- What is behind it has vanished in the leading pass, so it vanishes by the description, too.
  intro j hlt hj
  have hj' : j < (settle source none (n.children.map (node source))).length := by
    rw [length_settle, List.length_map]
    exact hj
  rcases exists_getElem? hj' with ⟨r, hr⟩
  have hempty : r.1.isEmptyText = true := by
    refine hpost r ?_
    have hmem := hr
    rw [hsplit, List.append_cons, List.getElem?_append_right
      (by rw [List.length_append, List.length_singleton]; omega)] at hmem
    exact List.mem_of_getElem? hmem
  exact ⟨r.1, (led_of_settle hleaf hr (type_of_isEmptyText hempty)).1, hempty⟩

/-- What the two passes make of a node: `own` is the block that it gets from its last text, and
    `results` has its children without their blocks, vanishing texts included. -/
structure Cut (source : List Char) (n : Node) (own : Option Attributes) (results : List Node) :
    Prop where
  node_eq : node source n =
    ({ n with
        children := results.filter fun r => !r.isEmptyText
        hint := n.hint <|> own.bind Attributes.usableId },
      own.toList.length + (tally source (n.children.map (node source))).sum)
  own_iff : ∀ a, own = some a ↔ ∃ i block, TrailsAt source n i a block
  length_eq : results.length = n.children.length
  trails : ∀ i a block, TrailsAt source n i a block → ∃ t front,
    (settle source none (n.children.map (node source)))[i]? = some (t, 0) ∧
      t.ClosesWith source a front block ∧ results[i]? = some (t.dropTail source front block)
  stays : ∀ i r, (settle source none (n.children.map (node source)))[i]? = some r →
    (∀ a block, ¬ TrailsAt source n i a block) → results[i]? = some r.1

/-- What vanishes does not count, if nothing happened inside it. -/
theorem sum_filter_isEmptyText {rs : List Resolved}
    (h : ∀ r ∈ rs, r.1.isEmptyText = true → r.2 = 0) :
    ((rs.filter fun r => !r.1.isEmptyText).map Prod.snd).sum = (rs.map Prod.snd).sum := by
  induction rs with
  | nil => rfl
  | cons r rest ih =>
      rw [List.forall_mem_cons] at h
      rw [List.filter_cons]
      cases hempty : r.1.isEmptyText with
      | true =>
          rw [List.map_cons, List.sum_cons, h.1 hempty, Nat.zero_add]
          exact ih h.2
      | false =>
          rw [Bool.not_false, if_pos rfl, List.map_cons, List.sum_cons, ih h.2, List.map_cons,
            List.sum_cons]

/-- Texts that vanish have nothing inside, so no block gets lost with them. -/
theorem sum_survivors (source : List Char) {n : Node}
    (hleaf : ∀ c ∈ n.children, c.type = .text → c.children = []) :
    moves source (n.children.map (node source)) +
        ((survivors source (n.children.map (node source))).map Prod.snd).sum =
      (tally source (n.children.map (node source))).sum := by
  rw [sum_tally, survivors, sum_filter_isEmptyText, map_snd_settle]
  intro r hr hempty
  rcases List.getElem?_of_mem hr with ⟨i, hi⟩
  exact (led_of_settle hleaf hi (type_of_isEmptyText hempty)).2

/-- An element that gets nothing from its last text. -/
theorem cut_none {n : Node} (hleaf : ∀ c ∈ n.children, c.type = .text → c.children = [])
    (hcut : (if n.kind.takesTrailingBlock then
      trailing? source (survivors source (n.children.map (node source))) else none) = none) :
    Cut source n none ((settle source none (n.children.map (node source))).map Prod.fst) := by
  -- A block for the parent would have been cut.
  have hnone (i : Nat) (a : Attributes) (block : List Char) : ¬ TrailsAt source n i a block := by
    intro h
    rcases survivors_of_trailsAt hleaf h with ⟨pre, t, front, hsurvive, hcloses⟩
    have hsome := trailing?_eq_some_iff.mpr ⟨pre, t, 0, t.dropTail source front block, hsurvive,
      Node.cutTrailing?_eq_some_iff.mpr ⟨front, block, hcloses, rfl⟩, rfl⟩
    rw [if_pos h.1, hsome] at hcut
    exact Option.some_ne_none _ hcut
  refine ⟨?_, fun a => ?_, ?_, fun i a block h => absurd h (hnone i a block), ?_⟩
  · rw [node_eq_assemble, assemble_eq, hcut]
    simp only [sum_survivors source hleaf, Option.bind_none, Option.orElse_eq_orElse,
      Option.orElse_eq_or, Option.or_none, Option.toList_none, List.length_nil, Nat.zero_add]
    rw [survivors, List.filter_map]
    rfl
  · simp only [reduceCtorEq, false_iff, not_exists]
    exact fun i block => hnone i a block
  · rw [List.length_map, length_settle, List.length_map]
  · intro i r hr _
    rw [List.getElem?_map, hr, Option.map_some]

/-- Where the last result that does not vanish is replaced, only that place is different in what
    is left. -/
theorem filter_set_last {rs before front behind : List Resolved} {last : Resolved} {cut : Node}
    (hsplit : rs = before ++ last :: behind)
    (hfront : before.filter (fun r => !r.1.isEmptyText) = front)
    (hbehind : ∀ r ∈ behind, r.1.isEmptyText = true) :
    ((rs.map Prod.fst).set before.length cut).filter (fun r => !r.isEmptyText) =
      front.map Prod.fst ++ if cut.isEmptyText then [] else [cut] := by
  have hset : (rs.map Prod.fst).set before.length cut =
      before.map Prod.fst ++ cut :: behind.map Prod.fst := by
    rw [hsplit, List.map_append, List.set_append_right _ _ (by rw [List.length_map]),
      List.length_map, Nat.sub_self, List.map_cons, List.set_cons_zero]
  rw [hset, List.filter_append, List.filter_map, List.filter_cons, List.filter_map]
  have hnothing : behind.filter (fun r => !r.1.isEmptyText) = [] :=
    List.filter_eq_nil_iff.mpr fun r hr => by rw [hbehind r hr]; exact Bool.false_ne_true
  simp only [Function.comp_def]
  rw [hfront, hnothing]
  cases cut.isEmptyText <;> rfl

/-- A node whose last child is cut: the children that are left, its own block, and the blocks that
    have moved. -/
theorem node_of_trailing? {n : Node} (hleaf : ∀ c ∈ n.children, c.type = .text → c.children = [])
    (htakes : n.kind.takesTrailingBlock = true) {a : Attributes} {front : List Resolved}
    {last cut : Node}
    (hsurvive : survivors source (n.children.map (node source)) = front ++ [(last, 0)])
    (hcut : trailing? source (survivors source (n.children.map (node source))) =
      some (front ++ (if cut.isEmptyText then [] else [(cut, 0)]), a)) :
    node source n =
      ({ n with
          children := front.map Prod.fst ++ if cut.isEmptyText then [] else [cut]
          hint := n.hint <|> a.usableId },
        1 + (tally source (n.children.map (node source))).sum) := by
  have hsum := sum_survivors source hleaf
  rw [hsurvive, List.map_append, List.sum_append] at hsum
  rw [node_eq_assemble, assemble_eq, if_pos htakes, hcut]
  simp only [Node.attach, ← hsum, Prod.mk.injEq]
  refine ⟨?_, ?_⟩
  · cases cut.isEmptyText <;>
      rw [List.map_append] <;> rfl
  · cases cut.isEmptyText <;>
      simp only [List.map_append, List.sum_append, if_true, Bool.false_eq_true, if_false,
        List.map_cons, List.map_nil, List.sum_cons, List.sum_nil] <;> omega

/-- The last one left splits the siblings, and nothing behind it is left. -/
theorem exists_split_survivors {rs front : List Resolved} {last : Resolved}
    (h : survivors source rs = front ++ [last]) :
    ∃ before behind, settle source none rs = before ++ last :: behind ∧
      before.filter (fun r => !r.1.isEmptyText) = front ∧
      ∀ r ∈ behind, r.1.isEmptyText = true := by
  rcases List.filter_eq_append_iff.mp h with ⟨left, right, hsplit, hleft, hright⟩
  rcases List.filter_eq_cons_iff.mp hright with ⟨gone, behind, rfl, hgone, -, hbehind⟩
  refine ⟨left ++ gone, behind, ?_, ?_, fun r hr => ?_⟩
  · rw [hsplit, List.append_assoc]
  · rw [List.filter_append, hleft, List.filter_eq_nil_iff.mpr hgone, List.append_nil]
  · have hempty := List.filter_eq_nil_iff.mp hbehind r hr
    simpa only [Bool.not_eq_true', Bool.not_eq_false] using hempty

/-- The results of the leading pass, with the text that has the block cut in its place. There is
    only one such text, so all others stay as they are. -/
theorem cut_of_trailsAt {n : Node} {a : Attributes} {i : Nat} {last : Node}
    {front block : List Char} (htrails : TrailsAt source n i a block)
    (hget : (settle source none (n.children.map (node source)))[i]? = some (last, 0))
    (hcloses : last.ClosesWith source a front block) {results : List Node}
    (hresults : results =
      ((settle source none (n.children.map (node source))).map Prod.fst).set i
        (last.dropTail source front block))
    (hnode : node source n =
      ({ n with
          children := results.filter fun r => !r.isEmptyText
          hint := n.hint <|> a.usableId },
        1 + (tally source (n.children.map (node source))).sum)) :
    Cut source n (some a) results := by
  subst hresults
  refine ⟨hnode, fun a' => ?_, ?_, fun j a' block' h => ?_, fun j r hr hnone => ?_⟩
  · rw [Option.some.injEq]
    constructor
    · rintro rfl
      exact ⟨_, block, htrails⟩
    · rintro ⟨j, block', h⟩
      exact (htrails.unique h).2.1
  · rw [List.length_set, List.length_map, length_settle, List.length_map]
  · rcases htrails.unique h with ⟨rfl, rfl, rfl⟩
    refine ⟨last, front, hget, hcloses, ?_⟩
    rw [List.getElem?_set_self]
    rw [List.length_map]
    exact (List.getElem?_eq_some_iff.mp hget).1
  · have hne : i ≠ j := by
      rintro rfl
      exact hnone a block htrails
    rw [List.getElem?_set_ne hne, List.getElem?_map, hr, Option.map_some]

/-- An element that gets a block from its last text. The texts behind that one have vanished, so
    in what is left it stands at the end. -/
theorem cut_some {n : Node} (hleaf : ∀ c ∈ n.children, c.type = .text → c.children = [])
    {children : List Resolved} {a : Attributes}
    (hcut : (if n.kind.takesTrailingBlock then
      trailing? source (survivors source (n.children.map (node source))) else none) =
        some (children, a)) :
    ∃ results, Cut source n (some a) results := by
  have htakes : n.kind.takesTrailingBlock = true := by
    by_contra h
    rw [if_neg h] at hcut
    exact Option.some_ne_none _ hcut.symm
  rw [if_pos htakes] at hcut
  rcases trailing?_eq_some_iff.mp hcut with ⟨front, last, inside, text, hsurvive, hlast, rfl⟩
  rcases Node.cutTrailing?_eq_some_iff.mp hlast with ⟨kept, block, hcloses, rfl⟩
  rcases exists_split_survivors hsurvive with ⟨before, behind, hsplit, hfront, hbehind⟩
  have hget : (settle source none (n.children.map (node source)))[before.length]? =
      some (last, inside) := getElem?_of_split hsplit
  -- What is cut is a text, so nothing was found inside it.
  have hinside : inside = 0 := by
    refine (led_of_settle hleaf hget ?_).2
    rw [Node.type, hcloses.kind]
    rfl
  subst hinside
  refine ⟨_, cut_of_trailsAt (trailsAt_of_survivors hleaf htakes hsplit hbehind hcloses) hget
    hcloses rfl ?_⟩
  rw [filter_set_last hsplit hfront hbehind, node_of_trailing? hleaf htakes hsurvive hcut]

/-- The two passes come to a cut, whether or not a block is cut off. -/
theorem exists_cut (source : List Char) {n : Node}
    (hleaf : ∀ c ∈ n.children, c.type = .text → c.children = []) :
    ∃ own results, Cut source n own results := by
  cases hcut : (if n.kind.takesTrailingBlock then
      trailing? source (survivors source (n.children.map (node source))) else none) with
  | none => exact ⟨none, _, cut_none hleaf hcut⟩
  | some cut =>
      rcases cut with ⟨children, a⟩
      rcases cut_some hleaf hcut with ⟨results, h⟩
      exact ⟨some a, results, h⟩

/-- What a cut makes of a text. -/
theorem Cut.text {n : Node} {own : Option Attributes} {results : List Node}
    (h : Cut source n own results) (hleaf : ∀ c ∈ n.children, c.type = .text → c.children = [])
    {i : Nat} {c : Node} {value : String} (hc : n.children[i]? = some c)
    (hkind : c.kind = .text value) :
    ∃ parts, PartsAt source n i value parts ∧ results[i]? = some (parts.remains source c) ∧
      (tally source (n.children.map (node source)))[i]? = some 0 := by
  have htype : c.type = .text := by
    rw [Node.type, hkind]
    rfl
  have hself : node source c = (c, 0) :=
    node_eq_self (hleaf c (List.mem_of_getElem? hc) htype)
  have hi : (n.children.map (node source))[i]? = some (c, 0) := by
    rw [List.getElem?_map, hc, Option.map_some, hself]
  have hcount : (tally source (n.children.map (node source)))[i]? = some 0 := by
    rw [getElem?_tally, hi, Option.map_some, (marked_text htype _).2]
  rcases settle_spec source hleaf hc with ⟨⟨t, k⟩, hr, -, hled⟩
  rcases hled htype with ⟨hled, -⟩
  -- The text is the one that is cut, or it stays as the leading pass has left it.
  by_cases htrails : ∃ a block, TrailsAt source n i a block
  · rcases htrails with ⟨a, block, htrails⟩
    rcases h.trails i a block htrails with ⟨t', front, ht', hcloses, hresult⟩
    rw [hr, Option.some.injEq, Prod.mk.injEq] at ht'
    rcases ht' with ⟨rfl, -⟩
    rcases htrails.exists_parts hled hcloses hc hkind with ⟨parts, hparts, heq⟩
    exact ⟨parts, hparts, heq ▸ hresult, hcount⟩
  · have hnone : ∀ a block, ¬ TrailsAt source n i a block :=
      fun a block htrails' => htrails ⟨a, block, htrails'⟩
    rcases Led.exists_parts hled hc hkind hnone with ⟨parts, hparts, heq⟩
    exact ⟨parts, hparts, heq ▸ h.stays i _ hr hnone, hcount⟩

/-- What a cut makes of any other node. -/
theorem Cut.other {n : Node} {own : Option Attributes} {results : List Node}
    (h : Cut source n own results) {i : Nat} {c : Node} (hc : n.children[i]? = some c)
    (hother : c.type ≠ .text) {ahead : Option Attributes}
    (hahead : ∀ a, ahead = some a ↔ ∃ block, LeadsAt source n.children (i + 1) a block) :
    results[i]? = some { (node source c).1 with
        hint := (node source c).1.hint <|> ahead.bind Attributes.usableId } ∧
      (tally source (n.children.map (node source)))[i]? =
        some ((node source c).2 + ahead.toList.length) := by
  have hsettle := settle_other hc hother hahead
  refine ⟨h.stays i _ hsettle fun a block htrails => ?_, ?_⟩
  · -- Only a text closes with a block.
    rcases h.trails i a block htrails with ⟨t, front, ht, hcloses, -⟩
    rw [hsettle, Option.some.injEq, Prod.mk.injEq] at ht
    refine hother ?_
    have hkind := hcloses.kind
    rw [← ht.1, node_kind] at hkind
    rw [Node.type, hkind]
    rfl
  · have hi : (n.children.map (node source))[i]? = some (node source c) := by
      rw [List.getElem?_map, hc, Option.map_some]
    rw [getElem?_tally, hi, Option.map_some, (marked_node hc hahead).2]

end Resolve

/-- A tree resolves to what the passes make of it. The induction is on the tree: what the node
    before a text takes is added to what happened inside it. -/
theorem resolution_node (source : List Char) (n : Node) (hleaf : n.TextsAreLeaves)
    (behind : Option Attributes) :
    Resolution source n behind
      { (Resolve.node source n).1 with
        hint := (Resolve.node source n).1.hint <|> behind.bind Attributes.usableId }
      ((Resolve.node source n).2 + behind.toList.length) := by
  induction n using Node.induct generalizing behind with
  | h n ih =>
      have hchild : ∀ c ∈ n.children, c.type = .text → c.children = [] :=
        fun c hc => hleaf c (Node.mem_walk_of_child hc (Node.mem_walk_self c))
      -- The passes settle what happens on this level, and the hypothesis what happens below it.
      rcases Resolve.exists_cut source hchild with ⟨own, results, hcut⟩
      choose ahead hahead using fun i => Resolve.exists_ahead source n.children (i + 1)
      have hresolution : Resolution source n behind _ _ := Resolution.intro hcut.own_iff hahead
        hcut.length_eq (by rw [Resolve.length_tally, List.length_map])
        (fun i c value hc hkind => hcut.text hchild hc hkind)
        (fun i c r k hc hother hr hk => by
          rcases hcut.other hc hother (hahead i) with ⟨hr', hk'⟩
          rw [hr, Option.some.injEq] at hr'
          rw [hk, Option.some.injEq] at hk'
          subst hr' hk'
          exact ih c (List.mem_of_getElem? hc)
            (fun m hm => hleaf m (Node.mem_walk_of_child (List.mem_of_getElem? hc) hm)) (ahead i))
      rw [hcut.node_eq]
      have hcount : own.toList.length +
          (Resolve.tally source (n.children.map (Resolve.node source))).sum + behind.toList.length =
          behind.toList.length + own.toList.length +
            (Resolve.tally source (n.children.map (Resolve.node source))).sum := by
        omega
      rw [hcount]
      exact hresolution

/-- Resolving gives the resolution of the tree, and no other tree or number. -/
theorem resolve_eq_iff {source : String} {n : Node} (hleaf : n.TextsAreLeaves) {n' : Node}
    {count : Nat} :
    n.resolve source = (n', count) ↔ Resolution source.toList n none n' count := by
  have heq : Resolution source.toList n none (n.resolve source).1 (n.resolve source).2 := by
    have h := resolution_node source.toList n hleaf none
    simp only [Option.bind_none, Option.orElse_eq_orElse, Option.orElse_eq_or, Option.or_none,
      Option.toList_none, List.length_nil, Nat.add_zero] at h
    rw [Node.resolve]
    cases hnode : (Resolve.node source.toList n).1
    rw [hnode] at h
    exact h
  constructor
  · intro h
    rw [h] at heq
    exact heq
  · intro h
    rcases heq.unique h with ⟨htree, hcount⟩
    exact Prod.ext htree hcount

/-- A paragraph whose text has a block at either end and nothing but an empty text behind it: one
    block goes to the link before the text, the other to the paragraph. -/
theorem resolve_eq_iff_two_blocks :
    let n := Node.root [.paragraph [⟨.link "" none, [], some ⟨0, 4⟩, none⟩,
      ⟨.text "\x7b#a\x7d end \x7b#p\x7d", [], some ⟨4, 17⟩, none⟩, .text ""]]
    let n' := Node.root [⟨.paragraph, [⟨.link "" none, [], some ⟨0, 4⟩, some "a"⟩,
      ⟨.text " end", [], some ⟨8, 12⟩, none⟩], none, some "p"⟩]
    n.TextsAreLeaves ∧ Resolution "[]()\x7b#a\x7d end \x7b#p\x7d".toList n none n' 2 := by
  intro n n'
  have hleaf : n.TextsAreLeaves := by decide
  refine ⟨hleaf, (resolve_eq_iff hleaf).mp ?_⟩
  decide +kernel

end Anchormark
