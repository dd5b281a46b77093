import Anchormark.Node.Anchoring
import Anchormark.Proofs.Anchor.Identifiers
import Anchormark.Proofs.Attribute.Resolving
import Anchormark.Proofs.Node.Fresh

/-!
# Anchors and Placeholders

Two rewritings make the anchors of a document: blocks are resolved, then anchors are placed. What
comes out can be read off the tree that goes in. An anchor stands wherever a link with nothing to
it has a text right behind it that opens with a block, and the block declares an identifier.
`Node.placeholders` collects these identifiers, without resolving anything.

That both agree is shown along the description of resolved trees and not along the passes. Texts
contribute nothing before and after, so it does not matter which of them go. A link is left
without children if all that it had were empty texts, and only then.

## Main definitions

* `Node.anchorIds`: The identifiers of the anchors of a tree, in document order.
* `Node.isBare`: A link with nothing to it.
* `Node.idBehind?`: The identifier in the block right behind a node.
* `Node.placeholders`: The identifiers that become anchors, in document order.

## Theorems

* `idBehind?_eq_some_iff`: Where the identifier of a placeholder is written.
* `Resolution.hint_eq`, `Resolution.isEmptyText_of_children`: What becomes of an element that takes no
  block at its end.
* `Resolution.placedIds_children`: What a resolved tree contributes was there before.
* `anchorIds_placeAnchors`: The anchors of a processed tree are its placeholders.
-/

namespace Anchormark

namespace Node

/-- The identifiers of the anchors of a tree, in document order. -/
def anchorIds (n : Node) : List String :=
  n.anchors.map Anchor.id

/-- A link with nothing to it: no text, no destination, no title. -/
def isBare (n : Node) : Bool :=
  match n.kind with
  | .link url none => url.isEmpty && n.children.all isEmptyText
  | _ => false

/-- The identifier that a node has once the block at the start of the next sibling has moved to
    it, if there is a block to move. -/
def idBehind? (source : List Char) (n : Node) (next : Option Node) : Option String :=
  (next.bind (n.moveLeading? source)).bind fun moved => moved.1.hint

mutual

/-- The identifiers of the placeholders below a node, in document order. -/
def placeholders (source : List Char) : Node → List String
  | ⟨_, children, _, _⟩ => placeholdersAll source children

/-- The identifiers of the placeholders among several siblings and below them. -/
def placeholdersAll (source : List Char) : List Node → List String
  | [] => []
  | n :: rest =>
    (if n.isBare then (n.idBehind? source rest.head?).toList else placeholders source n) ++
      placeholdersAll source rest

end

/-- What a node below the root contributes to the anchors. -/
def placedIds (n : Node) : List String :=
  n.placed.anchorIds

/-- A tree has its own anchor, if it is one, and those of its children. -/
theorem anchorIds_eq (n : Node) :
    n.anchorIds = (n.kind.anchor?.map Anchor.id).toList ++ n.children.flatMap anchorIds := by
  have hbelow : (n.children.flatMap walk).filterMap (fun m => m.kind.anchor?) =
      n.children.flatMap anchors := by
    rw [List.filterMap_flatMap]
    rfl
  rw [anchorIds, anchors, walk_eq, List.filterMap_cons]
  cases n.kind.anchor? with
  | none =>
      simp only [hbelow, List.map_flatMap, Option.map_none, Option.toList_none, List.nil_append]
      rfl
  | some a =>
      simp only [hbelow, List.map_cons, List.map_flatMap, Option.map_some, Option.toList_some,
        List.singleton_append]
      rfl

/-- A placeholder contributes its identifier. -/
theorem placedIds_of_isPlaceholder {n : Node} (h : n.isPlaceholder = true) {id : String}
    (hid : n.hint = some id) : n.placedIds = [id] := by
  rw [placedIds, placed, if_pos h, anchorIds_eq]
  simp only [toAnchor, hid, Option.getD_some, Kind.anchor?, Option.map_some, Option.toList_some,
    List.flatMap_nil, List.append_nil]

/-- Any other node contributes what its children do, unless it is an anchor. -/
theorem placedIds_of_not_isPlaceholder {n : Node} (h : n.isPlaceholder = false)
    (hkind : n.kind.anchor? = none) : n.placedIds = n.children.flatMap placedIds := by
  rw [placedIds, placed, h, if_neg Bool.false_ne_true, placeAnchors_eq, anchorIds_eq]
  simp only [hkind, Option.map_none, Option.toList_none, List.nil_append, List.flatMap_map]
  rfl

/-- A placeholder is a link with nothing to it and no children. -/
theorem isPlaceholder_iff {n : Node} :
    n.isPlaceholder = true ↔
      n.kind = .link "" none ∧ n.children = [] ∧ ∃ id, n.hint = some id ∧ id ≠ "" := by
  unfold isPlaceholder
  split
  · next url hkind =>
      simp only [hkind, Kind.link.injEq, and_true, Bool.and_eq_true, String.isEmpty_iff,
        List.isEmpty_iff, Option.any_eq_true, Bool.not_eq_true', String.isEmpty_eq_false_iff,
        and_assoc, ne_eq]
  · next hother =>
      simp only [Bool.false_eq_true, false_iff, not_and]
      exact fun hkind => absurd hkind (hother "")

/-- A bare link has that kind, and only empty texts as children. -/
theorem isBare_iff {n : Node} :
    n.isBare = true ↔ n.kind = .link "" none ∧ ∀ c ∈ n.children, c.isEmptyText = true := by
  unfold isBare
  split
  · next url hkind =>
      simp only [hkind, Kind.link.injEq, and_true, Bool.and_eq_true, String.isEmpty_iff,
        List.all_eq_true]
  · next hother =>
      simp only [Bool.false_eq_true, false_iff, not_and]
      exact fun hkind => absurd hkind (hother "")

/-- A text contributes nothing when it is a leaf. -/
theorem placedIds_text {n : Node} (htext : n.type = .text) (hleaf : n.children = []) :
    n.placedIds = [] := by
  rcases exists_text_of_type htext with ⟨value, hvalue⟩
  rw [placedIds_of_not_isPlaceholder (by rw [isPlaceholder, hvalue]) (by rw [hvalue]; rfl), hleaf]
  rfl

/-- What contributes nothing may as well go. -/
theorem flatMap_placedIds_filter {cs : List Node}
    (h : ∀ c ∈ cs, c.isEmptyText = true → c.placedIds = []) :
    (cs.filter fun c => !c.isEmptyText).flatMap placedIds = cs.flatMap placedIds := by
  induction cs with
  | nil => rfl
  | cons c cs ih =>
      have ih' := ih fun d hd => h d (List.mem_cons_of_mem c hd)
      rw [List.filter_cons, List.flatMap_cons]
      cases hempty : c.isEmptyText with
      | true =>
          rw [h c List.mem_cons_self hempty, List.nil_append]
          exact ih'
      | false => rw [Bool.not_false, if_pos rfl, List.flatMap_cons, ih']

theorem placeholders_eq (source : List Char) (n : Node) :
    n.placeholders source = placeholdersAll source n.children := by
  cases n
  rw [placeholders]

/-- Every sibling contributes on its own, given the one behind it. -/
theorem placeholdersAll_eq_flatten (source : List Char) (cs : List Node) :
    placeholdersAll source cs = (cs.mapIdx fun i c =>
      if c.isBare then (c.idBehind? source cs[i + 1]?).toList
      else c.placeholders source).flatten := by
  induction cs with
  | nil => rfl
  | cons c rest ih =>
      rw [placeholdersAll, ih, List.mapIdx_cons, List.flatten_cons, List.head?_eq_getElem?]
      rfl

/-- The identifier of a placeholder is written in a block that stands right behind the link. -/
theorem idBehind?_eq_some_iff {source : List Char} {n : Node} (hkind : n.kind = .link "" none)
    (hhint : n.hint = none) {next : Option Node} {id : String} :
    n.idBehind? source next = some id ↔
      ∃ text a block rest, next = some text ∧ text.OpensWith source a block rest ∧
        a.usableId = some id := by
  have htakes : n.kind.takesLeadingBlock = true := by
    rw [hkind]
    rfl
  constructor
  · intro h
    rcases Option.bind_eq_some_iff.mp h with ⟨⟨target, text'⟩, hmove, hid⟩
    rcases Option.bind_eq_some_iff.mp hmove with ⟨text, hnext, hmove⟩
    rcases moveLeading?_eq_some_iff.mp hmove with ⟨-, a, block, rest, hopens, rfl, -⟩
    refine ⟨text, a, block, rest, hnext, hopens, ?_⟩
    rw [attach, hhint] at hid
    exact hid
  · rintro ⟨text, a, block, rest, rfl, hopens, hid⟩
    have hmove : n.moveLeading? source text = some (n.attach a, text.dropLead block rest) :=
      moveLeading?_eq_some_iff.mpr ⟨htakes, a, block, rest, hopens, rfl, rfl⟩
    rw [idBehind?, Option.bind_some, hmove, Option.bind_some, attach, hhint]
    exact hid

end Node

variable {source : List Char}

/-- A resolved node has the kind that it had. -/
theorem Resolution.kind_eq {n n' : Node} {behind : Option Attributes} {k : Nat}
    (h : Resolution source n behind n' k) : n'.kind = n.kind := by
  cases h
  rfl

/-- Nothing but a text becomes an empty text. -/
theorem Resolution.type_of_isEmptyText {n n' : Node} {behind : Option Attributes} {k : Nat}
    (h : Resolution source n behind n' k) (hempty : n'.isEmptyText = true) : n.type = .text := by
  rw [Node.type, ← h.kind_eq]
  exact Resolve.type_of_isEmptyText hempty

section NoTrailing

variable {n n' : Node} {behind : Option Attributes} {k : Nat}
  (h : Resolution source n behind n' k) (hkind : n.kind.takesTrailingBlock = false)
include hkind

/-- An element that takes no block at its end has none there. -/
theorem not_trailsAt (i : Nat) (a : Attributes) (block : List Char) : ¬ TrailsAt source n i a block :=
  fun htrails => Bool.false_ne_true (hkind.symm.trans htrails.1)

include h

/-- So it gets the identifier behind it, if any. -/
theorem Resolution.hint_eq (hhint : n.hint = none) : n'.hint = behind.bind Attributes.usableId := by
  cases h with
  | @intro _ _ own ahead results counts own_iff ahead_iff length_results length_counts texts
      others =>
      have hown : own = none := by
        rw [Option.eq_none_iff_forall_ne_some]
        intro a ha
        rcases (own_iff a).mp ha with ⟨i, block, htrails⟩
        exact not_trailsAt hkind i a block htrails
      simp only [hown, hhint, Option.bind_none, Option.orElse_eq_orElse, Option.orElse_eq_or,
        Option.none_or]

/-- If it is left without children, all of them were empty texts: a text among texts stays as it
    is. -/
theorem Resolution.isEmptyText_of_children (hnil : n'.children = []) :
    ∀ c ∈ n.children, c.isEmptyText = true := by
  cases h with
  | @intro _ _ own ahead results counts own_iff ahead_iff length_results length_counts texts
      others =>
      have hresult : ∀ (i : Nat) (r : Node), results[i]? = some r → r.isEmptyText = true := by
        intro i r hr
        simpa only [Bool.not_eq_true', Bool.not_eq_false] using
          List.filter_eq_nil_iff.mp hnil r (List.mem_of_getElem? hr)
      -- Nothing but a text becomes a text.
      have htype : ∀ (i : Nat) (c : Node), n.children[i]? = some c → c.type = .text := by
        intro i c hc
        by_contra hother
        have hi := (List.getElem?_eq_some_iff.mp hc).1
        rcases exists_getElem? (length_results ▸ hi) with ⟨r, hr⟩
        rcases exists_getElem? (length_counts ▸ hi) with ⟨k, hk⟩
        exact hother ((others i c r k hc hother hr hk).type_of_isEmptyText (hresult i r hr))
      intro c hc
      rcases List.getElem?_of_mem hc with ⟨i, hi⟩
      rcases exists_text_of_type (htype i c hi) with ⟨value, hvalue⟩
      rcases texts i c value hi hvalue with ⟨parts, hparts, hr, -⟩
      -- A block at its start would go to a sibling that is no text.
      have hlead : parts.lead = [] := by
        by_contra hne
        rcases (hparts.lead_iff _).mp ⟨rfl, hne⟩ with ⟨a, j, target, text, rest, -, htarget, -,
          htakes, -⟩
        rcases exists_text_of_type (htype j target htarget) with ⟨value, hvalue⟩
        rw [hvalue] at htakes
        exact Bool.false_ne_true htakes
      have htail : parts.tail = [] := by
        by_contra hne
        rcases (hparts.tail_iff _).mp ⟨rfl, hne⟩ with ⟨a, htrails⟩
        exact not_trailsAt hkind i a _ htrails
      have hkept : value = String.ofList parts.kept := by
        have heq := hparts.value_eq
        rw [hlead, htail, hparts.gap_eq_nil htail, List.nil_append, List.append_nil,
          List.append_nil] at heq
        rw [← heq, String.ofList_toList]
      have hremains := hresult i _ hr
      rw [Node.isEmptyText, hvalue, hkept]
      exact hremains

omit hkind in
/-- Conversely, nothing is left of empty texts. -/
theorem Resolution.children_of_isEmptyText (hempty : ∀ c ∈ n.children, c.isEmptyText = true) :
    n'.children = [] := by
  cases h with
  | @intro _ _ own ahead results counts own_iff ahead_iff length_results length_counts texts
      others =>
      refine List.filter_eq_nil_iff.mpr fun r hr => ?_
      rcases List.getElem?_of_mem hr with ⟨i, hi⟩
      have hlt := length_results ▸ (List.getElem?_eq_some_iff.mp hi).1
      rcases exists_getElem? hlt with ⟨c, hc⟩
      have hc' := hempty c (List.mem_of_getElem? hc)
      rcases exists_text_of_type (Resolve.type_of_isEmptyText hc') with ⟨value, hvalue⟩
      rcases texts i c value hc hvalue with ⟨parts, hparts, hr, -⟩
      rw [Node.isEmptyText, hvalue, String.isEmpty_iff] at hc'
      -- No part of an empty value is kept.
      have hkept : parts.kept = [] := by
        have heq := hparts.value_eq
        rw [hc'] at heq
        exact (List.append_eq_nil_iff.mp (List.append_eq_nil_iff.mp
          (List.append_eq_nil_iff.mp heq.symm).2).1).1
      rw [hi, Option.some.injEq] at hr
      rw [hr, TextParts.remains, Node.isEmptyText, hkept]
      exact Bool.noConfusion

end NoTrailing

/-- A link without destination and title takes no block at its end. -/
theorem takesTrailingBlock_of_bare {n : Node} (hkind : n.kind = .link "" none) :
    n.kind.takesTrailingBlock = false := by
  rw [hkind]
  rfl

/-- The identifier that a bare link gets is the one behind it. -/
theorem Resolution.idBehind?_eq {n n' : Node} {behind : Option Attributes} {k : Nat}
    (h : Resolution source n behind n' k) (hkind : n.kind = .link "" none) (hhint : n.hint = none)
    {next : Option Node} (hbehind : ∀ a, behind = some a ↔ ∃ text block rest, next = some text ∧
      n.kind.takesLeadingBlock = true ∧ text.OpensWith source a block rest) :
    n.idBehind? source next = n'.hint := by
  refine Option.ext fun id => ?_
  rw [Node.idBehind?_eq_some_iff hkind hhint, h.hint_eq (takesTrailingBlock_of_bare hkind) hhint,
    Option.bind_eq_some_iff]
  constructor
  · rintro ⟨text, a, block, rest, hnext, hopens, hid⟩
    have htakes : n.kind.takesLeadingBlock = true := by
      rw [hkind]
      rfl
    exact ⟨a, (hbehind a).mpr ⟨text, block, rest, hnext, htakes, hopens⟩, hid⟩
  · rintro ⟨a, ha, hid⟩
    rcases (hbehind a).mp ha with ⟨text, block, rest, hnext, -, hopens⟩
    exact ⟨text, a, block, rest, hnext, hopens, hid⟩

/-- A bare link contributes the identifier behind it. Nothing is left in the link, and the
    identifier becomes its own. -/
theorem Resolution.placedIds_bare {n n' : Node} {behind : Option Attributes} {k : Nat}
    (h : Resolution source n behind n' k) (hfresh : n.IsFresh) (hbare : n.isBare = true)
    {next : Option Node} (hbehind : ∀ a, behind = some a ↔ ∃ text block rest, next = some text ∧
      n.kind.takesLeadingBlock = true ∧ text.OpensWith source a block rest) :
    n'.placedIds = (n.idBehind? source next).toList := by
  rcases Node.isFresh_iff.mp hfresh with ⟨hanchor, hhint, -, -⟩
  rcases Node.isBare_iff.mp hbare with ⟨hkind, hempty⟩
  have hanchor' : n'.kind.anchor? = none := h.kind_eq ▸ hanchor
  have hnil : n'.children = [] := h.children_of_isEmptyText hempty
  rw [h.idBehind?_eq hkind hhint hbehind]
  cases hsome : n'.hint with
  | none =>
      have hno : n'.isPlaceholder = false := by
        rw [Bool.eq_false_iff, ne_eq, Node.isPlaceholder_iff, hsome]
        rintro ⟨-, -, id, hid, -⟩
        exact Option.some_ne_none id hid.symm
      rw [Node.placedIds_of_not_isPlaceholder hno hanchor', hnil]
      rfl
  | some id =>
      -- An identifier that can be used is not empty.
      have hne : id ≠ "" := by
        rintro rfl
        rw [h.hint_eq (takesTrailingBlock_of_bare hkind) hhint] at hsome
        rcases Option.bind_eq_some_iff.mp hsome with ⟨a, -, hid⟩
        exact (usableId_eq_some_iff.mp hid).2 rfl
      exact Node.placedIds_of_isPlaceholder
        (Node.isPlaceholder_iff.mpr ⟨h.kind_eq.trans hkind, hnil, id, hsome, hne⟩) hsome

/-- No other node becomes a placeholder: it would have been a bare link before. So it contributes
    what is below it. -/
theorem Resolution.placedIds_of_not_bare {n n' : Node} {behind : Option Attributes} {k : Nat}
    (h : Resolution source n behind n' k) (hfresh : n.IsFresh) (hbare : n.isBare ≠ true) :
    n'.placedIds = n'.children.flatMap Node.placedIds := by
  have hanchor : n'.kind.anchor? = none := h.kind_eq ▸ (Node.isFresh_iff.mp hfresh).1
  have hno : n'.isPlaceholder = false := by
    rw [Bool.eq_false_iff, ne_eq, Node.isPlaceholder_iff]
    rintro ⟨hkind, hnil, -⟩
    rw [h.kind_eq] at hkind
    have hempty := h.isEmptyText_of_children (takesTrailingBlock_of_bare hkind) hnil
    exact hbare (Node.isBare_iff.mpr ⟨hkind, hempty⟩)
  exact Node.placedIds_of_not_isPlaceholder hno hanchor

/-- What a resolved node contributes, when so much is known of what is below it. -/
theorem Resolution.placedIds_eq {n n' : Node} {behind : Option Attributes} {k : Nat}
    (h : Resolution source n behind n' k) (hfresh : n.IsFresh)
    (hbelow : n'.children.flatMap Node.placedIds = Node.placeholdersAll source n.children)
    {next : Option Node} (hbehind : ∀ a, behind = some a ↔ ∃ text block rest, next = some text ∧
      n.kind.takesLeadingBlock = true ∧ text.OpensWith source a block rest) :
    n'.placedIds =
      if n.isBare then (n.idBehind? source next).toList else n.placeholders source := by
  by_cases hbare : n.isBare = true
  · rw [if_pos hbare, h.placedIds_bare hfresh hbare hbehind]
  · rw [if_neg hbare, h.placedIds_of_not_bare hfresh hbare, hbelow, Node.placeholders_eq]

/-- A text contributes nothing. -/
theorem placeholders_text {c : Node} {next : Option Node} (htext : c.type = .text)
    (hleaf : c.children = []) :
    (if c.isBare then (c.idBehind? source next).toList else c.placeholders source) = [] := by
  have hbare : c.isBare = false := by
    rcases exists_text_of_type htext with ⟨value, hvalue⟩
    rw [Node.isBare, hvalue]
  rw [hbare, if_neg Bool.false_ne_true, Node.placeholders_eq, hleaf]
  rfl

/-- What the resolved children contribute is what was there before. The induction is on the
    description of the resolved tree; a child is either a text, which contributes nothing, or the
    result of resolving it. -/
theorem Resolution.placedIds_children {n n' : Node} {behind : Option Attributes} {k : Nat}
    (h : Resolution source n behind n' k) (hfresh : n.IsFresh) :
    n'.children.flatMap Node.placedIds = Node.placeholdersAll source n.children := by
  induction h with
  | @intro n behind own ahead results counts own_iff ahead_iff length_results length_counts texts
      others ih =>
      have hchildren := (Node.isFresh_iff.mp hfresh).2.2.2
      have htexts : ∀ (i : Nat) (c : Node), n.children[i]? = some c → c.type = .text →
          c.children = [] ∧ ∃ r, results[i]? = some r ∧ r.placedIds = [] := by
        intro i c hc htext
        have hleaf := (Node.isFresh_iff.mp (hchildren c (List.mem_of_getElem? hc))).2.2.1 htext
        rcases exists_text_of_type htext with ⟨value, hvalue⟩
        rcases texts i c value hc hvalue with ⟨parts, -, hr, -⟩
        exact ⟨hleaf, _, hr, Node.placedIds_text rfl hleaf⟩
      -- Child by child both sides are the same, vanishing texts included.
      have hresults : results.map Node.placedIds = n.children.mapIdx fun i c =>
          if c.isBare then (c.idBehind? source n.children[i + 1]?).toList
          else c.placeholders source := by
        refine List.ext_getElem? fun i => ?_
        rw [List.getElem?_map, List.getElem?_mapIdx]
        by_cases hi : i < n.children.length
        · have hc := List.getElem?_eq_getElem hi
          generalize n.children[i] = c at hc
          rw [hc, Option.map_some]
          by_cases htext : c.type = .text
          · rcases htexts i c hc htext with ⟨hleaf, r, hr, hnothing⟩
            rw [hr, Option.map_some, hnothing, placeholders_text htext hleaf]
          · rcases exists_getElem? (length_results ▸ hi) with ⟨r, hr⟩
            rcases exists_getElem? (length_counts ▸ hi) with ⟨k, hk⟩
            have hfresh := hchildren c (List.mem_of_getElem? hc)
            rw [hr, Option.map_some]
            exact congrArg some ((others i c r k hc htext hr hk).placedIds_eq hfresh
              (ih i c r k hc htext hr hk hfresh) fun a =>
                (ahead_iff i a).trans (Resolve.exists_leadsAt_iff hc a))
        · have hi' : results.length ≤ i := length_results ▸ Nat.le_of_not_lt hi
          rw [List.getElem?_eq_none hi', List.getElem?_eq_none (Nat.le_of_not_lt hi)]
          rfl
      -- An empty text comes from a text, because no other node becomes one.
      have hgone : ∀ r ∈ results, r.isEmptyText = true → r.placedIds = [] := by
        intro r hr hempty
        rcases List.getElem?_of_mem hr with ⟨i, hr⟩
        have hi := length_results ▸ (List.getElem?_eq_some_iff.mp hr).1
        rcases exists_getElem? hi with ⟨c, hc⟩
        rcases exists_getElem? (length_counts ▸ hi) with ⟨k, hk⟩
        by_cases htext : c.type = .text
        · rcases htexts i c hc htext with ⟨-, r', hr', hnothing⟩
          rw [hr, Option.some.injEq] at hr'
          exact hr' ▸ hnothing
        · exact absurd ((others i c r k hc htext hr hk).type_of_isEmptyText hempty) htext
      calc (results.filter fun r => !r.isEmptyText).flatMap Node.placedIds
        _ = results.flatMap Node.placedIds := Node.flatMap_placedIds_filter hgone
        _ = (results.map Node.placedIds).flatten := List.flatMap_def
        _ = Node.placeholdersAll source n.children := by
          rw [hresults, Node.placeholdersAll_eq_flatten]

namespace Node

/-- The anchors of a processed tree are the placeholders of the tree that was read, in document
    order. -/
theorem anchorIds_placeAnchors {n : Node} (h : n.IsFresh) (source : String) :
    (n.resolve source).1.placeAnchors.1.anchorIds = n.placeholders source.toList := by
  have hresolution := resolution_node source.toList n h.2 none
  have hkind := (isFresh_iff.mp h).1
  rw [placeAnchors_eq, anchorIds_eq, placeholders_eq]
  rw [← hresolution.placedIds_children h]
  simp only [resolve, Resolve.node_kind, hkind, Option.map_none, Option.toList_none,
    List.nil_append, List.flatMap_map]
  rfl

end Node

end Anchormark
