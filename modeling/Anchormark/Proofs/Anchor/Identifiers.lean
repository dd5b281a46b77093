import Anchormark.Node.Anchoring
import Anchormark.Proofs.Attribute.Siblings
import Anchormark.Proofs.Node.Fresh

/-!
# Identifiers of Anchors

An anchor is written between braces and behind a number sign, so its identifier must hold nothing
that would end it there. Anchors get their identifiers from placeholders, placeholders from
attribute blocks, and blocks from the scanner, which only lets words through.

`Node.Hinted` is the invariant on the way. Resolving changes a node in three ways only: an
identifier of a block is attached, a text becomes another text, and children go. All three keep
the invariant, so it is not needed to know what is resolved where.

## Main definitions

* `IsAnchorId`: a word that is not blank.
* `Node.Hinted`: no anchors yet, and every identifier is one for an anchor.
* `Node.Anchored`: every anchor is childless, without value, and has such an identifier.

## Theorems

* `isAnchorId_of_usableId`: What a block declares can be written.
* `Node.hinted_resolve`: Resolving keeps the invariant.
* `Node.placeAnchors_eq`: Placing anchors goes over the children.
* `Node.anchored_placeAnchors`: Placing anchors puts such anchors only.
-/

namespace Anchormark

/-- The identifier can stand in a block: it is a word, and not blank. -/
def IsAnchorId (id : String) : Prop :=
  Text.trim id.toList ≠ [] ∧ AttributeBlock.IsWord id.toList

instance (id : String) : Decidable (IsAnchorId id) :=
  inferInstanceAs (Decidable (_ ∧ _))

/-- A word is a usable identifier when it is not blank. -/
theorem usableId_eq_some_iff {a : Attributes} {id : String} :
    a.usableId = some id ↔ a.id = some id ∧ Text.trim id.toList ≠ [] := by
  rw [Attributes.usableId, Option.filter_eq_some_iff, Bool.not_eq_true', List.isEmpty_eq_false_iff]

/-- What a block declares can be written in a block. -/
theorem isAnchorId_of_usableId {a : Attributes} (ha : a.Worded) {id : String}
    (h : a.usableId = some id) : IsAnchorId id := by
  rcases usableId_eq_some_iff.mp h with ⟨hid, htrim⟩
  exact ⟨htrim, ha id hid⟩

namespace Node

/-- There are no anchors in the tree, and every identifier is one for an anchor. -/
def Hinted (n : Node) : Prop :=
  ∀ m ∈ n.walk, m.kind.anchor? = none ∧ ∀ id, m.hint = some id → IsAnchorId id

/-- Every anchor of the tree is childless, without value, and has an identifier for an anchor. -/
def Anchored (n : Node) : Prop :=
  ∀ m ∈ n.walk, ∀ a, m.kind = .anchor a → m.children = [] ∧ a.value = "" ∧ IsAnchorId a.id

/-- A tree is hinted if its root and its children are. -/
theorem hinted_iff {n : Node} :
    n.Hinted ↔ (n.kind.anchor? = none ∧ ∀ id, n.hint = some id → IsAnchorId id) ∧
      ∀ c ∈ n.children, c.Hinted := by
  constructor
  · intro h
    exact ⟨h n (mem_walk_self n), fun c hc m hm => h m (mem_walk_of_child hc hm)⟩
  · rintro ⟨hroot, hchildren⟩ m hm
    rcases mem_walk_iff.mp hm with rfl | ⟨c, hc, hm⟩
    · exact hroot
    · exact hchildren c hc m hm

/-- A plain tree has no identifiers, so all that it has are fine. -/
theorem hinted_of_isPlain {n : Node} (h : n.IsPlain) : n.Hinted := by
  intro m hm
  rcases h m hm with ⟨hkind, hhint⟩
  refine ⟨hkind, fun id hid => ?_⟩
  rw [hhint] at hid
  exact absurd hid.symm (Option.some_ne_none id)

/-- The identifier of a node to which a block is attached is its own or that of the block. -/
theorem isAnchorId_attach {n : Node} (h : ∀ id, n.hint = some id → IsAnchorId id)
    {a : Attributes} (ha : a.Worded) : ∀ id, (n.attach a).hint = some id → IsAnchorId id := by
  intro id hid
  simp only [attach, Option.orElse_eq_orElse, Option.orElse_eq_or, Option.or_eq_some_iff] at hid
  rcases hid with hid | ⟨-, hid⟩
  · exact h id hid
  · exact isAnchorId_of_usableId ha hid

/-- Attaching what a block declares keeps a tree hinted. -/
theorem hinted_attach {n : Node} (h : n.Hinted) {a : Attributes} (ha : a.Worded) :
    (n.attach a).Hinted := by
  rcases hinted_iff.mp h with ⟨⟨hkind, hhint⟩, hchildren⟩
  exact hinted_iff.mpr ⟨⟨hkind, isAnchorId_attach hhint ha⟩, hchildren⟩

/-- A text in place of a node, with the same children and identifier, keeps a tree hinted. -/
theorem hinted_text {n : Node} (h : n.Hinted) (value : String) (span : Option Span) :
    Hinted { n with kind := .text value, span } := by
  rcases hinted_iff.mp h with ⟨⟨-, hhint⟩, hchildren⟩
  exact hinted_iff.mpr ⟨⟨rfl, hhint⟩, hchildren⟩

/-- Moving a block keeps both nodes hinted. -/
theorem hinted_moveLeading? {source : List Char} {target next target' next' : Node}
    (htarget : target.Hinted) (hnext : next.Hinted)
    (h : target.moveLeading? source next = some (target', next')) :
    target'.Hinted ∧ next'.Hinted := by
  rcases moveLeading?_eq_some_iff.mp h with ⟨-, a, block, rest, hopens, rfl, rfl⟩
  exact ⟨hinted_attach htarget (AttributeBlock.worded_of_leading? hopens.read),
    hinted_text hnext _ _⟩

/-- Cutting a block keeps the text hinted, and the block can be attached. -/
theorem hinted_cutTrailing? {source : List Char} {last last' : Node} {a : Attributes}
    (hlast : last.Hinted) (h : last.cutTrailing? source = some (last', a)) :
    last'.Hinted ∧ a.Worded := by
  rcases cutTrailing?_eq_some_iff.mp h with ⟨front, block, hcloses, rfl⟩
  rcases AttributeBlock.trailing?_eq_some hcloses.read with ⟨tail, -, -, hread⟩
  exact ⟨hinted_text hlast _ _, AttributeBlock.worded_of_leading? hread⟩

end Node

namespace Resolve

variable {source : List Char}

/-- The leading pass keeps siblings hinted. -/
theorem hinted_settle {before : Option Node} {rs : List Resolved}
    (hbefore : ∀ b ∈ before, b.Hinted) (hrs : ∀ r ∈ rs, r.1.Hinted) :
    ∀ r ∈ settle source before rs, r.1.Hinted := by
  induction rs generalizing before with
  | nil =>
      intro r hr
      exact absurd hr List.not_mem_nil
  | cons first rest ih =>
      have hfirst : first.1.Hinted := hrs first List.mem_cons_self
      have hrest : ∀ r ∈ rest, r.1.Hinted := fun r hr => hrs r (List.mem_cons_of_mem first hr)
      intro r hr
      rw [settle] at hr
      rcases List.mem_cons.mp hr with rfl | hr
      · -- Two blocks may move here, one off the sibling and one to it.
        have hopened : (opened source before first.1).Hinted := by
          rw [opened]
          cases hmove : before.bind (·.moveLeading? source first.1) with
          | none => exact hfirst
          | some moved =>
              rcases Option.bind_eq_some_iff.mp hmove with ⟨b, hb, hmove⟩
              exact (Node.hinted_moveLeading? (hbefore b hb) hfirst hmove).2
        simp only [marked]
        cases hmove : (rest.head?.map Prod.fst).bind
            ((opened source before first.1).moveLeading? source) with
        | none => exact hopened
        | some moved =>
            rcases Option.bind_eq_some_iff.mp hmove with ⟨next, hnext, hmove⟩
            rcases Option.map_eq_some_iff.mp hnext with ⟨r, hr, rfl⟩
            exact (Node.hinted_moveLeading? hopened (hrest r (List.mem_of_head? hr)) hmove).1
      · refine ih (fun b hb => ?_) hrest r hr
        rw [Option.mem_some] at hb
        exact hb ▸ hfirst

/-- An element over hinted children is hinted. -/
theorem hinted_assemble {n : Node} (hkind : n.kind.anchor? = none)
    (hhint : ∀ id, n.hint = some id → IsAnchorId id) {rs : List Resolved}
    (hrs : ∀ r ∈ rs, r.1.Hinted) : (assemble source n rs).1.Hinted := by
  have hsurvive : ∀ r ∈ survivors source rs, r.1.Hinted := fun r hr =>
    hinted_settle (fun b hb => absurd hb (Option.not_mem_none b)) hrs r (List.mem_of_mem_filter hr)
  rw [assemble_eq]
  split
  · next children a hcut =>
      -- The last sibling loses a block, and the element gets it.
      split at hcut
      · rcases trailing?_eq_some_iff.mp hcut with ⟨front, last, inside, text, heq, hlast, rfl⟩
        rw [heq] at hsurvive
        have hmem : (last, inside) ∈ front ++ [(last, inside)] :=
          List.mem_append_right front List.mem_cons_self
        rcases Node.hinted_cutTrailing? (hsurvive _ hmem) hlast with ⟨htext, ha⟩
        refine Node.hinted_iff.mpr ⟨⟨hkind, Node.isAnchorId_attach hhint ha⟩, fun c hc => ?_⟩
        rcases List.mem_map.mp hc with ⟨r, hr, rfl⟩
        rcases List.mem_append.mp hr with hr | hr
        · exact hsurvive r (List.mem_append_left _ hr)
        · split at hr
          · exact absurd hr List.not_mem_nil
          · rw [List.mem_singleton.mp hr]
            exact htext
      · simp only [reduceCtorEq] at hcut
  · refine Node.hinted_iff.mpr ⟨⟨hkind, hhint⟩, fun c hc => ?_⟩
    rcases List.mem_map.mp hc with ⟨r, hr, rfl⟩
    exact hsurvive r hr

/-- Resolving keeps a tree hinted. -/
theorem hinted_node {n : Node} (h : n.Hinted) : (node source n).1.Hinted := by
  induction n using Node.induct with
  | h n ih =>
      rcases Node.hinted_iff.mp h with ⟨⟨hkind, hhint⟩, hchildren⟩
      have hrs : ∀ r ∈ n.children.map (node source), r.1.Hinted := by
        intro r hr
        rcases List.mem_map.mp hr with ⟨c, hc, rfl⟩
        exact ih c hc (hchildren c hc)
      rw [node_eq_assemble]
      exact hinted_assemble (n := { n with children := [] }) hkind hhint hrs

end Resolve

namespace Node

/-- Resolving keeps a tree hinted. -/
theorem hinted_resolve {n : Node} (h : n.Hinted) (source : String) :
    (n.resolve source).1.Hinted :=
  Resolve.hinted_node h

/-- A placeholder has an identifier. -/
theorem exists_hint_of_isPlaceholder {n : Node} (h : n.isPlaceholder = true) :
    ∃ id, n.hint = some id := by
  unfold isPlaceholder at h
  split at h
  · rw [Bool.and_eq_true, Option.any_eq_true] at h
    rcases h.2 with ⟨id, hid, -⟩
    exact ⟨id, hid⟩
  · exact absurd h Bool.false_ne_true

/-- What becomes of a node below the root when anchors are placed. -/
def placed (n : Node) : Node :=
  if n.isPlaceholder then n.toAnchor else n.placeAnchors.1

/-- Placing anchors goes over the children and keeps everything else of the root. -/
theorem placeAnchors_eq (n : Node) :
    n.placeAnchors.1 = { n with children := n.children.map placed } := by
  have hall : ∀ cs : List Node, (placeAnchorsAll cs).1 = cs.map placed := by
    intro cs
    induction cs with
    | nil => rfl
    | cons c cs ih =>
        simp only [placeAnchorsAll, List.map_cons, placed, ih]
        by_cases hc : c.isPlaceholder
        · simp only [if_pos hc]
        · simp only [if_neg hc]
  cases n
  simp only [placeAnchors, hall]

/-- Placing anchors in a hinted tree puts writable anchors only. The induction is on the tree: a
    placeholder is replaced with all that is below it, and any other node keeps its kind. -/
theorem anchored_placeAnchors {n : Node} (h : n.Hinted) : n.placeAnchors.1.Anchored := by
  induction n using induct with
  | h n ih =>
      rcases hinted_iff.mp h with ⟨⟨hkind, -⟩, hchildren⟩
      intro m hm a ha
      rw [placeAnchors_eq] at hm
      rcases mem_walk_iff.mp hm with rfl | ⟨c, hc, hm⟩
      · -- The root is not replaced, and was no anchor before.
        rw [show n.kind = .anchor a from ha] at hkind
        exact absurd hkind (Option.some_ne_none a)
      · rcases List.mem_map.mp hc with ⟨d, hd, rfl⟩
        rw [placed] at hm
        split at hm
        · next hplaceholder =>
            -- The anchor is all that is left of the placeholder.
            rcases mem_walk_iff.mp hm with rfl | ⟨e, he, -⟩
            · rcases exists_hint_of_isPlaceholder hplaceholder with ⟨id, hid⟩
              rw [toAnchor, Kind.anchor.injEq] at ha
              subst ha
              refine ⟨rfl, rfl, ?_⟩
              rw [hid, Option.getD_some]
              exact ((hinted_iff.mp (hchildren d hd)).1.2 id hid)
            · exact absurd he List.not_mem_nil
        · exact ih d hd (hchildren d hd) m hm a ha

end Node

end Anchormark
