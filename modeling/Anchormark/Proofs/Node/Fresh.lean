import Anchormark.Proofs.Node.Feeding
import Anchormark.Proofs.Node.Walk

/-!
# Trees Fresh from the Builder

A tree fresh from the builder has no anchors and no identifiers: no tag opens an anchor, and the
builder attaches no identifier to anything. Both come in later, identifiers by resolving blocks
and anchors by placing them. Its texts are leaves, because no tag opens a text either.

The invariant is on the frames. A frame has not become a node yet, so what is asked of it is that
its kind is neither an anchor nor a text and that its finished children are fresh. Content of a
tight item goes into the last child, so there a flag on the frame has to tell the truth: the last
child is a paragraph.

## Main definitions

* `Node.IsPlain`: neither an anchor nor an identifier anywhere in a tree.
* `Node.IsFresh`: a plain tree whose texts are leaves.
* `Frame.IsFresh`: the same of what is not finished yet.

## Theorems

* `Node.isFresh_iff`: A tree is fresh if its root and its children are.
* `Frame.isFresh_edit`, `Frame.isFresh_toNode`: Frames stay fresh and become fresh nodes.
* `Builder.invariant_isFresh`: So everything is fresh throughout a run.
* `isFresh_ofEvents`: The tree of any stream is fresh.
-/

namespace Anchormark

namespace Node

/-- Neither an anchor nor an identifier anywhere in the tree. -/
def IsPlain (n : Node) : Prop :=
  ∀ m ∈ n.walk, m.kind.anchor? = none ∧ m.hint = none

/-- A plain tree whose texts are leaves. -/
def IsFresh (n : Node) : Prop :=
  n.IsPlain ∧ n.TextsAreLeaves

/-- A tree is fresh if its root and its children are. -/
theorem isFresh_iff {n : Node} :
    n.IsFresh ↔ n.kind.anchor? = none ∧ n.hint = none ∧ (n.type = .text → n.children = []) ∧
      ∀ c ∈ n.children, c.IsFresh := by
  constructor
  · rintro ⟨hplain, hleaf⟩
    have hroot := hplain n (mem_walk_self n)
    exact ⟨hroot.1, hroot.2, hleaf n (mem_walk_self n), fun c hc =>
      ⟨fun m hm => hplain m (mem_walk_of_child hc hm),
        fun m hm => hleaf m (mem_walk_of_child hc hm)⟩⟩
  · rintro ⟨hkind, hhint, hleaf, hchildren⟩
    refine ⟨fun m hm => ?_, fun m hm => ?_⟩
    · rcases mem_walk_iff.mp hm with rfl | ⟨c, hc, hm⟩
      · exact ⟨hkind, hhint⟩
      · exact (hchildren c hc).1 m hm
    · rcases mem_walk_iff.mp hm with rfl | ⟨c, hc, hm⟩
      · exact hleaf
      · exact (hchildren c hc).2 m hm

/-- A node without children is fresh if its kind is no anchor. -/
theorem isFresh_leaf {kind : Kind} (h : kind.anchor? = none) (span : Option Span) :
    IsFresh { kind, span } :=
  isFresh_iff.mpr ⟨h, rfl, fun _ => rfl, fun _ hc => absurd hc List.not_mem_nil⟩

/-- A node that is neither an anchor nor a text is fresh if its children are. -/
theorem isFresh_of_type {n : Node} (hanchor : n.kind.anchor? = none) (htext : n.type ≠ .text)
    (hhint : n.hint = none) (hchildren : ∀ c ∈ n.children, c.IsFresh) : n.IsFresh :=
  isFresh_iff.mpr ⟨hanchor, hhint, fun ht => absurd ht htext, hchildren⟩

/-- Two fresh texts make a fresh text. -/
theorem isFresh_mergeText? {last n merged : Node} (hlast : last.IsFresh)
    (h : last.mergeText? n = some merged) : merged.IsFresh := by
  have htext := (types_of_mergeText? h).1
  rcases mergeText?_eq_some h with ⟨value, incoming, span, -, -, rfl⟩
  rcases isFresh_iff.mp hlast with ⟨-, hhint, hleaf, hchildren⟩
  exact isFresh_iff.mpr ⟨rfl, hhint, fun _ => hleaf htext, hchildren⟩

end Node

/-- Appending a fresh node to fresh siblings gives fresh siblings. -/
theorem isFresh_appendMerged {cs : List Node} {n : Node} (hcs : ∀ c ∈ cs, c.IsFresh)
    (hn : n.IsFresh) : ∀ c ∈ appendMerged cs n, c.IsFresh :=
  forall_mem_appendMerged (fun _ _ h hlast => Node.isFresh_mergeText? hlast h) hcs hn

namespace Frame

/-- The frame is neither an anchor nor a text, its finished children are fresh, and a tight item
    ends with the paragraph that it says it ends with. -/
structure IsFresh (f : Frame) : Prop where
  anchor : f.kind.anchor? = none
  text : f.kind.type ≠ .text
  children : ∀ c ∈ f.children, c.IsFresh
  tight : f.tightParagraph = true → f.isItem = true ∧
    ∃ front paragraph, f.children = front ++ [paragraph] ∧ paragraph.kind = .paragraph

/-- A frame that is just open is fresh if its kind is neither an anchor nor a text. -/
theorem isFresh_of_kind {f : Frame} (hanchor : f.kind.anchor? = none) (htext : f.kind.type ≠ .text)
    (hchildren : f.children = []) (htight : f.tightParagraph = false) : f.IsFresh :=
  ⟨hanchor, htext, fun _ hc => absurd (hchildren ▸ hc) List.not_mem_nil,
    fun h => absurd (htight.symm.trans h) Bool.false_ne_true⟩

/-- Changing the kind of a fresh frame that is no item keeps it fresh. -/
theorem isFresh_withKind {f : Frame} (h : f.IsFresh) (hitem : f.isItem = false) {kind : Kind}
    (hanchor : kind.anchor? = none) (htext : kind.type ≠ .text) :
    IsFresh { f with kind } :=
  ⟨hanchor, htext, h.children,
    fun ht => absurd (hitem.symm.trans (h.tight ht).1) Bool.false_ne_true⟩

/-- A fresh frame becomes a fresh node. -/
theorem isFresh_toNode {f : Frame} (h : f.IsFresh) : f.toNode.IsFresh := by
  unfold toNode
  split
  · exact Node.isFresh_leaf rfl _
  · exact Node.isFresh_of_type rfl (fun ht => NodeType.noConfusion ht) rfl h.children
  · exact Node.isFresh_of_type rfl (fun ht => NodeType.noConfusion ht) rfl h.children
  · exact Node.isFresh_of_type h.anchor h.text rfl h.children

/-- A fresh frame stays fresh when a fresh node is appended. -/
theorem isFresh_append {f : Frame} (h : f.IsFresh) {n : Node} (hn : n.IsFresh) (inline : Bool) :
    (f.append n inline).IsFresh := by
  have happended := appended (fun ht => (h.tight ht).2) n inline
  generalize f.append n inline = g at happended ⊢
  cases happended with
  | among hcond =>
      refine ⟨h.anchor, h.text, isFresh_appendMerged h.children hn, fun ht => ?_⟩
      -- Inline content of an item went the other way.
      rw [Bool.and_eq_true] at ht
      rw [ht.2, (h.tight ht.1).1] at hcond
      exact Bool.noConfusion hcond
  | wrapped hinline hitem =>
      refine ⟨h.anchor, h.text, ?_, fun _ => ⟨hitem, f.children, _, rfl, rfl⟩⟩
      rw [List.forall_mem_append, List.forall_mem_singleton]
      refine ⟨h.children, Node.isFresh_of_type rfl (fun ht => NodeType.noConfusion ht) rfl ?_⟩
      rw [List.forall_mem_singleton]
      exact hn
  | @grown front paragraph span hinline hitem htight hchildren hkind =>
      -- The last child is a paragraph, so it may have children.
      have hfresh := h.children
      rw [hchildren, List.forall_mem_append, List.forall_mem_singleton] at hfresh
      rcases Node.isFresh_iff.mp hfresh.2 with ⟨hanchor, hhint, -, hinner⟩
      have htext : paragraph.type ≠ .text := by
        rw [Node.type, hkind]
        exact fun ht => NodeType.noConfusion ht
      refine ⟨h.anchor, h.text, ?_, fun _ => ⟨hitem, front, _, rfl, hkind⟩⟩
      rw [List.forall_mem_append, List.forall_mem_singleton]
      exact ⟨hfresh.1,
        Node.isFresh_of_type hanchor htext hhint (isFresh_appendMerged hinner hn)⟩

/-- A fresh frame stays fresh while it is open. -/
theorem isFresh_edit {f g : Frame} (h : f.IsFresh) (hedit : f.Edit (fun n _ => n.IsFresh) g) :
    g.IsFresh := by
  cases hedit with
  | append hn => exact isFresh_append h hn _
  | paragraph _ =>
      exact ⟨rfl, fun ht => NodeType.noConfusion ht, h.children, fun ht => Bool.noConfusion ht⟩
  | task _ _ =>
      exact ⟨rfl, fun ht => NodeType.noConfusion ht, h.children, fun ht => ⟨rfl, (h.tight ht).2⟩⟩
  | code hkind | html hkind =>
      exact isFresh_withKind h (by rw [isItem, hkind]) rfl fun ht => NodeType.noConfusion ht

end Frame

/-- Everything is fresh throughout a run: no tag opens an anchor or a text, and a fresh frame hands
    on fresh nodes. -/
theorem Builder.invariant_isFresh : Invariant Frame.IsFresh fun n _ => n.IsFresh where
  root _ := Frame.isFresh_of_kind rfl (fun ht => NodeType.noConfusion ht) rfl rfl
  frameOf b tag span := by
    cases tag <;> exact Frame.isFresh_of_kind rfl (fun ht => NodeType.noConfusion ht) rfl rfl
  leaf span hleaf := by
    cases hleaf <;> exact Node.isFresh_leaf rfl span
  edit := Frame.isFresh_edit
  closed hf _ := Frame.isFresh_toNode hf
  dissolved hf _ := hf.children

/-- The tree of any stream is fresh. -/
theorem isFresh_ofEvents (source : String) (events : List (Event × Span)) :
    (Node.ofEvents source events).IsFresh := by
  rcases Builder.invariant_isFresh.ofEvents source events with ⟨f, hf, -, heq⟩
  rw [heq]
  exact Frame.isFresh_toNode hf

end Anchormark
