import Anchormark.Proofs.Node.Fresh
import Mathlib.Data.List.Chain

/-!
# The Shape of a Built Tree

Three rules hold in every tree that comes out of a builder. No two neighbours are texts, because a
text joins the text before it. An image has no children, because closing it turns them into its
description. And no child of a list item stands in running text, because such content is put into
a paragraph. They hold however badly the stream is formed, so they have to survive every route
into a tree: nodes appended directly, content wrapped for a tight item, children of an element
that dissolves, and whatever is still open at the end.

The third rule is why a frame has to know what it will be. A node of running text must come with
the flag that says so, or an item would take it for a block. Frames carry that flag from the tag
that opened them, and children of an element that dissolves get it from their kinds.

Only the types of neighbours matter for the first rule. That is what lets it survive rewriting:
taking texts away never makes two texts neighbours, since there is something else between any two.

## Main definitions

* `Node.Apart`, `TextsApart`: no two neighbours are texts.
* `Node.Fits`: the three rules for one node and its children.
* `Node.IsShaped`: the three rules throughout a tree.
* `Frame.IsShaped`: the same of what is not finished yet.

## Theorems

* `textsApart_appendMerged`: Appending keeps texts apart.
* `textsApart_filter`: So does taking texts away.
* `Frame.isShaped_edit`, `Frame.isShaped_toNode`: Frames stay in shape and become shaped nodes.
* `Builder.invariant_isShaped`: So everything is in shape throughout a run.
* `isShaped_ofEvents`: The tree of any stream is in shape.
-/

namespace Anchormark

namespace Node

/-- The nodes are not both texts. -/
def Apart (a b : Node) : Prop :=
  ¬ (a.type = .text ∧ b.type = .text)

instance (a b : Node) : Decidable (Apart a b) :=
  inferInstanceAs (Decidable (¬ _))

/-- Whether a node stands in running text can be told from its type. -/
theorem isInline_congr {a b : Node} (h : a.type = b.type) : a.kind.isInline = b.kind.isInline := by
  unfold type at h
  cases ha : a.kind <;> cases hb : b.kind <;> rw [ha, hb] at h <;> first | rfl | cases h

end Node

/-- No two neighbours among the siblings are texts. -/
def TextsApart (cs : List Node) : Prop :=
  cs.IsChain Node.Apart

instance (cs : List Node) : Decidable (TextsApart cs) :=
  inferInstanceAs (Decidable (cs.IsChain Node.Apart))

/-- Only the types of the siblings matter. -/
theorem textsApart_congr {cs ds : List Node} (h : cs.map Node.type = ds.map Node.type) :
    TextsApart cs ↔ TextsApart ds := by
  have hmap (es : List Node) : TextsApart es ↔
      (es.map Node.type).IsChain fun s t => ¬ (s = .text ∧ t = .text) := by
    rw [List.isChain_map]
    exact Iff.rfl
  rw [hmap, hmap, h]

/-- Appending keeps texts apart: next to a text, a text joins it. -/
theorem textsApart_appendMerged {cs : List Node} (h : TextsApart cs) (n : Node) :
    TextsApart (appendMerged cs n) := by
  rcases appendMerged_cases cs n with ⟨heq, hnone⟩ | ⟨front, last, merged, rfl, hmerge, heq⟩
  · rw [heq]
    refine List.isChain_append.mpr ⟨h, List.isChain_singleton n, fun last hlast m hm => ?_⟩
    rw [List.head?_cons, Option.mem_some_iff] at hm
    exact hm ▸ Node.mergeText?_eq_none (hnone last hlast)
  · -- The last text has grown, but it is still a text.
    have htype := (Node.types_of_mergeText? hmerge).1
    rcases Node.mergeText?_eq_some hmerge with ⟨value, incoming, span, -, -, rfl⟩
    rw [heq]
    refine (textsApart_congr ?_).mp h
    rw [List.map_append, List.map_append, List.map_singleton, List.map_singleton, htype]
    rfl

/-- Taking texts away keeps texts apart. The induction is on the siblings; in front of one that
    goes there was no text, and in front of one that stays nothing changes. -/
theorem textsApart_filter {p : Node → Bool} {cs : List Node}
    (hp : ∀ c ∈ cs, p c = false → c.type = .text) (h : TextsApart cs) :
    TextsApart (cs.filter p) := by
  induction cs with
  | nil => exact h
  | cons c rest ih =>
      rw [List.forall_mem_cons] at hp
      rcases List.isChain_cons.mp h with ⟨hnext, hrest⟩
      have ih := ih hp.2 hrest
      rw [List.filter_cons]
      split
      · refine List.isChain_cons.mpr ⟨fun d hd => ?_, ih⟩
        rintro ⟨hc, hdtext⟩
        -- Behind a text stands something else, and that stays.
        cases rest with
        | nil => cases hd
        | cons next rest =>
            have hother : next.type ≠ .text := fun ht => hnext next rfl ⟨hc, ht⟩
            have hstays : p next = true := by
              by_contra hgoes
              exact hother (hp.2 next List.mem_cons_self (Bool.eq_false_iff.mpr hgoes))
            rw [List.filter_cons, if_pos hstays, List.head?_cons, Option.mem_some_iff] at hd
            exact hother (hd ▸ hdtext)
      · exact ih

namespace Node

/-- The children go together with the node and with each other. -/
structure Fits (n : Node) : Prop where
  texts : TextsApart n.children
  image : n.type = .image → n.children = []
  item : n.type = .listItem → ∀ c ∈ n.children, c.kind.isInline = false

/-- Every node of the tree fits its children. -/
def IsShaped (n : Node) : Prop :=
  ∀ m ∈ n.walk, m.Fits

theorem isShaped_iff {n : Node} : n.IsShaped ↔ n.Fits ∧ ∀ c ∈ n.children, c.IsShaped :=
  forall_mem_walk

/-- Without children there is nothing to fit. -/
theorem isShaped_leaf {n : Node} (h : n.children = []) : n.IsShaped := by
  rw [isShaped_iff, h]
  refine ⟨⟨?_, fun _ => h, fun _ => ?_⟩, fun c hc => absurd hc List.not_mem_nil⟩
  · rw [h]
    exact List.isChain_nil
  · rw [h]
    exact fun c hc => absurd hc List.not_mem_nil

/-- A node that is neither an image nor an item is in shape if its children are, and are apart. -/
theorem isShaped_of_type {n : Node} (himage : n.type ≠ .image) (hitem : n.type ≠ .listItem)
    (htexts : TextsApart n.children) (hchildren : ∀ c ∈ n.children, c.IsShaped) : n.IsShaped :=
  isShaped_iff.mpr ⟨⟨htexts, fun h => absurd h himage, fun h => absurd h hitem⟩, hchildren⟩

/-- A paragraph is in shape if its children are, and are apart. -/
theorem isShaped_paragraph {n : Node} (hkind : n.kind = .paragraph) (htexts : TextsApart n.children)
    (hchildren : ∀ c ∈ n.children, c.IsShaped) : n.IsShaped := by
  have htype : n.type = .paragraph := by
    rw [type, hkind]
    rfl
  refine isShaped_of_type ?_ ?_ htexts hchildren
  · rw [htype]
    exact fun h => NodeType.noConfusion h
  · rw [htype]
    exact fun h => NodeType.noConfusion h

/-- A text that has grown is in shape if it was. -/
theorem isShaped_mergeText? {last n merged : Node} (hlast : last.IsShaped)
    (h : last.mergeText? n = some merged) : merged.IsShaped := by
  rcases mergeText?_eq_some h with ⟨value, incoming, span, -, -, rfl⟩
  rcases isShaped_iff.mp hlast with ⟨hfits, hchildren⟩
  exact isShaped_of_type (fun h => NodeType.noConfusion h) (fun h => NodeType.noConfusion h)
    hfits.texts hchildren

end Node

/-- Appending a shaped node to shaped siblings gives shaped siblings. -/
theorem isShaped_appendMerged {cs : List Node} {n : Node} (hcs : ∀ c ∈ cs, c.IsShaped)
    (hn : n.IsShaped) : ∀ c ∈ appendMerged cs n, c.IsShaped :=
  forall_mem_appendMerged (fun _ _ h hlast => Node.isShaped_mergeText? hlast h) hcs hn

/-- What is handed on is fresh and in shape, and comes with the flag of running text if it stands
    there. -/
structure Node.IsHandedOn (n : Node) (inline : Bool) : Prop where
  fresh : n.IsFresh
  shaped : n.IsShaped
  flag : n.kind.isInline = true → inline = true

namespace Frame

/-- The finished children of the frame obey the rules, and the frame knows whether it will stand
    in running text. -/
structure IsShaped (f : Frame) : Prop where
  fresh : f.IsFresh
  children : ∀ c ∈ f.children, c.IsShaped
  texts : TextsApart f.children
  item : f.isItem = true → ∀ c ∈ f.children, c.kind.isInline = false
  flag : f.kind.isInline = true → f.inline = true

/-- A frame is an item if its kind says so. -/
theorem isItem_iff {f : Frame} : f.isItem = true ↔ f.kind.type = .listItem := by
  unfold isItem
  cases f.kind <;> simp only [Kind.type, reduceCtorEq]

/-- A frame that is just open is in shape if it knows whether it will stand in running text. -/
theorem isShaped_of_open {f : Frame} (hfresh : f.IsFresh) (hchildren : f.children = [])
    (hflag : f.kind.isInline = true → f.inline = true) : f.IsShaped := by
  refine ⟨hfresh, ?_, ?_, ?_, hflag⟩
  · rw [hchildren]
    exact fun c hc => absurd hc List.not_mem_nil
  · rw [hchildren]
    exact List.isChain_nil
  · rw [hchildren]
    exact fun _ c hc => absurd hc List.not_mem_nil

/-- A shaped frame becomes a shaped node. -/
theorem isShaped_toNode {f : Frame} (h : f.IsShaped) : f.toNode.IsShaped := by
  unfold toNode
  split
  · exact Node.isShaped_leaf rfl
  · exact Node.isShaped_of_type (fun ht => NodeType.noConfusion ht)
      (fun ht => NodeType.noConfusion ht) h.texts h.children
  · exact Node.isShaped_of_type (fun ht => NodeType.noConfusion ht)
      (fun ht => NodeType.noConfusion ht) h.texts h.children
  · next himage _ _ =>
      refine Node.isShaped_iff.mpr ⟨⟨h.texts, fun ht => ?_, fun ht => ?_⟩, h.children⟩
      · unfold Node.type at ht
        cases hkind : f.kind <;> rw [hkind] at ht <;> cases ht
        exact absurd hkind (himage _ _ _)
      · exact h.item (isItem_iff.mpr ht)

/-- A closed frame is of the type that it was. -/
theorem type_toNode (f : Frame) : f.toNode.type = f.kind.type := by
  unfold toNode
  split <;> next hkind => first | rw [hkind]; rfl | rfl

/-- What goes among the children of an item came without the flag, so it is no running text, and
    none of the children grows. -/
theorem isInline_appendMerged {cs : List Node} (hcs : ∀ c ∈ cs, c.kind.isInline = false) {n : Node}
    (hn : n.kind.isInline = false) : ∀ c ∈ appendMerged cs n, c.kind.isInline = false := by
  refine forall_mem_appendMerged (fun last merged h _ => ?_) hcs hn
  rcases Node.mergeText?_eq_some h with ⟨value, incoming, span, -, hkind, -⟩
  rw [hkind] at hn
  exact Bool.noConfusion hn

/-- A shaped frame stays in shape when something that is handed on is appended. -/
theorem isShaped_append {f : Frame} (h : f.IsShaped) {n : Node} {inline : Bool}
    (hn : n.IsHandedOn inline) : (f.append n inline).IsShaped := by
  have hfresh : (f.append n inline).IsFresh := isFresh_append h.fresh hn.fresh inline
  have happended := appended (fun ht => (h.fresh.tight ht).2) n inline
  generalize f.append n inline = g at happended hfresh ⊢
  cases happended with
  | among hcond =>
      refine ⟨hfresh, isShaped_appendMerged h.children hn.shaped,
        textsApart_appendMerged h.texts n, fun hitem => ?_, h.flag⟩
      refine isInline_appendMerged (h.item hitem) (Bool.eq_false_iff.mpr fun hi => ?_)
      -- What is appended among the children of an item is no running text.
      rw [hn.flag hi, show f.isItem = true from hitem] at hcond
      exact Bool.noConfusion hcond
  | wrapped hinline hitem =>
      have hparagraph : Node.IsShaped { kind := .paragraph, span := n.span, children := [n] } :=
        Node.isShaped_paragraph rfl (List.isChain_singleton n)
          (List.forall_mem_singleton.mpr hn.shaped)
      refine ⟨hfresh, ?_, ?_, fun _ => ?_, h.flag⟩
      · rw [List.forall_mem_append, List.forall_mem_singleton]
        exact ⟨h.children, hparagraph⟩
      · -- A paragraph is no text, so it merges with nothing.
        refine List.isChain_append.mpr ⟨h.texts, List.isChain_singleton _, fun a _ b hb => ?_⟩
        rw [List.head?_cons, Option.mem_some_iff] at hb
        subst hb
        exact fun htexts => NodeType.noConfusion htexts.2
      · rw [List.forall_mem_append, List.forall_mem_singleton]
        exact ⟨h.item hitem, rfl⟩
  | @grown front paragraph span hinline hitem htight hchildren hkind =>
      rcases h with ⟨-, hshaped, htexts, hitems, hflag⟩
      rw [hchildren] at hshaped htexts hitems
      rw [List.forall_mem_append, List.forall_mem_singleton] at hshaped
      rcases Node.isShaped_iff.mp hshaped.2 with ⟨hfits, hinner⟩
      have hparagraph : Node.IsShaped
          { paragraph with span, children := appendMerged paragraph.children n } :=
        Node.isShaped_paragraph hkind (textsApart_appendMerged hfits.texts n)
          (isShaped_appendMerged hinner hn.shaped)
      refine ⟨hfresh, ?_, ?_, fun _ => ?_, hflag⟩
      · rw [List.forall_mem_append, List.forall_mem_singleton]
        exact ⟨hshaped.1, hparagraph⟩
      · -- The children are of the same types as before, since only the last one has grown.
        refine (textsApart_congr ?_).mp htexts
        rw [List.map_append, List.map_append, List.map_singleton, List.map_singleton]
        rfl
      · have hold := hitems hitem
        rw [List.forall_mem_append, List.forall_mem_singleton] at hold ⊢
        exact hold

/-- A shaped frame stays in shape while it is open. -/
theorem isShaped_edit {f g : Frame} (h : f.IsShaped) (hedit : f.Edit Node.IsHandedOn g) :
    g.IsShaped := by
  cases hedit with
  | append hn => exact isShaped_append h hn
  | paragraph hkind =>
      exact ⟨isFresh_edit h.fresh (.paragraph hkind), h.children, h.texts,
        fun _ => h.item (by rw [isItem, hkind]), fun hi => Bool.noConfusion hi⟩
  | task hkind checked =>
      exact ⟨isFresh_edit h.fresh (.task hkind checked), h.children, h.texts,
        fun _ => h.item (by rw [isItem, hkind]), fun hi => Bool.noConfusion hi⟩
  | code hkind value =>
      exact ⟨isFresh_edit h.fresh (.code hkind value), h.children, h.texts,
        fun hi => Bool.noConfusion hi, fun hi => Bool.noConfusion hi⟩
  | html hkind value =>
      exact ⟨isFresh_edit h.fresh (.html hkind value), h.children, h.texts,
        fun hi => Bool.noConfusion hi, fun hi => Bool.noConfusion hi⟩

end Frame

/-- Everything is in shape throughout a run. -/
theorem Builder.invariant_isShaped : Invariant Frame.IsShaped Node.IsHandedOn where
  root source := Frame.isShaped_of_open (invariant_isFresh.root source) rfl
    fun hi => Bool.noConfusion hi
  frameOf b tag span := by
    refine Frame.isShaped_of_open (invariant_isFresh.frameOf b tag span) ?_ ?_
    · cases tag <;> rfl
    · cases tag <;> first | exact fun _ => rfl | exact fun hi => Bool.noConfusion hi
  leaf span hleaf := by
    refine ⟨invariant_isFresh.leaf span hleaf, Node.isShaped_leaf rfl, ?_⟩
    cases hleaf <;> first | exact fun _ => rfl | exact fun hi => Bool.noConfusion hi
  edit := Frame.isShaped_edit
  closed {f} hf _ := by
    refine ⟨Frame.isFresh_toNode hf.fresh, Frame.isShaped_toNode hf, fun hi => hf.flag ?_⟩
    rw [← hi]
    exact (Node.isInline_congr (a := f.toNode) (b := { kind := f.kind }) f.type_toNode).symm
  dissolved hf _ c hc := ⟨hf.fresh.children c hc, hf.children c hc, fun hi => hi⟩

/-- The tree of any stream is in shape, and its root is of kind root. -/
theorem isShaped_ofEvents (source : String) (events : List (Event × Span)) :
    (Node.ofEvents source events).kind = .root ∧ (Node.ofEvents source events).IsShaped := by
  rcases Builder.invariant_isShaped.ofEvents source events with ⟨f, hf, hkind, heq⟩
  rw [heq]
  refine ⟨?_, Frame.isShaped_toNode hf⟩
  rw [Frame.toNode, hkind]

end Anchormark
