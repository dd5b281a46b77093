import Anchormark.Proofs.Anchor.Placeholders
import Anchormark.Proofs.Node.Shape

/-!
# Processed Trees Are Tidy

Resolving blocks and placing anchors keep a tree in the shape that the builder gave it, and leave
no empty text behind. Both go through a list of siblings without changing what the siblings are:
a text stays a text, a placeholder becomes an anchor, and everything else keeps its kind. The only
siblings that go are texts, so texts stay apart, and they are just the empty ones.

Escaping relies on this. It looks at one text at a time, which is enough because what stands next
to a text is no text.

## Main definitions

* `Node.IsTidy`: a tree in shape that has no empty text below its root.

## Theorems

* `Node.isTidy_iff`: A tree is tidy if its root fits and its children are tidy and not empty.
* `types_of_results`: Siblings with results of their own types keep the types.
* `Resolution.isTidy`: Resolving tidies a tree.
* `isTidy_placeAnchors`: Placing anchors keeps a tree tidy.
* `shape_ofEvents`: What holds of the tree of any stream, built and processed.
-/

namespace Anchormark

namespace Node

/-- The tree is in shape, and no text below the root is empty. -/
structure IsTidy (n : Node) : Prop where
  shaped : n.IsShaped
  full : ∀ c ∈ n.children, ∀ m ∈ c.walk, m.isEmptyText = false

/-- A tree is tidy if its root fits its children, and these are tidy and not empty. -/
theorem isTidy_iff {n : Node} :
    n.IsTidy ↔ n.Fits ∧ ∀ c ∈ n.children, c.isEmptyText = false ∧ c.IsTidy := by
  constructor
  · rintro ⟨hshaped, hfull⟩
    rcases isShaped_iff.mp hshaped with ⟨hfits, hchildren⟩
    refine ⟨hfits, fun c hc => ?_⟩
    rcases forall_mem_walk.mp (hfull c hc) with ⟨hself, hbelow⟩
    exact ⟨hself, hchildren c hc, hbelow⟩
  · rintro ⟨hfits, hchildren⟩
    exact ⟨isShaped_iff.mpr ⟨hfits, fun c hc => (hchildren c hc).2.shaped⟩,
      fun c hc => forall_mem_walk.mpr ⟨(hchildren c hc).1, (hchildren c hc).2.full⟩⟩

/-- Without children a tree is tidy. -/
theorem isTidy_leaf {n : Node} (h : n.children = []) : n.IsTidy :=
  ⟨isShaped_leaf h, fun _ hc => absurd (h ▸ hc) List.not_mem_nil⟩

end Node

variable {source : List Char}

/-- Siblings of which each has a result of its own type go on with these types. -/
theorem types_of_results {cs results : List Node} (hlen : results.length = cs.length)
    (h : ∀ (i : Nat) (c : Node), cs[i]? = some c → ∃ r, results[i]? = some r ∧ r.type = c.type) :
    results.map Node.type = cs.map Node.type := by
  refine List.ext_getElem? fun i => ?_
  rw [List.getElem?_map, List.getElem?_map]
  by_cases hi : i < cs.length
  · rcases exists_getElem? hi with ⟨c, hc⟩
    rcases h i c hc with ⟨r, hr, htype⟩
    rw [hc, hr, Option.map_some, Option.map_some, htype]
  · rw [List.getElem?_eq_none (Nat.le_of_not_lt hi),
      List.getElem?_eq_none (hlen ▸ Nat.le_of_not_lt hi)]

/-- Resolving tidies a tree. The induction is on the description of the resolved tree: every child
    has a result of its own type, and only texts are left out. -/
theorem Resolution.isTidy {n n' : Node} {behind : Option Attributes} {k : Nat}
    (h : Resolution source n behind n' k) (hleaf : n.TextsAreLeaves) (hshaped : n.IsShaped) :
    n'.IsTidy := by
  induction h with
  | @intro n behind own ahead results counts own_iff ahead_iff length_results length_counts texts
      others ih =>
      rcases Node.isShaped_iff.mp hshaped with ⟨hfits, hchildren⟩
      -- A text stays a text, and every other child has the kind that it had.
      have hresult : ∀ (i : Nat) (c : Node), n.children[i]? = some c →
          ∃ r, results[i]? = some r ∧ r.type = c.type ∧ r.IsTidy := by
        intro i c hc
        have hmem := List.mem_of_getElem? hc
        have hi := (List.getElem?_eq_some_iff.mp hc).1
        by_cases htext : c.type = .text
        · rcases exists_text_of_type htext with ⟨value, hvalue⟩
          rcases texts i c value hc hvalue with ⟨parts, -, hr, -⟩
          exact ⟨_, hr, htext.symm, Node.isTidy_leaf
            (hleaf c (Node.mem_walk_of_child hmem (Node.mem_walk_self c)) htext)⟩
        · rcases exists_getElem? (length_results ▸ hi) with ⟨r, hr⟩
          rcases exists_getElem? (length_counts ▸ hi) with ⟨k, hk⟩
          refine ⟨r, hr, ?_, ih i c r k hc htext hr hk
            (fun m hm => hleaf m (Node.mem_walk_of_child hmem hm)) (hchildren c hmem)⟩
          rw [Node.type, (others i c r k hc htext hr hk).kind_eq, Node.type]
      have htypes : results.map Node.type = n.children.map Node.type :=
        types_of_results length_results fun i c hc =>
          (hresult i c hc).imp fun r hr => ⟨hr.1, hr.2.1⟩
      -- The other way round, no result comes from nowhere.
      have hfrom : ∀ r ∈ results, ∃ c ∈ n.children, r.type = c.type ∧ r.IsTidy := by
        intro r hr
        rcases List.getElem?_of_mem hr with ⟨i, hi⟩
        rcases exists_getElem? (length_results ▸ (List.getElem?_eq_some_iff.mp hi).1) with ⟨c, hc⟩
        rcases hresult i c hc with ⟨r', hr', htype, htidy⟩
        rw [hi, Option.some.injEq] at hr'
        subst hr'
        exact ⟨c, List.mem_of_getElem? hc, htype, htidy⟩
      refine Node.isTidy_iff.mpr ⟨⟨?_, fun himage => ?_, fun hitem r hr => ?_⟩, fun r hr => ?_⟩
      · -- Only texts go, and the others are of the types that they were.
        refine textsApart_filter (fun r _ hgoes => ?_) ((textsApart_congr htypes).mpr hfits.texts)
        exact Resolve.type_of_isEmptyText (by simpa only [Bool.not_eq_false'] using hgoes)
      · have hnone : results = [] := by
          rw [← List.length_eq_zero_iff, length_results, hfits.image himage, List.length_nil]
        rw [hnone, List.filter_nil]
      · rcases hfrom r (List.mem_of_mem_filter hr) with ⟨c, hc, htype, -⟩
        rw [Node.isInline_congr htype]
        exact hfits.item hitem c hc
      · rcases hfrom r (List.mem_of_mem_filter hr) with ⟨-, -, -, htidy⟩
        refine ⟨?_, htidy⟩
        simpa only [Bool.not_eq_true'] using (List.mem_filter.mp hr).2

namespace Node

/-- Resolving tidies a tree whose texts are leaves. -/
theorem isTidy_resolve {n : Node} (hleaf : n.TextsAreLeaves) (hshaped : n.IsShaped)
    (source : String) : (n.resolve source).1.IsTidy := by
  rcases isTidy_iff.mp ((resolution_node source.toList n hleaf none).isTidy hleaf hshaped) with
    ⟨hfits, hchildren⟩
  exact isTidy_iff.mpr ⟨⟨hfits.texts, hfits.image, hfits.item⟩, hchildren⟩

/-- A node below the root becomes an anchor, if it is a placeholder, and otherwise keeps its
    kind. -/
theorem kind_placed (n : Node) :
    (n.isPlaceholder = true ∧ n.placed = n.toAnchor) ∨ n.placed.kind = n.kind := by
  unfold placed
  split
  · next h => exact .inl ⟨h, rfl⟩
  · right
    rw [placeAnchors_eq]

/-- An anchor stands in running text where the link stood, and neither is a text. -/
theorem placed_like (n : Node) : n.placed.kind.isInline = n.kind.isInline ∧
    n.placed.isEmptyText = n.isEmptyText ∧ (n.placed.type = .text → n.type = .text) := by
  rcases kind_placed n with ⟨hplaceholder, heq⟩ | heq
  · have hkind := (isPlaceholder_iff.mp hplaceholder).1
    rw [heq, hkind]
    refine ⟨rfl, ?_, fun ht => NodeType.noConfusion ht⟩
    rw [isEmptyText, isEmptyText, hkind]
    rfl
  · rw [isEmptyText, isEmptyText, type, type, heq]
    exact ⟨rfl, rfl, id⟩

/-- Placing anchors keeps a tree tidy. The induction is on the tree: an anchor has nothing below
    it, and any other node keeps its kind over tidy children. -/
theorem isTidy_placeAnchors {n : Node} (h : n.IsTidy) : n.placeAnchors.1.IsTidy := by
  induction n using induct with
  | h n ih =>
      rcases isTidy_iff.mp h with ⟨hfits, hchildren⟩
      rw [placeAnchors_eq, isTidy_iff]
      refine ⟨⟨?_, fun himage => ?_, fun hitem d hd => ?_⟩, fun d hd => ?_⟩
      · refine (List.isChain_map placed).mpr (hfits.texts.imp fun a b hapart htexts => ?_)
        exact hapart ⟨a.placed_like.2.2 htexts.1, b.placed_like.2.2 htexts.2⟩
      · rw [hfits.image himage, List.map_nil]
      · rcases List.mem_map.mp hd with ⟨c, hc, rfl⟩
        rw [c.placed_like.1]
        exact hfits.item hitem c hc
      · rcases List.mem_map.mp hd with ⟨c, hc, rfl⟩
        rw [c.placed_like.2.1]
        refine ⟨(hchildren c hc).1, ?_⟩
        unfold placed
        split
        · exact isTidy_leaf rfl
        · exact ih c hc (hchildren c hc).2

end Node

/-- The tree of any stream of events, balanced or not, is a root in shape that has neither anchors
    nor identifiers. Resolving its blocks tidies it, and it stays tidy when its anchors are
    placed. -/
theorem shape_ofEvents (source : String) (events : List (Event × Span)) :
    let built := Node.ofEvents source events
    let resolved := (built.resolve source).1
    built.kind = .root ∧ built.IsPlain ∧ built.IsShaped ∧ resolved.IsTidy ∧
      resolved.placeAnchors.1.IsTidy := by
  intro built resolved
  rcases isFresh_ofEvents source events with ⟨hplain, hleaf⟩
  rcases isShaped_ofEvents source events with ⟨hkind, hshaped⟩
  have htidy : resolved.IsTidy := Node.isTidy_resolve hleaf hshaped source
  exact ⟨hkind, hplain, hshaped, htidy, Node.isTidy_placeAnchors htidy⟩

end Anchormark
