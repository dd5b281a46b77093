import Anchormark.Proofs.Node.Covering
import Anchormark.Proofs.Node.Diverging

/-!
# Transparent Tags

Superscript and subscript have no node kind, so a pair of them around inline content should leave
the tree as it is without the pair. It does, with one exception. The nodes in the pair go on by
their kinds once it is closed, and the kind of raw HTML is that of a block. Without the pair an item
takes it as running text, into a paragraph; with the pair it gets the bare node.

This is all that the pair can change, and nothing that comes later undoes it, apart from an image
around the item, which keeps the text alone.

## Theorems

* `ofEvents_transparent_iff`: Where a pair leaves the tree as it is.
* `html_in_superscript_in_item`: Where it does not.
-/

namespace Anchormark

/-- The tag opens an image. -/
def Tag.isImage : Tag → Bool
  | .image _ _ _ => true
  | _ => false

theorem Tag.isImage_iff_shape (tag : Tag) :
    tag.isImage = (decide (tag.shape.1 = .image) && !tag.shape.2.2) := by
  cases tag <;> rfl

theorem Tag.isCode_iff_shape {tag : Tag} : tag.isCode = true ↔ tag.shape.1 = .code := by
  cases tag <;> simp [isCode, shape, Builder.frameOf, Frame.shape, Kind.type]

theorem Tag.eq_item_iff_shape {tag : Tag} : tag = .item ↔ tag.shape.1 = .listItem := by
  cases tag <;> simp [shape, Builder.frameOf, Frame.shape, Kind.type]

namespace Builder

variable (source : String) {front : List (Event × Span)}

/-- An image is open if the stream says so. -/
theorem hasImage_feed :
    hasImage ((new source).feed front).frames = (openTags front).any Tag.isImage := by
  rw [hasImage_eq, ← shapes, shapes_feed, List.any_map]
  exact congrArg (openTags front).any (funext fun tag => (Tag.isImage_iff_shape tag).symm)

/-- No code block is innermost if the stream says so. -/
theorem isCode_top (h : ∀ tag ∈ (openTags front).head?, tag.isCode = false) :
    ((new source).feed front).top.isCode = false := by
  rw [Bool.eq_false_iff, ne_eq, Frame.isCode_iff_shape]
  cases hhead : (openTags front).head? with
  | none =>
      rw [Frame.shape, kind_top source hhead]
      exact NodeType.noConfusion
  | some tag =>
      rw [shape_top source hhead, ← Tag.isCode_iff_shape, h tag hhead]
      exact Bool.false_ne_true

/-- An item is innermost if the stream says so. -/
theorem isItem_top :
    ((new source).feed front).top.isItem = true ↔ (openTags front).head? = some .item := by
  rw [Frame.isItem_iff_shape]
  cases hhead : (openTags front).head? with
  | none =>
      rw [Frame.shape, kind_top source hhead]
      exact iff_of_false NodeType.noConfusion (Option.some_ne_none _).symm
  | some tag => rw [shape_top source hhead, ← Tag.eq_item_iff_shape, Option.some.injEq]

end Builder

namespace Appends

variable {source : String} {front other : List (Event × Span)} {b : Builder}
  {items : List (Node × Bool)}
  (hwith : (Builder.new source).feed front = b.mapTop (·.appendAll (items.map Prod.fst)))
  (hwithout : (Builder.new source).feed other = b.mapTop (·.fill items))
  (back : List (Event × Span))
include hwith hwithout

/-- In an item outside images the trees are not the same, if raw HTML stands in running text. -/
theorem ofEvents_ne (hitem : b.top.isItem = true) (hdissolves : b.top.dissolves = false)
    (hhtml : ∃ i ∈ items, i.2 = true ∧ i.1.type = .html) (himage : hasImage b.frames = false) :
    Node.ofEvents source (front ++ back) ≠ Node.ofEvents source (other ++ back) := by
  have hbeside : Builder.Beside (fun covered f f' => covered = false ∧ f.Differs f')
      ((Builder.new source).feed front) ((Builder.new source).feed other) := by
    rw [hwith, hwithout]
    exact .of_mapTop (Frame.shape_appendAll · _)
      ⟨himage, Frame.appendAll_differs_fill hitem hdissolves hhtml⟩
  rcases hbeside.ofEvents Frame.carried_differs back with
    ⟨f, f', hkind, ⟨-, hdiffers⟩, htree, htree'⟩
  rw [htree, htree']
  refine (hdiffers.toNode ?_ ?_).ne
  · rw [hkind]
    exact NodeType.noConfusion
  · rw [hkind]
    exact NodeType.noConfusion

variable (hsilent : b.All Frame.IsSilent)
include hsilent

/-- Where the nodes go the same way by their kinds, the trees are the same. -/
theorem ofEvents_congr
    (h : b.top.isItem = true → ∀ i ∈ items, i.2 = i.1.kind.isInline) :
    Node.ofEvents source (front ++ back) = Node.ofEvents source (other ++ back) := by
  have htight : b.top.isItem = false → b.top.tightParagraph = false := by
    intro hitem
    by_contra htight
    rw [Bool.not_eq_false] at htight
    exact absurd (hitem.symm.trans (hsilent.top.fresh.tight htight).1) Bool.false_ne_true
  have hsame : b.mapTop (·.appendAll (items.map Prod.fst)) = b.mapTop (·.fill items) :=
    Builder.mapTop_congr (Frame.fill_eq_appendAll htight h).symm
  rw [Builder.ofEvents_eq, Builder.ofEvents_eq, Builder.feed_append, Builder.feed_append, hwith,
    hwithout, hsame]

/-- In an image the trees are the same anyway. -/
theorem ofEvents_of_image (hfresh : ∀ i ∈ items, i.1.IsFresh) (himage : hasImage b.frames = true) :
    Node.ofEvents source (front ++ back) = Node.ofEvents source (other ++ back) := by
  have hsame : (b.top.appendAll (items.map Prod.fst)).SameText (b.top.fill items) := by
    refine ⟨?_, ?_⟩
    · rcases b.top.fill_eq items with ⟨children, tight, heq⟩
      rcases b.top.appendAll_eq (items.map Prod.fst) with ⟨children', tight', heq'⟩
      exact ⟨children, tight, by rw [heq, heq']⟩
    · rw [Frame.plainText_fill hsilent.top.fresh hfresh,
        Frame.plainText_appendAll hsilent.top.fresh (List.forall_mem_map.mpr hfresh)]
  have hbeside : Builder.Beside (fun covered f f' => f.SameText f' ∧ (covered = false → f' = f))
      ((Builder.new source).feed front) ((Builder.new source).feed other) := by
    rw [hwith, hwithout]
    exact .of_mapTop (Frame.shape_appendAll · _)
      ⟨hsame, fun h => absurd (h.symm.trans himage) Bool.false_ne_true⟩
  rcases hbeside.ofEvents Frame.carried_sameText back with ⟨f, f', -, ⟨-, heq⟩, htree, htree'⟩
  rw [htree, htree', heq rfl]

end Appends

/-- A pair without a node kind leaves the tree as it is, unless it stands directly in an item and
    raw HTML stands directly in the pair. Only where an image is open that does not matter, since of
    what is in it the image keeps the text. -/
theorem ofEvents_transparent_iff (source : String) {tag : Tag}
    (htag : tag = .superscript ∨ tag = .subscript) {inner : List (Event × Span)}
    (hinner : IsInlineRun inner) {front : List (Event × Span)}
    (hcode : ∀ outer ∈ (openTags front).head?, outer.isCode = false) (span stop : Span)
    (back : List (Event × Span)) :
    Node.ofEvents source (front ++ (.start tag, span) :: (inner ++ (.close, stop) :: back)) =
        Node.ofEvents source (front ++ (inner ++ back)) ↔
      ¬ ((openTags front).head? = some .item ∧ holdsHtml 0 inner = true ∧
        (openTags front).any Tag.isImage = false) := by
  rcases hinner.exists_appends source with ⟨items, hitems⟩
  obtain ⟨b, hb⟩ : ∃ b, (Builder.new source).feed front = b := ⟨_, rfl⟩
  have hsilent : b.All Frame.IsSilent := hb ▸ Builder.invariant_isSilent.feed source front
  have hsource : b.source = source := hb ▸ Builder.source_feed _ _
  have hwith : (Builder.new source).feed
      (front ++ ((.start tag, span) :: (inner ++ [(.close, stop)]))) =
        b.mapTop (·.appendAll (items.map Prod.fst)) := by
    rw [Builder.feed_append, hb, hitems.dissolving span stop htag hsource]
  have hwithout : (Builder.new source).feed (front ++ inner) = b.mapTop (·.fill items) := by
    rw [Builder.feed_append, hb, hitems.feed b hsource (hb ▸ Builder.isCode_top source hcode)]
  have hstream : front ++ (.start tag, span) :: (inner ++ (.close, stop) :: back) =
      (front ++ ((.start tag, span) :: (inner ++ [(.close, stop)]))) ++ back := by
    simp only [List.append_assoc, List.cons_append, List.nil_append]
  rw [hstream, ← List.append_assoc front inner back, ← Builder.isItem_top source,
    ← Builder.hasImage_feed source, hb, hitems.holdsHtml]
  -- Only in an item it can make a difference what the events said, and only for raw HTML they said
  -- something else than the kind.
  by_cases hkept : b.top.isItem = true → ∀ i ∈ items, i.2 = i.1.kind.isInline
  · refine iff_of_true (Appends.ofEvents_congr hwith hwithout back hsilent hkept) ?_
    rintro ⟨hitem, ⟨i, hi, hne⟩, -⟩
    exact hne (hkept hitem i hi)
  · push Not at hkept
    rcases hkept with ⟨hitem, i, hi, hne⟩
    rw [and_iff_right hitem, and_iff_right ⟨i, hi, hne⟩, Bool.not_eq_false]
    cases himage : hasImage b.frames with
    | true =>
        exact iff_of_true
          (Appends.ofEvents_of_image hwith hwithout back hsilent hitems.fresh himage) rfl
    | false =>
        have hdissolves : b.top.dissolves = false := by
          have hshape := Builder.shape_top source ((Builder.isItem_top source).mp (hb ▸ hitem))
          rw [hb] at hshape
          exact congrArg (fun shape => shape.2.2) hshape
        exact iff_of_false (Appends.ofEvents_ne hwith hwithout back hitem hdissolves
          ⟨i, hi, hitems.html i hi hne⟩ himage) Bool.false_ne_true

/-- Raw HTML in an emphasis in the pair makes no difference, not even in an item. -/
theorem ofEvents_transparent_emphasis :
    let span : Span := ⟨0, 0⟩
    let front := [(.start (.list none), span), (.start .item, span), (.text "x", span)]
    let inner := [(.text "y", span), (.start .emphasis, span), (.inlineHtml "<b>", span),
      (.close, span)]
    let back := [(.text "z", span), (.close, span), (.close, span)]
    IsInlineRun inner ∧ (openTags front).head? = some .item ∧
      Node.ofEvents "" (front ++ (.start .subscript, span) :: (inner ++ (.close, span) :: back)) =
        Node.ofEvents "" (front ++ (inner ++ back)) := by
  intro span front inner back
  have hinner : IsInlineRun inner :=
    .single rfl (@IsInlineRun.element .emphasis span span [_] [] rfl (.single rfl .nil) .nil)
  refine ⟨hinner, rfl, ?_⟩
  refine (ofEvents_transparent_iff "" (.inr rfl) hinner ?_ span span back).mpr ?_
  · rintro outer ⟨⟩
    rfl
  · rintro ⟨-, hhtml, -⟩
    exact Bool.false_ne_true hhtml

/-- Raw HTML in the pair, in an item, loses its paragraph. -/
theorem html_in_superscript_in_item :
    let span : Span := ⟨0, 0⟩
    let front := [(.start (.list none), span), (.start .item, span)]
    let inner := [(.inlineHtml "<b>", span)]
    let back := [(.close, span), (.close, span)]
    let tree := Node.ofEvents ""
      (front ++ (.start .superscript, span) :: (inner ++ (.close, span) :: back))
    let tree' := Node.ofEvents "" (front ++ (inner ++ back))
    IsInlineRun inner ∧ (openTags front).head? = some .item ∧
      tree.walk.map Node.type = [.root, .list, .listItem, .html] ∧
      tree'.walk.map Node.type = [.root, .list, .listItem, .paragraph, .html] ∧ tree ≠ tree' := by
  intro span front inner back tree tree'
  have htree : tree.walk.map Node.type = [.root, .list, .listItem, .html] := by decide
  have htree' : tree'.walk.map Node.type = [.root, .list, .listItem, .paragraph, .html] := by decide
  refine ⟨.single rfl .nil, rfl, htree, htree', fun heq => ?_⟩
  rw [heq, htree'] at htree
  exact absurd htree (by decide)

end Anchormark
