import Anchormark.Proofs.Anchor.Identifiers
import Anchormark.Proofs.Render.Total

/-!
# Anchors Are Read Back

An anchor is written as an empty link and a block with its identifier. Reading that, with any text
behind it, gives an empty link and a text that begins with the block, and from these the same
anchor comes out again. What follows the block is read as text and may hold more blocks; the one
at its end goes to the paragraph, and neither reaches the anchor.

Together with what is known about identifiers this closes the circle: every anchor that can come
out of a document has an identifier that is read back.

## Main definitions

* `idBlock`: the attribute block that declares an identifier.
* `readLink`: the events of a paragraph with an empty link and a text.
* `linkNode`, `textNode`: the nodes of that link and that text.

## Theorems

* `ofEvents_readLink`: The tree of these events.
* `moveLeading?_idBlock`: The block moves to the link.
* `resolve_readLink`: The link has the identifier, and stays in front.
* `placeAnchors_readLink`: The link becomes the anchor.
* `render_anchor_paragraph`: What is written for a paragraph with an anchor in front.
* `toMarkdown_readLink`: What is written begins with the anchor.
* `anchors_read_back`: Every anchor has an identifier that is read back, and is written first.
-/

namespace Anchormark

/-- The attribute block that declares an identifier. -/
def idBlock (id : String) : String :=
  "\x7b#" ++ id ++ "\x7d"

/-- What is read from an empty link at the start of a paragraph and the text behind it. -/
def readLink (paragraph : Span) (text : String) : List (Event × Span) :=
  [(.start .paragraph, paragraph), (.start (.link .inline "" ""), ⟨0, 4⟩), (.close, ⟨0, 4⟩),
    (.text text, ⟨4, 4 + Text.size text⟩), (.close, paragraph)]

/-- The node of the link. -/
def linkNode : Node :=
  { kind := .link "" none, span := some ⟨0, 4⟩ }

/-- The node of the text. -/
def textNode (text : String) : Node :=
  { kind := .text text, span := some ⟨4, 4 + Text.size text⟩ }

/-- An identifier for an anchor is not empty. -/
theorem IsAnchorId.isEmpty {id : String} (hid : IsAnchorId id) : id.isEmpty = false := by
  rw [String.isEmpty_eq_false_iff]
  rintro rfl
  exact hid.1 rfl

/-- The characters of the block. -/
theorem toList_idBlock (id : String) :
    (idBlock id).toList = '{' :: '#' :: (id.toList ++ ['}']) := by
  simp only [idBlock, String.toList_append]
  rfl

/-- The block of an identifier for an anchor stays on one line. -/
theorem newline_not_mem_idBlock {id : String} (hid : IsAnchorId id) :
    '\n' ∉ (idBlock id).toList := by
  rw [toList_idBlock]
  intro hmem
  simp only [List.mem_cons, Char.reduceEq, false_or, List.mem_append, List.not_mem_nil,
    or_false] at hmem
  exact Bool.false_ne_true ((hid.2 '\n' hmem).1.symm.trans (by decide))

/-- The tree of a paragraph with an empty link and a text. -/
theorem ofEvents_readLink (paragraph : Span) (text : String) :
    Node.ofEvents ("[]()" ++ text) (readLink paragraph text) =
      { kind := .root
        children := [{
          kind := .paragraph
          children := [linkNode, textNode text]
          span := some paragraph }]
        span := some ⟨0, Text.size ("[]()" ++ text)⟩ } := by
  have hslice : Span.slice? ⟨0, 4⟩ ("[]()" ++ text) = some "[]()" := by
    have hcut : Text.cut? 4 ("[]()" ++ text).toList = some ("[]()".toList, text.toList) := by
      rw [String.toList_append]
      exact Text.cut?_byteLength "[]()".toList text.toList
    rw [Span.slice?, Text.slice?, Text.sliceChars?]
    simp only [Nat.zero_le, guard, if_true, Text.cut?, Nat.sub_zero, hcut, Option.pure_def,
      Option.bind_eq_bind, Option.bind_some, Option.map_some, String.ofList_toList]
  -- The source of the link ends right behind the parenthesis, so there is no empty title.
  have htitle (b : Builder) (hb : b.source = "[]()" ++ text) :
      b.linkTitle .inline "" ⟨0, 4⟩ = none := by
    rw [Builder.linkTitle, hb, hslice]
    decide
  simp [Node.ofEvents, readLink, linkNode, textNode, Builder.new, Builder.push, Builder.openTag,
    Builder.mapTop, Builder.frameOf, Builder.closeTop, Builder.append, Builder.addText,
    Builder.top, Builder.finish, Builder.finishFrames, Frame.noteParagraph, Frame.append,
    Frame.isItem, Frame.toNode, appendMerged, Node.mergeText?, htitle]

/-- The block behind the link moves to it, whatever follows the block. -/
theorem moveLeading?_idBlock {id : String} (hid : IsAnchorId id) (t : String) :
    linkNode.moveLeading? ("[]()" ++ (idBlock id ++ t)).toList (textNode (idBlock id ++ t)) =
      some ({ linkNode with hint := some id },
        (textNode (idBlock id ++ t)).dropLead (idBlock id).toList t.toList) := by
  -- The identifier can be used, so the link gets it for a hint.
  have hattach : linkNode.attach { id := some id } = { linkNode with hint := some id } := by
    have husable : Attributes.usableId { id := some id } = some id :=
      usableId_eq_some_iff.mpr ⟨rfl, hid.1⟩
    rw [Node.attach, husable]
    rfl
  rw [← hattach]
  refine Node.moveLeading?_eq_some_iff.mpr
    ⟨rfl, { id := some id }, (idBlock id).toList, t.toList, ⟨?_, ?_, ?_⟩, rfl, rfl⟩
  · rw [← String.toList_append, String.ofList_toList]
    rfl
  · have hread := AttributeBlock.leading?_id hid.2 t.toList
    rw [String.ofList_toList] at hread
    rw [toList_idBlock, ← hread]
    simp only [List.cons_append, List.append_assoc, List.nil_append]
  · -- The block stands right behind the parenthesis, and nothing escapes it.
    intro s hs
    have hspan : s = ⟨4, 4 + Text.size (idBlock id ++ t)⟩ := (Option.some.inj hs).symm
    subst hspan
    refine ⟨"[]()".toList, t.toList, ?_, rfl, ?_⟩
    · rw [String.toList_append, String.toList_append]
    · exact ⟨0, by decide⟩

/-- Cutting the block at the end leaves the first of the siblings alone, if that is no text. -/
theorem Resolve.assemble_of_survivors {source : List Char} (n : Node) {rs tail : List Resolved}
    {first : Node} {inside : Nat} (hsurvive : survivors source rs = (first, inside) :: tail)
    (hfirst : first.type ≠ .text) :
    ∃ rest hint, (assemble source n rs).1 = { n with children := first :: rest, hint } := by
  rw [assemble_eq]
  split
  · next children a hcut =>
      split at hcut
      · rcases trailing?_eq_some_iff.mp hcut with ⟨front, last, k, text, heq, hlast, rfl⟩
        rcases Node.cutTrailing?_eq_some_iff.mp hlast with ⟨kept, block, hcloses, rfl⟩
        rw [hsurvive] at heq
        cases front with
        | nil =>
            -- The last one closes with a block, so it is a text and not the first.
            rw [List.nil_append, List.cons.injEq, Prod.mk.injEq] at heq
            refine absurd ?_ hfirst
            rw [heq.1.1, Node.type, hcloses.kind]
            rfl
        | cons r front =>
            rw [List.cons_append, List.cons.injEq] at heq
            rcases heq with ⟨rfl, rfl⟩
            exact ⟨_, _, rfl⟩
      · simp only [reduceCtorEq] at hcut
  · rw [hsurvive]
    exact ⟨tail.map Prod.fst, n.hint, rfl⟩

/-- Resolving gives the link its identifier and leaves it in front. -/
theorem resolve_readLink {id : String} (hid : IsAnchorId id) (t : String) (span : Option Span) :
    ∃ rest hint, (Resolve.node ("[]()" ++ (idBlock id ++ t)).toList
        { kind := .paragraph, children := [linkNode, textNode (idBlock id ++ t)], span }).1 =
        { kind := .paragraph, children := { linkNode with hint := some id } :: rest, span,
          hint } := by
  set source := ("[]()" ++ (idBlock id ++ t)).toList with hsource
  set link : Node := { linkNode with hint := some id } with hlink
  set text := textNode (idBlock id ++ t) with htext
  have hmove : linkNode.moveLeading? source text =
      some (link, text.dropLead (idBlock id).toList t.toList) := moveLeading?_idBlock hid t
  have hsettle : Resolve.settle source none [(linkNode, 0), (text, 0)] =
      [(link, 0), (text.dropLead (idBlock id).toList t.toList, 0)] := by
    simp only [Resolve.settle, List.head?_cons, List.head?_nil, Option.map_some, Option.map_none,
      Resolve.marked, Resolve.opened, Option.bind_some, Option.bind_none, Option.getD_none, hmove,
      Option.getD_some]
  -- The link is no text, so it survives, whatever becomes of the text.
  have hsurvive : ∃ tail, Resolve.survivors source [(linkNode, 0), (text, 0)] =
      (link, 0) :: tail := by
    have hkeep : (!link.isEmptyText) = true := rfl
    exact ⟨_, by rw [Resolve.survivors, hsettle, List.filter_cons, if_pos hkeep]⟩
  rcases hsurvive with ⟨tail, hsurvive⟩
  rw [Resolve.node_eq_assemble]
  simp only [List.map_cons, List.map_nil, Resolve.node_eq_self (n := linkNode) rfl,
    Resolve.node_eq_self (n := text) rfl]
  exact Resolve.assemble_of_survivors _ hsurvive fun htype => NodeType.noConfusion htype

/-- Around a single child that is no text there is nothing to resolve. -/
theorem Resolve.node_of_singleton {source : List Char} {n c : Node} (hchildren : n.children = [c])
    (hkind : n.kind.takesTrailingBlock = false) (hc : (node source c).1.isEmptyText = false) :
    (node source n).1 = { n with children := [(node source c).1] } := by
  have hsurvive : survivors source [node source c] = [node source c] := by
    have hkeep : (!(node source c).1.isEmptyText) = true := by rw [hc]; rfl
    have hsettle : settle source none [node source c] = [node source c] := rfl
    rw [survivors, hsettle, List.filter_cons, if_pos hkeep, List.filter_nil]
  rw [node_eq_assemble, hchildren, List.map_singleton, assemble_eq, hsurvive]
  simp only [hkind, Bool.false_eq_true, if_false, List.map_singleton]

/-- A link with nothing to it but an identifier for an anchor becomes that anchor. -/
theorem placed_linkNode {id : String} (hid : IsAnchorId id) :
    Node.placed { linkNode with hint := some id } =
      { kind := .anchor { id }, span := some ⟨0, 4⟩ } := by
  have hplaceholder : Node.isPlaceholder { linkNode with hint := some id } = true := by
    have hany : (some id).any (!·.isEmpty) = true := by
      rw [Option.any_some, hid.isEmpty]
      rfl
    exact hany
  rw [Node.placed, if_pos hplaceholder]
  rfl

/-- The link becomes the anchor. -/
theorem placeAnchors_readLink {id : String} (hid : IsAnchorId id) (t : String) (paragraph : Span) :
    let read := Node.ofEvents ("[]()" ++ (idBlock id ++ t)) (readLink paragraph (idBlock id ++ t))
    ∃ rest hint, (read.resolve ("[]()" ++ (idBlock id ++ t))).1.placeAnchors.1 =
        { kind := .root
          children := [{
            kind := .paragraph
            children := { kind := .anchor { id }, span := some ⟨0, 4⟩ } :: rest
            span := some paragraph
            hint }]
          span := some ⟨0, Text.size ("[]()" ++ (idBlock id ++ t))⟩ } := by
  intro read
  rcases resolve_readLink hid t (some paragraph) with ⟨rest, hint, hparagraph⟩
  refine ⟨rest.map Node.placed, hint, ?_⟩
  have hempty : (Resolve.node ("[]()" ++ (idBlock id ++ t)).toList
      { kind := .paragraph, children := [linkNode, textNode (idBlock id ++ t)],
        span := some paragraph }).1.isEmptyText = false := by
    rw [hparagraph]
    rfl
  -- A paragraph is no placeholder, so placing goes on with its children.
  have hplaced (children : List Node) (span : Option Span) (hint : Option String) :
      Node.placed { kind := .paragraph, children, span, hint } =
        { kind := .paragraph, children := children.map Node.placed, span, hint } := by
    have hlink : Node.isPlaceholder { kind := .paragraph, children, span, hint } = false := rfl
    rw [Node.placed, hlink, if_neg Bool.false_ne_true, Node.placeAnchors_eq]
  rw [show read = _ from ofEvents_readLink paragraph _, Node.resolve, Resolve.node_of_singleton rfl rfl hempty, hparagraph,
    Node.placeAnchors_eq]
  simp only [List.map_cons, List.map_nil, hplaced, placed_linkNode hid]

/-- What is written for an anchor. -/
theorem toMarkdown_eq_idBlock {id : String} (hid : IsAnchorId id) :
    ({ id } : Anchor).toMarkdown = "[]()" ++ idBlock id := by
  rw [Anchor.toMarkdown, hid.isEmpty, if_neg Bool.false_ne_true, idBlock, String.append_assoc,
    String.append_assoc, String.append_assoc]

/-- What is written for a paragraph that begins with an anchor begins with the anchor, whatever
    the paragraph goes on with. -/
theorem render_anchor_paragraph {id : String} (hid : IsAnchorId id) (o : RenderOptions)
    (rest : List Node) (span span' : Option Span) (hint : Option String) :
    ∃ tail, Node.render anchorHandlers o
        { kind := .paragraph
          children := { kind := .anchor { id }, span := span' } :: rest
          span, hint } =
      .ok (String.ofList (("[]()" ++ idBlock id).toList ++ tail)) := by
  have hrest : ∀ r ∈ rest.map (Node.renderWith anchorHandlers.choose o),
      ∃ out, r.output = .ok out := by
    intro r hr
    rcases List.mem_map.mp hr with ⟨m, -, rfl⟩
    exact Node.render_ok o m
  rcases Rendering.outputs_of_output hrest with ⟨outs, houts⟩
  -- The anchor is the first part, and stays on the first line behind a bracket.
  have hfront : '\n' ∉ "]()".toList ++ (idBlock id).toList := by
    rw [List.mem_append, not_or]
    exact ⟨by decide, newline_not_mem_idBlock hid⟩
  have hfirst : String.ofList ('[' :: ("]()".toList ++ (idBlock id).toList)) =
      ({ id } : Anchor).toMarkdown := calc
    _ = String.ofList ("[]()" ++ idBlock id).toList := by
      rw [String.toList_append]
      rfl
    _ = "[]()" ++ idBlock id := String.ofList_toList
    _ = ({ id } : Anchor).toMarkdown := (toMarkdown_eq_idBlock hid).symm
  have hparts : Rendering.outputs ((({ kind := .anchor { id }, span := span' } : Node) :: rest).map
      (Node.renderWith anchorHandlers.choose o)) =
      .ok (String.ofList ('[' :: ("]()".toList ++ (idBlock id).toList)) :: outs) := by
    rw [List.map_cons, hfirst]
    exact Rendering.outputs_cons rfl houts
  rcases Builtin.paragraph_of_outputs (o := o) hfront hparts with ⟨tail, htail⟩
  refine ⟨tail, ?_⟩
  have htype : anchorHandlers.choose .paragraph = some Builtin.paragraph := rfl
  rw [Node.render, Node.output_renderWith o htype, htail, String.toList_append]
  rfl

/-- A document with that paragraph begins with the anchor, and the paragraph on its own does. -/
theorem toMarkdown_readLink {id : String} (hid : IsAnchorId id) (o : RenderOptions)
    (rest : List Node) (span span' outer : Option Span) (hint : Option String) :
    let paragraph : Node :=
      { kind := .paragraph
        children := { kind := .anchor { id }, span := span' } :: rest
        span, hint }
    (∃ tail, paragraph.toMarkdown anchorHandlers o = .ok ("[]()" ++ idBlock id ++ tail)) ∧
      ∃ tail, Node.toMarkdown anchorHandlers o
        { kind := .root, children := [paragraph], span := outer } =
          .ok ("[]()" ++ idBlock id ++ tail) := by
  intro paragraph
  rcases render_anchor_paragraph hid o rest span span' hint with ⟨tail, hrender⟩
  have hne : ("[]()" ++ idBlock id).toList ≠ [] := by
    rw [String.toList_append]
    exact List.append_ne_nil_of_left_ne_nil (by decide) _
  have hline : '\n' ∉ ("[]()" ++ idBlock id).toList := by
    rw [String.toList_append, List.mem_append, not_or]
    exact ⟨by decide, newline_not_mem_idBlock hid⟩
  -- The final line feed is put behind it, and what comes first stays.
  have hwritten (n : Node) (h : n.render anchorHandlers o =
      .ok (String.ofList (("[]()" ++ idBlock id).toList ++ tail))) :
      ∃ tail', n.toMarkdown anchorHandlers o = .ok ("[]()" ++ idBlock id ++ tail') := by
    rcases Node.toMarkdown_of_render hne hline h with ⟨tail', htail'⟩
    refine ⟨String.ofList tail', ?_⟩
    rw [htail', String.ofList_append, String.ofList_toList]
  refine ⟨hwritten paragraph hrender, hwritten _ ?_⟩
  have htype : anchorHandlers.choose .root = some Builtin.root := rfl
  rw [Node.render, Node.output_renderWith o htype]
  refine Builtin.root_of_output ?_ hrender
  intro hempty
  have hnil := congrArg String.toList hempty
  rw [String.toList_ofList] at hnil
  exact hne (List.append_eq_nil_iff.mp hnil).1

/-- Anchors are read back. Whatever a plain tree and its source are, and the tree of any stream of
    events is plain, each anchor that comes out is childless, has no value, and has an identifier
    of which the following holds. For every text behind it, reading the written anchor gives a
    paragraph that begins with the same anchor, over the four bytes of the link, and what is
    written for that paragraph or its document begins with the anchor again. -/
theorem anchors_read_back :
    (∀ source events, (Node.ofEvents source events).IsPlain) ∧
    (∀ n : Node, n.IsPlain → ∀ source, ∀ m ∈ (n.resolve source).1.placeAnchors.1.walk, ∀ a,
      m.kind = .anchor a → m.children = [] ∧ a.value = "" ∧ IsAnchorId a.id) ∧
    ∀ id, IsAnchorId id → ∀ (t : String) (span : Span) (o : RenderOptions),
      let written := "[]()\x7b#" ++ id ++ "\x7d"
      let source := written ++ t
      let read := Node.ofEvents source (readLink span ("\x7b#" ++ id ++ "\x7d" ++ t))
      ∃ paragraph rest, (read.resolve source).1.placeAnchors.1.children = [paragraph] ∧
        paragraph.kind = .paragraph ∧
        paragraph.children =
          ⟨.anchor { id }, [], some ⟨0, 4⟩, none⟩ :: rest ∧
        (∃ tail, paragraph.toMarkdown anchorHandlers o = .ok (written ++ tail)) ∧
        ∃ tail, (read.resolve source).1.placeAnchors.1.toMarkdown anchorHandlers o =
          .ok (written ++ tail) := by
  refine ⟨fun source events => (isFresh_ofEvents source events).1, fun n hn source => ?_,
    fun id hid t span o => ?_⟩
  · exact Node.anchored_placeAnchors (Node.hinted_resolve (Node.hinted_of_isPlain hn) source)
  · intro written source read
    -- The statement spells the block out. From here on it is the one of the lemmas.
    have hwritten : written = "[]()" ++ idBlock id := by
      have hopening : "[]()\x7b#" = "[]()" ++ "\x7b#" := by decide
      rw [idBlock, ← String.append_assoc, ← String.append_assoc, ← hopening]
    have hsource : source = "[]()" ++ (idBlock id ++ t) := by
      rw [← String.append_assoc, ← hwritten]
    have hread : read = Node.ofEvents ("[]()" ++ (idBlock id ++ t))
        (readLink span (idBlock id ++ t)) := by
      rw [← hsource]
      rfl
    rcases placeAnchors_readLink hid t span with ⟨rest, hint, htree⟩
    rw [hread, hsource, htree, hwritten]
    exact ⟨_, rest, rfl, rfl, rfl, toMarkdown_readLink hid o rest _ _ _ _⟩

/-- An identifier with a character that is escaped in text, and a text behind it that ends with a
    block for the paragraph. -/
theorem anchors_read_back_star :
    let text := "\x7b#a*b\x7d x \x7b#p\x7d"
    IsAnchorId "a*b" ∧ ∃ paragraph rest,
      ((Node.ofEvents ("[]()" ++ text) (readLink ⟨0, 17⟩ text)).resolve
        ("[]()" ++ text)).1.placeAnchors.1.children = [paragraph] ∧
      paragraph.children = ⟨.anchor { id := "a*b" }, [], some ⟨0, 4⟩, none⟩ :: rest ∧
      ∃ tail, paragraph.toMarkdown anchorHandlers {} = .ok ("[]()\x7b#a*b\x7d" ++ tail) := by
  intro text
  have hid : IsAnchorId "a*b" := ⟨by decide, by decide⟩
  rcases anchors_read_back.2.2 "a*b" hid " x \x7b#p\x7d" ⟨0, 17⟩ {} with
    ⟨paragraph, rest, htree, -, hchildren, hwritten, -⟩
  exact ⟨hid, paragraph, rest, htree, hchildren, hwritten⟩

end Anchormark
