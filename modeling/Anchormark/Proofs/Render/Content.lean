import Anchormark.Proofs.Node.Stream
import Anchormark.Proofs.Render.Total

/-!
# Rendering Reads the Content

Two trees are written alike if they have the same content. Where a node came from and which
identifier was attached to it never shows, and of its data some are read in one way only: a list
without numbers has no first number, a missing language is an empty one, and a heading is at most
six deep.

A renderer is given the node and the renderings of its children, and looks into those. So the
induction carries more than that the outputs agree: a list writes its items from the items' own
parts, and a table its cells from the parts of its rows.

## Main definitions

* `Node.contentKind`: the kind of a node, as it is read when it is written.
* `Node.content`: the tree of these kinds, and nothing else.
* `Rendering.Agrees`: a rendering that shows what another does.

## Theorems

* `Rendering.outputs_map`, `Builtin.items_map`, `Builtin.rows_map`: What renderers ask for agrees.
* `Node.handler_content`: A renderer makes the same of the content.
* `Node.render_content`: A tree is written as its content is.
* `Node.toMarkdown_congr`: Trees with the same content are written alike.
-/

namespace Anchormark

namespace Node

/-- The kind of the node, as it is read when it is written. That a link has no title shows only if
    the link could be an autolink. -/
def contentKind (n : Node) : Kind :=
  match n.kind with
  | .heading depth => .heading (max 1 (min depth 6))
  | .list ordered start spread =>
    .list ordered (if ordered then some (start.getD 1) else none) spread
  | .code lang value => .code (some (lang.getD "")) value
  | .html value => .html (String.ofList (Text.dropEndWhile (· = '\n') value.toList))
  | .link url title =>
    .link url (if Builtin.isAutolink n url then title else some (title.getD ""))
  | .image url title alt => .image url (some (title.getD "")) alt
  | .anchor a => .anchor { id := a.id }
  | kind => kind

theorem type_contentKind (n : Node) : n.contentKind.type = n.type := by
  rw [type]
  unfold contentKind
  cases n.kind <;> rfl

mutual

/-- The tree as it is read when it is written. -/
def content : Node → Node
  | ⟨kind, children, span, hint⟩ =>
    { kind := contentKind ⟨kind, children, span, hint⟩, children := contentAll children }

/-- Several trees as they are read when they are written. -/
def contentAll : List Node → List Node
  | [] => []
  | n :: rest => n.content :: contentAll rest

end

theorem contentAll_eq_map (cs : List Node) : contentAll cs = cs.map content := by
  induction cs with
  | nil => rfl
  | cons c cs ih => rw [contentAll, ih, List.map_cons]

theorem content_eq (n : Node) :
    n.content = { kind := n.contentKind, children := n.children.map content } := by
  rw [← contentAll_eq_map]
  cases n
  rfl

end Node

/-- The first rendering shows what the second does, and its node has the content of the other. -/
structure Rendering.Agrees (r s : Rendering) : Prop where
  kind : r.node.kind = s.node.contentKind
  output : r.output = s.output
  parts : Rendering.outputs r.parts = Rendering.outputs s.parts

section Parts

variable {cs : List Node} {f g : Node → Rendering}

/-- Agreeing renderings have the same outputs. -/
theorem Rendering.outputs_map (h : ∀ c ∈ cs, (f c).Agrees (g c)) :
    outputs (cs.map f) = outputs (cs.map g) := by
  have hmap (k : Node → Rendering) :
      outputs (cs.map k) = (cs.map fun c => (k c).output).mapM id := by
    rw [outputs, List.mapM_map, List.mapM_map]
    rfl
  rw [hmap f, hmap g]
  exact congrArg _ (List.map_congr_left fun c hc => (h c hc).output)

theorem Rendering.inline_map (h : ∀ c ∈ cs, (f c).Agrees (g c)) :
    inline (cs.map f) = inline (cs.map g) := by
  rw [inline, inline, outputs_map h]

theorem Builtin.blocks_map (separator : String) (h : ∀ c ∈ cs, (f c).Agrees (g c)) :
    blocks separator (cs.map f) = blocks separator (cs.map g) := by
  rw [blocks, blocks, Rendering.outputs_map h]

/-- An item reads its own kind and its parts. -/
theorem Builtin.item_agrees (o : RenderOptions) (marker : String) {r s : Rendering}
    (h : r.Agrees s) : item o marker r.node r.parts = item o marker s.node s.parts := by
  have hblocks (separator : String) : blocks separator r.parts = blocks separator s.parts := by
    rw [blocks, blocks, h.parts]
  unfold item
  rw [h.kind, Node.contentKind]
  cases s.node.kind <;> simp only [hblocks]

/-- The items of a list agree. -/
theorem Builtin.items_map (o : RenderOptions) (ordered : Bool) (start : Option Nat) (i : Nat)
    (h : ∀ c ∈ cs, (f c).Agrees (g c)) :
    items o ordered (if ordered then some (start.getD 1) else none) i (cs.map f) =
      items o ordered start i (cs.map g) := by
  have hmarker (i : Nat) :
      itemMarker o ordered (if ordered then some (start.getD 1) else none) i =
        itemMarker o ordered start i := by
    cases ordered <;> rfl
  induction cs generalizing i with
  | nil => rfl
  | cons c cs ih =>
      rw [List.forall_mem_cons] at h
      rw [List.map_cons, List.map_cons, items, items, hmarker, item_agrees o _ h.1,
        ih (i + 1) h.2]

/-- The cells of a table agree. -/
theorem Builtin.rows_map (h : ∀ c ∈ cs, (f c).Agrees (g c)) :
    ((cs.map f).mapM fun row => Rendering.outputs row.parts) =
      (cs.map g).mapM fun row => Rendering.outputs row.parts := by
  have hmap (k : Node → Rendering) :
      ((cs.map k).mapM fun row => Rendering.outputs row.parts) =
        (cs.map fun c => Rendering.outputs (k c).parts).mapM id := by
    rw [List.mapM_map, List.mapM_map]
    rfl
  rw [hmap f, hmap g]
  exact congrArg _ (List.map_congr_left fun c hc => (h c hc).parts)

end Parts

namespace Builtin

/-- A missing title and an empty one are written in the same way. -/
theorem titleSuffix_getD (title : Option String) :
    titleSuffix (some (title.getD "")) = titleSuffix title := by
  cases title <;> rfl

/-- Line feeds at the end are taken off once. -/
theorem dropEndWhile_dropEndWhile (p : Char → Bool) (cs : List Char) :
    Text.dropEndWhile p (Text.dropEndWhile p cs) = Text.dropEndWhile p cs := by
  rw [Text.dropEndWhile, Text.dropEndWhile, List.reverse_reverse, List.dropWhile_idempotent]

/-- Whether a link is an autolink shows in its content. -/
theorem isAutolink_content (n : Node) (url : String) :
    isAutolink n.content url = isAutolink n url := by
  rw [Node.content_eq]
  unfold isAutolink
  rcases n with ⟨kind, children, span, hint⟩
  match children with
  | [] => rfl
  | [⟨inner, _, _, _⟩] =>
      -- The text of an autolink is its own content.
      rw [List.map_singleton, Node.content_eq]
      cases inner <;> rfl
  | _ :: _ :: _ => rfl

end Builtin

namespace Node

/-- A renderer makes of the content what it makes of the node, if the parts agree. -/
theorem handler_content (o : RenderOptions) (n : Node) {handler : Handler}
    (hhandler : anchorHandlers.choose n.type = some handler) {f g : Node → Rendering}
    (h : ∀ c ∈ n.children, (f c).Agrees (g c)) :
    handler o n.content (n.children.map f) = handler o n (n.children.map g) := by
  have hkind : n.content.kind = n.contentKind := by
    rw [content_eq]
  have hinline := Rendering.inline_map h
  have hblocks := fun separator => Builtin.blocks_map separator h
  rw [type] at hhandler
  rw [contentKind] at hkind
  -- Most renderers look at their children alone. Those below look at their own data, too.
  cases hn : n.kind <;> rw [hn] at hhandler hkind <;> cases hhandler
  case root => rw [Builtin.root, Builtin.root, hblocks]
  case blockquote => rw [Builtin.blockquote, Builtin.blockquote, hblocks]
  case paragraph => rw [Builtin.paragraph, Builtin.paragraph, hinline]
  case tableCell => rw [Builtin.tableCell, Builtin.tableCell, hinline]
  case emphasis => rw [Builtin.emphasis, Builtin.emphasis, hinline]
  case strong => rw [Builtin.strong, Builtin.strong, hinline]
  case delete => rw [Builtin.delete, Builtin.delete, hinline]
  case tableRow => rw [Builtin.tableRow, Builtin.tableRow, Rendering.outputs_map h]
  case thematicBreak | hardBreak => rfl
  case text | inlineCode => simp only [Builtin.text, Builtin.inlineCode, hn, hkind]
  case heading depth =>
      -- The depth is brought into its range once more, which changes nothing.
      have hdepth : max 1 (min (max 1 (min depth 6)) 6) = max 1 (min depth 6) := by omega
      simp only [Builtin.heading, hn, hkind, hinline, hdepth]
  case list ordered start spread =>
      simp only [Builtin.list, hn, hkind, Builtin.items_map o ordered start 0 h]
  case listItem spread checked =>
      simp only [Builtin.listItem, Builtin.item, hn, hkind, hblocks]
  case code lang value =>
      simp only [Builtin.code, hn, hkind, Option.getD_some]
  case html value =>
      simp only [Builtin.html, hn, hkind, String.toList_ofList,
        Builtin.dropEndWhile_dropEndWhile]
  case table align =>
      simp only [Builtin.table, hn, hkind, Builtin.rows_map h]
  case link url title =>
      simp only [Builtin.link, hn, hkind, hinline, Builtin.isAutolink_content]
      cases Builtin.isAutolink n url with
      | true => rfl
      | false =>
          simp only [Bool.and_false, Bool.false_eq_true, if_false, Builtin.titleSuffix_getD]
  case image url title alt =>
      simp only [Builtin.image, hn, hkind, Builtin.titleSuffix_getD]
  case anchor a => simp only [renderAnchor, hn, hkind, Anchor.toMarkdown]

/-- The rendering of the content shows what the rendering of the tree does. The induction is on the
    tree. -/
theorem agrees_content (o : RenderOptions) (n : Node) :
    (n.content.renderWith anchorHandlers.choose o).Agrees
      (n.renderWith anchorHandlers.choose o) := by
  induction n using induct with
  | h n ih =>
      have hnode (m : Node) : (m.renderWith anchorHandlers.choose o).node = m := by
        cases m
        rfl
      have hchildren : n.content.children.map (renderWith anchorHandlers.choose o) =
          n.children.map fun c => c.content.renderWith anchorHandlers.choose o := by
        rw [content_eq, List.map_map]
        rfl
      have htype : n.content.type = n.type := by
        rw [content_eq]
        exact type_contentKind n
      rcases exists_handler n with ⟨handler, hhandler⟩
      refine ⟨?_, ?_, ?_⟩
      · rw [hnode, hnode, content_eq]
      · rw [output_renderWith o (htype ▸ hhandler), output_renderWith o hhandler, hchildren]
        exact handler_content o n hhandler ih
      · rw [parts_renderWith, parts_renderWith, hchildren]
        exact Rendering.outputs_map ih

/-- A tree is written as its content is. -/
theorem render_content (o : RenderOptions) (n : Node) :
    n.content.render anchorHandlers o = n.render anchorHandlers o :=
  (agrees_content o n).output

/-- Trees with the same content are written alike. -/
theorem toMarkdown_congr (o : RenderOptions) {n m : Node} (h : n.content = m.content) :
    n.toMarkdown anchorHandlers o = m.toMarkdown anchorHandlers o := by
  rw [toMarkdown, toMarkdown, ← render_content o n, h, render_content o m]

/-- Whether a link is an autolink does not depend on where it came from. -/
theorem isAutolink_unplaced (n : Node) (url : String) :
    Builtin.isAutolink n.unplaced url = Builtin.isAutolink n url := by
  rw [unplaced_eq]
  unfold Builtin.isAutolink
  match n.children with
  | [] => rfl
  | [c] => rw [List.map_singleton, unplaced_eq]
  | _ :: _ :: _ => rfl

/-- Where a node came from is not written. -/
theorem content_unplaced (n : Node) : n.unplaced.content = n.content := by
  induction n using induct with
  | h n ih =>
      have hkind : n.unplaced.kind = n.kind := by
        rw [unplaced_eq]
      have hcontent : n.unplaced.contentKind = n.contentKind := by
        rw [contentKind, contentKind, hkind]
        simp only [isAutolink_unplaced]
      have hchildren : n.unplaced.children.map content = n.children.map content := by
        rw [unplaced_eq, List.map_map]
        exact List.map_congr_left ih
      rw [content_eq, content_eq, hcontent, hchildren]

end Node

end Anchormark
