import Anchormark.Proofs.Note.Blocks
import Anchormark.Proofs.Note.Nodes

/-!
# The Tree of a Note as It Is Read

The builder makes a tree of the blocks of a note. A paragraph in an item of a tight list announces
itself by no event, so its nodes reach the item one by one, and the item puts a paragraph around
them. Everywhere else an element hands on its node when it closes.

Anchors are still links at this point, with their blocks in the texts behind them.

## Main definitions

* `BecomesItem`, `Becomes`: the nodes that the items and the blocks of a note are read as.

## Theorems

* `HandsOn.element`: An element hands on its node when it closes.
* `handsOn_item`, `handsOn_list`, `handsOn_entry`: So do items, lists and blocks.
* `becomes_ofMarkdown`: The tree of a note as it is read.
-/

namespace Anchormark

/-- A passage has something to say. -/
theorem IsPassage.joined_ne_nil {lines : List (List Sign)} (h : IsPassage lines) :
    Sign.joined lines ≠ [] := by
  rcases List.exists_cons_of_ne_nil h.full with ⟨line, rest, rfl⟩
  have hline : line ≠ [] := by
    rintro rfl
    exact (h.each [] List.mem_cons_self).ne_nil rfl
  cases rest with
  | nil => exact hline
  | cons next rest => exact List.append_ne_nil_of_left_ne_nil hline _

/-- Blocks do not merge. -/
theorem textsApart_of_type {cs : List Node} (h : ∀ c ∈ cs, c.type ≠ .text) : TextsApart cs := by
  refine (List.pairwise_of_forall_mem_list fun a ha b _ => ?_).isChain
  exact fun htexts => h a ha htexts.1

namespace Markdown

/-- The node that an item is read as. -/
inductive BecomesItem (text : List Char) (spread : Bool) (lines : List (List Sign)) : Node → Prop
  | item {ns : List Node} {span inner : Option Span} (h : Shows text (Sign.joined lines) ns) :
      BecomesItem text spread lines
        { kind := .listItem spread none
          children := [{ kind := .paragraph, children := ns, span := inner }]
          span }

/-- The node that a block is read as. -/
inductive Becomes (text : List Char) : NoteBlock → Node → Prop
  | paragraph {lines : List (List Sign)} {ns : List Node} {span : Option Span}
      (h : Shows text (Sign.joined lines) ns) :
      Becomes text (.paragraph lines) { kind := .paragraph, children := ns, span }
  | heading {depth : Nat} {line : List Sign} {ns : List Node} {span : Option Span}
      (h : Shows text line ns) :
      Becomes text (.heading depth line) { kind := .heading depth, children := ns, span }
  | rule {span : Option Span} : Becomes text .rule { kind := .thematicBreak, span }
  | list {first : Option Nat} {spread : Bool} {items : List (List (List Sign))} {ns : List Node}
      {span : Option Span} (h : List.Forall₂ (BecomesItem text spread) items ns) :
      Becomes text (.list first spread items)
        { kind := .list first.isSome first spread, children := ns, span }

/-- When the builder takes these events, the innermost frame gets the node. -/
def HandsOn (source : String) (events : List (Event × Span)) (n : Node) : Prop :=
  ∀ b : Builder, b.source = source → b.feed events = b.mapTop (·.take false n)

section Feed

variable {source : String} {ctx : BlockContext}

/-- An element hands on the node of its frame when it closes. -/
theorem HandsOn.element (tag : Tag) (kind : Kind) {start stop : Nat} {inside : List Located}
    {f : Frame} (hframe : ∀ (b : Builder) span, b.frameOf tag span = { kind, span := some span })
    (hdissolves : f.dissolves = false) (hinline : f.inline = false)
    (htype : tag = .paragraph ↔ f.toNode.type = .paragraph)
    (hinside : ∀ b : Builder, b.source = source →
      b.top = { kind, span := (placed source (.close, start, stop)).2 } →
        b.feed (inside.map (placed source)) = b.mapTop fun _ => f) :
    HandsOn source ((enclose tag start stop inside).map (placed source)) f.toNode := by
  intro b hsource
  set span := (placed source (.close, start, stop)).2
  have hevents : (enclose tag start stop inside).map (placed source) =
      (.start tag, span) :: (inside.map (placed source) ++ [(.close, span)]) := by
    rw [enclose, List.map_append, List.map_cons]
    rfl
  have hopened := hinside (b.openTag tag span) ((b.source_openTag tag span).trans hsource)
    ((b.top_openTag tag span).trans (hframe b span))
  rw [hevents, Builder.feed_cons, Builder.feed_append]
  refine (congrArg Builder.closeTop hopened).trans ?_
  rw [Builder.closeTop_openTag b tag span hdissolves, hinline]
  simp only [htype]
  rfl

/-- What the pieces of some lines are read as. -/
theorem Holds.feeds (hsource : ctx.document.text = source.toList) {margin i stop : Nat}
    {lines : List (List Sign)} {atomsOf : List Sign → List Atom}
    (hatoms : ∀ line, (atomsOf line).map Atom.sign = line) {ps : List Piece}
    (h : Holds ctx.document margin (lines.map atomsOf) i stop ps) (containers : List Container) :
    ∃ ns, Feeds source ((ctx.textEvents containers false stop ps).map (placed source)) ns ∧
      Shows source.toList (Sign.joined lines) (ns.foldl appendMerged []) ∧
      ∀ n ∈ ns, n.type ≠ .paragraph := by
  obtain ⟨hpieces, tail, htext⟩ := h
  -- The block may end before the document does.
  have hbelow : ∃ rest, source.toList.drop i = spellLines margin (lines.map atomsOf) ++ rest := by
    rw [List.drop_take, hsource] at htext
    refine ⟨tail ++ (source.toList.drop i).drop (stop - i), ?_⟩
    rw [← List.append_assoc, ← htext, List.take_append_drop]
  obtain ⟨rest, hrest⟩ := hbelow
  have htells := tells_lineBits margin hrest
  have hsigns : (lines.map atomsOf).map (List.map Atom.sign) = lines := by
    rw [List.map_map]
    exact (List.map_congr_left fun line _ => hatoms line).trans (List.map_id lines)
  rw [hsigns] at htells
  refine ⟨_, ?_, htells.shows, ?_⟩
  · rw [hpieces, textEvents_lines ctx containers htext]
    exact htells.feeds
  · refine List.forall_mem_map.mpr fun bit _ hparagraph => ?_
    cases bit <;> exact NodeType.noConfusion hparagraph

/-- Where there is something to say there are nodes. -/
theorem Shows.ne_nil {text : List Char} {signs : List Sign} {ns : List Node}
    (h : Shows text signs ns) (hne : signs ≠ []) : ns ≠ [] := by
  cases h with
  | lead h => exact List.cons_ne_nil _ _
  | anchors hlead h =>
      rintro rfl
      cases signs with
      | nil => exact hne rfl
      | cons s signs =>
          cases s with
          | char c => cases hlead
          | anchor id => cases h

/-- A block of running text hands on its node. -/
theorem handsOn_text (tag : Tag) (kind : Kind)
    (hframe : ∀ (b : Builder) span, b.frameOf tag span = { kind, span := some span })
    (hitem : Frame.isItem { kind, span := none } = false)
    (hcode : Frame.isCode { kind, span := none } = false)
    (hnode : ∀ span cs, Frame.toNode { kind, span, children := cs } = { kind, span, children := cs })
    (htype : tag = .paragraph ↔ kind.type = .paragraph) (start stop : Nat) {inside : List Located}
    {ns : List Node} (h : Feeds source (inside.map (placed source)) ns) :
    ∃ span, HandsOn source ((enclose tag start stop inside).map (placed source))
      { kind, children := ns.foldl appendMerged [], span } := by
  set span := (placed source (.close, start, stop)).2
  refine ⟨span, hnode span (ns.foldl appendMerged []) ▸ HandsOn.element tag kind hframe rfl rfl ?_ ?_⟩
  · rw [hnode]
    exact htype
  · intro b hb htop
    rw [h b hb (by rw [htop]; exact hcode)]
    refine Builder.mapTop_congr ?_
    rw [htop]
    exact Frame.takeAll_of_isItem (f := { kind, span := span }) hitem rfl ns true

/-- A paragraph hands on its node. -/
theorem handsOn_paragraph (start stop : Nat) {inside : List Located} {ns : List Node}
    (h : Feeds source (inside.map (placed source)) ns) :
    ∃ span, HandsOn source ((enclose .paragraph start stop inside).map (placed source))
      { kind := .paragraph, children := ns.foldl appendMerged [], span } :=
  handsOn_text .paragraph .paragraph (fun _ _ => rfl) rfl rfl (fun _ _ => rfl)
    (iff_of_true rfl rfl) start stop h

section Item

variable {containers : List Container} {column start stop i stop' : Nat} {ps : List Piece}
  {ns : List Node}
  (h : Feeds source
    ((ctx.textEvents (containers ++ [.item column]) false stop' ps).map (placed source)) ns)
include h

/-- In a spread item the paragraph announces itself. -/
theorem handsOn_spreadItem :
    ∃ span inner, HandsOn source
      ((ctx.blockEvents containers false
        (.container start stop (.item column) [.leaf i stop' (.paragraph ps)])).map (placed source))
      { kind := .listItem true none
        children := [{ kind := .paragraph, children := ns.foldl appendMerged [], span := inner }]
        span } := by
  set span := (placed source (.close, start, stop)).2
  rcases handsOn_paragraph i stop' h with ⟨inner, hinside⟩
  set paragraph : Node :=
    { kind := .paragraph, children := ns.foldl appendMerged [], span := inner }
  have hother : Tag.item = .paragraph ↔ NodeType.listItem = .paragraph :=
    iff_of_false (fun h => Tag.noConfusion h) fun h => NodeType.noConfusion h
  refine ⟨span, inner, HandsOn.element .item (.listItem false none)
    (f := { kind := .listItem true none, span := span, children := [paragraph] })
    (fun _ _ => rfl) rfl rfl hother fun b hb htop => ?_⟩
  have hevents : ctx.blocksEvents (containers ++ [.item column]) false
      [.leaf i stop' (.paragraph ps)] = enclose .paragraph i stop'
        (ctx.textEvents (containers ++ [.item column]) false stop' ps) := List.append_nil _
  refine (congrArg (fun es => b.feed (es.map (placed source))) hevents).trans ?_
  rw [hinside b hb]
  -- Taking the paragraph makes the item a spread one.
  refine Builder.mapTop_congr ?_
  rw [htop]
  rfl

/-- A tight item gets the nodes of the text one by one, and puts a paragraph around them. -/
theorem handsOn_tightItem (hne : ns ≠ []) (htypes : ∀ n ∈ ns, n.type ≠ .paragraph) :
    ∃ span inner, HandsOn source
      ((ctx.blockEvents containers true
        (.container start stop (.item column) [.leaf i stop' (.paragraph ps)])).map (placed source))
      { kind := .listItem false none
        children := [{ kind := .paragraph, children := ns.foldl appendMerged [], span := inner }]
        span } := by
  set span := (placed source (.close, start, stop)).2
  rcases Frame.takeAll_tight (f := { kind := .listItem false none, span := span }) rfl rfl hne
    htypes with ⟨inner, htight⟩
  set paragraph : Node :=
    { kind := .paragraph, children := ns.foldl appendMerged [], span := inner }
  have hother : Tag.item = .paragraph ↔ NodeType.listItem = .paragraph :=
    iff_of_false (fun h => Tag.noConfusion h) fun h => NodeType.noConfusion h
  refine ⟨span, inner, HandsOn.element .item (.listItem false none)
    (f := { kind := .listItem false none, span := span, children := [paragraph]
            tightParagraph := true })
    (fun _ _ => rfl) rfl rfl hother fun b hb htop => ?_⟩
  -- The paragraph has no events of its own there, so the item gets those of its text.
  have hevents : ctx.blocksEvents (containers ++ [.item column]) true
      [.leaf i stop' (.paragraph ps)] =
        ctx.textEvents (containers ++ [.item column]) false stop' ps := List.append_nil _
  refine (congrArg (fun es => b.feed (es.map (placed source))) hevents).trans ?_
  rw [h b hb (by rw [htop]; rfl)]
  refine Builder.mapTop_congr ?_
  rw [htop]
  exact htight

end Item

/-- An item hands on its node. -/
theorem handsOn_item (hsource : ctx.document.text = source.toList) (spread : Bool)
    {lines : List (List Sign)} (hlines : IsPassage lines) {b : Block}
    (h : ReadsItem ctx.document lines b) (containers : List Container) :
    ∃ n, BecomesItem source.toList spread lines n ∧
      HandsOn source ((ctx.blockEvents containers (!spread) b).map (placed source)) n := by
  cases h with
  | @item start stop column i stop' ps h =>
      rcases h.feeds hsource map_sign_lineAtoms (containers ++ [.item column]) with
        ⟨ns, hfeeds, hshows, htypes⟩
      cases spread with
      | true =>
          rcases handsOn_spreadItem hfeeds with ⟨span, inner, hfeed⟩
          exact ⟨_, .item hshows, hfeed⟩
      | false =>
          have hne : ns ≠ [] := by
            rintro rfl
            exact hshows.ne_nil hlines.joined_ne_nil rfl
          rcases handsOn_tightItem hfeeds hne htypes with ⟨span, inner, hfeed⟩
          exact ⟨_, .item hshows, hfeed⟩

/-- Several blocks hand on their nodes one by one, if each of them does. -/
theorem feed_blocks {α : Type} {R : α → Block → Prop} {S : α → Node → Prop} {xs : List α}
    {blocks : List Block} (h : List.Forall₂ R xs blocks) {containers : List Container} {tight : Bool}
    (hone : ∀ x ∈ xs, ∀ b, R x b → ∃ n, S x n ∧
      HandsOn source ((ctx.blockEvents containers tight b).map (placed source)) n) :
    ∃ ns, List.Forall₂ S xs ns ∧ ∀ b : Builder, b.source = source →
      b.feed ((ctx.blocksEvents containers tight blocks).map (placed source)) =
        b.mapTop fun f => ns.foldl (Frame.take false) f := by
  induction h with
  | nil => exact ⟨[], .nil, fun b _ => (Builder.mapTop_self rfl).symm⟩
  | cons hfirst hrest ih =>
      rw [List.forall_mem_cons] at hone
      rcases hone.1 _ hfirst with ⟨n, hn, hfeed⟩
      rcases ih hone.2 with ⟨ns, hns, hfeeds⟩
      refine ⟨n :: ns, .cons hn hns, fun b hb => ?_⟩
      rw [BlockContext.blocksEvents, List.map_append, Builder.feed_append, hfeed b hb,
        hfeeds _ ((b.source_mapTop _).trans hb), Builder.mapTop_mapTop]
      rfl

/-- A list finds out from its items whether it is spread. -/
theorem any_isSpreadItem {spread : Bool} {ns : List Node} (hne : ns ≠ [])
    (h : ∀ n ∈ ns, n.isSpreadItem = spread) : ns.any Node.isSpreadItem = spread := by
  cases spread with
  | false =>
      refine List.any_eq_false.mpr fun n hn => ?_
      rw [h n hn]
      exact Bool.false_ne_true
  | true =>
      rcases List.exists_mem_of_ne_nil ns hne with ⟨n, hn⟩
      exact List.any_eq_true.mpr ⟨n, hn, h n hn⟩

/-- A list hands on its node. -/
theorem handsOn_list (hsource : ctx.document.text = source.toList) {first : Option Nat}
    {spread : Bool} {items : List (List (List Sign))}
    (hsound : (NoteBlock.list first spread items).IsSound) {start stop : Nat} {mark : Char}
    {blocks : List Block} (h : List.Forall₂ (ReadsItem ctx.document) items blocks) :
    ∃ n, Becomes source.toList (.list first spread items) n ∧
      HandsOn source ((ctx.blockEvents [] false
        (.container start stop (.list (!spread) mark first) blocks)).map (placed source)) n := by
  rcases feed_blocks h fun lines hlines b hb =>
    handsOn_item hsource spread (hsound.2.2.2 lines hlines) hb [.list] with ⟨ns, hns, hfeeds⟩
  set span := (placed source (.close, start, stop)).2
  -- Items are no texts, so they do not merge, and they say whether the list is spread.
  have htypes : ∀ n ∈ ns, n.type = .listItem ∧ n.isSpreadItem = spread := by
    refine ((List.forall₂_and_left (p := fun n : Node => n.type = .listItem ∧
      n.isSpreadItem = spread) ns items).mp (hns.flip.imp fun n lines hitem => ⟨?_, hitem⟩)).1
    cases hitem
    exact ⟨rfl, rfl⟩
  have hchildren : ns.foldl appendMerged [] = ns := by
    refine Frame.foldl_appendMerged_nil (textsApart_of_type fun n hn => ?_)
    rw [(htypes n hn).1]
    exact fun h => NodeType.noConfusion h
  have hne : ns ≠ [] := by
    rintro rfl
    cases hns
    exact hsound.1 rfl
  set f : Frame := { kind := .list first.isSome first false, span := span, children := ns }
  have hnode : f.toNode =
      { kind := .list first.isSome first spread, children := ns, span := span } := by
    rw [← any_isSpreadItem hne fun n hn => (htypes n hn).2]
    rfl
  refine ⟨f.toNode, hnode ▸ .list hns, ?_⟩
  refine HandsOn.element (.list first) (.list first.isSome first false) (fun _ _ => rfl) rfl rfl
    (iff_of_false (fun h => Tag.noConfusion h) fun h => NodeType.noConfusion h)
    fun b hb htop => ?_
  refine (hfeeds b hb).trans (Builder.mapTop_congr ?_)
  rw [htop]
  refine (Frame.takeAll_of_isItem (f := { kind := .list first.isSome first false, span := span })
    rfl rfl ns false).trans ?_
  rw [hchildren]

/-- A block of a note hands on its node. -/
theorem handsOn_entry (hsource : ctx.document.text = source.toList) {e : NoteBlock} (he : e.IsSound)
    {b : Block} (h : Reads ctx.document e b) :
    ∃ n, Becomes source.toList e n ∧
      HandsOn source ((ctx.blockEvents [] false b).map (placed source)) n := by
  cases h with
  | @paragraph lines i stop ps h =>
      rcases h.feeds hsource map_sign_lineAtoms [] with ⟨ns, hfeeds, hshows, -⟩
      rcases handsOn_paragraph i stop hfeeds with ⟨span, hfeed⟩
      exact ⟨_, .paragraph hshows, hfeed⟩
  | @heading depth line start i stop ps h =>
      have hlines : Holds ctx.document 0 ([line].map (atoms none)) i stop ps := h
      rcases hlines.feeds hsource (map_sign_atoms none) [] with ⟨ns, hfeeds, hshows, -⟩
      rcases handsOn_text (.heading depth) (.heading depth) (fun _ _ => rfl) rfl rfl
        (fun _ _ => rfl) (iff_of_false (fun h => Tag.noConfusion h) fun h => NodeType.noConfusion h)
        start stop hfeeds with ⟨span, hfeed⟩
      exact ⟨_, .heading hshows, hfeed⟩
  | @rule start stop =>
      exact ⟨{ kind := .thematicBreak, span := (placed source (.close, start, stop)).2 }, .rule,
        fun b _ => rfl⟩
  | list h => exact handsOn_list hsource he h

end Feed

/-- The tree of a note as it is read, with its anchors still to be found. -/
theorem becomes_ofMarkdown {o : RenderOptions} (hvalid : o.validate = .ok ()) {note : Note}
    (h : note.IsSound) (options : ParseOptions) {source : String}
    (hsource : source.toList = note.written o) :
    ∃ ns, List.Forall₂ (Becomes source.toList) note ns ∧
      Node.ofMarkdown options source =
        { kind := .root, span := some ⟨0, Text.size source⟩, children := ns } := by
  set d : Document := ⟨source.toList, options⟩
  set ctx : BlockContext := ⟨d, d.blocks.2⟩
  have hreads : List.Forall₂ (Reads ctx.document) note d.blocks.1 := reads_blocks hvalid h hsource
  have htext : ctx.document.text = source.toList := rfl
  rcases feed_blocks hreads fun e he b hb => handsOn_entry htext (h.entries e he) hb with
    ⟨ns, hns, hfeed⟩
  refine ⟨ns, hns, ofEvents_of_feed (textsApart_of_type ?_) ?_⟩
  · refine ((List.forall₂_and_left (p := fun n : Node => n.type ≠ .text) ns note).mp
      (hns.flip.imp fun n e hbecomes => ⟨?_, hbecomes⟩)).1
    cases hbecomes <;> exact fun h => NodeType.noConfusion h
  · rw [events_eq]
    exact hfeed _ rfl

end Markdown

end Anchormark
