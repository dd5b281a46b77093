import Anchormark.Markdown.Events
import Anchormark.Proofs.Node.PlainText
import Anchormark.Proofs.Node.Stream
import Mathlib.Data.List.TakeWhile

/-!
# Streams Give Back Their Trees

A builder that takes the natural stream of a canonical tree ends up with that tree, spans aside.

What has to be shown of a node is independent of where its stream begins: wherever a builder
takes it, the innermost frame gets one finished child, and nothing else changes. That composes,
since the streams of siblings follow each other and the stream of an element is that of its
content between two events. So the proof is an induction on trees, with a case for each way in
which a kind reaches the builder.

Tight items are the exception. The paragraphs in them have no events of their own: they come
about because a frame that is an item puts inline content into a paragraph, and goes on with the
same paragraph until something else arrives. There the siblings are taken together, and what the
frame remembers has to agree with what comes next.

## Main definitions

* `Frame.take`: what a frame makes of a finished child.
* `Node.Returns`, `ReturnAll`: a builder gets the node, or the siblings, out of the stream.
* `Node.ReturnsTight`: the same in a tight item.

## Theorems

* `Frame.takeAll_of_isItem`, `Frame.takeAll_spread`: Children stand one behind the other.
* `Frame.takeAll_tight`: A tight item puts them into a paragraph.
* `Builder.closeTop_openTag`: An element hands on its node.
* `returnAll_of_returns`, `feed_tight`: Siblings return if each of them does.
* `Node.returns_element`, `Node.returns_item`: An element returns if what is inside does.
* `Node.returns`: Every sound node returns.
* `unplaced_ofEvents`: The stream of a canonical tree gives back the tree.
-/

namespace Anchormark

namespace Node

/-- Trees that agree but for their spans are of the same type. -/
theorem type_of_unplaced {n m : Node} (h : n.unplaced = m.unplaced) : n.type = m.type := by
  rw [unplaced_eq, unplaced_eq, mk.injEq] at h
  rw [type, type, h.1]

/-- A node of the type of paragraphs is a paragraph. -/
theorem kind_of_paragraph {n : Node} (h : n.type = .paragraph) : n.kind = .paragraph := by
  unfold type at h
  cases hkind : n.kind <;> rw [hkind] at h <;> first | rfl | cases h

/-- A node of the type of items is an item. -/
theorem exists_listItem_of_type {n : Node} (h : n.type = .listItem) :
    ∃ spread checked, n.kind = .listItem spread checked := by
  unfold type at h
  cases hkind : n.kind <;> rw [hkind] at h <;> first | exact ⟨_, _, rfl⟩ | cases h

/-- Trees agree but for their spans if their roots and their children do. -/
theorem unplaced_congr {n m : Node} (hkind : n.kind = m.kind) (hhint : n.hint = m.hint)
    (hchildren : n.children.map unplaced = m.children.map unplaced) :
    n.unplaced = m.unplaced := by
  rw [unplaced_eq, unplaced_eq, hkind, hhint, hchildren]

end Node

/-- Siblings that agree but for their spans are of the same kinds. -/
theorem map_of_unplaced {α : Type} (g : Kind → α) {cs ds : List Node}
    (h : cs.map Node.unplaced = ds.map Node.unplaced) :
    cs.map (fun c => g c.kind) = ds.map fun d => g d.kind := by
  have hkind (es : List Node) :
      es.map (fun e => g e.kind) = (es.map Node.unplaced).map fun e => g e.kind := by
    rw [List.map_map]
    refine List.map_congr_left fun e _ => ?_
    rw [Function.comp_apply, Node.unplaced_eq]
  rw [hkind cs, hkind ds, h]

/-- Siblings that agree but for their spans are of the same types. -/
theorem types_of_unplaced {cs ds : List Node}
    (h : cs.map Node.unplaced = ds.map Node.unplaced) : cs.map Node.type = ds.map Node.type :=
  map_of_unplaced Kind.type h

/-- Lists that agree but for their spans are spread by the same items. -/
theorem any_isSpreadItem_of_unplaced {cs ds : List Node}
    (h : cs.map Node.unplaced = ds.map Node.unplaced) :
    cs.any Node.isSpreadItem = ds.any Node.isSpreadItem := by
  have hall (es : List Node) : es.any Node.isSpreadItem =
      (es.map fun e => Node.isSpreadItem { kind := e.kind }).any id := by
    rw [List.any_map]
    rfl
  rw [hall cs, hall ds, map_of_unplaced (fun kind => Node.isSpreadItem { kind }) h]

/-- A node goes behind siblings if it and the last of them are not both texts. -/
theorem appendMerged_of_apart {cs : List Node} {n : Node}
    (h : ∀ last ∈ cs.getLast?, last.Apart n) : appendMerged cs n = cs ++ [n] := by
  rcases appendMerged_cases cs n with ⟨heq, -⟩ | ⟨front, last, merged, rfl, hmerge, -⟩
  · exact heq
  · exact absurd (Node.types_of_mergeText? hmerge) (h last List.getLast?_concat)

/-- Siblings that are apart stay as they are when they are appended one by one. -/
theorem appendMerged_of_textsApart {cs : List Node} {n : Node} (h : TextsApart (cs ++ [n])) :
    appendMerged cs n = cs ++ [n] :=
  appendMerged_of_apart fun last hlast => (List.isChain_append.mp h).2.2 last hlast n rfl

namespace Frame

/-- The frame with one more finished child. A paragraph announces itself before it comes. -/
def take (inline : Bool) (f : Frame) (n : Node) : Frame :=
  (if n.type = .paragraph then f.noteParagraph else f).append n inline

theorem isCode_takeAll (inline : Bool) (f : Frame) (cs : List Node) :
    (cs.foldl (take inline) f).isCode = f.isCode := by
  induction cs generalizing f with
  | nil => rfl
  | cons c cs ih =>
      rw [List.foldl_cons, ih, take, isCode_append]
      split
      · exact isCode_noteParagraph f
      · rfl

theorem isCode_of_isItem {f : Frame} (h : f.isItem = true) : f.isCode = false := by
  unfold isItem at h
  unfold isCode
  split at h
  · next hkind => rw [hkind]
  · cases h

theorem noteParagraph_of_isItem {f : Frame} (h : f.isItem = false) : f.noteParagraph = f := by
  unfold noteParagraph
  split
  · next hkind =>
      rw [isItem, hkind] at h
      cases h
  · rfl

/-- A node goes behind the children, if it needs no paragraph and merges with none of them. -/
theorem append_of_apart {f : Frame} {n : Node} {inline : Bool}
    (hinline : (inline && f.isItem) = false) (htight : f.tightParagraph = false)
    (hapart : TextsApart (f.children ++ [n])) :
    f.append n inline = { f with children := f.children ++ [n] } := by
  rw [append, hinline, if_neg Bool.false_ne_true, appendMerged_of_textsApart hapart, htight]
  rw [Bool.false_and, ← htight]

/-- What stands in front of siblings that are apart. -/
theorem textsApart_front {front rest : List Node} {c : Node}
    (h : TextsApart (front ++ c :: rest)) :
    TextsApart (front ++ [c]) ∧ TextsApart (front ++ [c] ++ rest) := by
  rw [List.append_cons] at h
  exact ⟨(List.isChain_append.mp h).1, h⟩

/-- Siblings that are apart stay as they are when all of them are appended. -/
theorem foldl_appendMerged_of_textsApart {front cs : List Node} (h : TextsApart (front ++ cs)) :
    cs.foldl appendMerged front = front ++ cs := by
  induction cs generalizing front with
  | nil => rw [List.foldl_nil, List.append_nil]
  | cons c cs ih =>
      rcases textsApart_front h with ⟨hfirst, hrest⟩
      rw [List.foldl_cons, appendMerged_of_textsApart hfirst, ih hrest, List.append_assoc,
        List.singleton_append]

theorem foldl_appendMerged_nil {cs : List Node} (h : TextsApart cs) :
    cs.foldl appendMerged [] = cs := by
  have hfront : TextsApart ([] ++ cs) := h
  exact foldl_appendMerged_of_textsApart hfront

/-- Outside items, nodes go to the end of the children. -/
theorem takeAll_of_isItem {f : Frame} (hitem : f.isItem = false)
    (htight : f.tightParagraph = false) (cs : List Node) (inline : Bool) :
    cs.foldl (take inline) f = { f with children := cs.foldl appendMerged f.children } := by
  induction cs generalizing f with
  | nil => rfl
  | cons c cs ih =>
      have htake : take inline f c = { f with children := appendMerged f.children c } := by
        rw [take, noteParagraph_of_isItem hitem, ite_self, append, hitem, Bool.and_false,
          if_neg Bool.false_ne_true, htight, Bool.false_and, ← htight]
      rw [List.foldl_cons, htake]
      exact ih (f := { f with children := appendMerged f.children c }) hitem htight

/-- In an item, blocks stand one behind the other too, and a paragraph makes the item spread. -/
theorem takeAll_spread {f : Frame} {spread : Bool} {checked : Option Bool}
    (hkind : f.kind = .listItem spread checked) (htight : f.tightParagraph = false)
    {cs : List Node} (hapart : TextsApart (f.children ++ cs)) :
    cs.foldl (take false) f =
      { f with
        kind := .listItem (spread || cs.any (·.type = .paragraph)) checked
        children := f.children ++ cs } := by
  induction cs generalizing f spread with
  | nil => rw [List.foldl_nil, List.append_nil, List.any_nil, Bool.or_false, ← hkind]
  | cons c cs ih =>
      rcases textsApart_front hapart with ⟨hfirst, hrest⟩
      -- A paragraph is announced before it arrives, and any other block is not.
      have htake : take false f c =
          { f with
            kind := .listItem (spread || decide (c.type = .paragraph)) checked
            children := f.children ++ [c] } := by
        rw [take]
        split
        · next hparagraph =>
            rw [noteParagraph, hkind, decide_eq_true hparagraph, Bool.or_true]
            refine (append_of_apart (f := { f with
              kind := .listItem true checked, tightParagraph := false })
              (Bool.false_and _) rfl hfirst).trans ?_
            rw [htight]
        · next hparagraph =>
            rw [decide_eq_false hparagraph, Bool.or_false, ← hkind]
            exact append_of_apart (Bool.false_and _) htight hfirst
      rw [List.foldl_cons, htake]
      refine (ih (f := { f with
        kind := .listItem (spread || decide (c.type = .paragraph)) checked
        children := f.children ++ [c] }) rfl htight hrest).trans ?_
      rw [List.any_cons, Bool.or_assoc, List.append_assoc, List.singleton_append]

/-- Inline content goes on in the paragraph that a tight item ends with. -/
theorem takeAll_grown {f : Frame} (hitem : f.isItem = true) (htight : f.tightParagraph = true)
    {front : List Node} {paragraph : Node} (hchildren : f.children = front ++ [paragraph])
    {cs : List Node} (hcs : ∀ c ∈ cs, c.type ≠ .paragraph) :
    ∃ span, cs.foldl (take true) f =
      { f with
        children :=
          front ++ [{ paragraph with
            span, children := cs.foldl appendMerged paragraph.children }] } := by
  induction cs generalizing f paragraph with
  | nil =>
      refine ⟨paragraph.span, ?_⟩
      cases paragraph
      exact congrArg (fun children => { f with children }) hchildren
  | cons c cs ih =>
      rw [List.forall_mem_cons] at hcs
      -- The paragraph that the item ends with grows, and with it its span.
      rcases growLast_append front paragraph c with ⟨span, hgrow⟩
      set grown : Node :=
        { paragraph with span, children := appendMerged paragraph.children c } with hgrown
      have htake : take true f c = { f with children := front ++ [grown] } := by
        rw [take, if_neg hcs.1, append, hitem, Bool.true_and, if_pos rfl, appendTight, htight,
          if_pos rfl, hchildren, hgrow]
      rw [List.foldl_cons, htake]
      exact ih (f := { f with children := front ++ [grown] }) hitem htight rfl hcs.2

/-- A tight item puts inline content into a paragraph of its own. -/
theorem takeAll_tight {f : Frame} (hitem : f.isItem = true) (htight : f.tightParagraph = false)
    {cs : List Node} (hne : cs ≠ []) (hcs : ∀ c ∈ cs, c.type ≠ .paragraph) :
    ∃ span, cs.foldl (take true) f =
      { f with
        children :=
          f.children ++ [{ kind := .paragraph, span, children := cs.foldl appendMerged [] }]
        tightParagraph := true } := by
  cases cs with
  | nil => exact absurd rfl hne
  | cons c cs =>
      rw [List.forall_mem_cons] at hcs
      -- The first node gets the paragraph, and the others go into it.
      have htake : take true f c =
          { f with
            children := f.children ++ [{ kind := .paragraph, span := c.span, children := [c] }]
            tightParagraph := true } := by
        rw [take, if_neg hcs.1, append, hitem, Bool.true_and, if_pos rfl, appendTight, htight,
          if_neg Bool.false_ne_true]
      rw [List.foldl_cons, htake]
      exact takeAll_grown (f := { f with
        children := f.children ++ [{ kind := .paragraph, span := c.span, children := [c] }]
        tightParagraph := true }) hitem rfl rfl hcs.2

end Frame

namespace Builder

/-- The frame of a tag depends on the source only. -/
theorem frameOf_congr {b b' : Builder} (h : b.source = b'.source) (tag : Tag) (span : Span) :
    b.frameOf tag span = b'.frameOf tag span := by
  cases tag with
  | link form url title =>
      simp only [frameOf, linkTitle, h]
  | _ => rfl

/-- Opening an element lets the innermost frame know if it is a paragraph, and puts a frame in
    front of it. -/
theorem openTag_eq (b : Builder) (tag : Tag) (span : Span) :
    b.openTag tag span =
      let noted := b.mapTop fun f => if tag = .paragraph then f.noteParagraph else f
      { noted with frames := b.frameOf tag span :: noted.frames } := by
  have hnoted : (if tag = .paragraph then b.mapTop Frame.noteParagraph else b) =
      b.mapTop fun f => if tag = .paragraph then f.noteParagraph else f := by
    split
    · rfl
    · exact (mapTop_self rfl).symm
  rw [openTag, hnoted]
  simp only [frameOf_congr (source_mapTop b fun f =>
    if tag = .paragraph then f.noteParagraph else f) tag span]

theorem top_openTag (b : Builder) (tag : Tag) (span : Span) :
    (b.openTag tag span).top = b.frameOf tag span := by
  rw [openTag_eq]
  rfl

theorem source_openTag (b : Builder) (tag : Tag) (span : Span) :
    (b.openTag tag span).source = b.source := by
  rw [openTag_eq]
  exact source_mapTop b _

/-- An element whose frame has become `f` in the meantime hands on the node of `f`. -/
theorem closeTop_openTag (b : Builder) (tag : Tag) (span : Span) {f : Frame}
    (h : f.dissolves = false) :
    ((b.openTag tag span).mapTop fun _ => f).closeTop =
      b.mapTop fun g =>
        (if tag = .paragraph then g.noteParagraph else g).append f.toNode f.inline := by
  rw [openTag_eq, mapTop, closeTop]
  simp only [h, Bool.false_eq_true, if_false]
  rw [append]
  exact mapTop_mapTop b (fun g => if tag = .paragraph then g.noteParagraph else g) fun g =>
    g.append f.toNode f.inline

end Builder

/-- Wherever a builder takes the stream of the node, the innermost frame gets the node. -/
def Node.Returns (slot : Slot) (n : Node) : Prop :=
  ∀ (b : Builder) (stream : List (Event × Span)), b.top.isCode = false →
    ReadsAs b.source stream (n.stream slot) →
    ∃ n', n'.unplaced = n.unplaced ∧
      b.feed stream = b.mapTop (·.take (slot = .phrasing) n')

/-- Wherever a builder takes the stream of the siblings, the innermost frame gets all of them. -/
def ReturnAll (slot : Slot) (cs : List Node) : Prop :=
  ∀ (b : Builder) (stream : List (Event × Span)), b.top.isCode = false →
    ReadsAs b.source stream (Node.streamAll slot cs) →
    ∃ cs' : List Node, cs'.map Node.unplaced = cs.map Node.unplaced ∧
      b.feed stream = b.mapTop fun f => cs'.foldl (Frame.take (slot = .phrasing)) f

/-- Siblings return if each of them does, outside tight items. -/
theorem returnAll_of_returns {slot : Slot} {cs : List Node} (hslot : slot ≠ .tight)
    (hadmits : ∀ c ∈ cs, slot.admits c.type = true)
    (h : ∀ c ∈ cs, ∀ p : Slot, p ≠ .tight → p.admits c.type = true → c.Returns p) :
    ReturnAll slot cs := by
  induction cs generalizing slot with
  | nil =>
      intro b stream _ hread
      rw [hread.nil]
      exact ⟨[], rfl, (Builder.mapTop_self rfl).symm⟩
  | cons c cs ih =>
      rw [List.forall_mem_cons] at hadmits h
      -- Behind the head of a table come its rows, so the next sibling may stand elsewhere.
      have hnext : slot.next ≠ .tight ∧ (slot.next = .phrasing ↔ slot = .phrasing) ∧
          ∀ type, slot.next.admits type = slot.admits type := by
        cases slot <;> first | exact absurd rfl hslot | exact ⟨by decide, by decide, fun _ => rfl⟩
      intro b stream hcode hread
      rcases hread.append with ⟨first, second, rfl, hfirst, hsecond⟩
      rcases h.1 slot hslot hadmits.1 b first hcode hfirst with ⟨c', hc', hfeed⟩
      have hcode' : (b.feed first).top.isCode = false := by
        rw [hfeed, Builder.top_mapTop]
        exact (Frame.isCode_takeAll _ b.top [c']).trans hcode
      have hsource : (b.feed first).source = b.source := by
        rw [hfeed, Builder.source_mapTop]
      rcases ih hnext.1 (fun d hd => (hnext.2.2 _).trans (hadmits.2 d hd)) h.2 (b.feed first)
        second hcode' (hsource ▸ hsecond) with ⟨cs', hcs', hfeeds⟩
      refine ⟨c' :: cs', by rw [List.map_cons, List.map_cons, hc', hcs'], ?_⟩
      rw [Builder.feed_append, hfeeds, hfeed, Builder.mapTop_mapTop]
      simp only [hnext.2.1, List.foldl_cons]

namespace Node

variable {n : Node} {slot : Slot}

/-- Nothing stands in a node that takes nothing. -/
theorem children_of_inside (hconforms : n.Conforms) (h : n.kind.inside = .nowhere) :
    n.children = [] := by
  rw [List.eq_nil_iff_forall_not_mem]
  intro c hc
  have hadmits := hconforms.admitted c hc
  rw [h] at hadmits
  cases hadmits

/-- A node that is one event returns if pushing that event appends it. -/
theorem returns_single (event : Event) (hstream : n.stream slot = [event])
    (hopens : event.opens = false) (hparagraph : n.type ≠ .paragraph) (hconforms : n.Conforms)
    (hinside : n.kind.inside = .nowhere)
    (hpush : ∀ (b : Builder) span, b.top.isCode = false →
      b.push event span = b.append { kind := n.kind, span := some span } (slot = .phrasing)) :
    n.Returns slot := by
  intro b stream hcode hread
  rw [hstream] at hread
  rcases hread.single hopens with ⟨span, rfl⟩
  refine ⟨{ kind := n.kind, span := some span }, unplaced_congr rfl hconforms.hint.symm ?_, ?_⟩
  · rw [children_of_inside hconforms hinside]
  · rw [Builder.feed_cons, Builder.feed_nil, hpush b span hcode, Builder.append]
    refine Builder.mapTop_congr ?_
    rw [Frame.take, if_neg]
    exact hparagraph

/-- An element returns if its content turns the frame that it opens into one that closes to the
    node. -/
theorem returns_wrap {tag : Tag} {inner : List Event} (hstream : n.stream slot = wrap tag inner)
    (hparagraph : decide (tag = .paragraph) = decide (n.type = .paragraph))
    (hinner : ∀ (b : Builder) given span content, given.formless = tag →
      ((Event.start given).isUntitled = true → span.showsEmptyTitle b.source = false) →
      ReadsAs b.source content inner →
      ∃ f : Frame,
        (b.openTag given span).feed content = (b.openTag given span).mapTop (fun _ => f) ∧
        f.dissolves = false ∧ f.inline = decide (slot = .phrasing) ∧
        f.toNode.unplaced = n.unplaced) : n.Returns slot := by
  intro b stream _ hread
  rw [hstream] at hread
  rcases hread.wrap with ⟨given, span, content, stop, rfl, hgiven, htitle, hcontent⟩
  rcases hinner b given span content hgiven htitle hcontent with
    ⟨f, hfeed, hdissolves, hinline, hnode⟩
  refine ⟨f.toNode, hnode, ?_⟩
  -- A link that is announced in another form is no paragraph either.
  have hgiven' : given = .paragraph ↔ n.type = .paragraph := by
    rw [← decide_eq_decide.mp hparagraph, ← hgiven]
    cases given <;> simp [Tag.formless]
  calc b.feed ((.start given, span) :: content ++ [(.close, stop)])
    _ = ((b.openTag given span).feed content).closeTop := by
      rw [List.cons_append, Builder.feed_cons, Builder.feed_append]
      rfl
    _ = b.mapTop fun g =>
        (if given = .paragraph then g.noteParagraph else g).append f.toNode f.inline := by
      rw [hfeed, Builder.closeTop_openTag b given span hdissolves]
    _ = b.mapTop (·.take (slot = .phrasing) f.toNode) := by
      simp only [Frame.take, type_of_unplaced hnode, hgiven', hinline]

/-- An element that is neither an item nor a code block returns if its children do and its frame
    closes to the node. -/
theorem returns_element (tag : Tag) (kind : Kind)
    (hstream : n.stream slot = wrap tag (streamAll n.kind.inside n.children))
    (hparagraph : decide (tag = .paragraph) = decide (n.type = .paragraph))
    (hopen : ∀ (b : Builder) given span, given.formless = tag →
      ((Event.start given).isUntitled = true → span.showsEmptyTitle b.source = false) →
      b.frameOf given span = { kind, span := some span, inline := decide (slot = .phrasing) })
    (hitem : Frame.isItem { kind, span := none } = false)
    (hcode : Frame.isCode { kind, span := none } = false)
    (hconforms : n.Conforms) (hchildren : ReturnAll n.kind.inside n.children)
    (hnode : ∀ span inline cs, cs.map unplaced = n.children.map unplaced →
      Frame.toNode { kind, span, inline, children := cs } =
        { kind := n.kind, span, children := cs }) : n.Returns slot := by
  refine returns_wrap hstream hparagraph fun b given span content hgiven htitle hcontent => ?_
  have htop : (b.openTag given span).top =
      { kind, span := some span, inline := decide (slot = .phrasing) } :=
    (b.top_openTag given span).trans (hopen b given span hgiven htitle)
  rcases hchildren (b.openTag given span) content (htop ▸ hcode)
    ((b.source_openTag given span).symm ▸ hcontent) with ⟨cs', hcs', hfeed⟩
  refine ⟨{ kind, span := some span, inline := decide (slot = .phrasing), children := cs' },
    hfeed.trans (Builder.mapTop_congr ?_), rfl, rfl, ?_⟩
  · -- The children arrive one behind the other, and no two texts among them merge.
    rw [htop]
    refine (Frame.takeAll_of_isItem
      (f := { kind, span := some span, inline := slot = .phrasing }) hitem rfl cs' _).trans ?_
    have hapart : TextsApart cs' :=
      (textsApart_congr (types_of_unplaced hcs')).mpr hconforms.texts
    rw [Frame.foldl_appendMerged_nil hapart]
  · rw [hnode _ _ _ hcs']
    exact unplaced_congr rfl hconforms.hint.symm hcs'

/-- Wherever a builder takes the stream of the node in a tight item, the item gets the node, if a
    paragraph would not go on with the one before it. -/
def ReturnsTight (n : Node) : Prop :=
  ∀ (b : Builder) (stream : List (Event × Span)), b.top.isItem = true →
    ¬ (b.top.tightParagraph = true ∧ n.type = .paragraph) →
    ReadsAs b.source stream (n.stream .tight) →
    ∃ n', n'.unplaced = n.unplaced ∧
      b.feed stream = b.mapTop fun f =>
        { f with children := f.children ++ [n'], tightParagraph := n.type = .paragraph }

/-- Only paragraphs are announced differently in tight items. -/
theorem stream_tight (h : n.type ≠ .paragraph) : n.stream .tight = n.stream .flow := by
  rcases n with ⟨kind, children, span, hint⟩
  cases kind with
  | paragraph => exact absurd rfl h
  | _ => rfl

/-- A block that is no paragraph returns in a tight item too. -/
theorem returnsTight_of_returns (hparagraph : n.type ≠ .paragraph) (htext : n.type ≠ .text)
    (h : n.Returns .flow) : n.ReturnsTight := by
  intro b stream hitem _ hread
  rw [stream_tight hparagraph] at hread
  rcases h b stream (Frame.isCode_of_isItem hitem) hread with ⟨n', hn', hfeed⟩
  refine ⟨n', hn', hfeed.trans (Builder.mapTop_congr ?_)⟩
  rw [← type_of_unplaced hn'] at hparagraph htext ⊢
  rw [Frame.take, if_neg hparagraph, Frame.append, appendMerged_of_apart fun _ _ h => htext h.2]
  simp only [reduceCtorEq, decide_false, Bool.false_and, Bool.false_eq_true, if_false,
    Bool.and_false, hparagraph]

/-- A paragraph returns in a tight item if its content returns and there is some. -/
theorem returnsTight_paragraph (hkind : n.kind = .paragraph) (hconforms : n.Conforms)
    (hne : n.children.isEmpty = false) (h : ReturnAll .phrasing n.children) : n.ReturnsTight := by
  have htype : n.type = .paragraph := by
    rw [type, hkind]
    rfl
  have hstream : n.stream .tight = streamAll .phrasing n.children := by
    rcases n with ⟨kind, children, span, hint⟩
    cases hkind
    rfl
  -- No event says that there is a paragraph: the content is what a builder gets to see.
  intro b stream hitem htight hread
  rw [hstream] at hread
  rcases h b stream (Frame.isCode_of_isItem hitem) hread with ⟨cs', hcs', hfeed⟩
  have htypes := types_of_unplaced hcs'
  have hne' : cs' ≠ [] := by
    rintro rfl
    rw [List.map_nil, eq_comm, List.map_eq_nil_iff] at hcs'
    rw [hcs'] at hne
    cases hne
  have hnone : ∀ c ∈ cs', c.type ≠ .paragraph := by
    intro c hc hparagraph
    rcases List.mem_map.mp (htypes ▸ List.mem_map_of_mem hc) with ⟨d, hd, hdc⟩
    have hadmits := hconforms.admitted d hd
    rw [hkind, hdc, hparagraph] at hadmits
    cases hadmits
  have hapart : TextsApart cs' := (textsApart_congr htypes).mpr hconforms.texts
  rcases Frame.takeAll_tight hitem (by simpa only [htype, and_true, Bool.not_eq_true] using htight)
    hne' hnone with ⟨span, heq⟩
  rw [Frame.foldl_appendMerged_nil hapart] at heq
  refine ⟨{ kind := .paragraph, span, children := cs' },
    unplaced_congr hkind.symm hconforms.hint.symm hcs', hfeed.trans (Builder.mapTop_congr ?_)⟩
  rw [decide_eq_true htype]
  exact heq

end Node

/-- The siblings in a tight item return if each of them does and no paragraph follows another.
    What the frame remembers of the last sibling is what matters for the next. -/
theorem feed_tight {cs : List Node} (h : ∀ c ∈ cs, c.ReturnsTight)
    (hchain : cs.IsChain fun a b => ¬ (a.type = .paragraph ∧ b.type = .paragraph))
    {b : Builder} {stream : List (Event × Span)} (hitem : b.top.isItem = true)
    (htight : b.top.tightParagraph = true → ∀ c ∈ cs.head?, c.type ≠ .paragraph)
    (hread : ReadsAs b.source stream (Node.streamAll .tight cs)) :
    ∃ (cs' : List Node) (tight : Bool), cs'.map Node.unplaced = cs.map Node.unplaced ∧
      b.feed stream = b.mapTop fun f =>
        { f with children := f.children ++ cs', tightParagraph := tight } := by
  induction cs generalizing b stream with
  | nil =>
      rw [hread.nil]
      refine ⟨[], b.top.tightParagraph, rfl, (Builder.mapTop_self ?_).symm⟩
      rw [List.append_nil, Builder.feed_nil]
  | cons c cs ih =>
      rw [List.forall_mem_cons] at h
      rcases List.isChain_cons.mp hchain with ⟨hnext, hrest⟩
      rcases hread.append with ⟨first, second, rfl, hfirst, hsecond⟩
      rcases h.1 b first hitem (fun h => htight h.1 c rfl h.2) hfirst with ⟨c', hc', hfeed⟩
      have hsource : (b.feed first).source = b.source := by
        rw [hfeed, Builder.source_mapTop]
      have htop : (b.feed first).top =
          { b.top with
            children := b.top.children ++ [c'], tightParagraph := c.type = .paragraph } := by
        rw [hfeed, Builder.top_mapTop]
      -- After a paragraph the item would go on with it, but then the next sibling is none.
      rcases ih h.2 hrest (b := b.feed first) (by rw [htop]; exact hitem)
        (by rw [htop]; exact fun ht d hd hdtype => hnext d hd ⟨of_decide_eq_true ht, hdtype⟩)
        (hsource ▸ hsecond) with ⟨cs', tight, hcs', hfeeds⟩
      refine ⟨c' :: cs', tight, by rw [List.map_cons, List.map_cons, hc', hcs'], ?_⟩
      rw [Builder.feed_append, hfeeds, hfeed, Builder.mapTop_mapTop]
      refine Builder.mapTop_congr ?_
      simp only [List.append_assoc, List.singleton_append]

namespace Node

variable {n : Node} {slot : Slot}

/-- An element with only one form returns if its children do. -/
theorem returns_plain (tag : Tag) {kind : Kind}
    (hstream : n.stream slot = wrap tag (streamAll n.kind.inside n.children))
    (hparagraph : decide (tag = .paragraph) = decide (n.type = .paragraph))
    (hform : tag.hasForm = false)
    (hopen : ∀ (b : Builder) span,
      b.frameOf tag span = { kind, span := some span, inline := decide (slot = .phrasing) })
    (hitem : Frame.isItem { kind, span := none } = false)
    (hcode : Frame.isCode { kind, span := none } = false)
    (hconforms : n.Conforms) (hchildren : ReturnAll n.kind.inside n.children)
    (hnode : ∀ span inline cs, cs.map unplaced = n.children.map unplaced →
      Frame.toNode { kind, span, inline, children := cs } =
        { kind := n.kind, span, children := cs }) : n.Returns slot := by
  refine returns_element tag kind hstream hparagraph (fun b given span hgiven _ => ?_) hitem hcode
    hconforms hchildren hnode
  rw [Tag.eq_of_formless hgiven hform]
  exact hopen b span

/-- The box of an item is marked while nothing else is in the item. -/
theorem feed_box {source : String} {marks : List (Event × Span)} {checked : Option Bool}
    (hread : ReadsAs source marks (checked.map Event.task).toList) (b : Builder) (span : Span) :
    (b.openTag .item span).feed marks =
      (b.openTag .item span).mapTop fun _ =>
        { kind := .listItem false checked, span := some span } := by
  rw [b.openTag_eq]
  cases checked with
  | none =>
      rw [hread.nil]
      rfl
  | some state =>
      rcases hread.single rfl with ⟨stop, rfl⟩
      rfl

/-- The blocks of an item make it the item that they belong to. In a spread one the paragraphs say
    so; in a tight one nothing does. -/
theorem feed_blocks {spread : Bool} {checked : Option Bool}
    (hkind : n.kind = .listItem spread checked) (hconforms : n.Conforms)
    (hflow : spread = true → ReturnAll .flow n.children)
    (htight : spread = false → ∀ c ∈ n.children, c.ReturnsTight) {b : Builder} {span : Option Span}
    (htop : b.top = { kind := .listItem false checked, span }) {blocks : List (Event × Span)}
    (hread : ReadsAs b.source blocks (streamAll n.kind.inside n.children)) :
    ∃ (cs' : List Node) (tight : Bool), cs'.map unplaced = n.children.map unplaced ∧
      b.feed blocks = b.mapTop fun _ =>
        { kind := .listItem spread checked, span, children := cs', tightParagraph := tight } := by
  have hfits := hconforms.spread
  rw [SpreadFits, hkind] at hfits
  rw [hkind] at hread
  cases spread with
  | true =>
      rcases hflow rfl b blocks (by rw [htop]; rfl) hread with ⟨cs', hcs', hfeed⟩
      have htypes := types_of_unplaced hcs'
      rcases hfits with ⟨c, hc, hparagraph⟩
      -- One of the children is a paragraph, and it makes the item spread.
      have hany : cs'.any (·.type = .paragraph) = true := by
        rcases List.mem_map.mp (htypes ▸ List.mem_map_of_mem (f := type) hc) with ⟨d, hd, hdc⟩
        exact List.any_eq_true.mpr ⟨d, hd, decide_eq_true (hdc.trans hparagraph)⟩
      refine ⟨cs', false, hcs', hfeed.trans (Builder.mapTop_congr ?_)⟩
      rw [htop]
      refine (Frame.takeAll_spread (f := { kind := .listItem false checked, span }) rfl rfl
        ((textsApart_congr htypes).mpr hconforms.texts)).trans ?_
      rw [hany]
      rfl
  | false =>
      -- In a tight item no paragraph is announced, so the item stays tight.
      rcases feed_tight (htight rfl) hfits.2 (by rw [htop]; rfl)
        (by rw [htop]; exact fun h => absurd h Bool.false_ne_true) hread with
        ⟨cs', tight, hcs', hfeed⟩
      refine ⟨cs', tight, hcs', hfeed.trans (Builder.mapTop_congr ?_)⟩
      rw [htop]
      rfl

/-- An item returns if its blocks do, in the way that goes with it. -/
theorem returns_item {spread : Bool} {checked : Option Bool}
    (hkind : n.kind = .listItem spread checked) (hconforms : n.Conforms)
    (hflow : spread = true → ReturnAll .flow n.children)
    (htight : spread = false → ∀ c ∈ n.children, c.ReturnsTight) : n.Returns .item := by
  have hstream : n.stream .item =
      wrap .item ((checked.map Event.task).toList ++ streamAll n.kind.inside n.children) := by
    rcases n with ⟨kind, children, span, hint⟩
    cases hkind
    rfl
  have htype : n.type = .listItem := by
    rw [type, hkind]
    rfl
  refine returns_wrap hstream (by rw [htype]; rfl) fun b given span content hgiven _ hcontent => ?_
  rw [Tag.eq_of_formless hgiven rfl]
  -- The box of a task comes first, and then the blocks.
  rcases hcontent.append with ⟨marks, blocks, rfl, hmarks, hblocks⟩
  have hbox := feed_box hmarks b span
  have hsource : ((b.openTag .item span).feed marks).source = b.source := by
    rw [hbox, Builder.source_mapTop, Builder.source_openTag]
  rcases feed_blocks hkind hconforms hflow htight (by rw [hbox, Builder.top_mapTop])
    (hsource ▸ hblocks) with ⟨cs', tight, hcs', hfeed⟩
  rw [hbox, Builder.mapTop_mapTop] at hfeed
  rw [Builder.feed_append, hbox]
  exact ⟨_, hfeed, rfl, rfl, unplaced_congr hkind.symm hconforms.hint.symm hcs'⟩

/-- An element with one event inside returns if that event puts into the frame what makes it close
    to the node. -/
theorem returns_filled (tag : Tag) (event : Event) (hstream : n.stream slot = wrap tag [event])
    (hparagraph : decide (tag = .paragraph) = decide (n.type = .paragraph))
    (hopens : event.opens = false) (hconforms : n.Conforms)
    (hinside : n.kind.inside = .nowhere)
    (hpush : ∀ (b : Builder) given span stop, given.formless = tag → ∃ f : Frame,
      (b.openTag given span).push event stop = (b.openTag given span).mapTop (fun _ => f) ∧
      f.dissolves = false ∧ f.inline = decide (slot = .phrasing) ∧
      f.toNode = { kind := n.kind, span := some span }) : n.Returns slot := by
  refine returns_wrap hstream hparagraph fun b given span content hgiven _ hcontent => ?_
  rcases hcontent.single hopens with ⟨stop, rfl⟩
  rcases hpush b given span stop hgiven with ⟨f, hfeed, hdissolves, hinline, hnode⟩
  refine ⟨f, hfeed, hdissolves, hinline, ?_⟩
  rw [hnode]
  refine unplaced_congr rfl hconforms.hint.symm ?_
  rw [children_of_inside hconforms hinside]

end Node

/-- The language of a block is the one word that was given for it. -/
theorem language?_word {lang : Option String} {value : String}
    (h : (Kind.code lang value).IsSound) : Builder.language? (lang.getD "") = lang := by
  cases lang with
  | none => rfl
  | some word =>
      rcases h with ⟨hne, hany⟩
      have hword : ∀ c ∈ word.toList, Text.isBlank c = false := by
        intro c hc
        exact Bool.eq_false_iff.mpr (List.any_eq_false.mp hany c hc)
      have hdrop : word.toList.dropWhile Text.isBlank = word.toList := by
        rw [List.dropWhile_eq_self_iff]
        intro hpos
        rw [hword _ (List.getElem_mem hpos)]
        exact Bool.false_ne_true
      have htake : word.toList.takeWhile (!Text.isBlank ·) = word.toList := by
        rw [List.takeWhile_eq_self_iff]
        exact fun c hc => by rw [hword c hc, Bool.not_false]
      rw [Builder.language?, Option.getD_some, Text.firstWord?, hdrop, htake]
      split
      · next hnil => exact absurd (String.toList_eq_nil_iff.mp hnil) hne
      · rw [Option.map_some, String.ofList_toList]

/-- Closing a code block takes one line ending off. -/
theorem toNode_code (lang : Option String) (value : String) (span : Option Span) :
    Frame.toNode { kind := .code lang (value ++ "\n"), span } =
      { kind := .code lang value, span } := by
  have hlines : (value ++ "\n").toList.reverse = '\n' :: value.toList.reverse := by
    rw [String.toList_append, List.reverse_append]
    rfl
  simp only [Frame.toNode, hlines, List.reverse_reverse, String.ofList_toList]

/-- A title is what the event says, if that says something, and the source shows no other. -/
theorem linkTitle_getD {title : Option String} (h : title ≠ some "") {b : Builder}
    {form : LinkForm} {span : Span}
    (hform : title = none → form = .inline → span.showsEmptyTitle b.source = false) :
    b.linkTitle form (title.getD "") span = title := by
  cases title with
  | none =>
      rw [Builder.linkTitle, Option.getD_none, if_neg (by decide), if_neg]
      rw [Bool.and_eq_true, decide_eq_true_eq]
      rintro ⟨hinline, hshows⟩
      exact Bool.false_ne_true ((hform rfl hinline).symm.trans hshows)
  | some title =>
      rw [Builder.linkTitle, Option.getD_some, if_pos]
      rw [Bool.not_eq_true', String.isEmpty_eq_false_iff]
      exact fun hempty => h (congrArg some hempty)

/-- An image has no title if the event says nothing. -/
theorem imageTitle_getD {title : Option String} (h : title ≠ some "") :
    (if (title.getD "").isEmpty then none else some (title.getD "")) = title := by
  cases title with
  | none => rfl
  | some title =>
      rw [Option.getD_some, if_neg]
      rw [String.isEmpty_iff]
      exact fun hempty => h (congrArg some hempty)

namespace Node

variable {n : Node} {slot : Slot}

/-- A block returns if its children do. -/
theorem returns_flow (hconforms : n.Conforms) (hadmits : Slot.flow.admits n.type = true)
    (hchildren : ReturnAll n.kind.inside n.children) : n.Returns .flow := by
  rcases n with ⟨kind, children, span, hint⟩
  cases kind with
  | paragraph =>
      exact returns_plain .paragraph rfl rfl rfl (fun _ _ => rfl) rfl rfl hconforms hchildren
        fun _ _ _ _ => rfl
  | heading depth =>
      exact returns_plain (.heading depth) rfl rfl rfl (fun _ _ => rfl) rfl rfl hconforms hchildren
        fun _ _ _ _ => rfl
  | blockquote =>
      exact returns_plain .blockquote rfl rfl rfl (fun _ _ => rfl) rfl rfl hconforms hchildren
        fun _ _ _ _ => rfl
  | table align =>
      exact returns_plain (.table align) rfl rfl rfl (fun _ _ => rfl) rfl rfl hconforms hchildren
        fun _ _ _ _ => rfl
  | list ordered start spread =>
      -- On closing, a list finds out from its items whether it is spread.
      refine returns_plain (.list start) rfl rfl rfl (fun _ _ => rfl) rfl rfl hconforms hchildren
        fun span inline cs hcs => ?_
      have hordered : ordered = start.isSome := hconforms.sound
      have hspread : spread = children.any isSpreadItem := hconforms.spread
      rw [Frame.toNode, hordered, hspread, any_isSpreadItem_of_unplaced hcs]
  | thematicBreak =>
      exact returns_single .rule rfl rfl (fun h => NodeType.noConfusion h) hconforms rfl
        fun _ _ _ => rfl
  | code lang value =>
      -- The line ending of the last line comes with the text, and closing takes it off.
      refine returns_filled (.fencedCode (lang.getD "")) (.text (value ++ "\n")) rfl rfl rfl
        hconforms rfl fun b given span stop hgiven =>
          ⟨{ kind := .code lang (value ++ "\n"), span := some span }, ?_, rfl, rfl,
            toNode_code lang value (some span)⟩
      rw [Tag.eq_of_formless hgiven rfl, b.openTag_eq, ← String.empty_append (s := value ++ "\n"),
        Builder.frameOf, language?_word hconforms.sound]
      rfl
  | html value =>
      refine returns_filled .htmlBlock (.html value) rfl rfl rfl hconforms rfl
        fun b given span stop hgiven =>
          ⟨{ kind := .html value, span := some span }, ?_, rfl, rfl, rfl⟩
      rw [Tag.eq_of_formless hgiven rfl, b.openTag_eq, ← String.empty_append (s := value)]
      rfl
  | _ => cases hadmits

/-- A link returns if its text does, in whatever form it was written. -/
theorem returns_link {url : String} {title : Option String} (hkind : n.kind = .link url title)
    (hconforms : n.Conforms) (hchildren : ReturnAll n.kind.inside n.children) :
    n.Returns .phrasing := by
  have hsound := hconforms.sound
  rcases n with ⟨kind, children, span, hint⟩
  cases hkind
  refine returns_element (.link .inline url (title.getD "")) (.link url title) rfl rfl ?_ rfl
    rfl hconforms hchildren fun _ _ _ _ => rfl
  intro b given span hgiven htitles
  cases given with
  | link form url' title' =>
      cases hgiven
      rw [Builder.frameOf, linkTitle_getD hsound fun hnone hinline =>
        htitles (by rw [hnone, hinline]; rfl)]
      rfl
  | _ => cases hgiven

/-- An image returns: its description is the text that was inside. -/
theorem returns_image {url alt : String} {title : Option String}
    (hkind : n.kind = .image url title alt) (hconforms : n.Conforms) : n.Returns .phrasing := by
  have hsound := hconforms.sound
  rcases n with ⟨kind, children, span, hint⟩
  cases hkind
  -- Until the frame closes, the description is a text in it.
  refine returns_filled (.image .inline url (title.getD "")) (.text alt) rfl rfl rfl hconforms rfl
    fun b given span stop hgiven => ⟨
      { kind := .image url title ""
        span := some span
        inline := true
        children := [{ kind := .text alt, span := some stop }] }, ?_, rfl, rfl, ?_⟩
  · cases given with
    | image form url' title' =>
        cases hgiven
        have hframe : b.frameOf (.image form url (title.getD "")) span =
            { kind := .image url title "", span := some span, inline := true } := by
          rw [Builder.frameOf, imageTitle_getD hsound]
        rw [b.openTag_eq, hframe]
        rfl
    | _ => cases hgiven
  · rw [Frame.toNode, List.map_singleton, plainText_leaf rfl, String.join_cons, String.join_nil,
      String.append_empty]
    rfl

/-- A piece of running text returns if its children do. -/
theorem returns_phrasing (hconforms : n.Conforms) (hadmits : Slot.phrasing.admits n.type = true)
    (hchildren : ReturnAll n.kind.inside n.children) : n.Returns .phrasing := by
  rcases n with ⟨kind, children, span, hint⟩
  cases kind with
  | emphasis =>
      exact returns_plain .emphasis rfl rfl rfl (fun _ _ => rfl) rfl rfl hconforms hchildren
        fun _ _ _ _ => rfl
  | strong =>
      exact returns_plain .strong rfl rfl rfl (fun _ _ => rfl) rfl rfl hconforms hchildren
        fun _ _ _ _ => rfl
  | delete =>
      exact returns_plain .strikethrough rfl rfl rfl (fun _ _ => rfl) rfl rfl hconforms hchildren
        fun _ _ _ _ => rfl
  | link url title => exact returns_link rfl hconforms hchildren
  | image url title alt => exact returns_image rfl hconforms
  | text value =>
      exact returns_single (.text value) rfl rfl (fun h => NodeType.noConfusion h) hconforms rfl
        fun b span hcode => b.addText_of_isCode hcode value span
  | inlineCode value =>
      exact returns_single (.code value) rfl rfl (fun h => NodeType.noConfusion h) hconforms rfl
        fun _ _ _ => rfl
  | html value =>
      exact returns_single (.inlineHtml value) rfl rfl (fun h => NodeType.noConfusion h) hconforms
        rfl fun _ _ _ => rfl
  | hardBreak =>
      exact returns_single .hardBreak rfl rfl (fun h => NodeType.noConfusion h) hconforms rfl
        fun _ _ _ => rfl
  | _ => cases hadmits

/-- A row of a table returns if its cells do, whether or not it is the head. -/
theorem returns_row (hconforms : n.Conforms) (hslot : slot = .head ∨ slot = .row)
    (hadmits : slot.admits n.type = true) (hchildren : ReturnAll n.kind.inside n.children) :
    n.Returns slot := by
  rcases n with ⟨kind, children, span, hint⟩
  rcases hslot with rfl | rfl
  · cases kind with
    | tableRow =>
        exact returns_plain .tableHead rfl rfl rfl (fun _ _ => rfl) rfl rfl hconforms hchildren
          fun _ _ _ _ => rfl
    | _ => cases hadmits
  · cases kind with
    | tableRow =>
        exact returns_plain .tableRow rfl rfl rfl (fun _ _ => rfl) rfl rfl hconforms hchildren
          fun _ _ _ _ => rfl
    | _ => cases hadmits

/-- A cell of a table returns if its text does. -/
theorem returns_cell (hconforms : n.Conforms) (hadmits : Slot.cell.admits n.type = true)
    (hchildren : ReturnAll n.kind.inside n.children) : n.Returns .cell := by
  rcases n with ⟨kind, children, span, hint⟩
  cases kind with
  | tableCell =>
      exact returns_plain .tableCell rfl rfl rfl (fun _ _ => rfl) rfl rfl hconforms hchildren
        fun _ _ _ _ => rfl
  | _ => cases hadmits

/-- Only items are tight inside. -/
theorem type_of_inside (h : n.kind.inside = .tight) : n.type = .listItem := by
  rcases n with ⟨kind, children, span, hint⟩
  cases kind with
  | listItem => rfl
  | _ => cases h

/-- An element that is no item returns by its slot, since its children do in theirs. -/
theorem returns_of_children (hconforms : n.Conforms) (hitem : n.type ≠ .listItem)
    (hchildren : ReturnAll n.kind.inside n.children) {slot : Slot} (hslot : slot ≠ .tight)
    (hadmits : slot.admits n.type = true) : n.Returns slot := by
  cases slot with
  | flow => exact returns_flow hconforms hadmits hchildren
  | phrasing => exact returns_phrasing hconforms hadmits hchildren
  | head => exact returns_row hconforms (.inl rfl) hadmits hchildren
  | row => exact returns_row hconforms (.inr rfl) hadmits hchildren
  | cell => exact returns_cell hconforms hadmits hchildren
  | item => exact absurd (of_decide_eq_true hadmits) hitem
  | tight => exact absurd rfl hslot
  | nowhere => cases hadmits

/-- An item returns among items. Which way its children have to return is for its kind to say. -/
theorem returns_listItem (hconforms : n.Conforms) (hitem : n.type = .listItem)
    (hflow : (∀ c ∈ n.children, Slot.flow.admits c.type = true) → ReturnAll .flow n.children)
    (htight : ∀ c ∈ n.children, Slot.tight.admits c.type = true →
      (c.type = .paragraph → c.children.isEmpty = false) → c.ReturnsTight)
    {slot : Slot} (hslot : slot ≠ .tight) (hadmits : slot.admits n.type = true) :
    n.Returns slot := by
  cases slot with
  | item =>
      rcases exists_listItem_of_type hitem with ⟨spread, checked, hkind⟩
      refine returns_item hkind hconforms (fun hspread => hflow ?_) fun hspread c hc => ?_
      · have hadmitted := hconforms.admitted
        rwa [hkind, hspread] at hadmitted
      · have hadmitted := hconforms.admitted c hc
        have hfits := hconforms.spread
        rw [hkind, hspread] at hadmitted
        rw [SpreadFits, hkind, hspread] at hfits
        exact htight c hc hadmitted (hfits.1 c hc)
  | tight => exact absurd rfl hslot
  | _ => rw [hitem] at hadmits; cases hadmits

/-- A sound node returns wherever it may stand, and in a tight item too if it is not an empty
    paragraph. The induction is on the tree; where a node stands in its parent decides which half
    of the hypothesis is needed for it. -/
theorem returns {n : Node} (hsound : n.IsSound) :
    (∀ slot, slot ≠ .tight → slot.admits n.type = true → n.Returns slot) ∧
      (Slot.tight.admits n.type = true →
        (n.type = .paragraph → n.children.isEmpty = false) → n.ReturnsTight) := by
  induction n using induct with
  | h n ih =>
      rcases isSound_iff.mp hsound with ⟨hconforms, hbelow⟩
      -- The first half for the children, in any slot that admits all of them.
      have hall (slot : Slot) (hslot : slot ≠ .tight)
          (hadmits : ∀ c ∈ n.children, slot.admits c.type = true) : ReturnAll slot n.children :=
        returnAll_of_returns hslot hadmits fun c hc => (ih c hc (hbelow c hc)).1
      have hchildren (hitem : n.type ≠ .listItem) : ReturnAll n.kind.inside n.children :=
        hall n.kind.inside (fun h => hitem (type_of_inside h)) hconforms.admitted
      have hreturns (slot : Slot) (hslot : slot ≠ .tight)
          (hadmits : slot.admits n.type = true) : n.Returns slot := by
        by_cases htype : n.type = .listItem
        · exact returns_listItem hconforms htype (hall .flow (by decide))
            (fun c hc => (ih c hc (hbelow c hc)).2) hslot hadmits
        · exact returns_of_children hconforms htype (hchildren htype) hslot hadmits
      -- In a tight item a paragraph is bare, and every other block stands as it does elsewhere.
      refine ⟨hreturns, fun hadmits hne => ?_⟩
      by_cases htype : n.type = .paragraph
      · have hkind := kind_of_paragraph htype
        have hcontent := hchildren (by rw [htype]; exact fun h => NodeType.noConfusion h)
        rw [hkind] at hcontent
        exact returnsTight_paragraph hkind hconforms (hne htype) hcontent
      · refine returnsTight_of_returns htype (fun h => ?_) (hreturns .flow (by decide) hadmits)
        rw [h] at hadmits
        cases hadmits

end Node

/-- The children that the root gets are the children of the tree. -/
theorem ofEvents_of_feed {source : String} {stream : List (Event × Span)} {cs : List Node}
    (hapart : TextsApart cs)
    (hfeed : (Builder.new source).feed stream =
      (Builder.new source).mapTop fun f => cs.foldl (Frame.take false) f) :
    Node.ofEvents source stream =
      { kind := .root, span := some ⟨0, Text.size source⟩, children := cs } := by
  have hroot := Frame.takeAll_of_isItem (f := (Builder.new source).root) rfl rfl cs false
  have hchildren : cs.foldl appendMerged (Builder.new source).root.children = cs :=
    Frame.foldl_appendMerged_nil hapart
  rw [hchildren] at hroot
  calc Node.ofEvents source stream
    _ = ((Builder.new source).feed stream).finish := rfl
    _ = (cs.foldl (Frame.take false) (Builder.new source).root).toNode := by
      rw [hfeed]
      rfl
    _ = { kind := .root, span := some ⟨0, Text.size source⟩, children := cs } := by
      rw [hroot]
      rfl

/-- The stream of a canonical tree gives back the tree, spans aside: wherever the events came from
    and however links and images were written, as long as no link without a title shows an empty
    one. -/
theorem unplaced_ofEvents {n : Node} (hcanonical : n.IsCanonical) {source : String}
    {stream : List (Event × Span)} (hread : ReadsAs source stream (n.stream .flow)) :
    (Node.ofEvents source stream).unplaced = n.unplaced := by
  rcases hcanonical with ⟨hkind, hsound⟩
  rcases Node.isSound_iff.mp hsound with ⟨hconforms, hbelow⟩
  have hstream : n.stream .flow = Node.streamAll .flow n.children := by
    rcases n with ⟨kind, children, span, hint⟩
    cases hkind
    rfl
  have hadmitted := hconforms.admitted
  rw [hkind] at hadmitted
  have hreturn : ReturnAll .flow n.children := returnAll_of_returns (by decide) hadmitted
    fun c hc => (Node.returns (hbelow c hc)).1
  rw [hstream] at hread
  rcases hreturn (Builder.new source) stream rfl hread with ⟨cs, hcs, hfeed⟩
  have hapart : TextsApart cs :=
    (textsApart_congr (types_of_unplaced hcs)).mpr hconforms.texts
  rw [ofEvents_of_feed hapart hfeed]
  exact Node.unplaced_congr hkind.symm hconforms.hint.symm hcs

/-- What is read from a list with a tight list in it, a link by reference and a task box. -/
theorem unplaced_ofEvents_nested_list :
    let source := "1. a\n\n   - [x] b [c]\n   - ![d](e)\n\n[c]: u\n"
    let task : Node :=
      { kind := .listItem false (some true)
        children := [.paragraph [.text "b ", { kind := .link "u" none, children := [.text "c"] }]] }
    let picture : Node :=
      { kind := .listItem false none, children := [.paragraph [{ kind := .image "e" none "d" }]] }
    let inner : Node := { kind := .list false none false, children := [task, picture] }
    let item : Node :=
      { kind := .listItem true none, children := [.paragraph [.text "a"], inner] }
    let tree := Node.root [{ kind := .list true (some 1) true, children := [item] }]
    tree.IsCanonical ∧ ReadsAs source (events {} source) (tree.stream .flow) ∧
      (Node.ofMarkdown {} source).unplaced = tree.unplaced := by
  intro source task picture inner item tree
  have hcanonical : tree.IsCanonical := by decide +kernel
  have hread : ReadsAs source (events {} source) (tree.stream .flow) := by decide +kernel
  exact ⟨hcanonical, hread, unplaced_ofEvents hcanonical hread⟩

end Anchormark
