import Anchormark.Proofs.Node.Fresh

/-!
# No Text Gets Lost

Text takes many ways into a tree. It joins the text before it, it is put into a paragraph of a
tight item, it goes up one level when the element around it dissolves, and inside an image it ends
up in the description. None of these ways loses a character or changes the order, and that does
not depend on whether the stream balances.

What carries the proof is the text of everything that is open, from the root inwards. Only the
innermost frame ever receives anything, and it receives it at the end, so an event that brings text
puts it behind all the text so far. Closing a frame moves its text to the end of the frame around
it, which is where it was counted already.

The exception is a code block, whose lines are not text of the document. Whether one is innermost
can be told from the stream alone, by counting what is open.

## Main definitions

* `Event.nest`: which of the open elements are code blocks.
* `Event.payload`: the text that an event brings.
* `Event.plainText`: the text that a stream brings.
* `Frame.plainText`, `Builder.plainText`: the text of what is open.

## Theorems

* `Node.plainText_eq`: The text of a tree is its own and that of its children.
* `Frame.plainText_append`: Appending a node appends its text.
* `Frame.plainText_toNode`: A closed frame has the text that it had.
* `Builder.plainText_push`: Every event appends what it brings.
* `plainText_ofEvents`: The tree of a stream has the text of the stream.
-/

namespace Anchormark

/-- The tag opens a code block. -/
def Tag.isCode : Tag → Bool
  | .fencedCode _ | .indentedCode => true
  | _ => false

namespace Event

/-- For each open element, innermost first, whether it is a code block, once the event is over.
    A surplus closing event closes nothing. -/
def nest (opened : List Bool) : Event → List Bool
  | .start tag => tag.isCode :: opened
  | .close => opened.tail
  | _ => opened

/-- The text that an event brings. Text and line endings in a code block are lines of code. -/
def payload (inCode : Bool) : Event → String
  | .text value => if inCode then "" else value
  | .softBreak => if inCode then "" else "\n"
  | .code value => value
  | _ => ""

/-- The text that a stream brings, when these elements are open before it. -/
def plainText (opened : List Bool) : List Event → String
  | [] => ""
  | e :: rest => e.payload (opened.headD false) ++ plainText (e.nest opened) rest

end Event

namespace Node

/-- The text of several walks is what each of them has. -/
theorem join_flatMap_walk (cs : List Node) :
    String.join ((cs.flatMap walk).map fun m => m.kind.ownText) =
      String.join (cs.map plainText) := by
  induction cs with
  | nil => rfl
  | cons c cs ih =>
      rw [List.flatMap_cons, List.map_append, String.join_append, ih, List.map_cons,
        String.join_cons]
      rfl

/-- The text of a tree is its own and that of its children. -/
theorem plainText_eq (n : Node) :
    n.plainText = n.kind.ownText ++ String.join (n.children.map plainText) := by
  rw [plainText, walk_eq, List.map_cons, String.join_cons, join_flatMap_walk]

/-- A node without children has its own text only. -/
theorem plainText_leaf {n : Node} (h : n.children = []) : n.plainText = n.kind.ownText := by
  rw [plainText_eq, h, List.map_nil, String.join_nil, String.append_empty]

end Node

/-- Appending a node appends its text, whether or not it joins the text before it: texts are
    leaves, so nothing stands between the two values. -/
theorem join_appendMerged {cs : List Node} {n : Node} (hcs : ∀ c ∈ cs, c.IsFresh)
    (hn : n.IsFresh) : String.join ((appendMerged cs n).map Node.plainText) =
      String.join (cs.map Node.plainText) ++ n.plainText := by
  have hjoin (front : List Node) (last : Node) :
      String.join ((front ++ [last]).map Node.plainText) =
        String.join (front.map Node.plainText) ++ last.plainText := by
    rw [List.map_append, String.join_append, List.map_singleton, String.join_cons,
      String.join_nil, String.append_empty]
  rcases appendMerged_cases cs n with ⟨heq, -⟩ | ⟨front, last, merged, rfl, hmerge, heq⟩
  · rw [heq, hjoin]
  · rcases Node.mergeText?_eq_some hmerge with ⟨value, incoming, span, hlast, hkind, rfl⟩
    rw [List.forall_mem_append, List.forall_mem_singleton] at hcs
    have hleaf : last.children = [] :=
      (Node.isFresh_iff.mp hcs.2).2.2.1 (by rw [Node.type, hlast]; rfl)
    have hleaf' : n.children = [] :=
      (Node.isFresh_iff.mp hn).2.2.1 (by rw [Node.type, hkind]; rfl)
    rw [heq, hjoin, hjoin, Node.plainText_leaf hleaf, Node.plainText_leaf hleaf',
      Node.plainText_leaf (n := { last with kind := .text (value ++ incoming), span }) hleaf,
      hlast, hkind, String.append_assoc]
    rfl

namespace Frame

/-- The text of the finished children. -/
def plainText (f : Frame) : String :=
  String.join (f.children.map Node.plainText)

/-- A fresh frame that has no text of its own before it is closed. -/
structure IsSilent (f : Frame) : Prop where
  fresh : f.IsFresh
  own : f.kind.ownText = ""

/-- Appending a node appends its text. -/
theorem plainText_append {f : Frame} (h : f.IsFresh) {n : Node} (hn : n.IsFresh) (inline : Bool) :
    (f.append n inline).plainText = f.plainText ++ n.plainText := by
  have happended := appended (fun ht => (h.tight ht).2) n inline
  generalize f.append n inline = g at happended ⊢
  cases happended with
  | among => exact join_appendMerged h.children hn
  | wrapped =>
      -- A paragraph around the node has no text but that of the node.
      rw [plainText, List.map_append, String.join_append, List.map_singleton, String.join_cons,
        String.join_nil, String.append_empty, Node.plainText_eq]
      simp only [Kind.ownText, List.map_cons, List.map_nil, String.join_cons, String.join_nil,
        String.append_empty, String.empty_append]
      rfl
  | @grown front paragraph span hinline hitem htight hchildren hkind =>
      have hfresh := h.children
      rw [hchildren, List.forall_mem_append, List.forall_mem_singleton] at hfresh
      have hinner := (Node.isFresh_iff.mp hfresh.2).2.2.2
      simp only [plainText, hchildren, List.map_append, String.join_append, List.map_cons,
        List.map_nil, String.join_cons, String.join_nil, String.append_empty,
        Node.plainText_eq paragraph, Node.plainText_eq { paragraph with
          span, children := appendMerged paragraph.children n },
        join_appendMerged hinner hn, String.append_assoc]

/-- A closed frame has the text that it had: of an image it is the description, and a code block
    does not count its lines. -/
theorem plainText_toNode {f : Frame} (h : f.IsSilent) : f.toNode.plainText = f.plainText := by
  unfold toNode
  split
  · rw [Node.plainText_leaf rfl]
    rfl
  · rw [Node.plainText_eq]
    exact String.empty_append
  · rw [Node.plainText_eq]
    exact String.empty_append
  · rw [Node.plainText_eq, h.own]
    exact String.empty_append

end Frame

namespace Builder

/-- No frame has text of its own throughout a run. -/
theorem invariant_isSilent : Invariant Frame.IsSilent fun n _ => n.IsFresh where
  root source := ⟨invariant_isFresh.root source, rfl⟩
  frameOf b tag span := by
    refine ⟨invariant_isFresh.frameOf b tag span, ?_⟩
    cases tag <;> rfl
  leaf := invariant_isFresh.leaf
  edit {f g} hf hedit := by
    refine ⟨Frame.isFresh_edit hf.fresh hedit, ?_⟩
    cases hedit with
    | @append n inline _ =>
        rcases f.append_eq n inline with ⟨children, tight, heq⟩
        rw [heq]
        exact hf.own
    | paragraph | task | code | html => rfl
  closed hf _ := Frame.isFresh_toNode hf.fresh
  dissolved hf _ := hf.fresh.children

/-- The text of everything that is open, from the root inwards. -/
def plainText (b : Builder) : String :=
  b.root.plainText ++ String.join (b.frames.reverse.map Frame.plainText)

/-- For each open element, innermost first, whether it is a code block. -/
def nesting (b : Builder) : List Bool :=
  b.frames.map Frame.isCode

/-- The innermost frame has its text at the end. -/
theorem plainText_cons (source : String) (top : Frame) (rest : List Frame) (root : Frame) :
    plainText ⟨source, top :: rest, root⟩ = plainText ⟨source, rest, root⟩ ++ top.plainText := by
  simp only [plainText, List.reverse_cons, List.map_append, List.map_cons, List.map_nil,
    String.join_append, String.join_cons, String.join_nil, String.append_empty,
    String.append_assoc]

/-- Text that is put at the end of the innermost frame is put behind all text. -/
theorem plainText_mapTop {b : Builder} {g : Frame → Frame} (added : String)
    (h : (g b.top).plainText = b.top.plainText ++ added) :
    (b.mapTop g).plainText = b.plainText ++ added := by
  rcases b with ⟨source, frames, root⟩
  cases frames with
  | nil =>
      change (g root).plainText = root.plainText ++ added at h
      rw [mapTop, plainText, plainText, List.reverse_nil, List.map_nil, String.join_nil,
        String.append_empty, String.append_empty, h]
  | cons first rest =>
      rw [mapTop, plainText_cons, plainText_cons, String.append_assoc]
      exact congrArg _ h

/-- A change that brings no text leaves the text alone. -/
theorem plainText_mapTop_self {b : Builder} {g : Frame → Frame}
    (h : (g b.top).plainText = b.top.plainText) : (b.mapTop g).plainText = b.plainText := by
  rw [plainText_mapTop "" (h.trans String.append_empty.symm), String.append_empty]

theorem plainText_append {b : Builder} (h : b.All Frame.IsSilent) {n : Node} (hn : n.IsFresh)
    (inline : Bool) : (b.append n inline).plainText = b.plainText ++ n.plainText :=
  plainText_mapTop _ (Frame.plainText_append h.top.fresh hn inline)

/-- Children that go on one by one stand each behind the text of those before it. -/
theorem plainText_appendAll {cs : List Node} (hcs : ∀ c ∈ cs, c.IsFresh) {b : Builder}
    (hb : b.All Frame.IsSilent) :
    (cs.foldl (fun b n => b.append n n.kind.isInline) b).plainText =
      b.plainText ++ String.join (cs.map Node.plainText) := by
  induction cs generalizing b with
  | nil =>
      rw [List.map_nil, String.join_nil, String.append_empty]
      rfl
  | cons c cs ih =>
      rw [List.forall_mem_cons] at hcs
      rw [List.foldl_cons, ih hcs.2 (invariant_isSilent.append hb hcs.1),
        plainText_append hb hcs.1, List.map_cons, String.join_cons, String.append_assoc]

/-- Closing keeps the text: what leaves the innermost frame arrives at the end of the next. -/
theorem plainText_closeTop {b : Builder} (h : b.All Frame.IsSilent) :
    b.closeTop.plainText = b.plainText := by
  rcases b with ⟨source, frames, root⟩
  cases frames with
  | nil => rfl
  | cons top rest =>
      have htop : top.IsSilent := h.frames top List.mem_cons_self
      have hbelow : All Frame.IsSilent ⟨source, rest, root⟩ :=
        ⟨h.root_kind, h.root, fun f hf => h.frames f (List.mem_cons_of_mem top hf)⟩
      rw [plainText_cons, closeTop]
      dsimp only
      split
      · exact plainText_appendAll htop.fresh.children hbelow
      · rw [plainText_append hbelow (Frame.isFresh_toNode htop.fresh),
          Frame.plainText_toNode htop]

/-- A change that does not turn the innermost frame into a code block keeps the nesting. -/
theorem nesting_mapTop {b : Builder} {g : Frame → Frame} (h : (g b.top).isCode = b.top.isCode) :
    (b.mapTop g).nesting = b.nesting := by
  rcases b with ⟨source, frames, root⟩
  cases frames with
  | nil => rfl
  | cons first rest =>
      rw [mapTop, nesting, nesting, List.map_cons, List.map_cons]
      exact congrArg (· :: rest.map Frame.isCode) h

theorem nesting_append (b : Builder) (n : Node) (inline : Bool) :
    (b.append n inline).nesting = b.nesting :=
  map_frames_append Frame.isCode_append b n inline

theorem nesting_closeTop (b : Builder) : b.closeTop.nesting = b.nesting.tail :=
  map_frames_closeTop Frame.isCode_append b

theorem nesting_markTask (checked : Bool) (frames : List Frame) :
    (markTask checked frames).map Frame.isCode = frames.map Frame.isCode := by
  induction frames with
  | nil => rfl
  | cons first rest ih =>
      unfold markTask
      split
      · next hkind =>
          rw [List.map_cons, List.map_cons, Frame.isCode, Frame.isCode, hkind]
      · rw [List.map_cons, List.map_cons, ih]

/-- A stream tells which of the open elements are code blocks. -/
theorem nesting_push (b : Builder) (event : Event) (span : Span) :
    (b.push event span).nesting = event.nest b.nesting := by
  cases event with
  | start tag =>
      -- Noting a paragraph changes an item, and an item is no code block.
      have hnoted : (if tag = .paragraph then b.mapTop Frame.noteParagraph else b).nesting =
          b.nesting := by
        split
        · exact nesting_mapTop (Frame.isCode_noteParagraph b.top)
        · rfl
      rw [push, openTag, Event.nest, ← hnoted, nesting, List.map_cons]
      refine congrArg (· :: _) ?_
      cases tag <;> rfl
  | close => exact nesting_closeTop b
  | text value | softBreak =>
      rw [push, addText]
      split
      · next hkind =>
          refine nesting_mapTop ?_
          rw [Frame.isCode, Frame.isCode, hkind]
      · exact nesting_append _ _ _
  | html value =>
      rw [push, addHtml]
      split
      · next hkind =>
          refine nesting_mapTop ?_
          rw [Frame.isCode, Frame.isCode, hkind]
      · exact nesting_append _ _ _
  | task checked => exact nesting_markTask checked b.frames
  | code | inlineHtml | hardBreak | rule => exact nesting_append _ _ _
  | inlineMath | displayMath | footnoteReference => rfl

/-- The innermost element is a code block if the nesting says so. The root is none. -/
theorem headD_nesting {b : Builder} (h : b.root.kind = .root) :
    b.nesting.headD false = b.top.isCode := by
  rcases b with ⟨source, frames, root⟩
  cases frames with
  | nil =>
      rw [top, List.headD_nil, Frame.isCode, show root.kind = .root from h]
      rfl
  | cons first rest => rfl

/-- Text goes into an open code block, where it does not count, or becomes a node. -/
theorem plainText_addText {b : Builder} (h : b.All Frame.IsSilent) (value : String) (span : Span) :
    (b.addText value span).plainText =
      b.plainText ++ if b.nesting.headD false then "" else value := by
  rw [headD_nesting h.root_kind]
  cases hcode : b.top.isCode with
  | true =>
      rw [addText]
      split
      · rw [plainText_mapTop_self rfl, if_pos rfl, String.append_empty]
      · next hkind =>
          rcases Frame.isCode_iff.mp hcode with ⟨lang, lines, hlines⟩
          exact (hkind lang lines hlines).elim
  | false =>
      rw [addText_of_isCode hcode, plainText_append h (Node.isFresh_leaf rfl _),
        if_neg Bool.false_ne_true, Node.plainText_leaf rfl, Kind.ownText]

/-- Opening an element brings no text. -/
theorem plainText_openTag (b : Builder) (tag : Tag) (span : Span) :
    (b.openTag tag span).plainText = b.plainText := by
  have hnoted : (if tag = .paragraph then b.mapTop Frame.noteParagraph else b).plainText =
      b.plainText := by
    split
    · refine plainText_mapTop_self ?_
      rw [Frame.noteParagraph]
      split <;> rfl
    · rfl
  rw [openTag, plainText_cons, ← hnoted]
  refine Eq.trans ?_ String.append_empty
  refine congrArg _ ?_
  cases tag <;> rfl

/-- Marking a task box brings no text. -/
theorem plainText_markTask (checked : Bool) (frames : List Frame) :
    (markTask checked frames).map Frame.plainText = frames.map Frame.plainText := by
  induction frames with
  | nil => rfl
  | cons first rest ih =>
      unfold markTask
      split
      · rfl
      · rw [List.map_cons, List.map_cons, ih]

/-- Every event appends the text that it brings. -/
theorem plainText_push {b : Builder} (h : b.All Frame.IsSilent) (event : Event) (span : Span) :
    (b.push event span).plainText = b.plainText ++ event.payload (b.nesting.headD false) := by
  have hleaf {kind : Kind} (hkind : kind.anchor? = none) (inline : Bool) :
      (b.append { kind, span := some span } inline).plainText = b.plainText ++ kind.ownText := by
    rw [plainText_append h (Node.isFresh_leaf hkind _), Node.plainText_leaf rfl]
  cases event with
  | text value => exact plainText_addText h value span
  | softBreak => exact plainText_addText h "\n" span
  | code value => exact hleaf rfl true
  | inlineHtml value => exact hleaf rfl true
  | hardBreak => exact hleaf rfl true
  | rule => exact hleaf rfl false
  | html value =>
      rw [push, addHtml]
      split
      · exact (plainText_mapTop_self rfl).trans String.append_empty.symm
      · exact hleaf rfl true
  | start tag => exact (plainText_openTag b tag span).trans String.append_empty.symm
  | close => exact (plainText_closeTop h).trans String.append_empty.symm
  | task checked =>
      refine Eq.trans ?_ String.append_empty.symm
      rw [push, plainText, plainText, List.map_reverse, List.map_reverse, plainText_markTask]
  | inlineMath | displayMath | footnoteReference => exact String.append_empty.symm

/-- A run appends the text of the stream. -/
theorem plainText_feed {b : Builder} (h : b.All Frame.IsSilent) (events : List (Event × Span)) :
    (b.feed events).plainText =
      b.plainText ++ Event.plainText b.nesting (events.map Prod.fst) := by
  induction events generalizing b with
  | nil => exact String.append_empty.symm
  | cons e rest ih =>
      rcases e with ⟨event, span⟩
      rw [feed_cons, ih (invariant_isSilent.push h event span), plainText_push h, nesting_push,
        List.map_cons, Event.plainText, String.append_assoc]

end Builder

/-- The tree of a stream, balanced or not, has the text that the events of the stream bring, in
    their order. -/
theorem plainText_ofEvents (source : String) (events : List (Event × Span)) :
    (Node.ofEvents source events).plainText = Event.plainText [] (events.map Prod.fst) := by
  have hstart : (Builder.new source).All Frame.IsSilent := Builder.invariant_isSilent.feed source []
  have hfed : ((Builder.new source).feed events).All Frame.IsSilent :=
    Builder.invariant_isSilent.feed source events
  -- What is left open at the end is closed then, and closing keeps the text.
  rcases Builder.exists_closed
    (P := fun b => b.All Frame.IsSilent ∧
      b.plainText = ((Builder.new source).feed events).plainText)
    (fun b hb => ⟨Builder.invariant_isSilent.closeTop hb.1,
      (Builder.plainText_closeTop hb.1).trans hb.2⟩) ⟨hfed, rfl⟩ with
    ⟨b, ⟨hb, htext⟩, hframes, hfinish⟩
  calc (Node.ofEvents source events).plainText
    _ = b.root.plainText := by
      rw [Builder.ofEvents_eq, hfinish, Frame.plainText_toNode hb.root]
    _ = b.plainText := by
      rw [Builder.plainText, hframes, List.reverse_nil, List.map_nil, String.join_nil,
        String.append_empty]
    _ = Event.plainText [] (events.map Prod.fst) := by
      rw [htext, Builder.plainText_feed hstart]
      exact String.empty_append

end Anchormark
