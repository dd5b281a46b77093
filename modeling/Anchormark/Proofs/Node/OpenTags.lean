import Anchormark.Proofs.Node.InlineRuns
import Anchormark.Proofs.Node.PlainText

/-!
# What Is Open

Which elements are open can be told from the stream, by counting. The frames of a builder follow
that count. What a frame is as far as later events ask, apart from its data and its children, is
settled by the tag that opened it.

Besides opening and closing, events change the innermost frame or mark the task box of an item. So
there are four things to look at where two runs are compared, and finishing is none of its own: it
is closing often enough. What becomes of a frame that stays open is one of three things: nodes are
appended by their kinds, one node is appended as the event says, or the kind changes to another of
the same type.

## Main definitions

* `openTags`: the tags that are open behind a stream, innermost first.
* `Frame.shape`: what a frame is, apart from its data and its children.
* `Frame.Touch`: what an event does to a frame that stays open.

## Theorems

* `Frame.Touch.cases`: What becomes of a frame that stays open.
* `Builder.push_cases`: What an event does.
* `Builder.shapes_feed`: The frames of a builder have the shapes of the open tags.
* `Builder.finish_eq_feed`: Finishing is closing often enough.
-/

namespace Anchormark

/-- The tags that are open once the event is over. A surplus closing event closes nothing. -/
def Event.opened (tags : List Tag) : Event → List Tag
  | .start tag => tag :: tags
  | .close => tags.tail
  | _ => tags

/-- The tags that are open behind the events, innermost first. -/
def openTags (events : List (Event × Span)) : List Tag :=
  events.foldl (fun tags e => e.1.opened tags) []

namespace Frame

/-- The type of the node, whether it stands in running text, and whether there is none. -/
def shape (f : Frame) : NodeType × Bool × Bool :=
  (f.kind.type, f.inline, f.dissolves)

/-- Text goes into the value of a code block, and otherwise becomes a node. -/
def addText (value : String) (span : Span) (f : Frame) : Frame :=
  match f.kind with
  | .code lang lines => { f with kind := .code lang (lines ++ value) }
  | _ => f.append { kind := .text value, span := some span } true

/-- A line of HTML goes into the value of an HTML block, and otherwise becomes a node. -/
def addHtml (value : String) (span : Span) (f : Frame) : Frame :=
  match f.kind with
  | .html lines => { f with kind := .html (lines ++ value) }
  | _ => f.append { kind := .html value, span := some span } true

/-- The frame with its task box set, if it is an item. -/
def mark (checked : Bool) (f : Frame) : Frame :=
  match f.kind with
  | .listItem spread _ => { f with kind := .listItem spread (some checked) }
  | _ => f

/-- What an event does to a frame that stays open. -/
inductive Touch : (Frame → Frame) → Prop
  | nothing : Touch id
  | append {n : Node} (h : n.IsFresh) (inline : Bool) : Touch (·.append n inline)
  | text (value : String) (span : Span) : Touch (addText value span)
  | html (value : String) (span : Span) : Touch (addHtml value span)
  | paragraph : Touch noteParagraph
  | task (checked : Bool) : Touch (mark checked)
  | absorb {top : Frame} (h : top.IsSilent) : Touch (·.absorb top)

theorem shape_append (f : Frame) (n : Node) (inline : Bool) :
    (f.append n inline).shape = f.shape := by
  rcases f.append_eq n inline with ⟨children, tight, heq⟩
  rw [heq]
  rfl

theorem shape_appendAll (f : Frame) (ns : List Node) : (f.appendAll ns).shape = f.shape := by
  rcases f.appendAll_eq ns with ⟨children, tight, heq⟩
  rw [heq]
  rfl

theorem shape_absorb (f top : Frame) : (f.absorb top).shape = f.shape := by
  rcases f.absorb_eq top with ⟨children, tight, heq⟩
  rw [heq]
  rfl

/-- An event appends nodes to a frame that stays open, or gives it another kind of the same type,
    and does so to all frames of one kind. -/
theorem Touch.cases {k : Frame → Frame} (h : Touch k) (f : Frame) :
    (∃ ns, (∀ n ∈ ns, n.IsFresh) ∧ ∀ g : Frame, g.kind = f.kind → k g = g.appendAll ns) ∨
      (∃ n inline, n.IsFresh ∧ ∀ g : Frame, g.kind = f.kind → k g = g.append n inline) ∨
      ∃ (kind : Kind) (t : Bool → Bool), kind.type = f.kind.type ∧ ∀ g : Frame,
        g.kind = f.kind → k g = { g with kind, tightParagraph := t g.tightParagraph } := by
  have hfresh {kind : Kind} (hanchor : kind.anchor? = none) (span : Span) :
      Node.IsFresh { kind, span := some span } := Node.isFresh_leaf hanchor _
  -- Whether a node is appended or the kind changes is for the kind of the frame to say, and then
  -- the same is done to every frame of that kind.
  cases h with
  | nothing => exact .inl ⟨[], List.forall_mem_nil _, fun _ _ => rfl⟩
  | append hn inline => exact .inr (.inl ⟨_, inline, hn, fun _ _ => rfl⟩)
  | text value span =>
      cases f.kind with
      | code lang lines =>
          -- The value of a code block grows.
          exact .inr (.inr ⟨.code lang (lines ++ value), id, rfl, fun g hg => by
            rw [addText, hg]
            rfl⟩)
      | _ => exact .inr (.inl ⟨_, true, hfresh rfl span, fun g hg => by rw [addText, hg]⟩)
  | html value span =>
      cases f.kind with
      | html lines =>
          -- So does that of an HTML block.
          exact .inr (.inr ⟨.html (lines ++ value), id, rfl, fun g hg => by
            rw [addHtml, hg]
            rfl⟩)
      | _ => exact .inr (.inl ⟨_, true, hfresh rfl span, fun g hg => by rw [addHtml, hg]⟩)
  | paragraph =>
      cases f.kind with
      | listItem spread checked =>
          -- An item becomes spread, and no paragraph of its own is open any more.
          exact .inr (.inr ⟨.listItem true checked, fun _ => false, rfl, fun g hg => by
            rw [noteParagraph, hg]⟩)
      | _ =>
          exact .inl ⟨[], List.forall_mem_nil _, fun g hg => by
            rw [noteParagraph, hg]
            rfl⟩
  | task checked =>
      cases f.kind with
      | listItem spread _ =>
          exact .inr (.inr ⟨.listItem spread (some checked), id, rfl, fun g hg => by
            rw [mark, hg]
            rfl⟩)
      | _ =>
          exact .inl ⟨[], List.forall_mem_nil _, fun g hg => by
            rw [mark, hg]
            rfl⟩
  | @absorb top htop =>
      -- A frame in front that dissolves hands on its children, any other its node.
      cases hdissolves : top.dissolves with
      | true =>
          exact .inl ⟨top.children, htop.fresh.children, fun _ _ => if_pos hdissolves⟩
      | false =>
          exact .inr (.inl ⟨top.toNode, top.inline, isFresh_toNode htop.fresh, fun _ _ =>
            if_neg (Bool.eq_false_iff.mp hdissolves)⟩)

theorem Touch.shape {k : Frame → Frame} (h : Touch k) (f : Frame) : (k f).shape = f.shape := by
  rcases h.cases f with ⟨ns, -, hk⟩ | ⟨n, inline, -, hk⟩ | ⟨kind, t, htype, hk⟩
  · rw [hk f rfl, shape_appendAll]
  · rw [hk f rfl, shape_append]
  · rw [hk f rfl, Frame.shape, Frame.shape, htype]

theorem isItem_iff_shape {f : Frame} : f.isItem = true ↔ f.shape.1 = .listItem :=
  isItem_iff

theorem isCode_iff_shape {f : Frame} : f.isCode = true ↔ f.shape.1 = .code := by
  unfold isCode shape
  cases f.kind <;> simp [Kind.type]

end Frame

/-- The shape of the frame that a tag opens. -/
def Tag.shape (tag : Tag) : NodeType × Bool × Bool :=
  ((Builder.new "").frameOf tag default).shape

namespace Builder

theorem addText_eq (b : Builder) (value : String) (span : Span) :
    b.addText value span = b.mapTop (·.addText value span) := by
  unfold addText
  cases h : b.top.kind <;> exact mapTop_congr (by rw [Frame.addText, h])

theorem addHtml_eq (b : Builder) (value : String) (span : Span) :
    b.addHtml value span = b.mapTop (·.addHtml value span) := by
  unfold addHtml
  cases h : b.top.kind <;> exact mapTop_congr (by rw [Frame.addHtml, h])

/-- Of the frames, the first that is an item has its task box set. -/
theorem markTask_cons (checked : Bool) (f : Frame) (rest : List Frame) :
    markTask checked (f :: rest) =
      if f.isItem then f.mark checked :: rest else f :: markTask checked rest := by
  rw [markTask, Frame.isItem, Frame.mark]
  cases f.kind <;> rfl

/-- An event opens or closes an element, marks a task, or changes the innermost frame. -/
theorem push_cases (event : Event) (span : Span) :
    (∃ tag, event = .start tag) ∨ event = .close ∨ (∃ checked, event = .task checked) ∨
      (∀ tags, event.opened tags = tags) ∧
        ∃ k, Frame.Touch k ∧ ∀ b : Builder, b.push event span = b.mapTop k := by
  cases event with
  | start tag => exact .inl ⟨tag, rfl⟩
  | close => exact .inr (.inl rfl)
  | task checked => exact .inr (.inr (.inl ⟨checked, rfl⟩))
  | text value =>
      exact .inr (.inr (.inr ⟨fun _ => rfl, _, .text value span, fun b => addText_eq b _ _⟩))
  | softBreak =>
      exact .inr (.inr (.inr ⟨fun _ => rfl, _, .text "\n" span, fun b => addText_eq b _ _⟩))
  | html value =>
      exact .inr (.inr (.inr ⟨fun _ => rfl, _, .html value span, fun b => addHtml_eq b _ _⟩))
  | code | inlineHtml | hardBreak | rule =>
      exact .inr (.inr (.inr ⟨fun _ => rfl, _, .append (Node.isFresh_leaf rfl _) _,
        fun b => rfl⟩))
  | inlineMath | displayMath | footnoteReference =>
      exact .inr (.inr (.inr ⟨fun _ => rfl, _, .nothing, fun b => (mapTop_self rfl).symm⟩))

/-- What opening an element does to the frame around it. -/
theorem touch_openTag (tag : Tag) :
    Frame.Touch fun f => if tag = .paragraph then f.noteParagraph else f := by
  by_cases h : tag = .paragraph
  · simp only [if_pos h]
    exact .paragraph
  · simp only [if_neg h]
    exact .nothing

/-- The shapes of the frames, innermost first. -/
def shapes (b : Builder) : List (NodeType × Bool × Bool) :=
  b.frames.map Frame.shape

theorem shapes_mapTop {b : Builder} {k : Frame → Frame} (hk : ∀ f, (k f).shape = f.shape) :
    (b.mapTop k).shapes = b.shapes := by
  rcases b with ⟨source, frames, root⟩
  cases frames with
  | nil => rfl
  | cons first rest => exact congrArg (· :: rest.map Frame.shape) (hk first)

theorem shape_frameOf (b : Builder) (tag : Tag) (span : Span) :
    (b.frameOf tag span).shape = tag.shape := by
  cases tag <;> rfl

theorem shapes_markTask (checked : Bool) (frames : List Frame) :
    (markTask checked frames).map Frame.shape = frames.map Frame.shape := by
  induction frames with
  | nil => rfl
  | cons first rest ih =>
      rw [markTask_cons]
      split
      · exact congrArg (· :: _) (Frame.Touch.task checked |>.shape first)
      · exact congrArg (first.shape :: ·) ih

/-- An event opens and closes frames as it opens and closes tags. -/
theorem shapes_push {b : Builder} {tags : List Tag} (h : b.shapes = tags.map Tag.shape)
    (event : Event) (span : Span) :
    (b.push event span).shapes = (event.opened tags).map Tag.shape := by
  rcases push_cases event span with ⟨tag, rfl⟩ | rfl | ⟨checked, rfl⟩ | ⟨hopened, k, hk, hpush⟩
  · rw [push, openTag_eq, shapes, List.map_cons, shape_frameOf, Event.opened, List.map_cons, ← h,
      ← shapes_mapTop (touch_openTag tag).shape]
    rfl
  · rcases b with ⟨source, _ | ⟨top, rest⟩, root⟩
    · rw [Event.opened, List.map_tail, ← h]
      rfl
    · rw [push, closeTop_cons, shapes_mapTop fun f => Frame.shape_absorb f top, Event.opened,
        List.map_tail, ← h]
      rfl
  · rw [push, shapes, shapes_markTask]
    exact h
  · rw [hpush, shapes_mapTop hk.shape, hopened, h]

/-- The frames of a builder have the shapes of the open tags. -/
theorem shapes_feed (source : String) (events : List (Event × Span)) :
    ((new source).feed events).shapes = (openTags events).map Tag.shape := by
  have hfeed (events : List (Event × Span)) : ∀ (b : Builder) (tags : List Tag),
      b.shapes = tags.map Tag.shape → (b.feed events).shapes =
        (events.foldl (fun tags e => e.1.opened tags) tags).map Tag.shape := by
    induction events with
    | nil => exact fun _ _ h => h
    | cons e events ih => exact fun b tags h => ih _ _ (shapes_push h e.1 e.2)
  exact hfeed events _ [] rfl

/-- The innermost frame has the shape of the innermost open tag. -/
theorem shape_top (source : String) {events : List (Event × Span)} {tag : Tag}
    (h : (openTags events).head? = some tag) :
    ((new source).feed events).top.shape = tag.shape := by
  have hshapes := shapes_feed source events
  rcases List.head?_eq_some_iff.mp h with ⟨tags, htags⟩
  rw [htags] at hshapes
  generalize (new source).feed events = b at hshapes ⊢
  rcases b with ⟨source, _ | ⟨first, rest⟩, root⟩
  · exact absurd hshapes.symm (List.cons_ne_nil _ _)
  · exact (List.cons.inj hshapes).1

/-- Without an open tag the root is innermost. -/
theorem kind_top (source : String) {events : List (Event × Span)}
    (h : (openTags events).head? = none) : ((new source).feed events).top.kind = .root := by
  have hshapes := shapes_feed source events
  rw [List.head?_eq_none_iff.mp h] at hshapes
  rw [top, List.map_eq_nil_iff.mp hshapes]
  exact (invariant_isFresh.feed source events).root_kind

theorem source_push (b : Builder) (event : Event) (span : Span) :
    (b.push event span).source = b.source := by
  rcases push_cases event span with ⟨tag, rfl⟩ | rfl | ⟨checked, rfl⟩ | ⟨-, k, -, hpush⟩
  · exact source_openTag b tag span
  · rcases b with ⟨source, _ | ⟨top, rest⟩, root⟩
    · rfl
    · rw [push, closeTop_cons, source_mapTop]
  · rfl
  · rw [hpush, source_mapTop]

theorem source_feed (b : Builder) (events : List (Event × Span)) :
    (b.feed events).source = b.source := by
  induction events generalizing b with
  | nil => rfl
  | cons e events ih => exact (ih _).trans (source_push b e.1 e.2)

/-- How many frames are left is all that finishing asks of the list it is given. -/
theorem finishFrames_congr {frames frames' : List Frame} (h : frames.length = frames'.length)
    (b : Builder) : b.finishFrames frames = b.finishFrames frames' := by
  induction frames generalizing frames' b with
  | nil => rw [List.eq_nil_of_length_eq_zero h.symm]
  | cons f rest ih =>
      rcases frames' with _ | ⟨f', rest'⟩
      · exact absurd h (Nat.succ_ne_zero _)
      · exact ih (Nat.succ.inj h) b.closeTop

theorem finish_closeTop (b : Builder) : b.closeTop.finish = b.finish := by
  have hlength := length_frames_closeTop b
  rcases b with ⟨source, _ | ⟨top, rest⟩, root⟩
  · rfl
  · exact finishFrames_congr hlength _

/-- Finishing is closing often enough. -/
theorem finish_eq_feed {b : Builder} {n : Nat} (h : b.frames.length ≤ n) (span : Span) :
    (b.feed (List.replicate n (.close, span))).frames = [] ∧
      b.finish = (b.feed (List.replicate n (.close, span))).root.toNode := by
  induction n generalizing b with
  | zero =>
      have hframes := List.eq_nil_of_length_eq_zero (Nat.le_zero.mp h)
      refine ⟨hframes, ?_⟩
      rw [finish, hframes]
      rfl
  | succ n ih =>
      have hlength : b.closeTop.frames.length ≤ n := by
        rw [length_frames_closeTop]
        omega
      rw [← finish_closeTop]
      exact ih hlength

end Builder

end Anchormark
