import Anchormark.Node.Builder

/-!
# Feeding a Builder

Events come in any order and need not balance, but there is little that one of them can do. It
opens a frame, it closes the innermost one and hands on what has become of it, or it changes a
frame that stays open. Of those changes only one touches the children of the frame, and that is
appending.

So a property of open frames holds throughout a run if it holds of every frame that is just open
and outlives those changes. What may be appended is part of the bargain: it is asked of everything
that is handed on, and granted of everything that arrives. `Builder.Invariant` lists what has to
be checked, and the rest of this module is the run that makes it enough.

## Main definitions

* `Frame.Appended`: what appending makes of a frame.
* `Frame.Edit`: what an event makes of a frame that stays open.
* `Builder.Invariant`: a property of frames, and one of what is appended, that go together.
* `Builder.All`: a property of all the frames of a builder.
* `Builder.Absorbs`: what becomes of a builder that takes a piece of a value.
* `Builder.feed`: a builder that has taken several events.

## Theorems

* `appendMerged_cases`: Siblings grow by a node, or their last text grows.
* `forall_mem_appendMerged`: What holds of the siblings before holds of them after that.
* `Frame.appended`: Appending goes one of three ways.
* `Builder.exists_closed`: Finishing closes frames until only the root is left.
* `Builder.Invariant.push`, `Builder.Invariant.feed`: An invariant holds throughout a run.
* `Builder.Invariant.ofEvents`: The tree of a stream comes from a frame that has the property.
-/

namespace Anchormark

namespace Node

/-- What merges are two texts, and it is the first of them with another value and span. -/
theorem mergeText?_eq_some {last n merged : Node} (h : last.mergeText? n = some merged) :
    ∃ value incoming span, last.kind = .text value ∧ n.kind = .text incoming ∧
      merged = { last with kind := .text (value ++ incoming), span } := by
  unfold mergeText? at h
  split at h
  · next value incoming hlast hn =>
      rw [Option.some.injEq] at h
      exact ⟨value, incoming, _, hlast, hn, h.symm⟩
  · simp only [reduceCtorEq] at h

/-- What merges are texts. -/
theorem types_of_mergeText? {last n merged : Node} (h : last.mergeText? n = some merged) :
    last.type = .text ∧ n.type = .text := by
  rcases mergeText?_eq_some h with ⟨value, incoming, span, hlast, hn, -⟩
  rw [type, type, hlast, hn]
  exact ⟨rfl, rfl⟩

/-- Two texts merge. -/
theorem mergeText?_eq_none {last n : Node} (h : last.mergeText? n = none) :
    ¬ (last.type = .text ∧ n.type = .text) := by
  rintro ⟨hlast, hn⟩
  unfold type at hlast hn
  cases hkind : last.kind <;> rw [hkind] at hlast <;> cases hlast
  cases hkind' : n.kind <;> rw [hkind'] at hn <;> cases hn
  rw [mergeText?, hkind, hkind'] at h
  simp only [reduceCtorEq] at h

end Node

/-- A node goes to the end of its siblings, unless it and the last of them are texts. Then that
    text grows. -/
theorem appendMerged_cases (cs : List Node) (n : Node) :
    (appendMerged cs n = cs ++ [n] ∧ ∀ last ∈ cs.getLast?, last.mergeText? n = none) ∨
      ∃ front last merged, cs = front ++ [last] ∧ last.mergeText? n = some merged ∧
        appendMerged cs n = front ++ [merged] := by
  induction cs with
  | nil => exact .inl ⟨rfl, fun _ h => by cases h⟩
  | cons first rest ih =>
      cases rest with
      | nil =>
          rw [appendMerged]
          cases hmerge : first.mergeText? n with
          | none =>
              refine .inl ⟨rfl, fun last hlast => ?_⟩
              rw [List.getLast?_singleton, Option.mem_some_iff] at hlast
              exact hlast ▸ hmerge
          | some merged => exact .inr ⟨[], first, merged, rfl, hmerge, rfl⟩
      | cons second rest =>
          rw [appendMerged, List.getLast?_cons_cons]
          rcases ih with ⟨heq, hlast⟩ | ⟨front, last, merged, hsplit, hmerge, heq⟩
          · exact .inl ⟨congrArg (first :: ·) heq, hlast⟩
          · exact .inr ⟨first :: front, last, merged, by rw [hsplit, List.cons_append], hmerge,
              by rw [heq, List.cons_append]⟩

/-- What holds of the siblings and of the node holds of the siblings with the node, if it outlives
    the growing of a text. -/
theorem forall_mem_appendMerged {P : Node → Prop} {cs : List Node} {n : Node}
    (hmerge : ∀ last merged, last.mergeText? n = some merged → P last → P merged)
    (hcs : ∀ c ∈ cs, P c) (hn : P n) : ∀ c ∈ appendMerged cs n, P c := by
  rcases appendMerged_cases cs n with ⟨heq, -⟩ | ⟨front, last, merged, rfl, hmerged, heq⟩
  · rw [heq, List.forall_mem_append, List.forall_mem_singleton]
    exact ⟨hcs, hn⟩
  · rw [List.forall_mem_append, List.forall_mem_singleton] at hcs
    rw [heq, List.forall_mem_append, List.forall_mem_singleton]
    exact ⟨hcs.1, hmerge last merged hmerged hcs.2⟩

namespace Frame

/-- Content for the last paragraph goes to the end of its children. -/
theorem growLast_append (front : List Node) (paragraph n : Node) :
    ∃ span, growLast (front ++ [paragraph]) n =
      front ++ [{ paragraph with span, children := appendMerged paragraph.children n }] := by
  induction front with
  | nil => exact ⟨_, rfl⟩
  | cons first front ih =>
      rcases ih with ⟨span, hgrow⟩
      refine ⟨span, ?_⟩
      rcases List.exists_cons_of_ne_nil (List.append_ne_nil_of_right_ne_nil front
        (List.cons_ne_nil paragraph [])) with ⟨second, rest, hrest⟩
      rw [List.cons_append, hrest, growLast, ← hrest, hgrow, List.cons_append]

/-- What becomes of a frame when a node is appended to it: the node stands among its children, or
    in a paragraph that is put around it, or at the end of the paragraph that was put around
    content before. -/
inductive Appended (f : Frame) (n : Node) (inline : Bool) : Frame → Prop
  | among (h : (inline && f.isItem) = false) :
      Appended f n inline
        { f with
          children := appendMerged f.children n
          tightParagraph := f.tightParagraph && inline }
  | wrapped (hinline : inline = true) (hitem : f.isItem = true) :
      Appended f n inline
        { f with
          children := f.children ++ [{ kind := .paragraph, span := n.span, children := [n] }]
          tightParagraph := true }
  | grown {front : List Node} {paragraph : Node} {span : Option Span} (hinline : inline = true)
      (hitem : f.isItem = true) (htight : f.tightParagraph = true)
      (hchildren : f.children = front ++ [paragraph]) (hkind : paragraph.kind = .paragraph) :
      Appended f n inline
        { f with
          children :=
            front ++ [{ paragraph with span, children := appendMerged paragraph.children n }] }

/-- Appending goes one of these ways, if the frame ends with the paragraph that it says it ends
    with. -/
theorem appended {f : Frame} (htight : f.tightParagraph = true →
    ∃ front paragraph, f.children = front ++ [paragraph] ∧ paragraph.kind = .paragraph)
    (n : Node) (inline : Bool) : f.Appended n inline (f.append n inline) := by
  unfold append
  split
  · next hcond =>
      rcases Bool.and_eq_true_iff.mp hcond with ⟨hinline, hitem⟩
      unfold appendTight
      split
      · next hflag =>
          rcases htight hflag with ⟨front, paragraph, hchildren, hkind⟩
          rcases growLast_append front paragraph n with ⟨span, hgrow⟩
          rw [hchildren, hgrow]
          exact .grown hinline hitem hflag hchildren hkind
      · exact .wrapped hinline hitem
  · next hcond => exact .among (Bool.eq_false_iff.mpr hcond)

/-- What an event can make of a frame that stays open. Whatever is appended satisfies `N`. -/
inductive Edit (N : Node → Bool → Prop) (f : Frame) : Frame → Prop
  | append {n : Node} {inline : Bool} (h : N n inline) : Edit N f (f.append n inline)
  | paragraph {spread : Bool} {checked : Option Bool} (h : f.kind = .listItem spread checked) :
      Edit N f { f with kind := .listItem true checked, tightParagraph := false }
  | task {spread : Bool} {old : Option Bool} (h : f.kind = .listItem spread old)
      (checked : Bool) : Edit N f { f with kind := .listItem spread (some checked) }
  | code {lang : Option String} {lines : String} (h : f.kind = .code lang lines)
      (value : String) : Edit N f { f with kind := .code lang (lines ++ value) }
  | html {lines : String} (h : f.kind = .html lines) (value : String) :
      Edit N f { f with kind := .html (lines ++ value) }

/-- Appending leaves everything but the children to the frame. -/
theorem append_eq (f : Frame) (n : Node) (inline : Bool) :
    ∃ children tightParagraph, f.append n inline = { f with children, tightParagraph } := by
  unfold append appendTight
  split
  · split <;> exact ⟨_, _, rfl⟩
  · exact ⟨_, _, rfl⟩

/-- The frame is a code block. -/
def isCode (f : Frame) : Bool :=
  match f.kind with
  | .code _ _ => true
  | _ => false

theorem isCode_iff {f : Frame} : f.isCode = true ↔ ∃ lang lines, f.kind = .code lang lines := by
  unfold isCode
  cases f.kind <;> simp

theorem isCode_append (f : Frame) (n : Node) (inline : Bool) :
    (f.append n inline).isCode = f.isCode := by
  rcases f.append_eq n inline with ⟨children, tight, heq⟩
  rw [heq]
  rfl

theorem isCode_noteParagraph (f : Frame) : f.noteParagraph.isCode = f.isCode := by
  unfold noteParagraph
  split
  · next hkind => rw [isCode, isCode, hkind]
  · rfl

end Frame

/-- The kinds of nodes that one event makes, and whether these stand in running text. -/
inductive IsLeaf : Kind → Bool → Prop
  | text (value : String) : IsLeaf (.text value) true
  | code (value : String) : IsLeaf (.inlineCode value) true
  | html (value : String) : IsLeaf (.html value) true
  | hardBreak : IsLeaf .hardBreak true
  | rule : IsLeaf .thematicBreak false

namespace Builder

/-- A property `F` of open frames and a property `N` of what is appended to them, with the flag
    that goes with it, such that each upholds the other. -/
structure Invariant (F : Frame → Prop) (N : Node → Bool → Prop) : Prop where
  root : ∀ source, F (new source).root
  frameOf : ∀ b tag span, F (frameOf b tag span)
  leaf : ∀ {kind inline} (span : Option Span), IsLeaf kind inline → N { kind, span } inline
  edit : ∀ {f g}, F f → f.Edit N g → F g
  closed : ∀ {f}, F f → f.dissolves = false → N f.toNode f.inline
  dissolved : ∀ {f}, F f → f.dissolves = true → ∀ c ∈ f.children, N c c.kind.isInline

/-- All frames of a builder have the property, and the first of them is the frame of a root. -/
structure All (F : Frame → Prop) (b : Builder) : Prop where
  root_kind : b.root.kind = .root
  root : F b.root
  frames : ∀ f ∈ b.frames, F f

/-- When the innermost frame changes, it is the only one to look at. -/
theorem All.mapTop {F : Frame → Prop} {b : Builder} (h : b.All F) {g : Frame → Frame}
    (hkind : b.top.kind = .root → (g b.top).kind = .root) (hg : F b.top → F (g b.top)) :
    (b.mapTop g).All F := by
  unfold Builder.mapTop
  unfold top at hkind hg
  split
  · next hframes =>
      rw [hframes] at hkind hg
      exact ⟨hkind h.root_kind, hg h.root, h.frames⟩
  · next first rest hframes =>
      rw [hframes] at hg
      refine ⟨h.root_kind, h.root, fun f hf => ?_⟩
      rcases List.mem_cons.mp hf with rfl | hf
      · exact hg (h.frames first (hframes ▸ List.mem_cons_self))
      · exact h.frames f (hframes ▸ List.mem_cons_of_mem first hf)

/-- What is known of all frames is known of the innermost. -/
theorem All.top {F : Frame → Prop} {b : Builder} (h : b.All F) : F b.top := by
  unfold Builder.top
  cases hframes : b.frames with
  | nil => exact h.root
  | cons first rest => exact h.frames first (hframes ▸ List.mem_cons_self)

theorem top_mapTop (b : Builder) (g : Frame → Frame) : (b.mapTop g).top = g b.top := by
  rcases b with ⟨source, frames, root⟩
  cases frames <;> rfl

theorem mapTop_mapTop (b : Builder) (g g' : Frame → Frame) :
    (b.mapTop g).mapTop g' = b.mapTop fun f => g' (g f) := by
  rcases b with ⟨source, frames, root⟩
  cases frames <;> rfl

theorem source_mapTop (b : Builder) (g : Frame → Frame) : (b.mapTop g).source = b.source := by
  rcases b with ⟨source, frames, root⟩
  cases frames <;> rfl

/-- Only what a change makes of the innermost frame counts. -/
theorem mapTop_congr {b : Builder} {g g' : Frame → Frame} (h : g b.top = g' b.top) :
    b.mapTop g = b.mapTop g' := by
  rcases b with ⟨source, frames, root⟩
  cases frames with
  | nil => exact congrArg (Builder.mk source []) h
  | cons first rest => exact congrArg (fun f => Builder.mk source (f :: rest) root) h

/-- A change that leaves the innermost frame as it is changes nothing. -/
theorem mapTop_self {b : Builder} {g : Frame → Frame} (h : g b.top = b.top) : b.mapTop g = b := by
  have hid : b.mapTop g = b.mapTop id := mapTop_congr h
  rw [hid]
  rcases b with ⟨source, frames, root⟩
  cases frames <;> rfl

/-- Text becomes a node, unless a code block is innermost. -/
theorem addText_of_isCode {b : Builder} (h : b.top.isCode = false) (value : String) (span : Span) :
    b.addText value span = b.append { kind := .text value, span := some span } true := by
  unfold addText
  split
  · next hkind =>
      rw [Frame.isCode, hkind] at h
      cases h
  · rfl

/-- The kind of an open block goes on with a piece of its value. -/
inductive GoesOn : Kind → Kind → Prop
  | code (lang : Option String) (lines value : String) :
      GoesOn (.code lang lines) (.code lang (lines ++ value))
  | html (lines value : String) : GoesOn (.html lines) (.html (lines ++ value))

/-- What becomes of a builder that takes a piece of a value. It goes into the innermost frame, if
    that is open for it, and becomes a node otherwise. -/
inductive Absorbs (b : Builder) (span : Span) : Builder → Prop
  | value {kind : Kind} (h : GoesOn b.top.kind kind) :
      Absorbs b span (b.mapTop fun f => { f with kind })
  | leaf {kind : Kind} (h : IsLeaf kind true) :
      Absorbs b span (b.append { kind, span := some span } true)

theorem absorbs_addText (b : Builder) (value : String) (span : Span) :
    b.Absorbs span (b.addText value span) := by
  unfold addText
  split
  · next lang lines hkind => exact .value (hkind ▸ .code lang lines value)
  · exact .leaf (.text value)

theorem absorbs_addHtml (b : Builder) (value : String) (span : Span) :
    b.Absorbs span (b.addHtml value span) := by
  unfold addHtml
  split
  · next lines hkind => exact .value (hkind ▸ .html lines value)
  · exact .leaf (.html value)

/-- A builder that has taken several events. -/
def feed (b : Builder) (events : List (Event × Span)) : Builder :=
  events.foldl (fun b (event, span) => b.push event span) b

@[simp]
theorem feed_nil (b : Builder) : b.feed [] = b := rfl

@[simp]
theorem feed_cons (b : Builder) (event : Event) (span : Span) (events : List (Event × Span)) :
    b.feed ((event, span) :: events) = (b.push event span).feed events := rfl

theorem feed_append (b : Builder) (events others : List (Event × Span)) :
    b.feed (events ++ others) = (b.feed events).feed others :=
  List.foldl_append

theorem ofEvents_eq (source : String) (events : List (Event × Span)) :
    Node.ofEvents source events = ((new source).feed events).finish := rfl

section Frames

variable {α : Type} {g : Frame → α} (hg : ∀ (f : Frame) n inline, g (f.append n inline) = g f)
include hg

theorem map_frames_append (b : Builder) (n : Node) (inline : Bool) :
    (b.append n inline).frames.map g = b.frames.map g := by
  rcases b with ⟨source, frames, root⟩
  cases frames with
  | nil => rfl
  | cons first rest => exact congrArg (· :: rest.map g) (hg first n inline)

theorem map_frames_appendAll (cs : List Node) (b : Builder) :
    (cs.foldl (fun b n => b.append n n.kind.isInline) b).frames.map g = b.frames.map g := by
  induction cs generalizing b with
  | nil => rfl
  | cons c cs ih => exact (ih _).trans (map_frames_append hg b c _)

/-- Closing takes a frame away and appends to the next, so what appending leaves alone is known of
    the frames that are left. -/
theorem map_frames_closeTop (b : Builder) : b.closeTop.frames.map g = (b.frames.map g).tail := by
  unfold closeTop
  split
  · next hframes => rw [hframes, List.map_nil, List.tail_nil]
  · next top rest hframes =>
      rw [hframes, List.map_cons, List.tail_cons]
      split
      · exact map_frames_appendAll hg _ _
      · exact map_frames_append hg _ _ _

end Frames

/-- Closing leaves one frame less. -/
theorem length_frames_closeTop (b : Builder) :
    b.closeTop.frames.length = b.frames.length - 1 := by
  have hunits := congrArg List.length (map_frames_closeTop (g := fun _ => ()) (fun _ _ _ => rfl) b)
  rwa [List.length_tail, List.length_map, List.length_map] at hunits

/-- Finishing closes frames until only the root is left, and what closing keeps is kept. -/
theorem exists_closed {P : Builder → Prop} (hclose : ∀ b, P b → P b.closeTop) {b : Builder}
    (h : P b) : ∃ b', P b' ∧ b'.frames = [] ∧ b.finish = b'.root.toNode := by
  -- The list of frames only counts how often to close; the builder has its own.
  have hcount : ∀ (frames : List Frame) (b : Builder), frames.length = b.frames.length → P b →
      ∃ b', P b' ∧ b'.frames = [] ∧ b.finishFrames frames = b'.root.toNode := by
    intro frames
    induction frames with
    | nil =>
        intro b hlen hb
        exact ⟨b, hb, List.eq_nil_of_length_eq_zero hlen.symm, rfl⟩
    | cons f rest ih =>
        intro b hlen hb
        rw [finishFrames]
        refine ih b.closeTop ?_ (hclose b hb)
        rw [length_frames_closeTop, ← hlen, List.length_cons, Nat.add_sub_cancel]
  exact hcount b.frames b rfl h

namespace Invariant

variable {F : Frame → Prop} {N : Node → Bool → Prop} (h : Invariant F N)
include h

theorem append {b : Builder} (hb : b.All F) {n : Node} {inline : Bool} (hn : N n inline) :
    (b.append n inline).All F := by
  refine hb.mapTop (fun hkind => ?_) fun hf => h.edit hf (.append hn)
  rcases Frame.append_eq b.top n inline with ⟨children, tight, heq⟩
  rw [heq]
  exact hkind

/-- Opening adds a frame, and a paragraph is noted in the frame around it. -/
theorem openTag {b : Builder} (hb : b.All F) (tag : Tag) (span : Span) :
    (b.openTag tag span).All F := by
  have hnoted : (if tag = .paragraph then b.mapTop Frame.noteParagraph else b).All F := by
    split
    · refine hb.mapTop (fun hkind => ?_) fun hf => ?_
      · rw [Frame.noteParagraph, hkind]
        exact hkind
      · unfold Frame.noteParagraph
        split
        · next hkind => exact h.edit hf (.paragraph hkind)
        · exact hf
    · exact hb
  refine ⟨hnoted.root_kind, hnoted.root, fun f hf => ?_⟩
  rcases List.mem_cons.mp hf with rfl | hf
  · exact h.frameOf _ tag span
  · exact hnoted.frames f hf

/-- Closing hands on a node, or children one by one. -/
theorem closeTop {b : Builder} (hb : b.All F) : b.closeTop.All F := by
  unfold Builder.closeTop
  split
  · exact hb
  · next top rest hframes =>
      have htop : F top := hb.frames top (hframes ▸ List.mem_cons_self)
      have hbelow : ({ b with frames := rest } : Builder).All F :=
        ⟨hb.root_kind, hb.root, fun f hf => hb.frames f (hframes ▸ List.mem_cons_of_mem top hf)⟩
      split
      · next hdissolves =>
          refine List.foldlRecOn top.children _ hbelow fun b' hb' c hc => ?_
          exact h.append hb' (h.dissolved htop hdissolves c hc)
      · next hdissolves =>
          exact h.append hbelow (h.closed htop (Bool.eq_false_iff.mpr hdissolves))

/-- A piece of a value goes into a frame that is no root, or becomes a node. -/
theorem absorbs {b b' : Builder} (hb : b.All F) {span : Span} (habsorbs : b.Absorbs span b') :
    b'.All F := by
  cases habsorbs with
  | leaf hleaf => exact h.append hb (h.leaf _ hleaf)
  | value hgoes =>
      generalize hkind : b.top.kind = old at hgoes
      cases hgoes with
      | code lang lines value =>
          exact hb.mapTop (fun hroot => Kind.noConfusion (hkind.symm.trans hroot)) fun hf =>
            h.edit hf (.code hkind value)
      | html lines value =>
          exact hb.mapTop (fun hroot => Kind.noConfusion (hkind.symm.trans hroot)) fun hf =>
            h.edit hf (.html hkind value)

theorem markTask (checked : Bool) {frames : List Frame} (hframes : ∀ f ∈ frames, F f) :
    ∀ f ∈ markTask checked frames, F f := by
  induction frames with
  | nil => exact hframes
  | cons first rest ih =>
      rw [List.forall_mem_cons] at hframes
      unfold Builder.markTask
      split
      · next hkind =>
          rw [List.forall_mem_cons]
          exact ⟨h.edit hframes.1 (.task hkind checked), hframes.2⟩
      · rw [List.forall_mem_cons]
        exact ⟨hframes.1, ih hframes.2⟩

/-- Every event keeps the invariant. -/
theorem push {b : Builder} (hb : b.All F) (event : Event) (span : Span) :
    (b.push event span).All F := by
  cases event with
  | start tag => exact h.openTag hb tag span
  | close => exact h.closeTop hb
  | text value => exact h.absorbs hb (b.absorbs_addText value span)
  | softBreak => exact h.absorbs hb (b.absorbs_addText "\n" span)
  | html value => exact h.absorbs hb (b.absorbs_addHtml value span)
  | code value => exact h.append hb (h.leaf _ (.code value))
  | inlineHtml value => exact h.append hb (h.leaf _ (.html value))
  | hardBreak => exact h.append hb (h.leaf _ .hardBreak)
  | rule => exact h.append hb (h.leaf _ .rule)
  | task checked => exact ⟨hb.root_kind, hb.root, h.markTask checked hb.frames⟩
  | inlineMath | displayMath | footnoteReference => exact hb

/-- A run keeps the invariant, whether or not its events balance. -/
theorem feed (source : String) (events : List (Event × Span)) :
    ((new source).feed events).All F := by
  refine List.foldlRecOn events _ ⟨rfl, h.root source, fun _ hf => absurd hf List.not_mem_nil⟩ ?_
  intro b hb e _
  exact h.push hb e.1 e.2

/-- The tree of a stream comes from the frame of a root that has the property. -/
theorem ofEvents (source : String) (events : List (Event × Span)) :
    ∃ f, F f ∧ f.kind = .root ∧ Node.ofEvents source events = f.toNode := by
  rcases exists_closed (fun b hb => h.closeTop hb) (h.feed source events) with
    ⟨b, hb, -, hfinish⟩
  exact ⟨b.root, hb.root, hb.root_kind, (ofEvents_eq source events).trans hfinish⟩

end Invariant

end Builder

end Anchormark
