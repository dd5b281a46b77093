import Anchormark.Proofs.Node.Rebuilding

/-!
# Runs of Inline Events

Inline events in which every tag that opens closes do one thing only: they append nodes to the
innermost frame, the same nodes wherever they come. What is around the run decides what becomes of
the nodes, but not which they are.

The tags without a node kind are no exception. Their content is collected in a frame of its own
first, where texts merge, and then it is appended node by node to the frame below. Merging early or
late makes no difference, since texts and spans join in any order. What can make a difference is
that nodes go on by their kind, while the events said themselves whether they stand in running text.
The two disagree on raw HTML alone.

## Main definitions

* `IsInlineRun`: inline events that balance.
* `holdsHtml`: raw HTML stands in a run, and not within a tag.
* `Frame.fill`, `Frame.appendAll`: a frame with several nodes more.
* `Frame.absorb`: a frame that takes in what becomes of the one in front of it.
* `Appends`: the nodes that a run appends.

## Theorems

* `Frame.append_append`: Two texts are appended as one.
* `Frame.appendAll_foldl`: Nodes may merge before they are appended.
* `Builder.closeTop_cons`, `closeTop_dissolving`: What is handed on to the frame below.
* `IsInlineRun.exists_appends`: A run appends nodes.
-/

namespace Anchormark

/-- The span of two pieces that become one. -/
def Span.join? : Option Span → Option Span → Option Span
  | some a, some b => some (a.cover b)
  | own, _ => own

theorem Span.join?_assoc (a : Option Span) (b : Span) (c : Option Span) :
    join? (join? a (some b)) c = join? a (join? (some b) c) := by
  cases a with
  | none => rfl
  | some a =>
      cases c with
      | none => rfl
      | some c =>
          simp only [join?, cover, Nat.min_assoc, Nat.max_assoc]

namespace Node

theorem mergeText?_of_kind {last n : Node} {value incoming : String}
    (hlast : last.kind = .text value) (hn : n.kind = .text incoming) :
    last.mergeText? n =
      some { last with
        kind := .text (value ++ incoming), span := Span.join? last.span n.span } := by
  rw [mergeText?, hlast, hn]
  rfl

section Merged

variable {first last n merged : Node} (h : last.mergeText? n = some merged)
include h

/-- What does not merge with the first of two texts does not merge with both. -/
theorem mergeText?_eq_none_of_merged (hfirst : first.mergeText? last = none) :
    first.mergeText? merged = none := by
  rw [Option.eq_none_iff_forall_ne_some]
  intro joined hjoined
  exact mergeText?_eq_none hfirst ⟨(types_of_mergeText? hjoined).1, (types_of_mergeText? h).1⟩

/-- The span of a text that has grown covers both. -/
theorem span_merged : merged.span = Span.join? last.span n.span := by
  rcases mergeText?_eq_some h with ⟨value, incoming, -, hlast, hn, -⟩
  rw [mergeText?_of_kind hlast hn, Option.some.injEq] at h
  rw [← h]

/-- Of three texts it does not matter which two merge first. -/
theorem mergeText?_merged (hspan : last.span.isSome = true) {joined : Node}
    (hjoined : first.mergeText? last = some joined) :
    first.mergeText? merged = joined.mergeText? n := by
  rcases Option.isSome_iff_exists.mp hspan with ⟨span, hspan⟩
  rcases mergeText?_eq_some h with ⟨value, incoming, -, hlast, hn, -⟩
  rcases mergeText?_eq_some hjoined with ⟨own, -, -, hfirst, -, -⟩
  rw [mergeText?_of_kind hlast hn, Option.some.injEq] at h
  rw [mergeText?_of_kind hfirst hlast, Option.some.injEq] at hjoined
  rw [← h, ← hjoined, mergeText?_of_kind hfirst rfl, mergeText?_of_kind rfl hn]
  simp only [hspan, String.append_assoc, Span.join?_assoc]

end Merged

end Node

/-- What passes over an element as long as another one follows passes over all but the last. -/
theorem map_concat_of_passes {α : Type} {g : List α → List α}
    (hpass : ∀ first second rest, g (first :: second :: rest) = first :: g (second :: rest))
    (front : List α) (last : α) : g (front ++ [last]) = front ++ g [last] := by
  induction front with
  | nil => rfl
  | cons first front ih =>
      rcases List.exists_cons_of_ne_nil (List.append_ne_nil_of_right_ne_nil front
        (List.cons_ne_nil last [])) with ⟨second, rest, hrest⟩
      rw [hrest] at ih
      rw [List.cons_append, hrest, hpass, ih, List.cons_append]

/-- Only the last of its siblings matters to a node that is appended. -/
theorem appendMerged_concat (front : List Node) (last n : Node) :
    appendMerged (front ++ [last]) n = front ++ appendMerged [last] n :=
  map_concat_of_passes (g := fun cs => appendMerged cs n) (fun _ _ _ => rfl) front last

theorem Frame.growLast_singleton (paragraph n : Node) :
    growLast [paragraph] n =
      [{ paragraph with
        span := Span.join? paragraph.span n.span
        children := appendMerged paragraph.children n }] := rfl

theorem Frame.growLast_concat (front : List Node) (last n : Node) :
    growLast (front ++ [last]) n = front ++ growLast [last] n :=
  map_concat_of_passes (g := fun cs => growLast cs n) (fun _ _ _ => rfl) front last

namespace Frame

/-- A node goes to the end of the children, unless it is inline content of an item. -/
theorem append_among {f : Frame} {inline : Bool} (h : (inline && f.isItem) = false) (n : Node) :
    f.append n inline =
      { f with
        children := appendMerged f.children n
        tightParagraph := f.tightParagraph && inline } := by
  rw [append, h, if_neg Bool.false_ne_true]

theorem append_of_isItem {f : Frame} (hitem : f.isItem = false) (n : Node) (inline : Bool) :
    f.append n inline =
      { f with
        children := appendMerged f.children n
        tightParagraph := f.tightParagraph && inline } :=
  append_among (by rw [hitem, Bool.and_false]) n

/-- In an item that ends with a paragraph, inline content goes on there. -/
theorem append_tight {f : Frame} (hitem : f.isItem = true) (htight : f.tightParagraph = true)
    (n : Node) : f.append n true = { f with children := growLast f.children n } := by
  rw [append, hitem, Bool.true_and, if_pos rfl, appendTight, htight, if_pos rfl]

/-- In an item that does not, it gets a paragraph. -/
theorem append_loose {f : Frame} (hitem : f.isItem = true) (htight : f.tightParagraph = false)
    (n : Node) :
    f.append n true =
      { f with
        children := f.children ++ [{ kind := .paragraph, span := n.span, children := [n] }]
        tightParagraph := true } := by
  rw [append, hitem, Bool.true_and, if_pos rfl, appendTight, htight, if_neg Bool.false_ne_true]

end Frame

theorem appendMerged_singleton (last n : Node) :
    appendMerged [last] n =
      match last.mergeText? n with
      | some merged => [merged]
      | none => [last, n] := rfl

section Merged

variable {last n merged : Node} (h : last.mergeText? n = some merged)
  (hspan : last.span.isSome = true)
include h hspan

/-- Two texts become part of their siblings as if they were one. -/
theorem appendMerged_appendMerged (cs : List Node) :
    appendMerged (appendMerged cs last) n = appendMerged cs merged := by
  rcases List.eq_nil_or_concat cs with rfl | ⟨front, first, hcs⟩
  · exact (appendMerged_singleton last n).trans (by rw [h]; rfl)
  · rw [hcs, List.concat_eq_append, appendMerged_concat, appendMerged_concat front first merged,
      appendMerged_singleton, appendMerged_singleton]
    cases hfirst : first.mergeText? last with
    | none =>
        rw [Node.mergeText?_eq_none_of_merged h hfirst]
        dsimp only
        rw [List.append_cons front first [last], appendMerged_concat, appendMerged_singleton, h,
          List.append_cons front first [merged]]
    | some joined =>
        rcases Node.mergeText?_eq_some hfirst with ⟨own, value, span, -, -, hjoined⟩
        rcases Node.mergeText?_eq_some h with ⟨-, incoming, -, -, hn, -⟩
        have hkind : joined.kind = .text (own ++ value) := by rw [hjoined]
        dsimp only
        rw [appendMerged_concat, appendMerged_singleton, Node.mergeText?_merged h hspan hfirst,
          Node.mergeText?_of_kind hkind hn]

/-- So it is in the paragraph that a tight item ends with. -/
theorem Frame.growLast_growLast (cs : List Node) :
    growLast (growLast cs last) n = growLast cs merged := by
  rcases List.eq_nil_or_concat cs with rfl | ⟨front, paragraph, hcs⟩
  · rfl
  · rcases Option.isSome_iff_exists.mp hspan with ⟨span, hlast⟩
    rw [hcs, List.concat_eq_append, growLast_concat, growLast_concat front paragraph merged,
      growLast_singleton, growLast_concat, growLast_singleton, growLast_singleton,
      appendMerged_appendMerged h hspan, Node.span_merged h, hlast, Span.join?_assoc]

/-- So it is in any frame. -/
theorem Frame.append_append (f : Frame) :
    (f.append last true).append n true = f.append merged true := by
  cases hitem : f.isItem with
  | false =>
      rw [append_of_isItem hitem, append_of_isItem hitem, append_of_isItem (by exact hitem),
        appendMerged_appendMerged h hspan]
      simp only [Bool.and_true]
  | true =>
      cases htight : f.tightParagraph with
      | true =>
          rw [append_tight hitem htight, append_tight hitem htight,
            append_tight (by exact hitem) (by exact htight), growLast_growLast h hspan]
      | false =>
          rw [append_loose hitem htight, append_loose hitem htight,
            append_tight (by exact hitem) rfl, growLast_concat, Node.span_merged h]
          rw [growLast_singleton, appendMerged_singleton, h]

end Merged

namespace Frame

/-- The frame with several nodes more, each with whether it stands in running text. -/
def fill (f : Frame) (items : List (Node × Bool)) : Frame :=
  items.foldl (fun f i => f.append i.1 i.2) f

/-- The frame with several nodes more, each by its kind. -/
def appendAll (f : Frame) (ns : List Node) : Frame :=
  ns.foldl (fun f n => f.append n n.kind.isInline) f

theorem fill_append (f : Frame) (items others : List (Node × Bool)) :
    f.fill (items ++ others) = (f.fill items).fill others :=
  List.foldl_append

theorem appendAll_concat (f : Frame) (ns : List Node) (n : Node) :
    f.appendAll (ns ++ [n]) = (f.appendAll ns).append n n.kind.isInline := by
  rw [appendAll, List.foldl_append]
  rfl

theorem appendAll_eq_fill (f : Frame) (ns : List Node) :
    f.appendAll ns = f.fill (ns.map fun n => (n, n.kind.isInline)) := by
  rw [appendAll, fill, List.foldl_map]

/-- Filling leaves everything but the children to the frame. -/
theorem fill_eq (f : Frame) (items : List (Node × Bool)) :
    ∃ children tightParagraph, f.fill items = { f with children, tightParagraph } := by
  induction items generalizing f with
  | nil => exact ⟨_, _, rfl⟩
  | cons i items ih =>
      rcases f.append_eq i.1 i.2 with ⟨children, tight, hfirst⟩
      rcases ih (f.append i.1 i.2) with ⟨children', tight', hrest⟩
      exact ⟨children', tight', by rw [fill, List.foldl_cons, ← fill, hrest, hfirst]⟩

theorem appendAll_eq (f : Frame) (ns : List Node) :
    ∃ children tightParagraph, f.appendAll ns = { f with children, tightParagraph } := by
  rw [appendAll_eq_fill]
  exact f.fill_eq _

theorem isFresh_fill {f : Frame} (hf : f.IsFresh) {items : List (Node × Bool)}
    (h : ∀ i ∈ items, i.1.IsFresh) : (f.fill items).IsFresh :=
  List.foldlRecOn items _ hf fun _ hf i hi => isFresh_append hf (h i hi) i.2

/-- Outside items all nodes go to the end of the children. -/
theorem fill_of_isItem {f : Frame} (hitem : f.isItem = false) (htight : f.tightParagraph = false)
    (items : List (Node × Bool)) :
    f.fill items =
      { f with children := (items.map Prod.fst).foldl appendMerged f.children } := by
  induction items generalizing f with
  | nil => rfl
  | cons i items ih =>
      rw [fill, List.foldl_cons, ← fill, append_of_isItem hitem, htight, Bool.false_and,
        ih (by exact hitem) rfl, List.map_cons, List.foldl_cons, ← htight]

/-- Where it makes no difference whether a node stands in running text, nodes are appended by their
    kind. -/
theorem fill_eq_appendAll {f : Frame} {items : List (Node × Bool)}
    (htight : f.isItem = false → f.tightParagraph = false)
    (h : f.isItem = true → ∀ i ∈ items, i.2 = i.1.kind.isInline) :
    f.fill items = f.appendAll (items.map Prod.fst) := by
  rw [appendAll_eq_fill, List.map_map]
  cases hitem : f.isItem with
  | false =>
      rw [fill_of_isItem hitem (htight hitem), fill_of_isItem hitem (htight hitem), List.map_map]
      rfl
  | true =>
      refine congrArg f.fill ((List.map_id items).symm.trans (List.map_congr_left fun i hi => ?_))
      exact Prod.ext rfl (h hitem i hi)

end Frame

/-- What holds of all nodes, and outlives the growing of a text, holds of them when texts merge. -/
theorem forall_mem_foldl_appendMerged {P : Node → Prop}
    (hmerge : ∀ last n merged, last.mergeText? n = some merged → P last → P merged)
    {ns : List Node} (hns : ∀ n ∈ ns, P n) : ∀ n ∈ ns.foldl appendMerged [], P n := by
  induction ns using List.reverseRecOn with
  | nil => exact List.forall_mem_nil _
  | append_singleton ns n ih =>
      rw [List.forall_mem_append, List.forall_mem_singleton] at hns
      rw [List.foldl_append]
      exact forall_mem_appendMerged (fun last => hmerge last n) (ih hns.1) hns.2

/-- Nodes with spans keep having spans. -/
theorem span_foldl_appendMerged {ns : List Node} (hns : ∀ n ∈ ns, n.span.isSome = true) :
    ∀ n ∈ ns.foldl appendMerged [], n.span.isSome = true := by
  refine forall_mem_foldl_appendMerged (fun last n merged hmerge hlast => ?_) hns
  rcases Option.isSome_iff_exists.mp hlast with ⟨span, hspan⟩
  rw [Node.span_merged hmerge, hspan]
  cases n.span <;> rfl

/-- Nodes may merge before they are appended. -/
theorem Frame.appendAll_foldl {ns : List Node} (hns : ∀ n ∈ ns, n.span.isSome = true) (f : Frame) :
    f.appendAll (ns.foldl appendMerged []) = f.appendAll ns := by
  induction ns using List.reverseRecOn with
  | nil => rfl
  | append_singleton ns n ih =>
      rw [List.forall_mem_append] at hns
      have hspans := span_foldl_appendMerged hns.1
      rw [List.foldl_append, appendAll_concat, ← ih hns.1, List.foldl_cons, List.foldl_nil]
      rcases appendMerged_cases (ns.foldl appendMerged []) n with
        ⟨heq, -⟩ | ⟨front, last, merged, hsplit, hmerge, heq⟩
      · rw [heq, appendAll_concat]
      · -- The node is a text, and so is the last of those in front of it.
        rcases Node.mergeText?_eq_some hmerge with ⟨value, incoming, span, hlast, hn, hmerged⟩
        have hlast' : last.kind.isInline = true := by rw [hlast]; rfl
        have hn' : n.kind.isInline = true := by rw [hn]; rfl
        have hmerged' : merged.kind.isInline = true := by rw [hmerged]; rfl
        rw [hsplit, List.forall_mem_append, List.forall_mem_singleton] at hspans
        rw [heq, hsplit, appendAll_concat, appendAll_concat, hlast', hn', hmerged',
          append_append hmerge hspans.2]

/-- The frame takes in what becomes of the one in front of it. -/
def Frame.absorb (f top : Frame) : Frame :=
  if top.dissolves then f.appendAll top.children else f.append top.toNode top.inline

/-- Taking in leaves everything but the children to the frame. -/
theorem Frame.absorb_eq (f top : Frame) :
    ∃ children tightParagraph, f.absorb top = { f with children, tightParagraph } := by
  unfold absorb
  split
  · exact f.appendAll_eq _
  · exact f.append_eq _ _

namespace Builder

/-- The frame below takes in what becomes of the innermost one. -/
theorem closeTop_cons (source : String) (top : Frame) (rest : List Frame) (root : Frame) :
    closeTop ⟨source, top :: rest, root⟩ = mapTop ⟨source, rest, root⟩ (·.absorb top) := by
  have hfold (cs : List Node) (b : Builder) :
      cs.foldl (fun b n => b.append n n.kind.isInline) b = b.mapTop (·.appendAll cs) := by
    induction cs generalizing b with
    | nil => exact (mapTop_self rfl).symm
    | cons c cs ih =>
        rw [List.foldl_cons, ih, append, mapTop_mapTop]
        rfl
  unfold Frame.absorb
  cases hdissolves : top.dissolves with
  | true =>
      simp only [closeTop, hdissolves, if_true]
      exact hfold _ _
  | false =>
      simp only [closeTop, hdissolves, Bool.false_eq_true, if_false]
      rfl

/-- A tag without a node kind hands on what is in it, node by node. -/
theorem closeTop_dissolving (b : Builder) {tag : Tag} (htag : tag ≠ .paragraph) (span : Span)
    {f : Frame} (h : f.dissolves = true) :
    ((b.openTag tag span).mapTop fun _ => f).closeTop = b.mapTop (·.appendAll f.children) := by
  rw [openTag_eq, mapTop, closeTop_cons, mapTop_mapTop]
  simp only [Frame.absorb, h, if_true, if_neg htag]

end Builder

/-- The tag stands in running text. -/
def Tag.isInline : Tag → Bool
  | .emphasis | .strong | .strikethrough | .link _ _ _ | .image _ _ _ | .superscript
  | .subscript => true
  | _ => false

namespace Event

/-- The event stands in running text and neither opens nor closes. -/
def isInline : Event → Bool
  | .text _ | .code _ | .inlineMath _ | .displayMath _ | .inlineHtml _ | .footnoteReference _
  | .softBreak | .hardBreak => true
  | _ => false

/-- The node that such an event makes. Math and references to footnotes make none. -/
def kind? : Event → Option Kind
  | .text value => some (.text value)
  | .code value => some (.inlineCode value)
  | .inlineHtml value => some (.html value)
  | .softBreak => some (.text "\n")
  | .hardBreak => some .hardBreak
  | _ => none

end Event

/-- Inline events in which every tag that opens closes. -/
inductive IsInlineRun : List (Event × Span) → Prop
  | nil : IsInlineRun []
  | single {event : Event} {span : Span} {rest : List (Event × Span)} (h : event.isInline = true)
      (hrest : IsInlineRun rest) : IsInlineRun ((event, span) :: rest)
  | element {tag : Tag} {span stop : Span} {inner rest : List (Event × Span)}
      (h : tag.isInline = true) (hinner : IsInlineRun inner) (hrest : IsInlineRun rest) :
      IsInlineRun ((.start tag, span) :: (inner ++ (.close, stop) :: rest))

/-- Raw HTML stands in the events, with `depth` tags open in front of them, and in none of their
    tags. -/
def holdsHtml : (depth : Nat) → List (Event × Span) → Bool
  | _, [] => false
  | depth, (.start _, _) :: rest => holdsHtml (depth + 1) rest
  | depth, (.close, _) :: rest => holdsHtml (depth - 1) rest
  | depth, (.inlineHtml _, _) :: rest => depth = 0 || holdsHtml depth rest
  | depth, _ :: rest => holdsHtml depth rest

/-- Within a tag a run does not matter. -/
theorem holdsHtml_append {events : List (Event × Span)} (h : IsInlineRun events) (depth : Nat)
    (rest : List (Event × Span)) :
    holdsHtml (depth + 1) (events ++ rest) = holdsHtml (depth + 1) rest := by
  induction h generalizing depth rest with
  | nil => rfl
  | @single event span others hevent _ ih =>
      rw [← ih depth rest]
      cases event <;> first | exact absurd hevent Bool.false_ne_true | rfl
  | @element tag span stop inner others _ _ _ ihinner ihrest =>
      rw [List.cons_append, holdsHtml, List.append_assoc, ihinner, List.cons_append, holdsHtml]
      exact ihrest depth rest

/-- Raw HTML may be a block, so its kind does not say that it stands in running text. -/
theorem Kind.isInline_of_html {kind : Kind} (h : kind.type = .html) : kind.isInline = false := by
  cases kind <;> first | rfl | cases h

/-- The builder appends these nodes wherever it takes the events, outside code blocks. Only raw HTML
    that stands in no tag of its own is appended to running text against its kind. -/
structure Appends (source : String) (events : List (Event × Span)) (items : List (Node × Bool)) :
    Prop where
  feed : ∀ b : Builder, b.source = source → b.top.isCode = false →
    b.feed events = b.mapTop (·.fill items)
  span : ∀ i ∈ items, i.1.span.isSome = true
  fresh : ∀ i ∈ items, i.1.IsFresh
  html : ∀ i ∈ items, i.2 ≠ i.1.kind.isInline → i.2 = true ∧ i.1.type = .html
  holdsHtml : holdsHtml 0 events = true ↔ ∃ i ∈ items, i.2 ≠ i.1.kind.isInline

namespace Appends

variable {source : String}

theorem nil : Appends source [] [] where
  feed _ _ _ := (Builder.mapTop_self rfl).symm
  span := List.forall_mem_nil _
  fresh := List.forall_mem_nil _
  html := List.forall_mem_nil _
  holdsHtml := by simp [Anchormark.holdsHtml]

/-- What two parts of a stream append the whole appends. -/
theorem append {events others : List (Event × Span)} {items more : List (Node × Bool)}
    (h : Appends source events items) (hmore : Appends source others more)
    (hhtml : Anchormark.holdsHtml 0 (events ++ others) =
      (Anchormark.holdsHtml 0 events || Anchormark.holdsHtml 0 others)) :
    Appends source (events ++ others) (items ++ more) where
  feed b hsource hcode := by
    have hcode' : (b.mapTop (·.fill items)).top.isCode = false := by
      rcases b.top.fill_eq items with ⟨children, tight, heq⟩
      rw [Builder.top_mapTop, heq]
      exact hcode
    rw [Builder.feed_append, h.feed b hsource hcode,
      hmore.feed _ ((Builder.source_mapTop b _).trans hsource) hcode', Builder.mapTop_mapTop]
    simp only [Frame.fill_append]
  span := List.forall_mem_append.mpr ⟨h.span, hmore.span⟩
  fresh := List.forall_mem_append.mpr ⟨h.fresh, hmore.fresh⟩
  html := List.forall_mem_append.mpr ⟨h.html, hmore.html⟩
  holdsHtml := by
    rw [hhtml, Bool.or_eq_true, h.holdsHtml, hmore.holdsHtml]
    simp only [List.mem_append, or_and_right, exists_or]

/-- An event that is pushed as a leaf. Its kind is inline, or it is raw HTML. -/
theorem leaf {event : Event} {span : Span} {kind : Kind} (hanchor : kind.anchor? = none)
    (hpush : ∀ b : Builder, b.source = source → b.top.isCode = false →
      b.push event span = b.append { kind, span := some span } true)
    (hhtml : kind.isInline = true ∧ Anchormark.holdsHtml 0 [(event, span)] = false ∨
      kind.type = .html ∧ Anchormark.holdsHtml 0 [(event, span)] = true) :
    Appends source [(event, span)] [({ kind, span := some span }, true)] := by
  refine ⟨hpush, List.forall_mem_singleton.mpr rfl,
    List.forall_mem_singleton.mpr (Node.isFresh_leaf hanchor _), ?_, ?_⟩
  · rw [List.forall_mem_singleton]
    intro hne
    rcases hhtml with ⟨hinline, -⟩ | ⟨htype, -⟩
    · exact absurd hinline.symm hne
    · exact ⟨rfl, htype⟩
  · simp only [List.mem_singleton, exists_eq_left]
    rcases hhtml with ⟨hinline, hfalse⟩ | ⟨htype, htrue⟩
    · rw [hfalse, hinline]
      exact iff_of_false Bool.false_ne_true fun hne => hne rfl
    · rw [Kind.isInline_of_html htype]
      exact iff_of_true htrue Bool.noConfusion

/-- An event that the builder passes over. -/
theorem nothing {event : Event} {span : Span} (hpush : ∀ b : Builder, b.push event span = b)
    (hhtml : Anchormark.holdsHtml 0 [(event, span)] = false) :
    Appends source [(event, span)] [] := by
  refine ⟨fun b _ _ => (hpush b).trans (Builder.mapTop_self rfl).symm, List.forall_mem_nil _,
    List.forall_mem_nil _, List.forall_mem_nil _, ?_⟩
  rw [hhtml]
  simp

/-- An event in running text appends its node, if it makes one. -/
theorem single {event : Event} (h : event.isInline = true) (span : Span) :
    Appends source [(event, span)]
      (event.kind?.map fun kind => (({ kind, span := some span } : Node), true)).toList := by
  cases event with
  | text value =>
      exact leaf rfl (fun b _ hcode => Builder.addText_of_isCode hcode value span)
        (.inl ⟨rfl, rfl⟩)
  | softBreak =>
      exact leaf rfl (fun b _ hcode => Builder.addText_of_isCode hcode "\n" span)
        (.inl ⟨rfl, rfl⟩)
  | code | hardBreak => exact leaf rfl (fun b _ _ => rfl) (.inl ⟨rfl, rfl⟩)
  | inlineHtml => exact leaf rfl (fun b _ _ => rfl) (.inr ⟨rfl, rfl⟩)
  | inlineMath | displayMath | footnoteReference => exact nothing (fun b => rfl) rfl
  | _ => exact absurd h Bool.false_ne_true

section Element

variable {tag : Tag} (span stop : Span) {inner : List (Event × Span)}
  {items : List (Node × Bool)} (hinner : Appends source inner items)
include hinner

/-- The content of an element fills its frame. -/
theorem feed_element {f : Frame} (hframe : (Builder.new source).frameOf tag span = f)
    (hcode : f.isCode = false) {b : Builder} (hsource : b.source = source) :
    b.feed ((.start tag, span) :: (inner ++ [(.close, stop)])) =
      ((b.openTag tag span).mapTop fun _ => f.fill items).closeTop := by
  have htop : (b.openTag tag span).top = f := by
    rw [Builder.top_openTag, ← hframe]
    exact Builder.frameOf_congr hsource tag span
  have hfill : (b.openTag tag span).feed inner =
      (b.openTag tag span).mapTop fun _ => f.fill items := by
    rw [hinner.feed _ ((b.source_openTag tag span).trans hsource) (by rw [htop, hcode])]
    exact Builder.mapTop_congr (by rw [htop])
  rw [Builder.feed_cons, Builder.feed_append, ← hfill]
  rfl

/-- An element without a node kind appends the nodes in it, merged. -/
theorem dissolving (htag : tag = .superscript ∨ tag = .subscript) {b : Builder}
    (hsource : b.source = source) :
    b.feed ((.start tag, span) :: (inner ++ [(.close, stop)])) =
      b.mapTop (·.appendAll (items.map Prod.fst)) := by
  -- Its frame is no item, so there the nodes merge with no regard to what the events said of them.
  have hframe : (Builder.new source).frameOf tag span =
      { kind := .root, span := none, dissolves := true } := by
    rcases htag with rfl | rfl <;> rfl
  have hparagraph : tag ≠ .paragraph := by
    rcases htag with rfl | rfl <;> exact Tag.noConfusion
  have hspans : ∀ n ∈ items.map Prod.fst, n.span.isSome = true :=
    List.forall_mem_map.mpr hinner.span
  rw [hinner.feed_element span stop hframe rfl hsource, Frame.fill_of_isItem rfl rfl,
    Builder.closeTop_dissolving b hparagraph span rfl]
  simp only [Frame.appendAll_foldl hspans]

/-- An element with a node kind appends its node. -/
theorem exists_node (h : tag.isInline = true) (hsup : tag ≠ .superscript)
    (hsub : tag ≠ .subscript) :
    ∃ n : Node, n.span.isSome = true ∧ n.IsFresh ∧ n.kind.isInline = true ∧
      ∀ b : Builder, b.source = source →
        b.feed ((.start tag, span) :: (inner ++ [(.close, stop)])) =
          b.mapTop (·.append n true) := by
  obtain ⟨f, hframe⟩ : ∃ f, (Builder.new source).frameOf tag span = f := ⟨_, rfl⟩
  -- Whatever the tag is, its frame is of an inline kind, and the children do not change that.
  have hf : f.isCode = false ∧ f.dissolves = false ∧ f.inline = true ∧ f.span = some span ∧
      tag ≠ .paragraph ∧ ∀ children tightParagraph,
        (Frame.toNode { f with children, tightParagraph }).kind.isInline = true ∧
        (Frame.toNode { f with children, tightParagraph }).span = f.span := by
    rw [← hframe]
    cases tag <;> first
      | exact absurd h Bool.false_ne_true
      | exact absurd rfl hsup
      | exact absurd rfl hsub
      | exact ⟨rfl, rfl, rfl, rfl, Tag.noConfusion, fun _ _ => ⟨rfl, rfl⟩⟩
  rcases hf with ⟨hcode, hdissolves, hinline, hspan, hparagraph, hnode⟩
  rcases f.fill_eq items with ⟨children, tight, hfill⟩
  have hfresh : f.IsFresh := by
    rw [← hframe]
    exact Builder.invariant_isFresh.frameOf _ tag span
  refine ⟨(f.fill items).toNode, ?_, Frame.isFresh_toNode (Frame.isFresh_fill hfresh hinner.fresh),
    ?_, fun b hsource => ?_⟩
  · rw [hfill, (hnode children tight).2, hspan]
    rfl
  · rw [hfill]
    exact (hnode children tight).1
  · have hdissolves' : (f.fill items).dissolves = false := by
      rw [hfill]
      exact hdissolves
    have hinline' : (f.fill items).inline = true := by
      rw [hfill]
      exact hinline
    rw [hinner.feed_element span stop hframe hcode hsource,
      Builder.closeTop_openTag b tag span hdissolves', hinline']
    simp only [if_neg hparagraph]

/-- Either way an element appends nodes, and by their kinds. -/
theorem element (hrun : IsInlineRun inner) (h : tag.isInline = true) :
    ∃ items', Appends source ((.start tag, span) :: (inner ++ [(.close, stop)])) items' := by
  have hhtml : Anchormark.holdsHtml 0 ((.start tag, span) :: (inner ++ [(.close, stop)])) =
      false := by
    rw [Anchormark.holdsHtml, holdsHtml_append hrun]
    rfl
  by_cases hdissolves : tag = .superscript ∨ tag = .subscript
  · let merged := (items.map Prod.fst).foldl appendMerged []
    have hspans : ∀ n ∈ items.map Prod.fst, n.span.isSome = true :=
      List.forall_mem_map.mpr hinner.span
    -- A frame that dissolves gives its children back, with texts merged already.
    refine ⟨merged.map fun n => (n, n.kind.isInline), fun b hsource _ => ?_, ?_, ?_, ?_, ?_⟩
    · rw [hinner.dissolving span stop hdissolves hsource]
      simp only [← Frame.appendAll_eq_fill, merged, Frame.appendAll_foldl hspans]
    · exact List.forall_mem_map.mpr (span_foldl_appendMerged hspans)
    · exact List.forall_mem_map.mpr (forall_mem_foldl_appendMerged
        (fun _ _ _ hmerge hlast => Node.isFresh_mergeText? hlast hmerge)
        (List.forall_mem_map.mpr hinner.fresh))
    · exact List.forall_mem_map.mpr fun n _ hne => absurd rfl hne
    · rw [hhtml]
      simp
  · rw [not_or] at hdissolves
    rcases hinner.exists_node span stop h hdissolves.1 hdissolves.2 with
      ⟨n, hspan, hfresh, hinline, hfeed⟩
    refine ⟨[(n, true)], fun b hsource _ => hfeed b hsource, ?_, ?_, ?_, ?_⟩
    · rwa [List.forall_mem_singleton]
    · rwa [List.forall_mem_singleton]
    · rw [List.forall_mem_singleton]
      exact fun hne => absurd hinline.symm hne
    · rw [hhtml]
      simp [hinline]

end Element

end Appends

/-- A run appends nodes. -/
theorem IsInlineRun.exists_appends (source : String) {events : List (Event × Span)}
    (h : IsInlineRun events) : ∃ items, Appends source events items := by
  -- By induction on the run: what an element holds is a run, and so is what follows it.
  induction h with
  | nil => exact ⟨[], .nil⟩
  | @single event span rest hevent _ ih =>
      rcases ih with ⟨items, hitems⟩
      refine ⟨_, (Appends.single hevent span).append hitems ?_⟩
      cases event <;> first | exact absurd hevent Bool.false_ne_true | simp [holdsHtml]
  | @element tag span stop inner rest htag hinner _ ihinner ihrest =>
      rcases ihinner with ⟨items, hitems⟩
      rcases ihrest with ⟨more, hmore⟩
      rcases hitems.element span stop hinner htag with ⟨items', hitems'⟩
      have hwhole := hitems'.append hmore ?_
      · rw [List.cons_append, List.append_assoc] at hwhole
        exact ⟨_, hwhole⟩
      · rw [List.cons_append, List.append_assoc, holdsHtml, holdsHtml_append hinner, holdsHtml,
          holdsHtml_append hinner]
        simp [holdsHtml]

end Anchormark
