import Anchormark.Proofs.Node.Shape

/-!
# The Stream of a Tree

Every tree of a certain form has a natural stream of events: each element opens, its content
follows, it closes. This module says which trees these are and what the stream is. That a builder
turns the stream back into the tree is a matter of its own.

A node stands in a slot of its parent, and the slot decides what may stand there and how it is
announced. Paragraphs stand bare in a tight item, HTML is a block or a part of running text, and
the first row of a table is its head.

Where an event came from does not matter, and neither does the form in which a link was written.
The one thing to keep in mind is that a builder looks for empty titles in the source: a link
without a title must not look as if it had one there.

## Main definitions

* `Slot`: where a node stands, with `Slot.admits` for what may stand there.
* `Kind.inside`: the slot of the children of a node.
* `Node.Conforms`, `Node.IsCanonical`: a node and a tree that the stream gives back.
* `Node.stream`: the stream of a tree.
* `ReadsAs`: a stream with its spans, up to the form of links and images.
* `Node.unplaced`: a tree without its spans.

## Theorems

* `Node.isSound_iff`: A tree is sound if its root conforms and its children are sound.
* `Node.unplaced_eq`: The spans are taken from the node and from its children.
* `ReadsAs.append`, `ReadsAs.single`, `ReadsAs.wrap`: How a stream comes apart.
-/

namespace Anchormark

/-- Where a node stands among the contents of its parent. -/
inductive Slot
  /-- Among blocks. -/
  | flow
  /-- Among the blocks of a tight item. -/
  | tight
  /-- In running text. -/
  | phrasing
  /-- Among the items of a list. -/
  | item
  /-- At the top of a table. -/
  | head
  /-- Further down in a table. -/
  | row
  /-- Among the cells of a row. -/
  | cell
  /-- Where nothing stands. -/
  | nowhere
  deriving DecidableEq, Repr

namespace Slot

/-- The slot of the next sibling. -/
def next : Slot → Slot
  | head => row
  | slot => slot

/-- What may stand at a slot. -/
def admits : Slot → NodeType → Bool
  | flow, type | tight, type =>
    type ∈ [NodeType.paragraph, .heading, .thematicBreak, .blockquote, .list, .code, .html, .table]
  | phrasing, type =>
    type ∈ [NodeType.text, .emphasis, .strong, .delete, .inlineCode, .html, .hardBreak, .link,
      .image]
  | item, type => type = .listItem
  | head, type | row, type => type = .tableRow
  | cell, type => type = .tableCell
  | nowhere, _ => false

end Slot

namespace Kind

/-- The slot of the first child of a node. -/
def inside : Kind → Slot
  | root | blockquote | listItem true _ => .flow
  | listItem false _ => .tight
  | paragraph | heading _ | tableCell | emphasis | strong | delete | link _ _ => .phrasing
  | list _ _ _ => .item
  | table _ => .head
  | tableRow => .cell
  | _ => .nowhere

/-- The data of a kind that do not depend on the children: depths are those of Markdown, titles
    are missing or say something, and a language is one word. There are no anchors. -/
def IsSound : Kind → Prop
  | heading depth => 1 ≤ depth ∧ depth ≤ 6
  | list ordered start _ => ordered = start.isSome
  | code (some lang) _ => lang ≠ "" ∧ lang.toList.any Text.isBlank = false
  | link _ title | image _ title _ => title ≠ some ""
  | anchor _ => False
  | _ => True

instance (kind : Kind) : Decidable kind.IsSound := by
  unfold IsSound
  split <;> infer_instance

end Kind

namespace Node

/-- The node tells whether its contents are spread. A list does what its items do. A spread item
    has a paragraph, or else nothing makes it spread. In a tight one no paragraph is empty and none
    follows another, or else it would be lost or grow together with the other. -/
def SpreadFits (n : Node) : Prop :=
  match n.kind with
  | .list _ _ spread => spread = n.children.any isSpreadItem
  | .listItem true _ => ∃ c ∈ n.children, c.type = .paragraph
  | .listItem false _ =>
    (∀ c ∈ n.children, c.type = .paragraph → c.children.isEmpty = false) ∧
      n.children.IsChain fun a b => ¬ (a.type = .paragraph ∧ b.type = .paragraph)
  | _ => True

instance (n : Node) : Decidable n.SpreadFits := by
  unfold SpreadFits
  split <;> infer_instance

/-- The node, its children taken as they are, is one that a stream gives back. -/
structure Conforms (n : Node) : Prop where
  hint : n.hint = none
  sound : n.kind.IsSound
  admitted : ∀ c ∈ n.children, n.kind.inside.admits c.type = true
  texts : TextsApart n.children
  spread : n.SpreadFits

/-- Every node of the tree is one that a stream gives back. -/
def IsSound (n : Node) : Prop :=
  ∀ m ∈ n.walk, m.Conforms

/-- A document that its stream gives back. -/
structure IsCanonical (n : Node) : Prop where
  kind : n.kind = .root
  sound : n.IsSound

instance (n : Node) : Decidable n.Conforms :=
  decidable_of_iff (n.hint = none ∧ n.kind.IsSound ∧
      (∀ c ∈ n.children, n.kind.inside.admits c.type = true) ∧ TextsApart n.children ∧ n.SpreadFits)
    ⟨fun ⟨hint, sound, admitted, texts, spread⟩ => ⟨hint, sound, admitted, texts, spread⟩,
      fun h => ⟨h.hint, h.sound, h.admitted, h.texts, h.spread⟩⟩

instance (n : Node) : Decidable n.IsCanonical :=
  decidable_of_iff (n.kind = .root ∧ ∀ m ∈ n.walk, m.Conforms)
    ⟨fun h => ⟨h.1, h.2⟩, fun h => ⟨h.kind, h.sound⟩⟩

theorem isSound_iff {n : Node} : n.IsSound ↔ n.Conforms ∧ ∀ c ∈ n.children, c.IsSound :=
  forall_mem_walk

/-- The events of an element: it opens, its content follows, it closes. -/
def wrap (tag : Tag) (inner : List Event) : List Event :=
  .start tag :: inner ++ [.close]

mutual

/-- The natural stream of a node that stands at `slot`. -/
def stream (slot : Slot) : Node → List Event
  | ⟨kind, children, _, _⟩ =>
    let inner := streamAll kind.inside children
    match kind with
    | .root => inner
    | .paragraph => if slot = .tight then inner else wrap .paragraph inner
    | .heading depth => wrap (.heading depth) inner
    | .thematicBreak => [.rule]
    | .blockquote => wrap .blockquote inner
    | .list _ start _ => wrap (.list start) inner
    | .listItem _ checked => wrap .item ((checked.map Event.task).toList ++ inner)
    | .code lang value => wrap (.fencedCode (lang.getD "")) [.text (value ++ "\n")]
    | .html value => if slot = .phrasing then [.inlineHtml value] else wrap .htmlBlock [.html value]
    | .table align => wrap (.table align) inner
    | .tableRow => wrap (if slot = .head then .tableHead else .tableRow) inner
    | .tableCell => wrap .tableCell inner
    | .text value => [.text value]
    | .emphasis => wrap .emphasis inner
    | .strong => wrap .strong inner
    | .delete => wrap .strikethrough inner
    | .inlineCode value => [.code value]
    | .hardBreak => [.hardBreak]
    | .link url title => wrap (.link .inline url (title.getD "")) inner
    | .image url title alt => wrap (.image .inline url (title.getD "")) [.text alt]
    | .anchor _ => []

/-- The natural stream of siblings, the first of which stands at `slot`. -/
def streamAll (slot : Slot) : List Node → List Event
  | [] => []
  | n :: rest => n.stream slot ++ streamAll slot.next rest

end

mutual

/-- The tree without its spans. -/
def unplaced : Node → Node
  | ⟨kind, children, _, hint⟩ => ⟨kind, unplacedAll children, none, hint⟩

/-- Several trees without their spans. -/
def unplacedAll : List Node → List Node
  | [] => []
  | n :: rest => n.unplaced :: unplacedAll rest

end

theorem unplacedAll_eq_map (cs : List Node) : unplacedAll cs = cs.map unplaced := by
  induction cs with
  | nil => rfl
  | cons c cs ih => rw [unplacedAll, ih, List.map_cons]

/-- The spans are taken from the node and from its children. -/
theorem unplaced_eq (n : Node) :
    n.unplaced = { kind := n.kind, children := n.children.map unplaced, hint := n.hint } := by
  rw [← unplacedAll_eq_map]
  cases n
  rfl

end Node

/-- The tag, as if it was written inline. -/
def Tag.formless : Tag → Tag
  | link _ url title => link .inline url title
  | image _ url title => image .inline url title
  | tag => tag

/-- The event, as if what opens was written inline. -/
def Event.formless : Event → Event
  | start tag => start tag.formless
  | event => event

/-- Links and images are written in one of several forms. -/
def Tag.hasForm : Tag → Bool
  | link _ _ _ | image _ _ _ => true
  | _ => false

/-- The event opens an inline link without a title, or with an empty one. -/
def Event.isUntitled : Event → Bool
  | start (.link .inline _ title) => title.isEmpty
  | _ => false

/-- The event opens an element. -/
def Event.opens : Event → Bool
  | start _ => true
  | _ => false

/-- A tag that is not written in several forms is what it seems. -/
theorem Tag.eq_of_formless {given tag : Tag} (h : given.formless = tag)
    (htag : tag.hasForm = false) : given = tag := by
  subst h
  cases given with
  | link | image => cases htag
  | _ => rfl

/-- So is an event that opens nothing. -/
theorem Event.eq_of_formless {given event : Event} (h : given.formless = event)
    (hevent : event.opens = false) : given = event := by
  subst h
  cases given with
  | start => cases hevent
  | _ => rfl

/-- The source of the span ends with an empty title. -/
def Span.showsEmptyTitle (source : String) (span : Span) : Bool :=
  ((span.slice? source).map (hasEmptyTitle ·.toList)).getD false

/-- The events of the stream are the ones given, whatever the form of links and images, and no
    link without a title shows an empty one in the source. -/
structure ReadsAs (source : String) (stream : List (Event × Span)) (events : List Event) :
    Prop where
  events : stream.map (fun e => e.1.formless) = events
  titles : ∀ e ∈ stream, e.1.isUntitled = true → e.2.showsEmptyTitle source = false

instance (source : String) (stream : List (Event × Span)) (events : List Event) :
    Decidable (ReadsAs source stream events) :=
  decidable_of_iff (stream.map (fun e => e.1.formless) = events ∧
      ∀ e ∈ stream, e.1.isUntitled = true → e.2.showsEmptyTitle source = false)
    ⟨fun h => ⟨h.1, h.2⟩, fun h => ⟨h.events, h.titles⟩⟩

namespace ReadsAs

variable {source : String} {stream : List (Event × Span)}

theorem nil (h : ReadsAs source stream []) : stream = [] :=
  List.map_eq_nil_iff.mp h.events

/-- A stream comes apart where its events do. -/
theorem append {front back : List Event} (h : ReadsAs source stream (front ++ back)) :
    ∃ first second, stream = first ++ second ∧ ReadsAs source first front ∧
      ReadsAs source second back := by
  rcases h with ⟨hstream, htitles⟩
  rcases List.map_eq_append_iff.mp hstream with ⟨first, second, rfl, hfirst, hsecond⟩
  rw [List.forall_mem_append] at htitles
  exact ⟨first, second, rfl, ⟨hfirst, htitles.1⟩, ⟨hsecond, htitles.2⟩⟩

/-- A stream of one event that opens nothing is that event. -/
theorem single {event : Event} (h : ReadsAs source stream [event])
    (hevent : event.opens = false) : ∃ span, stream = [(event, span)] := by
  rcases List.map_eq_singleton_iff.mp h.events with ⟨⟨given, span⟩, rfl, hgiven⟩
  have hsame : given = event := Event.eq_of_formless hgiven hevent
  exact ⟨span, by rw [hsame]⟩

/-- The stream of an element is the stream of its content between two events. -/
theorem wrap {tag : Tag} {inner : List Event} (h : ReadsAs source stream (Node.wrap tag inner)) :
    ∃ given span content stop, stream = (.start given, span) :: content ++ [(.close, stop)] ∧
      given.formless = tag ∧
      ((Event.start given).isUntitled = true → span.showsEmptyTitle source = false) ∧
      ReadsAs source content inner := by
  rcases h.append with ⟨front, last, rfl, hfront, hlast⟩
  rcases hlast.single rfl with ⟨stop, rfl⟩
  rcases List.map_eq_cons_iff.mp hfront.events with ⟨⟨event, span⟩, content, rfl, hevent, hcontent⟩
  cases event with
  | start given =>
      rcases List.forall_mem_cons.mp hfront.titles with ⟨htitle, htitles⟩
      exact ⟨given, span, content, stop, rfl, Event.start.inj hevent, htitle, hcontent, htitles⟩
  | _ => cases hevent

end ReadsAs

end Anchormark
