import Anchormark.Markdown.Event
import Anchormark.Node.EmptyTitle
import Anchormark.Node.Walk

/-!
# Building a Tree from Events

A builder follows the nesting of an event stream with a stack of open frames. An opening event
pushes a frame; a closing event takes the innermost one off, turns it into a finished node and
appends that to the frame below.

Streams need not be balanced. A surplus closing event does nothing, because the frame of the root
is not on the stack, and finishing closes whatever is still open.

Three rules shape the tree. Neighbouring texts merge into one. Items of tight lists, whose text
comes without a paragraph, get one around every run of inline content. Elements without a node
kind dissolve into the element around them.

## Main definitions

* `Frame`: an element that is open.
* `Builder`: the frames of a document in progress.
* `Builder.push`: takes one event.
* `Builder.finish`: closes everything and gives the tree.
* `Node.ofEvents`: the tree of a whole stream.
-/

namespace Anchormark

/-- Two neighbouring texts as one: the values join, and the span grows over both when both have
    one. -/
def Node.mergeText? (last n : Node) : Option Node :=
  match last.kind, n.kind with
  | .text value, .text incoming =>
    let span := match last.span, n.span with
      | some a, some b => some (a.cover b)
      | own, _ => own
    some { last with kind := .text (value ++ incoming), span }
  | _, _ => none

/-- Appends a node to its siblings. A text joins a text right before it. -/
def appendMerged : List Node → Node → List Node
  | [], n => [n]
  | [last], n =>
    match last.mergeText? n with
    | some merged => [merged]
    | none => [last, n]
  | first :: second :: rest, n => first :: appendMerged (second :: rest) n

/-- A list item whose content is separated by blank lines. -/
def Node.isSpreadItem (n : Node) : Bool :=
  match n.kind with
  | .listItem spread _ => spread
  | _ => false

/-- An element that is open. -/
structure Frame where
  kind : Kind
  span : Option Span
  children : List Node := []
  /-- The finished node stands in running text. -/
  inline : Bool := false
  /-- On closing, the children go to the frame below one by one. -/
  dissolves : Bool := false
  /-- The last child is a paragraph that was put around inline content of a tight item. -/
  tightParagraph : Bool := false

namespace Frame

/-- The node of a closed frame: the description of an image is the text inside it, a code block
    loses its last line ending, and a list is spread when one of its items is. -/
def toNode (f : Frame) : Node :=
  match f.kind with
  | .image url title _ =>
    { kind := .image url title (String.join (f.children.map Node.plainText)), span := f.span }
  | .code lang value =>
    let lines := match value.toList.reverse with
      | '\n' :: rest => String.ofList rest.reverse
      | _ => value
    { kind := .code lang lines, children := f.children, span := f.span }
  | .list ordered start _ =>
    { kind := .list ordered start (f.children.any Node.isSpreadItem), children := f.children,
      span := f.span }
  | kind => { kind, children := f.children, span := f.span }

/-- The frame is a list item. -/
def isItem (f : Frame) : Bool :=
  match f.kind with
  | .listItem _ _ => true
  | _ => false

/-- Puts inline content at the end of the last of the children, a paragraph, whose span grows over
    it. -/
def growLast : List Node → Node → List Node
  | [], _ => []
  | [paragraph], n =>
    let span := match paragraph.span, n.span with
      | some outer, some inner => some (outer.cover inner)
      | own, _ => own
    [{ paragraph with span, children := appendMerged paragraph.children n }]
  | first :: second :: rest, n => first :: growLast (second :: rest) n

/-- Puts inline content into the paragraph of a tight item, after opening one when the last child
    is not such a paragraph. -/
def appendTight (f : Frame) (n : Node) : Frame :=
  if f.tightParagraph then
    { f with children := growLast f.children n }
  else
    { f with
      children := f.children ++ [{ kind := .paragraph, span := n.span, children := [n] }]
      tightParagraph := true }

/-- Appends a finished node to the frame. -/
def append (f : Frame) (n : Node) (inline : Bool) : Frame :=
  if inline && f.isItem then
    f.appendTight n
  else
    { f with
      children := appendMerged f.children n
      tightParagraph := f.tightParagraph && inline }

/-- A paragraph opens in the frame: in a list item, that makes the item spread. -/
def noteParagraph (f : Frame) : Frame :=
  match f.kind with
  | .listItem _ checked => { f with kind := .listItem true checked, tightParagraph := false }
  | _ => f

end Frame

/-- The frames of a document in progress, innermost first, and the frame of the root. -/
structure Builder where
  source : String
  frames : List Frame := []
  root : Frame

namespace Builder

/-- A builder for `source` that has seen no event. -/
def new (source : String) : Builder :=
  { source, root := { kind := .root, span := some ⟨0, Text.size source⟩ } }

/-- Changes the innermost frame. -/
def mapTop (b : Builder) (f : Frame → Frame) : Builder :=
  match b.frames with
  | [] => { b with root := f b.root }
  | top :: rest => { b with frames := f top :: rest }

/-- The innermost frame. -/
def top (b : Builder) : Frame :=
  b.frames.headD b.root

/-- Appends a finished node to the innermost frame. -/
def append (b : Builder) (n : Node) (inline : Bool) : Builder :=
  b.mapTop (·.append n inline)

/-- The language of a code block: the first word of its info string. -/
def language? (info : String) : Option String :=
  (Text.firstWord? Text.isBlank info.toList).map String.ofList

/-- The title of a link. An empty one counts when it is written in the source of an inline link. -/
def linkTitle (b : Builder) (form : LinkForm) (title : String) (span : Span) : Option String :=
  if !title.isEmpty then some title
  else if form = .inline && ((span.slice? b.source).map (hasEmptyTitle ·.toList)).getD false then
    some ""
  else none

/-- The frame that a tag opens. -/
def frameOf (b : Builder) (tag : Tag) (span : Span) : Frame :=
  let block (kind : Kind) : Frame := { kind, span := some span }
  let inline (kind : Kind) : Frame := { kind, span := some span, inline := true }
  match tag with
  | .paragraph => block .paragraph
  | .heading depth => block (.heading depth)
  | .blockquote => block .blockquote
  | .fencedCode info => block (.code (language? info) "")
  | .indentedCode => block (.code none "")
  | .htmlBlock => block (.html "")
  | .list start => block (.list start.isSome start false)
  | .item => block (.listItem false none)
  | .table align => block (.table align)
  | .tableHead | .tableRow => block .tableRow
  | .tableCell => block .tableCell
  | .emphasis => inline .emphasis
  | .strong => inline .strong
  | .strikethrough => inline .delete
  | .link form url title => inline (.link url (b.linkTitle form title span))
  | .image _ url title => inline (.image url (if title.isEmpty then none else some title) "")
  -- Elements without a node of their own: their children go to the element around them.
  | .footnoteDefinition | .definitionList | .definitionTitle | .definitionBody
  | .superscript | .subscript | .metadata =>
    { kind := .root, span := none, dissolves := true }

/-- Opens an element. -/
def openTag (b : Builder) (tag : Tag) (span : Span) : Builder :=
  let b := if tag = .paragraph then b.mapTop Frame.noteParagraph else b
  { b with frames := b.frameOf tag span :: b.frames }

/-- Closes the innermost element; without one, nothing happens. -/
def closeTop (b : Builder) : Builder :=
  match b.frames with
  | [] => b
  | top :: rest =>
    let below := { b with frames := rest }
    if top.dissolves then
      top.children.foldl (fun b n => b.append n n.kind.isInline) below
    else
      below.append top.toNode top.inline

/-- Text goes into the value of an open code block, and otherwise becomes a node. -/
def addText (b : Builder) (value : String) (span : Span) : Builder :=
  match b.top.kind with
  | .code lang lines => b.mapTop fun f => { f with kind := .code lang (lines ++ value) }
  | _ => b.append { kind := .text value, span := some span } true

/-- A line of HTML goes into the value of an open HTML block, and otherwise becomes a node. -/
def addHtml (b : Builder) (value : String) (span : Span) : Builder :=
  match b.top.kind with
  | .html lines => b.mapTop fun f => { f with kind := .html (lines ++ value) }
  | _ => b.append { kind := .html value, span := some span } true

/-- Sets the task box of the first frame that is a list item. -/
def markTask (checked : Bool) : List Frame → List Frame
  | [] => []
  | f :: rest =>
    match f.kind with
    | .listItem spread _ => { f with kind := .listItem spread (some checked) } :: rest
    | _ => f :: markTask checked rest

/-- Takes one event, which came from `span`. -/
def push (b : Builder) (event : Event) (span : Span) : Builder :=
  let leaf (kind : Kind) (inline : Bool) : Builder := b.append { kind, span := some span } inline
  match event with
  | .start tag => b.openTag tag span
  | .close => b.closeTop
  | .text value => b.addText value span
  | .code value => leaf (.inlineCode value) true
  | .inlineHtml value => leaf (.html value) true
  | .html value => b.addHtml value span
  | .softBreak => b.addText "\n" span
  | .hardBreak => leaf .hardBreak true
  | .rule => leaf .thematicBreak false
  | .task checked => { b with frames := markTask checked b.frames }
  | .inlineMath _ | .displayMath _ | .footnoteReference _ => b

/-- Closes every element of the frames given, innermost first, and then gives the root. -/
def finishFrames (b : Builder) : List Frame → Node
  | [] => b.root.toNode
  | _ :: rest => finishFrames b.closeTop rest

/-- Closes what is open and gives the tree. -/
def finish (b : Builder) : Node :=
  b.finishFrames b.frames

end Builder

/-- The tree of a stream of events, each with the span that it came from. -/
def Node.ofEvents (source : String) (events : List (Event × Span)) : Node :=
  (events.foldl (fun b (event, span) => b.push event span) (Builder.new source)).finish

end Anchormark
