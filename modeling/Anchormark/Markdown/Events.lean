import Anchormark.Markdown.Document
import Anchormark.Markdown.Emphasis
import Anchormark.Node.Builder

/-!
# From Text to Events

The blocks of a document, with the running text inside them settled, become a stream of events.
Every event comes with the span of the element it belongs to, in bytes.

A paragraph that stands directly in an item of a tight list has no events of its own: only its text
shows.

## Main definitions

* `events`: the events of a Markdown text.
* `Node.ofMarkdown`: the tree of a Markdown text.
-/

namespace Anchormark

namespace Markdown

/-- An event and the characters it came from. -/
abbrev Located := Event × Nat × Nat

/-- Events inside an element. -/
def enclose (tag : Tag) (start stop : Nat) (inside : List Located) : List Located :=
  (.start tag, start, stop) :: inside ++ [(.close, start, stop)]

mutual

/-- The events of an element of running text. Marks that are left over are text. -/
def Inline.events : Inline → List Located
  | .leaf start stop event => [(event, start, stop)]
  | .hardBreak start stop _ => [(.hardBreak, start, stop)]
  | .marks start mark count tail _ _ =>
    [(.text (String.ofList (List.replicate count mark ++ tail)), start,
      start + count + tail.length)]
  | .group start stop tag children => enclose tag start stop (inlineEvents children)

/-- The events of running text. -/
def inlineEvents : List Inline → List Located
  | [] => []
  | item :: rest => item.events ++ inlineEvents rest

end

/-- The document around a block. -/
structure BlockContext where
  document : Document
  definitions : Definitions

namespace BlockContext

/-- The events of the pieces of a block that ends before character `stop`. -/
def textEvents (ctx : BlockContext) (containers : List Container) (inTable : Bool) (stop : Nat)
    (pieces : List Piece) : List Located :=
  let inside : InlineContext :=
    { text := ctx.document.text.take stop, containers, inTable, definitions := ctx.definitions }
  let markup := pieces.any fun p => p.kind.mayBeMarkup
  inlineEvents (settleEmphasis markup (settleLinks inside pieces))

/-- The events of a table row. -/
def rowEvents (ctx : BlockContext) (containers : List Container) (tag : Tag) (r : Row) :
    List Located :=
  enclose tag r.start r.stop <| r.cells.flatMap fun c =>
    enclose .tableCell c.start c.stop (ctx.textEvents containers true c.stop c.pieces)

/-- The events of a line of HTML. What was taken off its front is text. -/
def htmlEvents (line : HtmlLine) : List Located :=
  let front : List Located :=
    if line.indent = 0 then []
    else [(.text (String.ofList (List.replicate line.indent ' ')), line.start, line.start)]
  front ++ [(.html (String.ofList line.text), line.start, line.stop)]

/-- The events of a leaf. `tight` says that it stands directly in an item of a tight list. -/
def leafEvents (ctx : BlockContext) (containers : List Container) (tight : Bool)
    (start stop : Nat) : Leaf → List Located
  | .paragraph pieces =>
    let inside := ctx.textEvents containers false stop pieces
    if tight then inside else enclose .paragraph start stop inside
  | .heading depth pieces =>
    enclose (.heading depth) start stop (ctx.textEvents containers false stop pieces)
  | .thematicBreak => [(.rule, start, stop)]
  | .indentedCode text =>
    enclose .indentedCode start stop [(.text (String.ofList text), start, stop)]
  | .fencedCode info text =>
    enclose (.fencedCode (String.ofList info)) start stop
      [(.text (String.ofList text), start, stop)]
  | .html lines => enclose .htmlBlock start stop (lines.flatMap htmlEvents)
  | .table columns header body =>
    enclose (.table columns) start stop
      (ctx.rowEvents containers .tableHead header ++
        body.flatMap (ctx.rowEvents containers .tableRow))
  | .task checked => [(.task checked, start, stop)]

/-- The tag of a container. -/
def tagOf : Shape → Tag
  | .quote => .blockquote
  | .list _ _ first => .list first
  | .item _ => .item

mutual

/-- The events of a block inside the given containers. -/
def blockEvents (ctx : BlockContext) (containers : List Container) (tight : Bool) :
    Block → List Located
  | .leaf start stop content => ctx.leafEvents containers tight start stop content
  | .container start stop shape children =>
    let tight := match shape with
      | .quote => false
      | .list tight _ _ => tight
      | .item _ => tight
    enclose (tagOf shape) start stop
      (ctx.blocksEvents (containers ++ [shape.container]) tight children)

/-- The events of several blocks. -/
def blocksEvents (ctx : BlockContext) (containers : List Container) (tight : Bool) :
    List Block → List Located
  | [] => []
  | b :: rest => ctx.blockEvents containers tight b ++ ctx.blocksEvents containers tight rest

end

end BlockContext

/-- The byte at which each character starts, and the end, from byte `n` on. -/
def byteOffsets (n : Nat) : List Char → List Nat
  | [] => [n]
  | c :: rest => n :: byteOffsets (n + c.utf8Size) rest

end Markdown

open Markdown in
/-- The events of a Markdown text, each with its span. -/
def events (options : ParseOptions) (source : String) : List (Event × Span) :=
  let document : Document := ⟨source.toList, options⟩
  let (blocks, definitions) := document.blocks
  let offsets := (byteOffsets 0 source.toList).toArray
  let offset (i : Nat) : Nat := offsets[i]?.getD 0
  (BlockContext.blocksEvents ⟨document, definitions⟩ [] false blocks).map
    fun (event, start, stop) => (event, ⟨offset start, offset stop⟩)

/-- The tree of a Markdown text. Every text has one. -/
def Node.ofMarkdown (options : ParseOptions) (source : String) : Node :=
  Node.ofEvents source (events options source)

end Anchormark
