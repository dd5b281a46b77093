import Anchormark.Node.Basic

/-!
# Events

Markdown is read into a flat stream of events: an element opens, text and other leaves follow,
the element closes. Closing does not say what it closes; it always belongs to the innermost open
element. The stream covers more of Markdown than a document tree can hold: elements without a
node kind of their own are still events, and the tree builder decides what becomes of them.

## Main definitions

* `LinkForm`: how a link was written.
* `Tag`: an element that can open.
* `Event`: one step of the stream.
-/

namespace Anchormark

/-- How a link was written. The `unknown` forms are references without a definition. -/
inductive LinkForm
  | inline
  | reference
  | unknownReference
  | collapsed
  | unknownCollapsed
  | shortcut
  | unknownShortcut
  | autolink
  | email
  | wiki
  deriving DecidableEq, Repr

/-- An element that holds other events. The last seven have no node kind. -/
inductive Tag
  | paragraph
  | heading (depth : Nat)
  | blockquote
  | fencedCode (info : String)
  | indentedCode
  | htmlBlock
  /-- The number of the first item for an ordered list, `none` for bullets. -/
  | list (start : Option Nat)
  | item
  | table (align : List Alignment)
  | tableHead
  | tableRow
  | tableCell
  | emphasis
  | strong
  | strikethrough
  | link (form : LinkForm) (url title : String)
  | image (form : LinkForm) (url title : String)
  | footnoteDefinition
  | definitionList
  | definitionTitle
  | definitionBody
  | superscript
  | subscript
  | metadata
  deriving DecidableEq, Repr

/-- One step in the stream of a document. -/
inductive Event
  | start (tag : Tag)
  /-- Closes the innermost open element. -/
  | close
  | text (value : String)
  | code (value : String)
  | inlineMath (value : String)
  | displayMath (value : String)
  | html (value : String)
  | inlineHtml (value : String)
  | footnoteReference (value : String)
  | softBreak
  | hardBreak
  | rule
  | task (checked : Bool)
  deriving DecidableEq, Repr

end Anchormark
