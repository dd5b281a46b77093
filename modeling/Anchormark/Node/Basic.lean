import Anchormark.Span

/-!
# Document Trees

A document is a tree of nodes. Each node has a kind, which carries what is specific to that kind,
an ordered list of children, the span of source text it came from, and an optional identifier
that an attribute block attached to it.

Any kind may have children. The kinds that never have them in a parsed document (a text, an
image, an anchor) are not told apart in the type: operations on trees are defined for every tree,
and what a parsed document looks like is a property of the parser.

## Main definitions

* `Anchor`: a named location in a document.
* `Kind`: what a node is, with its own data.
* `NodeType`: the kind without its data, which selects the renderer of a node.
* `Node`: a document tree.
-/

namespace Anchormark

/-- How the column of a table is aligned. -/
inductive Alignment
  | unset
  | left
  | center
  | right
  deriving DecidableEq, Repr, Inhabited

/-- A marker for a named location in a document. It has no text of its own, so `value` is empty
    in every anchor that is built here. -/
structure Anchor where
  id : String
  value : String := ""
  deriving DecidableEq, Repr

/-- What a node is. -/
inductive Kind
  | root
  | paragraph
  | heading (depth : Nat)
  | thematicBreak
  | blockquote
  /-- `start` is the number of the first item. `spread` says that blank lines separate the items'
      contents. -/
  | list (ordered : Bool) (start : Option Nat) (spread : Bool)
  /-- `checked` is the state of the task box, if the item has one. -/
  | listItem (spread : Bool) (checked : Option Bool)
  | code (lang : Option String) (value : String)
  | html (value : String)
  | table (align : List Alignment)
  | tableRow
  | tableCell
  | text (value : String)
  | emphasis
  | strong
  | delete
  | inlineCode (value : String)
  | hardBreak
  /-- A missing title and an empty one differ. -/
  | link (url : String) (title : Option String)
  | image (url : String) (title : Option String) (alt : String)
  | anchor (anchor : Anchor)
  deriving DecidableEq, Repr

/-- The kind of a node without its data. -/
inductive NodeType
  | root
  | paragraph
  | heading
  | thematicBreak
  | blockquote
  | list
  | listItem
  | code
  | html
  | table
  | tableRow
  | tableCell
  | text
  | emphasis
  | strong
  | delete
  | inlineCode
  | hardBreak
  | link
  | image
  | anchor
  deriving DecidableEq, Repr

namespace NodeType

/-- Every node type once. -/
def all : List NodeType :=
  [root, paragraph, heading, thematicBreak, blockquote, list, listItem, code, html, table,
    tableRow, tableCell, text, emphasis, strong, delete, inlineCode, hardBreak, link, image, anchor]

/-- The name of the type in outlines and messages. -/
def label : NodeType → String
  | root => "root"
  | paragraph => "paragraph"
  | heading => "heading"
  | thematicBreak => "thematicBreak"
  | blockquote => "blockquote"
  | list => "list"
  | listItem => "listItem"
  | code => "code"
  | html => "html"
  | table => "table"
  | tableRow => "tableRow"
  | tableCell => "tableCell"
  | text => "text"
  | emphasis => "emphasis"
  | strong => "strong"
  | delete => "delete"
  | inlineCode => "inlineCode"
  | hardBreak => "break"
  | link => "link"
  | image => "image"
  | anchor => "anchor"

/-- No node type is left out of `all`. -/
theorem mem_all (t : NodeType) : t ∈ all := by
  cases t <;> decide

end NodeType

namespace Kind

/-- The kind without its data. -/
def type : Kind → NodeType
  | root => .root
  | paragraph => .paragraph
  | heading _ => .heading
  | thematicBreak => .thematicBreak
  | blockquote => .blockquote
  | list _ _ _ => .list
  | listItem _ _ => .listItem
  | code _ _ => .code
  | html _ => .html
  | table _ => .table
  | tableRow => .tableRow
  | tableCell => .tableCell
  | text _ => .text
  | emphasis => .emphasis
  | strong => .strong
  | delete => .delete
  | inlineCode _ => .inlineCode
  | hardBreak => .hardBreak
  | link _ _ => .link
  | image _ _ _ => .image
  | anchor _ => .anchor

/-- Kinds that stand in running text. -/
def isInline : Kind → Bool
  | text _ | emphasis | strong | delete | inlineCode _ | hardBreak | link _ _ | image _ _ _
  | anchor _ => true
  | _ => false

/-- The text that a node of this kind contributes by itself. -/
def ownText : Kind → String
  | text value | inlineCode value => value
  | image _ _ alt => alt
  | _ => ""

/-- The anchor that a node of this kind is. -/
def anchor? : Kind → Option Anchor
  | anchor a => some a
  | _ => none

end Kind

/-- A document tree. `span` is where it came from, and `hint` the identifier that an attribute
    block attached to it. -/
structure Node where
  kind : Kind
  children : List Node := []
  span : Option Span := none
  hint : Option String := none
  deriving Repr

namespace Node

/-- The empty document. -/
instance : Inhabited Node :=
  ⟨{ kind := .root }⟩

mutual

/-- Trees can be compared, child by child. -/
def decEq : (a b : Node) → Decidable (a = b)
  | ⟨kind, children, span, hint⟩, ⟨kind', children', span', hint'⟩ =>
    match decEqAll children children' with
    | .isTrue hchildren =>
      decidable_of_iff (kind = kind' ∧ span = span' ∧ hint = hint') (by
        rw [mk.injEq, and_iff_right hchildren])
    | .isFalse hchildren => .isFalse fun h => hchildren (congrArg Node.children h)

/-- Several trees can be compared one by one. -/
def decEqAll : (as bs : List Node) → Decidable (as = bs)
  | [], [] => .isTrue rfl
  | [], _ :: _ => .isFalse (List.cons_ne_nil _ _).symm
  | _ :: _, [] => .isFalse (List.cons_ne_nil _ _)
  | a :: as, b :: bs =>
    match decEq a b with
    | .isTrue hfirst =>
      match decEqAll as bs with
      | .isTrue hrest => .isTrue (by rw [hfirst, hrest])
      | .isFalse hrest => .isFalse fun h => hrest (List.cons.inj h).2
    | .isFalse hfirst => .isFalse fun h => hfirst (List.cons.inj h).1

end

instance : DecidableEq Node := decEq

/-- The kind of a node without its data. -/
def type (n : Node) : NodeType :=
  n.kind.type

/-- A root with the given children. -/
def root (children : List Node := []) : Node :=
  { kind := .root, children }

/-- A paragraph with the given children. -/
def paragraph (children : List Node := []) : Node :=
  { kind := .paragraph, children }

/-- A text. -/
def text (value : String) : Node :=
  { kind := .text value }

/-- A text whose value is empty. -/
def isEmptyText (n : Node) : Bool :=
  match n.kind with
  | .text value => value.isEmpty
  | _ => false

end Node

end Anchormark
