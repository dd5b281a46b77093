import Anchormark.Markdown.Link
import Anchormark.Markdown.Piece

/-!
# Blocks

A document is a sequence of blocks. Containers (block quotes, lists, items) hold blocks; leaves
hold text that is still in pieces, or text that is taken as it is.

While a document is read, the containers that are open form a stack. A line first decides which of
them it continues, and the others are closed; then it may open new ones, and what remains of it
belongs to a leaf. Two things about lists can be told only later. Whether a list is tight depends
on a blank line between any of its parts, so the blank line before the current one is remembered.
And an item that begins with a blank line holds nothing if a second one follows, so the end of its
marker line is remembered.

Positions are counted in characters from the start of the document.

## Main definitions

* `Block`: a finished block.
* `BlockStack`: the containers that are open, and what has been finished.
* `BlockStack.append`, `push`, `pop`: building the tree of blocks.
* `BlockStack.finishList`, `continueList`: what the next block means for a list.
-/

namespace Anchormark.Markdown

/-- A line of an HTML block, with the columns of indentation that were taken off it. -/
structure HtmlLine where
  indent : Nat
  start : Nat
  stop : Nat
  text : List Char

/-- A cell of a table. -/
structure Cell where
  start : Nat
  stop : Nat
  pieces : List Piece

/-- A row of a table. -/
structure Row where
  start : Nat
  stop : Nat
  cells : List Cell

/-- A block without blocks inside. -/
inductive Leaf
  | paragraph (pieces : List Piece)
  | heading (depth : Nat) (pieces : List Piece)
  | thematicBreak
  | indentedCode (text : List Char)
  | fencedCode (info text : List Char)
  | html (lines : List HtmlLine)
  | table (columns : List Alignment) (header : Row) (body : List Row)
  /-- The task box of an item that has no text behind it. -/
  | task (checked : Bool)

/-- A block with blocks inside. -/
inductive Shape
  | quote
  /-- `mark` tells lists apart that follow one another. An ordered list has the number of its first
      item. -/
  | list (tight : Bool) (mark : Char) (first : Option Nat)
  /-- `indent` is the column at which the content begins. -/
  | item (indent : Nat)
  deriving DecidableEq, Repr

/-- A block, from character `start` up to character `stop`. -/
inductive Block
  | leaf (start stop : Nat) (content : Leaf)
  | container (start stop : Nat) (shape : Shape) (children : List Block)

/-- A link reference definition. -/
structure Definition where
  url : List Char
  title : List Char

/-- The definitions of a document, by the compared form of their labels. -/
abbrev Definitions := List (List Char × Definition)

namespace Shape

/-- What a line has to begin with to continue the container. -/
def container : Shape → Container
  | quote => .quote
  | list _ _ _ => .list
  | item indent => .item indent

end Shape

/-- A container that is open. -/
structure OpenBlock where
  shape : Shape
  start : Nat
  /-- The blocks inside that are finished, newest first. -/
  children : List Block := []

/-- The containers that are open, and what the reading of the next line depends on. -/
structure BlockStack where
  /-- The open containers, innermost first. -/
  stack : List OpenBlock := []
  /-- The finished blocks outside of any container, newest first. -/
  finished : List Block := []
  /-- Where the line of the marker ended, for an item that nothing has followed yet. -/
  emptyItem : Option Nat := none
  /-- The line before was blank. -/
  afterBlank : Bool := false
  definitions : Definitions := []

namespace BlockStack

/-- The open containers as lines see them, outermost first. -/
def containers (s : BlockStack) : List Container :=
  (s.stack.map fun b => b.shape.container).reverse

/-- Adds a finished block to the innermost container. -/
def append (s : BlockStack) (b : Block) : BlockStack :=
  match s.stack with
  | [] => { s with finished := b :: s.finished }
  | top :: rest => { s with stack := { top with children := b :: top.children } :: rest }

/-- Opens a container. -/
def push (s : BlockStack) (shape : Shape) (start : Nat) : BlockStack :=
  { s with stack := { shape, start } :: s.stack }

/-- Closes the innermost container before character `stop`. Closing a tight list settles that no
    item of it is still waiting for content. -/
def pop (s : BlockStack) (stop : Nat) : BlockStack :=
  match s.stack with
  | [] => s
  | top :: rest =>
    let emptyItem := match top.shape with
      | .list true _ _ => none
      | _ => s.emptyItem
    ({ s with stack := rest, emptyItem }).append
      (.container top.start stop top.shape top.children.reverse)

/-- Closes containers, as many as given. -/
def popMany (s : BlockStack) (stop : Nat) : Nat → BlockStack
  | 0 => s
  | n + 1 => (s.pop stop).popMany stop n

/-- Changes the shape of a container. -/
def reshape (f : Shape → Shape) (b : OpenBlock) : OpenBlock :=
  { b with shape := f b.shape }

/-- A list that turns out not to be tight. -/
def loosen : Shape → Shape
  | .list _ mark first => .list false mark first
  | shape => shape

/-- Closes the innermost item if it began with a blank line and another one followed. -/
def finishEmptyItem (s : BlockStack) : BlockStack :=
  let s' := { s with emptyItem := none }
  match s.emptyItem, s.afterBlank, s.stack with
  | some stop, true, { shape := .item _, .. } :: _ => s'.pop stop
  | _, _, _ => s'

/-- A block other than an item begins at character `stop`: an open list ends before it. A blank
    line before it makes the list around the current item loose. -/
def finishList (s : BlockStack) (stop : Nat) : BlockStack :=
  let s := s.finishEmptyItem
  let s := match s.stack with
    | { shape := .list _ _ _, .. } :: _ => s.pop stop
    | _ => s
  if s.afterBlank then
    match s.stack with
    | item :: around :: rest =>
      { s with afterBlank := false, stack := item :: reshape loosen around :: rest }
    | _ => { s with afterBlank := false }
  else s

/-- An item with the given mark and number begins at character `start`: it goes on with the open
    list if that has the same mark, and begins a new list otherwise. -/
def continueList (s : BlockStack) (start : Nat) (mark : Char) (first : Option Nat) :
    BlockStack :=
  let s := s.finishEmptyItem
  let fresh (s : BlockStack) : BlockStack :=
    { s.push (.list true mark first) start with afterBlank := false }
  match s.stack with
  | [] => fresh s
  | top :: rest =>
    match top.shape with
    | .list _ current _ =>
      if current = mark then
        if s.afterBlank then { s with stack := reshape loosen top :: rest, afterBlank := false }
        else s
      else fresh (s.finishList start)
    | _ => fresh (s.finishList start)

/-- A line is blank. Inside a quote that says nothing. In an item without content it takes the
    indentation away that the content would need. -/
def noteBlank (s : BlockStack) : BlockStack :=
  match s.stack with
  | { shape := .quote, .. } :: _ => s
  | top :: rest =>
    match top.shape, s.emptyItem with
    | .item _, some _ =>
      { s with afterBlank := true, stack := { top with shape := .item 0 } :: rest }
    | _, _ => { s with afterBlank := true }
  | [] => { s with afterBlank := true }

/-- Adds a definition. The first one for a label counts. -/
def define (s : BlockStack) (key : List Char) (d : Definition) : BlockStack :=
  if (s.definitions.lookup key).isSome then s
  else { s with definitions := s.definitions ++ [(key, d)] }

end BlockStack

end Anchormark.Markdown
