import Anchormark.Render.Escape
import Anchormark.Render.Handler
import Anchormark.Render.Table
import Anchormark.Text.Blank
import Anchormark.Text.Offset

/-!
# Built-in Renderers

One renderer for each type of node that Markdown itself has. Anchors have none, because only a
plugin puts them into a tree, and that plugin brings their renderer along.

A list renders its items itself, since only the list knows their numbers, and a table lays out
the contents of its cells, so neither uses what the renderers for items and rows made of them.

## Main definitions

* `builtin`: the renderer for a type.
* `Node.render`: the rendering of a tree by registered and built-in handlers.
* `Node.toMarkdown`: a whole document.
-/

namespace Anchormark

namespace Builtin

/-- The outputs of block children that are not empty, with `separator` between them. -/
def blocks (separator : String) (parts : List Rendering) : Except RenderError String := do
  let outputs ← Rendering.outputs parts
  return separator.intercalate (outputs.filter (!·.isEmpty))

/-- Puts `first` before the first line and `rest` before the others, except that an empty later
    line becomes `empty`. -/
def indentLines (first rest empty : List Char) (content : List Char) : List Char :=
  match Text.lines content with
  | [] => first
  | line :: others =>
    Text.unlines ((first ++ line) ::
      others.map fun line => if line.isEmpty then empty else rest ++ line)

/-- Line feeds become spaces. -/
def oneLine (cs : List Char) : List Char :=
  cs.map fun c => if c = '\n' then ' ' else c

/-- The length of the longest run of `c`. -/
def longestRun (c : Char) (cs : List Char) : Nat :=
  go 0 0 cs
where
  /-- The longest run so far is `longest`, and the run that is going on has length `current`. -/
  go (longest current : Nat) : List Char → Nat
    | [] => longest
    | d :: rest =>
      if d = c then go (max longest (current + 1)) (current + 1) rest else go longest 0 rest

/-- `c`, `n` times. -/
def repeated (n : Nat) (c : Char) : String :=
  String.ofList (List.replicate n c)

/-- A link or image destination. One with blanks or controls, or with parentheses that do not pair
    up in number, goes into angle brackets. -/
def destination (url : List Char) : List Char :=
  if url.any (fun c => Text.isBlank c || Text.isControl c) || url.count '(' ≠ url.count ')' then
    '<' :: (url.flatMap fun c => if c = '<' || c = '>' then ['\\', c] else [c]) ++ ['>']
  else url

/-- A title behind a destination. An empty title is not written. -/
def titleSuffix : Option String → List Char
  | none => []
  | some title =>
    if title.isEmpty then []
    else [' ', '"'] ++
      (title.toList.flatMap fun c => if c = '\\' || c = '"' then ['\\', c] else [c]) ++ ['"']

/-- The only text of the link is its own absolute address or mail address. -/
def isAutolink (n : Node) (url : String) : Bool :=
  match n.children with
  | [child] =>
    match child.kind with
    | .text value =>
      let bare := (Text.stripFront? "mailto:".toList url.toList).getD url.toList
      !url.isEmpty && (value = url || value.toList = bare) &&
        ((Text.hasInfix "://".toList url.toList) || '@' ∈ url.toList)
    | _ => false
  | _ => false

/-- The marker of the `i`-th item of a list. -/
def itemMarker (o : RenderOptions) (ordered : Bool) (start : Option Nat) (i : Nat) : String :=
  if ordered then toString (start.getD 1 + i) ++ "." else String.ofList [o.bullet]

/-- The column at which the content of an item begins, for a marker of `size` bytes. -/
def contentColumn (o : RenderOptions) (spread : Bool) (size : Nat) : Nat :=
  let tabStop := (size + 1 + 3) / 4 * 4
  match o.listIndent with
  | .one => size + 1
  | .tab => tabStop
  | .mixed => if spread then tabStop else size + 1

/-- The content of an item set off by its marker. -/
def indentItem (marker : List Char) (column : Nat) (content : List Char) : List Char :=
  indentLines (marker ++ Table.blanks (column - marker.length)) (Table.blanks column) [] content

/-- A list item with the given marker. Any node can stand in a list; one that is no item counts as
    a tight item. -/
def item (o : RenderOptions) (marker : String) (n : Node) (parts : List Rendering) :
    Except RenderError String := do
  let (spread, checked) := match n.kind with
    | .listItem spread checked => (spread, checked)
    | _ => (false, none)
  let content ← blocks (if spread then "\n\n" else "\n") parts
  let box := match checked with
    | none => ""
    | some true => "[x] "
    | some false => "[ ] "
  return String.ofList (indentItem marker.toList (contentColumn o spread (Text.size marker))
    (box ++ content).toList)

/-- The items of a list, the first of which has index `i`. -/
def items (o : RenderOptions) (ordered : Bool) (start : Option Nat) (i : Nat) :
    List Rendering → Except RenderError (List String)
  | [] => return []
  | r :: rest => do
    let first ← item o (itemMarker o ordered start i) r.node r.parts
    let others ← items o ordered start (i + 1) rest
    return first :: others

/-- The error of a renderer that was given the wrong type of node. -/
def unexpected (expected : NodeType) (n : Node) : Except RenderError String :=
  .error (.unexpectedNode expected n.type)

/-- Block children with a blank line between them. -/
def root : Handler := fun _ _ parts =>
  blocks "\n\n" parts

/-- Inline children, with the line starts made safe. -/
def paragraph : Handler := fun _ _ parts => do
  let content ← Rendering.inline parts
  return String.ofList (Escape.escapeLineStarts content.toList)

/-- As many marks as the depth says, at most six, and the content on the same line. -/
def heading : Handler := fun _ n parts =>
  match n.kind with
  | .heading depth => do
    let content ← Rendering.inline parts
    let marks := repeated (max 1 (min depth 6)) '#'
    if content.isEmpty then return marks
    else return marks ++ " " ++ String.ofList (oneLine content.toList)
  | _ => unexpected .heading n

/-- Three asterisks. -/
def thematicBreak : Handler := fun _ _ _ =>
  return "***"

/-- Every line behind a greater-than sign. -/
def blockquote : Handler := fun _ _ parts => do
  let content ← blocks "\n\n" parts
  return String.ofList (indentLines ['>', ' '] ['>', ' '] ['>'] content.toList)

/-- The items in order, with a blank line between them if the list is spread. -/
def list : Handler := fun o n parts =>
  match n.kind with
  | .list ordered start spread => do
    let items ← items o ordered start 0 parts
    return (if spread then "\n\n" else "\n").intercalate items
  | _ => unexpected .list n

/-- An item on its own, with a bullet. -/
def listItem : Handler := fun o n parts =>
  item o (String.ofList [o.bullet]) n parts

/-- A fenced block. The fence is longer than any run of backticks in the value. -/
def code : Handler := fun _ n _ =>
  match n.kind with
  | .code lang value =>
    let fence := repeated (max (longestRun '`' value.toList) 2 + 1) '`'
    let lines := if value.isEmpty then "" else value ++ "\n"
    return fence ++ lang.getD "" ++ "\n" ++ lines ++ fence
  | _ => unexpected .code n

/-- The value without the line feeds at its end. -/
def html : Handler := fun _ n _ =>
  match n.kind with
  | .html value => return String.ofList (Text.dropEndWhile (· = '\n') value.toList)
  | _ => unexpected .html n

/-- The contents of the cells, laid out. -/
def table : Handler := fun _ n parts =>
  match n.kind with
  | .table align => do
    let rows ← parts.mapM fun row => Rendering.outputs row.parts
    return String.ofList (Table.layout (rows.map (·.map String.toList)) align)
  | _ => unexpected .table n

/-- The cells of a row on its own. -/
def tableRow : Handler := fun _ _ parts => do
  let cells ← Rendering.outputs parts
  return String.ofList (Table.line (cells.map String.toList))

/-- Inline children on one line, with the pipes escaped. -/
def tableCell : Handler := fun _ _ parts => do
  let content ← Rendering.inline parts
  return String.ofList (Escape.escapePipes (oneLine content.toList))

/-- The value, escaped. -/
def text : Handler := fun _ n _ =>
  match n.kind with
  | .text value => return String.ofList (Escape.escapeText value.toList)
  | _ => unexpected .text n

/-- Inline children between emphasis markers. -/
def emphasis : Handler := fun o _ parts => do
  let content ← Rendering.inline parts
  return String.ofList [o.emphasis] ++ content ++ String.ofList [o.emphasis]

/-- Inline children between double asterisks. -/
def strong : Handler := fun _ _ parts => do
  let content ← Rendering.inline parts
  return "**" ++ content ++ "**"

/-- Inline children between double tildes. -/
def delete : Handler := fun _ _ parts => do
  let content ← Rendering.inline parts
  return "~~" ++ content ++ "~~"

/-- The value between runs of backticks longer than any inside, set off by spaces where it begins
    or ends with one. -/
def inlineCode : Handler := fun _ n _ =>
  match n.kind with
  | .inlineCode value =>
    let cs := value.toList
    let fence := repeated (longestRun '`' cs + 1) '`'
    let gap := if cs.head? = some '`' || cs.getLast? = some '`' then " " else ""
    return fence ++ gap ++ value ++ gap ++ fence
  | _ => unexpected .inlineCode n

/-- A backslash at the end of the line. -/
def hardBreak : Handler := fun _ _ _ =>
  return "\\\n"

/-- An autolink where the link is one, and an inline link otherwise. -/
def link : Handler := fun _ n parts =>
  match n.kind with
  | .link url title => do
    let content ← Rendering.inline parts
    if title.isNone && isAutolink n url then return "<" ++ url ++ ">"
    else return "[" ++ content ++ "](" ++
      String.ofList (destination url.toList ++ titleSuffix title) ++ ")"
  | _ => unexpected .link n

/-- The description, destination and title. -/
def image : Handler := fun _ n _ =>
  match n.kind with
  | .image url title alt =>
    return "![" ++ String.ofList (Escape.escapeText alt.toList) ++ "](" ++
      String.ofList (destination url.toList ++ titleSuffix title) ++ ")"
  | _ => unexpected .image n

end Builtin

/-- The built-in renderer for a type. -/
def builtin : NodeType → Option Handler
  | .root => some Builtin.root
  | .paragraph => some Builtin.paragraph
  | .heading => some Builtin.heading
  | .thematicBreak => some Builtin.thematicBreak
  | .blockquote => some Builtin.blockquote
  | .list => some Builtin.list
  | .listItem => some Builtin.listItem
  | .code => some Builtin.code
  | .html => some Builtin.html
  | .table => some Builtin.table
  | .tableRow => some Builtin.tableRow
  | .tableCell => some Builtin.tableCell
  | .text => some Builtin.text
  | .emphasis => some Builtin.emphasis
  | .strong => some Builtin.strong
  | .delete => some Builtin.delete
  | .inlineCode => some Builtin.inlineCode
  | .hardBreak => some Builtin.hardBreak
  | .link => some Builtin.link
  | .image => some Builtin.image
  | .anchor => none

/-- The handler in charge of a type: the registered one, else the built-in one. -/
def Handlers.choose (h : Handlers) (type : NodeType) : Option Handler :=
  h.get? type <|> builtin type

namespace Node

/-- The output of a tree, without a line feed at its end. -/
def render (h : Handlers) (o : RenderOptions) (n : Node) : Except RenderError String :=
  (n.renderWith h.choose o).output

/-- The output of a document. Unless it is empty, it ends with exactly one line feed. -/
def toMarkdown (h : Handlers) (o : RenderOptions) (n : Node) : Except RenderError String := do
  let text ← n.render h o
  match Text.dropEndWhile (· = '\n') text.toList with
  | [] => return ""
  | kept => return String.ofList (kept ++ ['\n'])

end Node

end Anchormark
