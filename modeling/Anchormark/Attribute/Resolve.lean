import Anchormark.Attribute.Block
import Anchormark.Node.Basic

/-!
# Resolving Attribute Blocks

Resolving moves the identifiers of attribute blocks from the text of a tree to the nodes they
belong to, and takes the blocks out of the text.

A block at the start of a text belongs to the inline element right before it. A block at the end
of the last text of a paragraph, a heading or a table cell belongs to that element. A text with a
span gives up a block only when the source has it there literally, with an opening brace that is
not escaped; braces that come from an escape or a character reference are plain text.

Leading blocks are taken first, then empty texts go, then the trailing block is taken. What
happens inside a child does not depend on any of this, since it changes neither the kind nor the
children of a sibling, so children are resolved before the list they stand in.

## Main definitions

* `isLiteralAt`: a block is written at a place of the source.
* `Node.resolve`: a tree with its blocks resolved, and how many there were.
-/

namespace Anchormark

namespace Kind

/-- Elements that take a block at the start of the text after them. -/
def takesLeadingBlock : Kind → Bool
  | link _ _ | image _ _ _ | emphasis | strong | delete | inlineCode _ => true
  | _ => false

/-- Elements that take a block at the end of their last text. -/
def takesTrailingBlock : Kind → Bool
  | paragraph | heading _ | tableCell => true
  | _ => false

end Kind

/-- `block` stands in the source at byte `start`, behind an even number of backslashes. -/
def isLiteralAt (source : List Char) (start : Nat) (block : List Char) : Bool :=
  match Text.cut? start source with
  | none => false
  | some (front, back) =>
    block.isPrefixOf back && (front.reverse.takeWhile (· = '\\')).length % 2 = 0

namespace Node

/-- Attaches the identifier of a block. An identifier that is there already stays. -/
def attach (n : Node) (a : Attributes) : Node :=
  { n with hint := n.hint <|> a.usableId }

/-- The node and the text after it, once the block at the start of the text has been moved to the
    node; `none` when there is no such block to move. -/
def moveLeading? (source : List Char) (target next : Node) : Option (Node × Node) :=
  match next.kind with
  | .text value => do
    guard target.kind.takesLeadingBlock
    let (attributes, rest) ← AttributeBlock.leading? value.toList
    let length := Text.size value - Text.byteLength rest
    let block := value.toList.take (value.toList.length - rest.length)
    guard ((next.span.map fun s => isLiteralAt source s.start block).getD true)
    let span := next.span.map fun s => ⟨min (s.start + length) s.stop, s.stop⟩
    return (target.attach attributes, { next with kind := .text (String.ofList rest), span })
  | _ => none

/-- The last text of an element without the block at its end, and what the block declares;
    `none` when there is no such block to move. The text loses the blanks before the block too,
    and its span shrinks over what is left of it in the source. -/
def cutTrailing? (source : List Char) (last : Node) : Option (Node × Attributes) :=
  match last.kind with
  | .text value => do
    let (attributes, front) ← AttributeBlock.trailing? value.toList
    let length := Text.size value - Text.byteLength front
    let block := value.toList.drop front.length
    guard ((last.span.map fun s =>
      length ≤ s.stop && isLiteralAt source (s.stop - length) block).getD true)
    let kept := Text.trimEnd front
    let span := last.span.map fun s =>
      let written := Text.sliceChars? s.start (s.stop - length) source
      let size := (written.map fun raw => Text.byteLength (Text.trimEnd raw)).getD
        (Text.byteLength kept)
      ⟨s.start, s.start + size⟩
    return ({ last with kind := .text (String.ofList kept), span }, attributes)
  | _ => none

end Node

namespace Resolve

/-- A resolved sibling and the number of blocks found inside it. -/
abbrev Resolved := Node × Nat

/-- Moves the blocks at the starts of texts to the elements before them. `previous` is the sibling
    before the list. Answers the siblings, `previous` included, and the number of blocks. -/
def leading (source : List Char) (previous : Resolved) : List Resolved → List Resolved × Nat
  | [] => ([previous], 0)
  | next :: rest =>
    match previous.1.moveLeading? source next.1 with
    | some (target, text) =>
      let (siblings, count) := leading source (text, next.2) rest
      ((target, previous.2) :: siblings, count + 1)
    | none =>
      let (siblings, count) := leading source next rest
      (previous :: siblings, count)

/-- The siblings without the block at the end of the last one, and that block's declarations. A
    text that nothing is left of goes. -/
def trailing? (source : List Char) : List Resolved → Option (List Resolved × Attributes)
  | [] => none
  | [(last, inside)] => do
    let (text, attributes) ← last.cutTrailing? source
    return (if text.isEmptyText then [] else [(text, inside)], attributes)
  | first :: second :: rest => do
    let (siblings, attributes) ← trailing? source (second :: rest)
    return (first :: siblings, attributes)

/-- A node over siblings that are resolved inside: resolves what lies between them. -/
def assemble (source : List Char) (n : Node) (children : List Resolved) : Resolved :=
  let (children, moved) := match children with
    | [] => ([], 0)
    | first :: rest => leading source first rest
  -- Texts that hold nothing go here, so that the last text is the last with something in it.
  let children := children.filter fun child => !child.1.isEmptyText
  let (n, children, cut) :=
    match if n.kind.takesTrailingBlock then trailing? source children else none with
    | some (children, attributes) => (n.attach attributes, children, 1)
    | none => (n, children, 0)
  ({ n with children := children.map Prod.fst },
    children.foldl (fun count child => count + child.2) (moved + cut))

mutual

/-- A tree with its blocks resolved, and their number. -/
def node (source : List Char) : Node → Resolved
  | ⟨kind, children, span, hint⟩ =>
    assemble source { kind, span, hint } (nodes source children)

/-- Several trees, each with its blocks resolved inside. -/
def nodes (source : List Char) : List Node → List Resolved
  | [] => []
  | n :: rest => node source n :: nodes source rest

end

end Resolve

/-- The tree, read from `source`, with its attribute blocks resolved, and how many there were. -/
def Node.resolve (n : Node) (source : String) : Node × Nat :=
  Resolve.node source.toList n

end Anchormark
