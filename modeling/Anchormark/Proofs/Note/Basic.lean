import Anchormark.Node.Basic

/-!
# Notes

A note is a document of a simple form: headings, paragraphs, thematic breaks and flat lists, whose
running text is made of characters and anchors. Notes are where it can be said exactly what survives
when a document is written and read again: not everything that can be put into a note can be read
back, but for each note that can be decided by looking at what is written.

Running text is a list of signs. Consecutive characters make up one text node, so between two
anchors there is at most one. Paragraphs and items are given line by line, since lines are what is
written and read.

## Main definitions

* `Sign`: a character of running text, or an anchor.
* `Sign.lead`, `Sign.marked`: the text up to the first anchor, and every anchor with the text behind
  it.
* `Sign.nodes`: the nodes of running text.
* `NoteBlock`, `Note`: a block of a note, and a note.
* `Note.tree`, `Note.anchorIds`: the tree of a note, and the anchors in it.
-/

namespace Anchormark

/-- What running text is made of: a character, or an anchor. -/
inductive Sign
  | char (c : Char)
  | anchor (id : String)
  deriving DecidableEq, Repr

namespace Sign

/-- The characters up to the first anchor. -/
def lead : List Sign → List Char
  | .char c :: rest => c :: lead rest
  | _ => []

/-- The anchors, each with the characters up to the next one. -/
def marked : List Sign → List (String × List Char)
  | [] => []
  | .char _ :: rest => marked rest
  | .anchor id :: rest => (id, lead rest) :: marked rest

@[simp] theorem lead_char (c : Char) (rest : List Sign) : lead (.char c :: rest) = c :: lead rest :=
  rfl

@[simp] theorem lead_anchor (id : String) (rest : List Sign) : lead (.anchor id :: rest) = [] := rfl

@[simp] theorem marked_char (c : Char) (rest : List Sign) : marked (.char c :: rest) = marked rest :=
  rfl

@[simp] theorem marked_anchor (id : String) (rest : List Sign) :
    marked (.anchor id :: rest) = (id, lead rest) :: marked rest := rfl

/-- All stretches of characters between anchors. -/
def texts (signs : List Sign) : List (List Char) :=
  lead signs :: (marked signs).map Prod.snd

/-- The signs of several lines, with a line feed between each two. -/
def joined : List (List Sign) → List Sign
  | [] => []
  | [line] => line
  | line :: next :: rest => line ++ .char '\n' :: joined (next :: rest)

/-- The text node of some characters, if there are any. -/
def textNodes (cs : List Char) : List Node :=
  if cs.isEmpty then [] else [{ kind := .text (String.ofList cs) }]

/-- The node of an anchor. -/
def anchorNode (id : String) : Node :=
  { kind := .anchor { id } }

/-- The identifiers of the anchors. -/
def ids (signs : List Sign) : List String :=
  (marked signs).map Prod.fst

/-- The nodes of running text. -/
def nodes (signs : List Sign) : List Node :=
  textNodes (lead signs) ++ (marked signs).flatMap fun (id, cs) => anchorNode id :: textNodes cs

end Sign

/-- A block of a note. The first item of a numbered list has the number `first`, and the items of a
    spread list have blank lines between them. -/
inductive NoteBlock
  | paragraph (lines : List (List Sign))
  | heading (depth : Nat) (line : List Sign)
  | rule
  | list (first : Option Nat) (spread : Bool) (items : List (List (List Sign)))
  deriving DecidableEq, Repr

/-- The blocks of a note, in order. -/
abbrev Note := List NoteBlock

namespace NoteBlock

/-- The node of a paragraph. -/
def paragraphNode (lines : List (List Sign)) : Node :=
  { kind := .paragraph, children := Sign.nodes (Sign.joined lines) }

/-- The node of an item. -/
def itemNode (spread : Bool) (lines : List (List Sign)) : Node :=
  { kind := .listItem spread none, children := [paragraphNode lines] }

/-- The node of a block. -/
def node : NoteBlock → Node
  | paragraph lines => paragraphNode lines
  | heading depth line => { kind := .heading depth, children := Sign.nodes line }
  | rule => { kind := .thematicBreak }
  | list first spread items =>
    { kind := .list first.isSome first spread, children := items.map (itemNode spread) }

/-- The lines of a block. -/
def lines : NoteBlock → List (List Sign)
  | paragraph lines => lines
  | heading _ line => [line]
  | rule => []
  | list _ _ items => items.flatten

/-- Two lists of the same kind, which become one when the second follows the first. -/
def Joins : NoteBlock → NoteBlock → Prop
  | list first _ _, list second _ _ => first.isSome = second.isSome
  | _, _ => False

instance (a b : NoteBlock) : Decidable (a.Joins b) := by
  unfold Joins
  split <;> infer_instance

end NoteBlock

/-- The tree of a note. -/
def Note.tree (note : Note) : Node :=
  { kind := .root, children := note.map NoteBlock.node }

/-- The identifiers of the anchors of a note, in order. -/
def Note.anchorIds (note : Note) : List String :=
  note.flatMap fun e => e.lines.flatMap Sign.ids

end Anchormark
