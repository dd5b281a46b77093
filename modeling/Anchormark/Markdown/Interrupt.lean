import Anchormark.Markdown.Link
import Anchormark.Markdown.Syntax

/-!
# Where a Paragraph Ends

The next line of text belongs to the paragraph before it unless something else begins there. Most
blocks may interrupt a paragraph; an item may only if it is no empty one and, in an ordered list,
has the number one, because prose has lines that begin with a number or a dash.

The same question decides whether a definition may go on in the next line.

## Main definitions

* `LineSite`: around what a line stands.
* `LineSite.interrupts`: a line cannot continue a paragraph.
* `LineSite.continuation?`: the margin of a line that can.
-/

namespace Anchormark.Markdown

/-- Around what a line stands. -/
structure LineSite where
  options : ParseOptions
  containers : List Container

/-- The length of the first line, ending included, when a line ending follows it. -/
def firstLine? (cs : List Char) : Option Nat :=
  let length := countWhile (fun c => c ≠ '\n' && c ≠ '\r') cs
  match cs.drop length with
  | [] => none
  | ending => (lineEnd? ending).map (length + ·)

/-- The pipes of a line that divide cells, and what stands behind the last of them. `before` is
    the character before the ones given. -/
def dividers (before : Char) : List Char → Nat × Option (List Char)
  | [] => (0, none)
  | c :: rest =>
    if c = '\n' || c = '\r' then (0, none)
    else
      let (count, last) := dividers c rest
      if c = '|' && before ≠ '\\' then (count + 1, some (last.getD rest)) else (count, last)

namespace LineSite

/-- A list item begins that may interrupt the paragraph. In a table, or outside the containers of
    the paragraph, any item may. -/
def itemInterrupts (inTable inside : Bool) (cs : List Char) : Bool :=
  match listMarker? cs with
  | none => false
  | some (mark, number, length) =>
    !inside || inTable ||
      ((isBullet mark || number = some 1) && (blankLine? (cs.drop length)).isNone)

/-- A block begins that may interrupt a paragraph, tables apart. `inside` says that the line
    continues all containers. -/
def blockInterrupts (inTable inside : Bool) (cs : List Char) : Bool :=
  (lineEnd? cs).isSome || (thematicBreak? cs).isSome || (headingDepth? cs).isSome ||
    (fence? cs).isSome || cs.head? = some '>' || itemInterrupts inTable inside cs ||
    (interruptingHtml? cs).isSome

/-- A table begins whose header has a pipe at the very front. -/
def tableInterrupts (site : LineSite) (cs : List Char) : Bool :=
  if site.options.tables && cs.head? = some '|' then
    match firstLine? cs with
    | none => false
    | some length =>
      let (margin, inside) := ({ rest := cs.drop length : Margin }).enterAll site.containers
      inside &&
        match delimiterRow? margin.rest, dividers ' ' cs with
        | some (_, columns), (pipes, some behind) =>
          columns.length = headerCells cs pipes behind
        | _, _ => false
  else false

/-- The characters, behind a margin and less than four columns of indentation, cannot continue a
    paragraph. -/
def interrupts (site : LineSite) (inside : Bool) (cs : List Char) : Bool :=
  blockInterrupts false inside cs || site.tableInterrupts cs

/-- The margin of the line that the characters begin with, when that line can go on with what
    stands in the line before. An underline cannot, if it continues all containers or if `strict`
    says that it need not. -/
def continuation? (site : LineSite) (strict : Bool) (cs : List Char) : Option Nat :=
  let (margin, inside) := ({ rest := cs : Margin }).enterAll site.containers
  let (margin, missing) := margin.skip 4
  let underlined := (strict || inside) && (underline? margin.rest).isSome
  if 0 < missing && (site.interrupts inside margin.rest || underlined) then none
  else some margin.taken

end LineSite

end Anchormark.Markdown
