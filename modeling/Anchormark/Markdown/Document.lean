import Anchormark.Markdown.Definition

/-!
# Reading Blocks

A document is read from its beginning, block by block. Each step starts at the beginning of a line
and answers where the next one starts. It continues what containers it can, closes the others,
opens new ones, and then reads the leaf that begins there to its end, over as many lines as that
takes.

Every step moves on, so the reading ends. The loops over lines count down from the length of the
text.

## Main definitions

* `Document`: the text to read, with the extensions in use.
* `Document.step`: reads one block, or one blank line.
* `Document.blocks`: all blocks of the document, and its definitions.
-/

namespace Anchormark.Markdown

/-- The text to read, with the extensions in use. -/
structure Document where
  text : List Char
  options : ParseOptions

namespace Document

/-- The text from character `i` on. -/
def after (d : Document) (i : Nat) : List Char :=
  d.text.drop i

/-- The characters from `start` up to `stop`. -/
def slice (d : Document) (start stop : Nat) : List Char :=
  (d.text.drop start).take (stop - start)

/-- The beginning of the line at character `i`. -/
def margin (d : Document) (i : Nat) : Margin :=
  { rest := d.after i }

/-- The lines around character `i`. -/
def site (d : Document) (s : BlockStack) : LineSite :=
  ⟨d.options, s.containers⟩

/-- A line of text that is taken as it is. A carriage return before its last character is left
    out. -/
def verbatim (d : Document) (start stop : Nat) : List Char :=
  let line := d.slice start stop
  match line.reverse with
  | last :: '\r' :: before => if last.toNat < 0x80 then before.reverse ++ [last] else line
  | _ => line

/-- A line of an indented code block. -/
structure CodeLine where
  text : List Char
  blank : Bool
  stop : Nat

/-- The lines of an indented code block from character `i` on, where `owed` columns of a tab belong
    to the line and `blank` says whether it is blank; and where they end. -/
def codeLines (d : Document) (containers : List Container) :
    (limit i owed : Nat) → (blank : Bool) → List CodeLine × Nat
  | 0, i, _, _ => ([], i)
  | limit + 1, i, owed, blank =>
    let stop := i + lineLength (d.after i)
    let line : CodeLine := ⟨List.replicate owed ' ' ++ d.verbatim i stop, blank, stop⟩
    let (margin, inside) := (d.margin stop).enterAll containers
    let (margin, missing) := margin.skip 4
    let next := stop + margin.taken
    -- Less than four columns end the block, except on a blank line.
    if !inside || (0 < missing && !margin.atLineEnd) || next = d.text.length then ([line], stop)
    else
      let (lines, last) :=
        d.codeLines containers limit next margin.owed (blankLine? (d.after next)).isSome
      (line :: lines, last)

/-- Reads an indented code block whose text begins at character `i`. Blank lines at its end are not
    part of it. -/
def indentedCode (d : Document) (s : BlockStack) (i owed : Nat) : BlockStack × Nat :=
  let (lines, next) := d.codeLines s.containers (d.text.length + 1) i owed false
  let kept := (lines.reverse.dropWhile CodeLine.blank).reverse
  let stop := (kept.getLast?.map CodeLine.stop).getD next
  let s := { s with afterBlank := (lines.getLast?.map CodeLine.blank).getD false }
  (s.append (.leaf i stop (.indentedCode (kept.flatMap CodeLine.text))), next)

/-- The lines of a fenced code block from character `i` on; where the block ends, and where the
    next one begins. -/
def fencedLines (d : Document) (containers : List Container) (mark : Char)
    (length indent : Nat) : (limit i : Nat) → List (List Char) × Nat × Nat
  | 0, i => ([], i, i)
  | limit + 1, i =>
    let (margin, inside) := (d.margin i).enterAll containers
    if !inside then ([], i, i)
    else
      -- A closing fence may be indented, but by less than four columns.
      let (closing, missing) := margin.skip 4
      let fence? := if 0 < missing then closingFence? mark length closing.rest else none
      match fence? with
      | some n =>
        let stop := i + closing.taken + n
        ([], stop, stop + (blankLine? (d.after stop)).getD 0)
      | none =>
        let (margin, _) := margin.skip indent
        let start := i + margin.taken
        let stop := start + lineLength (d.after start)
        let line := List.replicate margin.owed ' ' ++ d.verbatim start stop
        let (lines, ends) := d.fencedLines containers mark length indent limit stop
        (line :: lines, ends)

/-- Reads a fenced code block that begins at character `i`, behind `indent` columns. -/
def fencedCode (d : Document) (s : BlockStack) (i indent : Nat) (mark : Char) (length : Nat) :
    BlockStack × Nat :=
  let infoStart := i + length + countWhile Text.isLineBlank (d.after (i + length))
  let infoStop := infoStart + lineLength (d.after infoStart)
  let info := Text.dropEndWhile Text.isMarkdownSpace (d.slice infoStart infoStop)
  let (lines, stop, next) :=
    d.fencedLines s.containers mark length indent (d.text.length + 1) infoStop
  (s.append (.leaf i stop (.fencedCode (unescape false info) lines.flatten)), next)

/-- The lines of an HTML block from character `i` on, the first of which had `indent` columns taken
    off; where the block ends, and where the next one begins. -/
def htmlLines (d : Document) (containers : List Container) (ending : HtmlEnd) :
    (limit i indent : Nat) → List HtmlLine × Nat × Nat
  | 0, i, _ => ([], i, i)
  | limit + 1, i, indent =>
    let stop := i + lineLength (d.after i)
    let line : HtmlLine := ⟨indent, i, stop, d.verbatim i stop⟩
    let (margin, inside) := (d.margin stop).enterAll containers
    let next := stop + margin.taken
    let endsHere := match ending with
      | .holding mark => Text.hasInfix mark (d.slice i stop)
      | .blankLine => margin.atLineEnd
    let endsBelow := match ending with
      | .holding _ => false
      | .blankLine => (blankLine? (d.after next)).isSome
    if !inside || endsHere then ([line], stop, stop)
    else if next = d.text.length || endsBelow then ([line], next, stop)
    else
      let (lines, ends) := d.htmlLines containers ending limit next margin.owed
      (line :: lines, ends)

/-- Reads an HTML block that begins at character `i`, behind `indent` columns. -/
def htmlBlock (d : Document) (s : BlockStack) (i indent : Nat) (ending : HtmlEnd) :
    BlockStack × Nat :=
  let (lines, stop, next) := d.htmlLines s.containers ending (d.text.length + 1) i indent
  (s.append (.leaf i stop (.html lines)), next)

/-- How a line of text at character `i` is to be read. -/
def lineContext (d : Document) (s : BlockStack) (i : Nat) (mode : LineMode) : LineContext where
  text := d.text
  start := i
  mode := mode
  containers := s.containers
  strikethrough := d.options.strikethrough

/-- The backslash of a hard break that does not count, because nothing follows it. -/
def LineBreak.leftover (d : Document) : LineBreak → List Piece
  | .piece ⟨.hardBreak true, start, _⟩ =>
    if d.text[start]? = some '\\' then [⟨.text, start, start + 1⟩] else []
  | _ => []

/-- The length of a heading's text without the marks that may close it. -/
def headingLength (cs : List Char) : Nat :=
  let length := (Text.dropEndWhile (fun c => c = '\n' || c = '\r' || c = ' ') cs).length
  let closed := Text.dropEndWhile (· = '#') (cs.take length)
  match closed with
  | [] => 0
  | _ =>
    if closed.getLast? = some ' ' then (Text.dropEndWhile (· = ' ') closed).length else length

/-- The pieces of a heading, the last of which ends at character `stop`. -/
def endPieces (stop : Nat) : List Piece → List Piece
  | [] => []
  | [p] => [{ p with stop }]
  | p :: q :: rest => p :: endPieces stop (q :: rest)

/-- Reads a heading with `depth` marks at character `i`. When closing marks are all that follows,
    the heading holds nothing. -/
def heading (d : Document) (s : BlockStack) (i depth : Nat) : BlockStack × Nat :=
  let behind := i + depth
  match lineEnd? (d.after behind) with
  | some n => (s.append (.leaf i (behind + n) (.heading depth [])), behind + n)
  | none =>
    let start := behind + countWhile Text.isLineBlank (d.after behind)
    let line := readLine (d.lineContext s start .plain)
    let pieces := line.pieces ++ LineBreak.leftover d line.ending
    let length := headingLength (d.slice start line.next)
    let kept := if length = 0 then [] else endPieces (start + length) pieces
    (s.append (.leaf i line.next (.heading depth kept)), line.next)

/-- The cells of a table row from character `i` on, and where the next row begins. -/
def cells (d : Document) (s : BlockStack) : (limit i : Nat) → List Cell × Nat
  | 0, i => ([], i)
  | limit + 1, i =>
    let start := match d.text[i]? with
      | some '|' => i + 1
      | _ => i
    let behind := start + countWhile Text.isLineBlank (d.after start)
    match lineEnd? (d.after behind) with
    | some n => ([], behind + n)
    | none =>
      let line := readLine (d.lineContext s behind .cell)
      let (cells, next) := d.cells s limit line.next
      (⟨start, line.next, line.pieces⟩ :: cells, next)

/-- The row of a table with `columns` columns that begins at character `i`: missing cells are
    filled up and excess ones dropped. A line without a cell is no row. -/
def row? (d : Document) (s : BlockStack) (columns i : Nat) : Option (Row × Nat) :=
  match d.cells s (d.text.length + 1) i with
  | ([], _) => none
  | (found, next) =>
    let missing := List.replicate (columns - found.length) (⟨next, next, []⟩ : Cell)
    some (⟨i, next, found.take columns ++ missing⟩, next)

/-- The rows of a table below its delimiter row, from character `i` on, and where they end. -/
def rows (d : Document) (s : BlockStack) (columns : Nat) : (limit i : Nat) → List Row × Nat
  | 0, i => ([], i)
  | limit + 1, i =>
    let (margin, inside) := (d.margin i).enterAll s.containers
    let margin := margin.skipBlanks
    if !inside || LineSite.blockInterrupts true inside margin.rest then ([], i)
    else
      match d.row? s columns (i + margin.taken) with
      | none => ([], i)
      | some (row, next) =>
        let (rows, last) := d.rows s columns limit next
        (row :: rows, last)

/-- What the lines of a paragraph turned out to be, and where they end. -/
inductive Paragraph
  | text (pieces : List Piece) (next : Nat)
  | heading (depth : Nat) (pieces : List Piece) (next : Nat)
  | table (columns : List Alignment) (next : Nat)

/-- Reads the lines of a paragraph from character `i` on, after the `pieces` that have been read.
    The first line may be the header of a table. -/
def paragraphLines (d : Document) (s : BlockStack) :
    (limit i : Nat) → (first : Bool) → (pieces : List Piece) → Paragraph
  | 0, i, _, pieces => .text pieces i
  | limit + 1, i, first, pieces =>
    let mode := if first && d.options.tables then LineMode.header else .plain
    let line := readLine (d.lineContext s i mode)
    let pieces := pieces ++ line.pieces
    let last := pieces ++ LineBreak.leftover d line.ending
    match line.ending with
    | .table columns => .table columns line.next
    | ending =>
      let (margin, inside) := (d.margin line.next).enterAll s.containers
      let (margin, missing) := margin.skip 4
      -- A line indented by four columns is text and nothing else. An underline does not count where
      -- the line has left the containers.
      let underline := if 0 < missing && inside then underline? margin.rest else none
      match underline with
      | some (depth, length) => .heading depth last (line.next + margin.taken + length)
      | none =>
        if 0 < missing && (d.site s).interrupts inside margin.rest then .text last line.next
        else
          let margin := margin.skipBlanks
          if margin.atLineEnd then .text last line.next
          else
            -- The break counts only now that a line follows it.
            let between := match ending with
              | .piece p => [p]
              | _ => []
            d.paragraphLines s limit (line.next + margin.taken) false (pieces ++ between)

/-- Reads a paragraph that begins at character `i`, or what it turns out to be. The pieces in
    `front` stand before its text. -/
def paragraph (d : Document) (s : BlockStack) (front : List Piece) (i : Nat) : BlockStack × Nat :=
  let s := s.finishList i
  match d.paragraphLines s (d.text.length + 1) i true [] with
  | .text pieces next => (s.append (.leaf i next (.paragraph (front ++ pieces))), next)
  | .heading depth pieces next =>
    (s.append (.leaf i next (.heading depth (front ++ pieces))), next)
  | .table columns below =>
    match d.row? s columns.length i with
    | none => (s, below)
    | some (header, _) =>
      let (body, next) := d.rows s columns.length (d.text.length + 1) below
      (s.append (.leaf i next (.table columns header body)), next)

/-- Reads the definitions that begin at character `i` of the line at character `line`, one behind
    the other, and the paragraph that goes on behind them. A line below a definition is treated as
    one below the text of a paragraph: unless it is blank or something else begins there, it holds
    the next definition or text. Without a paragraph, an open list ends before the last
    definition. -/
def definitions (d : Document) :
    (limit : Nat) → BlockStack → (line i : Nat) → BlockStack × Nat
  | 0, s, _, i => (s, i)
  | limit + 1, s, line, i =>
    let cs := d.after i
    match (d.site s).definition? cs with
    | none => d.paragraph s [] i
    | some (key, definition, rest) =>
      let s := s.define key definition
      let next := i + (cs.length - rest.length) + (blankLine? rest).getD 0
      let (margin, inside) := (d.margin next).enterAll s.containers
      let (margin, missing) := margin.skip 4
      let text := margin.skipBlanks
      if text.atLineEnd || (0 < missing && (d.site s).interrupts inside margin.rest) then
        (s.finishList line, next)
      else d.definitions limit s next (next + text.taken)

/-- What the beginning of a line came to. -/
inductive Opening
  /-- The line is used up, and the next one begins here. -/
  | line (s : BlockStack) (next : Nat)
  /-- The rest of the line is text behind a task box. -/
  | task (s : BlockStack) (box : Piece) (margin : Margin)
  /-- The rest of the line belongs to a leaf. -/
  | content (s : BlockStack) (margin : Margin)

/-- The marker of a list item, behind `outer` columns: its character and number, the place behind
    it, and the column at which the content of the item begins. -/
def itemStart? (margin : Margin) (outer : Nat) : Option (Char × Option Nat × Margin × Nat) :=
  match listMarker? margin.rest with
  | none => none
  | some (mark, number, length) =>
    -- What reads as a thematic break as a whole is not a marker.
    if isBullet mark && (thematicBreak? margin.rest).isSome then none
    else
      let marker : Margin :=
        { margin with rest := margin.rest.drop length, taken := margin.taken + length }
      let (behind, _) := marker.skip 1
      let column := outer + length + 1
      -- With nothing behind the marker, the content counts as beginning one column further.
      if (blankLine? behind.rest).isSome then some (mark, number, behind, column)
      else
        let (content, more) := behind.indent 4
        -- Of five columns or more, all but the first belong to an indented code block in the item.
        if more < 4 then some (mark, number, content, column + more)
        else some (mark, number, behind, column)

/-- A task box and the place behind it. -/
def taskBox? (margin : Margin) : Option (Bool × Margin) :=
  let (m, _) := margin.skip 3
  match m.rest with
  | '[' :: c :: ']' :: d :: rest =>
    if (Text.isLineBlank c || c = 'x' || c = 'X') && Text.isMarkdownSpace d then
      some (!Text.isLineBlank c, { m with rest := d :: rest, taken := m.taken + 3 })
    else none
  | _ => none

/-- Opens the containers that begin at a place of the line that starts at character `i`. -/
def openContainers (d : Document) (i : Nat) :
    (limit : Nat) → BlockStack → Margin → Opening
  | 0, s, margin => .content s margin
  | limit + 1, s, margin =>
    let (inner, outer) := margin.indent 4
    -- Behind four columns there is code, or text, but no marker.
    if 4 ≤ outer then .content s margin
    else
      match itemStart? inner outer with
      | some (mark, number, behind, column) =>
        let start := i + inner.taken - outer
        let s := (s.continueList start mark number).push (.item column) start
        let here := i + behind.taken
        match blankLine? behind.rest with
        | some n => .line { s with emptyItem := some (here + n) } (here + n)
        | none =>
          match if d.options.tasklists then taskBox? behind else none with
          | none => d.openContainers i limit s behind
          | some (checked, boxed) =>
            let stop := i + boxed.taken
            match blankLine? boxed.rest with
            | some n =>
              let s := s.append (.leaf here stop (.task checked))
              .line { s with emptyItem := some (stop + n) } (stop + n)
            -- The box goes before the text of the paragraph that the rest of the line belongs to.
            | none => .task s ⟨.task checked, here, stop⟩ boxed.skipBlanks
      | none =>
        match inner.quoteMarker? with
        | some inside =>
          d.openContainers i limit ((s.finishList i).push .quote (i + inner.taken)) inside
        | none => .content s margin

/-- Reads the leaf that begins in the line at character `i`, at the given place. -/
def leaf (d : Document) (s : BlockStack) (i : Nat) (margin : Margin) : BlockStack × Nat :=
  let (inner, indent) := margin.indent 4
  let start := i + inner.taken
  let cs := inner.rest
  if indent = 4 then d.indentedCode (s.finishList i) start inner.owed
  else
    match htmlBlock? cs with
    | some ending => d.htmlBlock (s.finishList i) start indent ending
    | none =>
      match thematicBreak? cs with
      | some n => ((s.finishList i).append (.leaf start (start + n) .thematicBreak), start + n)
      | none =>
        match headingDepth? cs with
        | some depth => d.heading (s.finishList i) start depth
        | none =>
          match fence? cs with
          | some (mark, length) => d.fencedCode (s.finishList i) start indent mark length
          | none => d.definitions (d.text.length + 1) s i start

/-- Reads one block, or one blank line, from character `i` on. Answers where the next begins. -/
def step (d : Document) (s : BlockStack) (i : Nat) : BlockStack × Nat :=
  let (margin, entered) := (d.margin i).enter s.containers
  let s := s.popMany i (s.stack.length - entered)
  match d.openContainers i (d.text.length + 1) s margin with
  | .line s next => (s, next)
  | .task s box margin => d.paragraph s [box] (i + margin.taken)
  | .content s margin =>
    match blankLine? margin.rest with
    | some n => (s.noteBlank, i + margin.taken + n)
    | none => d.leaf s i margin

/-- Reads blocks from character `i` to the end of the text, and then closes every container. -/
def run (d : Document) : (limit i : Nat) → BlockStack → BlockStack
  | 0, i, s => s.popMany i s.stack.length
  | limit + 1, i, s =>
    if i < d.text.length then
      let (s, next) := d.step s i
      d.run limit next s
    else s.popMany i s.stack.length

/-- All blocks of the document, and its definitions. -/
def blocks (d : Document) : List Block × Definitions :=
  let s := d.run (d.text.length + 1) 0 {}
  (s.finished.reverse, s.definitions)

end Document

end Anchormark.Markdown
