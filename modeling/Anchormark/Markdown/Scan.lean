import Anchormark.Markdown.Html
import Anchormark.Markdown.Margin
import Anchormark.Node.Basic
import Anchormark.Text.Punctuation

/-!
# What a Line Begins

Small questions about the characters at the start of a line, behind its indentation: is the line
blank, is it a thematic break, does a heading or a fence begin here. Each is answered by looking
at the characters alone.

## Main definitions

* `lineEnd?`, `blankLine?`: the length of a line ending, and of the rest of a blank line.
* `thematicBreak?`, `headingDepth?`, `underline?`, `fence?`, `closingFence?`: leaf blocks.
* `listMarker?`: the marker of a list item.
* `delimiterRow?`: the row below the header of a table.
* `htmlBlock?`: the kind of an HTML block.
-/

namespace Anchormark.Markdown

/-- The length of the line ending that the characters start with; zero at the end of the text. -/
def lineEnd? : List Char → Option Nat
  | [] => some 0
  | '\n' :: _ => some 1
  | '\r' :: '\n' :: _ => some 2
  | '\r' :: _ => some 1
  | _ => none

/-- The number of characters from the start that satisfy `p`. -/
def countWhile (p : Char → Bool) (cs : List Char) : Nat :=
  (cs.takeWhile p).length

/-- The length of the rest of the line, its ending included, if it is blank. -/
def blankLine? (cs : List Char) : Option Nat :=
  let blanks := countWhile Text.isLineBlank cs
  (lineEnd? (cs.drop blanks)).map (blanks + ·)

/-- The length of the line, its line feed included. -/
def lineLength (cs : List Char) : Nat :=
  match cs.drop (countWhile (· ≠ '\n') cs) with
  | [] => cs.length
  | _ => countWhile (· ≠ '\n') cs + 1

/-- The length of a thematic break: at least three of one of its marks, and blanks. -/
def thematicBreak? (cs : List Char) : Option Nat :=
  match cs with
  | [] => none
  | mark :: _ =>
    let line := cs.takeWhile fun c => c = mark || c = ' ' || c = '\t'
    if (mark = '*' || mark = '-' || mark = '_') && 3 ≤ line.count mark then
      (lineEnd? (cs.drop line.length)).map (line.length + ·)
    else none

/-- The number of marks of a heading, one to six, with white space or the end behind them. -/
def headingDepth? (cs : List Char) : Option Nat :=
  let depth := countWhile (· = '#') cs
  if 1 ≤ depth && depth ≤ 6 && (cs[depth]?.map Text.isMarkdownSpace).getD true then some depth
  else none

/-- The depth of the heading that the line underlines, and the length of the line. -/
def underline? (cs : List Char) : Option (Nat × Nat) :=
  match cs with
  | [] => none
  | mark :: _ =>
    let length := countWhile (· = mark) cs
    if mark = '=' || mark = '-' then
      (blankLine? (cs.drop length)).map fun n => (if mark = '=' then 1 else 2, length + n)
    else none

/-- The character and the length of a code fence. What stands behind a fence of backticks must
    hold none. -/
def fence? (cs : List Char) : Option (Char × Nat) :=
  match cs with
  | [] => none
  | mark :: _ =>
    let length := countWhile (· = mark) cs
    if (mark = '`' || mark = '~') && 3 ≤ length then
      let info := (cs.drop length).takeWhile (· ≠ '\n')
      if mark = '`' && '`' ∈ info then none else some (mark, length)
    else none

/-- The length of a closing fence and the spaces behind it. The end of the text closes any
    fence. -/
def closingFence? (mark : Char) (length : Nat) (cs : List Char) : Option Nat :=
  let found := countWhile (· = mark) cs
  let taken := found + countWhile (· = ' ') (cs.drop found)
  if cs.isEmpty then some 0
  else if found < length then none
  else (lineEnd? (cs.drop taken)).map fun _ => taken

/-- Markers of bulleted lists. -/
def isBullet (c : Char) : Bool :=
  c = '-' || c = '+' || c = '*'

/-- The marker of a list item: the character that tells lists apart, the number of an ordered
    item, and the length of the marker. Whether it is set off from the content is not asked. -/
def listMark? (cs : List Char) : Option (Char × Option Nat × Nat) :=
  match cs with
  | [] => none
  | c :: _ =>
    if isBullet c then some (c, none, 1)
    else
      let digits := cs.takeWhile Char.isDigit
      let value := digits.foldl (fun n d => 10 * n + (d.toNat - '0'.toNat)) 0
      match cs.drop digits.length with
      | mark :: _ =>
        if 1 ≤ digits.length && digits.length ≤ 9 && (mark = '.' || mark = ')') then
          some (mark, some value, digits.length + 1)
        else none
      | [] => none

/-- The marker of a list item, with a blank or the end of the line behind it. -/
def listMarker? (cs : List Char) : Option (Char × Option Nat × Nat) :=
  (listMark? cs).filter fun (_, _, length) =>
    match cs.drop length with
    | [] => true
    | c :: _ => c = ' ' || c = '\t' || c = '\n' || c = '\r'

/-- The state in which a delimiter row is read. -/
structure DelimiterState where
  /-- The finished columns. -/
  columns : List Alignment := []
  /-- The column in progress. -/
  current : Alignment := .unset
  /-- Nothing of the column has been read. -/
  fresh : Bool := true
  /-- The column has a dash. -/
  dash : Bool := false
  pipe : Bool := false
  anyDash : Bool := false

/-- Reads a delimiter row: its length, line ending included, and its columns. Only spaces, colons,
    dashes and pipes may stand in it, and every column that a pipe closes has a dash. -/
def delimiterCells? (s : DelimiterState) (length : Nat) : List Char →
    Option (Nat × List Alignment)
  | [] => finish length
  | c :: rest =>
    if c = '\n' then finish (length + 1)
    else if c = '\r' then finish (length + (lineEnd? (c :: rest)).getD 0)
    else if c = ' ' then delimiterCells? s (length + 1) rest
    else if c = ':' then
      let current := match s.fresh, s.current with
        | true, .unset => .left
        | false, .left => .center
        | false, .unset => .right
        | _, a => a
      delimiterCells? { s with current, fresh := false } (length + 1) rest
    else if c = '-' then
      delimiterCells? { s with fresh := false, dash := true, anyDash := true } (length + 1) rest
    else if c = '|' && s.dash then
      let columns := s.columns ++ [s.current]
      delimiterCells? { columns, pipe := true, anyDash := s.anyDash } (length + 1) rest
    else none
where
  /-- The row, once its line has been read. -/
  finish (length : Nat) : Option (Nat × List Alignment) :=
    let columns := if s.fresh then s.columns else s.columns ++ [s.current]
    if s.pipe && s.anyDash then some (length, columns) else none

/-- The row below the header of a table: its length and the alignment of its columns. -/
def delimiterRow? (cs : List Char) : Option (Nat × List Alignment) :=
  let indent := countWhile (· = ' ') cs
  if 3 < indent then none
  else
    match cs.drop indent with
    | '|' :: rest => delimiterCells? { pipe := true } (indent + 1) rest
    | rest => delimiterCells? {} indent rest

/-- The number of cells in the header of a table, given the number of pipes in its line that
    divide cells and what stands behind the last of them. -/
def headerCells (line : List Char) (pipes : Nat) (behindLast : List Char) : Nat :=
  let inner := match line.dropWhile Text.isLineBlank with
    | '|' :: _ => pipes - 1
    | _ => pipes
  if (blankLine? behindLast).isSome then inner else inner + 1

/-- The kind of HTML block that the characters begin. A tag of any element alone on its line
    begins one too, but cannot interrupt a paragraph. -/
def htmlBlock? (cs : List Char) : Option HtmlEnd :=
  match interruptingHtml? cs with
  | some ending => some ending
  | none =>
    match htmlTag? none cs with
    | some (_, rest) => (blankLine? rest).map fun _ => .blankLine
    | none => none

end Anchormark.Markdown
