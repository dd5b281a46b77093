import Anchormark.Markdown.Entity
import Anchormark.Markdown.Scan

/-!
# Pieces of a Line

The text of a paragraph, heading or table cell is read line by line into pieces: stretches of plain
text, and the characters that may turn out to be markup. Whether they do is decided later, when all
pieces of the block are known.

Each piece knows where it stands, in characters from the start of the document. A line gives up the
blanks at its ends. Its ending becomes a piece too, a soft or a hard break, but that piece is
handed out apart, because the break counts only if the paragraph goes on.

Reading a line also notices when it is the header of a table, that is, when the row below it is a
delimiter row with as many columns.

## Main definitions

* `Piece`: a stretch of text or possible markup.
* `LineMode`: whether the line may be a table header, or is a table cell.
* `readLine`: the pieces of a line and how it ends.
-/

namespace Anchormark.Markdown

/-- What a piece is. -/
inductive PieceKind
  | text
  /-- Text that stands for something else, such as a character reference. -/
  | substitute (value : List Char)
  | softBreak
  | hardBreak (backslash : Bool)
  /-- A run of emphasis marks, which may open or close emphasis. -/
  | marks (mark : Char) (count : Nat) (opens closes : Bool)
  /-- A run of backticks. `escaped` says that a backslash takes the first one out of the run. -/
  | backticks (count : Nat) (escaped : Bool)
  | lessThan
  | openBracket
  | openImage
  /-- A closing bracket. `label` says that the text before it may be looked up as a label. -/
  | closeBracket (label : Bool)
  | task (checked : Bool)
  deriving DecidableEq, Repr

/-- The piece may turn out to be markup, or a part of it. -/
def PieceKind.mayBeMarkup : PieceKind → Bool
  | marks .. | backticks .. | lessThan | openBracket | openImage | closeBracket _ => true
  | _ => false

/-- A stretch of the document, from character `start` up to character `stop`. The last piece of a
    heading may hold blanks behind what its kind says. -/
structure Piece where
  kind : PieceKind
  start : Nat
  stop : Nat
  deriving DecidableEq, Repr

/-- How a line is read. -/
inductive LineMode
  | plain
  /-- The line may be the header of a table. -/
  | header
  /-- The line is read up to the end of a table cell. -/
  | cell
  deriving DecidableEq, Repr

/-- How the reading of a line ended. -/
inductive LineBreak
  /-- At the end of the text, or of a cell. -/
  | none
  /-- With a break. -/
  | piece (p : Piece)
  /-- The line was the header of a table with these columns. -/
  | table (columns : List Alignment)
  deriving DecidableEq, Repr

/-- A line that has been read. -/
structure Line where
  pieces : List Piece
  /-- Where the next line, or what follows a cell, begins. -/
  next : Nat
  ending : LineBreak

/-- What reading a line needs to know: the text of the whole document, where the line begins, and
    around what it stands. -/
structure LineContext where
  text : List Char
  start : Nat
  mode : LineMode
  containers : List Container
  /-- A tilde marks deleted text. -/
  strikethrough : Bool

namespace LineContext

/-- The character before index `i`, if it belongs to the line. -/
def before? (ctx : LineContext) (i : Nat) : Option Char :=
  if ctx.start < i then ctx.text[i - 1]? else none

/-- In a cell, an unescaped pipe stands before index `i`. -/
def behindPipe (ctx : LineContext) (i : Nat) : Bool :=
  ctx.mode = .cell && ctx.before? i = some '|' && ctx.before? (i - 1) ≠ some '\\'

/-- A run of `length` marks at index `i`, with `next` behind it, can open emphasis: it stands
    before a character, and unless that is punctuation or the mark must not stand inside a word,
    behind a blank or punctuation. -/
def canOpen (ctx : LineContext) (mark : Char) (length i : Nat) (next? : Option Char) : Bool :=
  match next? with
  | none => false
  | some next =>
    !Text.isBlank next &&
    match ctx.before? i with
    | none => true
    | some before =>
      ctx.behindPipe i ||
      (!(ctx.mode = .cell && next = '|') &&
        ((mark = '*' && !Text.isPunctuation next) ||
          (mark = '~' && 1 < length) ||
          (mark = '~' && before = '~' && !Text.isPunctuation next) ||
          Text.isBlank before || Text.isPunctuation before))

/-- A run of `length` marks at index `i`, with `next` behind it, can close emphasis. -/
def canClose (ctx : LineContext) (mark : Char) (length i : Nat) (next? : Option Char) : Bool :=
  match ctx.before? i with
  | none => false
  | some before =>
    !Text.isBlank before &&
    match next? with
    | none => true
    | some next =>
      !ctx.behindPipe i &&
      ((ctx.mode = .cell && next = '|') ||
        ((mark = '*' || (mark = '~' && 1 < length)) && !Text.isPunctuation before) ||
        (mark = '~' && before = '~') ||
        Text.isBlank next || Text.isPunctuation next)

/-- How many characters right before index `i` satisfy `p`. -/
def countBefore (ctx : LineContext) (p : Char → Bool) (i : Nat) : Nat :=
  countWhile p (ctx.text.take i).reverse

/-- The columns of the table whose header is the line that ends before the characters `below`, and
    the length of the delimiter row with its margin. -/
def tableBelow? (ctx : LineContext) (pipes lastPipe : Nat) (below : List Char) :
    Option (Nat × List Alignment) :=
  if ctx.mode = .header && 0 < pipes then
    let (margin, inside) := ({ rest := below : Margin }).enterAll ctx.containers
    if inside then
      (delimiterRow? margin.rest).bind fun (length, columns) =>
        if columns.length =
            headerCells (ctx.text.drop ctx.start) pipes (ctx.text.drop (lastPipe + 1)) then
          some (margin.taken + length, columns)
        else none
    else none
  else none

end LineContext

/-- A line while it is being read. -/
structure LineState where
  /-- The finished pieces, newest first. -/
  pieces : List Piece := []
  /-- Where the plain text in progress began. -/
  textStart : Nat
  /-- Pipes that divide cells, and the last of them. -/
  pipes : Nat := 0
  lastPipe : Nat

namespace LineState

/-- Ends the plain text in progress before index `i`. -/
def flush (s : LineState) (i : Nat) : LineState :=
  if s.textStart < i then { s with pieces := ⟨.text, s.textStart, i⟩ :: s.pieces, textStart := i }
  else s

/-- Ends the plain text and adds a piece. Plain text goes on behind it. -/
def add (s : LineState) (kind : PieceKind) (start stop : Nat) : LineState :=
  let s := s.flush start
  { s with pieces := ⟨kind, start, stop⟩ :: s.pieces, textStart := stop }

/-- The line is over. -/
def finish (s : LineState) (stop next : Nat) (ending : LineBreak) : Line :=
  ⟨(s.flush stop).pieces.reverse, next, ending⟩

end LineState

/-- Ends a line at index `i`, where the characters `cs` begin with its line ending. -/
def endLine (ctx : LineContext) (s : LineState) (i : Nat) (cs : List Char) : Line :=
  let length := (lineEnd? cs).getD 0
  let next := i + length
  let backslashes := ctx.countBefore (· = '\\') i
  if backslashes % 2 = 1 && next < ctx.text.length then
    s.finish (i - 1) next (.piece ⟨.hardBreak true, i - 1, next⟩)
  else
    match ctx.tableBelow? s.pipes s.lastPipe (cs.drop length) with
    | some (below, columns) => s.finish i (next + below) (.table columns)
    | none =>
      let blanks := ctx.countBefore Text.isLineBlank i
      if 2 ≤ blanks then
        s.finish (i - blanks) next (.piece ⟨.hardBreak false, i - blanks, next⟩)
      else s.finish (i - blanks) next (.piece ⟨.softBreak, i, next⟩)

/-- Reads on from index `i`, where the characters begin. `skip` of them belong to what has been
    read. -/
def readFrom (ctx : LineContext) (s : LineState) : (skip i : Nat) → List Char → Line
  | _, i, [] =>
    s.finish (i - countWhile Text.isLineBlank ((ctx.text.take i).drop s.textStart).reverse) i .none
  | skip + 1, i, _ :: rest => readFrom ctx s skip (i + 1) rest
  | 0, i, c :: rest =>
    let plain (_ : Unit) : Line := readFrom ctx s 0 (i + 1) rest
    let piece (kind : PieceKind) (length : Nat) : Line :=
      readFrom ctx (s.add kind i (i + length)) (length - 1) (i + 1) rest
    if c = '\n' || c = '\r' then
      -- A row is one line, so the cell ends here, without the blanks behind its text.
      if ctx.mode = .cell then
        s.finish (i - countWhile Text.isLineBlank ((ctx.text.take i).drop s.textStart).reverse) i
          .none
      else endLine ctx s i (c :: rest)
    else if c = '\\' then
      match rest with
      | [] => plain ()
      | d :: others =>
        -- The ticks stay one run, which may close a code span as a whole or open one without the
        -- escaped tick.
        if d = '`' then
          let count := 1 + countWhile (· = '`') others
          let s := { s.flush i with textStart := i + 1 }
          readFrom ctx (s.add (.backticks count true) (i + 1) (i + 1 + count)) count (i + 1) rest
        else if ctx.mode = .cell && d = '\\' && others.head? = some '|' then
          readFrom ctx { s.flush i with textStart := i + 2 } 2 (i + 1) rest
        else if Text.isAsciiPunctuation d then
          readFrom ctx { s.flush i with textStart := i + 1 } 1 (i + 1) rest
        else plain ()
    else if c = '*' || c = '_' || (c = '~' && ctx.strikethrough) then
      let count := 1 + countWhile (· = c) rest
      let next? := rest[count - 1]?
      let opens := ctx.canOpen c count i next?
      let closes := ctx.canClose c count i next?
      -- A run that can do neither is text, and so are three tildes or more.
      if (opens || closes) && (c ≠ '~' || count ≤ 2) then piece (.marks c count opens closes) count
      else readFrom ctx s (count - 1) (i + 1) rest
    else if c = '`' then
      let count := 1 + countWhile (· = '`') rest
      piece (.backticks count false) count
    else if c = '<' && rest.head? ≠ some '\\' then piece .lessThan 1
    else if c = '!' && rest.head? = some '[' then piece .openImage 2
    else if c = '[' then piece .openBracket 1
    else if c = ']' then piece (.closeBracket true) 1
    else if c = '&' then
      match reference? (c :: rest) with
      | some (length, value) => piece (.substitute value) length
      | none => plain ()
    -- The backslash before a pipe keeps it from counting even where it is itself escaped.
    else if c = '|' && ¬(0 < i && ctx.text[i - 1]? = some '\\') then
      match ctx.mode with
      | .cell =>
        s.finish (i - countWhile Text.isLineBlank ((ctx.text.take i).drop s.textStart).reverse) i
          .none
      | .header => readFrom ctx { s with pipes := s.pipes + 1, lastPipe := i } 0 (i + 1) rest
      | .plain => plain ()
    else plain ()

/-- Reads the line that begins at `ctx.start`. -/
def readLine (ctx : LineContext) : Line :=
  readFrom ctx { textStart := ctx.start, lastPipe := ctx.start } 0 ctx.start
    (ctx.text.drop ctx.start)

end Anchormark.Markdown
