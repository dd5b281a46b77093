import Anchormark.Markdown.Block

/-!
# Links, Code Spans and Raw HTML

The pieces of a block become running text in two passes. The first one, in this module, goes from
left to right and settles everything that binds tighter than emphasis: raw HTML, autolinks, code
spans, links and images. Runs of emphasis marks stay as they are for the second pass.

Brackets are settled when they close. The open ones form a stack; a closing bracket looks at what
follows it and either turns the innermost open bracket and all that stands behind it into a link or
image, or leaves both brackets as text. A link does not hold links, so once one is found, the
brackets around it can no longer open a link.

What a construct takes may end in the middle of a piece, and the rest of that piece stays text.

## Main definitions

* `Inline`: running text whose links are settled.
* `InlineContext`: the block that the pieces belong to.
* `settleLinks`: the first pass.
-/

namespace Anchormark.Markdown

/-- Running text, from character `start` up to character `stop`. -/
inductive Inline
  | leaf (start stop : Nat) (event : Event)
  | hardBreak (start stop : Nat) (backslash : Bool)
  /-- A run of emphasis marks that may open or close emphasis. What stands behind it in `tail` goes
      with the last mark. -/
  | marks (start : Nat) (mark : Char) (count : Nat) (tail : List Char) (opens closes : Bool)
  | group (start stop : Nat) (tag : Tag) (children : List Inline)

/-- The block that the pieces belong to. -/
structure InlineContext where
  /-- The document up to the end of the block. -/
  text : List Char
  containers : List Container
  inTable : Bool
  definitions : Definitions

/-- Pieces that end after character `i`, the first of them cut so that it does not begin before. -/
def piecesFrom (i : Nat) (pieces : List Piece) : List Piece :=
  match pieces.dropWhile (·.stop ≤ i) with
  | [] => []
  | p :: rest => { p with start := max p.start i } :: rest

/-- The value of a code span. Each character of a line ending counts as a space and takes the margin
    of the line behind it along; in a table, a pipe loses its backslash. `skip` characters belong to
    a margin. -/
def codeChars (margin : List Char → Nat) (inTable : Bool) : (skip : Nat) → List Char → List Char
  | _, [] => []
  | skip + 1, _ :: rest => codeChars margin inTable skip rest
  | 0, c :: rest =>
    if c = '\n' || c = '\r' then ' ' :: codeChars margin inTable (margin rest) rest
    else if c = '\\' && inTable && rest.head? = some '|' then codeChars margin inTable 0 rest
    else c :: codeChars margin inTable 0 rest

/-- A space goes from both ends, unless there are only spaces. -/
def stripCode (cs : List Char) : List Char :=
  if cs.head? = some ' ' && cs.getLast? = some ' ' && !cs.all (· = ' ') then
    cs.tail.dropLast
  else cs

/-- The title of an inline link behind its opening delimiter, with escapes and references decoded,
    and the place behind the closing one. In a table, `\\|` stands for a pipe, or before punctuation
    makes that stand for itself. `lineStart?` says where the text behind a line ending at
    some place goes on. `skip` characters belong to what has been read, and `i` is where the
    characters begin. -/
def inlineTitle? (inTable : Bool) (lineStart? : Nat → Option Nat) (opener close : Char) :
    (skip i : Nat) → List Char → Option (List Char × Nat)
  | _, _, [] => none
  | skip + 1, i, _ :: rest => inlineTitle? inTable lineStart? opener close skip (i + 1) rest
  | 0, i, c :: rest =>
    let goOn (value : List Char) (skip : Nat) : Option (List Char × Nat) :=
      (inlineTitle? inTable lineStart? opener close skip (i + 1) rest).map fun (title, stop) =>
        (value ++ title, stop)
    if c = close then some ([], i + 1)
    else if c = opener then none
    else
      -- A line ending becomes a line feed, and the margin below it is left out.
      match if c = '\n' || c = '\r' then lineStart? i else none with
      | some next => goOn ['\n'] (next - i - 1)
      | none =>
        match reference? (c :: rest) with
        | some (length, value) => goOn value (length - 1)
        | none =>
          match c, rest with
          | '\\', '\\' :: '|' :: others =>
            if inTable then
              match others.head?.filter Text.isAsciiPunctuation with
              | some d => goOn [d] 3
              | none => goOn ['|'] 2
            else goOn ['\\'] 1
          | '\\', d :: _ => if Text.isAsciiPunctuation d then goOn [d] 1 else goOn [c] 0
          | _, _ => goOn [c] 0

namespace InlineContext

/-- The block from character `i` on. -/
def after (ctx : InlineContext) (i : Nat) : List Char :=
  ctx.text.drop i

/-- Where the characters begin, which are an end of the block. -/
def index (ctx : InlineContext) (cs : List Char) : Nat :=
  ctx.text.length - cs.length

/-- The characters from `start` up to `stop`. -/
def slice (ctx : InlineContext) (start stop : Nat) : String :=
  String.ofList ((ctx.text.drop start).take (stop - start))

/-- Plain text. -/
def plain (ctx : InlineContext) (start stop : Nat) : Inline :=
  .leaf start stop (.text (ctx.slice start stop))

/-- The margin of the line that the characters begin with. -/
def margin (ctx : InlineContext) (cs : List Char) : Nat :=
  marginLength ctx.containers cs

/-- What follows blanks with at most one line ending among them. -/
def skipGap (ctx : InlineContext) (cs : List Char) : List Char :=
  let cs := cs.dropWhile Text.isLineBlank
  let below := cs.drop ((lineEnd? cs).getD 0)
  let cs := if (lineEnd? cs).isSome then below.drop (ctx.margin below) else cs
  cs.dropWhile Text.isLineBlank

/-- The piece that text goes on with behind a line ending at character `i`. -/
def lineStart? (pieces : List Piece) (i : Nat) : Option Nat :=
  (pieces.find? fun p => i + 1 < p.stop).bind fun p => if i < p.start then some p.start else none

/-- The destination and title in parentheses at character `i`, and where they end. `pieces` are
    those that follow. -/
def inlineTarget? (ctx : InlineContext) (i : Nat) (pieces : List Piece) :
    Option (List Char × List Char × Nat) := do
  let rest ← match ctx.after i with
    | '(' :: rest => some rest
    | _ => none
  let (url, rest) ← destination? (ctx.skipGap rest)
  let rest := ctx.skipGap rest
  let (title, rest) := match rest with
    | [] => ([], rest)
    | c :: inner =>
      match closingDelimiter? c with
      | none => ([], rest)
      | some close =>
        match inlineTitle? ctx.inTable (lineStart? pieces) c close 0 (ctx.index inner) inner with
        | none => ([], rest)
        | some (title, stop) => (title, ctx.skipGap (ctx.after stop))
  match rest with
  | ')' :: rest => some (unescape ctx.inTable url, title, ctx.index rest)
  | _ => none

/-- The definition for a label. -/
def definition? (ctx : InlineContext) (label : List Char) : Option Definition :=
  ctx.definitions.lookup (labelKey label)

end InlineContext

/-- A bracket that has not been closed. -/
structure OpenBracket where
  image : Bool
  start : Nat
  stop : Nat
  /-- The bracket may still open a link. -/
  live : Bool := true
  /-- What stands behind it, newest first. -/
  items : List Inline := []

/-- The open brackets, innermost first, and what stands before them, newest first. -/
structure LinkState where
  brackets : List OpenBracket := []
  items : List Inline := []

namespace LinkState

/-- Adds running text behind the innermost open bracket. -/
def addAll (s : LinkState) (newestFirst : List Inline) : LinkState :=
  match s.brackets with
  | [] => { s with items := newestFirst ++ s.items }
  | top :: rest => { s with brackets := { top with items := newestFirst ++ top.items } :: rest }

/-- Adds one element behind the innermost open bracket. -/
def add (s : LinkState) (item : Inline) : LinkState :=
  s.addAll [item]

/-- Gives the innermost open bracket up: it is text. -/
def giveUp (ctx : InlineContext) (s : LinkState) : LinkState :=
  match s.brackets with
  | [] => s
  | top :: rest =>
    { s with brackets := rest }.addAll (top.items ++ [ctx.plain top.start top.stop])

/-- Gives several open brackets up. -/
def giveUpMany (ctx : InlineContext) : Nat → LinkState → LinkState
  | 0, s => s
  | n + 1, s => giveUpMany ctx n (s.giveUp ctx)

/-- The innermost open bracket opens a link or image that ends before character `stop`. -/
def close (s : LinkState) (form : LinkForm) (url title : List Char) (stop : Nat) : LinkState :=
  match s.brackets with
  | [] => s
  | top :: rest =>
    let url := String.ofList url
    let title := String.ofList title
    let tag := if top.image then Tag.image form url title else .link form url title
    let rest := if top.image then rest
      else rest.map fun b => if b.image then b else { b with live := false }
    { s with brackets := rest }.add (.group top.start stop tag top.items.reverse)

end LinkState

/-- What a closing bracket turned out to be. -/
structure Closing where
  form : LinkForm
  url : List Char
  title : List Char
  /-- Where the link ends. -/
  stop : Nat
  /-- The pieces behind it. -/
  rest : List Piece

namespace InlineContext

/-- The link whose text is in brackets, from `opening`, an open bracket, up to a closing bracket
    that ends before character `stop` and has `pieces` behind it. `label` says that the text may be
    looked up itself. Failing that, the pieces to go on with: a label that has been looked up in
    vain is not looked up again where it closes. -/
def closing (ctx : InlineContext) (opening : OpenBracket) (stop : Nat) (label : Bool)
    (pieces : List Piece) : Except (List Piece) Closing :=
  match ctx.inlineTarget? stop pieces with
  | some (url, title, linkStop) =>
    .ok ⟨.inline, url, title, linkStop, piecesFrom linkStop pieces⟩
  | none =>
    let margin? (cs : List Char) : Option Nat := some (ctx.margin cs)
    let own (form : LinkForm) (rest : List Piece) : Except (List Piece) Closing :=
      let labelText := (ctx.text.take stop).drop (opening.stop - 1)
      match if label then bracketedLabel? margin? ctx.inTable labelText else none with
      | some (key, []) =>
        match ctx.definition? key with
        | some d => .ok ⟨form, d.url, d.title, stop, rest⟩
        | none => .error pieces
      | _ => .error pieces
    -- No target: what follows may be a label. An empty one, or none, leaves the text to be looked
    -- up itself.
    match pieces with
    | [] => own .shortcut []
    | next :: others =>
      match ctx.after next.start with
      | '[' :: ']' :: _ => own .collapsed (others.drop 1)
      | cs =>
        match bracketedLabel? margin? ctx.inTable cs with
        | none => own .shortcut pieces
        | some (key, rest) =>
          let labelStop := ctx.index rest
          let before := pieces.takeWhile (·.stop < labelStop)
          match pieces.dropWhile (·.stop < labelStop) with
          | [] => .error pieces
          | bracket :: behind =>
            match ctx.definition? key with
            | some d => .ok ⟨.reference, d.url, d.title, labelStop, behind⟩
            | none => .error (before ++ { bracket with kind := .closeBracket false } :: behind)

end InlineContext

/-- Settles what binds tighter than emphasis, piece by piece. Each step takes at least one piece,
    so as many steps as pieces are enough. -/
def settleFrom (ctx : InlineContext) : (limit : Nat) → LinkState → List Piece → LinkState
  | 0, s, _ => s
  | _, s, [] => s
  | limit + 1, s, p :: rest =>
    let asText (_ : Unit) : LinkState :=
      settleFrom ctx limit (s.add (ctx.plain p.start p.stop)) rest
    match p.kind with
    | .text => asText ()
    | .substitute value =>
      settleFrom ctx limit (s.add (.leaf p.start p.stop (.text (String.ofList value)))) rest
    | .softBreak => settleFrom ctx limit (s.add (.leaf p.start p.stop .softBreak)) rest
    | .hardBreak backslash =>
      settleFrom ctx limit (s.add (.hardBreak p.start p.stop backslash)) rest
    | .task checked => settleFrom ctx limit (s.add (.leaf p.start p.stop (.task checked))) rest
    | .marks mark count opens closes =>
      let tail := (ctx.text.take p.stop).drop (p.start + count)
      settleFrom ctx limit (s.add (.marks p.start mark count tail opens closes)) rest
    | .lessThan =>
      -- An angle bracket that is the last piece has nothing behind it to close it.
      match if rest.isEmpty then none else autolink? (ctx.after p.stop) with
      | some (form, address, behind) =>
        let stop := ctx.index behind
        let link := .group p.start stop (.link form (String.ofList address) "")
          [ctx.plain (p.start + 1) (stop - 1)]
        settleFrom ctx limit (s.add link) (piecesFrom stop rest)
      | none =>
        match if rest.isEmpty then none else inlineHtml? ctx.margin (ctx.after p.start) with
        | some (html, behind) =>
          let stop := ctx.index behind
          let leaf := .leaf p.start stop (.inlineHtml (String.ofList html))
          settleFrom ctx limit (s.add leaf) (piecesFrom stop rest)
        | none => asText ()
    | .backticks run escaped =>
      -- An escaped first tick stays text, and the rest of the run opens the span.
      let count := if escaped then run - 1 else run
      let closes (q : Piece) : Bool :=
        match q.kind with
        | .backticks run _ => run = count
        | _ => false
      match if count = 0 then [] else rest.dropWhile (!closes ·) with
      | [] => asText ()
      | q :: behind =>
        let content := (ctx.text.take q.start).drop p.stop
        let value := String.ofList (stripCode (codeChars ctx.margin ctx.inTable 0 content))
        if escaped then
          let tick := ctx.plain p.start (p.start + 1)
          settleFrom ctx limit (s.addAll [.leaf (p.start + 1) q.stop (.code value), tick]) behind
        else settleFrom ctx limit (s.add (.leaf p.start q.stop (.code value))) behind
    | .openBracket =>
      let bracket : OpenBracket := { image := false, start := p.start, stop := p.stop }
      settleFrom ctx limit { s with brackets := bracket :: s.brackets } rest
    | .openImage =>
      let bracket : OpenBracket := { image := true, start := p.start, stop := p.stop }
      settleFrom ctx limit { s with brackets := bracket :: s.brackets } rest
    | .closeBracket label =>
      match s.brackets with
      | [] => asText ()
      | top :: _ =>
        -- A bracket around a link is matched like others, but stays text.
        let found := if top.live then ctx.closing top p.stop label rest else .error rest
        match found with
        | .ok link =>
          settleFrom ctx limit (s.close link.form link.url link.title link.stop) link.rest
        | .error pieces =>
          settleFrom ctx limit ((s.giveUp ctx).add (ctx.plain p.start p.stop)) pieces

/-- The pieces with everything settled that binds tighter than emphasis. -/
def settleLinks (ctx : InlineContext) (pieces : List Piece) : List Inline :=
  let s := settleFrom ctx pieces.length {} pieces
  (s.giveUpMany ctx s.brackets.length).items.reverse

end Anchormark.Markdown
