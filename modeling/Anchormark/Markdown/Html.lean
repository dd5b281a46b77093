import Anchormark.Text.Blank

/-!
# Raw HTML

Markdown lets HTML stand in text and as blocks of its own. Inline HTML is a tag, a comment, an
instruction, a declaration or a character-data section, and is found by reading it to its end. An
HTML block is recognised by how its first line begins, and the beginning decides how it ends.

A tag may run over several lines. Where it does, what belongs to the open containers at the start
of a line is no part of it, so the readers of tags take a function that measures that part. The
first line of a block cannot run over; there, a line ending makes the tag malformed.

Readers answer what they have read and what is left.

## Main definitions

* `inlineHtml?`: inline HTML at the start of the characters.
* `HtmlEnd`: how an HTML block ends.
* `htmlBlock?`: the kind of HTML block that a line begins.
-/

namespace Anchormark.Markdown

/-- What a reader took, and what it left. -/
abbrev Reading := List Char × List Char

/-- Adds characters in front of what was taken. -/
def Reading.prepend (front : List Char) (r : Reading) : Reading :=
  (front ++ r.1, r.2)

/-- How the margin of a continuation line is measured; `none` where there must not be one. -/
abbrev MarginRule := Option (List Char → Nat)

/-- Takes characters for which `stop` does not hold, line endings included when `rule` allows
    them, up to one for which it does or to the end. `skip` characters of a margin are left out. -/
def takeLines (rule : MarginRule) (stop : Char → Bool) : Nat → List Char → Option Reading
  | _, [] => some ([], [])
  | skip + 1, _ :: rest => takeLines rule stop skip rest
  | 0, c :: rest =>
    if stop c then some ([], c :: rest)
    else if c = '\n' || (c = '\r' && rest.head? ≠ some '\n') then
      match rule with
      | none => none
      | some margin => (takeLines rule stop (margin rest) rest).map (Reading.prepend [c])
    else if c = '\r' && rule.isNone then none
    else (takeLines rule stop 0 rest).map (Reading.prepend [c])

/-- Takes blanks and, when `rule` allows them, line endings. -/
def takeBlanks (rule : MarginRule) (cs : List Char) : Option Reading :=
  takeLines rule (!Text.isMarkdownSpace ·) 0 cs

/-- Takes the characters that satisfy `p`. -/
def takeAll (p : Char → Bool) (cs : List Char) : Reading :=
  (cs.takeWhile p, cs.dropWhile p)

/-- Characters that a bare value of an attribute cannot begin with. It cannot hold quotes
    either. -/
def attributeDelimiters : List Char :=
  [' ', '=', '>', '<', '`', '\n', '\r']

/-- Takes the value of an attribute: quoted, or bare. -/
def attributeValue? (rule : MarginRule) (cs : List Char) : Option Reading :=
  match cs with
  | [] => none
  | c :: rest =>
    if c = '"' || c = '\'' then do
      let (value, rest) ← takeLines rule (· = c) 0 rest
      match rest with
      | quote :: rest => some ((c :: value) ++ [quote], rest)
      | [] => none
    else if attributeDelimiters.contains c then none
    else some (takeAll (fun c => !attributeDelimiters.contains c && c ≠ '"' && c ≠ '\'') cs)

/-- Takes an attribute: a name, and a value if an equals sign follows. -/
def attribute? (rule : MarginRule) (cs : List Char) : Option Reading :=
  match cs with
  | [] => none
  | c :: rest =>
    if c.isAlpha || c = '_' || c = ':' then
      let (name, rest) := takeAll
        (fun c => c.isAlphanum || c = '_' || c = '.' || c = ':' || c = '-') rest
      match takeBlanks rule rest with
      | none => none
      | some (gap, '=' :: value) => do
        let (blanks, value) ← takeBlanks rule value
        (attributeValue? rule value).map (Reading.prepend ((c :: name) ++ gap ++ '=' :: blanks))
      | some _ => some (c :: name, rest)
    else none

/-- Takes the attributes of an opening tag and the blanks around them, up to its end. Each of the
    attributes, at most `limit` of them, needs a blank before it. -/
def attributes? (rule : MarginRule) : Nat → List Char → Option Reading
  | 0, _ => none
  | limit + 1, cs => do
    let (gap, rest) ← takeBlanks rule cs
    match rest with
    | [] => none
    | c :: _ =>
      if c = '/' || c = '>' then some (gap, rest)
      else if gap.isEmpty then none
      else do
        let (first, rest) ← attribute? rule rest
        (attributes? rule limit rest).map (Reading.prepend (gap ++ first))

/-- Takes a tag, opening or closing. -/
def htmlTag? (rule : MarginRule) (cs : List Char) : Option Reading :=
  match cs with
  | '<' :: '/' :: rest =>
    let (name, rest) := takeAll (fun c => c.isAlphanum || c = '-') rest
    let (gap, rest) := takeAll Text.isLineBlank rest
    match name.head?.map Char.isAlpha, rest with
    | some true, '>' :: rest => some (['<', '/'] ++ name ++ gap ++ ['>'], rest)
    | _, _ => none
  | '<' :: rest =>
    let (name, rest) := takeAll (fun c => c.isAlphanum || c = '-') rest
    if name.head?.any Char.isAlpha then do
      let (attributes, rest) ← attributes? rule (rest.length + 1) rest
      match rest with
      | '/' :: '>' :: rest => some (('<' :: name) ++ attributes ++ ['/', '>'], rest)
      | '>' :: rest => some (('<' :: name) ++ attributes ++ ['>'], rest)
      | _ => none
    else none
  | _ => none

/-- Takes characters up to and including the first place where `mark` stands. -/
def takeThrough? (mark : List Char) : List Char → Option Reading
  | [] => none
  | c :: rest =>
    if mark.isPrefixOf (c :: rest) then some (mark, (c :: rest).drop mark.length)
    else (takeThrough? mark rest).map (Reading.prepend [c])

/-- Takes a comment, from behind `<!--`. It may end at once. -/
def comment? (cs : List Char) : Option Reading :=
  match cs with
  | '>' :: rest => some (['>'], rest)
  | '-' :: '>' :: rest => some (['-', '>'], rest)
  | _ => takeThrough? ['-', '-', '>'] cs

/-- Takes character data, from behind `<![CDATA[`, through the first run of closing brackets,
    which a greater-than sign has to follow. -/
def characterData? (cs : List Char) : Option Reading :=
  let (data, rest) := takeAll (· ≠ ']') cs
  let (brackets, rest) := takeAll (· = ']') rest
  match brackets, rest with
  | _ :: _, '>' :: rest => some (data ++ brackets ++ ['>'], rest)
  | _, _ => none

/-- Takes a declaration, from behind `<!`: a letter, and anything through the next greater-than
    sign. -/
def declaration? (cs : List Char) : Option Reading :=
  if cs.head?.any Char.isAlpha then takeThrough? ['>'] cs else none

/-- Takes inline HTML of any form. -/
def inlineHtml? (margin : List Char → Nat) (cs : List Char) : Option Reading :=
  match cs with
  | '<' :: '!' :: '-' :: '-' :: rest => (comment? rest).map (Reading.prepend "<!--".toList)
  | '<' :: '!' :: '[' :: rest =>
    if "CDATA[".toList.isPrefixOf rest then
      (characterData? (rest.drop 6)).map (Reading.prepend "<![CDATA[".toList)
    else none
  | '<' :: '!' :: rest => (declaration? rest).map (Reading.prepend ['<', '!'])
  | '<' :: '?' :: rest => (takeThrough? ['?', '>'] rest).map (Reading.prepend ['<', '?'])
  | _ => htmlTag? (some margin) cs

/-- How an HTML block ends. -/
inductive HtmlEnd
  /-- With the first line that holds this text. -/
  | holding (mark : List Char)
  /-- Before the first blank line. -/
  | blankLine
  deriving DecidableEq, Repr

/-- Elements whose block ends with their own closing tag. -/
def verbatimElements : List String :=
  ["pre", "style", "script", "textarea"]

/-- Elements whose tag begins a block that ends before a blank line. -/
def blockElements : List String :=
  ["address", "article", "aside", "base", "basefont", "blockquote", "body", "caption", "center",
    "col", "colgroup", "dd", "details", "dialog", "dir", "div", "dl", "dt", "fieldset",
    "figcaption", "figure", "footer", "form", "frame", "frameset", "h1", "h2", "h3", "h4", "h5",
    "h6", "head", "header", "hr", "html", "iframe", "legend", "li", "link", "main", "menu",
    "menuitem", "nav", "noframes", "ol", "optgroup", "option", "p", "param", "search", "section",
    "summary", "table", "tbody", "td", "tfoot", "th", "thead", "title", "tr", "track", "ul"]

/-- The mark that ends a block which begins with the characters behind a less-than sign, for the
    blocks that end with a mark. -/
def htmlEndMark? (cs : List Char) : Option (List Char) :=
  let isVerbatim (name : String) : Bool :=
    (cs.take name.length).map Char.toLower = name.toList &&
      match cs.drop name.length with
      | [] => true
      | c :: _ => Text.isMarkdownSpace c || c = '>'
  match verbatimElements.find? isVerbatim, cs with
  | some name, _ => some (['<', '/'] ++ name.toList ++ ['>'])
  | none, '!' :: '-' :: '-' :: _ => some ['-', '-', '>']
  | none, '?' :: _ => some ['?', '>']
  | none, '!' :: c :: rest =>
    if "[CDATA[".toList.isPrefixOf (c :: rest) then some [']', ']', '>']
    else if c.isAlpha then some ['>']
    else none
  | none, _ => none

/-- The characters behind a less-than sign begin the tag of a block element. -/
def startsBlockElement (cs : List Char) : Bool :=
  let cs := match cs with
    | '/' :: rest => rest
    | _ => cs
  let (name, rest) := takeAll Char.isAlphanum cs
  blockElements.contains (String.ofList (name.map Char.toLower)) &&
    match rest with
    | [] => true
    | '/' :: '>' :: _ => true
    | c :: _ => c = ' ' || c = '\t' || c = '\r' || c = '\n' || c = '>'

/-- The kinds of HTML block that may begin even inside a paragraph. -/
def interruptingHtml? (cs : List Char) : Option HtmlEnd :=
  match cs with
  | '<' :: rest =>
    match htmlEndMark? rest with
    | some mark => some (.holding mark)
    | none => if startsBlockElement rest then some .blankLine else none
  | _ => none

end Anchormark.Markdown
