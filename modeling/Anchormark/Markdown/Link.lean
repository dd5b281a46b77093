import Anchormark.Markdown.Entity
import Anchormark.Markdown.Event
import Anchormark.Markdown.Scan
import Anchormark.Text.LetterCase

/-!
# The Parts of Links

Inline links, reference links and link reference definitions are put together from the same
parts: labels in square brackets, destinations, and titles. Autolinks in angle brackets hold an
address and nothing else.

Readers work on the characters from where a part begins and answer the part and what is left.
Parts may run over several lines; how many characters of a continued line belong to its margin is
for the caller to say, since that differs between a paragraph that is being read and a block that
is being recognised.

## Main definitions

* `destination?`: a link destination.
* `label?`, `labelKey`: a link label, and the form under which labels are compared.
* `definitionTitle?`: the title of a definition.
* `autolink?`: an address in angle brackets.
-/

namespace Anchormark.Markdown

/-- How deep parentheses may nest in a destination without angle brackets. -/
def maxParentheses : Nat := 32

/-- A destination up to its closing angle bracket, which is taken too. -/
def angleDestination? : List Char → Option Reading
  | [] => none
  | '\\' :: c :: rest =>
    if Text.isAsciiPunctuation c then (angleDestination? rest).map (Reading.prepend ['\\', c])
    else (angleDestination? (c :: rest)).map (Reading.prepend ['\\'])
  | c :: rest =>
    if c = '>' then some ([], rest)
    else if c = '<' || c = '\n' || c = '\r' then none
    else (angleDestination? rest).map (Reading.prepend [c])

/-- A destination without angle brackets, with `depth` parentheses open. It ends before a space, a
    control character, or a closing parenthesis of its own level. -/
def bareDestination? (depth : Nat) : List Char → Option Reading
  | [] => if depth = 0 then some ([], []) else none
  | '\\' :: c :: rest =>
    if Text.isAsciiPunctuation c then
      (bareDestination? depth rest).map (Reading.prepend ['\\', c])
    else (bareDestination? depth (c :: rest)).map (Reading.prepend ['\\'])
  | c :: rest =>
    if c.toNat ≤ 0x20 || (c = ')' && depth = 0) then
      if depth = 0 then some ([], c :: rest) else none
    else if c = '(' then
      if maxParentheses < depth then none
      else (bareDestination? (depth + 1) rest).map (Reading.prepend [c])
    else if c = ')' then (bareDestination? (depth - 1) rest).map (Reading.prepend [c])
    else (bareDestination? depth rest).map (Reading.prepend [c])

/-- A destination as it is written, without its angle brackets. It may be empty. -/
def destination? (cs : List Char) : Option Reading :=
  match cs with
  | '<' :: rest => angleDestination? rest
  | _ => bareDestination? 0 cs

/-- The most characters of a label that are counted: spaces, escapes, and the bytes of characters
    beyond ASCII. -/
def maxLabelLength : Nat := 1000

/-- The label up to its closing bracket, which is taken too, from the characters behind the
    opening one. `margin?` measures the margin of a continued line, or says that the label must
    not go on there. `skip` characters of the rest belong to a margin, `used` counts towards the
    longest label, and `afterBreak` says that only blanks have been read since a line ending. A pipe
    in a table loses the backslash before it. -/
def label? (margin? : List Char → Option Nat) (inTable : Bool) :
    (skip used : Nat) → (afterBreak : Bool) → List Char → Option Reading
  | _, _, _, [] => none
  | skip + 1, used, afterBreak, _ :: rest => label? margin? inTable skip used afterBreak rest
  | 0, used, afterBreak, c :: rest =>
    if maxLabelLength ≤ used || c = '[' then none
    else if c = ']' then some ([], rest)
    else if c = '\\' && inTable && rest.head? = some '|' then
      (label? margin? inTable 1 (used + 1) false rest).map (Reading.prepend ['|'])
    else if c = '\\' && inTable && ['\\', '|'].isPrefixOf rest then
      (label? margin? inTable 2 (used + 2) false rest).map (Reading.prepend ['\\', '|'])
    else if c = '\\' && rest.head?.any Text.isAsciiPunctuation then
      (label? margin? inTable 1 (used + 2) false rest).map
        (Reading.prepend (c :: rest.take 1))
    else if c = '\n' || (c = '\r' && rest.head? ≠ some '\n') then
      -- Only blanks since the last line ending: a blank line, which no label goes across.
      if afterBreak then none
      else
        match margin? rest with
        | none => none
        | some skip =>
          (label? margin? inTable skip (used + 1) true rest).map (Reading.prepend [c])
    else if Text.isMarkdownSpace c then
      (label? margin? inTable 0 (used + 1) afterBreak rest).map (Reading.prepend [c])
    else
      let used := if c.toNat < 0x80 then used else used + c.utf8Size
      (label? margin? inTable 0 used false rest).map (Reading.prepend [c])

/-- Every run of white space becomes one space. `gap` says that such a run has just been read. -/
def collapseBlanks (gap : Bool) : List Char → List Char
  | [] => []
  | c :: rest =>
    if Text.isMarkdownSpace c then collapseBlanks true rest
    else if gap then ' ' :: c :: collapseBlanks false rest
    else c :: collapseBlanks false rest

/-- The form under which labels are compared: runs of white space count as one space, those at the
    ends do not count, and case does not matter. -/
def labelKey (label : List Char) : List Char :=
  Text.fold (collapseBlanks false (label.dropWhile Text.isMarkdownSpace))

/-- A label that says something. Takes the brackets too. -/
def bracketedLabel? (margin? : List Char → Option Nat) (inTable : Bool) (cs : List Char) :
    Option Reading :=
  match cs with
  | '[' :: rest =>
    (label? margin? inTable 0 0 false rest).filter fun (label, _) =>
      !label.all Text.isMarkdownSpace
  | _ => none

/-- The title of a definition as it is written, up to its closing delimiter, which is taken too.
    `margin?` measures the margin and indentation of a continued line, or says that the title must
    not go on there. -/
def titleLines? (margin? : List Char → Option Nat) (close : Char) :
    (skip : Nat) → List Char → Option Reading
  | _, [] => none
  | skip + 1, _ :: rest => titleLines? margin? close skip rest
  | 0, c :: rest =>
    if c = close then some ([], rest)
    else if c = '(' && close = ')' then none
    else if c = '\n' || (c = '\r' && rest.head? ≠ some '\n') then
      match margin? rest with
      | none => none
      | some skip => (titleLines? margin? close skip rest).map (Reading.prepend ['\n'])
    else if c = '\r' then titleLines? margin? close 0 rest
    else if c = '\\' then
      match rest with
      | d :: _ =>
        if d = '\n' || d = '\r' then
          (titleLines? margin? close 0 rest).map (Reading.prepend [c])
        else (titleLines? margin? close 1 rest).map (Reading.prepend [c, d])
      | [] => none
    else (titleLines? margin? close 0 rest).map (Reading.prepend [c])

/-- The delimiter that closes a title. -/
def closingDelimiter? : Char → Option Char
  | '"' => some '"'
  | '\'' => some '\''
  | '(' => some ')'
  | _ => none

/-- The title of a definition as it is written, without its delimiters. -/
def definitionTitle? (margin? : List Char → Option Nat) (cs : List Char) : Option Reading :=
  match cs with
  | [] => none
  | c :: rest =>
    match closingDelimiter? c with
    | some close => titleLines? margin? close 0 rest
    | none => none

/-- An absolute address up to its closing angle bracket, which is taken too: a scheme of 2 to 32
    characters, a colon, and anything but spaces, controls and angle brackets. -/
def absoluteAddress? (cs : List Char) : Option Reading :=
  let isSchemeChar (c : Char) : Bool := c.isAlphanum || c = '.' || c = '-' || c = '+'
  let (scheme, rest) := takeAll isSchemeChar cs
  let (address, rest) := takeAll (fun c => 0x20 < c.toNat && c ≠ '>' && c ≠ '<') rest
  match address, rest with
  | ':' :: _, '>' :: rest =>
    if scheme.head?.any Char.isAlpha && 2 ≤ scheme.length && scheme.length ≤ 32 then
      some (scheme ++ address, rest)
    else none
  | _, _ => none

/-- The labels of a domain, at most `limit` of them, between dots: letters, digits and hyphens, at
    most 63, without a hyphen at either end. -/
def domain? : (limit : Nat) → List Char → Option Reading
  | 0, _ => none
  | limit + 1, cs =>
    let (name, rest) := takeAll (fun c => c.isAlphanum || c = '-') cs
    if name.isEmpty || 63 < name.length || name.head? = some '-' || name.getLast? = some '-' then
      none
    else
      match rest with
      | '.' :: rest => (domain? limit rest).map (Reading.prepend (name ++ ['.']))
      | _ => some (name, rest)

/-- A mail address up to its closing angle bracket, which is taken too. -/
def mailAddress? (cs : List Char) : Option Reading :=
  let isMailboxChar (c : Char) : Bool :=
    c.isAlphanum || ".!#$%&'*+/=?^_`\x7b|\x7d~-".toList.contains c
  let (mailbox, rest) := takeAll isMailboxChar cs
  match mailbox, rest with
  | _ :: _, '@' :: rest => do
    let (domain, rest) ← domain? (rest.length + 1) rest
    match rest with
    | '>' :: rest => some (mailbox ++ '@' :: domain, rest)
    | _ => none
  | _, _ => none

/-- An address in angle brackets, from behind the opening one. -/
def autolink? (cs : List Char) : Option (LinkForm × Reading) :=
  match absoluteAddress? cs with
  | some r => some (.autolink, r)
  | none => (mailAddress? cs).map (.email, ·)

end Anchormark.Markdown
