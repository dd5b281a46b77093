import Anchormark.Attribute.Block
import Anchormark.Text.Alphanumeric
import Anchormark.Text.Lines

/-!
# Escaping

What a text says must be read back as text, so characters that would start markup get a backslash.

Inside a line these are the backslash, the asterisk, the backtick, square brackets and the
less-than sign. An underscore between two letters or digits never starts emphasis and stays bare.
An opening brace starts an attribute block only at the edges of a text, the two places where
blocks are resolved, so only a brace that opens a well-formed block there is escaped.

At the start of a line, a character that would open a heading, a block quote or a list item is
escaped. In a table cell, every pipe is.

## Main definitions

* `escapeText`: a text value as it is written.
* `escapeLineStarts`: the content of a paragraph with its line starts made safe.
* `escapePipes`: the content of a table cell.
-/

namespace Anchormark.Escape

/-- Characters that are escaped wherever they stand. -/
def isAlwaysEscaped (c : Char) : Bool :=
  c = '\\' || c = '*' || c = '`' || c = '[' || c = ']' || c = '<'

/-- An underscore with these neighbours stands inside a word. -/
def isIntraword (before after : Option Char) : Bool :=
  before.any Text.isAlphanumeric && after.any Text.isAlphanumeric

/-- Escapes the characters from index `i` on. `before` is the character before them, and `braces`
    holds the indices of the opening braces to escape. -/
def escapeFrom (braces : List Nat) (i : Nat) (before : Option Char) : List Char → List Char
  | [] => []
  | c :: rest =>
    let escape :=
      if c = '_' then !isIntraword before rest.head?
      else if c = '{' then i ∈ braces
      else isAlwaysEscaped c
    if escape then '\\' :: c :: escapeFrom braces (i + 1) (some c) rest
    else c :: escapeFrom braces (i + 1) (some c) rest

/-- Where a well-formed attribute block opens at the start or the end of the characters. -/
def blockBraces (cs : List Char) : List Nat :=
  ((AttributeBlock.leading? cs).map fun _ => 0).toList ++
    ((AttributeBlock.trailing? cs).map fun (_, front) => front.length).toList

/-- A text value as it is written. -/
def escapeText (cs : List Char) : List Char :=
  escapeFrom (blockBraces cs) 0 none cs

/-- A list marker ends where these characters begin. -/
def endsMarker : List Char → Bool
  | [] => true
  | c :: _ => c = ' ' || c = '\t'

/-- Makes the start of a line safe. -/
def escapeLineStart (line : List Char) : List Char :=
  match line with
  | [] => []
  | c :: rest =>
    if c = '#' || c = '>' then '\\' :: line
    else if (c = '-' || c = '+') && endsMarker rest then '\\' :: line
    else if c.isDigit then
      let digits := line.takeWhile Char.isDigit
      match line.dropWhile Char.isDigit with
      | mark :: after =>
        if (mark = '.' || mark = ')') && endsMarker after then digits ++ '\\' :: mark :: after
        else line
      | [] => line
    else line

/-- Makes the start of every line safe. -/
def escapeLineStarts (cs : List Char) : List Char :=
  Text.unlines ((Text.lines cs).map escapeLineStart)

/-- Escapes every pipe. -/
def escapePipes (cs : List Char) : List Char :=
  cs.flatMap fun c => if c = '|' then ['\\', '|'] else [c]

end Anchormark.Escape
