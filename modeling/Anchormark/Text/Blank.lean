/-!
# Blank Characters

Three notions of white space are in use, and they differ.

* *White space* in the sense of Unicode's property `White_Space` trims values and separates the
  words of a code block's info string.
* *Spacing* is the ASCII set that the block scanner skips: tab, line feed, form feed, carriage
  return and space. It has no vertical tab.
* *Line blanks* are the characters Markdown lets stand at the ends of a line: tab, vertical tab,
  form feed and space.

## Main definitions

* `isBlank`: Unicode white space.
* `isSpacing`: ASCII white space of the attribute grammar.
* `isLineBlank`, `isMarkdownSpace`: Markdown's sets, without and with line endings.
* `trim`, `trimEnd`: a text without the blanks at its ends.
* `words`: the maximal runs of characters that are not blank.
-/

namespace Anchormark.Text

/-- White space in the sense of Unicode's `White_Space`. -/
def isBlank (c : Char) : Bool :=
  (9 ≤ c.toNat && c.toNat ≤ 13) || c.toNat = 0x20 || c.toNat = 0x85 || c.toNat = 0xa0 ||
    c.toNat = 0x1680 || (0x2000 ≤ c.toNat && c.toNat ≤ 0x200a) || c.toNat = 0x2028 ||
    c.toNat = 0x2029 || c.toNat = 0x202f || c.toNat = 0x205f || c.toNat = 0x3000

/-- White space of the attribute grammar: tab, line feed, form feed, carriage return, space. -/
def isSpacing (c : Char) : Bool :=
  c = ' ' || c = '\t' || c = '\n' || c = '\x0c' || c = '\r'

/-- Blanks that may stand within a line of Markdown: space, tab, vertical tab, form feed. -/
def isLineBlank (c : Char) : Bool :=
  c = ' ' || c = '\t' || c = '\x0b' || c = '\x0c'

/-- Markdown's ASCII white space, line endings included. -/
def isMarkdownSpace (c : Char) : Bool :=
  isLineBlank c || c = '\n' || c = '\r'

/-- A control character in the sense of Unicode's category `Cc`. -/
def isControl (c : Char) : Bool :=
  c.toNat < 0x20 || (0x7f ≤ c.toNat && c.toNat < 0xa0)

/-- `cs` without the characters at its end that satisfy `p`. -/
def dropEndWhile (p : Char → Bool) (cs : List Char) : List Char :=
  (cs.reverse.dropWhile p).reverse

/-- The characters without the blanks at their end. -/
def trimEnd (cs : List Char) : List Char :=
  dropEndWhile isBlank cs

/-- The characters without the blanks at either end. -/
def trim (cs : List Char) : List Char :=
  trimEnd (cs.dropWhile isBlank)

/-- The first maximal run of characters that do not satisfy `blank`, if there is one. -/
def firstWord? (blank : Char → Bool) (cs : List Char) : Option (List Char) :=
  match (cs.dropWhile blank).takeWhile (!blank ·) with
  | [] => none
  | word => some word

end Anchormark.Text
