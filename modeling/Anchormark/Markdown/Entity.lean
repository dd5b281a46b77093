import Anchormark.Markdown.EntityTable
import Anchormark.Text.Punctuation

/-!
# Escapes and Character References

Text can name a character instead of holding it: by a backslash before ASCII punctuation, by a
name (`&amp;`), or by a number (`&#38;`, `&#x26;`). Inside a line such references become pieces of
their own; in destinations, titles and info strings they are decoded at once.

Cells of a table have one more rule. A table is split into cells before anything else is read, and
a pipe that is to stay in its cell is written `\|`. That backslash belongs to the splitting, so
what is read afterwards sees the pipe alone, and an escaped backslash before a pipe loses both
backslashes' protection: `\\|` reads as an escaped pipe.

## Main definitions

* `reference?`: the character reference at the start of a text.
* `unescape`: a text with its escapes and references decoded.
-/

namespace Anchormark.Markdown

/-- The value of a digit in a base up to sixteen. -/
def digitValue? (base : Nat) (c : Char) : Option Nat :=
  let value? : Option Nat :=
    if '0' ≤ c && c ≤ '9' then some (c.toNat - '0'.toNat)
    else if 'a' ≤ c && c ≤ 'f' then some (c.toNat - 'a'.toNat + 10)
    else if 'A' ≤ c && c ≤ 'F' then some (c.toNat - 'A'.toNat + 10)
    else none
  value?.filter (· < base)

/-- The number written by at most `limit` digits at the start, its length, and what follows. -/
def number (base limit : Nat) (cs : List Char) : Nat × Nat × List Char :=
  go 0 0 limit cs
where
  /-- `value` has been read from `length` digits, and `limit` more may follow. -/
  go (value length : Nat) : Nat → List Char → Nat × Nat × List Char
    | limit + 1, c :: rest =>
      match digitValue? base c with
      | some d => go (base * value + d) (length + 1) limit rest
      | none => (value, length, c :: rest)
    | _, cs => (value, length, cs)

/-- The character with a code point. Zero, halves of surrogate pairs and whatever lies beyond
    Unicode stand for the replacement character. -/
def codePoint (n : Nat) : Char :=
  if n ≠ 0 && n.isValidChar then Char.ofNat n else '\ufffd'

/-- The character reference that the characters start with, an ampersand first: its length, and
    what it stands for. -/
def reference? (cs : List Char) : Option (Nat × List Char) :=
  match cs with
  | '&' :: '#' :: rest =>
    let (start, (value, length, rest)) := match rest with
      | 'x' :: digits | 'X' :: digits => (3, number 16 6 digits)
      | digits => (2, number 10 7 digits)
    match rest with
    | ';' :: _ => if length = 0 then none else some (start + length + 1, [codePoint value])
    | _ => none
  | '&' :: rest =>
    let name := rest.takeWhile Char.isAlphanum
    match rest.drop name.length with
    | ';' :: _ => (namedEntity? name).map fun value => (name.length + 2, value)
    | _ => none
  | _ => none

/-- Decodes escapes and references, and drops carriage returns. `skip` characters of the rest
    belong to what has been decoded. -/
def unescapeFrom (inTable : Bool) : Nat → List Char → List Char
  | _, [] => []
  | skip + 1, _ :: rest => unescapeFrom inTable skip rest
  | 0, c :: rest =>
    if c = '\\' then
      match rest with
      | '\\' :: '|' :: _ =>
        if inTable then '|' :: unescapeFrom inTable 2 rest
        else '\\' :: unescapeFrom inTable 1 rest
      | d :: _ =>
        if Text.isAsciiPunctuation d then d :: unescapeFrom inTable 1 rest
        else c :: unescapeFrom inTable 0 rest
      | [] => [c]
    else if c = '&' then
      match reference? (c :: rest) with
      | some (length, value) => value ++ unescapeFrom inTable (length - 1) rest
      | none => c :: unescapeFrom inTable 0 rest
    else if c = '\r' then unescapeFrom inTable 0 rest
    else c :: unescapeFrom inTable 0 rest

/-- The text with its escapes and references decoded. -/
def unescape (inTable : Bool) (cs : List Char) : List Char :=
  unescapeFrom inTable 0 cs

end Anchormark.Markdown
