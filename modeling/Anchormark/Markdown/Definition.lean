import Anchormark.Markdown.Block
import Anchormark.Markdown.Interrupt

/-!
# Link Reference Definitions

`[label]: destination "title"` at the beginning of a paragraph defines what a label refers to. The
parts may stand on lines of their own, with no blank line between them and nothing that would end
a paragraph. A title that turns out to be malformed is no title if it begins on a line of its own,
and otherwise makes the whole line ordinary text.

## Main definitions

* `definition?`: the definition that the characters begin with.
-/

namespace Anchormark.Markdown

namespace LineSite

/-- Takes blanks with at most `limit` line endings among them. Answers how many there were, and
    what follows. The end of the text counts as blank lines without end. -/
def gap? (site : LineSite) : (limit : Nat) → List Char → Option (Nat × List Char)
  | limit, cs =>
    let cs := cs.dropWhile Text.isLineBlank
    match lineEnd? cs, limit with
    | none, _ => some (0, cs)
    | some _, 0 => none
    | some length, limit + 1 =>
      match cs.drop length with
      | [] => none
      | below =>
        (site.continuation? true below).bind fun margin =>
          (site.gap? limit (below.drop margin)).map fun (n, rest) => (n + 1, rest)
termination_by limit => limit

/-- The margin and indentation of a line inside the title of a definition, which must not be
    blank. -/
def titleMargin? (site : LineSite) (cs : List Char) : Option Nat :=
  (site.continuation? false cs).bind fun margin =>
    let line := cs.drop margin
    if (blankLine? line).isSome then none
    else some (margin + countWhile (fun c => c = ' ' || c = '\t') line)

/-- The definition that the characters begin with: its label, what it defines, and what follows
    it. -/
def definition? (site : LineSite) (cs : List Char) :
    Option (List Char × Definition × List Char) := do
  let (label, rest) ← bracketedLabel? (site.continuation? false) false cs
  let rest ← match rest with
    | ':' :: rest => some rest
    | _ => none
  let (_, start) ← site.gap? 1 rest
  let (url, behind) ← destination? start
  -- A destination is never empty, and white space stands before a title.
  guard (behind.length < start.length)
  let untitled := (labelKey label, { url := unescape false url, title := [] : Definition }, behind)
  match site.gap? 1 behind with
  | none => return untitled
  | some (breaks, start) =>
    guard (start.length < behind.length)
    match definitionTitle? site.titleMargin? start with
    | some (title, rest) =>
      if (blankLine? rest).isSome then
        return (labelKey label,
          { url := unescape false url, title := unescape false title : Definition }, rest)
      -- On a line of its own, what is no title is the first line of a paragraph.
      else if 0 < breaks then return untitled
      else none
    | none => if 0 < breaks then return untitled else none

end LineSite

end Anchormark.Markdown
