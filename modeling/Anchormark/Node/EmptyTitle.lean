import Anchormark.Text.Blank

/-!
# Empty Link Titles

Events report a link without a title and a link whose title is empty in the same way. Only the
source of the link tells them apart: `[x](url '')` writes a title, `[x](url)` does not, and in
`[]("")` the quotes are the destination, because nothing separates them from the parenthesis.

## Main definitions

* `hasEmptyTitle`: the source of an inline link ends with an empty title.
-/

namespace Anchormark

namespace EmptyTitle

/-- What stands behind the last `](` of the characters, if there is one. -/
def behindLastOpening? : List Char → Option (List Char)
  | [] => none
  | c :: rest =>
    match behindLastOpening? rest with
    | some tail => some tail
    | none => match c, rest with
      | ']', '(' :: tail => some tail
      | _, _ => none

/-- The reversed characters begin with an empty pair of title delimiters and a blank behind it:
    read forwards, a blank and then an empty title. -/
def endsWithEmptyTitle : List Char → Bool
  | '"' :: '"' :: c :: _ | '\'' :: '\'' :: c :: _ | ')' :: '(' :: c :: _ => Text.isBlank c
  | _ => false

end EmptyTitle

/-- The source `raw` of an inline link ends with an empty title that is set apart from whatever
    stands before it. -/
def hasEmptyTitle (raw : List Char) : Bool :=
  match raw.reverse.dropWhile Text.isBlank with
  | ')' :: body =>
    match EmptyTitle.behindLastOpening? body.reverse with
    | some inner => EmptyTitle.endsWithEmptyTitle (inner.reverse.dropWhile Text.isBlank)
    | none => false
  | _ => false

end Anchormark
