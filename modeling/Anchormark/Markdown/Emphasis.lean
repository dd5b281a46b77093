import Anchormark.Markdown.Inline

/-!
# Emphasis

The second pass over running text pairs runs of emphasis marks. Runs that can open emphasis wait on
a stack. A run that can close it looks for the nearest waiting run of the same mark, and the two
take as many marks from each other as they can, two at a time for strong emphasis and one for
plain, from the inside out. Runs that wait in between are text.

Two runs do not pair when one of them could both open and close and their lengths add up to a
multiple of three, unless both are such multiples. Tildes pair only with as many tildes. A run of
tildes that found no partner hides all runs before it from later tildes.

Pairing happens among siblings. The text of a link is a list of siblings of its own.

## Main definitions

* `OpenMarks`: a run that waits for its partner.
* `pairMarks`: pairs the runs among siblings.
* `settleEmphasis`: the second pass.
-/

namespace Anchormark.Markdown

/-- A run of marks that waits for its partner. -/
structure OpenMarks where
  mark : Char
  /-- The run could both open and close. -/
  both : Bool
  /-- Length of the whole run. -/
  run : Nat
  /-- Where the marks that are left begin, and how many they are. -/
  start : Nat
  count : Nat
  /-- What stands behind it, newest first. -/
  items : List Inline := []

/-- The runs that wait, innermost first, and what stands before them, newest first. -/
structure MarkState where
  waiting : List OpenMarks := []
  items : List Inline := []
  /-- As many runs, counted from the outermost, are hidden from tildes. -/
  hidden : Nat := 0

/-- Marks that are text, with what goes with the last of them. -/
def markText (mark : Char) (start count : Nat) (tail : List Char) : Inline :=
  .leaf start (start + count + tail.length)
    (.text (String.ofList (List.replicate count mark ++ tail)))

namespace MarkState

/-- Adds running text behind the innermost run that waits. -/
def addAll (s : MarkState) (newestFirst : List Inline) : MarkState :=
  match s.waiting with
  | [] => { s with items := newestFirst ++ s.items }
  | top :: rest => { s with waiting := { top with items := newestFirst ++ top.items } :: rest }

/-- Adds one element behind the innermost run that waits. -/
def add (s : MarkState) (item : Inline) : MarkState :=
  s.addAll [item]

end MarkState

/-- A closing run of length `run` pairs with a waiting one. -/
def pairs (mark : Char) (run : Nat) (both : Bool) (o : OpenMarks) : Bool :=
  o.mark = mark && (mark ≠ '~' || o.run = run) &&
    ((!both && !o.both) || (run + o.run) % 3 ≠ 0 || run % 3 = 0)

/-- The element that one or two marks make. -/
def markTag (mark : Char) (two : Bool) : Tag :=
  if mark = '~' then .strikethrough else if two then .strong else .emphasis

/-- Puts `count` marks on either side around running text: two at a time from the inside, and the
    last one alone. The text stands from character `start` up to character `stop`, and the outermost
    mark behind it has a tail of the given length. -/
def wrap (mark : Char) (tail : Nat) : (count start stop : Nat) → List Inline → List Inline
  | 0, _, _, children => children
  | 1, start, stop, children =>
    [.group (start - 1) (stop + 1 + tail) (markTag mark false) children]
  | count + 2, start, stop, children =>
    let last := if count = 0 then stop + 2 + tail else stop + 2
    wrap mark tail count (start - 2) (stop + 2)
      [.group (start - 2) last (markTag mark true) children]

/-- The innermost of the waiting runs that satisfies `p`; the running text behind it, newest first,
    in which the runs in between are text; and the runs around it. -/
def findOpen? (p : OpenMarks → Bool) :
    List OpenMarks → Option (OpenMarks × List Inline × List OpenMarks)
  | [] => none
  | o :: rest =>
    if p o then some (o, o.items, rest)
    else
      (findOpen? p rest).map fun (found, items, around) =>
        (found, o.items ++ markText o.mark o.start o.count [] :: items, around)

/-- Pairs a closing run, of which `count` marks are left from character `i` on, with waiting runs
    for as long as it finds any. Behind the last mark is a tail of the given length. Answers how
    many marks are left at last. -/
def closeMarks (mark : Char) (run tail : Nat) (both : Bool) :
    (limit : Nat) → MarkState → (count i : Nat) → MarkState × Nat
  | 0, s, count, _ => (s, count)
  | limit + 1, s, count, i =>
    let visible := s.waiting.length - (if mark = '~' then s.hidden else 0)
    match findOpen? (pairs mark run both) (s.waiting.take visible) with
    | none =>
      (if mark = '~' then { s with hidden := s.waiting.length } else s, count)
    | some (o, items, around) =>
      let around := around ++ s.waiting.drop visible
      let used := min count o.count
      let behind := if used = count then tail else 0
      let group := wrap mark behind used (o.start + o.count) i items.reverse
      let s := { s with waiting := around, hidden := min s.hidden around.length }
      let s := if used < o.count then
          { s with waiting := { o with count := o.count - used, items := group } :: around }
        else s.addAll group
      if used < count then closeMarks mark run tail both limit s (count - used) (i + used)
      else (s, 0)

/-- Pairs the runs among siblings, from left to right. A run with a tail is the last of them, so it
    does not wait for another one. -/
def pairFrom (s : MarkState) : List Inline → MarkState
  | [] => s
  | .marks start mark run tail opens closes :: rest =>
    let both := opens && closes
    let (s, count) :=
      if closes then closeMarks mark run tail.length both run s run start else (s, run)
    let left := start + run - count
    let s :=
      if count = 0 then s
      else if opens && tail.isEmpty then
        { s with waiting := { mark, both, run, start := left, count } :: s.waiting }
      else s.add (markText mark left count tail)
    pairFrom s rest
  | item :: rest => pairFrom (s.add item) rest

/-- All of the waiting runs are text. -/
def closeAll (s : MarkState) : List Inline :=
  (s.waiting.flatMap fun o => o.items ++ [markText o.mark o.start o.count []]) ++ s.items

/-- The last of several siblings is no hard break if a backslash makes it: the backslash is text. -/
def endBackslash : List Inline → List Inline
  | [] => []
  | [.hardBreak start stop true] => [.leaf start stop (.text "\\")]
  | item :: rest => item :: endBackslash rest

/-- The element is a run of marks. -/
def Inline.isMarks : Inline → Bool
  | .marks .. => true
  | _ => false

/-- Pairs the runs among siblings. Where nothing may be `markup`, a hard break at the end stays. -/
def pairMarks (markup : Bool) (items : List Inline) : List Inline :=
  (closeAll (pairFrom {} (if markup then endBackslash items else items))).reverse

mutual

/-- Pairs the runs inside an element. -/
def Inline.settle : Inline → Inline
  | .group start stop tag children =>
    .group start stop tag (pairMarks (children.any Inline.isMarks) (settleAll children))
  | .leaf start stop event => .leaf start stop event
  | .hardBreak start stop backslash => .hardBreak start stop backslash
  | .marks start mark count tail opens closes => .marks start mark count tail opens closes

/-- Pairs the runs inside each of several elements. -/
def settleAll : List Inline → List Inline
  | [] => []
  | item :: rest => item.settle :: settleAll rest

end

/-- The running text of a block with its emphasis settled. `markup` says that the block had pieces
    that may be markup. -/
def settleEmphasis (markup : Bool) (items : List Inline) : List Inline :=
  pairMarks markup (settleAll items)

end Anchormark.Markdown
