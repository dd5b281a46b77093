import Anchormark.Text.Blank

/-!
# Margins

The beginning of a line decides which of the open containers it continues: a block quote wants its
marker, a list item wants its content column to be reached. This module reads that beginning.

Indentation is measured in columns, and a tab reaches to the next tab stop. It can be spent in
parts: a container may take two of its columns and leave the others to the content. A margin
therefore remembers the columns of the last tab that are still owed.

## Main definitions

* `Container`: an open container, as a line's beginning sees it.
* `Margin`: a place at the beginning of a line.
* `Margin.skip`: takes columns of indentation.
* `Margin.enter`: takes what continues the open containers.
-/

namespace Anchormark.Markdown

/-- An open container, as the beginning of a line sees it. -/
inductive Container
  | quote
  /-- A list asks nothing of a line; its items do. -/
  | list
  /-- An item, whose content begins `indent` columns in. -/
  | item (indent : Nat)
  deriving DecidableEq, Repr

/-- A place at the beginning of a line. -/
structure Margin where
  /-- What is still to be read. It runs to the end of the text. -/
  rest : List Char
  /-- Characters taken so far. -/
  taken : Nat := 0
  /-- Characters taken up to and including the last tab. -/
  tab : Nat := 0
  /-- Columns of the last tab that have not been spent. -/
  owed : Nat := 0

namespace Margin

/-- Takes up to `n` columns of blanks from the characters. -/
def skipFrom (m : Margin) : Nat → List Char → Margin × Nat
  | 0, _ => (m, 0)
  | n + 1, ' ' :: rest => skipFrom { m with rest, taken := m.taken + 1 } n rest
  | n + 1, '\t' :: rest =>
    let width := 4 - (m.taken - m.tab) % 4
    let taken := m.taken + 1
    skipFrom { rest, taken, tab := taken, owed := width - (n + 1) } (n + 1 - width) rest
  | n + 1, _ => (m, n + 1)

/-- Takes up to `n` columns, owed ones first. Answers the place behind them and how many columns
    were missing. -/
def skip (m : Margin) (n : Nat) : Margin × Nat :=
  let paid := min m.owed n
  let m := { m with owed := m.owed - paid }
  m.skipFrom (n - paid) m.rest

/-- Takes up to `n` columns and answers how many. -/
def indent (m : Margin) (n : Nat) : Margin × Nat :=
  let (m, missing) := m.skip n
  (m, n - missing)

/-- Takes all blanks. -/
def skipBlanks (m : Margin) : Margin :=
  let isBlank (c : Char) : Bool := c = ' ' || c = '\t'
  { m with
    rest := m.rest.dropWhile isBlank
    taken := m.taken + (m.rest.takeWhile isBlank).length
    owed := 0 }

/-- Takes one character, if it is `c`. -/
def take? (m : Margin) (c : Char) : Option Margin :=
  match m.rest with
  | d :: rest => if d = c then some { m with rest, taken := m.taken + 1 } else none
  | [] => none

/-- The line, or the text, ends here. -/
def atLineEnd (m : Margin) : Bool :=
  match m.rest with
  | [] => true
  | c :: _ => c = '\n' || c = '\r'

/-- Takes the marker of a block quote, and one column behind it if there is one. -/
def quoteMarker? (m : Margin) : Option Margin :=
  (m.take? '>').map fun m => (m.skip 1).1

/-- Takes what continues a container. -/
def enterOne? (m : Margin) : Container → Option Margin
  | .quote => (m.skip 3).1.quoteMarker?
  | .list => some m
  | .item indent =>
    match m.skip indent with
    | (after, 0) => some after
    | (after, _) => if after.atLineEnd then some after else none

/-- Takes what continues the containers, outermost first, up to the first one that the line does
    not continue. Answers how many it continues. -/
def enter (m : Margin) : List Container → Margin × Nat
  | [] => (m, 0)
  | c :: rest =>
    match m.enterOne? c with
    | none => (m, 0)
    | some inside =>
      let (m, n) := enter inside rest
      (m, n + 1)

/-- Takes what continues the containers. Answers whether the line continues all of them. -/
def enterAll (m : Margin) (containers : List Container) : Margin × Bool :=
  let (m, n) := m.enter containers
  (m, n = containers.length)

end Margin

/-- How many characters of a line's beginning belong to the containers. -/
def marginLength (containers : List Container) (cs : List Char) : Nat :=
  ({ rest := cs : Margin }.enter containers).1.taken

end Anchormark.Markdown
