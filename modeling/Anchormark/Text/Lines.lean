/-!
# Lines

A text falls into lines at its line feeds. There is always at least one line, and joining the
lines with line feeds gives the text back.

## Main definitions

* `lines`: the lines of a text.
* `joinWith`: pieces with a separator between them.
* `unlines`: lines joined with line feeds.
-/

namespace Anchormark.Text

/-- The lines of the characters, without their line feeds. -/
def lines : List Char → List (List Char)
  | [] => [[]]
  | c :: rest =>
    if c = '\n' then [] :: lines rest
    else match lines rest with
      | [] => [[c]]
      | line :: others => (c :: line) :: others

/-- The pieces, with `separator` between each two. -/
def joinWith (separator : List Char) : List (List Char) → List Char
  | [] => []
  | [piece] => piece
  | piece :: next :: rest => piece ++ separator ++ joinWith separator (next :: rest)

/-- The lines joined with line feeds. -/
def unlines (ls : List (List Char)) : List Char :=
  joinWith ['\n'] ls

theorem lines_ne_nil (cs : List Char) : lines cs ≠ [] := by
  cases cs with
  | nil => simp [lines]
  | cons c rest =>
    simp only [lines]
    split
    · simp
    · split <;> simp

/-- No character is lost between lines. -/
theorem unlines_lines (cs : List Char) : unlines (lines cs) = cs := by
  induction cs with
  | nil => rfl
  | cons c rest ih =>
    rw [lines]
    cases h : lines rest with
    | nil => exact absurd h (lines_ne_nil rest)
    | cons line others =>
      rw [h] at ih
      split
      · next hc => rw [hc, ← ih]; rfl
      · rw [← ih]; cases others <;> rfl

end Anchormark.Text
