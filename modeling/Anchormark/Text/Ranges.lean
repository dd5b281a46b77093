/-!
# Ranges of Code Points

Character classes of Unicode are given as tables of closed ranges in increasing order. Looking a
code point up stops at the first range that begins beyond it.

## Main definitions

* `inRanges`: membership of a code point in such a table.
-/

namespace Anchormark.Text

/-- The code point `n` lies in one of the ranges, which are closed and in increasing order. -/
def inRanges (n : Nat) : List (Nat × Nat) → Bool
  | [] => false
  | (first, last) :: rest => if n < first then false else n ≤ last || inRanges n rest

end Anchormark.Text
