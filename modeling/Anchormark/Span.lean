import Anchormark.Text.Offset

/-!
# Spans

A span is the range of bytes in the source text that a piece of a document came from. Its ends
are plain numbers: a span may be inverted or reach past the text, and the operations here say
what that means instead of forbidding it.

## Main definitions

* `Span`: the range from `start` up to `stop`.
* `Span.size`: its length in bytes.
* `Span.cover`: the smallest span around two.
* `Span.slice?`: the text it denotes.
-/

namespace Anchormark

/-- The bytes from `start` up to, not including, `stop`. -/
structure Span where
  start : Nat
  stop : Nat
  deriving DecidableEq, Repr, Inhabited

namespace Span

/-- Length in bytes. An inverted span has length zero. -/
def size (s : Span) : Nat :=
  s.stop - s.start

/-- The span holds no byte. -/
def isEmpty (s : Span) : Bool :=
  s.size = 0

/-- The smallest span that covers both. -/
def cover (a b : Span) : Span :=
  ⟨min a.start b.start, max a.stop b.stop⟩

/-- The part of `source` that the span denotes; `none` when the span is inverted, reaches past the
    end, or cuts a character. -/
def slice? (s : Span) (source : String) : Option String :=
  Text.slice? s.start s.stop source

/-- Spans are ordered by where they start, then by where they stop. -/
def order (a b : Span) : Ordering :=
  (compare a.start b.start).then (compare a.stop b.stop)

end Span

end Anchormark
