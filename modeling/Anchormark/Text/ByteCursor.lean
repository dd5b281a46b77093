/-!
# Byte Cursors

A cursor reads a text byte by byte and knows where it stands in a larger text around it: its
position is the offset of its own text, `base`, plus the bytes read so far.

## Main definitions

* `ByteCursor`: a text with a place in it.
* `ByteCursor.peek`, `next`, `eat`, `skipSpacing`, `takeUntil`: reading from there.
-/

namespace Anchormark.Text

/-- The bytes of a text and how many of them have been read. -/
structure ByteCursor where
  bytes : List UInt8
  base : Nat := 0
  index : Nat := 0

namespace ByteCursor

/-- A cursor at the start of `s`, which itself starts at byte `base`. -/
def ofString (s : String) (base : Nat := 0) : ByteCursor :=
  { bytes := s.toUTF8.toList, base }

/-- The position in the text around. -/
def position (c : ByteCursor) : Nat :=
  c.base + c.index

/-- Nothing is left to read. -/
def atEnd (c : ByteCursor) : Bool :=
  c.bytes.length ≤ c.index

/-- The byte that comes next. -/
def peek (c : ByteCursor) : Option UInt8 :=
  c.bytes[c.index]?

/-- The byte that comes next, and the cursor behind it. At the end the cursor stays. -/
def next (c : ByteCursor) : Option UInt8 × ByteCursor :=
  match c.peek with
  | some b => (some b, { c with index := c.index + 1 })
  | none => (none, c)

/-- Steps over the next byte if it is `b`, and says whether it was. -/
def eat (c : ByteCursor) (b : UInt8) : Bool × ByteCursor :=
  if c.peek = some b then (true, { c with index := c.index + 1 }) else (false, c)

/-- Steps over all bytes that satisfy `p`. -/
def skipWhile (c : ByteCursor) (p : UInt8 → Bool) : ByteCursor :=
  { c with index := c.index + ((c.bytes.drop c.index).takeWhile p).length }

/-- Steps over tabs, line feeds, form feeds, carriage returns and spaces. -/
def skipSpacing (c : ByteCursor) : ByteCursor :=
  c.skipWhile fun b => b = 0x20 || b = 0x09 || b = 0x0a || b = 0x0c || b = 0x0d

/-- The text up to the first byte that satisfies `stop`, and the cursor before that byte. -/
def takeUntil (c : ByteCursor) (stop : UInt8 → Bool) : Option String × ByteCursor :=
  let taken := (c.bytes.drop c.index).takeWhile (!stop ·)
  (String.fromUTF8? ⟨taken.toArray⟩, { c with index := c.index + taken.length })

end ByteCursor

end Anchormark.Text
