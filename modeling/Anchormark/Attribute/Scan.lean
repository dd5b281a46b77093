import Anchormark.Attribute.Block
import Anchormark.Text.ByteCursor

/-!
# Scanning Bytes for a Block

A block can be read byte by byte, by a cursor over the text. The cursor does not know about
characters. All it looks for are ASCII bytes, and whatever lies between two of them is taken as a
slice of the text.

Three things could go wrong here that cannot when characters are read. A slice can begin or end
inside a character, which is not a slice then, the loop over the tokens need not end, and an offset
that is returned can lie inside a character. The first is a fault of its own, and the second is no
result, however many rounds the loop is given.

## Main definitions

* `BlockScanner.Fault`: why there is no block.
* `BlockScanner.Scanner`: what reads from a cursor, and moves it.
* `BlockScanner.round`, `BlockScanner.loop`: one token, and all of them.
* `BlockScanner.leading`, `BlockScanner.trailing`: the block at the start and at the end of a text,
  with its length and its offset.
-/

namespace Anchormark.BlockScanner

open Text (ByteCursor)
open AttributeBlock (declare declaration? isKey)

/-- Why there is no block. -/
inductive Fault
  /-- None is written there. -/
  | malformed
  /-- A slice does not lie between characters. -/
  | torn
  deriving DecidableEq, Repr

/-- Reads from a cursor, and moves it. -/
abbrev Scanner : Type → Type :=
  StateT ByteCursor (Except Fault)

/-- The byte of an ASCII character. -/
def byte (c : Char) : UInt8 :=
  c.toUInt8

/-- A word ends at ASCII white space and at the closing brace. -/
def endsWord (b : UInt8) : Bool :=
  b = byte ' ' || b = byte '\t' || b = byte '\n' || b = byte '\x0c' || b = byte '\r' ||
    b = byte '}'

variable (s : String)

/-- The slice up to a byte that satisfies `stop`, or up to the end. -/
def takeUntil (stop : UInt8 → Bool) : Scanner (List Char) := do
  let start := (← get).index
  modify fun c => (c.takeUntil stop).2
  match Text.sliceChars? start (← get).index s.toList with
  | some taken => return taken
  | none => throw .torn

/-- A bare word, without an opening brace in it. -/
def word : Scanner (List Char) := do
  let body ← takeUntil s endsWord
  if '{' ∈ body then throw .malformed else return body

/-- A value between two quotes, in front of the first one. -/
def quoted (quote : UInt8) : Scanner (List Char) := do
  modify fun c => c.next.2
  let body ← takeUntil s (· = quote)
  if ← modifyGet (·.eat quote) then return body else throw .malformed

/-- The value behind an equals sign: quoted, or a bare word. -/
def value : Scanner (List Char) := do
  match (← get).peek with
  | some b => if b = byte '"' || b = byte '\'' then quoted s b else word s
  | none => word s

/-- The value behind a key, which is empty without an equals sign. -/
def assigned : Scanner (List Char) := do
  if ← modifyGet (·.eat (byte '=')) then value s else return []

/-- What a round of the loop comes to. -/
inductive Round
  /-- The block is closed. -/
  | done (a : Attributes)
  /-- There may be more tokens. -/
  | onward (a : Attributes)
  deriving DecidableEq, Repr

/-- An identifier, in front of its sign. -/
def identifier (a : Attributes) : Scanner Round := do
  modify fun c => c.next.2
  let id ← word s
  return .onward (declare a (.id id))

/-- A class, in front of its sign. It has a name. -/
def className (a : Attributes) : Scanner Round := do
  modify fun c => c.next.2
  let name ← word s
  if name.isEmpty then throw .malformed else return .onward (declare a (.className name))

/-- A key, with its value if there is an equals sign. -/
def pair (a : Attributes) : Scanner Round := do
  let key ← takeUntil s fun b => endsWord b || b = byte '='
  if isKey key then
    let value ← assigned s
    match declaration? key value with
    | some token => return .onward (declare a token)
    | none => throw .malformed
  else throw .malformed

/-- One round: white space, and the closing brace or a token. -/
def round (a : Attributes) : Scanner Round := do
  modify ByteCursor.skipSpacing
  match (← get).peek with
  | none => throw .malformed
  | some b =>
    if b = byte '}' then
      modify fun c => c.next.2
      return .done a
    else if b = byte '{' then throw .malformed
    else if b = byte '#' then identifier s a
    else if b = byte '.' then className s a
    else pair s a

/-- Rounds until the block is closed or a fault is found. There is no result if neither happens in
    `limit` rounds. -/
def loop : (limit : Nat) → Attributes → ByteCursor →
    Option (Except Fault (Attributes × ByteCursor))
  | 0, _, _ => none
  | limit + 1, a, c =>
    match (round s a).run c with
    | .error fault => some (.error fault)
    | .ok (.done a, c) => some (.ok (a, c))
    | .ok (.onward a, c) => loop limit a c

/-- The cursor in front of the first token, behind the opening brace and an optional colon. -/
def opened? : Option ByteCursor :=
  match (ByteCursor.ofString s).eat (byte '{') with
  | (true, c) => some (c.eat (byte ':')).2
  | (false, _) => none

/-- The block that the text starts with, and how many bytes it has. -/
def leading (limit : Nat) : Option (Except Fault (Attributes × Nat)) :=
  match opened? s with
  | none => some (.error .malformed)
  | some c => (loop s limit {} c).map (·.map fun (a, c) => (a, c.position))

/-- The last place of a byte. -/
def lastIndex? (b : UInt8) : List UInt8 → Option Nat
  | [] => none
  | first :: rest =>
    match lastIndex? b rest with
    | some i => some (i + 1)
    | none => if first = b then some 0 else none

/-- The block that the text ends with, and the offset where it starts. -/
def trailing (limit : Nat) : Option (Except Fault (Attributes × Nat)) :=
  if s.toList.getLast? = some '}' then
    match lastIndex? (byte '{') s.toUTF8.toList with
    | none => some (.error .malformed)
    | some start =>
      match Text.slice? start (Text.size s) s with
      | none => some (.error .torn)
      | some block => (leading block limit).map fun
        | .ok (a, length) =>
          if start + length = Text.size s then .ok (a, start) else .error .malformed
        | .error fault => .error fault
  else some (.error .malformed)

end Anchormark.BlockScanner
