import Anchormark.Markdown.Document
import Anchormark.Proofs.Anchor.Identifiers
import Anchormark.Proofs.Note.Basic
import Anchormark.Render.Builtin

/-!
# How a Note Is Written

A sign is written as an atom: a character as it stands, a character behind a backslash, or an anchor
with its identifier in a block. Which characters get a backslash is what the renderer decides, once
for the characters of a text and once for the starts of lines. Here it is said for signs, so that it
stays known what each part of a line stands for.

The renderer does not see everything that reading could take for markup. It leaves tildes, vertical
bars, character references and underlines of equals signs as they are, and it does not look behind
an exclamation mark. A line where none of this matters is *readable*, and a note all of whose lines
are readable is *sound*. That is a question about what is written, so it can be decided.

## Main definitions

* `Atom`, `Atom.written`, `spell`: a sign as it is written, and a line of them.
* `atoms`, `lineAtoms`: the atoms of a line, without and with its start made safe.
* `Note.written`: the Markdown of a note.
* `isInert`, `readsBack`: what is no markup within a line.
* `beginsText`, `endsText`: no block begins with the line, and no blank ends it.
* `IsTextLine`, `IsTitle`: lines that are read back.
* `Note.IsSound`: a note that is read back.
-/

namespace Anchormark

/-- What a sign is written as: a character, bare or behind a backslash, or an anchor. -/
inductive Atom
  | bare (c : Char)
  | escaped (c : Char)
  | anchor (id : String)
  deriving DecidableEq, Repr

/-- The block that declares an identifier. -/
def idChars (id : String) : List Char :=
  '\x7b' :: '#' :: (id.toList ++ ['\x7d'])

namespace Atom

/-- What the atom stands for. -/
def sign : Atom → Sign
  | bare c | escaped c => .char c
  | anchor id => .anchor id

/-- The characters of the atom. -/
def written : Atom → List Char
  | bare c => [c]
  | escaped c => ['\\', c]
  | anchor id => '[' :: ']' :: '(' :: ')' :: idChars id

end Atom

/-- The characters of several atoms. -/
def spell (as : List Atom) : List Char :=
  as.flatMap Atom.written

/-- The character gets a backslash wherever it stands. An underscore inside a word gets none. -/
def mustEscape (before : Option Char) (c : Char) (next : Option Char) : Bool :=
  if c = '_' then !Escape.isIntraword before next else Escape.isAlwaysEscaped c

/-- A character between two others, as it is written. -/
def ofChar (before : Option Char) (c : Char) (next : Option Char) : Atom :=
  if mustEscape before c next then .escaped c else .bare c

/-- The atoms of some signs. `before` is the character before them, if it belongs to the same
    text. -/
def atoms (before : Option Char) : List Sign → List Atom
  | [] => []
  | .char c :: rest => ofChar before c (Sign.lead rest).head? :: atoms (some c) rest
  | .anchor id :: rest => .anchor id :: atoms none rest

/-- The atoms behind the first digits of a line, with the mark escaped that would make a number out
    of these. -/
def escapeNumber : List Atom → List Atom
  | .bare c :: rest =>
    if c.isDigit then .bare c :: escapeNumber rest
    else if (c = '.' || c = ')') && Escape.endsMarker (spell rest) then .escaped c :: rest
    else .bare c :: rest
  | as => as

/-- The atoms of a line, with the first character escaped that would begin a block. -/
def escapeStart : List Atom → List Atom
  | .bare c :: rest =>
    if c = '#' || c = '>' then .escaped c :: rest
    else if (c = '-' || c = '+') && Escape.endsMarker (spell rest) then .escaped c :: rest
    else if c.isDigit then .bare c :: escapeNumber rest
    else .bare c :: rest
  | as => as

/-- A line of a paragraph. -/
def lineAtoms (line : List Sign) : List Atom :=
  escapeStart (atoms none line)

/-- The characters of several lines, with a margin before all of them but the first. -/
def spellLines (margin : Nat) (lines : List (List Atom)) : List Char :=
  Text.joinWith ('\n' :: List.replicate margin ' ') (lines.map spell)

/-- A paragraph, with a margin before all lines but the first. -/
def writtenLines (margin : Nat) (lines : List (List Sign)) : List Char :=
  spellLines margin (lines.map lineAtoms)

/-- The marker of an item. -/
def markerChars (o : RenderOptions) (first : Option Nat) (i : Nat) : List Char :=
  (Builtin.itemMarker o first.isSome first i).toList

/-- The column at which the text of an item begins. -/
def itemColumn (o : RenderOptions) (first : Option Nat) (spread : Bool) (i : Nat) : Nat :=
  Builtin.contentColumn o spread (markerChars o first i).length

/-- An item: the marker, blanks up to the column, and the text. -/
def writtenItem (o : RenderOptions) (first : Option Nat) (spread : Bool) (i : Nat)
    (lines : List (List Sign)) : List Char :=
  let marker := markerChars o first i
  let column := itemColumn o first spread i
  marker ++ List.replicate (column - marker.length) ' ' ++ writtenLines column lines

/-- The items of a list, the first of which has index `i`. -/
def writtenItems (o : RenderOptions) (first : Option Nat) (spread : Bool) (i : Nat) :
    List (List (List Sign)) → List (List Char)
  | [] => []
  | lines :: rest => writtenItem o first spread i lines :: writtenItems o first spread (i + 1) rest

/-- What stands between two items. -/
def itemGap (spread : Bool) : List Char :=
  if spread then ['\n', '\n'] else ['\n']

/-- The Markdown of a block. -/
def NoteBlock.written (o : RenderOptions) : NoteBlock → List Char
  | paragraph lines => writtenLines 0 lines
  | heading depth line => List.replicate depth '#' ++ ' ' :: spell (atoms none line)
  | rule => ['*', '*', '*']
  | list first spread items =>
    Text.joinWith (itemGap spread) (writtenItems o first spread 0 items)

/-- The Markdown of a note. -/
def Note.written (o : RenderOptions) (note : Note) : List Char :=
  if note.isEmpty then []
  else Text.joinWith ['\n', '\n'] (note.map (NoteBlock.written o)) ++ ['\n']

/-- The character is part of a word. -/
def inWord (c : Char) : Bool :=
  !Text.isBlank c && !Text.isPunctuation c

/-- The character `c` of a line is no markup, with `before` before it and the characters `rest`
    behind it. -/
def isInert (before : Option Char) (c : Char) (rest : List Char) : Bool :=
  if c = '_' || c = '~' then before.any inWord && rest.head?.any inWord
  else if c = '&' then (rest.dropWhile fun d => d.isAlphanum || d = '#').head? ≠ some ';'
  else if c = '!' then rest.head? ≠ some '['
  else c ∉ ['\n', '\r', '\\', '*', '\x60', '<', '[', ']', '|']

/-- None of the characters `cs` is markup, with `rest` behind them. -/
def areInert (before : Option Char) : (cs rest : List Char) → Bool
  | [], _ => true
  | c :: cs, rest => isInert before c (cs ++ rest) && areInert (some c) cs rest

/-- Nothing in the line is markup, but for its anchors. -/
def readsBack : (before : Option Char) → List Atom → Bool
  | _, [] => true
  | before, .bare c :: rest => isInert before c (spell rest) && readsBack (some c) rest
  | _, .escaped c :: rest => Text.isAsciiPunctuation c && readsBack (some c) rest
  | _, .anchor id :: rest =>
    areInert (some ')') (idChars id) (spell rest) && readsBack (some '\x7d') rest

/-- No block begins with the line, nor does it underline the line before. -/
def beginsText : List Atom → Bool
  | [] => false
  | .bare c :: rest =>
    !Text.isLineBlank c && c ∉ ['#', '>', '='] &&
      (c ≠ '-' || (spell rest).head?.any fun d => d ≠ '-' && !Text.isLineBlank d) &&
      (Markdown.listMarker? (c :: spell rest)).isNone
  | _ => true

/-- The line does not end with a blank. -/
def endsText (as : List Atom) : Bool :=
  !(spell as).getLast?.any Text.isLineBlank

/-- A line of a paragraph or an item that is read back. -/
structure IsTextLine (line : List Sign) : Prop where
  reads : readsBack none (lineAtoms line) = true
  begins : beginsText (lineAtoms line) = true
  ends : endsText (lineAtoms line) = true

instance (line : List Sign) : Decidable (IsTextLine line) :=
  decidable_of_iff (readsBack none (lineAtoms line) = true ∧ beginsText (lineAtoms line) = true ∧
      endsText (lineAtoms line) = true)
    ⟨fun ⟨reads, begins, ends⟩ => ⟨reads, begins, ends⟩, fun h => ⟨h.reads, h.begins, h.ends⟩⟩

/-- The line of a heading that is read back: it has no blanks at its ends, and no marks that would
    close the heading. -/
structure IsTitle (line : List Sign) : Prop where
  reads : readsBack none (atoms none line) = true
  begins : (spell (atoms none line)).head?.any (!Text.isLineBlank ·) = true
  ends : endsText (atoms none line) = true
  open_ : Markdown.Document.headingLength (spell (atoms none line)) =
    (spell (atoms none line)).length

instance (line : List Sign) : Decidable (IsTitle line) :=
  decidable_of_iff (readsBack none (atoms none line) = true ∧
      (spell (atoms none line)).head?.any (!Text.isLineBlank ·) = true ∧
      endsText (atoms none line) = true ∧
      Markdown.Document.headingLength (spell (atoms none line)) =
        (spell (atoms none line)).length)
    ⟨fun ⟨reads, begins, ends, open_⟩ => ⟨reads, begins, ends, open_⟩,
      fun h => ⟨h.reads, h.begins, h.ends, h.open_⟩⟩

/-- Running text that is read back if its lines are: the identifiers fit into blocks, and no text
    begins or ends with a block of its own. -/
structure IsRun (signs : List Sign) : Prop where
  ids : ∀ m ∈ Sign.marked signs, IsAnchorId m.1
  free : ∀ cs ∈ Sign.texts signs, Escape.blockBraces cs = []

instance (signs : List Sign) : Decidable (IsRun signs) :=
  decidable_of_iff ((∀ m ∈ Sign.marked signs, IsAnchorId m.1) ∧
      ∀ cs ∈ Sign.texts signs, Escape.blockBraces cs = [])
    ⟨fun ⟨ids, free⟩ => ⟨ids, free⟩, fun h => ⟨h.ids, h.free⟩⟩

/-- Lines of a paragraph or an item that are read back. -/
structure IsPassage (lines : List (List Sign)) : Prop where
  full : lines ≠ []
  each : ∀ line ∈ lines, IsTextLine line
  run : IsRun (Sign.joined lines)

instance (lines : List (List Sign)) : Decidable (IsPassage lines) :=
  decidable_of_iff (lines ≠ [] ∧ (∀ line ∈ lines, IsTextLine line) ∧ IsRun (Sign.joined lines))
    ⟨fun ⟨full, each, run⟩ => ⟨full, each, run⟩, fun h => ⟨h.full, h.each, h.run⟩⟩

/-- A block that is read back. A list is spread only if there are items to stand apart, and numbers
    have at most nine digits. -/
def NoteBlock.IsSound : NoteBlock → Prop
  | paragraph lines => IsPassage lines
  | heading depth line => 1 ≤ depth ∧ depth ≤ 6 ∧ IsTitle line ∧ IsRun line
  | rule => True
  | list first spread items =>
    items ≠ [] ∧ (spread = true → 2 ≤ items.length) ∧
      (∀ n ∈ first, n + items.length ≤ 10 ^ 9) ∧ ∀ lines ∈ items, IsPassage lines

instance : (e : NoteBlock) → Decidable e.IsSound
  | .paragraph lines => inferInstanceAs (Decidable (IsPassage lines))
  | .heading _ _ | .list _ _ _ => inferInstanceAs (Decidable (_ ∧ _))
  | .rule => inferInstanceAs (Decidable True)

/-- A note that is read back: so are its blocks, and no two lists become one. -/
structure Note.IsSound (note : Note) : Prop where
  entries : ∀ e ∈ note, e.IsSound
  apart : note.IsChain fun a b => ¬ a.Joins b

instance (note : Note) : Decidable note.IsSound :=
  decidable_of_iff ((∀ e ∈ note, e.IsSound) ∧ note.IsChain fun a b => ¬ a.Joins b)
    ⟨fun ⟨entries, apart⟩ => ⟨entries, apart⟩, fun h => ⟨h.entries, h.apart⟩⟩

end Anchormark
