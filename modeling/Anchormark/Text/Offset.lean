/-!
# Byte Offsets

Positions in a text are counted in bytes of its UTF-8 form, while the text itself is handled
character by character. This module holds the passage between the two: how many bytes a run of
characters takes, and how to cut a text at a byte offset.

An offset can miss: it may lie past the end, or inside a character. Cutting answers `none` in
both cases, so a slice is either exactly the bytes asked for or nothing.

## Main definitions

* `byteLength`: bytes of a list of characters.
* `cut?`: a list of characters cut at a byte offset.
* `slice?`: the part of a text between two byte offsets.
-/

namespace Anchormark.Text

/-- Bytes that the characters take in UTF-8. -/
def byteLength : List Char → Nat
  | [] => 0
  | c :: rest => c.utf8Size + byteLength rest

/-- Bytes that a text takes in UTF-8. -/
def size (s : String) : Nat :=
  byteLength s.toList

/-- Cuts the characters at byte offset `n`; `none` when `n` lies past the end or inside a
    character. -/
def cut? : Nat → List Char → Option (List Char × List Char)
  | 0, cs => some ([], cs)
  | _ + 1, [] => none
  | n + 1, c :: rest =>
    if c.utf8Size ≤ n + 1 then
      (cut? (n + 1 - c.utf8Size) rest).map fun (front, back) => (c :: front, back)
    else
      none

/-- The characters from byte `start` up to byte `stop`, if both offsets fall between characters
    and are in order. -/
def sliceChars? (start stop : Nat) (cs : List Char) : Option (List Char) := do
  guard (start ≤ stop)
  let (_, back) ← cut? start cs
  let (middle, _) ← cut? (stop - start) back
  return middle

/-- The part of `s` from byte `start` up to byte `stop`. -/
def slice? (start stop : Nat) (s : String) : Option String :=
  (sliceChars? start stop s.toList).map String.ofList

/-- `marker` taken off the front of the characters. -/
def stripFront? : List Char → List Char → Option (List Char)
  | [], cs => some cs
  | _ :: _, [] => none
  | m :: marker, c :: cs => if m = c then stripFront? marker cs else none

/-- `part` stands somewhere in the characters. -/
def hasInfix (part : List Char) : List Char → Bool
  | [] => part.isEmpty
  | c :: cs => part.isPrefixOf (c :: cs) || hasInfix part cs

@[simp] theorem byteLength_nil : byteLength [] = 0 := rfl

@[simp] theorem byteLength_cons (c : Char) (cs : List Char) :
    byteLength (c :: cs) = c.utf8Size + byteLength cs := rfl

@[simp] theorem byteLength_append (cs ds : List Char) :
    byteLength (cs ++ ds) = byteLength cs + byteLength ds := by
  induction cs with
  | nil => simp
  | cons c cs ih => simp [ih, Nat.add_assoc]

/-- Cutting behind a front gives that front back. -/
theorem cut?_byteLength (front back : List Char) :
    cut? (byteLength front) (front ++ back) = some (front, back) := by
  induction front with
  | nil => cases back <;> rfl
  | cons c front ih =>
    obtain ⟨n, hn⟩ : ∃ n, c.utf8Size + byteLength front = n + 1 :=
      ⟨c.utf8Size + byteLength front - 1, by have := c.utf8Size_pos; omega⟩
    have hle : c.utf8Size ≤ n + 1 := by omega
    have hsub : n + 1 - c.utf8Size = byteLength front := by omega
    simp [hn, cut?, hle, hsub, ih]

end Anchormark.Text
