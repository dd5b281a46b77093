import Anchormark.Text.Blank
import Anchormark.Text.Offset

/-!
# Attribute Blocks

An attribute block is written in braces: `{#id .class key=value other="quoted value"}`, with an
optional colon right after the opening brace. It declares an identifier, by `#` or by the key
`id`, and any number of classes and key-value pairs. A block that is not closed, or in which any
token is malformed, is no block at all.

The first declaration of an identifier counts. It may be empty, which is well formed but of no
use: a usable identifier has a character that is not blank.

The scanner works on the characters that are still to be read. Each token leaves fewer of them,
which is why the scan ends, and what a successful scan returns is an end of what it was given, so
the block it read is a front of it.

## Main definitions

* `Attributes`: what a block declares.
* `AttributeBlock.leading?`: the block at the start of a text, and what follows it.
* `AttributeBlock.trailing?`: the block at the end of a text, and what stands before it.
-/

namespace Anchormark

/-- What an attribute block declares. -/
structure Attributes where
  id : Option String := none
  classes : List String := []
  pairs : List (String × String) := []
  deriving DecidableEq, Repr

namespace Attributes

/-- The identifier, if it has a character that is not blank. -/
def usableId (a : Attributes) : Option String :=
  a.id.filter fun id => !(Text.trim id.toList).isEmpty

end Attributes

namespace AttributeBlock

/-- A declaration in a block. -/
inductive Token
  | id (word : List Char)
  | className (word : List Char)
  | pair (key value : List Char)
  deriving DecidableEq, Repr

/-- A word ends at white space and at the closing brace. -/
def endsWord (c : Char) : Bool :=
  Text.isSpacing c || c = '}'

/-- A bare word and what follows it. An opening brace inside makes it malformed. -/
def word? (cs : List Char) : Option (List Char × List Char) :=
  let word := cs.takeWhile (!endsWord ·)
  if '{' ∈ word then none else some (word, cs.dropWhile (!endsWord ·))

/-- What a key may begin with. -/
def startsKey (c : Char) : Bool :=
  c.isAlpha || c = '_' || c = ':'

/-- What a key may go on with. -/
def continuesKey (c : Char) : Bool :=
  c.isAlphanum || c = '_' || c = ':' || c = '.' || c = '-'

/-- A well-formed key. -/
def isKey : List Char → Bool
  | [] => false
  | c :: rest => startsKey c && rest.all continuesKey

/-- The value behind an equals sign and what follows it: quoted, or a bare word. A quoted value
    holds anything but its quote. -/
def value? (cs : List Char) : Option (List Char × List Char) :=
  match cs with
  | '"' :: rest => quoted? '"' rest
  | '\'' :: rest => quoted? '\'' rest
  | _ => word? cs
where
  /-- The value up to the closing quote. -/
  quoted? (quote : Char) (cs : List Char) : Option (List Char × List Char) :=
    match cs.dropWhile (· ≠ quote) with
    | [] => none
    | _ :: rest => some (cs.takeWhile (· ≠ quote), rest)

/-- The identifier that the value of the key `id` declares: its first word, which must not hold a
    brace. -/
def idOfValue? (value : List Char) : Option (List Char) :=
  let word := (Text.firstWord? Text.isSpacing value).getD []
  if '{' ∈ word || '}' ∈ word then none else some word

/-- The characters that a key is read from: up to a word's end or an equals sign. -/
def inKey (c : Char) : Bool :=
  !endsWord c && c ≠ '='

/-- The value behind a key and what follows it. A key without an equals sign has the empty one. -/
def assigned? (cs : List Char) : Option (List Char × List Char) :=
  match cs with
  | '=' :: rest => value? rest
  | _ => some ([], cs)

/-- What a key with its value declares. -/
def declaration? (key value : List Char) : Option Token :=
  if key = ['i', 'd'] then (idOfValue? value).map Token.id else some (.pair key value)

/-- The token at the start of the characters and what follows it. -/
def token? (cs : List Char) : Option (Token × List Char) :=
  match cs with
  | '#' :: rest => (word? rest).map fun (word, rest) => (.id word, rest)
  | '.' :: rest => do
    let (word, rest) ← word? rest
    if word.isEmpty then none else some (.className word, rest)
  | _ =>
    -- Anything else is a key, and one that does not look like a key spoils the block.
    let key := cs.takeWhile inKey
    if isKey key then do
      let (value, rest) ← assigned? (cs.dropWhile inKey)
      let token ← declaration? key value
      return (token, rest)
    else none

theorem length_dropWhile_le (p : Char → Bool) (cs : List Char) :
    (cs.dropWhile p).length ≤ cs.length :=
  (List.dropWhile_sublist p).length_le

theorem length_of_word? {cs word rest : List Char} (h : word? cs = some (word, rest)) :
    rest.length ≤ cs.length := by
  simp only [word?] at h
  split at h
  · simp at h
  · simp only [Option.some.injEq, Prod.mk.injEq] at h
    exact h.2 ▸ length_dropWhile_le ..

theorem length_of_value? {cs value rest : List Char} (h : value? cs = some (value, rest)) :
    rest.length ≤ cs.length := by
  have quoted {quote : Char} {ds : List Char} (h : value?.quoted? quote ds = some (value, rest)) :
      rest.length ≤ ds.length := by
    have hle := length_dropWhile_le (· ≠ quote) ds
    simp only [value?.quoted?] at h
    split at h
    · simp at h
    · next heq =>
      simp only [Option.some.injEq, Prod.mk.injEq] at h
      rw [heq, h.2, List.length_cons] at hle
      omega
  unfold value? at h
  split at h
  · exact Nat.le_succ_of_le (quoted h)
  · exact Nat.le_succ_of_le (quoted h)
  · exact length_of_word? h

theorem length_of_assigned? {cs value rest : List Char}
    (h : assigned? cs = some (value, rest)) : rest.length ≤ cs.length := by
  unfold assigned? at h
  split at h
  · exact Nat.le_succ_of_le (length_of_value? h)
  · simp only [Option.some.injEq, Prod.mk.injEq] at h
    exact h.2 ▸ Nat.le_refl _

/-- A well-formed key takes at least one character. -/
theorem length_dropWhile_inKey {cs : List Char} (h : isKey (cs.takeWhile inKey) = true) :
    (cs.dropWhile inKey).length < cs.length := by
  cases cs with
  | nil => simp [isKey] at h
  | cons c cs =>
    by_cases hc : inKey c = true
    · rw [List.dropWhile_cons, if_pos hc]
      exact Nat.lt_succ_of_le (length_dropWhile_le ..)
    · rw [List.takeWhile_cons, if_neg hc] at h
      simp [isKey] at h

/-- A token takes at least one character. -/
theorem length_of_token? {cs rest : List Char} {t : Token} (h : token? cs = some (t, rest)) :
    rest.length < cs.length := by
  unfold token? at h
  split at h
  · simp only [Option.map_eq_some_iff, Prod.mk.injEq, Prod.exists] at h
    obtain ⟨word, rest', hw, -, rfl⟩ := h
    exact Nat.lt_succ_of_le (length_of_word? hw)
  · simp only [Option.bind_eq_bind, Option.bind_eq_some_iff, Prod.exists] at h
    obtain ⟨word, rest', hw, h⟩ := h
    split at h
    · cases h
    · simp only [Option.some.injEq, Prod.mk.injEq] at h
      exact h.2 ▸ Nat.lt_succ_of_le (length_of_word? hw)
  · dsimp only at h
    split at h
    · next hkey =>
      simp only [Option.bind_eq_bind, Option.pure_def, Option.bind_eq_some_iff,
        Option.some.injEq, Prod.mk.injEq, Prod.exists] at h
      obtain ⟨value, rest', hv, _, _, _, rfl⟩ := h
      exact Nat.lt_of_le_of_lt (length_of_assigned? hv) (length_dropWhile_inKey hkey)
    · cases h

/-- The tokens up to the closing brace, and what follows the brace. -/
def tokens? (cs : List Char) : Option (List Token × List Char) :=
  match _hcs : cs.dropWhile Text.isSpacing with
  | [] => none
  | '}' :: rest => some ([], rest)
  | '{' :: _ => none
  | c :: cs' =>
    match _ht : token? (c :: cs') with
    | none => none
    | some (token, rest) =>
      (tokens? rest).map fun (tokens, rest) => (token :: tokens, rest)
termination_by cs.length
decreasing_by
  have h := length_of_token? _ht
  rw [← _hcs] at h
  exact Nat.lt_of_lt_of_le h (length_dropWhile_le ..)

/-- Adds a declaration. Only the first identifier counts. -/
def declare (a : Attributes) : Token → Attributes
  | .id word => { a with id := a.id <|> some (String.ofList word) }
  -- The order of classes and of pairs, and what is said twice, is kept.
  | .className word => { a with classes := a.classes ++ [String.ofList word] }
  | .pair key value => { a with pairs := a.pairs ++ [(String.ofList key, String.ofList value)] }

/-- The block at the very start of the characters, and what follows it. -/
def leading? (cs : List Char) : Option (Attributes × List Char) :=
  match cs with
  | '{' :: inner =>
    let inner := match inner with
      | ':' :: rest => rest
      | _ => inner
    (tokens? inner).map fun (tokens, rest) => (tokens.foldl declare {}, rest)
  | _ => none

/-- The characters cut before their last opening brace. -/
def cutAtLastBrace? : List Char → Option (List Char × List Char)
  | [] => none
  | c :: rest =>
    match cutAtLastBrace? rest with
    | some (front, back) => some (c :: front, back)
    | none => if c = '{' then some ([], c :: rest) else none

/-- The block that ends where the characters end, and what stands before it. It begins at the
    last opening brace. -/
def trailing? (cs : List Char) : Option (Attributes × List Char) := do
  guard (cs.getLast? = some '}')
  let (front, block) ← cutAtLastBrace? cs
  let (attributes, rest) ← leading? block
  guard rest.isEmpty
  return (attributes, front)

end AttributeBlock

namespace Attributes

/-- The attributes of the block that `s` starts with, and the bytes it takes. -/
def parseLeading? (s : String) : Option (Attributes × Nat) :=
  (AttributeBlock.leading? s.toList).map fun (a, rest) =>
    (a, Text.size s - Text.byteLength rest)

/-- The attributes of the block that `s` ends with, and the byte at which it starts. -/
def parseTrailing? (s : String) : Option (Attributes × Nat) :=
  (AttributeBlock.trailing? s.toList).map fun (a, front) => (a, Text.byteLength front)

end Attributes

end Anchormark
