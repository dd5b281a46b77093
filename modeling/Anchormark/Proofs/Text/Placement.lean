import Anchormark.Attribute.Resolve
import Mathlib.Algebra.Group.Nat.Even
import Mathlib.Data.List.DropRight

/-!
# Where a Text Stands in Its Source

A span places a piece of text in the source by byte offsets. Whether the piece is really written
there, and whether a backslash in front of it turns it into plain text, are questions about the
characters of the source.

`cut?` answers at most one pair for an offset, because every character takes at least one byte.
This makes an offset as good as a split of the source into a front and a back, and that is the
form in which places are compared from here on: two splits at the same offset are the same split.

A backslash escapes the character after it unless it is itself escaped, so what counts is the
parity of the run of backslashes right before a place. Behind an even run nothing is escaped.

## Main definitions

* `Unescaped`: the run of backslashes at the end of a front is even.
* `StandsAt`: a block is written at a byte offset of the source, and not escaped.

## Theorems

* `append_inj_of_byteLength`: Splits of a text at the same offset are equal.
* `of_cut?_eq_some`: Cutting loses no characters, and cuts where it was asked to.
* `unescaped_append_singleton`: An ordinary character ends every run.
* `unescaped_append_backslash`: One more backslash flips the parity.
* `isLiteralAt_iff`: The check on the source says where the block stands.
-/

namespace Anchormark

namespace Text

/-- Splits of a text at the same byte offset are equal. -/
theorem append_inj_of_byteLength {front front' back back' : List Char}
    (h : front ++ back = front' ++ back') (hlen : byteLength front = byteLength front') :
    front = front' ∧ back = back' := by
  have h1 := cut?_byteLength front back
  rw [h, hlen, cut?_byteLength front' back'] at h1
  simp only [Option.some.injEq, Prod.mk.injEq] at h1
  exact ⟨h1.1.symm, h1.2.symm⟩

/-- Cutting loses no characters, and the front takes as many bytes as were asked for. -/
theorem of_cut?_eq_some {n : Nat} {cs front back : List Char}
    (h : cut? n cs = some (front, back)) : cs = front ++ back ∧ byteLength front = n := by
  induction cs generalizing n front back with
  | nil =>
      cases n with
      | zero =>
          simp only [cut?, Option.some.injEq, Prod.mk.injEq] at h
          rcases h with ⟨rfl, rfl⟩
          exact ⟨rfl, rfl⟩
      | succ n => simp only [cut?, reduceCtorEq] at h
  | cons c cs ih =>
      cases n with
      | zero =>
          simp only [cut?, Option.some.injEq, Prod.mk.injEq] at h
          rcases h with ⟨rfl, rfl⟩
          exact ⟨rfl, rfl⟩
      | succ n =>
          simp only [cut?] at h
          -- The first character goes to the front, if it fits in whole.
          by_cases hc : c.utf8Size ≤ n + 1
          · rw [if_pos hc, Option.map_eq_some_iff] at h
            rcases h with ⟨⟨front', back'⟩, hcut, heq⟩
            simp only [Prod.mk.injEq] at heq
            rcases heq with ⟨rfl, rfl⟩
            rcases ih hcut with ⟨rfl, hlen⟩
            refine ⟨rfl, ?_⟩
            rw [byteLength_cons, hlen]
            omega
          · simp only [if_neg hc, reduceCtorEq] at h

/-- The run of backslashes at the end of `front` is even, so it escapes nothing behind it. -/
def Unescaped (front : List Char) : Prop :=
  Even (front.rtakeWhile (· = '\\')).length

/-- An ordinary character ends every run of backslashes. -/
theorem unescaped_append_singleton (front : List Char) {c : Char} (hc : c ≠ '\\') :
    Unescaped (front ++ [c]) := by
  rw [Unescaped, List.rtakeWhile_concat_neg _ _ _ (by simpa using hc)]
  exact ⟨0, rfl⟩

/-- One more backslash flips the parity. -/
theorem unescaped_append_backslash (front : List Char) :
    Unescaped (front ++ ['\\']) ↔ ¬ Unescaped front := by
  rw [Unescaped, Unescaped, List.rtakeWhile_concat_pos _ _ _ (by simp), List.length_append,
    List.length_singleton, Nat.even_add_one]

end Text

/-- `block` is written in the source at byte `start`, behind nothing that escapes it. -/
def StandsAt (source : List Char) (start : Nat) (block : List Char) : Prop :=
  ∃ front back, source = front ++ (block ++ back) ∧ Text.byteLength front = start ∧
    Text.Unescaped front

/-- The check on the source says where the block stands. -/
theorem isLiteralAt_iff {source : List Char} {start : Nat} {block : List Char} :
    isLiteralAt source start block = true ↔ StandsAt source start block := by
  have hrun (front : List Char) : (front.reverse.takeWhile (· = '\\')).length % 2 = 0 ↔
      Text.Unescaped front := by
    rw [Text.Unescaped, Nat.even_iff, List.rtakeWhile, List.length_reverse]
  unfold isLiteralAt
  constructor
  · intro h
    split at h
    · simp only [Bool.false_eq_true] at h
    · next front back hcut =>
        simp only [Bool.and_eq_true, List.isPrefixOf_iff_prefix, decide_eq_true_eq, hrun] at h
        rcases h with ⟨⟨rest, rfl⟩, heven⟩
        rcases Text.of_cut?_eq_some hcut with ⟨hsource, hlen⟩
        exact ⟨front, rest, hsource, hlen, heven⟩
  · rintro ⟨front, back, rfl, rfl, heven⟩
    simp only [Text.cut?_byteLength, Bool.and_eq_true, List.isPrefixOf_iff_prefix,
      decide_eq_true_eq, hrun]
    exact ⟨List.prefix_append block back, heven⟩

end Anchormark
