import Anchormark.Proofs.Attribute.Grammar
import Anchormark.Proofs.Text.Placement
import Anchormark.Render.Escape

/-!
# What Escaping Does to a Text

Escaping only ever puts backslashes in front of characters, and it puts one in front of every
backslash of the text. That much does not depend on which other characters it chooses, so it is
stated as a relation, `Escaped`, with one rule for a character that stays bare and one for a
character that is marked. What it implies for the source around a place is that parity is kept:
behind an escaped text a character is as much or as little escaped as it was in front of it.

The one choice that matters for attribute blocks is made by index. A brace whose index is among
the given ones is marked, wherever the text is split.

## Main definitions

* `Escaped`: a text and one way of writing it with backslashes.

## Theorems

* `Escaped.not_mem`: Only backslashes are added.
* `Escaped.unescaped`: Behind an escaped text parity is as it was before.
* `escapeFrom_escaped`: What the renderer writes is such a writing.
* `escapeText_split`: A brace that is chosen gets its backslash.
* `mem_blockBraces_of_leading?`, `mem_blockBraces_of_trailing?`: The braces of blocks are chosen.
-/

namespace Anchormark

namespace Escape

/-- `written` says `cs` with backslashes before some characters, every backslash among them. -/
inductive Escaped : List Char → List Char → Prop
  | nil : Escaped [] []
  | bare {c : Char} {cs written : List Char} (hc : c ≠ '\\') (h : Escaped cs written) :
      Escaped (c :: cs) (c :: written)
  | marked {c : Char} {cs written : List Char} (h : Escaped cs written) :
      Escaped (c :: cs) ('\\' :: c :: written)

/-- Only backslashes are added. -/
theorem Escaped.not_mem {c : Char} (hc : c ≠ '\\') {cs written : List Char}
    (h : Escaped cs written) (hmem : c ∉ cs) : c ∉ written := by
  induction h with
  | nil => exact hmem
  | bare _ _ ih =>
      rw [List.mem_cons, not_or] at hmem ⊢
      exact ⟨hmem.1, ih hmem.2⟩
  | marked _ ih =>
      rw [List.mem_cons, not_or] at hmem
      rw [List.mem_cons, List.mem_cons, not_or, not_or]
      exact ⟨hc, hmem.1, ih hmem.2⟩

/-- Behind an escaped text a character is escaped just as it was before: each backslash of the
    text has its own in front of it, and every other character ends the run. -/
theorem Escaped.unescaped {cs written : List Char} (h : Escaped cs written) :
    ∀ {front : List Char}, Text.Unescaped front → Text.Unescaped (front ++ written) := by
  induction h with
  | nil =>
      intro front hfront
      rw [List.append_nil]
      exact hfront
  | @bare c _ written hc _ ih =>
      intro front hfront
      rw [List.append_cons]
      exact ih (Text.unescaped_append_singleton front hc)
  | @marked c _ written _ ih =>
      intro front hfront
      rw [List.append_cons, List.append_cons]
      refine ih ?_
      by_cases hc : c = '\\'
      · -- A backslash of the text: two more, so the parity is back where it was.
        rw [hc, Text.unescaped_append_backslash, Text.unescaped_append_backslash, not_not]
        exact hfront
      · exact Text.unescaped_append_singleton _ hc

/-- One character is written bare or marked. A backslash is always marked, and a brace when its
    index is chosen. -/
theorem escapeFrom_cons (braces : List Nat) (i : Nat) (before : Option Char) (c : Char)
    (cs : List Char) :
    ∃ marks : Bool, (c = '\\' → marks = true) ∧ (c = '{' → i ∈ braces → marks = true) ∧
      escapeFrom braces i before (c :: cs) =
        if marks then '\\' :: c :: escapeFrom braces (i + 1) (some c) cs
        else c :: escapeFrom braces (i + 1) (some c) cs := by
  -- Which other characters are marked is left open: the definition decides it.
  refine ⟨_, ?_, ?_, rfl⟩
  · rintro rfl
    rfl
  · rintro rfl hi
    simp only [Char.reduceEq, if_false, if_true, decide_eq_true hi]

/-- What the renderer writes is an escaped form of the text, whichever braces it is to mark. -/
theorem escapeFrom_escaped (braces : List Nat) (i : Nat) (before : Option Char)
    (cs : List Char) : Escaped cs (escapeFrom braces i before cs) := by
  induction cs generalizing i before with
  | nil => exact Escaped.nil
  | cons c cs ih =>
      rcases escapeFrom_cons braces i before c cs with ⟨marks, hslash, -, heq⟩
      rw [heq]
      cases marks with
      | true => exact Escaped.marked (ih _ _)
      | false => exact Escaped.bare (fun hc => Bool.false_ne_true (hslash hc)) (ih _ _)

/-- Splitting a text splits what is written for it, and a brace at the split whose index is
    chosen stands behind a backslash of its own. The characters before it are written one by
    one, so the induction is on them. -/
theorem escapeFrom_split (braces : List Nat) (front tail : List Char) (i : Nat)
    (before : Option Char) (hi : i + front.length ∈ braces) :
    ∃ written written', escapeFrom braces i before (front ++ '{' :: tail) =
        written ++ '\\' :: '{' :: written' ∧ Escaped front written ∧ Escaped tail written' := by
  induction front generalizing i before with
  | nil =>
      rcases escapeFrom_cons braces i before '{' tail with ⟨marks, -, hbrace, heq⟩
      rw [hbrace rfl hi] at heq
      exact ⟨[], escapeFrom braces (i + 1) (some '{') tail, heq, Escaped.nil,
        escapeFrom_escaped _ _ _ _⟩
  | cons c front ih =>
      -- The index counts on with the characters, so it is still the same brace.
      rw [List.length_cons, ← Nat.add_assoc, Nat.add_right_comm] at hi
      rcases ih (i + 1) (some c) hi with ⟨written, written', hrest, hfront, htail⟩
      rcases escapeFrom_cons braces i before c (front ++ '{' :: tail) with
        ⟨marks, hslash, -, heq⟩
      rw [hrest] at heq
      cases marks with
      | true => exact ⟨'\\' :: c :: written, written', heq, Escaped.marked hfront, htail⟩
      | false =>
          exact ⟨c :: written, written', heq,
            Escaped.bare (fun hc => Bool.false_ne_true (hslash hc)) hfront, htail⟩

/-- A brace that opens a block at an edge of the text gets its backslash. -/
theorem escapeText_split {front tail : List Char}
    (h : front.length ∈ blockBraces (front ++ '{' :: tail)) :
    ∃ written written', escapeText (front ++ '{' :: tail) =
        written ++ '\\' :: '{' :: written' ∧ Escaped front written ∧ Escaped tail written' := by
  refine escapeFrom_split _ front tail 0 none ?_
  rw [Nat.zero_add]
  exact h

/-- The brace of a block at the start of the text is chosen. -/
theorem mem_blockBraces_of_leading? {cs rest : List Char} {a : Attributes}
    (h : AttributeBlock.leading? cs = some (a, rest)) : 0 ∈ blockBraces cs := by
  simp only [blockBraces, h, Option.map_some, Option.toList_some, List.mem_append,
    List.mem_singleton, true_or]

/-- The brace of a block at the end of the text is chosen. -/
theorem mem_blockBraces_of_trailing? {cs front : List Char} {a : Attributes}
    (h : AttributeBlock.trailing? cs = some (a, front)) : front.length ∈ blockBraces cs := by
  simp only [blockBraces, h, Option.map_some, Option.toList_some, List.mem_append,
    List.mem_singleton, or_true]

end Escape

end Anchormark
