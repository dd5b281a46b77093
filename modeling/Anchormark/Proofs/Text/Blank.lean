import Anchormark.Text.Blank
import Mathlib.Data.List.DropRight

/-!
# Blanks at the End of a Text

Trimming a text cuts it into what stays and the blanks behind that. The cut is marked by the last
character that stays, so a text falls into such parts in one way only.

## Theorems

* `exists_trimEnd`: Trimming takes blanks off, and all of them.
* `trimEnd_append_blanks`: A text that does not end in a blank is what trimming leaves of it.
* `trimEnd_append_cons`: Trimming stops at the last character that is not blank.
-/

namespace Anchormark.Text

/-- Markdown's white space is white space. -/
theorem isBlank_of_isMarkdownSpace {c : Char} (h : isMarkdownSpace c = true) :
    isBlank c = true := by
  simp only [isMarkdownSpace, isLineBlank, Bool.or_eq_true, decide_eq_true_eq] at h
  rcases h with (((((rfl | rfl) | rfl) | rfl) | rfl) | rfl) <;> decide

/-- Trimming takes blanks off the end, and all of them. -/
theorem exists_trimEnd (cs : List Char) :
    ∃ gap, cs = trimEnd cs ++ gap ∧ (∀ c ∈ gap, isBlank c = true) ∧
      ∀ c ∈ (trimEnd cs).getLast?, isBlank c = false := by
  refine ⟨cs.rtakeWhile isBlank, List.rdropWhile_append_rtakeWhile.symm,
    fun c hc => List.mem_rtakeWhile_imp hc, fun c hc => ?_⟩
  rcases List.mem_getLast?_eq_getLast hc with ⟨hne, rfl⟩
  exact Bool.eq_false_iff.mpr (List.rdropWhile_last_not isBlank cs hne)

/-- Blanks at the end are taken off. -/
theorem trimEnd_append_of_blank (cs : List Char) {gap : List Char}
    (hgap : ∀ c ∈ gap, isBlank c = true) : trimEnd (cs ++ gap) = trimEnd cs := by
  have hgap' : ∀ c ∈ gap.reverse, isBlank c = true := fun c hc => hgap c (List.mem_reverse.mp hc)
  rw [trimEnd, dropEndWhile, List.reverse_append, List.dropWhile_append_of_pos hgap']
  rfl

/-- Blanks behind a text that does not end in a blank are what trimming takes off. -/
theorem trimEnd_append_blanks {kept gap : List Char} (hgap : ∀ c ∈ gap, isBlank c = true)
    (hkept : ∀ c ∈ kept.getLast?, isBlank c = false) : trimEnd (kept ++ gap) = kept := by
  rw [trimEnd_append_of_blank kept hgap]
  refine List.rdropWhile_eq_self_iff.mpr fun hne hblank => ?_
  rw [hkept _ (List.getLast?_eq_getLast_of_ne_nil hne)] at hblank
  exact Bool.false_ne_true hblank

/-- Trimming does not go beyond a character that is not blank. -/
theorem trimEnd_append_cons (front : List Char) {c : Char} (hc : isBlank c = false)
    (cs : List Char) : trimEnd (front ++ c :: cs) = front ++ c :: trimEnd cs := by
  rcases exists_trimEnd cs with ⟨gap, hcs, hgap, hlast⟩
  have hsplit : front ++ c :: cs = (front ++ c :: trimEnd cs) ++ gap := by
    rw [List.append_assoc, List.cons_append, ← hcs]
  rw [hsplit, trimEnd_append_blanks hgap]
  intro d hd
  rw [List.getLast?_append_cons, List.getLast?_cons, Option.mem_some_iff] at hd
  cases hkept : (trimEnd cs).getLast? with
  | none =>
      rw [hkept] at hd
      exact hd ▸ hc
  | some last =>
      rw [hkept] at hd
      exact hlast d (hkept.trans (congrArg some hd))

end Anchormark.Text
