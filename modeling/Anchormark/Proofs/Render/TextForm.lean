import Anchormark.Proofs.Text.Lines
import Anchormark.Render.Escape
import Anchormark.Text.Punctuation
import Mathlib.Data.List.Forall2

/-!
# The Form of a Written Text

What is written for a text depends on the text, on what stands in front of it, and on the braces
that open attribute blocks. This module keeps the first two and leaves the braces open: a character
that could be markup has a backslash, an underscore has one unless it stands inside a word, a brace
may have one, and nothing else does.

The form is one of single characters, so it goes through to the lines of a text. A line feed is no
letter, and so an underscore at the end of a line has its backslash already, whether or not what
follows is looked at.

## Main definitions

* `isEscapable`: a character that a text may have a backslash in front of.
* `TextForm`: the form in which a text is written.

## Theorems

* `textForm_escapeFrom`: What is written for a text has its form.
* `TextForm.lines`: So have the lines of the text.
* `TextForm.congr`: What only holds of texts without markup holds of both or of neither.
-/

namespace Anchormark.Escape

/-- A text may have a backslash in front of the character. -/
def isEscapable (c : Char) : Bool :=
  isAlwaysEscaped c || c = '_' || c = '{'

theorem isAsciiPunctuation_of_isEscapable {c : Char} (hc : isEscapable c = true) :
    Text.isAsciiPunctuation c = true := by
  simp only [isEscapable, isAlwaysEscaped, Bool.or_eq_true, decide_eq_true_eq] at hc
  rcases hc with (((((((rfl | rfl) | rfl) | rfl) | rfl) | rfl) | rfl) | rfl) <;> decide

/-- `written` is a form of `cs` behind the character `before`. -/
inductive TextForm : (before : Option Char) → (cs written : List Char) → Prop
  | nil {before : Option Char} : TextForm before [] []
  | bare {before : Option Char} {c : Char} {cs written : List Char}
      (hc : isAlwaysEscaped c = false)
      (hscore : c = '_' → isIntraword before cs.head? = true)
      (h : TextForm (some c) cs written) : TextForm before (c :: cs) (c :: written)
  | marked {before : Option Char} {c : Char} {cs written : List Char} (hc : isEscapable c = true)
      (h : TextForm (some c) cs written) : TextForm before (c :: cs) ('\\' :: c :: written)

/-- What is written for a text has its form. -/
theorem textForm_escapeFrom (braces : List Nat) (i : Nat) (before : Option Char)
    (cs : List Char) : TextForm before cs (escapeFrom braces i before cs) := by
  induction cs generalizing i before with
  | nil => exact .nil
  | cons c cs ih =>
      have hrest := ih (i + 1) (some c)
      rw [escapeFrom]
      -- An underscore and a brace are escaped by where they stand, the others always or never.
      by_cases hscore : c = '_'
      · subst hscore
        cases hword : isIntraword before cs.head? with
        | true => simpa [hword] using TextForm.bare rfl (fun _ => hword) hrest
        | false => simpa [hword] using TextForm.marked rfl hrest
      by_cases hbrace : c = '{'
      · subst hbrace
        by_cases hi : i ∈ braces
        · simpa [hi] using TextForm.marked rfl hrest
        · simpa [hi] using TextForm.bare rfl (fun h => absurd h hscore) hrest
      cases halways : isAlwaysEscaped c with
      | true =>
          have hc : isEscapable c = true := by simp [isEscapable, halways]
          simpa [hscore, hbrace, halways] using TextForm.marked hc hrest
      | false =>
          simpa [hscore, hbrace, halways] using
            TextForm.bare halways (fun h => absurd h hscore) hrest

namespace TextForm

variable {before : Option Char} {cs written : List Char}

/-- Without a backslash nothing has been done. -/
theorem eq_of_bare (h : TextForm before cs written) (hwritten : ∀ c ∈ written, c ≠ '\\') :
    written = cs := by
  induction h with
  | nil => rfl
  | bare _ _ _ ih =>
      rw [List.forall_mem_cons] at hwritten
      rw [ih hwritten.2]
  | marked _ _ _ =>
      rw [List.forall_mem_cons] at hwritten
      exact absurd rfl hwritten.1

/-- Nothing has to be done without a character that may have a backslash. -/
theorem eq_of_inescapable (h : TextForm before cs written)
    (hcs : ∀ c ∈ cs, isEscapable c = false) : written = cs := by
  induction h with
  | nil => rfl
  | bare _ _ _ ih =>
      rw [List.forall_mem_cons] at hcs
      rw [ih hcs.2]
  | marked hc _ _ =>
      rw [List.forall_mem_cons, hc] at hcs
      exact absurd hcs.1 Bool.noConfusion

/-- What only holds of texts without markup holds of the text and its form or of neither. -/
theorem congr (h : TextForm before cs written) {p : List Char → Bool}
    (hwritten : p written = true → ∀ c ∈ written, c ≠ '\\')
    (hcs : p cs = true → ∀ c ∈ cs, isEscapable c = false) : p written = p cs := by
  rw [Bool.eq_iff_iff]
  constructor
  · intro hp
    rw [← h.eq_of_bare (hwritten hp)]
    exact hp
  · intro hp
    rw [h.eq_of_inescapable (hcs hp)]
    exact hp

/-- The lines of what is written have the form of the lines of the text. Only the first of them has
    something other than a line feed in front of it. -/
theorem lines (h : TextForm before cs written) :
    ∃ l ls w ws, Text.lines cs = l :: ls ∧ Text.lines written = w :: ws ∧ TextForm before l w ∧
      List.Forall₂ (TextForm (some '\n')) ls ws := by
  induction h with
  | nil => exact ⟨[], [], [], [], rfl, rfl, .nil, .nil⟩
  | @bare before c cs written hc hscore h ih =>
      rcases ih with ⟨l, ls, w, ws, hl, hw, hline, hothers⟩
      by_cases hfeed : c = '\n'
      · subst hfeed
        exact ⟨[], l :: ls, [], w :: ws, by simp [Text.lines, hl], by simp [Text.lines, hw], .nil,
          .cons hline hothers⟩
      · refine ⟨c :: l, ls, c :: w, ws, by simp [Text.lines, hl, hfeed],
          by simp [Text.lines, hw, hfeed], .bare hc (fun hc => ?_) hline, hothers⟩
        -- A letter or digit follows, so the line goes on.
        have hword := hscore hc
        cases cs with
        | nil => simp [isIntraword] at hword
        | cons d cs =>
            have hd : d ≠ '\n' := by
              rintro rfl
              rw [isIntraword, List.head?_cons, Option.any_some,
                show Text.isAlphanumeric '\n' = false from rfl, Bool.and_false] at hword
              exact absurd hword Bool.noConfusion
            rcases List.exists_cons_of_ne_nil (Text.lines_ne_nil cs) with ⟨m, ms, hm⟩
            rw [Text.lines, if_neg hd, hm, List.cons.injEq] at hl
            rw [← hl.1]
            exact hword
  | @marked before c cs written hc h ih =>
      rcases ih with ⟨l, ls, w, ws, hl, hw, hline, hothers⟩
      have hfeed : c ≠ '\n' := by
        rintro rfl
        exact absurd hc (by decide)
      exact ⟨c :: l, ls, '\\' :: c :: w, ws, by simp [Text.lines, hl, hfeed],
        by simp [Text.lines, hw, hfeed], .marked hc hline, hothers⟩

end TextForm

end Anchormark.Escape
