import Anchormark.Proofs.Text.Lines
import Anchormark.Render.Escape
import Mathlib.Data.List.DropRight

/-!
# Marks at the Start of a Line

What is done at the starts of the lines of a paragraph is described here character by character. A
character gets a backslash or not, and which it is depends on the part of its line in front of it
and on whether a blank or the end of the line follows. So the escaping of a text that is put
together from parts can be taken apart again, with what stands before and behind each part given.

## Main definitions

* `lineFront`: the part of the line in front of a character.
* `isLineMark`: the character is a mark that would open a block.
* `withSlashes`: a part of a text with a backslash in front of each of its marks.

## Theorems

* `withSlashes_append`: Parts are escaped one by one.
* `withSlashes_eq_self`: A part without marks stays as it is.
* `escapeLineStarts_eq_withSlashes`: Escaping line starts is putting backslashes in front of marks.
-/

namespace Anchormark.Escape

/-- The part of the line in front of a character that stands behind the characters given. -/
def lineFront (before : List Char) : List Char :=
  before.rtakeWhile (· ≠ '\n')

/-- The character would open a heading, a block quote or an item: it is the first one of its line,
    or it stands behind the number of an item. -/
def isLineMark (before : List Char) (c : Char) (after : List Char) : Bool :=
  let ends := endsMarker (after.takeWhile (· ≠ '\n'))
  match lineFront before with
  | [] => c = '#' || c = '>' || ((c = '-' || c = '+') && ends)
  | d :: digits => (d :: digits).all Char.isDigit && (c = '.' || c = ')') && ends

/-- The characters, which stand between others, with a backslash in front of each mark. -/
def withSlashes (before : List Char) : (cs after : List Char) → List Char
  | [], _ => []
  | c :: rest, after =>
    if isLineMark before c (rest ++ after) then
      '\\' :: c :: withSlashes (before ++ [c]) rest after
    else c :: withSlashes (before ++ [c]) rest after

theorem lineFront_feed (before : List Char) : lineFront (before ++ ['\n']) = [] :=
  List.rtakeWhile_concat_neg _ _ _ (by decide)

/-- Within a line the part in front of a character grows. -/
theorem lineFront_append (before : List Char) {cs : List Char} (hcs : '\n' ∉ cs) :
    lineFront (before ++ cs) = lineFront before ++ cs := by
  induction cs using List.reverseRecOn with
  | nil => rw [List.append_nil, List.append_nil]
  | append_singleton cs c ih =>
      rw [List.mem_append, List.mem_singleton, not_or] at hcs
      have hc : decide (c ≠ '\n') = true := decide_eq_true (Ne.symm hcs.2)
      rw [← List.append_assoc, lineFront, List.rtakeWhile_concat, if_pos hc, ← lineFront, ih hcs.1,
        List.append_assoc]

/-- A mark is one of a few characters. -/
theorem mem_of_isLineMark {before after : List Char} {c : Char}
    (h : isLineMark before c after = true) : c ∈ ['#', '>', '-', '+', '.', ')'] := by
  simp only [isLineMark] at h
  split at h
  · simp only [Bool.or_eq_true, Bool.and_eq_true, decide_eq_true_eq] at h
    rcases h with (rfl | rfl) | ⟨rfl | rfl, -⟩ <;> decide
  · simp only [Bool.or_eq_true, Bool.and_eq_true, decide_eq_true_eq] at h
    rcases h with ⟨⟨-, rfl | rfl⟩, -⟩ <;> decide

/-- In front of a mark is the start of the text, a line feed or a digit. -/
theorem last_of_isLineMark {before after : List Char} {c : Char}
    (h : isLineMark before c after = true) :
    ∀ d ∈ before.getLast?, d = '\n' ∨ d.isDigit = true := by
  intro d hd
  rcases List.getLast?_eq_some_iff.mp hd with ⟨front, rfl⟩
  by_cases hfeed : d = '\n'
  · exact .inl hfeed
  · have hfront : lineFront (front ++ [d]) = lineFront front ++ [d] :=
      lineFront_append front (by simpa using Ne.symm hfeed)
    have hdigits : (lineFront front ++ [d]).all Char.isDigit = true := by
      simp only [isLineMark, hfront] at h
      split at h
      · next hnil => exact absurd hnil (by simp)
      · next hcons =>
          rw [hcons]
          rw [Bool.and_eq_true, Bool.and_eq_true] at h
          exact h.1.1
    rw [List.all_eq_true] at hdigits
    exact .inr (hdigits d (by simp))

/-- Parts are escaped one by one. -/
theorem withSlashes_append (before xs ys after : List Char) :
    withSlashes before (xs ++ ys) after =
      withSlashes before xs (ys ++ after) ++ withSlashes (before ++ xs) ys after := by
  induction xs generalizing before with
  | nil => rw [List.nil_append, withSlashes, List.nil_append, List.append_nil]
  | cons c xs ih =>
      rw [List.cons_append, withSlashes, withSlashes, ih, List.append_assoc xs,
        List.append_assoc before]
      split <;> rfl

/-- A part without marks stays as it is. -/
theorem withSlashes_eq_self {before cs after : List Char}
    (h : ∀ u c w, cs = u ++ c :: w → isLineMark (before ++ u) c (w ++ after) = false) :
    withSlashes before cs after = cs := by
  induction cs generalizing before with
  | nil => rfl
  | cons c cs ih =>
      have hc := h [] c cs rfl
      rw [List.append_nil] at hc
      rw [withSlashes, hc, if_neg Bool.false_ne_true, ih]
      intro u d w hcs
      rw [List.append_assoc]
      exact h (c :: u) d w (by rw [hcs, List.cons_append])

/-- Behind other characters of a line than digits there are no marks. -/
theorem withSlashes_behind {before cs : List Char} (after : List Char)
    (hfront : (lineFront before).all Char.isDigit = false) (hcs : '\n' ∉ cs) :
    withSlashes before cs after = cs := by
  refine withSlashes_eq_self fun u c w hsplit => ?_
  rw [hsplit, List.mem_append, not_or] at hcs
  have hdigits : (lineFront (before ++ u)).all Char.isDigit = false := by
    rw [lineFront_append before hcs.1, List.all_append, hfront, Bool.false_and]
  simp only [isLineMark]
  split
  · next hnil =>
      rw [hnil] at hdigits
      exact absurd hdigits (by decide)
  · next hcons => rw [← hcons, hdigits, Bool.false_and, Bool.false_and]

/-- Digits are no marks. -/
theorem withSlashes_digits {before cs : List Char} (after : List Char)
    (hcs : ∀ c ∈ cs, c.isDigit = true) : withSlashes before cs after = cs := by
  refine withSlashes_eq_self fun u c w hsplit => Bool.eq_false_iff.mpr fun hmark => ?_
  have hdigit := hcs c (by simp [hsplit])
  have hmem := mem_of_isLineMark hmark
  generalize c = d at hdigit hmem
  simp only [List.mem_cons, List.not_mem_nil, or_false] at hmem
  rcases hmem with rfl | rfl | rfl | rfl | rfl | rfl <;> exact absurd hdigit (by decide)

/-- A line that begins with a digit. -/
theorem escapeLineStart_number {c : Char} (hc : c.isDigit = true) (rest : List Char) :
    escapeLineStart (c :: rest) =
      match (c :: rest).dropWhile Char.isDigit with
      | mark :: after =>
        if (mark = '.' || mark = ')') && endsMarker after then
          (c :: rest).takeWhile Char.isDigit ++ '\\' :: mark :: after
        else c :: rest
      | [] => c :: rest := by
  have hne {d : Char} (hd : d.isDigit = false) : c ≠ d := by
    rintro rfl
    rw [hc] at hd
    exact Bool.noConfusion hd
  have hsign : c ≠ '#' := hne rfl
  have hquote : c ≠ '>' := hne rfl
  have hdash : c ≠ '-' := hne rfl
  have hplus : c ≠ '+' := hne rfl
  rw [escapeLineStart]
  cases (c :: rest).dropWhile Char.isDigit <;>
    simp only [hsign, hquote, hdash, hplus, hc, decide_false, Bool.or_false, Bool.false_and,
      Bool.false_eq_true, if_false, if_true]

section Line

variable {after : List Char} (hafter : ∀ c ∈ after.head?, c = '\n')
include hafter

/-- What follows a line does not matter. -/
theorem takeWhile_line {line : List Char} (hline : '\n' ∉ line) :
    (line ++ after).takeWhile (· ≠ '\n') = line := by
  have hline' : ∀ c ∈ line, decide (c ≠ '\n') = true :=
    fun c hc => decide_eq_true (ne_of_mem_of_not_mem hc hline)
  rw [List.takeWhile_append_of_pos hline']
  cases after with
  | nil => rw [List.takeWhile_nil, List.append_nil]
  | cons c after =>
      rw [hafter c rfl]
      exact List.append_nil line

variable {before : List Char} (hbefore : lineFront before = [])
include hbefore

/-- The first character of a line. What stands behind it stays as it is if it is no digit. -/
theorem withSlashes_cons {c : Char} {rest : List Char} (hline : '\n' ∉ c :: rest)
    (hdigit : c.isDigit = false) :
    withSlashes before (c :: rest) after =
      if c = '#' || c = '>' || ((c = '-' || c = '+') && endsMarker rest) then '\\' :: c :: rest
      else c :: rest := by
  rw [List.mem_cons, not_or] at hline
  have hfront : lineFront (before ++ [c]) = [c] := by
    rw [lineFront_append before (by simpa using hline.1), hbefore, List.nil_append]
  have hbehind : withSlashes (before ++ [c]) rest after = rest := by
    refine withSlashes_behind after ?_ hline.2
    rw [hfront, List.all_cons, hdigit, Bool.false_and]
  rw [withSlashes, hbehind, isLineMark, hbefore, takeWhile_line hafter hline.2]

/-- A number at the start of a line, and what stands behind its digits. -/
theorem withSlashes_number {digits rest : List Char} {mark : Char}
    (hdigits : ∀ c ∈ digits, c.isDigit = true) (hne : digits ≠ []) (hrest : '\n' ∉ mark :: rest)
    (hmark : mark.isDigit = false) :
    withSlashes before (digits ++ mark :: rest) after =
      if (mark = '.' || mark = ')') && endsMarker rest then digits ++ '\\' :: mark :: rest
      else digits ++ mark :: rest := by
  rw [List.mem_cons, not_or] at hrest
  have hfeed : '\n' ∉ digits := fun hmem => absurd (hdigits _ hmem) (by decide)
  have hfront : lineFront (before ++ digits) = digits := by
    rw [lineFront_append before hfeed, hbefore, List.nil_append]
  -- Something other than a digit stands in front of the rest, so nothing there is a mark.
  have hbehind : withSlashes (before ++ digits ++ [mark]) rest after = rest := by
    refine withSlashes_behind after ?_ hrest.2
    rw [lineFront_append _ (by simpa using hrest.1), hfront, List.all_append, List.all_cons, hmark,
      Bool.false_and, Bool.and_false]
  have hopens : isLineMark (before ++ digits) mark (rest ++ after) =
      ((mark = '.' || mark = ')') && endsMarker rest) := by
    have hall : digits.all Char.isDigit = true := List.all_eq_true.mpr hdigits
    rcases List.exists_cons_of_ne_nil hne with ⟨d, ds, rfl⟩
    rw [isLineMark, hfront, takeWhile_line hafter hrest.2]
    dsimp only
    rw [hall, Bool.true_and]
  rw [withSlashes_append, withSlashes_digits _ hdigits, withSlashes, hbehind, hopens]
  split <;> rfl

/-- A line is escaped as if nothing stood before and behind it. -/
theorem withSlashes_line {line : List Char} (hline : '\n' ∉ line) :
    withSlashes before line after = escapeLineStart line := by
  cases line with
  | nil => rfl
  | cons c rest =>
      cases hdigit : c.isDigit with
      | false =>
          rw [withSlashes_cons hafter hbefore hline hdigit, escapeLineStart, hdigit]
          by_cases hsign : c = '#' ∨ c = '>'
          · simp [hsign]
          · simp [hsign]
      | true =>
          -- No digit is a mark. Only the character behind them can be one.
          have hsplit : (c :: rest).takeWhile Char.isDigit ++ (c :: rest).dropWhile Char.isDigit =
              c :: rest := List.takeWhile_append_dropWhile
          have hdigits : ∀ d ∈ (c :: rest).takeWhile Char.isDigit, d.isDigit = true :=
            fun d hd => List.mem_takeWhile_imp hd
          have hne : (c :: rest).takeWhile Char.isDigit ≠ [] := by
            rw [List.takeWhile_cons, if_pos hdigit]
            exact List.cons_ne_nil _ _
          rw [escapeLineStart_number hdigit]
          cases htail : (c :: rest).dropWhile Char.isDigit with
          | nil =>
              rw [htail, List.append_nil] at hsplit
              rw [hsplit] at hdigits
              exact withSlashes_digits after hdigits
          | cons mark tail =>
              have hmark : mark.isDigit = false := by
                have hhead := List.head?_dropWhile_not Char.isDigit (c :: rest)
                rw [htail] at hhead
                simpa using hhead
              rw [htail] at hsplit
              have hrest : '\n' ∉ mark :: tail := fun hmem =>
                hline (hsplit ▸ List.mem_append_right _ hmem)
              conv_lhs => rw [← hsplit]
              rw [withSlashes_number hafter hbefore hdigits hne hrest hmark, hsplit]

end Line

/-- Escaping the line starts of a text is putting backslashes in front of its marks. -/
theorem escapeLineStarts_eq_withSlashes (cs : List Char) :
    escapeLineStarts cs = withSlashes [] cs [] := by
  suffices h : ∀ ls : List (List Char), (∀ l ∈ ls, '\n' ∉ l) → ∀ before, lineFront before = [] →
      withSlashes before (Text.unlines ls) [] = Text.unlines (ls.map escapeLineStart) by
    have hlines := h (Text.lines cs) (fun l hl => Text.feed_not_mem_of_mem_lines hl) [] rfl
    rw [Text.unlines_lines] at hlines
    exact hlines.symm
  -- The induction is on the lines. What is in front is of account as far as its last line goes.
  intro ls
  induction ls with
  | nil => exact fun _ _ _ => rfl
  | cons l ls ih =>
      intro hls before hbefore
      rw [List.forall_mem_cons] at hls
      cases ls with
      | nil =>
          refine withSlashes_line (fun c hc => ?_) hbefore hls.1
          exact absurd hc (Option.not_mem_none c)
      | cons m ls =>
          -- A line feed is no mark, so it stays and the next line begins behind it.
          have hfeed : isLineMark (before ++ l) '\n' (Text.unlines (m :: ls) ++ []) = false := by
            refine Bool.eq_false_iff.mpr fun hmark => ?_
            exact absurd (mem_of_isLineMark hmark) (by decide)
          have hline : withSlashes before l ('\n' :: Text.unlines (m :: ls) ++ []) =
              escapeLineStart l := by
            refine withSlashes_line (fun c hc => ?_) hbefore hls.1
            exact (Option.some.inj hc).symm
          rw [Text.unlines_cons_cons, withSlashes_append, hline, withSlashes, hfeed,
            if_neg Bool.false_ne_true, ih hls.2 _ (lineFront_feed _)]
          exact (Text.unlines_cons_cons _ _ _).symm

end Anchormark.Escape
