import Anchormark.Text.Blank
import Anchormark.Text.Lines

/-!
# Lines

Lines come back from a text that was joined from them, as long as none of them has a line feed of
its own.

## Main definitions

* `EndsInLine`: a text without a line feed at its end.

## Theorems

* `unlines_append`: Lines may be joined in two steps.
* `lines_append`, `lines_unlines`: The lines of joined lines.
* `feed_not_mem_of_mem_lines`, `infix_of_mem_lines`: What a line of a text is.
* `endsInLine_joinWith`: What is joined ends like the last piece.
* `EndsInLine.dropEndWhile`: Nothing is dropped from such a text.
-/

namespace Anchormark.Text

/-- Lines may be joined in two steps. -/
theorem unlines_append {ls others : List (List Char)} (hls : ls ≠ []) (hothers : others ≠ []) :
    unlines (ls ++ others) = unlines ls ++ '\n' :: unlines others := by
  induction ls with
  | nil => exact absurd rfl hls
  | cons l ls ih =>
      cases ls with
      | nil =>
          rcases List.exists_cons_of_ne_nil hothers with ⟨m, rest, rfl⟩
          simp only [unlines, joinWith, List.cons_append, List.nil_append, List.append_assoc]
      | cons m rest =>
          have hrest := ih (List.cons_ne_nil m rest)
          simp only [unlines, joinWith, List.cons_append, List.append_assoc] at hrest ⊢
          rw [hrest]

theorem unlines_cons_cons (l m : List Char) (rest : List (List Char)) :
    unlines (l :: m :: rest) = l ++ '\n' :: unlines (m :: rest) :=
  unlines_append (List.cons_ne_nil l []) (List.cons_ne_nil m rest)

/-- The first line stands in front. -/
theorem unlines_cons_append (l : List Char) (rest : List (List Char)) :
    ∃ back, unlines (l :: rest) = l ++ back := by
  cases rest with
  | nil => exact ⟨[], (List.append_nil l).symm⟩
  | cons m rest => exact ⟨_, unlines_cons_cons l m rest⟩

/-- Every separator takes up some space. -/
theorem length_le_joinWith (separator : List Char) (pieces : List (List Char))
    (hne : separator ≠ []) : pieces.length ≤ (joinWith separator pieces).length + 1 := by
  induction pieces with
  | nil => exact Nat.zero_le _
  | cons piece pieces ih =>
      cases pieces with
      | nil => exact Nat.le_add_left 1 _
      | cons next rest =>
          have hpos := List.length_pos_iff.mpr hne
          rw [joinWith, List.length_append, List.length_append, List.length_cons]
          omega

/-- A piece without line feeds stays at the front of the first line. -/
theorem lines_append {front back line : List Char} {others : List (List Char)}
    (hfront : '\n' ∉ front) (hback : lines back = line :: others) :
    lines (front ++ back) = (front ++ line) :: others := by
  induction front with
  | nil => exact hback
  | cons c front ih =>
      rw [List.mem_cons, not_or] at hfront
      rw [List.cons_append, lines, if_neg (Ne.symm hfront.1), ih hfront.2]
      rfl

/-- Lines come back if none of them has a line feed of its own. -/
theorem lines_unlines {ls : List (List Char)} (hne : ls ≠ []) (hls : ∀ l ∈ ls, '\n' ∉ l) :
    lines (unlines ls) = ls := by
  induction ls with
  | nil => exact absurd rfl hne
  | cons l ls ih =>
      rw [List.forall_mem_cons] at hls
      cases ls with
      | nil =>
          have hline : lines (l ++ []) = [l ++ []] := lines_append hls.1 rfl
          rwa [List.append_nil] at hline
      | cons m rest =>
          have hbelow : lines ('\n' :: unlines (m :: rest)) = [] :: m :: rest := by
            rw [lines, if_pos rfl, ih (List.cons_ne_nil m rest) hls.2]
          rw [unlines_cons_cons, lines_append hls.1 hbelow, List.append_nil]

/-- A line has no line feed of its own. -/
theorem feed_not_mem_of_mem_lines {cs l : List Char} (hl : l ∈ lines cs) : '\n' ∉ l := by
  induction cs generalizing l with
  | nil =>
      rw [lines, List.mem_singleton] at hl
      rw [hl]
      exact List.not_mem_nil
  | cons c cs ih =>
      rw [lines] at hl
      split at hl
      · rcases List.mem_cons.mp hl with rfl | hl
        · exact List.not_mem_nil
        · exact ih hl
      · next hc =>
          rcases List.exists_cons_of_ne_nil (lines_ne_nil cs) with ⟨line, others, hlines⟩
          rw [hlines] at hl ih
          rcases List.mem_cons.mp hl with rfl | hl
          · rw [List.mem_cons, not_or]
            exact ⟨Ne.symm hc, ih List.mem_cons_self⟩
          · exact ih (List.mem_cons_of_mem line hl)

/-- A line is a stretch of the text. -/
theorem infix_of_mem_lines {cs l : List Char} (hl : l ∈ lines cs) : l <:+: cs := by
  induction cs generalizing l with
  | nil =>
      rw [lines, List.mem_singleton] at hl
      subst hl
      exact List.nil_infix
  | cons c cs ih =>
      rcases List.exists_cons_of_ne_nil (lines_ne_nil cs) with ⟨line, others, hlines⟩
      rw [lines] at hl
      split at hl
      · rcases List.mem_cons.mp hl with rfl | hl
        · exact List.nil_infix
        · exact List.infix_cons (ih hl)
      · rw [hlines] at hl ih
        rcases List.mem_cons.mp hl with rfl | hl
        · -- The first line stands at the front, so it grows there.
          rcases unlines_cons_append line others with ⟨back, hback⟩
          have hcs := unlines_lines cs
          rw [hlines, hback] at hcs
          exact ⟨[], back, by simp [← hcs]⟩
        · exact List.infix_cons (ih (List.mem_cons_of_mem line hl))

/-- Lines that are ended one by one are joined lines with a line feed behind them. -/
theorem flatMap_feed {ls : List (List Char)} (hls : ls ≠ []) :
    ls.flatMap (· ++ ['\n']) = unlines ls ++ ['\n'] := by
  induction ls with
  | nil => exact absurd rfl hls
  | cons l ls ih =>
      cases ls with
      | nil => simp [unlines, joinWith]
      | cons m rest =>
          rw [List.flatMap_cons, ih (List.cons_ne_nil m rest), unlines_cons_cons]
          simp

/-- The text is not empty and does not end with a line feed. -/
def EndsInLine (cs : List Char) : Prop :=
  ∃ init d, cs = init ++ [d] ∧ d ≠ '\n'

/-- A line that is not empty is such a text. -/
theorem endsInLine_of_line {cs : List Char} (hne : cs ≠ []) (hfeed : '\n' ∉ cs) : EndsInLine cs := by
  rcases List.eq_nil_or_concat cs with rfl | ⟨init, d, hcs⟩
  · exact absurd rfl hne
  · rw [List.concat_eq_append] at hcs
    refine ⟨init, d, hcs, ?_⟩
    rintro rfl
    exact hfeed (hcs ▸ List.mem_append_right init List.mem_cons_self)

/-- Whatever stands before such a text. -/
theorem EndsInLine.append_left {cs : List Char} (h : EndsInLine cs) (front : List Char) :
    EndsInLine (front ++ cs) := by
  rcases h with ⟨init, d, rfl, hd⟩
  exact ⟨front ++ init, d, (List.append_assoc front init [d]).symm, hd⟩

theorem EndsInLine.ne_nil {cs : List Char} (h : EndsInLine cs) : cs ≠ [] := by
  rcases h with ⟨init, d, rfl, -⟩
  exact List.append_ne_nil_of_right_ne_nil init (List.cons_ne_nil d [])

/-- What is joined ends like the last piece. -/
theorem endsInLine_joinWith (separator : List Char) {pieces : List (List Char)} (hne : pieces ≠ [])
    (h : ∀ piece ∈ pieces, EndsInLine piece) : EndsInLine (joinWith separator pieces) := by
  induction pieces with
  | nil => exact absurd rfl hne
  | cons piece pieces ih =>
      rw [List.forall_mem_cons] at h
      cases pieces with
      | nil => exact h.1
      | cons next rest =>
          rcases ih (List.cons_ne_nil next rest) h.2 with ⟨init, d, heq, hd⟩
          exact ⟨piece ++ separator ++ init, d, by rw [joinWith, heq, List.append_assoc _ init], hd⟩

/-- Then no line feed is dropped. -/
theorem EndsInLine.dropEndWhile {cs : List Char} (h : EndsInLine cs) :
    dropEndWhile (· = '\n') cs = cs := by
  rcases h with ⟨init, d, rfl, hd⟩
  rw [Text.dropEndWhile, List.reverse_append, List.reverse_singleton, List.singleton_append,
    List.dropWhile_cons, if_neg (by rwa [decide_eq_true_iff]), List.reverse_cons,
    List.reverse_reverse]

/-- Joining texts is joining their characters. -/
theorem intercalate_ofList (separator : List Char) (pieces : List (List Char)) :
    (String.ofList separator).intercalate (pieces.map String.ofList) =
      String.ofList (joinWith separator pieces) := by
  induction pieces with
  | nil => rfl
  | cons piece pieces ih =>
      cases pieces with
      | nil => exact String.intercalate_singleton
      | cons next rest =>
          rw [List.map_cons] at ih
          rw [List.map_cons, List.map_cons, String.intercalate_cons_cons, ih, joinWith,
            String.ofList_append, String.ofList_append]

end Anchormark.Text
