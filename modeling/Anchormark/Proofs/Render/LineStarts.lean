import Anchormark.Markdown.Events
import Anchormark.Markdown.Scan
import Anchormark.Proofs.Render.Front
import Anchormark.Proofs.Render.LineMarks
import Anchormark.Proofs.Render.TextForm

/-!
# What the Lines of a Paragraph Begin

A line of a paragraph must not begin with what would be another block there: a heading, a block
quote, a list item, a thematic break, or, from the second line on, the underline of a heading. The
marks that are markup within a line too have their backslashes already. The others are looked at
once more at the start of each line.

There a number sign and a greater-than sign always get a backslash, and a dash, a plus sign or a
number get one if they could be the marker of an item. This leaves out one thing that a dash can
do. With another dash behind it, it is no marker, but it may begin a thematic break or an underline.
So these two pass, and nothing else does.

An underline can also be made of equals signs. These are never escaped.

## Main definitions

* `isHeadingLine`, `isQuoteLine`, `isItemLine`, `isRuleLine`, `isUnderline`: what a line is.
* `Keeps`: what a line of a text and the line that is written for it have in common.

## Theorems

* `keeps_escapeLineStart`: A line that is written is none of these, unless it begins with two
  dashes.
* `paragraph_lines_keep`: So it is for all lines of a paragraph.
* `paragraph_dashes_open`: A paragraph that is written as a thematic break.
-/

namespace Anchormark

open Markdown Escape

/-- A heading: one to six number signs, and behind them a blank or nothing. -/
def isHeadingLine (line : List Char) : Bool :=
  let depth := countWhile (· = '#') line
  1 ≤ depth && depth ≤ 6 && endsMarker (line.drop depth)

/-- A block quote. -/
def isQuoteLine (line : List Char) : Bool :=
  line.head? = some '>'

/-- An item of a list: a bullet or a number, and behind it a blank or nothing. Markdown takes
    numbers of nine digits at most. Here they may have any length. -/
def isItemLine (line : List Char) : Bool :=
  match line with
  | [] => false
  | c :: rest =>
    (isBullet c && endsMarker rest) ||
      (c.isDigit &&
        match line.dropWhile Char.isDigit with
        | [] => false
        | mark :: after => (mark = '.' || mark = ')') && endsMarker after)

/-- A thematic break: at least three of one of its marks, and blanks between and behind them. -/
def isRuleLine (line : List Char) : Bool :=
  match line with
  | [] => false
  | mark :: _ =>
    (mark = '*' || mark = '-' || mark = '_') && 3 ≤ line.count mark &&
      line.all fun c => c = mark || c = ' ' || c = '\t'

/-- An underline: as many of its marks as one likes, and blanks behind them. -/
def isUnderline (mark : Char) (line : List Char) : Bool :=
  line.head? = some mark && (line.dropWhile (· = mark)).all fun c => c = ' ' || c = '\t'

/-- What a line of a text and the line that is written for it have in common. -/
structure Keeps (line written : List Char) : Prop where
  heading : isHeadingLine written = false
  quote : isQuoteLine written = false
  item : isItemLine written = false
  rule : isRuleLine written = true ↔ isRuleLine line = true ∧ ['-', '-'] <+: line
  dashes : isUnderline '-' written = true ↔ isUnderline '-' line = true ∧ ['-', '-'] <+: line
  equals : isUnderline '=' written = isUnderline '=' line

/-- A mark that is no marker of an item. -/
theorem isItemLine_cons {c : Char} {rest : List Char}
    (hc : isBullet c = true → endsMarker rest = false) (hdigit : c.isDigit = false) :
    isItemLine (c :: rest) = false := by
  cases hbullet : isBullet c with
  | true => simp [isItemLine, hc hbullet, hdigit]
  | false => simp [isItemLine, hbullet, hdigit]

/-- A line that begins with none of their marks is no heading, no quote, no thematic break and no
    underline. -/
theorem keeps_of_cons {c : Char} (hc : c ∉ ['#', '>', '*', '-', '_', '=']) {line rest : List Char}
    (hitem : isItemLine (c :: rest) = false) (hdashes : ¬ ['-', '-'] <+: line)
    (hequals : line.head? ≠ some '=') : Keeps line (c :: rest) := by
  simp only [List.mem_cons, List.not_mem_nil, or_false, not_or] at hc
  rcases hc with ⟨hsign, hquote, hstar, hdash, hscore, hdouble⟩
  constructor
  · simp [isHeadingLine, countWhile, hsign]
  · simp [isQuoteLine, hquote]
  · exact hitem
  · simp [isRuleLine, hstar, hdash, hscore, hdashes]
  · simp [isUnderline, hdash, hdashes]
  · simp [isUnderline, hdouble, hequals]

/-- A line that begins with a backslash is none of these. -/
theorem keeps_of_backslash {line rest : List Char} (hdashes : ¬ ['-', '-'] <+: line)
    (hequals : line.head? ≠ some '=') : Keeps line ('\\' :: rest) :=
  keeps_of_cons (by decide) (isItemLine_cons (fun h => absurd h (by decide)) rfl) hdashes hequals

/-- Behind the digits of a number stands no mark of an item any more. -/
theorem escapeLineStart_digit {c : Char} (hc : c.isDigit = true) (rest : List Char) :
    ∃ rest', escapeLineStart (c :: rest) = c :: rest' ∧ isItemLine (c :: rest') = false := by
  have hbullet : isBullet c = false := by
    refine Bool.eq_false_iff.mpr fun hbullet => ?_
    simp only [isBullet, Bool.or_eq_true, decide_eq_true_eq] at hbullet
    rcases hbullet with (rfl | rfl) | rfl <;> exact absurd hc (by decide)
  rw [escapeLineStart_number hc]
  simp only [isItemLine, hbullet, hc, Bool.false_and, Bool.false_or, Bool.true_and, if_true,
    List.takeWhile_cons, List.dropWhile_cons]
  split
  · next mark after hafter =>
      split
      · refine ⟨_, List.cons_append, ?_⟩
        -- Now a backslash comes first.
        have hdigits : (rest.takeWhile Char.isDigit ++ '\\' :: mark :: after).dropWhile
            Char.isDigit = '\\' :: mark :: after := by
          rw [List.dropWhile_append_of_pos fun d hd => List.mem_takeWhile_imp hd]
          rfl
        rw [hdigits]
        rfl
      · next hmark =>
          refine ⟨rest, rfl, ?_⟩
          rw [hafter]
          exact Bool.eq_false_iff.mpr hmark
  · next hnil =>
      refine ⟨rest, rfl, ?_⟩
      rw [hnil]

/-- The characters of a thematic break or an underline. -/
theorem mem_of_isRuleLine {mark : Char} {rest : List Char} (h : isRuleLine (mark :: rest) = true) :
    ∀ c ∈ mark :: rest, c = mark ∨ c = ' ' ∨ c = '\t' := by
  simp only [isRuleLine, Bool.and_eq_true, List.all_eq_true, Bool.or_eq_true,
    decide_eq_true_eq] at h
  intro c hc
  exact or_assoc.mp (h.2 c hc)

theorem mem_of_isUnderline {mark : Char} {line : List Char} (h : isUnderline mark line = true) :
    ∀ c ∈ line, c = mark ∨ c = ' ' ∨ c = '\t' := by
  simp only [isUnderline, Bool.and_eq_true, List.all_eq_true, Bool.or_eq_true,
    decide_eq_true_eq] at h
  intro c hc
  rw [← List.takeWhile_append_dropWhile (p := fun d => decide (d = mark)) (l := line),
    List.mem_append] at hc
  rcases hc with hc | hc
  · exact .inl (by simpa using List.mem_takeWhile_imp hc)
  · exact .inr (h.2 c hc)

/-- A dash that is no marker has another one behind it, if there is nothing but dashes and
    blanks. -/
theorem dashes_prefix {rest : List Char} (hmarker : endsMarker rest = false)
    (hplain : ∀ c ∈ '-' :: rest, c = '-' ∨ c = ' ' ∨ c = '\t') : ['-', '-'] <+: '-' :: rest := by
  cases rest with
  | nil => exact absurd hmarker (by decide)
  | cons d rest =>
      simp only [endsMarker, Bool.or_eq_false_iff, decide_eq_false_iff_not] at hmarker
      have hd : d = '-' := (hplain d (by simp)).resolve_right fun h => h.elim hmarker.1 hmarker.2
      rw [hd]
      exact ⟨rest, rfl⟩

/-- What is written for a text is a thematic break or an underline if the text is, for these hold
    nothing that has a backslash. -/
theorem congr_of_plain {before : Option Char} {line written : List Char} {mark : Char}
    {p : List Char → Bool} (h : TextForm before line written) (hmark : mark = '-' ∨ mark = '=')
    (hp : ∀ l, (l = line ∨ l = written) → p l = true → ∀ c ∈ l, c = mark ∨ c = ' ' ∨ c = '\t') :
    p written = p line := by
  have hplain {c : Char} (hc : c = mark ∨ c = ' ' ∨ c = '\t') :
      c ≠ '\\' ∧ isEscapable c = false := by
    rcases hc with rfl | rfl | rfl
    · rcases hmark with rfl | rfl <;> decide
    · decide
    · decide
  exact h.congr (fun hw c hc => (hplain (hp written (.inr rfl) hw c hc)).1)
    fun hl c hc => (hplain (hp line (.inl rfl) hl c hc)).2

/-- What stands behind a marker is not escaped. -/
theorem endsMarker_written {before : Option Char} {line written : List Char}
    (h : TextForm before line written) : endsMarker written = endsMarker line := by
  cases h with
  | nil => rfl
  | bare _ _ _ => rfl
  | @marked _ c cs written hc _ =>
      have hspace : c ≠ ' ' := by
        rintro rfl
        exact absurd hc (by decide)
      have htab : c ≠ '\t' := by
        rintro rfl
        exact absurd hc (by decide)
      simp [endsMarker, hspace, htab]

/-- A line that begins with a dash. The dash is a marker and gets a backslash, or it stays and the
    line is what the text is. -/
theorem keeps_dash {rest written : List Char} (h : TextForm (some '-') rest written)
    {before : Option Char} (hline : TextForm before ('-' :: rest) ('-' :: written)) :
    Keeps ('-' :: rest) (escapeLineStart ('-' :: written)) := by
  have hdigit : ('-').isDigit = false := rfl
  cases hmarker : endsMarker written with
  | true =>
      have hstart : escapeLineStart ('-' :: written) = '\\' :: '-' :: written := by
        simp [escapeLineStart, hmarker]
      rw [hstart]
      refine keeps_of_backslash (fun hdashes => ?_) (by simp)
      -- A marker has a blank behind it, so the text has no second dash.
      rw [endsMarker_written h] at hmarker
      rcases (List.cons_prefix_cons.mp hdashes).2 with ⟨tail, rfl⟩
      exact absurd hmarker (by simp [endsMarker])
  | false =>
      have hstart : escapeLineStart ('-' :: written) = '-' :: written := by
        simp [escapeLineStart, hmarker, hdigit]
      have hmarker' : endsMarker rest = false := by
        rw [← endsMarker_written h, hmarker]
      have hrule : isRuleLine ('-' :: written) = isRuleLine ('-' :: rest) := by
        refine congr_of_plain hline (.inl rfl) ?_
        rintro l (rfl | rfl) hl <;> exact mem_of_isRuleLine hl
      have hunder : isUnderline '-' ('-' :: written) = isUnderline '-' ('-' :: rest) :=
        congr_of_plain hline (.inl rfl) fun l _ hl => mem_of_isUnderline hl
      rw [hstart]
      constructor
      · simp [isHeadingLine, countWhile]
      · simp [isQuoteLine]
      · exact isItemLine_cons (fun _ => hmarker) hdigit
      · rw [hrule, iff_self_and]
        exact fun hl => dashes_prefix hmarker' (mem_of_isRuleLine hl)
      · rw [hunder, iff_self_and]
        exact fun hl => dashes_prefix hmarker' (mem_of_isUnderline hl)
      · simp [isUnderline]

/-- A line that begins with an equals sign is not changed. -/
theorem keeps_equals {rest written : List Char} {before : Option Char}
    (hline : TextForm before ('=' :: rest) ('=' :: written)) :
    Keeps ('=' :: rest) (escapeLineStart ('=' :: written)) := by
  have hdigit : ('=').isDigit = false := rfl
  have hstart : escapeLineStart ('=' :: written) = '=' :: written := by
    simp [escapeLineStart, hdigit]
  rw [hstart]
  constructor
  · simp [isHeadingLine, countWhile]
  · simp [isQuoteLine]
  · exact isItemLine_cons (fun h => absurd h (by decide)) hdigit
  · simp [isRuleLine]
  · simp [isUnderline]
  · exact congr_of_plain hline (.inr rfl) fun l _ hl => mem_of_isUnderline hl

/-- A line that begins with another character as it stands. If it would begin a block, it gets a
    backslash, and otherwise it is not changed. -/
theorem keeps_bare {c : Char} (hc : isAlwaysEscaped c = false) (hscore : c ≠ '_')
    (hdash : c ≠ '-') {line written : List Char} (hdashes : ¬ ['-', '-'] <+: line)
    (hequals : c ≠ '=') (hdouble : line.head? ≠ some '=') :
    Keeps line (escapeLineStart (c :: written)) := by
  by_cases hsign : c = '#' ∨ c = '>'
  · -- A heading or a block quote.
    have hstart : escapeLineStart (c :: written) = '\\' :: c :: written := by
      simp [escapeLineStart, hsign]
    rw [hstart]
    exact keeps_of_backslash hdashes hdouble
  have hstar : c ≠ '*' := by
    rintro rfl
    exact absurd hc (by decide)
  have hmarks : c ∉ ['#', '>', '*', '-', '_', '='] := by
    simp only [List.mem_cons, List.not_mem_nil, or_false]
    rintro (rfl | rfl | h | h | h | h) <;> simp_all
  by_cases hdigit : c.isDigit = true
  · -- A number.
    rcases escapeLineStart_digit hdigit written with ⟨rest, hstart, hitem⟩
    rw [hstart]
    exact keeps_of_cons hmarks hitem hdashes hdouble
  by_cases hbullet : c = '+' ∧ endsMarker written = true
  · -- A bullet.
    have hstart : escapeLineStart (c :: written) = '\\' :: c :: written := by
      simp [escapeLineStart, hbullet]
    rw [hstart]
    exact keeps_of_backslash hdashes hdouble
  have hmarker : c = '+' → endsMarker written = false :=
    fun hplus => Bool.eq_false_iff.mpr fun hends => hbullet ⟨hplus, hends⟩
  have hstart : escapeLineStart (c :: written) = c :: written := by
    by_cases hplus : c = '+'
    · simp [escapeLineStart, hplus, hmarker hplus, show ('+').isDigit = false from rfl]
    · simp [escapeLineStart, hsign, hdash, hplus, hdigit]
  -- Of the bullets only a plus sign is left, and it is no marker here.
  rw [hstart]
  refine keeps_of_cons hmarks
    (isItemLine_cons (fun hmark => ?_) (Bool.eq_false_iff.mpr hdigit)) hdashes hdouble
  simp only [isBullet, hdash, hstar, decide_false, Bool.false_or, Bool.or_false,
    decide_eq_true_eq] at hmark
  exact hmarker hmark

/-- The line that is written begins no block, unless it begins with two dashes or is an underline of
    equals signs. -/
theorem keeps_escapeLineStart {before : Option Char} {line written : List Char}
    (h : TextForm before line written) (hbefore : before.any Text.isAlphanumeric = false) :
    Keeps line (escapeLineStart written) := by
  have hhead {c : Char} (hc : c ≠ '-' ∧ c ≠ '=') (cs : List Char) :
      ¬ ['-', '-'] <+: c :: cs ∧ (c :: cs).head? ≠ some '=' :=
    ⟨fun hdashes => hc.1 (List.cons_prefix_cons.mp hdashes).1.symm,
      fun h => hc.2 (Option.some.inj h)⟩
  have hline := h
  cases h with
  | nil => exact ⟨rfl, rfl, rfl, by simp [escapeLineStart, isRuleLine],
      by simp [escapeLineStart, isUnderline], rfl⟩
  | @marked _ c cs written hc h =>
      have hstart : escapeLineStart ('\\' :: c :: written) = '\\' :: c :: written := rfl
      have hne : c ≠ '-' ∧ c ≠ '=' := by
        constructor <;> rintro rfl <;> exact absurd hc (by decide)
      rw [hstart]
      exact keeps_of_backslash (hhead hne cs).1 (hhead hne cs).2
  | @bare _ c cs written hc hscore h =>
      by_cases hdash : c = '-'
      · subst hdash
        exact keeps_dash h hline
      by_cases hequals : c = '='
      · subst hequals
        exact keeps_equals hline
      have hunder : c ≠ '_' := by
        intro hunder
        have hword := hscore hunder
        rw [isIntraword, hbefore, Bool.false_and] at hword
        exact Bool.noConfusion hword
      rcases hhead ⟨hdash, hequals⟩ cs with ⟨hdashes, hdouble⟩
      exact keeps_bare hc hunder hdash hdashes hequals hdouble

/-- Only backslashes are added to a line. -/
theorem mem_escapeLineStart {line : List Char} {c : Char} (hc : c ∈ escapeLineStart line) :
    c = '\\' ∨ c ∈ line := by
  unfold escapeLineStart at hc
  split at hc
  · exact .inr hc
  · next d rest =>
      split at hc
      · exact List.mem_cons.mp hc
      · split at hc
        · exact List.mem_cons.mp hc
        · split at hc
          · -- A number. The backslash stands in front of what is behind the digits.
            dsimp only at hc
            split at hc
            · next mark after hafter =>
                split at hc
                · have hline := List.takeWhile_append_dropWhile (p := Char.isDigit) (l := d :: rest)
                  rw [hafter] at hline
                  rw [← hline]
                  simp only [List.mem_append, List.mem_cons] at hc ⊢
                  rcases hc with hc | rfl | hc
                  · exact .inr (.inl hc)
                  · exact .inl rfl
                  · exact .inr (.inr hc)
                · exact .inr hc
            · exact .inr hc
          · exact .inr hc

/-- The lines of a written paragraph, one by one. -/
theorem lines_keep (value : List Char) :
    List.Forall₂ Keeps (Text.lines value) (Text.lines (escapeLineStarts (escapeText value))) := by
  rcases (textForm_escapeFrom (blockBraces value) 0 none value).lines with
    ⟨l, ls, w, ws, hvalue, hwritten, hline, hothers⟩
  have hlines : Text.lines (escapeLineStarts (escapeText value)) =
      (w :: ws).map escapeLineStart := by
    rw [escapeLineStarts, escapeText, hwritten]
    refine Text.lines_unlines (List.cons_ne_nil _ _) (List.forall_mem_map.mpr fun line hmem => ?_)
    intro hfeed
    rw [← hwritten] at hmem
    rcases mem_escapeLineStart hfeed with hslash | hfeed
    · exact absurd hslash (by decide)
    · exact Text.feed_not_mem_of_mem_lines hmem hfeed
  rw [hvalue, hlines, List.forall₂_map_right_iff]
  exact .cons (keeps_escapeLineStart hline rfl)
    (hothers.imp fun _ _ h => keeps_escapeLineStart h rfl)

/-- Lists that are related element by element have related elements at each index. -/
theorem getElem?_of_forall₂ {α β : Type} {R : α → β → Prop} {as : List α} {bs : List β}
    (h : List.Forall₂ R as bs) (i : Nat) :
    (as[i]? = none ∧ bs[i]? = none) ∨ ∃ a b, as[i]? = some a ∧ bs[i]? = some b ∧ R a b := by
  induction h generalizing i with
  | nil => exact .inl ⟨rfl, rfl⟩
  | cons hab _ ih =>
      cases i with
      | zero => exact .inr ⟨_, _, rfl, rfl, hab⟩
      | succ i => exact ih i

/-- The line with this index begins another block than a paragraph, with a number sign, a
    greater-than sign, a dash, a plus sign, an asterisk or a digit. The first line underlines
    nothing. -/
def opensBlock (i : Nat) (line : List Char) : Bool :=
  isHeadingLine line || isQuoteLine line || isItemLine line || isRuleLine line ||
    (0 < i && isUnderline '-' line)

theorem Keeps.opensBlock_iff {line written : List Char} (h : Keeps line written) (i : Nat) :
    opensBlock i written = true ↔
      ['-', '-'] <+: line ∧ (isRuleLine line = true ∨ 0 < i ∧ isUnderline '-' line = true) := by
  simp only [opensBlock, h.heading, h.quote, h.item, Bool.false_or, Bool.or_eq_true,
    Bool.and_eq_true, decide_eq_true_eq, h.rule, h.dashes]
  tauto

/-- In the rendering of a paragraph with one text no line begins another block, except where a line
    of the text begins with two dashes and is a thematic break, or, behind another line, an
    underline. These are written as they are. Line by line, the rendering is a thematic break or an
    underline if the text is and begins so, and it is never anything else. A line ends here at a
    line feed only, as for the renderer; the Markdown modules end one at a carriage return, too. -/
theorem paragraph_lines_keep {h : Handlers} (hparagraph : h.get? .paragraph = none)
    (htext : h.get? .text = none) (o : RenderOptions) {n t : Node} {value : String}
    (hkind : n.kind = .paragraph) (hchildren : n.children = [t]) (hvalue : t.kind = .text value) :
    ∃ out, n.render h o = .ok out ∧
      List.Forall₂ Keeps (Text.lines value.toList) (Text.lines out.toList) ∧
      ((∀ i line, (Text.lines out.toList)[i]? = some line → opensBlock i line = false) ↔
        ∀ i line, (Text.lines value.toList)[i]? = some line → ['-', '-'] <+: line →
          isRuleLine line = false ∧ (0 < i → isUnderline '-' line = false)) := by
  have hlines := lines_keep value.toList
  have hout : n.render h o =
      .ok (String.ofList (escapeLineStarts (escapeText value.toList))) := by
    rw [Node.render_of_kind o hkind hparagraph rfl, hchildren, List.map_singleton,
      Builtin.paragraph, Rendering.inline_singleton (Node.output_text htext o hvalue)]
    simp only [bind, Except.bind, String.toList_ofList]
    rfl
  refine ⟨_, hout, by rw [String.toList_ofList]; exact hlines, ?_⟩
  rw [String.toList_ofList]
  constructor
  · -- The lines correspond one to one, so the line at an index is asked for on both sides.
    intro hclear i line hline hdashes
    rcases getElem?_of_forall₂ hlines i with ⟨hnone, -⟩ | ⟨_, written, hsome, hwritten, hkeeps⟩
    · rw [hnone] at hline
      exact absurd hline (Option.some_ne_none line).symm
    rw [hsome, Option.some.injEq] at hline
    subst hline
    have hopens := (hkeeps.opensBlock_iff i).not.mp
      (Bool.eq_false_iff.mp (hclear i written hwritten))
    constructor
    · exact Bool.eq_false_iff.mpr fun hrule => hopens ⟨hdashes, .inl hrule⟩
    · exact fun hi => Bool.eq_false_iff.mpr fun hunder => hopens ⟨hdashes, .inr ⟨hi, hunder⟩⟩
  · intro hclear i written hwritten
    rcases getElem?_of_forall₂ hlines i with ⟨-, hnone⟩ | ⟨line, _, hline, hsome, hkeeps⟩
    · rw [hnone] at hwritten
      exact absurd hwritten (Option.some_ne_none written).symm
    rw [hsome, Option.some.injEq] at hwritten
    subst hwritten
    refine Bool.eq_false_iff.mpr ((hkeeps.opensBlock_iff i).not.mpr ?_)
    rintro ⟨hdashes, hrule | ⟨hi, hunder⟩⟩
    · rw [(hclear i line hline hdashes).1] at hrule
      exact Bool.noConfusion hrule
    · rw [(hclear i line hline hdashes).2 hi] at hunder
      exact Bool.noConfusion hunder

/-- Lines that would begin a heading, a quote and an item, and one with two dashes that begins
    nothing. -/
theorem paragraph_lines_keep_escaped :
    let t : Node := { kind := .text "# a\n> b\n12) c\n-- d\n***" }
    let n : Node := { kind := .paragraph, children := [t] }
    let out := "\\# a\n\\> b\n12\\) c\n-- d\n\\*\\*\\*"
    Handlers.empty.get? .paragraph = none ∧ Handlers.empty.get? .text = none ∧
      n.render Handlers.empty {} = .ok out ∧
      ∀ i line, (Text.lines out.toList)[i]? = some line → opensBlock i line = false := by
  intro t n out
  have hout : n.render Handlers.empty {} = .ok out := rfl
  rcases paragraph_lines_keep (h := Handlers.empty) (n := n) (t := t) rfl rfl {} rfl rfl rfl with
    ⟨out', hrender, -, hopens⟩
  rw [hout, Except.ok.injEq] at hrender
  subst hrender
  have hclear : ∀ line ∈ Text.lines "# a\n> b\n12) c\n-- d\n***".toList, ['-', '-'] <+: line →
      isRuleLine line = false ∧ isUnderline '-' line = false := by decide
  refine ⟨rfl, rfl, hout, hopens.mpr fun i line hline hdashes => ?_⟩
  rcases hclear line (List.mem_of_getElem? hline) hdashes with ⟨hrule, hunder⟩
  exact ⟨hrule, fun _ => hunder⟩

/-- Dashes are written as they are. Alone in a paragraph they are read as a thematic break, and
    behind another line as the underline of a heading. -/
theorem paragraph_dashes_open :
    let n : Node := { kind := .paragraph, children := [{ kind := .text "---" }] }
    let m : Node := { kind := .paragraph, children := [{ kind := .text "a\n--" }] }
    n.render Handlers.empty {} = .ok "---" ∧ isRuleLine "---".toList = true ∧
      (Node.ofMarkdown {} "---").children.map Node.type = [.thematicBreak] ∧
      m.render Handlers.empty {} = .ok "a\n--" ∧ isUnderline '-' "--".toList = true ∧
      (Node.ofMarkdown {} "a\n--").children.map Node.type = [.heading] := by
  intro n m
  have hbreak : (Node.ofMarkdown {} "---").children.map Node.type = [.thematicBreak] := by decide
  have hheading : (Node.ofMarkdown {} "a\n--").children.map Node.type = [.heading] := by decide
  exact ⟨rfl, by decide, hbreak, rfl, by decide, hheading⟩

end Anchormark
