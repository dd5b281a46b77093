import Anchormark.Proofs.Text.Lines
import Anchormark.Render.Escape
import Anchormark.Text.Punctuation
import Mathlib.Data.List.Forall2
import Mathlib.Data.List.TakeWhile

/-!
# Reading an Escaped Text

What the renderer writes for a text is read from the left: a backslash in front of ASCII
punctuation goes and leaves the character behind it as plain text, and everything else stands for
itself. So each character that is read either had a backslash of its own or stood there bare.

Three passes put backslashes in, one for the characters of a text, one for the starts of lines and
one for the pipes of a table cell, and a later pass sees the backslashes of an earlier one. What
none of them does is put a backslash into the middle of a pair or leave one of the text bare.
`Spells` says this much of a writing and no more, so it is kept by every pass, and whatever is
spelled is read back.

Which characters get a backslash is a matter of the first pass alone. The underscore is the one
that it leaves to its neighbours, and these are letters or digits, which are never escaped, so
they still stand beside it in what is written.

## Main definitions

* `Glyph`: a character with or without a backslash of its own.
* `read`: the glyphs of what is written.
* `unescape`: the text that is read.
* `Spells`: a writing of a text that is read back as the text.

## Theorems

* `Spells.unescape_eq`: What is spelled is read back.
* `escapeFrom_step`: What the first pass does with one character.
* `spells_escapeFrom`, `Spells.escapeLineStarts`, `spells_escapePipes`: The passes spell the text.
* `read_escapeFrom`: Which characters have a backslash, and between which others do not.
* `escaping_reads_back`: Escaping loses nothing and marks what it is to mark.
-/

namespace Anchormark

namespace Text

/-- Punctuation of ASCII is neither a letter nor a digit. -/
theorem isAlphanumeric_of_isAsciiPunctuation {c : Char} (h : isAsciiPunctuation c = true) :
    isAlphanumeric c = false := by
  simp only [isAsciiPunctuation, Bool.or_eq_true, Bool.and_eq_true, decide_eq_true_eq] at h
  have hascii : c.toNat < 0x80 := by omega
  rw [isAlphanumeric, if_pos hascii, Bool.eq_false_iff]
  intro hword
  have hval : c.val.toNat = c.toNat := rfl
  have hends : 'A'.val.toNat = 65 ∧ 'Z'.val.toNat = 90 ∧ 'a'.val.toNat = 97 ∧
      'z'.val.toNat = 122 ∧ '0'.val.toNat = 48 ∧ '9'.val.toNat = 57 := by decide
  rcases Bool.or_eq_true_iff.mp hword with hletter | hdigit
  · rcases Bool.or_eq_true_iff.mp hletter with hupper | hlower
    · have hrange := of_decide_eq_true hupper
      simp only [ge_iff_le, UInt32.le_iff_toNat_le] at hrange
      omega
    · have hrange := Bool.and_eq_true_iff.mp hlower
      simp only [decide_eq_true_eq, ge_iff_le, UInt32.le_iff_toNat_le] at hrange
      omega
  · have hrange := Bool.and_eq_true_iff.mp hdigit
    simp only [decide_eq_true_eq, ge_iff_le, UInt32.le_iff_toNat_le] at hrange
    omega

end Text

namespace Escape

/-- A character that is read, and whether it had a backslash of its own. -/
structure Glyph where
  char : Char
  escaped : Bool
  deriving DecidableEq, Repr

/-- The glyphs of what is written, from the left. A backslash in front of ASCII punctuation
    escapes it. -/
def read : List Char → List Glyph
  | [] => []
  | [c] => [⟨c, false⟩]
  | c :: d :: rest =>
    if c = '\\' && Text.isAsciiPunctuation d then ⟨d, true⟩ :: read rest
    else ⟨c, false⟩ :: read (d :: rest)

/-- What is written without the backslashes that escape a character. -/
def unescape (written : List Char) : List Char :=
  (read written).map Glyph.char

/-- `written` says `cs` with backslashes in front of some punctuation, and in front of every
    backslash of `cs`. -/
inductive Spells : (written cs : List Char) → Prop
  | nil : Spells [] []
  | bare {c : Char} {written cs : List Char} (hc : c ≠ '\\') (h : Spells written cs) :
      Spells (c :: written) (c :: cs)
  | marked {c : Char} {written cs : List Char} (hc : Text.isAsciiPunctuation c = true)
      (h : Spells written cs) : Spells ('\\' :: c :: written) (c :: cs)

theorem read_bare {c : Char} (hc : c ≠ '\\') (rest : List Char) :
    read (c :: rest) = ⟨c, false⟩ :: read rest := by
  cases rest with
  | nil => rfl
  | cons d rest => simp only [read, hc, decide_false, Bool.false_and, Bool.false_eq_true, if_false]

theorem read_marked {c : Char} (hc : Text.isAsciiPunctuation c = true) (rest : List Char) :
    read ('\\' :: c :: rest) = ⟨c, true⟩ :: read rest := by
  simp only [read, hc, decide_true, Bool.true_and, if_true]

/-- What is spelled is read back. -/
theorem Spells.unescape_eq {written cs : List Char} (h : Spells written cs) :
    unescape written = cs := by
  induction h with
  | nil => rfl
  | bare hc _ ih =>
      rw [unescape] at ih
      rw [unescape, read_bare hc, List.map_cons, ih]
  | marked hc _ ih =>
      rw [unescape] at ih
      rw [unescape, read_marked hc, List.map_cons, ih]

theorem Spells.append {written written' cs cs' : List Char} (h : Spells written cs)
    (h' : Spells written' cs') : Spells (written ++ written') (cs ++ cs') := by
  induction h with
  | nil => exact h'
  | bare hc _ ih => exact .bare hc ih
  | marked hc _ ih => exact .marked hc ih

/-- What has no backslash spells itself. -/
theorem spells_self {cs : List Char} (h : '\\' ∉ cs) : Spells cs cs := by
  induction cs with
  | nil => exact .nil
  | cons c cs ih =>
      rw [List.mem_cons, not_or] at h
      exact .bare (Ne.symm h.1) (ih h.2)

/-- Another character than a backslash stands for itself. -/
theorem Spells.of_cons {c : Char} (hc : c ≠ '\\') {written cs : List Char}
    (h : Spells (c :: written) cs) : ∃ cs', cs = c :: cs' ∧ Spells written cs' := by
  cases h with
  | bare _ h => exact ⟨_, rfl, h⟩
  | marked _ _ => exact absurd rfl hc

/-- A front without backslashes is the front of the text. -/
theorem Spells.of_append {front written cs : List Char} (hfront : '\\' ∉ front)
    (h : Spells (front ++ written) cs) : ∃ cs', cs = front ++ cs' ∧ Spells written cs' := by
  induction front generalizing cs with
  | nil => exact ⟨cs, rfl, h⟩
  | cons c front ih =>
      rw [List.mem_cons, not_or] at hfront
      rcases Spells.of_cons (Ne.symm hfront.1) h with ⟨cs', rfl, hrest⟩
      rcases ih hfront.2 hrest with ⟨cs', rfl, hwritten⟩
      exact ⟨cs', rfl, hwritten⟩

/-- A backslash may be put in front of punctuation that has none. -/
theorem Spells.mark {front written cs : List Char} {c : Char} (hfront : '\\' ∉ front)
    (hbare : c ≠ '\\') (hc : Text.isAsciiPunctuation c = true)
    (h : Spells (front ++ c :: written) cs) : Spells (front ++ '\\' :: c :: written) cs := by
  rcases h.of_append hfront with ⟨cs', rfl, hrest⟩
  rcases hrest.of_cons hbare with ⟨cs', rfl, hwritten⟩
  exact (spells_self hfront).append (.marked hc hwritten)

/-- The lines of what is written spell the lines of the text: no line feed is escaped. -/
theorem Spells.lines {written cs : List Char} (h : Spells written cs) :
    ∃ css, List.Forall₂ Spells (Text.lines written) css ∧ Text.unlines css = cs := by
  have hgrow (c : Char) (l : List Char) (ls : List (List Char)) :
      Text.unlines ((c :: l) :: ls) = c :: Text.unlines (l :: ls) := by
    cases ls <;> rfl
  induction h with
  | nil => exact ⟨[[]], .cons .nil .nil, rfl⟩
  | @bare c written cs hc _ ih =>
      rcases ih with ⟨css, hspells, rfl⟩
      rcases List.exists_cons_of_ne_nil (Text.lines_ne_nil written) with ⟨line, others, hlines⟩
      rw [hlines] at hspells
      rw [Text.lines, hlines]
      cases hspells with
      | @cons _ l _ ls hline hothers =>
          -- A line feed begins a line, and any other character grows the first one.
          by_cases hfeed : c = '\n'
          · rw [if_pos hfeed]
            exact ⟨[] :: l :: ls, .cons .nil (.cons hline hothers),
              (Text.unlines_cons_cons [] l ls).trans (by rw [hfeed]; rfl)⟩
          · rw [if_neg hfeed]
            exact ⟨(c :: l) :: ls, .cons (.bare hc hline) hothers, hgrow c l ls⟩
  | @marked c written cs hc _ ih =>
      rcases ih with ⟨css, hspells, rfl⟩
      rcases List.exists_cons_of_ne_nil (Text.lines_ne_nil written) with ⟨line, others, hlines⟩
      -- Neither the backslash nor what it escapes is a line feed.
      have hfeed : '\n' ∉ ['\\', c] := by
        rw [List.mem_cons, List.mem_singleton, not_or]
        refine ⟨by decide, ?_⟩
        rintro rfl
        exact absurd hc (by decide)
      rw [hlines] at hspells
      rw [show '\\' :: c :: written = ['\\', c] ++ written from rfl,
        Text.lines_append hfeed hlines]
      cases hspells with
      | @cons _ l _ ls hline hothers =>
          exact ⟨(c :: l) :: ls, .cons (.marked hc hline) hothers, hgrow c l ls⟩

/-- Lines that spell lines spell the text that these make up. -/
theorem spells_unlines {ls css : List (List Char)} (h : List.Forall₂ Spells ls css) :
    Spells (Text.unlines ls) (Text.unlines css) := by
  induction h with
  | nil => exact .nil
  | cons hline hothers ih =>
      cases hothers with
      | nil => exact hline
      | cons _ _ =>
          rw [Text.unlines_cons_cons, Text.unlines_cons_cons]
          exact hline.append (.bare (by decide) ih)

/-- At the start of a line a backslash is put in front of bare punctuation, or none is. -/
theorem Spells.escapeLineStart {line cs : List Char} (h : Spells line cs) :
    Spells (escapeLineStart line) cs := by
  have hfirst {c : Char} {rest : List Char} (hbare : c ≠ '\\')
      (hc : Text.isAsciiPunctuation c = true) (h : Spells (c :: rest) cs) :
      Spells ('\\' :: c :: rest) cs :=
    Spells.mark List.not_mem_nil hbare hc h
  unfold Escape.escapeLineStart
  split
  · exact h
  · next c rest =>
      split
      · next hc =>
          -- A heading or a block quote.
          rw [Bool.or_eq_true, decide_eq_true_eq, decide_eq_true_eq] at hc
          rcases hc with rfl | rfl <;> exact hfirst (by decide) (by decide) h
      · split
        · next hc =>
            -- A bullet.
            rw [Bool.and_eq_true, Bool.or_eq_true, decide_eq_true_eq, decide_eq_true_eq] at hc
            rcases hc.1 with rfl | rfl <;> exact hfirst (by decide) (by decide) h
        · split
          · -- A number. The backslash goes behind the digits, which have none.
            dsimp only
            split
            · next mark after hafter =>
                split
                · next hmark =>
                    rw [Bool.and_eq_true, Bool.or_eq_true, decide_eq_true_eq,
                      decide_eq_true_eq] at hmark
                    have hdigits : '\\' ∉ (c :: rest).takeWhile Char.isDigit := fun hmem =>
                      absurd (List.mem_takeWhile_imp hmem) (by decide)
                    have hline := List.takeWhile_append_dropWhile (p := Char.isDigit)
                      (l := c :: rest)
                    rw [hafter] at hline
                    rw [← hline] at h
                    rcases hmark.1 with rfl | rfl <;>
                      exact h.mark hdigits (by decide) (by decide)
                · exact h
            · exact h
          · exact h

/-- The starts of lines are escaped without a loss. -/
theorem Spells.escapeLineStarts {written cs : List Char} (h : Spells written cs) :
    Spells (escapeLineStarts written) cs := by
  rcases h.lines with ⟨css, hspells, rfl⟩
  refine spells_unlines ?_
  rw [List.forall₂_map_left_iff]
  exact hspells.imp fun _ _ hline => hline.escapeLineStart

/-- One character of a text is written bare or behind a backslash. Some always have one, an
    underscore unless it stands between letters and digits, and a pipe has none. -/
theorem escapeFrom_step (braces : List Nat) (i : Nat) (before : Option Char) (c : Char)
    (cs : List Char) :
    ∃ marks : Bool, (marks = true → Text.isAsciiPunctuation c = true ∧ c ≠ '|') ∧
      (c ∈ "\\*\x60[]<".toList → marks = true) ∧
      (c = '_' → marks = false → isIntraword before cs.head? = true) ∧
      escapeFrom braces i before (c :: cs) =
        if marks then '\\' :: c :: escapeFrom braces (i + 1) (some c) cs
        else c :: escapeFrom braces (i + 1) (some c) cs := by
  refine ⟨_, ?_, ?_, ?_, rfl⟩
  · intro hmarks
    -- Whatever the reason for the backslash is, the character is one that may have it.
    by_cases hunder : c = '_'
    · rw [hunder]
      decide
    by_cases hbrace : c = '{'
    · rw [hbrace]
      decide
    rw [if_neg hunder, if_neg hbrace] at hmarks
    simp only [isAlwaysEscaped, Bool.or_eq_true, decide_eq_true_eq] at hmarks
    rcases hmarks with ((((rfl | rfl) | rfl) | rfl) | rfl) | rfl <;> decide
  · intro hc
    have hlist : "\\*\x60[]<".toList = ['\\', '*', '\x60', '[', ']', '<'] := by decide
    simp only [hlist, List.mem_cons, List.not_mem_nil, or_false] at hc
    rcases hc with rfl | rfl | rfl | rfl | rfl | rfl <;> rfl
  · rintro rfl hmarks
    simpa using hmarks

/-- A text is spelled by what is written for it. -/
theorem spells_escapeFrom (braces : List Nat) (i : Nat) (before : Option Char) (cs : List Char) :
    Spells (escapeFrom braces i before cs) cs := by
  induction cs generalizing i before with
  | nil => exact .nil
  | cons c cs ih =>
      rcases escapeFrom_step braces i before c cs with ⟨marks, hpunct, halways, -, heq⟩
      rw [heq]
      cases marks with
      | true => exact .marked (hpunct rfl).1 (ih _ _)
      | false =>
          refine .bare (fun hc => ?_) (ih _ _)
          exact Bool.false_ne_true (halways (hc ▸ by decide))

/-- Escaping the pipes too loses nothing: none of them has a backslash yet. -/
theorem spells_escapePipes (braces : List Nat) (i : Nat) (before : Option Char) (cs : List Char) :
    Spells (escapePipes (escapeFrom braces i before cs)) cs := by
  have hcons (c : Char) (written : List Char) : escapePipes (c :: written) =
      (if c = '|' then ['\\', '|'] else [c]) ++ escapePipes written := List.flatMap_cons
  induction cs generalizing i before with
  | nil => exact .nil
  | cons c cs ih =>
      rcases escapeFrom_step braces i before c cs with ⟨marks, hpunct, halways, -, heq⟩
      have hrest := ih (i + 1) (some c)
      rw [heq]
      cases marks with
      | true =>
          rw [if_pos rfl, hcons, hcons, if_neg (by decide), if_neg (hpunct rfl).2]
          exact .marked (hpunct rfl).1 hrest
      | false =>
          rw [if_neg Bool.false_ne_true, hcons]
          split
          · next hc =>
              subst hc
              exact .marked (by decide) hrest
          · refine .bare (fun hc => ?_) hrest
            exact Bool.false_ne_true (halways (hc ▸ by decide))

/-- A character is read with a backslash of its own if it is one of those that always have it, and
    an underscore without one stands between a letter or digit and another. `before` is what stands
    in front of the text. -/
theorem read_escapeFrom (braces : List Nat) (i : Nat) (before : Option Char) (cs : List Char)
    {k : Nat} {c : Char} (hc : cs[k]? = some c) :
    ∃ g, (read (escapeFrom braces i before cs))[k]? = some g ∧ g.char = c ∧
      (c ∈ "\\*\x60[]<".toList → g.escaped = true) ∧
      (g.escaped = true → Text.isAsciiPunctuation c = true) ∧
      (c = '_' → g.escaped = false →
        ∃ b a, (before :: cs.map some)[k]? = some (some b) ∧ cs[k + 1]? = some a ∧
          Text.isAlphanumeric b = true ∧ Text.isAlphanumeric a = true) := by
  induction cs generalizing i before k with
  | nil => simp only [List.getElem?_nil, reduceCtorEq] at hc
  | cons d cs ih =>
      rcases escapeFrom_step braces i before d cs with ⟨marks, hpunct, halways, hunder, heq⟩
      -- The character and its backslash, if it has one, are read together.
      have hread : read (escapeFrom braces i before (d :: cs)) =
          ⟨d, marks⟩ :: read (escapeFrom braces (i + 1) (some d) cs) := by
        rw [heq]
        cases marks with
        | true => exact read_marked (hpunct rfl).1 _
        | false =>
            refine read_bare (fun hslash => ?_) _
            exact Bool.false_ne_true (halways (hslash ▸ by decide))
      rw [hread]
      cases k with
      | zero =>
          rw [List.getElem?_cons_zero, Option.some.injEq] at hc
          subst hc
          refine ⟨_, List.getElem?_cons_zero, rfl, halways, fun h => (hpunct h).1, ?_⟩
          intro hd hbare
          have hword := hunder hd hbare
          rw [isIntraword, Bool.and_eq_true, Option.any_eq_true, Option.any_eq_true] at hword
          rcases hword with ⟨⟨b, rfl, hb⟩, a, ha, hword⟩
          refine ⟨b, a, rfl, ?_, hb, hword⟩
          rw [List.getElem?_cons_succ, ← List.head?_eq_getElem?]
          exact ha
      | succ k =>
          -- What stands in front of the rest is this character.
          rw [List.getElem?_cons_succ] at hc
          rw [List.getElem?_cons_succ, List.getElem?_cons_succ, List.getElem?_cons_succ]
          exact ih (i + 1) (some d) hc

/-- Escaping loses nothing, whatever is escaped on top of it, and marks what it is to mark. In what
    is written for a text, each backslash of the text and each character that could start markup
    wherever it stands is read with a backslash of its own. An underscore without one stands right
    between two letters or digits. -/
theorem escaping_reads_back (cs : List Char) :
    unescape (escapeLineStarts (escapeText cs)) = cs ∧
      unescape (escapePipes (escapeText cs)) = cs ∧
      unescape (escapeText cs) = cs ∧
      ∀ k g, (read (escapeText cs))[k]? = some g →
        (g.char ∈ "\\*\x60[]<".toList → g.escaped = true) ∧
        (g = ⟨'_', false⟩ → ∃ j b a, k = j + 1 ∧
          (read (escapeText cs))[j]? = some ⟨b, false⟩ ∧
          (read (escapeText cs))[k + 1]? = some ⟨a, false⟩ ∧
          Text.isAlphanumeric b = true ∧ Text.isAlphanumeric a = true) := by
  have hspells : Spells (escapeText cs) cs := spells_escapeFrom _ _ _ cs
  refine ⟨hspells.escapeLineStarts.unescape_eq, (spells_escapePipes _ _ _ cs).unescape_eq,
    hspells.unescape_eq, fun k g hg => ?_⟩
  have hchar : cs[k]? = some g.char := by
    rw [← hspells.unescape_eq, unescape, List.getElem?_map, hg, Option.map_some]
  rcases read_escapeFrom (blockBraces cs) 0 none cs hchar with ⟨g', hg', -, halways, -, hunder⟩
  have hsame : g' = g := Option.some.inj (hg'.symm.trans hg)
  subst hsame
  refine ⟨halways, fun hbare => ?_⟩
  -- A letter or digit is no punctuation, so it is read bare.
  have hword {j : Nat} {b : Char} (hb : cs[j]? = some b) (halnum : Text.isAlphanumeric b = true) :
      (read (escapeText cs))[j]? = some ⟨b, false⟩ := by
    rcases read_escapeFrom (blockBraces cs) 0 none cs hb with ⟨⟨_, escaped⟩, hg, rfl, -, hpunct, -⟩
    cases escaped with
    | false => exact hg
    | true =>
        rw [Text.isAlphanumeric_of_isAsciiPunctuation (hpunct rfl)] at halnum
        exact absurd halnum Bool.false_ne_true
  rcases hunder (by rw [hbare]) (by rw [hbare]) with ⟨b, a, hb, ha, hbword, haword⟩
  cases k with
  | zero =>
      -- Nothing stands in front of the first character.
      rw [List.getElem?_cons_zero, Option.some.injEq] at hb
      exact absurd hb (Option.some_ne_none b).symm
  | succ j =>
      rw [List.getElem?_cons_succ, List.getElem?_map, Option.map_eq_some_iff] at hb
      rcases hb with ⟨b', hb', heq⟩
      rw [Option.some.injEq] at heq
      exact ⟨j, b, a, rfl, hword (heq ▸ hb') hbword, hword ha haword, hbword, haword⟩

/-- An underscore inside a word is written bare, and the characters around it are, too. -/
theorem escaping_reads_back_underscore :
    let cs := "# *a_b|\\".toList
    (read (escapeText cs))[4]? = some ⟨'_', false⟩ ∧
      unescape (escapeLineStarts (escapeText cs)) = cs ∧
      unescape (escapePipes (escapeText cs)) = cs ∧
      ∃ j b a, 4 = j + 1 ∧ (read (escapeText cs))[j]? = some ⟨b, false⟩ ∧
        (read (escapeText cs))[4 + 1]? = some ⟨a, false⟩ ∧
        Text.isAlphanumeric b = true ∧ Text.isAlphanumeric a = true := by
  intro cs
  have hunder : (read (escapeText cs))[4]? = some ⟨'_', false⟩ := by decide
  have h := escaping_reads_back cs
  exact ⟨hunder, h.1, h.2.1, (h.2.2.2 4 ⟨'_', false⟩ hunder).2 rfl⟩

end Escape

end Anchormark
