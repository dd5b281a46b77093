import Anchormark.Proofs.Note.Writing

/-!
# What a Line of a Note Begins

When a line is read, one question after the other is put to its first characters: is it blank, does
an item begin here, a heading, a fence, an underline. For the lines of a note all answers are known
from the atoms of the line, and most of them from its first character alone. They are collected
once, so that nothing else has to look at that character again.

## Main definitions

* `StartsLeaf`: the line is not blank, and no container begins with it.
* `StartsText`: no block but a paragraph begins with it.

## Theorems

* `skip_solid`, `skipBlanks_solid`: There is no indentation to take.
* `startsText_spell`: The lines of paragraphs and items start text.
* `StartsText.interrupts`: They do not end the paragraph before.
-/

namespace Anchormark.Markdown

/-- The character is no blank and ends no line. -/
def isSolid (c : Char) : Bool :=
  !Text.isLineBlank c && c ≠ '\n' && c ≠ '\r'

/-- The line is not blank, and neither an item nor a quote begins with it. -/
structure StartsLeaf (cs : List Char) : Prop where
  solid : cs.head?.any isSolid = true
  marker : listMarker? cs = none
  quote : cs.head? ≠ some '>'

/-- Nothing but text begins with the line. -/
structure StartsText (cs : List Char) : Prop extends StartsLeaf cs where
  thematic : thematicBreak? cs = none
  heading : headingDepth? cs = none
  underline : underline? cs = none
  fence : fence? cs = none
  interrupting : interruptingHtml? cs = none
  html : htmlBlock? cs = none
  pipe : cs.head? ≠ some '|'
  definition : ∀ site : LineSite, site.definition? cs = none
  box : ∀ taken, Document.taskBox? { rest := cs, taken } = none
  star : cs.head? ≠ some '*'
  dashes : (cs.takeWhile fun c => c = '-' || c = ' ' || c = '\t').count '-' ≤ 1

section Solid

variable {cs : List Char} (h : cs.head?.any isSolid = true)
include h

theorem exists_cons_of_solid :
    ∃ c rest, cs = c :: rest ∧ Text.isLineBlank c = false ∧ c ≠ '\n' ∧ c ≠ '\r' := by
  cases cs with
  | nil => cases h
  | cons c rest =>
      simp only [List.head?_cons, Option.any_some, isSolid, Bool.and_eq_true, Bool.not_eq_true',
        decide_eq_true_eq, ne_eq] at h
      exact ⟨c, rest, rfl, h.1.1, h.1.2, h.2⟩

theorem lineEnd?_solid : lineEnd? cs = none := by
  rcases exists_cons_of_solid h with ⟨c, rest, rfl, -, hlf, hcr⟩
  unfold lineEnd?
  split <;> simp_all

theorem blankLine?_solid : blankLine? cs = none := by
  have hend := lineEnd?_solid h
  rcases exists_cons_of_solid h with ⟨c, rest, rfl, hblank, -, -⟩
  rw [blankLine?, countWhile, List.takeWhile_cons_of_neg
    (by rw [hblank]; exact Bool.false_ne_true), List.length_nil, List.drop_zero, hend]
  rfl

theorem atLineEnd_solid (taken : Nat) : ({ rest := cs, taken : Margin }).atLineEnd = false := by
  rcases exists_cons_of_solid h with ⟨c, rest, rfl, -, hlf, hcr⟩
  simp only [Margin.atLineEnd, hlf, hcr, decide_false, Bool.or_false]

/-- There is no indentation to take. -/
theorem skip_solid (taken n : Nat) :
    ({ rest := cs, taken : Margin }).skip n = ({ rest := cs, taken }, n) := by
  rcases exists_cons_of_solid h with ⟨c, rest, rfl, hblank, -, -⟩
  have hspace : c ≠ ' ' := by
    rintro rfl
    exact Bool.noConfusion hblank
  have htab : c ≠ '\t' := by
    rintro rfl
    exact Bool.noConfusion hblank
  rw [Margin.skip]
  simp only [Nat.zero_min, Nat.sub_zero, Nat.sub_self]
  unfold Margin.skipFrom
  split <;> simp_all

theorem indent_solid (taken n : Nat) :
    ({ rest := cs, taken : Margin }).indent n = ({ rest := cs, taken }, 0) := by
  rw [Margin.indent, skip_solid h]
  simp only [Nat.sub_self]

theorem skipBlanks_solid (taken : Nat) :
    ({ rest := cs, taken : Margin }).skipBlanks = { rest := cs, taken } := by
  rcases exists_cons_of_solid h with ⟨c, rest, rfl, hblank, -, -⟩
  have hspace : c ≠ ' ' := by
    rintro rfl
    exact Bool.noConfusion hblank
  have htab : c ≠ '\t' := by
    rintro rfl
    exact Bool.noConfusion hblank
  simp only [Margin.skipBlanks, List.dropWhile_cons, List.takeWhile_cons, hspace, htab,
    decide_false, Bool.or_false, Bool.false_eq_true, if_false, List.length_nil, Nat.add_zero]

end Solid

/-- A character that by itself says that only text begins, or an item, a rule or an underline of
    dashes. -/
def isPlainStart (c : Char) : Bool :=
  isSolid c && c ∉ ['>', '*', '_', '#', '=', '\x60', '~', '<', '|']

section PlainStart

variable {c : Char} (hc : isPlainStart c = true) (rest : List Char)
include hc

theorem isSolid_of_plainStart : isSolid c = true := by
  rw [isPlainStart, Bool.and_eq_true] at hc
  exact hc.1

theorem ne_of_plainStart {d : Char} (hd : isPlainStart d = false) : c ≠ d := by
  rintro rfl
  exact Bool.false_ne_true (hd.symm.trans hc)

/-- A dash stands alone, and blanks behind it are no part of a rule either. -/
theorem dashes_plainStart (hdash : c = '-' → ∀ d ∈ rest.head?, d ∉ ['-', ' ', '\t']) :
    (c :: rest).takeWhile (fun d => d = '-' || d = ' ' || d = '\t') =
      if c = '-' then ['-'] else [] := by
  split
  · next hc' =>
      subst hc'
      rw [List.takeWhile_cons_of_pos (by decide)]
      cases rest with
      | nil => rfl
      | cons d rest =>
          have hd := hdash rfl d rfl
          simp only [List.mem_cons, List.not_mem_nil, or_false, not_or] at hd
          rw [List.takeWhile_cons_of_neg (by simp [hd])]
  · next hc' =>
      have hspace : c ≠ ' ' := ne_of_plainStart hc (by decide)
      have htab : c ≠ '\t' := ne_of_plainStart hc (by decide)
      rw [List.takeWhile_cons_of_neg (by simp [hc', hspace, htab])]

/-- A rule is made of marks, so it does not go on with another character. -/
theorem thematicBreak?_plainStart (hdash : c = '-' → ∀ d ∈ rest.head?, d ∉ ['-', ' ', '\t']) :
    thematicBreak? (c :: rest) = none := by
  have hstar : c ≠ '*' := ne_of_plainStart hc (by decide)
  have hscore : c ≠ '_' := ne_of_plainStart hc (by decide)
  by_cases hc' : c = '-'
  · have hcount := dashes_plainStart hc rest hdash
    rw [if_pos hc'] at hcount
    subst hc'
    rw [thematicBreak?]
    simp only [hcount]
    rfl
  · simp only [thematicBreak?, hstar, hscore, hc', decide_false, Bool.or_false, Bool.false_and,
      Bool.false_eq_true, if_false]

theorem headingDepth?_plainStart : headingDepth? (c :: rest) = none := by
  have hmark : c ≠ '#' := ne_of_plainStart hc (by decide)
  simp only [headingDepth?, countWhile, List.takeWhile_cons, hmark, decide_false,
    Bool.false_eq_true, if_false, List.length_nil]
  rfl

/-- Nor does an underline, and blanks behind it are nothing else either. -/
theorem underline?_plainStart
    (hdash : c = '-' → rest.head?.any (fun d => d ≠ '-' && isSolid d) = true) :
    underline? (c :: rest) = none := by
  have hdouble : c ≠ '=' := ne_of_plainStart hc (by decide)
  by_cases hc' : c = '-'
  · subst hc'
    have hnext := hdash rfl
    cases rest with
    | nil => cases hnext
    | cons d rest =>
        rw [List.head?_cons, Option.any_some, Bool.and_eq_true, decide_eq_true_eq] at hnext
        have hlength : countWhile (· = '-') ('-' :: d :: rest) = 1 := by
          rw [countWhile, List.takeWhile_cons_of_pos (by decide), List.takeWhile_cons_of_neg
            (by simpa using hnext.1)]
          rfl
        have hblank : blankLine? (d :: rest) = none := blankLine?_solid (by simpa using hnext.2)
        rw [underline?]
        simp only [hlength, List.drop_succ_cons, List.drop_zero, hblank]
        rfl
  · simp only [underline?, hdouble, hc', decide_false, Bool.or_false, Bool.false_eq_true, if_false]

theorem fence?_plainStart : fence? (c :: rest) = none := by
  have htick : c ≠ '\x60' := ne_of_plainStart hc (by decide)
  have htilde : c ≠ '~' := ne_of_plainStart hc (by decide)
  simp only [fence?, htick, htilde, decide_false, Bool.or_false, Bool.false_and,
    Bool.false_eq_true, if_false]

theorem htmlBlock?_plainStart :
    interruptingHtml? (c :: rest) = none ∧ htmlBlock? (c :: rest) = none := by
  have hless : c ≠ '<' := ne_of_plainStart hc (by decide)
  have hinterrupting : interruptingHtml? (c :: rest) = none := by
    unfold interruptingHtml?
    split
    · next h => exact absurd (List.cons.inj h).1 hless
    · rfl
  have htag : htmlTag? none (c :: rest) = none := by
    unfold htmlTag?
    split
    · next h => exact absurd (List.cons.inj h).1 hless
    · next h => exact absurd (List.cons.inj h).1 hless
    · rfl
  refine ⟨hinterrupting, ?_⟩
  rw [htmlBlock?, hinterrupting, htag]

/-- A definition begins with a label, and an empty one is none. -/
theorem definition?_plainStart (hopen : c = '[' → rest.head? = some ']') (site : LineSite) :
    site.definition? (c :: rest) = none := by
  have hlabel : bracketedLabel? (site.continuation? false) false (c :: rest) = none := by
    unfold bracketedLabel?
    split
    · next inner h =>
        rcases List.cons.inj h with ⟨rfl, rfl⟩
        have hhead := hopen rfl
        cases rest with
        | nil => cases hhead
        | cons d rest =>
            cases hhead
            rfl
    · rfl
  rw [LineSite.definition?, hlabel]
  rfl

/-- A task box has something between its brackets. -/
theorem taskBox?_plainStart (hopen : c = '[' → ∃ d rest', rest = ']' :: d :: rest' ∧ d ≠ ']')
    (taken : Nat) : Document.taskBox? { rest := c :: rest, taken } = none := by
  have hsolid := isSolid_of_plainStart hc
  rw [Document.taskBox?, skip_solid (by simpa using hsolid)]
  dsimp only
  split
  · next h =>
      rcases List.cons.inj h with ⟨rfl, rfl⟩
      rcases hopen rfl with ⟨d, rest', heq, hd⟩
      rcases List.cons.inj heq with ⟨rfl, hrest⟩
      exact absurd (List.cons.inj hrest).1.symm hd
  · rfl

end PlainStart

/-- What is below a line has no part in the digits that it begins with. -/
theorem takeWhile_digits_line (line tail : List Char) :
    (line ++ '\n' :: tail).takeWhile Char.isDigit = line.takeWhile Char.isDigit := by
  rw [List.takeWhile_append]
  split
  · next hall =>
      rw [(List.takeWhile_prefix Char.isDigit).eq_of_length hall,
        List.takeWhile_cons_of_neg (by decide), List.append_nil]
  · rfl

/-- Nor does it have in the marker of an item. -/
theorem listMarker?_line {line : List Char} (hne : line ≠ []) (h : listMarker? line = none)
    (tail : List Char) : listMarker? (line ++ '\n' :: tail) = none := by
  rcases List.exists_cons_of_ne_nil hne with ⟨c, rest, rfl⟩
  have hmark : listMark? (c :: rest ++ '\n' :: tail) = listMark? (c :: rest) := by
    have hdigits : (c :: (rest ++ '\n' :: tail)).takeWhile Char.isDigit =
        (c :: rest).takeWhile Char.isDigit := takeWhile_digits_line (c :: rest) tail
    -- The digits end within the line, and their mark is asked for right behind them.
    have hdrop : (c :: (rest ++ '\n' :: tail)).drop ((c :: rest).takeWhile Char.isDigit).length =
        (c :: rest).drop ((c :: rest).takeWhile Char.isDigit).length ++ '\n' :: tail :=
      List.drop_append_of_le_length (List.takeWhile_prefix Char.isDigit).length_le
    rw [List.cons_append, listMark?, listMark?]
    split
    · rfl
    · simp only [hdigits, hdrop]
      cases (c :: rest).drop ((c :: rest).takeWhile Char.isDigit).length with
      | nil => simp
      | cons mark after => rfl
  rw [listMarker?, Option.filter_eq_none_iff] at h ⊢
  rw [hmark]
  rintro ⟨mark, number, length⟩ hfound hset
  refine h _ hfound ?_
  dsimp only at hset ⊢
  -- What sets the marker off would have to be the end of the line, or stand in it.
  cases hdrop : (c :: rest).drop length with
  | nil => rfl
  | cons d after =>
      have hle : length ≤ (c :: rest).length := by
        refine Nat.le_of_lt (Nat.lt_of_sub_pos ?_)
        rw [← List.length_drop, hdrop]
        exact Nat.succ_pos _
      rw [List.drop_append_of_le_length hle, hdrop] at hset
      exact hset

/-- A line that begins with such a character, as far as the marks allow it. -/
theorem startsText_of_plainStart {c : Char} {rest : List Char} (hc : isPlainStart c = true)
    (hmarker : listMarker? (c :: rest) = none)
    (hdash : c = '-' → rest.head?.any (fun d => d ≠ '-' && isSolid d) = true)
    (hopen : c = '[' → ∃ d rest', rest = ']' :: d :: rest' ∧ d ≠ ']') :
    StartsText (c :: rest) := by
  -- Behind a dash stands neither another one nor a blank, so it is alone.
  have halone : c = '-' → ∀ d ∈ rest.head?, d ∉ ['-', ' ', '\t'] := by
    intro h d hd
    have hnext := hdash h
    rw [hd, Option.any_some, Bool.and_eq_true, decide_eq_true_eq] at hnext
    simp only [List.mem_cons, List.not_mem_nil, or_false, not_or]
    refine ⟨hnext.1, ?_, ?_⟩
    · rintro rfl
      exact absurd hnext.2 (by decide)
    · rintro rfl
      exact absurd hnext.2 (by decide)
  have hlabel : c = '[' → rest.head? = some ']' := by
    intro h
    rcases hopen h with ⟨d, rest', rfl, -⟩
    rfl
  exact {
    solid := isSolid_of_plainStart hc
    marker := hmarker
    quote := fun h => ne_of_plainStart hc (d := '>') (by decide) (Option.some.inj h)
    thematic := thematicBreak?_plainStart hc rest halone
    heading := headingDepth?_plainStart hc rest
    underline := underline?_plainStart hc rest hdash
    fence := fence?_plainStart hc rest
    interrupting := (htmlBlock?_plainStart hc rest).1
    html := (htmlBlock?_plainStart hc rest).2
    pipe := fun h => ne_of_plainStart hc (d := '|') (by decide) (Option.some.inj h)
    definition := definition?_plainStart hc rest hlabel
    box := taskBox?_plainStart hc rest hopen
    star := fun h => ne_of_plainStart hc (d := '*') (by decide) (Option.some.inj h)
    dashes := by
      rw [dashes_plainStart hc rest halone]
      split
      · exact Nat.le_refl 1
      · exact Nat.zero_le 1 }

/-- A bare character that begins text is no mark of any block. -/
theorem isPlainStart_of_bare {c : Char} {as : List Atom} (hbegins : beginsText (.bare c :: as) = true)
    (hinert : isInert none c (spell as) = true) : isPlainStart c = true := by
  have hplain := not_mem_of_isInert hinert
  simp only [List.mem_cons, List.not_mem_nil, or_false, not_or] at hplain
  rw [beginsText] at hbegins
  simp only [Bool.and_eq_true, Bool.not_eq_true', decide_eq_true_eq, List.mem_cons,
    List.not_mem_nil, or_false, not_or] at hbegins
  -- Nothing is before the line, so no such mark stands inside a word.
  have hword : c ≠ '_' ∧ c ≠ '~' := by
    constructor
    · rintro rfl
      exact Bool.noConfusion hinert
    · rintro rfl
      exact Bool.noConfusion hinert
  simp only [isPlainStart, isSolid, hbegins.1.1.1, hbegins.1.1.2, hplain, hword, List.mem_cons,
    List.not_mem_nil, not_false_eq_true, ne_eq, or_false, decide_true, Bool.not_false,
    Bool.and_self]

/-- A line of a note that begins text does so whatever is below it. -/
theorem startsText_spell {as : List Atom} (hbegins : beginsText as = true)
    (hreads : readsBack none as = true) (tail : List Char) :
    StartsText (spell as ++ '\n' :: tail) := by
  cases as with
  | nil => cases hbegins
  | cons a as =>
      cases a with
      | bare c =>
          have hinert := hreads
          rw [readsBack, Bool.and_eq_true] at hinert
          have hplain := isPlainStart_of_bare hbegins hinert.1
          rw [beginsText] at hbegins
          simp only [Bool.and_eq_true, Bool.or_eq_true, decide_eq_true_eq,
            Option.isNone_iff_eq_none] at hbegins
          have hcons : spell (.bare c :: as) ++ '\n' :: tail = c :: (spell as ++ '\n' :: tail) := rfl
          rw [hcons]
          -- Two marks have a say about what may be behind them: a dash and an opening bracket.
          refine startsText_of_plainStart hplain (listMarker?_line (List.cons_ne_nil _ _) hbegins.2 tail)
            (fun hdash => ?_) (fun hopen => ?_)
          · have hnext := hbegins.1.2.resolve_left (not_not_intro hdash)
            -- What is behind the dash belongs to the line, so it does not end it.
            cases hspell : spell as with
            | nil =>
                rw [hspell] at hnext
                cases hnext
            | cons d rest =>
                rw [hspell, List.head?_cons, Option.any_some, Bool.and_eq_true] at hnext
                have hmem : d ∈ spell as := hspell ▸ List.mem_cons_self
                have hlf : d ≠ '\n' := ne_of_mem_of_not_mem hmem (not_mem_spell hinert.2 (.inl rfl))
                have hcr : d ≠ '\r' := ne_of_mem_of_not_mem hmem (not_mem_spell hinert.2 (.inr rfl))
                rw [List.cons_append, List.head?_cons, Option.any_some, isSolid]
                simp only [hnext, hlf, hcr, ne_eq, not_false_eq_true, decide_true, Bool.and_self]
          · subst hopen
            exact absurd (not_mem_of_isInert hinert.1) (by decide)
      | escaped c =>
          -- A backslash begins nothing else.
          exact startsText_of_plainStart (c := '\\') (by decide) rfl (fun h => absurd h (by decide))
            (fun h => absurd h (by decide))
      | anchor id =>
          -- The brackets of an anchor are empty, so they hold no box of a task and no label.
          exact startsText_of_plainStart (c := '[') (by decide) rfl (fun h => absurd h (by decide))
            (fun _ => ⟨'(', _, rfl, by decide⟩)

namespace StartsText

variable {cs : List Char} (h : StartsText cs)
include h

/-- Text does not interrupt the paragraph before it. -/
theorem interrupts (site : LineSite) (inside : Bool) : site.interrupts inside cs = false := by
  simp only [LineSite.interrupts, LineSite.blockInterrupts, LineSite.itemInterrupts,
    LineSite.tableInterrupts, lineEnd?_solid h.solid, h.thematic, h.heading, h.fence, h.marker,
    h.interrupting, h.quote, h.pipe, Option.isSome_none, decide_false, Bool.and_false,
    Bool.or_false, Bool.false_eq_true, if_false]

end StartsText

end Anchormark.Markdown
