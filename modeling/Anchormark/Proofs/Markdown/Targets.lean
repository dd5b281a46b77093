import Anchormark.Markdown.Inline

/-!
# The Target of an Inline Link

Behind the text of an inline link stands, in parentheses, where it points: a destination, and a
title if there is one. This module says how these are read when they hold no backslash and no
ampersand, so that every character stands for itself.

A destination in angle brackets goes up to the closing one. A bare one goes up to a blank or to a
closing parenthesis that it has not opened itself, and its parentheses may nest only so deep. So a
bare destination is read as a whole if each of its fronts has as many opening parentheses as closing
ones, or some more, but not too many more. Otherwise the reader stops before its end, or gives up.

## Main definitions

* `NestedFrom`: how far parentheses are open within a destination.

## Theorems

* `unescape_plain`: Without a backslash and an ampersand there is nothing to decode.
* `angleDestination?_append`, `bareDestination?_append`: A destination is read as a whole.
* `bareDestination?_prefix`: A bare one that is not nested is not.
* `inlineTitle?_append`: A title is read back.
* `skipGap_append`: Blanks are passed over.
-/

namespace Anchormark.Markdown

/-- Without a backslash and an ampersand there is nothing to decode. -/
theorem unescape_plain (inTable : Bool) {cs : List Char}
    (hcs : ∀ c ∈ cs, c ≠ '\\' ∧ c ≠ '&' ∧ c ≠ '\r') : unescape inTable cs = cs := by
  rw [unescape]
  induction cs with
  | nil => rfl
  | cons c cs ih =>
      rw [List.forall_mem_cons] at hcs
      rw [unescapeFrom.eq_def]
      simp [hcs.1, ih hcs.2]

/-- A destination in angle brackets goes up to the closing one. -/
theorem angleDestination?_append {url : List Char}
    (hurl : ∀ c ∈ url, c ≠ '\\' ∧ c ≠ '<' ∧ c ≠ '>' ∧ c ≠ '\n' ∧ c ≠ '\r') (rest : List Char) :
    angleDestination? (url ++ '>' :: rest) = some (url, rest) := by
  induction url with
  | nil => rfl
  | cons c url ih =>
      rw [List.forall_mem_cons] at hurl
      rcases hurl with ⟨⟨hslash, hopen, hclose, hfeed, hreturn⟩, hurl⟩
      have hturn : angleDestination? (c :: (url ++ '>' :: rest)) =
          (angleDestination? (url ++ '>' :: rest)).map (Reading.prepend [c]) := by
        rw [angleDestination?.eq_def]
        split
        · next h => exact absurd h (List.cons_ne_nil _ _)
        · next h => exact absurd (List.cons.inj h).1 hslash
        · next h =>
            rw [List.cons.injEq] at h
            rcases h with ⟨rfl, rfl⟩
            simp [hopen, hclose, hfeed, hreturn]
      rw [List.cons_append, hturn, ih hurl]
      rfl

/-- Behind `depth` open parentheses, each front of the destination has opened those that it closes,
    and not so many more that they nest too deep. -/
def NestedFrom (depth : Nat) (url : List Char) : Prop :=
  ∀ front, front <+: url → front.count ')' ≤ depth + front.count '(' ∧
    depth + front.count '(' ≤ front.count ')' + (maxParentheses + 1)

/-- One character of a bare destination. -/
theorem bareDestination?_cons (depth : Nat) {c : Char} (hc : c ≠ '\\') (hblank : 0x20 < c.toNat)
    (rest : List Char) :
    bareDestination? depth (c :: rest) =
      if c = ')' ∧ depth = 0 then some ([], c :: rest)
      else if c = '(' ∧ maxParentheses < depth then none
      else (bareDestination? (if c = '(' then depth + 1 else if c = ')' then depth - 1 else depth)
        rest).map (Reading.prepend [c]) := by
  rw [bareDestination?.eq_def]
  split
  · next h => exact absurd h (List.cons_ne_nil _ _)
  · next h => exact absurd (List.cons.inj h).1 hc
  · next h =>
      rw [List.cons.injEq] at h
      rcases h with ⟨rfl, rfl⟩
      have hblank' : ¬ c.toNat ≤ 0x20 := Nat.not_le_of_lt hblank
      by_cases hclose : c = ')'
      · subst hclose
        by_cases hdepth : depth = 0 <;> simp [hdepth]
      · by_cases hopen : c = '('
        · subst hopen
          by_cases hdepth : maxParentheses < depth <;> simp [hdepth]
        · simp [hclose, hopen, hblank']

/-- What the first character does to the depth. -/
theorem nestedFrom_cons {depth : Nat} {c : Char} {url : List Char}
    (h : NestedFrom depth (c :: url)) :
    ¬ (c = ')' ∧ depth = 0) ∧ ¬ (c = '(' ∧ maxParentheses < depth) ∧
      NestedFrom (if c = '(' then depth + 1 else if c = ')' then depth - 1 else depth) url := by
  have hfirst := h [c] ⟨url, rfl⟩
  refine ⟨?_, ?_, fun front hfront => ?_⟩
  · rintro ⟨rfl, rfl⟩
    simp at hfirst
  · rintro ⟨rfl, hdepth⟩
    simp at hfirst
    omega
  · have hnext := h (c :: front) (List.cons_prefix_cons.mpr ⟨rfl, hfront⟩)
    by_cases hclose : c = ')'
    · subst hclose
      simp at hfirst hnext ⊢
      omega
    · by_cases hopen : c = '('
      · subst hopen
        simp at hnext ⊢
        omega
      · simpa [hclose, hopen] using hnext

theorem nestedFrom_of_cons {depth : Nat} {c : Char} {url : List Char}
    (hclose : ¬ (c = ')' ∧ depth = 0)) (hdepth : depth ≤ maxParentheses + 1)
    (h : NestedFrom (if c = '(' then depth + 1 else if c = ')' then depth - 1 else depth) url) :
    NestedFrom depth (c :: url) := by
  intro front hfront
  rcases List.prefix_cons_iff.mp hfront with rfl | ⟨front', rfl, hfront'⟩
  · simpa using hdepth
  · have hnext := h front' hfront'
    by_cases hc : c = ')'
    · subst hc
      simp at hclose hnext ⊢
      omega
    · by_cases hopen : c = '('
      · subst hopen
        simp at hnext ⊢
        omega
      · simpa [hc, hopen] using hnext

section Bare

variable {url : List Char} (hurl : ∀ c ∈ url, c ≠ '\\' ∧ 0x20 < c.toNat)
include hurl

/-- A nested destination that has closed all its parentheses is read as a whole. -/
theorem bareDestination?_append {depth : Nat} (hnested : NestedFrom depth url)
    (hcount : depth + url.count '(' = url.count ')') {c : Char} (hc : c = ')' ∨ c = ' ')
    (rest : List Char) : bareDestination? depth (url ++ c :: rest) = some (url, c :: rest) := by
  induction url generalizing depth with
  | nil =>
      simp only [List.count_nil, Nat.add_zero] at hcount
      rcases hc with rfl | rfl <;> simp [hcount, bareDestination?.eq_def]
  | cons d url ih =>
      rw [List.forall_mem_cons] at hurl
      rcases nestedFrom_cons hnested with ⟨hclose, hopen, hrest⟩
      rw [List.cons_append, bareDestination?_cons depth hurl.1.1 hurl.1.2, if_neg hclose,
        if_neg hopen, ih hurl.2 hrest]
      · rfl
      · -- What is still open is counted in the depth.
        by_cases hd : d = ')'
        · subst hd
          simp at hclose hcount ⊢
          omega
        · by_cases hd' : d = '('
          · subst hd'
            simp at hcount ⊢
            omega
          · simpa [hd, hd', List.count_cons_of_ne] using hcount

/-- A destination that is not nested is read up to where it is not, or not at all. -/
theorem bareDestination?_prefix {depth : Nat} (hdepth : depth ≤ maxParentheses + 1)
    (hnested : ¬ NestedFrom depth url) {rest found behind : List Char}
    (h : bareDestination? depth (url ++ rest) = some (found, behind)) :
    found <+: url ∧ found ≠ url := by
  induction url generalizing depth found with
  | nil =>
      refine absurd (fun front hfront => ?_) hnested
      rw [List.prefix_nil.mp hfront]
      simpa using hdepth
  | cons d url ih =>
      rw [List.forall_mem_cons] at hurl
      rw [List.cons_append, bareDestination?_cons depth hurl.1.1 hurl.1.2] at h
      split at h
      · -- It ends here.
        rw [Option.some.injEq, Prod.mk.injEq] at h
        rw [← h.1]
        exact ⟨List.nil_prefix, (List.cons_ne_nil d url).symm⟩
      · next hclose =>
          split at h
          · exact absurd h (Option.some_ne_none _).symm
          · next hopen =>
              rcases Option.map_eq_some_iff.mp h with ⟨⟨found', behind'⟩, hread, heq⟩
              rw [Reading.prepend, Prod.mk.injEq] at heq
              rcases heq with ⟨rfl, rfl⟩
              -- Parentheses may open until the limit is reached.
              have hdepth' : (if d = '(' then depth + 1 else if d = ')' then depth - 1 else depth) ≤
                  maxParentheses + 1 := by
                split
                · next hd => exact Nat.succ_le_succ (Nat.le_of_not_lt fun hlt => hopen ⟨hd, hlt⟩)
                · split <;> omega
              rcases ih hurl.2 hdepth'
                (fun hrest => hnested (nestedFrom_of_cons hclose hdepth hrest)) hread with
                ⟨hfound, hne⟩
              refine ⟨List.cons_prefix_cons.mpr ⟨rfl, hfound⟩, fun heq => hne ?_⟩
              exact (List.cons.inj heq).2

end Bare

/-- A title as it is written between its quotes. -/
def escapedTitle (title : List Char) : List Char :=
  title.flatMap fun c => if c = '\\' || c = '"' then ['\\', c] else [c]

/-- A character that is nothing but itself in a title. -/
theorem inlineTitle?_cons (lineStart? : Nat → Option Nat) (i : Nat) {c : Char}
    (hc : c ≠ '\n' ∧ c ≠ '\r' ∧ c ≠ '\\' ∧ c ≠ '&') (hquote : c ≠ '"') (rest : List Char) :
    inlineTitle? false lineStart? '"' '"' 0 i (c :: rest) =
      (inlineTitle? false lineStart? '"' '"' 0 (i + 1) rest).map fun (title, stop) =>
        (c :: title, stop) := by
  rcases hc with ⟨hfeed, hreturn, hslash, hand⟩
  have href : reference? (c :: rest) = none := by
    unfold reference?
    split <;> simp_all
  rw [inlineTitle?.eq_def]
  simp only [hquote, if_false, hfeed, hreturn, decide_false, Bool.or_false, Bool.false_eq_true,
    href]
  split
  · exact absurd rfl hslash
  · exact absurd rfl hslash
  · rfl

/-- A title in quotes is read back. -/
theorem inlineTitle?_append (lineStart? : Nat → Option Nat) {title : List Char}
    (htitle : ∀ c ∈ title, c ≠ '\n' ∧ c ≠ '\r' ∧ c ≠ '\\' ∧ c ≠ '&') (i : Nat)
    (rest : List Char) :
    inlineTitle? false lineStart? '"' '"' 0 i (escapedTitle title ++ '"' :: rest) =
      some (title, i + (escapedTitle title).length + 1) := by
  induction title generalizing i with
  | nil => simp [escapedTitle, inlineTitle?]
  | cons c title ih =>
      rw [List.forall_mem_cons] at htitle
      by_cases hquote : c = '"'
      · subst hquote
        -- A quote has a backslash, so the turn takes two characters.
        have hwritten : escapedTitle ('"' :: title) = '\\' :: '"' :: escapedTitle title := rfl
        have hturn (rest : List Char) :
            inlineTitle? false lineStart? '"' '"' 0 i ('\\' :: '"' :: rest) =
              (inlineTitle? false lineStart? '"' '"' 0 (i + 2) rest).map fun (title, stop) =>
                ('"' :: title, stop) := rfl
        rw [hwritten, List.cons_append, List.cons_append, hturn, ih htitle.2]
        simp only [Option.map_some, List.length_cons, Option.some.injEq, Prod.mk.injEq, true_and]
        omega
      · have hwritten : escapedTitle (c :: title) = c :: escapedTitle title := by
          simp [escapedTitle, hquote, htitle.1]
        rw [hwritten, List.cons_append, inlineTitle?_cons lineStart? i htitle.1 hquote,
          ih htitle.2]
        simp only [Option.map_some, List.length_cons, Option.some.injEq, Prod.mk.injEq, true_and]
        omega

/-- Blanks are passed over up to a character that is neither a blank nor a line ending. -/
theorem skipGap_append (ctx : InlineContext) {blanks : List Char}
    (hblanks : ∀ b ∈ blanks, Text.isLineBlank b = true) {c : Char}
    (hc : Text.isLineBlank c = false) (hend : c ≠ '\n' ∧ c ≠ '\r') (rest : List Char) :
    ctx.skipGap (blanks ++ c :: rest) = c :: rest := by
  have hdrop : (blanks ++ c :: rest).dropWhile Text.isLineBlank = c :: rest := by
    rw [List.dropWhile_append_of_pos hblanks, List.dropWhile_cons_of_neg (by simp [hc])]
  have hline : lineEnd? (c :: rest) = none := by
    unfold lineEnd?
    split <;> simp_all
  rw [InlineContext.skipGap]
  simp [hdrop, hline, hc]

section Target

variable {ctx : InlineContext} {front dest url : List Char}

/-- Whatever is read as a target begins with the destination that is read there. -/
theorem exists_destination_of_inlineTarget? {i : Nat} {pieces : List Piece} {title : List Char}
    {stop : Nat} (h : ctx.inlineTarget? i pieces = some (url, title, stop)) {inside : List Char}
    (hinside : ctx.after i = '(' :: inside) :
    ∃ found behind, destination? (ctx.skipGap inside) = some (found, behind) ∧
      url = unescape ctx.inTable found := by
  rw [InlineContext.inlineTarget?, hinside] at h
  simp only [Option.bind_eq_bind, Option.bind_some] at h
  rcases Option.bind_eq_some_iff.mp h with ⟨⟨found, behind⟩, hdest, h⟩
  refine ⟨found, behind, hdest, ?_⟩
  dsimp only at h
  split at h
  · exact (congrArg Prod.fst (Option.some.inj h)).symm
  · exact absurd h (Option.some_ne_none _).symm

/-- A destination with nothing behind it. -/
theorem inlineTarget?_bare (ctx : InlineContext) (dest : List Char)
    (htext : ctx.text = front ++ '(' :: (dest ++ [')']))
    (hdest : destination? (ctx.skipGap (dest ++ [')'])) = some (url, [')']))
    (hurl : unescape ctx.inTable url = url) (pieces : List Piece) :
    ctx.inlineTarget? front.length pieces = some (url, [], ctx.text.length) := by
  have hafter : ctx.after front.length = '(' :: (dest ++ [')']) := by
    rw [InlineContext.after, htext, List.drop_left]
  have hgap : ctx.skipGap [')'] = [')'] :=
    skipGap_append ctx (List.forall_mem_nil _) (by decide) (by decide) []
  rw [InlineContext.inlineTarget?, hafter]
  simp only [Option.bind_eq_bind, Option.bind_some, hdest, hgap, closingDelimiter?, hurl]
  simp [InlineContext.index]

/-- A destination with a title behind it. -/
theorem inlineTarget?_titled (ctx : InlineContext) (dest : List Char) {title : List Char}
    (htable : ctx.inTable = false)
    (htitle : ∀ c ∈ title, c ≠ '\n' ∧ c ≠ '\r' ∧ c ≠ '\\' ∧ c ≠ '&')
    (htext : ctx.text =
      front ++ '(' :: (dest ++ ' ' :: '"' :: (escapedTitle title ++ ['"', ')'])))
    (hdest : destination? (ctx.skipGap (dest ++ ' ' :: '"' :: (escapedTitle title ++ ['"', ')']))) =
      some (url, ' ' :: '"' :: (escapedTitle title ++ ['"', ')'])))
    (hurl : unescape ctx.inTable url = url) (pieces : List Piece) :
    ctx.inlineTarget? front.length pieces = some (url, title, ctx.text.length) := by
  have hafter : ctx.after front.length =
      '(' :: (dest ++ ' ' :: '"' :: (escapedTitle title ++ ['"', ')'])) := by
    rw [InlineContext.after, htext, List.drop_left]
  have hquote : ctx.skipGap (' ' :: '"' :: (escapedTitle title ++ ['"', ')'])) =
      '"' :: (escapedTitle title ++ ['"', ')']) := by
    have hblank : ∀ b ∈ [' '], Text.isLineBlank b = true := List.forall_mem_singleton.mpr rfl
    exact skipGap_append ctx hblank (by decide) (by decide) _
  have hgap : ctx.skipGap [')'] = [')'] :=
    skipGap_append ctx (List.forall_mem_nil _) (by decide) (by decide) []
  -- The title begins where its characters do.
  have htext' : ctx.text = (front ++ '(' :: (dest ++ [' ', '"'])) ++
      (escapedTitle title ++ ['"', ')']) := by
    rw [htext]
    simp
  have hindex : ctx.index (escapedTitle title ++ ['"', ')']) =
      (front ++ '(' :: (dest ++ [' ', '"'])).length := by
    rw [InlineContext.index, htext', List.length_append, Nat.add_sub_cancel]
  have hclose : ctx.after ((front ++ '(' :: (dest ++ [' ', '"'])).length +
      (escapedTitle title).length + 1) = [')'] := by
    rw [InlineContext.after, htext', Nat.add_assoc, List.drop_append]
    simp
  -- The title is read up to the other quote, and then the parenthesis closes.
  have hread := inlineTitle?_append (InlineContext.lineStart? pieces) htitle
    (front ++ '(' :: (dest ++ [' ', '"'])).length [')']
  rw [htable] at hurl
  rw [InlineContext.inlineTarget?, hafter]
  simp only [Option.bind_eq_bind, Option.bind_some, hdest, hquote, closingDelimiter?, htable, hurl,
    hindex, hread, hclose, hgap]
  simp [InlineContext.index]

end Target

end Anchormark.Markdown
