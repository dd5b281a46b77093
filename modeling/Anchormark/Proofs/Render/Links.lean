import Anchormark.Proofs.Node.EmptyTitles
import Anchormark.Proofs.Node.Rebuilding
import Anchormark.Proofs.Render.Front
import Anchormark.Proofs.Render.LinkLines

/-!
# Reading a Link Back

A link is written in angle brackets if its text is its own address, and as a text in brackets with a
target otherwise. The renderer decides by a few looks at the address: whether there is a scheme or
an at sign somewhere, whether there are blanks, and whether there are as many opening parentheses as
closing ones. The reader is more exact. It takes an address in angle brackets only if all of it is
one, and a bare destination only as far as its parentheses nest. It takes a title for the
destination where there is no destination.

So a link is read back as it was in all cases but these. The reading is that of the first pass over
running text, which finds the links. The second pass, which pairs the runs of emphasis marks that
the first one leaves, is not part of it: the writer leaves an underscore between letters and digits
as it is, and where a text like `Ⓐ_Ⓐ_Ⓐ` has some next to characters that are neither, the second
pass may still read emphasis between them.

## Main definitions

* `IsClear`: a character that is nothing but itself.
* `takesBrackets`: the destination goes into angle brackets.
* `PointsBack`: the target leads back to the address.
* `ReadsAsLink`: a line that is one link.

## Theorems

* `inlineTarget?_of_pointsBack`, `ne_of_inlineTarget?`: What is read of a target.
* `hasEmptyTitle_untitled`: A target without a title shows no empty one.
* `readsAsLink_autolink`: When a link in angle brackets is read back.
* `readsAsLink_of_pointsBack`, `pointsBack_of_readsAsLink`: When one with a target is.
* `link_reads_back`: When a link is read back, whatever its form.
* `link_crossed_parentheses`: A link that is not.
-/

namespace Anchormark

open Markdown

/-- The character ends no line, and it can be nothing but itself in an address, a title or a
    text. -/
@[mk_iff]
structure IsClear (c : Char) : Prop where
  feed : c ≠ '\n'
  carriage : c ≠ '\r'
  slash : c ≠ '\\'
  ampersand : c ≠ '&'
  tilde : c ≠ '~'
  less : c ≠ '<'
  greater : c ≠ '>'

namespace Builtin

/-- The destination goes into angle brackets. -/
def takesBrackets (url : List Char) : Bool :=
  url.any (fun c => Text.isBlank c || Text.isControl c) || url.count '(' ≠ url.count ')'

/-- The reader comes back to the address: there is something in front of a title, and a bare
    destination has nested parentheses. -/
structure PointsBack (url : List Char) (title : Option String) : Prop where
  present : title = none ∨ url ≠ []
  nested : takesBrackets url = true ∨ NestedFrom 0 url

/-- What is written in the parentheses. -/
def target (url : List Char) (title : Option String) : List Char :=
  destination url ++ titleSuffix title

/-- A text in brackets, and a target behind it. -/
def linkLine (written url : List Char) (title : Option String) : List Char :=
  '[' :: (written ++ ']' :: '(' :: (target url title ++ [')']))

theorem linkLine_eq (written url : List Char) (title : Option String) :
    linkLine written url title =
      ('[' :: (written ++ [']'])) ++ '(' :: (target url title ++ [')']) := by
  simp [linkLine]

section Target

variable {url : List Char} (hurl : ∀ c ∈ url, IsClear c)

include hurl in
theorem destination_eq :
    destination url = if takesBrackets url = true then '<' :: (url ++ ['>']) else url := by
  have hsame : (url.flatMap fun c => if c = '<' || c = '>' then ['\\', c] else [c]) = url := by
    induction url with
    | nil => rfl
    | cons c url ih =>
        rw [List.forall_mem_cons] at hurl
        rw [List.flatMap_cons, ih hurl.2]
        simp [hurl.1.less, hurl.1.greater]
  rw [destination, hsame]
  rfl

/-- A bare destination has no blanks and controls, and as many opening parentheses as closing
    ones. -/
theorem bare_of_takesBrackets (hbare : takesBrackets url = false) :
    (∀ c ∈ url, Text.isBlank c = false ∧ 0x20 < c.toNat) ∧ url.count '(' = url.count ')' := by
  simp only [takesBrackets, Bool.or_eq_false_iff, List.any_eq_false, Bool.or_eq_true, not_or,
    Bool.not_eq_true, decide_eq_false_iff_not, not_not] at hbare
  refine ⟨fun c hc => ⟨(hbare.1 c hc).1, ?_⟩, hbare.2⟩
  have hvisible := hbare.1 c hc
  simp only [Text.isBlank, Text.isControl, Bool.or_eq_false_iff, decide_eq_false_iff_not]
    at hvisible
  omega

include hurl in
/-- Without brackets the reader takes a destination for a bare one. -/
theorem destination?_bare {d : Char} (hd : d = ')' ∨ d = ' ') (rest : List Char) :
    destination? (url ++ d :: rest) = bareDestination? 0 (url ++ d :: rest) := by
  unfold destination?
  split
  · next heq =>
      cases url with
      | nil => rcases hd with rfl | rfl <;> exact absurd (List.cons.inj heq).1 (by decide)
      | cons c url => exact absurd (List.cons.inj heq).1 (hurl c List.mem_cons_self).less
  · rfl

include hurl in
/-- The destination is read as a whole, in brackets or bare. -/
theorem destination?_destination (hnested : takesBrackets url = true ∨ NestedFrom 0 url) {d : Char}
    (hd : d = ')' ∨ d = ' ') (rest : List Char) :
    destination? (destination url ++ d :: rest) = some (url, d :: rest) := by
  rw [destination_eq hurl]
  split
  · rw [List.cons_append, List.append_assoc]
    refine angleDestination?_append (fun c hc => ?_) (d :: rest)
    have hc := hurl c hc
    exact ⟨hc.slash, hc.less, hc.greater, hc.feed, hc.carriage⟩
  · next hbare =>
      rw [Bool.not_eq_true] at hbare
      rcases bare_of_takesBrackets hbare with ⟨hvisible, hcount⟩
      rw [destination?_bare hurl hd]
      refine bareDestination?_append (fun c hc => ⟨(hurl c hc).slash, (hvisible c hc).2⟩)
        (hnested.resolve_left (by simp [hbare])) ?_ hd rest
      rw [Nat.zero_add, hcount]

include hurl in
/-- Nothing is passed over in front of a destination, unless a title follows on nothing. -/
theorem skipGap_destination (ctx : InlineContext) {d : Char} (hd : d = ')' ∨ d = ' ' ∧ url ≠ [])
    (rest : List Char) :
    ctx.skipGap (destination url ++ d :: rest) = destination url ++ d :: rest := by
  have hkeep {c : Char} (hc : Text.isLineBlank c = false) (hend : c ≠ '\n' ∧ c ≠ '\r')
      (more : List Char) : ctx.skipGap (c :: more) = c :: more :=
    skipGap_append ctx (List.forall_mem_nil _) hc hend more
  rw [destination_eq hurl]
  split
  · exact hkeep (by decide) (by decide) _
  · next hbare =>
      rw [Bool.not_eq_true] at hbare
      cases url with
      | nil =>
          rcases hd with rfl | ⟨-, hne⟩
          · exact hkeep (by decide) (by decide) _
          · exact absurd rfl hne
      | cons c url =>
          have hc := (bare_of_takesBrackets hbare).1 c List.mem_cons_self
          have hclear := hurl c List.mem_cons_self
          refine hkeep (Bool.eq_false_iff.mpr fun hblank => ?_) ⟨hclear.feed, hclear.carriage⟩ _
          simp only [Text.isLineBlank, Bool.or_eq_true, decide_eq_true_eq] at hblank
          rcases hblank with ((rfl | rfl) | rfl) | rfl <;> exact absurd hc.2 (by decide)

/-- A title is written behind a blank, in quotes. -/
theorem titleSuffix_some {title : String} (htitle : title ≠ "") :
    titleSuffix (some title) = ' ' :: '"' :: (escapedTitle title.toList ++ ['"']) := by
  have hfull : title.isEmpty = false := String.isEmpty_eq_false_iff.mpr htitle
  rw [titleSuffix, hfull]
  rfl

/-- The first of a title's quotes, with no destination in front, is one. -/
theorem ne_nil_of_destination?_quote {taken behind rest : List Char}
    (h : destination? ('"' :: rest) = some (taken, behind)) : unescape false taken ≠ [] := by
  have hturn : destination? ('"' :: rest) = bareDestination? 0 ('"' :: rest) := rfl
  rw [hturn, bareDestination?_cons 0 (by decide) (by decide), if_neg (by decide),
    if_neg (by decide)] at h
  rcases Option.map_eq_some_iff.mp h with ⟨⟨taken', behind'⟩, -, heq⟩
  rw [Reading.prepend, Prod.mk.injEq] at heq
  rw [← heq.1]
  exact List.cons_ne_nil _ _

include hurl in
/-- A bare destination without nested parentheses is not read as a whole. -/
theorem ne_of_destination?_bare (hbare : takesBrackets url = false) (hnested : ¬ NestedFrom 0 url)
    {d : Char} (hd : d = ')' ∨ d = ' ') {taken behind rest : List Char}
    (h : destination? (url ++ d :: rest) = some (taken, behind)) :
    unescape false taken ≠ url := by
  rcases bare_of_takesBrackets hbare with ⟨hvisible, -⟩
  rw [destination?_bare hurl hd] at h
  rcases bareDestination?_prefix (fun c hc => ⟨(hurl c hc).slash, (hvisible c hc).2⟩)
    (Nat.zero_le _) hnested h with ⟨hfound, hne⟩
  have hplain : unescape false taken = taken := by
    refine unescape_plain false fun c hc => ?_
    have hc := hurl c (hfound.subset hc)
    exact ⟨hc.slash, hc.ampersand, hc.carriage⟩
  rw [hplain]
  exact hne

include hurl in
/-- A target stays on one line. -/
theorem target_on_line {title : Option String} (htitle : title ≠ some "")
    (hclear : ∀ c ∈ (title.getD "").toList, IsClear c) :
    ∀ c ∈ target url title, c ≠ '\n' ∧ c ≠ '\r' := by
  have hline {cs : List Char} (hcs : ∀ c ∈ cs, IsClear c) : ∀ c ∈ cs, c ≠ '\n' ∧ c ≠ '\r' :=
    fun c hc => ⟨(hcs c hc).feed, (hcs c hc).carriage⟩
  rw [target, List.forall_mem_append]
  constructor
  · rw [destination_eq hurl]
    split
    · rw [List.forall_mem_cons, List.forall_mem_append, List.forall_mem_singleton]
      exact ⟨by decide, hline hurl, by decide⟩
    · exact hline hurl
  · cases title with
    | none => exact List.forall_mem_nil _
    | some title =>
        have hne : title ≠ "" := fun hempty => htitle (congrArg some hempty)
        rw [titleSuffix_some hne, List.forall_mem_cons, List.forall_mem_cons,
          List.forall_mem_append, List.forall_mem_singleton]
        refine ⟨by decide, by decide, fun d hd => ?_, by decide⟩
        -- A backslash in front of a character is all that is added to the title.
        rcases List.mem_flatMap.mp hd with ⟨e, he, hd⟩
        split at hd
        · simp only [List.mem_cons, List.not_mem_nil, or_false] at hd
          rcases hd with rfl | rfl
          · decide
          · exact hline hclear d he
        · rw [List.mem_singleton.mp hd]
          exact hline hclear e he

section Reading

variable {title : Option String} (htitle : title ≠ some "")
include hurl htitle

/-- The target is read up to its closing parenthesis. -/
theorem inlineTarget?_of_pointsBack (hclear : ∀ c ∈ (title.getD "").toList, IsClear c)
    (h : PointsBack url title) (front : List Char) (pieces : List Piece) :
    let line := front ++ '(' :: (target url title ++ [')'])
    (InlineContext.ofLine line).inlineTarget? front.length pieces =
      some (url, (title.getD "").toList, line.length) := by
  intro line
  have hplain : unescape false url = url :=
    unescape_plain false fun c hc =>
      ⟨(hurl c hc).slash, (hurl c hc).ampersand, (hurl c hc).carriage⟩
  cases title with
  | none =>
      -- Without a title the closing parenthesis is right behind the address.
      have htarget : target url none = destination url := List.append_nil _
      refine inlineTarget?_bare (.ofLine line) (destination url) ?_ ?_ hplain pieces
      · rw [← htarget]
        rfl
      · rw [skipGap_destination hurl _ (.inl rfl)]
        exact destination?_destination hurl h.nested (.inl rfl) []
  | some title =>
      have hne : title ≠ "" := fun hempty => htitle (congrArg some hempty)
      -- Before a title there has to be something, or the title would be the destination.
      have hurlNe : url ≠ [] := h.present.resolve_left (Option.some_ne_none title)
      refine inlineTarget?_titled (.ofLine line) (destination url) rfl
        (fun c hc => ?_) ?_ ?_ hplain pieces
      · have hc := hclear c hc
        exact ⟨hc.feed, hc.carriage, hc.slash, hc.ampersand⟩
      · simp [InlineContext.ofLine, line, target, titleSuffix_some hne]
      · rw [skipGap_destination hurl _ (.inr ⟨rfl, hurlNe⟩)]
        exact destination?_destination hurl h.nested (.inr rfl) _

/-- Otherwise, what is read leads somewhere else. -/
theorem ne_of_inlineTarget? (h : ¬ PointsBack url title) {front found shown : List Char}
    {pieces : List Piece} {stop : Nat}
    (hread : (InlineContext.ofLine (front ++ '(' :: (target url title ++ [')']))).inlineTarget?
      front.length pieces = some (found, shown, stop)) : found ≠ url := by
  set ctx := InlineContext.ofLine (front ++ '(' :: (target url title ++ [')']))
  have hafter : ctx.after front.length = '(' :: (target url title ++ [')']) := List.drop_left
  rcases exists_destination_of_inlineTarget? hread hafter with ⟨taken, behind, hdest, rfl⟩
  by_cases hnested : takesBrackets url = true ∨ NestedFrom 0 url
  · -- There is a title, and no destination in front of it.
    cases title with
    | none => exact absurd ⟨.inl rfl, hnested⟩ h
    | some title =>
        have hne : title ≠ "" := fun hempty => htitle (congrArg some hempty)
        have hempty : url = [] := by
          by_contra hurlNe
          exact h ⟨.inr hurlNe, hnested⟩
        subst hempty
        have hblank : ∀ b ∈ [' '], Text.isLineBlank b = true := List.forall_mem_singleton.mpr rfl
        rw [target, titleSuffix_some hne] at hdest
        rw [show destination [] = [] from rfl] at hdest
        have hgap := skipGap_append ctx hblank (c := '"') (by decide) (by decide)
          (escapedTitle title.toList ++ ['"'] ++ [')'])
        exact ne_nil_of_destination?_quote ((congrArg destination? hgap).symm.trans hdest)
  · -- The address goes bare though its parentheses do not nest, so it ends too early or too late.
    rw [not_or, Bool.not_eq_true] at hnested
    have hbehind : ∃ d rest, titleSuffix title ++ [')'] = d :: rest ∧ (d = ')' ∨ d = ' ') := by
      cases title with
      | none => exact ⟨')', [], rfl, .inl rfl⟩
      | some title =>
          have hne : title ≠ "" := fun hempty => htitle (congrArg some hempty)
          exact ⟨' ', _, congrArg (· ++ [')']) (titleSuffix_some hne), .inr rfl⟩
    rcases hbehind with ⟨d, rest, hrest, hd⟩
    have hurlNe : url ≠ [] := by
      rintro rfl
      refine hnested.2 fun front hfront => ?_
      rw [List.prefix_nil.mp hfront]
      exact ⟨Nat.le_refl 0, Nat.zero_le _⟩
    rw [target, List.append_assoc, hrest,
      skipGap_destination hurl ctx (hd.imp_right fun hd => ⟨hd, hurlNe⟩), destination_eq hurl,
      if_neg (by simp [hnested.1])] at hdest
    exact ne_of_destination?_bare hurl hnested.1 hnested.2 hd hdest

end Reading

end Target

end Builtin

/-- The span of a whole text is the text. -/
theorem Span.slice?_whole (s : String) : Span.slice? ⟨0, Text.size s⟩ s = some s := by
  have hcut := Text.cut?_byteLength s.toList []
  rw [List.append_nil] at hcut
  rw [Span.slice?, Text.slice?, Text.sliceChars?, Text.size]
  simp only [Nat.zero_le, guard, if_true, Text.cut?, Nat.sub_zero, hcut, Option.pure_def,
    Option.bind_eq_bind, Option.bind_some, Option.map_some, String.ofList_toList]

/-- A target without a title shows no empty one. -/
theorem hasEmptyTitle_untitled {url : List Char} (hurl : ∀ c ∈ url, IsClear c)
    (front : List Char) :
    hasEmptyTitle (front ++ ']' :: '(' :: (Builtin.target url none ++ [')'])) = false := by
  have htarget : Builtin.target url none = Builtin.destination url := List.append_nil _
  rw [htarget, Bool.eq_false_iff, Ne, hasEmptyTitle_iff_shown, Builtin.destination_eq hurl]
  split
  · refine EmptyTitle.not_shown_of_getLast? ?_
    rw [← List.cons_append, List.getLast?_concat]
  · next hbare =>
      rintro ⟨before, c, pair, -, hc, heq⟩
      rw [Bool.not_eq_true] at hbare
      rcases Text.exists_trimEnd url with ⟨gap, hurl', -, -⟩
      have hmem : c ∈ url := by
        rw [hurl', heq]
        simp
      have hvisible := (Builtin.bare_of_takesBrackets hbare).1 c hmem
      exact Bool.false_ne_true (hvisible.1.symm.trans hc)

/-- The line is one link with this address, title and text, whatever its form, as the first pass
    over it reads it. What the second pass makes of the emphasis marks in its text is left open. -/
def ReadsAsLink (options : ParseOptions) (line url : String) (title : Option String)
    (text : String) : Prop :=
  ∃ form shown inside,
    lineItems options line.toList = [.group 0 line.length (.link form url shown) inside] ∧
    (Builder.new line).linkTitle form shown ⟨0, Text.size line⟩ = title ∧
    Saying inside text.toList

/-- What is written for a link. -/
theorem Node.render_link {h : Handlers} (hlink : h.get? .link = none) (htext : h.get? .text = none)
    (o : RenderOptions) {n : Node} {url text : String} {title : Option String}
    (hkind : n.kind = .link url title)
    (hchildren : n.children = [] ∧ text = "" ∨ ∃ t, n.children = [t] ∧ t.kind = .text text) :
    n.render h o = .ok (String.ofList
      (if title = none ∧ Builtin.isAutolink n url = true then '<' :: (url.toList ++ ['>'])
      else Builtin.linkLine (Escape.escapeText text.toList) url.toList title)) := by
  have hcontent : Rendering.inline (n.children.map (renderWith h.choose o)) =
      .ok (String.ofList (Escape.escapeText text.toList)) := by
    rcases hchildren with ⟨hnil, rfl⟩ | ⟨t, hone, hvalue⟩
    · rw [hnil]
      rfl
    · rw [hone]
      exact Rendering.inline_singleton (Node.output_text htext o hvalue)
  rw [Node.render_of_kind o hkind hlink rfl, Builtin.link, hkind]
  simp only [hcontent, bind, Except.bind]
  -- The renderer asks for the title first, and so does the statement.
  by_cases hauto : title = none ∧ Builtin.isAutolink n url = true
  · rw [if_pos hauto, if_pos (by simp [hauto])]
    refine congrArg Except.ok (String.toList_inj.mp ?_)
    simp
  · rw [if_neg hauto, if_neg (by simpa using hauto)]
    refine congrArg Except.ok (String.toList_inj.mp ?_)
    simp [Builtin.linkLine, Builtin.target]

/-- An autolink is read back if its address is one and its text is the address. -/
theorem readsAsLink_autolink {url text : String} (hurl : ∀ c ∈ url.toList, IsClear c)
    (options : ParseOptions) :
    ReadsAsLink options (String.ofList ('<' :: (url.toList ++ ['>']))) url none text ↔
      text = url ∧ IsAddress url.toList := by
  have hchars : ∀ c ∈ url.toList, c ≠ '\n' ∧ c ≠ '\r' ∧ c ≠ '\\' ∧ c ≠ '<' ∧ c ≠ '>' := by
    intro c hc
    have hc := hurl c hc
    exact ⟨hc.feed, hc.carriage, hc.slash, hc.less, hc.greater⟩
  by_cases haddress : IsAddress url.toList
  · rcases lineItems_address hchars options haddress with ⟨form, hform, hitems⟩
    rw [ReadsAsLink, String.toList_ofList, String.length_ofList, hitems]
    constructor
    · rintro ⟨_, _, inside, hgroup, -, hsaying⟩
      rw [List.cons.injEq, Inline.group.injEq] at hgroup
      rcases hgroup with ⟨⟨-, -, -, hinside⟩, -⟩
      rw [← hinside, saying_text_iff, String.toList_inj] at hsaying
      exact ⟨hsaying, haddress⟩
    · rintro ⟨rfl, -⟩
      refine ⟨form, "", _, by rw [String.ofList_toList], ?_, saying_text_iff.mpr rfl⟩
      simp [Builder.linkTitle, hform]
  · -- Then the bracket is text, so no link comes first.
    rcases lineItems_not_address hchars options haddress with ⟨_, _, _, _, hitems⟩
    rw [ReadsAsLink, String.toList_ofList, hitems]
    constructor
    · rintro ⟨_, _, _, hgroup, -⟩
      exact absurd (List.cons.inj hgroup).1 Inline.noConfusion
    · exact fun h => absurd h.2 haddress

section Written

variable {url text : String} {title : Option String} {written : List Char}
  (hform : Escape.TextForm none text.toList written) (htext : ∀ c ∈ text.toList, IsClear c)
  (hurl : ∀ c ∈ url.toList, IsClear c) (htitle : title ≠ some "")
  (hclear : ∀ c ∈ (title.getD "").toList, IsClear c) (options : ParseOptions)
include hform htext hurl htitle hclear

/-- The first element of the line depends on the target. -/
theorem lineItems_linkLine :
    let line := Builtin.linkLine written url.toList title
    ∃ pieces, match (InlineContext.ofLine line).inlineTarget? ('[' :: (written ++ [']'])).length
        pieces with
      | some (found, foundTitle, stop) => ∃ inside more,
          lineItems options line = .group 0 stop
            (.link .inline (String.ofList found) (String.ofList foundTitle)) inside :: more ∧
          Saying inside text.toList ∧ (stop = line.length → more = [])
      | none => ∃ start stop event more,
          lineItems options line = .leaf start stop event :: more := by
  intro line
  have hchars : ∀ c ∈ text.toList, c ≠ '\n' ∧ c ≠ '\r' ∧ c ≠ '&' ∧ c ≠ '~' := fun c hc =>
    ⟨(htext c hc).feed, (htext c hc).carriage, (htext c hc).ampersand, (htext c hc).tilde⟩
  -- Neither part of the line ends it, and the last character is a parenthesis.
  have hends : ∀ c ∈ '(' :: (Builtin.target url.toList title ++ [')']), c ≠ '\n' ∧ c ≠ '\r' := by
    rw [List.forall_mem_cons, List.forall_mem_append, List.forall_mem_singleton]
    exact ⟨by decide, Builtin.target_on_line hurl htitle hclear, by decide⟩
  have hlast : line.getLast?.any Text.isLineBlank = false := by
    have hsplit : line =
        '[' :: (written ++ ']' :: '(' :: Builtin.target url.toList title) ++ [')'] := by
      simp [line, Builtin.linkLine]
    rw [hsplit, List.getLast?_concat]
    rfl
  have hlength : ('[' :: (written ++ [']'])).length = 1 + written.length + 1 := by
    simp [Nat.add_comm 1]
  rw [hlength]
  exact lineItems_brackets hform hchars hends options hlast

/-- A link is read back if its target leads back to the address. -/
theorem readsAsLink_of_pointsBack (h : Builtin.PointsBack url.toList title) :
    ReadsAsLink options (String.ofList (Builtin.linkLine written url.toList title)) url title
      text := by
  rcases lineItems_linkLine hform htext hurl htitle hclear options with ⟨pieces, hitems⟩
  have htarget := Builtin.inlineTarget?_of_pointsBack hurl htitle hclear h
    ('[' :: (written ++ [']'])) pieces
  dsimp only at htarget
  rw [← Builtin.linkLine_eq] at htarget
  rw [htarget] at hitems
  rcases hitems with ⟨inside, more, hitems, hsaying, hmore⟩
  rw [hmore rfl, String.ofList_toList, String.ofList_toList] at hitems
  rw [ReadsAsLink, String.toList_ofList, String.length_ofList]
  refine ⟨.inline, title.getD "", inside, hitems, ?_, hsaying⟩
  refine linkTitle_getD htitle fun hnone _ => ?_
  subst hnone
  rw [Span.showsEmptyTitle, Builder.new, Span.slice?_whole, Option.map_some, Option.getD_some,
    String.toList_ofList]
  exact hasEmptyTitle_untitled hurl ('[' :: written)

/-- Otherwise what is read is no link, or a link to somewhere else. -/
theorem pointsBack_of_readsAsLink (h : ReadsAsLink options
    (String.ofList (Builtin.linkLine written url.toList title)) url title text) :
    Builtin.PointsBack url.toList title := by
  by_contra hpoints
  rcases lineItems_linkLine hform htext hurl htitle hclear options with ⟨pieces, hitems⟩
  rcases h with ⟨form, shown, inside, hgroup, -⟩
  rw [String.toList_ofList] at hgroup
  cases htarget : (InlineContext.ofLine (Builtin.linkLine written url.toList title)).inlineTarget?
      ('[' :: (written ++ [']'])).length pieces with
  | none =>
      rw [htarget] at hitems
      rcases hitems with ⟨_, _, _, _, hitems⟩
      rw [hitems] at hgroup
      exact absurd (List.cons.inj hgroup).1 Inline.noConfusion
  | some target =>
      rcases target with ⟨found, foundTitle, stop⟩
      rw [htarget] at hitems
      rcases hitems with ⟨_, _, hitems, -⟩
      rw [hitems, List.cons.injEq, Inline.group.injEq, Tag.link.injEq] at hgroup
      rcases hgroup with ⟨⟨-, -, ⟨-, hfound, -⟩, -⟩, -⟩
      rw [Builtin.linkLine_eq] at htarget
      -- There is a link, and what it leads to is not the address.
      refine Builtin.ne_of_inlineTarget? hurl htitle hpoints htarget ?_
      rw [← hfound, String.toList_ofList]

end Written

/-- A link without children or with one text, and without characters that need a closer look, is
    read back exactly in two cases. An autolink must hold an address, and that must be the text. Any
    other link must have a target that leads back to the address, with something in front of a
    title, and with nested parentheses unless there are angle brackets. -/
theorem link_reads_back {h : Handlers} (hlink : h.get? .link = none) (htext : h.get? .text = none)
    (o : RenderOptions) {n : Node} {url text : String} {title : Option String}
    (hkind : n.kind = .link url title)
    (hchildren : n.children = [] ∧ text = "" ∨ ∃ t, n.children = [t] ∧ t.kind = .text text)
    (htitle : title ≠ some "")
    (hclear : ∀ c ∈ url.toList ++ (title.getD "").toList ++ text.toList, IsClear c) :
    ∃ out, n.render h o = .ok out ∧ ∀ options, ReadsAsLink options out url title text ↔
      if title = none ∧ Builtin.isAutolink n url = true then text = url ∧ IsAddress url.toList
      else Builtin.PointsBack url.toList title := by
  rw [List.forall_mem_append, List.forall_mem_append] at hclear
  rcases hclear with ⟨⟨hurl, hshown⟩, hsaid⟩
  refine ⟨_, Node.render_link hlink htext o hkind hchildren, fun options => ?_⟩
  by_cases hauto : title = none ∧ Builtin.isAutolink n url = true
  · rw [if_pos hauto, if_pos hauto, hauto.1]
    exact readsAsLink_autolink hurl options
  · rw [if_neg hauto, if_neg hauto]
    have hform : Escape.TextForm none text.toList (Escape.escapeText text.toList) :=
      Escape.textForm_escapeFrom _ _ _ _
    exact ⟨pointsBack_of_readsAsLink hform hsaid hurl htitle hshown options,
      readsAsLink_of_pointsBack hform hsaid hurl htitle hshown options⟩

/-- An address with a blank in angle brackets, a title, and a text with an underscore that needs a
    backslash. -/
theorem link_reads_back_titled :
    let child : Node := { kind := .text "_x" }
    let n : Node := { kind := .link "a b" (some "t"), children := [child] }
    let out := "[\\_x](<a b> \"t\")"
    Handlers.empty.get? .link = none ∧ Handlers.empty.get? .text = none ∧
      some "t" ≠ some "" ∧ (∀ c ∈ "a b".toList ++ "t".toList ++ "_x".toList, IsClear c) ∧
      n.render Handlers.empty {} = .ok out ∧
      ∀ options, ReadsAsLink options out "a b" (some "t") "_x" := by
  intro child n out
  have htitle : some "t" ≠ some "" := by decide
  have hclear : ∀ c ∈ "a b".toList ++ "t".toList ++ "_x".toList, IsClear c := by
    simp [isClear_iff]
  have hout : n.render Handlers.empty {} = .ok out := rfl
  rcases link_reads_back (h := Handlers.empty) (n := n) rfl rfl {} rfl
    (.inr ⟨child, rfl, rfl⟩) htitle hclear with ⟨out', hrender, hreads⟩
  rw [hout, Except.ok.injEq] at hrender
  subst hrender
  refine ⟨rfl, rfl, htitle, hclear, hout, fun options => (hreads options).mpr ?_⟩
  rw [if_neg fun h => absurd h.1 (Option.some_ne_none "t")]
  exact ⟨.inr (by decide), .inl (by decide)⟩

/-- An address with as many opening parentheses as closing ones goes without angle brackets, though
    they do not nest. The reader stops at the first of them that closes. -/
theorem link_crossed_parentheses :
    let n : Node := { kind := .link "a)b(c" none, children := [{ kind := .text "x" }] }
    let out := "[x](a)b(c)"
    n.render Handlers.empty {} = .ok out ∧
      lineItems {} out.toList = [.group 0 6 (.link .inline "a" "") [.leaf 1 2 (.text "x")],
        .leaf 6 10 (.text "b(c)")] ∧
      ¬ ReadsAsLink {} out "a)b(c" none "x" := by
  intro n out
  have hitems : lineItems {} out.toList =
      [.group 0 6 (.link .inline "a" "") [.leaf 1 2 (.text "x")], .leaf 6 10 (.text "b(c)")] := by
    have hchars : out.toList = ['[', 'x', ']', '(', 'a', ')', 'b', '(', 'c', ')'] := by decide
    rw [hchars]
    rfl
  refine ⟨rfl, hitems, ?_⟩
  rintro ⟨form, shown, inside, hgroup, -⟩
  rw [hitems] at hgroup
  exact absurd (List.cons.inj hgroup).2 (List.cons_ne_nil _ _)

end Anchormark
