import Anchormark.Markdown.Events
import Anchormark.Proofs.Text.Blank

/-!
# Written Empty Titles

Behind the text of an inline link stands, in parentheses, where it points: white space, a
destination, an empty title set apart from the destination, and white space again. All but the
parentheses may be missing. The link is read forwards, and its destination first, so `[x]( "")` has
a destination and no title.

Whether an empty title is written is looked up backwards, from the closing parenthesis: there is one
if the last characters are a pair of delimiters, and the character in front of them is white space.
The two ways agree but where the destination itself looks like a title. One that is nothing but such
a pair does, if there is white space in front of it. And one that ends with such a pair does, if the
character in front of the pair is white space that a destination may hold, that is, not in ASCII.

## Main definitions

* `EmptyTitle.Shown`: a text that ends with an empty title.
* `IsDestination`: what a destination may be.
* `LinkTail`: what may stand in the parentheses.
* `LinkTail.LooksTitled`: the destination looks like a title.

## Theorems

* `behindLastOpening?_append`: What stands behind the last `](`.
* `hasEmptyTitle_iff_shown`: Which parts of the source matter.
* `hasEmptyTitle_iff_written`: When an empty title is found.
* `quoted_destination_taken_for_title`: One that is not written.
-/

namespace Anchormark

namespace EmptyTitle

/-- The empty titles. -/
def delimiters : List (List Char) :=
  [['"', '"'], ['\'', '\''], ['(', ')']]

/-- The characters end with an empty title, and what stands in front of it is white space. -/
def Shown (cs : List Char) : Prop :=
  ∃ front c pair, pair ∈ delimiters ∧ Text.isBlank c = true ∧ cs = front ++ c :: pair

theorem not_shown_nil : ¬ Shown [] := by
  rintro ⟨front, c, pair, -, -, h⟩
  exact List.append_ne_nil_of_right_ne_nil front (List.cons_ne_nil c pair) h.symm

/-- An empty title is two characters, and none of them is white space or a closing bracket. -/
theorem of_mem_delimiters {pair : List Char} (h : pair ∈ delimiters) :
    (∃ first last, pair = [first, last] ∧ Text.isBlank first = false ∧
      Text.isBlank last = false) ∧ ']' ∉ pair ∧ '>' ∉ pair := by
  simp only [delimiters, List.mem_cons, List.not_mem_nil, or_false] at h
  rcases h with rfl | rfl | rfl
  · exact ⟨⟨'"', '"', by decide⟩, by decide⟩
  · exact ⟨⟨'\'', '\'', by decide⟩, by decide⟩
  · exact ⟨⟨'(', ')', by decide⟩, by decide⟩

theorem last_of_mem_delimiters {pair : List Char} (h : pair ∈ delimiters) :
    ∀ c ∈ pair.getLast?, Text.isBlank c = false := by
  rcases (of_mem_delimiters h).1 with ⟨first, last, rfl, -, hlast⟩
  intro c hc
  rw [← Option.some.inj hc]
  exact hlast

/-- Read from its end, a text shows an empty title. -/
theorem endsWithEmptyTitle_iff (cs : List Char) :
    endsWithEmptyTitle cs.reverse = true ↔ Shown cs := by
  constructor
  · generalize hback : cs.reverse = back
    intro h
    have hcs : cs = back.reverse := by rw [← hback, List.reverse_reverse]
    unfold endsWithEmptyTitle at h
    split at h
    · next c rest => exact ⟨rest.reverse, c, ['"', '"'], by decide, h, by simp [hcs]⟩
    · next c rest => exact ⟨rest.reverse, c, ['\'', '\''], by decide, h, by simp [hcs]⟩
    · next c rest => exact ⟨rest.reverse, c, ['(', ')'], by decide, h, by simp [hcs]⟩
    · exact absurd h Bool.false_ne_true
  · rintro ⟨front, c, pair, hpair, hc, rfl⟩
    rw [List.reverse_append, List.reverse_cons]
    simp only [delimiters, List.mem_cons, List.not_mem_nil, or_false] at hpair
    rcases hpair with rfl | rfl | rfl <;> exact hc

/-- What stands in front of `](` is not looked at. -/
theorem shown_append_opening (front cs : List Char) :
    Shown (front ++ ']' :: '(' :: cs) ↔ Shown cs := by
  constructor
  · rintro ⟨before, c, pair, hpair, hc, heq⟩
    rcases List.append_eq_append_iff.mp heq with ⟨inner, -, hinner⟩ | ⟨inner, -, hinner⟩
    · rcases inner with _ | ⟨_, _ | ⟨_, inner⟩⟩
      · rw [← (List.cons.inj hinner).1] at hc
        exact absurd hc (by decide)
      · rw [← (List.cons.inj (List.cons.inj hinner).2).1] at hc
        exact absurd hc (by decide)
      · exact ⟨inner, c, pair, hpair, hc, (List.cons.inj (List.cons.inj hinner).2).2⟩
    · have hmem : ']' ∈ c :: pair := by
        rw [hinner]
        exact List.mem_append_right _ List.mem_cons_self
      rcases List.mem_cons.mp hmem with rfl | hmem
      · exact absurd hc (by decide)
      · exact absurd hmem (of_mem_delimiters hpair).2.1
  · rintro ⟨before, c, pair, hpair, hc, rfl⟩
    exact ⟨front ++ ']' :: '(' :: before, c, pair, hpair, hc, by simp⟩

/-- Behind a closing angle bracket there is no title. -/
theorem not_shown_of_getLast? {cs : List Char} (h : cs.getLast? = some '>') :
    ¬ Shown (Text.trimEnd cs) := by
  rcases List.getLast?_eq_some_iff.mp h with ⟨inner, rfl⟩
  have htrim : Text.trimEnd (inner ++ ['>']) = inner ++ ['>'] :=
    Text.trimEnd_append_cons inner (by decide) []
  rw [htrim]
  rintro ⟨front, c, pair, hpair, -, heq⟩
  have hparts := of_mem_delimiters hpair
  rcases hparts.1 with ⟨first, last, rfl, -, -⟩
  have hlast := congrArg List.getLast? heq
  have hsame : '>' = last := by simpa using hlast
  exact hparts.2.2 (List.mem_cons_of_mem _ (List.mem_singleton.mpr hsame))

/-- White space in front of a text counts if the text is an empty title. -/
theorem shown_append_of_blank {lead cs : List Char} (hlead : ∀ c ∈ lead, Text.isBlank c = true) :
    Shown (Text.trimEnd (lead ++ cs)) ↔
      lead ≠ [] ∧ Text.trimEnd cs ∈ delimiters ∨ Shown (Text.trimEnd cs) := by
  rcases Text.exists_trimEnd cs with ⟨gap, hcs, hgap, hlast⟩
  generalize Text.trimEnd cs = kept at hcs hlast
  -- If nothing but white space is behind it, all of it is trimmed.
  rcases eq_or_ne kept [] with rfl | hkept
  · have htrim : Text.trimEnd (lead ++ cs) = [] := by
      rw [hcs, List.nil_append, Text.trimEnd_append_of_blank lead hgap]
      exact Text.trimEnd_append_of_blank [] hlead
    rw [htrim]
    exact ⟨fun h => absurd h not_shown_nil, Or.rec (fun h => absurd h.2 (by decide)) id⟩
  · have htrim : Text.trimEnd (lead ++ cs) = lead ++ kept := by
      rw [hcs, ← List.append_assoc]
      refine Text.trimEnd_append_blanks hgap ?_
      rwa [List.getLast?_append_of_ne_nil lead hkept]
    rw [htrim]
    constructor
    · rintro ⟨front, c, pair, hpair, hc, heq⟩
      -- The delimiters stand in the text, begin with it, or reach into the white space.
      rcases List.append_eq_append_iff.mp heq with ⟨between, -, hkept⟩ | ⟨between, hfront, hbehind⟩
      · exact .inr ⟨between, c, pair, hpair, hc, hkept⟩
      · rcases between with _ | ⟨_, _ | ⟨first, between⟩⟩
        · exact .inr ⟨[], c, pair, hpair, hc, hbehind.symm⟩
        · rw [List.cons_append, List.nil_append, List.cons.injEq] at hbehind
          refine .inl ⟨?_, hbehind.2 ▸ hpair⟩
          rw [hfront]
          exact List.append_ne_nil_of_right_ne_nil _ (List.cons_ne_nil _ _)
        · -- The first of the delimiters would be white space.
          rcases (of_mem_delimiters hpair).1 with ⟨open', last, rfl, hopen, -⟩
          have hblank := hlead first (by simp [hfront])
          have hsame : open' = first := by
            rw [List.cons_append, List.cons_append, List.cons.injEq, List.cons.injEq] at hbehind
            exact hbehind.2.1
          rw [hsame, hblank] at hopen
          exact absurd hopen.symm Bool.false_ne_true
    · rintro (⟨hne, hpair⟩ | ⟨front, c, pair, hpair, hc, rfl⟩)
      · rcases List.eq_nil_or_concat lead with rfl | ⟨front, c, hfront⟩
        · exact absurd rfl hne
        · rw [List.concat_eq_append] at hfront
          exact ⟨front, c, kept, hpair, hlead c (by simp [hfront]), by simp [hfront]⟩
      · exact ⟨lead ++ front, c, pair, hpair, hc, by simp⟩

/-- There is a `](` in front of what stands behind the last one. -/
theorem eq_of_behindLastOpening? {cs tail : List Char} (h : behindLastOpening? cs = some tail) :
    ∃ front, cs = front ++ ']' :: '(' :: tail := by
  induction cs with
  | nil => exact absurd h (Option.some_ne_none _).symm
  | cons c cs ih =>
      rw [behindLastOpening?.eq_def] at h
      dsimp only at h
      split at h
      · next hrest =>
          rw [h] at hrest
          rcases ih hrest with ⟨front, rfl⟩
          exact ⟨c :: front, rfl⟩
      · split at h
        · next hcs => exact ⟨[], by rw [← Option.some.inj h]; rfl⟩
        · exact absurd h (Option.some_ne_none _).symm

/-- Behind `](` the last `](` is not further in front. -/
theorem behindLastOpening?_append (front inner : List Char) :
    ∃ tail, behindLastOpening? (front ++ ']' :: '(' :: inner) = some tail ∧
      (tail = inner ∨ ∃ between, inner = between ++ ']' :: '(' :: tail) := by
  induction front with
  | nil =>
      have hparen : behindLastOpening? ('(' :: inner) = behindLastOpening? inner := by
        rw [behindLastOpening?.eq_def]
        dsimp only
        cases behindLastOpening? inner <;> rfl
      rw [List.nil_append, behindLastOpening?.eq_def]
      dsimp only
      rw [hparen]
      cases hinner : behindLastOpening? inner with
      | none => exact ⟨inner, rfl, .inl rfl⟩
      | some tail => exact ⟨tail, rfl, .inr (eq_of_behindLastOpening? hinner)⟩
  | cons c front ih =>
      rcases ih with ⟨tail, htail, hinner⟩
      rw [List.cons_append, behindLastOpening?.eq_def]
      dsimp only
      rw [htail]
      exact ⟨tail, rfl, hinner⟩

end EmptyTitle

/-- Only the characters in the parentheses matter, and of these not the white space at the end. -/
theorem hasEmptyTitle_iff_shown (front inner : List Char) :
    hasEmptyTitle (front ++ ']' :: '(' :: (inner ++ [')'])) = true ↔
      EmptyTitle.Shown (Text.trimEnd inner) := by
  have hreverse : (front ++ ']' :: '(' :: (inner ++ [')'])).reverse.dropWhile Text.isBlank =
      ')' :: (front ++ ']' :: '(' :: inner).reverse := by
    have hsplit : front ++ ']' :: '(' :: (inner ++ [')']) =
        (front ++ ']' :: '(' :: inner) ++ [')'] := by simp
    rw [hsplit, List.reverse_append]
    rfl
  -- The last opening may be one within the parentheses. Then only what is behind it counts.
  rcases EmptyTitle.behindLastOpening?_append front inner with ⟨tail, htail, hinner⟩
  rw [hasEmptyTitle, hreverse]
  simp only [List.reverse_reverse, htail]
  rw [← List.reverse_reverse (tail.reverse.dropWhile Text.isBlank),
    EmptyTitle.endsWithEmptyTitle_iff]
  change EmptyTitle.Shown (Text.trimEnd tail) ↔ _
  rcases hinner with rfl | ⟨between, rfl⟩
  · rfl
  · have htrim : Text.trimEnd (between ++ ']' :: '(' :: tail) =
        between ++ ']' :: '(' :: Text.trimEnd tail := by
      rw [Text.trimEnd_append_cons between (by decide)]
      exact congrArg (between ++ ']' :: ·) (Text.trimEnd_append_cons [] (by decide) tail)
    rw [htrim, EmptyTitle.shown_append_opening]

/-- The characters end with the first parenthesis that closes one of `depth` more than they open
    themselves. Escaped parentheses do not count. -/
def closesOuter (depth : Nat) : List Char → Bool
  | [] => false
  | '\\' :: c :: rest =>
    if Text.isAsciiPunctuation c then closesOuter depth rest else closesOuter depth (c :: rest)
  | c :: rest =>
    if c = ')' && depth = 0 then rest.isEmpty
    else if c = '(' then closesOuter (depth + 1) rest
    else if c = ')' then closesOuter (depth - 1) rest
    else closesOuter depth rest

/-- The characters end with their first closing angle bracket and hold no opening one. Escaped ones
    do not count. -/
def closesAngle : List Char → Bool
  | [] => false
  | '\\' :: c :: rest =>
    if Text.isAsciiPunctuation c then closesAngle rest else closesAngle (c :: rest)
  | c :: rest =>
    if c = '>' then rest.isEmpty
    else c ≠ '<' && c ≠ '\n' && c ≠ '\r' && closesAngle rest

/-- A link destination in angle brackets, or a bare one. A bare one goes no further than its own
    parentheses nest, so the one behind it and the `blanks` belongs to the link. -/
inductive IsDestination (blanks : List Char) : List Char → Prop
  | angle {rest : List Char} (h : closesAngle rest = true) : IsDestination blanks ('<' :: rest)
  | bare {url : List Char} (hne : url ≠ []) (hfirst : url.head? ≠ some '<')
      (hvisible : ∀ c ∈ url, 0x20 < c.toNat ∧ c.toNat ≠ 0x7f)
      (hnested : closesOuter 0 (url ++ blanks ++ [')']) = true) : IsDestination blanks url

/-- What stands in the parentheses of an inline link whose title is empty or missing. -/
structure LinkTail where
  lead : List Char
  destination : Option (List Char)
  gap : List Char
  title : Option (List Char)
  trail : List Char
  lead_space : ∀ c ∈ lead, Text.isMarkdownSpace c = true
  gap_space : ∀ c ∈ gap, c ∈ [' ', '\t', '\n', '\r']
  trail_space : ∀ c ∈ trail, Text.isMarkdownSpace c = true
  /-- A title is set apart from a destination. -/
  gap_ne_nil : gap ≠ [] ↔ destination.isSome = true ∧ title.isSome = true
  isDestination : ∀ d ∈ destination, IsDestination (gap ++ trail) d
  mem_delimiters : ∀ pair ∈ title, pair ∈ EmptyTitle.delimiters
  /-- What can be the destination is the destination. -/
  destination_first : destination = none → ∀ pair ∈ title, ¬ IsDestination trail pair

namespace LinkTail

/-- The characters in the parentheses. -/
def chars (t : LinkTail) : List Char :=
  t.lead ++ t.destination.getD [] ++ t.gap ++ t.title.getD [] ++ t.trail

/-- The link. -/
def source (t : LinkTail) (label : List Char) : List Char :=
  '[' :: (label ++ ']' :: '(' :: (t.chars ++ [')']))

/-- The destination looks like an empty title with white space in front of it: it is one, and stands
    behind white space, or it holds white space that is not in ASCII and ends with one. White space
    at its end does not count. -/
def LooksTitled (t : LinkTail) : Prop :=
  ∃ d ∈ t.destination,
    (t.lead ≠ [] ∧ Text.trimEnd d ∈ EmptyTitle.delimiters) ∨
    ∃ front c pair, Text.isBlank c = true ∧ 0x7f < c.toNat ∧ pair ∈ EmptyTitle.delimiters ∧
      Text.trimEnd d = front ++ c :: pair

end LinkTail

/-- A closing angle bracket is the last character. -/
theorem getLast?_of_closesAngle {cs : List Char} (h : closesAngle cs = true) :
    cs.getLast? = some '>' := by
  have hcons {c : Char} {cs : List Char} (h : cs.getLast? = some '>') :
      (c :: cs).getLast? = some '>' := by
    rw [List.getLast?_cons, h]
    rfl
  fun_induction closesAngle cs with
  | case1 => exact absurd h Bool.false_ne_true
  | case2 c rest _ ih => exact hcons (hcons (ih h))
  | case3 c rest _ ih => exact hcons (ih h)
  | case4 rest _ =>
      rw [List.isEmpty_iff] at h
      rw [h]
      rfl
  | case5 c rest _ _ ih =>
      rw [Bool.and_eq_true] at h
      exact hcons (ih h.2)

/-- White space is behind ASCII if a bare destination may hold it. -/
theorem ascii_lt_of_isBlank {c : Char} (hc : Text.isBlank c = true)
    (hvisible : 0x20 < c.toNat ∧ c.toNat ≠ 0x7f) : 0x7f < c.toNat := by
  simp only [Text.isBlank, Bool.or_eq_true, Bool.and_eq_true, decide_eq_true_eq] at hc
  omega

/-- A destination shows an empty title only behind white space that is not in ASCII. -/
theorem IsDestination.ascii_lt_of_shown {blanks d front pair : List Char} {c : Char}
    (h : IsDestination blanks d) (hpair : pair ∈ EmptyTitle.delimiters)
    (hc : Text.isBlank c = true) (heq : Text.trimEnd d = front ++ c :: pair) :
    0x7f < c.toNat := by
  cases h with
  | @angle rest hrest =>
      have hlast : ('<' :: rest).getLast? = some '>' := by
        rw [List.getLast?_cons, getLast?_of_closesAngle hrest]
        rfl
      exact absurd ⟨front, c, pair, hpair, hc, heq⟩ (EmptyTitle.not_shown_of_getLast? hlast)
  | bare _ _ hvisible _ =>
      rcases Text.exists_trimEnd d with ⟨gap, hd, -, -⟩
      refine ascii_lt_of_isBlank hc (hvisible c ?_)
      rw [hd, heq]
      simp

/-- An empty title alone can be a destination. -/
theorem isDestination_of_mem_delimiters {pair blanks : List Char}
    (hpair : pair ∈ EmptyTitle.delimiters)
    (hblanks : ∀ c ∈ blanks, Text.isMarkdownSpace c = true) : IsDestination blanks pair := by
  have hclose : closesOuter 0 (blanks ++ [')']) = true := by
    induction blanks with
    | nil => rfl
    | cons c blanks ih =>
        rw [List.forall_mem_cons] at hblanks
        have hc := hblanks.1
        simp only [Text.isMarkdownSpace, Text.isLineBlank, Bool.or_eq_true,
          decide_eq_true_eq] at hc
        rcases hc with (((((rfl | rfl) | rfl) | rfl) | rfl) | rfl) <;> exact ih hblanks.2
  simp only [EmptyTitle.delimiters, List.mem_cons, List.not_mem_nil, or_false] at hpair
  have hvisible {c : Char} (hc : 0x20 < c.toNat ∧ c.toNat ≠ 0x7f) {d : Char}
      (hd : 0x20 < d.toNat ∧ d.toNat ≠ 0x7f) :
      ∀ e ∈ [c, d], 0x20 < e.toNat ∧ e.toNat ≠ 0x7f :=
    List.forall_mem_cons.mpr ⟨hc, List.forall_mem_singleton.mpr hd⟩
  rcases hpair with rfl | rfl | rfl <;>
    exact .bare (List.cons_ne_nil _ _) (by decide) (hvisible (by decide) (by decide)) hclose

namespace LinkTail

open EmptyTitle

/-- A title stands behind a destination, and white space between. -/
theorem gap_ne_nil_of_title {t : LinkTail} {pair : List Char} (h : t.title = some pair) :
    t.gap ≠ [] := by
  refine t.gap_ne_nil.mpr ⟨?_, by rw [h]; rfl⟩
  rw [Option.isSome_iff_ne_none]
  intro hnone
  exact t.destination_first hnone pair h
    (isDestination_of_mem_delimiters (t.mem_delimiters pair h) t.trail_space)

/-- A written title shows. -/
theorem shown_of_title {t : LinkTail} {pair : List Char} (h : t.title = some pair) :
    Shown (Text.trimEnd t.chars) := by
  have hpair := t.mem_delimiters pair h
  have hne : pair ≠ [] := by
    rcases (of_mem_delimiters hpair).1 with ⟨first, last, rfl, -, -⟩
    exact List.cons_ne_nil _ _
  -- What is right before a title is the last character of its gap.
  rcases List.eq_nil_or_concat t.gap with hnil | ⟨gap, c, hgap⟩
  · exact absurd hnil (gap_ne_nil_of_title h)
  · rw [List.concat_eq_append] at hgap
    have hc : Text.isBlank c = true := by
      have hmem := t.gap_space c (by simp [hgap])
      revert hmem
      generalize c = d
      simp only [List.mem_cons, List.not_mem_nil, or_false]
      rintro (rfl | rfl | rfl | rfl) <;> decide
    refine ⟨t.lead ++ t.destination.getD [] ++ gap, c, pair, hpair, hc, ?_⟩
    rw [chars, Text.trimEnd_append_blanks fun d hd =>
      Text.isBlank_of_isMarkdownSpace (t.trail_space d hd)]
    · rw [h, hgap, Option.getD_some]
      simp
    · rw [h, Option.getD_some, List.getLast?_append_of_ne_nil _ hne]
      exact last_of_mem_delimiters hpair

/-- Without a title, the destination shows one if it looks like one. -/
theorem shown_iff_looksTitled {t : LinkTail} (h : t.title = none) :
    Shown (Text.trimEnd t.chars) ↔ t.LooksTitled := by
  -- A gap stands only between a destination and a title.
  have hgap : t.gap = [] := by
    by_contra hne
    have htitle := (t.gap_ne_nil.mp hne).2
    rw [h] at htitle
    exact Bool.false_ne_true htitle
  have hchars : Text.trimEnd t.chars = Text.trimEnd (t.lead ++ t.destination.getD []) := by
    rw [chars, hgap, h, Option.getD_none, List.append_nil, List.append_nil,
      Text.trimEnd_append_of_blank _ fun c hc =>
        Text.isBlank_of_isMarkdownSpace (t.trail_space c hc)]
  rw [hchars, shown_append_of_blank fun c hc =>
    Text.isBlank_of_isMarkdownSpace (t.lead_space c hc), LooksTitled]
  cases hdest : t.destination with
  | none =>
      constructor
      · exact Or.rec (fun h => absurd h.2 (by decide)) fun h => absurd h not_shown_nil
      · rintro ⟨d, hd, -⟩
        exact absurd hd (Option.not_mem_none d)
  | some d =>
      constructor
      · rintro (hpair | ⟨front, c, pair, hpair, hc, heq⟩)
        · exact ⟨d, rfl, .inl hpair⟩
        · exact ⟨d, rfl, .inr ⟨front, c, pair, hc,
            (t.isDestination d hdest).ascii_lt_of_shown hpair hc heq, hpair, heq⟩⟩
      · rintro ⟨d', hd', hlooks⟩
        rw [← Option.mem_some_iff.mp hd'] at hlooks
        rcases hlooks with hpair | ⟨front, c, pair, hc, -, hpair, heq⟩
        · exact .inl hpair
        · exact .inr ⟨front, c, pair, hpair, hc, heq⟩

/-- An empty title shows if it is written or looks written. -/
theorem hasEmptyTitle_source (t : LinkTail) (label : List Char) :
    hasEmptyTitle (t.source label) = true ↔ t.title.isSome = true ∨ t.LooksTitled := by
  rw [source, ← List.cons_append, hasEmptyTitle_iff_shown]
  cases h : t.title with
  | none =>
      rw [shown_iff_looksTitled h]
      exact (or_iff_right Bool.false_ne_true).symm
  | some pair => exact iff_of_true (shown_of_title h) (.inl rfl)

end LinkTail

/-- An empty title is found in the source of a link exactly if it is written there, or the
    destination looks like one. The same decides the title of the link when it opens. -/
theorem hasEmptyTitle_iff_written (t : LinkTail) (label : List Char) :
    (hasEmptyTitle (t.source label) = true ↔ t.title.isSome = true ∨ t.LooksTitled) ∧
    ∀ (b : Builder) (span : Span) (url : String),
      span.slice? b.source = some (String.ofList (t.source label)) →
      let link := (b.push (.start (.link .inline url "")) span).top.kind
      (link = .link url (some "") ↔ t.title.isSome = true ∨ t.LooksTitled) ∧
      (link = .link url none ↔ t.title = none ∧ ¬ t.LooksTitled) := by
  refine ⟨t.hasEmptyTitle_source label, fun b span url hslice => ?_⟩
  -- The builder looks into the source of the link, and sees what the first part speaks of.
  have hkind : (b.push (.start (.link .inline url "")) span).top.kind =
      .link url (if hasEmptyTitle (t.source label) then some "" else none) := by
    change Kind.link url (b.linkTitle .inline "" span) = _
    rw [Builder.linkTitle, hslice, Option.map_some, Option.getD_some, String.toList_ofList]
    rfl
  intro link
  rw [show link = _ from hkind]
  have hiff := t.hasEmptyTitle_source label
  cases hshown : hasEmptyTitle (t.source label) with
  | true =>
      have hlooks := hiff.mp hshown
      refine ⟨iff_of_true rfl hlooks, iff_of_false (by simp) ?_⟩
      rintro ⟨hnone, hnot⟩
      rw [hnone] at hlooks
      exact hnot (hlooks.resolve_left Bool.false_ne_true)
  | false =>
      have hlooks : ¬ (t.title.isSome = true ∨ t.LooksTitled) :=
        fun h => Bool.false_ne_true (hshown.symm.trans (hiff.mpr h))
      refine ⟨iff_of_false (by simp) hlooks, iff_of_true rfl ⟨?_, fun h => hlooks (.inr h)⟩⟩
      exact Option.not_isSome_iff_eq_none.mp fun h => hlooks (.inl h)

/-- The label holds the beginning of a target, the destination a parenthesis and white space that is
    not in ASCII, and the title stands on a line of its own. -/
theorem hasEmptyTitle_iff_written_parentheses :
    let link := "[a\\](b](\\)\u00a0\n() )"
    Span.slice? ⟨1, 18⟩ ("!" ++ link) = some link ∧
      ((Builder.new ("!" ++ link)).push (.start (.link .inline ")\u00a0" "")) ⟨1, 18⟩).top.kind =
        .link ")\u00a0" (some "") := by
  intro link
  have hdest : ∀ d ∈ some ['\\', ')', '\u00a0'], IsDestination ['\n', ' '] d := by
    rintro d ⟨⟩
    refine .bare (by decide) (by decide) ?_ (by decide)
    simp only [List.forall_mem_cons]
    exact ⟨by decide, by decide, by decide, List.forall_mem_nil _⟩
  -- The tail as it is written, with the title on the next line and a space behind it.
  let t : LinkTail :=
    { lead := [], destination := some ['\\', ')', '\u00a0'], gap := ['\n']
      title := some ['(', ')'], trail := [' ']
      lead_space := List.forall_mem_nil _
      gap_space := List.forall_mem_singleton.mpr (by decide)
      trail_space := List.forall_mem_singleton.mpr (by decide)
      gap_ne_nil := by decide
      isDestination := hdest
      mem_delimiters := by rintro pair ⟨⟩; decide
      destination_first := nofun }
  have hslice : Span.slice? ⟨1, 18⟩ ("!" ++ link) = some link := by decide +kernel
  have hsource : link = String.ofList (t.source "a\\](b".toList) := rfl
  refine ⟨hslice, ?_⟩
  rw [hsource] at hslice ⊢
  exact ((hasEmptyTitle_iff_written t _).2 (Builder.new _) ⟨1, 18⟩ _ hslice).1.mpr (.inl rfl)

/-- The destination is in quotes and stands behind a blank. There is no title, and an empty one is
    found. -/
theorem quoted_destination_taken_for_title :
    ∃ t : LinkTail, t.source ['x'] = "[x]( \"\")".toList ∧ t.destination = some ['"', '"'] ∧
      t.title = none ∧ hasEmptyTitle (t.source ['x']) = true ∧
      ((Node.ofMarkdown {} "[x]( \"\")").children.flatMap Node.children).map Node.kind =
        [.link "\"\"" (some "")] := by
  have hdest : ∀ d ∈ some ['"', '"'], IsDestination [] d := by
    rintro d ⟨⟩
    exact isDestination_of_mem_delimiters (by decide) (List.forall_mem_nil _)
  let t : LinkTail :=
    { lead := [' '], destination := some ['"', '"'], gap := [], title := none, trail := []
      lead_space := List.forall_mem_singleton.mpr (by decide)
      gap_space := List.forall_mem_nil _
      trail_space := List.forall_mem_nil _
      gap_ne_nil := by decide
      isDestination := hdest
      mem_delimiters := nofun
      destination_first := fun _ => nofun }
  have hsource : t.source ['x'] = "[x]( \"\")".toList := rfl
  have hshown : hasEmptyTitle (t.source ['x']) = true := by
    rw [hsource]
    decide
  exact ⟨t, hsource, rfl, rfl, hshown, by decide +kernel⟩

end Anchormark
