import Anchormark.Proofs.Attribute.Language

/-!
# Blocks at the End of a Text

A block at the start of a text is read from its opening brace on. A block at the end has to be
found first, and the finder does not try every opening brace: it takes the last one and reads from
there. So whatever it finds is a block as it is read at a start, but it misses a block that has
another opening brace behind its first.

The grammar says where that can be. No word and no key holds an opening brace, and white space
does not either, so the brace stands in a value in quotes. There it is well formed, and a block
with such a value is taken at the start of a text and left at the end of one.

## Main definitions

* `Attributes.EndsInBlock`: A text from a byte on is one block.
* `AttributeBlock.QuotesBrace`: A value in quotes holds an opening brace.

## Theorems

* `Listed.quotesBrace`: Where an opening brace can stand inside a block.
* `trailing?_eq_some_iff`: The finder takes the last opening brace.
* `parseTrailing?_eq_some_iff`: When the block at the end of a text is found.
* `parseTrailing?_quoted_brace`: A block that is not found.
-/

namespace Anchormark

namespace AttributeBlock

/-- Between the braces of a block a value in quotes holds an opening brace. The value stands behind
    an equals sign and goes up to the next quote of its kind. -/
def QuotesBrace (inside : List Char) : Prop :=
  ∃ before quote value after, inside = before ++ '=' :: quote :: (value ++ quote :: after) ∧
    (quote = '"' ∨ quote = '\'') ∧ quote ∉ value ∧ '{' ∈ value

theorem QuotesBrace.append {inside : List Char} (h : QuotesBrace inside) (front : List Char) :
    QuotesBrace (front ++ inside) := by
  rcases h with ⟨before, quote, value, after, rfl, hquote, hvalue, hbrace⟩
  exact ⟨front ++ before, quote, value, after, (List.append_assoc _ _ _).symm, hquote, hvalue,
    hbrace⟩

theorem QuotesBrace.brace_mem {inside : List Char} (h : QuotesBrace inside) : '{' ∈ inside := by
  rcases h with ⟨before, quote, value, after, rfl, -, -, hbrace⟩
  simp [hbrace]

theorem IsGap.brace_not_mem {gap : List Char} (h : IsGap gap) : '{' ∉ gap := by
  intro hmem
  exact absurd (h '{' hmem) (by decide)

theorem IsWord.brace_not_mem {word : List Char} (h : IsWord word) : '{' ∉ word :=
  fun hmem => (h '{' hmem).2.1 rfl

theorem IsKeyText.brace_not_mem {key : List Char} (h : IsKeyText key) : '{' ∉ key := by
  rcases h with ⟨c, cs, rfl, hc, hcs⟩
  rw [List.mem_cons, not_or]
  constructor
  · rintro rfl
    exact absurd hc (by decide)
  · intro hmem
    exact absurd (hcs '{' hmem) (by decide)

/-- Of all that a token is written with, only a value in quotes can hold an opening brace. -/
theorem Token.Written.quotesBrace {t : Token} {written rest : List Char}
    (h : t.Written written rest) (hbrace : '{' ∈ written) (after : List Char) :
    QuotesBrace (written ++ after) := by
  cases h with
  | id hword =>
      rcases List.mem_cons.mp hbrace with hsign | hbrace
      · exact absurd hsign (by decide)
      · exact absurd hbrace hword.brace_not_mem
  | className _ hword =>
      rcases List.mem_cons.mp hbrace with hstop | hbrace
      · exact absurd hstop (by decide)
      · exact absurd hbrace hword.brace_not_mem
  | @key key value _ _ _ hkey hassigned _ =>
      rcases List.mem_append.mp hbrace with hbrace | hbrace
      · exact absurd hbrace hkey.brace_not_mem
      cases hassigned with
      | nothing => exact absurd hbrace List.not_mem_nil
      | bare _ _ hword =>
          rcases List.mem_cons.mp hbrace with hsign | hbrace
          · exact absurd hsign (by decide)
          · exact absurd hbrace hword.brace_not_mem
      | @quoted quote _ _ hquote hvalue =>
          -- The quotes themselves are none.
          have hmem : '{' ∈ value := by
            simp only [List.mem_cons, List.mem_append, List.not_mem_nil, or_false] at hbrace
            rcases hbrace with h | h | h | h
            · exact absurd h (by decide)
            · rcases hquote with rfl | rfl <;> exact absurd h (by decide)
            · exact h
            · rcases hquote with rfl | rfl <;> exact absurd h (by decide)
          refine ⟨key, quote, value, after, ?_, hquote, hvalue, hmem⟩
          simp only [List.append_assoc, List.cons_append, List.nil_append]

/-- An opening brace inside a block stands in quotes. The induction is on the tokens up to the one
    that holds it. -/
theorem Listed.quotesBrace {ts : List Token} {inside : List Char} (h : Listed ts inside)
    (hbrace : '{' ∈ inside) : QuotesBrace inside := by
  induction h with
  | close hgap =>
      rcases List.mem_append.mp hbrace with hbrace | hbrace
      · exact absurd hbrace hgap.brace_not_mem
      · exact absurd (List.mem_singleton.mp hbrace) (by decide)
  | token hgap hwritten _ ih =>
      rcases List.mem_append.mp hbrace with hbrace | hbrace
      · exact absurd hbrace hgap.brace_not_mem
      refine QuotesBrace.append ?_ _
      rcases List.mem_append.mp hbrace with hbrace | hbrace
      · exact hwritten.quotesBrace hbrace _
      · exact (ih hbrace).append _

/-- The same behind the opening brace, with or without a colon. -/
theorem IsBlock.quotesBrace_iff {ts : List Token} {tail : List Char}
    (h : IsBlock ts ('{' :: tail)) : QuotesBrace tail ↔ '{' ∈ tail := by
  refine ⟨QuotesBrace.brace_mem, fun hbrace => ?_⟩
  rcases h with ⟨inside, hlisted, heq | ⟨heq, -⟩⟩
  · rw [List.cons.injEq] at heq
    rcases heq with ⟨-, rfl⟩
    rcases List.mem_cons.mp hbrace with hcolon | hbrace
    · exact absurd hcolon (by decide)
    · exact (hlisted.quotesBrace hbrace).append [':']
  · rw [List.cons.injEq] at heq
    rcases heq with ⟨-, rfl⟩
    exact hlisted.quotesBrace hbrace

/-- A block at the end is what is read from the last opening brace on, if nothing is left. -/
theorem trailing?_eq_some_iff {cs front : List Char} {a : Attributes} :
    trailing? cs = some (a, front) ↔
      ∃ tail, cs = front ++ '{' :: tail ∧ leading? ('{' :: tail) = some (a, []) ∧ '{' ∉ tail := by
  constructor
  · intro h
    rcases trailing?_eq_some h with ⟨tail, hcs, hbrace, hread⟩
    exact ⟨tail, hcs, hread, hbrace⟩
  · rintro ⟨tail, rfl, hread, hbrace⟩
    -- What is read ends with a closing brace, and then so do the characters.
    rcases leading?_eq_some hread with ⟨body, hbody⟩
    have hlast : (front ++ '{' :: tail).getLast? = some '}' := by
      rw [hbody, ← List.cons_append, ← List.append_assoc, List.getLast?_concat]
    simp only [trailing?, hlast, cutAtLastBrace?_append front hbrace, hread, guard,
      Option.pure_def, Option.bind_eq_bind, Option.bind_some, List.isEmpty_nil, if_true]

end AttributeBlock

namespace Attributes

/-- From byte `k` on, which is no byte inside a character, `s` is one block: reading it as a block
    at the start takes all the bytes that are left. `inside` is what follows its opening brace. -/
def EndsInBlock (s : String) (a : Attributes) (k : Nat) (inside : List Char) : Prop :=
  ∃ front, s.toList = front ++ '{' :: inside ∧ Text.byteLength front = k ∧
    parseLeading? (String.ofList ('{' :: inside)) = some (a, Text.size s - k)

/-- The bytes of a block at the start of a text are all that there are exactly if no character is
    left behind it. -/
theorem parseLeading?_size_iff {cs : List Char} {a : Attributes} :
    parseLeading? (String.ofList cs) = some (a, Text.byteLength cs) ↔
      AttributeBlock.leading? cs = some (a, []) := by
  simp only [parseLeading?, String.toList_ofList, Option.map_eq_some_iff, Prod.mk.injEq,
    Prod.exists, Text.size]
  constructor
  · rintro ⟨_, rest, hread, rfl, hsize⟩
    rcases AttributeBlock.leading?_eq_some hread with ⟨body, rfl⟩
    -- A rest with a character in it would take bytes.
    cases rest with
    | nil => exact hread
    | cons c rest =>
        have hc := c.utf8Size_pos
        simp only [Text.byteLength_cons, Text.byteLength_append] at hsize
        omega
  · intro hread
    exact ⟨a, [], hread, rfl, rfl⟩

/-- The block at the end of a text is found exactly if no value in quotes in it holds an opening
    brace, and what is found is that block. -/
theorem parseTrailing?_eq_some_iff (s : String) (a : Attributes) (k : Nat) :
    parseTrailing? s = some (a, k) ↔
      ∃ inside, EndsInBlock s a k inside ∧ ¬ AttributeBlock.QuotesBrace inside := by
  have hsize {front inside : List Char} (hs : s.toList = front ++ '{' :: inside) :
      Text.size s - Text.byteLength front = Text.byteLength ('{' :: inside) := by
    rw [Text.size, hs, Text.byteLength_append, Nat.add_sub_cancel_left]
  -- In a block, opening braces stand in quotes or not at all.
  have hquotes {inside : List Char} (hread : AttributeBlock.leading? ('{' :: inside) =
      some (a, [])) : AttributeBlock.QuotesBrace inside ↔ '{' ∈ inside := by
    rcases AttributeBlock.leading?_eq_some_iff.mp hread with ⟨block, ts, hblock, hts, -⟩
    rw [List.append_nil] at hblock
    exact (hblock ▸ hts).quotesBrace_iff
  simp only [parseTrailing?, Option.map_eq_some_iff, Prod.mk.injEq, Prod.exists]
  constructor
  · rintro ⟨_, front, htrailing, rfl, rfl⟩
    rcases AttributeBlock.trailing?_eq_some_iff.mp htrailing with ⟨inside, hs, hread, hbrace⟩
    refine ⟨inside, ⟨front, hs, rfl, ?_⟩, fun hquoted => hbrace hquoted.brace_mem⟩
    rw [hsize hs]
    exact parseLeading?_size_iff.mpr hread
  · rintro ⟨inside, ⟨front, hs, rfl, hread⟩, hquoted⟩
    rw [hsize hs] at hread
    have hleading := parseLeading?_size_iff.mp hread
    refine ⟨a, front, AttributeBlock.trailing?_eq_some_iff.mpr ⟨inside, hs, hleading, ?_⟩, rfl, rfl⟩
    exact fun hbrace => hquoted ((hquotes hleading).mpr hbrace)

/-- A text may end in a block that is not found: its title holds an opening brace. -/
theorem parseTrailing?_quoted_brace :
    let s := "Title \x7b#x t=\"\x7b\"\x7d"
    let a : Attributes := { id := some "x", pairs := [("t", "\x7b")] }
    EndsInBlock s a 6 "#x t=\"\x7b\"\x7d".toList ∧ parseTrailing? s = none := by
  intro s a
  have hread : parseLeading? (String.ofList ('\x7b' :: "#x t=\"\x7b\"\x7d".toList)) =
      some (a, Text.size s - 6) ∧ parseTrailing? s = none := by
    decide +kernel
  exact ⟨⟨"Title ".toList, by decide, by decide, hread.1⟩, hread.2⟩

end Attributes

end Anchormark
