import Anchormark.Proofs.Attribute.Grammar

/-!
# The Language of Attribute Blocks

What a block is, said without a scanner, and the proof that the scanner accepts that and nothing
else. The scanner reads as far as it can at each step: a word up to white space or the closing
brace, a key up to an equals sign as well, a quoted value up to the next quote. In the grammar this
is a condition on what follows. So a token is not only a piece of text but a piece of text in front
of another, and `#a#b` is one token and not two.

Each reader of the scanner has its rule in the grammar, and the equivalence is proved reader by
reader. All of them rest on `span_eq_iff`: the front that a reader takes and what it leaves are the
only two parts of the characters such that the front satisfies the reader's test throughout and the
rest does not begin with a character that does.

What a block declares depends on its tokens only: the first identifier, and the classes and pairs
in their order.

## Main definitions

* `IsGap`, `Stops`: White space between tokens, and what may follow a word.
* `IsKeyText`, `Assigned`, `Declares`: A key, what is assigned to it, and what that declares.
* `Token.Written`: A token in front of what follows it.
* `Listed`, `IsBlock`: The tokens of a block, and the block around them.
* `Attributes.ofTokens`: What tokens declare together.

## Theorems

* `span_eq_iff`: Reading as far as possible.
* `word?_eq_some_iff`, `assigned?_eq_some_iff`, `token?_eq_some_iff`, `tokens?_eq_some_iff`: Each
  reader against its rule.
* `leading?_eq_some_iff`: The block at the start of a text.
* `parseLeading?_eq_some_iff`: The same with the length in bytes.
-/

namespace Anchormark

/-- A front that satisfies `p` and a rest that does not begin with a character that does are what
    reading as far as possible gives, and nothing else is. -/
theorem span_eq_iff {α : Type} {p : α → Bool} {cs front back : List α} :
    cs.takeWhile p = front ∧ cs.dropWhile p = back ↔
      cs = front ++ back ∧ (∀ c ∈ front, p c = true) ∧ ∀ c, back.head? = some c → p c = false := by
  constructor
  · rintro ⟨rfl, rfl⟩
    refine ⟨List.takeWhile_append_dropWhile.symm, fun c hc => List.mem_takeWhile_imp hc, ?_⟩
    intro c hc
    have hhead := List.head?_dropWhile_not p cs
    rw [hc] at hhead
    exact hhead
  · rintro ⟨rfl, hfront, hback⟩
    have hnone : back.takeWhile p = [] ∧ back.dropWhile p = back := by
      cases back with
      | nil => exact ⟨rfl, rfl⟩
      | cons c back =>
          have hc : ¬ p c = true := Bool.eq_false_iff.mp (hback c rfl)
          exact ⟨List.takeWhile_cons_of_neg hc, List.dropWhile_cons_of_neg hc⟩
    rw [List.takeWhile_append_of_pos hfront, List.dropWhile_append_of_pos hfront, hnone.1, hnone.2,
      List.append_nil]
    exact ⟨rfl, rfl⟩

namespace AttributeBlock

/-- White space, or nothing. -/
def IsGap (cs : List Char) : Prop :=
  ∀ c ∈ cs, Text.isSpacing c = true

/-- A word in front of this goes no further: if anything follows, it is white space or the closing
    brace. -/
def Stops (rest : List Char) : Prop :=
  ∀ c, rest.head? = some c → Text.isSpacing c = true ∨ c = '}'

/-- A key: an ASCII letter, an underscore or a colon, and then also digits, full stops and
    hyphens. -/
def IsKeyText (key : List Char) : Prop :=
  ∃ c cs, key = c :: cs ∧ (c.isAlpha = true ∨ c = '_' ∨ c = ':') ∧
    ∀ d ∈ cs, d.isAlphanum = true ∨ d = '_' ∨ d = ':' ∨ d = '.' ∨ d = '-'

/-- What is assigned to a key, and how that is written in front of what follows: nothing, or an
    equals sign with a bare word or with anything in quotes. Only a quoted value may be followed by
    the next token at once. -/
inductive Assigned : (value written rest : List Char) → Prop
  | nothing {rest} : Stops rest → Assigned [] [] rest
  | bare {value rest} : value.head? ≠ some '"' → value.head? ≠ some '\'' → IsWord value →
      Stops rest → Assigned value ('=' :: value) rest
  | quoted {quote value rest} : quote = '"' ∨ quote = '\'' → quote ∉ value →
      Assigned value ('=' :: quote :: (value ++ [quote])) rest

/-- The first word of a value, which is empty if there is none. -/
def IsFirstWord (value word : List Char) : Prop :=
  ∃ gap tail, value = gap ++ (word ++ tail) ∧ IsGap gap ∧
    (∀ c ∈ word, Text.isSpacing c = false) ∧ (∀ c, tail.head? = some c → Text.isSpacing c = true) ∧
    (word = [] → tail = [])

/-- What a key with its value declares. For the key `id` that is the first word of the value, which
    must not hold a brace. -/
inductive Declares : (key value : List Char) → Token → Prop
  | id {value word} : IsFirstWord value word → '{' ∉ word → '}' ∉ word →
      Declares ['i', 'd'] value (.id word)
  | pair {key value} : key ≠ ['i', 'd'] → Declares key value (.pair key value)

/-- How a token is written in front of what follows. -/
inductive Token.Written : Token → (written rest : List Char) → Prop
  | id {word rest} : IsWord word → Stops rest → Written (.id word) ('#' :: word) rest
  | className {word rest} : word ≠ [] → IsWord word → Stops rest →
      Written (.className word) ('.' :: word) rest
  | key {key value assigned rest t} : IsKeyText key → Assigned value assigned rest →
      Declares key value t → Written t (key ++ assigned) rest

/-- Tokens up to and including the closing brace, with optional white space before each of them and
    before the brace. -/
inductive Listed : List Token → List Char → Prop
  | close {gap} : IsGap gap → Listed [] (gap ++ ['}'])
  | token {gap written rest t ts} : IsGap gap → t.Written written rest → Listed ts rest →
      Listed (t :: ts) (gap ++ (written ++ rest))

/-- A block with these tokens. A colon right behind the opening brace belongs to the brace. -/
def IsBlock (ts : List Token) (block : List Char) : Prop :=
  ∃ inside, Listed ts inside ∧
    (block = '{' :: ':' :: inside ∨ block = '{' :: inside ∧ inside.head? ≠ some ':')

/-- The identifier that a token declares. -/
def Token.id? : Token → Option String
  | id word => some (String.ofList word)
  | _ => none

/-- The class that a token declares. -/
def Token.className? : Token → Option String
  | className word => some (String.ofList word)
  | _ => none

/-- The pair that a token declares. -/
def Token.pair? : Token → Option (String × String)
  | pair key value => some (String.ofList key, String.ofList value)
  | _ => none

end AttributeBlock

/-- What tokens declare together: the first identifier, and the classes and pairs in order. -/
def Attributes.ofTokens (ts : List AttributeBlock.Token) : Attributes where
  id := ts.findSome? AttributeBlock.Token.id?
  classes := ts.filterMap AttributeBlock.Token.className?
  pairs := ts.filterMap AttributeBlock.Token.pair?

namespace AttributeBlock

/-- What stops a word begins with a character that ends it. -/
theorem stops_iff {rest : List Char} :
    Stops rest ↔ ∀ c, rest.head? = some c → (!endsWord c) = false := by
  simp only [Stops, endsWord, Bool.not_eq_false', Bool.or_eq_true, decide_eq_true_eq]

/-- A word goes as far as it can and has no opening brace in it. -/
theorem word?_eq_some_iff {cs word rest : List Char} :
    word? cs = some (word, rest) ↔ cs = word ++ rest ∧ IsWord word ∧ Stops rest := by
  constructor
  · intro h
    rcases word?_eq_some h with ⟨hcs, hword⟩
    refine ⟨hcs, hword, stops_iff.mpr ?_⟩
    simp only [word?] at h
    split at h
    · simp only [reduceCtorEq] at h
    · rw [Option.some.injEq, Prod.mk.injEq] at h
      exact (span_eq_iff.mp h).2.2
  · rintro ⟨rfl, hword, hstops⟩
    refine word?_append hword fun c hc => ?_
    simpa only [Bool.not_eq_false'] using stops_iff.mp hstops c hc

/-- A quoted value goes up to the next quote. -/
theorem quoted?_eq_some_iff {quote : Char} {cs value rest : List Char} :
    value?.quoted? quote cs = some (value, rest) ↔ cs = value ++ quote :: rest ∧ quote ∉ value := by
  constructor
  · intro h
    simp only [value?.quoted?] at h
    split at h
    · simp only [reduceCtorEq] at h
    · next c tail htail =>
        rw [Option.some.injEq, Prod.mk.injEq] at h
        rcases h with ⟨hvalue, rfl⟩
        rcases span_eq_iff.mp ⟨hvalue, htail⟩ with ⟨rfl, hin, hout⟩
        -- The slice ends at the other quote, so none is in the value.
        have hquote : c = quote := by simpa using hout c rfl
        refine ⟨by rw [hquote], fun hmem => ?_⟩
        simpa using hin quote hmem
  · rintro ⟨rfl, hvalue⟩
    have hin : ∀ c ∈ value, decide (c ≠ quote) = true :=
      fun c hc => decide_eq_true fun heq => hvalue (heq ▸ hc)
    have hout : ∀ c, (quote :: rest).head? = some c → decide (c ≠ quote) = false := by
      intro c hc
      rw [List.head?_cons, Option.some.injEq] at hc
      rw [hc, decide_eq_false_iff_not, not_not]
    have hspan := span_eq_iff.mpr ⟨rfl, hin, hout⟩
    simp only [value?.quoted?, hspan.1, hspan.2]

/-- A well-formed key is a key of the grammar. -/
theorem isKey_iff {key : List Char} : isKey key = true ↔ IsKeyText key := by
  cases key with
  | nil => simp [isKey, IsKeyText]
  | cons c cs =>
      simp only [isKey, startsKey, continuesKey, Bool.and_eq_true, Bool.or_eq_true,
        decide_eq_true_eq, List.all_eq_true, IsKeyText, List.cons.injEq, or_assoc]
      constructor
      · rintro ⟨hc, hcs⟩
        exact ⟨c, cs, ⟨rfl, rfl⟩, hc, hcs⟩
      · rintro ⟨_, _, ⟨rfl, rfl⟩, hc, hcs⟩
        exact ⟨hc, hcs⟩

/-- A character at which a key ends is none that a key goes on with. -/
theorem inKey_of_continuesKey {c : Char} (h : continuesKey c = true) : inKey c = true := by
  rw [← Bool.not_eq_false]
  intro hend
  simp only [inKey, endsWord, Text.isSpacing, Bool.and_eq_false_iff, Bool.not_eq_false',
    Bool.or_eq_true, decide_eq_true_eq, decide_eq_false_iff_not, ne_eq, not_not] at hend
  -- White space, the closing brace and the equals sign are left to be tried.
  rcases hend with (((((rfl | rfl) | rfl) | rfl) | rfl) | rfl) | rfl <;> exact absurd h (by decide)

/-- What a key begins with is also what it may go on with. -/
theorem continuesKey_of_startsKey {c : Char} (h : startsKey c = true) : continuesKey c = true := by
  simp only [startsKey, Bool.or_eq_true] at h
  simp only [continuesKey, Char.isAlphanum, Bool.or_eq_true]
  rcases h with (h | h) | h
  · exact .inl (.inl (.inl (.inl (.inl h))))
  · exact .inl (.inl (.inl (.inr h)))
  · exact .inl (.inl (.inr h))

/-- A key is read whole in front of something that ends it. -/
theorem takeWhile_inKey {key after : List Char} (hkey : IsKeyText key)
    (hafter : ∀ c, after.head? = some c → inKey c = false) :
    (key ++ after).takeWhile inKey = key ∧ (key ++ after).dropWhile inKey = after := by
  refine span_eq_iff.mpr ⟨rfl, fun c hc => inKey_of_continuesKey ?_, hafter⟩
  rw [← isKey_iff] at hkey
  cases key with
  | nil => exact absurd hc List.not_mem_nil
  | cons d key =>
      rw [isKey, Bool.and_eq_true, List.all_eq_true] at hkey
      rcases List.mem_cons.mp hc with rfl | hc
      · exact continuesKey_of_startsKey hkey.1
      · exact hkey.2 c hc

/-- The characters that begin no key are those of the grammar that stand before tokens and after
    them. -/
theorem not_startsKey {c : Char}
    (h : Text.isSpacing c = true ∨ c = '{' ∨ c = '}' ∨ c = '#' ∨ c = '.') :
    startsKey c = false := by
  simp only [Text.isSpacing, Bool.or_eq_true, decide_eq_true_eq] at h
  rcases h with ((((rfl | rfl) | rfl) | rfl) | rfl) | rfl | rfl | rfl | rfl <;> decide

/-- A value that does not begin with a quote is a bare word. -/
theorem value?_of_bare {cs : List Char} (hdouble : cs.head? ≠ some '"')
    (hsingle : cs.head? ≠ some '\'') : value? cs = word? cs := by
  unfold value?
  split
  · exact absurd rfl hdouble
  · exact absurd rfl hsingle
  · rfl

/-- What is read behind an equals sign is a value in quotes or a bare one. -/
theorem value?_eq_some_iff {cs value rest : List Char} :
    value? cs = some (value, rest) ↔
      ∃ written, cs = written ++ rest ∧ Assigned value ('=' :: written) rest := by
  constructor
  · intro h
    -- The two quotes are read in the same way.
    have hquoted : ∀ {quote : Char} {tail : List Char}, quote = '"' ∨ quote = '\'' →
        value?.quoted? quote tail = some (value, rest) →
          ∃ written, quote :: tail = written ++ rest ∧ Assigned value ('=' :: written) rest := by
      intro quote tail hquote h
      rcases quoted?_eq_some_iff.mp h with ⟨rfl, hvalue⟩
      exact ⟨quote :: (value ++ [quote]), by simp, .quoted hquote hvalue⟩
    unfold value? at h
    split at h
    · exact hquoted (.inl rfl) h
    · exact hquoted (.inr rfl) h
    · next hdouble hsingle =>
        rcases word?_eq_some_iff.mp h with ⟨rfl, hword, hstops⟩
        refine ⟨value, rfl, .bare (fun hhead => ?_) (fun hhead => ?_) hword hstops⟩
        · rcases List.head?_eq_some_iff.mp hhead with ⟨tail, rfl⟩
          exact hdouble _ rfl
        · rcases List.head?_eq_some_iff.mp hhead with ⟨tail, rfl⟩
          exact hsingle _ rfl
  · rintro ⟨written, rfl, hassigned⟩
    cases hassigned with
    | bare hdouble hsingle hword hstops =>
        -- What follows an empty value is no quote either.
        have hhead : ∀ quote, (quote = '"' ∨ quote = '\'') → value.head? ≠ some quote →
            (value ++ rest).head? ≠ some quote := by
          intro quote hquote hvalue hhead
          cases value with
          | nil =>
              rcases hstops quote hhead with h | h <;>
                rcases hquote with rfl | rfl <;> exact absurd h (by decide)
          | cons c value => exact hvalue hhead
        rw [value?_of_bare (hhead _ (.inl rfl) hdouble) (hhead _ (.inr rfl) hsingle)]
        exact word?_eq_some_iff.mpr ⟨rfl, hword, hstops⟩
    | @quoted quote _ _ hquote hvalue =>
        have hread : value?.quoted? quote (value ++ quote :: rest) = some (value, rest) :=
          quoted?_eq_some_iff.mpr ⟨rfl, hvalue⟩
        rw [List.cons_append, List.append_assoc, List.singleton_append]
        rcases hquote with rfl | rfl <;> exact hread

/-- What is read behind a key is what is assigned to it. The key has been read as far as
    possible. -/
theorem assigned?_eq_some_iff {after value rest : List Char}
    (hafter : ∀ c, after.head? = some c → inKey c = false) :
    assigned? after = some (value, rest) ↔
      ∃ written, after = written ++ rest ∧ Assigned value written rest := by
  by_cases hsign : after.head? = some '='
  · rcases List.head?_eq_some_iff.mp hsign with ⟨tail, rfl⟩
    -- With an equals sign, all depends on what is behind it.
    rw [show assigned? ('=' :: tail) = value? tail from rfl, value?_eq_some_iff]
    constructor
    · rintro ⟨written, rfl, hassigned⟩
      exact ⟨'=' :: written, rfl, hassigned⟩
    · rintro ⟨written, heq, hassigned⟩
      cases hassigned with
      | nothing hstops =>
          rw [List.nil_append] at heq
          rcases hstops '=' (by rw [← heq, List.head?_cons]) with h | h <;>
            exact absurd h (by decide)
      | bare hdouble hsingle hword hstops =>
          rw [List.cons_append, List.cons.injEq] at heq
          exact ⟨value, heq.2, .bare hdouble hsingle hword hstops⟩
      | quoted hquote hvalue =>
          rw [List.cons_append, List.cons.injEq] at heq
          exact ⟨_, heq.2, .quoted hquote hvalue⟩
  · -- Without one nothing is assigned, and the key has ended the word.
    have hnothing : assigned? after = some ([], after) := by
      unfold assigned?
      split
      · exact absurd rfl hsign
      · rfl
    have hstops : Stops after := by
      intro c hc
      have hin := hafter c hc
      rw [inKey, Bool.and_eq_false_iff, Bool.not_eq_false', decide_eq_false_iff_not, not_not,
        endsWord, Bool.or_eq_true, decide_eq_true_eq] at hin
      exact hin.resolve_right fun heq => hsign (heq ▸ hc)
    rw [hnothing, Option.some.injEq, Prod.mk.injEq]
    constructor
    · rintro ⟨rfl, rfl⟩
      exact ⟨[], rfl, .nothing hstops⟩
    · rintro ⟨written, rfl, hassigned⟩
      cases hassigned with
      | nothing _ => exact ⟨rfl, rfl⟩
      | bare _ _ _ _ => exact absurd rfl hsign
      | quoted _ _ => exact absurd rfl hsign

/-- The first word of a value is what is left when the white space before it and all from the next
    white space on is cut off. -/
theorem isFirstWord_iff {value word : List Char} :
    IsFirstWord value word ↔ (Text.firstWord? Text.isSpacing value).getD [] = word := by
  have hread : (Text.firstWord? Text.isSpacing value).getD [] =
      (value.dropWhile Text.isSpacing).takeWhile (!Text.isSpacing ·) := by
    unfold Text.firstWord?
    split
    · next h => rw [h, Option.getD_none]
    · rw [Option.getD_some]
  rw [hread]
  constructor
  · rintro ⟨gap, tail, rfl, hgap, hword, htail, hempty⟩
    -- The word begins where the white space ends, and without a word nothing is left there.
    have hhead : ∀ c, (word ++ tail).head? = some c → Text.isSpacing c = false := by
      intro c hc
      cases word with
      | nil =>
          rw [hempty rfl] at hc
          simp only [List.append_nil, List.head?_nil, reduceCtorEq] at hc
      | cons d word =>
          rw [List.cons_append, List.head?_cons, Option.some.injEq] at hc
          exact hword c (hc ▸ List.mem_cons_self)
    rw [(span_eq_iff.mpr ⟨rfl, hgap, hhead⟩).2]
    refine (span_eq_iff.mpr ⟨rfl, fun c hc => ?_, fun c hc => ?_⟩).1
    · rw [hword c hc, Bool.not_false]
    · rw [htail c hc, Bool.not_true]
  · intro hword
    have hgap := span_eq_iff.mp ⟨(rfl : value.takeWhile Text.isSpacing = _), rfl⟩
    have hrest := span_eq_iff.mp ⟨hword, rfl⟩
    refine ⟨_, _, hrest.1 ▸ hgap.1, hgap.2.1, fun c hc => ?_, fun c hc => ?_, fun hempty => ?_⟩
    · simpa only [Bool.not_eq_true'] using hrest.2.1 c hc
    · simpa only [Bool.not_eq_false'] using hrest.2.2 c hc
    · -- Behind the white space nothing begins with white space, so without a word nothing is left.
      rw [hempty, List.nil_append] at hrest
      rw [← List.head?_eq_none_iff, Option.eq_none_iff_forall_ne_some]
      intro c hc
      have hspacing := hgap.2.2 c (hrest.1 ▸ hc)
      have hword := hrest.2.2 c hc
      rw [hspacing] at hword
      exact Bool.noConfusion hword

/-- What a key declares is what the grammar says. -/
theorem declaration?_eq_some_iff {key value : List Char} {t : Token} :
    declaration? key value = some t ↔ Declares key value t := by
  unfold declaration?
  constructor
  · intro h
    split at h
    · next hkey =>
        rcases Option.map_eq_some_iff.mp h with ⟨word, hid, rfl⟩
        simp only [idOfValue?] at hid
        split at hid
        · simp only [reduceCtorEq] at hid
        · next hbrace =>
            rw [Option.some.injEq] at hid
            -- An identifier holds no brace.
            rw [Bool.or_eq_true, decide_eq_true_eq, decide_eq_true_eq, not_or, hid] at hbrace
            rw [hkey]
            exact .id (isFirstWord_iff.mpr hid) hbrace.1 hbrace.2
    · next hkey =>
        rw [Option.some.injEq] at h
        exact h ▸ .pair hkey
  · intro h
    cases h with
    | @id _ word hword hopen hclose =>
        rw [if_pos rfl]
        simp only [idOfValue?, isFirstWord_iff.mp hword, hopen, hclose, decide_false, Bool.or_false,
          Bool.false_eq_true, if_false, Option.map_some]
    | pair hkey => rw [if_neg hkey]

/-- A key begins with a character that begins keys. -/
theorem IsKeyText.exists_cons {key : List Char} (h : IsKeyText key) :
    ∃ c cs, key = c :: cs ∧ startsKey c = true := by
  rw [← isKey_iff] at h
  cases key with
  | nil => exact absurd h Bool.false_ne_true
  | cons c cs =>
      rw [isKey, Bool.and_eq_true] at h
      exact ⟨c, cs, rfl, h.1⟩

/-- What is assigned to a key does not go on with the key. -/
theorem Assigned.ends_key {value written rest : List Char} (h : Assigned value written rest) :
    ∀ c, (written ++ rest).head? = some c → inKey c = false := by
  intro c hc
  cases h with
  | nothing hstops =>
      have hend := stops_iff.mp hstops c hc
      rw [inKey, hend, Bool.false_and]
  | bare | quoted =>
      rw [List.cons_append, List.head?_cons, Option.some.injEq] at hc
      rw [← hc]
      rfl

/-- A token is read exactly if it is written there. -/
theorem token?_eq_some_iff {cs rest : List Char} {t : Token} :
    token? cs = some (t, rest) ↔ ∃ written, cs = written ++ rest ∧ t.Written written rest := by
  constructor
  · intro h
    -- One case for each of the three kinds of token, as the scan tells them apart.
    rcases of_token?_eq_some h with ⟨tail, word, rfl, hw, rfl⟩ | ⟨tail, word, rfl, hw, rfl, hne⟩ |
      ⟨hkey, value, hvalue, ht⟩
    · rcases word?_eq_some_iff.mp hw with ⟨rfl, hword, hstops⟩
      exact ⟨'#' :: word, rfl, .id hword hstops⟩
    · rcases word?_eq_some_iff.mp hw with ⟨rfl, hword, hstops⟩
      exact ⟨'.' :: word, rfl, .className hne hword hstops⟩
    · have hspan := span_eq_iff.mp ⟨(rfl : cs.takeWhile inKey = _), rfl⟩
      rcases (assigned?_eq_some_iff hspan.2.2).mp hvalue with ⟨written, hafter, hassigned⟩
      refine ⟨cs.takeWhile inKey ++ written, ?_,
        .key (isKey_iff.mp hkey) hassigned (declaration?_eq_some_iff.mp ht)⟩
      rw [List.append_assoc, ← hafter]
      exact hspan.1
  · rintro ⟨written, rfl, hwritten⟩
    cases hwritten with
    | @id word _ hword hstops =>
        have hread := word?_eq_some_iff.mpr ⟨(rfl : word ++ rest = _), hword, hstops⟩
        simp only [List.cons_append, token?, hread, Option.map_some]
    | @className word _ hne hword hstops =>
        have hread := word?_eq_some_iff.mpr ⟨(rfl : word ++ rest = _), hword, hstops⟩
        have hempty : ¬ word.isEmpty = true := fun h => hne (List.isEmpty_iff.mp h)
        simp only [List.cons_append, token?, hread, Option.bind_eq_bind, Option.bind_some,
          if_neg hempty]
    | @key key value assigned _ _ hkey hassigned ht =>
        have hspan := takeWhile_inKey hkey hassigned.ends_key
        have hread := (assigned?_eq_some_iff hassigned.ends_key).mpr ⟨assigned, rfl, hassigned⟩
        rw [List.append_assoc]
        rcases hkey.exists_cons with ⟨c, key', rfl, hc⟩
        -- The key is no identifier and no class by its first character.
        unfold token?
        split
        · next heq =>
            rw [List.cons_append, List.cons.injEq] at heq
            rw [heq.1] at hc
            exact absurd hc (by decide)
        · next heq =>
            rw [List.cons_append, List.cons.injEq] at heq
            rw [heq.1] at hc
            exact absurd hc (by decide)
        · simp only [hspan.1, hspan.2, isKey_iff.mpr hkey, if_true, hread, Option.bind_eq_bind,
            Option.bind_some, declaration?_eq_some_iff.mpr ht, Option.pure_def]

/-- A token begins neither with white space nor with a brace. -/
theorem Token.Written.exists_cons {t : Token} {written rest : List Char}
    (h : t.Written written rest) :
    ∃ c cs, written = c :: cs ∧ Text.isSpacing c = false ∧ c ≠ '}' ∧ c ≠ '{' := by
  cases h with
  | id => exact ⟨'#', _, rfl, by decide, by decide, by decide⟩
  | className => exact ⟨'.', _, rfl, by decide, by decide, by decide⟩
  | key hkey =>
      rcases hkey.exists_cons with ⟨c, cs, rfl, hc⟩
      refine ⟨c, _, rfl, ?_, ?_, ?_⟩
      · rw [← Bool.not_eq_true]
        intro hspacing
        rw [not_startsKey (.inl hspacing)] at hc
        exact Bool.noConfusion hc
      · rintro rfl
        exact absurd hc (by decide)
      · rintro rfl
        exact absurd hc (by decide)

/-- There is at least the closing brace. -/
theorem Listed.ne_nil {ts : List Token} {inside : List Char} (h : Listed ts inside) :
    inside ≠ [] := by
  cases h with
  | close => exact List.append_ne_nil_of_right_ne_nil _ (List.cons_ne_nil _ _)
  | token _ hwritten _ =>
      rcases hwritten.exists_cons with ⟨c, cs, rfl, -⟩
      exact List.append_ne_nil_of_right_ne_nil _ (List.cons_ne_nil _ _)

/-- What follows a block changes nothing at its beginning. -/
theorem Listed.head?_append {ts : List Token} {inside : List Char} (h : Listed ts inside)
    (rest : List Char) : (inside ++ rest).head? = inside.head? := by
  rcases List.exists_cons_of_ne_nil h.ne_nil with ⟨c, cs, rfl⟩
  rfl

/-- How a token is written depends on the next character at most. -/
theorem Token.Written.congr {t : Token} {written rest rest' : List Char}
    (h : t.Written written rest) (hhead : rest'.head? = rest.head?) : t.Written written rest' := by
  have hstops (h : Stops rest) : Stops rest' := fun c hc => h c (hhead ▸ hc)
  cases h with
  | id hword h => exact .id hword (hstops h)
  | className hne hword h => exact .className hne hword (hstops h)
  | key hkey hassigned ht =>
      refine .key hkey ?_ ht
      cases hassigned with
      | nothing h => exact .nothing (hstops h)
      | bare hdouble hsingle hword h => exact .bare hdouble hsingle hword (hstops h)
      | quoted hquote hvalue => exact .quoted hquote hvalue

/-- The tokens of a block are read exactly if they are written there, whatever follows the block.
    One way the induction is along the scan, the other way along the grammar. -/
theorem tokens?_eq_some_iff {cs rest : List Char} {ts : List Token} :
    tokens? cs = some (ts, rest) ↔ ∃ inside, cs = inside ++ rest ∧ Listed ts inside := by
  constructor
  · intro h
    fun_induction tokens? cs generalizing ts rest with
    | case1 => simp only [reduceCtorEq] at h
    | case2 cs rest' hskip =>
        simp only [Option.some.injEq, Prod.mk.injEq] at h
        rcases h with ⟨rfl, rfl⟩
        have hgap := span_eq_iff.mp ⟨(rfl : cs.takeWhile Text.isSpacing = _), hskip⟩
        refine ⟨_ ++ ['}'], ?_, .close hgap.2.1⟩
        rw [List.append_assoc, List.singleton_append]
        exact hgap.1
    | case3 => simp only [reduceCtorEq] at h
    | case4 => simp only [reduceCtorEq] at h
    | case5 cs c cs' _ _ hskip token rest' ht ih =>
        simp only [Option.map_eq_some_iff, Prod.mk.injEq, Prod.exists] at h
        rcases h with ⟨ts', rest'', hts, rfl, rfl⟩
        rcases ih hts with ⟨inside, rfl, hinside⟩
        rcases token?_eq_some_iff.mp ht with ⟨written, hcs', hwritten⟩
        have hgap := span_eq_iff.mp ⟨(rfl : cs.takeWhile Text.isSpacing = _), hskip⟩
        -- Only the next character matters to the token, and that is inside.
        have hwritten' := hwritten.congr (hinside.head?_append rest'').symm
        refine ⟨_ ++ (written ++ inside), ?_, .token hgap.2.1 hwritten' hinside⟩
        rw [List.append_assoc, List.append_assoc, ← hcs']
        exact hgap.1
  · rintro ⟨inside, rfl, hlisted⟩
    induction hlisted with
    | close hgap =>
        have hskip := span_eq_iff.mpr ⟨rfl, hgap, fun c (hc : ('}' :: rest).head? = some c) => by
          rw [List.head?_cons, Option.some.injEq] at hc
          rw [← hc]
          rfl⟩
        rw [List.append_assoc, List.singleton_append]
        exact tokens?_of_close hskip.2
    -- The token is read as it is written there, and the scan goes on behind it.
    | @token gap written inside t ts hgap hwritten hlisted ih =>
        have hread := token?_eq_some_iff.mpr ⟨written, (rfl : written ++ (inside ++ rest) = _),
          hwritten.congr (hlisted.head?_append rest)⟩
        rcases hwritten.exists_cons with ⟨c, cs, rfl, hspacing, hclose, hopen⟩
        have hskip := span_eq_iff.mpr
          ⟨rfl, hgap, fun d (hd : (c :: (cs ++ (inside ++ rest))).head? = some d) => by
            rw [List.head?_cons, Option.some.injEq] at hd
            exact hd ▸ hspacing⟩
        rw [List.append_assoc, List.append_assoc, List.cons_append,
          tokens?_of_token hskip.2 hclose hopen hread, ih, Option.map_some]

/-- A declaration adds what its token declares. -/
theorem declare_eq (a : Attributes) (t : Token) : declare a t =
    { id := a.id.or t.id?
      classes := a.classes ++ t.className?.toList
      pairs := a.pairs ++ t.pair?.toList } := by
  cases t <;> simp [declare, Token.id?, Token.className?, Token.pair?]

/-- Declaring tokens one after the other adds what they declare together. -/
theorem foldl_declare (ts : List Token) (a : Attributes) : ts.foldl declare a =
    { id := a.id.or (Attributes.ofTokens ts).id
      classes := a.classes ++ (Attributes.ofTokens ts).classes
      pairs := a.pairs ++ (Attributes.ofTokens ts).pairs } := by
  induction ts generalizing a with
  | nil => simp [Attributes.ofTokens]
  | cons t ts ih =>
      rw [List.foldl_cons, ih, declare_eq]
      simp only [Attributes.ofTokens, List.findSome?_cons, List.filterMap_cons, Option.or_assoc,
        List.append_assoc]
      cases t.id? <;> cases t.className? <;> cases t.pair? <;> rfl

/-- The colon right behind the opening brace is skipped. -/
theorem leading?_colon (tail : List Char) : leading? ('{' :: ':' :: tail) =
    (tokens? tail).map fun r => (Attributes.ofTokens r.1, r.2) := by
  have hfold (ts : List Token) : ts.foldl declare {} = Attributes.ofTokens ts := foldl_declare ts {}
  simp only [leading?, hfold]

/-- Anything else behind the opening brace belongs to the tokens. -/
theorem leading?_of_ne_colon {inner : List Char} (h : inner.head? ≠ some ':') :
    leading? ('{' :: inner) =
      (tokens? inner).map fun r => (Attributes.ofTokens r.1, r.2) := by
  have hfold (ts : List Token) : ts.foldl declare {} = Attributes.ofTokens ts := foldl_declare ts {}
  simp only [leading?, hfold]
  split
  · exact absurd rfl h
  · rfl

/-- A text begins with a block exactly if a block is written there. -/
theorem leading?_eq_some_iff {cs rest : List Char} {a : Attributes} :
    leading? cs = some (a, rest) ↔
      ∃ block ts, cs = block ++ rest ∧ IsBlock ts block ∧ a = Attributes.ofTokens ts := by
  -- With or without a colon, the rest of the block is its tokens.
  have hmap (inner : List Char) :
      ((tokens? inner).map fun r => (Attributes.ofTokens r.1, r.2)) = some (a, rest) ↔
        ∃ inside ts, inner = inside ++ rest ∧ Listed ts inside ∧ a = Attributes.ofTokens ts := by
    simp only [Option.map_eq_some_iff, Prod.mk.injEq, Prod.exists]
    constructor
    · rintro ⟨ts, rest', hts, rfl, rfl⟩
      rcases tokens?_eq_some_iff.mp hts with ⟨inside, hinner, hlisted⟩
      exact ⟨inside, ts, hinner, hlisted, rfl⟩
    · rintro ⟨inside, ts, hinner, hlisted, rfl⟩
      exact ⟨ts, rest, tokens?_eq_some_iff.mpr ⟨inside, hinner, hlisted⟩, rfl, rfl⟩
  constructor
  · intro h
    rcases leading?_eq_some h with ⟨body, rfl⟩
    generalize body ++ '}' :: rest = inner at h
    -- A colon is passed over, and only one.
    by_cases hcolon : inner.head? = some ':'
    · rcases List.head?_eq_some_iff.mp hcolon with ⟨tail, rfl⟩
      rw [leading?_colon, hmap] at h
      rcases h with ⟨inside, ts, rfl, hlisted, ha⟩
      exact ⟨_, ts, rfl, ⟨inside, hlisted, .inl rfl⟩, ha⟩
    · rw [leading?_of_ne_colon hcolon, hmap] at h
      rcases h with ⟨inside, ts, rfl, hlisted, ha⟩
      rw [hlisted.head?_append] at hcolon
      exact ⟨_, ts, rfl, ⟨inside, hlisted, .inr ⟨rfl, hcolon⟩⟩, ha⟩
  · rintro ⟨block, ts, rfl, ⟨inside, hlisted, hblock⟩, ha⟩
    rcases hblock with rfl | ⟨rfl, hcolon⟩
    · rw [List.cons_append, List.cons_append, leading?_colon, hmap]
      exact ⟨inside, ts, rfl, hlisted, ha⟩
    · rw [← hlisted.head?_append rest] at hcolon
      rw [List.cons_append, leading?_of_ne_colon hcolon, hmap]
      exact ⟨inside, ts, rfl, hlisted, ha⟩

end AttributeBlock

/-- A text begins with a block of so many bytes exactly if a block of so many bytes is written
    there, and what it declares is the first identifier among its tokens, and the classes and pairs
    in their order. -/
theorem Attributes.parseLeading?_eq_some_iff (s : String) (a : Attributes) (n : Nat) :
    Attributes.parseLeading? s = some (a, n) ↔
      ∃ block rest ts, s.toList = block ++ rest ∧ Text.byteLength block = n ∧
        AttributeBlock.IsBlock ts block ∧
          a.id = ts.findSome? AttributeBlock.Token.id? ∧
          a.classes = ts.filterMap AttributeBlock.Token.className? ∧
          a.pairs = ts.filterMap AttributeBlock.Token.pair? := by
  have hlength {block rest : List Char} (hs : s.toList = block ++ rest) :
      Text.size s - Text.byteLength rest = Text.byteLength block := by
    rw [Text.size, hs, Text.byteLength_append, Nat.add_sub_cancel]
  simp only [Attributes.parseLeading?, Option.map_eq_some_iff, Prod.mk.injEq, Prod.exists,
    AttributeBlock.leading?_eq_some_iff]
  constructor
  · rintro ⟨_, rest, ⟨block, ts, hs, hblock, rfl⟩, rfl, rfl⟩
    exact ⟨block, rest, ts, hs, (hlength hs).symm, hblock, rfl, rfl, rfl⟩
  · rintro ⟨block, rest, ts, hs, hn, hblock, hid, hclasses, hpairs⟩
    refine ⟨a, rest, ⟨block, ts, hs, hblock, ?_⟩, rfl, (hlength hs).trans hn⟩
    cases a
    rw [Attributes.ofTokens, Attributes.mk.injEq]
    exact ⟨hid, hclasses, hpairs⟩

end Anchormark
