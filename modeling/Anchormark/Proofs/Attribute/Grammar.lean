import Anchormark.Attribute.Block
import Mathlib.Data.List.TakeWhile
import Mathlib.Data.Option.Basic

/-!
# What the Block Scanner Reads

The scanner of attribute blocks answers what it read and the characters that are left. Three facts
about it carry everything that is proved about blocks.

It consumes a front of its input: the characters left are an end of those given. So a block is a
definite piece of text, from an opening brace through a closing one.

The identifiers it lets through are words. A word comes in three ways, behind a number sign, as a
bare value of the key `id` and as the first word of a quoted value, and the three have different
stop rules; all of them keep white space and braces out.

A block at the end of a text begins at the last opening brace, so the block has no other opening
brace in it.

## Main definitions

* `IsWord`: neither white space of the grammar nor a brace.
* `Attributes.Worded`: a declared identifier is a word.

## Theorems

* `word?_eq_some`: A bare word is read up to where it ends.
* `suffix_of_token?`: A token leaves an end of the characters.
* `isWord_of_token?`: Identifiers are words.
* `leading?_eq_some`: A block runs from an opening through a closing brace.
* `leading?_id`: The shortest block that declares a word is read as that.
* `worded_of_leading?`: What a block declares is worded.
* `trailing?_eq_some`: A block at the end begins at the last opening brace.
-/

namespace Anchormark

namespace AttributeBlock

/-- Characters that an identifier is made of. -/
def IsWord (cs : List Char) : Prop :=
  ∀ c ∈ cs, Text.isSpacing c = false ∧ c ≠ '{' ∧ c ≠ '}'

instance (cs : List Char) : Decidable (IsWord cs) :=
  decidable_of_iff (cs.all fun c => !Text.isSpacing c && c ≠ '{' && c ≠ '}')
    (by simp only [IsWord, List.all_eq_true, Bool.and_eq_true, Bool.not_eq_true',
      decide_eq_true_eq, ne_eq, and_assoc])

/-- A character ends no word exactly when it is neither white space nor a closing brace. -/
theorem endsWord_eq_false_iff {c : Char} :
    endsWord c = false ↔ Text.isSpacing c = false ∧ c ≠ '}' := by
  simp only [endsWord, Bool.or_eq_false_iff, decide_eq_false_iff_not, ne_eq]

/-- A bare word is read up to where it ends. -/
theorem word?_eq_some {cs word rest : List Char} (h : word? cs = some (word, rest)) :
    cs = word ++ rest ∧ IsWord word := by
  simp only [word?] at h
  split at h
  · simp only [reduceCtorEq] at h
  · next hbrace =>
      simp only [Option.some.injEq, Prod.mk.injEq] at h
      rcases h with ⟨rfl, rfl⟩
      refine ⟨List.takeWhile_append_dropWhile.symm, fun c hc => ?_⟩
      have hend : endsWord c = false := by
        simpa only [Bool.not_eq_true'] using List.mem_takeWhile_imp hc
      rcases endsWord_eq_false_iff.mp hend with ⟨hspace, hclose⟩
      exact ⟨hspace, fun heq => hbrace (heq ▸ hc), hclose⟩

/-- A word in front of something that ends it is read whole. -/
theorem word?_append {word rest : List Char} (hword : IsWord word)
    (hrest : ∀ c, rest.head? = some c → endsWord c = true) :
    word? (word ++ rest) = some (word, rest) := by
  have hin : ∀ c ∈ word, (!endsWord c) = true := by
    intro c hc
    rw [Bool.not_eq_true']
    exact endsWord_eq_false_iff.mpr ⟨(hword c hc).1, (hword c hc).2.2⟩
  have hout : rest.takeWhile (!endsWord ·) = [] ∧ rest.dropWhile (!endsWord ·) = rest := by
    cases rest with
    | nil => exact ⟨rfl, rfl⟩
    | cons c rest =>
        have hc : ¬ (!endsWord c) = true := by simp only [hrest c rfl, Bool.not_true,
          Bool.false_eq_true, not_false_eq_true]
        exact ⟨List.takeWhile_cons_of_neg hc, List.dropWhile_cons_of_neg hc⟩
  have hbrace : '{' ∉ word := fun hmem => (hword _ hmem).2.1 rfl
  simp only [word?, List.takeWhile_append_of_pos hin, List.dropWhile_append_of_pos hin, hout.1,
    hout.2, List.append_nil, if_neg hbrace]

/-- A quoted value leaves an end of the characters. -/
theorem suffix_of_quoted? {quote : Char} {cs value rest : List Char}
    (h : value?.quoted? quote cs = some (value, rest)) : rest <:+ cs := by
  simp only [value?.quoted?] at h
  split at h
  · simp only [reduceCtorEq] at h
  · next heq =>
      simp only [Option.some.injEq, Prod.mk.injEq] at h
      rw [← h.2]
      exact (List.suffix_cons _ _).trans (heq ▸ List.dropWhile_suffix _)

/-- A value leaves an end of the characters. -/
theorem suffix_of_value? {cs value rest : List Char} (h : value? cs = some (value, rest)) :
    rest <:+ cs := by
  unfold value? at h
  split at h
  · exact (suffix_of_quoted? h).trans (List.suffix_cons _ _)
  · exact (suffix_of_quoted? h).trans (List.suffix_cons _ _)
  · rw [(word?_eq_some h).1]
    exact List.suffix_append _ _

theorem suffix_of_assigned? {cs value rest : List Char} (h : assigned? cs = some (value, rest)) :
    rest <:+ cs := by
  unfold assigned? at h
  split at h
  · exact (suffix_of_value? h).trans (List.suffix_cons _ _)
  · simp only [Option.some.injEq, Prod.mk.injEq] at h
    exact h.2 ▸ List.suffix_refl _

/-- The first word of a value has no white space in it, and a brace in it makes it useless. -/
theorem isWord_of_idOfValue? {value word : List Char} (h : idOfValue? value = some word) :
    IsWord word := by
  simp only [idOfValue?] at h
  split at h
  · simp only [reduceCtorEq] at h
  · next hbrace =>
      simp only [Option.some.injEq] at h
      rw [Bool.or_eq_true, decide_eq_true_eq, decide_eq_true_eq, not_or, h] at hbrace
      intro c hc
      refine ⟨?_, fun heq => hbrace.1 (heq ▸ hc), fun heq => hbrace.2 (heq ▸ hc)⟩
      rw [← h, Text.firstWord?] at hc
      split at hc
      · simp only [Option.getD_none, List.not_mem_nil] at hc
      · simp only [Option.getD_some] at hc
        simpa only [Bool.not_eq_true'] using List.mem_takeWhile_imp hc

/-- The token behind a key and its value is an identifier only for the key `id`. -/
theorem isWord_of_declaration? {key value word : List Char}
    (h : declaration? key value = some (.id word)) : IsWord word := by
  unfold declaration? at h
  split at h
  · simp only [Option.map_eq_some_iff, Token.id.injEq] at h
    rcases h with ⟨word', hid, rfl⟩
    exact isWord_of_idOfValue? hid
  · simp only [Option.some.injEq, reduceCtorEq] at h

/-- What a token was read from: a number sign and a word, a full stop and a word that is not empty,
    or a key with what is assigned to it. -/
theorem of_token?_eq_some {cs rest : List Char} {t : Token} (h : token? cs = some (t, rest)) :
    (∃ tail word, cs = '#' :: tail ∧ word? tail = some (word, rest) ∧ t = .id word) ∨
    (∃ tail word, cs = '.' :: tail ∧ word? tail = some (word, rest) ∧ t = .className word ∧
      word ≠ []) ∨
    (isKey (cs.takeWhile inKey) = true ∧
      ∃ value, assigned? (cs.dropWhile inKey) = some (value, rest) ∧
        declaration? (cs.takeWhile inKey) value = some t) := by
  unfold token? at h
  split at h
  · -- A number sign.
    next tail =>
      simp only [Option.map_eq_some_iff, Prod.mk.injEq, Prod.exists] at h
      rcases h with ⟨word, rest', hw, rfl, rfl⟩
      exact Or.inl ⟨tail, word, rfl, hw, rfl⟩
  · -- A full stop. The name behind it must not be empty.
    next tail =>
      simp only [Option.bind_eq_bind, Option.bind_eq_some_iff, Prod.exists] at h
      rcases h with ⟨word, rest', hw, h⟩
      split at h
      · simp only [reduceCtorEq] at h
      · next hempty =>
          simp only [Option.some.injEq, Prod.mk.injEq] at h
          rcases h with ⟨rfl, rfl⟩
          exact Or.inr (Or.inl ⟨tail, word, rfl, hw, rfl, fun heq =>
            hempty (List.isEmpty_iff.mpr heq)⟩)
  · -- Anything else begins a key, which must not be empty either.
    dsimp only at h
    split at h
    · next hkey =>
        simp only [Option.bind_eq_bind, Option.pure_def, Option.bind_eq_some_iff,
          Option.some.injEq, Prod.mk.injEq, Prod.exists] at h
        rcases h with ⟨value, rest', hv, t', ht, rfl, rfl⟩
        exact Or.inr (Or.inr ⟨hkey, value, hv, ht⟩)
    · simp only [reduceCtorEq] at h

/-- A token leaves an end of the characters. -/
theorem suffix_of_token? {cs rest : List Char} {t : Token} (h : token? cs = some (t, rest)) :
    rest <:+ cs := by
  rcases of_token?_eq_some h with ⟨tail, word, rfl, hw, -⟩ | ⟨tail, word, rfl, hw, -⟩ |
    ⟨-, value, hv, -⟩
  · rw [(word?_eq_some hw).1]
    exact (List.suffix_append _ _).trans (List.suffix_cons _ _)
  · rw [(word?_eq_some hw).1]
    exact (List.suffix_append _ _).trans (List.suffix_cons _ _)
  · exact (suffix_of_assigned? hv).trans (List.dropWhile_suffix _)

/-- Whichever way an identifier is written, it is a word. -/
theorem isWord_of_token? {cs rest word : List Char} (h : token? cs = some (.id word, rest)) :
    IsWord word := by
  rcases of_token?_eq_some h with ⟨tail, word', rfl, hw, heq⟩ | ⟨tail, word', rfl, hw, heq, -⟩ |
    ⟨-, value, -, hd⟩
  · rw [Token.id.injEq] at heq
    exact heq ▸ (word?_eq_some hw).2
  · simp only [reduceCtorEq] at heq
  · exact isWord_of_declaration? hd

/-- At the closing brace the tokens end. -/
theorem tokens?_of_close {cs rest : List Char} (h : cs.dropWhile Text.isSpacing = '}' :: rest) :
    tokens? cs = some ([], rest) := by
  rw [tokens?.eq_def]
  split
  · next h' => simp only [h, reduceCtorEq] at h'
  · next h' =>
      simp only [h, List.cons.injEq, true_and] at h'
      rw [h']
  · next h' => simp only [h, List.cons.injEq, Char.reduceEq, false_and] at h'
  · next hclose _ h' =>
      rw [h, List.cons.injEq] at h'
      exact absurd h'.1.symm hclose

/-- Before any other character than a brace stands a token. -/
theorem tokens?_of_token {cs cs' rest : List Char} {c : Char} {t : Token}
    (h : cs.dropWhile Text.isSpacing = c :: cs') (hclose : c ≠ '}') (hopen : c ≠ '{')
    (ht : token? (c :: cs') = some (t, rest)) :
    tokens? cs = (tokens? rest).map fun (ts, rest) => (t :: ts, rest) := by
  rw [tokens?.eq_def]
  split
  · next h' => simp only [h, reduceCtorEq] at h'
  · next h' =>
      rw [h, List.cons.injEq] at h'
      exact absurd h'.1 hclose
  · next h' =>
      rw [h, List.cons.injEq] at h'
      exact absurd h'.1 hopen
  · next h' =>
      rw [h, List.cons.injEq] at h'
      rcases h' with ⟨rfl, rfl⟩
      split
      · next h' => simp only [ht, reduceCtorEq] at h'
      · next h' =>
          simp only [ht, Option.some.injEq, Prod.mk.injEq] at h'
          rw [h'.1, h'.2]

/-- The tokens of a block end at its closing brace, and identifiers among them are words. The
    scan goes from token to token, and so does the induction. -/
theorem tokens?_eq_some {cs rest : List Char} {ts : List Token}
    (h : tokens? cs = some (ts, rest)) :
    (∃ body, cs = body ++ '}' :: rest) ∧ ∀ word, .id word ∈ ts → IsWord word := by
  fun_induction tokens? cs generalizing ts rest with
  | case1 => simp only [reduceCtorEq] at h
  | case2 cs rest' hskip =>
      -- The closing brace: white space is all that stands before it.
      simp only [Option.some.injEq, Prod.mk.injEq] at h
      rcases h with ⟨rfl, rfl⟩
      refine ⟨⟨cs.takeWhile Text.isSpacing, ?_⟩, ?_⟩
      · rw [← hskip, List.takeWhile_append_dropWhile]
      · intro word hw
        simp only [List.not_mem_nil] at hw
  | case3 => simp only [reduceCtorEq] at h
  | case4 => simp only [reduceCtorEq] at h
  | case5 cs c cs' _ _ hskip token rest' ht ih =>
      -- A token: what it reads comes before the body of the tokens behind it.
      simp only [Option.map_eq_some_iff, Prod.mk.injEq, Prod.exists] at h
      rcases h with ⟨ts', rest'', hts, rfl, rfl⟩
      rcases ih hts with ⟨⟨body, rfl⟩, hwords⟩
      rcases suffix_of_token? ht with ⟨read, hread⟩
      refine ⟨⟨cs.takeWhile Text.isSpacing ++ (read ++ body), ?_⟩, ?_⟩
      · rw [List.append_assoc, List.append_assoc, hread, ← hskip,
          List.takeWhile_append_dropWhile]
      · intro word hw
        rcases List.mem_cons.mp hw with rfl | hw
        · exact isWord_of_token? ht
        · exact hwords word hw

end AttributeBlock

namespace Attributes

/-- An identifier that is declared is a word. It may be the empty one. -/
def Worded (a : Attributes) : Prop :=
  ∀ id, a.id = some id → AttributeBlock.IsWord id.toList

theorem worded_empty : Worded {} := by
  intro id h
  simp only [reduceCtorEq] at h

end Attributes

namespace AttributeBlock

/-- Adding a declaration keeps an identifier that is there, and adds none but the token's. -/
theorem worded_declare {a : Attributes} {t : Token} (ha : a.Worded)
    (ht : ∀ word, t = .id word → IsWord word) : (declare a t).Worded := by
  intro id h
  cases t with
  | id word =>
      -- The first identifier of a block counts.
      cases hid : a.id with
      | some old =>
          simp only [declare, hid, Option.orElse_eq_orElse, Option.orElse_eq_or, Option.some_or,
            Option.some.injEq] at h
          exact ha id (by rw [hid, h])
      | none =>
          simp only [declare, hid, Option.orElse_eq_orElse, Option.orElse_eq_or, Option.none_or,
            Option.some.injEq] at h
          rw [← h, String.toList_ofList]
          exact ht word rfl
  | className word => exact ha id h
  | pair key value => exact ha id h

theorem worded_foldl_declare {ts : List Token} {a : Attributes} (ha : a.Worded)
    (hts : ∀ word, .id word ∈ ts → IsWord word) : (ts.foldl declare a).Worded := by
  induction ts generalizing a with
  | nil => exact ha
  | cons t ts ih =>
      refine ih (worded_declare ha ?_) (fun word hw => hts word (List.mem_cons_of_mem _ hw))
      rintro word rfl
      exact hts word List.mem_cons_self

/-- A block is read behind its opening brace, and behind the colon if there is one. -/
theorem leading?_cons {inner rest : List Char} {a : Attributes}
    (h : leading? ('{' :: inner) = some (a, rest)) :
    ∃ inside ts, inside <:+ inner ∧ tokens? inside = some (ts, rest) ∧
      ts.foldl declare {} = a := by
  simp only [leading?, Option.map_eq_some_iff, Prod.mk.injEq, Prod.exists] at h
  rcases h with ⟨ts, rest', hts, hfold, rfl⟩
  refine ⟨_, ts, ?_, hts, hfold⟩
  -- With a colon the tokens begin one character later.
  split
  · exact List.suffix_cons _ _
  · exact List.suffix_refl _

/-- A block runs from an opening brace through a closing one. -/
theorem leading?_eq_some {cs rest : List Char} {a : Attributes}
    (h : leading? cs = some (a, rest)) : ∃ body, cs = '{' :: (body ++ '}' :: rest) := by
  unfold leading? at h
  split at h
  · next inner =>
      rcases leading?_cons (by simpa only [leading?] using h) with ⟨inside, ts, hsuffix, hts, -⟩
      rcases (tokens?_eq_some hts).1 with ⟨body, rfl⟩
      rcases hsuffix with ⟨colon, rfl⟩
      exact ⟨colon ++ body, by rw [List.append_assoc]⟩
  · simp only [reduceCtorEq] at h

/-- A block leaves an end of the characters. -/
theorem suffix_of_leading? {cs rest : List Char} {a : Attributes}
    (h : leading? cs = some (a, rest)) : rest <:+ cs := by
  rcases leading?_eq_some h with ⟨body, rfl⟩
  exact ⟨'{' :: (body ++ ['}']), by simp only [List.cons_append, List.append_assoc,
    List.nil_append]⟩

/-- What a block declares is worded. -/
theorem worded_of_leading? {cs rest : List Char} {a : Attributes}
    (h : leading? cs = some (a, rest)) : a.Worded := by
  rcases leading?_eq_some h with ⟨body, rfl⟩
  rcases leading?_cons h with ⟨inside, ts, -, hts, rfl⟩
  exact worded_foldl_declare Attributes.worded_empty (tokens?_eq_some hts).2

/-- The shortest block that declares a word is read as that, whatever follows it. -/
theorem leading?_id {word : List Char} (hword : IsWord word) (rest : List Char) :
    leading? ('{' :: '#' :: (word ++ '}' :: rest)) =
      some ({ id := some (String.ofList word) }, rest) := by
  have hread : word? (word ++ '}' :: rest) = some (word, '}' :: rest) :=
    word?_append hword (fun c hc => by
      simp only [List.head?_cons, Option.some.injEq] at hc
      rw [← hc]
      decide)
  have htoken : token? ('#' :: (word ++ '}' :: rest)) = some (.id word, '}' :: rest) := by
    simp only [token?, hread, Option.map_some]
  have hclose : tokens? ('}' :: rest) = some ([], rest) :=
    tokens?_of_close (List.dropWhile_cons_of_neg (by decide))
  have htokens : tokens? ('#' :: (word ++ '}' :: rest)) = some ([.id word], rest) := by
    rw [tokens?_of_token (List.dropWhile_cons_of_neg (by decide)) (by decide) (by decide) htoken,
      hclose, Option.map_some]
  change (tokens? ('#' :: (word ++ '}' :: rest))).map _ = _
  rw [htokens]
  rfl

/-- Without an opening brace there is nothing to cut at. -/
theorem cutAtLastBrace?_eq_none_iff {cs : List Char} : cutAtLastBrace? cs = none ↔ '{' ∉ cs := by
  induction cs with
  | nil => simp only [cutAtLastBrace?, List.not_mem_nil, not_false_eq_true]
  | cons c cs ih =>
      simp only [cutAtLastBrace?, List.mem_cons, not_or]
      cases hcut : cutAtLastBrace? cs with
      | some cut =>
          -- A cut further on means that there is a brace further on.
          simp only [reduceCtorEq, false_iff, not_and, not_not]
          intro _
          by_contra hmem
          rw [ih.mpr hmem] at hcut
          simp only [reduceCtorEq] at hcut
      | none =>
          simp only [ih.mp hcut, not_false_eq_true, and_true, ite_eq_right_iff, reduceCtorEq,
            imp_false]
          exact not_congr eq_comm

/-- The last opening brace divides the characters: behind it there is no other. -/
theorem cutAtLastBrace?_eq_some {cs front back : List Char}
    (h : cutAtLastBrace? cs = some (front, back)) :
    cs = front ++ back ∧ ∃ tail, back = '{' :: tail ∧ '{' ∉ tail := by
  induction cs generalizing front with
  | nil => simp only [cutAtLastBrace?, reduceCtorEq] at h
  | cons c cs ih =>
      simp only [cutAtLastBrace?] at h
      cases hcut : cutAtLastBrace? cs with
      | some cut =>
          simp only [hcut, Option.some.injEq, Prod.mk.injEq] at h
          rcases h with ⟨rfl, rfl⟩
          rcases ih hcut with ⟨rfl, htail⟩
          exact ⟨rfl, htail⟩
      | none =>
          simp only [hcut] at h
          split at h
          · next hc =>
              simp only [Option.some.injEq, Prod.mk.injEq] at h
              rcases h with ⟨rfl, rfl⟩
              exact ⟨rfl, cs, by rw [hc], cutAtLastBrace?_eq_none_iff.mp hcut⟩
          · simp only [reduceCtorEq] at h

/-- The cut is found wherever no brace follows. -/
theorem cutAtLastBrace?_append (front : List Char) {tail : List Char} (htail : '{' ∉ tail) :
    cutAtLastBrace? (front ++ '{' :: tail) = some (front, '{' :: tail) := by
  induction front with
  | nil =>
      simp only [List.nil_append, cutAtLastBrace?, cutAtLastBrace?_eq_none_iff.mpr htail, if_true]
  | cons c front ih => simp only [List.cons_append, cutAtLastBrace?, ih]

/-- The last opening brace of a text stands in one place. -/
theorem append_brace_inj {front front' tail tail' : List Char} (htail : '{' ∉ tail)
    (htail' : '{' ∉ tail') (h : front ++ '{' :: tail = front' ++ '{' :: tail') :
    front = front' ∧ tail = tail' := by
  have hcut := cutAtLastBrace?_append front htail
  rw [h, cutAtLastBrace?_append front' htail'] at hcut
  simp only [Option.some.injEq, Prod.mk.injEq, List.cons.injEq, true_and] at hcut
  exact ⟨hcut.1.symm, hcut.2.symm⟩

/-- A block at the end begins at the last opening brace, and nothing follows it. -/
theorem trailing?_eq_some {cs front : List Char} {a : Attributes}
    (h : trailing? cs = some (a, front)) :
    ∃ tail, cs = front ++ '{' :: tail ∧ '{' ∉ tail ∧ leading? ('{' :: tail) = some (a, []) := by
  simp only [trailing?, Option.bind_eq_bind, Option.bind_eq_some_iff, Option.guard_eq_some',
    Option.pure_def, Option.some.injEq, Prod.mk.injEq, Prod.exists, exists_const,
    List.isEmpty_iff] at h
  rcases h with ⟨-, front', block, hcut, a', rest, hlead, rfl, rfl, rfl⟩
  rcases cutAtLastBrace?_eq_some hcut with ⟨rfl, tail, rfl, htail⟩
  exact ⟨tail, rfl, htail, hlead⟩

end AttributeBlock

end Anchormark
