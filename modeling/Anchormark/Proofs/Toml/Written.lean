import Anchormark.Toml.Document
import Mathlib.Data.List.TakeWhile

/-!
# Reading What Is Written

Settings are written in a small part of the notation: headers of one word, and keys of one word with
a truth value or a string behind them. The reader knows the whole notation, and what it looks for in
front of a line must not make it take the line for something else.

The one value that is not known in advance is a string of one character. There are four ways to
write it, and which of them is taken depends on the character. The reader tells them apart by the
quotes at the front, so the character must not look like one more quote, and what follows the
string must not look like a further closing one.

## Main definitions

* `IsBareKey`: A word that may stand as a key.
* `Written`: Characters that are read as a value, to the end of the line.
* `Pair`: A key with its value, on a line of its own.

## Theorems

* `readString?_quoteChar`: A string of one character is read as that character.
* `readKey?_bare`: A word is read as a key.
* `readLines?_header`, `readLines?_pair`: The lines of a document.
* `readLines?_section`: A header with its lines is read as a table with all their entries.
-/

namespace Anchormark.Toml

/-- A character that is not plain has a code point of two hexadecimal digits. -/
theorem toNat_lt_of_not_plain {c : Char} (h : isPlain c = false) : c.toNat < 128 := by
  simp only [isPlain, Bool.or_eq_false_iff, Bool.and_eq_false_iff, decide_eq_false_iff_not,
    not_not] at h
  rcases h.2 with hlow | rfl
  · have hle : ¬ 32 ≤ c.toNat := hlow
    omega
  · decide

/-- Four hexadecimal digits are read as the character that they were written for. -/
theorem codePoint?_of_not_plain {c : Char} (h : isPlain c = false) (rest : List Char) :
    codePoint? 4 ('0' :: '0' :: hexDigit (c.toNat / 16) :: hexDigit (c.toNat % 16) :: rest) =
      some (c, 5) := by
  have hall : ∀ n : Fin 128,
      codePoint? 4 ['0', '0', hexDigit (n.val / 16), hexDigit (n.val % 16)] =
        some (Char.ofNat n.val, 5) := by
    decide
  have hcode := hall ⟨c.toNat, toNat_lt_of_not_plain h⟩
  rw [Char.ofNat_toNat] at hcode
  exact hcode

/-- Between double quotes a character is read as itself, escaped or not. -/
theorem readBasic?_escapeChar {c : Char} (hquote : c ≠ '"') (hslash : c ≠ '\\')
    (rest : List Char) : readBasic? 0 (escapeChar c ++ '"' :: rest) = some ([c], rest) := by
  unfold escapeChar
  split
  · next h => rw [h]; rfl
  split
  · next h => rw [h]; rfl
  split
  · next h => rw [h]; rfl
  split
  · next h => rw [h]; rfl
  split
  · next h =>
      rw [List.singleton_append, readBasic?, if_neg hquote, if_neg hslash, if_pos h]
      rfl
  · next h =>
      -- The escape takes five characters behind its backslash, and the quote follows.
      have hcode : codePoint? 4 ('0' :: '0' :: hexDigit (c.toNat / 16) ::
          hexDigit (c.toNat % 16) :: '"' :: rest) = some (c, 5) :=
        codePoint?_of_not_plain (Bool.eq_false_iff.mpr h) _
      have hescape : escape? ('u' :: '0' :: '0' :: hexDigit (c.toNat / 16) ::
          hexDigit (c.toNat % 16) :: '"' :: rest) = some (c, 5) := hcode
      simp only [List.cons_append, List.nil_append]
      rw [readBasic?, if_neg (by decide), if_pos rfl, hescape]
      rfl

/-- What is escaped does not begin with a quote. -/
theorem exists_escapeChar {c : Char} (hquote : c ≠ '"') :
    ∃ d tail, escapeChar c = d :: tail ∧ d ≠ '"' := by
  unfold escapeChar
  split
  · exact ⟨_, _, rfl, by decide⟩
  split
  · exact ⟨_, _, rfl, by decide⟩
  split
  · exact ⟨_, _, rfl, by decide⟩
  split
  · exact ⟨_, _, rfl, by decide⟩
  split
  · exact ⟨c, [], rfl, hquote⟩
  · exact ⟨_, _, rfl, by decide⟩

/-- One double quote and no other behind it begins a string on one line. -/
theorem readString?_basic {d : Char} (hd : d ≠ '"') (cs : List Char) :
    readString? ('"' :: d :: cs) = readBasic? 0 (d :: cs) := by
  unfold readString?
  split
  · next heq =>
      simp only [List.cons.injEq] at heq
      exact absurd heq.2.1 hd
  · next heq =>
      simp only [List.cons.injEq, Char.reduceEq, false_and] at heq
  · next heq =>
      rw [(List.cons.inj heq).2]
  · next heq =>
      simp only [List.cons.injEq, Char.reduceEq, false_and] at heq
  · next hbasic _ => exact absurd rfl (hbasic (d :: cs))

/-- A string of one character is read as that character, in whichever form it is written. -/
theorem readString?_quoteChar (c : Char) {rest : List Char} (hrest : rest.head? ≠ some '"') :
    readString? (quoteChar c ++ rest) = some ([c], rest) := by
  unfold quoteChar
  split
  · -- The other kind of quotes.
    next h =>
      rw [Bool.or_eq_true, decide_eq_true_eq, decide_eq_true_eq] at h
      rcases h with rfl | rfl <;> rfl
  · next h =>
      rw [Bool.or_eq_true, decide_eq_true_eq, decide_eq_true_eq, not_or] at h
      split
      · -- Three quotes. The line feed behind them does not count, and a fourth quote behind the
        -- string would.
        next hfeed =>
          subst hfeed
          cases rest with
          | nil => rfl
          | cons d rest =>
              have hd : d ≠ '"' := fun hd => hrest (congrArg some hd)
              have hextra : ((d :: rest).take 2).takeWhile (· = '"') = [] := by
                rw [List.take_succ_cons, List.takeWhile_cons_of_neg]
                rwa [decide_eq_true_eq]
              change (readText? '"' 0 ('"' :: '"' :: '"' :: d :: rest)).map
                (fun read => ('\n' :: read.1, read.2)) = some (['\n'], d :: rest)
              rw [readText?, if_pos rfl]
              simp only [decide_true, Bool.and_self, if_true, hextra, List.length_nil,
                List.drop_zero, Option.map_some]
      · rcases exists_escapeChar h.1 with ⟨d, tail, hescape, hd⟩
        have hbasic := readBasic?_escapeChar h.1 h.2 rest
        rw [hescape] at hbasic ⊢
        rw [List.append_assoc, List.append_assoc, List.singleton_append, List.singleton_append,
          List.cons_append, readString?_basic hd]
        exact hbasic

/-- A word that may stand as a key without quotes. -/
def IsBareKey (key : String) : Prop :=
  key.toList ≠ [] ∧ ∀ c ∈ key.toList, isKeyChar c = true

theorem isBareKey_iff {key : String} :
    (key.toList.isEmpty = false ∧ key.toList.all isKeyChar = true) ↔ IsBareKey key := by
  rw [IsBareKey, List.isEmpty_eq_false_iff, List.all_eq_true]

instance (key : String) : Decidable (IsBareKey key) :=
  decidable_of_decidable_of_iff isBareKey_iff

/-- A character of a key is none of those that the reader looks for. -/
theorem ne_of_isKeyChar {c d : Char} (hc : isKeyChar c = true) (hd : isKeyChar d = false) :
    c ≠ d := by
  rintro rfl
  rw [hc] at hd
  cases hd

/-- In front of a character that is not blank nothing is skipped. -/
theorem skipBlanks_cons {c : Char} (hspace : c ≠ ' ') (htab : c ≠ '\t') (cs : List Char) :
    skipBlanks (c :: cs) = c :: cs := by
  rw [skipBlanks, List.dropWhile_cons_of_neg]
  simp only [hspace, htab, decide_false, Bool.or_self, Bool.false_eq_true, not_false_eq_true]

/-- A word is read as a key. What follows it must end the word, and must not make the key a dotted
    one. -/
theorem readKey?_bare {key : String} (hkey : IsBareKey key) {d : Char} {after : List Char}
    (hd : isKeyChar d = false) {e : Char} {rest : List Char}
    (hrest : skipBlanks (d :: after) = e :: rest) (he : e ≠ '.') :
    readKey? (key.toList ++ d :: after) = some ([key], e :: rest) := by
  rcases List.exists_cons_of_ne_nil hkey.1 with ⟨k, ks, hks⟩
  have hk : isKeyChar k = true := hkey.2 k (hks ▸ List.mem_cons_self)
  have hword : (key.toList ++ d :: after).takeWhile isKeyChar = key.toList := by
    rw [List.takeWhile_append_of_pos hkey.2,
      List.takeWhile_cons_of_neg (by rw [hd]; exact Bool.false_ne_true), List.append_nil]
  have hpart : readKeyPart? (key.toList ++ d :: after) = some (key, d :: after) := by
    unfold readKeyPart?
    -- A key in quotes would begin with a quote.
    split
    · next heq =>
        rw [hks, List.cons_append, List.cons.injEq] at heq
        exact absurd heq.1 (ne_of_isKeyChar hk (by decide))
    · next heq =>
        rw [hks, List.cons_append, List.cons.injEq] at heq
        exact absurd heq.1 (ne_of_isKeyChar hk (by decide))
    · rw [hword, if_neg (by rw [List.isEmpty_iff]; exact hkey.1), List.drop_left,
        String.ofList_toList]
  have hskip : skipBlanks (key.toList ++ d :: after) = key.toList ++ d :: after := by
    rw [hks, List.cons_append]
    exact skipBlanks_cons (ne_of_isKeyChar hk (by decide)) (ne_of_isKeyChar hk (by decide)) _
  rw [readKey?, readKeyWithin?, hskip, hpart]
  simp only [Option.bind_eq_bind, Option.bind_some, hrest]
  split
  · next heq => exact absurd (List.cons.inj heq).1 he
  · rfl

/-- The characters are read as the value, to the end of the line. -/
def Written (value : Value) (cs : List Char) : Prop :=
  ∀ rest, readValue? maxDepth (skipBlanks (cs ++ '\n' :: rest)) = some (value, '\n' :: rest)

/-- What is written begins with a quote. -/
theorem exists_quoteChar (c : Char) :
    ∃ q tail, quoteChar c = q :: tail ∧ (q = '"' ∨ q = '\'') := by
  unfold quoteChar
  split
  · exact ⟨_, _, rfl, .inr rfl⟩
  split
  · exact ⟨_, _, rfl, .inl rfl⟩
  · exact ⟨_, _, rfl, .inl rfl⟩

/-- A character is written as a string. -/
theorem written_quoteChar (c : Char) : Written (.string (String.ofList [c])) (quoteChar c) := by
  intro rest
  have hread : readPlain? (quoteChar c ++ '\n' :: rest) =
      some (.string (String.ofList [c]), '\n' :: rest) := by
    rw [readPlain?, readString?_quoteChar c (by rw [List.head?_cons]; decide)]
  rcases exists_quoteChar c with ⟨q, tail, hquote, hq⟩
  rw [hquote] at hread ⊢
  rcases hq with rfl | rfl
  · exact hread
  · exact hread

section Lines

variable (limit : Nat) (path : List String) (entries : Entries) (rest : List Char)

/-- A header makes a table, and the lines below it belong there. -/
theorem readLines?_header {name : String} (hname : IsBareKey name) :
    readLines? (limit + 1) path entries ('[' :: (name.toList ++ ']' :: '\n' :: rest)) =
      (entries.define [name]).bind fun entries => readLines? limit [name] entries rest := by
  rcases List.exists_cons_of_ne_nil hname.1 with ⟨k, ks, hks⟩
  have hk : isKeyChar k = true := hname.2 k (hks ▸ List.mem_cons_self)
  have hkey : readKey? (name.toList ++ ']' :: '\n' :: rest) = some ([name], ']' :: '\n' :: rest) :=
    readKey?_bare hname (by decide) rfl (by decide)
  conv =>
    lhs
    unfold readLines?
  split
  · next heq => cases heq
  · next heq =>
      -- Two brackets would be another header.
      have hbracket := (List.cons.inj heq).2
      rw [hks, List.cons_append, List.cons.injEq] at hbracket
      exact absurd hbracket.1 (ne_of_isKeyChar hk (by decide))
  · next heq =>
      rw [← (List.cons.inj heq).2, hkey]
      rfl
  · next hother =>
      exact absurd rfl (hother _)

/-- A line that begins with a word is not empty. -/
theorem nextLine?_of_isKeyChar {k : Char} (hk : isKeyChar k = true) (cs : List Char) :
    nextLine? (k :: cs) = none := by
  have hcomment : k ≠ '#' := ne_of_isKeyChar hk (by decide)
  have hfeed : k ≠ '\n' := ne_of_isKeyChar hk (by decide)
  have hreturn : k ≠ '\r' := ne_of_isKeyChar hk (by decide)
  have hskip : skipBlanks (k :: cs) = k :: cs :=
    skipBlanks_cons (ne_of_isKeyChar hk (by decide)) (ne_of_isKeyChar hk (by decide)) cs
  simp only [nextLine?, hskip, List.cons.injEq, hcomment, hfeed, hreturn, false_and, imp_self,
    implies_true]

/-- A line that begins with a word is a key with its value. -/
theorem readLines?_of_isKeyChar {k : Char} (hk : isKeyChar k = true) (cs : List Char) :
    readLines? (limit + 1) path entries (k :: cs) =
      (readPair? (some ∘ skipBlanks) (readValue? maxDepth) (k :: cs)).bind fun ((key, v), rest) =>
        (entries.insertUnder path key v).bind fun entries =>
          (nextLine? rest).bind fun rest => readLines? limit path entries rest := by
  conv =>
    lhs
    unfold readLines?
  rw [skipBlanks_cons (ne_of_isKeyChar hk (by decide)) (ne_of_isKeyChar hk (by decide))]
  split
  · next heq => cases heq
  · next heq => exact absurd (List.cons.inj heq).1 (ne_of_isKeyChar hk (by decide))
  · next heq => exact absurd (List.cons.inj heq).1 (ne_of_isKeyChar hk (by decide))
  · rw [nextLine?_of_isKeyChar hk]
    rfl

/-- A key and a value go to the table of the last header. -/
theorem readLines?_pair {key : String} (hkey : IsBareKey key) {value : Value} {cs : List Char}
    (hvalue : Written value cs) :
    readLines? (limit + 1) path entries
        (key.toList ++ ' ' :: '=' :: ' ' :: (cs ++ '\n' :: rest)) =
      (entries.insertUnder path [key] value).bind fun entries =>
        readLines? limit path entries rest := by
  rcases List.exists_cons_of_ne_nil hkey.1 with ⟨k, ks, hks⟩
  have hread : readKey? (key.toList ++ ' ' :: '=' :: ' ' :: (cs ++ '\n' :: rest)) =
      some ([key], '=' :: ' ' :: (cs ++ '\n' :: rest)) :=
    readKey?_bare hkey (by decide) rfl (by decide)
  have hpair : readPair? (some ∘ skipBlanks) (readValue? maxDepth)
      (key.toList ++ ' ' :: '=' :: ' ' :: (cs ++ '\n' :: rest)) =
        some (([key], value), '\n' :: rest) := by
    rw [readPair?, hread]
    simp only [Option.bind_eq_bind, Option.bind_some, Function.comp]
    exact congrArg (Option.bind · _) (hvalue rest)
  rw [hks, List.cons_append] at hpair ⊢
  rw [readLines?_of_isKeyChar _ _ _ (hkey.2 k (hks ▸ List.mem_cons_self)), hpair]
  rfl

end Lines

namespace Entries

variable {before done : Entries} {name key : String}

/-- Keys in front that are different from the one that is looked for stay as they are. -/
theorem alter_append (h : key ∉ before.map Prod.fst) (change : Option Value → Option Value)
    (rest : Entries) :
    alter key change (before ++ rest) = (alter key change rest).map (before ++ ·) := by
  induction before with
  | nil => simp only [List.nil_append, Option.map_id_fun', id]
  | cons entry before ih =>
      rw [List.map_cons, List.mem_cons, not_or] at h
      rw [List.cons_append, alter, if_neg (Ne.symm h.1), ih h.2, Option.map_map]
      rfl

/-- The header of a new table puts it behind the others. -/
theorem define_new (h : name ∉ before.map Prod.fst) :
    define [name] before = some (before ++ [(name, .table .header [])]) := by
  have halter := alter_append h Value.define []
  rw [List.append_nil] at halter
  exact halter

/-- A new key of the last table goes behind its others. -/
theorem insertUnder_last (hname : name ∉ before.map Prod.fst) (hkey : key ∉ done.map Prod.fst)
    (value : Value) :
    insertUnder [name] [key] value (before ++ [(name, .table .header done)]) =
      some (before ++ [(name, .table .header (done ++ [(key, value)]))]) := by
  have hinsert : insert value [key] done = some (done ++ [(key, value)]) := by
    have halter : insert value [key] (done ++ []) =
        (insert value [key] []).map (done ++ ·) := alter_append hkey _ []
    rw [List.append_nil] at halter
    exact halter
  change alter name (Value.through (insert value [key])) _ = _
  rw [alter_append hname, alter, if_pos rfl, Value.through, hinsert]
  · rfl
  · intro h
    cases h

end Entries

/-- A key with its value, and the characters that the value is written with. -/
structure Pair where
  key : String
  value : Value
  chars : List Char

namespace Pair

/-- The characters of the line. -/
def toChars (p : Pair) : List Char :=
  p.key.toList ++ ' ' :: '=' :: ' ' :: (p.chars ++ ['\n'])

/-- What the line adds to a table. -/
def entry (p : Pair) : String × Value :=
  (p.key, p.value)

/-- The line is read as what it was written for. -/
def Readable (p : Pair) : Prop :=
  IsBareKey p.key ∧ Written p.value p.chars

end Pair

variable {limit : Nat} {before : Entries} {name : String} {pairs : List Pair}

/-- Lines below a header are added to its table one by one. -/
theorem readLines?_pairs {done : Entries} (hname : name ∉ before.map Prod.fst)
    (hread : ∀ p ∈ pairs, p.Readable)
    (hnodup : (done.map Prod.fst ++ pairs.map Pair.key).Nodup) (rest : List Char) :
    readLines? (limit + pairs.length) [name] (before ++ [(name, .table .header done)])
        (pairs.flatMap Pair.toChars ++ rest) =
      readLines? limit [name]
        (before ++ [(name, .table .header (done ++ pairs.map Pair.entry))]) rest := by
  induction pairs generalizing done with
  | nil => rw [List.map_nil, List.append_nil]; rfl
  | cons p pairs ih =>
      -- The first line adds its entry to those that are there, and the others come behind it.
      have hp := hread p List.mem_cons_self
      have hnew : p.key ∉ done.map Prod.fst := by
        intro hmem
        exact (List.nodup_append.mp hnodup).2.2 _ hmem _ List.mem_cons_self rfl
      have hline : (p :: pairs).flatMap Pair.toChars ++ rest = p.key.toList ++
          ' ' :: '=' :: ' ' :: (p.chars ++ '\n' :: (pairs.flatMap Pair.toChars ++ rest)) := by
        simp only [List.flatMap_cons, Pair.toChars, List.append_assoc, List.cons_append,
          List.nil_append]
      rw [hline, List.length_cons, ← Nat.add_assoc, readLines?_pair _ _ _ _ hp.1 hp.2,
        Entries.insertUnder_last hname hnew, Option.bind_some,
        ih (fun p' hp' => hread p' (List.mem_cons_of_mem _ hp')), List.map_cons, List.append_assoc]
      · rfl
      · rw [List.map_append, List.append_assoc]
        exact hnodup

/-- A new section is read as a table with the entries of its pairs. -/
theorem readLines?_section (path : List String) (before : Entries) (hbare : IsBareKey name)
    (hname : name ∉ before.map Prod.fst) (hread : ∀ p ∈ pairs, p.Readable)
    (hnodup : (pairs.map Pair.key).Nodup) (rest : List Char) :
    readLines? (limit + pairs.length + 1) path before
        ('[' :: (name.toList ++ ']' :: '\n' :: (pairs.flatMap Pair.toChars ++ rest))) =
      readLines? limit [name] (before ++ [(name, .table .header (pairs.map Pair.entry))]) rest := by
  have hnodup' : (([] : Entries).map Prod.fst ++ pairs.map Pair.key).Nodup := hnodup
  rw [readLines?_header _ _ _ _ hbare, Entries.define_new hname, Option.bind_some,
    readLines?_pairs hname hread hnodup', List.nil_append]

end Anchormark.Toml
