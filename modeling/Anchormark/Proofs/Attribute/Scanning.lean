import Anchormark.Proofs.Attribute.Rounds
import Anchormark.Proofs.Attribute.Endings

/-!
# The Byte Scanner Between Characters

The scanner ends on every text and finds the block that the characters have. A round does as its
counterpart on characters, which leaves fewer of them, so the loop has no more rounds than there are
characters, and one that finds the end. There is no torn slice among its outcomes, and whatever
offset it returns is a boundary.

At the end of a text the scanner begins at the last byte of an opening brace. This byte is a
character of its own, so what follows it is a slice, and the rest is reading a block at a start.

## Main definitions

* `Reached`: The states between the rounds of the loop.
* `Moved`: The cursors that the operations lead to.
* `outcome`: What a scan comes to.

## Theorems

* `yields_loop`: The loop ends.
* `round_forward`: A round ends the scan or takes the cursor forward.
* `Moved.index_le`: No cursor passes the end.
* `takeUntil_torn_iff`: What it means for a slice to be torn.
* `leading_eq`, `trailing_eq`: The scanner finds what the characters have.
* `moveLeading?_cut`, `cutTrailing?_cut`: Resolving cuts a text at what the scanner returns.
* `scan_between_characters`: All of this.
-/

namespace Anchormark.BlockScanner

open Text (ByteCursor byteLength bytesOf IsBoundary)
open AttributeBlock (Token declare token? tokens? leading? trailing? cutAtLastBrace?)

variable {s : String} {c : ByteCursor} {rest : List Char}

/-- Tokens as the declarations that they make. -/
def declared (a : Attributes) : List Token × List Char → Attributes × List Char
  | (ts, rest) => (ts.foldl declare a, rest)

/-- Neither the closing brace nor a token comes next. -/
theorem tokens?_eq_none (hclose : ∀ tail, rest.dropWhile Text.isSpacing ≠ '}' :: tail)
    (htoken : ∀ d tail, rest.dropWhile Text.isSpacing = d :: tail → d ≠ '{' →
      token? (d :: tail) = none) : tokens? rest = none := by
  rw [tokens?.eq_def]
  split
  · rfl
  · next heq => exact absurd heq (hclose _)
  · rfl
  · next hopen heq =>
      split
      · rfl
      · next hsome =>
          rw [htoken _ _ heq hopen] at hsome
          cases hsome

/-- The tokens are read round by round. -/
theorem tokens?_round (a : Attributes) (rest : List Char) :
    (tokens? rest).map (declared a) =
      (roundOf a (rest.dropWhile Text.isSpacing)).bind fun
        | (.done a, rest) => some (a, rest)
        | (.onward a, rest) => (tokens? rest).map (declared a) := by
  cases hcs : rest.dropWhile Text.isSpacing with
  | nil =>
      rw [tokens?_eq_none (fun tail heq => by rw [hcs] at heq; cases heq)
        fun d tail heq => by rw [hcs] at heq; cases heq]
      rfl
  | cons d cs =>
      -- A closing brace ends both, and an opening one makes both fail.
      by_cases hclose : d = '}'
      · subst hclose
        rw [AttributeBlock.tokens?_of_close hcs]
        rfl
      by_cases hopen : d = '{'
      · subst hopen
        rw [tokens?_eq_none (fun tail heq => by rw [hcs] at heq; cases heq)
          fun e tail heq hne => by rw [hcs] at heq; exact absurd (List.cons.inj heq).1.symm hne]
        rfl
      -- Whatever else comes next is read as a token by both.
      rw [roundOf, if_neg hclose, if_neg hopen]
      cases htoken : token? (d :: cs) with
      | none =>
          rw [tokens?_eq_none
            (fun tail heq => hclose (List.cons.inj (hcs.symm.trans heq)).1)
            fun e tail heq _ => by rw [← heq, hcs, htoken]]
          rfl
      | some p =>
          rw [AttributeBlock.tokens?_of_token hcs hclose hopen htoken, Option.map_map]
          rfl

/-- A round that goes well has read something. -/
theorem exists_read_of_roundOf {a : Attributes} {cs rest : List Char} {step : Round}
    (h : roundOf a cs = some (step, rest)) : ∃ read, read ≠ [] ∧ cs = read ++ rest := by
  cases cs with
  | nil => cases h
  | cons d cs =>
      rw [roundOf] at h
      split at h
      · rw [← (Prod.mk.inj (Option.some.inj h)).2]
        exact ⟨[d], List.cons_ne_nil _ _, rfl⟩
      split at h
      · cases h
      · rcases Option.map_eq_some_iff.mp h with ⟨⟨token, rest'⟩, htoken, heq⟩
        have hrest : rest' = rest := (Prod.mk.inj heq).2
        subst hrest
        have hlt := AttributeBlock.length_of_token? htoken
        rcases AttributeBlock.suffix_of_token? htoken with ⟨read, hread⟩
        refine ⟨read, ?_, hread.symm⟩
        rintro rfl
        rw [← hread, List.nil_append] at hlt
        exact Nat.lt_irrefl _ hlt

/-- The loop ends, with what the characters make of the tokens. Each round leaves fewer characters,
    so there are no more rounds than characters, and the one that finds that none are left. -/
theorem yields_loop {limit : Nat} (a : Attributes) (h : At s c rest)
    (hlimit : rest.length < limit) :
    ∃ r, loop s limit a c = some r ∧ Yields s r ((tokens? rest).map (declared a)) := by
  induction limit generalizing a c rest with
  | zero => exact absurd hlimit (Nat.not_lt_zero _)
  | succ limit ih =>
      have hround := yields_round a h
      rw [tokens?_round, loop]
      generalize (round s a).run c = result at hround ⊢
      generalize hcs : roundOf a (rest.dropWhile Text.isSpacing) = next at hround ⊢
      cases hround with
      | malformed => exact ⟨_, rfl, .malformed⟩
      | @read step c rest' hat =>
          cases step with
          | done a => exact ⟨_, rfl, .read hat⟩
          | onward a =>
              -- A round that goes on has read something.
              have hlt : rest'.length < limit := by
                rcases exists_read_of_roundOf hcs with ⟨read, hread, hsplit⟩
                have hle := (List.dropWhile_sublist Text.isSpacing (l := rest)).length_le
                have hpos := List.length_pos_iff.mpr hread
                rw [hsplit, List.length_append] at hle
                omega
              exact ih a hat hlt

/-- A block begins with a brace. -/
theorem leading?_eq_none {cs : List Char} (h : cs.head? ≠ some '{') : leading? cs = none := by
  unfold leading?
  split
  · exact absurd rfl h
  · rfl

/-- The cursor is opened behind the front of a block, if there is one. -/
theorem opened?_spec (s : String) :
    match opened? s with
    | none => leading? s.toList = none
    | some c => ∃ inner, At s c inner ∧ leading? s.toList = (tokens? inner).map (declared {}) := by
  have hstart := At.start s
  have hdeclared : declared {} = fun r => (Attributes.ofTokens r.1, r.2) := by
    funext r
    exact congrArg (·, r.2) (AttributeBlock.foldl_declare r.1 {})
  unfold opened?
  by_cases hbrace : s.toList.head? = some '{'
  · rcases List.head?_eq_some_iff.mp hbrace with ⟨inner, hs⟩
    rw [hs] at hstart ⊢
    have hopen := hstart.eat_self (d := '{') (by decide)
    generalize (ByteCursor.ofString s).eat (byte '{') = eaten at hopen ⊢
    rcases eaten with ⟨opens, c⟩
    rcases hopen with ⟨rfl, hat⟩
    dsimp only at hat ⊢
    -- The colon is eaten by both, if it is there.
    by_cases hcolon : inner.head? = some ':'
    · rcases List.head?_eq_some_iff.mp hcolon with ⟨tail, rfl⟩
      rw [AttributeBlock.leading?_colon, hdeclared]
      exact ⟨tail, (hat.eat_self (d := ':') (by decide)).2, rfl⟩
    · rw [hat.eat_other (d := ':') (by decide) hcolon, AttributeBlock.leading?_of_ne_colon hcolon,
        hdeclared]
      exact ⟨inner, hat, rfl⟩
  · rw [hstart.eat_other (d := '{') (by decide) hbrace]
    exact leading?_eq_none hbrace

/-- What is found is found, and if there is nothing to find, that is found out. -/
def outcome {α : Type} : Option α → Except Fault α
  | some a => .ok a
  | none => .error .malformed

/-- The block at the start is that of the characters, with the length that the cursor has come to. -/
theorem leading_eq {limit : Nat} (hlimit : s.toList.length < limit) :
    leading s limit = some (outcome (Attributes.parseLeading? s)) := by
  have hspec := opened?_spec s
  unfold leading Attributes.parseLeading?
  cases hopen : opened? s with
  | none =>
      rw [hopen] at hspec
      dsimp only at hspec
      rw [hspec]
      rfl
  | some c =>
      rw [hopen] at hspec
      rcases hspec with ⟨inner, hat, hleading⟩
      have hinner : inner.length < limit := by
        rcases hat.split with ⟨front, hs, -⟩
        rw [hs, List.length_append] at hlimit
        omega
      -- There are more rounds than characters, so the loop comes to its end.
      rcases yields_loop {} hat hinner with ⟨r, hloop, hr⟩
      dsimp only
      rw [hloop, hleading]
      generalize (tokens? inner).map (declared {}) = found at hr ⊢
      cases hr with
      | malformed => rfl
      | @read a c rest hat =>
          -- The reader has what is left, and the cursor what it has read.
          have hposition : c.position = Text.size s - byteLength rest := by
            rw [ByteCursor.position, hat.base, Nat.zero_add, ← hat.index_add, Nat.add_sub_cancel]
          simp only [Option.map_some, Except.map, outcome, hposition]

/-- A byte is found in what follows, or else in what stands before that. -/
theorem lastIndex?_append (b : UInt8) (xs ys : List UInt8) :
    lastIndex? b (xs ++ ys) =
      match lastIndex? b ys with
      | some i => some (xs.length + i)
      | none => lastIndex? b xs := by
  induction xs with
  | nil =>
      rw [List.nil_append]
      cases lastIndex? b ys with
      | none => rfl
      | some i =>
          dsimp only
          rw [List.length_nil, Nat.zero_add]
  | cons x xs ih =>
      rw [List.cons_append, lastIndex?, ih, List.length_cons]
      cases lastIndex? b ys with
      | none => rfl
      | some i =>
          dsimp only
          rw [Nat.add_right_comm]

theorem lastIndex?_eq_none {b : UInt8} {xs : List UInt8} (h : b ∉ xs) : lastIndex? b xs = none := by
  induction xs with
  | nil => rfl
  | cons x xs ih =>
      rw [List.mem_cons, not_or] at h
      rw [lastIndex?, ih h.2, if_neg (Ne.symm h.1)]

/-- The last opening brace has the last byte of an opening brace. -/
theorem lastIndex?_bytesOf (cs : List Char) :
    lastIndex? (byte '{') (bytesOf cs) =
      (cutAtLastBrace? cs).map fun (front, _) => byteLength front := by
  induction cs with
  | nil => rfl
  | cons c cs ih =>
      rw [Text.bytesOf_cons, lastIndex?_append, ih, String.length_utf8EncodeChar]
      cases hcut : cutAtLastBrace? cs with
      | some cut => simp only [cutAtLastBrace?, hcut, Option.map_some, Text.byteLength_cons]
      | none =>
          simp only [cutAtLastBrace?, hcut, Option.map_none]
          by_cases hc : c = '{'
          · subst hc
            rfl
          · -- Its bytes are none of an opening brace.
            rw [if_neg hc]
            exact lastIndex?_eq_none fun hmem =>
              hc ((Text.eq_toUInt8_iff (d := '{') (by decide) hmem).mp rfl)

/-- The block ends with the text if nothing follows it. -/
theorem byteLength_block_iff (front body rest : List Char) :
    byteLength front + (byteLength (body ++ rest) - byteLength rest) =
      byteLength (front ++ (body ++ rest)) ↔ rest.isEmpty = true := by
  rw [Text.byteLength_append, Text.byteLength_append, Text.byteLength_append, Nat.add_sub_cancel]
  cases rest with
  | nil => simp only [Text.byteLength_nil, Nat.add_zero, List.isEmpty_nil]
  | cons c rest =>
      have hpos := c.utf8Size_pos
      rw [Text.byteLength_cons, List.isEmpty_cons]
      simp only [Bool.false_eq_true, iff_false]
      omega

/-- The block at the end is that of the characters, too. -/
theorem trailing_eq {limit : Nat} (hlimit : s.toList.length < limit) :
    trailing s limit = some (outcome (Attributes.parseTrailing? s)) := by
  unfold trailing Attributes.parseTrailing? AttributeBlock.trailing?
  by_cases hclose : s.toList.getLast? = some '}'
  swap
  · rw [if_neg hclose]
    simp [guard, hclose, outcome]
  rw [if_pos hclose, Text.toList_toUTF8, lastIndex?_bytesOf]
  cases hcut : cutAtLastBrace? s.toList with
  | none => simp [guard, hclose, outcome]
  | some cut =>
      rcases cut with ⟨front, block⟩
      have hs := (AttributeBlock.cutAtLastBrace?_eq_some hcut).1
      have hsize : Text.size s = byteLength (front ++ block) := by rw [Text.size, hs]
      -- The brace is on a character boundary, so the slice behind it is the block.
      have hslice : Text.slice? (byteLength front) (Text.size s) s =
          some (String.ofList block) := by
        have hback := Text.sliceChars?_append front block []
        rw [List.append_nil, ← hs] at hback
        rw [Text.slice?, hsize, ← hs, hback]
        rfl
      have hblock : Text.size (String.ofList block) = byteLength block := by
        rw [Text.size, String.toList_ofList]
      have hread : leading (String.ofList block) limit =
          some (outcome (Attributes.parseLeading? (String.ofList block))) := by
        rw [hs, List.length_append] at hlimit
        exact leading_eq (by rw [String.toList_ofList]; omega)
      simp only [Option.map_some, hslice, hread, Attributes.parseLeading?,
        String.toList_ofList, hblock, hclose, guard, if_true, Option.pure_def, Option.bind_eq_bind,
        Option.bind_some]
      cases hleading : leading? block with
      | none => rfl
      | some p =>
          rcases p with ⟨a, rest⟩
          rcases AttributeBlock.suffix_of_leading? hleading with ⟨body, rfl⟩
          have hend := byteLength_block_iff front body rest
          rw [← hsize] at hend
          simp only [Option.map_some, outcome, Option.bind_some]
          by_cases hrest : rest.isEmpty = true
          · rw [if_pos (hend.mpr hrest), if_pos hrest]
            rfl
          · rw [if_neg fun heq => hrest (hend.mp heq), if_neg hrest]
            rfl

/-- A cursor on the text, wherever its operations have taken it. -/
inductive Moved (s : String) : ByteCursor → Prop
  | start : Moved s (ByteCursor.ofString s)
  | next {c : ByteCursor} (h : Moved s c) : Moved s c.next.2
  | eat {c : ByteCursor} (h : Moved s c) (b : UInt8) : Moved s (c.eat b).2
  | skipSpacing {c : ByteCursor} (h : Moved s c) : Moved s c.skipSpacing
  | takeUntil {c : ByteCursor} (h : Moved s c) (stop : UInt8 → Bool) :
      Moved s (c.takeUntil stop).2

/-- Stepping over some of the bytes that are left does not lead past the end. -/
theorem index_add_takeWhile_le (h : c.index ≤ c.bytes.length) (p : UInt8 → Bool) :
    c.index + ((c.bytes.drop c.index).takeWhile p).length ≤ c.bytes.length := by
  have hle := (List.takeWhile_sublist p (l := c.bytes.drop c.index)).length_le
  rw [List.length_drop] at hle
  omega

/-- The cursor never passes the end of the text. -/
theorem Moved.index_le (h : Moved s c) : c.bytes = bytesOf s.toList ∧ c.index ≤ Text.size s := by
  have hsize : (bytesOf s.toList).length = Text.size s := Text.length_bytesOf _
  -- A byte that is stepped over is there, so the cursor stands before the end.
  induction h with
  | start => exact ⟨Text.toList_toUTF8 s, Nat.zero_le _⟩
  | @next c _ ih =>
      unfold ByteCursor.next
      cases hpeek : c.peek with
      | none => exact ih
      | some b =>
          have hlt := (List.getElem?_eq_some_iff.mp hpeek).1
          rw [ih.1, hsize] at hlt
          exact ⟨ih.1, hlt⟩
  | @eat c _ b ih =>
      unfold ByteCursor.eat
      split
      · next hpeek =>
          have hlt := (List.getElem?_eq_some_iff.mp hpeek).1
          rw [ih.1, hsize] at hlt
          exact ⟨ih.1, hlt⟩
      · exact ih
  | @skipSpacing c _ ih =>
      refine ⟨ih.1, ?_⟩
      rw [← hsize, ← ih.1]
      exact index_add_takeWhile_le (by rw [ih.1, hsize]; exact ih.2) _
  | @takeUntil c _ stop ih =>
      refine ⟨ih.1, ?_⟩
      rw [← hsize, ← ih.1]
      exact index_add_takeWhile_le (by rw [ih.1, hsize]; exact ih.2) _

/-- The states of the loop over the tokens. -/
inductive Reached (s : String) : Attributes → ByteCursor → Prop
  | start {c : ByteCursor} (h : opened? s = some c) : Reached s {} c
  | onward {a a' : Attributes} {c c' : ByteCursor} (h : Reached s a c)
      (hround : (round s a).run c = .ok (.onward a', c')) : Reached s a' c'

/-- Between two rounds the cursor stands between characters. -/
theorem Reached.at {a : Attributes} (h : Reached s a c) : ∃ rest, At s c rest := by
  induction h with
  | start hopen =>
      have hspec := opened?_spec s
      rw [hopen] at hspec
      rcases hspec with ⟨inner, hat, -⟩
      exact ⟨inner, hat⟩
  | @onward a a' c c' _ hround ih =>
      rcases ih with ⟨rest, hat⟩
      have hyields := yields_round a hat
      rw [hround] at hyields
      generalize roundOf a (rest.dropWhile Text.isSpacing) = read at hyields
      cases hyields with
      | read hat' => exact ⟨_, hat'⟩

/-- A round finds that there is no block, or moves the cursor forward to another boundary. -/
theorem round_forward (a : Attributes) (h : At s c rest) :
    (round s a).run c = .error .malformed ∨
      ∃ step c', (round s a).run c = .ok (step, c') ∧ c.index < c'.index ∧
        IsBoundary c'.index s := by
  have hyields := yields_round a h
  generalize hrun : (round s a).run c = result at hyields
  generalize hround : roundOf a (rest.dropWhile Text.isSpacing) = read at hyields
  cases hyields with
  | malformed => exact .inl rfl
  | @read step c' rest' hat =>
      refine .inr ⟨step, c', rfl, ?_, hat.isBoundary⟩
      -- Before and after the round, what is read and what is not have the size of the text.
      rcases exists_read_of_roundOf hround with ⟨taken, htaken, hsplit⟩
      have hindex := h.index_add
      have hindex' := hat.index_add
      rw [← List.takeWhile_append_dropWhile (p := Text.isSpacing) (l := rest), hsplit,
        Text.byteLength_append, Text.byteLength_append] at hindex
      have hpos : 0 < byteLength taken := by
        cases taken with
        | nil => exact absurd rfl htaken
        | cons d taken =>
            have hd := d.utf8Size_pos
            rw [Text.byteLength_cons]
            omega
      omega

/-- A slice is torn exactly if one of its ends is not between characters. -/
theorem takeUntil_torn_iff (c : ByteCursor) (stop : UInt8 → Bool) :
    (takeUntil s stop).run c = .error .torn ↔
      ¬ (IsBoundary c.index s ∧ IsBoundary (c.takeUntil stop).2.index s) := by
  have hle : c.index ≤ (c.takeUntil stop).2.index := Nat.le_add_right _ _
  have hslice := @Text.isSome_sliceChars?_iff c.index (c.takeUntil stop).2.index s
  rw [run_takeUntil]
  cases hsome : Text.sliceChars? c.index (c.takeUntil stop).2.index s.toList with
  | none =>
      rw [hsome] at hslice
      simpa [hle] using hslice
  | some taken =>
      rw [hsome] at hslice
      simpa [hle] using hslice

/-- The block at the start has a boundary behind it. -/
theorem isBoundary_of_parseLeading? {a : Attributes} {n : Nat}
    (h : Attributes.parseLeading? s = some (a, n)) : IsBoundary n s := by
  rcases Option.map_eq_some_iff.mp h with ⟨⟨a', rest⟩, hleading, heq⟩
  rcases AttributeBlock.suffix_of_leading? hleading with ⟨block, hs⟩
  refine Text.isBoundary_iff.mpr ⟨block, rest, hs.symm, ?_⟩
  rw [← (Prod.mk.inj heq).2, Text.size, ← hs, Text.byteLength_append, Nat.add_sub_cancel]

/-- The block at the end has a boundary before it. -/
theorem isBoundary_of_parseTrailing? {a : Attributes} {n : Nat}
    (h : Attributes.parseTrailing? s = some (a, n)) : IsBoundary n s := by
  rcases Option.map_eq_some_iff.mp h with ⟨⟨a', front⟩, htrailing, heq⟩
  rcases AttributeBlock.trailing?_eq_some htrailing with ⟨tail, hs, -, -⟩
  exact Text.isBoundary_iff.mpr ⟨front, '{' :: tail, hs, (Prod.mk.inj heq).2⟩

/-- The last opening brace has a boundary before it. -/
theorem isBoundary_of_lastIndex? {start : Nat}
    (h : lastIndex? (byte '{') s.toUTF8.toList = some start) : IsBoundary start s := by
  rw [Text.toList_toUTF8, lastIndex?_bytesOf, Option.map_eq_some_iff] at h
  rcases h with ⟨⟨front, block⟩, hcut, rfl⟩
  exact Text.isBoundary_iff.mpr
    ⟨front, block, (AttributeBlock.cutAtLastBrace?_eq_some hcut).1, rfl⟩

/-- A text gives up a block where the scanner found the end of it. -/
theorem moveLeading?_cut {source : List Char} {target next target' next' : Node}
    (hnext : next.kind = .text s) (h : target.moveLeading? source next = some (target', next')) :
    ∃ a n block rest, Attributes.parseLeading? s = some (a, n) ∧
      Text.cut? n s.toList = some (block, rest) ∧
      next'.kind = .text (String.ofList rest) := by
  rcases Node.moveLeading?_eq_some_iff.mp h with ⟨-, a, block, rest, hopens, -, rfl⟩
  have hs : s.toList = block ++ rest := by
    have hkind := hopens.kind
    rw [hnext, Kind.text.injEq] at hkind
    rw [hkind, String.toList_ofList]
  have hread := hopens.read
  rw [← hs] at hread
  have hsize : Text.size s - byteLength rest = byteLength block := by
    rw [Text.size, hs, Text.byteLength_append, Nat.add_sub_cancel]
  refine ⟨a, byteLength block, block, rest, ?_, ?_, rfl⟩
  · rw [Attributes.parseLeading?, hread, ← hsize]
    rfl
  · rw [hs, Text.cut?_byteLength]

/-- A text is cut where the scanner found the start of a block. -/
theorem cutTrailing?_cut {source : List Char} {last last' : Node} {a : Attributes}
    (hlast : last.kind = .text s) (h : last.cutTrailing? source = some (last', a)) :
    ∃ n front block, Attributes.parseTrailing? s = some (a, n) ∧
      Text.cut? n s.toList = some (front, block) ∧
      last'.kind = .text (String.ofList (Text.trimEnd front)) := by
  rcases Node.cutTrailing?_eq_some_iff.mp h with ⟨front, block, hcloses, rfl⟩
  have hs : s.toList = front ++ block := by
    have hkind := hcloses.kind
    rw [hlast, Kind.text.injEq] at hkind
    rw [hkind, String.toList_ofList]
  have hread := hcloses.read
  rw [← hs] at hread
  refine ⟨byteLength front, front, block, ?_, ?_, rfl⟩
  · rw [Attributes.parseTrailing?, hread]
    rfl
  · rw [hs, Text.cut?_byteLength]

/-- The scanner ends on every text, after no more rounds than there are characters and one more. It
    has found the block that the characters have, and no slice was torn. Each round ends the scan or
    takes the cursor forward, and the cursor never passes the end. What it returns is a boundary,
    and that is where a text is cut. -/
theorem scan_between_characters (s : String) :
    (∀ limit, s.toList.length < limit →
      leading s limit = some (outcome (Attributes.parseLeading? s)) ∧
        trailing s limit = some (outcome (Attributes.parseTrailing? s))) ∧
      (∀ a c, Reached s a c → IsBoundary c.index s ∧
        ((round s a).run c = .error .malformed ∨
          ∃ step c', (round s a).run c = .ok (step, c') ∧ c.index < c'.index ∧
            IsBoundary c'.index s)) ∧
      (∀ c, Moved s c → c.index ≤ Text.size s) ∧
      (∀ c stop, (takeUntil s stop).run c = .error .torn ↔
        ¬ (IsBoundary c.index s ∧ IsBoundary (c.takeUntil stop).2.index s)) ∧
      (∀ start, lastIndex? (byte '{') s.toUTF8.toList = some start → IsBoundary start s) ∧
      (∀ a n, Attributes.parseLeading? s = some (a, n) → IsBoundary n s) ∧
      (∀ a n, Attributes.parseTrailing? s = some (a, n) → IsBoundary n s) ∧
      (∀ source target next target' next', next.kind = .text s →
        Node.moveLeading? source target next = some (target', next') →
        ∃ a n block rest, Attributes.parseLeading? s = some (a, n) ∧
          Text.cut? n s.toList = some (block, rest) ∧
          next'.kind = .text (String.ofList rest)) ∧
      ∀ source last last' a, last.kind = .text s →
        Node.cutTrailing? source last = some (last', a) →
        ∃ n front block, Attributes.parseTrailing? s = some (a, n) ∧
          Text.cut? n s.toList = some (front, block) ∧
          last'.kind = .text (String.ofList (Text.trimEnd front)) := by
  refine ⟨fun limit hlimit => ⟨leading_eq hlimit, trailing_eq hlimit⟩, fun a c hreached => ?_,
    fun c h => h.index_le.2, takeUntil_torn_iff, fun _ => isBoundary_of_lastIndex?,
    fun _ _ => isBoundary_of_parseLeading?, fun _ _ => isBoundary_of_parseTrailing?,
    fun _ _ _ _ _ => moveLeading?_cut, fun _ _ _ _ => cutTrailing?_cut⟩
  -- What is left of the third part: a cursor that was reached stands in front of a character.
  rcases hreached.at with ⟨rest, hat⟩
  exact ⟨hat.isBoundary, round_forward a hat⟩

/-- A block with characters of two bytes in it and behind it. -/
theorem scan_between_characters_umlauts :
    let s := "\x7b#é\x7dü"
    let next : Node := { kind := .text s }
    let target : Node := { kind := .emphasis }
    leading s 6 = some (.ok ({ id := some "é" }, 5)) ∧ IsBoundary 5 s ∧
      (∃ c, Reached s {} c ∧ IsBoundary c.index s) ∧
      ∃ target' next', target.moveLeading? [] next = some (target', next') ∧
        next'.kind = .text "ü" := by
  intro s next target
  obtain ⟨hparse, hopen, hmoves⟩ : Attributes.parseLeading? s = some ({ id := some "é" }, 5) ∧
      (opened? s).isSome = true ∧ (target.moveLeading? [] next).isSome = true := by
    decide +kernel
  rcases scan_between_characters s with ⟨hscan, hreached, -, -, -, hboundary, -, hmove, -⟩
  refine ⟨?_, hboundary _ _ hparse, ?_, ?_⟩
  · rw [(hscan 6 (by decide)).1, hparse]
    rfl
  · rcases Option.isSome_iff_exists.mp hopen with ⟨c, hc⟩
    exact ⟨c, .start hc, (hreached {} c (.start hc)).1⟩
  · rcases Option.isSome_iff_exists.mp hmoves with ⟨⟨target', next'⟩, hmoved⟩
    rcases hmove [] target next target' next' rfl hmoved with ⟨a, n, block, rest, hread, hcut, hkind⟩
    -- The cut is the one that was read, since a text has one block at its start.
    have hn : n = 5 := (Prod.mk.inj (Option.some.inj (hread.symm.trans hparse))).2
    subst hn
    have hrest : Text.cut? 5 s.toList = some ("\x7b#é\x7d".toList, ['ü']) := by decide
    rw [hrest] at hcut
    refine ⟨target', next', hmoved, ?_⟩
    rw [hkind, ← (Prod.mk.inj (Option.some.inj hcut)).2]

end Anchormark.BlockScanner
