import Anchormark.Attribute.Scan
import Anchormark.Proofs.Attribute.Edges
import Anchormark.Proofs.Attribute.Language
import Anchormark.Proofs.Text.Bytes

/-!
# One Round of the Byte Scanner

A cursor that stands between characters stays between characters. It moves byte by byte, and in the
middle of a character of several bytes it may well be for a while, but it never stops there: what
it looks for, and what it steps over one by one, are ASCII bytes, and no byte of another character
is one of those. So a slice from where it was to where it is consists of whole characters.

Therefore each part of the scanner reads from the bytes what its counterpart reads from the
characters. A scanner on bytes has a third outcome, the torn slice, and `Yields` has no case for it.

## Main definitions

* `At`: A cursor stands between characters, in front of these.
* `Yields`: A scanner on bytes does as a reader on characters.
* `closed?`, `pairOf`, `roundOf`: A value in quotes, a pair and a round as readers on characters.

## Theorems

* `Yields.bind`: One scanner after another.
* `yields_takeUntil`: A slice is taken, and it is never torn.
* `yields_word`, `yields_value`, `yields_pair`: The parts of a token.
* `yields_round`: A round.
-/

namespace Anchormark.BlockScanner

open Text (ByteCursor byteLength bytesOf IsBoundary)
open AttributeBlock (Token declare declaration? isKey word? value? assigned? token? inKey)

variable {s : String} {c : ByteCursor} {rest : List Char}

/-- A character is told by any of its bytes whether it is an ASCII character. -/
theorem decide_eq_byte {d e : Char} (hd : d.toNat < 128) {b : UInt8}
    (hb : b ∈ String.utf8EncodeChar e) : decide (b = byte d) = decide (e = d) :=
  decide_eq_decide.mpr (Text.eq_toUInt8_iff hd hb)

theorem spacing_iff {e : Char} {b : UInt8} (hb : b ∈ String.utf8EncodeChar e) :
    (b = 0x20 || b = 0x09 || b = 0x0a || b = 0x0c || b = 0x0d) = Text.isSpacing e := by
  change (decide (b = byte ' ') || b = byte '\t' || b = byte '\n' || b = byte '\x0c' ||
    b = byte '\r') = _
  rw [decide_eq_byte (by decide) hb, decide_eq_byte (by decide) hb, decide_eq_byte (by decide) hb,
    decide_eq_byte (by decide) hb, decide_eq_byte (by decide) hb, Text.isSpacing]

theorem endsWord_iff {e : Char} {b : UInt8} (hb : b ∈ String.utf8EncodeChar e) :
    endsWord b = AttributeBlock.endsWord e := by
  rw [endsWord, AttributeBlock.endsWord, ← spacing_iff hb,
    ← decide_eq_byte (d := '}') (by decide) hb]
  rfl

/-- The cursor stands between characters, and these are the ones still to be read. -/
structure At (s : String) (c : ByteCursor) (rest : List Char) : Prop where
  bytes : c.bytes = bytesOf s.toList
  base : c.base = 0
  split : ∃ front, s.toList = front ++ rest ∧ byteLength front = c.index

namespace At

theorem start (s : String) : At s (ByteCursor.ofString s) s.toList :=
  ⟨Text.toList_toUTF8 s, rfl, [], rfl, rfl⟩

theorem isBoundary (h : At s c rest) : IsBoundary c.index s := by
  rcases h.split with ⟨front, hs, hindex⟩
  exact Text.isBoundary_iff.mpr ⟨front, rest, hs, hindex⟩

/-- What is read and what is not make up the text. -/
theorem index_add (h : At s c rest) : c.index + byteLength rest = Text.size s := by
  rcases h.split with ⟨front, hs, hindex⟩
  rw [Text.size, hs, Text.byteLength_append, hindex]

/-- The bytes still to be read. -/
theorem ahead (h : At s c rest) : c.bytes.drop c.index = bytesOf rest := by
  rcases h.split with ⟨front, hs, hindex⟩
  rw [h.bytes, hs, Text.bytesOf_append, ← hindex, ← Text.length_bytesOf, List.drop_left]

/-- The cursor steps over whole characters. -/
theorem advance {taken : List Char} (h : At s c (taken ++ rest)) :
    At s { c with index := c.index + byteLength taken } rest := by
  rcases h.split with ⟨front, hs, hindex⟩
  refine ⟨h.bytes, h.base, front ++ taken, by rw [hs, List.append_assoc], ?_⟩
  rw [Text.byteLength_append, hindex]

theorem peek_nil (h : At s c []) : c.peek = none := by
  have hahead := h.ahead
  rw [ByteCursor.peek, List.getElem?_eq_none_iff]
  exact List.drop_eq_nil_iff.mp hahead

/-- The byte that comes next belongs to the character that comes next. -/
theorem peek_cons {d : Char} (h : At s c (d :: rest)) :
    ∃ b ∈ String.utf8EncodeChar d, c.peek = some b := by
  rcases List.exists_cons_of_ne_nil (String.utf8EncodeChar_ne_nil (c := d)) with ⟨b, bs, hbytes⟩
  refine ⟨b, hbytes ▸ List.mem_cons_self, ?_⟩
  have hahead := h.ahead
  rw [Text.bytesOf_cons, hbytes, List.cons_append] at hahead
  rw [ByteCursor.peek, ← List.head?_drop, hahead, List.head?_cons]

/-- An ASCII character is stepped over with its byte. -/
theorem step {d : Char} (hd : d.toNat < 128) (h : At s c (d :: rest)) :
    At s { c with index := c.index + 1 } rest := by
  have hsize : byteLength [d] = 1 := by
    rw [← Text.length_bytesOf, Text.bytesOf_cons, Text.utf8EncodeChar_ascii hd]
    rfl
  have hadvance : At s c ([d] ++ rest) := h
  rw [← hsize]
  exact hadvance.advance

theorem peek_self {d : Char} (hd : d.toNat < 128) (h : At s c (d :: rest)) :
    c.peek = some (byte d) := by
  rcases h.peek_cons with ⟨b, hb, hpeek⟩
  rw [hpeek, (Text.eq_toUInt8_iff hd hb).mpr rfl]
  rfl

theorem next {d : Char} (hd : d.toNat < 128) (h : At s c (d :: rest)) : At s c.next.2 rest := by
  rw [ByteCursor.next, h.peek_self hd]
  exact h.step hd

/-- An ASCII character that comes next is eaten. -/
theorem eat_self {d : Char} (hd : d.toNat < 128) (h : At s c (d :: rest)) :
    (c.eat (byte d)).1 = true ∧ At s (c.eat (byte d)).2 rest := by
  rw [ByteCursor.eat, if_pos (h.peek_self hd)]
  exact ⟨rfl, h.step hd⟩

/-- A character that does not come next is not eaten. -/
theorem eat_other {d : Char} (hd : d.toNat < 128) (h : At s c rest) (hne : rest.head? ≠ some d) :
    c.eat (byte d) = (false, c) := by
  refine if_neg fun hpeek => hne ?_
  cases rest with
  | nil =>
      rw [h.peek_nil] at hpeek
      cases hpeek
  | cons e rest =>
      rcases h.peek_cons with ⟨b, hb, hpeek'⟩
      rw [hpeek, Option.some.injEq] at hpeek'
      rw [List.head?_cons, (Text.eq_toUInt8_iff hd hb).mp hpeek'.symm]

/-- Skipping bytes is skipping characters. -/
theorem skipWhile {p : UInt8 → Bool} {q : Char → Bool}
    (hp : ∀ d, ∀ b ∈ String.utf8EncodeChar d, p b = q d) (h : At s c rest) :
    At s (c.skipWhile p) (rest.dropWhile q) := by
  have hsplit : At s c (rest.takeWhile q ++ rest.dropWhile q) := by
    rw [List.takeWhile_append_dropWhile]
    exact h
  rw [ByteCursor.skipWhile, h.ahead, Text.takeWhile_bytesOf hp, Text.length_bytesOf]
  exact hsplit.advance

theorem skipSpacing (h : At s c rest) : At s c.skipSpacing (rest.dropWhile Text.isSpacing) :=
  h.skipWhile fun _ _ hb => spacing_iff hb

end At

/-- The outcome of a scanner on bytes is that of a reader on characters. There is no third one. -/
inductive Yields (s : String) {α : Type} :
    Except Fault (α × ByteCursor) → Option (α × List Char) → Prop
  | read {a : α} {c : ByteCursor} {rest : List Char} (h : At s c rest) :
      Yields s (.ok (a, c)) (some (a, rest))
  | malformed : Yields s (.error .malformed) none

/-- One scanner after another. -/
theorem Yields.bind {α β : Type} {x : Scanner α} {g : α → Scanner β}
    {r : Option (α × List Char)} {h : α × List Char → Option (β × List Char)}
    (hx : Yields s (x.run c) r)
    (hg : ∀ a c rest, r = some (a, rest) → At s c rest → Yields s ((g a).run c) (h (a, rest))) :
    Yields s ((x >>= g).run c) (r.bind h) := by
  rw [StateT.run_bind]
  generalize x.run c = result at hx ⊢
  cases hx with
  | read hat => exact hg _ _ _ rfl hat
  | malformed => exact .malformed

/-- The cursor moves, and then the slice is cut between its two places. -/
theorem run_takeUntil (c : ByteCursor) (stop : UInt8 → Bool) :
    (takeUntil s stop).run c =
      match Text.sliceChars? c.index (c.takeUntil stop).2.index s.toList with
      | some taken => .ok (taken, (c.takeUntil stop).2)
      | none => .error .torn := by
  change StateT.run (match Text.sliceChars? c.index (c.takeUntil stop).2.index s.toList with
    | some taken => (pure taken : Scanner (List Char))
    | none => throw .torn) _ = _
  cases Text.sliceChars? c.index (c.takeUntil stop).2.index s.toList <;> rfl

/-- A slice is taken, and it is what the characters are. -/
theorem yields_takeUntil {stop : UInt8 → Bool} {q : Char → Bool}
    (hstop : ∀ d, ∀ b ∈ String.utf8EncodeChar d, stop b = q d) (h : At s c rest) :
    Yields s ((takeUntil s stop).run c)
      (some (rest.takeWhile (!q ·), rest.dropWhile (!q ·))) := by
  have hnot : ∀ d, ∀ b ∈ String.utf8EncodeChar d, (!stop b) = !q d :=
    fun d b hb => congrArg not (hstop d b hb)
  have hcursor : (c.takeUntil stop).2 =
      { c with index := c.index + byteLength (rest.takeWhile (!q ·)) } := by
    rw [ByteCursor.takeUntil, h.ahead, Text.takeWhile_bytesOf hnot, Text.length_bytesOf]
  have hsplit : At s c (rest.takeWhile (!q ·) ++ rest.dropWhile (!q ·)) := by
    rw [List.takeWhile_append_dropWhile]
    exact h
  -- The slice lies between two places where the cursor stands between characters.
  have hslice : Text.sliceChars? c.index (c.takeUntil stop).2.index s.toList =
      some (rest.takeWhile (!q ·)) := by
    rcases hsplit.split with ⟨front, hs, hindex⟩
    rw [hcursor, hs, ← hindex, ← Text.byteLength_append, Text.sliceChars?_append]
  rw [run_takeUntil, hslice, hcursor]
  exact .read hsplit.advance

theorem yields_word (h : At s c rest) : Yields s ((word s).run c) (word? rest) := by
  refine (yields_takeUntil (fun d b hb => endsWord_iff hb) h).bind
    (h := fun read => if '{' ∈ read.1 then none else some read) fun body c rest _ hat => ?_
  dsimp only
  split
  · exact .malformed
  · exact .read hat

/-- What is made of the value behind a quote and of what follows it: the other quote is left out. -/
def closed? : List Char × List Char → Option (List Char × List Char)
  | (_, []) => none
  | (body, _ :: rest) => some (body, rest)

/-- Behind the slice the cursor stands in front of the other quote, or at the end. -/
theorem yields_quoted {quote : Char} (hquote : quote.toNat < 128)
    (h : At s c (quote :: rest)) :
    Yields s ((quoted s (byte quote)).run c) (value?.quoted? quote rest) := by
  -- The slice goes to the other quote on both sides.
  have hslice : Yields s ((takeUntil s (· = byte quote)).run c.next.2)
      (some (rest.takeWhile (· ≠ quote), rest.dropWhile (· ≠ quote))) := by
    simpa only [ne_eq, decide_not] using
      yields_takeUntil (fun d b hb => decide_eq_byte hquote hb) (h.next hquote)
  have hvalue : value?.quoted? quote rest =
      (some (rest.takeWhile (· ≠ quote), rest.dropWhile (· ≠ quote))).bind closed? := by
    rw [value?.quoted?]
    cases rest.dropWhile (· ≠ quote) <;> rfl
  rw [hvalue]
  refine hslice.bind (g := fun body => do
    if ← modifyGet (·.eat (byte quote)) then return body else throw .malformed)
    fun body c cs heq hat => ?_
  change Yields s (StateT.run (if (c.eat (byte quote)).1 then pure body else throw .malformed)
    (c.eat (byte quote)).2) _
  cases cs with
  | nil =>
      rw [hat.eat_other hquote fun hhead => by cases hhead]
      exact .malformed
  | cons d cs =>
      -- Only the other quote ends the slice in front of the end of the text.
      have hd : decide (d ≠ quote) = false := by
        have hhead := List.head?_dropWhile_not (· ≠ quote) rest
        rw [(Prod.mk.inj (Option.some.inj heq)).2] at hhead
        exact hhead
      rw [decide_eq_false_iff_not, not_not] at hd
      subst hd
      rw [(hat.eat_self hquote).1]
      exact .read (hat.eat_self hquote).2

/-- The byte that comes next decides how a value is read. -/
theorem run_value (c : ByteCursor) :
    (value s).run c = StateT.run (match c.peek with
      | some b => if b = byte '"' || b = byte '\'' then quoted s b else word s
      | none => word s) c := rfl

theorem yields_value (h : At s c rest) : Yields s ((value s).run c) (value? rest) := by
  rw [run_value]
  cases rest with
  | nil =>
      rw [h.peek_nil]
      exact yields_word h
  | cons d rest =>
      rcases h.peek_cons with ⟨b, hb, hpeek⟩
      -- The byte is that of a quote exactly if the character is that quote.
      have hdouble := decide_eq_byte (d := '"') (by decide) hb
      have hsingle := decide_eq_byte (d := '\'') (by decide) hb
      rw [hpeek]
      dsimp only
      rw [hdouble, hsingle]
      by_cases hd : d = '"'
      · rw [decide_eq_true hd, decide_eq_true_eq] at hdouble
        -- Then the byte is the one that the quoted reader is given.
        rw [decide_eq_true hd, hdouble]
        subst hd
        exact yields_quoted (by decide) h
      by_cases hd' : d = '\''
      · rw [decide_eq_true hd', decide_eq_true_eq] at hsingle
        rw [decide_eq_true hd', Bool.or_true, hsingle]
        subst hd'
        exact yields_quoted (by decide) h
      · rw [decide_eq_false hd, decide_eq_false hd', AttributeBlock.value?_of_bare
          (by rwa [List.head?_cons, ne_eq, Option.some.injEq])
          (by rwa [List.head?_cons, ne_eq, Option.some.injEq])]
        exact yields_word h

theorem yields_assigned (h : At s c rest) :
    Yields s ((assigned s).run c) (assigned? rest) := by
  change Yields s (StateT.run (if (c.eat (byte '=')).1 then value s else pure [])
    (c.eat (byte '=')).2) _
  by_cases hhead : rest.head? = some '='
  · rcases List.head?_eq_some_iff.mp hhead with ⟨tail, rfl⟩
    have heat := h.eat_self (d := '=') (by decide)
    rw [heat.1]
    exact yields_value heat.2
  · have hnone : assigned? rest = some ([], rest) := by
      unfold assigned?
      split
      · exact absurd rfl hhead
      · rfl
    rw [h.eat_other (by decide) hhead, hnone]
    exact .read h

/-- What a round makes of a token. -/
def tokenRound (a : Attributes) : Token × List Char → Round × List Char
  | (token, rest) => (.onward (declare a token), rest)

theorem yields_identifier (a : Attributes) (h : At s c ('#' :: rest)) :
    Yields s ((identifier s a).run c) ((token? ('#' :: rest)).map (tokenRound a)) := by
  have htoken : (token? ('#' :: rest)).map (tokenRound a) =
      (word? rest).bind fun read => some (.onward (declare a (.id read.1)), read.2) := by
    simp only [token?, Option.map_map]
    cases word? rest <;> rfl
  rw [htoken]
  change Yields s (StateT.run (do
    let id ← word s
    return Round.onward (declare a (.id id))) c.next.2) _
  exact (yields_word (h.next (by decide))).bind fun id c rest _ hat => .read hat

theorem yields_className (a : Attributes) (h : At s c ('.' :: rest)) :
    Yields s ((className s a).run c) ((token? ('.' :: rest)).map (tokenRound a)) := by
  have htoken : (token? ('.' :: rest)).map (tokenRound a) =
      (word? rest).bind fun read =>
        if read.1.isEmpty then none
        else some (.onward (declare a (.className read.1)), read.2) := by
    simp only [token?]
    cases word? rest with
    | none => rfl
    | some p =>
        simp only [Option.bind_eq_bind, Option.bind_some]
        cases p.1.isEmpty <;> rfl
  rw [htoken]
  change Yields s (StateT.run (do
    let name ← word s
    if name.isEmpty then throw .malformed
    else return Round.onward (declare a (.className name))) c.next.2) _
  refine (yields_word (h.next (by decide))).bind fun name c rest _ hat => ?_
  dsimp only
  cases name.isEmpty with
  | true => exact .malformed
  | false => exact .read hat

/-- What a round makes of a key and of what follows it. -/
def pairOf (a : Attributes) : List Char × List Char → Option (Round × List Char)
  | (key, cs) =>
    if isKey key then
      (assigned? cs).bind fun (value, rest) =>
        (declaration? key value).map fun token => tokenRound a (token, rest)
    else none

theorem yields_pair (a : Attributes) (h : At s c rest) :
    Yields s ((pair s a).run c) (pairOf a (rest.takeWhile inKey, rest.dropWhile inKey)) := by
  have hstop : inKey = fun d => !(AttributeBlock.endsWord d || decide (d = '=')) := by
    funext d
    rw [inKey, Bool.not_or, ← decide_not]
  have hkey : Yields s ((takeUntil s fun b => endsWord b || b = byte '=').run c)
      (some (rest.takeWhile inKey, rest.dropWhile inKey)) := by
    rw [hstop]
    exact yields_takeUntil (fun d b hb => by
      rw [endsWord_iff hb, decide_eq_byte (by decide) hb]) h
  refine hkey.bind (h := pairOf a) fun key c cs _ hat => ?_
  rw [pairOf]
  cases isKey key with
  | false => exact .malformed
  | true =>
      refine (yields_assigned hat).bind fun value c cs _ hat => ?_
      dsimp only
      cases declaration? key value with
      | none => exact .malformed
      | some token => exact .read hat

/-- What a round makes of the characters behind the white space. -/
def roundOf (a : Attributes) : List Char → Option (Round × List Char)
  | [] => none
  | d :: cs =>
    if d = '}' then some (.done a, cs)
    else if d = '{' then none
    else (token? (d :: cs)).map (tokenRound a)

/-- A key is what remains if none of the signs comes next. -/
theorem roundOf_pair (a : Attributes) {d : Char} {cs : List Char} (hclose : d ≠ '}')
    (hopen : d ≠ '{') (hid : d ≠ '#') (hclass : d ≠ '.') :
    roundOf a (d :: cs) = pairOf a ((d :: cs).takeWhile inKey, (d :: cs).dropWhile inKey) := by
  rw [roundOf, if_neg hclose, if_neg hopen, pairOf]
  unfold token?
  split
  · next heq => exact absurd (List.cons.inj heq).1 hid
  · next heq => exact absurd (List.cons.inj heq).1 hclass
  · dsimp only
    cases isKey ((d :: cs).takeWhile inKey) with
    | false => rfl
    | true =>
        cases assigned? ((d :: cs).dropWhile inKey) with
        | none => rfl
        | some p =>
            simp only [if_true, Option.bind_eq_bind, Option.bind_some]
            cases declaration? ((d :: cs).takeWhile inKey) p.1 <;> rfl

/-- The byte that comes next decides what is read in a round. -/
theorem run_round (a : Attributes) (c : ByteCursor) :
    (round s a).run c = StateT.run (match c.skipSpacing.peek with
      | none => throw .malformed
      | some b =>
        if b = byte '}' then do
          modify fun c => c.next.2
          return .done a
        else if b = byte '{' then throw .malformed
        else if b = byte '#' then identifier s a
        else if b = byte '.' then className s a
        else pair s a) c.skipSpacing := rfl

theorem yields_round (a : Attributes) (h : At s c rest) :
    Yields s ((round s a).run c) (roundOf a (rest.dropWhile Text.isSpacing)) := by
  have hat := h.skipSpacing
  rw [run_round]
  generalize rest.dropWhile Text.isSpacing = cs at hat ⊢
  generalize c.skipSpacing = c at hat ⊢
  cases cs with
  | nil =>
      rw [hat.peek_nil]
      exact .malformed
  | cons d cs =>
      rcases hat.peek_cons with ⟨b, hb, hpeek⟩
      rw [hpeek]
      dsimp only
      -- Both rounds decide in the same order, so one case split does for the two.
      simp only [byte, Text.eq_toUInt8_iff (d := '}') (by decide) hb,
        Text.eq_toUInt8_iff (d := '{') (by decide) hb,
        Text.eq_toUInt8_iff (d := '#') (by decide) hb,
        Text.eq_toUInt8_iff (d := '.') (by decide) hb]
      by_cases hclose : d = '}'
      · subst hclose
        exact .read (hat.next (by decide))
      by_cases hopen : d = '{'
      · subst hopen
        exact .malformed
      by_cases hid : d = '#'
      · subst hid
        exact yields_identifier a hat
      by_cases hclass : d = '.'
      · subst hclass
        exact yields_className a hat
      · rw [if_neg hclose, if_neg hopen, if_neg hid, if_neg hclass,
          roundOf_pair a hclose hopen hid hclass]
        exact yields_pair a hat

end Anchormark.BlockScanner
