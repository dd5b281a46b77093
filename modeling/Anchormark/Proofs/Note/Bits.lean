import Anchormark.Proofs.Markdown.Settling
import Anchormark.Proofs.Markdown.Targets
import Anchormark.Proofs.Note.Reading

/-!
# The Running Text of a Note

From the pieces of its lines, both passes over running text make *bits*: stretches of text, line
feeds, and links with nothing to them. The brackets of an anchor become such a link, since an empty
target stands behind them, and the block in braces is the text behind the link. No emphasis is found,
since there are no marks.

## Main definitions

* `Bit`: a part of the running text of a note.
* `bits`, `lineBits`: the bits of a line, and of several lines.
* `linePieces`: the pieces of several lines.

## Theorems

* `settleFrom_pieces`: The first pass makes bits of pieces.
* `settleEmphasis_bits`: The second pass leaves them as they are.
* `textEvents_lines`: The events of several lines.
-/

namespace Anchormark.Markdown

/-- A part of running text: some characters, a line feed, or a link without text, destination and
    title, which takes up four characters. Each begins at an index of the document. -/
inductive Bit
  | text (start : Nat) (cs : List Char)
  | feed (start : Nat)
  | link (start : Nat)

namespace Bit

/-- The element that the bit is. -/
def inline : Bit → Inline
  | text start cs => .leaf start (start + cs.length) (.text (String.ofList cs))
  | feed start => .leaf start (start + 1) .softBreak
  | link start => .group start (start + 4) (.link .inline "" "") []

/-- The events of the bit. -/
def events : Bit → List Located
  | text start cs => [(.text (String.ofList cs), start, start + cs.length)]
  | feed start => [(.softBreak, start, start + 1)]
  | link start => enclose (.link .inline "" "") start (start + 4) []

end Bit

/-- The text in progress that began at index `start`. -/
def flushedBit (start : Nat) (cs : List Char) : List Bit :=
  if cs.isEmpty then [] else [.text start cs]

/-- The bits of some atoms, with the characters `cs` of the text in progress before them, which began
    at index `start`. -/
def bits (start : Nat) (cs : List Char) : List Atom → List Bit
  | [] => flushedBit start cs
  | .bare c :: rest => bits start (cs ++ [c]) rest
  | .escaped c :: rest =>
    let i := start + cs.length
    flushedBit start cs ++
      if c = '\x60' then .text (i + 1) [c] :: bits (i + 2) [] rest else bits (i + 1) [c] rest
  | .anchor id :: rest =>
    let i := start + cs.length
    flushedBit start cs ++ .link i :: bits (i + 4) (idChars id) rest

/-- The pieces of lines, the first of which begins at index `i`, with a margin before the others. -/
def linePieces (margin i : Nat) : List (List Atom) → List Piece
  | [] => []
  | [as] => pieces i i as
  | as :: next :: rest =>
    let stop := i + (spell as).length
    pieces i i as ++ ⟨.softBreak, stop, stop + 1⟩ :: linePieces margin (stop + 1 + margin) (next :: rest)

/-- The bits of such lines. -/
def lineBits (margin i : Nat) : List (List Atom) → List Bit
  | [] => []
  | [as] => bits i [] as
  | as :: next :: rest =>
    let stop := i + (spell as).length
    bits i [] as ++ .feed stop :: lineBits margin (stop + 1 + margin) (next :: rest)

/-- Text in progress is the first piece, wherever it began. -/
theorem exists_pieces (as : List Atom) (i : Nat) :
    ∃ stop rest, i ≤ stop ∧ ∀ start < i, pieces start i as = ⟨.text, start, stop⟩ :: rest := by
  induction as generalizing i with
  | nil => exact ⟨i, [], Nat.le_refl i, fun start hstart => if_pos hstart⟩
  | cons a as ih =>
      cases a with
      | bare c =>
          rcases ih (i + 1) with ⟨stop, rest, hstop, hpieces⟩
          exact ⟨stop, rest, Nat.le_of_succ_le hstop, fun start hstart =>
            hpieces start (Nat.lt_succ_of_lt hstart)⟩
      | escaped c =>
          refine ⟨i, if c = '\x60' then ⟨.backticks 1 true, i + 1, i + 2⟩ :: pieces (i + 2) (i + 2) as
            else pieces (i + 1) (i + 2) as, Nat.le_refl i, fun start hstart => ?_⟩
          rw [pieces, flushed, if_pos hstart, List.singleton_append]
      | anchor id =>
          refine ⟨i, ⟨.openBracket, i, i + 1⟩ :: ⟨.closeBracket true, i + 1, i + 2⟩ ::
            pieces (i + 2) (i + 4 + (idChars id).length) as, Nat.le_refl i, fun start hstart => ?_⟩
          rw [pieces, flushed, if_pos hstart, List.singleton_append]

/-- A construct that ends within the text in progress takes what is before its end. -/
theorem piecesFrom_pieces {as : List Atom} {start m i : Nat} (hstart : start ≤ m) (hm : m < i)
    (more : List Piece) : piecesFrom m (pieces start i as ++ more) = pieces m i as ++ more := by
  rcases exists_pieces as i with ⟨stop, rest, hstop, hpieces⟩
  rw [hpieces start (Nat.lt_of_le_of_lt hstart hm), hpieces m hm, piecesFrom, List.cons_append,
    List.dropWhile_cons_of_neg (by simpa using Nat.lt_of_lt_of_le hm hstop)]
  simp only [Nat.max_eq_right hstart, List.cons_append]

/-- An empty pair of parentheses is a target without destination and title. -/
theorem inlineTarget?_empty (ctx : InlineContext) {i : Nat} {rest : List Char}
    (hafter : ctx.after i = '(' :: ')' :: rest) (ps : List Piece) :
    ctx.inlineTarget? i ps = some ([], [], i + 2) := by
  have hgap : ctx.skipGap (')' :: rest) = ')' :: rest :=
    skipGap_append ctx (List.forall_mem_nil _) (by decide) (by decide) rest
  have hdest : destination? (')' :: rest) = some ([], ')' :: rest) := rfl
  have hindex : ctx.index rest = i + 2 := by
    have hlength := congrArg List.length hafter
    rw [InlineContext.after, List.length_drop, List.length_cons, List.length_cons] at hlength
    rw [InlineContext.index]
    omega
  rw [InlineContext.inlineTarget?, hafter]
  simp only [Option.bind_eq_bind, Option.bind_some, hgap, hdest]
  simp [closingDelimiter?, hindex]
  rfl

/-- The first pass makes these bits of these pieces, whatever stands before and behind them. -/
def Settles (ctx : InlineContext) (ps : List Piece) (bs : List Bit) : Prop :=
  ∀ limit items more, settleFrom ctx (ps.length + limit) { items } (ps ++ more) =
    settleFrom ctx limit { items := (bs.map Bit.inline).reverse ++ items } more

section Settles

variable {ctx : InlineContext}

theorem Settles.nil : Settles ctx [] [] := by
  intro limit items more
  rw [List.length_nil, Nat.zero_add]
  rfl

/-- One part after another. -/
theorem Settles.append {ps ps' : List Piece} {bs bs' : List Bit} (h : Settles ctx ps bs)
    (h' : Settles ctx ps' bs') : Settles ctx (ps ++ ps') (bs ++ bs') := by
  intro limit items more
  rw [List.length_append, Nat.add_assoc, List.append_assoc, h, h', List.map_append,
    List.reverse_append, List.append_assoc]

/-- A stretch of text that is a piece by itself. -/
theorem Settles.text {kind : PieceKind} (hkind : kind = .text ∨ kind = .backticks 1 true)
    {start : Nat} {cs tail : List Char} (htext : ctx.text.drop start = cs ++ tail) :
    Settles ctx [⟨kind, start, start + cs.length⟩] [.text start cs] := by
  have hslice : ctx.slice start (start + cs.length) = String.ofList cs := by
    rw [InlineContext.slice, htext, Nat.add_sub_cancel_left, List.take_left]
  intro limit items more
  have hplain : settleFrom ctx ([(⟨kind, start, start + cs.length⟩ : Piece)].length + limit) { items }
      ([⟨kind, start, start + cs.length⟩] ++ more) =
        settleFrom ctx limit { items := ctx.plain start (start + cs.length) :: items } more := by
    rw [List.length_singleton, Nat.add_comm]
    rcases hkind with rfl | rfl <;> rfl
  rw [hplain, InlineContext.plain, hslice]
  rfl

/-- The text in progress, if there is any. -/
theorem Settles.flushed {start : Nat} {cs tail : List Char}
    (htext : ctx.text.drop start = cs ++ tail) :
    Settles ctx (flushed start (start + cs.length)) (flushedBit start cs) := by
  cases cs with
  | nil =>
      have hnone : Markdown.flushed start start = [] := flushed_self start
      rw [List.length_nil, Nat.add_zero, hnone]
      exact .nil
  | cons c cs =>
      have hone : Markdown.flushed start (start + (c :: cs).length) =
          [⟨.text, start, start + (c :: cs).length⟩] :=
        if_pos (Nat.lt_add_of_pos_right (Nat.succ_pos _))
      rw [hone]
      exact .text (.inl rfl) htext

/-- The break between two lines. -/
theorem Settles.feed (i : Nat) : Settles ctx [⟨.softBreak, i, i + 1⟩] [.feed i] := by
  intro limit items more
  rw [List.length_singleton, Nat.add_comm]
  rfl

/-- The brackets of an anchor, and the atoms behind it. The link takes the parentheses too, so the
    text in progress begins later than its piece does. -/
theorem Settles.link {i : Nat} {as : List Atom} {rest : List Char} {j : Nat} {bs : List Bit}
    (htext : ctx.text.drop (i + 2) = '(' :: ')' :: rest) (hj : i + 4 < j)
    (h : Settles ctx (pieces (i + 4) j as) bs) :
    Settles ctx (⟨.openBracket, i, i + 1⟩ :: ⟨.closeBracket true, i + 1, i + 2⟩ ::
      pieces (i + 2) j as) (.link i :: bs) := by
  intro limit items more
  -- The first piece of the text begins later then, and the number of pieces is the same.
  have hlength : (pieces (i + 2) j as).length = (pieces (i + 4) j as).length := by
    rcases exists_pieces as j with ⟨stop, others, -, hpieces⟩
    rw [hpieces (i + 2) (by omega), hpieces (i + 4) hj, List.length_cons, List.length_cons]
  set top : OpenBracket := { image := false, start := i, stop := i + 1 }
  have hopen : settleFrom ctx
      ((⟨.openBracket, i, i + 1⟩ :: ⟨.closeBracket true, i + 1, i + 2⟩ ::
        pieces (i + 2) j as : List Piece).length + limit) { items }
      (⟨.openBracket, i, i + 1⟩ :: ⟨.closeBracket true, i + 1, i + 2⟩ ::
        pieces (i + 2) j as ++ more) =
      settleFrom ctx ((pieces (i + 2) j as).length + limit + 1) { brackets := [top], items }
        (⟨.closeBracket true, i + 1, i + 2⟩ :: (pieces (i + 2) j as ++ more)) := by
    rw [List.length_cons, List.length_cons, Nat.add_right_comm, Nat.add_right_comm _ 1 limit]
    rfl
  have hlinked := settleFrom_linked ctx ((pieces (i + 2) j as).length + limit) top rfl rfl (i + 1)
    (i + 2) (inlineTarget?_empty ctx htext (pieces (i + 2) j as ++ more)) items
  rw [hopen, hlinked, piecesFrom_pieces (by omega) hj, hlength, h, List.map_cons, List.reverse_cons,
    List.append_assoc]
  rfl

/-- The first pass makes bits of the pieces of a line. The induction is on the atoms, and the text in
    progress grows with every bare character. -/
theorem settles_pieces {as : List Atom} {start : Nat} {cs tail : List Char}
    (htext : ctx.text.drop start = cs ++ (spell as ++ tail)) :
    Settles ctx (pieces start (start + cs.length) as) (bits start cs as) := by
  induction as generalizing start cs with
  | nil => exact .flushed htext
  | cons a as ih =>
      have hbehind : ctx.text.drop (start + cs.length) = spell (a :: as) ++ tail := by
        rw [← List.drop_drop, htext, List.drop_left]
      cases a with
      | bare c =>
          have hgrown : ctx.text.drop start = (cs ++ [c]) ++ (spell as ++ tail) := by
            rw [htext, List.append_assoc]
            rfl
          have hnext := ih hgrown
          rwa [List.length_append, List.length_singleton, ← Nat.add_assoc] at hnext
      | escaped c =>
          have hnext : ctx.text.drop (start + cs.length + 1) = [c] ++ (spell as ++ tail) := by
            rw [← List.drop_drop, hbehind]
            rfl
          rw [pieces, bits]
          -- The text ends before the backslash. Behind it another one begins, or a backtick.
          refine (Settles.flushed htext).append ?_
          by_cases htick : c = '\x60'
          · have hrest : ctx.text.drop (start + cs.length + 2) = [] ++ (spell as ++ tail) := by
              rw [← List.drop_drop (i := 1), hnext]
              rfl
            rw [if_pos htick, if_pos htick]
            exact (Settles.text (.inr rfl) hnext).append (ih hrest)
          · rw [if_neg htick, if_neg htick]
            exact ih hnext
      | anchor id =>
          -- The target makes a link of the brackets, and the block is text behind it.
          have htarget : ctx.text.drop (start + cs.length + 2) =
              '(' :: ')' :: (idChars id ++ (spell as ++ tail)) := by
            rw [← List.drop_drop, hbehind, spell_cons, List.append_assoc]
            rfl
          have hnext : ctx.text.drop (start + cs.length + 4) = idChars id ++ (spell as ++ tail) := by
            rw [← List.drop_drop (i := 2), htarget]
            rfl
          rw [pieces, bits]
          refine (Settles.flushed htext).append (.link htarget ?_ (ih hnext))
          rw [idChars, List.length_cons]
          omega

/-- What stands behind the first of several lines. -/
theorem drop_spellLines {text : List Char} {margin i : Nat} {as next : List Atom}
    {rest : List (List Atom)} {tail : List Char}
    (htext : text.drop i = spellLines margin (as :: next :: rest) ++ tail) :
    text.drop i = spell as ++ '\n' :: (List.replicate margin ' ' ++
        (spellLines margin (next :: rest) ++ tail)) ∧
      text.drop (i + (spell as).length + 1 + margin) = spellLines margin (next :: rest) ++ tail := by
  have hline : text.drop i = spell as ++ '\n' :: (List.replicate margin ' ' ++
      (spellLines margin (next :: rest) ++ tail)) := by
    rw [htext, spellLines, List.map_cons, List.map_cons, Text.joinWith]
    simp only [List.append_assoc, List.cons_append]
    rfl
  refine ⟨hline, ?_⟩
  rw [← List.drop_drop, ← List.drop_drop, ← List.drop_drop, hline, List.drop_left, List.drop_one,
    List.tail_cons, List.drop_left' List.length_replicate]

/-- The first pass over several lines. -/
theorem settles_linePieces (margin : Nat) {lines : List (List Atom)} {i : Nat} {tail : List Char}
    (htext : ctx.text.drop i = spellLines margin lines ++ tail) :
    Settles ctx (linePieces margin i lines) (lineBits margin i lines) := by
  induction lines generalizing i with
  | nil => exact .nil
  | cons as rest ih =>
      cases rest with
      | nil =>
          have hline : ctx.text.drop i = [] ++ (spell as ++ tail) := htext
          exact settles_pieces hline
      | cons next rest =>
          rcases drop_spellLines htext with ⟨hline, hnext⟩
          have hfirst : ctx.text.drop i = [] ++ (spell as ++ '\n' :: (List.replicate margin ' ' ++
              (spellLines margin (next :: rest) ++ tail))) := hline
          exact (settles_pieces hfirst).append ((Settles.feed _).append (ih hnext))

end Settles

/-- There is no emphasis within a bit. -/
theorem settleAll_bits (bs : List Bit) : settleAll (bs.map Bit.inline) = bs.map Bit.inline := by
  induction bs with
  | nil => rfl
  | cons b bs ih =>
      have hsettle : b.inline.settle = b.inline := by
        cases b <;> rfl
      rw [List.map_cons, settleAll, ih, hsettle]

/-- No bit is a hard break, so none is put back into the backslash that it was. -/
theorem endBackslash_bits (bs : List Bit) :
    endBackslash (bs.map Bit.inline) = bs.map Bit.inline := by
  induction bs with
  | nil => rfl
  | cons b bs ih =>
      rw [List.map_cons, endBackslash, ih]
      intro start stop hbreak
      cases b <;> cases hbreak

/-- Bits are laid on the stack one by one, since none of them is a mark. -/
theorem pairFrom_bits (items : List Inline) (bs : List Bit) :
    pairFrom { items } (bs.map Bit.inline) =
      { items := (bs.map Bit.inline).reverse ++ items } := by
  induction bs generalizing items with
  | nil => rfl
  | cons b bs ih =>
      have hstep : pairFrom { items } (b.inline :: bs.map Bit.inline) =
          pairFrom { items := b.inline :: items } (bs.map Bit.inline) := by
        cases b <;> rfl
      rw [List.map_cons, hstep, ih, List.reverse_cons, List.append_assoc, List.singleton_append]

/-- The second pass leaves the bits as they are: there are no marks to pair. -/
theorem settleEmphasis_bits (markup : Bool) (bs : List Bit) :
    settleEmphasis markup (bs.map Bit.inline) = bs.map Bit.inline := by
  rw [settleEmphasis, settleAll_bits, pairMarks, endBackslash_bits, ite_self, pairFrom_bits,
    closeAll, List.flatMap_nil, List.nil_append, List.append_nil, List.reverse_reverse]

/-- The events of several lines are those of their bits. -/
theorem textEvents_lines (ctx : BlockContext) (containers : List Container) {margin i stop : Nat}
    {lines : List (List Atom)} {tail : List Char}
    (htext : (ctx.document.text.take stop).drop i = spellLines margin lines ++ tail) :
    ctx.textEvents containers false stop (linePieces margin i lines) =
      (lineBits margin i lines).flatMap Bit.events := by
  set inside : InlineContext :=
    ⟨ctx.document.text.take stop, containers, false, ctx.definitions⟩
  have hsettles : Settles inside (linePieces margin i lines) (lineBits margin i lines) :=
    settles_linePieces margin htext
  -- The run ends with the last line, so nothing is behind its pieces and nothing before them.
  have hlinks : settleLinks inside (linePieces margin i lines) =
      (lineBits margin i lines).map Bit.inline := by
    have hrun := hsettles 0 [] []
    rw [Nat.add_zero, List.append_nil, List.append_nil, settleFrom_nil] at hrun
    rw [settleLinks, hrun]
    exact List.reverse_reverse _
  have hevents (bs : List Bit) : inlineEvents (bs.map Bit.inline) = bs.flatMap Bit.events := by
    induction bs with
    | nil => rfl
    | cons b bs ih =>
        have hbit : b.inline.events = b.events := by
          cases b <;> rfl
        rw [List.map_cons, inlineEvents, ih, hbit, List.flatMap_cons]
  rw [BlockContext.textEvents, hlinks, settleEmphasis_bits, hevents]

end Anchormark.Markdown
