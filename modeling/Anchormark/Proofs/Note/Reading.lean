import Anchormark.Proofs.Markdown.LineReading
import Anchormark.Proofs.Note.Writing

/-!
# Reading a Line of a Note

The pieces of a line are known from its atoms. A bare character joins the text in progress, a
backslash ends that and begins a new one behind itself, and an anchor leaves its two brackets
behind; what is in parentheses and in braces is text as far as the line is concerned.

The line ends with a soft break, since no blank stands before the line feed, and backslashes only
stand there in pairs.

## Main definitions

* `flushed`, `pieces`: the pieces of a line.

## Theorems

* `readFrom_inert`: What is no markup is passed over.
* `readFrom_atoms`: The atoms are read one by one.
* `readLine_atoms`: A whole line.
-/

namespace Anchormark.Markdown

/-- The text in progress that began at index `start`, ended before index `i`. -/
def flushed (start i : Nat) : List Piece :=
  if start < i then [⟨.text, start, i⟩] else []

/-- The pieces of the atoms at index `i`, with text in progress that began at index `start`. A
    backtick is a piece of its own. -/
def pieces (start i : Nat) : List Atom → List Piece
  | [] => flushed start i
  | .bare _ :: rest => pieces start (i + 1) rest
  | .escaped c :: rest =>
    flushed start i ++
      if c = '\x60' then ⟨.backticks 1 true, i + 1, i + 2⟩ :: pieces (i + 2) (i + 2) rest
      else pieces (i + 1) (i + 2) rest
  | .anchor id :: rest =>
    flushed start i ++ ⟨.openBracket, i, i + 1⟩ :: ⟨.closeBracket true, i + 1, i + 2⟩ ::
      pieces (i + 2) (i + 4 + (idChars id).length) rest

@[simp] theorem flushed_self (i : Nat) : flushed i i = [] :=
  if_neg (Nat.lt_irrefl i)

theorem reverse_flush (s : LineState) (i : Nat) :
    (s.flush i).pieces.reverse = s.pieces.reverse ++ flushed s.textStart i := by
  rw [LineState.flush, flushed]
  split
  · rw [List.reverse_cons]
  · rw [List.append_nil]

theorem reverse_add (s : LineState) (kind : PieceKind) (start stop : Nat) :
    (s.add kind start stop).pieces.reverse =
      s.pieces.reverse ++ (flushed s.textStart start ++ [⟨kind, start, stop⟩]) := by
  rw [LineState.add, List.reverse_cons, reverse_flush, List.append_assoc]

theorem pipes_flush (s : LineState) (i : Nat) : (s.flush i).pipes = s.pipes := by
  rw [LineState.flush]
  split <;> rfl

/-- A line feed behind the line makes markup of nothing in it. -/
theorem isInert_line {before : Option Char} {c : Char} {line : List Char}
    (h : Anchormark.isInert before c line = true) (tail : List Char) :
    Anchormark.isInert before c (line ++ '\n' :: tail) = true := by
  unfold Anchormark.isInert at h ⊢
  split at h
  · next hmark =>
      rw [if_pos hmark]
      cases line with
      | nil =>
          rw [Bool.and_eq_true] at h
          cases h.2
      | cons d line => exact h
  · next hmark =>
      rw [if_neg hmark]
      split at h
      · next hand =>
          rw [if_pos hand]
          -- The line feed ends the name of a reference, and it is no semicolon.
          rw [decide_eq_true_eq] at h ⊢
          rw [List.dropWhile_append]
          split
          · rw [List.dropWhile_cons_of_neg (by decide), List.head?_cons]
            decide
          · next hrest =>
              rw [List.isEmpty_iff] at hrest
              rwa [List.head?_append_of_ne_nil _ hrest]
      · next hand =>
          rw [if_neg hand]
          split at h
          · next himage =>
              rw [if_pos himage]
              rw [decide_eq_true_eq] at h ⊢
              cases line with
              | nil => exact fun h => absurd (Option.some.inj h) (by decide)
              | cons d line => exact h
          · next himage => rwa [if_neg himage]

theorem areInert_line {before : Option Char} {cs line : List Char}
    (h : areInert before cs line = true) (tail : List Char) :
    areInert before cs (line ++ '\n' :: tail) = true := by
  induction cs generalizing before with
  | nil => rfl
  | cons c cs ih =>
      rw [areInert, Bool.and_eq_true] at h ⊢
      rw [← List.append_assoc]
      exact ⟨isInert_line h.1 tail, ih h.2⟩

/-- An ampersand begins a reference only if a semicolon ends the name behind it. -/
theorem reference?_eq_none {rest : List Char}
    (h : (rest.dropWhile fun d => d.isAlphanum || d = '#').head? ≠ some ';') :
    reference? ('&' :: rest) = none := by
  cases href : reference? ('&' :: rest) with
  | none => rfl
  | some found =>
      rcases exists_isReference_of_reference? href with
        ⟨_, behind, hwritten, -, ⟨name, rfl, -, hname⟩, -⟩
      have hrest : rest = name ++ ';' :: behind := by
        rw [(List.cons.inj hwritten).2, List.append_eq, List.append_assoc]
        rfl
      rw [hrest, List.dropWhile_append_of_pos (by simpa using hname),
        List.dropWhile_cons_of_neg (by decide)] at h
      exact absurd rfl h

/-- Reading a line has come to index `i`, where the characters `cs` begin. The character before them,
    if it belongs to the line, is `before`. -/
structure LineContext.At (ctx : LineContext) (i : Nat) (before : Option Char) (cs : List Char) :
    Prop where
  text : ctx.text.drop i = cs
  start : ctx.start ≤ i
  behind : ctx.before? i = before

namespace LineContext

variable {ctx : LineContext} {i : Nat} {before : Option Char} {c : Char} {cs rest : List Char}

/-- The line goes on behind a character. -/
theorem At.next (h : ctx.At i before (c :: rest)) : ctx.At (i + 1) (some c) rest where
  text := by rw [← List.drop_drop, h.text, List.drop_one, List.tail_cons]
  start := Nat.le_succ_of_le h.start
  behind := by
    rw [before?, if_pos (Nat.lt_succ_of_le h.start), Nat.add_sub_cancel, ← List.head?_drop, h.text,
      List.head?_cons]

/-- And behind several of them. -/
theorem At.skip (h : ctx.At i before (cs ++ c :: rest)) :
    ctx.At (i + cs.length + 1) (some c) rest := by
  have hlast : ctx.At (i + cs.length) (ctx.before? (i + cs.length)) (c :: rest) :=
    ⟨by rw [← List.drop_drop, h.text, List.drop_left], Nat.le_add_right_of_le h.start, rfl⟩
  exact hlast.next

/-- And behind an anchor. -/
theorem At.anchor {id : String} (h : ctx.At i before (Atom.written (.anchor id) ++ rest)) :
    ctx.At (i + 4 + (idChars id).length) (some '\x7d') rest := by
  have hid : Atom.written (.anchor id) ++ rest =
      '[' :: ']' :: '(' :: ')' :: (('\x7b' :: '#' :: id.toList) ++ '\x7d' :: rest) := by
    rw [Atom.written, idChars]
    simp only [List.cons_append, List.append_assoc, List.nil_append]
  have hlength : (idChars id).length = ('\x7b' :: '#' :: id.toList).length + 1 := by
    simp only [idChars, List.length_cons, List.length_append, List.length_nil]
  rw [hid] at h
  rw [hlength]
  exact h.next.next.next.next.skip

end LineContext

section Inert

variable (ctx : LineContext) (hmode : ctx.mode ≠ .cell)
include hmode

/-- A mark inside a word neither opens nor closes anything. -/
theorem canOpen_canClose_word {c : Char} (hc : c ≠ '*') {i : Nat} {next? : Option Char}
    (hbefore : (ctx.before? i).any inWord = true) (hnext : next?.any inWord = true) :
    ctx.canOpen c 1 i next? = false ∧ ctx.canClose c 1 i next? = false := by
  rcases (Option.any_eq_true _ _).mp hbefore with ⟨b, hb, hbword⟩
  rcases (Option.any_eq_true _ _).mp hnext with ⟨n, rfl, hnword⟩
  have htilde : b ≠ '~' := by
    rintro rfl
    exact absurd hbword (by decide)
  rw [inWord, Bool.and_eq_true, Bool.not_eq_true', Bool.not_eq_true'] at hbword hnword
  rw [LineContext.canOpen, LineContext.canClose, LineContext.behindPipe, hb]
  simp only [hmode, hc, hbword, hnword, htilde, Nat.lt_irrefl, decide_false, Bool.false_and,
    Bool.and_false, Bool.or_false, Bool.not_false, and_self]

/-- What is no markup is passed over. -/
theorem readFrom_inert {i : Nat} {c : Char} {rest : List Char}
    (h : isInert (ctx.before? i) c rest = true) (s : LineState) :
    readFrom ctx s 0 i (c :: rest) = readFrom ctx s 0 (i + 1) rest := by
  -- First the characters go that are markup wherever they stand.
  have hplain := not_mem_of_isInert h
  simp only [List.mem_cons, List.not_mem_nil, or_false, not_or] at hplain
  rcases hplain with ⟨hlf, hcr, hslash, hstar, htick, hless, hopen, hclose, hpipe⟩
  rw [isInert] at h
  rw [readFrom.eq_def]
  simp only [hlf, hcr, hslash, hstar, htick, hless, hopen, hclose, hpipe, decide_false,
    Bool.or_false, Bool.false_or, Bool.false_and, Bool.false_eq_true, if_false]
  by_cases hmark : c = '_' ∨ c = '~'
  · rw [if_pos (by simpa using hmark), Bool.and_eq_true] at h
    rcases (Option.any_eq_true _ _).mp h.2 with ⟨n, hn, hnword⟩
    -- The run ends with its first mark, since a mark is no part of a word.
    have hnext : n ≠ c := by
      rintro rfl
      rcases hmark with rfl | rfl <;> exact absurd hnword (by decide)
    have hcount : countWhile (· = c) rest = 0 :=
      countWhile_eq_zero (by rw [hn]; exact fun heq => hnext (Option.some.inj heq))
    have hhead : rest[0]? = rest.head? := List.head?_eq_getElem?.symm
    have hnone := canOpen_canClose_word ctx hmode hstar h.1 h.2
    have hand : c ≠ '&' ∧ c ≠ '!' := by
      rcases hmark with rfl | rfl <;> decide
    simp only [hcount, Nat.add_zero, Nat.sub_self, hhead, hnone, hand, Bool.or_self,
      Bool.false_and, Bool.false_eq_true, if_false, decide_false, ite_self]
  · rw [not_or] at hmark
    simp only [hmark, decide_false, Bool.or_self, Bool.false_and, Bool.false_eq_true, if_false]
      at h ⊢
    by_cases hand : c = '&'
    · subst hand
      rw [if_pos rfl, decide_eq_true_eq] at h
      simp only [reference?_eq_none h, Char.reduceEq, decide_false, Bool.false_and,
        Bool.false_eq_true, if_false, if_true]
    · have himage : ¬ (decide (c = '!') && decide (rest.head? = some '[')) = true := by
        rw [Bool.and_eq_true, decide_eq_true_eq, decide_eq_true_eq]
        rintro ⟨rfl, hbracket⟩
        rw [if_neg hand, if_pos rfl, decide_eq_true_eq] at h
        exact h hbracket
      rw [if_neg himage, if_neg hand]

/-- So are several of them. -/
theorem readFrom_areInert {i : Nat} {before : Option Char} {cs rest : List Char}
    (hat : ctx.At i before (cs ++ rest)) (h : areInert before cs rest = true) (s : LineState) :
    readFrom ctx s 0 i (cs ++ rest) = readFrom ctx s 0 (i + cs.length) rest := by
  induction cs generalizing i before with
  | nil => rfl
  | cons c cs ih =>
      rw [areInert, Bool.and_eq_true, ← hat.behind] at h
      rw [List.cons_append, readFrom_inert ctx hmode h.1, ih hat.next h.2, List.length_cons,
        Nat.add_assoc, Nat.add_comm 1]

end Inert

/-- No blank stands at index `stop`, and no backslash that is not one of a pair: the line ends there
    with a soft break. -/
structure LineContext.EndsPlain (ctx : LineContext) (stop : Nat) : Prop where
  blanks : ctx.countBefore Text.isLineBlank stop = 0
  slashes : ctx.countBefore (· = '\\') stop % 2 = 0

section Atoms

variable (ctx : LineContext) (hmode : ctx.mode ≠ .cell)
include hmode

/-- At its end the line gets a soft break. -/
theorem endLine_plain {i : Nat} (hends : ctx.EndsPlain i) {s : LineState} (hpipes : s.pipes = 0)
    (tail : List Char) :
    readFrom ctx s 0 i ('\n' :: tail) =
      ⟨s.pieces.reverse ++ flushed s.textStart i, i + 1, .piece ⟨.softBreak, i, i + 1⟩⟩ := by
  rw [readFrom.eq_def]
  simp only [decide_true, Bool.true_or, if_true, hmode, if_false, endLine, hends.blanks,
    hends.slashes, lineEnd?, Option.getD_some, LineContext.tableBelow?, hpipes, Nat.lt_irrefl,
    decide_false, Bool.and_false, Bool.false_eq_true, Nat.reduceEqDiff, Bool.false_and,
    Nat.sub_zero, LineState.finish, reverse_flush]
  rfl

omit hmode in
/-- Behind an atom there is no bare backtick. -/
theorem head_ne_tick {before : Option Char} {as : List Atom} (h : readsBack before as = true)
    (tail : List Char) : (spell as ++ '\n' :: tail).head? ≠ some '\x60' := by
  intro htick
  cases as with
  | nil => exact absurd (Option.some.inj htick) (by decide)
  | cons a as =>
      cases a with
      | bare c =>
          rw [readsBack, Bool.and_eq_true] at h
          cases Option.some.inj htick
          exact absurd (not_mem_of_isInert h.1) (by decide)
      | escaped c => exact absurd (Option.some.inj htick) (by decide)
      | anchor id => exact absurd (Option.some.inj htick) (by decide)

/-- A character behind a backslash begins a new text, and a backtick is a piece by itself. -/
theorem readFrom_escapedAtom {i : Nat} {c : Char} (hc : Text.isAsciiPunctuation c = true)
    {rest : List Char} (hrest : rest.head? ≠ some '\x60') (s : LineState) :
    ∃ t : LineState, readFrom ctx s 0 i ('\\' :: c :: rest) = readFrom ctx t 0 (i + 2) rest ∧
      t.textStart = (if c = '\x60' then i + 2 else i + 1) ∧ t.pipes = s.pipes ∧
      t.pieces.reverse = s.pieces.reverse ++ (flushed s.textStart i ++
        if c = '\x60' then [⟨.backticks 1 true, i + 1, i + 2⟩] else []) := by
  by_cases htick : c = '\x60'
  · subst htick
    have hturn := readFrom_escapedTicks ctx s i rest
    rw [countWhile_eq_zero hrest] at hturn
    refine ⟨_, hturn, rfl, ?_, ?_⟩
    · exact (pipes_flush _ _).trans (pipes_flush _ _)
    · have hnone : flushed (i + 1) (i + 1) = [] := flushed_self _
      rw [reverse_add, reverse_flush, if_pos rfl, List.append_assoc, hnone]
      rfl
  · refine ⟨_, readFrom_escaped ctx s i rest hmode htick hc, ?_, pipes_flush s i, ?_⟩
    · rw [if_neg htick]
    · rw [if_neg htick, List.append_nil]
      exact reverse_flush s i

/-- An anchor leaves its brackets behind. -/
theorem readFrom_anchor {i : Nat} {before : Option Char} {id : String} {rest : List Char}
    (hat : ctx.At i before (Atom.written (.anchor id) ++ rest))
    (hid : areInert (some ')') (idChars id) rest = true) (s : LineState) :
    ∃ t : LineState, readFrom ctx s 0 i (Atom.written (.anchor id) ++ rest) =
        readFrom ctx t 0 (i + 4 + (idChars id).length) rest ∧
      t.textStart = i + 2 ∧ t.pipes = s.pipes ∧
      t.pieces.reverse = s.pieces.reverse ++
        (flushed s.textStart i ++ [⟨.openBracket, i, i + 1⟩, ⟨.closeBracket true, i + 1, i + 2⟩]) := by
  have hbehind := hat.next.next
  have hopen := readFrom_openBracket ctx s i (']' :: '(' :: ')' :: (idChars id ++ rest))
  refine ⟨(s.add .openBracket i (i + 1)).add (.closeBracket true) (i + 1) (i + 2), ?_, rfl, ?_, ?_⟩
  · refine (hopen.trans (readFrom_closeBracket ctx _ _ _)).trans ?_
    rw [readFrom_inert ctx hmode (c := '(') rfl, readFrom_inert ctx hmode (c := ')') rfl]
    exact readFrom_areInert ctx hmode hbehind.next.next hid _
  · exact (pipes_flush _ _).trans (pipes_flush _ _)
  · have hnone : flushed (i + 1) (i + 1) = [] := flushed_self _
    rw [reverse_add, reverse_add, LineState.add, hnone]
    simp only [List.append_assoc, List.nil_append, List.cons_append]

/-- The atoms are read one by one, up to the end of the line. The induction is on the atoms. -/
theorem readFrom_atoms {as : List Atom} {i : Nat} {before : Option Char} {tail : List Char}
    (hat : ctx.At i before (spell as ++ '\n' :: tail)) (h : readsBack before as = true)
    (hends : ctx.EndsPlain (i + (spell as).length)) {s : LineState} (hpipes : s.pipes = 0) :
    let stop := i + (spell as).length
    readFrom ctx s 0 i (spell as ++ '\n' :: tail) =
      ⟨s.pieces.reverse ++ pieces s.textStart i as, stop + 1,
        .piece ⟨.softBreak, stop, stop + 1⟩⟩ := by
  induction as generalizing i before s with
  | nil => exact endLine_plain ctx hmode hends hpipes tail
  | cons a as ih =>
      intro stop
      cases a with
      | bare c =>
          rw [readsBack, Bool.and_eq_true] at h
          have hstop : stop = i + 1 + (spell as).length := by
            simp only [stop, spell_cons, Atom.written, List.length_append, List.length_singleton]
            omega
          -- The line feed stands for what is behind the line, and it begins no markup.
          have hinert : isInert (ctx.before? i) c (spell as ++ '\n' :: tail) = true := by
            rw [hat.behind]
            exact isInert_line h.1 tail
          refine (readFrom_inert ctx hmode hinert s).trans ?_
          rw [ih hat.next h.2 (hstop ▸ hends) hpipes, hstop]
          rfl
      | escaped c =>
          rw [readsBack, Bool.and_eq_true] at h
          have hstop : stop = i + 2 + (spell as).length := by
            simp only [stop, spell_cons, Atom.written, List.length_append, List.length_cons,
              List.length_nil]
            omega
          -- A backslash ends the text before it, and the text begins again behind it.
          rcases readFrom_escapedAtom ctx hmode (i := i) h.1 (head_ne_tick h.2 tail) s with
            ⟨t, hread, hstart, htpipes, hpieces⟩
          refine Eq.trans hread ?_
          have hbehind : ctx.At (i + 2) (some c) (spell as ++ '\n' :: tail) := hat.next.next
          rw [ih hbehind h.2 (hstop ▸ hends) (htpipes.trans hpipes), hstop, hpieces, hstart, pieces]
          split <;> simp only [List.append_assoc, List.append_nil, List.cons_append, List.nil_append]
      | anchor id =>
          rw [readsBack, Bool.and_eq_true] at h
          have hstop : stop = i + 4 + (idChars id).length + (spell as).length := by
            simp only [stop, spell_cons, Atom.written, List.length_append, List.length_cons]
            omega
          have hwritten : spell (.anchor id :: as) ++ '\n' :: tail =
              Atom.written (.anchor id) ++ (spell as ++ '\n' :: tail) := by
            rw [spell_cons, List.append_assoc]
          rw [hwritten] at hat ⊢
          -- The four characters of the link are four turns; its block is plain text.
          rcases readFrom_anchor ctx hmode hat (areInert_line h.1 tail) s with
            ⟨t, hread, hstart, htpipes, hpieces⟩
          rw [hread, ih hat.anchor h.2 (hstop ▸ hends) (htpipes.trans hpipes), hstop, hpieces, hstart,
            pieces]
          simp only [List.append_assoc, List.cons_append, List.nil_append]

end Atoms

/-- A bare character is no backslash. -/
theorem slash_not_mem {before : Option Char} {as : List Atom} (h : readsBack before as = true) :
    .bare '\\' ∉ as := by
  induction as generalizing before with
  | nil => exact List.not_mem_nil
  | cons a as ih =>
      rw [List.mem_cons, not_or]
      cases a with
      | bare c =>
          rw [readsBack, Bool.and_eq_true] at h
          refine ⟨?_, ih h.2⟩
          rintro ⟨rfl⟩
          exact absurd (not_mem_of_isInert h.1) (by decide)
      | escaped c =>
          rw [readsBack, Bool.and_eq_true] at h
          exact ⟨Atom.noConfusion, ih h.2⟩
      | anchor id =>
          rw [readsBack, Bool.and_eq_true] at h
          exact ⟨Atom.noConfusion, ih h.2⟩

/-- So backslashes at the end of a line are pairs. The induction goes on from the end of the line. -/
theorem even_slashes {as : List Atom} (h : .bare '\\' ∉ as) {front : List Char}
    (hfront : front.getLast? ≠ some '\\') :
    countWhile (· = '\\') (front ++ spell as).reverse % 2 = 0 := by
  have hother {c : Char} (hc : c ≠ '\\') (cs : List Char) :
      countWhile (· = '\\') (c :: cs) % 2 = 0 := by
    rw [countWhile_eq_zero (by rw [List.head?_cons]; exact fun heq => hc (Option.some.inj heq))]
  induction as using List.reverseRecOn with
  | nil =>
      rw [spell_nil, List.append_nil, countWhile_eq_zero]
      rwa [List.head?_reverse]
  | append_singleton as a ih =>
      rw [List.mem_append, not_or] at h
      rw [spell_append, ← List.append_assoc, List.reverse_append]
      cases a with
      | bare c =>
          exact hother (fun hc => h.2 (hc ▸ List.mem_singleton_self _)) _
      | escaped c =>
          by_cases hc : c = '\\'
          · subst hc
            -- A backslash that is escaped adds two.
            have hpair : countWhile (· = '\\') ('\\' :: '\\' :: (front ++ spell as).reverse) =
                countWhile (· = '\\') (front ++ spell as).reverse + 2 := rfl
            refine (congrArg (· % 2) hpair).trans ?_
            rw [Nat.add_mod_right]
            exact ih h.1
          · exact hother hc _
      | anchor id =>
          -- An anchor ends with its closing brace.
          have hlast : spell [.anchor id] =
              ('[' :: ']' :: '(' :: ')' :: '\x7b' :: '#' :: id.toList) ++ ['\x7d'] := by
            rw [spell_cons, spell_nil, List.append_nil, Atom.written, idChars]
            simp only [List.cons_append]
          rw [hlast, List.reverse_append, List.reverse_singleton, List.singleton_append]
          exact hother (by decide) _

/-- A line that does not end with a blank ends with a soft break. -/
theorem endsPlain_atoms (ctx : LineContext) {before : Option Char} {as : List Atom} {i : Nat}
    {tail : List Char} (htext : ctx.text.drop i = spell as ++ tail)
    (h : readsBack before as = true) (hne : spell as ≠ []) (hends : endsText as = true)
    (hfront : (ctx.text.take i).getLast? ≠ some '\\') : ctx.EndsPlain (i + (spell as).length) := by
  have htake : ctx.text.take (i + (spell as).length) = ctx.text.take i ++ spell as := by
    rw [List.take_add, htext, List.take_left]
  constructor
  · rw [LineContext.countBefore, htake, List.reverse_append]
    rcases List.eq_nil_or_concat (spell as) with hnil | ⟨init, c, hsplit⟩
    · exact absurd hnil hne
    · rw [List.concat_eq_append] at hsplit
      rw [endsText, hsplit, List.getLast?_concat, Option.any_some, Bool.not_eq_true'] at hends
      rw [hsplit, List.reverse_append, List.reverse_singleton, List.singleton_append,
        List.cons_append, countWhile, List.takeWhile_cons_of_neg (by simp [hends]), List.length_nil]
  · rw [LineContext.countBefore, htake]
    exact even_slashes (slash_not_mem h) hfront

/-- A line is read as its pieces, with a soft break behind them. -/
theorem readLine_atoms (ctx : LineContext) (hmode : ctx.mode ≠ .cell) {as : List Atom}
    {tail : List Char} (htext : ctx.text.drop ctx.start = spell as ++ '\n' :: tail)
    (h : readsBack none as = true) (hne : spell as ≠ []) (hends : endsText as = true)
    (hfront : (ctx.text.take ctx.start).getLast? ≠ some '\\') :
    let stop := ctx.start + (spell as).length
    readLine ctx = ⟨pieces ctx.start ctx.start as, stop + 1,
      .piece ⟨.softBreak, stop, stop + 1⟩⟩ := by
  intro stop
  have hat : ctx.At ctx.start none (spell as ++ '\n' :: tail) :=
    ⟨htext, Nat.le_refl _, if_neg (Nat.lt_irrefl _)⟩
  rw [readLine, htext]
  exact readFrom_atoms ctx hmode hat h (endsPlain_atoms ctx htext h hne hends hfront) rfl

end Anchormark.Markdown
