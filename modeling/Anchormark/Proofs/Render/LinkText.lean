import Anchormark.Proofs.Markdown.LineReading
import Anchormark.Proofs.Markdown.Settling
import Anchormark.Proofs.Render.TextForm

/-!
# Reading a Written Text within a Line

What is written for a text, up to a closing bracket, is read as pieces that say the text and nothing
else. A character with a backslash begins a new piece behind the backslash. A bare one joins the
text in progress, except for an underscore inside a word. Between symbols that count as letters it
may be a run of marks, which says itself.

The text in progress is not a piece yet, so what has been read is what the pieces say together with
that text. This is what each turn of the loop adds to.

## Main definitions

* `LineState.pending`: the text in progress.
* `Spoke`: what has been read between two states.

## Theorems

* `Spoke.trans`: One part is read after another.
* `Spoke.plain`, `Spoke.drop`, `Spoke.piece`: What is read of one character.
* `readFrom_textForm`: What is written for a text is read as the text.
-/

namespace Anchormark.Markdown

open Escape

/-- The text in progress up to index `i`. -/
def LineState.pending (text : List Char) (s : LineState) (i : Nat) : List Char :=
  (text.take i).drop s.textStart

/-- From the state `s` at index `i` to the state `s'` at index `i'`, inert pieces have been read
    that say `cs`, together with the text in progress before and behind. -/
structure Spoke (text : List Char) (s : LineState) (i : Nat) (s' : LineState) (i' : Nat)
    (cs : List Char) : Prop where
  start : s'.textStart ≤ i'
  said : ∃ new, s'.pieces = new ++ s.pieces ∧ (∀ p ∈ new, p.IsInert) ∧
    new.reverse.flatMap (Piece.spoken text) ++ s'.pending text i' = s.pending text i ++ cs

namespace Spoke

variable {text : List Char} {s s' s'' : LineState} {i i' i'' : Nat} {cs cs' : List Char}

theorem refl (hstart : s.textStart ≤ i) : Spoke text s i s i [] :=
  ⟨hstart, [], rfl, List.forall_mem_nil _, by simp⟩

theorem trans (h : Spoke text s i s' i' cs) (h' : Spoke text s' i' s'' i'' cs') :
    Spoke text s i s'' i'' (cs ++ cs') := by
  rcases h.said with ⟨new, hnew, hinert, hsaid⟩
  rcases h'.said with ⟨new', hnew', hinert', hsaid'⟩
  refine ⟨h'.start, new' ++ new, by rw [hnew', hnew, List.append_assoc],
    List.forall_mem_append.mpr ⟨hinert', hinert⟩, ?_⟩
  rw [List.reverse_append, List.flatMap_append, List.append_assoc, hsaid', ← List.append_assoc,
    hsaid, List.append_assoc]

/-- A character joins the text in progress. -/
theorem plain (hstart : s.textStart ≤ i) (hpieces : s'.pieces = s.pieces)
    (htextStart : s'.textStart = s.textStart) {c : Char} (hc : text[i]? = some c) :
    Spoke text s i s' (i + 1) [c] := by
  refine ⟨by omega, [], hpieces, List.forall_mem_nil _, ?_⟩
  have hlength : i < text.length := (List.getElem?_eq_some_iff.mp hc).1
  rw [LineState.pending, LineState.pending, htextStart, List.take_add_one, hc, Option.toList_some,
    List.drop_append_of_le_length (by rw [List.length_take]; omega)]
  rfl

/-- The text in progress becomes a piece. -/
theorem flush (hstart : s.textStart ≤ i) : Spoke text s i (s.flush i) i [] := by
  rw [LineState.flush]
  split
  · refine ⟨Nat.le_refl i, [⟨.text, s.textStart, i⟩], rfl, ?_, ?_⟩
    · rw [List.forall_mem_singleton]
      exact .inl rfl
    · simp [LineState.pending, Piece.spoken, List.drop_take]
  · exact refl hstart

theorem textStart_flush (hstart : s.textStart ≤ i) : (s.flush i).textStart = i := by
  rw [LineState.flush]
  split
  · rfl
  · omega

/-- A backslash is left out. -/
theorem slash (hstart : s.textStart ≤ i) :
    Spoke text s i { s.flush i with textStart := i + 1 } (i + 1) [] := by
  have hnext : Spoke text (s.flush i) i { s.flush i with textStart := i + 1 } (i + 1) [] := by
    refine ⟨Nat.le_refl _, [], rfl, List.forall_mem_nil _, ?_⟩
    simp [LineState.pending, textStart_flush hstart]
  exact (flush hstart).trans hnext

/-- A piece is read that says a single character. -/
theorem piece (hstart : s.textStart ≤ i) {kind : PieceKind}
    (hinert : Piece.IsInert ⟨kind, i, i + 1⟩) {c : Char}
    (hmeans : Piece.spoken text ⟨kind, i, i + 1⟩ = [c]) :
    Spoke text s i (s.add kind i (i + 1)) (i + 1) [c] := by
  have hnext : Spoke text (s.flush i) i (s.add kind i (i + 1)) (i + 1) [c] := by
    refine ⟨Nat.le_refl _, [⟨kind, i, i + 1⟩], rfl, ?_, ?_⟩
    · rw [List.forall_mem_singleton]
      exact hinert
    · simp [LineState.pending, LineState.add, textStart_flush hstart, hmeans]
  exact (flush hstart).trans hnext

end Spoke

/-- What is written for a text never begins with a bare bracket or backtick, whatever comes behind
    it up to a closing bracket. -/
theorem head_textForm {before : Option Char} {cs written : List Char}
    (h : TextForm before cs written) (rest : List Char) :
    (written ++ ']' :: rest).head? ≠ some '[' ∧ (written ++ ']' :: rest).head? ≠ some '`' := by
  cases h with
  | nil => exact ⟨by simp, by simp⟩
  | @bare _ c _ _ hc _ _ =>
      constructor <;> intro hhead <;> rw [Option.some.inj hhead] at hc <;>
        exact absurd hc (by decide)
  | marked _ _ => exact ⟨by simp, by simp⟩

/-- Behind an underscore inside a word stands no other one. -/
theorem head_ne_of_isIntraword {before before' : Option Char} {cs written : List Char}
    (hword : isIntraword before cs.head? = true) (h : TextForm before' cs written)
    (rest : List Char) : (written ++ ']' :: rest).head? ≠ some '_' := by
  rw [isIntraword, Bool.and_eq_true] at hword
  cases h with
  | nil => exact absurd hword.2 (by decide)
  | bare _ _ _ =>
      intro hhead
      rw [List.head?_cons, Option.some.inj hhead] at hword
      exact absurd hword.2 (by decide)
  | marked _ _ => simp

/-- One character that stands bare. -/
theorem readFrom_bare (ctx : LineContext) (hmode : ctx.mode ≠ .cell) {before : Option Char}
    {c : Char} {cs written rest : List Char} (hc : isAlwaysEscaped c = false)
    (hscore : c = '_' → isIntraword before cs.head? = true) (h : TextForm (some c) cs written)
    (hline : c ≠ '\n' ∧ c ≠ '\r' ∧ c ≠ '&' ∧ c ≠ '~') {s : LineState} {i : Nat}
    (hs : s.textStart ≤ i) (htext : ctx.text[i]? = some c) :
    ∃ s', readFrom ctx s 0 i (c :: (written ++ ']' :: rest)) =
        readFrom ctx s' 0 (i + 1) (written ++ ']' :: rest) ∧
      Spoke ctx.text s i s' (i + 1) [c] := by
  have hne {d : Char} (hd : isAlwaysEscaped d = true) : c ≠ d := by
    rintro rfl
    rw [hc] at hd
    exact Bool.noConfusion hd
  -- Only an underscore can begin a run, and it is alone.
  have hrun (hmark : c = '*' ∨ c = '_' ∨ c = '~') :
      c = '_' ∧ countWhile (· = c) (written ++ ']' :: rest) = 0 := by
    have hunder : c = '_' :=
      (hmark.resolve_left (hne (by decide))).resolve_right hline.2.2.2
    refine ⟨hunder, countWhile_eq_zero ?_⟩
    rw [hunder]
    exact head_ne_of_isIntraword (hscore hunder) h rest
  rcases readFrom_step ctx hmode s i ⟨hline.1, hline.2.1⟩ (written ++ ']' :: rest) with
    ⟨s', skip, hstep, hread⟩
  cases hstep with
  | plain pipes lastPipe =>
      refine ⟨_, hread, .plain hs ?_ ?_ htext⟩ <;> rfl
  | run hmark =>
      rw [(hrun hmark).2] at hread
      exact ⟨_, hread, .plain hs rfl rfl htext⟩
  | marks hmark opens closes =>
      rcases hrun hmark with ⟨rfl, hcount⟩
      rw [hcount] at hread
      refine ⟨_, hread, .piece hs (.inr (.inr ⟨_, _, _, _, rfl⟩)) ?_⟩
      simp [Piece.spoken]
  | escaped hslash _ _ => exact absurd hslash (hne (by decide))
  | ticks htick => exact absurd htick (hne (by decide))
  | escapedTicks hslash _ => exact absurd hslash (hne (by decide))
  | lessThan hless => exact absurd hless (hne (by decide))
  | openBracket hopen => exact absurd hopen (hne (by decide))
  | closeBracket hclose => exact absurd hclose (hne (by decide))
  | openImage _ hbracket =>
      exact absurd (by rw [hbracket]; rfl) (head_textForm h rest).1
  | reference href =>
      rcases exists_isReference_of_reference? href with ⟨_, behind, hwritten, -, ⟨name, rfl, -⟩, -⟩
      exact absurd (List.cons.inj hwritten).1 hline.2.2.1

/-- One character behind a backslash. -/
theorem readFrom_marked (ctx : LineContext) (hmode : ctx.mode ≠ .cell) {c : Char}
    {cs written rest : List Char} (hc : isEscapable c = true) (h : TextForm (some c) cs written)
    {s : LineState} {i : Nat} (hs : s.textStart ≤ i) (htext : ctx.text[i + 1]? = some c) :
    ∃ s', readFrom ctx s 0 i ('\\' :: c :: (written ++ ']' :: rest)) =
        readFrom ctx s' 0 (i + 2) (written ++ ']' :: rest) ∧
      Spoke ctx.text s i s' (i + 2) [c] := by
  have hslash : Spoke ctx.text s i { s.flush i with textStart := i + 1 } (i + 1) [] := .slash hs
  -- A backtick behind a backslash is a piece, and any other character is text.
  by_cases htick : c = '`'
  · subst htick
    have hturn := readFrom_escapedTicks ctx s i (written ++ ']' :: rest)
    rw [countWhile_eq_zero (head_textForm h rest).2] at hturn
    have hmeans : Piece.spoken ctx.text ⟨.backticks 1 true, i + 1, i + 2⟩ = ['`'] := by
      have hlength : i + 2 - (i + 1) = 1 := by omega
      simp [Piece.spoken, hlength, List.take_one, List.head?_drop, htext]
    exact ⟨_, hturn, hslash.trans (.piece (Nat.le_refl _) (.inr (.inl rfl)) hmeans)⟩
  · have hpunct := isAsciiPunctuation_of_isEscapable hc
    refine ⟨_, readFrom_escaped ctx s i _ hmode htick hpunct, ?_⟩
    have hplain : Spoke ctx.text { s.flush i with textStart := i + 1 } (i + 1)
        { s.flush i with textStart := i + 1 } (i + 2) [c] :=
      .plain (Nat.le_refl _) rfl rfl htext
    exact hslash.trans hplain

/-- What is written for a text is read as the text, up to the closing bracket behind it. -/
theorem readFrom_textForm (ctx : LineContext) (hmode : ctx.mode ≠ .cell) {before : Option Char}
    {cs written : List Char} (h : TextForm before cs written)
    (hcs : ∀ c ∈ cs, c ≠ '\n' ∧ c ≠ '\r' ∧ c ≠ '&' ∧ c ≠ '~') {i : Nat} {rest : List Char}
    (htext : ctx.text.drop i = written ++ ']' :: rest) {s : LineState} (hs : s.textStart ≤ i) :
    ∃ s', readFrom ctx s 0 i (written ++ ']' :: rest) =
        readFrom ctx s' 0 (i + written.length) (']' :: rest) ∧
      Spoke ctx.text s i s' (i + written.length) cs := by
  induction h generalizing i s with
  | nil => exact ⟨s, rfl, .refl hs⟩
  | @bare before c cs written hc hscore h ih =>
      rw [List.forall_mem_cons] at hcs
      have hchar : ctx.text[i]? = some c := by
        rw [← List.head?_drop, htext]
        rfl
      have hnext : ctx.text.drop (i + 1) = written ++ ']' :: rest := by
        rw [← List.drop_drop, htext]
        rfl
      -- One character is one turn.
      rcases readFrom_bare ctx hmode hc hscore h hcs.1 hs hchar with ⟨t, hread, hspoke⟩
      rcases ih hcs.2 hnext hspoke.start with ⟨s', hread', hspoke'⟩
      rw [List.length_cons, Nat.add_comm written.length, ← Nat.add_assoc]
      exact ⟨s', hread.trans hread', hspoke.trans hspoke'⟩
  | @marked before c cs written hc h ih =>
      rw [List.forall_mem_cons] at hcs
      have hchar : ctx.text[i + 1]? = some c := by
        rw [← List.head?_drop, ← List.drop_drop, htext]
        rfl
      have hnext : ctx.text.drop (i + 2) = written ++ ']' :: rest := by
        rw [← List.drop_drop, htext]
        rfl
      -- A backslash and the character behind it are one turn and one that is skipped.
      rcases readFrom_marked ctx hmode hc h hs hchar with ⟨t, hread, hspoke⟩
      rcases ih hcs.2 hnext hspoke.start with ⟨s', hread', hspoke'⟩
      rw [List.length_cons, List.length_cons, Nat.add_assoc, Nat.add_comm written.length,
        ← Nat.add_assoc]
      exact ⟨s', hread.trans hread', hspoke.trans hspoke'⟩

end Anchormark.Markdown
