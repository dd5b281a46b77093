import Anchormark.Markdown.Inline
import Anchormark.Markdown.Syntax
import Anchormark.Proofs.Markdown.References

/-!
# Reading along a Line

Reading a line is a loop over its characters. This module says once what a turn of the loop can do
with a character that ends no line, and derives from that what holds of a whole line: the pieces
lie within it, and a line with something on it has a piece.

Some characters are skipped: the rest of a run, what stands behind a backslash, the rest of a
reference. None of these goes beyond the end of the text.

## Main definitions

* `LineStep`: what a turn of the loop can do.
* `LineState.Grows`: what is added between two states.
* `LineContext.ofLine`, `InlineContext.ofLine`: a line by itself.
* `lineItems`: the running text of a line, as far as the first pass settles it.

## Theorems

* `readFrom_step`: A turn of the loop does one of these things.
* `LineStep.grows`, `LineStep.found`: What one turn adds lies within what it has passed, and there
  is something.
* `readFrom_grows`: So it is for a whole line.
* `readFrom_end`: At the end of a line the text in progress is the last piece.
* `readFrom_tail`: So the pieces of the rest of a line come behind those that are there.
-/

namespace Anchormark.Markdown

/-- What reading can do with a character `c` at index `i` that ends no line and has `rest` behind
    it: the state behind it, and how many of the characters of `rest` are skipped. -/
inductive LineStep (s : LineState) (i : Nat) (c : Char) (rest : List Char) :
    LineState → Nat → Prop
  | plain (pipes lastPipe : Nat) : LineStep s i c rest { s with pipes, lastPipe } 0
  /-- A run of marks that neither opens nor closes anything. -/
  | run (hc : c = '*' ∨ c = '_' ∨ c = '~') : LineStep s i c rest s (countWhile (· = c) rest)
  | marks (hc : c = '*' ∨ c = '_' ∨ c = '~') (opens closes : Bool) :
      LineStep s i c rest
        (s.add (.marks c (1 + countWhile (· = c) rest) opens closes) i
          (i + (1 + countWhile (· = c) rest)))
        (countWhile (· = c) rest)
  | escaped (hc : c = '\\') {d : Char} {others : List Char} (hrest : rest = d :: others)
      (hd : d ≠ '`') : LineStep s i c rest { s.flush i with textStart := i + 1 } 1
  | ticks (hc : c = '`') :
      LineStep s i c rest
        (s.add (.backticks (1 + countWhile (· = '`') rest) false) i
          (i + (1 + countWhile (· = '`') rest)))
        (countWhile (· = '`') rest)
  | escapedTicks (hc : c = '\\') {others : List Char} (hrest : rest = '`' :: others) :
      LineStep s i c rest
        (({ s.flush i with textStart := i + 1 } : LineState).add
          (.backticks (1 + countWhile (· = '`') others) true) (i + 1)
          (i + 1 + (1 + countWhile (· = '`') others)))
        (1 + countWhile (· = '`') others)
  | lessThan (hc : c = '<') : LineStep s i c rest (s.add .lessThan i (i + 1)) 0
  | openBracket (hc : c = '[') : LineStep s i c rest (s.add .openBracket i (i + 1)) 0
  | closeBracket (hc : c = ']') : LineStep s i c rest (s.add (.closeBracket true) i (i + 1)) 0
  | openImage (hc : c = '!') {others : List Char} (hrest : rest = '[' :: others) :
      LineStep s i c rest (s.add .openImage i (i + 2)) 1
  | reference {length : Nat} {value : List Char}
      (href : reference? (c :: rest) = some (length, value)) :
      LineStep s i c rest (s.add (.substitute value) i (i + length)) (length - 1)

/-- At a backslash, what stands behind it says which of them it is. -/
theorem readFrom_step_slash (ctx : LineContext) (hmode : ctx.mode ≠ .cell) (s : LineState) (i : Nat)
    (rest : List Char) :
    ∃ s' skip, LineStep s i '\\' rest s' skip ∧
      readFrom ctx s 0 i ('\\' :: rest) = readFrom ctx s' skip (i + 1) rest := by
  rw [readFrom.eq_def]
  dsimp only
  rw [if_neg (by decide), if_pos rfl]
  cases rest with
  | nil => exact ⟨_, _, .plain s.pipes s.lastPipe, rfl⟩
  | cons d others =>
      dsimp only
      by_cases hd : d = '`'
      · rw [if_pos hd]
        exact ⟨_, _, .escapedTicks rfl (hd ▸ rfl), rfl⟩
      · -- A cell would look for a pipe first.
        rw [if_neg hd, if_neg (by simp [hmode])]
        by_cases hpunct : Text.isAsciiPunctuation d = true
        · rw [if_pos hpunct]
          exact ⟨_, _, .escaped rfl rfl hd, rfl⟩
        · rw [if_neg hpunct]
          exact ⟨_, _, .plain s.pipes s.lastPipe, rfl⟩

/-- Reading does one of these things. The cases come in the order in which it asks for the
    characters. -/
theorem readFrom_step (ctx : LineContext) (hmode : ctx.mode ≠ .cell) (s : LineState) (i : Nat)
    {c : Char} (hc : c ≠ '\n' ∧ c ≠ '\r') (rest : List Char) :
    ∃ s' skip, LineStep s i c rest s' skip ∧
      readFrom ctx s 0 i (c :: rest) = readFrom ctx s' skip (i + 1) rest := by
  by_cases hslash : c = '\\'
  · subst hslash
    exact readFrom_step_slash ctx hmode s i rest
  have hend : ¬ (decide (c = '\n') || decide (c = '\r')) = true := by simp [hc]
  rw [readFrom.eq_def]
  dsimp only
  rw [if_neg hend, if_neg hslash, Nat.add_sub_cancel_left]
  by_cases hmark : (c = '*' || c = '_' || (c = '~' && ctx.strikethrough)) = true
  · rw [if_pos hmark]
    have hmark' : c = '*' ∨ c = '_' ∨ c = '~' := by
      simp only [Bool.or_eq_true, Bool.and_eq_true, decide_eq_true_eq] at hmark
      rcases hmark with (hstar | hscore) | ⟨htilde, -⟩
      · exact .inl hstar
      · exact .inr (.inl hscore)
      · exact .inr (.inr htilde)
    -- Whether the run is a piece depends on what stands around it.
    split
    · exact ⟨_, _, .marks hmark' _ _, rfl⟩
    · exact ⟨_, _, .run hmark', rfl⟩
  rw [if_neg hmark]
  by_cases htick : c = '`'
  · rw [if_pos htick, Nat.add_sub_cancel_left]
    exact ⟨_, _, .ticks htick, rfl⟩
  rw [if_neg htick]
  by_cases hless : (c = '<' && rest.head? ≠ some '\\') = true
  · rw [if_pos hless]
    exact ⟨_, _, .lessThan (of_decide_eq_true (Bool.and_eq_true_iff.mp hless).1), rfl⟩
  rw [if_neg hless]
  by_cases himage : (c = '!' && rest.head? = some '[') = true
  · rw [if_pos himage]
    rw [Bool.and_eq_true, decide_eq_true_eq, decide_eq_true_eq, List.head?_eq_some_iff] at himage
    rcases himage with ⟨hbang, others, hrest⟩
    exact ⟨_, _, .openImage hbang hrest, rfl⟩
  rw [if_neg himage]
  by_cases hopen : c = '['
  · rw [if_pos hopen]
    exact ⟨_, _, .openBracket hopen, rfl⟩
  rw [if_neg hopen]
  by_cases hclose : c = ']'
  · rw [if_pos hclose]
    exact ⟨_, _, .closeBracket hclose, rfl⟩
  rw [if_neg hclose]
  by_cases hand : c = '&'
  · rw [if_pos hand]
    split
    · next href => exact ⟨_, _, .reference href, rfl⟩
    · exact ⟨_, _, .plain s.pipes s.lastPipe, rfl⟩
  rw [if_neg hand]
  -- A pipe is counted in the header of a table, and is plain text all the same.
  split
  · split
    · next hcell => exact absurd hcell hmode
    · exact ⟨_, _, .plain (s.pipes + 1) i, rfl⟩
    · exact ⟨_, _, .plain s.pipes s.lastPipe, rfl⟩
  · exact ⟨_, _, .plain s.pipes s.lastPipe, rfl⟩

/-- There is no run of a character where another one stands. -/
theorem countWhile_eq_zero {c : Char} {cs : List Char} (hcs : cs.head? ≠ some c) :
    countWhile (· = c) cs = 0 := by
  cases cs with
  | nil => rfl
  | cons d cs =>
      have hd : d ≠ c := fun h => hcs (by rw [h]; rfl)
      simp [countWhile, hd]

section Turns

variable (ctx : LineContext) (s : LineState) (i : Nat) (rest : List Char)

theorem readFrom_ticks :
    readFrom ctx s 0 i ('`' :: rest) =
      readFrom ctx
        (s.add (.backticks (1 + countWhile (· = '`') rest) false) i
          (i + (1 + countWhile (· = '`') rest)))
        (countWhile (· = '`') rest) (i + 1) rest := by
  have hturn : readFrom ctx s 0 i ('`' :: rest) =
      readFrom ctx
        (s.add (.backticks (1 + countWhile (· = '`') rest) false) i
          (i + (1 + countWhile (· = '`') rest)))
        (1 + countWhile (· = '`') rest - 1) (i + 1) rest := rfl
  rw [hturn, Nat.add_sub_cancel_left]

theorem readFrom_escapedTicks :
    readFrom ctx s 0 i ('\\' :: '`' :: rest) =
      readFrom ctx
        (({ s.flush i with textStart := i + 1 } : LineState).add
          (.backticks (1 + countWhile (· = '`') rest) true) (i + 1)
          (i + 1 + (1 + countWhile (· = '`') rest)))
        (1 + countWhile (· = '`') rest) (i + 1) ('`' :: rest) :=
  rfl

theorem readFrom_openBracket :
    readFrom ctx s 0 i ('[' :: rest) = readFrom ctx (s.add .openBracket i (i + 1)) 0 (i + 1) rest :=
  rfl

theorem readFrom_closeBracket :
    readFrom ctx s 0 i (']' :: rest) =
      readFrom ctx (s.add (.closeBracket true) i (i + 1)) 0 (i + 1) rest :=
  rfl

theorem readFrom_lessThan (hrest : rest.head? ≠ some '\\') :
    readFrom ctx s 0 i ('<' :: rest) = readFrom ctx (s.add .lessThan i (i + 1)) 0 (i + 1) rest := by
  have hturn : readFrom ctx s 0 i ('<' :: rest) =
      if ('<' = '<' && rest.head? ≠ some '\\') = true then
        readFrom ctx (s.add .lessThan i (i + 1)) 0 (i + 1) rest
      else readFrom ctx s 0 (i + 1) rest := rfl
  rw [hturn, if_pos (by simp [hrest])]

theorem readFrom_escaped (hmode : ctx.mode ≠ .cell) {d : Char} (htick : d ≠ '`')
    (hd : Text.isAsciiPunctuation d = true) :
    readFrom ctx s 0 i ('\\' :: d :: rest) =
      readFrom ctx { s.flush i with textStart := i + 1 } 0 (i + 2) rest := by
  have hturn : readFrom ctx s 0 i ('\\' :: d :: rest) =
      readFrom ctx { s.flush i with textStart := i + 1 } 1 (i + 1) (d :: rest) := by
    rw [readFrom.eq_def]
    simp [htick, hmode, hd]
  rw [hturn]
  rfl

end Turns

/-- What is skipped is not looked at. -/
theorem readFrom_skip (ctx : LineContext) (s : LineState) {skip : Nat} (i : Nat) {cs : List Char}
    (hskip : skip ≤ cs.length) :
    readFrom ctx s skip i cs = readFrom ctx s 0 (i + skip) (cs.drop skip) := by
  induction skip generalizing i cs with
  | zero => rfl
  | succ skip ih =>
      cases cs with
      | nil => exact absurd hskip (Nat.not_succ_le_zero skip)
      | cons c cs =>
          have hturn : readFrom ctx s (skip + 1) i (c :: cs) = readFrom ctx s skip (i + 1) cs := rfl
          rw [hturn, ih (i + 1) (Nat.le_of_succ_le_succ hskip), List.drop_succ_cons,
            Nat.add_right_comm, Nat.add_assoc]

/-- Without text in progress, reading ends with the pieces that are there. -/
theorem readFrom_nil (ctx : LineContext) {s : LineState} {i : Nat} (hstart : s.textStart = i) :
    (readFrom ctx s 0 i []).pieces = s.pieces.reverse := by
  rw [readFrom.eq_def]
  simp only [LineState.finish, LineState.flush]
  rw [if_neg (by omega)]

/-- From the state `s` to the state `s'`, pieces have been added that end before index `i`, and the
    text in progress begins before it. -/
structure LineState.Grows (s s' : LineState) (i : Nat) : Prop where
  start : s'.textStart ≤ i
  added : ∃ new, s'.pieces = new ++ s.pieces ∧ ∀ p ∈ new, p.stop ≤ i

namespace LineState

variable {s s' s'' : LineState} {i i' : Nat}

theorem Grows.refl (hs : s.textStart ≤ i) : s.Grows s i :=
  ⟨hs, [], rfl, List.forall_mem_nil _⟩

theorem Grows.trans (h : s.Grows s' i) (hi : i ≤ i') (h' : s'.Grows s'' i') : s.Grows s'' i' := by
  rcases h.added with ⟨new, hnew, hstops⟩
  rcases h'.added with ⟨new', hnew', hstops'⟩
  refine ⟨h'.start, new' ++ new, by rw [hnew', hnew, List.append_assoc], ?_⟩
  rw [List.forall_mem_append]
  exact ⟨hstops', fun p hp => (hstops p hp).trans hi⟩

theorem Grows.length_le (h : s.Grows s' i) : s.pieces.length ≤ s'.pieces.length := by
  rcases h.added with ⟨new, hnew, -⟩
  rw [hnew, List.length_append]
  exact Nat.le_add_left _ _

theorem length_flush (s : LineState) (i : Nat) :
    s.pieces.length ≤ (s.flush i).pieces.length := by
  rw [flush]
  split
  · exact Nat.le_succ _
  · exact Nat.le_refl _

theorem grows_flush (hs : s.textStart ≤ i) : s.Grows (s.flush i) i := by
  rw [flush]
  split
  · refine ⟨Nat.le_refl i, [⟨.text, s.textStart, i⟩], rfl, ?_⟩
    rw [List.forall_mem_singleton]
  · exact .refl hs

theorem grows_add (hs : s.textStart ≤ i) (kind : PieceKind) {stop : Nat} (hstop : i ≤ stop) :
    s.Grows (s.add kind i stop) stop := by
  refine (grows_flush hs).trans hstop ⟨Nat.le_refl stop, [⟨kind, i, stop⟩], rfl, ?_⟩
  rw [List.forall_mem_singleton]

/-- A backslash is left out, and the character behind it begins a new text. -/
theorem grows_drop (hs : s.textStart ≤ i) :
    s.Grows { s.flush i with textStart := i + 1 } (i + 1) :=
  (grows_flush hs).trans (Nat.le_succ i) ⟨Nat.le_refl _, [], rfl, List.forall_mem_nil _⟩

end LineState

/-- What one turn adds lies within what it has passed, and that does not go beyond the text. -/
theorem LineStep.grows {s s' : LineState} {i skip : Nat} {c : Char} {rest : List Char}
    (h : LineStep s i c rest s' skip) (hs : s.textStart ≤ i) :
    skip ≤ rest.length ∧ s.Grows s' (i + 1 + skip) := by
  have hrun (p : Char → Bool) (cs : List Char) : countWhile p cs ≤ cs.length :=
    (List.takeWhile_prefix p).length_le
  cases h with
  | plain pipes lastPipe =>
      exact ⟨Nat.zero_le _, Nat.le_succ_of_le hs, [], rfl, List.forall_mem_nil _⟩
  | run hc => exact ⟨hrun _ _, .refl (by omega)⟩
  | marks hc opens closes =>
      rw [Nat.add_assoc]
      exact ⟨hrun _ _, LineState.grows_add hs _ (by omega)⟩
  | escaped hc hrest hd =>
      rw [hrest, List.length_cons]
      exact ⟨by omega, (LineState.grows_drop hs).trans (Nat.le_succ _) (.refl (Nat.le_succ _))⟩
  | ticks hc =>
      rw [Nat.add_assoc]
      exact ⟨hrun _ _, LineState.grows_add hs _ (by omega)⟩
  | escapedTicks hc hrest =>
      rw [hrest, List.length_cons, Nat.add_comm 1]
      have hdrop := LineState.grows_drop hs
      -- What is before the backslash is a piece, and the backticks are another.
      have hstop (n : Nat) : i + 1 ≤ i + 1 + n := Nat.le_add_right _ n
      exact ⟨Nat.succ_le_succ (hrun _ _),
        hdrop.trans (hstop _) (LineState.grows_add hdrop.start _ (hstop _))⟩
  | lessThan hc => exact ⟨Nat.zero_le _, LineState.grows_add hs _ (by omega)⟩
  | openBracket hc => exact ⟨Nat.zero_le _, LineState.grows_add hs _ (by omega)⟩
  | closeBracket hc => exact ⟨Nat.zero_le _, LineState.grows_add hs _ (by omega)⟩
  | openImage hc hrest =>
      rw [hrest, List.length_cons]
      exact ⟨by omega, LineState.grows_add hs _ (by omega)⟩
  | @reference length value href =>
      rcases exists_isReference_of_reference? href with ⟨written, behind, hcs, hlength, hwritten, -⟩
      -- A reference is as long as what is skipped for it.
      have hsum := congrArg List.length hcs
      rcases hwritten with ⟨name, rfl, -⟩
      simp only [List.length_append, List.length_cons, List.length_nil] at hsum hlength
      have hstop : i + 1 + (length - 1) = i + length := by omega
      rw [hstop]
      exact ⟨by omega, LineState.grows_add hs _ (by omega)⟩

/-- After a turn there is one more piece, or some text in progress. -/
theorem LineStep.found {s s' : LineState} {i skip : Nat} {c : Char} {rest : List Char}
    (h : LineStep s i c rest s' skip) (hs : s.textStart ≤ i) :
    s.pieces.length < s'.pieces.length ∨ s'.textStart < i + 1 + skip := by
  have hadd (s : LineState) (kind : PieceKind) (start stop : Nat) :
      s.pieces.length < (s.add kind start stop).pieces.length :=
    Nat.lt_succ_of_le (s.length_flush start)
  cases h with
  | plain pipes lastPipe => exact .inr (Nat.lt_succ_of_le hs)
  | run hc => exact .inr (by omega)
  | escaped hc hrest hd => exact .inr (Nat.lt_succ_self _)
  | escapedTicks hc hrest =>
      have hdrop := hadd { s.flush i with textStart := i + 1 }
      exact .inl (Nat.lt_of_le_of_lt (s.length_flush i) (hdrop _ _ _))
  | _ => exact .inl (hadd _ _ _ _)

/-- A line is read up to its end, all that is found there lies within the line, and something is
    found if something is read. -/
theorem readFrom_grows (ctx : LineContext) (hmode : ctx.mode ≠ .cell) {cs : List Char}
    (hcs : ∀ c ∈ cs, c ≠ '\n' ∧ c ≠ '\r') {s : LineState} {skip i : Nat}
    (hskip : skip ≤ cs.length) (hs : s.textStart ≤ i + skip) :
    ∃ s', readFrom ctx s skip i cs = readFrom ctx s' 0 (i + cs.length) [] ∧
      s.Grows s' (i + cs.length) ∧
      (skip < cs.length ∨ s.textStart < i + skip →
        s.pieces.length < s'.pieces.length ∨ s'.textStart < i + cs.length) := by
  induction cs generalizing s skip i with
  | nil =>
      rw [List.length_nil, Nat.le_zero] at hskip
      subst hskip
      exact ⟨s, rfl, .refl hs, fun h => .inr (h.resolve_left (Nat.lt_irrefl 0))⟩
  | cons c cs ih =>
      rw [List.forall_mem_cons] at hcs
      rw [List.length_cons] at hskip ⊢
      have hsum : i + (cs.length + 1) = i + 1 + cs.length := by omega
      rw [hsum]
      cases skip with
      | succ skip =>
          -- A character that is skipped says nothing.
          have hnext : i + 1 + skip = i + (skip + 1) := by omega
          rcases ih hcs.2 (Nat.le_of_succ_le_succ hskip) (hnext ▸ hs) with
            ⟨s', hread, hgrows, hfound⟩
          rw [hnext] at hfound
          exact ⟨s', hread, hgrows, fun h => hfound (h.imp_left Nat.lt_of_succ_lt_succ)⟩
      | zero =>
          rcases readFrom_step ctx hmode s i hcs.1 cs with ⟨t, skip, hstep, hread⟩
          rcases hstep.grows hs with ⟨hskip, ht⟩
          rcases ih hcs.2 hskip ht.start with ⟨s', hread', hgrows, hfound⟩
          refine ⟨s', hread.trans hread', ht.trans (by omega) hgrows, fun _ => ?_⟩
          rcases hstep.found hs with hpiece | htext
          · exact .inl (Nat.lt_of_lt_of_le hpiece hgrows.length_le)
          · exact (hfound (.inr htext)).imp_left (Nat.lt_of_le_of_lt ht.length_le)

/-- At the end of a text without a blank there, the text in progress is the last piece. -/
theorem readFrom_end (ctx : LineContext) (hlast : ctx.text.getLast?.any Text.isLineBlank = false)
    (s : LineState) :
    (readFrom ctx s 0 ctx.text.length []).pieces = (s.flush ctx.text.length).pieces.reverse := by
  have hblanks : countWhile Text.isLineBlank (ctx.text.drop s.textStart).reverse = 0 := by
    rw [countWhile, List.length_eq_zero_iff]
    rcases List.eq_nil_or_concat (ctx.text.drop s.textStart) with hnil | ⟨init, c, hsplit⟩
    · rw [hnil]
      rfl
    · rw [List.concat_eq_append] at hsplit
      have htext := List.take_append_drop s.textStart ctx.text
      rw [hsplit, ← List.append_assoc] at htext
      rw [← htext, List.getLast?_concat, Option.any_some] at hlast
      rw [hsplit, List.reverse_append, List.reverse_singleton, List.singleton_append,
        List.takeWhile_cons_of_neg (by simp [hlast])]
  rw [readFrom.eq_def]
  simp only [List.take_length, hblanks, Nat.sub_zero, LineState.finish]

/-- The rest of a line is read as pieces that come behind those that are there and lie within the
    line. There are some if something is left. -/
theorem readFrom_tail (ctx : LineContext) (hmode : ctx.mode ≠ .cell)
    (hlast : ctx.text.getLast?.any Text.isLineBlank = false) {cs : List Char}
    (hcs : ∀ c ∈ cs, c ≠ '\n' ∧ c ≠ '\r') {i : Nat} (hi : i + cs.length = ctx.text.length)
    {s : LineState} (hs : s.textStart ≤ i) :
    ∃ more, (readFrom ctx s 0 i cs).pieces = s.pieces.reverse ++ more ∧
      (∀ p ∈ more, p.stop ≤ ctx.text.length) ∧ (cs ≠ [] → more ≠ []) := by
  rcases readFrom_grows ctx hmode hcs (Nat.zero_le _) hs with ⟨s', hread, hgrows, hfound⟩
  rw [hi] at hread hgrows hfound
  have hflush := LineState.grows_flush hgrows.start
  rcases (hgrows.trans (Nat.le_refl _) hflush).added with ⟨new, hnew, hstops⟩
  refine ⟨new.reverse, ?_, fun p hp => hstops p (List.mem_reverse.mp hp), fun hne hnil => ?_⟩
  · rw [hread, readFrom_end ctx hlast, hnew, List.reverse_append]
  · -- Some text in progress would have become a piece.
    rw [List.reverse_eq_nil_iff.mp hnil, List.nil_append] at hnew
    have hlength := congrArg List.length hnew
    have hle := hgrows.length_le
    rcases hfound (.inl (List.length_pos_iff.mpr hne)) with hpiece | htext
    · have hle' := hflush.length_le
      omega
    · rw [LineState.flush, if_pos htext, List.length_cons] at hlength
      omega

/-- The line by itself, as far as reading it is concerned. -/
def LineContext.ofLine (options : ParseOptions) (line : List Char) : LineContext where
  text := line
  start := 0
  mode := if options.tables then .header else .plain
  containers := []
  strikethrough := options.strikethrough

/-- The line by itself, as far as its links are concerned. -/
def InlineContext.ofLine (line : List Char) : InlineContext where
  text := line
  containers := []
  inTable := false
  definitions := []

theorem LineContext.mode_ofLine (options : ParseOptions) (line : List Char) :
    (LineContext.ofLine options line).mode ≠ .cell := by
  rw [ofLine]
  split <;> exact LineMode.noConfusion

/-- The running text of a line, as far as the first pass settles it. -/
def lineItems (options : ParseOptions) (line : List Char) : List Inline :=
  settleLinks (.ofLine line) (readLine (.ofLine options line)).pieces

end Anchormark.Markdown
