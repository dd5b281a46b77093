import Anchormark.Proofs.Markdown.Settling
import Anchormark.Proofs.Render.FencedCode

/-!
# Reading a Code Span Back

A code span stands between two runs of backticks of the same length, and no run of that length
stands in it. The renderer makes both longer than any run of the value, so only the second of them
closes the span. A run must not touch the value's own backticks either, or it would become longer:
a value that begins or ends with a backtick gets a space at both ends.

A reader takes a space off from both ends of what it finds there, unless there is nothing else. That
takes off what the renderer has put there. But the renderer looks for backticks only, and a value
that has a space at both ends itself loses these.

## Main definitions

* `codeSpan?`: a code span, read from the front.
* `FitsBetween`: a text that two runs of backticks can enclose.
* `spanContent`: what is written between them.

## Theorems

* `FitsBetween.countWhile_append`: No run of the text goes on into the fence.
* `spanContent?_append`, `lineItems_span`: What stands between two fences is read.
* `stripCode_spanContent`, `stripCode_eq_self_iff`: What is left of it, and when that is the value.
* `inlineCode_reads_back`: The value comes back without a space at both ends.
-/

namespace Anchormark

namespace Markdown

/-- What stands before the first run of as many backticks, and what stands behind that run. `skip`
    characters belong to a run of another length. -/
def spanContent? (length : Nat) : (skip : Nat) → List Char → Option Reading
  | _, [] => none
  | skip + 1, c :: rest => (spanContent? length skip rest).map (Reading.prepend [c])
  | 0, c :: rest =>
    if c = '`' then
      let run := 1 + countWhile (· = '`') rest
      if run = length then some ([], rest.drop (run - 1))
      else (spanContent? length (run - 1) rest).map (Reading.prepend [c])
    else (spanContent? length 0 rest).map (Reading.prepend [c])

/-- The content of the code span that the characters begin with, and what stands behind it. -/
def codeSpan? (cs : List Char) : Option Reading :=
  let run := countWhile (· = '`') cs
  if run = 0 then none
  else (spanContent? run 0 (cs.drop run)).map fun (content, behind) => (stripCode content, behind)

/-- Between two runs of `n` backticks the text is a code span: its own runs are shorter, and none of
    them touches the second run. -/
structure FitsBetween (n : Nat) (cs : List Char) : Prop where
  shorter : ∀ part, part <:+ cs → countWhile (· = '`') part < n
  last : cs.getLast? ≠ some '`'

namespace FitsBetween

variable {n : Nat} {c : Char} {cs : List Char}

theorem tail (h : FitsBetween n (c :: cs)) : FitsBetween n cs where
  shorter part hpart := h.shorter part (hpart.trans (List.suffix_cons c cs))
  last hlast := by
    cases cs with
    | nil => exact absurd hlast (Option.some_ne_none _).symm
    | cons d cs => exact h.last (by rw [List.getLast?_cons_cons]; exact hlast)

/-- A run of the text ends within it. -/
theorem countWhile_append (h : FitsBetween n cs) (hcs : cs ≠ []) (behind : List Char) :
    countWhile (· = '`') (cs ++ behind) = countWhile (· = '`') cs := by
  rw [countWhile, countWhile, List.takeWhile_append, if_neg]
  intro hall
  -- Otherwise the text is nothing but backticks.
  have hticks := List.takeWhile_prefix (fun c => decide (c = '`')) |>.eq_of_length hall
  have hmem : cs.getLast hcs ∈ cs.takeWhile fun c => decide (c = '`') := by
    rw [hticks]
    exact List.getLast_mem hcs
  have hlast : cs.getLast hcs = '`' := by simpa using List.mem_takeWhile_imp hmem
  exact h.last (by rw [List.getLast?_eq_some_getLast hcs, hlast])

/-- A run that begins with the text is shorter than the fence, and it ends before the text does. -/
theorem run_spec (h : FitsBetween n ('`' :: cs)) (behind : List Char) :
    1 + countWhile (· = '`') (cs ++ behind) < n ∧
      countWhile (· = '`') (cs ++ behind) ≤ cs.length := by
  have hcs : cs ≠ [] := by
    rintro rfl
    exact h.last rfl
  have hrun := h.shorter _ (List.suffix_refl _)
  rw [countWhile, List.takeWhile_cons_of_pos (by decide), List.length_cons] at hrun
  rw [h.tail.countWhile_append hcs, Nat.add_comm 1]
  exact ⟨hrun, (List.takeWhile_prefix _).length_le⟩

end FitsBetween

/-- Skipping characters other than a backtick stops in front of the first one. -/
theorem le_length_of_take {cs : List Char} {k : Nat} (behind : List Char)
    (h : ∀ d ∈ (cs ++ '`' :: behind).take k, d ≠ '`') : k ≤ cs.length := by
  by_contra hk
  refine h '`' (List.mem_iff_getElem?.mpr ⟨cs.length, ?_⟩) rfl
  rw [List.getElem?_take_of_lt (Nat.lt_of_not_le hk)]
  simp

/-- What stands between two fences is found, whatever it is. -/
theorem spanContent?_append {n : Nat} {cs : List Char} (hfit : FitsBetween n cs) (hn : 0 < n)
    {skip : Nat} (hskip : skip ≤ cs.length) :
    spanContent? n skip (cs ++ List.replicate n '`') = some (cs, []) := by
  induction cs generalizing skip with
  | nil =>
      rcases Nat.exists_eq_add_of_lt hn with ⟨k, rfl⟩
      rw [List.length_nil, Nat.le_zero] at hskip
      simp [hskip, List.replicate_succ, spanContent?, countWhile_replicate, Nat.add_comm 1]
  | cons c cs ih =>
      rw [List.length_cons] at hskip
      rw [List.cons_append]
      cases skip with
      | succ skip =>
          rw [spanContent?, ih hfit.tail (Nat.le_of_succ_le_succ hskip)]
          rfl
      | zero =>
          rw [spanContent?]
          by_cases hc : c = '`'
          · subst hc
            -- A shorter run is passed over as a whole.
            rcases hfit.run_spec (List.replicate n '`') with ⟨hlt, hle⟩
            rw [if_pos rfl, if_neg (Nat.ne_of_lt hlt), Nat.add_sub_cancel_left,
              ih hfit.tail hle]
            rfl
          · rw [if_neg hc, ih hfit.tail (Nat.zero_le _)]
            rfl

/-- The piece is a run of `n` backticks. -/
def Piece.isTicks (n : Nat) (p : Piece) : Bool :=
  match p.kind with
  | .backticks run _ => run = n
  | _ => false

/-- No piece is a run of `n` backticks. -/
def NoTicks (n : Nat) (pieces : List Piece) : Prop :=
  ∀ p ∈ pieces, p.isTicks n = false

theorem NoTicks.append {n : Nat} {pieces others : List Piece} (h : NoTicks n pieces)
    (h' : NoTicks n others) : NoTicks n (pieces ++ others) :=
  List.forall_mem_append.mpr ⟨h, h'⟩

/-- Ending the text in progress adds no run. -/
theorem exists_flush (n : Nat) (s : LineState) (i : Nat) :
    ∃ new, (s.flush i).pieces = new ++ s.pieces ∧ NoTicks n new := by
  rw [LineState.flush]
  split
  · refine ⟨[⟨.text, s.textStart, i⟩], rfl, ?_⟩
    intro p hp
    rw [List.mem_singleton.mp hp]
    rfl
  · exact ⟨[], rfl, List.forall_mem_nil _⟩

/-- A piece that is no run of `n` backticks may be added. -/
theorem exists_add (n : Nat) (s : LineState) (kind : PieceKind) (start stop : Nat)
    (hkind : Piece.isTicks n ⟨kind, start, stop⟩ = false) :
    ∃ new, (s.add kind start stop).pieces = new ++ s.pieces ∧ NoTicks n new := by
  rcases exists_flush n s start with ⟨new, hnew, hticks⟩
  refine ⟨⟨kind, start, stop⟩ :: new, congrArg _ hnew, ?_⟩
  rw [NoTicks, List.forall_mem_cons]
  exact ⟨hkind, hticks⟩

/-- None of the characters of a reference is a backtick. -/
theorem tick_not_mem_reference {written : List Char} (h : IsReference written) :
    '`' ∉ written := by
  rcases h with ⟨name, rfl, -, hname⟩
  intro hmem
  simp only [List.mem_cons, List.mem_append, List.not_mem_nil, or_false] at hmem
  rcases hmem with hand | hmem | hsemicolon
  · exact absurd hand (by decide)
  · exact absurd (hname _ hmem) (by decide)
  · exact absurd hsemicolon (by decide)

/-- A run of emphasis marks ends before the fence. -/
theorem run_le_length {c : Char} (hc : c = '*' ∨ c = '_' ∨ c = '~') (cs : List Char) (k : Nat) :
    countWhile (· = c) (cs ++ '`' :: List.replicate k '`') ≤ cs.length := by
  have hrun := List.prefix_iff_eq_take.mp
    (List.takeWhile_prefix (l := cs ++ '`' :: List.replicate k '`') fun d => decide (d = c))
  refine le_length_of_take (List.replicate k '`') fun d hd => ?_
  rw [countWhile, ← hrun] at hd
  have hdc : d = c := by simpa using List.mem_takeWhile_imp hd
  rw [hdc]
  rcases hc with rfl | rfl | rfl <;> decide

/-- Backticks behind a backslash are one piece with those that follow, and what stands before them is
    another. -/
theorem escapedTicks_between {n k : Nat} (s : LineState) (i : Nat) {cs : List Char}
    (hfit : FitsBetween n ('`' :: cs)) :
    let run := countWhile (· = '`') (cs ++ '`' :: List.replicate k '`')
    run ≤ cs.length ∧ ∃ new, ({ s.flush i with textStart := i + 1 }.add
      (.backticks (1 + run) true) (i + 1) (i + 1 + (1 + run))).pieces = new ++ s.pieces ∧
        NoTicks n new := by
  intro run
  rcases hfit.run_spec ('`' :: List.replicate k '`') with ⟨hlt, hle⟩
  rcases exists_flush n s i with ⟨front, hfront, hfrontTicks⟩
  rcases exists_add n { s.flush i with textStart := i + 1 } (.backticks (1 + run) true) (i + 1)
    (i + 1 + (1 + run)) (decide_eq_false (Nat.ne_of_lt hlt)) with ⟨new, hnew, hnewTicks⟩
  refine ⟨hle, new ++ front, ?_, hnewTicks.append hfrontTicks⟩
  rw [List.append_assoc, ← hfront]
  exact hnew

/-- A turn within the text adds no run of `n` backticks and stays within the text, unless a
    backslash at its end takes the first backtick of the fence. -/
theorem LineStep.between {n k : Nat} {s s' : LineState} {i skip : Nat} {c : Char} {cs : List Char}
    (h : LineStep s i c (cs ++ '`' :: List.replicate k '`') s' skip)
    (hfit : FitsBetween n (c :: cs)) (hslash : c = '\\' → cs ≠ []) :
    skip ≤ cs.length ∧ ∃ new, s'.pieces = new ++ s.pieces ∧ NoTicks n new := by
  -- Behind the last character of the text is a backtick.
  have hinside {d : Char} {others : List Char} (hd : d ≠ '`')
      (hrest : cs ++ '`' :: List.replicate k '`' = d :: others) : 1 ≤ cs.length := by
    cases cs with
    | nil => exact absurd (List.cons.inj hrest).1.symm hd
    | cons d cs => exact Nat.succ_pos _
  cases h with
  | plain pipes lastPipe => exact ⟨Nat.zero_le _, [], rfl, List.forall_mem_nil _⟩
  | run hc => exact ⟨run_le_length hc cs k, [], rfl, List.forall_mem_nil _⟩
  | marks hc opens closes => exact ⟨run_le_length hc cs k, exists_add n s _ _ _ rfl⟩
  | escaped hc hrest hd => exact ⟨hinside hd hrest, exists_flush n s i⟩
  | ticks hc =>
      subst hc
      rcases hfit.run_spec ('`' :: List.replicate k '`') with ⟨hlt, hle⟩
      exact ⟨hle, exists_add n s _ _ _ (decide_eq_false (Nat.ne_of_lt hlt))⟩
  | @escapedTicks hc others hrest =>
      cases cs with
      | nil => exact absurd rfl (hslash hc)
      | cons d cs =>
          rw [List.cons_append, List.cons.injEq] at hrest
          rcases hrest with ⟨rfl, rfl⟩
          rcases escapedTicks_between s i hfit.tail with ⟨hle, hnew⟩
          refine ⟨?_, hnew⟩
          rw [List.length_cons, Nat.add_comm 1]
          exact Nat.succ_le_succ hle
  | lessThan hc => exact ⟨Nat.zero_le _, exists_add n s _ _ _ rfl⟩
  | openBracket hc => exact ⟨Nat.zero_le _, exists_add n s _ _ _ rfl⟩
  | closeBracket hc => exact ⟨Nat.zero_le _, exists_add n s _ _ _ rfl⟩
  | openImage hc hrest =>
      exact ⟨hinside (by decide) hrest, exists_add n s _ _ _ rfl⟩
  | @reference length value href =>
      rcases exists_isReference_of_reference? href with
        ⟨written, behind, hcs, rfl, hwritten, -⟩
      refine ⟨le_length_of_take (List.replicate k '`') fun d hd hdc => ?_, exists_add n s _ _ _ rfl⟩
      -- The characters that are skipped are those of the reference.
      refine tick_not_mem_reference hwritten ?_
      rw [← hdc]
      rcases hwritten with ⟨name, rfl, -⟩
      rw [List.cons_append, List.cons.injEq] at hcs
      rw [hcs.2, List.length_cons, Nat.add_sub_cancel, List.take_left] at hd
      exact List.mem_cons_of_mem _ hd

/-- A fence at the end of a line is the last piece. -/
theorem readFrom_fence (ctx : LineContext) (s : LineState) (i k : Nat) :
    ∃ front, (readFrom ctx s 0 i ('`' :: List.replicate k '`')).pieces =
        s.pieces.reverse ++ front ++ [⟨.backticks (k + 1) false, i, i + (k + 1)⟩] ∧
      NoTicks (k + 1) front := by
  have hrun := countWhile_replicate k '`'
  rcases exists_flush (k + 1) s i with ⟨front, hfront, hticks⟩
  refine ⟨front.reverse, ?_, fun p hp => hticks p (List.mem_reverse.mp hp)⟩
  rw [readFrom_ticks, hrun, readFrom_skip ctx _ _ (List.length_replicate ▸ Nat.le_refl k),
    List.drop_of_length_le (List.length_replicate ▸ Nat.le_refl k), readFrom_nil ctx, LineState.add]
  · simp [hfront, Nat.add_comm 1]
  · simp only [LineState.add]
    omega

/-- So it is if a backslash stands in front of it. The backslash takes the first backtick out of
    the run if the run is text, but it does not make it shorter. -/
theorem readFrom_escapedFence (ctx : LineContext) (s : LineState) (i k : Nat) :
    ∃ front, (readFrom ctx s 0 i ('\\' :: '`' :: List.replicate k '`')).pieces =
        s.pieces.reverse ++ front ++ [⟨.backticks (k + 1) true, i + 1, i + 1 + (k + 1)⟩] ∧
      NoTicks (k + 1) front := by
  have hrun := countWhile_replicate k '`'
  rcases exists_flush (k + 1) s i with ⟨front, hfront, hticks⟩
  refine ⟨front.reverse, ?_, fun p hp => hticks p (List.mem_reverse.mp hp)⟩
  have hlength : ('`' :: List.replicate k '`').length = 1 + k := by simp [Nat.add_comm 1]
  rw [readFrom_escapedTicks, hrun, readFrom_skip ctx _ _ (Nat.le_of_eq hlength.symm),
    List.drop_of_length_le (Nat.le_of_eq hlength), readFrom_nil ctx, LineState.add, LineState.flush]
  · simp [hfront, Nat.add_comm 1]
  · rw [LineState.add]

/-- Behind the text a run of `n` backticks is found, and none before. -/
theorem readFrom_between (ctx : LineContext) (hmode : ctx.mode ≠ .cell) {k : Nat} {cs : List Char}
    (hline : ∀ c ∈ cs, c ≠ '\n' ∧ c ≠ '\r') (hfit : FitsBetween (k + 1) cs) {s : LineState}
    {skip i : Nat} (hskip : skip ≤ cs.length) :
    ∃ front escaped,
      (readFrom ctx s skip i (cs ++ '`' :: List.replicate k '`')).pieces =
        s.pieces.reverse ++ front ++
          [⟨.backticks (k + 1) escaped, i + cs.length, i + cs.length + (k + 1)⟩] ∧
      NoTicks (k + 1) front := by
  induction cs generalizing s skip i with
  | nil =>
      rw [List.length_nil, Nat.le_zero] at hskip
      subst hskip
      rcases readFrom_fence ctx s i k with ⟨front, hread, hticks⟩
      exact ⟨front, false, hread, hticks⟩
  | cons c cs ih =>
      rw [List.forall_mem_cons] at hline
      rw [List.length_cons] at hskip ⊢
      have hsum : i + (cs.length + 1) = i + 1 + cs.length := by omega
      rw [hsum, List.cons_append]
      cases skip with
      | succ skip => exact ih hline.2 hfit.tail (Nat.le_of_succ_le_succ hskip)
      | zero =>
          -- Only a backslash right before the fence reaches out of the text.
          by_cases hslash : c = '\\' ∧ cs = []
          · rcases hslash with ⟨rfl, rfl⟩
            rcases readFrom_escapedFence ctx s i k with ⟨front, hread, hticks⟩
            exact ⟨front, true, hread, hticks⟩
          · rcases readFrom_step ctx hmode s i hline.1 (cs ++ '`' :: List.replicate k '`') with
              ⟨t, skip, hstep, hread⟩
            rcases hstep.between hfit fun hc hnil => hslash ⟨hc, hnil⟩ with
              ⟨hskip, new, hnew, hnewTicks⟩
            rcases ih hline.2 hfit.tail hskip (s := t) (i := i + 1) with
              ⟨front, escaped, hrest, hticks⟩
            refine ⟨new.reverse ++ front, escaped, ?_,
              NoTicks.append (fun p hp => hnewTicks p (List.mem_reverse.mp hp)) hticks⟩
            rw [hread, hrest, hnew]
            simp

/-- Without line endings and outside of tables, the characters of a code span stand for
    themselves. -/
theorem codeChars_line (margin : List Char → Nat) {cs : List Char}
    (hline : ∀ c ∈ cs, c ≠ '\n' ∧ c ≠ '\r') : codeChars margin false 0 cs = cs := by
  induction cs with
  | nil => rfl
  | cons c cs ih =>
      rw [List.forall_mem_cons] at hline
      simp [codeChars, hline.1, ih hline.2]

/-- A run of backticks goes with the next one of its length. -/
theorem settleFrom_ticks (ctx : InlineContext) (limit : Nat) (s : LinkState) {n : Nat} (hn : n ≠ 0)
    (start stop : Nat) {rest : List Piece} {q : Piece} {behind : List Piece}
    (hrest : rest.dropWhile (fun p => !p.isTicks n) = q :: behind) :
    settleFrom ctx (limit + 1) s (⟨.backticks n false, start, stop⟩ :: rest) =
      settleFrom ctx limit
        (s.add (.leaf start q.stop (.code (String.ofList (stripCode
          (codeChars ctx.margin ctx.inTable 0 ((ctx.text.take q.start).drop stop)))))))
        behind := by
  rw [settleFrom]
  simp only [Bool.false_eq_true, if_false, hn]
  generalize hfound : List.dropWhile _ rest = found
  have hfound' : found = q :: behind := hfound.symm.trans hrest
  rw [hfound']

/-- The pieces of a line that is one code span. -/
theorem readLine_span (ctx : LineContext) (hmode : ctx.mode ≠ .cell) (hstart : ctx.start = 0)
    {k : Nat} {cs : List Char} (hcs : cs ≠ []) (hfirst : cs.head? ≠ some '`')
    (hfit : FitsBetween (k + 1) cs) (hline : ∀ c ∈ cs, c ≠ '\n' ∧ c ≠ '\r')
    (htext : ctx.text = '`' :: (List.replicate k '`' ++ (cs ++ '`' :: List.replicate k '`'))) :
    ∃ front escaped, (readLine ctx).pieces = ⟨.backticks (k + 1) false, 0, k + 1⟩ ::
        (front ++ [⟨.backticks (k + 1) escaped, k + 1 + cs.length, k + 1 + cs.length + (k + 1)⟩]) ∧
      NoTicks (k + 1) front := by
  -- The text does not begin with a backtick, so the opening fence ends before it.
  have hrun : countWhile (· = '`') (List.replicate k '`' ++ (cs ++ '`' :: List.replicate k '`')) =
      k := by
    refine countWhile_replicate_append k ?_
    rwa [List.head?_append_of_ne_nil _ hcs]
  have hskip : k ≤ (List.replicate k '`' ++ (cs ++ '`' :: List.replicate k '`')).length := by simp
  have hdrop : (List.replicate k '`' ++ (cs ++ '`' :: List.replicate k '`')).drop k =
      cs ++ '`' :: List.replicate k '`' := by simp
  have hindex : 0 + 1 + k = k + 1 := by omega
  rcases readFrom_between ctx hmode hline hfit (i := k + 1) (Nat.zero_le _) with
    ⟨front, escaped, hread, hfront⟩
  refine ⟨front, escaped, ?_, hfront⟩
  rw [readLine, hstart, htext, List.drop_zero, readFrom_ticks, hrun, readFrom_skip ctx _ _ hskip,
    hdrop, hindex, hread]
  simp [LineState.add, LineState.flush]

/-- A line that is one code span is read as one. -/
theorem lineItems_span (options : ParseOptions) {k : Nat} {cs : List Char} (hcs : cs ≠ [])
    (hfirst : cs.head? ≠ some '`') (hfit : FitsBetween (k + 1) cs)
    (hline : ∀ c ∈ cs, c ≠ '\n' ∧ c ≠ '\r') :
    let line := '`' :: (List.replicate k '`' ++ (cs ++ '`' :: List.replicate k '`'))
    lineItems options line = [.leaf 0 line.length (.code (String.ofList (stripCode cs)))] := by
  intro line
  rcases readLine_span (.ofLine options line) (LineContext.mode_ofLine options line) rfl hcs hfirst
    hfit hline rfl with ⟨front, escaped, hpieces, hfront⟩
  -- No piece before the fence has its length, so it is the one that closes.
  have hclosing : (front ++ [(⟨.backticks (k + 1) escaped, k + 1 + cs.length,
      k + 1 + cs.length + (k + 1)⟩ : Piece)]).dropWhile (fun p => !p.isTicks (k + 1)) =
        [⟨.backticks (k + 1) escaped, k + 1 + cs.length, k + 1 + cs.length + (k + 1)⟩] := by
    rw [List.dropWhile_append_of_pos]
    · simp [Piece.isTicks]
    · intro p hp
      rw [hfront p hp, Bool.not_false]
  have hcontent : (line.take (k + 1 + cs.length)).drop (k + 1) = cs := by
    have hline : line = List.replicate (k + 1) '`' ++ (cs ++ '`' :: List.replicate k '`') := rfl
    rw [List.drop_take, Nat.add_sub_cancel_left, hline, List.drop_left' List.length_replicate,
      List.take_left]
  have hlength : line.length = k + 1 + cs.length + (k + 1) := by
    simp only [line, List.length_cons, List.length_append, List.length_replicate]
    omega
  rw [lineItems, settleLinks, hpieces, List.length_cons,
    settleFrom_ticks _ _ _ (Nat.succ_ne_zero k) _ _ hclosing, settleFrom_nil]
  dsimp only [InlineContext.ofLine]
  rw [hcontent, codeChars_line _ hline, hlength]
  rfl

/-- So it is when only code spans are looked for. -/
theorem codeSpan?_span {k : Nat} {cs : List Char} (hcs : cs ≠ []) (hfirst : cs.head? ≠ some '`')
    (hfit : FitsBetween (k + 1) cs) :
    codeSpan? ('`' :: (List.replicate k '`' ++ (cs ++ '`' :: List.replicate k '`'))) =
      some (stripCode cs, []) := by
  have hrun : countWhile (· = '`')
      ('`' :: (List.replicate k '`' ++ (cs ++ '`' :: List.replicate k '`'))) = k + 1 := by
    refine countWhile_replicate_append (k + 1) ?_
    rwa [List.head?_append_of_ne_nil _ hcs]
  have hdrop : ('`' :: (List.replicate k '`' ++ (cs ++ '`' :: List.replicate k '`'))).drop (k + 1) =
      cs ++ List.replicate (k + 1) '`' := by
    simp [List.replicate_succ]
  simp only [codeSpan?, hrun, hdrop, Nat.add_one_ne_zero, if_false,
    spanContent?_append hfit (Nat.succ_pos k) (Nat.zero_le _), Option.map_some]

/-- The text has a space at both ends, and something else in between. -/
def HasOuterSpaces (cs : List Char) : Prop :=
  cs.head? = some ' ' ∧ cs.getLast? = some ' ' ∧ ∃ c ∈ cs, c ≠ ' '

/-- These are the texts that lose something. -/
theorem stripCode_eq_self_iff (cs : List Char) : stripCode cs = cs ↔ ¬ HasOuterSpaces cs := by
  have hall : cs.all (· = ' ') = false ↔ ∃ c ∈ cs, c ≠ ' ' := by simp
  rw [stripCode, HasOuterSpaces, ← hall]
  by_cases hspaces : cs.head? = some ' ' ∧ cs.getLast? = some ' ' ∧ cs.all (· = ' ') = false
  · -- Something is taken off, so the rest is shorter.
    have hne : cs ≠ [] := by
      rintro rfl
      exact absurd hspaces.1 (Option.some_ne_none _).symm
    have hlength := List.length_pos_iff.mpr hne
    have hshorter : cs.tail.dropLast ≠ cs := by
      intro heq
      have hsame := congrArg List.length heq
      rw [List.length_dropLast, List.length_tail] at hsame
      omega
    simp [hspaces, hshorter]
  · rw [if_neg]
    · exact ⟨fun _ => hspaces, fun _ => rfl⟩
    · simpa [and_assoc] using hspaces

end Markdown

open Markdown

/-- What is written between the fences. -/
def spanContent (value : List Char) : List Char :=
  if value.head? = some '`' ∨ value.getLast? = some '`' then ' ' :: (value ++ [' ']) else value

theorem fitsBetween_spanContent (value : List Char) :
    FitsBetween (Builtin.longestRun '`' value + 1) (spanContent value) := by
  -- No run in the value is as long as the fence.
  have hshort {part : List Char} (hpart : part <:+ value) :
      countWhile (· = '`') part < Builtin.longestRun '`' value + 1 :=
    Nat.lt_succ_of_le (Builtin.countWhile_le_longestRun '`' hpart.isInfix)
  rw [spanContent]
  split
  · refine ⟨fun part hpart => ?_, by simp [List.getLast?_cons]⟩
    rcases List.suffix_cons_iff.mp hpart with rfl | hpart
    · exact Nat.succ_pos _
    · rcases List.suffix_concat_iff.mp hpart with rfl | ⟨front, rfl, hfront⟩
      · exact Nat.succ_pos _
      · -- The space behind a run does not make it longer.
        have hgap : countWhile (· = '`') (front ++ [' ']) = countWhile (· = '`') front := by
          rw [countWhile, countWhile, List.takeWhile_append]
          split
          · next hall => simp [hall]
          · rfl
        rw [hgap]
        exact hshort hfront
  · next hedges => exact ⟨fun part hpart => hshort hpart, fun hlast => hedges (.inr hlast)⟩

theorem head?_spanContent (value : List Char) : (spanContent value).head? ≠ some '`' := by
  rw [spanContent]
  split
  · exact fun hspace => absurd (Option.some.inj hspace) (by decide)
  · next hedges => exact fun hfirst => hedges (.inl hfirst)

/-- What is left of it is what is left of the value. -/
theorem stripCode_spanContent (value : List Char) :
    stripCode (spanContent value) = stripCode value := by
  rw [spanContent]
  split
  · next hedges =>
      -- There is a backtick at an end, so the value has no space there.
      have hvalue : stripCode value = value := by
        rw [stripCode_eq_self_iff]
        rintro ⟨hfirst, hlast, -⟩
        rw [hfirst, hlast] at hedges
        exact absurd hedges (by decide)
      have htick : '`' ∈ value := by
        rcases hedges with hfirst | hlast
        · exact List.mem_of_mem_head? hfirst
        · exact List.mem_of_mem_getLast? hlast
      have hmixed : (' ' :: (value ++ [' '])).all (· = ' ') = false := by
        rw [List.all_eq_false]
        exact ⟨'`', by simp [htick], by decide⟩
      rw [hvalue, stripCode, hmixed]
      simp [List.getLast?_cons]
  · rfl

/-- A value without line breaks is written as one code span, which is read back without a space at
    both ends if the value has them and is not only spaces. Any other value is read back as it is. A
    reader that looks for code spans only finds this one, and so does the first pass over the line,
    whatever the options. -/
theorem inlineCode_reads_back {h : Handlers} (hcode : h.get? .inlineCode = none)
    (o : RenderOptions) {n : Node} {value : String} (hkind : n.kind = .inlineCode value)
    (hvalue : value ≠ "") (hline : ∀ c ∈ value.toList, c ≠ '\n' ∧ c ≠ '\r') :
    let content := stripCode value.toList
    ∃ out, n.render h o = .ok out ∧
      codeSpan? out.toList = some (content, []) ∧
      (∀ options, lineItems options out.toList =
        [.leaf 0 out.length (.code (String.ofList content))]) ∧
      (content = value.toList ↔ ¬ HasOuterSpaces value.toList) := by
  intro content
  have hcontent : content = stripCode (spanContent value.toList) :=
    (stripCode_spanContent value.toList).symm
  have hne : spanContent value.toList ≠ [] := by
    rw [spanContent]
    split
    · exact List.cons_ne_nil _ _
    · rwa [ne_eq, String.toList_eq_nil_iff]
  have hclear : ∀ c ∈ spanContent value.toList, c ≠ '\n' ∧ c ≠ '\r' := by
    rw [spanContent]
    split
    · intro c hc
      rw [List.mem_cons, List.mem_append, List.mem_singleton] at hc
      rcases hc with rfl | hc | rfl
      · decide
      · exact hline c hc
      · decide
    · exact hline
  -- The fence is one backtick longer than any run within, and no backtick is next to it.
  have hfirst := head?_spanContent value.toList
  have hfit := fitsBetween_spanContent value.toList
  set k := Builtin.longestRun '`' value.toList with hk
  set line := '`' :: (List.replicate k '`' ++ (spanContent value.toList ++
    '`' :: List.replicate k '`')) with hwritten
  have hout : n.render h o = .ok (String.ofList line) := by
    rw [Node.render_of_kind o hkind hcode rfl, Builtin.inlineCode, hkind]
    refine congrArg Except.ok (String.toList_inj.mp ?_)
    by_cases hedges : value.toList.head? = some '`' ∨ value.toList.getLast? = some '`'
    · simp [hedges, Builtin.repeated, hwritten, spanContent, List.replicate_succ, ← hk]
    · simp [hedges, Builtin.repeated, hwritten, spanContent, List.replicate_succ, ← hk]
  refine ⟨_, hout, ?_, fun options => ?_, stripCode_eq_self_iff value.toList⟩
  · -- By the reader of code spans alone, and then by the first pass over the line.
    rw [String.toList_ofList, hwritten, codeSpan?_span hne hfirst hfit, hcontent]
  · rw [String.toList_ofList, hwritten, lineItems_span options hne hfirst hfit hclear, hcontent,
      String.length_ofList]

/-- A value that ends with two backticks. -/
theorem inlineCode_reads_back_ticks :
    let n : Node := { kind := .inlineCode "a``" }
    let out := "``` a`` ```"
    Handlers.empty.get? .inlineCode = none ∧ "a``" ≠ "" ∧
      (∀ c ∈ "a``".toList, c ≠ '\n' ∧ c ≠ '\r') ∧ n.render Handlers.empty {} = .ok out ∧
      codeSpan? out.toList = some ("a``".toList, []) ∧
      ∀ options, lineItems options out.toList = [.leaf 0 out.length (.code "a``")] := by
  intro n out
  have hvalue : "a``" ≠ "" := by decide
  have hline : ∀ c ∈ "a``".toList, c ≠ '\n' ∧ c ≠ '\r' := by simp
  have hout : n.render Handlers.empty {} = .ok out := rfl
  have hcontent : stripCode "a``".toList = "a``".toList := by decide
  rcases inlineCode_reads_back (h := Handlers.empty) (n := n) rfl {} rfl hvalue hline with
    ⟨out', hrender, hspan, hitems, -⟩
  rw [hout, Except.ok.injEq] at hrender
  subst hrender
  rw [hcontent] at hspan hitems
  rw [String.ofList_toList] at hitems
  exact ⟨rfl, hvalue, hline, hout, hspan, hitems⟩

/-- A value with a space at both ends is written with nothing to protect them, and loses both. -/
theorem inlineCode_outer_spaces :
    let n : Node := { kind := .inlineCode " a " }
    let out := "` a `"
    n.render Handlers.empty {} = .ok out ∧
      codeSpan? out.toList = some ("a".toList, []) ∧
      lineItems {} out.toList = [.leaf 0 5 (.code "a")] ∧
      codeSpan? out.toList ≠ some (" a ".toList, []) := by
  intro n out
  have hout : n.render Handlers.empty {} = .ok out := rfl
  have hfit : FitsBetween 1 [' ', 'a', ' '] := by
    refine ⟨fun part hpart => ?_, by decide⟩
    have hbare : '`' ∉ part := fun hmem => absurd (hpart.subset hmem) (by decide)
    have hhead : part.head? ≠ some '`' := fun hhead => hbare (List.mem_of_head? hhead)
    rw [countWhile_eq_zero hhead]
    exact Nat.one_pos
  have hline : ∀ c ∈ [' ', 'a', ' '], c ≠ '\n' ∧ c ≠ '\r' := by simp
  have hspan := @lineItems_span {} 0 _ (List.cons_ne_nil _ _) (by decide) hfit hline
  have hstrip : String.ofList (stripCode [' ', 'a', ' ']) = "a" := by decide
  rw [hstrip] at hspan
  have hchars : out.toList = ['`', ' ', 'a', ' ', '`'] := by decide
  have hitems : lineItems {} out.toList = [.leaf 0 5 (.code "a")] := by
    rw [hchars]
    exact hspan
  exact ⟨hout, by decide, hitems, by decide⟩

end Anchormark
