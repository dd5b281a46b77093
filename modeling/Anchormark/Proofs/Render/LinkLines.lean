import Anchormark.Proofs.Markdown.Addresses
import Anchormark.Proofs.Markdown.Targets
import Anchormark.Proofs.Render.LinkText

/-!
# A Line That Begins with a Link

A line that begins with a text in brackets is a link as far as the target behind the closing bracket
goes. Without a target the brackets are text. In both cases what stands behind is read later, and
does not change what stands in front.

A line that is something in angle brackets is a link if that is an address. If it is none, it may be
raw HTML or text.

## Theorems

* `readLine_brackets`: The pieces of a line that begins with a text in brackets.
* `lineItems_brackets`: Its first element is the link, or a bracket.
* `lineItems_address`, `lineItems_not_address`: What a line in angle brackets is.
-/

namespace Anchormark.Markdown

open Escape

/-- When a text has been read, ending the text in progress leaves the pieces that say the text. -/
theorem Spoke.flushed {text : List Char} {s s' : LineState} {i i' : Nat} {cs : List Char}
    (h : Spoke text s i s' i' cs) :
    ∃ new, (s'.flush i').pieces = new ++ s.pieces ∧ (∀ p ∈ new, p.IsInert) ∧
      new.reverse.flatMap (Piece.spoken text) = s.pending text i ++ cs := by
  rcases (h.trans (.flush h.start)).said with ⟨new, hnew, hinert, hsaid⟩
  refine ⟨new, hnew, hinert, ?_⟩
  have hnothing : (s'.flush i').pending text i' = [] := by
    rw [LineState.pending, Spoke.textStart_flush h.start, List.drop_eq_nil_iff]
    exact List.length_take_le _ _
  rw [hnothing, List.append_nil, List.append_nil] at hsaid
  exact hsaid

/-- The first pass over inert pieces in brackets comes to the closing bracket. -/
theorem settleFrom_bracketed (ctx : InlineContext) {label : List Piece}
    (hlabel : ∀ p ∈ label, p.IsInert) (i : Nat) (more : List Piece) :
    let pieces := ⟨.openBracket, 0, 1⟩ :: (label ++ ⟨.closeBracket true, i, i + 1⟩ :: more)
    settleFrom ctx pieces.length {} pieces =
      settleFrom ctx (more.length + 1)
        { brackets := [{ image := false, start := 0, stop := 1
                         items := (label.map ctx.inertItem).reverse }] }
        (⟨.closeBracket true, i, i + 1⟩ :: more) := by
  intro pieces
  have hopen : settleFrom ctx pieces.length {} pieces =
      settleFrom ctx (label.length + (more.length + 1))
        { brackets := [{ image := false, start := 0, stop := 1 }] }
        (label ++ ⟨.closeBracket true, i, i + 1⟩ :: more) := by
    simp only [pieces, List.length_cons, List.length_append]
    rfl
  rw [hopen, settleFrom_inert ctx hlabel, LinkState.addAll]
  simp only [List.append_nil]

section Brackets

variable {text written rest : List Char} (hform : TextForm none text written)
  (htext : ∀ c ∈ text, c ≠ '\n' ∧ c ≠ '\r' ∧ c ≠ '&' ∧ c ≠ '~')
  (hrest : ∀ c ∈ rest, c ≠ '\n' ∧ c ≠ '\r')
include hform htext hrest

/-- The brackets are pieces, and between them stands what says the text. -/
theorem readLine_brackets (ctx : LineContext) (hmode : ctx.mode ≠ .cell) (hstart : ctx.start = 0)
    (hline : ctx.text = '[' :: (written ++ ']' :: rest))
    (hlast : ctx.text.getLast?.any Text.isLineBlank = false) :
    ∃ label more, (readLine ctx).pieces =
        ⟨.openBracket, 0, 1⟩ :: (label ++
          ⟨.closeBracket true, 1 + written.length, 1 + written.length + 1⟩ :: more) ∧
      (∀ p ∈ label, p.IsInert) ∧ label.flatMap (Piece.spoken ctx.text) = text ∧
      ∀ p ∈ more, p.stop ≤ ctx.text.length := by
  have hdrop : ctx.text.drop 1 = written ++ ']' :: rest := by
    rw [hline]
    rfl
  have hlength : 1 + written.length + 1 + rest.length = ctx.text.length := by
    rw [hline]
    simp only [List.length_cons, List.length_append]
    omega
  -- The opening bracket is read, then the text, and then the closing one and what is behind it.
  set opened : LineState := { pieces := [⟨.openBracket, 0, 1⟩], textStart := 1, lastPipe := 0 }
    with hopened
  have hread : readLine ctx = readFrom ctx opened 0 1 (written ++ ']' :: rest) := by
    rw [readLine, hstart, List.drop_zero, hline, readFrom_openBracket]
    rfl
  rcases readFrom_textForm ctx hmode hform htext hdrop (s := opened) (Nat.le_refl 1) with
    ⟨s, hread', hspoke⟩
  rcases hspoke.flushed with ⟨new, hnew, hinert, hsaid⟩
  rw [readFrom_closeBracket] at hread'
  rcases readFrom_tail ctx hmode hlast hrest hlength (s := s.add (.closeBracket true)
    (1 + written.length) (1 + written.length + 1)) (Nat.le_refl _) with ⟨more, hmore, hstops, -⟩
  refine ⟨new.reverse, more, ?_, fun p hp => hinert p (List.mem_reverse.mp hp), ?_, hstops⟩
  · rw [hread, hread', hmore, LineState.add, hnew, hopened]
    simp
  · -- Nothing stands in progress behind the opening bracket.
    have hnothing : opened.pending ctx.text 1 = [] := by
      rw [LineState.pending, hopened, List.drop_eq_nil_iff]
      exact List.length_take_le _ _
    rw [hsaid, hnothing, List.nil_append]

/-- The line is a link as far as its target goes, or its first bracket is text. -/
theorem lineItems_brackets (options : ParseOptions)
    (hlast : ('[' :: (written ++ ']' :: rest)).getLast?.any Text.isLineBlank = false) :
    let line := '[' :: (written ++ ']' :: rest)
    ∃ pieces, match (InlineContext.ofLine line).inlineTarget? (1 + written.length + 1) pieces with
      | some (url, title, stop) => ∃ inside more,
          lineItems options line = .group 0 stop
            (.link .inline (String.ofList url) (String.ofList title)) inside :: more ∧
          Saying inside text ∧ (stop = line.length → more = [])
      | none => ∃ start stop event more,
          lineItems options line = .leaf start stop event :: more := by
  intro line
  set ctx := InlineContext.ofLine line
  rcases readLine_brackets hform htext hrest (.ofLine options line)
    (LineContext.mode_ofLine options line) rfl rfl hlast with
    ⟨label, more, hpieces, hinert, hsaid, hstops⟩
  have hsaying : Saying (label.map ctx.inertItem) text := by
    rw [← hsaid]
    exact saying_inert ctx hinert
  refine ⟨more, ?_⟩
  have hrun := settleFrom_bracketed ctx hinert (1 + written.length) more
  rw [← hpieces] at hrun
  -- The first pass stops at the closing bracket, with the text on the opening one.
  let top : OpenBracket :=
    { image := false, start := 0, stop := 1, items := (label.map ctx.inertItem).reverse }
  cases htarget : ctx.inlineTarget? (1 + written.length + 1) more with
  | some target =>
      rcases target with ⟨url, title, stop⟩
      have hlinked :=
        settleFrom_linked ctx more.length top rfl rfl (1 + written.length) _ htarget []
      dsimp only [top] at hlinked ⊢
      rw [List.reverse_reverse] at hlinked
      refine ⟨label.map ctx.inertItem, ?_⟩
      by_cases hstop : stop = line.length
      · -- Nothing is left of the pieces behind the link.
        have hnone : piecesFrom stop more = [] := piecesFrom_eq_nil (hstop ▸ hstops)
        rw [hnone, settleFrom_nil] at hlinked
        refine ⟨[], ?_, hsaying, fun _ => rfl⟩
        rw [lineItems, settleLinks, hrun.trans hlinked]
        rfl
      · rcases head_settleLinks ctx _ (hrun.trans hlinked) rfl with ⟨others, hothers⟩
        exact ⟨others, hothers, hsaying, fun h => absurd h hstop⟩
  | none =>
      -- Without a target both brackets are text, and the opening one comes first.
      rcases settleFrom_unlinked ctx more.length top rfl (1 + written.length) _ rfl htarget with
        ⟨others, hunlinked⟩
      have hopening : (ctx.plain (1 + written.length) (1 + written.length + 1) ::
          (top.items ++ [ctx.plain 0 1])).getLast? = some (ctx.plain 0 1) := by
        rw [← List.cons_append, List.getLast?_concat]
      rcases head_settleLinks ctx _ (hrun.trans hunlinked) hopening with ⟨others, hothers⟩
      exact ⟨_, _, _, others, hothers⟩

end Brackets

section Angle

variable {url : List Char}
  (hurl : ∀ c ∈ url, c ≠ '\n' ∧ c ≠ '\r' ∧ c ≠ '\\' ∧ c ≠ '<' ∧ c ≠ '>')
include hurl

/-- The opening bracket is a piece, and something stands behind it. -/
theorem readLine_angle (options : ParseOptions) :
    let line := '<' :: (url ++ ['>'])
    ∃ p more, (readLine (.ofLine options line)).pieces = ⟨.lessThan, 0, 1⟩ :: p :: more ∧
      ∀ q ∈ p :: more, q.stop ≤ line.length := by
  intro line
  set ctx := LineContext.ofLine options line
  -- With a backslash behind it, the bracket would be plain text.
  have hslash : (url ++ ['>']).head? ≠ some '\\' := by
    cases url with
    | nil => decide
    | cons c url =>
        rw [List.forall_mem_cons] at hurl
        exact fun hhead => hurl.1.2.2.1 (Option.some.inj hhead)
  have hlast : line.getLast?.any Text.isLineBlank = false := by
    rw [show line = ('<' :: url) ++ ['>'] from rfl, List.getLast?_concat]
    rfl
  have hrest : ∀ c ∈ url ++ ['>'], c ≠ '\n' ∧ c ≠ '\r' := by
    rw [List.forall_mem_append, List.forall_mem_singleton]
    exact ⟨fun c hc => ⟨(hurl c hc).1, (hurl c hc).2.1⟩, by decide⟩
  have hread : readLine ctx =
      readFrom ctx { pieces := [⟨.lessThan, 0, 1⟩], textStart := 1, lastPipe := 0 } 0 1
        (url ++ ['>']) :=
    readFrom_lessThan ctx { textStart := 0, lastPipe := 0 } 0 _ hslash
  rcases readFrom_tail ctx (LineContext.mode_ofLine options line) hlast hrest (i := 1)
    (Nat.add_comm 1 _) (s := { pieces := [⟨.lessThan, 0, 1⟩], textStart := 1, lastPipe := 0 })
    (Nat.le_refl 1) with ⟨more, hpieces, hstops, hne⟩
  rcases List.exists_cons_of_ne_nil (hne (List.append_ne_nil_of_right_ne_nil _ (by simp))) with
    ⟨p, others, rfl⟩
  exact ⟨p, others, (congrArg Line.pieces hread).trans hpieces, hstops⟩

/-- An address is a link to itself. -/
theorem lineItems_address (options : ParseOptions) (haddress : IsAddress url) :
    let line := '<' :: (url ++ ['>'])
    ∃ form, form ≠ .inline ∧ lineItems options line =
      [.group 0 line.length (.link form (String.ofList url) "")
        [.leaf 1 (url.length + 1) (.text (String.ofList url))]] := by
  intro line
  set ctx := InlineContext.ofLine line
  rcases readLine_angle hurl options with ⟨p, more, hpieces, hstops⟩
  rcases autolink?_eq_some (fun c hc => (hurl c hc).2.2.2) haddress with ⟨form, hauto, hform⟩
  have hshown : ctx.plain 1 (line.length - 1) =
      .leaf 1 (url.length + 1) (.text (String.ofList url)) := by
    simp [ctx, InlineContext.plain, InlineContext.slice, InlineContext.ofLine, line]
  -- The bracket is taken together with the address, and no piece is left behind the other bracket.
  have hstep : settleFrom ctx (more.length + 2) {} (⟨.lessThan, 0, 1⟩ :: p :: more) =
      settleFrom ctx (more.length + 1)
        { items := [.group 0 line.length (.link form (String.ofList url) "")
          [ctx.plain 1 (line.length - 1)]] } (piecesFrom line.length (p :: more)) := by
    have hafter : ctx.after 1 = url ++ ['>'] := rfl
    rw [settleFrom]
    simp only [List.isEmpty_cons, Bool.false_eq_true, if_false, hafter, hauto]
    rfl
  refine ⟨form, hform, ?_⟩
  rw [piecesFrom_eq_nil hstops, settleFrom_nil, hshown] at hstep
  rw [lineItems, settleLinks, hpieces, List.length_cons, List.length_cons, hstep]
  rfl

/-- Anything else is not a link. -/
theorem lineItems_not_address (options : ParseOptions) (haddress : ¬ IsAddress url) :
    ∃ start stop event more, lineItems options ('<' :: (url ++ ['>'])) =
      .leaf start stop event :: more := by
  set ctx := InlineContext.ofLine ('<' :: (url ++ ['>']))
  rcases readLine_angle hurl options with ⟨p, more, hpieces, hstops⟩
  have hauto := autolink?_eq_none (fun c hc => (hurl c hc).2.2.2) haddress
  -- The bracket is text, or it begins a tag of HTML.
  have hstep : ∃ start stop event rest,
      settleFrom ctx (more.length + 2) {} (⟨.lessThan, 0, 1⟩ :: p :: more) =
        settleFrom ctx (more.length + 1) { items := [.leaf start stop event] } rest := by
    have hafter : ctx.after 1 = url ++ ['>'] := rfl
    rw [settleFrom]
    simp only [List.isEmpty_cons, Bool.false_eq_true, if_false, hafter, hauto]
    split
    · exact ⟨_, _, _, _, rfl⟩
    · exact ⟨_, _, _, _, rfl⟩
  rcases hstep with ⟨start, stop, event, rest, hstep⟩
  rcases head_settleLinks ctx (⟨.lessThan, 0, 1⟩ :: p :: more) hstep List.getLast?_singleton with
    ⟨others, hothers⟩
  refine ⟨start, stop, event, others, ?_⟩
  rw [lineItems, hpieces, hothers]

end Angle

end Anchormark.Markdown
