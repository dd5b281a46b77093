import Anchormark.Markdown.Events
import Anchormark.Markdown.Inline
import Mathlib.Data.List.TakeWhile

/-!
# Settling Piece by Piece

The first pass over running text takes its pieces from left to right. What it has put in front of
all open brackets stays there: later pieces only add something behind it. So the first element of a
line can be told from its first pieces, whatever else stands in the line.

Pieces that say what they cover and nothing else pass through in any state. A run of emphasis marks
is one of these, since it is left for the second pass, and so is an escaped backtick.

## Main definitions

* `Piece.IsInert`: a piece that the first pass does not look at any closer.
* `Saying`: running text that is nothing but some characters, before emphasis is read.

## Theorems

* `settleFrom_step`: What one step does to the elements in front.
* `settleFrom_items`, `head_settleLinks`: They stay in front.
* `settleFrom_inert`: Inert pieces pile up.
* `saying_inert`: They say what they cover.
* `closing_of_none`: Without definitions, only an inline link closes a bracket.
* `settleFrom_linked`, `settleFrom_unlinked`: What becomes of the only open bracket.
-/

namespace Anchormark.Markdown

theorem LinkState.items_addAll (s : LinkState) (more : List Inline) :
    s.items <:+ (s.addAll more).items := by
  rw [addAll]
  split
  · exact List.suffix_append more s.items
  · exact List.suffix_refl s.items

theorem LinkState.items_add (s : LinkState) (item : Inline) : s.items <:+ (s.add item).items :=
  s.items_addAll [item]

theorem LinkState.items_giveUp (ctx : InlineContext) (s : LinkState) :
    s.items <:+ (s.giveUp ctx).items := by
  rw [giveUp]
  split
  · exact List.suffix_refl s.items
  · next top rest _ =>
      exact LinkState.items_addAll { s with brackets := rest } _

theorem LinkState.items_giveUpMany (ctx : InlineContext) (n : Nat) (s : LinkState) :
    s.items <:+ (s.giveUpMany ctx n).items := by
  induction n generalizing s with
  | zero => exact List.suffix_refl s.items
  | succ n ih => exact (s.items_giveUp ctx).trans (ih (s.giveUp ctx))

theorem LinkState.items_close (s : LinkState) (form : LinkForm) (url title : List Char)
    (stop : Nat) : s.items <:+ (s.close form url title stop).items := by
  rcases s with ⟨_ | ⟨top, rest⟩, items⟩
  · exact List.suffix_refl items
  · rw [close]
    exact LinkState.items_add ⟨if top.image then rest else rest.map fun b =>
      if b.image then b else { b with live := false }, items⟩ _

/-- One step takes at least one piece, and adds something behind what is there. -/
theorem settleFrom_step (ctx : InlineContext) (limit : Nat) (s : LinkState) (p : Piece)
    (rest : List Piece) :
    ∃ s' pieces, settleFrom ctx (limit + 1) s (p :: rest) = settleFrom ctx limit s' pieces ∧
      s.items <:+ s'.items := by
  rcases p with ⟨kind, start, stop⟩
  cases kind with
  | text => exact ⟨_, _, rfl, s.items_add _⟩
  | substitute value => exact ⟨_, _, rfl, s.items_add _⟩
  | softBreak => exact ⟨_, _, rfl, s.items_add _⟩
  | hardBreak backslash => exact ⟨_, _, rfl, s.items_add _⟩
  | marks mark count opens closes => exact ⟨_, _, rfl, s.items_add _⟩
  | task checked => exact ⟨_, _, rfl, s.items_add _⟩
  -- Three kinds of pieces depend on what is behind them.
  | lessThan =>
      rw [settleFrom]
      dsimp only
      split
      · exact ⟨_, _, rfl, s.items_add _⟩
      · split
        · exact ⟨_, _, rfl, s.items_add _⟩
        · exact ⟨_, _, rfl, s.items_add _⟩
  | backticks run escaped =>
      rw [settleFrom]
      dsimp only
      split
      · exact ⟨_, _, rfl, s.items_add _⟩
      · split
        · exact ⟨_, _, rfl, s.items_addAll _⟩
        · exact ⟨_, _, rfl, s.items_add _⟩
  | openBracket => exact ⟨_, _, rfl, List.suffix_refl _⟩
  | openImage => exact ⟨_, _, rfl, List.suffix_refl _⟩
  | closeBracket label =>
      rw [settleFrom]
      dsimp only
      split
      · exact ⟨_, _, rfl, s.items_add _⟩
      · split
        · exact ⟨_, _, rfl, s.items_close _ _ _ _⟩
        · exact ⟨_, _, rfl, (s.items_giveUp ctx).trans (LinkState.items_add _ _)⟩

/-- What stands in front of all brackets stays there. -/
theorem settleFrom_items (ctx : InlineContext) (limit : Nat) (s : LinkState)
    (pieces : List Piece) : s.items <:+ (settleFrom ctx limit s pieces).items := by
  induction limit generalizing s pieces with
  | zero => exact List.suffix_refl s.items
  | succ limit ih =>
      cases pieces with
      | nil => exact List.suffix_refl s.items
      | cons p rest =>
          rcases settleFrom_step ctx limit s p rest with ⟨s', pieces, hstep, hs'⟩
          rw [hstep]
          exact hs'.trans (ih s' pieces)

/-- So the first element of a line is the first one that has been settled in front of them. -/
theorem head_settleLinks (ctx : InlineContext) {limit : Nat} {s : LinkState}
    (pieces : List Piece) {rest : List Piece} (hrun : settleFrom ctx pieces.length {} pieces =
      settleFrom ctx limit s rest) {item : Inline} (hitem : s.items.getLast? = some item) :
    ∃ more, settleLinks ctx pieces = item :: more := by
  rcases List.getLast?_eq_some_iff.mp hitem with ⟨items, hitems⟩
  have hkept : s.items <:+ ((settleFrom ctx pieces.length {} pieces).giveUpMany ctx
      (settleFrom ctx pieces.length {} pieces).brackets.length).items := by
    rw [hrun]
    exact (settleFrom_items ctx limit s rest).trans (LinkState.items_giveUpMany ctx _ _)
  rcases hkept with ⟨new, hnew⟩
  refine ⟨(new ++ items).reverse, ?_⟩
  rw [settleLinks, ← hnew, hitems, ← List.append_assoc, List.reverse_append]
  rfl

/-- Without pieces the first pass stops. -/
theorem settleFrom_nil (ctx : InlineContext) (limit : Nat) (s : LinkState) :
    settleFrom ctx limit s [] = s := by
  cases limit <;> rfl

/-- A construct that goes up to the end of all pieces takes them all. -/
theorem piecesFrom_eq_nil {i : Nat} {pieces : List Piece} (hstops : ∀ p ∈ pieces, p.stop ≤ i) :
    piecesFrom i pieces = [] := by
  rw [piecesFrom, List.dropWhile_eq_nil_iff.mpr]
  exact fun p hp => decide_eq_true (hstops p hp)

/-- The piece is text, a run of emphasis marks, or a backtick behind a backslash. -/
def Piece.IsInert (p : Piece) : Prop :=
  p.kind = .text ∨ p.kind = .backticks 1 true ∨ ∃ mark count opens closes,
    p.kind = .marks mark count opens closes

/-- What an inert piece of a text says. -/
def Piece.spoken (text : List Char) (p : Piece) : List Char :=
  match p.kind with
  | .marks mark count _ _ => List.replicate count mark ++ (text.take p.stop).drop (p.start + count)
  | _ => (text.drop p.start).take (p.stop - p.start)

/-- The element that an inert piece becomes. -/
def InlineContext.inertItem (ctx : InlineContext) (p : Piece) : Inline :=
  match p.kind with
  | .marks mark count opens closes =>
    .marks p.start mark count ((ctx.text.take p.stop).drop (p.start + count)) opens closes
  | _ => ctx.plain p.start p.stop

/-- The running text is nothing but these characters, as the first pass leaves it: a run of emphasis
    marks says itself here, and the second pass, `settleEmphasis`, does not come into it. -/
def Saying (items : List Inline) (cs : List Char) : Prop :=
  ∃ texts : List (List Char),
    (inlineEvents items).map Prod.fst = texts.map (fun text => Event.text (String.ofList text)) ∧
      texts.flatten = cs

/-- A text says itself and nothing else. -/
theorem saying_text_iff {start stop : Nat} {cs said : List Char} :
    Saying [.leaf start stop (.text (String.ofList cs))] said ↔ said = cs := by
  have hevents : (inlineEvents [.leaf start stop (.text (String.ofList cs))]).map Prod.fst =
      [.text (String.ofList cs)] := rfl
  rw [Saying, hevents]
  constructor
  · rintro ⟨texts, htexts, rfl⟩
    rcases List.map_eq_singleton_iff.mp htexts.symm with ⟨text, rfl, htext⟩
    rw [Event.text.injEq, String.ofList_inj] at htext
    rw [htext, List.flatten_singleton]
  · rintro rfl
    exact ⟨[said], rfl, List.flatten_singleton⟩

theorem LinkState.addAll_addAll (s : LinkState) (front back : List Inline) :
    (s.addAll front).addAll back = s.addAll (back ++ front) := by
  rcases s with ⟨_ | ⟨top, brackets⟩, items⟩
  · simp [addAll]
  · simp [addAll]

theorem LinkState.addAll_nil (s : LinkState) : s.addAll [] = s := by
  rcases s with ⟨_ | ⟨top, brackets⟩, items⟩ <;> rfl

/-- Inert pieces pile up one by one. -/
theorem settleFrom_inert (ctx : InlineContext) {pieces : List Piece}
    (hpieces : ∀ p ∈ pieces, p.IsInert) (limit : Nat) (s : LinkState) (rest : List Piece) :
    settleFrom ctx (pieces.length + limit) s (pieces ++ rest) =
      settleFrom ctx limit (s.addAll (pieces.map ctx.inertItem).reverse) rest := by
  induction pieces generalizing s with
  | nil =>
      rw [List.length_nil, Nat.zero_add, List.map_nil, List.reverse_nil, LinkState.addAll_nil]
      rfl
  | cons p pieces ih =>
      rw [List.forall_mem_cons] at hpieces
      have hstep : settleFrom ctx ((p :: pieces).length + limit) s (p :: pieces ++ rest) =
          settleFrom ctx (pieces.length + limit) (s.add (ctx.inertItem p)) (pieces ++ rest) := by
        rw [List.length_cons, Nat.add_right_comm, List.cons_append]
        -- The three kinds of inert pieces.
        rcases p with ⟨kind, start, stop⟩
        rcases hpieces.1 with hkind | hkind | ⟨mark, count, opens, closes, hkind⟩
        · dsimp only at hkind
          subst hkind
          rfl
        · dsimp only at hkind
          subst hkind
          rfl
        · dsimp only at hkind
          subst hkind
          rfl
      rw [hstep, ih hpieces.2, LinkState.add, LinkState.addAll_addAll, List.map_cons,
        List.reverse_cons]

/-- They say what they cover. -/
theorem saying_inert (ctx : InlineContext) {pieces : List Piece}
    (hpieces : ∀ p ∈ pieces, p.IsInert) :
    Saying (pieces.map ctx.inertItem) (pieces.flatMap (Piece.spoken ctx.text)) := by
  refine ⟨pieces.map (Piece.spoken ctx.text), ?_, (List.flatMap_def).symm⟩
  induction pieces with
  | nil => rfl
  | cons p pieces ih =>
      rw [List.forall_mem_cons] at hpieces
      have hitem : (ctx.inertItem p).events.map Prod.fst =
          [.text (String.ofList (p.spoken ctx.text))] := by
        rcases p with ⟨kind, start, stop⟩
        rcases hpieces.1 with hkind | hkind | ⟨mark, count, opens, closes, hkind⟩
        · dsimp only at hkind
          subst hkind
          rfl
        · dsimp only at hkind
          subst hkind
          rfl
        · dsimp only at hkind
          subst hkind
          rfl
      rw [List.map_cons, inlineEvents, List.map_append, hitem, ih hpieces.2]
      rfl

/-- Without definitions, only an inline link closes a bracket. -/
theorem closing_of_none (ctx : InlineContext) (hdefinitions : ctx.definitions = [])
    (opening : OpenBracket) (stop : Nat) (label : Bool) {pieces : List Piece}
    (htarget : ctx.inlineTarget? stop pieces = none) :
    ∃ rest, ctx.closing opening stop label pieces = .error rest := by
  have hnone (key : List Char) : ctx.definition? key = none := by
    rw [InlineContext.definition?, hdefinitions]
    rfl
  rw [InlineContext.closing, htarget]
  simp only [hnone]
  -- Whatever is looked up, nothing is found.
  split
  · split <;> exact ⟨_, rfl⟩
  · split
    · split <;> exact ⟨_, rfl⟩
    · split
      · split <;> exact ⟨_, rfl⟩
      · split <;> exact ⟨_, rfl⟩

section Closing

variable (ctx : InlineContext) (limit : Nat) (top : OpenBracket) (hlive : top.live = true)
  (himage : top.image = false) (start stop : Nat) {pieces : List Piece}
include hlive

include himage in
/-- A closing bracket with a target behind it makes a link of the only open bracket. -/
theorem settleFrom_linked {url title : List Char} {linkStop : Nat}
    (htarget : ctx.inlineTarget? stop pieces = some (url, title, linkStop)) (items : List Inline) :
    settleFrom ctx (limit + 1) { brackets := [top], items }
        (⟨.closeBracket true, start, stop⟩ :: pieces) =
      settleFrom ctx limit
        { items := .group top.start linkStop
            (.link .inline (String.ofList url) (String.ofList title)) top.items.reverse :: items }
        (piecesFrom linkStop pieces) := by
  have hclosing : ctx.closing top stop true pieces =
      .ok ⟨.inline, url, title, linkStop, piecesFrom linkStop pieces⟩ := by
    rw [InlineContext.closing, htarget]
  rw [settleFrom]
  simp only [hlive, if_true, hclosing]
  simp [LinkState.close, himage, LinkState.add, LinkState.addAll]

/-- Without one, both brackets are text. -/
theorem settleFrom_unlinked (hdefinitions : ctx.definitions = [])
    (htarget : ctx.inlineTarget? stop pieces = none) :
    ∃ rest, settleFrom ctx (limit + 1) { brackets := [top] }
        (⟨.closeBracket true, start, stop⟩ :: pieces) =
      settleFrom ctx limit
        { items := ctx.plain start stop :: (top.items ++ [ctx.plain top.start top.stop]) }
        rest := by
  rcases closing_of_none ctx hdefinitions top stop true htarget with ⟨rest, hclosing⟩
  refine ⟨rest, ?_⟩
  rw [settleFrom]
  simp only [hlive, if_true, hclosing]
  simp [LinkState.giveUp, LinkState.add, LinkState.addAll]

end Closing

end Anchormark.Markdown
