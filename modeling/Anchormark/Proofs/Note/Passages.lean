import Anchormark.Proofs.Note.Bits
import Anchormark.Proofs.Note.Starts

/-!
# Reading the Blocks of a Note

A paragraph is read line by line. It goes on with every line of its own, because such a line starts
text and begins with the margin that the open containers ask for, and it ends before a blank line,
before the next item, and at the end of the document. A heading is a single line behind its marks.

## Main definitions

* `Continues`, `Ends`: a line continues the containers, and a line ends a paragraph in them.

## Theorems

* `continues_item`, `ends_item_blank`, `ends_item_marker`: What holds within an item.
* `Document.paragraphLines_next`, `Document.paragraphLines_last`: One turn within a paragraph, and
  the last one.
* `Document.paragraphLines_passage`: The lines of a paragraph.
* `Document.leaf_text`, `Document.leaf_heading`, `Document.leaf_rule`: The blocks that are no
  containers.
-/

namespace Anchormark.Markdown

/-- A line that begins with as many blanks as the margin is wide continues the containers. -/
def Continues (containers : List Container) (margin : Nat) : Prop :=
  ∀ cs : List Char, cs.head?.any isSolid = true →
    ({ rest := List.replicate margin ' ' ++ cs : Margin }).enterAll containers =
      ({ rest := cs, taken := margin }, true)

/-- A paragraph in the containers does not go on with these characters. -/
def Ends (containers : List Container) (cs : List Char) : Prop :=
  ∃ m inside, ({ rest := cs : Margin }).enterAll containers = (m, inside) ∧ m.skip 4 = (m, 4) ∧
    (inside = true → underline? m.rest = none) ∧
      ∀ site : LineSite, site.interrupts inside m.rest = true

/-- Blanks are taken one by one. -/
theorem skip_blanks (n more : Nat) (cs : List Char) (taken : Nat) :
    ({ rest := List.replicate n ' ' ++ cs, taken : Margin }).skip (n + more) =
      ({ rest := cs, taken := taken + n : Margin }).skip more := by
  have hfrom : ({ rest := List.replicate n ' ' ++ cs, taken : Margin }).skipFrom (n + more)
      (List.replicate n ' ' ++ cs) = ({ rest := cs, taken := taken + n : Margin }).skipFrom more cs := by
    induction n generalizing taken with
    | zero => rw [Nat.zero_add, List.replicate_zero, List.nil_append, Nat.add_zero]
    | succ n ih =>
        rw [List.replicate_succ, List.cons_append, Nat.succ_add, Margin.skipFrom, ih,
          Nat.add_right_comm, Nat.add_assoc]
  rw [Margin.skip, Margin.skip]
  simp only [Nat.zero_min, Nat.sub_zero, Nat.sub_self, hfrom]

/-- Nothing is taken where nothing is asked for. -/
theorem skip_zero (cs : List Char) (taken : Nat) :
    ({ rest := cs, taken : Margin }).skip 0 = ({ rest := cs, taken }, 0) := by
  rw [Margin.skip]
  simp only [Nat.zero_min, Nat.sub_self, Margin.skipFrom]

/-- Where a line ends at once there is no indentation to take. -/
theorem skip_lineEnd {cs : List Char} (hcs : (lineEnd? cs).isSome = true) (n : Nat) :
    ({ rest := cs : Margin }).skip n = ({ rest := cs }, n) := by
  rw [Margin.skip]
  simp only [Nat.zero_min, Nat.sub_zero, Nat.sub_self]
  unfold Margin.skipFrom
  split <;> simp_all [lineEnd?]

/-- Where a line ends at once it underlines nothing. -/
theorem underline?_lineEnd {cs : List Char} (hcs : (lineEnd? cs).isSome = true) :
    underline? cs = none := by
  unfold underline?
  split
  · rfl
  · next mark rest =>
      have hdouble : mark ≠ '=' := by
        rintro rfl
        simp [lineEnd?] at hcs
      have hdash : mark ≠ '-' := by
        rintro rfl
        simp [lineEnd?] at hcs
      simp only [hdouble, hdash, decide_false, Bool.or_false, Bool.false_eq_true, if_false]

theorem atLineEnd_lineEnd {cs : List Char} (hcs : (lineEnd? cs).isSome = true) :
    ({ rest := cs : Margin }).atLineEnd = true := by
  unfold lineEnd? at hcs
  split at hcs <;> first | rfl | cases hcs

theorem continues_nil : Continues [] 0 := by
  intro cs _
  rfl

/-- Outside of any container a blank line ends a paragraph, and so does the end of the text. -/
theorem ends_nil {cs : List Char} (hcs : (lineEnd? cs).isSome = true) : Ends [] cs := by
  refine ⟨{ rest := cs }, true, rfl, skip_lineEnd hcs 4, fun _ => underline?_lineEnd hcs,
    fun site => ?_⟩
  simp only [LineSite.interrupts, LineSite.blockInterrupts, hcs, Bool.true_or]

section Item

variable {column : Nat} {cs : List Char}

theorem continues_item : Continues [.list, .item column] column := by
  intro cs _
  have hskip := skip_blanks column 0 cs 0
  rw [Nat.add_zero, Nat.zero_add, skip_zero] at hskip
  rw [Margin.enterAll]
  simp only [Margin.enter, Margin.enterOne?, hskip]
  rfl

variable (hcolumn : 0 < column)
include hcolumn

/-- What does not reach the column of an item leaves it, unless the line ends there. -/
theorem enter_item (hskip : ({ rest := cs : Margin }).skip column = ({ rest := cs }, column)) :
    ({ rest := cs : Margin }).enter [.list, .item column] =
      ({ rest := cs }, if ({ rest := cs : Margin }).atLineEnd then 2 else 1) := by
  obtain ⟨n, rfl⟩ := Nat.exists_eq_succ_of_ne_zero (Nat.pos_iff_ne_zero.mp hcolumn)
  simp only [Margin.enter, Margin.enterOne?, hskip]
  split <;> split at * <;> simp_all

/-- In an item, too, a blank line or the end of the text ends a paragraph. -/
theorem ends_item_blank (hcs : (lineEnd? cs).isSome = true) : Ends [.list, .item column] cs := by
  have henter : ({ rest := cs : Margin }).enterAll [.list, .item column] = ({ rest := cs }, true) := by
    rw [Margin.enterAll, enter_item hcolumn (skip_lineEnd hcs column), if_pos (atLineEnd_lineEnd hcs)]
    rfl
  refine ⟨{ rest := cs }, true, henter, skip_lineEnd hcs 4, fun _ => underline?_lineEnd hcs,
    fun site => ?_⟩
  simp only [LineSite.interrupts, LineSite.blockInterrupts, hcs, Bool.true_or]

/-- And so does the next item. -/
theorem ends_item_marker (hsolid : cs.head?.any isSolid = true)
    (hmarker : (listMarker? cs).isSome = true) : Ends [.list, .item column] cs := by
  have henter : ({ rest := cs : Margin }).enterAll [.list, .item column] = ({ rest := cs }, false) := by
    rw [Margin.enterAll, enter_item hcolumn (skip_solid hsolid 0 column), atLineEnd_solid hsolid 0]
    rfl
  refine ⟨{ rest := cs }, false, henter, skip_solid hsolid 0 4, Bool.noConfusion, fun site => ?_⟩
  obtain ⟨⟨mark, number, length⟩, hfound⟩ := Option.isSome_iff_exists.mp hmarker
  simp only [LineSite.interrupts, LineSite.blockInterrupts, LineSite.itemInterrupts, hfound,
    Bool.not_false, Bool.true_or, Bool.or_true]

end Item

/-- A passage begins with its first line. -/
theorem exists_writtenLines_cons (margin : Nat) (line : List Sign) (rest : List (List Sign))
    (tail : List Char) :
    ∃ more, writtenLines margin (line :: rest) ++ '\n' :: tail =
      spell (lineAtoms line) ++ '\n' :: more := by
  cases rest with
  | nil => exact ⟨tail, rfl⟩
  | cons next rest =>
      refine ⟨List.replicate margin ' ' ++ (writtenLines margin (next :: rest) ++ '\n' :: tail), ?_⟩
      rw [writtenLines_eq, writtenLines_eq, List.map_cons, List.map_cons, Text.joinWith]
      simp only [List.append_assoc, List.cons_append]

/-- A passage starts text. -/
theorem startsText_passage {lines : List (List Sign)} (hfull : lines ≠ [])
    (hlines : ∀ line ∈ lines, IsTextLine line) (margin : Nat) (tail : List Char) :
    StartsText (writtenLines margin lines ++ '\n' :: tail) := by
  rcases List.exists_cons_of_ne_nil hfull with ⟨line, rest, rfl⟩
  have hline := hlines line List.mem_cons_self
  rcases exists_writtenLines_cons margin line rest tail with ⟨more, hmore⟩
  rw [hmore]
  exact startsText_spell hline.begins hline.reads more

namespace Document

variable {d : Document} {s : BlockStack} {margin i : Nat} {tail : List Char}

theorem margin_of_drop {cs : List Char} (htext : d.text.drop i = cs) :
    d.margin i = { rest := cs } := by
  rw [margin, after, htext]

/-- Behind a line the text goes on below its line feed. -/
theorem drop_line {text line : List Char} (htext : text.drop i = line ++ '\n' :: tail) :
    text.drop (i + line.length + 1) = tail := by
  rw [← List.drop_drop, ← List.drop_drop, htext, List.drop_left, List.drop_one, List.tail_cons]

/-- No backslash is right before a line behind its margin. -/
theorem last_ne_slash {text line more : List Char}
    (htext : text.drop i = line ++ '\n' :: (List.replicate margin ' ' ++ more)) :
    (text.take (i + line.length + 1 + margin)).getLast? ≠ some '\\' := by
  have hsplit : text.take (i + line.length + 1 + margin) =
      text.take i ++ line ++ ('\n' :: List.replicate margin ' ') := by
    rw [Nat.add_assoc, Nat.add_assoc, List.take_add, htext, List.append_assoc, List.take_length_add_append,
      Nat.add_comm 1 margin, List.take_succ_cons, List.take_left' List.length_replicate]
  rw [hsplit, List.getLast?_append_of_ne_nil _ (List.cons_ne_nil _ _)]
  intro hlast
  rcases List.mem_cons.mp (List.mem_of_getLast? hlast) with hfeed | hblank
  · exact absurd hfeed (by decide)
  · exact absurd (List.eq_of_mem_replicate hblank) (by decide)

/-- No line of text is a cell. -/
theorem mode_ne_cell (first : Bool) :
    (if first && d.options.tables then LineMode.header else .plain) ≠ .cell := by
  split <;> exact LineMode.noConfusion

section Turn

variable {limit : Nat} {first : Bool} {before ps : List Piece} {stop : Nat}
  (hread : readLine (d.lineContext s i (if first && d.options.tables then .header else .plain)) =
    ⟨ps, stop + 1, .piece ⟨.softBreak, stop, stop + 1⟩⟩)
include hread

/-- Before a line that ends the paragraph, the break at the end of its last line is dropped. -/
theorem paragraphLines_last (htext : d.text.drop (stop + 1) = tail)
    (hends : Ends s.containers tail) :
    d.paragraphLines s (limit + 1) i first before = .text (before ++ ps) (stop + 1) := by
  obtain ⟨m, inside, henter, hskip, hunderline, hinterrupts⟩ := hends
  have hnone : (if (true && inside) = true then underline? m.rest else none) = none := by
    cases inside with
    | false => rfl
    | true => exact hunderline rfl
  rw [paragraphLines]
  simp only [hread, margin_of_drop htext, henter, hskip, hinterrupts, Nat.zero_lt_succ,
    decide_true, Bool.and_self, if_true, LineBreak.leftover, List.append_nil]
  simp only [hnone]

/-- Before a line that starts text, it goes on. -/
theorem paragraphLines_next {cs : List Char}
    (htext : d.text.drop (stop + 1) = List.replicate margin ' ' ++ cs) (hstarts : StartsText cs)
    (hcontinues : Continues s.containers margin) :
    d.paragraphLines s (limit + 1) i first before =
      d.paragraphLines s limit (stop + 1 + margin) false
        (before ++ ps ++ [⟨.softBreak, stop, stop + 1⟩]) := by
  have henter := hcontinues _ hstarts.solid
  rw [paragraphLines]
  simp only [hread, margin_of_drop htext, henter, skip_solid hstarts.solid, hstarts.underline,
    hstarts.interrupts, skipBlanks_solid hstarts.solid, atLineEnd_solid hstarts.solid,
    Bool.and_false, Bool.false_eq_true, if_false, ite_self]

end Turn

/-- The pieces of the lines of a paragraph are read one after another, up to a line that ends it. The
    induction is on the lines. -/
theorem paragraphLines_passage {lines : List (List Sign)} (hfull : lines ≠ [])
    (hlines : ∀ line ∈ lines, IsTextLine line)
    (htext : d.text.drop i = writtenLines margin lines ++ '\n' :: tail)
    (hfront : (d.text.take i).getLast? ≠ some '\\') (hcontinues : Continues s.containers margin)
    (hends : Ends s.containers tail) {limit : Nat} (hlimit : lines.length ≤ limit) (first : Bool)
    (before : List Piece) :
    d.paragraphLines s limit i first before =
      .text (before ++ linePieces margin i (lines.map lineAtoms))
        (i + (writtenLines margin lines).length + 1) := by
  induction lines generalizing i limit first before with
  | nil => exact absurd rfl hfull
  | cons line rest ih =>
      rw [List.length_cons] at hlimit
      obtain ⟨limit, rfl⟩ := Nat.exists_eq_add_of_le' (Nat.le_of_add_left_le hlimit)
      have hline := hlines line List.mem_cons_self
      set stop := i + (spell (lineAtoms line)).length with hstop
      have hread {more : List Char} (hmore : d.text.drop i = spell (lineAtoms line) ++ '\n' :: more) :
          readLine (d.lineContext s i (if first && d.options.tables then .header else .plain)) =
            ⟨pieces i i (lineAtoms line), stop + 1, .piece ⟨.softBreak, stop, stop + 1⟩⟩ :=
        readLine_atoms _ (mode_ne_cell first) hmore hline.reads hline.ne_nil hline.ends hfront
      cases rest with
      | nil =>
          rw [paragraphLines_last (hread htext) (drop_line htext) hends]
          rfl
      | cons next rest =>
          rcases List.forall_mem_cons.mp hlines with ⟨-, hrest⟩
          rcases drop_spellLines htext with ⟨hmore, hbelow⟩
          have hstarts := startsText_passage (List.cons_ne_nil next rest) hrest margin tail
          -- The margin stands between the line feed and the next line, so no backslash does.
          have hafter := ih (List.cons_ne_nil next rest) hrest hbelow (last_ne_slash hmore)
            (Nat.le_of_succ_le_succ hlimit) false
            (before ++ pieces i i (lineAtoms line) ++ [⟨.softBreak, stop, stop + 1⟩])
          have hlength : i + (writtenLines margin (line :: next :: rest)).length + 1 =
              stop + 1 + margin + (writtenLines margin (next :: rest)).length + 1 := by
            rw [writtenLines_eq, writtenLines_eq, List.map_cons, List.map_cons, Text.joinWith]
            simp only [hstop, List.length_append, List.length_cons, List.length_replicate]
            omega
          rw [paragraphLines_next (hread hmore) (drop_line hmore) hstarts hcontinues, hafter, hlength,
            List.append_assoc, List.append_assoc]
          rfl

/-- A paragraph is read to its end, once an open list has ended before it. -/
theorem paragraph_passage {lines : List (List Sign)} (hfull : lines ≠ [])
    (hlines : ∀ line ∈ lines, IsTextLine line)
    (htext : d.text.drop i = writtenLines margin lines ++ '\n' :: tail)
    (hfront : (d.text.take i).getLast? ≠ some '\\')
    (hcontinues : Continues (s.finishList i).containers margin)
    (hends : Ends (s.finishList i).containers tail) :
    let stop := i + (writtenLines margin lines).length + 1
    d.paragraph s [] i = ((s.finishList i).append
      (.leaf i stop (.paragraph (linePieces margin i (lines.map lineAtoms)))), stop) := by
  intro stop
  -- There is a turn for every character, and between two lines there is a line feed.
  have hlimit : lines.length ≤ d.text.length + 1 := by
    have hlength := congrArg List.length htext
    have hle := Text.length_le_joinWith ('\n' :: List.replicate margin ' ')
      (lines.map (spell <| lineAtoms ·)) (List.cons_ne_nil _ _)
    rw [List.length_map, ← writtenLines_eq] at hle
    rw [List.length_drop, List.length_append] at hlength
    omega
  have hread := paragraphLines_passage hfull hlines htext hfront hcontinues hends hlimit true []
  rw [paragraph]
  simp only [hread, List.nil_append]
  rfl

/-- A line that starts text begins a paragraph. -/
theorem leaf_text {cs : List Char} (h : StartsText cs) {taken : Nat}
    (htext : d.text.drop (i + taken) = cs) :
    d.leaf s i { rest := cs, taken } = d.paragraph s [] (i + taken) := by
  have hdefinitions : d.definitions (d.text.length + 1) s i (i + taken) =
      d.paragraph s [] (i + taken) := by
    rw [definitions]
    simp only [after, htext, h.definition]
  rw [leaf]
  simp only [indent_solid h.solid, h.html, h.thematic, h.heading, h.fence, hdefinitions]
  rfl

/-- Three asterisks alone on their line are a rule. -/
theorem leaf_rule :
    d.leaf s i { rest := '*' :: '*' :: '*' :: '\n' :: tail } =
      ((s.finishList i).append (.leaf i (i + 4) .thematicBreak), i + 4) := by
  have hsolid : ('*' :: '*' :: '*' :: '\n' :: tail).head?.any isSolid = true := rfl
  have hbreak : thematicBreak? ('*' :: '*' :: '*' :: '\n' :: tail) = some 4 := rfl
  have hhtml : htmlBlock? ('*' :: '*' :: '*' :: '\n' :: tail) = none := rfl
  rw [leaf]
  simp only [indent_solid hsolid, hhtml, hbreak]
  rfl

/-- The line feed behind a heading has no part in its length. -/
theorem headingLength_feed (cs : List Char) : headingLength (cs ++ ['\n']) = headingLength cs := by
  have htrim : Text.dropEndWhile (fun c => c = '\n' || c = '\r' || c = ' ') (cs ++ ['\n']) =
      Text.dropEndWhile (fun c => c = '\n' || c = '\r' || c = ' ') cs := by
    rw [Text.dropEndWhile, List.reverse_append, List.reverse_singleton, List.singleton_append,
      List.dropWhile_cons_of_pos (by decide), Text.dropEndWhile]
  have hle : (Text.dropEndWhile (fun c => c = '\n' || c = '\r' || c = ' ') cs).length ≤
      cs.length := by
    rw [Text.dropEndWhile, List.length_reverse]
    exact (List.dropWhile_sublist _).length_le.trans_eq List.length_reverse
  rw [headingLength, headingLength, htrim, List.take_append_of_le_length hle]

/-- The last piece of a line ends where the line does. -/
theorem exists_last_piece {as : List Atom} {start i : Nat} (hstart : start ≤ i)
    (hne : start < i ∨ as ≠ []) :
    ∃ init p, pieces start i as = init ++ [p] ∧ p.stop = i + (spell as).length := by
  induction as generalizing start i with
  | nil =>
      have hlt := hne.resolve_right (fun h => h rfl)
      exact ⟨[], ⟨.text, start, i⟩, if_pos hlt, rfl⟩
  | cons a as ih =>
      -- The last piece of what follows is that of the whole line.
      have hlater (front : List Piece) {start' i' : Nat} (hstart' : start' ≤ i')
          (hne' : start' < i' ∨ as ≠ []) (hlength : i' = i + a.written.length) :
          ∃ init p, front ++ pieces start' i' as = init ++ [p] ∧
            p.stop = i + (spell (a :: as)).length := by
        rcases ih hstart' hne' with ⟨init, p, hpieces, hstop⟩
        refine ⟨front ++ init, p, by rw [hpieces, List.append_assoc], ?_⟩
        rw [hstop, hlength, spell_cons, List.length_append, Nat.add_assoc]
      cases a with
      | bare c =>
          have hmore : start < i + 1 := Nat.lt_succ_of_le hstart
          exact hlater [] (Nat.le_of_lt hmore) (.inl hmore) rfl
      | escaped c =>
          rw [pieces]
          by_cases htick : c = '\x60'
          · rw [if_pos htick]
            by_cases hlast : as = []
            · subst hlast
              -- A backtick is a piece by itself, and nothing follows this one.
              refine ⟨flushed start i, ⟨.backticks 1 true, i + 1, i + 2⟩, ?_, rfl⟩
              rw [pieces, flushed_self]
            · rw [List.append_cons]
              exact hlater _ (Nat.le_refl _) (.inr hlast) rfl
          · rw [if_neg htick]
            exact hlater _ (Nat.le_succ _) (.inl (Nat.lt_succ_self _)) rfl
      | anchor id =>
          rw [pieces, List.append_cons, List.append_cons]
          have hlength : i + 4 + (idChars id).length = i + (Atom.anchor id).written.length := by
            simp only [Atom.written, List.length_cons]
            omega
          exact hlater _ (by omega) (.inl (by omega)) hlength

/-- Nothing is cut off. -/
theorem endPieces_concat (init : List Piece) (p : Piece) :
    endPieces p.stop (init ++ [p]) = init ++ [p] := by
  induction init with
  | nil => rfl
  | cons q init ih =>
      cases init with
      | nil => rfl
      | cons r init => exact congrArg (q :: ·) ih

section Heading

variable {depth : Nat} (hpos : 1 ≤ depth) (hle : depth ≤ 6) (cs : List Char)

/-- The marks of a heading are counted up to the space behind them. -/
theorem countWhile_marks :
    countWhile (· = '#') (List.replicate depth '#' ++ ' ' :: cs) = depth := by
  rw [countWhile, List.takeWhile_append_of_pos (by simp), List.takeWhile_cons_of_neg (by decide),
    List.append_nil, List.length_replicate]

include hpos hle

theorem headingDepth?_marks :
    headingDepth? (List.replicate depth '#' ++ ' ' :: cs) = some depth := by
  have hspace : (List.replicate depth '#' ++ ' ' :: cs)[depth]? = some ' ' := by
    rw [List.getElem?_append_right (by rw [List.length_replicate]), List.length_replicate,
      Nat.sub_self, List.getElem?_cons_zero]
  have hblank : Text.isMarkdownSpace ' ' = true := by decide
  simp only [headingDepth?, countWhile_marks, hspace, Option.map_some, Option.getD_some, hblank,
    hpos, hle, decide_true, Bool.and_self, if_true]

omit hle in
/-- No other block begins with such marks. -/
theorem startsLeaf_marks :
    StartsLeaf (List.replicate depth '#' ++ ' ' :: cs) ∧
      htmlBlock? (List.replicate depth '#' ++ ' ' :: cs) = none ∧
      thematicBreak? (List.replicate depth '#' ++ ' ' :: cs) = none := by
  obtain ⟨n, rfl⟩ := Nat.exists_eq_add_of_le' hpos
  rw [List.replicate_succ, List.cons_append]
  exact ⟨⟨rfl, rfl, fun hquote => absurd (Option.some.inj hquote) (by decide)⟩, rfl, rfl⟩

end Heading

/-- A title begins with a character that is no blank. -/
theorem exists_title_cons {line : List Sign} (h : IsTitle line) :
    ∃ c rest, spell (atoms none line) = c :: rest ∧ Text.isLineBlank c = false := by
  have hbegins := h.begins
  cases htitle : spell (atoms none line) with
  | nil =>
      rw [htitle] at hbegins
      cases hbegins
  | cons c rest =>
      rw [htitle, List.head?_cons, Option.any_some, Bool.not_eq_true'] at hbegins
      exact ⟨c, rest, rfl, hbegins⟩

/-- The pieces of a line end where it does, so none of them is cut off there. -/
theorem endPieces_pieces {as : List Atom} (hne : as ≠ []) (i : Nat) :
    endPieces (i + (spell as).length) (pieces i i as) = pieces i i as := by
  rcases exists_last_piece (Nat.le_refl i) (.inr hne) with ⟨init, p, hpieces, hstop⟩
  rw [hpieces, ← hstop, endPieces_concat]

/-- The text of a heading begins behind the space and ends where its line does. -/
theorem heading_title {depth : Nat} {line : List Sign} (h : IsTitle line)
    (htext : d.text.drop (i + depth) = ' ' :: (spell (atoms none line) ++ '\n' :: tail)) :
    let start := i + depth + 1
    let stop := start + (spell (atoms none line)).length + 1
    d.heading s i depth =
      (s.append (.leaf i stop (.heading depth (pieces start start (atoms none line)))), stop) := by
  intro start stop
  set title := spell (atoms none line)
  have hnext : d.text.drop start = title ++ '\n' :: tail := by
    rw [← List.drop_drop, htext, List.drop_one, List.tail_cons]
  obtain ⟨c, rest, htitle, hsolid⟩ : ∃ c rest, title = c :: rest ∧ Text.isLineBlank c = false :=
    exists_title_cons h
  have hne : title ≠ [] := by
    rw [htitle]
    exact List.cons_ne_nil c rest
  -- Of the blanks behind the number signs there is just the one that was written.
  have hcount : countWhile Text.isLineBlank (' ' :: (title ++ '\n' :: tail)) = 1 := by
    rw [countWhile, List.takeWhile_cons_of_pos (by decide), htitle, List.cons_append,
      List.takeWhile_cons_of_neg (by rw [hsolid]; exact Bool.false_ne_true)]
    rfl
  have hlast : (d.text.take start).getLast? ≠ some '\\' := by
    rw [List.take_add, htext, List.take_succ_cons, List.take_zero, List.getLast?_concat]
    exact fun hslash => absurd (Option.some.inj hslash) (by decide)
  have hread : readLine (d.lineContext s start .plain) =
      ⟨pieces start start (atoms none line), start + title.length + 1,
        .piece ⟨.softBreak, start + title.length, start + title.length + 1⟩⟩ :=
    readLine_atoms _ LineMode.noConfusion hnext h.reads hne h.ends hlast
  -- The line is read to its line feed, and what closes a heading is looked for in it then.
  have hslice : d.slice start (start + title.length + 1) = title ++ ['\n'] := by
    rw [slice, hnext, Nat.add_assoc, Nat.add_sub_cancel_left, List.take_length_add_append,
      List.take_succ_cons, List.take_zero]
  have hlength : headingLength (title ++ ['\n']) = title.length :=
    (headingLength_feed title).trans h.open_
  have hkept : endPieces (start + title.length) (pieces start start (atoms none line)) =
      pieces start start (atoms none line) :=
    endPieces_pieces (fun hnil => hne (congrArg spell hnil)) start
  have hend : lineEnd? (' ' :: (title ++ '\n' :: tail)) = none := rfl
  have hpos : title.length ≠ 0 := fun hzero => hne (List.length_eq_zero_iff.mp hzero)
  have hstart : i + depth + 1 = start := rfl
  rw [heading]
  simp only [after, htext, hend, hcount, hstart, hread, hslice, hlength, hpos, if_false,
    LineBreak.leftover, List.append_nil, hkept]
  rfl

/-- A heading is a block by itself. -/
theorem leaf_heading {depth : Nat} (hpos : 1 ≤ depth) (hle : depth ≤ 6) {line : List Sign}
    (h : IsTitle line) {cs : List Char}
    (hcs : cs = List.replicate depth '#' ++ ' ' :: (spell (atoms none line) ++ '\n' :: tail))
    (htext : d.text.drop i = cs) :
    let start := i + depth + 1
    let stop := start + (spell (atoms none line)).length + 1
    d.leaf s i { rest := cs } =
      ((s.finishList i).append (.leaf i stop (.heading depth (pieces start start (atoms none line)))),
        stop) := by
  have hmarks := startsLeaf_marks hpos (spell (atoms none line) ++ '\n' :: tail)
  have hdepth := headingDepth?_marks hpos hle (spell (atoms none line) ++ '\n' :: tail)
  rw [← hcs] at hmarks hdepth
  have hbehind : d.text.drop (i + depth) = ' ' :: (spell (atoms none line) ++ '\n' :: tail) := by
    rw [← List.drop_drop, htext, hcs, List.drop_left' List.length_replicate]
  rw [leaf]
  simp only [indent_solid hmarks.1.solid, hmarks.2, hdepth]
  exact heading_title h hbehind

end Document

end Anchormark.Markdown
