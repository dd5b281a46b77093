import Anchormark.Proofs.Anchor.RoundTrip
import Anchormark.Proofs.Note.Atoms
import Anchormark.Proofs.Render.Containers
import Anchormark.Proofs.Render.Content
import Anchormark.Proofs.Render.LineMarks

/-!
# Writing a Note

The renderer works on nodes and on strings: it escapes each text on its own, puts the parts of a
paragraph back to back, and goes over the starts of the lines of the whole. The atoms of a note say
the same line by line, so the tree of a note is written as the note is.

## Theorems

* `spell_atoms`: What is written for the stretches of a run, back to back.
* `spell_escapeStart`: Making the start of a line safe, on characters and on atoms.
* `Sign.inline_nodes`: The output of running text.
* `NoteBlock.output_node`: The output of a block.
* `Note.toMarkdown_tree`: The tree of a note is written as the note is.
-/

namespace Anchormark

@[simp] theorem spell_nil : spell [] = [] := rfl

@[simp] theorem spell_cons (a : Atom) (as : List Atom) : spell (a :: as) = a.written ++ spell as :=
  rfl

@[simp] theorem spell_append (as bs : List Atom) : spell (as ++ bs) = spell as ++ spell bs :=
  List.flatMap_append

/-- What is written for an anchor. -/
def anchorChars (id : String) : List Char :=
  Atom.written (.anchor id)

/-- A run is written stretch by stretch: the first text, and every anchor with the text behind it.
    The induction is on the signs; a character goes on with the text that it stands in. -/
theorem spell_atoms (signs : List Sign) (before : Option Char) (i : Nat) :
    spell (atoms before signs) = Escape.escapeFrom [] i before (Sign.lead signs) ++
      (Sign.marked signs).flatMap fun m =>
        anchorChars m.1 ++ Escape.escapeFrom [] 0 none m.2 := by
  induction signs generalizing before i with
  | nil => rfl
  | cons sign rest ih =>
      cases sign with
      | char c =>
          -- No brace begins a block, so the list of those that would is empty.
          have hescape : (if c = '_' then !Escape.isIntraword before (Sign.lead rest).head?
              else if c = '{' then decide (i ∈ ([] : List Nat)) else Escape.isAlwaysEscaped c) =
                mustEscape before c (Sign.lead rest).head? := by
            rw [mustEscape]
            by_cases hbrace : c = '{'
            · subst hbrace
              rfl
            · rw [if_neg hbrace]
          rw [atoms, spell_cons, ih (some c) (i + 1), ofChar, Sign.lead_char, Sign.marked_char,
            Escape.escapeFrom, hescape]
          split <;> rfl
      | anchor id =>
          rw [atoms, spell_cons, ih none 0, Sign.lead_anchor, Sign.marked_anchor,
            List.flatMap_cons, Escape.escapeFrom, List.nil_append, List.append_assoc]
          rfl

/-- An underscore stands at the start of a word if no letter or digit is before it, and that is what a
    line feed is not. -/
theorem mustEscape_behind_feed (c : Char) (next : Option Char) :
    mustEscape (some '\n') c next = mustEscape none c next := rfl

/-- The first character of a line does not depend on a line feed before it. -/
theorem atoms_feed (signs : List Sign) : atoms (some '\n') signs = atoms none signs := by
  cases signs with
  | nil => rfl
  | cons sign rest =>
      cases sign with
      | char c => rw [atoms, atoms, ofChar, ofChar, mustEscape_behind_feed]
      | anchor id => rfl

/-- Nor does the last one on a line feed behind it. -/
theorem atoms_append (before : Option Char) (line rest : List Sign) :
    atoms before (line ++ .char '\n' :: rest) =
      atoms before line ++ .bare '\n' :: atoms none rest := by
  induction line generalizing before with
  | nil =>
      rw [List.nil_append, atoms.eq_2, atoms_feed]
      rfl
  | cons sign line ih =>
      cases sign with
      | char c =>
          have hnext : mustEscape before c (Sign.lead (line ++ .char '\n' :: rest)).head? =
              mustEscape before c (Sign.lead line).head? := by
            cases line with
            | nil => rfl
            | cons sign line => cases sign <;> rfl
          rw [List.cons_append, atoms, ih, ofChar, hnext]
          rfl
      | anchor id =>
          rw [List.cons_append, atoms, ih]
          rfl

/-- The lines of a passage are written one by one. -/
theorem spell_atoms_joined (lines : List (List Sign)) :
    spell (atoms none (Sign.joined lines)) =
      Text.unlines (lines.map fun line => spell (atoms none line)) := by
  induction lines with
  | nil => rfl
  | cons line rest ih =>
      cases rest with
      | nil => rfl
      | cons next rest =>
          rw [Sign.joined, atoms_append, spell_append, spell_cons, ih]
          exact (Text.unlines_cons_cons _ _ _).symm

/-- Every atom but a bare character begins with a backslash or a bracket. -/
theorem exists_spell_cons {a : Atom} (ha : ∀ c, a ≠ .bare c) (as : List Atom) :
    ∃ c rest, spell (a :: as) = c :: rest ∧ (c = '\\' ∨ c = '[') := by
  cases a with
  | bare c => exact absurd rfl (ha c)
  | escaped c => exact ⟨'\\', _, rfl, .inl rfl⟩
  | anchor id => exact ⟨'[', _, rfl, .inr rfl⟩

/-- The rest of a number at the start of a line. The induction is on its digits. -/
theorem spell_escapeNumber (as : List Atom) :
    spell (escapeNumber as) =
      match (spell as).dropWhile Char.isDigit with
      | mark :: after =>
        if (mark = '.' || mark = ')') && Escape.endsMarker after then
          (spell as).takeWhile Char.isDigit ++ '\\' :: mark :: after
        else spell as
      | [] => spell as := by
  -- Whatever is not bare begins with a backslash or a bracket, so the number has ended before it.
  have hother (a : Atom) (ha : ∀ c, a ≠ .bare c) (as : List Atom) :
      ∃ c rest, spell (a :: as) = c :: rest ∧ c.isDigit = false ∧ c ≠ '.' ∧ c ≠ ')' := by
    rcases exists_spell_cons ha as with ⟨c, rest, hspell, rfl | rfl⟩
    · exact ⟨_, rest, hspell, by decide⟩
    · exact ⟨_, rest, hspell, by decide⟩
  induction as with
  | nil => rfl
  | cons a as ih =>
      by_cases hbare : ∃ c, a = .bare c
      · rcases hbare with ⟨c, rfl⟩
        have hspell : spell (.bare c :: as) = c :: spell as := rfl
        by_cases hdigit : c.isDigit = true
        · rw [escapeNumber, if_pos hdigit, spell_cons, ih, hspell, List.dropWhile_cons_of_pos hdigit,
            List.takeWhile_cons_of_pos hdigit]
          -- A digit more in front changes nothing about what stands behind the digits.
          cases (spell as).dropWhile Char.isDigit with
          | nil => rfl
          | cons mark after =>
              dsimp only
              split <;> rfl
        · -- This is the character behind the digits, and on both sides it alone is asked for.
          rw [escapeNumber, if_neg hdigit, hspell, List.dropWhile_cons_of_neg hdigit,
            List.takeWhile_cons_of_neg hdigit]
          dsimp only
          split <;> rfl
      · rw [not_exists] at hbare
        rcases hother a hbare as with ⟨c, rest, hspell, hdigit, hdot, hparen⟩
        have hself : escapeNumber (a :: as) = a :: as := by
          cases a with
          | bare c => exact absurd rfl (hbare c)
          | escaped c => rfl
          | anchor id => rfl
        rw [hself, hspell, List.dropWhile_cons_of_neg (by rw [hdigit]; exact Bool.false_ne_true)]
        simp only [hdot, hparen, decide_false, Bool.or_false, Bool.false_and, Bool.false_eq_true,
          if_false]

/-- Making the start safe puts a backslash in and takes nothing out. -/
theorem mem_escapeLineStart_of_mem {c : Char} {line : List Char} (hc : c ∈ line) :
    c ∈ Escape.escapeLineStart line := by
  unfold Escape.escapeLineStart
  split
  · exact hc
  · next d rest =>
      split
      · exact List.mem_cons_of_mem _ hc
      · split
        · exact List.mem_cons_of_mem _ hc
        · split
          · split
            · next mark after hdrop =>
                -- Here the backslash stands within the line, between the digits and their mark.
                rw [← List.takeWhile_append_dropWhile (p := Char.isDigit) (l := d :: rest),
                  hdrop] at hc
                split
                · refine List.mem_append.mpr ((List.mem_append.mp hc).imp_right fun hmem => ?_)
                  exact List.mem_cons_of_mem _ hmem
                · rwa [← hdrop, List.takeWhile_append_dropWhile] at hc
            · exact hc
          · exact hc

/-- The start of a line is made safe on atoms as it is on characters. -/
theorem spell_escapeStart (as : List Atom) :
    spell (escapeStart as) = Escape.escapeLineStart (spell as) := by
  cases as with
  | nil => rfl
  | cons a as =>
      by_cases hbare : ∃ c, a = .bare c
      · rcases hbare with ⟨c, rfl⟩
        have hspell : spell (.bare c :: as) = c :: spell as := rfl
        rw [hspell]
        by_cases hdigit : c.isDigit = true
        · -- No mark is a digit, so of all cases of the renderer only that of a number is left.
          have hne {d : Char} (hd : d.isDigit = false) : c ≠ d := by
            rintro rfl
            exact Bool.false_ne_true (hd.symm.trans hdigit)
          have hsign : c ≠ '#' := hne rfl
          have hquote : c ≠ '>' := hne rfl
          have hdash : c ≠ '-' := hne rfl
          have hplus : c ≠ '+' := hne rfl
          rw [Escape.escapeLineStart_number hdigit, escapeStart]
          simp only [hsign, hquote, hdash, hplus, hdigit, decide_false, Bool.or_false,
            Bool.false_and, Bool.false_eq_true, if_false, if_true]
          rw [spell_cons, spell_escapeNumber, List.dropWhile_cons_of_pos hdigit,
            List.takeWhile_cons_of_pos hdigit]
          cases (spell as).dropWhile Char.isDigit with
          | nil => rfl
          | cons mark after =>
              dsimp only
              split <;> rfl
        · rw [escapeStart, Escape.escapeLineStart, if_neg hdigit, if_neg hdigit]
          split
          · rfl
          · split <;> rfl
      · rw [not_exists] at hbare
        rcases exists_spell_cons hbare as with ⟨c, rest, hspell, hc⟩
        -- A backslash or a bracket needs nothing.
        have hself : escapeStart (a :: as) = a :: as := by
          cases a with
          | bare c => exact absurd rfl (hbare c)
          | escaped c => rfl
          | anchor id => rfl
        rw [hself, hspell]
        rcases hc with rfl | rfl <;> rfl

/-- What is no markup is none of these. -/
theorem not_mem_of_isInert {before : Option Char} {c : Char} {rest : List Char}
    (h : isInert before c rest = true) :
    c ∉ ['\n', '\r', '\\', '*', '\x60', '<', '[', ']', '|'] := by
  unfold isInert at h
  intro hmem
  have hplain : c ≠ '_' ∧ c ≠ '~' ∧ c ≠ '&' ∧ c ≠ '!' := by
    simp only [List.mem_cons, List.not_mem_nil, or_false] at hmem
    rcases hmem with rfl | rfl | rfl | rfl | rfl | rfl | rfl | rfl | rfl <;> decide
  simp only [hplain, decide_false, Bool.or_false, Bool.false_eq_true, if_false,
    decide_eq_true_eq] at h
  exact h hmem

/-- Each of several characters that are no markup is none. -/
theorem isInert_of_areInert {before : Option Char} {cs rest : List Char}
    (h : areInert before cs rest = true) {c : Char} (hc : c ∈ cs) :
    ∃ before' rest', isInert before' c rest' = true := by
  induction cs generalizing before with
  | nil => exact absurd hc List.not_mem_nil
  | cons d cs ih =>
      rw [areInert, Bool.and_eq_true] at h
      rcases List.mem_cons.mp hc with rfl | hc
      · exact ⟨before, cs ++ rest, h.1⟩
      · exact ih h.2 hc

/-- A line that is read back holds no character that ends a line. -/
theorem not_mem_spell {before : Option Char} {as : List Atom} (h : readsBack before as = true)
    {e : Char} (he : e = '\n' ∨ e = '\r') : e ∉ spell as := by
  -- A line end is never inert, so a bare character and the characters of a block are none.
  have hinert {before : Option Char} {c : Char} {rest : List Char}
      (hc : isInert before c rest = true) : e ≠ c := by
    rintro rfl
    rcases he with rfl | rfl <;> exact not_mem_of_isInert hc (by decide)
  induction as generalizing before with
  | nil => exact List.not_mem_nil
  | cons a as ih =>
      cases a with
      | bare c =>
          rw [readsBack, Bool.and_eq_true] at h
          rw [spell_cons, List.mem_append, not_or, Atom.written, List.mem_singleton]
          exact ⟨hinert h.1, ih h.2⟩
      | escaped c =>
          rw [readsBack, Bool.and_eq_true] at h
          rw [spell_cons, List.mem_append, not_or, Atom.written, List.mem_cons, List.mem_singleton]
          refine ⟨?_, ih h.2⟩
          rintro (rfl | rfl)
          · exact absurd he (by decide)
          · rcases he with rfl | rfl <;> exact absurd h.1 (by decide)
      | anchor id =>
          rw [readsBack, Bool.and_eq_true] at h
          rw [spell_cons, List.mem_append, not_or]
          refine ⟨fun hmem => ?_, ih h.2⟩
          rw [Atom.written] at hmem
          simp only [List.mem_cons] at hmem
          rcases hmem with rfl | rfl | rfl | rfl | hmem
          · exact absurd he (by decide)
          · exact absurd he (by decide)
          · exact absurd he (by decide)
          · exact absurd he (by decide)
          · rcases isInert_of_areInert h.1 hmem with ⟨before', rest', hid⟩
            exact hinert hid rfl

/-- In particular it is one line. -/
theorem feed_not_mem_spell {before : Option Char} {as : List Atom}
    (h : readsBack before as = true) : '\n' ∉ spell as :=
  not_mem_spell h (.inl rfl)

/-- A line of a paragraph is not empty. -/
theorem spell_ne_nil {as : List Atom} (h : beginsText as = true) : spell as ≠ [] := by
  cases as with
  | nil => cases h
  | cons a as => cases a <;> exact List.cons_ne_nil _ _

namespace IsTextLine

variable {line : List Sign} (h : IsTextLine line)
include h

theorem feed_not_mem : '\n' ∉ spell (lineAtoms line) :=
  feed_not_mem_spell h.reads

theorem ne_nil : spell (lineAtoms line) ≠ [] :=
  spell_ne_nil h.begins

theorem feed_not_mem_atoms : '\n' ∉ spell (atoms none line) := by
  intro hmem
  refine h.feed_not_mem ?_
  rw [lineAtoms, spell_escapeStart]
  exact mem_escapeLineStart_of_mem hmem

end IsTextLine

/-- A passage is written line by line. -/
theorem writtenLines_eq (margin : Nat) (lines : List (List Sign)) :
    writtenLines margin lines = Text.joinWith ('\n' :: List.replicate margin ' ')
      (lines.map (spell <| lineAtoms ·)) := by
  rw [writtenLines, spellLines, List.map_map]
  rfl

/-- The lines of a passage, as they are written without a margin. -/
theorem lines_writtenLines {lines : List (List Sign)} (h : IsPassage lines) :
    writtenLines 0 lines = Text.unlines (lines.map (spell <| lineAtoms ·)) ∧
      Text.lines (writtenLines 0 lines) = lines.map (spell <| lineAtoms ·) := by
  have hlines : writtenLines 0 lines = Text.unlines (lines.map (spell <| lineAtoms ·)) :=
    writtenLines_eq 0 lines
  rw [hlines]
  refine ⟨rfl, Text.lines_unlines (fun hnil => h.full (List.map_eq_nil_iff.mp hnil)) ?_⟩
  exact List.forall_mem_map.mpr fun line hline => (h.each line hline).feed_not_mem

/-- The renderer makes the starts of the lines safe once the paragraph is put together. -/
theorem escapeLineStarts_passage {lines : List (List Sign)} (h : IsPassage lines) :
    Escape.escapeLineStarts (spell (atoms none (Sign.joined lines))) = writtenLines 0 lines := by
  have hlines : Text.lines (Text.unlines (lines.map fun line => spell (atoms none line))) =
      lines.map fun line => spell (atoms none line) := by
    refine Text.lines_unlines (fun hnil => h.full (List.map_eq_nil_iff.mp hnil)) ?_
    exact List.forall_mem_map.mpr fun line hline => (h.each line hline).feed_not_mem_atoms
  rw [spell_atoms_joined, Escape.escapeLineStarts, hlines, List.map_map, (lines_writtenLines h).1]
  refine congrArg Text.unlines (List.map_congr_left fun line _ => ?_)
  rw [Function.comp_apply, lineAtoms, spell_escapeStart]

/-- The outputs of two parts, back to back. -/
theorem Rendering.inline_append {rs rs' : List Rendering} {a b : String}
    (h : inline rs = .ok a) (h' : inline rs' = .ok b) : inline (rs ++ rs') = .ok (a ++ b) := by
  rw [inline] at h h' ⊢
  cases houts : outputs rs with
  | error e =>
      rw [houts] at h
      cases h
  | ok outs =>
      cases houts' : outputs rs' with
      | error e =>
          rw [houts'] at h'
          cases h'
      | ok outs' =>
          rw [houts] at h
          rw [houts'] at h'
          cases h
          cases h'
          rw [outputs] at houts houts' ⊢
          rw [List.mapM_append, houts, houts']
          exact congrArg Except.ok String.join_append

namespace Sign

variable (o : RenderOptions)

/-- The output of the text between two anchors. -/
theorem inline_textNodes {cs : List Char} (hfree : Escape.blockBraces cs = []) :
    Rendering.inline ((textNodes cs).map (Node.renderWith anchorHandlers.choose o)) =
      .ok (String.ofList (Escape.escapeFrom [] 0 none cs)) := by
  cases cs with
  | nil => rfl
  | cons c cs =>
      have hout := Node.output_text (h := anchorHandlers) rfl o
        (t := { kind := .text (String.ofList (c :: cs)) }) rfl
      rw [String.toList_ofList, Escape.escapeText, hfree] at hout
      exact Rendering.inline_singleton hout

/-- The output of an anchor. -/
theorem output_anchorNode {id : String} (hid : IsAnchorId id) :
    ((anchorNode id).renderWith anchorHandlers.choose o).output =
      .ok (String.ofList (anchorChars id)) := by
  have hout : ((anchorNode id).renderWith anchorHandlers.choose o).output =
      .ok ({ id } : Anchor).toMarkdown := rfl
  rw [hout, toMarkdown_eq_idBlock hid]
  refine congrArg Except.ok (String.toList_inj.mp ?_)
  rw [String.toList_append, toList_idBlock]
  exact Eq.symm String.toList_ofList

/-- The output of running text. -/
theorem inline_nodes {signs : List Sign} (h : IsRun signs) :
    Rendering.inline ((nodes signs).map (Node.renderWith anchorHandlers.choose o)) =
      .ok (String.ofList (spell (atoms none signs))) := by
  -- Anchors and the texts behind them come in turns. The induction is on these.
  have hmarked : ∀ ms : List (String × List Char), (∀ m ∈ ms, IsAnchorId m.1) →
      (∀ m ∈ ms, Escape.blockBraces m.2 = []) →
      Rendering.inline ((ms.flatMap fun m => anchorNode m.1 :: textNodes m.2).map
        (Node.renderWith anchorHandlers.choose o)) =
          .ok (String.ofList (ms.flatMap fun m =>
            anchorChars m.1 ++ Escape.escapeFrom [] 0 none m.2)) := by
    intro ms hids hfree
    induction ms with
    | nil => rfl
    | cons m ms ih =>
        rw [List.forall_mem_cons] at hids hfree
        have hanchor := Rendering.inline_singleton (output_anchorNode o hids.1)
        rw [List.flatMap_cons, List.flatMap_cons, List.map_append, List.map_cons,
          String.ofList_append, String.ofList_append]
        refine Rendering.inline_append ?_ (ih hids.2 hfree.2)
        exact Rendering.inline_append hanchor (inline_textNodes o hfree.1)
  have hfree := List.forall_mem_cons.mp h.free
  rw [spell_atoms signs none 0, nodes, List.map_append, String.ofList_append]
  exact Rendering.inline_append (inline_textNodes o hfree.1)
    (hmarked _ h.ids (List.forall_mem_map.mp hfree.2))

end Sign

namespace NoteBlock

variable (o : RenderOptions)

/-- The output of a paragraph. -/
theorem output_paragraphNode {lines : List (List Sign)} (h : IsPassage lines) :
    ((paragraphNode lines).renderWith anchorHandlers.choose o).output =
      .ok (String.ofList (writtenLines 0 lines)) := by
  rw [Node.output_renderWith o (show anchorHandlers.choose _ = some Builtin.paragraph from rfl),
    Builtin.paragraph, paragraphNode, Sign.inline_nodes o h.run]
  simp only [bind, Except.bind, String.toList_ofList, escapeLineStarts_passage h]
  rfl

/-- A passage has something to say, and no line feed at its end. -/
theorem endsInLine_writtenLines {lines : List (List Sign)} (h : IsPassage lines) (margin : Nat) :
    Text.EndsInLine (writtenLines margin lines) := by
  rw [writtenLines_eq]
  refine Text.endsInLine_joinWith _ (fun hnil => h.full (List.map_eq_nil_iff.mp hnil)) ?_
  exact List.forall_mem_map.mpr fun line hline =>
    Text.endsInLine_of_line (h.each line hline).ne_nil (h.each line hline).feed_not_mem

/-- The output of a heading. -/
theorem output_heading {depth : Nat} {line : List Sign} (h : (heading depth line).IsSound) :
    ((heading depth line).node.renderWith anchorHandlers.choose o).output =
      .ok (String.ofList ((heading depth line).written o)) := by
  rcases h with ⟨hpos, hle, htitle, hrun⟩
  have hdepth : max 1 (min depth 6) = depth := by omega
  have hfeed : '\n' ∉ spell (atoms none line) := feed_not_mem_spell htitle.reads
  have hline : Builtin.oneLine (spell (atoms none line)) = spell (atoms none line) := by
    refine (List.map_congr_left fun c hc => ?_).trans (List.map_id _)
    rw [if_neg (ne_of_mem_of_not_mem hc hfeed), id]
  have hfull : (String.ofList (spell (atoms none line))).isEmpty = false := by
    rw [String.isEmpty_eq_false_iff]
    intro hempty
    have hbegins := htitle.begins
    rw [String.ofList_injective (hempty.trans String.ofList_nil.symm)] at hbegins
    exact Bool.false_ne_true hbegins
  have hinline := Sign.inline_nodes o hrun
  rw [Node.output_renderWith o (show anchorHandlers.choose _ = some Builtin.heading from rfl), node,
    Builtin.heading]
  simp only [hinline, bind, Except.bind, hfull, Bool.false_eq_true, if_false, hdepth,
    String.toList_ofList, hline]
  refine congrArg Except.ok (String.toList_inj.mp ?_)
  simp [Builtin.repeated, written]

/-- A margin before the later lines may as well belong to what stands between two lines. -/
theorem unlines_margin (margin first : List Char) (others : List (List Char)) :
    Text.unlines (first :: others.map (margin ++ ·)) =
      Text.joinWith ('\n' :: margin) (first :: others) := by
  induction others generalizing first with
  | nil => rfl
  | cons next others ih =>
      rw [List.map_cons, Text.unlines_cons_cons, Text.joinWith, ← ih]
      have hgrow : Text.unlines ((margin ++ next) :: others.map (margin ++ ·)) =
          margin ++ Text.unlines (next :: others.map (margin ++ ·)) := by
        cases others with
        | nil => rfl
        | cons other others => simp only [List.map_cons, Text.unlines_cons_cons, List.append_assoc]
      rw [hgrow]
      simp only [List.append_assoc, List.cons_append]

/-- An item sets its lines off by its marker. -/
theorem indentItem_writtenLines {lines : List (List Sign)} (h : IsPassage lines)
    (marker : List Char) (column : Nat) :
    Builtin.indentItem marker column (writtenLines 0 lines) =
      marker ++ List.replicate (column - marker.length) ' ' ++ writtenLines column lines := by
  rcases List.exists_cons_of_ne_nil h.full with ⟨first, others, rfl⟩
  have hothers : ((others.map (spell <| lineAtoms ·)).map fun l =>
      if l.isEmpty then [] else Table.blanks column ++ l) =
        (others.map (spell <| lineAtoms ·)).map (Table.blanks column ++ ·) := by
    refine List.map_congr_left (List.forall_mem_map.mpr fun line hline => ?_)
    rw [if_neg]
    rw [List.isEmpty_iff]
    exact (h.each line (List.mem_cons_of_mem first hline)).ne_nil
  rw [Builtin.indentItem, Builtin.indentLines, (lines_writtenLines h).2]
  simp only [List.map_cons]
  rw [hothers, unlines_margin, writtenLines_eq, List.map_cons]
  cases others <;> simp [Text.joinWith, Table.blanks]

/-- The output of an item. -/
theorem item_itemNode (hvalid : o.validate = .ok ()) (first : Option Nat) (spread : Bool) (i : Nat)
    {lines : List (List Sign)} (h : IsPassage lines) :
    let r := (itemNode spread lines).renderWith anchorHandlers.choose o
    Builtin.item o (Builtin.itemMarker o first.isSome first i) r.node r.parts =
      .ok (String.ofList (writtenItem o first spread i lines)) := by
  intro r
  have hmarker := Builtin.isMarker_itemMarker o first.isSome first i
  have hfull : String.ofList (writtenLines 0 lines) ≠ "" := fun hempty =>
    (endsInLine_writtenLines h 0).ne_nil (String.ofList_injective hempty)
  have houtput := output_paragraphNode o h
  have hparts : r.parts = [(paragraphNode lines).renderWith anchorHandlers.choose o] := rfl
  rw [Builtin.item_eq o _ r.parts (show r.node.kind = .listItem spread none from rfl), hparts,
    Builtin.blocks_singleton, houtput]
  · simp only [Functor.map, Except.map, Layer.wrap, Builtin.taskBox, List.nil_append,
      String.toList_ofList, Builtin.byteLength_of_isMarker hvalid hmarker,
      indentItem_writtenLines h]
    rfl
  · rw [houtput]
    exact fun heq => hfull (Except.ok.inj heq)

/-- The outputs of the items of a list. -/
theorem items_itemNodes (hvalid : o.validate = .ok ()) (first : Option Nat) (spread : Bool) (i : Nat)
    {items : List (List (List Sign))} (h : ∀ lines ∈ items, IsPassage lines) :
    Builtin.items o first.isSome first i
        ((items.map (itemNode spread)).map (Node.renderWith anchorHandlers.choose o)) =
      .ok ((writtenItems o first spread i items).map String.ofList) := by
  induction items generalizing i with
  | nil => rfl
  | cons lines items ih =>
      rw [List.forall_mem_cons] at h
      rw [List.map_cons, List.map_cons, Builtin.items, item_itemNode o hvalid first spread i h.1,
        ih (i + 1) h.2]
      rfl

/-- The output of a block. -/
theorem output_node (hvalid : o.validate = .ok ()) {e : NoteBlock} (h : e.IsSound) :
    (e.node.renderWith anchorHandlers.choose o).output = .ok (String.ofList (e.written o)) := by
  cases e with
  | paragraph lines => exact output_paragraphNode o h
  | heading depth line => exact output_heading o h
  | rule => rfl
  | list first spread items =>
      have hitems := items_itemNodes o hvalid first spread 0 h.2.2.2
      have hgap : (if spread then "\n\n" else "\n") = String.ofList (itemGap spread) := by
        cases spread <;> rfl
      rw [Node.output_renderWith o (show anchorHandlers.choose _ = some Builtin.list from rfl), node,
        Builtin.list]
      simp only [hitems, bind, Except.bind, hgap, Text.intercalate_ofList]
      rfl

/-- An item ends with its text. -/
theorem endsInLine_writtenItem (first : Option Nat) (spread : Bool) (i : Nat)
    {lines : List (List Sign)} (h : IsPassage lines) :
    Text.EndsInLine (writtenItem o first spread i lines) :=
  (endsInLine_writtenLines h _).append_left _

/-- A block has something to say, and no line feed at its end. -/
theorem endsInLine_written {e : NoteBlock} (h : e.IsSound) : Text.EndsInLine (e.written o) := by
  cases e with
  | paragraph lines => exact endsInLine_writtenLines h 0
  | heading depth line =>
      rcases h with ⟨-, -, htitle, -⟩
      have hne : spell (atoms none line) ≠ [] := by
        intro hnil
        have hbegins := htitle.begins
        rw [hnil] at hbegins
        exact Bool.false_ne_true hbegins
      have hends := Text.endsInLine_of_line hne (feed_not_mem_spell htitle.reads)
      exact (hends.append_left [' ']).append_left _
  | rule => exact ⟨['*', '*'], '*', rfl, by decide⟩
  | list first spread items =>
      rcases h with ⟨hne, -, -, hitems⟩
      have hfull : writtenItems o first spread 0 items ≠ [] := by
        cases items with
        | nil => exact absurd rfl hne
        | cons lines items => exact List.cons_ne_nil _ _
      refine Text.endsInLine_joinWith _ hfull ?_
      -- The number of the first item is of no account here.
      clear hne hfull
      generalize 0 = i
      induction items generalizing i with
      | nil => exact List.forall_mem_nil _
      | cons lines items ih =>
          rw [List.forall_mem_cons] at hitems
          exact List.forall_mem_cons.mpr
            ⟨endsInLine_writtenItem o first spread i hitems.1, ih hitems.2 (i + 1)⟩

end NoteBlock

/-- The tree of a note is written as the note is. -/
theorem Note.toMarkdown_tree {o : RenderOptions} (hvalid : o.validate = .ok ()) {note : Note}
    (h : note.IsSound) :
    note.tree.toMarkdown anchorHandlers o = .ok (String.ofList (note.written o)) := by
  have houts : Rendering.outputs (note.tree.children.map (Node.renderWith anchorHandlers.choose o)) =
      .ok ((note.map (NoteBlock.written o)).map String.ofList) := by
    rw [Note.tree, List.map_map, List.map_map]
    exact Rendering.outputs_of_forall fun e he => NoteBlock.output_node o hvalid (h.entries e he)
  -- Every block ends with a character that is no blank, so it is not empty, and only the line feed
  -- at the very end is added.
  have hends : ∀ w ∈ note.map (NoteBlock.written o), Text.EndsInLine w :=
    List.forall_mem_map.mpr fun e he => NoteBlock.endsInLine_written o (h.entries e he)
  have hfull : ∀ out ∈ (note.map (NoteBlock.written o)).map String.ofList,
      (!out.isEmpty) = true := by
    refine List.forall_mem_map.mpr fun w hw => ?_
    rw [Bool.not_eq_true', String.isEmpty_eq_false_iff]
    exact fun hempty => (hends w hw).ne_nil (String.ofList_injective hempty)
  -- Blocks are joined with an empty line; an empty one would be left out.
  have hrender : note.tree.render anchorHandlers o =
      .ok (String.ofList (Text.joinWith ['\n', '\n'] (note.map (NoteBlock.written o)))) := by
    rw [Node.render, Node.output_renderWith o
      (show anchorHandlers.choose _ = some Builtin.root from rfl), Builtin.root, Builtin.blocks,
      houts]
    simp only [bind, Except.bind, List.filter_eq_self.mpr hfull]
    exact congrArg Except.ok (Text.intercalate_ofList ['\n', '\n'] _)
  rw [Node.toMarkdown, hrender, Note.written]
  simp only [bind, Except.bind, String.toList_ofList]
  cases note with
  | nil => rfl
  | cons e note =>
      have hne : (e :: note).map (NoteBlock.written o) ≠ [] := List.cons_ne_nil _ _
      have hlast := Text.endsInLine_joinWith ['\n', '\n'] hne hends
      rw [hlast.dropEndWhile]
      split
      · next hnil => exact absurd hnil hlast.ne_nil
      · rfl

end Anchormark
