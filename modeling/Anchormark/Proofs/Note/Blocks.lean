import Anchormark.Proofs.Note.Items
import Mathlib.Data.List.Forall2

/-!
# The Blocks of a Note

A document is read block by block, and between two blocks of a note little can be open: nothing at
all, or a list with the item that was read last. That list ends before the next block, unless this is
an item with the same mark. So it is enough to follow how one step takes one block, one item or one
empty line, and which blocks have been finished then.

Where a container ends depends on what follows it, and nothing else does. The blocks that a note is
read as are therefore described by a relation that leaves this open.

## Main definitions

* `Holds`: pieces that were read from these lines.
* `ReadsItem`, `Reads`: the blocks that the items and the blocks of a note are read as.
* `Listing`, `Between`: the states between two blocks of a note.
* `Reaches`: reading goes on in another state at another place.

## Theorems

* `Between.step_leaf`, `Between.step_item`: One step takes one block, or one item.
* `Between.reaches_note`: All steps take all blocks.
* `reads_blocks`: What a note is read as.
-/

namespace Anchormark.Markdown

/-- The pieces were read from these lines, the first of which begins at index `i`. They belong to a
    block that ends at index `stop`. -/
structure Holds (d : Document) (margin : Nat) (lines : List (List Atom)) (i stop : Nat)
    (ps : List Piece) : Prop where
  pieces : ps = linePieces margin i lines
  text : ∃ tail, (d.text.take stop).drop i = spellLines margin lines ++ tail

/-- The block that an item with this text is read as. -/
inductive ReadsItem (d : Document) (lines : List (List Sign)) : Block → Prop
  | item {start stop column i stop' : Nat} {ps : List Piece}
      (h : Holds d column (lines.map lineAtoms) i stop' ps) :
      ReadsItem d lines (.container start stop (.item column) [.leaf i stop' (.paragraph ps)])

/-- The block that a block of a note is read as. -/
inductive Reads (d : Document) : NoteBlock → Block → Prop
  | paragraph {lines : List (List Sign)} {i stop : Nat} {ps : List Piece}
      (h : Holds d 0 (lines.map lineAtoms) i stop ps) :
      Reads d (.paragraph lines) (.leaf i stop (.paragraph ps))
  | heading {depth : Nat} {line : List Sign} {start i stop : Nat} {ps : List Piece}
      (h : Holds d 0 [atoms none line] i stop ps) :
      Reads d (.heading depth line) (.leaf start stop (.heading depth ps))
  | rule {start stop : Nat} : Reads d .rule (.leaf start stop .thematicBreak)
  | list {first : Option Nat} {spread : Bool} {items : List (List (List Sign))} {start stop : Nat}
      {mark : Char} {blocks : List Block} (h : List.Forall₂ (ReadsItem d) items blocks) :
      Reads d (.list first spread items) (.container start stop (.list (!spread) mark first) blocks)

/-- A list is open, of which these items have been read, and the item read last is. The blocks `init`
    of the note are finished. -/
inductive Listing (d : Document) (o : RenderOptions) (init : Note) (first : Option Nat)
    (spread : Bool) (items : List (List (List Sign))) : BlockStack → Prop
  | intro {column start start' : Nat} {inside children finished : List Block} {afterBlank : Bool}
      {definitions : Definitions} (hcolumn : 0 < column)
      (hinit : List.Forall₂ (Reads d) init finished.reverse)
      (hitems : ∀ stop, List.Forall₂ (ReadsItem d) items
        (children.reverse ++ [.container start stop (.item column) inside.reverse])) :
      Listing d o init first spread items
        { stack := [⟨.item column, start, inside⟩,
            ⟨.list (!spread) (listMark o first) first, start', children⟩]
          finished, afterBlank, definitions }

/-- Between two blocks of a note, these have been read. -/
inductive Between (d : Document) (o : RenderOptions) : Note → BlockStack → Prop
  | closed {note : Note} {finished : List Block} {afterBlank : Bool} {definitions : Definitions}
      (h : List.Forall₂ (Reads d) note finished.reverse) :
      Between d o note { finished, afterBlank, definitions }
  | listing {init : Note} {first : Option Nat} {spread : Bool} {items : List (List (List Sign))}
      {s : BlockStack} (h : Listing d o init first spread items s) :
      Between d o (init ++ [.list first spread items]) s

/-- Reading in the state `s` at index `i` goes on in the state `t` at index `j`, in no more steps than
    there are characters in between. -/
def Reaches (d : Document) (s : BlockStack) (i : Nat) (t : BlockStack) (j : Nat) : Prop :=
  ∃ n, i + n ≤ j ∧ ∀ limit, d.run (n + limit) i s = d.run limit j t

variable {d : Document} {o : RenderOptions}

namespace Reaches

variable {s t u : BlockStack} {i j k : Nat}

theorem refl (d : Document) (s : BlockStack) (i : Nat) : Reaches d s i s i :=
  ⟨0, Nat.le_refl i, fun limit => by rw [Nat.zero_add]⟩

theorem trans (h : Reaches d s i t j) (h' : Reaches d t j u k) : Reaches d s i u k := by
  obtain ⟨n, hn, hrun⟩ := h
  obtain ⟨m, hm, hrun'⟩ := h'
  refine ⟨n + m, by omega, fun limit => ?_⟩
  rw [Nat.add_assoc, hrun, hrun']

/-- A single step. -/
theorem step {rest : List Char} (htext : d.text.drop i = rest) (hne : rest ≠ [])
    (hstep : d.step s i = (t, j)) (hij : i < j) : Reaches d s i t j := by
  have hinside : i < d.text.length := by
    rw [← not_le]
    intro hle
    exact hne (htext.symm.trans (List.drop_eq_nil_of_le hle))
  refine ⟨1, hij, fun limit => ?_⟩
  rw [Nat.add_comm, Document.run, if_pos hinside, hstep]

end Reaches

/-- Lines that stand at some place, with a line feed behind them. -/
theorem holds_of_drop {margin i : Nat} {lines : List (List Atom)} {tail : List Char}
    (htext : d.text.drop i = spellLines margin lines ++ '\n' :: tail) :
    Holds d margin lines i (i + (spellLines margin lines).length + 1) (linePieces margin i lines) := by
  refine ⟨rfl, ['\n'], ?_⟩
  rw [List.drop_take, htext, Nat.add_assoc, Nat.add_sub_cancel_left, List.take_length_add_append,
    List.take_succ_cons, List.take_zero]

section Between

variable {s : BlockStack} {note : Note} {i : Nat}

/-- An open item is left by a line that begins with no blank, and the list around it is not. -/
theorem Between.enter (h : Between d o note s) {cs : List Char}
    (hsolid : cs.head?.any isSolid = true) :
    ({ rest := cs : Margin }).enter s.containers = ({ rest := cs }, s.stack.length - 1) := by
  cases h with
  | closed _ => rfl
  | listing h =>
      cases h with
      | intro hcolumn _ _ =>
          have henter := enter_item hcolumn (skip_solid hsolid 0 _)
          rw [atLineEnd_solid hsolid 0] at henter
          exact henter

/-- A list that is open ends before the next block. -/
theorem Between.leave (h : Between d o note s) (i : Nat) :
    ∃ finished, (s.popMany i (s.stack.length - 1)).finishList i =
        { finished, definitions := s.definitions } ∧
      List.Forall₂ (Reads d) note finished.reverse := by
  cases h with
  | @closed _ finished afterBlank definitions hread =>
      refine ⟨finished, ?_, hread⟩
      cases afterBlank <;> rfl
  | @listing init first spread items _ h =>
      cases h with
      | @intro column start start' inside children finished afterBlank definitions _ hinit hitems =>
          set last := Block.container start i (.item column) inside.reverse
          refine ⟨.container start' i (.list (!spread) (listMark o first) first)
            (last :: children).reverse :: finished, ?_, ?_⟩
          · cases afterBlank <;> cases spread <;> rfl
          · rw [List.reverse_cons, List.reverse_cons]
            exact List.rel_append hinit (.cons (.list (hitems i)) .nil)

/-- At the end of the document everything is closed. -/
theorem Between.closes (h : Between d o note s) (stop : Nat) :
    List.Forall₂ (Reads d) note (s.popMany stop s.stack.length).finished.reverse := by
  cases h with
  | closed hread => exact hread
  | @listing init first spread items _ h =>
      cases h with
      | @intro column start start' inside children finished afterBlank definitions _ hinit hitems =>
          set last := Block.container start stop (.item column) inside.reverse
          have hfinished : (BlockStack.popMany
              { stack := [⟨.item column, start, inside⟩,
                  ⟨.list (!spread) (listMark o first) first, start', children⟩]
                finished, afterBlank, definitions } stop 2).finished =
              .container start' stop (.list (!spread) (listMark o first) first)
                (last :: children).reverse :: finished := rfl
          refine hfinished ▸ ?_
          rw [List.reverse_cons, List.reverse_cons]
          exact List.rel_append hinit (.cons (.list (hitems stop)) .nil)

/-- So there is at most the item to close. -/
theorem Between.left (h : Between d o note s) :
    s.stack.length - (s.stack.length - 1) = s.stack.length - 1 := by
  cases h with
  | closed _ => rfl
  | listing h =>
      cases h
      rfl

/-- A leaf is read behind whatever is still open. -/
theorem Between.step_leaf (h : Between d o note s) {cs : List Char} (hleaf : StartsLeaf cs)
    (htext : d.text.drop i = cs) :
    d.step s i = d.leaf (s.popMany i (s.stack.length - 1)) i { rest := cs } := by
  rw [Document.step]
  simp only [Document.margin_of_drop htext, h.enter hleaf.solid, h.left,
    Document.openContainers_leaf hleaf, blankLine?_solid hleaf.solid]

/-- A block that has been read is one more. -/
theorem Between.append {finished : List Block} (h : List.Forall₂ (Reads d) note finished.reverse)
    (definitions : Definitions) {e : NoteBlock} {b : Block} (hb : Reads d e b) :
    Between d o (note ++ [e]) (({ finished, definitions } : BlockStack).append b) := by
  have hreads : List.Forall₂ (Reads d) (note ++ [e]) (b :: finished).reverse := by
    rw [List.reverse_cons]
    exact List.rel_append h (.cons hb .nil)
  exact .closed hreads

variable {tail : List Char}

/-- One step takes a paragraph. -/
theorem Between.step_paragraph (h : Between d o note s) {lines : List (List Sign)}
    (hlines : IsPassage lines) (htext : d.text.drop i = writtenLines 0 lines ++ '\n' :: tail)
    (hfront : (d.text.take i).getLast? ≠ some '\\') (htail : (lineEnd? tail).isSome = true) :
    ∃ t, d.step s i = (t, i + (writtenLines 0 lines).length + 1) ∧
      Between d o (note ++ [.paragraph lines]) t := by
  obtain ⟨finished, hleave, hread⟩ := h.leave i
  have hstarts := startsText_passage hlines.full hlines.each 0 tail
  have hcontainers : ((s.popMany i (s.stack.length - 1)).finishList i).containers = [] := by
    rw [hleave]
    rfl
  have hparagraph := Document.paragraph_passage hlines.full hlines.each htext hfront
    (s := s.popMany i (s.stack.length - 1)) (hcontainers ▸ continues_nil)
    (hcontainers ▸ ends_nil htail)
  have hleaf : d.leaf (s.popMany i (s.stack.length - 1)) i
      { rest := writtenLines 0 lines ++ '\n' :: tail } =
        d.paragraph (s.popMany i (s.stack.length - 1)) [] i :=
    Document.leaf_text hstarts htext
  rw [h.step_leaf hstarts.toStartsLeaf htext, hleaf, hparagraph, hleave]
  exact ⟨_, rfl, .append hread _ (.paragraph (holds_of_drop htext))⟩

/-- One step takes a heading. -/
theorem Between.step_heading (h : Between d o note s) {depth : Nat} {line : List Sign}
    (hsound : (NoteBlock.heading depth line).IsSound)
    (htext : d.text.drop i = (NoteBlock.heading depth line).written o ++ '\n' :: tail) :
    ∃ t, d.step s i = (t, i + ((NoteBlock.heading depth line).written o).length + 1) ∧
      Between d o (note ++ [.heading depth line]) t := by
  obtain ⟨hpos, hle, htitle, -⟩ := hsound
  obtain ⟨finished, hleave, hread⟩ := h.leave i
  rw [NoteBlock.written, List.append_assoc, List.cons_append] at htext
  have hleaf := (Document.startsLeaf_marks hpos (spell (atoms none line) ++ '\n' :: tail)).1
  have hnext : d.text.drop (i + depth + 1) =
      spellLines 0 [atoms none line] ++ '\n' :: tail := by
    rw [← List.drop_drop, ← List.drop_drop, htext, List.drop_left' List.length_replicate]
    rfl
  have hlength : i + ((NoteBlock.heading depth line).written o).length + 1 =
      i + depth + 1 + (spell (atoms none line)).length + 1 := by
    simp only [NoteBlock.written, List.length_append, List.length_replicate, List.length_cons]
    omega
  rw [h.step_leaf hleaf htext, Document.leaf_heading hpos hle htitle rfl htext, hleave, hlength]
  exact ⟨_, rfl, .append hread _ (.heading (holds_of_drop hnext))⟩

/-- One step takes a rule. -/
theorem Between.step_rule (h : Between d o note s)
    (htext : d.text.drop i = NoteBlock.rule.written o ++ '\n' :: tail) :
    ∃ t, d.step s i = (t, i + (NoteBlock.rule.written o).length + 1) ∧
      Between d o (note ++ [.rule]) t := by
  obtain ⟨finished, hleave, hread⟩ := h.leave i
  have hleaf : StartsLeaf ('*' :: '*' :: '*' :: '\n' :: tail) :=
    ⟨rfl, rfl, fun hquote => absurd (Option.some.inj hquote) (by decide)⟩
  rw [h.step_leaf hleaf htext, Document.leaf_rule, hleave]
  exact ⟨_, rfl, .append hread _ .rule⟩

/-- Between the marker of an item and its text are one to four blanks. -/
theorem exists_writtenItem_eq (o : RenderOptions) (first : Option Nat) (spread : Bool) (k : Nat)
    (lines : List (List Sign)) :
    ∃ pad, 1 ≤ pad ∧ pad ≤ 4 ∧ writtenItem o first spread k lines = markerChars o first k ++
      (List.replicate pad ' ' ++ writtenLines ((markerChars o first k).length + pad) lines) := by
  have hbounds := Builtin.contentColumn_bounds o spread (markerChars o first k).length
  rw [← itemColumn] at hbounds
  refine ⟨itemColumn o first spread k - (markerChars o first k).length, by omega, by omega, ?_⟩
  rw [Nat.add_sub_cancel' (by omega), writtenItem, List.append_assoc]

/-- Where the text of an item begins, behind its marker and the blanks. -/
theorem drop_item {text rest : List Char} {first : Option Nat} {k pad : Nat}
    (htext : text.drop i = markerChars o first k ++ (List.replicate pad ' ' ++ rest))
    (hpos : 1 ≤ pad) :
    let column := (markerChars o first k).length + pad
    text.drop (i + column) = rest ∧ (text.take (i + column)).getLast? ≠ some '\\' := by
  intro column
  constructor
  · rw [← Nat.add_assoc, ← List.drop_drop, ← List.drop_drop, htext, List.drop_left,
      List.drop_left' List.length_replicate]
  · -- The last of the blanks is right before it.
    obtain ⟨more, rfl⟩ := Nat.exists_eq_add_of_le' hpos
    have htake : text.take (i + column) =
        text.take i ++ markerChars o first k ++ List.replicate more ' ' ++ [' '] := by
      rw [List.take_add, htext, List.take_length_add_append,
        List.take_left' List.length_replicate, List.replicate_succ', List.append_assoc,
        List.append_assoc]
    rw [htake, List.getLast?_concat]
    exact fun hslash => absurd (Option.some.inj hslash) (by decide)

/-- The text is long enough for two containers to be opened: the item, and what its text begins
    with, which is none. -/
theorem openContainers_of_drop (hvalid : o.validate = .ok ()) {first : Option Nat} {k : Nat}
    (hdigits : ∀ n ∈ first, n + k < 10 ^ 9) {text : List Char} (hstarts : StartsText text)
    {pad : Nat} (hpos : 1 ≤ pad) (hle : pad ≤ 4)
    (htext : d.text.drop i = markerChars o first k ++ (List.replicate pad ' ' ++ text))
    (s : BlockStack) :
    let column := (markerChars o first k).length + pad
    d.openContainers i (d.text.length + 1) s
        { rest := markerChars o first k ++ (List.replicate pad ' ' ++ text) } =
      .content ((s.continueList i (listMark o first) (first.map (· + k))).push (.item column) i)
        { rest := text, taken := column } := by
  obtain ⟨n, hn⟩ : ∃ n, d.text.length + 1 = n + 2 := by
    have hlength := congrArg List.length htext
    have hne : markerChars o first k ≠ [] := markerChars_ne_nil
    have hmarker := List.length_pos_iff.mpr hne
    rw [List.length_drop, List.length_append] at hlength
    exact ⟨d.text.length - 1, by omega⟩
  rw [hn]
  exact Document.openContainers_item hvalid hdigits hstarts hpos hle n

/-- One step takes an item, once it is known which list the item goes on with. -/
theorem Between.step_item (h : Between d o note s) (hvalid : o.validate = .ok ())
    {first : Option Nat} {k : Nat} (hdigits : ∀ n ∈ first, n + k < 10 ^ 9) {spread : Bool}
    {lines : List (List Sign)} (hlines : IsPassage lines)
    (htext : d.text.drop i = writtenItem o first spread k lines ++ '\n' :: tail)
    (hends : ∀ column, 0 < column → Ends [.list, .item column] tail) {l : OpenBlock}
    (hlist : l.shape.container = .list) {finished : List Block} {definitions : Definitions}
    (hcontinue : (s.popMany i (s.stack.length - 1)).continueList i (listMark o first)
      (first.map (· + k)) = { stack := [l], finished, definitions }) :
    ∃ column b, 0 < column ∧ (∀ stop, ReadsItem d lines (.container i stop (.item column) [b])) ∧
      d.step s i = ({ stack := [⟨.item column, i, [b]⟩, l], finished, definitions },
        i + (writtenItem o first spread k lines).length + 1) := by
  obtain ⟨pad, hpos, hle, hwritten⟩ := exists_writtenItem_eq o first spread k lines
  set column := (markerChars o first k).length + pad with hcolumn
  rw [hwritten, List.append_assoc, List.append_assoc] at htext
  have hstarts := startsText_passage hlines.full hlines.each column tail
  obtain ⟨hinner, hfront⟩ : d.text.drop (i + column) = writtenLines column lines ++ '\n' :: tail ∧
      (d.text.take (i + column)).getLast? ≠ some '\\' := drop_item htext hpos
  set opened : BlockStack := { stack := [⟨.item column, i, []⟩, l], finished, definitions }
  have hopen : d.openContainers i (d.text.length + 1) (s.popMany i (s.stack.length - 1))
      { rest := markerChars o first k ++
          (List.replicate pad ' ' ++ (writtenLines column lines ++ '\n' :: tail)) } =
        .content opened { rest := writtenLines column lines ++ '\n' :: tail, taken := column } := by
    rw [openContainers_of_drop hvalid hdigits hstarts hpos hle htext, hcontinue]
    rfl
  -- The paragraph is read within the item, and the item is still open behind it.
  have hfinish : opened.finishList (i + column) = opened := rfl
  have hcontainers : opened.containers = [.list, .item column] := by
    rw [← hlist]
    rfl
  have hcolumnpos : 0 < column := by omega
  have hparagraph := Document.paragraph_passage (s := opened) hlines.full hlines.each hinner hfront
    (by rw [hfinish, hcontainers]; exact continues_item)
    (by rw [hfinish, hcontainers]; exact hends column hcolumnpos)
  have hleaf : d.leaf opened i
      { rest := writtenLines column lines ++ '\n' :: tail, taken := column } =
        d.paragraph opened [] (i + column) :=
    Document.leaf_text hstarts hinner
  refine ⟨column, _, hcolumnpos, fun stop => .item (holds_of_drop hinner), ?_⟩
  have hsolid : (markerChars o first k ++ (List.replicate pad ' ' ++
      (writtenLines column lines ++ '\n' :: tail))).head?.any isSolid = true :=
    solid_markerChars hvalid _
  have hlength : i + (writtenItem o first spread k lines).length + 1 =
      i + column + (writtenLines column lines).length + 1 := by
    rw [hwritten, List.length_append, List.length_append, List.length_replicate]
    omega
  rw [Document.step, hlength]
  simp only [Document.margin_of_drop htext, h.enter hsolid, h.left, hopen,
    blankLine?_solid hstarts.solid, hleaf, hparagraph, hfinish]
  rfl

/-- The first item begins a list of its own, since the one before it has another mark. -/
theorem Between.continueList (h : Between d o note s) (hvalid : o.validate = .ok ())
    {first : Option Nat} (hapart : ∀ e ∈ note.getLast?, ∀ spread items,
      ¬ e.Joins (.list first spread items)) (i : Nat) :
    ∃ finished, (s.popMany i (s.stack.length - 1)).continueList i (listMark o first) first =
        { stack := [⟨.list true (listMark o first) first, i, []⟩]
          finished, definitions := s.definitions } ∧
      List.Forall₂ (Reads d) note finished.reverse := by
  cases h with
  | @closed _ finished afterBlank definitions hread => exact ⟨finished, rfl, hread⟩
  | @listing init second spread items _ h =>
      -- Two lists in a row would be one if they had the same mark.
      have hmarks : listMark o second ≠ listMark o first := by
        intro hmark
        refine hapart _ (by rw [List.getLast?_concat]; rfl) spread items ?_
        exact listMark_injective hvalid hmark
      obtain ⟨finished, hleave, hread⟩ := (Between.listing h).leave i
      refine ⟨finished, ?_, hread⟩
      cases h with
      | @intro column start start' inside children before afterBlank definitions _ hinit hitems =>
          set last := Block.container start i (.item column) inside.reverse
          set around : OpenBlock :=
            ⟨.list (!spread) (listMark o second) second, start', last :: children⟩
          set left : BlockStack := { stack := [around], finished := before, afterBlank, definitions }
          have hnew : left.continueList i (listMark o first) first =
              { (left.finishList i).push (.list true (listMark o first) first) i with
                afterBlank := false } := if_neg hmarks
          refine hnew.trans ?_
          rw [show left.finishList i = _ from hleave]
          rfl

/-- A list goes on with an item that has its mark. If a blank line was read before, it is spread. -/
theorem Listing.continueList {init : Note} {first : Option Nat} {spread : Bool}
    {items : List (List (List Sign))} (h : Listing d o init first spread items s) (i : Nat)
    (number : Option Nat) :
    ∃ start' children finished,
      (s.popMany i (s.stack.length - 1)).continueList i (listMark o first) number =
        { stack := [⟨.list (!(spread || s.afterBlank)) (listMark o first) first, start', children⟩]
          finished, definitions := s.definitions } ∧
      List.Forall₂ (Reads d) init finished.reverse ∧
        List.Forall₂ (ReadsItem d) items children.reverse := by
  cases h with
  | @intro column start start' inside children finished afterBlank definitions _ hinit hitems =>
      set last := Block.container start i (.item column) inside.reverse
      refine ⟨start', last :: children, finished, ?_, hinit, ?_⟩
      · cases afterBlank
        · rw [Bool.or_false]
          exact if_pos rfl
        · rw [Bool.or_true]
          exact if_pos rfl
      · rw [List.reverse_cons]
        exact hitems i

/-- An item has been read behind others. -/
theorem Listing.of_step {init : Note} {first : Option Nat} {spread : Bool}
    {items : List (List (List Sign))} {lines : List (List Sign)} {children finished : List Block}
    {column start start' : Nat} {b : Block} {definitions : Definitions} (hcolumn : 0 < column)
    (hinit : List.Forall₂ (Reads d) init finished.reverse)
    (hitems : List.Forall₂ (ReadsItem d) items children.reverse)
    (hitem : ∀ stop, ReadsItem d lines (.container start stop (.item column) [b])) :
    Listing d o init first spread (items ++ [lines])
      { stack := [⟨.item column, start, [b]⟩,
          ⟨.list (!spread) (listMark o first) first, start', children⟩]
        finished, definitions } :=
  .intro hcolumn hinit fun stop => List.rel_append hitems (.cons (hitem stop) .nil)

section Item

variable (hvalid : o.validate = .ok ()) {first : Option Nat} {spread : Bool}
  {lines : List (List Sign)} (hlines : IsPassage lines) {k : Nat}
  (htext : d.text.drop i = writtenItem o first spread k lines ++ '\n' :: tail)
  (hends : ∀ column, 0 < column → Ends [.list, .item column] tail)
include hvalid hlines htext hends

/-- One step takes another item of a list. -/
theorem Listing.step_item {init : Note} {wide : Bool} {items : List (List (List Sign))}
    (h : Listing d o init first wide items s) (hdigits : ∀ n ∈ first, n + k < 10 ^ 9) :
    ∃ t, d.step s i = (t, i + (writtenItem o first spread k lines).length + 1) ∧
      t.afterBlank = false ∧
        Listing d o init first (wide || s.afterBlank) (items ++ [lines]) t := by
  obtain ⟨start', children, finished, hcontinue, hinit, hitems⟩ :=
    h.continueList i (first.map (· + k))
  obtain ⟨column, b, hcolumn, hitem, hstep⟩ :=
    (Between.listing h).step_item hvalid hdigits hlines htext hends rfl hcontinue
  exact ⟨_, hstep, rfl, .of_step hcolumn hinit hitems hitem⟩

/-- One step takes the first item of a list. -/
theorem Between.step_first (h : Between d o note s) (hk : k = 0)
    (hapart : ∀ e ∈ note.getLast?, ∀ spread items, ¬ e.Joins (.list first spread items))
    (hdigits : ∀ n ∈ first, n < 10 ^ 9) :
    ∃ t, d.step s i = (t, i + (writtenItem o first spread k lines).length + 1) ∧
      t.afterBlank = false ∧ Listing d o note first false [lines] t := by
  subst hk
  obtain ⟨finished, hcontinue, hinit⟩ := h.continueList hvalid hapart i
  have hnumber : first.map (· + 0) = first := Option.map_id'
  obtain ⟨column, b, hcolumn, hitem, hstep⟩ := h.step_item hvalid hdigits hlines htext hends rfl
    ((congrArg (BlockStack.continueList _ i (listMark o first)) hnumber).trans hcontinue)
  have hitems : List.Forall₂ (ReadsItem d) [] [].reverse := .nil
  exact ⟨_, hstep, rfl, .of_step hcolumn hinit hitems hitem⟩

end Item

/-- An empty line is only remembered. -/
theorem Between.step_blank (h : Between d o note s) (htext : d.text.drop i = '\n' :: tail) :
    d.step s i = ({ s with afterBlank := true }, i + 1) := by
  have hend : (lineEnd? ('\n' :: tail)).isSome = true := rfl
  -- An empty line stays in the item, since it may stand between two lines of it.
  have henter : ({ rest := '\n' :: tail : Margin }).enter s.containers =
      ({ rest := '\n' :: tail }, s.stack.length) := by
    cases h with
    | closed _ => rfl
    | listing h =>
        cases h with
        | intro hcolumn _ _ =>
            have henter := enter_item hcolumn (skip_lineEnd hend _)
            rw [atLineEnd_lineEnd hend] at henter
            exact henter
  have hindent : ({ rest := '\n' :: tail : Margin }).indent 4 = ({ rest := '\n' :: tail }, 0) := by
    rw [Margin.indent, skip_lineEnd hend]
  have hcontent : d.openContainers i (d.text.length + 1) s { rest := '\n' :: tail } =
      .content s { rest := '\n' :: tail } := by
    rw [Document.openContainers]
    simp only [hindent]
    rfl
  have hblank : blankLine? ('\n' :: tail) = some 1 := rfl
  -- No item is waiting for its content, so only the flag is set.
  have hnote : s.noteBlank = { s with afterBlank := true } := by
    cases h with
    | closed _ => rfl
    | listing h =>
        cases h
        rfl
  rw [Document.step]
  simp only [Document.margin_of_drop htext, henter, Nat.sub_self, BlockStack.popMany, hcontent,
    hblank, hnote]

/-- And it changes nothing else. -/
theorem Listing.afterBlank {init : Note} {first : Option Nat} {spread : Bool}
    {items : List (List (List Sign))} (h : Listing d o init first spread items s) (blank : Bool) :
    Listing d o init first spread items { s with afterBlank := blank } := by
  cases h with
  | intro hcolumn hinit hitems => exact .intro hcolumn hinit hitems

theorem Between.afterBlank (h : Between d o note s) (blank : Bool) :
    Between d o note { s with afterBlank := blank } := by
  cases h with
  | closed h => exact .closed h
  | listing h => exact .listing (h.afterBlank blank)

end Between

/-- Blocks one below the other, each behind a gap and with a line feed behind it. -/
def stacked (gap : List Char) (ws : List (List Char)) : List Char :=
  ws.flatMap fun w => gap ++ w ++ ['\n']

theorem stacked_cons (gap w : List Char) (ws : List (List Char)) :
    stacked gap (w :: ws) = gap ++ w ++ ['\n'] ++ stacked gap ws := rfl

/-- What is joined with empty lines or line feeds is a first block with the others below it. -/
theorem joinWith_stacked (gap w : List Char) (ws : List (List Char)) :
    Text.joinWith ('\n' :: gap) (w :: ws) ++ ['\n'] = w ++ '\n' :: stacked gap ws := by
  induction ws generalizing w with
  | nil => rfl
  | cons v ws ih =>
      rw [Text.joinWith, List.append_assoc, List.append_assoc, ih, stacked_cons]
      simp only [List.append_assoc, List.cons_append, List.nil_append]

/-- The gap between two items, behind the line feed of the first. -/
def innerGap (spread : Bool) : List Char :=
  if spread then ['\n'] else []

section Items

variable {first : Option Nat} {wide : Bool} {tail : List Char} (hvalid : o.validate = .ok ())
  (htail : (lineEnd? tail).isSome = true)
include hvalid htail

/-- The paragraph of an item ends where the next item begins, or the list ends. -/
theorem ends_items {k : Nat} (items : List (List (List Sign)))
    (hdigits : ∀ n ∈ first, n + k + items.length ≤ 10 ^ 9) {column : Nat} (hcolumn : 0 < column) :
    Ends [.list, .item column]
      (stacked (innerGap wide) (writtenItems o first wide k items) ++ tail) := by
  cases items with
  | nil => exact ends_item_blank hcolumn htail
  | cons lines items =>
      rw [writtenItems, stacked_cons]
      cases wide with
      -- An empty line ends a paragraph.
      | true => exact ends_item_blank hcolumn rfl
      | false =>
          obtain ⟨pad, hpos, -, hwritten⟩ := exists_writtenItem_eq o first false k lines
          obtain ⟨more, rfl⟩ := Nat.exists_eq_add_of_le' hpos
          have hlt : ∀ n ∈ first, n + k < 10 ^ 9 := by
            intro n hn
            have hle := hdigits n hn
            rw [List.length_cons] at hle
            omega
          -- Without one, the marker of the next item does.
          rw [hwritten, List.replicate_succ]
          simp only [innerGap, Bool.false_eq_true, if_false, List.nil_append, List.append_assoc,
            List.cons_append]
          refine ends_item_marker hcolumn (solid_markerChars hvalid _) ?_
          rw [listMarker?_markerChars hvalid hlt]
          rfl

omit hvalid htail in
/-- The gap before an item is an empty line or nothing at all. -/
theorem Listing.reaches_gap {init : Note} {s : BlockStack} {spread : Bool}
    {items : List (List (List Sign))} (h : Listing d o init first spread items s)
    (hblank : s.afterBlank = false) {i : Nat} (htext : d.text.drop i = innerGap wide ++ tail) :
    ∃ t, Reaches d s i t (i + (innerGap wide).length) ∧ t.afterBlank = wide ∧
      Listing d o init first spread items t := by
  cases wide with
  | false => exact ⟨s, .refl d s i, hblank, h⟩
  | true =>
      have hstep := (Between.listing h).step_blank htext
      exact ⟨_, .step htext (List.cons_ne_nil _ _) hstep (Nat.lt_succ_self i), rfl,
        h.afterBlank true⟩

/-- All further items of a list are taken, one by one. The induction is on the items. -/
theorem Listing.reaches_items {init : Note} {s : BlockStack} {spread : Bool}
    {before items : List (List (List Sign))} (h : Listing d o init first spread before s)
    (hblank : s.afterBlank = false) (hitems : ∀ lines ∈ items, IsPassage lines) {k : Nat}
    (hdigits : ∀ n ∈ first, n + k + items.length ≤ 10 ^ 9) {i : Nat}
    (htext : d.text.drop i =
      stacked (innerGap wide) (writtenItems o first wide k items) ++ tail) :
    ∃ t, Reaches d s i t
        (i + (stacked (innerGap wide) (writtenItems o first wide k items)).length) ∧
      Listing d o init first (spread || wide && !items.isEmpty) (before ++ items) t := by
  induction items generalizing s spread before k i with
  | nil =>
      rw [List.isEmpty_nil, Bool.not_true, Bool.and_false, Bool.or_false, List.append_nil]
      exact ⟨s, .refl d s i, h⟩
  | cons lines items ih =>
      rw [List.forall_mem_cons] at hitems
      rw [List.length_cons] at hdigits
      have hlt : ∀ n ∈ first, n + k < 10 ^ 9 := fun n hn => by have := hdigits n hn; omega
      have hnext : ∀ n ∈ first, n + (k + 1) + items.length ≤ 10 ^ 9 := fun n hn => by
        have := hdigits n hn; omega
      rw [writtenItems, stacked_cons] at htext ⊢
      set item := writtenItem o first wide k lines
      set below := stacked (innerGap wide) (writtenItems o first wide (k + 1) items)
      simp only [List.append_assoc, List.cons_append, List.nil_append] at htext
      -- An item of a spread list has an empty line before it, which is a step of its own.
      obtain ⟨s', hgap, hblank', h'⟩ := h.reaches_gap hblank htext
      have hitem : d.text.drop (i + (innerGap wide).length) = item ++ '\n' :: (below ++ tail) := by
        rw [← List.drop_drop, htext, List.drop_left]
      obtain ⟨t, hstep, hfalse, ht⟩ := h'.step_item hvalid hitems.1 hitem
        (fun column hcolumn => ends_items hvalid htail items hnext hcolumn) hlt
      obtain ⟨u, hreach, hu⟩ := ih ht hfalse hitems.2 hnext (Document.drop_line hitem)
      have hone : Reaches d s' (i + (innerGap wide).length) t
          (i + (innerGap wide).length + item.length + 1) :=
        .step hitem (List.append_ne_nil_of_right_ne_nil _ (List.cons_ne_nil _ _)) hstep (by omega)
      have hlength : i + (innerGap wide ++ item ++ ['\n'] ++ below).length =
          i + (innerGap wide).length + item.length + 1 + below.length := by
        simp only [List.length_append, List.length_singleton]
        omega
      -- From the second item on, a list knows whether it is spread.
      have hflag : (spread || s'.afterBlank || wide && !items.isEmpty) =
          (spread || wide && !(lines :: items).isEmpty) := by
        rw [hblank', List.isEmpty_cons]
        cases spread <;> cases wide <;> rfl
      rw [hflag, List.append_assoc] at hu
      rw [hlength]
      exact ⟨u, (hgap.trans hone).trans hreach, hu⟩

/-- All steps together take a list. -/
theorem Between.reaches_list {note : Note} {s : BlockStack} (h : Between d o note s)
    {spread : Bool} {items : List (List (List Sign))}
    (hsound : (NoteBlock.list first spread items).IsSound)
    (hapart : ∀ e ∈ note.getLast?, ¬ e.Joins (.list first spread items)) {i : Nat}
    (htext : d.text.drop i = (NoteBlock.list first spread items).written o ++ '\n' :: tail) :
    ∃ t, Reaches d s i t (i + ((NoteBlock.list first spread items).written o).length + 1) ∧
      Between d o (note ++ [.list first spread items]) t := by
  obtain ⟨hne, hspread, hdigits, hitems⟩ := hsound
  rcases List.exists_cons_of_ne_nil hne with ⟨lines, rest, rfl⟩
  rw [List.forall_mem_cons] at hitems
  rw [List.length_cons] at hspread hdigits
  have hlt : ∀ n ∈ first, n < 10 ^ 9 := fun n hn => by have := hdigits n hn; omega
  have hnext : ∀ n ∈ first, n + 1 + rest.length ≤ 10 ^ 9 := fun n hn => by
    have := hdigits n hn; omega
  set item := writtenItem o first spread 0 lines with hitem
  set below := stacked (innerGap spread) (writtenItems o first spread 1 rest)
  -- An item and its line feed come first. What is below begins with the gap before the next item.
  have hwritten : (NoteBlock.list first spread (lines :: rest)).written o ++ ['\n'] =
      item ++ '\n' :: below := by
    have hgap : itemGap spread = '\n' :: innerGap spread := by cases spread <;> rfl
    rw [NoteBlock.written, hgap, writtenItems, joinWith_stacked]
  rw [List.append_cons, hwritten, List.append_assoc, List.cons_append] at htext
  -- The first item opens the list, and all others go on with it.
  obtain ⟨t, hstep, hfalse, ht⟩ := h.step_first hvalid hitems.1 htext
    (fun column hcolumn => ends_items hvalid htail rest hnext hcolumn) rfl
    (fun e he spread' items' hjoins => hapart e he (by cases e <;> exact hjoins)) hlt
  obtain ⟨u, hreach, hu⟩ := ht.reaches_items hvalid htail hfalse hitems.2 hnext
    (Document.drop_line htext)
  have hone : Reaches d s i t (i + item.length + 1) :=
    .step htext (List.append_ne_nil_of_right_ne_nil _ (List.cons_ne_nil _ _)) hstep (by omega)
  have hlength : i + ((NoteBlock.list first spread (lines :: rest)).written o).length + 1 =
      i + item.length + 1 + below.length := by
    have hsame := congrArg List.length hwritten
    simp only [List.length_append, List.length_cons, List.length_nil] at hsame
    omega
  -- Only a list of several items is spread.
  have hflag : (false || spread && !rest.isEmpty) = spread := by
    cases spread with
    | false => rfl
    | true =>
        cases rest with
        | nil => exact absurd (hspread rfl) (by decide)
        | cons _ _ => rfl
  rw [hflag] at hu
  rw [hlength]
  exact ⟨u, hone.trans hreach, .listing hu⟩

/-- All steps together take a block. -/
theorem Between.reaches_entry {note : Note} {s : BlockStack} (h : Between d o note s) {e : NoteBlock}
    (hsound : e.IsSound) (hapart : ∀ b ∈ note.getLast?, ¬ b.Joins e) {i : Nat}
    (htext : d.text.drop i = e.written o ++ '\n' :: tail)
    (hfront : (d.text.take i).getLast? ≠ some '\\') :
    ∃ t, Reaches d s i t (i + (e.written o).length + 1) ∧ Between d o (note ++ [e]) t := by
  have hne : e.written o ++ '\n' :: tail ≠ [] :=
    List.append_ne_nil_of_right_ne_nil _ (List.cons_ne_nil _ _)
  have hlt : i < i + (e.written o).length + 1 := by omega
  cases e with
  | paragraph lines =>
      obtain ⟨t, hstep, ht⟩ := h.step_paragraph hsound htext hfront htail
      exact ⟨t, .step htext hne hstep hlt, ht⟩
  | heading depth line =>
      obtain ⟨t, hstep, ht⟩ := h.step_heading hsound htext
      exact ⟨t, .step htext hne hstep hlt, ht⟩
  | rule =>
      obtain ⟨t, hstep, ht⟩ := h.step_rule htext
      exact ⟨t, .step htext hne hstep hlt, ht⟩
  | list first spread items => exact h.reaches_list hvalid htail hsound hapart htext

end Items

/-- Behind a block the text is at its end, or there is an empty line. -/
theorem lineEnd?_stacked (ws : List (List Char)) :
    (lineEnd? (stacked ['\n'] ws)).isSome = true := by
  cases ws <;> rfl

/-- Where a line stands, the text has not ended. -/
theorem Document.le_length_of_drop {i : Nat} {line tail : List Char}
    (htext : d.text.drop i = line ++ '\n' :: tail) : i + line.length + 1 ≤ d.text.length := by
  have hlength := congrArg List.length htext
  rw [List.length_drop, List.length_append, List.length_cons] at hlength
  omega

/-- The blocks of a note are taken one by one, with an empty line before each. The induction is on
    the blocks. -/
theorem Between.reaches_note (hvalid : o.validate = .ok ()) {note rest : Note} {s : BlockStack}
    (h : Between d o note s) (hsound : ∀ e ∈ rest, e.IsSound)
    (hapart : (note ++ rest).IsChain fun a b => ¬ a.Joins b) {i : Nat}
    (htext : d.text.drop i = stacked ['\n'] (rest.map (NoteBlock.written o))) (hi : i ≤ d.text.length) :
    ∃ t, Reaches d s i t d.text.length ∧ Between d o (note ++ rest) t := by
  induction rest generalizing note s i with
  | nil =>
      have hend : i = d.text.length := by
        have hlength := congrArg List.length htext
        rw [List.length_drop] at hlength
        exact Nat.le_antisymm hi (Nat.sub_eq_zero_iff_le.mp hlength)
      rw [List.append_nil]
      exact ⟨s, hend ▸ .refl d s i, h⟩
  | cons e rest ih =>
      rw [List.forall_mem_cons] at hsound
      rw [List.map_cons, stacked_cons] at htext
      simp only [List.append_assoc, List.cons_append, List.nil_append] at htext
      have hnext : d.text.drop (i + 1) =
          e.written o ++ '\n' :: stacked ['\n'] (rest.map (NoteBlock.written o)) := by
        rw [← List.drop_drop, htext, List.drop_one, List.tail_cons]
      -- The empty line keeps a backslash away, and says nothing about a list that is open.
      have hfront : (d.text.take (i + 1)).getLast? ≠ some '\\' := by
        rw [List.take_add, htext, List.take_succ_cons, List.take_zero, List.getLast?_concat]
        exact fun hslash => absurd (Option.some.inj hslash) (by decide)
      have hlast : ∀ b ∈ note.getLast?, ¬ b.Joins e := fun b hb =>
        (List.isChain_append.mp hapart).2.2 b hb e rfl
      have hblank : Reaches d s i { s with afterBlank := true } (i + 1) :=
        .step htext (List.cons_ne_nil _ _) (h.step_blank htext) (Nat.lt_succ_self i)
      obtain ⟨t, hreach, ht⟩ := (h.afterBlank true).reaches_entry hvalid
        (lineEnd?_stacked (rest.map (NoteBlock.written o))) hsound.1 hlast hnext hfront
      rw [List.append_cons] at hapart ⊢
      obtain ⟨u, hreach', hu⟩ := ih ht hsound.2 hapart (Document.drop_line hnext)
        (Document.le_length_of_drop hnext)
      exact ⟨u, (hblank.trans hreach).trans hreach', hu⟩

/-- At the end of the text nothing is left to do but to close what is open. -/
theorem run_end (limit : Nat) (s : BlockStack) :
    d.run limit d.text.length s = s.popMany d.text.length s.stack.length := by
  cases limit with
  | zero => rfl
  | succ limit => rw [Document.run, if_neg (Nat.lt_irrefl _)]

/-- The blocks of a note are read as they were written. -/
theorem reads_blocks (hvalid : o.validate = .ok ()) {note : Note} (h : note.IsSound)
    (htext : d.text = note.written o) : List.Forall₂ (Reads d) note d.blocks.1 := by
  have hopen : Between d o [] {} := .closed .nil
  -- The first block has no empty line before it, so it is not one of those in the run below.
  obtain ⟨t, hreach, ht⟩ : ∃ t, Reaches d {} 0 t d.text.length ∧ Between d o note t := by
    cases note with
    | nil =>
        rw [show d.text = [] from htext]
        exact ⟨{}, .refl d {} 0, hopen⟩
    | cons e rest =>
        rw [Note.written, List.isEmpty_cons, if_neg Bool.false_ne_true, List.map_cons,
          joinWith_stacked, ← List.drop_zero (l := d.text)] at htext
        obtain ⟨hsound, hrest⟩ := List.forall_mem_cons.mp h.entries
        have hfront : (d.text.take 0).getLast? ≠ some '\\' :=
          (Option.some_ne_none _).symm
        obtain ⟨t, hreach, ht⟩ := hopen.reaches_entry hvalid
          (lineEnd?_stacked (rest.map (NoteBlock.written o))) hsound (fun b hb => by cases hb) htext
          hfront
        obtain ⟨u, hreach', hu⟩ := ht.reaches_note hvalid hrest h.apart (Document.drop_line htext)
          (Document.le_length_of_drop htext)
        exact ⟨u, hreach.trans hreach', hu⟩
  obtain ⟨n, hn, hrun⟩ := hreach
  -- There are as many turns as characters, and one more, so the run comes to its end.
  have hblocks : d.run (d.text.length + 1) 0 {} = t.popMany d.text.length t.stack.length := by
    obtain ⟨limit, hlimit⟩ : ∃ limit, d.text.length + 1 = n + limit :=
      Nat.exists_eq_add_of_le (by omega)
    rw [hlimit, hrun, run_end]
  rw [Document.blocks, hblocks]
  exact ht.closes d.text.length

end Anchormark.Markdown
