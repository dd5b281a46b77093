import Anchormark.Proofs.Text.Lines
import Anchormark.Render.Table
import Anchormark.Text.Blank
import Mathlib.Data.List.Basic
import Mathlib.Data.List.TakeWhile

/-!
# Reading a Table Back

A table is written line by line, and each line cell by cell. Reading goes the other way: a line is
cut at its pipes, and the spaces around each part go. A pipe behind a backslash belongs to a cell
and is not cut at.

No cell can run into its neighbour, because a space stands between every cell and the pipe behind
it, also when the cell is as wide as its column. So what is cut off is the cell with the spaces
around it, whatever it ends with, and if it has no spaces of its own at the ends trimming gives it
back.

All lines are of one length because their cells are: a column is no narrower than any of its cells
and than what its delimiter cell needs.

## Main definitions

* `cells?`: the cells of a line.
* `alignment?`: the alignment that a delimiter cell shows.
* `IsCell`: what may stand in a cell.
* `filled`: a row with empty cells behind it.

## Theorems

* `cutAtPipes_append`: A part goes up to the next pipe.
* `cells?_line`: The cells of a line come back.
* `trimSpaces_pad`: A cell comes back from its column.
* `alignment?_delimiter`: So does the alignment of the column.
* `length_line_congr`: Lines with cells of the same lengths are of the same length.
* `layout_reads_back`: The whole table.
-/

namespace Anchormark

/-- A maximum over a list, with a least value, is reached and not exceeded. -/
theorem foldl_max_spec {α : Type} (f : α → Nat) (xs : List α) (least : Nat) :
    let top := xs.foldl (fun n x => max n (f x)) least
    least ≤ top ∧ (∀ x ∈ xs, f x ≤ top) ∧ (top = least ∨ ∃ x ∈ xs, top = f x) := by
  induction xs generalizing least with
  | nil => exact ⟨Nat.le_refl _, fun x hx => absurd hx List.not_mem_nil, .inl rfl⟩
  | cons x xs ih =>
      rcases ih (max least (f x)) with ⟨hleast, hle, htop⟩
      refine ⟨(Nat.le_max_left _ _).trans hleast, fun y hy => ?_, ?_⟩
      · rcases List.mem_cons.mp hy with rfl | hy
        · exact (Nat.le_max_right _ _).trans hleast
        · exact hle y hy
      · rcases htop with htop | ⟨y, hy, htop⟩
        · rcases Nat.le_total (f x) least with h | h
          · exact .inl (htop.trans (Nat.max_eq_left h))
          · exact .inr ⟨x, List.mem_cons_self, htop.trans (Nat.max_eq_right h)⟩
        · exact .inr ⟨y, List.mem_cons_of_mem x hy, htop⟩

namespace Table

/-- The parts of a line between its pipes. A pipe directly behind a backslash is none of them;
    `behind` says that the line goes on behind one. -/
def cutAtPipes (behind : Bool) : List Char → List (List Char)
  | [] => [[]]
  | c :: rest =>
    if c = '|' && !behind then [] :: cutAtPipes false rest
    else match cutAtPipes (c = '\\') rest with
      | [] => [[c]]
      | part :: parts => (c :: part) :: parts

/-- The characters without the spaces at either end. -/
def trimSpaces (cs : List Char) : List Char :=
  Text.dropEndWhile (· = ' ') (cs.dropWhile (· = ' '))

/-- The cells of a line: what stands between its pipes, without the spaces around it. The line has
    to begin and end with a pipe. -/
def cells? (line : List Char) : Option (List (List Char)) :=
  match cutAtPipes false line with
  | [] :: parts =>
    if parts.getLast? = some [] then some (parts.dropLast.map trimSpaces) else none
  | _ => none

/-- The alignment that a delimiter cell shows: at least one dash, with a colon on the left, on the
    right, on both sides or on neither. -/
def alignment? (cell : List Char) : Option Alignment :=
  let left := cell.head? = some ':'
  let right := cell.getLast? = some ':'
  let rest := if left then cell.tail else cell
  let dashes := if right then rest.dropLast else rest
  if dashes.isEmpty || dashes.any (· ≠ '-') then none
  else if left then some (if right then .center else .left)
  else some (if right then .right else .unset)

/-- What may stand in a cell: one line, in which every pipe is directly behind a backslash, and
    which neither begins nor ends with a space. -/
structure IsCell (cell : List Char) : Prop where
  no_feed : '\n' ∉ cell
  pipe : ∀ front back, cell = front ++ '|' :: back → front.getLast? = some '\\'
  head : cell.head? ≠ some ' '
  last : cell.getLast? ≠ some ' '

/-- A row with empty cells behind it, up to `columns` of them in all. -/
def filled (columns : Nat) (row : List (List Char)) : List (List Char) :=
  row ++ List.replicate (columns - row.length) []

/-- What the lines of a table are read as: the first row, the alignments, and the other rows, each
    filled up to the number of columns. All lines are of the same length. -/
structure ReadsAs (rows : List (List (List Char))) (align : List Alignment) (columns : Nat)
    (ls : List (List Char)) : Prop where
  length_eq : ls.length = rows.length + 1
  even : ∀ l ∈ ls, ∀ l' ∈ ls, l.length = l'.length
  cells : ∃ header delimiters body, rows = header :: body ∧
    ls.map cells? = some (filled columns header) :: some delimiters ::
      body.map (fun row => some (filled columns row)) ∧
    delimiters.map alignment? =
      (align ++ List.replicate (columns - align.length) Alignment.unset).map some

/-- The colons in a delimiter cell. -/
def colons : Alignment → Nat
  | .unset => 0
  | .left | .right => 1
  | .center => 2

/-- Every pipe in the characters is directly behind a backslash. `behind` says that they stand
    behind one. -/
def IsGuarded (behind : Bool) : List Char → Prop
  | [] => True
  | c :: rest => (c = '|' → behind = true) ∧ IsGuarded (c = '\\') rest

/-- A part goes up to the next pipe that is not behind a backslash. -/
theorem cutAtPipes_append {behind : Bool} {part : List Char} (h : IsGuarded behind part)
    (rest : List Char) : cutAtPipes behind (part ++ ' ' :: '|' :: rest) =
      (part ++ [' ']) :: cutAtPipes false rest := by
  induction part generalizing behind with
  | nil =>
      -- The space ends the part, and what stands behind the space is behind no backslash.
      simp only [List.nil_append, cutAtPipes, Char.reduceEq, decide_false, Bool.false_and,
        Bool.false_eq_true, if_false, decide_true, Bool.not_false, Bool.and_self, if_true]
  | cons c part ih =>
      have hc : ¬ (decide (c = '|') && !behind) = true := by
        rw [Bool.and_eq_true, decide_eq_true_eq, Bool.not_eq_true']
        rintro ⟨hpipe, hbehind⟩
        rw [h.1 hpipe] at hbehind
        exact Bool.noConfusion hbehind
      rw [List.cons_append, cutAtPipes, if_neg hc, ih h.2]
      rfl

/-- A line is a pipe and then each cell with a space on both sides and a pipe behind it. -/
theorem line_eq {cells : List (List Char)} (h : cells ≠ []) :
    line cells = '|' :: cells.flatMap fun cell => (' ' :: cell) ++ [' ', '|'] := by
  have hjoin : ∀ {cells : List (List Char)}, cells ≠ [] →
      ' ' :: (Text.joinWith [' ', '|', ' '] cells ++ [' ', '|']) =
        cells.flatMap fun cell => (' ' :: cell) ++ [' ', '|'] := by
    intro cells h
    induction cells with
    | nil => exact absurd rfl h
    | cons cell cells ih =>
        cases cells with
        | nil => rw [Text.joinWith, List.flatMap_singleton, List.cons_append]
        | cons next rest =>
            rw [List.flatMap_cons, ← ih (List.cons_ne_nil next rest), Text.joinWith]
            simp only [List.append_assoc, List.cons_append, List.nil_append]
  rw [line, ← hjoin h]
  rfl

/-- The cells of a line come back, with the spaces around them trimmed. -/
theorem cells?_line {cells : List (List Char)} (hne : cells ≠ [])
    (h : ∀ cell ∈ cells, IsGuarded false (' ' :: cell)) :
    cells? (line cells) = some (cells.map fun cell => trimSpaces (' ' :: cell ++ [' '])) := by
  have hcut : cutAtPipes false (cells.flatMap fun cell => (' ' :: cell) ++ [' ', '|']) =
      (cells.map fun cell => ' ' :: cell ++ [' ']) ++ [[]] := by
    clear hne
    induction cells with
    | nil => rfl
    | cons cell cells ih =>
        rw [List.forall_mem_cons] at h
        have hcell := cutAtPipes_append h.1
          (cells.flatMap fun cell => (' ' :: cell) ++ [' ', '|'])
        rw [ih h.2] at hcell
        rw [List.flatMap_cons, List.append_assoc, List.map_cons]
        exact hcell
  have hline : cutAtPipes false (line cells) =
      [] :: ((cells.map fun cell => ' ' :: cell ++ [' ']) ++ [[]]) := by
    rw [line_eq hne, cutAtPipes, if_pos (by decide), hcut]
  simp only [cells?, hline, List.getLast?_concat, if_true, List.dropLast_concat, List.map_map,
    Function.comp_def]

/-- Lines with cells of the same lengths are of the same length. -/
theorem length_line_congr {cells cells' : List (List Char)} (hne : cells ≠ [])
    (h : cells.map List.length = cells'.map List.length) :
    (line cells).length = (line cells').length := by
  have hne' : cells' ≠ [] := by
    rintro rfl
    exact hne (List.map_eq_nil_iff.mp h)
  rw [line_eq hne, line_eq hne', List.length_cons, List.length_cons, Nat.succ_inj]
  clear hne hne'
  induction cells generalizing cells' with
  | nil =>
      rw [List.map_nil, eq_comm, List.map_eq_nil_iff] at h
      rw [h]
  | cons cell cells ih =>
      cases cells' with
      | nil => exact absurd h (List.cons_ne_nil _ _)
      | cons cell' cells' =>
          rw [List.map_cons, List.map_cons, List.cons.injEq] at h
          simp only [List.flatMap_cons, List.length_append, List.length_cons, h.1, ih h.2]

/-- A cell is filled up with spaces on both sides until it is as wide as its column. -/
theorem exists_pad {cell : List Char} {width : Nat} (h : cell.length ≤ width) (a : Alignment) :
    ∃ m n, pad cell width a = blanks m ++ cell ++ blanks n ∧ (pad cell width a).length = width := by
  cases a with
  | unset | left =>
      refine ⟨0, width - cell.length, rfl, ?_⟩
      simp only [pad, blanks, List.length_append, List.length_replicate]
      omega
  | right =>
      refine ⟨width - cell.length, 0, (List.append_nil _).symm, ?_⟩
      simp only [pad, blanks, List.length_append, List.length_replicate]
      omega
  | center =>
      refine ⟨_, _, rfl, ?_⟩
      simp only [pad, blanks, List.length_append, List.length_replicate]
      omega

theorem length_delimiter {width : Nat} {a : Alignment} (h : colons a < width) :
    (delimiter width a).length = width := by
  cases a <;>
    simp only [delimiter, colons, List.length_cons, List.length_append, List.length_replicate,
      List.length_nil] at h ⊢ <;> omega

/-- Spaces around a cell that has none at its ends go, and it stays. -/
theorem trimSpaces_blanks {cell : List Char} (hhead : cell.head? ≠ some ' ')
    (hlast : cell.getLast? ≠ some ' ') (m n : Nat) :
    trimSpaces (blanks m ++ cell ++ blanks n) = cell := by
  have hblanks (k : Nat) : ∀ c ∈ blanks k, decide (c = ' ') = true :=
    fun c hc => decide_eq_true (List.eq_of_mem_replicate hc)
  have hfront : ∀ {cs : List Char}, cs.head? ≠ some ' ' → cs.dropWhile (· = ' ') = cs := by
    intro cs hcs
    cases cs with
    | nil => rfl
    | cons c cs =>
        refine List.dropWhile_cons_of_neg ?_
        rw [decide_eq_true_eq]
        rintro rfl
        exact hcs rfl
  rw [trimSpaces, Text.dropEndWhile, List.append_assoc, List.dropWhile_append_of_pos (hblanks m)]
  by_cases hempty : cell = []
  · -- Only spaces.
    rw [hempty, List.nil_append, List.dropWhile_eq_nil_iff.mpr (hblanks n)]
    rfl
  · have hhead' : (cell ++ blanks n).head? ≠ some ' ' := by
      rwa [List.head?_append_of_ne_nil _ hempty]
    rw [hfront hhead', List.reverse_append, List.dropWhile_append_of_pos, hfront,
      List.reverse_reverse]
    · rwa [List.head?_reverse]
    · intro c hc
      exact hblanks n c (List.mem_reverse.mp hc)

/-- A cell comes back from its column. -/
theorem trimSpaces_pad {cell : List Char} (hcell : IsCell cell) {width : Nat}
    (h : cell.length ≤ width) (a : Alignment) :
    trimSpaces (' ' :: pad cell width a ++ [' ']) = cell := by
  rcases exists_pad h a with ⟨m, n, heq, -⟩
  have hspaces : ' ' :: pad cell width a ++ [' '] = blanks (m + 1) ++ cell ++ blanks (n + 1) := by
    simp only [heq, blanks, List.replicate_succ, List.cons_append, List.append_assoc,
      ← List.replicate_succ']
  rw [hspaces, trimSpaces_blanks hcell.head hcell.last]

/-- Guarding every pipe, said for all pipes at once. -/
theorem isGuarded_iff {behind : Bool} {cs : List Char} :
    IsGuarded behind cs ↔ ∀ front back, cs = front ++ '|' :: back →
      front.getLast? = some '\\' ∨ front = [] ∧ behind = true := by
  induction cs generalizing behind with
  | nil =>
      refine iff_of_true trivial fun front back heq => ?_
      exact absurd heq.symm (List.append_ne_nil_of_right_ne_nil front (List.cons_ne_nil _ _))
  | cons c cs ih =>
      rw [IsGuarded, ih]
      constructor
      · rintro ⟨hc, hcs⟩ front back heq
        cases front with
        | nil => exact .inr ⟨rfl, hc (List.cons.inj heq).1⟩
        | cons d front =>
            rw [List.cons_append, List.cons.injEq] at heq
            rcases heq with ⟨rfl, heq⟩
            -- What is right before the pipe is the same for the rest, unless the pipe begins it.
            rcases hcs front back heq with hlast | ⟨rfl, hslash⟩
            · rcases List.exists_cons_of_ne_nil (show front ≠ [] by rintro rfl; cases hlast) with
                ⟨e, front', rfl⟩
              exact .inl (by rwa [List.getLast?_cons_cons])
            · exact .inl (congrArg some (of_decide_eq_true hslash))
      · intro hcs
        refine ⟨fun hc => ?_, fun front back heq => ?_⟩
        · rcases hcs [] cs (by rw [hc]; rfl) with hlast | ⟨-, hbehind⟩
          · exact absurd hlast (Option.some_ne_none _).symm
          · exact hbehind
        · rcases hcs (c :: front) back (by rw [heq]; rfl) with hlast | ⟨hnil, -⟩
          · cases front with
            | nil => exact .inr ⟨rfl, decide_eq_true (Option.some.inj hlast)⟩
            | cons d front => exact .inl (by rwa [List.getLast?_cons_cons] at hlast)
          · exact absurd hnil (List.cons_ne_nil _ _)

/-- Every pipe of a cell is directly behind a backslash, whatever the cell stands behind. -/
theorem IsCell.isGuarded {cell : List Char} (h : IsCell cell) (behind : Bool) :
    IsGuarded behind cell :=
  isGuarded_iff.mpr fun front back heq => .inl (h.pipe front back heq)

instance decidableIsGuarded : (behind : Bool) → (cs : List Char) → Decidable (IsGuarded behind cs)
  | _, [] => .isTrue trivial
  | _, c :: cs =>
    haveI := decidableIsGuarded (c = '\\') cs
    inferInstanceAs (Decidable ((c = '|' → _ = true) ∧ IsGuarded (c = '\\') cs))

/-- A cell is checked from its start. -/
theorem isCell_iff {cell : List Char} : IsCell cell ↔
    '\n' ∉ cell ∧ IsGuarded false cell ∧ cell.head? ≠ some ' ' ∧ cell.getLast? ≠ some ' ' := by
  constructor
  · intro h
    exact ⟨h.no_feed, h.isGuarded false, h.head, h.last⟩
  · rintro ⟨hfeed, hguarded, hhead, hlast⟩
    refine ⟨hfeed, fun front back heq => ?_, hhead, hlast⟩
    rcases isGuarded_iff.mp hguarded front back heq with h | ⟨-, h⟩
    · exact h
    · exact absurd h Bool.false_ne_true

instance (cell : List Char) : Decidable (IsCell cell) :=
  decidable_of_iff _ isCell_iff.symm

/-- Without a pipe there is none to guard. -/
theorem IsGuarded.append {behind : Bool} {cs tail : List Char} (h : IsGuarded behind cs)
    (htail : '|' ∉ tail) : IsGuarded behind (cs ++ tail) := by
  induction cs generalizing behind with
  | nil =>
      rw [List.nil_append]
      clear h
      induction tail generalizing behind with
      | nil => exact trivial
      | cons c tail ih =>
          rw [List.mem_cons, not_or] at htail
          exact ⟨fun hc => absurd hc.symm htail.1, ih htail.2⟩
  | cons c cs ih => exact ⟨h.1, ih h.2⟩

/-- A cell that is filled up has its pipes still behind backslashes, and no others. -/
theorem isGuarded_pad {cell : List Char} (hcell : IsCell cell) {width : Nat}
    (h : cell.length ≤ width) (a : Alignment) : IsGuarded false (' ' :: pad cell width a) := by
  have hfront (m : Nat) (behind : Bool) : IsGuarded behind (blanks m ++ cell) := by
    induction m generalizing behind with
    | zero => exact hcell.isGuarded behind
    | succ m ih => exact ⟨fun hc => absurd hc (by decide), ih _⟩
  have hblanks (n : Nat) : '|' ∉ blanks n := fun hmem =>
    absurd (List.eq_of_mem_replicate hmem) (by decide)
  rcases exists_pad h a with ⟨m, n, heq, -⟩
  rw [heq]
  exact (hfront (m + 1) false).append (hblanks n)

theorem feed_not_mem_pad {cell : List Char} (hcell : IsCell cell) {width : Nat}
    (h : cell.length ≤ width) (a : Alignment) : '\n' ∉ pad cell width a := by
  have hblanks (n : Nat) : '\n' ∉ blanks n := fun hmem =>
    absurd (List.eq_of_mem_replicate hmem) (by decide)
  rcases exists_pad h a with ⟨m, n, heq, -⟩
  rw [heq, List.mem_append, List.mem_append, not_or, not_or]
  exact ⟨⟨hblanks m, hcell.no_feed⟩, hblanks n⟩

/-- A delimiter cell is made of dashes and colons. -/
theorem mem_delimiter {width : Nat} {a : Alignment} {c : Char} (h : c ∈ delimiter width a) :
    c = '-' ∨ c = ':' := by
  cases a <;>
    simp only [delimiter, List.mem_cons, List.mem_append, List.mem_replicate, List.not_mem_nil,
      or_false] at h <;> tauto

/-- Dashes with colons at the ends show an alignment. -/
theorem alignment?_dashes {dashes : List Char} (hne : dashes ≠ []) (h : ∀ c ∈ dashes, c = '-') :
    alignment? dashes = some .unset ∧ alignment? (':' :: dashes) = some .left ∧
      alignment? (dashes ++ [':']) = some .right ∧
      alignment? (':' :: (dashes ++ [':'])) = some .center := by
  have hhead : dashes.head? = some '-' := by
    rw [List.head?_eq_some_head hne, h _ (List.head_mem hne)]
  have hlast : dashes.getLast? = some '-' := by
    rw [List.getLast?_eq_getLast_of_ne_nil hne, h _ (List.getLast_mem hne)]
  have hbad : ¬ (dashes.isEmpty || dashes.any (· ≠ '-')) = true := by
    simp only [Bool.or_eq_true, List.isEmpty_iff, List.any_eq_true, decide_eq_true_eq, not_or,
      not_exists, not_and, not_not]
    exact ⟨hne, h⟩
  -- Which colons there are is asked of the ends, and without them the rest is dashes again.
  have hhead' : (dashes ++ [':']).head? = some '-' := by
    rw [List.head?_append_of_ne_nil _ hne, hhead]
  have hlast' : (':' :: dashes).getLast? = some '-' := by
    rw [List.getLast?_cons_of_ne_nil hne, hlast]
  have hlast'' : (':' :: (dashes ++ [':'])).getLast? = some ':' := by
    rw [← List.cons_append, List.getLast?_concat]
  refine ⟨?_, ?_, ?_, ?_⟩
  · simp only [alignment?, hhead, hlast, Option.some.injEq, Char.reduceEq, if_false, if_neg hbad]
  · simp only [alignment?, List.head?_cons, hlast', Option.some.injEq, Char.reduceEq, if_true,
      if_false, List.tail_cons, if_neg hbad]
  · simp only [alignment?, hhead', List.getLast?_concat, Option.some.injEq, Char.reduceEq, if_true,
      if_false, List.dropLast_concat, if_neg hbad]
  · simp only [alignment?, List.head?_cons, hlast'', if_true, List.tail_cons,
      List.dropLast_concat, if_neg hbad]

/-- So does the alignment of a column, if its delimiter cell has room for a dash. -/
theorem alignment?_delimiter {width : Nat} {a : Alignment} (h : colons a < width) :
    alignment? (delimiter width a) = some a := by
  rcases Nat.exists_eq_add_of_lt h with ⟨k, rfl⟩
  have hdashes : ∀ c ∈ List.replicate (k + 1) '-', c = '-' :=
    fun c hc => List.eq_of_mem_replicate hc
  have hshown := alignment?_dashes (List.cons_ne_nil _ _) hdashes
  cases a with
  | unset =>
      rw [colons, Nat.zero_add]
      exact hshown.1
  | left =>
      rw [colons, delimiter, Nat.add_sub_cancel, Nat.add_comm]
      exact hshown.2.1
  | right =>
      rw [colons, delimiter, Nat.add_sub_cancel, Nat.add_comm]
      exact hshown.2.2.1
  | center =>
      rw [colons, delimiter, Nat.add_assoc, Nat.add_sub_cancel_left]
      exact hshown.2.2.2

/-- A delimiter cell has no spaces to trim and no pipes to guard. -/
theorem trimSpaces_delimiter {width : Nat} {a : Alignment} :
    trimSpaces (' ' :: delimiter width a ++ [' ']) = delimiter width a := by
  have hspace : ' ' ∉ delimiter width a := fun hmem => by
    rcases mem_delimiter hmem with h | h <;> exact absurd h (by decide)
  exact trimSpaces_blanks (fun hhead => hspace (List.mem_of_mem_head? hhead))
    (fun hlast => hspace (List.mem_of_getLast? hlast)) 1 1

theorem isGuarded_delimiter (width : Nat) (a : Alignment) :
    IsGuarded false (' ' :: delimiter width a) := by
  have hpipe : '|' ∉ delimiter width a := fun hmem => by
    rcases mem_delimiter hmem with h | h <;> exact absurd h (by decide)
  have hspace : IsGuarded false [' '] := ⟨fun hc => absurd hc (by decide), trivial⟩
  exact hspace.append hpipe

/-- Looking up the first places of a list, with a value for those behind its end. -/
theorem map_range_getD {α : Type} {xs : List α} {n : Nat} (h : xs.length ≤ n) (fill : α) :
    (List.range n).map (fun i => xs[i]?.getD fill) =
      xs ++ List.replicate (n - xs.length) fill := by
  refine List.ext_getElem? fun i => ?_
  by_cases hi : i < n
  · rw [List.getElem?_map, List.getElem?_range hi, Option.map_some]
    by_cases hxs : i < xs.length
    · rw [List.getElem?_append_left hxs, List.getElem?_eq_getElem hxs, Option.getD_some]
    · rw [List.getElem?_append_right (Nat.le_of_not_lt hxs),
        List.getElem?_eq_none (Nat.le_of_not_lt hxs), List.getElem?_replicate,
        if_pos (by omega), Option.getD_none]
  · rw [List.getElem?_eq_none (by rw [List.length_map, List.length_range]; omega),
      List.getElem?_eq_none (by rw [List.length_append, List.length_replicate]; omega)]

variable (rows : List (List (List Char))) (align : List Alignment)

/-- Every row fits into the columns, and so do the alignments, and there are no more columns. -/
theorem columnCount_spec :
    let n := columnCount rows align
    align.length ≤ n ∧ (∀ row ∈ rows, row.length ≤ n) ∧
      (n = align.length ∨ ∃ row ∈ rows, n = row.length) :=
  foldl_max_spec List.length rows align.length

/-- Every cell fits into its column, and so does the delimiter cell, with at least a dash. -/
theorem width_spec (column : Nat) :
    colons (alignmentOf align column) < width rows align column ∧
      ∀ row ∈ rows, ((row[column]?.map List.length).getD 0) ≤ width rows align column := by
  rcases foldl_max_spec (fun row : List (List Char) => (row[column]?.map List.length).getD 0) rows
    (minWidth (alignmentOf align column)) with ⟨hleast, hle, -⟩
  refine ⟨Nat.lt_of_lt_of_le ?_ hleast, hle⟩
  cases alignmentOf align column <;> decide

/-- The cells of a row, filled up to the widths of their columns. -/
def paddedCells (row : List (List Char)) : List (List Char) :=
  (List.range (columnCount rows align)).map fun column =>
    pad (row[column]?.getD []) (width rows align column) (alignmentOf align column)

/-- The cells of the delimiter row. -/
def delimiterCells : List (List Char) :=
  (List.range (columnCount rows align)).map fun column =>
    delimiter (width rows align column) (alignmentOf align column)

variable {rows align}

/-- With a row and a column there is a line for each row and one more below the first. -/
theorem layout_eq {header : List (List Char)} {body : List (List (List Char))}
    (hrows : rows = header :: body) (hcolumns : columnCount rows align ≠ 0) :
    layout rows align = Text.unlines (line (paddedCells rows align header) ::
      line (delimiterCells rows align) ::
        body.map fun row => line (paddedCells rows align row)) := by
  have hne : (List.range (columnCount rows align)).isEmpty = false := by
    rw [List.isEmpty_eq_false_iff, ne_eq, List.range_eq_nil]
    exact hcolumns
  subst hrows
  simp only [layout, hne, Bool.false_eq_true, if_false]
  rfl

theorem layout_eq_nil (h : rows = [] ∨ columnCount rows align = 0) : layout rows align = [] := by
  cases rows with
  | nil => rfl
  | cons header body =>
      rcases h with h | h
      · exact absurd h (List.cons_ne_nil _ _)
      · simp only [layout, h, List.range_zero, List.isEmpty_nil, if_true]

/-- A cell that is looked up, or the empty one, is a cell. -/
theorem isCell_getD {row : List (List Char)} (hrow : ∀ cell ∈ row, IsCell cell) (column : Nat) :
    IsCell (row[column]?.getD []) := by
  cases hcell : row[column]? with
  | some cell => exact hrow cell (List.mem_of_getElem? hcell)
  | none =>
      refine ⟨List.not_mem_nil, fun front back heq => ?_, ?_, ?_⟩
      · exact absurd heq.symm (List.append_ne_nil_of_right_ne_nil front (List.cons_ne_nil _ _))
      · exact (Option.some_ne_none _).symm
      · exact (Option.some_ne_none _).symm

theorem length_getD_le {row : List (List Char)} (hrow : row ∈ rows) (column : Nat) :
    (row[column]?.getD []).length ≤ width rows align column := by
  have h := (width_spec rows align column).2 row hrow
  cases hcell : row[column]? with
  | some cell =>
      rw [hcell] at h
      exact h
  | none => exact Nat.zero_le _

/-- The cells of a row come back, filled up with empty ones. -/
theorem cells?_paddedCells (hcolumns : columnCount rows align ≠ 0) {row : List (List Char)}
    (hmem : row ∈ rows) (hrow : ∀ cell ∈ row, IsCell cell) :
    cells? (line (paddedCells rows align row)) = some (filled (columnCount rows align) row) := by
  have hne : paddedCells rows align row ≠ [] := by
    rw [paddedCells, ne_eq, List.map_eq_nil_iff, List.range_eq_nil]
    exact hcolumns
  rw [cells?_line hne, filled, ← map_range_getD ((columnCount_spec rows align).2.1 row hmem),
    paddedCells, List.map_map]
  · congr 1
    exact List.map_congr_left fun column _ =>
      trimSpaces_pad (isCell_getD hrow column) (length_getD_le hmem column) _
  · intro cell hcell
    rcases List.mem_map.mp hcell with ⟨column, -, rfl⟩
    exact isGuarded_pad (isCell_getD hrow column) (length_getD_le hmem column) _

/-- The delimiter cells come back. -/
theorem cells?_delimiterCells (hcolumns : columnCount rows align ≠ 0) :
    cells? (line (delimiterCells rows align)) = some (delimiterCells rows align) := by
  have hne : delimiterCells rows align ≠ [] := by
    rw [delimiterCells, ne_eq, List.map_eq_nil_iff, List.range_eq_nil]
    exact hcolumns
  rw [cells?_line hne]
  · congr 1
    rw [delimiterCells, List.map_map]
    exact List.map_congr_left fun column _ => trimSpaces_delimiter
  · intro cell hcell
    rcases List.mem_map.mp hcell with ⟨column, -, rfl⟩
    exact isGuarded_delimiter _ _

/-- And they show the alignments of the columns. -/
theorem map_alignment?_delimiterCells :
    (delimiterCells rows align).map alignment? =
      (align ++
        List.replicate (columnCount rows align - align.length) Alignment.unset).map some := by
  rw [← map_range_getD (columnCount_spec rows align).1, delimiterCells, List.map_map, List.map_map]
  exact List.map_congr_left fun column _ => alignment?_delimiter (width_spec rows align column).1

/-- All cells of a column are of one length. -/
theorem map_length_paddedCells {row : List (List Char)} (hmem : row ∈ rows) :
    (paddedCells rows align row).map List.length = (delimiterCells rows align).map List.length := by
  rw [paddedCells, delimiterCells, List.map_map, List.map_map]
  refine List.map_congr_left fun column _ => ?_
  rcases exists_pad (length_getD_le hmem column) (alignmentOf align column) with ⟨_, _, -, hlength⟩
  exact hlength.trans (length_delimiter (width_spec rows align column).1).symm

/-- No line has a line feed of its own. -/
theorem feed_not_mem_line {cells : List (List Char)} (hne : cells ≠ [])
    (h : ∀ cell ∈ cells, '\n' ∉ cell) : '\n' ∉ line cells := by
  rw [line_eq hne, List.mem_cons, not_or]
  refine ⟨by decide, fun hmem => ?_⟩
  rcases List.mem_flatMap.mp hmem with ⟨cell, hcell, hmem⟩
  simp only [List.mem_append, List.mem_cons, List.not_mem_nil, Char.reduceEq, false_or,
    or_false] at hmem
  exact h cell hcell hmem

/-- The lines of a table with at least one row and one column. -/
theorem readsAs_lines {header : List (List Char)} {body : List (List (List Char))}
    (hrows : rows = header :: body) (hcolumns : columnCount rows align ≠ 0)
    (hcells : ∀ row ∈ rows, ∀ cell ∈ row, IsCell cell) :
    ReadsAs rows align (columnCount rows align) (Text.lines (layout rows align)) := by
  have hne : delimiterCells rows align ≠ [] := by
    rw [delimiterCells, ne_eq, List.map_eq_nil_iff, List.range_eq_nil]
    exact hcolumns
  have hlength {row : List (List Char)} (hrow : row ∈ rows) :
      (line (paddedCells rows align row)).length = (line (delimiterCells rows align)).length :=
    (length_line_congr hne (map_length_paddedCells hrow).symm).symm
  -- No cell holds a line feed, padded or not, and neither does the line of dashes.
  have hpadded {row : List (List Char)} (hrow : row ∈ rows) :
      '\n' ∉ line (paddedCells rows align row) := by
    refine feed_not_mem_line (fun hnil => hne ?_) fun cell hcell => ?_
    · rw [← List.map_eq_nil_iff, ← map_length_paddedCells hrow, hnil, List.map_nil]
    · rcases List.mem_map.mp hcell with ⟨column, -, rfl⟩
      exact feed_not_mem_pad (isCell_getD (hcells row hrow) column) (length_getD_le hrow column) _
  have hdelimiters : '\n' ∉ line (delimiterCells rows align) := by
    refine feed_not_mem_line hne fun cell hcell hmem => ?_
    rcases List.mem_map.mp hcell with ⟨column, -, rfl⟩
    rcases mem_delimiter hmem with h | h <;> exact absurd h (by decide)
  -- The lines come back from what they are joined to, so each is one of the table's.
  have hlines : Text.lines (layout rows align) = line (paddedCells rows align header) ::
      line (delimiterCells rows align) ::
        body.map fun row => line (paddedCells rows align row) := by
    rw [layout_eq hrows hcolumns]
    refine Text.lines_unlines (List.cons_ne_nil _ _) ?_
    rw [List.forall_mem_cons, List.forall_mem_cons, List.forall_mem_map]
    subst hrows
    exact ⟨hpadded List.mem_cons_self, hdelimiters,
      fun row hrow => hpadded (List.mem_cons_of_mem header hrow)⟩
  have heven : ∀ l ∈ Text.lines (layout rows align),
      l.length = (line (delimiterCells rows align)).length := by
    rw [hlines, List.forall_mem_cons, List.forall_mem_cons, List.forall_mem_map]
    subst hrows
    exact ⟨hlength List.mem_cons_self, rfl,
      fun row hrow => hlength (List.mem_cons_of_mem header hrow)⟩
  refine ⟨?_, fun l hl l' hl' => (heven l hl).trans (heven l' hl').symm,
    header, delimiterCells rows align, body, hrows, ?_, map_alignment?_delimiterCells⟩
  · rw [hlines, hrows, List.length_cons, List.length_cons, List.length_map, List.length_cons]
  · rw [hlines, List.map_cons, List.map_cons, List.map_map, cells?_delimiterCells hcolumns]
    subst hrows
    rw [cells?_paddedCells hcolumns List.mem_cons_self (hcells header List.mem_cons_self)]
    congr 2
    refine List.map_congr_left fun row hrow => ?_
    have hmem := List.mem_cons_of_mem header hrow
    exact cells?_paddedCells hcolumns hmem (hcells row hmem)

/-- What a table is laid out as can be read back. There are as many columns as the longest row or
    the list of alignments has, whichever is longer. If there is a row and a column, the lines read
    as the rows and the alignments, if not there is nothing. No column is narrower than one of its
    cells, or than one character more than the colons of its alignment. -/
theorem layout_reads_back (rows : List (List (List Char))) (align : List Alignment) :
    let columns := columnCount rows align
    (align.length ≤ columns ∧ (∀ row ∈ rows, row.length ≤ columns) ∧
      (columns = align.length ∨ ∃ row ∈ rows, columns = row.length)) ∧
    (∀ column, colons (alignmentOf align column) < width rows align column ∧
      ∀ row ∈ rows, ∀ cell, row[column]? = some cell → cell.length ≤ width rows align column) ∧
    (rows = [] ∨ columns = 0 → layout rows align = []) ∧
    ((∀ row ∈ rows, ∀ cell ∈ row, IsCell cell) → rows ≠ [] → columns ≠ 0 →
      ReadsAs rows align columns (Text.lines (layout rows align))) := by
  intro columns
  refine ⟨columnCount_spec rows align, fun column => ?_, layout_eq_nil, ?_⟩
  · refine ⟨(width_spec rows align column).1, fun row hrow cell hcell => ?_⟩
    have hle : (row[column]?.getD []).length ≤ width rows align column := length_getD_le hrow column
    rwa [hcell, Option.getD_some] at hle
  · intro hcells hrows hcolumns
    rcases List.exists_cons_of_ne_nil hrows with ⟨header, body, heq⟩
    exact readsAs_lines heq hcolumns hcells

/-- A cell that ends with a backslash stays apart from its neighbour, and a row that is too short
    and a column without an alignment are filled up. -/
theorem layout_reads_back_slash :
    let rows := ["a\\".toList, "\\|".toList] :: [["b".toList]]
    let align := [Alignment.center]
    (∀ row ∈ rows, ∀ cell ∈ row, IsCell cell) ∧ rows ≠ [] ∧ columnCount rows align ≠ 0 ∧
      ReadsAs rows align (columnCount rows align) (Text.lines (layout rows align)) := by
  intro rows align
  have hcells : ∀ row ∈ rows, ∀ cell ∈ row, IsCell cell := by decide
  have hcolumns : columnCount rows align ≠ 0 := by decide
  exact ⟨hcells, List.cons_ne_nil _ _, hcolumns,
    (layout_reads_back rows align).2.2.2 hcells (List.cons_ne_nil _ _) hcolumns⟩

end Table

end Anchormark
