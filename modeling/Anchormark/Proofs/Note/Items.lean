import Anchormark.Proofs.Note.Passages

/-!
# Reading the Items of a Note

An item is recognised by its marker. Behind that stand one to four blanks and then the text, so the
column of the text is the one that the item was written with, and its later lines are indented by
just as much. A bullet never looks like a rule: what is behind it holds at most one dash in a row.

## Main definitions

* `listMark`: the mark that tells the lists of a note apart.

## Theorems

* `listMarker?_markerChars`: The marker of an item is found.
* `itemStart?_writtenItem`: And with it the column of the text.
* `Document.openContainers_leaf`, `Document.openContainers_item`: What begins with a line.
-/

namespace Anchormark.Markdown

/-- The mark that the items of a list have in common: the bullet, or the dot behind a number. -/
def listMark (o : RenderOptions) (first : Option Nat) : Char :=
  if first.isSome then '.' else o.bullet

/-- A digit is none of the characters that are no digits. -/
theorem ne_of_isDigit {d c : Char} (hd : d.isDigit = true) (hc : c.isDigit = false) : d ≠ c := by
  rintro rfl
  exact Bool.false_ne_true (hc.symm.trans hd)

/-- A number has a first digit. -/
theorem exists_digit (n : Nat) :
    ∃ d digits, Nat.toDigits 10 n = d :: digits ∧ d.isDigit = true := by
  rcases List.exists_cons_of_ne_nil (Nat.toDigits_ne_nil (n := n) (b := 10)) with
    ⟨d, digits, hdigits⟩
  refine ⟨d, digits, hdigits, ?_⟩
  refine Nat.isDigit_of_mem_toDigits (b := 10) (n := n) (by decide) (by decide) ?_
  rw [hdigits]
  exact List.mem_cons_self

section Marker

variable {o : RenderOptions} (hvalid : o.validate = .ok ()) {first : Option Nat} {i : Nat}

theorem markerChars_none : markerChars o none i = [o.bullet] :=
  String.toList_ofList

theorem markerChars_some (n : Nat) :
    markerChars o (some n) i = Nat.toDigits 10 (n + i) ++ ['.'] := by
  have hmarker : markerChars o (some n) i = (toString (n + i) ++ ".").toList := rfl
  rw [hmarker, String.toList_append]
  exact congrArg (· ++ ['.']) Nat.toList_repr

theorem markerChars_ne_nil : markerChars o first i ≠ [] :=
  (Builtin.isMarker_itemMarker o first.isSome first i).ne_nil

include hvalid

theorem isBullet_bullet : isBullet o.bullet = true := by
  have hbullet := Builtin.bullet_of_validate hvalid
  simp only [List.mem_cons, List.not_mem_nil, or_false] at hbullet
  rcases hbullet with h | h | h <;> rw [h] <;> rfl

/-- A list of bullets and a numbered one differ in their marks. -/
theorem listMark_injective {second : Option Nat} (h : listMark o first = listMark o second) :
    first.isSome = second.isSome := by
  have hdot : o.bullet ≠ '.' := by
    intro hdot
    have hbullet := isBullet_bullet hvalid
    rw [hdot] at hbullet
    exact absurd hbullet (by decide)
  cases first <;> cases second
  · rfl
  · exact absurd h hdot
  · exact absurd h.symm hdot
  · rfl

/-- A marker is no blank. -/
theorem solid_markerChars (rest : List Char) :
    (markerChars o first i ++ rest).head?.any isSolid = true := by
  cases first with
  | none =>
      have hbullet := Builtin.bullet_of_validate hvalid
      rw [markerChars_none, List.singleton_append, List.head?_cons, Option.any_some]
      generalize o.bullet = c at hbullet
      simp only [List.mem_cons, List.not_mem_nil, or_false] at hbullet
      rcases hbullet with rfl | rfl | rfl <;> rfl
  | some n =>
      rcases exists_digit (n + i) with ⟨d, digits, hdigits, hdigit⟩
      rw [markerChars_some, hdigits, List.cons_append, List.cons_append, List.head?_cons,
        Option.any_some, isSolid, Text.isLineBlank]
      simp only [ne_of_isDigit hdigit (c := ' ') rfl, ne_of_isDigit hdigit (c := '\t') rfl,
        ne_of_isDigit hdigit (c := '\x0b') rfl, ne_of_isDigit hdigit (c := '\x0c') rfl,
        ne_of_isDigit hdigit (c := '\n') rfl, ne_of_isDigit hdigit (c := '\r') rfl, ne_eq,
        not_false_eq_true, decide_true, decide_false, Bool.or_self, Bool.not_false, Bool.and_self]

/-- The marker of an item is found, if its number has at most nine digits. -/
theorem listMarker?_markerChars (hdigits : ∀ n ∈ first, n + i < 10 ^ 9) (rest : List Char) :
    listMarker? (markerChars o first i ++ ' ' :: rest) =
      some (listMark o first, first.map (· + i), (markerChars o first i).length) := by
  cases first with
  | none =>
      -- A bullet is a marker by itself.
      have hmark : listMark? (o.bullet :: ' ' :: rest) = some (o.bullet, none, 1) := by
        rw [listMark?, if_pos (isBullet_bullet hvalid)]
      rw [markerChars_none, List.singleton_append, listMarker?, hmark]
      rfl
  | some n =>
      -- Of a number the reader takes the digits, and it takes back their value from them.
      set digits := Nat.toDigits 10 (n + i) with hdef
      have hall : ∀ d ∈ digits, d.isDigit = true := fun d hd =>
        Nat.isDigit_of_mem_toDigits (by decide) (by decide) hd
      have hlength : digits.length ≤ 9 :=
        (Nat.length_toDigits_le_iff (by decide) (by decide)).mpr (hdigits n rfl)
      have hpos : 1 ≤ digits.length := Nat.length_toDigits_pos
      have htake : (digits ++ '.' :: ' ' :: rest).takeWhile Char.isDigit = digits := by
        rw [List.takeWhile_append_of_pos hall, List.takeWhile_cons_of_neg (by decide),
          List.append_nil]
      have hvalue : digits.foldl (fun n d => 10 * n + (d.toNat - '0'.toNat)) 0 = n + i :=
        Nat.ofDigitChars_toDigits (by decide) (by decide)
      have hmark : listMark? (digits ++ '.' :: ' ' :: rest) =
          some ('.', some (n + i), digits.length + 1) := by
        rcases exists_digit (n + i) with ⟨d, others, hcons, hdigit⟩
        have hhead : digits ++ '.' :: ' ' :: rest = d :: (others ++ '.' :: ' ' :: rest) := by
          rw [hdef, hcons, List.cons_append]
        -- No digit is a bullet, so the number is looked for.
        have hbullet : isBullet d = false := by
          simp only [isBullet, ne_of_isDigit hdigit (c := '-') rfl,
            ne_of_isDigit hdigit (c := '+') rfl, ne_of_isDigit hdigit (c := '*') rfl, decide_false,
            Bool.or_self]
        rw [hhead, listMark?, if_neg (by rw [hbullet]; exact Bool.false_ne_true), ← hhead]
        simp only [htake, hvalue, List.drop_left, hpos, hlength, decide_true, Bool.true_or,
          Bool.and_self, if_true]
      -- The blank behind it makes a marker of it.
      have hdrop : (digits ++ '.' :: ' ' :: rest).drop (digits.length + 1) = ' ' :: rest := by
        rw [← List.drop_drop, List.drop_left, List.drop_one, List.tail_cons]
      rw [markerChars_some, List.append_assoc, List.singleton_append, ← hdef, listMarker?, hmark,
        Option.filter_some]
      simp only [hdrop, decide_true, Bool.true_or, if_true, List.length_append,
        List.length_singleton]
      rfl

end Marker

/-- A bullet and what is behind it are no rule: there are not three marks of one kind. -/
theorem thematicBreak?_bullet {mark : Char} (hmark : isBullet mark = true) {text : List Char}
    (htext : StartsText text) (pad : Nat) :
    thematicBreak? (mark :: (List.replicate pad ' ' ++ text)) = none := by
  -- A plus sign makes no rule at all. Of the other two there are the bullet and one more at most.
  have hcount : ((mark :: (List.replicate pad ' ' ++ text)).takeWhile fun c =>
      c = mark || c = ' ' || c = '\t').count mark ≤ 2 ∨ mark = '+' := by
    have htake : (mark :: (List.replicate pad ' ' ++ text)).takeWhile
        (fun c => c = mark || c = ' ' || c = '\t') =
          mark :: (List.replicate pad ' ' ++
            text.takeWhile fun c => c = mark || c = ' ' || c = '\t') := by
      rw [List.takeWhile_cons_of_pos (by simp), List.takeWhile_append_of_pos]
      intro c hc
      rw [List.eq_of_mem_replicate hc]
      simp
    simp only [isBullet, Bool.or_eq_true, decide_eq_true_eq] at hmark
    rcases hmark with (rfl | rfl) | rfl
    · left
      have hdashes := htext.dashes
      rw [htake, List.count_cons_self, List.count_append, List.count_replicate]
      simpa using hdashes
    · exact .inr rfl
    · left
      -- The text itself never begins with an asterisk.
      have hnone : (text.takeWhile fun c => c = '*' || c = ' ' || c = '\t') = [] := by
        rcases exists_cons_of_solid htext.solid with ⟨c, rest, rfl, hblank, -, -⟩
        have hstar : c ≠ '*' := fun h => htext.star (by rw [h]; rfl)
        have hspace : c ≠ ' ' := by
          rintro rfl
          exact absurd hblank (by decide)
        have htab : c ≠ '\t' := by
          rintro rfl
          exact absurd hblank (by decide)
        rw [List.takeWhile_cons_of_neg (by simp [hstar, hspace, htab])]
      rw [htake, hnone, List.append_nil, List.count_cons_self, List.count_replicate,
        if_neg (by decide)]
      decide
  rw [thematicBreak?]
  rcases hcount with hcount | rfl
  · have hfew : ¬ 3 ≤ ((mark :: (List.replicate pad ' ' ++ text)).takeWhile fun c =>
        c = mark || c = ' ' || c = '\t').count mark := by omega
    simp only [hfew, decide_false, Bool.and_false, Bool.false_eq_true, if_false]
  · rfl

/-- A line with something on it is not blank, however far it is indented. -/
theorem blankLine?_indented {cs : List Char} (hsolid : cs.head?.any isSolid = true) (n : Nat) :
    blankLine? (List.replicate n ' ' ++ cs) = none := by
  rcases exists_cons_of_solid hsolid with ⟨c, rest, rfl, hblank, -, -⟩
  have htake : countWhile Text.isLineBlank (List.replicate n ' ' ++ c :: rest) = n := by
    have hspaces : ∀ b ∈ List.replicate n ' ', Text.isLineBlank b = true := by
      intro b hb
      rw [List.eq_of_mem_replicate hb]
      rfl
    rw [countWhile, List.takeWhile_append_of_pos hspaces,
      List.takeWhile_cons_of_neg (by rw [hblank]; exact Bool.false_ne_true), List.append_nil,
      List.length_replicate]
  rw [blankLine?, htake, List.drop_left' List.length_replicate, lineEnd?_solid hsolid]
  rfl

section Item

variable {o : RenderOptions} (hvalid : o.validate = .ok ()) {first : Option Nat} {i : Nat}
  (hdigits : ∀ n ∈ first, n + i < 10 ^ 9) {text : List Char} (htext : StartsText text)
include hvalid hdigits htext

/-- An item is recognised, and the column of its text with it. -/
theorem itemStart?_writtenItem {pad : Nat} (hpos : 1 ≤ pad) (hle : pad ≤ 4) :
    let width := (markerChars o first i).length
    Document.itemStart? { rest := markerChars o first i ++ (List.replicate pad ' ' ++ text) } 0 =
      some (listMark o first, first.map (· + i), { rest := text, taken := width + pad },
        width + pad) := by
  intro width
  obtain ⟨more, rfl⟩ := Nat.exists_eq_add_of_le' hpos
  set cs := markerChars o first i ++ (List.replicate (more + 1) ' ' ++ text) with hcs
  have hmarker : listMarker? cs = some (listMark o first, first.map (· + i), width) := by
    rw [hcs, List.replicate_succ, List.cons_append]
    exact listMarker?_markerChars hvalid hdigits _
  -- A line of asterisks or dashes would be a rule before it is an item.
  have hrule : (isBullet (listMark o first) && (thematicBreak? cs).isSome) = false := by
    cases first with
    | none =>
        rw [hcs, markerChars_none, List.singleton_append,
          thematicBreak?_bullet (isBullet_bullet hvalid) htext]
        rw [Option.isSome_none, Bool.and_false]
    | some n => rfl
  have hdrop : cs.drop width = List.replicate (more + 1) ' ' ++ text := List.drop_left
  -- One blank belongs to the marker, and up to four are the indentation of the text.
  have hone : ({ rest := List.replicate (more + 1) ' ' ++ text, taken := width : Margin }).skip 1 =
      ({ rest := List.replicate more ' ' ++ text, taken := width + 1 }, 0) :=
    (skip_blanks 1 0 (List.replicate more ' ' ++ text) width).trans (skip_zero _ _)
  have hmore : ({ rest := List.replicate more ' ' ++ text, taken := width + 1 : Margin }).indent 4 =
      ({ rest := text, taken := width + 1 + more }, more) := by
    have hskip := skip_blanks more (4 - more) text (width + 1)
    rw [Nat.add_sub_cancel' (by omega), skip_solid htext.solid] at hskip
    rw [Margin.indent, hskip]
    simp only [Prod.mk.injEq, true_and]
    omega
  have hlt : more < 4 := Nat.lt_of_succ_le hle
  rw [Document.itemStart?]
  simp only [hmarker, hrule, Bool.false_eq_true, if_false, hdrop, Nat.zero_add, hone,
    blankLine?_indented htext.solid, Option.isSome_none, hmore, hlt, if_true, Nat.add_assoc,
    Nat.add_comm 1]

end Item

namespace Document

variable {d : Document} {s : BlockStack} {i : Nat}

/-- No container begins with a leaf. -/
theorem openContainers_leaf {cs : List Char} (h : StartsLeaf cs) (limit taken : Nat) :
    d.openContainers i (limit + 1) s { rest := cs, taken } = .content s { rest := cs, taken } := by
  have hquote : ({ rest := cs, taken : Margin }).quoteMarker? = none := by
    rcases exists_cons_of_solid h.solid with ⟨c, rest, rfl, -, -, -⟩
    have hne : c ≠ '>' := fun hc => h.quote (congrArg some hc)
    simp only [Margin.quoteMarker?, Margin.take?, hne, if_false, Option.map_none]
  have hitem : itemStart? { rest := cs, taken } 0 = none := by
    rw [itemStart?, h.marker]
  rw [openContainers]
  simp only [indent_solid h.solid, hitem, hquote]
  rfl

/-- An item goes on with the list before it or begins a new one, and its text is a leaf. -/
theorem openContainers_item {o : RenderOptions} (hvalid : o.validate = .ok ()) {first : Option Nat}
    {k : Nat} (hdigits : ∀ n ∈ first, n + k < 10 ^ 9) {text : List Char} (htext : StartsText text)
    {pad : Nat} (hpos : 1 ≤ pad) (hle : pad ≤ 4) (limit : Nat) :
    let column := (markerChars o first k).length + pad
    d.openContainers i (limit + 2) s
        { rest := markerChars o first k ++ (List.replicate pad ' ' ++ text) } =
      .content ((s.continueList i (listMark o first) (first.map (· + k))).push (.item column) i)
        { rest := text, taken := column } := by
  intro column
  have hsolid : (markerChars o first k ++ (List.replicate pad ' ' ++ text)).head?.any isSolid =
      true := solid_markerChars hvalid _
  have hitem := itemStart?_writtenItem hvalid hdigits htext hpos hle
  have hblank : blankLine? text = none := blankLine?_solid htext.solid
  rw [openContainers]
  simp only [indent_solid hsolid, hitem, hblank, htext.box, ite_self]
  exact openContainers_leaf htext.toStartsLeaf limit column

end Document

end Anchormark.Markdown
