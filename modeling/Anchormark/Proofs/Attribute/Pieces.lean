import Anchormark.Proofs.Attribute.Grammar
import Anchormark.Proofs.Markdown.References
import Anchormark.Proofs.Text.Blank
import Anchormark.Text.Punctuation

/-!
# Pieces of a Text and Their Source

The value of a text is read from its source piece by piece. Most pieces are single characters that
stand in the source as they are. An escape and a character reference are pieces, too, and these
are shorter as a value than as they are written.

Taking a block off a text looks at both. The block is an end of the value and has to be an end of
what is written. Where a piece in it is not literal, the value and the source are out of step from
there on, and a block begins and ends with a brace, which is written as itself or behind a
backslash only. So at the start of a text a block that is both is literal throughout, and at its
end all but the opening brace is.

## Main definitions

* `SourcePiece`: a literal character, an escape or a character reference.
* `writtenAll`, `valueAll`: what pieces are written as, and what they stand for.

## Theorems

* `isLiteral_of_length_le`: Pieces that stand for as much as is written are literal.
* `eq_of_brace_mem`, `split_at_brace`: What a brace in the source belongs to.
* `exists_literal_front`: The pieces of a block at the start.
* `exists_literal_tail`: The pieces of a block at the end.
* `exists_kept`: Trimming takes whole pieces off the end.
-/

namespace Anchormark

/-- A piece of the source of a text. -/
inductive SourcePiece
  | literal (c : Char)
  /-- A backslash before ASCII punctuation. -/
  | escape (c : Char) (h : Text.isAsciiPunctuation c = true)
  /-- The whole of `written` is one character reference. -/
  | reference (written value : List Char)
    (h : Markdown.reference? written = some (written.length, value))

namespace SourcePiece

/-- What stands in the source. -/
def written : SourcePiece → List Char
  | literal c => [c]
  | escape c _ => ['\\', c]
  | reference written _ _ => written

/-- What it stands for. -/
def value : SourcePiece → List Char
  | literal c => [c]
  | escape c _ => [c]
  | reference _ value _ => value

/-- What pieces are written as. -/
def writtenAll (ps : List SourcePiece) : List Char :=
  ps.flatMap written

/-- What pieces stand for. -/
def valueAll (ps : List SourcePiece) : List Char :=
  ps.flatMap value

/-- The piece stands for what is written. -/
def IsLiteral (p : SourcePiece) : Prop :=
  ∃ c, p = literal c

/-- The piece stands for white space. -/
def isBlank (p : SourcePiece) : Bool :=
  p.value.all Text.isBlank

variable {p : SourcePiece} {ps qs : List SourcePiece}

@[simp] theorem writtenAll_append : writtenAll (ps ++ qs) = writtenAll ps ++ writtenAll qs :=
  List.flatMap_append

@[simp] theorem writtenAll_cons : writtenAll (p :: ps) = p.written ++ writtenAll ps := rfl

@[simp] theorem valueAll_append : valueAll (ps ++ qs) = valueAll ps ++ valueAll qs :=
  List.flatMap_append

@[simp] theorem valueAll_cons : valueAll (p :: ps) = p.value ++ valueAll ps := rfl

/-- What a character reference is written as and stands for. -/
theorem reference_spec {written value : List Char}
    (h : Markdown.reference? written = some (written.length, value)) :
    Markdown.IsReference written ∧ Markdown.IsReferent value := by
  rcases Markdown.exists_isReference_of_reference? h with
    ⟨written', rest, heq, hlen, hwritten, hvalue⟩
  have hrest := congrArg List.length heq
  rw [List.length_append, hlen, Nat.left_eq_add, List.length_eq_zero_iff] at hrest
  rw [hrest, List.append_nil] at heq
  exact ⟨heq ▸ hwritten, hvalue⟩

theorem value_ne_nil (p : SourcePiece) : p.value ≠ [] := by
  cases p with
  | literal c => exact List.cons_ne_nil c []
  | escape c _ => exact List.cons_ne_nil c []
  | reference _ _ h =>
      cases (reference_spec h).2 with
      | one c => exact List.cons_ne_nil c []
      | two _ => exact List.cons_ne_nil _ _

/-- A value of one character has one piece. -/
theorem exists_of_valueAll {c : Char} (h : valueAll ps = [c]) : ∃ p, ps = [p] := by
  rcases ps with - | ⟨p, ps⟩
  · exact absurd h (List.cons_ne_nil c []).symm
  · have hpos := List.length_pos_iff.mpr p.value_ne_nil
    have hlen := congrArg List.length h
    rw [valueAll_cons, List.length_append, List.length_singleton] at hlen
    have hrest : valueAll ps = [] := List.length_eq_zero_iff.mp (by omega)
    refine ⟨p, congrArg (p :: ·) (List.eq_nil_iff_forall_not_mem.mpr fun q hq => ?_)⟩
    exact q.value_ne_nil (List.flatMap_eq_nil_iff.mp hrest q hq)

/-- Any other piece than a literal one is shorter as a value than as it is written. -/
theorem isLiteral_or_length_lt (p : SourcePiece) :
    p.IsLiteral ∨ p.value.length < p.written.length := by
  cases p with
  | literal c => exact .inl ⟨c, rfl⟩
  | escape c _ => exact .inr (Nat.lt_succ_self 1)
  | reference _ _ h =>
      right
      rcases reference_spec h with ⟨⟨name, hname, hne, -⟩, hvalue⟩
      have hlen : 0 < name.length := List.length_pos_iff.mpr hne
      rw [written, value, hname, List.length_cons, List.length_append, List.length_singleton]
      cases hvalue with
      | one c =>
          rw [List.length_singleton]
          omega
      | two _ =>
          rw [List.length_cons, List.length_singleton]
          omega

theorem IsLiteral.written_eq (h : p.IsLiteral) : p.written = p.value := by
  rcases h with ⟨c, rfl⟩
  rfl

theorem length_value_le (p : SourcePiece) : p.value.length ≤ p.written.length := by
  rcases p.isLiteral_or_length_lt with hp | hlt
  · rw [hp.written_eq]
  · exact Nat.le_of_lt hlt

/-- A brace is written as itself or behind a backslash, and stands for itself. -/
theorem eq_of_brace_mem {c : Char} (hc : c = '\x7b' ∨ c = '\x7d') (h : c ∈ p.written) :
    p = literal c ∨ ∃ hpunct, p = escape c hpunct := by
  cases p with
  | literal d => exact .inl (congrArg literal (List.mem_singleton.mp h).symm)
  | escape d hpunct =>
      right
      rcases List.mem_cons.mp h with hslash | h
      · rcases hc with rfl | rfl <;> exact absurd hslash (by decide)
      · cases List.mem_singleton.mp h
        exact ⟨hpunct, rfl⟩
  | reference _ _ href =>
      rcases (reference_spec href).1 with ⟨name, hname, -, hchars⟩
      rw [written, hname, List.mem_cons, List.mem_append, List.mem_singleton] at h
      rcases h with h | h | h
      · rcases hc with rfl | rfl <;> exact absurd h (by decide)
      · rcases hc with rfl | rfl <;> exact absurd (hchars _ h) (by decide)
      · rcases hc with rfl | rfl <;> exact absurd h (by decide)

theorem written_ne_nil (p : SourcePiece) : p.written ≠ [] := by
  have hpos := List.length_pos_iff.mpr p.value_ne_nil
  exact List.length_pos_iff.mp (Nat.lt_of_lt_of_le hpos p.length_value_le)

theorem length_valueAll_le (ps : List SourcePiece) :
    (valueAll ps).length ≤ (writtenAll ps).length := by
  induction ps with
  | nil => exact Nat.le_refl 0
  | cons p ps ih =>
      rw [valueAll_cons, writtenAll_cons, List.length_append, List.length_append]
      exact Nat.add_le_add p.length_value_le ih

/-- Pieces that stand for as many characters as are written are literal. -/
theorem isLiteral_of_length_le (h : (writtenAll ps).length ≤ (valueAll ps).length) :
    ∀ p ∈ ps, p.IsLiteral := by
  induction ps with
  | nil => exact fun p hp => absurd hp List.not_mem_nil
  | cons p ps ih =>
      have hps := length_valueAll_le ps
      have hp := p.length_value_le
      rw [valueAll_cons, writtenAll_cons, List.length_append, List.length_append] at h
      rw [List.forall_mem_cons]
      constructor
      · rcases p.isLiteral_or_length_lt with hliteral | hlt
        · exact hliteral
        · omega
      · exact ih (by omega)

/-- A brace in the source is one in the value. -/
theorem count_brace_le {c : Char} (hc : c = '\x7b' ∨ c = '\x7d') (ps : List SourcePiece) :
    (writtenAll ps).count c ≤ (valueAll ps).count c := by
  induction ps with
  | nil => exact Nat.le_refl 0
  | cons p ps ih =>
      rw [writtenAll_cons, valueAll_cons, List.count_append, List.count_append]
      refine Nat.add_le_add ?_ ih
      by_cases hmem : c ∈ p.written
      · rcases eq_of_brace_mem hc hmem with rfl | ⟨_, rfl⟩
        · exact Nat.le_refl _
        · change List.count c ['\\', c] ≤ List.count c [c]
          rcases hc with rfl | rfl <;> decide
      · rw [List.count_eq_zero_of_not_mem hmem]
        exact Nat.zero_le _

/-- A brace is the last character of its piece. Before it stands nothing or the backslash of an
    escape. -/
theorem split_at_brace {c : Char} (hc : c = '\x7b' ∨ c = '\x7d') {mark cut : List Char}
    (h : p.written = mark ++ c :: cut) :
    cut = [] ∧ p.value = [c] ∧
      (p.IsLiteral ∧ mark = [] ∨ (∃ hpunct, p = escape c hpunct) ∧ mark = ['\\']) := by
  have hmem : c ∈ p.written := by
    rw [h]
    exact List.mem_append_right mark List.mem_cons_self
  have hlen := congrArg List.length h
  rcases eq_of_brace_mem hc hmem with rfl | ⟨hpunct, rfl⟩
  · cases mark with
    | nil => exact ⟨(List.cons.inj h).2.symm, rfl, .inl ⟨⟨c, rfl⟩, rfl⟩⟩
    | cons d mark =>
        -- A literal piece has one character, so nothing else is in it.
        simp only [written, List.length_append, List.length_cons, List.length_nil] at hlen
        omega
  · cases mark with
    | nil =>
        -- An escape has two, and the brace is the second.
        have hslash := (List.cons.inj h).1
        rcases hc with rfl | rfl <;> exact absurd hslash (by decide)
    | cons d mark =>
        simp only [written, List.length_append, List.length_cons, List.length_nil] at hlen
        have hmark : mark = [] := List.length_eq_zero_iff.mp (by omega)
        have hcut : cut = [] := List.length_eq_zero_iff.mp (by omega)
        rw [hmark, (List.cons.inj h).1]
        exact ⟨hcut, rfl, .inr ⟨⟨hpunct, rfl⟩, rfl⟩⟩

/-- What is written up to a closing brace is written as whole pieces. -/
theorem exists_front {block rest : List Char} (hblock : ∀ c ∈ block.getLast?, c = '\x7d')
    (h : writtenAll ps = block ++ rest) :
    ∃ front back, ps = front ++ back ∧ writtenAll front = block := by
  induction ps generalizing block with
  | nil =>
      rw [writtenAll, List.flatMap_nil, eq_comm, List.append_eq_nil_iff] at h
      exact ⟨[], [], rfl, h.1.symm⟩
  | cons p ps ih =>
      rw [writtenAll_cons, List.append_eq_append_iff] at h
      rcases h with ⟨more, rfl, hps⟩ | ⟨cut, hwritten, -⟩
      · -- The piece is inside, and the block goes on behind it or ends there.
        have hmore : ∀ c ∈ more.getLast?, c = '\x7d' := by
          intro c hc
          refine hblock c ?_
          rw [List.getLast?_append, hc]
          rfl
        rcases ih hmore hps with ⟨front, back, rfl, rfl⟩
        exact ⟨p :: front, back, rfl, rfl⟩
      · rcases List.eq_nil_or_concat' block with rfl | ⟨inside, last, rfl⟩
        · exact ⟨[], p :: ps, rfl, rfl⟩
        · -- The brace is in this piece, so it is the last character of it.
          cases hblock last List.getLast?_concat
          rw [List.append_assoc, List.singleton_append] at hwritten
          rw [(split_at_brace (.inr rfl) hwritten).1] at hwritten
          exact ⟨[p], ps, rfl, (List.append_nil _).trans hwritten⟩

/-- The pieces of a block at the start of a text are literal: a block that ends with a closing
    brace, is at the start of the value and is at the start of what is written. -/
theorem exists_literal_front {block rest rest' : List Char}
    (hblock : ∀ c ∈ block.getLast?, c = '\x7d') (hwritten : writtenAll ps = block ++ rest)
    (hvalue : valueAll ps = block ++ rest') :
    ∃ front back, ps = front ++ back ∧ (∀ p ∈ front, p.IsLiteral) ∧ writtenAll front = block ∧
      valueAll back = rest' := by
  rcases exists_front hblock hwritten with ⟨front, back, rfl, hfront⟩
  rw [valueAll_append] at hvalue
  -- The value of the front is no longer than the block, and has as many closing braces.
  have hle := length_valueAll_le front
  have hcount := count_brace_le (.inr rfl) front
  rw [hfront] at hle hcount
  rcases List.prefix_of_prefix_length_le ⟨_, hvalue⟩ ⟨_, rfl⟩ hle with ⟨missing, hmissing⟩
  have hnil : missing = [] := by
    rcases List.eq_nil_or_concat' missing with rfl | ⟨inside, last, rfl⟩
    · rfl
    · rw [← List.append_assoc] at hmissing
      have hlast : last = '\x7d' := hblock last (hmissing ▸ List.getLast?_concat)
      rw [← hmissing, hlast, List.count_append, List.count_append,
        List.count_singleton_self] at hcount
      omega
  rw [hnil, List.append_nil] at hmissing
  refine ⟨front, back, rfl, isLiteral_of_length_le ?_, hfront, ?_⟩
  · rw [hfront, hmissing]
  · rw [hmissing] at hvalue
    exact List.append_cancel_left hvalue

/-- The last piece that has an opening brace. -/
theorem exists_last_brace (h : '\x7b' ∈ writtenAll ps) :
    ∃ front p back, ps = front ++ p :: back ∧ '\x7b' ∈ p.written ∧
      '\x7b' ∉ writtenAll back := by
  induction ps with
  | nil => exact absurd h List.not_mem_nil
  | cons p ps ih =>
      by_cases hps : '\x7b' ∈ writtenAll ps
      · rcases ih hps with ⟨front, q, back, rfl, hq, hback⟩
        exact ⟨p :: front, q, back, rfl, hq, hback⟩
      · rw [writtenAll_cons, List.mem_append] at h
        exact ⟨[], p, ps, rfl, h.resolve_right hps, hps⟩

/-- The pieces of a block at the end of a text, which is an end of the value and of what is
    written. Behind the opening brace they are literal. -/
theorem exists_literal_tail {front front' tail : List Char} (htail : '\x7b' ∉ tail)
    (hwritten : writtenAll ps = front ++ '\x7b' :: tail)
    (hvalue : valueAll ps = front' ++ '\x7b' :: tail) :
    ∃ before brace inside mark, ps = before ++ brace :: inside ∧ valueAll before = front' ∧
      (∀ p ∈ inside, p.IsLiteral) ∧ front = writtenAll before ++ mark ∧
      (brace.IsLiteral ∧ mark = [] ∨ (∃ h, brace = escape '\x7b' h) ∧ mark = ['\\']) := by
  have hmem : '\x7b' ∈ writtenAll ps := by
    rw [hwritten]
    exact List.mem_append_right front List.mem_cons_self
  rcases exists_last_brace hmem with ⟨before, brace, inside, rfl, hbrace, hinside⟩
  rcases List.append_of_mem hbrace with ⟨mark, cut, hmark⟩
  rcases split_at_brace (.inl rfl) hmark with ⟨rfl, hbraceValue, hcases⟩
  rw [writtenAll_append, writtenAll_cons, hmark, List.append_assoc, ← List.append_assoc] at hwritten
  rw [valueAll_append, valueAll_cons, hbraceValue, List.singleton_append] at hvalue
  -- What is written behind the brace is the end of the block.
  rcases AttributeBlock.append_brace_inj hinside htail hwritten with ⟨hfront, rfl⟩
  -- The value behind the brace is no longer, so no other opening brace is in it.
  have hsuffix : valueAll inside <:+ writtenAll inside :=
    List.suffix_of_suffix_length_le
      ⟨valueAll before ++ ['\x7b'], by rw [List.append_assoc, List.singleton_append, hvalue]⟩
      ⟨front' ++ ['\x7b'], by rw [List.append_assoc, List.singleton_append]⟩
      (length_valueAll_le inside)
  have hnone : '\x7b' ∉ valueAll inside := fun hmem => htail (hsuffix.subset hmem)
  rcases AttributeBlock.append_brace_inj hnone htail hvalue with ⟨hbefore, hinsideValue⟩
  refine ⟨before, brace, inside, mark, rfl, hbefore, isLiteral_of_length_le ?_, hfront.symm, hcases⟩
  rw [hinsideValue]

/-- Any other piece than a literal one begins with a character that is no white space. -/
theorem isLiteral_of_blank (h : ∀ c ∈ p.written, Text.isBlank c = true) : p.IsLiteral := by
  cases p with
  | literal c => exact ⟨c, rfl⟩
  | escape c _ => exact absurd (h '\\' List.mem_cons_self) (by decide)
  | reference _ _ href =>
      rcases (reference_spec href).1 with ⟨name, hname, -, -⟩
      exact absurd (h '&' (by rw [written, hname]; exact List.mem_cons_self)) (by decide)

/-- Pieces that stand for white space are literal exactly if they are written as such. -/
theorem forall_blank_iff (h : ∀ p ∈ ps, p.isBlank = true) :
    (∀ c ∈ writtenAll ps, Text.isBlank c = true) ↔ ∀ p ∈ ps, p.IsLiteral := by
  constructor
  · intro hblank p hp
    exact isLiteral_of_blank fun c hc => hblank c (List.mem_flatMap_of_mem hp hc)
  · intro hliteral c hc
    rcases List.mem_flatMap.mp hc with ⟨p, hp, hc⟩
    rw [(hliteral p hp).written_eq] at hc
    exact List.all_eq_true.mp (h p hp) c hc

/-- A piece that does not stand for white space ends with no white space, neither as a value nor
    as it is written. -/
theorem not_blank_getLast (h : p.isBlank = false) :
    (∀ c ∈ p.value.getLast?, Text.isBlank c = false) ∧
      ∀ c ∈ p.written.getLast?, Text.isBlank c = false := by
  cases p with
  | literal c =>
      have hc : Text.isBlank c = false := by
        rwa [isBlank, value, List.all_cons, List.all_nil, Bool.and_true] at h
      refine ⟨fun d hd => ?_, fun d hd => ?_⟩ <;> cases hd <;> exact hc
  | escape c _ =>
      have hc : Text.isBlank c = false := by
        rwa [isBlank, value, List.all_cons, List.all_nil, Bool.and_true] at h
      refine ⟨fun d hd => ?_, fun d hd => ?_⟩ <;> cases hd <;> exact hc
  | reference _ _ href =>
      rcases reference_spec href with ⟨⟨name, hname, -, -⟩, hvalue⟩
      constructor
      · rw [isBlank, value] at h
        rw [value]
        cases hvalue with
        | one c =>
            rintro d hd
            cases hd
            rwa [List.all_cons, List.all_nil, Bool.and_true] at h
        | @two c d hblank =>
            -- Of two characters the second is white space if the first is.
            rintro e he
            cases he
            rw [List.all_cons, List.all_cons, List.all_nil, Bool.and_true,
              Bool.and_eq_false_iff] at h
            rcases h with hc | hd
            · exact Bool.eq_false_iff.mpr fun hd => Bool.eq_false_iff.mp hc (hblank hd)
            · exact hd
      · -- Written, a reference ends with its semicolon.
        rw [written, hname, ← List.cons_append, List.getLast?_concat]
        rintro d hd
        cases hd
        decide

/-- Trimming a value takes whole pieces off its end, and what is left is written without white
    space at its end, too. -/
theorem exists_kept (ps : List SourcePiece) :
    ∃ kept gap, ps = kept ++ gap ∧ (∀ p ∈ gap, p.isBlank = true) ∧
      Text.trimEnd (valueAll ps) = valueAll kept ∧
      ∀ c ∈ (writtenAll kept).getLast?, Text.isBlank c = false := by
  have hgap : ∀ p ∈ ps.rtakeWhile isBlank, p.isBlank = true := fun p hp =>
    List.mem_rtakeWhile_imp hp
  -- The last piece that stays is not white space, and then neither is its last character.
  have hends : (∀ c ∈ (valueAll (ps.rdropWhile isBlank)).getLast?, Text.isBlank c = false) ∧
      ∀ c ∈ (writtenAll (ps.rdropWhile isBlank)).getLast?, Text.isBlank c = false := by
    rcases List.eq_nil_or_concat' (ps.rdropWhile isBlank) with hnil | ⟨front, last, hlast⟩
    · rw [hnil]
      exact ⟨fun c hc => absurd hc.symm (Option.some_ne_none c),
        fun c hc => absurd hc.symm (Option.some_ne_none c)⟩
    · have hne : ps.rdropWhile isBlank ≠ [] := by
        rw [hlast]
        exact List.append_ne_nil_of_right_ne_nil front (List.cons_ne_nil last [])
      have hblank := List.rdropWhile_last_not isBlank ps hne
      simp only [hlast, List.getLast_concat, Bool.not_eq_true] at hblank
      rw [hlast, valueAll_append, writtenAll_append, valueAll, writtenAll, valueAll, writtenAll,
        List.flatMap_singleton, List.flatMap_singleton,
        List.getLast?_append_of_ne_nil _ last.value_ne_nil,
        List.getLast?_append_of_ne_nil _ last.written_ne_nil]
      exact not_blank_getLast hblank
  refine ⟨ps.rdropWhile isBlank, ps.rtakeWhile isBlank, List.rdropWhile_append_rtakeWhile.symm,
    hgap, ?_, hends.2⟩
  have hvalue : valueAll ps =
      valueAll (ps.rdropWhile isBlank) ++ valueAll (ps.rtakeWhile isBlank) := by
    rw [← valueAll_append, List.rdropWhile_append_rtakeWhile]
  rw [hvalue]
  refine Text.trimEnd_append_blanks (fun c hc => ?_) hends.1
  rcases List.mem_flatMap.mp hc with ⟨p, hp, hc⟩
  exact List.all_eq_true.mp (hgap p hp) c hc

end SourcePiece

end Anchormark
