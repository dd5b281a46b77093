import Anchormark.Proofs.Attribute.Pieces
import Anchormark.Proofs.Attribute.Resolving
import Anchormark.Proofs.Text.Bytes
import Mathlib.Data.List.Flatten
import Mathlib.Data.List.Forall2

/-!
# Spans After Resolving

A text that loses a block keeps a part of its value and of its span. The value is cut at the block,
and at its end the white space before the block goes, too. The span is cut in the source, where the
block and the white space are looked for anew. This comes to the same as long as both are written
as they are read.

A block is: the check on the source sees to that. White space need not be. Written as a character
reference it is white space in the value and none in the source, and then the span reaches over it
while the value does not. Every other piece of a text may be written in whatever way.

## Main definitions

* `Node.Covers`: pieces that make up the value of a text and cover its span.
* `SourcePiece.AreGenuine`: no backslash of an escape is escaped itself.
* `PieceParts`, `Node.Keeps`: how the pieces of a text come apart, and what is left of it.
* `Node.Remains`: what resolving may do to the kind and the span of a node.
* `Node.IsLed`, `Node.IsTrailed`: a node with or without a block at its start or its end.
* `Resolve.Leaves`, `Resolve.LeavesBelow`: what is left of children, and of all that is below.

## Theorems

* `Covers.dropLead`: The pieces of a block at the start of a text are literal.
* `Covers.covers_dropTail_iff`: When the span is cut where the value is.
* `Covers.keeps_dropTail`: What a text keeps without the block at its end.
* `Remains.of_edges`: A node that loses its edges remains.
* `exists_children`: Resolving leaves some of the children, in order.
* `leavesBelow`: The same throughout a tree.
* `spans_resolve`: When the spans of the texts in a resolved tree are exact.
* `spans_resolve_reference`: A span that is not.
-/

namespace Anchormark

open SourcePiece (writtenAll valueAll)

namespace Node

/-- The pieces `ps` make up the value of the text `n`, and its span covers what they are written as
    in the source, right behind `before`. -/
structure Covers (source : List Char) (n : Node) (before : List Char) (ps : List SourcePiece) :
    Prop where
  kind : n.kind = .text (String.ofList (valueAll ps))
  span : n.span = some ⟨Text.byteLength before, Text.byteLength (before ++ writtenAll ps)⟩
  source : before ++ writtenAll ps <+: source

end Node

/-- No escape among the pieces behind `before` has a backslash that is escaped itself. -/
def SourcePiece.AreGenuine (before : List Char) (ps : List SourcePiece) : Prop :=
  ∀ front c h back, ps = front ++ escape c h :: back → Text.Unescaped (before ++ writtenAll front)

/-- How the pieces of a text come apart. -/
structure PieceParts where
  /-- The block that the sibling before the text takes. -/
  lead : List SourcePiece
  /-- What stays. -/
  kept : List SourcePiece
  /-- White space between what stays and the block at the end. -/
  gap : List SourcePiece
  /-- The block that the parent takes. -/
  tail : List SourcePiece

namespace Node

/-- `n` is what is left of a text that the pieces `ps` behind `before` covered. Its value is that
    of the pieces that stay, and its span covers these exactly if what went at the end was literal.
    That can fail for white space only, as long as no backslash of an escape is escaped itself. -/
structure Keeps (source before : List Char) (ps : List SourcePiece) (n : Node) (p : PieceParts) :
    Prop where
  pieces_eq : ps = p.lead ++ (p.kept ++ p.gap ++ p.tail)
  lead_block : p.lead ≠ [] → ∃ a, AttributeBlock.leading? (valueAll ps) =
    some (a, valueAll (p.kept ++ p.gap ++ p.tail))
  lead_literal : ∀ q ∈ p.lead, q.IsLiteral
  tail_block : p.tail ≠ [] → ∃ a, AttributeBlock.trailing? (valueAll (p.kept ++ p.gap ++ p.tail)) =
    some (a, valueAll (p.kept ++ p.gap))
  tail_literal : SourcePiece.AreGenuine before ps → ∀ q ∈ p.tail, q.IsLiteral
  gap_blank : ∀ q ∈ p.gap, q.isBlank = true
  gap_eq_nil : p.tail = [] → p.gap = []
  kind : n.kind = .text (String.ofList (valueAll p.kept))
  covers_iff : n.Covers source (before ++ writtenAll p.lead) p.kept ↔
    ∀ q ∈ p.gap ++ p.tail, q.IsLiteral

/-- `r` is what is left of `c`. A text keeps what is left of the pieces that covered it, and
    anything else keeps its kind and its span. -/
structure Remains (source : List Char) (c r : Node) : Prop where
  type_eq : r.type = c.type
  other : c.type ≠ .text → r.kind = c.kind ∧ r.span = c.span
  text : ∀ before ps, c.Covers source before ps → ∃ p, r.Keeps source before ps p

/-- The nodes are of the same kind and have the same span. -/
def Alike (n n' : Node) : Prop :=
  n.kind = n'.kind ∧ n.span = n'.span

/-- `t` is `n`, or `n` without the block at its start. -/
def IsLed (source : List Char) (n t : Node) : Prop :=
  t = n ∨ ∃ a block rest, n.OpensWith source a block rest ∧ t = n.dropLead block rest

/-- `r` is `n`, or `n` without the block at its end. -/
def IsTrailed (source : List Char) (n r : Node) : Prop :=
  r = n ∨ ∃ a front block, n.ClosesWith source a front block ∧ r = n.dropTail source front block

end Node

/-- Trimming takes off all that stands behind a part that does not end in a blank exactly if that
    is blanks. -/
theorem Text.byteLength_trimEnd_iff {kept gap : List Char}
    (hkept : ∀ c ∈ kept.getLast?, isBlank c = false) :
    byteLength (trimEnd (kept ++ gap)) = byteLength kept ↔ ∀ c ∈ gap, isBlank c = true := by
  constructor
  · intro hlen
    rcases exists_trimEnd (kept ++ gap) with ⟨blanks, heq, hblanks, -⟩
    rw [(append_inj_of_byteLength heq hlen.symm).2]
    exact hblanks
  · intro hgap
    rw [trimEnd_append_blanks hgap hkept]

namespace Node

variable {source before : List Char} {ps : List SourcePiece} {n c r t : Node} {a : Attributes}
  {front block rest : List Char}

theorem Covers.value_eq (h : n.Covers source before ps) {value : List Char}
    (hkind : n.kind = .text (String.ofList value)) : valueAll ps = value := by
  have heq := h.kind.symm.trans hkind
  rwa [Kind.text.injEq, String.ofList_inj] at heq

theorem Covers.congr (h : n.Covers source before ps) (hr : r.Alike n) :
    r.Covers source before ps :=
  ⟨hr.1.trans h.kind, hr.2.trans h.span, h.source⟩

/-- The pieces of the block at the start of a text are literal, and the others cover what is left
    of its span. -/
theorem Covers.dropLead (h : n.Covers source before ps)
    (hopens : n.OpensWith source a block rest) :
    ∃ lead back, ps = lead ++ back ∧ (∀ p ∈ lead, p.IsLiteral) ∧ valueAll back = rest ∧
      (n.dropLead block rest).Covers source (before ++ writtenAll lead) back := by
  have hvalue := h.value_eq hopens.kind
  rcases h.source with ⟨after, hafter⟩
  rcases hopens.literal _ h.span with ⟨front, back, hsource, hlen, -⟩
  -- The block is at the start of what is written, since that is no shorter than the value.
  have hwritten : block <+: writtenAll ps := by
    rw [hsource, List.append_assoc] at hafter
    rcases Text.append_inj_of_byteLength hafter hlen.symm with ⟨-, hafter⟩
    refine List.prefix_of_prefix_length_le ⟨back, hafter.symm⟩ ⟨after, rfl⟩ ?_
    refine Nat.le_trans ?_ (SourcePiece.length_valueAll_le ps)
    rw [hvalue, List.length_append]
    exact Nat.le_add_right _ _
  have hlast : ∀ c ∈ block.getLast?, c = '\x7d' := by
    rcases AttributeBlock.leading?_eq_some hopens.read with ⟨body, hbody⟩
    have hblock : block = '\x7b' :: body ++ ['\x7d'] := by
      refine List.append_cancel_right (hbody.trans ?_)
      rw [List.append_assoc, List.singleton_append, List.cons_append]
    intro c hc
    rw [hblock, List.getLast?_concat] at hc
    exact (Option.some.inj hc).symm
  rcases hwritten with ⟨rest', hwritten⟩
  rcases SourcePiece.exists_literal_front hlast hwritten.symm hvalue with
    ⟨lead, back, rfl, hlead, rfl, rfl⟩
  refine ⟨lead, back, rfl, hlead, rfl, rfl, ?_, ?_⟩
  · rw [Node.dropLead, h.span, Option.map_some, SourcePiece.writtenAll_append, ← List.append_assoc,
      Text.byteLength_append _ (writtenAll back), Text.byteLength_append before,
      Nat.min_eq_left (Nat.le_add_right _ _)]
  · rw [List.append_assoc, ← SourcePiece.writtenAll_append]
    exact h.source

/-- A block at the end of a text is an end of what is written, and not escaped. -/
theorem Covers.exists_written (h : n.Covers source before ps)
    (hcloses : n.ClosesWith source a front block) :
    ∃ written, writtenAll ps = written ++ block ∧ Text.Unescaped (before ++ written) := by
  have hvalue := h.value_eq hcloses.kind
  rcases h.source with ⟨after, hafter⟩
  rcases hcloses.literal _ h.span with ⟨hle, front', back, hsource, hlen, heven⟩
  rw [hsource, ← List.append_assoc] at hafter
  -- The block ends where the text does.
  have hends : before ++ writtenAll ps = front' ++ block := by
    refine (Text.append_inj_of_byteLength hafter ?_).1
    rw [Text.byteLength_append front', hlen]
    exact (Nat.sub_add_cancel hle).symm
  have hsuffix : block <:+ writtenAll ps := by
    refine List.suffix_of_suffix_length_le ⟨front', hends.symm⟩ ⟨before, rfl⟩ ?_
    refine Nat.le_trans ?_ (SourcePiece.length_valueAll_le ps)
    rw [hvalue, List.length_append]
    exact Nat.le_add_left _ _
  rcases hsuffix with ⟨written, hwritten⟩
  refine ⟨written, hwritten.symm, ?_⟩
  rw [← hwritten, ← List.append_assoc] at hends
  rwa [List.append_cancel_right hends]

/-- The span of a text without the block at its end is that of what stands before the block in the
    source, without the blanks there. -/
theorem Covers.span_dropTail (h : n.Covers source before ps) {written : List Char}
    (hwritten : writtenAll ps = written ++ block) (front : List Char) :
    (n.dropTail source front block).span = some ⟨Text.byteLength before,
      Text.byteLength before + Text.byteLength (Text.trimEnd written)⟩ := by
  rcases h.source with ⟨after, hafter⟩
  have hslice : Text.sliceChars? (Text.byteLength before)
      (Text.byteLength (before ++ writtenAll ps) - Text.byteLength block) source =
        some written := by
    rw [← hafter, hwritten, ← List.append_assoc, Text.byteLength_append _ block,
      Nat.add_sub_cancel, List.append_assoc, List.append_assoc]
    exact Text.sliceChars?_append before written (block ++ after)
  rw [Node.dropTail, h.span, Option.map_some, hslice]
  rfl

/-- The span is cut where the value is exactly if what stands between that and the block is blanks
    in the source. -/
theorem Covers.covers_dropTail_iff {kept back : List SourcePiece} {gap : List Char}
    (h : n.Covers source before (kept ++ back)) (hback : writtenAll back = gap ++ block)
    (hfront : Text.trimEnd front = valueAll kept)
    (hkept : ∀ c ∈ (writtenAll kept).getLast?, Text.isBlank c = false) :
    (n.dropTail source front block).Covers source before kept ↔
      ∀ c ∈ gap, Text.isBlank c = true := by
  have hwritten : writtenAll (kept ++ back) = (writtenAll kept ++ gap) ++ block := by
    rw [SourcePiece.writtenAll_append, hback, List.append_assoc]
  have hspan := h.span_dropTail hwritten front
  rw [← Text.byteLength_trimEnd_iff hkept]
  constructor
  · -- Both ends are counted in bytes, so equal spans mean equal lengths.
    intro hafter
    have heq := hspan.symm.trans hafter.span
    rw [Option.some.injEq, Span.mk.injEq, Text.byteLength_append before] at heq
    exact Nat.add_left_cancel heq.2
  · intro hlen
    refine ⟨congrArg (fun cs => Kind.text (String.ofList cs)) hfront, ?_, ?_⟩
    · rw [hspan, hlen, Text.byteLength_append]
    · refine List.IsPrefix.trans ?_ h.source
      rw [SourcePiece.writtenAll_append, ← List.append_assoc]
      exact List.prefix_append _ _

/-- A text that nothing is taken from keeps all its pieces. -/
theorem Covers.keeps_self (h : n.Covers source before ps) :
    n.Keeps source before ps ⟨[], ps, [], []⟩ where
  pieces_eq := by rw [List.nil_append, List.append_nil, List.append_nil]
  lead_block hne := absurd rfl hne
  lead_literal q hq := absurd hq List.not_mem_nil
  tail_block hne := absurd rfl hne
  tail_literal _ q hq := absurd hq List.not_mem_nil
  gap_blank q hq := absurd hq List.not_mem_nil
  gap_eq_nil _ := rfl
  kind := h.kind
  covers_iff := by
    rw [writtenAll, List.flatMap_nil, List.append_nil]
    exact iff_of_true h fun q hq => absurd hq List.not_mem_nil

/-- A text without the block at its end keeps the pieces before the white space before the
    block. -/
theorem Covers.keeps_dropTail (h : n.Covers source before ps)
    (hcloses : n.ClosesWith source a front block) :
    ∃ kept gap tail, (n.dropTail source front block).Keeps source before ps
      ⟨[], kept, gap, tail⟩ := by
  have hvalue := h.value_eq hcloses.kind
  rcases h.exists_written hcloses with ⟨written, hwritten, heven⟩
  rcases AttributeBlock.trailing?_eq_some hcloses.read with ⟨tail, hblock, htail, -⟩
  rw [List.append_cancel_left_eq] at hblock
  subst hblock
  -- The block may begin within an escape, and its brace is the only piece that can be one.
  rcases SourcePiece.exists_literal_tail htail hwritten hvalue with
    ⟨body, brace, inside, mark, rfl, rfl, hinside, rfl, hmark⟩
  rcases SourcePiece.exists_kept body with ⟨kept, gap, rfl, hgap, hkept, hlast⟩
  have hback : writtenAll (gap ++ brace :: inside) =
      (writtenAll gap ++ mark) ++ '\x7b' :: tail := by
    simp only [SourcePiece.writtenAll_append, List.append_assoc, List.append_cancel_left_eq]
      at hwritten ⊢
    exact hwritten
  -- The backslash of an escaped brace would stop the trimming of the source.
  have hblank : (∀ c ∈ mark, Text.isBlank c = true) ↔ brace.IsLiteral := by
    rcases hmark with ⟨hbrace, rfl⟩ | ⟨⟨_, rfl⟩, rfl⟩
    · exact iff_of_true (fun c hc => absurd hc List.not_mem_nil) hbrace
    · refine iff_of_false (fun hall => ?_) fun ⟨c, hc⟩ => SourcePiece.noConfusion hc
      exact absurd (hall '\\' List.mem_cons_self) (by decide)
  refine ⟨kept, gap, brace :: inside, ⟨rfl, fun hne => absurd rfl hne,
    fun q hq => absurd hq List.not_mem_nil, fun _ => ⟨a, ?_⟩, fun hgenuine => ?_, hgap,
    fun hnil => absurd hnil (List.cons_ne_nil _ _),
    congrArg (fun cs => Kind.text (String.ofList cs)) hkept, ?_⟩⟩
  · rw [hvalue]
    exact hcloses.read
  · rw [List.forall_mem_cons]
    refine ⟨?_, hinside⟩
    rcases hmark with ⟨hbrace, -⟩ | ⟨⟨hpunct, rfl⟩, rfl⟩
    · exact hbrace
    · -- Since the block is not escaped, the backslash of an escaped brace would be.
      have hnot := hgenuine (kept ++ gap) '\x7b' hpunct inside rfl
      rw [← List.append_assoc, Text.unescaped_append_backslash] at heven
      exact absurd hnot heven
  · rw [List.append_assoc] at h
    rw [writtenAll, List.flatMap_nil, List.append_nil, h.covers_dropTail_iff hback hkept hlast,
      List.forall_mem_append, SourcePiece.forall_blank_iff hgap, hblank, List.forall_mem_append,
      List.forall_mem_cons, and_iff_left hinside]

/-- What a text keeps without the block at its start it keeps of the whole. -/
theorem Keeps.lead {lead back kept gap tail : List SourcePiece}
    (h : n.Keeps source (before ++ writtenAll lead) back ⟨[], kept, gap, tail⟩)
    (hlead : ∀ q ∈ lead, q.IsLiteral)
    (hread : AttributeBlock.leading? (valueAll (lead ++ back)) = some (a, valueAll back)) :
    n.Keeps source before (lead ++ back) ⟨lead, kept, gap, tail⟩ where
  pieces_eq := congrArg (lead ++ ·) h.pieces_eq
  lead_block _ := ⟨a, hread.trans (congrArg (fun ps => some (a, valueAll ps)) h.pieces_eq)⟩
  lead_literal := hlead
  tail_block := h.tail_block
  tail_literal hgenuine := by
    refine h.tail_literal ?_
    rintro front c hpunct rest rfl
    have hnot := hgenuine (lead ++ front) c hpunct rest (List.append_assoc _ _ _).symm
    rwa [SourcePiece.writtenAll_append, ← List.append_assoc] at hnot
  gap_blank := h.gap_blank
  gap_eq_nil := h.gap_eq_nil
  kind := h.kind
  covers_iff := by
    have hcovers : n.Covers source (before ++ writtenAll lead ++ []) kept ↔ _ := h.covers_iff
    rwa [List.append_nil] at hcovers

/-- The node stays, or it is a text that stays one and keeps its children. -/
def IsCut (n t : Node) : Prop :=
  t = n ∨ n.type = .text ∧ t.type = .text ∧ t.children = n.children

theorem IsCut.alike (h : n.IsCut t) :
    t.type = n.type ∧ (n.type ≠ .text → t.Alike n) ∧ t.children = n.children := by
  rcases h with rfl | ⟨htext, htype, hchildren⟩
  · exact ⟨rfl, fun _ => ⟨rfl, rfl⟩, rfl⟩
  · exact ⟨htype.trans htext.symm, fun hother => absurd htext hother, hchildren⟩

theorem IsLed.isCut (h : n.IsLed source t) : n.IsCut t :=
  h.imp_right fun ⟨_, _, _, hopens, ht⟩ =>
    ⟨congrArg Kind.type hopens.kind, by rw [ht]; rfl, by rw [ht]; rfl⟩

theorem IsTrailed.isCut (h : n.IsTrailed source r) : n.IsCut r :=
  h.imp_right fun ⟨_, _, _, hcloses, hr⟩ =>
    ⟨congrArg Kind.type hcloses.kind, by rw [hr]; rfl, by rw [hr]; rfl⟩

theorem Covers.keeps_of_isTrailed (h : n.Covers source before ps) (hr : n.IsTrailed source r) :
    ∃ kept gap tail, r.Keeps source before ps ⟨[], kept, gap, tail⟩ := by
  rcases hr with rfl | ⟨a, front, block, hcloses, rfl⟩
  · exact ⟨ps, [], [], h.keeps_self⟩
  · exact h.keeps_dropTail hcloses

/-- A node that loses a block at its start, then one at its end, remains. Before, in between and
    behind that it may change in other respects. -/
theorem Remains.of_edges {m s : Node} (hm : m.Alike c) (ht : m.IsLed source t) (hs : s.Alike t)
    (hr : s.IsTrailed source r) : c.Remains source r := by
  have htype {n n' : Node} (h : n.Alike n') : n.type = n'.type := congrArg Kind.type h.1
  refine ⟨?_, fun hother => ?_, fun before ps hcovers => ?_⟩
  · rw [hr.isCut.alike.1, htype hs, ht.isCut.alike.1, htype hm]
  · rw [← htype hm] at hother
    have hled := ht.isCut.alike.2.1 hother
    have htrailed := hr.isCut.alike.2.1 (by rwa [htype hs, ht.isCut.alike.1])
    exact ⟨htrailed.1.trans (hs.1.trans (hled.1.trans hm.1)),
      htrailed.2.trans (hs.2.trans (hled.2.trans hm.2))⟩
  · have hinside := hcovers.congr hm
    rcases ht with rfl | ⟨a, block, rest, hopens, rfl⟩
    · rcases (hinside.congr hs).keeps_of_isTrailed hr with ⟨kept, gap, tail, hkeeps⟩
      exact ⟨_, hkeeps⟩
    · -- Behind the block at the start stands a text with pieces of its own.
      have hvalue := hinside.value_eq hopens.kind
      rcases hinside.dropLead hopens with ⟨lead, back, rfl, hlead, rfl, hback⟩
      rcases (hback.congr hs).keeps_of_isTrailed hr with ⟨kept, gap, tail, hkeeps⟩
      exact ⟨_, hkeeps.lead hlead (hvalue ▸ hopens.read)⟩

end Node

namespace Resolve

variable {source : List Char} {c r s : Node}

/-- What a text gives to the sibling before it is the block at its start. -/
theorem isLed_opened (source : List Char) (before : Option Node) (n : Node) :
    n.IsLed source (opened source before n) := by
  cases hmove : before.bind (·.moveLeading? source n) with
  | none =>
      left
      rw [opened, hmove]
      rfl
  | some moved =>
      right
      rcases Option.bind_eq_some_iff.mp hmove with ⟨b, -, hmoved⟩
      rcases Node.moveLeading?_eq_some_iff.mp hmoved with ⟨-, a, block, rest, hopens, -, htext⟩
      refine ⟨a, block, rest, hopens, ?_⟩
      rw [opened, hmove]
      exact htext

/-- What an element takes changes its identifier only. -/
theorem marked_alike (source : List Char) (n : Node) (behind : Option Node) :
    (marked source n behind).Alike n ∧ (marked source n behind).children = n.children := by
  cases hmove : behind.bind (n.moveLeading? source) with
  | none =>
      rw [marked, hmove]
      exact ⟨⟨rfl, rfl⟩, rfl⟩
  | some moved =>
      rcases Option.bind_eq_some_iff.mp hmove with ⟨next, -, hmoved⟩
      rcases Node.moveLeading?_eq_some_iff.mp hmoved with ⟨-, a, block, rest, -, htarget, -⟩
      rw [marked, hmove, Option.map_some, Option.getD_some, htarget]
      exact ⟨⟨rfl, rfl⟩, rfl⟩

/-- `s` is what the leading pass may make of `c`, once `c` is resolved inside. -/
def PassesTo (source : List Char) (c s : Node) : Prop :=
  ∃ t, (node source c).1.IsLed source t ∧ s.Alike t ∧ s.children = (node source c).1.children

/-- `r` is what is left of the child `c`, and its children are what is left of those of `c`. -/
def Leaves (source : List Char) (c r : Node) : Prop :=
  c.Remains source r ∧ r.children = (node source c).1.children

theorem forall₂_settle (source : List Char) (before : Option Node) (cs : List Node) :
    List.Forall₂ (fun c s => PassesTo source c s.1) cs
      (settle source before (cs.map (node source))) := by
  induction cs generalizing before with
  | nil => exact .nil
  | cons c cs ih =>
      have hled := isLed_opened source before (node source c).1
      rcases marked_alike source (opened source before (node source c).1)
        ((cs.map (node source)).head?.map Prod.fst) with ⟨halike, hchildren⟩
      exact .cons ⟨_, hled, halike, hchildren.trans hled.isCut.alike.2.2⟩ (ih _)

theorem PassesTo.leaves (h : PassesTo source c s) (hr : s.IsTrailed source r) :
    Leaves source c r := by
  rcases h with ⟨t, ht, hs, hchildren⟩
  exact ⟨.of_edges ⟨node_kind source c, node_span source c⟩ ht hs hr,
    hr.isCut.alike.2.2.trans hchildren⟩

theorem forall₂_leaves {cs : List Node} {rs : List Resolved}
    (h : List.Forall₂ (fun c s => PassesTo source c s.1) cs rs) :
    List.Forall₂ (Leaves source) cs (rs.map Prod.fst) :=
  List.forall₂_map_right_iff.mpr (h.imp fun _ _ hs => hs.leaves (.inl rfl))

/-- Some of what is related one by one to a list is related to a part of that list. -/
theorem exists_sublist_forall₂ {α β : Type} {R : α → β → Prop} {as : List α} {bs bs' : List β}
    (h : List.Forall₂ R as bs) (hsub : bs'.Sublist bs) :
    ∃ as', as'.Sublist as ∧ List.Forall₂ R as' bs' := by
  induction hsub generalizing as with
  | slnil =>
      cases h
      exact ⟨[], .slnil, .nil⟩
  | cons b _ ih =>
      cases h with
      | cons _ hrest =>
          rcases ih hrest with ⟨as', hsub, has⟩
          exact ⟨as', hsub.cons _, has⟩
  | cons_cons b _ ih =>
      cases h with
      | cons hab hrest =>
          rcases ih hrest with ⟨as', hsub, has⟩
          exact ⟨_ :: as', hsub.cons_cons _, .cons hab has⟩

/-- Cutting the block at the end of the siblings leaves the others, and the last one without the
    block or not at all. -/
theorem exists_trailed {cs : List Node} {rs rs' : List Resolved} {a : Attributes}
    (h : List.Forall₂ (fun c s => PassesTo source c s.1) cs rs)
    (hcut : trailing? source rs = some (rs', a)) :
    ∃ cs', cs'.Sublist cs ∧ List.Forall₂ (Leaves source) cs' (rs'.map Prod.fst) := by
  rcases trailing?_eq_some_iff.mp hcut with ⟨front, last, inside, text, rfl, htext, rfl⟩
  rcases Node.cutTrailing?_eq_some_iff.mp htext with ⟨before, block, hcloses, rfl⟩
  -- All but the last are as the leading pass has left them.
  have hfront := forall₂_leaves (List.forall₂_take_append _ _ _ h)
  have hlast := List.forall₂_drop_append _ _ _ h
  split
  · refine ⟨cs.take front.length, List.take_sublist _ _, ?_⟩
    rwa [List.append_nil]
  · refine ⟨cs.take front.length ++ cs.drop front.length, ?_, ?_⟩
    · rw [List.take_append_drop]
    · rw [List.map_append]
      refine List.rel_append hfront ?_
      generalize cs.drop front.length = behind at hlast
      cases hlast with
      | cons hpasses hnil =>
          cases hnil
          exact .cons (hpasses.leaves (.inr ⟨a, before, block, hcloses, rfl⟩)) .nil

/-- The children of a resolved node are what is left of some of its children, in order. -/
theorem exists_children (source : List Char) (n : Node) :
    ∃ cs, cs.Sublist n.children ∧
      List.Forall₂ (Leaves source) cs (node source n).1.children := by
  have hsettled := forall₂_settle source none n.children
  rcases exists_sublist_forall₂ hsettled List.filter_sublist with ⟨cs, hcs, hsurvive⟩
  rw [node_eq_assemble, assemble_eq]
  split
  · next rs a htrailing =>
      split at htrailing
      · rcases exists_trailed hsurvive htrailing with ⟨cs', hcs', hleaves⟩
        exact ⟨cs', hcs'.trans hcs, hleaves⟩
      · simp only [reduceCtorEq] at htrailing
  · exact ⟨cs, hcs, forall₂_leaves hsurvive⟩

/-- What the walk below a resolved node visits is what is left of some of what the walk below the
    node visits, in order. -/
def LeavesBelow (source : List Char) (n : Node) : Prop :=
  ∃ ms, ms.Sublist (n.children.flatMap Node.walk) ∧
    List.Forall₂ (Node.Remains source) ms ((node source n).1.children.flatMap Node.walk)

/-- The same of the walks of children, if it holds below each of them. -/
theorem exists_walks {cs rs : List Node} (h : List.Forall₂ (Leaves source) cs rs)
    (hbelow : ∀ c ∈ cs, LeavesBelow source c) :
    ∃ ms, ms.Sublist (cs.flatMap Node.walk) ∧
      List.Forall₂ (Node.Remains source) ms (rs.flatMap Node.walk) := by
  induction h with
  | nil => exact ⟨[], .slnil, .nil⟩
  | @cons c r cs rs hleaf _ ih =>
      rw [List.forall_mem_cons] at hbelow
      rcases hbelow.1 with ⟨below, hsub, hremain⟩
      rcases ih hbelow.2 with ⟨others, hothers, hrest⟩
      refine ⟨c :: below ++ others, ?_, ?_⟩
      · rw [List.flatMap_cons, Node.walk_eq]
        exact (hsub.cons_cons c).append hothers
      · rw [List.flatMap_cons, Node.walk_eq r, hleaf.2]
        exact List.rel_append (.cons hleaf.1 hremain) hrest

/-- Every node leaves what is below it. The induction is over the tree. -/
theorem leavesBelow (source : List Char) (n : Node) : LeavesBelow source n := by
  induction n using Node.induct with
  | h n ih =>
      rcases exists_children source n with ⟨cs, hcs, hleaves⟩
      rcases exists_walks hleaves fun c hc => ih c (hcs.subset hc) with ⟨ms, hms, hremain⟩
      exact ⟨ms, hms.trans (hcs.flatMap _), hremain⟩

end Resolve

/-- What a resolved tree holds, in document order, is what is left of some of what the tree held.
    So a text that is left keeps the pieces of its value, and its span covers them exactly if what
    went at its end was literal. -/
theorem spans_resolve (n : Node) (source : String) :
    ∃ ms, ms.Sublist n.walk ∧
      List.Forall₂ (Node.Remains source.toList) ms (n.resolve source).1.walk := by
  rcases Resolve.leavesBelow source.toList n with ⟨ms, hms, hremain⟩
  refine ⟨n :: ms, ?_, ?_⟩
  · rw [Node.walk_eq]
    exact hms.cons_cons n
  · rw [Node.resolve, Node.walk_eq (Resolve.node source.toList n).1]
    refine .cons ?_ hremain
    exact .of_edges ⟨rfl, rfl⟩ (.inl rfl)
      ⟨Resolve.node_kind source.toList n, Resolve.node_span source.toList n⟩ (.inl rfl)

/-- A paragraph whose text ends with a blank that is written as a character reference, and a block
    behind that. What is left of the text has a span that reaches over the reference, and no pieces
    make up its value and cover its span. -/
theorem spans_resolve_reference :
    let source := "a&#32;\x7b#p\x7d"
    let c : Node := ⟨.text "a \x7b#p\x7d", [], some ⟨0, 10⟩, none⟩
    let r : Node := ⟨.text "a", [], some ⟨0, 6⟩, none⟩
    (∃ ps, c.Covers source.toList [] ps ∧ SourcePiece.AreGenuine [] ps) ∧
      ((Node.paragraph [c]).resolve source).1.children = [r] ∧
      ∀ before ps, ¬ r.Covers source.toList before ps := by
  intro source c r
  refine ⟨?_, by decide +kernel, ?_⟩
  · refine ⟨.literal 'a' :: .reference "&#32;".toList [' '] (by decide) ::
      "\x7b#p\x7d".toList.map .literal, ⟨by decide, by decide, by decide⟩, ?_⟩
    intro front d hpunct back heq
    have hmem : SourcePiece.escape d hpunct ∈ front ++ .escape d hpunct :: back :=
      List.mem_append_right front List.mem_cons_self
    rw [← heq] at hmem
    simp only [List.mem_cons, List.mem_map, reduceCtorEq, and_false, exists_const, or_self] at hmem
  · intro before ps hcovers
    -- The pieces would be written as the six bytes and stand for one letter.
    have hvalue : valueAll ps = ['a'] := hcovers.value_eq rfl
    have hwritten : writtenAll ps = "a&#32;".toList := by
      rcases hcovers.source with ⟨after, hafter⟩
      have hspan := hcovers.span
      rw [Option.some.injEq, Span.mk.injEq] at hspan
      have hsource : before ++ (writtenAll ps ++ after) =
          [] ++ ("a&#32;".toList ++ "\x7b#p\x7d".toList) := by
        rw [← List.append_assoc, hafter]
        decide
      rcases Text.append_inj_of_byteLength hsource hspan.1.symm with ⟨rfl, hrest⟩
      exact (Text.append_inj_of_byteLength hrest hspan.2.symm).1
    rcases SourcePiece.exists_of_valueAll hvalue with ⟨p, rfl⟩
    rw [writtenAll, List.flatMap_singleton] at hwritten
    have hlen : p.written.length = 6 := congrArg List.length hwritten
    cases p with
    | literal d => exact absurd hlen (Nat.ne_of_beq_eq_false rfl)
    | escape d _ => exact absurd hlen (Nat.ne_of_beq_eq_false rfl)
    | reference _ _ href =>
        rcases (SourcePiece.reference_spec href).1 with ⟨name, hname, -⟩
        rw [SourcePiece.written, hname] at hwritten
        exact absurd (List.cons.inj hwritten).1 (by decide)

end Anchormark
