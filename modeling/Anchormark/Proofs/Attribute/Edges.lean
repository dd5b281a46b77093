import Anchormark.Proofs.Attribute.Grammar
import Anchormark.Proofs.Text.Placement

/-!
# Blocks at the Edges of a Text

Resolving looks at a text node from two sides. A block at the start of the value may belong to
the sibling before the node, and a block at the end to the element around it. Each time three
things have to come together: the value splits there, the scanner reads a block from one of the
parts, and a node with a span has the block in the source, written as it stands and not escaped.

`OpensWith` and `ClosesWith` say just that, and the two functions that take a block off a text
are characterised by them. What is proved about resolving goes through these characterisations
and does not look into the scanner again.

## Main definitions

* `Node.OpensWith`, `Node.ClosesWith`: a block at the start or the end of a text node.
* `Node.dropLead`, `Node.dropTail`: the text node once the block is gone.

## Theorems

* `moveLeading?_eq_some_iff`: When a block moves to the node before, and what is left.
* `cutTrailing?_eq_some_iff`: When a block at the end is cut, and what is left.
* `moveLeading?_eq_none`, `cutTrailing?_eq_none`: Without such a block nothing happens.
-/

namespace Anchormark

namespace Node

/-- The text node begins with a block that may be taken: its value is `block ++ rest`, the scanner
    reads `block`, and a span means that the source has the block there too. -/
structure OpensWith (source : List Char) (n : Node) (a : Attributes) (block rest : List Char) :
    Prop where
  kind : n.kind = .text (String.ofList (block ++ rest))
  read : AttributeBlock.leading? (block ++ rest) = some (a, rest)
  literal : ∀ s, n.span = some s → StandsAt source s.start block

/-- The text node ends with a block that may be taken. The place in the source is counted back
    from the end of the span. -/
structure ClosesWith (source : List Char) (n : Node) (a : Attributes) (front block : List Char) :
    Prop where
  kind : n.kind = .text (String.ofList (front ++ block))
  read : AttributeBlock.trailing? (front ++ block) = some (a, front)
  literal : ∀ s, n.span = some s →
    Text.byteLength block ≤ s.stop ∧ StandsAt source (s.stop - Text.byteLength block) block

/-- The text node without the block at its start. The span starts behind the block, but not
    behind its own end. -/
def dropLead (n : Node) (block rest : List Char) : Node :=
  { n with
    kind := .text (String.ofList rest)
    span := n.span.map fun s => ⟨min (s.start + Text.byteLength block) s.stop, s.stop⟩ }

/-- The text node without the block at its end and the blanks before that. The span keeps its
    start, and its size is that of what the source has there, without the blanks. -/
def dropTail (source : List Char) (n : Node) (front block : List Char) : Node :=
  { n with
    kind := .text (String.ofList (Text.trimEnd front))
    span := n.span.map fun s =>
      ⟨s.start, s.start + ((Text.sliceChars? s.start (s.stop - Text.byteLength block) source).map
        fun raw => Text.byteLength (Text.trimEnd raw)).getD
          (Text.byteLength (Text.trimEnd front))⟩ }

/-- A check on the span of a node holds trivially without one. -/
theorem getD_map_span_iff {span : Option Span} {p : Span → Bool} :
    (span.map p).getD true = true ↔ ∀ s, span = some s → p s = true := by
  cases span with
  | none => simp only [Option.map_none, Option.getD_none, reduceCtorEq, false_implies, implies_true]
  | some s => simp only [Option.map_some, Option.getD_some, Option.some.injEq, forall_eq']

/-- What the block at the start of a value leaves is an end of the value, so the block is found
    again by counting characters or bytes. -/
theorem take_of_append {value : String} {block rest : List Char}
    (h : value.toList = block ++ rest) :
    value.toList.take (value.toList.length - rest.length) = block ∧
      Text.size value - Text.byteLength rest = Text.byteLength block := by
  refine ⟨?_, ?_⟩
  · rw [h, List.length_append, Nat.add_sub_cancel, List.take_left]
  · rw [Text.size, h, Text.byteLength_append, Nat.add_sub_cancel]

theorem drop_of_append {value : String} {front block : List Char}
    (h : value.toList = front ++ block) :
    value.toList.drop front.length = block ∧
      Text.size value - Text.byteLength front = Text.byteLength block := by
  refine ⟨?_, ?_⟩
  · rw [h, List.drop_left]
  · rw [Text.size, h, Text.byteLength_append, Nat.add_sub_cancel_left]

/-- When a block moves to the node before, and what becomes of the two nodes. -/
theorem moveLeading?_eq_some_iff {source : List Char} {target next target' next' : Node} :
    target.moveLeading? source next = some (target', next') ↔
      target.kind.takesLeadingBlock = true ∧ ∃ a block rest, next.OpensWith source a block rest ∧
        target' = target.attach a ∧ next' = next.dropLead block rest := by
  constructor
  · intro h
    unfold moveLeading? at h
    split at h
    · next value hkind =>
        simp only [Option.bind_eq_bind, Option.bind_eq_some_iff, Option.guard_eq_some',
          Option.pure_def, Option.some.injEq, Prod.mk.injEq, Prod.exists, exists_const] at h
        rcases h with ⟨htakes, a, rest, hread, hlit, rfl, rfl⟩
        -- What is left is an end of the value, so the block is the rest of it.
        rcases AttributeBlock.suffix_of_leading? hread with ⟨block, hvalue⟩
        rcases take_of_append hvalue.symm with ⟨htake, hsize⟩
        refine ⟨htakes, a, block, rest, ⟨?_, ?_, ?_⟩, rfl, ?_⟩
        · rw [hkind, hvalue, String.ofList_toList]
        · rw [hvalue, hread]
        · intro s hs
          rw [htake] at hlit
          exact isLiteralAt_iff.mp (getD_map_span_iff.mp hlit s hs)
        · simp only [dropLead, hsize]
    · simp only [reduceCtorEq] at h
  · rintro ⟨htakes, a, block, rest, hopens, rfl, rfl⟩
    have hvalue : (String.ofList (block ++ rest)).toList = block ++ rest := String.toList_ofList
    rcases take_of_append hvalue with ⟨htake, hsize⟩
    -- A block that was not written literally would stay where it is.
    have hlit : ((next.span.map fun s => isLiteralAt source s.start block).getD true) = true :=
      getD_map_span_iff.mpr fun s hs => isLiteralAt_iff.mpr (hopens.literal s hs)
    rw [hvalue] at htake
    unfold moveLeading?
    simp only [hopens.kind, hvalue, htakes, hopens.read, htake, hlit, hsize, guard, if_true,
      Option.pure_def, Option.bind_eq_bind, Option.bind_some, dropLead]

/-- When a block at the end of a text is cut, and what becomes of the text. -/
theorem cutTrailing?_eq_some_iff {source : List Char} {last last' : Node} {a : Attributes} :
    last.cutTrailing? source = some (last', a) ↔
      ∃ front block, last.ClosesWith source a front block ∧
        last' = last.dropTail source front block := by
  constructor
  · intro h
    unfold cutTrailing? at h
    split at h
    · next value hkind =>
        simp only [Option.bind_eq_bind, Option.bind_eq_some_iff, Option.guard_eq_some',
          Option.pure_def, Option.some.injEq, Prod.mk.injEq, Prod.exists, exists_const] at h
        rcases h with ⟨a', front, hread, hlit, rfl, rfl⟩
        rcases AttributeBlock.trailing?_eq_some hread with ⟨tail, hvalue, -, -⟩
        rcases drop_of_append hvalue with ⟨hdrop, hsize⟩
        refine ⟨front, '{' :: tail, ⟨?_, ?_, ?_⟩, ?_⟩
        · -- The value, what is read of it, and where the block stands in the source.
          rw [hkind, ← hvalue, String.ofList_toList]
        · rw [← hvalue, hread]
        · intro s hs
          have hplace := getD_map_span_iff.mp hlit s hs
          rw [hdrop, hsize, Bool.and_eq_true, decide_eq_true_eq] at hplace
          exact ⟨hplace.1, isLiteralAt_iff.mp hplace.2⟩
        · simp only [dropTail, hsize]
    · simp only [reduceCtorEq] at h
  · rintro ⟨front, block, hcloses, rfl⟩
    have hvalue : (String.ofList (front ++ block)).toList = front ++ block := String.toList_ofList
    rcases drop_of_append hvalue with ⟨hdrop, hsize⟩
    have hlit : ((last.span.map fun s => Text.byteLength block ≤ s.stop &&
        isLiteralAt source (s.stop - Text.byteLength block) block).getD true) = true := by
      refine getD_map_span_iff.mpr fun s hs => ?_
      rcases hcloses.literal s hs with ⟨hle, hplace⟩
      rw [Bool.and_eq_true, decide_eq_true_eq]
      exact ⟨hle, isLiteralAt_iff.mpr hplace⟩
    rw [hvalue] at hdrop
    unfold cutTrailing?
    simp only [hcloses.kind, hvalue, hcloses.read, hdrop, hsize, hlit, guard, if_true,
      Option.pure_def, Option.bind_eq_bind, Option.bind_some, dropTail]

/-- A text that opens with no block gives none to the node before. -/
theorem moveLeading?_eq_none {source : List Char} {target next : Node}
    (h : ∀ a block rest, ¬ next.OpensWith source a block rest) :
    target.moveLeading? source next = none := by
  rw [Option.eq_none_iff_forall_ne_some]
  rintro ⟨target', next'⟩ hmove
  rcases moveLeading?_eq_some_iff.mp hmove with ⟨-, a, block, rest, hopens, -, -⟩
  exact h a block rest hopens

/-- A text that closes with no block has none cut. -/
theorem cutTrailing?_eq_none {source : List Char} {last : Node}
    (h : ∀ a front block, ¬ last.ClosesWith source a front block) :
    last.cutTrailing? source = none := by
  rw [Option.eq_none_iff_forall_ne_some]
  rintro ⟨last', a⟩ hcut
  rcases cutTrailing?_eq_some_iff.mp hcut with ⟨front, block, hcloses, -⟩
  exact h a front block hcloses

end Node

end Anchormark
