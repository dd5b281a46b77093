import Anchormark.Proofs.Attribute.Edges
import Anchormark.Proofs.Node.Walk
import Anchormark.Proofs.Text.Blank
import Mathlib.Algebra.GroupWithZero.Nat

/-!
# What Resolving Means

A description of resolved trees that does not mention how they are computed. Resolving interleaves
four passes on every level of a tree, and each sees what the others have left behind. The
description has no passes. It says for every text which parts of its value go, and for every other
node which blocks it gets, all in terms of the tree as it was.

A text loses a block at its start when the sibling before it takes such blocks. It loses one at
its end, and the blanks before that, when it is the last text of an element that takes those, and
everything behind it vanishes. Whether something behind it vanishes is a question about blocks at
the start only, so this is no circle.

A text that nothing is left of goes. Everything else stays in place and in order, and keeps its
kind and its span.

## Main definitions

* `LeadsAt`: the sibling with a given index gives the block at its start to the one before it.
* `Led`: a sibling without that block.
* `TrailsAt`: the child with a given index gives the block at its end to the parent.
* `TextParts`, `PartsAt`: how the value of a text comes apart.
* `Resolution`: a tree, what it resolves to, and the number of blocks.

## Theorems

* `LeadsAt.unique`, `Led.unique`, `TrailsAt.unique`: Blocks and their places are determined.
* `PartsAt.unique`: A value comes apart in one way.
* `Resolution.unique`: A tree has one resolution.
-/

namespace Anchormark

/-- The `i`-th of the siblings `cs` is a text that begins with `block`, which belongs to the
    sibling before it. -/
def LeadsAt (source : List Char) (cs : List Node) (i : Nat) (a : Attributes)
    (block : List Char) : Prop :=
  ∃ k target text rest, i = k + 1 ∧ cs[k]? = some target ∧ cs[i]? = some text ∧
    target.kind.takesLeadingBlock = true ∧ text.OpensWith source a block rest

/-- `t` is the `i`-th of the siblings `cs` without the block at its start, if that goes. -/
def Led (source : List Char) (cs : List Node) (i : Nat) (t : Node) : Prop :=
  ∃ c, cs[i]? = some c ∧
    ((∃ a block rest, LeadsAt source cs i a block ∧ c.OpensWith source a block rest ∧
        t = c.dropLead block rest) ∨
      ((∀ a block, ¬ LeadsAt source cs i a block) ∧ t = c))

/-- The `i`-th child of `n` is a text that ends with `block`, which belongs to `n`: every child
    behind it is a text that nothing is left of. -/
def TrailsAt (source : List Char) (n : Node) (i : Nat) (a : Attributes) (block : List Char) :
    Prop :=
  n.kind.takesTrailingBlock = true ∧
    (∃ t front, Led source n.children i t ∧ t.ClosesWith source a front block) ∧
    ∀ j, i < j → j < n.children.length →
      ∃ t, Led source n.children j t ∧ t.isEmptyText = true

/-- How the value of a text comes apart. -/
structure TextParts where
  /-- The block that the sibling before the text takes. -/
  lead : List Char
  /-- What stays. -/
  kept : List Char
  /-- Blanks between what stays and the block at the end. -/
  gap : List Char
  /-- The block that the parent takes. -/
  tail : List Char

/-- The `i`-th child of `n`, a text with the given value, comes apart like this. A part is empty
    when there is no such block. -/
structure PartsAt (source : List Char) (n : Node) (i : Nat) (value : String) (p : TextParts) :
    Prop where
  value_eq : value.toList = p.lead ++ (p.kept ++ p.gap ++ p.tail)
  lead_iff : ∀ block, (p.lead = block ∧ block ≠ []) ↔ ∃ a, LeadsAt source n.children i a block
  tail_iff : ∀ block, (p.tail = block ∧ block ≠ []) ↔ ∃ a, TrailsAt source n i a block
  gap_blank : ∀ c ∈ p.gap, Text.isBlank c = true
  gap_eq_nil : p.tail = [] → p.gap = []
  kept_not_blank : p.tail ≠ [] → ∀ c ∈ p.kept.getLast?, Text.isBlank c = false

namespace TextParts

/-- The span behind the block at the start of a text. It does not begin behind its own end. -/
def spanBehind (lead : List Char) (s : Span) : Span :=
  if lead = [] then s else ⟨min (s.start + Text.byteLength lead) s.stop, s.stop⟩

/-- The span before the block at the end of a text: as much of the source as stands there without
    the blanks at its end, or as what stays takes if the source cannot be cut there. -/
def spanBefore (source kept tail : List Char) (s : Span) : Span :=
  if tail = [] then s
  else ⟨s.start, s.start +
    ((Text.sliceChars? s.start (s.stop - Text.byteLength tail) source).map
      fun raw => Text.byteLength (Text.trimEnd raw)).getD (Text.byteLength kept)⟩

/-- What is left of a text node. -/
def remains (source : List Char) (p : TextParts) (n : Node) : Node :=
  { n with
    kind := .text (String.ofList p.kept)
    span := (n.span.map (spanBehind p.lead)).map (spanBefore source p.kept p.tail) }

end TextParts

/-- `Resolution source n behind n' count`: the tree `n` resolves to `n'`, when `behind` is the
    block at the start of the text after it, if it takes one. `count` is the number of blocks that
    it gets or that go somewhere inside it.

    `ahead i` is the block that the `i`-th child gets from the text after it, and `own` the block
    that the node itself gets from its last text. -/
inductive Resolution (source : List Char) : Node → Option Attributes → Node → Nat → Prop
  | intro {n : Node} {behind own : Option Attributes} {ahead : Nat → Option Attributes}
      {results : List Node} {counts : List Nat}
      (own_iff : ∀ a, own = some a ↔ ∃ i block, TrailsAt source n i a block)
      (ahead_iff : ∀ i a, ahead i = some a ↔ ∃ block, LeadsAt source n.children (i + 1) a block)
      (length_results : results.length = n.children.length)
      (length_counts : counts.length = n.children.length)
      (texts : ∀ i c value, n.children[i]? = some c → c.kind = .text value →
        ∃ parts, PartsAt source n i value parts ∧ results[i]? = some (parts.remains source c) ∧
          counts[i]? = some 0)
      (others : ∀ i c r k, n.children[i]? = some c → c.type ≠ .text → results[i]? = some r →
        counts[i]? = some k → Resolution source c (ahead i) r k) :
      Resolution source n behind
        { n with
          children := results.filter fun r => !r.isEmptyText
          hint := (n.hint <|> own.bind Attributes.usableId) <|>
            behind.bind Attributes.usableId }
        (behind.toList.length + own.toList.length + counts.sum)

variable {source : List Char}

/-- A text opens with one block at most. -/
theorem Node.OpensWith.unique {n : Node} {a a' : Attributes} {block block' rest rest' : List Char}
    (h : n.OpensWith source a block rest) (h' : n.OpensWith source a' block' rest') :
    a = a' ∧ block = block' ∧ rest = rest' := by
  have hkind := h.kind.symm.trans h'.kind
  rw [Kind.text.injEq, String.ofList_inj] at hkind
  have hread := h.read
  rw [hkind, h'.read, Option.some.injEq, Prod.mk.injEq] at hread
  rcases hread with ⟨rfl, rfl⟩
  exact ⟨rfl, List.append_cancel_right hkind, rfl⟩

/-- A text closes with one block at most. -/
theorem Node.ClosesWith.unique {n : Node} {a a' : Attributes}
    {block block' front front' : List Char} (h : n.ClosesWith source a front block)
    (h' : n.ClosesWith source a' front' block') : a = a' ∧ front = front' ∧ block = block' := by
  have hkind := h.kind.symm.trans h'.kind
  rw [Kind.text.injEq, String.ofList_inj] at hkind
  have hread := h.read
  rw [hkind, h'.read, Option.some.injEq, Prod.mk.injEq] at hread
  rcases hread with ⟨rfl, rfl⟩
  exact ⟨rfl, rfl, List.append_cancel_left hkind⟩

/-- No block is empty: it has at least its braces. -/
theorem Node.OpensWith.block_ne_nil {n : Node} {a : Attributes} {block rest : List Char}
    (h : n.OpensWith source a block rest) : block ≠ [] := by
  rintro rfl
  rcases AttributeBlock.leading?_eq_some h.read with ⟨body, hbody⟩
  have hlen := congrArg List.length hbody
  simp only [List.nil_append, List.length_cons, List.length_append] at hlen
  omega

theorem Node.ClosesWith.block_ne_nil {n : Node} {a : Attributes} {front block : List Char}
    (h : n.ClosesWith source a front block) : block ≠ [] := by
  rcases AttributeBlock.trailing?_eq_some h.read with ⟨tail, hblock, -, -⟩
  rw [List.append_cancel_left_eq] at hblock
  rw [hblock]
  exact List.cons_ne_nil _ _

/-- A text that closes with a block is not empty. -/
theorem Node.ClosesWith.isEmptyText {n : Node} {a : Attributes} {front block : List Char}
    (h : n.ClosesWith source a front block) : n.isEmptyText = false := by
  rw [Node.isEmptyText, h.kind, String.isEmpty_eq_false_iff, ne_eq, String.ofList_eq_empty_iff]
  exact fun hnil => h.block_ne_nil (List.append_eq_nil_iff.mp hnil).2

/-- The text that gives a block away opens with it. -/
theorem LeadsAt.opensWith {cs : List Node} {i : Nat} {a : Attributes} {block : List Char}
    (h : LeadsAt source cs i a block) {c : Node} (hc : cs[i]? = some c) :
    ∃ rest, c.OpensWith source a block rest := by
  rcases h with ⟨k, target, text, rest, -, -, htext, -, hopens⟩
  rw [hc, Option.some.injEq] at htext
  exact ⟨rest, htext ▸ hopens⟩

theorem LeadsAt.getElem? {cs : List Node} {i : Nat} {a : Attributes} {block : List Char}
    (h : LeadsAt source cs i a block) : ∃ c, cs[i]? = some c := by
  rcases h with ⟨k, target, text, rest, -, -, htext, -, hopens⟩
  exact ⟨text, htext⟩

/-- A text gives one block away at most. -/
theorem LeadsAt.unique {cs : List Node} {i : Nat} {a a' : Attributes} {block block' : List Char}
    (h : LeadsAt source cs i a block) (h' : LeadsAt source cs i a' block') :
    a = a' ∧ block = block' := by
  rcases h.getElem? with ⟨c, hc⟩
  rcases h.opensWith hc with ⟨rest, hopens⟩
  rcases h'.opensWith hc with ⟨rest', hopens'⟩
  exact ⟨(hopens.unique hopens').1, (hopens.unique hopens').2.1⟩

/-- There is one node that a sibling becomes when the blocks at the starts go. -/
theorem Led.unique {cs : List Node} {i : Nat} {t t' : Node} (h : Led source cs i t)
    (h' : Led source cs i t') : t = t' := by
  rcases h with ⟨c, hc, h⟩
  rcases h' with ⟨c', hc', h'⟩
  rw [hc, Option.some.injEq] at hc'
  subst hc'
  rcases h with ⟨a, block, rest, hleads, hopens, rfl⟩ | ⟨hnone, rfl⟩
  · rcases h' with ⟨a', block', rest', hleads', hopens', rfl⟩ | ⟨hnone, rfl⟩
    · rcases hopens.unique hopens' with ⟨-, rfl, rfl⟩
      rfl
    · exact absurd hleads (hnone a block)
  · rcases h' with ⟨a', block', rest', hleads', -, -⟩ | ⟨-, rfl⟩
    · exact absurd hleads' (hnone a' block')
    · rfl

/-- A sibling without the block at its start is of the type that it was. -/
theorem Led.type_eq {cs : List Node} {i : Nat} {c t : Node}
    (h : Led source cs i t) (hc : cs[i]? = some c) : t.type = c.type := by
  rcases h with ⟨d, hd, h⟩
  rw [hc, Option.some.injEq] at hd
  subst hd
  rcases h with ⟨a, block, rest, -, hopens, rfl⟩ | ⟨-, rfl⟩
  · rw [Node.type, Node.type, hopens.kind]
    rfl
  · rfl

/-- What gives away the block at its end has only empty texts behind it, so nothing behind it
    does the same. -/
theorem TrailsAt.not_lt {n : Node} {i j : Nat} {a a' : Attributes} {block block' : List Char}
    (h : TrailsAt source n i a block) (h' : TrailsAt source n j a' block') : ¬ i < j := by
  intro hlt
  rcases h'.2.1 with ⟨t, front, hled, hcloses⟩
  have hj : j < n.children.length := by
    rcases hled with ⟨c, hc, -⟩
    exact (List.getElem?_eq_some_iff.mp hc).1
  rcases h.2.2 j hlt hj with ⟨t', hled', hempty⟩
  rw [hled'.unique hled, hcloses.isEmptyText] at hempty
  exact Bool.false_ne_true hempty

/-- An element gets one block from its last text at most. -/
theorem TrailsAt.unique {n : Node} {i j : Nat} {a a' : Attributes} {block block' : List Char}
    (h : TrailsAt source n i a block) (h' : TrailsAt source n j a' block') :
    i = j ∧ a = a' ∧ block = block' := by
  have hij : i = j :=
    Nat.le_antisymm (Nat.le_of_not_lt (h'.not_lt h)) (Nat.le_of_not_lt (h.not_lt h'))
  subst hij
  rcases h.2.1 with ⟨t, front, hled, hcloses⟩
  rcases h'.2.1 with ⟨t', front', hled', hcloses'⟩
  rw [hled'.unique hled] at hcloses'
  rcases hcloses.unique hcloses' with ⟨ha, -, hblock⟩
  exact ⟨rfl, ha, hblock⟩

/-- Two parts that are both either empty or the one block there is are equal. -/
theorem eq_of_iff_block {part part' : List Char} {P : List Char → Prop}
    (h : ∀ block, (part = block ∧ block ≠ []) ↔ P block)
    (h' : ∀ block, (part' = block ∧ block ≠ []) ↔ P block) : part = part' := by
  by_cases hpart : part = []
  · by_cases hpart' : part' = []
    · rw [hpart, hpart']
    · exact ((h part').mpr ((h' part').mp ⟨rfl, hpart'⟩)).1
  · exact ((h' part).mpr ((h part).mp ⟨rfl, hpart⟩)).1.symm

/-- A value comes apart in one way. -/
theorem PartsAt.unique {n : Node} {i : Nat} {value : String} {p p' : TextParts}
    (h : PartsAt source n i value p) (h' : PartsAt source n i value p') : p = p' := by
  rcases p with ⟨lead, kept, gap, tail⟩
  rcases p' with ⟨lead', kept', gap', tail'⟩
  have hlead : lead = lead' := eq_of_iff_block h.lead_iff h'.lead_iff
  have htail : tail = tail' := eq_of_iff_block h.tail_iff h'.tail_iff
  subst hlead htail
  -- The two ends agree, so what is between them does.
  have hmiddle : kept ++ gap = kept' ++ gap' := by
    have hvalue := h.value_eq.symm.trans h'.value_eq
    exact List.append_cancel_right (List.append_cancel_left hvalue)
  by_cases hnil : tail = []
  · -- Without a block at the end there is no gap.
    have hgap : gap = [] := h.gap_eq_nil hnil
    have hgap' : gap' = [] := h'.gap_eq_nil hnil
    subst hgap hgap'
    rw [List.append_nil, List.append_nil] at hmiddle
    rw [hmiddle]
  · -- Both are what trimming leaves of the part in the middle.
    have hkept : kept = kept' := calc
      kept = Text.trimEnd (kept ++ gap) :=
        (Text.trimEnd_append_blanks h.gap_blank (h.kept_not_blank hnil)).symm
      _ = Text.trimEnd (kept' ++ gap') := by rw [hmiddle]
      _ = kept' := Text.trimEnd_append_blanks h'.gap_blank (h'.kept_not_blank hnil)
    subst hkept
    rw [List.append_cancel_left hmiddle]

/-- A node of type text has a value. -/
theorem exists_text_of_type {n : Node} (h : n.type = .text) : ∃ value, n.kind = .text value := by
  unfold Node.type at h
  cases hkind : n.kind with
  | text value => exact ⟨value, rfl⟩
  | _ =>
      rw [hkind] at h
      simp only [Kind.type, reduceCtorEq] at h

/-- The element that splits a list stands behind those before it. -/
theorem getElem?_of_split {α : Type} {l before behind : List α} {a : α}
    (h : l = before ++ a :: behind) : l[before.length]? = some a := by
  rw [h, List.getElem?_append_right (Nat.le_refl _), Nat.sub_self, List.getElem?_cons_zero]

theorem exists_getElem? {α : Type} {l : List α} {i : Nat} (h : i < l.length) :
    ∃ a, l[i]? = some a :=
  ⟨l[i], List.getElem?_eq_getElem h⟩

/-- A tree has one resolution. The induction is on the first of the two; the second gives the
    same blocks to every child, because it says the same of the tree as it was. -/
theorem Resolution.unique {n : Node} {behind : Option Attributes} {n₁ n₂ : Node} {k₁ k₂ : Nat}
    (h₁ : Resolution source n behind n₁ k₁) (h₂ : Resolution source n behind n₂ k₂) :
    n₁ = n₂ ∧ k₁ = k₂ := by
  induction h₁ generalizing n₂ k₂ with
  | @intro n behind own ahead results counts own_iff ahead_iff length_results length_counts texts
      others ih =>
      cases h₂ with
      | @intro _ _ own' ahead' results' counts' own_iff' ahead_iff' length_results' length_counts'
          texts' others' =>
          -- The blocks are determined by the tree, whichever resolution speaks of them.
          have hown : own = own' := by
            refine Option.ext fun a => ?_
            rw [own_iff, own_iff']
          have hahead : ahead = ahead' := by
            refine funext fun i => Option.ext fun a => ?_
            rw [ahead_iff, ahead_iff']
          subst hown hahead
          -- Child by child: a text comes apart in one way, and any other child has one resolution.
          have hboth (i : Nat) : results[i]? = results'[i]? ∧ counts[i]? = counts'[i]? := by
            by_cases hi : i < n.children.length
            · have hc := List.getElem?_eq_getElem hi
              by_cases htext : (n.children[i]).type = .text
              · rcases exists_text_of_type htext with ⟨value, hvalue⟩
                rcases texts i _ value hc hvalue with ⟨p, hp, hr, hk⟩
                rcases texts' i _ value hc hvalue with ⟨p', hp', hr', hk'⟩
                rw [hr, hr', hk, hk', hp.unique hp']
                exact ⟨rfl, rfl⟩
              · rcases exists_getElem? (length_results ▸ hi) with ⟨r, hr⟩
                rcases exists_getElem? (length_results' ▸ hi) with ⟨r', hr'⟩
                rcases exists_getElem? (length_counts ▸ hi) with ⟨k, hk⟩
                rcases exists_getElem? (length_counts' ▸ hi) with ⟨k', hk'⟩
                have hsame := ih i _ r k hc htext hr hk (others' i _ r' k' hc htext hr' hk')
                rw [hr, hr', hk, hk', hsame.1, hsame.2]
                exact ⟨rfl, rfl⟩
            · rw [List.getElem?_eq_none (by omega), List.getElem?_eq_none (by omega),
                List.getElem?_eq_none (by omega), List.getElem?_eq_none (by omega)]
              exact ⟨rfl, rfl⟩
          rw [List.ext_getElem? fun i => (hboth i).1, List.ext_getElem? fun i => (hboth i).2]
          exact ⟨rfl, rfl⟩

/-- A text without the block at its start is what is left behind that part of its value. -/
theorem Led.exists_lead {cs : List Node} {i : Nat} {c t : Node} {value : String}
    (hled : Led source cs i t) (hc : cs[i]? = some c) (hkind : c.kind = .text value) :
    ∃ lead rest, value.toList = lead ++ rest ∧
      (∀ block, (lead = block ∧ block ≠ []) ↔ ∃ a, LeadsAt source cs i a block) ∧
      t = { c with
        kind := .text (String.ofList rest), span := c.span.map (TextParts.spanBehind lead) } := by
  rcases hled with ⟨d, hd, hled⟩
  rw [hc, Option.some.injEq] at hd
  subst hd
  -- The lead is the block if there is one, and nothing otherwise.
  rcases hled with ⟨a, block, rest, hleads, hopens, rfl⟩ | ⟨hnone, rfl⟩
  · refine ⟨block, rest, ?_, fun block' => ?_, ?_⟩
    · have h := hkind.symm.trans hopens.kind
      rw [Kind.text.injEq] at h
      rw [h, String.toList_ofList]
    · constructor
      · rintro ⟨rfl, -⟩
        exact ⟨a, hleads⟩
      · rintro ⟨a', hleads'⟩
        rw [← (hleads.unique hleads').2]
        exact ⟨rfl, hopens.block_ne_nil⟩
    · have hspan : TextParts.spanBehind block =
          fun s => ⟨min (s.start + Text.byteLength block) s.stop, s.stop⟩ :=
        funext fun s => if_neg hopens.block_ne_nil
      rw [hspan]
      rfl
  · refine ⟨[], value.toList, rfl, fun block' => ?_, ?_⟩
    · constructor
      · rintro ⟨rfl, hne⟩
        exact absurd rfl hne
      · rintro ⟨a', hleads'⟩
        exact absurd hleads' (hnone a' block')
    · have hspan : TextParts.spanBehind [] = id := funext fun s => if_pos rfl
      rw [hspan, Option.map_id_fun, id_eq, String.ofList_toList, ← hkind]
      cases t
      rfl

/-- How a text comes apart that has no block for its parent. -/
theorem Led.exists_parts {n : Node} {i : Nat} {c t : Node} {value : String}
    (hled : Led source n.children i t) (hc : n.children[i]? = some c)
    (hkind : c.kind = .text value) (hnone : ∀ a block, ¬ TrailsAt source n i a block) :
    ∃ parts, PartsAt source n i value parts ∧ t = parts.remains source c := by
  rcases hled.exists_lead hc hkind with ⟨lead, rest, hvalue, hlead, rfl⟩
  refine ⟨⟨lead, rest, [], []⟩, ⟨?_, hlead, fun block => ?_, ?_, fun _ => rfl, ?_⟩, ?_⟩
  · rw [List.append_nil, List.append_nil, hvalue]
  · constructor
    · rintro ⟨rfl, hne⟩
      exact absurd rfl hne
    · rintro ⟨a, h⟩
      exact absurd h (hnone a block)
  · intro d hd
    exact absurd hd List.not_mem_nil
  · intro hne
    exact absurd rfl hne
  · have hspan : TextParts.spanBefore source rest [] = id := funext fun s => if_pos rfl
    rw [TextParts.remains, hspan, Option.map_id_fun, id_eq]

/-- How a text comes apart that has a block for its parent. -/
theorem TrailsAt.exists_parts {n : Node} {i : Nat} {c t : Node} {value : String} {a : Attributes}
    {front block : List Char} (h : TrailsAt source n i a block)
    (hled : Led source n.children i t) (hcloses : t.ClosesWith source a front block)
    (hc : n.children[i]? = some c) (hkind : c.kind = .text value) :
    ∃ parts, PartsAt source n i value parts ∧
      t.dropTail source front block = parts.remains source c := by
  rcases hled.exists_lead hc hkind with ⟨lead, rest, hvalue, hlead, rfl⟩
  have hrest : rest = front ++ block := by
    have hkind' := hcloses.kind
    rw [Kind.text.injEq, String.ofList_inj] at hkind'
    exact hkind'
  -- The white space before the block is the gap.
  rcases Text.exists_trimEnd front with ⟨gap, hfront, hgap, hkept⟩
  refine ⟨⟨lead, Text.trimEnd front, gap, block⟩,
    ⟨?_, hlead, fun block' => ?_, hgap, fun hnil => absurd hnil hcloses.block_ne_nil,
      fun _ => hkept⟩, ?_⟩
  · rw [hvalue, hrest, ← hfront]
  · constructor
    · rintro ⟨rfl, -⟩
      exact ⟨a, h⟩
    · rintro ⟨a', h'⟩
      rw [← (h.unique h').2.2]
      exact ⟨rfl, hcloses.block_ne_nil⟩
  · have hspan : TextParts.spanBefore source (Text.trimEnd front) block = fun s =>
        ⟨s.start, s.start +
          ((Text.sliceChars? s.start (s.stop - Text.byteLength block) source).map
            fun raw => Text.byteLength (Text.trimEnd raw)).getD
              (Text.byteLength (Text.trimEnd front))⟩ :=
      funext fun s => if_neg hcloses.block_ne_nil
    rw [TextParts.remains, hspan]
    rfl

end Anchormark
