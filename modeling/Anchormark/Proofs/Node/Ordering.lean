import Anchormark.Proofs.Node.Feeding

/-!
# Siblings in Order

Siblings stand one behind the other in the source, between two places that belong to the node
around them. Appending a node that stands behind them keeps that, also when the node is a text and
joins the text before it: then the two cover what lies between them, and that is nothing the other
siblings have.

A node hugs its children if it reaches from the first of them to the last. Then it has to grow as
they do, and it does so with the same operation.

## Main definitions

* `Node.InOrder`: siblings one behind the other between two places.
* `Node.IsPlaced`: a node around its children, and these in order.
* `Node.Hugs`: a node that reaches from its first child to its last.

## Theorems

* `Node.InOrder.append_iff`: Siblings in order come apart at a place between them.
* `Node.InOrder.isPlaced`: A node is placed if its children are in order inside its span.
* `Node.appendMerged_of_inOrder`: A node behind siblings joins the last of them or follows it.
* `Node.InOrder.appendMerged`, `Node.Hugs.grow`: Siblings stay in order, and hugged.
-/

namespace Anchormark

/-- A span that begins and stops later is covered up to where it stops. -/
theorem Span.cover_of_le {a b : Span} (hstart : a.start ≤ b.start) (hstop : a.stop ≤ b.stop) :
    a.cover b = ⟨a.start, b.stop⟩ := by
  rw [cover, Nat.min_eq_left hstart, Nat.max_eq_right hstop]

namespace Node

/-- The siblings stand one behind the other, the first not before `lo` and the last not beyond
    `hi`. -/
def InOrder (lo : Nat) : List Node → Nat → Prop
  | [], hi => lo ≤ hi
  | c :: rest, hi =>
    ∃ s, c.span = some s ∧ lo ≤ s.start ∧ s.start ≤ s.stop ∧ InOrder s.stop rest hi

/-- The node has a span, its children have spans inside it, and no child begins before those in
    front of it have stopped. -/
structure IsPlaced (n : Node) : Prop where
  inside : ∃ s, n.span = some s ∧ s.start ≤ s.stop ∧
    ∀ c ∈ n.children, ∃ t, c.span = some t ∧ s.start ≤ t.start ∧ t.stop ≤ s.stop
  ordered : n.children.Pairwise fun a b => ∀ s ∈ a.span, ∀ t ∈ b.span, s.stop ≤ t.start

/-- The span of the node reaches exactly from the start of its first child to the end of its
    last. -/
def Hugs (n : Node) : Prop :=
  ∃ lo hi, n.span = some ⟨lo, hi⟩ ∧ (∃ c ∈ n.children.head?, ∃ s ∈ c.span, s.start = lo) ∧
    ∃ c ∈ n.children.getLast?, ∃ s ∈ c.span, s.stop = hi

namespace InOrder

variable {lo mid hi : Nat} {cs ds : List Node}

theorem le (h : InOrder lo cs hi) : lo ≤ hi := by
  induction cs generalizing lo with
  | nil => exact h
  | cons c cs ih =>
      rcases h with ⟨s, -, hlo, hle, hrest⟩
      exact Nat.le_trans (Nat.le_trans hlo hle) (ih hrest)

theorem mono {lo' hi' : Nat} (h : InOrder lo cs hi) (hlo : lo' ≤ lo) (hhi : hi ≤ hi') :
    InOrder lo' cs hi' := by
  induction cs generalizing lo lo' with
  | nil => exact Nat.le_trans (Nat.le_trans hlo h) hhi
  | cons c cs ih =>
      rcases h with ⟨s, hspan, hstart, hle, hrest⟩
      exact ⟨s, hspan, Nat.le_trans hlo hstart, hle, ih hrest (Nat.le_refl _)⟩

/-- Siblings are in order if they are up to some place and from there on. -/
theorem append_iff : InOrder lo (cs ++ ds) hi ↔ ∃ mid, InOrder lo cs mid ∧ InOrder mid ds hi := by
  induction cs generalizing lo with
  | nil =>
      constructor
      · intro h
        exact ⟨lo, Nat.le_refl _, h⟩
      · rintro ⟨mid, hmid, h⟩
        exact h.mono hmid (Nat.le_refl _)
  | cons c cs ih =>
      constructor
      · rintro ⟨s, hspan, hlo, hle, hrest⟩
        rcases ih.mp hrest with ⟨mid, hcs, hds⟩
        exact ⟨mid, ⟨s, hspan, hlo, hle, hcs⟩, hds⟩
      · rintro ⟨mid, ⟨s, hspan, hlo, hle, hcs⟩, hds⟩
        exact ⟨s, hspan, hlo, hle, ih.mpr ⟨mid, hcs, hds⟩⟩

/-- Each of the siblings stands between the two places. -/
theorem bounds (h : InOrder lo cs hi) {c : Node} (hc : c ∈ cs) :
    ∃ s, c.span = some s ∧ lo ≤ s.start ∧ s.stop ≤ hi := by
  rcases List.append_of_mem hc with ⟨front, back, rfl⟩
  rcases append_iff.mp h with ⟨mid, hfront, s, hspan, hmid, -, hback⟩
  exact ⟨s, hspan, Nat.le_trans hfront.le hmid, hback.le⟩

/-- No sibling begins before those in front of it have stopped. -/
theorem pairwise (h : InOrder lo cs hi) :
    cs.Pairwise fun a b => ∀ s ∈ a.span, ∀ t ∈ b.span, s.stop ≤ t.start := by
  induction cs generalizing lo with
  | nil => exact List.Pairwise.nil
  | cons c cs ih =>
      rcases h with ⟨s, hspan, -, -, hrest⟩
      refine List.pairwise_cons.mpr ⟨fun d hd s' hs' t ht => ?_, ih hrest⟩
      rcases hrest.bounds hd with ⟨t', ht', hle, -⟩
      rw [Option.mem_def, hspan, Option.some.injEq] at hs'
      rw [Option.mem_def, ht', Option.some.injEq] at ht
      exact hs' ▸ ht ▸ hle

end InOrder

/-- A text that grows covers what is added to it. -/
theorem span_mergeText? {last n merged : Node} {a s : Span}
    (h : last.mergeText? n = some merged) (ha : last.span = some a) (hs : n.span = some s) :
    merged.span = some (a.cover s) := by
  unfold mergeText? at h
  split at h
  · rw [Option.some.injEq] at h
    rw [← h]
    simp only [ha, hs]
  · simp only [reduceCtorEq] at h

section Appending

variable {lo pos : Nat} {cs : List Node} {n : Node} {s : Span} (hcs : InOrder lo cs pos)
  (hspan : n.span = some s) (hpos : pos ≤ s.start) (hle : s.start ≤ s.stop)
include hcs hspan hpos hle

/-- A node behind siblings in order goes to their end, or the last of them reaches over it. -/
theorem appendMerged_of_inOrder :
    (appendMerged cs n = cs ++ [n]) ∨
      ∃ front last merged mid a, cs = front ++ [last] ∧ last.mergeText? n = some merged ∧
        appendMerged cs n = front ++ [merged] ∧ InOrder lo front mid ∧ mid ≤ a.start ∧
        a.start ≤ s.stop ∧ last.span = some a ∧ merged.span = some ⟨a.start, s.stop⟩ := by
  rcases appendMerged_cases cs n with ⟨heq, -⟩ | ⟨front, last, merged, rfl, hmerge, heq⟩
  · exact .inl heq
  · rcases InOrder.append_iff.mp hcs with ⟨mid, hfront, a, ha, hmid, hale, hstop⟩
    have hstop : a.stop ≤ pos := hstop
    have hcover : a.cover s = ⟨a.start, s.stop⟩ :=
      Span.cover_of_le (by omega) (by omega)
    refine .inr ⟨front, last, merged, mid, a, rfl, hmerge, heq, hfront, hmid, by omega, ha, ?_⟩
    rw [span_mergeText? hmerge ha hspan, hcover]

/-- Siblings stay in order when a node behind them is appended. -/
theorem InOrder.appendMerged : InOrder lo (appendMerged cs n) s.stop := by
  rcases appendMerged_of_inOrder hcs hspan hpos hle with
    heq | ⟨front, last, merged, mid, a, rfl, -, heq, hfront, hmid, hale, ha, hmerged⟩
  · rw [heq, InOrder.append_iff]
    exact ⟨pos, hcs, s, hspan, hpos, hle, Nat.le_refl _⟩
  · rw [heq, InOrder.append_iff]
    exact ⟨mid, hfront, ⟨a.start, s.stop⟩, hmerged, hmid, hale, Nat.le_refl _⟩

/-- The last of the siblings stops where the node that was appended stops. -/
theorem getLast?_appendMerged :
    ∃ c ∈ (appendMerged cs n).getLast?, ∃ t ∈ c.span, t.stop = s.stop := by
  rcases appendMerged_of_inOrder hcs hspan hpos hle with
    heq | ⟨front, last, merged, mid, a, -, -, heq, -, -, -, -, hmerged⟩
  · rw [heq]
    exact ⟨n, List.getLast?_concat, s, hspan, rfl⟩
  · rw [heq]
    exact ⟨merged, List.getLast?_concat, _, hmerged, rfl⟩

/-- The first of the siblings begins where it began. -/
theorem head?_appendMerged {start : Nat} (h : ∃ c ∈ cs.head?, ∃ t ∈ c.span, t.start = start) :
    ∃ c ∈ (appendMerged cs n).head?, ∃ t ∈ c.span, t.start = start := by
  rcases appendMerged_of_inOrder hcs hspan hpos hle with
    heq | ⟨front, last, merged, mid, a, rfl, -, heq, -, -, -, ha, hmerged⟩
  · rcases h with ⟨c, hc, hstart⟩
    refine ⟨c, ?_, hstart⟩
    rw [heq, List.head?_append, Option.mem_def.mp hc]
    rfl
  · rw [heq]
    cases front with
    | nil =>
        -- The only sibling has grown, at its end.
        rcases h with ⟨c, hc, t, ht, hstart⟩
        rw [List.nil_append, List.head?_cons, Option.mem_some_iff] at hc
        subst hc
        rw [Option.mem_def, ha, Option.some.injEq] at ht
        exact ⟨merged, rfl, _, hmerged, ht ▸ hstart⟩
    | cons first front => exact h

end Appending

/-- A node is placed if its children are in order inside its span. -/
theorem InOrder.isPlaced {n : Node} {s : Span} (h : InOrder s.start n.children s.stop)
    (hspan : n.span = some s) : n.IsPlaced := by
  refine ⟨⟨s, hspan, h.le, fun c hc => ?_⟩, h.pairwise⟩
  exact h.bounds hc

/-- A node around a single child hugs it if they have the same span. -/
theorem Hugs.singleton {n c : Node} {s : Span} (hchildren : n.children = [c])
    (hspan : n.span = some s) (hc : c.span = some s) : n.Hugs := by
  refine ⟨s.start, s.stop, hspan, ?_, ?_⟩
  · rw [hchildren]
    exact ⟨c, rfl, s, hc, rfl⟩
  · rw [hchildren]
    exact ⟨c, rfl, s, hc, rfl⟩

/-- A node that hugs its children goes on to do so when one is appended and its span grows over
    that. -/
theorem Hugs.grow {p n : Node} {a s : Span} (h : p.Hugs) (ha : p.span = some a)
    (hchildren : InOrder a.start p.children a.stop) (hspan : n.span = some s)
    (hpos : a.stop ≤ s.start) (hle : s.start ≤ s.stop) :
    Hugs { p with
      span := some ⟨a.start, s.stop⟩, children := Anchormark.appendMerged p.children n } := by
  rcases h with ⟨lo, hi, hown, hfirst, -⟩
  rw [ha, Option.some.injEq] at hown
  subst hown
  exact ⟨lo, s.stop, rfl, head?_appendMerged hchildren hspan hpos hle hfirst,
    getLast?_appendMerged hchildren hspan hpos hle⟩

end Node

end Anchormark
