import Anchormark.Proofs.Node.Ordering
import Anchormark.Proofs.Node.Shape

/-!
# Positions Stay Nested

In a well-formed stream the ranges of the events are nested as the elements are. An event lies
inside the element around it, and begins where the event before it at the same level has stopped,
or later. The nodes of the tree are placed in the same way, although few of them have the range of
one event only. Texts that merge cover both ranges, a paragraph that is put around the content of
a tight item grows with that content, and what an element that dissolves hands on ends up in a
parent that has another range.

That a stream is well nested can be checked event by event. All there is to remember is a window:
where the next event may begin, and where the open elements end. The proof goes by the same steps.
To each open frame belongs the part of the source from where its element began to where the next
event may begin, and its finished children stand in that part in their order. An event that is
appended moves the end of that part, and closing an element puts what it covered behind what the
frame below has.

A paragraph among the children of an item has a tag of its own or was put around tight content. The
builder does not note which. But a paragraph with a tag is a frame until its closing event hands it
on, and one of the other kind never is, so what closing events hand on tells them apart.

## Main definitions

* `Window`, `Window.next?`: where the next event may stand.
* `WellNested`: a balanced stream whose ranges are nested.
* `HandsOn`: what the closing events of a stream hand on.
* `Node.Seated`: a tree that is placed, and whose tight paragraphs hug their children.
* `Frame.Holds`, `Stacked`: the invariant for one frame and for all of them.

## Theorems

* `Frame.Holds.append`, `Frame.Holds.toNode`: What appending and closing do to one frame.
* `Builder.Stands.push`, `Builder.Stands.feed`: Every event of the stream keeps the invariant.
* `positions_ofEvents`: The positions in the tree of a well-nested stream.
-/

namespace Anchormark

/-- Where the next event of a stream may stand: not before `pos`, and not beyond `stop`, where the
    innermost open element ends. The elements around that one end at `outer`, from the inside
    out. The outermost of these places is the end of the source. -/
structure Window where
  pos : Nat
  stop : Nat
  outer : List Nat
  deriving DecidableEq

namespace Window

/-- The span is not inverted and lies in the window. -/
def Admits (w : Window) (s : Span) : Prop :=
  w.pos ≤ s.start ∧ s.start ≤ s.stop ∧ s.stop ≤ w.stop

instance (w : Window) (s : Span) : Decidable (w.Admits s) :=
  inferInstanceAs (Decidable (_ ∧ _ ∧ _))

/-- The window behind an event, unless the event stands outside the window or closes more than is
    open. An element is a window of its own until it closes. A closing event has no place but the
    end of its element, whatever range comes with it. -/
def next? (w : Window) (event : Event) (span : Span) : Option Window :=
  match event with
  | .start _ => if w.Admits span then some ⟨span.start, span.stop, w.stop :: w.outer⟩ else none
  | .close =>
    match w.outer with
    | [] => none
    | stop :: outer => some ⟨w.stop, stop, outer⟩
  | _ => if w.Admits span then some { w with pos := span.stop } else none

/-- The window behind several events. -/
def after? (w : Window) (events : List (Event × Span)) : Option Window :=
  events.foldlM (fun w (event, span) => w.next? event span) w

/-- What an event can do: it opens an element in the window, closes the innermost one, or takes a
    place in the window. -/
theorem next?_cases {w w' : Window} {event : Event} {s : Span} (h : w.next? event s = some w') :
    (∃ tag, event = .start tag ∧ w.Admits s ∧ w' = ⟨s.start, s.stop, w.stop :: w.outer⟩) ∨
      (event = .close ∧ ∃ stop outer, w.outer = stop :: outer ∧ w' = ⟨w.stop, stop, outer⟩) ∨
      ((∀ tag, event ≠ .start tag) ∧ event ≠ .close ∧ w.Admits s ∧
        w' = { w with pos := s.stop }) := by
  unfold next? at h
  split at h
  · next tag =>
      rw [Option.ite_none_right_eq_some, Option.some.injEq] at h
      exact .inl ⟨tag, rfl, h.1, h.2.symm⟩
  · split at h
    · cases h
    · next stop outer houter =>
        rw [Option.some.injEq] at h
        exact .inr (.inl ⟨rfl, stop, outer, houter, h.symm⟩)
  · next hstart hclose =>
      rw [Option.ite_none_right_eq_some, Option.some.injEq] at h
      exact .inr (.inr ⟨fun tag ht => hstart tag ht, hclose, h.1, h.2.symm⟩)

theorem after?_nil (w : Window) : w.after? [] = some w := rfl

theorem after?_cons (w : Window) (event : Event) (span : Span) (rest : List (Event × Span)) :
    w.after? ((event, span) :: rest) = (w.next? event span).bind (·.after? rest) := rfl

end Window

/-- The stream is balanced, every range lies in the source and in the range of the element around
    it, and the ranges at one level follow each other. -/
def WellNested (source : String) (events : List (Event × Span)) : Prop :=
  ∃ w, Window.after? ⟨0, Text.size source, []⟩ events = some w ∧ w.outer = []

instance (source : String) (events : List (Event × Span)) : Decidable (WellNested source events) :=
  decidable_of_iff
    ((Window.after? ⟨0, Text.size source, []⟩ events).any (·.outer.isEmpty) = true) (by
      simp only [WellNested, Option.any_eq_true, List.isEmpty_iff])

/-- A closing event of the stream hands on the node: it is what has become of the frame that is
    innermost when the event comes. -/
def HandsOn (source : String) (events : List (Event × Span)) (n : Node) : Prop :=
  ∃ front stop back, events = front ++ (.close, stop) :: back ∧
    n = ((Builder.new source).feed front).top.toNode

namespace Node

variable {T : Node → Prop}

/-- The node is around its children, which are in order. If it is an item, the paragraphs among them
    that did not come as paragraphs hug their children. What came as a paragraph satisfies `T`. -/
structure Sits (T : Node → Prop) (n : Node) : Prop where
  placed : ∃ s, n.span = some s ∧ InOrder s.start n.children s.stop
  tight : n.type = .listItem → ∀ p ∈ n.children, p.type = .paragraph → T p ∨ p.Hugs

/-- Every node of the tree sits around its children. -/
def Seated (T : Node → Prop) (n : Node) : Prop :=
  ∀ m ∈ n.walk, m.Sits T

theorem seated_iff {n : Node} : n.Seated T ↔ n.Sits T ∧ ∀ c ∈ n.children, c.Seated T :=
  forall_mem_walk

/-- A node that is no item is seated if its children are, in order inside its span. -/
theorem seated_of_type {n : Node} {s : Span} (htype : n.type ≠ .listItem)
    (hspan : n.span = some s) (horder : InOrder s.start n.children s.stop)
    (hchildren : ∀ c ∈ n.children, c.Seated T) : n.Seated T :=
  seated_iff.mpr ⟨⟨⟨s, hspan, horder⟩, fun h => absurd h htype⟩, hchildren⟩

/-- A leaf of running text, or of another kind that is no item, is seated if its span is not
    inverted. -/
theorem seated_leaf {kind : Kind} {s : Span} (htype : kind.type ≠ .listItem)
    (hle : s.start ≤ s.stop) : Seated T { kind, span := some s } :=
  seated_of_type htype rfl hle fun _ hc => absurd hc List.not_mem_nil

/-- A text that has grown is seated if it was: what it covers it covered before, too. -/
theorem seated_mergeText? {last n merged : Node} {s : Span} (h : last.mergeText? n = some merged)
    (hspan : n.span = some s) (hlast : last.Seated T) : merged.Seated T := by
  rcases seated_iff.mp hlast with ⟨⟨⟨a, ha, horder⟩, -⟩, hchildren⟩
  have hcover := span_mergeText? h ha hspan
  rcases mergeText?_eq_some h with ⟨value, incoming, span, -, -, rfl⟩
  refine seated_of_type (fun ht => NodeType.noConfusion ht) hcover (horder.mono ?_ ?_) hchildren
  · exact Nat.min_le_left _ _
  · exact Nat.le_max_left _ _

/-- Appending a seated node to seated siblings gives seated siblings. -/
theorem seated_appendMerged {cs : List Node} {n : Node} {s : Span} (hspan : n.span = some s)
    (hcs : ∀ c ∈ cs, c.Seated T) (hn : n.Seated T) : ∀ c ∈ appendMerged cs n, c.Seated T :=
  forall_mem_appendMerged (fun _ _ h => seated_mergeText? h hspan) hcs hn

end Node

namespace Frame

/-- A paragraph at the end of the children grows over what is put into it. -/
theorem growLast_cover (front : List Node) {paragraph n : Node} {a s : Span}
    (ha : paragraph.span = some a) (hs : n.span = some s) :
    growLast (front ++ [paragraph]) n =
      front ++ [{ paragraph with
        span := some (a.cover s), children := appendMerged paragraph.children n }] := by
  induction front with
  | nil => simp only [List.nil_append, growLast, ha, hs]
  | cons first front ih =>
      rcases List.exists_cons_of_ne_nil (List.append_ne_nil_of_right_ne_nil front
        (List.cons_ne_nil paragraph [])) with ⟨second, rest, hrest⟩
      rw [List.cons_append, hrest, growLast, ← hrest, ih, List.cons_append]

/-- A closed frame has the span that it had. -/
theorem span_toNode (f : Frame) : f.toNode.span = f.span := by
  unfold toNode
  split <;> rfl

/-- A closed frame has the children that it had, or none. -/
theorem children_toNode (f : Frame) :
    f.toNode.children = f.children ∨ f.toNode.children = [] := by
  unfold toNode
  split
  · exact .inr rfl
  · exact .inl rfl
  · exact .inl rfl
  · exact .inl rfl

/-- The element of the frame began at `lo` and ends at `stop`, and its finished children stand in
    order from `lo` to `pos`. The paragraphs among them satisfy `T`, apart from those that an item
    has put around content. If the item is to go on with the last of these, that is where the
    children end. -/
structure Holds (T : Node → Prop) (lo pos stop : Nat) (f : Frame) : Prop where
  bound : pos ≤ stop
  span : f.dissolves = false → f.span = some ⟨lo, stop⟩
  item : f.dissolves = true → f.isItem = false
  order : Node.InOrder lo f.children pos
  seated : ∀ c ∈ f.children, c.Seated T
  paragraphs : ∀ c ∈ f.children, c.type = .paragraph → T c ∨ f.isItem = true ∧ c.Hugs
  tight : f.tightParagraph = true → f.isItem = true ∧
    ∃ front p, f.children = front ++ [p] ∧ p.kind = .paragraph ∧ p.Hugs

namespace Holds

variable {T : Node → Prop} {lo pos stop : Nat} {f : Frame}

/-- The next event may begin later than it might. -/
theorem mono {pos' : Nat} (h : f.Holds T lo pos stop) (hpos : pos ≤ pos') (hstop : pos' ≤ stop) :
    f.Holds T lo pos' stop :=
  ⟨hstop, h.span, h.item, h.order.mono (Nat.le_refl lo) hpos, h.seated, h.paragraphs, h.tight⟩

/-- A frame that is just open holds nothing. -/
theorem of_open {s : Span} (hle : s.start ≤ s.stop) (hchildren : f.children = [])
    (htight : f.tightParagraph = false)
    (hspan : f.dissolves = true ∧ f.isItem = false ∨ f.dissolves = false ∧ f.span = some s) :
    f.Holds T s.start s.start s.stop := by
  refine ⟨hle, fun hd => ?_, fun hd => ?_, ?_, ?_, ?_, fun ht => ?_⟩
  · rcases hspan with ⟨hd', -⟩ | ⟨-, hspan⟩
    · rw [hd] at hd'
      cases hd'
    · exact hspan
  · rcases hspan with ⟨-, hitem⟩ | ⟨hd', -⟩
    · exact hitem
    · rw [hd] at hd'
      cases hd'
  · rw [hchildren]
    exact Nat.le_refl _
  · rw [hchildren]
    exact fun _ hc => absurd hc List.not_mem_nil
  · rw [hchildren]
    exact fun _ hc => absurd hc List.not_mem_nil
  · rw [htight] at ht
    cases ht

/-- A change of the kind that keeps an item an item changes nothing. -/
theorem withKind (h : f.Holds T lo pos stop) {kind : Kind} {tightParagraph : Bool}
    (hitem : isItem { f with kind } = f.isItem)
    (htight : tightParagraph = true → f.tightParagraph = true) :
    Holds T lo pos stop { f with kind, tightParagraph } := by
  have hitem' : isItem { f with kind, tightParagraph } = f.isItem := hitem
  refine ⟨h.bound, h.span, fun hd => hitem'.trans (h.item hd), h.order, h.seated, ?_, ?_⟩
  · rw [hitem']
    exact h.paragraphs
  · rw [hitem']
    exact fun ht => h.tight (htight ht)

/-- A closed frame is a node that has the range of its element and is seated there. -/
theorem toNode (h : f.Holds T lo pos stop) (hdissolves : f.dissolves = false) :
    f.toNode.span = some ⟨lo, stop⟩ ∧ f.toNode.Seated T := by
  have hspan : f.toNode.span = some ⟨lo, stop⟩ := f.span_toNode.trans (h.span hdissolves)
  refine ⟨hspan, Node.seated_iff.mpr ⟨⟨⟨_, hspan, ?_⟩, fun htype => ?_⟩, ?_⟩⟩
  · rcases f.children_toNode with hchildren | hchildren
    · rw [hchildren]
      exact h.order.mono (Nat.le_refl _) h.bound
    · rw [hchildren]
      exact Nat.le_trans h.order.le h.bound
  · intro p hp hparagraph
    rcases f.children_toNode with hchildren | hchildren
    · rcases h.paragraphs p (hchildren ▸ hp) hparagraph with ht | ⟨-, hhugs⟩
      · exact .inl ht
      · exact .inr hhugs
    · exact absurd (hchildren ▸ hp) List.not_mem_nil
  · rcases f.children_toNode with hchildren | hchildren
    · rw [hchildren]
      exact h.seated
    · rw [hchildren]
      exact fun _ hc => absurd hc List.not_mem_nil

section Append

variable (h : f.Holds T lo pos stop) {n : Node} {s : Span} (hspan : n.span = some s)
  (hpos : pos ≤ s.start) (hle : s.start ≤ s.stop) (hstop : s.stop ≤ stop) (hn : n.Seated T)
include h hspan hpos hle hstop hn

/-- A node among the children stands behind them, or the text that is last covers it. -/
theorem appendAmong (hparagraph : n.type = .paragraph → T n) {inline : Bool}
    (hcond : (inline && f.isItem) = false) :
    Holds T lo s.stop stop { f with
      children := appendMerged f.children n
      tightParagraph := f.tightParagraph && inline } := by
  refine ⟨hstop, h.span, h.item, h.order.appendMerged hspan hpos hle,
    Node.seated_appendMerged hspan h.seated hn, ?_, fun ht => ?_⟩
  · -- A text that has grown is no paragraph.
    refine forall_mem_appendMerged (fun last merged hmerge _ ht => ?_) h.paragraphs
      fun ht => .inl (hparagraph ht)
    rcases Node.mergeText?_eq_some hmerge with ⟨value, incoming, span, -, -, rfl⟩
    cases ht
  · -- Inline content of an item went another way.
    rw [Bool.and_eq_true] at ht
    rw [ht.2, (h.tight ht.1).1] at hcond
    cases hcond

/-- A paragraph around a node hugs it. -/
theorem appendWrapped (hitem : f.isItem = true) :
    Holds T lo s.stop stop { f with
      children := f.children ++ [{ kind := .paragraph, span := n.span, children := [n] }]
      tightParagraph := true } := by
  set p : Node := { kind := .paragraph, span := n.span, children := [n] } with hp
  have hhugs : p.Hugs := Node.Hugs.singleton rfl hspan hspan
  have hseated : p.Seated T := by
    refine Node.seated_of_type (fun ht => NodeType.noConfusion ht) hspan ?_ ?_
    · exact ⟨s, hspan, Nat.le_refl _, hle, Nat.le_refl _⟩
    · rw [hp, List.forall_mem_singleton]
      exact hn
  refine ⟨hstop, h.span, h.item, ?_, ?_, ?_, fun _ => ⟨hitem, f.children, p, rfl, rfl, hhugs⟩⟩
  · exact Node.InOrder.append_iff.mpr ⟨pos, h.order, s, hspan, hpos, hle, Nat.le_refl _⟩
  · rw [List.forall_mem_append, List.forall_mem_singleton]
    exact ⟨h.seated, hseated⟩
  · rw [List.forall_mem_append, List.forall_mem_singleton]
    exact ⟨h.paragraphs, fun _ => .inr ⟨hitem, hhugs⟩⟩

/-- The paragraph that a tight item goes on with still hugs its children when it has grown. -/
theorem appendGrown (htight : f.tightParagraph = true) :
    Holds T lo s.stop stop { f with children := growLast f.children n } := by
  rcases h.tight htight with ⟨hitem, front, p, hchildren, hkind, hhugs⟩
  rcases h with ⟨-, hspanf, hitemf, horder, hseated, hparagraphs, -⟩
  rw [hchildren] at horder hseated hparagraphs
  rw [List.forall_mem_append, List.forall_mem_singleton] at hseated hparagraphs
  rcases Node.InOrder.append_iff.mp horder with ⟨mid, hfront, a, ha, hmid, hale, haend⟩
  have haend : a.stop ≤ pos := haend
  rcases Node.seated_iff.mp hseated.2 with ⟨⟨⟨a', ha', hinner⟩, -⟩, hbelow⟩
  rw [ha, Option.some.injEq] at ha'
  subst ha'
  have hcover : a.cover s = ⟨a.start, s.stop⟩ := Span.cover_of_le (by omega) (by omega)
  rw [hchildren, growLast_cover front ha hspan, hcover]
  -- The last child grows to the end of the new one, and everything before it stays.
  set q : Node := { p with
    span := some ⟨a.start, s.stop⟩, children := appendMerged p.children n } with hq
  have hgrown : q.Hugs := hhugs.grow ha hinner hspan (by omega) hle
  have hqorder : Node.InOrder a.start q.children s.stop :=
    hinner.appendMerged hspan (by omega) hle
  have hqseated : q.Seated T := by
    refine Node.seated_of_type ?_ rfl hqorder (Node.seated_appendMerged hspan hbelow hn)
    rw [Node.type, hq, hkind]
    exact fun ht => NodeType.noConfusion ht
  refine ⟨hstop, hspanf, hitemf, ?_, ?_, ?_, fun _ => ⟨hitem, front, q, rfl, hkind, hgrown⟩⟩
  · exact Node.InOrder.append_iff.mpr
      ⟨mid, hfront, ⟨a.start, s.stop⟩, rfl, hmid, by dsimp only; omega, Nat.le_refl _⟩
  · rw [List.forall_mem_append, List.forall_mem_singleton]
    exact ⟨hseated.1, hqseated⟩
  · rw [List.forall_mem_append, List.forall_mem_singleton]
    exact ⟨hparagraphs.1, fun _ => .inr ⟨hitem, hgrown⟩⟩

/-- Appending a node moves the place where the next event may begin behind that node. -/
theorem append (hparagraph : n.type = .paragraph → T n) (inline : Bool) :
    (f.append n inline).Holds T lo s.stop stop := by
  unfold Frame.append
  split
  · next hcond =>
      rcases Bool.and_eq_true_iff.mp hcond with ⟨-, hitem⟩
      unfold appendTight
      split
      · next htight => exact h.appendGrown hspan hpos hle hstop hn htight
      · exact h.appendWrapped hspan hpos hle hstop hn hitem
  · next hcond =>
      exact h.appendAmong hspan hpos hle hstop hn hparagraph (Bool.eq_false_iff.mpr hcond)

end Append

end Holds

end Frame

/-- The invariant for all frames, innermost first, and for the root, which goes up to `size`. Of a
    frame further out it says how far its children go: up to where the element in front of it
    began. -/
inductive Stacked (T : Node → Prop) (size : Nat) : Window → List Frame → Frame → Prop
  | root {pos : Nat} {root : Frame} (hdissolves : root.dissolves = false)
      (h : root.Holds T 0 pos size) : Stacked T size ⟨pos, size, []⟩ [] root
  | frame {lo pos stop stop' : Nat} {outer : List Nat} {f : Frame} {rest : List Frame}
      {root : Frame} (h : f.Holds T lo pos stop) (hstop : stop ≤ stop')
      (hrest : Stacked T size ⟨lo, stop', outer⟩ rest root) :
      Stacked T size ⟨pos, stop, stop' :: outer⟩ (f :: rest) root

namespace Builder

/-- The invariant holds of the frames of the builder. -/
def Stands (T : Node → Prop) (size : Nat) (w : Window) (b : Builder) : Prop :=
  Stacked T size w b.frames b.root

variable {T : Node → Prop} {size : Nat} {w : Window} {b : Builder}

/-- When the innermost frame changes, it is the only one to look at. -/
theorem Stands.mapTop (h : b.Stands T size w) {g : Frame → Frame} {pos : Nat}
    (hdissolves : (g b.top).dissolves = b.top.dissolves)
    (hg : ∀ lo, b.top.Holds T lo w.pos w.stop → (g b.top).Holds T lo pos w.stop) :
    (b.mapTop g).Stands T size { w with pos } := by
  rcases b with ⟨source, frames, root⟩
  cases h with
  | root hroot h => exact .root (hdissolves.trans hroot) (hg 0 h)
  | frame h hstop hrest => exact .frame (hg _ h) hstop hrest

/-- The next event may begin later than it might. -/
theorem Stands.mono (h : b.Stands T size w) {pos : Nat} (hpos : w.pos ≤ pos)
    (hstop : pos ≤ w.stop) : b.Stands T size { w with pos } := by
  rw [← mapTop_self (b := b) (g := id) rfl]
  exact h.mapTop rfl fun _ hlo => hlo.mono hpos hstop

/-- Appending a node that stands in the window moves the window behind it. -/
theorem Stands.append (h : b.Stands T size w) {n : Node} {s : Span}
    (hspan : n.span = some s) (hs : w.Admits s) (hn : n.Seated T)
    (hparagraph : n.type = .paragraph → T n) (inline : Bool) :
    (b.append n inline).Stands T size { w with pos := s.stop } := by
  rcases hs with ⟨hpos, hle, hstop⟩
  refine h.mapTop ?_ fun _ hlo => hlo.append hspan hpos hle hstop hn hparagraph inline
  rcases Frame.append_eq b.top n inline with ⟨children, tight, heq⟩
  rw [heq]

/-- An event that is a node of its own is appended. -/
theorem Stands.leaf (h : b.Stands T size w) {kind : Kind} {s : Span}
    (hitem : kind.type ≠ .listItem) (hparagraph : kind.type ≠ .paragraph) (hs : w.Admits s)
    (inline : Bool) :
    (b.append { kind, span := some s } inline).Stands T size { w with pos := s.stop } :=
  h.append rfl hs (Node.seated_leaf hitem hs.2.1) (fun ht => absurd ht hparagraph) inline

/-- Siblings in order are appended one by one. -/
theorem Stands.appendAll (h : b.Stands T size w) {cs : List Node} {hi : Nat}
    (hcs : Node.InOrder w.pos cs hi) (hhi : hi ≤ w.stop) (hseated : ∀ c ∈ cs, c.Seated T)
    (hparagraphs : ∀ c ∈ cs, c.type = .paragraph → T c) :
    (cs.foldl (fun b n => b.append n n.kind.isInline) b).Stands T size { w with pos := hi } := by
  induction cs generalizing b w with
  | nil => exact h.mono hcs hhi
  | cons c cs ih =>
      rcases hcs with ⟨s, hspan, hpos, hle, hrest⟩
      rw [List.forall_mem_cons] at hseated hparagraphs
      have hs : w.Admits s := ⟨hpos, hle, Nat.le_trans hrest.le hhi⟩
      have hfirst := h.append hspan hs hseated.1 hparagraphs.1 c.kind.isInline
      exact ih (w := { w with pos := s.stop }) hfirst hrest hhi hseated.2 hparagraphs.2

/-- Opening an element opens a window of its own. -/
theorem Stands.openTag (h : b.Stands T size w) (tag : Tag) {s : Span}
    (hs : w.Admits s) : (b.openTag tag s).Stands T size ⟨s.start, s.stop, w.stop :: w.outer⟩ := by
  have hnoted : (if tag = .paragraph then b.mapTop Frame.noteParagraph else b).Stands T size w := by
    split
    · refine h.mapTop ?_ fun lo hlo => ?_
      · unfold Frame.noteParagraph
        split <;> rfl
      · unfold Frame.noteParagraph
        split
        · next hkind =>
            exact hlo.withKind (by rw [Frame.isItem, Frame.isItem, hkind])
              fun ht => Bool.noConfusion ht
        · exact hlo
    · exact h
  refine .frame (.of_open hs.2.1 ?_ ?_ ?_) hs.2.2 (hnoted.mono hs.1 (Nat.le_trans hs.2.1 hs.2.2))
  · cases tag <;> rfl
  · cases tag <;> rfl
  · cases tag <;> first | exact .inl ⟨rfl, rfl⟩ | exact .inr ⟨rfl, rfl⟩

/-- Closing an element goes back to the window around it, behind the element. -/
theorem Stands.closeTop {pos stop stop' : Nat} {outer : List Nat}
    (h : b.Stands T size ⟨pos, stop, stop' :: outer⟩) (hT : T b.top.toNode) :
    b.closeTop.Stands T size ⟨stop, stop', outer⟩ := by
  rcases b with ⟨source, frames, root⟩
  cases h with
  | @frame lo _ _ _ _ f rest _ h hstop hrest =>
      have hbelow : Stands T size ⟨lo, stop', outer⟩ ⟨source, rest, root⟩ := hrest
      unfold Builder.closeTop
      dsimp only
      split
      · next hdissolves =>
          -- What the element covered ends where its last child does, or later.
          have hpos : pos ≤ stop' := Nat.le_trans h.bound hstop
          refine (hbelow.appendAll h.order hpos h.seated fun c hc ht => ?_).mono h.bound hstop
          rcases h.paragraphs c hc ht with ht | ⟨hitem, -⟩
          · exact ht
          · rw [h.item hdissolves] at hitem
            cases hitem
      · next hdissolves =>
          rcases h.toNode (Bool.eq_false_iff.mpr hdissolves) with ⟨hspan, hseated⟩
          have hs : Window.Admits ⟨lo, stop', outer⟩ ⟨lo, stop⟩ :=
            ⟨Nat.le_refl lo, Nat.le_trans h.order.le h.bound, hstop⟩
          exact hbelow.append hspan hs hseated (fun _ => hT) _

/-- A piece of the value of a block is no node, and so it can stand anywhere there. -/
theorem Stands.absorbs (h : b.Stands T size w) {b' : Builder} {s : Span}
    (habsorbs : b.Absorbs s b') (hs : w.Admits s) :
    b'.Stands T size { w with pos := s.stop } := by
  cases habsorbs with
  | value hgoes =>
      have hfit : w.pos ≤ s.stop := Nat.le_trans hs.1 hs.2.1
      refine h.mapTop rfl fun lo hlo => (hlo.withKind ?_ id).mono hfit hs.2.2
      generalize hkind : b.top.kind = old at hgoes
      rw [Frame.isItem, Frame.isItem, hkind]
      cases hgoes <;> rfl
  | leaf hleaf =>
      cases hleaf <;>
        exact h.leaf (fun ht => NodeType.noConfusion ht) (fun ht => NodeType.noConfusion ht) hs true

/-- A task box is set in one of the frames, which stays an item. -/
theorem Stacked.markTask {frames : List Frame} {root : Frame}
    (h : Stacked T size w frames root) (checked : Bool) :
    Stacked T size w (Builder.markTask checked frames) root := by
  induction h with
  | root hdissolves h => exact .root hdissolves h
  | frame h hstop hrest ih =>
      unfold Builder.markTask
      split
      · next hkind =>
          refine .frame (h.withKind ?_ id) hstop hrest
          rw [Frame.isItem, Frame.isItem, hkind]
      · exact .frame h hstop ih

/-- An event that neither opens nor closes an element takes the place that it has. -/
theorem Stands.single (h : b.Stands T size w) {event : Event} {s : Span}
    (hstart : ∀ tag, event ≠ .start tag) (hclose : event ≠ .close) (hs : w.Admits s) :
    (b.push event s).Stands T size { w with pos := s.stop } := by
  have hfit : w.pos ≤ s.stop := Nat.le_trans hs.1 hs.2.1
  cases event with
  | start tag => exact absurd rfl (hstart tag)
  | close => exact absurd rfl hclose
  | text value => exact h.absorbs (b.absorbs_addText value s) hs
  | softBreak => exact h.absorbs (b.absorbs_addText "\n" s) hs
  | html value => exact h.absorbs (b.absorbs_addHtml value s) hs
  | task checked => exact Stacked.markTask (h.mono hfit hs.2.2) checked
  | inlineMath | displayMath | footnoteReference => exact h.mono hfit hs.2.2
  | code | inlineHtml | hardBreak | rule =>
      exact h.leaf (fun ht => NodeType.noConfusion ht) (fun ht => NodeType.noConfusion ht) hs _

/-- Every event that stands in the window keeps the invariant, for the window behind it. -/
theorem Stands.push {w' : Window} (h : b.Stands T size w) {event : Event} {s : Span}
    (hnext : w.next? event s = some w') (hT : event = .close → T b.top.toNode) :
    (b.push event s).Stands T size w' := by
  rcases Window.next?_cases hnext with ⟨tag, rfl, hs, rfl⟩ | ⟨rfl, stop, outer, houter, rfl⟩ |
    ⟨hstart, hclose, hs, rfl⟩
  · exact h.openTag tag hs
  · rcases w with ⟨pos, stop', outer'⟩
    dsimp only at houter
    subst houter
    exact h.closeTop (hT rfl)
  · exact h.single hstart hclose hs

/-- A stream keeps the invariant, if `T` holds of what its closing events hand on. The induction is
    on the events still to come, since a closing event hands on what the events before it have
    made. -/
theorem Stands.feed {source : String} {events : List (Event × Span)} {w' : Window}
    (hT : ∀ front s back, events = front ++ (.close, s) :: back →
      T ((new source).feed front).top.toNode) (rest : List (Event × Span)) :
    ∀ (front : List (Event × Span)) (w : Window), events = front ++ rest →
      ((new source).feed front).Stands T size w → w.after? rest = some w' →
      ((new source).feed events).Stands T size w' := by
  induction rest with
  | nil =>
      intro front w hevents h hafter
      rw [List.append_nil] at hevents
      rw [Window.after?_nil, Option.some.injEq] at hafter
      rw [hevents, ← hafter]
      exact h
  | cons e rest ih =>
      rcases e with ⟨event, s⟩
      intro front w hevents h hafter
      rw [Window.after?_cons, Option.bind_eq_some_iff] at hafter
      rcases hafter with ⟨w₁, hnext, hafter⟩
      have hpush : (((new source).feed front).push event s).Stands T size w₁ :=
        h.push hnext fun hclose => hT front s rest (hclose ▸ hevents)
      have hfront : (new source).feed (front ++ [(event, s)]) =
          ((new source).feed front).push event s := feed_append _ _ _
      refine ih (front ++ [(event, s)]) w₁ ?_ (hfront ▸ hpush) hafter
      rw [hevents, List.append_assoc, List.singleton_append]

end Builder

/-- The positions in the tree of a well-nested stream. The root has the whole source, every node is
    around its children, and those are in order. A paragraph of an item that no closing event has
    handed on was put around content, and it reaches exactly from the first of its children to the
    last. -/
theorem positions_ofEvents {source : String} {events : List (Event × Span)}
    (h : WellNested source events) :
    (Node.ofEvents source events).span = some ⟨0, Text.size source⟩ ∧
      ∀ n ∈ (Node.ofEvents source events).walk, n.IsPlaced ∧
        (n.type = .listItem → ∀ p ∈ n.children, p.type = .paragraph →
          HandsOn source events p ∨ p.Hugs) := by
  rcases h with ⟨w, hafter, houter⟩
  have hopen : (Builder.new source).root.Holds (HandsOn source events) 0 0 (Text.size source) :=
    .of_open (s := ⟨0, Text.size source⟩) (Nat.zero_le _) rfl rfl (.inr ⟨rfl, rfl⟩)
  have hstands : ((Builder.new source).feed events).Stands (HandsOn source events)
      (Text.size source) w :=
    Builder.Stands.feed (fun front s back h => ⟨front, s, back, h, rfl⟩) events [] _ rfl
      (.root rfl hopen) hafter
  rw [Builder.ofEvents_eq]
  generalize (Builder.new source).feed events = b at hstands ⊢
  rcases b with ⟨source', frames, root⟩
  rcases w with ⟨pos, stop, outer⟩
  subst houter
  -- The stream is balanced, so no frame is left but the root.
  cases hstands with
  | root hdissolves hroot =>
      rcases hroot.toNode hdissolves with ⟨hspan, hseated⟩
      refine ⟨hspan, fun n hn => ?_⟩
      rcases hseated n hn with ⟨⟨s, hs, horder⟩, htight⟩
      exact ⟨horder.isPlaced hs, htight⟩

/-- Two items. The text of the first goes on inside an element that dissolves and behind it, so
    that its paragraph reaches up to the emphasis. The second has a paragraph of its own behind
    the one that was put around its text. -/
theorem positions_ofEvents_two_items :
    let source := "- a ^b^ *c*\n- d\n\n  e\n"
    let events : List (Event × Span) :=
      [(.start (.list none), ⟨0, 21⟩),
        (.start .item, ⟨0, 12⟩), (.text "a ", ⟨2, 4⟩),
        (.start .superscript, ⟨4, 7⟩), (.text "b", ⟨5, 6⟩), (.close, ⟨4, 7⟩),
        (.text " ", ⟨7, 8⟩),
        (.start .emphasis, ⟨8, 11⟩), (.text "c", ⟨9, 10⟩), (.close, ⟨8, 11⟩), (.close, ⟨0, 12⟩),
        (.start .item, ⟨12, 21⟩), (.text "d", ⟨14, 15⟩),
        (.start .paragraph, ⟨19, 20⟩), (.text "e", ⟨19, 20⟩), (.close, ⟨19, 20⟩),
        (.close, ⟨12, 21⟩), (.close, ⟨0, 21⟩)]
    let tree := Node.ofEvents source events
    WellNested source events ∧
      (tree.walk.filter (·.type = .paragraph)).map Node.span =
        [some ⟨2, 11⟩, some ⟨14, 15⟩, some ⟨19, 20⟩] ∧
      tree.span = some ⟨0, Text.size source⟩ ∧
      ∀ n ∈ tree.walk, n.IsPlaced ∧ (n.type = .listItem → ∀ p ∈ n.children, p.type = .paragraph →
        HandsOn source events p ∨ p.Hugs) := by
  intro source events tree
  have hnested : WellNested source events := by decide +kernel
  refine ⟨hnested, ?_, positions_ofEvents hnested⟩
  decide +kernel

end Anchormark
