import Anchormark.Proofs.Pipeline.Processing
import Anchormark.Proofs.Render.Visits

/-!
# When Rendering Fails

Without handlers of one's own there is one thing that can go wrong. No built-in renderer is ever
given a node of another type, since nodes are given to renderers by their type, and the types that
have none are the anchors. So a tree has an output unless an anchor is visited while nobody is in
charge of anchors.

With no handler at all, the front of a tree is made of the anchors that are visited, and the answer
is the same error at all of them. The output is put together from those answers, so it is there if
there are none, and is that error otherwise.

## Main definitions

* `FailsExactly`: There is an error exactly on a condition.

## Theorems

* `FailsExactly.map`: What becomes of a result does not matter.
* `failsExactly_mapM`: The first error of many that are alike.
* `Node.render_empty_failsExactly`: Rendering without handlers.
* `render_failsExactly`: Rendering fails exactly when an anchor is visited that nobody renders.
-/

namespace Anchormark

/-- The error comes exactly on the condition, and there is a result otherwise. -/
structure FailsExactly {ε α : Type} (e : ε) (P : Prop) (x : Except ε α) : Prop where
  error : P → x = .error e
  ok : ¬P → ∃ a, x = .ok a

section Results

variable {ε α β : Type} {e : ε} {P Q : Prop} {x : Except ε α}

/-- What becomes of a result does not matter. -/
theorem FailsExactly.map (h : FailsExactly e P x) (f : α → β) : FailsExactly e P (f <$> x) := by
  refine ⟨fun hP => ?_, fun hP => ?_⟩
  · rw [h.error hP]
    rfl
  · rcases h.ok hP with ⟨a, ha⟩
    exact ⟨f a, by rw [ha]; rfl⟩

theorem FailsExactly.congr (h : FailsExactly e P x) (hPQ : P ↔ Q) : FailsExactly e Q x :=
  ⟨fun hQ => h.error (hPQ.mpr hQ), fun hQ => h.ok fun hP => hQ (hPQ.mp hP)⟩

/-- If there is never a result, there is one for the list only if the list is empty. -/
theorem failsExactly_mapM {f : α → Except ε β} {as : List α} (h : ∀ a ∈ as, f a = .error e) :
    FailsExactly e (∃ a, a ∈ as) (as.mapM f) := by
  cases as with
  | nil => exact ⟨fun ⟨a, ha⟩ => absurd ha List.not_mem_nil, fun _ => ⟨[], rfl⟩⟩
  | cons a as =>
      refine ⟨fun _ => ?_, fun hnone => absurd ⟨a, List.mem_cons_self⟩ hnone⟩
      rw [List.mapM_cons, h a List.mem_cons_self]
      rfl

end Results

namespace Node

/-- An anchor is asked for when built-in renderers are in charge everywhere. -/
def VisitsAnchor (n : Node) : Prop :=
  ∃ m, n.Visits Handlers.empty.contains m ∧ m.type = .anchor

/-- Rendering without handlers fails on the anchors that are visited, and on nothing else. -/
theorem render_empty_failsExactly (o : RenderOptions) (n : Node) :
    FailsExactly (.missingHandler .anchor) n.VisitsAnchor (n.render .empty o) := by
  -- Nothing is registered, so what is at the front is an anchor.
  have hfront : ∀ m, m ∈ n.front Handlers.empty.contains ↔
      n.Visits Handlers.empty.contains m ∧ m.type = .anchor := by
    intro m
    rw [mem_front, or_iff_right (by exact Bool.false_ne_true)]
  have hanswers : FailsExactly (.missingHandler .anchor) n.VisitsAnchor
      ((n.front Handlers.empty.contains).mapM (Handlers.empty.answer o)) := by
    refine (failsExactly_mapM fun m hm => ?_).congr (exists_congr hfront)
    rw [Handlers.answer, ((hfront m).mp hm).2]
    rfl
  rcases assembles_front o Handlers.empty.contains n with ⟨assemble, hassemble⟩
  have hrender := (render_eq_assembled .empty o n).trans (hassemble (Handlers.empty.answer o))
  rw [hrender]
  exact hanswers.map assemble

/-- A document fails where its tree fails. -/
theorem toMarkdown_failsExactly {h : Handlers} {o : RenderOptions} {n : Node} {e : RenderError}
    {P : Prop} (hn : FailsExactly e P (n.render h o)) : FailsExactly e P (n.toMarkdown h o) := by
  refine ⟨fun hP => ?_, fun hP => ?_⟩
  · rw [toMarkdown, hn.error hP]
    rfl
  · rcases hn.ok hP with ⟨text, htext⟩
    exact exists_toMarkdown htext

end Node

/-- When rendering fails. Without handlers, or with the renderer for anchors alone, there is an
    output unless that renderer is missing and an anchor is visited, and then that is the error.
    So the standard plugins never fail to write a tree, be it read or rewritten. -/
theorem render_failsExactly :
    (∀ h : Handlers, h = .empty ∨ h = anchorHandlers → ∀ (o : RenderOptions) (n : Node),
      let fails := h.contains .anchor = false ∧ n.VisitsAnchor
      FailsExactly (.missingHandler .anchor) fails (n.render h o) ∧
        FailsExactly (.missingHandler .anchor) fails (n.toMarkdown h o)) ∧
    ∀ (options : PipelineOptions) (source : String) (events : List (Event × Span)),
      let p := Pipeline.installStandard { options }
      let n := Node.ofEvents source events
      (∃ text, p.stringify n = .ok text) ∧ ∃ text, p.stringify (p.run n source) = .ok text := by
  refine ⟨fun h hh o n => ?_, fun options source events => ?_⟩
  · have hrender : FailsExactly (.missingHandler .anchor)
        (h.contains .anchor = false ∧ n.VisitsAnchor) (n.render h o) := by
      rcases hh with rfl | rfl
      · exact (n.render_empty_failsExactly o).congr (and_iff_right rfl).symm
      · exact ⟨fun hfails => absurd hfails.1 (by decide), fun _ => n.render_ok o⟩
    exact ⟨hrender, Node.toMarkdown_failsExactly hrender⟩
  · exact ⟨Pipeline.stringify_ok options _, Pipeline.stringify_ok options _⟩

/-- An anchor in an item of a list is visited, and one below the description of an image is not. -/
theorem render_failsExactly_list_and_image :
    let anchor : Node := { kind := .anchor { id := "x" } }
    let item : Node := { kind := .listItem false none, children := [anchor] }
    let list : Node := { kind := .list false none false, children := [item] }
    let image : Node := { kind := .image "u" none "i", children := [anchor] }
    (Handlers.empty = .empty ∨ Handlers.empty = anchorHandlers) ∧
      list.VisitsAnchor ∧ list.render .empty {} = .error (.missingHandler .anchor) ∧
      ¬image.VisitsAnchor ∧ ∃ text, image.toMarkdown .empty {} = .ok text := by
  intro anchor item list image
  have hh : Handlers.empty = .empty ∨ Handlers.empty = anchorHandlers := .inl rfl
  have hlist : list.VisitsAnchor := ⟨anchor, .single ⟨rfl, List.mem_singleton_self _⟩, rfl⟩
  have himage : ¬image.VisitsAnchor := by
    rintro ⟨m, hvisits, hm⟩
    rcases hvisits.cases_head with rfl | ⟨c, ⟨-, hc⟩, -⟩
    · cases hm
    · exact absurd hc List.not_mem_nil
  refine ⟨hh, hlist, ?_, himage, ?_⟩
  · exact (render_failsExactly.1 .empty hh {} list).1.error ⟨rfl, hlist⟩
  · exact (render_failsExactly.1 .empty hh {} image).2.ok fun hfails => himage hfails.2

end Anchormark
