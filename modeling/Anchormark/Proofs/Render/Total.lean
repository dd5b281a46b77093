import Anchormark.Plugin.Standard
import Anchormark.Proofs.Render.Dispatch

/-!
# Rendering Does Not Fail

With the renderer for anchors registered there is one for every type of node, and none of them is
given a node of another type. So rendering fails nowhere, whatever the shape of the tree.

The renderer for anchors asks for nothing. The others put together what they ask for, and this is
there by induction.

## Main definitions

* `anchorHandlers`: The table that has a renderer for anchors, and nothing else.

## Theorems

* `exists_handler`: There is a renderer for every node.
* `render_ok`, `toMarkdown_ok`: Rendering does not fail.
-/

namespace Anchormark

/-- The table that has a renderer for anchors, and nothing else. -/
def anchorHandlers : Handlers :=
  Handlers.empty.register .anchor renderAnchor

/-- Of all types, anchors have a handler. -/
theorem contains_anchorHandlers {t : NodeType} :
    anchorHandlers.contains t = true ↔ t = .anchor := by
  cases t <;> decide

namespace Node

/-- There is a renderer for every node. -/
theorem exists_handler (n : Node) : ∃ handler, anchorHandlers.choose n.type = some handler := by
  cases n.type <;> exact ⟨_, rfl⟩

/-- An anchor has an answer. -/
theorem answer_anchor_ok (o : RenderOptions) {n : Node} (hn : n.type = .anchor) :
    ∃ out, anchorHandlers.answer o n = .ok out := by
  have hanswer : anchorHandlers.answer o n =
      renderAnchor o n (n.children.map (renderWith anchorHandlers.choose o)) := by
    rw [Handlers.answer, hn]
    rfl
  rw [type] at hn
  cases hkind : n.kind <;> rw [hkind] at hn <;> cases hn
  case anchor a => exact ⟨a.toMarkdown, by rw [hanswer, renderAnchor, hkind]; rfl⟩

/-- Rendering does not fail. The induction is along what is asked for. -/
theorem render_ok (o : RenderOptions) (n : Node) : ∃ out, n.render anchorHandlers o = .ok out := by
  induction n using induct_consulted with
  | h n ih =>
      by_cases hn : n.type = .anchor
      · rw [render_eq_answer _ o (.inr hn)]
        exact answer_anchor_ok o hn
      · have hfree : anchorHandlers.contains n.type = false :=
          Bool.eq_false_iff.mpr fun h => hn (contains_anchorHandlers.mp h)
        rcases assembles_unregistered o hn with ⟨assemble, hassemble⟩
        have hrender := hassemble ⟨anchorHandlers, hfree⟩
        rcases exists_mapM_eq_ok ih with ⟨outs, houts⟩
        dsimp only at hrender
        rw [houts] at hrender
        exact ⟨assemble outs, hrender⟩

/-- A document is written if its tree is: taking line feeds off the end always works. -/
theorem exists_toMarkdown {h : Handlers} {o : RenderOptions} {n : Node} {text : String}
    (htext : n.render h o = .ok text) : ∃ out, n.toMarkdown h o = .ok out := by
  rw [toMarkdown, htext]
  simp only [bind, Except.bind]
  split <;> exact ⟨_, rfl⟩

theorem toMarkdown_ok (o : RenderOptions) (n : Node) :
    ∃ out, n.toMarkdown anchorHandlers o = .ok out := by
  rcases render_ok o n with ⟨text, htext⟩
  exact exists_toMarkdown htext

end Node

end Anchormark
