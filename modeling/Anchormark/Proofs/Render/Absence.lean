import Anchormark.Proofs.Render.Visits

/-!
# Handlers Without Nodes

A handler is chosen by the type of a node. So a handler for a type that no node has is never chosen,
and it makes no difference whether it is registered: the two renderings, with it and without it, give
the same text or the same error.

A handler sees the options, its node, and the renderings of what is below the node. Whatever it
makes of these, it makes the same of the same renderings, and that is why nothing has to be known
about the handlers of a table: below one that is registered, all that counts is that no node has the
type. The built-in renderers ask for less than that. A list never asks for its items and a table
never for its rows, so these may even have the type, as long as they stand there and no registered
handler is above them.

## Main definitions

* `Node.Asks`: Rendering the one node may ask for the other.

## Theorems

* `Node.renderWith_congr`: Only the handlers for the types of a tree matter.
* `Node.Asks.mem_walk`: Nothing outside the tree is asked for.
* `Node.render_register_of_unasked`: A handler for a type that is never asked for.
* `render_register_of_absent`: A handler for a type that no node has.
-/

namespace Anchormark

namespace Node

/-- Rendering the first node may ask for the second, when there are handlers for the registered
    types. A handler may ask for anything below its node. -/
def Asks (registered : NodeType → Bool) : Node → Node → Prop :=
  Relation.ReflTransGen fun n m => if registered n.type then m ∈ n.walk else m ∈ n.consulted

/-- What the walk of a node visits, it visits with all that is below. -/
theorem mem_walk_trans {n m k : Node} (hm : m ∈ n.walk) (hk : k ∈ m.walk) : k ∈ n.walk := by
  induction n using induct with
  | h n ih =>
      rcases mem_walk_iff.mp hm with rfl | ⟨c, hc, hm⟩
      · exact hk
      · exact mem_walk_of_child hc (ih c hc hm)

/-- What a built-in renderer asks for is below its node. -/
theorem mem_walk_of_mem_consulted {n m : Node} (hm : m ∈ n.consulted) : m ∈ n.walk := by
  have hchild {p c : Node} (hc : c ∈ p.children) : c ∈ p.walk :=
    mem_walk_of_child hc (mem_walk_self c)
  unfold consulted at hm
  split at hm
  · exact absurd hm List.not_mem_nil
  · exact hchild hm
  · rcases List.mem_flatMap.mp hm with ⟨c, hc, hm⟩
    exact mem_walk_of_child hc (hchild hm)

/-- Nothing outside the tree is asked for. -/
theorem Asks.mem_walk {registered : NodeType → Bool} {n m : Node} (h : n.Asks registered m) :
    m ∈ n.walk := by
  induction h with
  | refl => exact mem_walk_self n
  | tail _ hstep ih =>
      split at hstep
      · exact mem_walk_trans ih hstep
      · exact mem_walk_trans ih (mem_walk_of_mem_consulted hstep)

/-- Only the handlers for the types of a tree matter, for the rendering as a whole. -/
theorem renderWith_congr {choose choose' : NodeType → Option Handler} (o : RenderOptions) {n : Node}
    (h : ∀ m ∈ n.walk, choose m.type = choose' m.type) :
    n.renderWith choose o = n.renderWith choose' o := by
  induction n using induct with
  | h n ih =>
      rcases forall_mem_walk.mp h with ⟨hself, hbelow⟩
      have hparts : renderAllWith choose o n.children = renderAllWith choose' o n.children := by
        rw [renderAllWith_eq_map, renderAllWith_eq_map]
        exact List.map_congr_left fun c hc => ih c hc (hbelow c hc)
      rcases n with ⟨kind, children, span, hint⟩
      rw [renderWith, renderWith, hparts, show choose kind.type = choose' kind.type from hself]

/-- A handler that is registered for another type leaves the choice as it was. -/
theorem choose_register_of_ne (h : Handlers) {type t : NodeType} (handler : Handler)
    (ht : t ≠ type) : (h.register type handler).choose t = h.choose t := by
  rw [Handlers.choose, Handlers.get?_register, if_neg ht]
  rfl

/-- A handler for a type that is never asked for changes nothing. The induction is along what
    built-in renderers ask for, and it ends at the nodes with handlers: all below them may be asked
    for, so their handlers are given the same renderings. -/
theorem render_register_of_unasked {n : Node} {h : Handlers} {type : NodeType}
    (hunasked : ∀ m, n.Asks h.contains m → m.type ≠ type) (handler : Handler) (o : RenderOptions) :
    n.render (h.register type handler) o = n.render h o := by
  induction n using induct_consulted with
  | h n ih =>
      have hself : n.type ≠ type := hunasked n .refl
      have hsame : (h.register type handler).contains n.type = h.contains n.type := by
        rw [Handlers.contains, Handlers.get?_register, if_neg hself]
        rfl
      by_cases hregistered : h.contains n.type = true
      · -- Any node below may be asked for, and none of them has the type.
        have hbelow : ∀ m ∈ n.walk,
            (h.register type handler).choose m.type = h.choose m.type := fun m hm =>
          choose_register_of_ne h handler (hunasked m (.single (by rwa [if_pos hregistered])))
        exact congrArg Rendering.output (renderWith_congr o hbelow)
      · rw [Bool.not_eq_true] at hregistered
        by_cases hanchor : n.type = .anchor
        · -- Nobody is in charge of it, with the handler or without.
          have hnone {h' : Handlers} (h'contains : h'.contains n.type = false) :
              n.render h' o = .error (.missingHandler n.type) := by
            have hget := Option.not_isSome_iff_eq_none.mp (Bool.eq_false_iff.mp h'contains)
            rw [render_eq_answer h' o (.inr hanchor), Handlers.answer, hget]
          rw [hnone hregistered, hnone (hsame.trans hregistered)]
        · rcases assembles_unregistered o hanchor with ⟨assemble, hassemble⟩
          have houtputs : ∀ m ∈ n.consulted,
              m.render (h.register type handler) o = m.render h o := by
            intro m hm
            refine ih m hm fun k hk => hunasked k (.head ?_ hk)
            rwa [hregistered, if_neg Bool.false_ne_true]
          have hbefore := hassemble ⟨h, hregistered⟩
          have hafter := hassemble ⟨h.register type handler, hsame.trans hregistered⟩
          dsimp only at hbefore hafter
          rw [hbefore, hafter, mapM_congr_left houtputs]

/-- A document is its tree as it is rendered. -/
theorem toMarkdown_of_render_eq {h h' : Handlers} {o : RenderOptions} {n : Node}
    (hrender : n.render h o = n.render h' o) : n.toMarkdown h o = n.toMarkdown h' o := by
  rw [toMarkdown, toMarkdown, hrender]

/-- A tree has no anchors exactly if no node has their type. -/
theorem anchors_eq_nil_iff {n : Node} : n.anchors = [] ↔ ∀ m ∈ n.walk, m.type ≠ .anchor := by
  rw [anchors, List.filterMap_eq_nil_iff]
  refine forall₂_congr fun m _ => ?_
  unfold type
  cases m.kind <;> simp [Kind.anchor?, Kind.type]

end Node

/-- A handler for a type that no node of the tree has changes nothing, whatever the table has, and
    whatever the handler does: the tree and the document have the same text or the same error. So
    the renderer for anchors changes nothing in a tree without anchors. -/
theorem render_register_of_absent (n : Node) (h : Handlers) (o : RenderOptions) :
    (∀ type, (∀ m ∈ n.walk, m.type ≠ type) → ∀ handler : Handler,
      n.render (h.register type handler) o = n.render h o ∧
        n.toMarkdown (h.register type handler) o = n.toMarkdown h o) ∧
    (n.anchors = [] → n.render (h.register .anchor renderAnchor) o = n.render h o ∧
      n.toMarkdown (h.register .anchor renderAnchor) o = n.toMarkdown h o) := by
  have habsent : ∀ type, (∀ m ∈ n.walk, m.type ≠ type) → ∀ handler : Handler,
      n.render (h.register type handler) o = n.render h o ∧
        n.toMarkdown (h.register type handler) o = n.toMarkdown h o := by
    intro type htype handler
    have hrender : n.render (h.register type handler) o = n.render h o :=
      Node.render_register_of_unasked (fun m hm => htype m hm.mem_walk) handler o
    exact ⟨hrender, Node.toMarkdown_of_render_eq hrender⟩
  exact ⟨habsent, fun hanchors => habsent .anchor (Node.anchors_eq_nil_iff.mp hanchors) _⟩

/-- A list of a paragraph has no item, so a handler for items changes nothing, although the list
    writes the paragraph as one. -/
theorem render_register_of_absent_item :
    let emphasis : Node := { kind := .emphasis, children := [Node.text "a"] }
    let list : Node := { kind := .list false none false, children := [Node.paragraph [emphasis]] }
    let h := Handlers.empty.register .emphasis Example.shout
    (∀ m ∈ list.walk, m.type ≠ .listItem) ∧ list.anchors = [] ∧
      list.render (h.register .listItem Example.describe) {} = list.render h {} ∧
      list.toMarkdown (h.register .anchor renderAnchor) {} = list.toMarkdown h {} ∧
      list.render h {} = .ok "-   A" := by
  intro emphasis list h
  have hitem : ∀ m ∈ list.walk, m.type ≠ .listItem := by decide
  have hanchors : list.anchors = [] := rfl
  rcases render_register_of_absent list h {} with ⟨habsent, hanchor⟩
  exact ⟨hitem, hanchors, (habsent .listItem hitem Example.describe).1, (hanchor hanchors).2,
    rfl⟩

end Anchormark
