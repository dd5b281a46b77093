import Anchormark.Plugin.Example
import Anchormark.Proofs.Render.Dispatch
import Mathlib.Logic.Relation

/-!
# Precedence of Registered Handlers

Rendering a tree goes down from what is asked for to what that asks for, and stops where the table
has a handler. The nodes where it stops are the front of the tree. The output of the tree is put
together from what the table has for the nodes of its front, by the built-in renderers of all that
stands above them. `Node.assembled` is that: it writes a tree whose registered nodes are said to
have certain texts. The way in which this is done does not depend on the handlers, but only on the
types they are registered for.

So a registered handler is in charge of all its nodes that are not below another registered node,
with one exception. A list that is written by its built-in renderer does not ask for its items, nor
a table for its rows, and no handler is asked about these.

## Main definitions

* `Node.Visits`: Rendering the one node asks for the other.
* `Node.Shows`: There are only containers without handlers above the node.
* `Node.front`: Where a handler or nobody is in charge.
* `Node.assembled`: What the built-in renderers make of texts for the registered nodes.

## Theorems

* `Node.mem_front`: The front is what is visited and left to the table.
* `Node.render_eq_assembled`: The output of a tree is assembled from the answers of the table.
* `Node.assembles_front`: What is assembled is put together from the texts at the front.
* `Node.visits_or_mem_children`: What is shown and not visited is an item or a row.
* `exists_assemble_front`: Registered handlers take precedence, except over lists and tables.
* `items_and_rows_not_dispatched`: The exception.
-/

namespace Anchormark

namespace Node

/-- Rendering the first node asks for the second, when there are handlers for the registered types.
    What the handlers ask for is up to them. -/
def Visits (registered : NodeType → Bool) : Node → Node → Prop :=
  Relation.ReflTransGen fun n m => registered n.type = false ∧ m ∈ n.consulted

/-- The second node is below the first, and all between are containers without a handler. -/
def Shows (registered : NodeType → Bool) : Node → Node → Prop :=
  Relation.ReflTransGen fun n c =>
    registered n.type = false ∧ n.type.reach ≠ .nothing ∧ c ∈ n.children

/-- What is asked for is smaller. -/
theorem sizeOf_lt_of_mem_consulted {n m : Node} (hm : m ∈ n.consulted) : sizeOf m < sizeOf n := by
  have hchild : ∀ {p c : Node}, c ∈ p.children → sizeOf c < sizeOf p := by
    rintro ⟨kind, children, span, hint⟩ c hc
    have hlt : sizeOf c < sizeOf children := List.sizeOf_lt_of_mem hc
    rw [mk.sizeOf_spec]
    omega
  unfold consulted at hm
  split at hm
  · exact absurd hm List.not_mem_nil
  · exact hchild hm
  · rcases List.mem_flatMap.mp hm with ⟨c, hc, hm⟩
    exact (hchild hm).trans (hchild hc)

/-- The first nodes on the ways down that a registered handler is in charge of, or nobody. -/
def front (registered : NodeType → Bool) (n : Node) : List Node :=
  if registered n.type = true ∨ n.type = .anchor then [n]
  else n.consulted.attach.flatMap fun m => front registered m.1
termination_by sizeOf n
decreasing_by exact sizeOf_lt_of_mem_consulted m.2

variable {registered : NodeType → Bool}

theorem front_of_registered {n : Node} (hn : registered n.type = true ∨ n.type = .anchor) :
    n.front registered = [n] := by
  rw [front, if_pos hn]

theorem front_of_not_registered {n : Node} (hn : ¬(registered n.type = true ∨ n.type = .anchor)) :
    n.front registered = n.consulted.flatMap (front registered) := by
  rw [front, if_neg hn, ← List.flatMap_map, List.attach_map_subtype_val]

/-- The front is what is visited and left to the table. The induction is along what is asked
    for. -/
theorem mem_front {n m : Node} : m ∈ n.front registered ↔
    n.Visits registered m ∧ (registered m.type = true ∨ m.type = .anchor) := by
  induction n using induct_consulted with
  | h n ih =>
      by_cases hn : registered n.type = true ∨ n.type = .anchor
      · rw [front_of_registered hn, List.mem_singleton]
        constructor
        · rintro rfl
          exact ⟨.refl, hn⟩
        · rintro ⟨hvisits, -⟩
          -- Nothing is asked for below a registered node, and below an anchor there is nothing.
          rcases hvisits.cases_head with rfl | ⟨c, ⟨hregistered, hc⟩, -⟩
          · rfl
          · rcases hn with hn | hn
            · rw [hn] at hregistered
              cases hregistered
            · rw [consulted, hn] at hc
              exact absurd hc List.not_mem_nil
      · rw [front_of_not_registered hn, List.mem_flatMap]
        constructor
        · rintro ⟨c, hc, hm⟩
          rcases (ih c hc).mp hm with ⟨hvisits, hm⟩
          exact ⟨.head ⟨Bool.eq_false_iff.mpr fun h => hn (.inl h), hc⟩ hvisits, hm⟩
        · rintro ⟨hvisits, hm⟩
          rcases hvisits.cases_head with rfl | ⟨c, ⟨-, hc⟩, hvisits⟩
          · exact absurd hm hn
          · exact ⟨c, hc, (ih c hc).mpr ⟨hvisits, hm⟩⟩

mutual

/-- Renders a tree whose registered nodes are said to have certain outputs, and anchors as well.
    All other nodes are written by their built-in renderers. -/
def assembling (o : RenderOptions) (registered : NodeType → Bool)
    (said : Node → Except RenderError String) : Node → Rendering
  | ⟨kind, children, span, hint⟩ =>
    let parts := assemblingAll o registered said children
    let node : Node := ⟨kind, children, span, hint⟩
    let output :=
      if registered kind.type = true ∨ kind.type = .anchor then said node
      else match builtin kind.type with
        | some handler => handler o node parts
        | none => .error (.missingHandler kind.type)
    .mk node output parts

/-- Renders several trees. -/
def assemblingAll (o : RenderOptions) (registered : NodeType → Bool)
    (said : Node → Except RenderError String) : List Node → List Rendering
  | [] => []
  | n :: rest => assembling o registered said n :: assemblingAll o registered said rest

end

/-- The output of a tree whose registered nodes are said to have certain outputs. -/
def assembled (o : RenderOptions) (registered : NodeType → Bool)
    (said : Node → Except RenderError String) (n : Node) : Except RenderError String :=
  (n.assembling o registered said).output

variable {o : RenderOptions} {said : Node → Except RenderError String}

theorem assemblingAll_eq_map (cs : List Node) :
    assemblingAll o registered said cs = cs.map (assembling o registered said) := by
  induction cs with
  | nil => rfl
  | cons c cs ih => rw [assemblingAll, ih, List.map_cons]

/-- What is said of a registered node is its output. -/
theorem assembled_of_registered {n : Node} (hn : registered n.type = true ∨ n.type = .anchor) :
    n.assembled o registered said = said n := by
  rcases n with ⟨kind, children, span, hint⟩
  exact if_pos hn

/-- The other nodes are written by their built-in renderers. -/
theorem assembled_of_not_registered {n : Node} {handler : Handler}
    (hn : ¬(registered n.type = true ∨ n.type = .anchor))
    (hhandler : builtin n.type = some handler) : n.assembled o registered said =
      handler o n (n.children.map (assembling o registered said)) := by
  rw [← assemblingAll_eq_map]
  rcases n with ⟨kind, children, span, hint⟩
  have hfree : ¬(registered kind.type = true ∨ kind.type = .anchor) := hn
  rw [assembled, assembling, Rendering.output, if_neg hfree,
    show builtin kind.type = some handler from hhandler]

/-- The reading in which the registered nodes have the outputs they are said to have. -/
def saying (o : RenderOptions) (registered : NodeType → Bool)
    (said : Node → Except RenderError String) : Reading where
  rendering := assembling o registered said
  node n := by
    cases n
    rfl
  parts n := by
    rw [← assemblingAll_eq_map]
    cases n
    rfl

/-- The output of a tree is assembled from what the handlers make of their nodes. The induction is
    along what renderers ask for: where it stops the table answers, and above the built-in
    renderers are given the same outputs on both sides. -/
theorem render_eq_assembled (h : Handlers) (o : RenderOptions) (n : Node) :
    n.render h o = n.assembled o h.contains (h.answer o) := by
  induction n using induct_consulted with
  | h n ih =>
      by_cases hn : h.contains n.type = true ∨ n.type = .anchor
      · rw [assembled_of_registered hn, render_eq_answer h o hn]
      · rcases Builtin.assembles o n fun hanchor => hn (.inr hanchor) with
          ⟨handler, hhandler, assemble, hassemble⟩
        have hget : h.get? n.type = none := by
          rw [← Option.not_isSome_iff_eq_none]
          exact fun hsome => hn (.inl hsome)
        -- Both sides are put together by the same renderer.
        have hrender : n.render h o = assemble <$> n.consulted.mapM fun m => m.render h o := by
          rw [render_builtin o hget hhandler]
          exact hassemble (Reading.ofHandlers h o)
        have hassembled : n.assembled o h.contains (h.answer o) =
            assemble <$> n.consulted.mapM fun m => m.assembled o h.contains (h.answer o) := by
          rw [assembled_of_not_registered hn hhandler]
          exact hassemble (saying o h.contains (h.answer o))
        rw [hrender, hassembled]
        exact congrArg (assemble <$> ·) (mapM_congr_left ih)

/-- What is assembled is put together from the texts at the front, in the same way whatever these
    are. -/
theorem assembles_front (o : RenderOptions) (registered : NodeType → Bool) (n : Node) :
    Assembles (fun said => said) (n.front registered) fun said =>
      n.assembled o registered said := by
  induction n using induct_consulted with
  | h n ih =>
      by_cases hn : registered n.type = true ∨ n.type = .anchor
      · rw [front_of_registered hn,
          funext fun _ => assembled_of_registered hn]
        exact Assembles.single n
      · rcases Builtin.assembles o n fun hanchor => hn (.inr hanchor) with
          ⟨handler, hhandler, hassembles⟩
        rw [front_of_not_registered hn,
          funext fun _ => assembled_of_not_registered hn hhandler]
        exact (hassembles.comap (saying o registered)).through ih

/-- What is shown and not visited stands directly in a list or a table, which is visited. -/
theorem visits_or_mem_children {n m : Node} (hm : n.Shows registered m) :
    n.Visits registered m ∨ ∃ l, n.Visits registered l ∧ registered l.type = false ∧
      l.type.reach = .grandchildren ∧ m ∈ l.children := by
  induction hm with
  | refl => exact .inl .refl
  | @tail m c _ hc ih =>
      rcases hc with ⟨hregistered, hreach, hc⟩
      rcases ih with hvisits | ⟨l, hvisits, hl, hgrand, hm⟩
      · cases hcase : m.type.reach with
        | nothing => exact absurd hcase hreach
        | children =>
            have hasked : c ∈ m.consulted := by rwa [consulted, hcase]
            exact .inl (.tail hvisits ⟨hregistered, hasked⟩)
        | grandchildren => exact .inr ⟨m, hvisits, hregistered, hcase, hc⟩
      · -- The node is an item or a row, and its children are asked for by the list or table.
        have hasked : c ∈ l.consulted := by
          rw [consulted, hgrand]
          exact List.mem_flatMap.mpr ⟨m, hm, hc⟩
        exact .inl (.tail hvisits ⟨hl, hasked⟩)

end Node

/-- Lists and tables are the ones that look deeper than their children. -/
theorem NodeType.reach_eq_grandchildren {t : NodeType} :
    t.reach = .grandchildren ↔ t = .list ∨ t = .table := by
  cases t <;> decide

/-- Registered handlers take precedence, except over lists and tables. The output of a tree is what
    the built-in renderers assemble from what the handlers make of their nodes. It is put together
    from the answers at the front, and in the same way whatever these are. Every registered node
    that is shown is at the front, or stands directly in a list or a table that is written by the
    built-in renderer. -/
theorem exists_assemble_front (h : Handlers) (o : RenderOptions) (n : Node) :
    n.render h o = n.assembled o h.contains (h.answer o) ∧
    (∃ assemble : List String → String, ∀ said : Node → Except RenderError String,
      n.assembled o h.contains said = assemble <$> (n.front h.contains).mapM said) ∧
    ∀ m, n.Shows h.contains m → h.contains m.type = true →
      m ∈ n.front h.contains ∨
        ∃ l, n.Visits h.contains l ∧ h.contains l.type = false ∧
          (l.type = .list ∨ l.type = .table) ∧ m ∈ l.children := by
  refine ⟨Node.render_eq_assembled h o n, Node.assembles_front o h.contains n, ?_⟩
  intro m hm hregistered
  rcases Node.visits_or_mem_children hm with hvisits | ⟨l, hvisits, hl, hreach, hm⟩
  · exact .inl (Node.mem_front.mpr ⟨hvisits, .inl hregistered⟩)
  · exact .inr ⟨l, hvisits, hl, NodeType.reach_eq_grandchildren.mp hreach, hm⟩

/-- The handler for strong text is in charge of one in an item of a list, and what it makes of it
    stands in the list. -/
theorem exists_assemble_front_strong :
    let h := Handlers.empty.register .strong Example.shout
    let strong : Node := { kind := .strong, children := [Node.text "a"] }
    let item : Node := { kind := .listItem false none, children := [Node.paragraph [strong]] }
    let list : Node := { kind := .list false none false, children := [item] }
    list.Shows h.contains strong ∧ h.contains strong.type = true ∧
      (strong ∈ list.front h.contains ∨
        ∃ l, list.Visits h.contains l ∧ h.contains l.type = false ∧
          (l.type = .list ∨ l.type = .table) ∧ strong ∈ l.children) ∧
      h.answer {} strong = .ok "A" ∧
      list.render h {} = list.assembled {} h.contains (h.answer {}) ∧
      list.assembled {} h.contains (h.answer {}) = .ok "-   A" := by
  intro h strong item list
  have hshows : list.Shows h.contains strong :=
    .head (b := item) ⟨rfl, by decide, List.mem_singleton_self _⟩ <|
      .head (b := Node.paragraph [strong]) ⟨rfl, by decide, List.mem_singleton_self _⟩ <|
        .head ⟨rfl, by decide, List.mem_singleton_self _⟩ .refl
  rcases exists_assemble_front h {} list with ⟨hrender, -, hfront⟩
  exact ⟨hshows, rfl, hfront strong hshows rfl, by decide +kernel, hrender, by decide +kernel⟩

/-- Whatever is registered for items and rows, a list writes its items by itself, and a table its
    rows, though the handler is in charge of the same item or row on its own. -/
theorem items_and_rows_not_dispatched :
    let text := Node.text "a"
    let item : Node := { kind := .listItem false none, children := [Node.paragraph [text]] }
    let list : Node := { kind := .list false none false, children := [item] }
    let itemHandlers := Handlers.empty.register .listItem Example.shout
    let cell : Node := { kind := .tableCell, children := [text] }
    let row : Node := { kind := .tableRow, children := [cell] }
    let table : Node := { kind := .table [.unset], children := [row] }
    let rowHandlers := Handlers.empty.register .tableRow Example.shout
    item.render itemHandlers {} = .ok "A" ∧ list.render itemHandlers {} = .ok "-   a" ∧
      row.render rowHandlers {} = .ok "A" ∧ table.render rowHandlers {} = .ok "| a |\n| - |" := by
  decide +kernel

end Anchormark
