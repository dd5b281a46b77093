import Anchormark.Proofs.Node.Walk
import Anchormark.Proofs.Render.Front

/-!
# What a Renderer Asks For

A built-in renderer puts the output of its node together from the outputs of other nodes. Which
these are depends on the type of the node only. Most renderers ask for the children. A list and a
table ask for the children of their children instead: the list writes its items and the table its
rows by themselves, whatever handlers there are for items and rows. The others ask for nothing.

So the output is a function of the outputs asked for, in their order, and an error among those is
the error of the node. The function knows the node and the options, and nothing of the handlers.
This is all that the rest of the theory has to know about the built-in renderers, since it follows
for one from how it is made of its parts.

## Main definitions

* `NodeType.reach`, `Node.consulted`: How deep a renderer looks, and what it sees there.
* `Reading`: Renderings of all nodes that go together.
* `Assembles`: Something is put together from the outputs of certain nodes.
* `Handlers.answer`: What a table has for a node by itself.

## Theorems

* `Node.induct_consulted`: Induction along what renderers ask for.
* `Assembles.append`, `Assembles.through`: How what is put together is made of parts.
* `Builtin.assembles`: Every built-in renderer puts together what it asks for.
* `Node.render_eq_answer`, `Node.assembles_unregistered`: What becomes of a node, for every table.
-/

namespace Anchormark

/-- How far below a node its built-in renderer looks. -/
inductive Reach
  | nothing
  | children
  | grandchildren
  deriving DecidableEq

/-- How far below its nodes the built-in renderer for a type looks. Anchors have none. -/
def NodeType.reach : NodeType → Reach
  | root | paragraph | heading | blockquote | listItem | tableRow | tableCell | emphasis | strong
  | delete | link => .children
  | list | table => .grandchildren
  | thematicBreak | code | html | text | inlineCode | hardBreak | image | anchor => .nothing

/-- The nodes that the built-in renderer asks for their outputs. -/
def Node.consulted (n : Node) : List Node :=
  match n.type.reach with
  | .nothing => []
  | .children => n.children
  | .grandchildren => n.children.flatMap Node.children

/-- Induction along what renderers ask for. Nothing that is asked for is further down than the
    children of the children. -/
@[elab_as_elim]
theorem Node.induct_consulted {P : Node → Prop} (h : ∀ n : Node, (∀ m ∈ n.consulted, P m) → P n)
    (n : Node) : P n := by
  have hboth : P n ∧ ∀ c ∈ n.children, P c := by
    induction n using Node.induct with
    | h n ih =>
        refine ⟨h n fun m hm => ?_, fun c hc => (ih c hc).1⟩
        unfold consulted at hm
        split at hm
        · exact absurd hm List.not_mem_nil
        · exact (ih m hm).1
        · rcases List.mem_flatMap.mp hm with ⟨c, hc, hm⟩
          exact (ih c hc).2 m hm
  exact hboth.1

/-- The parts of a rendering are the renderings of the children. -/
theorem Node.parts_renderWith (choose : NodeType → Option Handler) (o : RenderOptions) (n : Node) :
    (n.renderWith choose o).parts = n.children.map (renderWith choose o) := by
  rw [← renderAllWith_eq_map]
  cases n
  rfl

/-- A rendering for every node, such that the parts of a rendering are the renderings of the
    children. -/
structure Reading where
  /-- The rendering of a node. -/
  rendering : Node → Rendering
  node : ∀ n, (rendering n).node = n
  parts : ∀ n, (rendering n).parts = n.children.map rendering

/-- The output of a node in a reading. -/
def Reading.output (r : Reading) (n : Node) : Except RenderError String :=
  (r.rendering n).output

/-- The reading that handlers give. -/
def Reading.ofHandlers (h : Handlers) (o : RenderOptions) : Reading where
  rendering := Node.renderWith h.choose o
  node n := by
    cases n
    rfl
  parts := Node.parts_renderWith h.choose o

/-- Without a handler, a node has an error for its output. -/
theorem Node.output_renderWith_none {choose : NodeType → Option Handler} (o : RenderOptions)
    {n : Node} (h : choose n.type = none) :
    (n.renderWith choose o).output = .error (.missingHandler n.type) := by
  rcases n with ⟨kind, children, span, hint⟩
  rw [renderWith, Rendering.output, show choose kind.type = none from h]
  rfl

section Results

variable {α β γ δ ε ζ : Type}

/-- There are as many results as there are elements. -/
theorem length_of_mapM {f : α → Except ε β} {as : List α} {bs : List β}
    (h : as.mapM f = .ok bs) : bs.length = as.length := by
  induction as generalizing bs with
  | nil =>
      cases h
      rfl
  | cons a as ih =>
      rw [List.mapM_cons] at h
      cases ha : f a with
      | error e =>
          rw [ha] at h
          cases h
      | ok b =>
          cases has : as.mapM f with
          | error e =>
              rw [ha, has] at h
              cases h
          | ok bs' =>
              rw [ha, has] at h
              cases h
              rw [List.length_cons, List.length_cons, ih has]

/-- Results are the same if they are the same for every element. -/
theorem mapM_congr_left {f g : α → Except ε β} {as : List α} (h : ∀ a ∈ as, f a = g a) :
    as.mapM f = as.mapM g := by
  have hmap (k : α → Except ε β) : as.mapM k = (as.map k).mapM id := by
    rw [List.mapM_map]
    rfl
  rw [hmap f, hmap g, List.map_congr_left h]

/-- What is made of the results for one list and of those for another is made of the results for
    both: the first list says where these come apart. -/
theorem mapM_append_split (f : α → Except ε β) (as as' : List α) (k : List β → γ)
    (k' : List β → δ) (g : γ → δ → ζ) :
    (do let c ← k <$> as.mapM f; let d ← k' <$> as'.mapM f; pure (g c d)) =
      (fun bs => g (k (bs.take as.length)) (k' (bs.drop as.length))) <$> (as ++ as').mapM f := by
  rw [List.mapM_append]
  cases has : as.mapM f with
  | error e => rfl
  | ok bs =>
      cases as'.mapM f with
      | error e => rfl
      | ok bs' =>
          rw [← length_of_mapM has]
          simp only [bind, Except.bind, Functor.map, Except.map, pure, Except.pure,
            List.take_left, List.drop_left]

end Results

/-- What `k` gives is put together from the outputs of certain nodes, in their order, or is the
    first error among them. Only the outputs differ from one index to another. -/
def Assembles {ι α : Type} (out : ι → Node → Except RenderError String) (cs : List Node)
    (k : ι → Except RenderError α) : Prop :=
  ∃ assemble : List String → α, ∀ i, k i = assemble <$> cs.mapM (out i)

namespace Assembles

variable {ι κ α β γ : Type} {out : ι → Node → Except RenderError String} {cs ds : List Node}
  {k : ι → Except RenderError α} {l : ι → Except RenderError β}

/-- What asks for nothing is there. -/
theorem nothing (a : α) : Assembles out [] fun _ => .ok a :=
  ⟨fun _ => a, fun _ => rfl⟩

/-- The output of a node is made of itself. -/
theorem single (c : Node) : Assembles out [c] fun i => out i c := by
  refine ⟨fun outs => outs.headD "", fun i => ?_⟩
  dsimp only
  rw [List.mapM_cons, List.mapM_nil]
  cases out i c <;> rfl

theorem map (h : Assembles out cs k) (g : α → β) : Assembles out cs fun i => g <$> k i := by
  rcases h with ⟨assemble, h⟩
  refine ⟨g ∘ assemble, fun i => ?_⟩
  dsimp only
  rw [h i, comp_map]

/-- What holds at every index holds at those that come from others. -/
theorem comap (h : Assembles out cs k) (f : κ → ι) :
    Assembles (fun j => out (f j)) cs fun j => k (f j) := by
  rcases h with ⟨assemble, h⟩
  exact ⟨assemble, fun j => h (f j)⟩

/-- What is made of two things, one after the other, asks for what they ask for. -/
theorem append (hk : Assembles out cs k) (hl : Assembles out ds l) (g : α → β → γ) :
    Assembles out (cs ++ ds) fun i => (do let a ← k i; let b ← l i; pure (g a b)) := by
  rcases hk with ⟨assemble, hk⟩
  rcases hl with ⟨assemble', hl⟩
  refine ⟨fun outs => g (assemble (outs.take cs.length)) (assemble' (outs.drop cs.length)),
    fun i => ?_⟩
  rw [← mapM_append_split, ← hk i, ← hl i]

/-- What asks for outputs that are put together themselves asks for what these ask for. -/
theorem through {out' : ι → Node → Except RenderError String} {asks : Node → List Node}
    (h : Assembles out' cs k) (hcs : ∀ c ∈ cs, Assembles out (asks c) fun i => out' i c) :
    Assembles out (cs.flatMap asks) k := by
  have hall : Assembles out (cs.flatMap asks) fun i => cs.mapM (out' i) := by
    clear h
    induction cs with
    | nil => exact nothing []
    | cons c cs ih =>
        rw [List.forall_mem_cons] at hcs
        simp only [List.flatMap_cons, List.mapM_cons]
        exact hcs.1.append (ih hcs.2) List.cons
  rcases h with ⟨assemble, h⟩
  rw [funext h]
  exact hall.map assemble

theorem outputs (cs : List Node) :
    Assembles Reading.output cs fun r => Rendering.outputs (cs.map r.rendering) := by
  refine ⟨id, fun r => ?_⟩
  dsimp only
  rw [Rendering.outputs, List.mapM_map, id_map]
  rfl

theorem inline (cs : List Node) :
    Assembles Reading.output cs fun r => Rendering.inline (cs.map r.rendering) :=
  (outputs cs).map String.join

theorem blocks (separator : String) (cs : List Node) :
    Assembles Reading.output cs fun r => Builtin.blocks separator (cs.map r.rendering) := by
  simp only [Builtin.blocks, bind_pure_comp]
  exact (outputs cs).map _

/-- An item asks for its children, whatever its marker. -/
theorem item (o : RenderOptions) (marker : String) (n : Node) :
    Assembles Reading.output n.children fun r =>
      Builtin.item o marker n (n.children.map r.rendering) := by
  unfold Builtin.item
  cases n.kind <;> simp only [bind_pure_comp] <;> exact (blocks _ n.children).map _

/-- The items of a list ask for their children. -/
theorem items (o : RenderOptions) (ordered : Bool) (start : Option Nat) (i : Nat)
    (cs : List Node) : Assembles Reading.output (cs.flatMap Node.children) fun r =>
      Builtin.items o ordered start i (cs.map r.rendering) := by
  induction cs generalizing i with
  | nil => exact nothing []
  | cons c cs ih =>
      simp only [List.flatMap_cons, List.map_cons, Builtin.items, Reading.node, Reading.parts]
      exact (item o _ c).append (ih (i + 1)) List.cons

/-- The rows of a table ask for their children. -/
theorem rows (cs : List Node) : Assembles Reading.output (cs.flatMap Node.children) fun r =>
    (cs.map r.rendering).mapM fun row => Rendering.outputs row.parts := by
  induction cs with
  | nil => exact nothing []
  | cons c cs ih =>
      simp only [List.flatMap_cons, List.map_cons, List.mapM_cons, Reading.parts]
      exact (outputs c.children).append ih List.cons

end Assembles

namespace Builtin

/-- Every built-in renderer puts together what it asks for. The cases are the types of nodes, sorted
    by what their renderers ask for. -/
theorem assembles (o : RenderOptions) (n : Node) (hn : n.type ≠ .anchor) :
    ∃ handler, builtin n.type = some handler ∧
      Assembles Reading.output n.consulted fun r => handler o n (n.children.map r.rendering) := by
  have hinline := Assembles.inline n.children
  unfold Node.consulted
  cases hkind : n.kind <;> simp only [Node.type, hkind, Kind.type, NodeType.reach, builtin]
  case anchor => exact absurd (by rw [Node.type, hkind]; rfl) hn
  case root => exact ⟨_, rfl, Assembles.blocks _ _⟩
  case paragraph | tableCell | emphasis | strong | delete =>
    refine ⟨_, rfl, ?_⟩
    simp only [paragraph, tableCell, emphasis, strong, delete, bind_pure_comp]
    exact hinline.map _
  case blockquote =>
    refine ⟨_, rfl, ?_⟩
    simp only [blockquote, bind_pure_comp]
    exact (Assembles.blocks _ _).map _
  case heading | link =>
    -- The content is asked for before it is decided what becomes of it, so the decision is pure.
    refine ⟨_, rfl, ?_⟩
    simp only [heading, link, hkind, ← apply_ite pure, bind_pure_comp]
    exact hinline.map _
  case listItem => exact ⟨_, rfl, Assembles.item o _ n⟩
  case list ordered start spread =>
    refine ⟨_, rfl, ?_⟩
    simp only [list, hkind, bind_pure_comp]
    exact (Assembles.items o ordered start 0 n.children).map _
  case table =>
    refine ⟨_, rfl, ?_⟩
    simp only [table, hkind, bind_pure_comp]
    exact (Assembles.rows n.children).map _
  case tableRow =>
    refine ⟨_, rfl, ?_⟩
    simp only [tableRow, bind_pure_comp]
    exact (Assembles.outputs n.children).map _
  case thematicBreak | hardBreak => exact ⟨_, rfl, Assembles.nothing _⟩
  case code | html | text | inlineCode | image =>
    refine ⟨_, rfl, ?_⟩
    simp only [code, html, text, inlineCode, image, hkind]
    exact Assembles.nothing _

end Builtin

/-- What the table itself has for a node: what the handler for its type makes of it and of the
    renderings of its children, or the error if there is none. -/
def Handlers.answer (h : Handlers) (o : RenderOptions) (n : Node) : Except RenderError String :=
  match h.get? n.type with
  | some handler => handler o n (n.children.map (Node.renderWith h.choose o))
  | none => .error (.missingHandler n.type)

namespace Node

/-- A registered handler is in charge of its nodes, and nobody else of anchors. -/
theorem render_eq_answer (h : Handlers) (o : RenderOptions) {n : Node}
    (hn : h.contains n.type = true ∨ n.type = .anchor) : n.render h o = h.answer o n := by
  have hchoose : h.choose n.type = h.get? n.type := by
    unfold Handlers.choose
    rcases hn with hn | hn
    · rcases Option.isSome_iff_exists.mp hn with ⟨handler, hhandler⟩
      rw [hhandler]
      rfl
    · rw [hn]
      cases h.get? .anchor <;> rfl
  unfold render Handlers.answer
  cases hget : h.get? n.type with
  | some handler => exact output_renderWith o (hchoose.trans hget)
  | none => exact output_renderWith_none o (hchoose.trans hget)

/-- The other nodes are put together from what the built-in renderers ask for, and in the same way
    for all tables without a handler for their type. -/
theorem assembles_unregistered (o : RenderOptions) {n : Node} (hanchor : n.type ≠ .anchor) :
    Assembles (fun (h : {h : Handlers // h.contains n.type = false}) m => m.render h.1 o)
      n.consulted fun h => n.render h.1 o := by
  rcases Builtin.assembles o n hanchor with ⟨handler, hhandler, hassembles⟩
  have hrender : ∀ h : {h : Handlers // h.contains n.type = false}, n.render h.1 o =
      handler o n (n.children.map (Reading.ofHandlers h.1 o).rendering) := by
    rintro ⟨h, hn⟩
    have hchoose : h.choose n.type = some handler := by
      rw [Handlers.choose, Option.not_isSome_iff_eq_none.mp (Bool.eq_false_iff.mp hn), hhandler]
      rfl
    exact output_renderWith o hchoose
  rw [funext hrender]
  exact hassembles.comap fun h : {h : Handlers // h.contains n.type = false} =>
    Reading.ofHandlers h.1 o

end Node

end Anchormark
