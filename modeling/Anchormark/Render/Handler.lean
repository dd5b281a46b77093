import Anchormark.Render.Options

/-!
# Render Handlers

Rendering goes by the type of a node. A table may register a handler for any type, and a
registered handler takes precedence over the built-in one.

A handler sees the options, the node, and the renderings of the node's children. A rendering
keeps the renderings below it, because some renderers look deeper than their own children: a
table writes the contents of its cells, which are its grandchildren. Renderings are values, so a
handler that leaves one out of its output has done nothing with it, and an error inside it goes
unnoticed.

## Main definitions

* `Rendering`: a node, its output, and the renderings of its children.
* `Handler`: what renders nodes of a type.
* `Handlers`: a table of registered handlers.
* `Node.render`: the rendering of a tree.
-/

namespace Anchormark

/-- What became of a node: its output or error, and the renderings of its children. -/
inductive Rendering
  | mk (node : Node) (output : Except RenderError String) (parts : List Rendering)

namespace Rendering

/-- The node that was rendered. -/
def node : Rendering → Node
  | mk n _ _ => n

/-- Its output, or the error instead. -/
def output : Rendering → Except RenderError String
  | mk _ out _ => out

/-- The renderings of its children. -/
def parts : Rendering → List Rendering
  | mk _ _ ps => ps

/-- The outputs of several renderings, or the first error among them. -/
def outputs (rs : List Rendering) : Except RenderError (List String) :=
  rs.mapM output

/-- The outputs of several renderings, back to back. -/
def inline (rs : List Rendering) : Except RenderError String :=
  String.join <$> outputs rs

end Rendering

/-- Renders nodes of a type, given the renderings of their children. -/
abbrev Handler :=
  RenderOptions → Node → List Rendering → Except RenderError String

/-- The registered handlers, at most one for a type. -/
structure Handlers where
  /-- The handler for a type, if one is registered. -/
  get? : NodeType → Option Handler

namespace Handlers

/-- No handler is registered. -/
def empty : Handlers :=
  ⟨fun _ => none⟩

/-- Registers a handler for a type in place of any earlier one. -/
def register (h : Handlers) (type : NodeType) (handler : Handler) : Handlers :=
  ⟨fun t => if t = type then some handler else h.get? t⟩

/-- A handler is registered for the type. -/
def contains (h : Handlers) (type : NodeType) : Bool :=
  (h.get? type).isSome

/-- The types that have a handler. -/
def types (h : Handlers) : List NodeType :=
  NodeType.all.filter h.contains

/-- How many handlers are registered. -/
def size (h : Handlers) : Nat :=
  h.types.length

/-- No handler is registered. -/
def isEmpty (h : Handlers) : Bool :=
  h.types.isEmpty

theorem get?_register (h : Handlers) (type : NodeType) (handler : Handler) (t : NodeType) :
    (h.register type handler).get? t = if t = type then some handler else h.get? t := rfl

theorem mem_types {h : Handlers} {t : NodeType} : t ∈ h.types ↔ h.contains t = true := by
  simp [types, NodeType.mem_all]

end Handlers

mutual

/-- Renders a tree: each node by the handler that `choose` has for its type. -/
def Node.renderWith (choose : NodeType → Option Handler) (o : RenderOptions) : Node → Rendering
  | ⟨kind, children, span, hint⟩ =>
    let parts := Node.renderAllWith choose o children
    let node : Node := ⟨kind, children, span, hint⟩
    let output := match choose kind.type with
      | some handler => handler o node parts
      | none => .error (.missingHandler kind.type)
    .mk node output parts

/-- Renders several trees. -/
def Node.renderAllWith (choose : NodeType → Option Handler) (o : RenderOptions) :
    List Node → List Rendering
  | [] => []
  | n :: rest => Node.renderWith choose o n :: Node.renderAllWith choose o rest

end

end Anchormark
