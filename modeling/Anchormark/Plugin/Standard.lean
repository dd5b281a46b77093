import Anchormark.Attribute.Resolve
import Anchormark.Node.Anchoring
import Anchormark.Plugin.Basic

/-!
# The Standard Plugins

Two plugins make anchors work. The first resolves attribute blocks, which leaves identifiers on
the placeholders; the second replaces those placeholders by anchors and brings the renderer that
writes an anchor as `[](){#id}` again. The order matters: before blocks are resolved, no link has
an identifier.

## Main definitions

* `Anchor.toMarkdown`: an anchor as it is written.
* `renderAnchor`: the renderer for anchors.
* `attributesPlugin`, `anchorPlugin`, `standardPlugins`: the plugins.
-/

namespace Anchormark

/-- An empty link followed by the identifier in an attribute block. An anchor without an
    identifier is written as nothing. -/
def Anchor.toMarkdown (a : Anchor) : String :=
  if a.id.isEmpty then "" else "[]()" ++ "\x7b#" ++ a.id ++ "\x7d"

/-- The renderer for anchors. -/
def renderAnchor : Handler := fun _ n _ =>
  match n.kind with
  | .anchor a => return a.toMarkdown
  | _ => .error (.unexpectedNode .anchor n.type)

/-- Resolves attribute blocks. -/
def attributesPlugin : Plugin where
  name := "attributes"
  transform n source := (n.resolve source).1

/-- Replaces placeholders by anchors, and renders those. -/
def anchorPlugin : Plugin where
  name := "anchor"
  attach h := h.register .anchor renderAnchor
  transform n _ := n.placeAnchors.1

/-- Blocks are resolved before anchors are placed. -/
def standardPlugins : List Plugin :=
  [attributesPlugin, anchorPlugin]

end Anchormark
